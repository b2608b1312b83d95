import Pr0xteus.Proof.StartOrder
import Pr0xteus.Supervisor

/-!
# What a turn of the service manager does

One rule for each turn, with its guard. Every invariant below is proved from these rules: where `Run`
is in the groups and what it has launched, who holds `startGroupsMu`, and who is inside `stopOnce`.
-/

namespace Pr0xteus.ServiceManager

open GoTime Transition

variable {i j : Nat} {a : Action}

/-! ## The rules -/

/-- The turns of `Run`. -/
inductive RunStep (services : Services) (s : State) : State → Prop
  | instantiated (h : s.run = .instantiateAll) : RunStep services s { s with run := .storeCancel }
  | factoryError (err : Err) (h : s.run = .instantiateAll) :
      RunStep services s
        { s with run := .returned (wrap (some err) "failed to instantiate services") }
  | storeCancel (h : s.run = .storeCancel) :
      RunStep services s { s with cancelStored := true, run := .resolveOrder }
  | noServices (h : s.run = .resolveOrder) :
      RunStep services s { s with run := .callStop (some (.sentinel .noEnabledServices)) }
  | resolved (groups : List Group) (h : s.run = .resolveOrder)
      (horder : IsStartOrder services groups) :
      RunStep services s { s with groups := groups, run := .lockGroups }
  | unresolved (err : Err) (h : s.run = .resolveOrder) :
      RunStep services s
        { s with run := .callStop (wrap (some err) "failed to resolve service order") }
  | lockGroups (h : s.run = .lockGroups) (hfree : s.startGroupsMu = .free) :
      RunStep services s { s with startGroupsMu := .locked, run := .startGroup 0 }
  | nextGroup (i : Nat) (h : s.run = .startGroup i) (hi : i < s.groups.length)
      (hfailure : s.failure = false) : RunStep services s { s with run := .launch i 0 }
  | lastGroup (i : Nat) (h : s.run = .startGroup i) :
      RunStep services s { s with run := .unlockGroups }
  | launch (i k : Nat) (svc : Service) (h : s.run = .launch i k)
      (hsvc : (s.group i)[k]? = some svc) :
      RunStep services s
        { s with goroutines := s.goroutines ++ [⟨svc, .created⟩], run := .launch i (k + 1) }
  | launched (i k : Nat) (h : s.run = .launch i k) (hnone : (s.group i)[k]? = none) :
      RunStep services s { s with run := .awaitLaunched i }
  | awaited (i : Nat) (h : s.run = .awaitLaunched i) :
      RunStep services s { s with run := .waitGroupReady i 0 }
  | waited (i k : Nat) (svc : Service) (h : s.run = .waitGroupReady i k)
      (hsvc : (s.group i)[k]? = some svc)
      (hready : svc.readyNotifier = false ∨ svc.name ∈ s.ready ∨
        ∃ g, s.starting k = some g ∧ (g.pc = .exited ∨ g.pc = .done)) :
      RunStep services s { s with run := .waitGroupReady i (k + 1) }
  | waitedAll (i k : Nat) (h : s.run = .waitGroupReady i k) (hnone : (s.group i)[k]? = none) :
      RunStep services s { s with run := .record i }
  | abandoned (i k : Nat) (h : s.run = .waitGroupReady i k)
      (hwhy : s.failure = true ∨ s.ctxDone = true) : RunStep services s { s with run := .record i }
  | record (i : Nat) (h : s.run = .record i) :
      RunStep services s
        { s with startGroups := s.startGroups ++ [s.group i], run := .startGroup (i + 1) }
  | unlockGroups (h : s.run = .unlockGroups) :
      RunStep services s { s with startGroupsMu := .free, run := .select }
  | contextDone (h : s.run = .select) (hdone : s.ctxDone = true) :
      RunStep services s { s with run := .callStop none }
  | received (err : Option Err) (h : s.run = .select) (herr : s.errCh = some err) :
      RunStep services s { s with errCh := none, run := .callStop (wrap err "service failed") }
  | callStop (result : Option Err) (h : s.run = .callStop result) :
      RunStep services s
        { s with stops := s.stops ++ [.cancel], run := .stopping result s.stops.length }
  | stopped (result : Option Err) (j : Nat) (h : s.run = .stopping result j)
      (hreturned : s.stops[j]? = some .returned) :
      RunStep services s { s with run := .waitServices result }
  | servicesDone (result : Option Err) (h : s.run = .waitServices result)
      (hdone : ∀ g ∈ s.goroutines, g.pc = .done) :
      RunStep services s { s with run := .closeErrCh result }
  | closeErrCh (result : Option Err) (h : s.run = .closeErrCh result) :
      RunStep services s { s with closed := true, run := .cancel result }
  | cancel (result : Option Err) (h : s.run = .cancel result) :
      RunStep services s { s with cancelled := true, run := .returned result }

/-- The turns of a call of `Stop`. -/
inductive StopStep (s : State) (j : Nat) : State → Prop
  | cancel (h : s.stops[j]? = some .cancel) :
      StopStep s j
        { s with cancelled := s.cancelled || s.cancelStored, stops := s.stops.set j .once }
  | enter (h : s.stops[j]? = some .once) (hfresh : s.stopOnce = .fresh) :
      StopStep s j { s with stopOnce := .running, stops := s.stops.set j .rlock }
  | late (h : s.stops[j]? = some .once) (hfinished : s.stopOnce = .finished) :
      StopStep s j { s with stops := s.stops.set j .returned }
  | rlock (h : s.stops[j]? = some .rlock) (hfree : s.startGroupsMu ≠ .locked) :
      StopStep s j
        { s with
          startGroupsMu := .rlocked
          stops := s.stops.set j (.stopGroup s.startGroups.length) }
  | stoppedAll (h : s.stops[j]? = some (.stopGroup 0)) :
      StopStep s j { s with stops := s.stops.set j .runlock }
  | stopGroup (n : Nat) (h : s.stops[j]? = some (.stopGroup (n + 1))) :
      StopStep s j
        { s with
          stoppers := s.stoppers ++
            (s.startGroups[n]?.getD []).map fun svc => { group := n, service := svc }
          stops := s.stops.set j (.waitGroup n) }
  | waitedGroup (n : Nat) (h : s.stops[j]? = some (.waitGroup n))
      (hended : ∀ st ∈ s.stoppers, st.group = n → st.ended = true) :
      StopStep s j { s with stops := s.stops.set j (.stopGroup n) }
  | runlock (h : s.stops[j]? = some .runlock) :
      StopStep s j { s with startGroupsMu := .free, stops := s.stops.set j .finish }
  | finish (h : s.stops[j]? = some .finish) :
      StopStep s j { s with stopOnce := .finished, stops := s.stops.set j .returned }

inductive Step (services : Services) (s : State) : Action → State → Prop
  | startRun (h : s.run = .idle) : Step services s .startRun { s with run := .instantiateAll }
  | run {answer : Answer} {t : State} (h : RunStep services s t) : Step services s (.run answer) t
  | service {n : Nat} {answer : Answer} {g : Goroutine} {pc : ServicePc}
      (hg : s.goroutines[n]? = some g) (hnext : g.pc.next s.ctxDone g.service answer = some pc) :
      Step services s (.service n answer)
        { g.pc.effect g.service s with goroutines := s.goroutines.set n ⟨g.service, pc⟩ }
  | ready (name : String) : Step services s (.ready name) { s with ready := name :: s.ready }
  | cancelParent : Step services s .cancelParent { s with parentDone := true }
  | callStop : Step services s .callStop { s with stops := s.stops ++ [.cancel] }
  | stop {j : Nat} {t : State} (h : StopStep s j t) : Step services s (.stop j) t
  | stopper {k : Nat} {event : StopperEvent} {st st' : Stopper} (hst : s.stoppers[k]? = some st)
      (hnext : st.next event = some st') :
      Step services s (.stopper k event) { s with stoppers := s.stoppers.set k st' }

section Inversion

variable {services : Services} {s t : State}

theorem waitStep_cases {i k : Nat} {svc : Service} {answer : Answer} {pc : RunPc}
    (h : waitStep s i k svc answer = some pc) :
    (pc = .waitGroupReady i (k + 1) ∧ (svc.name ∈ s.ready ∨
      ∃ g, s.starting k = some g ∧ (g.pc = .exited ∨ g.pc = .done))) ∨
    (pc = .record i ∧ (s.failure = true ∨ s.ctxDone = true)) := by
  unfold waitStep at h
  split at h <;> simp only [Option.ite_none_right_eq_some, Option.some.injEq, reduceCtorEq] at h
  · exact .inl ⟨h.2.symm, .inl h.1⟩
  · obtain ⟨hexited, rfl⟩ := h
    refine .inl ⟨rfl, .inr ?_⟩
    cases hg : s.starting k with
    | none => simp [hg] at hexited
    | some g =>
        refine ⟨g, rfl, ?_⟩
        rw [hg, Option.any_some] at hexited
        cases hpc : g.pc <;> simp [hpc] at hexited ⊢
  · exact .inr ⟨h.2.symm, .inl h.1⟩
  · exact .inr ⟨h.2.symm, .inr h.1⟩

theorem runStep_cases {answer : Answer} (h : runStep services s answer = some t) :
    RunStep services s t := by
  unfold runStep at h
  split at h
  case h_1 hrun => cases h; exact .instantiated hrun
  case h_2 hrun => cases h; exact .factoryError _ hrun
  case h_3 hrun => cases h; exact .storeCancel hrun
  case h_4 ranged ranged' hrun =>
    split at h
    · cases h
      exact .noServices hrun
    · split at h
      · next hperm =>
          rw [List.isPerm_iff, List.isPerm_iff] at hperm
          split at h
          · next groups hgroups =>
              cases h
              exact .resolved groups hrun (isStartOrder_of_resolveOrder hperm.1 hperm.2 hgroups)
          · cases h
            exact .unresolved _ hrun
          · cases h
      · cases h
  case h_5 hrun =>
    split at h
    · next hfree =>
        cases h
        exact .lockGroups hrun hfree
    · cases h
  case h_6 i hrun =>
    cases h
    split
    · next hgo => exact .nextGroup i hrun hgo.1 (by simpa using hgo.2)
    · exact .lastGroup i hrun
  case h_7 i k hrun =>
    split at h
    · next svc hsvc =>
        cases h
        exact .launch i k svc hrun hsvc
    · next hnone =>
        cases h
        exact .launched i k hrun hnone
  case h_8 i hrun =>
    split at h
    · cases h
      exact .awaited i hrun
    · cases h
  case h_9 _ i k hrun =>
    split at h
    · next hnone =>
        cases h
        exact .waitedAll i k hrun hnone
    · next svc hsvc =>
        split at h
        · obtain ⟨pc, hpc, rfl⟩ := Option.map_eq_some_iff.mp h
          obtain ⟨rfl, hready⟩ | ⟨rfl, hwhy⟩ := waitStep_cases hpc
          · exact .waited i k svc hrun hsvc (.inr hready)
          · exact .abandoned i k hrun hwhy
        · next hnotifier =>
            cases h
            exact .waited i k svc hrun hsvc (.inl (by simpa using hnotifier))
  case h_10 i hrun => cases h; exact .record i hrun
  case h_11 hrun => cases h; exact .unlockGroups hrun
  case h_12 hrun =>
    split at h
    · next hdone =>
        cases h
        exact .contextDone hrun hdone
    · cases h
  case h_13 hrun =>
    obtain ⟨err, herr, rfl⟩ := Option.map_eq_some_iff.mp h
    exact .received err hrun herr
  case h_14 result hrun => cases h; exact .callStop result hrun
  case h_15 result j hrun =>
    split at h
    · next hreturned =>
        cases h
        exact .stopped result j hrun hreturned
    · cases h
  case h_16 result hrun =>
    split at h
    · next hdone =>
        cases h
        exact .servicesDone result hrun (by simpa using hdone)
    · cases h
  case h_17 result hrun => cases h; exact .closeErrCh result hrun
  case h_18 result hrun => cases h; exact .cancel result hrun
  case h_19 => cases h

theorem stopStep_cases (h : stopStep s j = some t) : StopStep s j t := by
  unfold stopStep at h
  split at h
  case h_1 hpc => cases h; exact .cancel hpc
  case h_2 hpc =>
    split at h
    · next hfresh => cases h; exact .enter hpc hfresh
    · cases h
    · next hfinished => cases h; exact .late hpc hfinished
  case h_3 hpc =>
    split at h
    · cases h
    · next hfree => cases h; exact .rlock hpc hfree
  case h_4 hpc => cases h; exact .stoppedAll hpc
  case h_5 n hpc => cases h; exact .stopGroup n hpc
  case h_6 n hpc =>
    split at h
    · next hended =>
        cases h
        refine .waitedGroup n hpc fun st hst hgroup => ?_
        have hst := List.all_eq_true.mp hended st hst
        simpa [hgroup] using hst
    · cases h
  case h_7 hpc => cases h; exact .runlock hpc
  case h_8 hpc => cases h; exact .finish hpc
  case h_9 => cases h
  case h_10 => cases h

theorem step_cases (h : step services s a = some t) : Step services s a t := by
  cases a with
  | startRun =>
      simp only [step, Option.ite_none_right_eq_some, Option.some.injEq] at h
      exact h.2 ▸ .startRun h.1
  | run answer => exact .run (runStep_cases h)
  | service n answer =>
      simp only [step, serviceStep] at h
      split at h
      · cases h
      · next g hg =>
          obtain ⟨pc, hnext, rfl⟩ := Option.map_eq_some_iff.mp h
          exact .service hg hnext
  | ready name => cases h; exact .ready name
  | cancelParent => cases h; exact .cancelParent
  | callStop => cases h; exact .callStop
  | stop j => exact .stop (stopStep_cases h)
  | stopper k event =>
      simp only [step, stopperStep] at h
      split at h
      · cases h
      · next st hst =>
          obtain ⟨st', hnext, rfl⟩ := Option.map_eq_some_iff.mp h
          exact .stopper hst hnext

end Inversion

/-! ## What the goroutine of a service leaves alone -/

namespace ServicePc

variable (pc : ServicePc) (svc : Service) (s : State)

theorem effect_eq : pc.effect svc s =
    { s with
      errCh := (pc.effect svc s).errCh
      failure := (pc.effect svc s).failure
      crashed := (pc.effect svc s).crashed } := by
  cases pc <;> try rfl
  simp only [effect, State.report]
  split
  · rfl
  · split
    · rfl
    · split <;> rfl

@[simp] theorem effect_parentDone : (pc.effect svc s).parentDone = s.parentDone := by rw [effect_eq]
@[simp] theorem effect_cancelStored : (pc.effect svc s).cancelStored = s.cancelStored := by
  rw [effect_eq]
@[simp] theorem effect_cancelled : (pc.effect svc s).cancelled = s.cancelled := by rw [effect_eq]
@[simp] theorem effect_stopOnce : (pc.effect svc s).stopOnce = s.stopOnce := by rw [effect_eq]
@[simp] theorem effect_startGroupsMu : (pc.effect svc s).startGroupsMu = s.startGroupsMu := by
  rw [effect_eq]
@[simp] theorem effect_startGroups : (pc.effect svc s).startGroups = s.startGroups := by
  rw [effect_eq]
@[simp] theorem effect_groups : (pc.effect svc s).groups = s.groups := by rw [effect_eq]
@[simp] theorem effect_closed : (pc.effect svc s).closed = s.closed := by rw [effect_eq]
@[simp] theorem effect_ready : (pc.effect svc s).ready = s.ready := by rw [effect_eq]
@[simp] theorem effect_run : (pc.effect svc s).run = s.run := by rw [effect_eq]
@[simp] theorem effect_stops : (pc.effect svc s).stops = s.stops := by rw [effect_eq]
@[simp] theorem effect_stoppers : (pc.effect svc s).stoppers = s.stoppers := by rw [effect_eq]

end ServicePc

theorem map_service_set {l : List Goroutine} {n : Nat} {g : Goroutine} (hg : l[n]? = some g)
    (pc : ServicePc) :
    (l.set n ⟨g.service, pc⟩).map Goroutine.service = l.map Goroutine.service := by
  obtain ⟨hn, rfl⟩ := List.getElem?_eq_some_iff.mp hg
  have hlt : n < (l.map Goroutine.service).length := by rwa [List.length_map]
  have hself : (l.map Goroutine.service).set n (l.map Goroutine.service)[n] =
      l.map Goroutine.service := List.set_getElem_self hlt
  rw [List.map_set]
  rwa [List.getElem_map] at hself

/-! ## Starting the groups -/

/-- `Run` has not come to `runServiceGroups`. -/
def RunPc.early : RunPc → Bool
  | .idle | .instantiateAll | .storeCancel | .resolveOrder | .lockGroups => true
  | _ => false

/-- `Run` is in `runServiceGroups`, with `startGroupsMu` locked. -/
def RunPc.starting : RunPc → Bool
  | .startGroup _ | .launch _ _ | .awaitLaunched _ | .waitGroupReady _ _ | .record _
  | .unlockGroups => true
  | _ => false

/-- The group that `Run` has begun to launch and has not recorded. -/
def RunPc.opened : RunPc → Option Nat
  | .launch i _ | .awaitLaunched i | .waitGroupReady i _ | .record i => some i
  | _ => none

/-- What `Run` has launched of that group. -/
def State.opened (s : State) : List Service :=
  match s.run with
  | .launch i k => (s.group i).take k
  | .awaitLaunched i | .waitGroupReady i _ | .record i => s.group i
  | _ => []

theorem take_group_succ {s : State} {i k : Nat} {svc : Service} (h : (s.group i)[k]? = some svc) :
    (s.group i).take (k + 1) = (s.group i).take k ++ [svc] := by
  rw [List.take_add_one, h]
  rfl

/-- How far the start has come. -/
structure Startup (services : Services) (s : State) : Prop where
  order : s.groups = [] ∨ IsStartOrder services s.groups
  early : s.run.early = true → s.startGroups = []
  recorded : s.startGroups <+: s.groups
  index : ∀ i, s.run = .startGroup i ∨ s.run.opened = some i → i = s.startGroups.length
  inside : ∀ i, s.run.opened = some i → i < s.groups.length
  launched : s.goroutines.map Goroutine.service = s.startGroups.flatten ++ s.opened

namespace Startup

variable {services : Services} {s t : State}

theorem init : Startup services init where
  order := .inl rfl
  early _ := rfl
  recorded := List.prefix_rfl
  index _ h := by simp [ServiceManager.init, RunPc.opened] at h
  inside _ h := by simp [ServiceManager.init, RunPc.opened] at h
  launched := rfl

/-- A turn that changes none of what the start is about. -/
theorem of_eq (hs : Startup services s) (hrun : t.run = s.run) (hgroups : t.groups = s.groups)
    (hstart : t.startGroups = s.startGroups)
    (hgoroutines : t.goroutines.map Goroutine.service = s.goroutines.map Goroutine.service) :
    Startup services t where
  order := hgroups ▸ hs.order
  early := by rw [hrun, hstart]; exact hs.early
  recorded := by rw [hstart, hgroups]; exact hs.recorded
  index := by rw [hrun, hstart]; exact hs.index
  inside := by rw [hrun, hgroups]; exact hs.inside
  launched := by
    have hopened : t.opened = s.opened := by
      unfold State.opened State.group
      rw [hrun, hgroups]
    rw [hgoroutines, hstart, hopened]
    exact hs.launched

theorem opened_eq_nil (h : s.run.opened = none) : s.opened = [] := by
  unfold State.opened
  split <;> simp_all [RunPc.opened]

/-- A turn that leaves the groups for good, or has not come to them. -/
theorem of_outside (hs : Startup services s) (hfrom : s.run.opened = none)
    (hto : t.run.opened = none) (hnew : ∀ i, t.run ≠ .startGroup i)
    (hearly : t.run.early = true → s.run.early = true) (hgroups : t.groups = s.groups)
    (hstart : t.startGroups = s.startGroups) (hgoroutines : t.goroutines = s.goroutines) :
    Startup services t where
  order := hgroups ▸ hs.order
  early h := hstart ▸ hs.early (hearly h)
  recorded := by rw [hstart, hgroups]; exact hs.recorded
  index i h := by
    rcases h with h | h
    · exact absurd h (hnew i)
    · exact absurd (hto.symm.trans h) (by simp)
  inside i h := absurd (hto.symm.trans h) (by simp)
  launched := by
    rw [hgoroutines, hstart, opened_eq_nil hto, ← opened_eq_nil hfrom]
    exact hs.launched

/-- A turn inside the group that has been opened. -/
theorem of_opened (hs : Startup services s) {pc : RunPc} (hs' : s.run.opened = some i)
    (hopened : pc.opened = some i) (hsame : State.opened { s with run := pc } = s.opened) :
    Startup services { s with run := pc } where
  order := hs.order
  early h := by cases pc <;> simp_all [RunPc.opened, RunPc.early]
  recorded := hs.recorded
  index j h := by
    rcases h with rfl | h
    · cases hopened
    · exact hs.index j (.inr (hs'.trans (hopened.symm.trans h)))
  inside j h := hs.inside j (hs'.trans (hopened.symm.trans h))
  launched := by
    rw [hsame]
    exact hs.launched

theorem getElem?_groups (hs : Startup services s) (hi : s.run.opened = some i) :
    s.groups[i]? = some (s.group i) := by
  have hlt := hs.inside i hi
  rw [State.group, List.getElem?_eq_getElem hlt]
  rfl

theorem runStep (hs : Startup services s) (h : RunStep services s t) : Startup services t := by
  cases h with
  | instantiated h | storeCancel h =>
      exact hs.of_outside (by rw [h]; rfl) rfl (by simp) (by simp [RunPc.early, h]) rfl rfl rfl
  | resolved groups h horder =>
      have hnone := hs.early (by simp [RunPc.early, h])
      refine ⟨.inr horder, fun _ => hnone, ?_, by simp [RunPc.opened], by simp [RunPc.opened], ?_⟩
      · rw [hnone]
        exact List.nil_prefix
      · have hlaunched := hs.launched
        simp only [State.opened, h] at hlaunched
        exact hlaunched
  | lockGroups h hfree =>
      have hnone := hs.early (by simp [RunPc.early, h])
      refine ⟨hs.order, fun _ => hnone, hs.recorded, fun i hi => ?_, by simp [RunPc.opened], ?_⟩
      · rw [hnone]
        simpa [RunPc.opened, eq_comm] using hi
      · have hlaunched := hs.launched
        simp only [State.opened, h] at hlaunched
        exact hlaunched
  | nextGroup i h hi hfailure =>
      refine ⟨hs.order, by simp [RunPc.early], hs.recorded, fun j hj => ?_, fun j hj => ?_, ?_⟩
      · obtain rfl : i = j := by simpa [RunPc.opened] using hj
        exact hs.index i (.inl h)
      · obtain rfl : i = j := by simpa [RunPc.opened] using hj
        exact hi
      · have hlaunched := hs.launched
        simp only [State.opened, h] at hlaunched
        exact hlaunched
  | launch i k svc h hsvc =>
      have hopened : s.run.opened = some i := by rw [h]; rfl
      refine ⟨hs.order, by simp [RunPc.early], hs.recorded, fun j hj => ?_, fun j hj => ?_, ?_⟩
      · obtain rfl : i = j := by simpa [RunPc.opened] using hj
        exact hs.index i (.inr hopened)
      · obtain rfl : i = j := by simpa [RunPc.opened] using hj
        exact hs.inside i hopened
      · have hlaunched := hs.launched
        simp only [State.opened, h] at hlaunched
        change (s.goroutines ++ [_]).map Goroutine.service =
          s.startGroups.flatten ++ (s.group i).take (k + 1)
        rw [List.map_append, hlaunched, take_group_succ hsvc, List.append_assoc]
        rfl
  | launched i k h hnone =>
      refine hs.of_opened (i := i) (by rw [h]; rfl) rfl ?_
      have hlength := List.getElem?_eq_none_iff.mp hnone
      simp only [State.opened, h]
      exact (List.take_of_length_le hlength).symm
  | awaited i h | waited i k svc h hsvc hready | waitedAll i k h hnone | abandoned i k h hwhy =>
      exact hs.of_opened (i := i) (by rw [h]; rfl) rfl (by simp only [State.opened, h]; rfl)
  | record i h =>
      have hopened : s.run.opened = some i := by rw [h]; rfl
      have hi := hs.index i (.inr hopened)
      have hgroup := hs.getElem?_groups hopened
      refine ⟨hs.order, by simp [RunPc.early], ?_, fun j hj => ?_, by simp [RunPc.opened], ?_⟩
      · obtain ⟨rest, hrest⟩ := hs.recorded
        rw [← hrest, hi, List.getElem?_append_right (Nat.le_refl _), Nat.sub_self] at hgroup
        obtain ⟨rest', rfl⟩ : ∃ rest', rest = s.group i :: rest' := by
          cases rest with
          | nil => cases hgroup
          | cons g rest' =>
              rw [hi]
              exact ⟨rest', by simpa using hgroup⟩
        exact ⟨rest', by rw [← hrest, List.append_assoc]; rfl⟩
      · obtain rfl : i + 1 = j := by simpa [RunPc.opened] using hj
        rw [hi, List.length_append, List.length_singleton]
      · have hlaunched := hs.launched
        simp only [State.opened, h] at hlaunched
        simp only [State.opened, List.append_nil, List.flatten_append, List.flatten_singleton]
        exact hlaunched
  | factoryError err h | noServices h | unresolved err h | lastGroup i h | unlockGroups h
  | contextDone h hdone | received err h herr | callStop result h | stopped result j h hreturned
  | servicesDone result h hdone | closeErrCh result h | cancel result h =>
      exact hs.of_outside (by rw [h]; rfl) rfl (by simp) (by simp [RunPc.early]) rfl rfl rfl

theorem stopStep (hs : Startup services s) (h : StopStep s j t) : Startup services t := by
  cases h <;> exact hs.of_eq rfl rfl rfl rfl

theorem step (hs : Startup services s) (h : ServiceManager.step services s a = some t) :
    Startup services t := by
  cases step_cases h with
  | startRun hidle =>
      exact hs.of_outside (by rw [hidle]; rfl) rfl (by simp) (by simp [RunPc.early, hidle])
        rfl rfl rfl
  | run h => exact hs.runStep h
  | service hg hnext => exact hs.of_eq (by simp) (by simp) (by simp) (map_service_set hg _)
  | ready | cancelParent | callStop => exact hs.of_eq rfl rfl rfl rfl
  | stop h => exact hs.stopStep h
  | stopper hst hnext => exact hs.of_eq rfl rfl rfl rfl

end Startup

/-! ## The lock and the once -/

/-- The call is inside `stopOnce`. -/
def StopPc.inside : StopPc → Bool
  | .rlock | .stopGroup _ | .waitGroup _ | .runlock | .finish => true
  | .cancel | .once | .returned => false

/-- The call holds `startGroupsMu` for reading. -/
def StopPc.reading : StopPc → Bool
  | .stopGroup _ | .waitGroup _ | .runlock => true
  | .cancel | .once | .rlock | .finish | .returned => false

structure Locking (s : State) : Prop where
  writer : s.startGroupsMu = .locked ↔ s.run.starting = true
  once : Threads.Exclusive StopPc.inside s.stops (s.stopOnce = .running)
  reader : Threads.Exclusive StopPc.reading s.stops (s.startGroupsMu = .rlocked)

namespace Locking

variable {services : Services} {s t : State}

theorem init : Locking init where
  writer := by simp [ServiceManager.init, RunPc.starting]
  once := by simp [ServiceManager.init, Threads.Exclusive]
  reader := by simp [ServiceManager.init, Threads.Exclusive]

theorem of_eq (hs : Locking s) (hrun : t.run.starting = s.run.starting)
    (hmu : t.startGroupsMu = s.startGroupsMu) (honce : t.stopOnce = s.stopOnce)
    (hstops : t.stops = s.stops) : Locking t where
  writer := by rw [hrun, hmu]; exact hs.writer
  once := by rw [hstops, honce]; exact hs.once
  reader := by rw [hstops, hmu]; exact hs.reader

theorem call (hs : Locking s) (hrun : t.run.starting = s.run.starting)
    (hmu : t.startGroupsMu = s.startGroupsMu) (honce : t.stopOnce = s.stopOnce)
    (hstops : t.stops = s.stops ++ [.cancel]) : Locking t where
  writer := by rw [hrun, hmu]; exact hs.writer
  once := by rw [hstops, honce]; exact hs.once.start rfl
  reader := by rw [hstops, hmu]; exact hs.reader.start rfl

theorem not_reading (hs : Locking s) (hmu : s.startGroupsMu ≠ .rlocked) {pc : StopPc}
    (hpc : pc ∈ s.stops) : pc.reading = false := by
  by_contra hreading
  exact hmu (of_decide_eq_true (hs.reader.locked_eq_true hpc (by simpa using hreading)))

theorem runStep (hs : Locking s) (h : RunStep services s t) : Locking t := by
  cases h with
  | lockGroups h hfree =>
      refine ⟨by simp [RunPc.starting], hs.once, ?_⟩
      have hreader := hs.reader
      simpa [hfree] using hreader
  | unlockGroups h =>
      have hlocked : s.startGroupsMu = .locked := hs.writer.mpr (by rw [h]; rfl)
      refine ⟨by simp [RunPc.starting], hs.once, ?_⟩
      have hreader := hs.reader
      simpa [hlocked] using hreader
  | callStop result h => exact hs.call (by simp [h, RunPc.starting]) rfl rfl rfl
  | _ => exact hs.of_eq (by simp [*, RunPc.starting]) rfl rfl rfl

theorem stopStep (hs : Locking s) (h : StopStep s j t) : Locking t := by
  cases h with
  | cancel h => exact ⟨hs.writer, hs.once.stay h rfl, hs.reader.stay h rfl⟩
  | enter h hfresh =>
      refine ⟨hs.writer, ?_, hs.reader.stay h rfl⟩
      have honce := hs.once
      simp only [hfresh, reduceCtorEq, decide_false] at honce
      exact honce.enter h rfl rfl
  | late h hfinished => exact ⟨hs.writer, hs.once.stay h rfl, hs.reader.stay h rfl⟩
  | rlock h hfree =>
      have hnot : s.run.starting ≠ true := fun hrun => hfree (hs.writer.mpr hrun)
      refine ⟨by simpa using hnot, hs.once.stay h rfl, ?_⟩
      -- the caller is inside the once, so nobody else reads
      have hnone : s.startGroupsMu ≠ .rlocked := by
        intro hmu
        have hreader := hs.reader
        rw [hmu] at hreader
        obtain ⟨pc, hpc, hreading⟩ := hreader.exists_mem
        obtain ⟨k, hk⟩ := List.getElem?_of_mem hpc
        have hinside : pc.inside = true := by cases pc <;> simp_all [StopPc.reading, StopPc.inside]
        obtain rfl := hs.once.eq h hk rfl hinside
        rw [h, Option.some.injEq] at hk
        subst hk
        cases hreading
      have hreader := hs.reader
      simp only [hnone, decide_false] at hreader
      exact hreader.enter h rfl rfl
  | stoppedAll h => exact ⟨hs.writer, hs.once.stay h rfl, hs.reader.stay h rfl⟩
  | stopGroup n h => exact ⟨hs.writer, hs.once.stay h rfl, hs.reader.stay h rfl⟩
  | waitedGroup n h hended => exact ⟨hs.writer, hs.once.stay h rfl, hs.reader.stay h rfl⟩
  | runlock h =>
      have hmu : s.startGroupsMu = .rlocked := by
        by_contra hmu
        have hreading := hs.not_reading hmu (List.mem_of_getElem? h)
        cases hreading
      have hnot : s.run.starting ≠ true := by
        intro hrun
        have hlocked := hs.writer.mpr hrun
        rw [hmu] at hlocked
        cases hlocked
      exact ⟨by simpa using hnot, hs.once.stay h rfl, hs.reader.leave h rfl rfl⟩
  | finish h => exact ⟨hs.writer, hs.once.leave h rfl rfl, hs.reader.stay h rfl⟩

theorem step (hs : Locking s) (h : ServiceManager.step services s a = some t) : Locking t := by
  cases step_cases h with
  | startRun hidle => exact hs.of_eq (by simp [hidle, RunPc.starting]) rfl rfl rfl
  | run h => exact hs.runStep h
  | service hg hnext => exact hs.of_eq (by simp) (by simp) (by simp) (by simp)
  | ready name => exact hs.of_eq rfl rfl rfl rfl
  | cancelParent => exact hs.of_eq rfl rfl rfl rfl
  | callStop => exact hs.call rfl rfl rfl rfl
  | stop h => exact hs.stopStep h
  | stopper hst hnext => exact hs.of_eq rfl rfl rfl rfl

end Locking

end Pr0xteus.ServiceManager
