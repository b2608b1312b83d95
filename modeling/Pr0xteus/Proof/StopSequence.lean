import Pr0xteus.Proof.Supervision

/-!
# The stop sequence

Whoever enters `stopOnce` reads the recorded groups under the lock and stops them from the last to the
first. As `Run` holds the same lock while it starts the groups, the reader finds either none of them
or all that will ever be launched: none, if it comes before the start.
-/

namespace Pr0xteus.ServiceManager

open GoTime Transition

variable {j n : Nat} {pc : StopPc}

/-- `Run` is past `runServiceGroups`, or will not come to it. -/
def RunPc.late (pc : RunPc) : Bool := !pc.early && !pc.starting

/-- The turn takes the read lock, and the start is not over. -/
def StopsEarly (e : Edge State Action) : Prop :=
  match e.action with
  | .stop j => e.source.stops[j]? = some .rlock ∧ e.source.run.late = false
  | _ => False

instance (e : Edge State Action) : Decidable (StopsEarly e) := by
  unfold StopsEarly
  split <;> infer_instance

/-- The services that are being stopped, with their groups. -/
def State.stopping (s : State) : List (Nat × Service) :=
  s.stoppers.map fun st => (st.group, st.service)

/-- All recorded groups from `n` on are being stopped, each service once. -/
structure Sweep (s : State) (n : Nat) : Prop where
  mem_iff : ∀ i svc, (i, svc) ∈ s.stopping ↔
    n ≤ i ∧ ∃ g : Group, s.startGroups[i]? = some g ∧ svc ∈ g
  nodup : (s.stopping.map Prod.snd).Nodup

variable {services : Services} {fs : List (Edge State Action)} {e : Edge State Action}
  {s t : State}

/-- The reader came after the start, or too early. -/
def Entered (fs : List (Edge State Action)) (s : State) : Prop :=
  s.run.late = true ∨ ∃ e ∈ fs, StopsEarly e

structure Sweeping (fs : List (Edge State Action)) (s : State) (n m : Nat) : Prop where
  bound : n ≤ s.startGroups.length
  sweep : Sweep s n
  ended : ∀ st ∈ s.stoppers, m ≤ st.group → st.ended = true
  entered : Entered fs s

/-- The sequence is through: it stopped everything, or it came too early and stopped nothing. -/
def Swept (fs : List (Edge State Action)) (s : State) : Prop :=
  (∀ st ∈ s.stoppers, st.ended = true) ∧
    ((s.run.late = true ∧ Sweep s 0) ∨ (s.stoppers = [] ∧ ∃ e ∈ fs, StopsEarly e))

/-- What holds where a call of `Stop` is. -/
def StopPc.Holds (fs : List (Edge State Action)) (s : State) : StopPc → Prop
  | .rlock => s.stoppers = []
  | .stopGroup n => Sweeping fs s n n
  | .waitGroup n => Sweeping fs s n (n + 1)
  | .runlock => Sweeping fs s 0 0
  | .finish => Swept fs s
  | .returned => s.stopOnce = .finished
  | .cancel | .once => True

structure Stopping (fs : List (Edge State Action)) (s : State) : Prop where
  fresh : s.stopOnce = .fresh → s.stoppers = []
  holds : ∀ pc ∈ s.stops, pc.Holds fs s
  finished : s.stopOnce = .finished → Swept fs s

/-! ## Turns that leave the sequence where it is -/

section Frame

/-- Nothing that the stop sequence is about has changed, but for what a stopper has done. -/
structure Same (s t : State) : Prop where
  late : s.run.late = true → t.run.late = true
  startGroups : t.startGroups = s.startGroups
  stopping : t.stopping = s.stopping
  ended : ∀ st' ∈ t.stoppers, ∃ st ∈ s.stoppers, st.group = st'.group ∧
    (st.ended = true → st'.ended = true)

theorem Same.of_eq (hlate : s.run.late = true → t.run.late = true)
    (hstart : t.startGroups = s.startGroups) (hstoppers : t.stoppers = s.stoppers) : Same s t where
  late := hlate
  startGroups := hstart
  stopping := by rw [State.stopping, hstoppers]; rfl
  ended st' hst' := ⟨st', hstoppers ▸ hst', rfl, id⟩

theorem Same.stoppers_eq_nil (h : Same s t) (hs : s.stoppers = []) : t.stoppers = [] := by
  have hstopping := h.stopping
  rw [State.stopping, State.stopping, hs, List.map_nil, List.map_eq_nil_iff] at hstopping
  exact hstopping

theorem Sweep.same (hs : Sweep s n) (h : Same s t) : Sweep t n where
  mem_iff := by rw [h.stopping, h.startGroups]; exact hs.mem_iff
  nodup := by rw [h.stopping]; exact hs.nodup

theorem Entered.mono (hs : Entered fs s) (hlate : s.run.late = true → t.run.late = true) :
    Entered (fs ++ [e]) t := by
  rcases hs with hs | ⟨e', he', hearly⟩
  · exact .inl (hlate hs)
  · exact .inr ⟨e', List.mem_append_left _ he', hearly⟩

theorem Sweeping.same {n m : Nat} (hs : Sweeping fs s n m) (h : Same s t) :
    Sweeping (fs ++ [e]) t n m where
  bound := by rw [h.startGroups]; exact hs.bound
  sweep := hs.sweep.same h
  ended st' hst' hm := by
    obtain ⟨st, hst, hgroup, hended⟩ := h.ended st' hst'
    exact hended (hs.ended st hst (hgroup ▸ hm))
  entered := hs.entered.mono h.late

theorem Swept.same (hs : Swept fs s) (h : Same s t) :
    Swept (fs ++ [e]) t := by
  refine ⟨fun st' hst' => ?_, ?_⟩
  · obtain ⟨st, hst, -, hended⟩ := h.ended st' hst'
    exact hended (hs.1 st hst)
  · rcases hs.2 with ⟨hlate, hsweep⟩ | ⟨hnone, e', he', hearly⟩
    · exact .inl ⟨h.late hlate, hsweep.same h⟩
    · exact .inr ⟨h.stoppers_eq_nil hnone, e', List.mem_append_left _ he', hearly⟩

theorem StopPc.Holds.same (hs : pc.Holds fs s) (h : Same s t)
    (honce : t.stopOnce = s.stopOnce ∨ pc ≠ .returned) : pc.Holds (fs ++ [e]) t := by
  cases pc with
  | rlock => exact h.stoppers_eq_nil hs
  | stopGroup | waitGroup | runlock => exact Sweeping.same hs h
  | finish => exact Swept.same hs h
  | returned =>
      rcases honce with honce | hne
      · exact honce.trans hs
      · exact absurd rfl hne
  | cancel => trivial
  | once => trivial

theorem Stopping.same (hs : Stopping fs s) (h : Same s t) (honce : t.stopOnce = s.stopOnce)
    (hstops : ∀ pc ∈ t.stops, pc.Holds (fs ++ [e]) t ∨ pc ∈ s.stops) :
    Stopping (fs ++ [e]) t where
  fresh hfresh := h.stoppers_eq_nil (hs.fresh (honce ▸ hfresh))
  holds pc hpc := by
    rcases hstops pc hpc with hpc | hpc
    · exact hpc
    · exact (hs.holds pc hpc).same h (.inl honce)
  finished hfinished := (hs.finished (honce ▸ hfinished)).same h

end Frame

/-! ## The turns of the sequence -/

section Turns

variable {gs : List (Edge State Action)}

theorem Locking.not_starting (hlock : Locking s) (hpc : pc ∈ s.stops) (hreading : pc.reading = true) :
    s.run.starting = false := by
  by_contra hrun
  have hlocked := hlock.writer.mpr (by simpa using hrun)
  have hnot := hlock.not_reading (by simp [hlocked]) hpc
  rw [hreading] at hnot
  cases hnot

theorem Locking.running (hlock : Locking s) (hj : s.stops[j]? = some pc)
    (hinside : pc.inside = true) : s.stopOnce = .running :=
  of_decide_eq_true (hlock.once.locked_eq_true (List.mem_of_getElem? hj) hinside)

theorem Stopping.runStep (hlock : Locking s) (hs : Stopping fs s) (h : RunStep services s t) :
    Stopping (fs ++ [e]) t := by
  cases h with
  | record i hrun =>
      -- `Run` holds the lock, so nobody is stopping; who is through came too early
      have hlate : s.run.late = false := by rw [hrun]; rfl
      have hlocked : s.startGroupsMu = .locked := hlock.writer.mpr (by rw [hrun]; rfl)
      have hswept : Swept fs s →
          Swept (fs ++ [e]) { s with
            startGroups := s.startGroups ++ [s.group i], run := .startGroup (i + 1) } := by
        rintro ⟨hended, ⟨hlate', -⟩ | ⟨hnone, e', he', hearly⟩⟩
        · rw [hlate] at hlate'
          cases hlate'
        · exact ⟨hended, .inr ⟨hnone, e', List.mem_append_left _ he', hearly⟩⟩
      refine ⟨hs.fresh, fun pc hpc => ?_, fun hfinished => hswept (hs.finished hfinished)⟩
      have hreading := hlock.not_reading (by simp [hlocked]) hpc
      have hpc := hs.holds pc hpc
      cases pc with
      | rlock => exact hpc
      | finish => exact hswept hpc
      | returned => exact hpc
      | cancel | once => trivial
      | stopGroup n | waitGroup n | runlock => cases hreading
  | callStop result hrun =>
      refine hs.same (.of_eq (fun _ => rfl) rfl rfl) rfl fun pc hpc => ?_
      rcases List.mem_append.mp hpc with hpc | hpc
      · exact .inr hpc
      · obtain rfl := List.mem_singleton.mp hpc
        exact .inl trivial
  | _ =>
      refine hs.same (.of_eq ?_ rfl rfl) rfl fun _ hpc => .inr hpc
      simp [*, RunPc.late, RunPc.early, RunPc.starting]

/-- Inside the once there is one call; the others have not got in, and none is through. -/
theorem Stopping.others (hlock : Locking s) (hs : Stopping fs s) {pc pc' q : StopPc}
    (hj : s.stops[j]? = some pc) (hinside : pc.inside = true) (hq : q ∈ s.stops.set j pc') :
    q = pc' ∨ q = .cancel ∨ q = .once := by
  rcases hlock.once.mem_set hj hinside hq with rfl | ⟨hq, hout⟩
  · exact .inl rfl
  · have hheld := hs.holds q hq
    cases q with
    | cancel | once => simp
    | returned =>
        have hfinished : s.stopOnce = .finished := hheld
        rw [hlock.running hj hinside] at hfinished
        cases hfinished
    | rlock | stopGroup n | waitGroup n | runlock | finish => cases hout

/-- A turn of the call that is inside, with what holds where it goes. -/
theorem Stopping.turn (hlock : Locking s) (hs : Stopping fs s) {pc pc' : StopPc}
    (hj : s.stops[j]? = some pc) (hinside : pc.inside = true) (hstops : t.stops = s.stops.set j pc')
    (honce : t.stopOnce = s.stopOnce) (hholds : pc'.Holds gs t) : Stopping gs t := by
  rw [hlock.running hj hinside] at honce
  refine ⟨fun hfresh => ?_, fun q hq => ?_, fun hfinished => ?_⟩
  · rw [honce] at hfresh
    cases hfresh
  · rw [hstops] at hq
    rcases hs.others hlock hj hinside hq with rfl | rfl | rfl
    · exact hholds
    · trivial
    · trivial
  · rw [honce] at hfinished
    cases hfinished

theorem Startup.nodup_startGroups (hs : Startup services s) : s.startGroups.flatten.Nodup := by
  have hnodup : s.groups.flatten.Nodup := by
    rcases hs.order with hnone | horder
    · rw [hnone]
      exact List.nodup_nil
    · exact .of_map Service.name (horder.once.nodup_iff.mpr services.map.keys_nodup)
  exact hnodup.sublist hs.recorded.flatten.sublist

theorem Sweep.grow (hstart : Startup services s) (hs : Sweep s (n + 1))
    (hn : n < s.startGroups.length) (hstartGroups : t.startGroups = s.startGroups)
    (hstoppers : t.stoppers = s.stoppers ++
      (s.startGroups[n]?.getD []).map fun svc => { group := n, service := svc }) : Sweep t n := by
  have hgroup : s.startGroups[n]? = some s.startGroups[n] := List.getElem?_eq_getElem hn
  have hstopping : t.stopping = s.stopping ++ s.startGroups[n].map fun svc => (n, svc) := by
    rw [State.stopping, hstoppers, hgroup, List.map_append, List.map_map]
    rfl
  constructor
  · intro i svc
    rw [hstopping, hstartGroups, List.mem_append, hs.mem_iff]
    constructor
    · rintro (⟨hi, hsvc⟩ | hsvc)
      · exact ⟨by omega, hsvc⟩
      · obtain ⟨svc', hsvc', heq⟩ := List.mem_map.mp hsvc
        cases heq
        exact ⟨Nat.le_refl _, _, hgroup, hsvc'⟩
    · rintro ⟨hi, g, hg, hsvc⟩
      rcases Nat.lt_or_eq_of_le hi with hlt | rfl
      · exact .inl ⟨hlt, g, hg, hsvc⟩
      · rw [hgroup, Option.some.injEq] at hg
        subst hg
        exact .inr (List.mem_map.mpr ⟨svc, hsvc, rfl⟩)
  · rw [hstopping, List.map_append, List.map_map, List.nodup_append]
    have hflatten := List.nodup_flatten.mp hstart.nodup_startGroups
    refine ⟨hs.nodup, ?_, ?_⟩
    · have hmap : s.startGroups[n].map (Prod.snd ∘ fun svc => (n, svc)) = s.startGroups[n] :=
        List.map_id _
      rw [hmap]
      exact hflatten.1 _ (List.getElem_mem hn)
    · rintro svc hsvc svc' hsvc' rfl
      obtain ⟨⟨i, _⟩, hmem, rfl⟩ := List.mem_map.mp hsvc
      obtain ⟨hi, g, hg, hin⟩ := (hs.mem_iff _ _).mp hmem
      obtain ⟨svc', hin', heq⟩ := List.mem_map.mp hsvc'
      obtain ⟨hlt, rfl⟩ := List.getElem?_eq_some_iff.mp hg
      have hdisjoint := List.pairwise_iff_getElem.mp hflatten.2 n i hn hlt (by omega)
      obtain rfl : svc' = _ := heq
      exact hdisjoint hin' hin

theorem Sweep.stoppers_eq_nil (hs : Sweep s n) (hnone : s.startGroups = []) : s.stoppers = [] := by
  rw [List.eq_nil_iff_forall_not_mem]
  intro st hst
  have hmem : (st.group, st.service) ∈ s.stopping := List.mem_map.mpr ⟨st, hst, rfl⟩
  obtain ⟨-, g, hg, -⟩ := (hs.mem_iff _ _).mp hmem
  rw [hnone] at hg
  cases hg

/-- The reader finds the groups as they are for the whole of its sequence. -/
theorem Sweeping.enter (hnone : s.stoppers = []) (hstartGroups : t.startGroups = s.startGroups)
    (hstoppers : t.stoppers = s.stoppers) (hentered : Entered fs t) :
    Sweeping fs t s.startGroups.length s.startGroups.length where
  bound := by rw [hstartGroups]
  sweep := by
    have hstopping : t.stopping = [] := by rw [State.stopping, hstoppers, hnone]; rfl
    constructor
    · intro i svc
      rw [hstopping, hstartGroups]
      refine ⟨fun h => by simp at h, fun ⟨hi, g, hg, _⟩ => ?_⟩
      have hlt := (List.getElem?_eq_some_iff.mp hg).1
      omega
    · rw [hstopping]
      exact List.nodup_nil
  ended := by simp [hstoppers, hnone]
  entered := hentered

/-- Through with the groups, under the lock: if the start is not over, it has not begun. -/
theorem Sweeping.swept (hstart : Startup services s) (hnot : s.run.starting = false)
    (hs : Sweeping fs s 0 0) : Swept fs s := by
  refine ⟨fun st hst => hs.ended st hst (Nat.zero_le _), ?_⟩
  rcases hs.entered with hlate | hearly
  · exact .inl ⟨hlate, hs.sweep⟩
  · by_cases hrun : s.run.early = true
    · exact .inr ⟨hs.sweep.stoppers_eq_nil (hstart.early hrun), hearly⟩
    · exact .inl ⟨by simp [RunPc.late, hrun, hnot], hs.sweep⟩

theorem Stopping.stopStep (hstart : Startup services s) (hlock : Locking s) (hs : Stopping fs s)
    (h : StopStep s j t) : Stopping (fs ++ [⟨s, .stop j, t⟩]) t := by
  have hold : ∀ pc, s.stops[j]? = some pc → pc.Holds fs s :=
    fun pc hpc => hs.holds pc (List.mem_of_getElem? hpc)
  cases h with
  | cancel h =>
      refine hs.same (.of_eq id rfl rfl) rfl fun pc hpc => ?_
      rcases List.mem_or_eq_of_mem_set hpc with hpc | rfl
      · exact .inr hpc
      · exact .inl trivial
  | enter h hfresh =>
      refine ⟨by simp, fun pc hpc => ?_, by simp⟩
      rcases List.mem_or_eq_of_mem_set hpc with hpc | rfl
      · have hheld := hs.holds pc hpc
        refine hheld.same (.of_eq id rfl rfl) (.inr ?_)
        rintro rfl
        rw [StopPc.Holds, hfresh] at hheld
        cases hheld
      · exact hs.fresh hfresh
  | late h hfinished =>
      refine hs.same (.of_eq id rfl rfl) rfl fun pc hpc => ?_
      rcases List.mem_or_eq_of_mem_set hpc with hpc | rfl
      · exact .inr hpc
      · exact .inl hfinished
  | rlock h hfree =>
      refine hs.turn hlock h rfl rfl rfl (Sweeping.enter (hold _ h) rfl rfl ?_)
      cases hlate : s.run.late with
      | true => exact .inl hlate
      | false => exact .inr ⟨_, List.mem_append_right _ (List.mem_singleton.mpr rfl), h, hlate⟩
  | stoppedAll h => exact hs.turn hlock h rfl rfl rfl (Sweeping.same (hold _ h) (.of_eq id rfl rfl))
  | stopGroup n h =>
      have hsweeping : Sweeping fs s (n + 1) (n + 1) := hold _ h
      refine hs.turn hlock h rfl rfl rfl ⟨?_, ?_, fun st hst hm => ?_, hsweeping.entered.mono id⟩
      · exact Nat.le_of_succ_le hsweeping.bound
      · exact hsweeping.sweep.grow hstart hsweeping.bound rfl rfl
      · rcases List.mem_append.mp hst with hst | hst
        · exact hsweeping.ended st hst hm
        · obtain ⟨svc, -, rfl⟩ := List.mem_map.mp hst
          exact absurd hm (Nat.not_succ_le_self n)
  | waitedGroup n h hended =>
      have hsweeping : Sweeping fs s n (n + 1) := hold _ h
      refine hs.turn hlock h rfl rfl rfl ⟨hsweeping.bound, hsweeping.sweep.same (.of_eq id rfl rfl),
        fun st hst hm => ?_, hsweeping.entered.mono id⟩
      rcases Nat.lt_or_eq_of_le hm with hlt | heq
      · exact hsweeping.ended st hst hlt
      · exact hended st hst heq.symm
  | runlock h =>
      have hnot := hlock.not_starting (List.mem_of_getElem? h) rfl
      exact hs.turn hlock h rfl rfl rfl
        (Swept.same (Sweeping.swept hstart hnot (hold _ h)) (.of_eq id rfl rfl))
  | finish h =>
      refine ⟨by simp, fun q hq => ?_, fun _ => Swept.same (hold _ h) (.of_eq id rfl rfl)⟩
      rcases hs.others hlock h rfl hq with rfl | rfl | rfl
      · rfl
      · trivial
      · trivial

theorem Stopper.next_eq {st st' : Stopper} {event : StopperEvent} (h : st.next event = some st') :
    st'.group = st.group ∧ st'.service = st.service ∧ (st.ended = true → st'.ended = true) := by
  cases event <;> simp only [Stopper.next, Option.ite_none_right_eq_some, Option.some.injEq] at h <;>
    obtain ⟨-, rfl⟩ := h <;> simp

theorem Same.of_stopper {k : Nat} {event : StopperEvent} {st st' : Stopper}
    (hst : s.stoppers[k]? = some st) (hnext : st.next event = some st') :
    Same s { s with stoppers := s.stoppers.set k st' } := by
  obtain ⟨hgroup, hservice, hended⟩ := Stopper.next_eq hnext
  obtain ⟨hk, rfl⟩ := List.getElem?_eq_some_iff.mp hst
  refine ⟨id, rfl, ?_, fun st'' hst'' => ?_⟩
  · have hlt : k < (s.stopping).length := by rwa [State.stopping, List.length_map]
    have hself : s.stopping.set k s.stopping[k] = s.stopping := List.set_getElem_self hlt
    have hget : s.stopping[k] = (st'.group, st'.service) := by
      rw [hgroup, hservice]
      exact List.getElem_map _
    rw [hget] at hself
    rw [State.stopping, List.map_set]
    exact hself
  · rcases List.mem_or_eq_of_mem_set hst'' with hst'' | rfl
    · exact ⟨st'', hst'', rfl, id⟩
    · exact ⟨s.stoppers[k], List.getElem_mem hk, hgroup.symm, hended⟩

theorem Stopping.step {a : Action} (hstart : Startup services s) (hlock : Locking s)
    (hs : Stopping fs s) (h : step services s a = some t) : Stopping (fs ++ [⟨s, a, t⟩]) t := by
  cases step_cases h with
  | startRun hidle =>
      exact hs.same (.of_eq (by simp [hidle, RunPc.late, RunPc.early]) rfl rfl) rfl
        fun _ hpc => .inr hpc
  | run hrun => exact hs.runStep hlock hrun
  | service hg hnext =>
      exact hs.same (.of_eq (by simp) (by simp) (by simp)) (by simp) fun _ hpc => .inr (by simpa using hpc)
  | ready | cancelParent => exact hs.same (.of_eq id rfl rfl) rfl fun _ hpc => .inr hpc
  | callStop =>
      refine hs.same (.of_eq id rfl rfl) rfl fun pc hpc => ?_
      rcases List.mem_append.mp hpc with hpc | hpc
      · exact .inr hpc
      · obtain rfl := List.mem_singleton.mp hpc
        exact .inl trivial
  | stop hstop => exact hs.stopStep hstart hlock hstop
  | stopper hst hnext => exact hs.same (.of_stopper hst hnext) rfl fun _ hpc => .inr hpc

theorem Stopping.init : Stopping [] init where
  fresh _ := rfl
  holds pc hpc := by simp [ServiceManager.init] at hpc
  finished h := by simp [ServiceManager.init] at h

end Turns

/-- Everything that holds along a run. -/
structure Supervised (services : Services) (fs : List (Edge State Action)) (s : State) : Prop where
  startup : Startup services s
  locking : Locking s
  stopping : Stopping fs s

theorem Supervised.of_path {es : List (Edge State Action)}
    (h : Path (step services) init es s) : Supervised services es s :=
  h.history (Supervised services) ⟨.init, .init, .init⟩ fun _ _ _ _ hs hstep _ =>
    ⟨hs.startup.step hstep, hs.locking.step hstep, hs.stopping.step hs.startup hs.locking hstep⟩

/-- Once a service is being stopped the start is over, and the groups after the one that is being
stopped are through. -/
theorem Supervised.sweep (hs : Supervised services fs s) (hne : s.stoppers ≠ []) :
    s.run.late = true ∧ ∃ n, Sweep s n ∧ ∀ st ∈ s.stoppers, n < st.group → st.ended = true := by
  have hswept : Swept fs s →
      s.run.late = true ∧ ∃ n, Sweep s n ∧ ∀ st ∈ s.stoppers, n < st.group → st.ended = true := by
    rintro ⟨hended, ⟨hlate, hsweep⟩ | ⟨hnone, -⟩⟩
    · exact ⟨hlate, 0, hsweep, fun st hst _ => hended st hst⟩
    · exact absurd hnone hne
  have hsweeping : ∀ n m, Sweeping fs s n m → m ≤ n + 1 → s.run.starting = false →
      s.run.late = true ∧ ∃ n, Sweep s n ∧ ∀ st ∈ s.stoppers, n < st.group → st.ended = true := by
    intro n m h hm hnot
    have hlate : s.run.late = true := by
      by_contra hlate
      have hearly : s.run.early = true := by simpa [RunPc.late, hnot] using hlate
      exact hne (h.sweep.stoppers_eq_nil (hs.startup.early hearly))
    exact ⟨hlate, n, h.sweep, fun st hst hn => h.ended st hst (by omega)⟩
  cases honce : s.stopOnce with
  | fresh => exact absurd (hs.stopping.fresh honce) hne
  | finished => exact hswept (hs.stopping.finished honce)
  | running =>
      have hlocked := hs.locking.once
      rw [honce] at hlocked
      obtain ⟨pc, hpc, hinside⟩ := hlocked.exists_mem
      have hholds := hs.stopping.holds pc hpc
      cases pc with
      | rlock => exact absurd hholds hne
      | stopGroup n => exact hsweeping n n hholds (by omega) (hs.locking.not_starting hpc rfl)
      | waitGroup n => exact hsweeping n (n + 1) hholds (by omega) (hs.locking.not_starting hpc rfl)
      | runlock => exact hsweeping 0 0 hholds (by omega) (hs.locking.not_starting hpc rfl)
      | finish => exact hswept hholds
      | cancel | once | returned => cases hinside

end Pr0xteus.ServiceManager
