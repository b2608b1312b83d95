import Pr0xteus.Proof.Supervision

/-!
# A group waits for the ones before it

`waitGroupReady` comes back when every `ReadyNotifier` of the group is ready or has exited, but also
when a failure is reported or the context is done. The loop around it looks at the failure signal
before it opens the next group, and at nothing else.
-/

namespace Pr0xteus.ServiceManager

open GoTime Transition

/-- `runService` will not call the service's `Run` again. -/
def ServicePc.forGood : ServicePc → Bool
  | .handleServiceError _ | .trigger | .exiting | .exited | .done => true
  | .created | .attempt _ _ | .running _ | .failed _ _ | .waitRetryDelay _ _ => false

/-- The service has closed its `Ready` channel, or its `Run` has returned for good. -/
def State.Settled (s : State) (svc : Service) : Prop :=
  svc.name ∈ s.ready ∨ ∃ g ∈ s.goroutines, g.service = svc ∧ g.pc.forGood = true

instance (s : State) (svc : Service) : Decidable (s.Settled svc) :=
  inferInstanceAs (Decidable (_ ∨ _))

/-- The group and the service that a turn launches. -/
def launches (e : Edge State Action) : Option (Nat × Service) :=
  match e.action, e.source.run with
  | .run _, .launch i k => (e.source.group i)[k]?.map fun svc => (i, svc)
  | _, _ => none

/-- Whatever the turn launches, all that is to signal readiness in the groups before it has settled. -/
def LaunchesSettled (e : Edge State Action) : Prop :=
  ∀ p ∈ launches e, ∀ j < p.1, ∀ dep ∈ e.source.group j, dep.readyNotifier = true →
    e.source.Settled dep

instance (e : Edge State Action) : Decidable (LaunchesSettled e) :=
  inferInstanceAs (Decidable (∀ p ∈ launches e, _))

/-! ## What has settled stays so -/

section Settled

variable {services : Services} {s t : State} {svc : Service}

theorem ServicePc.forGood_next {ctxDone : Bool} {pc pc' : ServicePc} {answer : Answer}
    (h : pc.next ctxDone svc answer = some pc') (hgood : pc.forGood = true) :
    pc'.forGood = true := by
  cases pc with
  | handleServiceError err =>
      cases answer with
      | go =>
          obtain rfl := Option.some.inj h
          split <;> rfl
      | _ => cases h
  | trigger | exiting | exited =>
      cases answer with
      | go =>
          obtain rfl := Option.some.inj h
          rfl
      | _ => cases h
  | done => cases answer <;> cases h
  | _ => cases hgood

theorem State.Settled.mono (h : s.Settled svc) (hready : s.ready ⊆ t.ready)
    (hgoroutines : ∀ g ∈ s.goroutines, g.pc.forGood = true →
      ∃ g' ∈ t.goroutines, g'.service = g.service ∧ g'.pc.forGood = true) : t.Settled svc := by
  rcases h with h | ⟨g, hg, rfl, hgood⟩
  · exact .inl (hready h)
  · exact .inr (hgoroutines g hg hgood)

theorem State.Settled.of_subset (h : s.Settled svc) (hready : s.ready ⊆ t.ready)
    (hgoroutines : s.goroutines ⊆ t.goroutines) : t.Settled svc :=
  h.mono hready fun g hg hgood => ⟨g, hgoroutines hg, rfl, hgood⟩

theorem State.Settled.runStep (h : s.Settled svc) (hstep : RunStep services s t) : t.Settled svc := by
  cases hstep with
  | launch i k svc' hrun hsvc =>
      exact h.of_subset (List.Subset.refl _) (List.subset_append_left _ _)
  | _ => exact h.of_subset (List.Subset.refl _) (List.Subset.refl _)

theorem State.Settled.step {a : Action} (h : s.Settled svc)
    (hstep : step services s a = some t) : t.Settled svc := by
  cases step_cases hstep with
  | run hrun => exact h.runStep hrun
  | @service n answer g pc hg hnext =>
      refine h.mono (by simp) fun g' hg' hgood => ?_
      obtain ⟨m, hm⟩ := List.getElem?_of_mem hg'
      by_cases hmn : n = m
      · subst hmn
        obtain rfl : g = g' := by
          rw [hg] at hm
          exact Option.some.inj hm
        have hlt := (List.getElem?_eq_some_iff.mp hg).1
        exact ⟨⟨g.service, pc⟩, List.mem_set hlt _, rfl, ServicePc.forGood_next hnext hgood⟩
      · refine ⟨g', List.mem_of_getElem? (i := m) ?_, rfl, hgood⟩
        rw [List.getElem?_set_ne hmn, hm]
  | ready name => exact h.of_subset (List.subset_cons_self _ _) (List.Subset.refl _)
  | stop hstop => cases hstop <;> exact h.of_subset (List.Subset.refl _) (List.Subset.refl _)
  | startRun _ | cancelParent | callStop | stopper _ _ =>
      exact h.of_subset (List.Subset.refl _) (List.Subset.refl _)

end Settled

/-! ## What the loop has waited for -/

/-- The services `Run` is done waiting for. -/
def State.awaited (s : State) : List Service :=
  s.startGroups.flatten ++
    match s.run with
    | .waitGroupReady i k => (s.group i).take k
    | .record i => s.group i
    | _ => []

/-- While it goes through the groups, `Run` has seen all of them settle; or the context is done; or a
failure is reported, and no new group is opened then. -/
def Waited (s : State) : Prop :=
  (∃ i, s.run = .startGroup i ∨ s.run.opened = some i) →
    (∀ svc ∈ s.awaited, svc.readyNotifier = true → s.Settled svc) ∨ s.ctxDone = true ∨
      (s.failure = true ∧ ∃ i, s.run = .startGroup i ∨ s.run = .record i)

section Waited

variable {services : Services} {s t : State}

theorem Waited.of_not_opened (hnew : ∀ i, t.run ≠ .startGroup i) (hopened : t.run.opened = none) :
    Waited t := by
  rintro ⟨i, hi | hi⟩
  · exact absurd hi (hnew i)
  · exact absurd (hopened.symm.trans hi) (by simp)

/-- A turn that carries on what has settled, with what it adds to the awaited services. -/
theorem Waited.carry (h : Waited s) (hin : ∃ i, s.run = .startGroup i ∨ s.run.opened = some i)
    (hsettled : ∀ svc, s.Settled svc → t.Settled svc)
    (hawaited : ∀ svc ∈ t.awaited, svc ∈ s.awaited ∨ (svc.readyNotifier = true → t.Settled svc))
    (hdone : s.ctxDone = true → t.ctxDone = true)
    (hfailure : s.failure = true → (∃ i, s.run = .startGroup i ∨ s.run = .record i) →
      t.failure = true ∧ ∃ i, t.run = .startGroup i ∨ t.run = .record i) : Waited t := by
  intro _
  rcases h hin with h | h | ⟨h, hi⟩
  · left
    intro svc hsvc hnotifier
    rcases hawaited svc hsvc with hold | hnew
    · exact hsettled svc (h svc hold hnotifier)
    · exact hnew hnotifier
  · exact .inr (.inl (hdone h))
  · exact .inr (.inr (hfailure h hi))

theorem Waited.of_eq (h : Waited s) (hrun : t.run = s.run) (hgroups : t.groups = s.groups)
    (hstart : t.startGroups = s.startGroups) (hsettled : ∀ svc, s.Settled svc → t.Settled svc)
    (hdone : s.ctxDone = true → t.ctxDone = true)
    (hfailure : s.failure = true → t.failure = true) : Waited t := by
  intro hin
  have hawaited : t.awaited = s.awaited := by
    unfold State.awaited State.group
    rw [hrun, hgroups, hstart]
  refine h.carry (hrun ▸ hin) hsettled (fun svc hsvc => .inl (hawaited ▸ hsvc)) hdone
    (fun hfailed hi => ⟨hfailure hfailed, hrun ▸ hi⟩) hin

theorem starting_service (hs : Startup services s) {i k : Nat} (h : s.run = .waitGroupReady i k)
    {svc : Service} (hsvc : (s.group i)[k]? = some svc) {g : Goroutine}
    (hg : s.starting k = some g) : g.service = svc := by
  have hlaunched := congrArg (·[s.startGroups.flatten.length + k]?) hs.launched
  simp only [State.opened, h] at hlaunched
  rw [List.getElem?_append_right (Nat.le_add_right _ _), Nat.add_sub_cancel_left, hsvc,
    List.getElem?_map] at hlaunched
  rw [State.starting] at hg
  rw [hg] at hlaunched
  exact Option.some.inj hlaunched

theorem Waited.runStep (hs : Startup services s) (h : Waited s) (hstep : RunStep services s t) :
    Waited t := by
  have hsettled : ∀ svc, s.Settled svc → t.Settled svc := fun svc hsvc => hsvc.runStep hstep
  cases hstep with
  | lockGroups hrun hfree =>
      have hnone := hs.early (by rw [hrun]; rfl)
      exact fun _ => .inl (by simp [State.awaited, hnone])
  | nextGroup i hrun hi hfailure =>
      refine h.carry ⟨i, .inl hrun⟩ hsettled (fun svc hsvc => .inl ?_) id fun hfailed => ?_
      · simpa [State.awaited, hrun] using hsvc
      · rw [hfailure] at hfailed
        cases hfailed
  | launch i k svc hrun hsvc | launched i k hrun hnone | awaited i hrun =>
      refine h.carry ⟨i, .inr (by rw [hrun]; rfl)⟩ hsettled (fun svc hsvc => .inl ?_) id ?_
      · simpa [State.awaited, hrun] using hsvc
      · simp [hrun]
  | waited i k svc hrun hsvc hready =>
      refine h.carry ⟨i, .inr (by rw [hrun]; rfl)⟩ hsettled (fun dep hdep => ?_) id (by simp [hrun])
      have hdep : dep ∈ s.startGroups.flatten ++ ((s.group i).take k ++ [svc]) :=
        take_group_succ hsvc ▸ hdep
      rw [← List.append_assoc, List.mem_append, List.mem_singleton] at hdep
      rcases hdep with hdep | rfl
      · exact .inl (by simpa [State.awaited, hrun] using hdep)
      · right
        intro hnotifier
        rcases hready with hnot | hready | ⟨g, hg, hexited⟩
        · rw [hnot] at hnotifier
          cases hnotifier
        · exact .inl hready
        · refine .inr ⟨g, List.mem_of_getElem? hg, starting_service hs hrun hsvc hg, ?_⟩
          rcases hexited with hexited | hexited <;> rw [hexited] <;> rfl
  | waitedAll i k hrun hnone =>
      refine h.carry ⟨i, .inr (by rw [hrun]; rfl)⟩ hsettled (fun dep hdep => .inl ?_) id
        (by simp [hrun])
      have hall : (s.group i).take k = s.group i :=
        List.take_of_length_le (List.getElem?_eq_none_iff.mp hnone)
      simp only [State.awaited, hrun, hall]
      exact hdep
  | abandoned i k hrun hwhy =>
      intro _
      rcases hwhy with hwhy | hwhy
      · exact .inr (.inr ⟨hwhy, i, .inr rfl⟩)
      · exact .inr (.inl hwhy)
  | record i hrun =>
      refine h.carry ⟨i, .inr (by rw [hrun]; rfl)⟩ hsettled (fun dep hdep => .inl ?_) id
        fun hfailed _ => ⟨hfailed, i + 1, .inl rfl⟩
      simpa [State.awaited, hrun] using hdep
  | _ => exact .of_not_opened (by simp) rfl

theorem Waited.step {a : Action} (hs : Startup services s) (h : Waited s)
    (hstep : step services s a = some t) : Waited t := by
  have hsettled : ∀ svc, s.Settled svc → t.Settled svc := fun svc hsvc => hsvc.step hstep
  cases step_cases hstep with
  | startRun hidle => exact .of_not_opened (by simp) rfl
  | run hrun => exact h.runStep hs hrun
  | @service n answer g pc hg hnext =>
      refine h.of_eq (by simp) (by simp) (by simp) hsettled (by simp [State.ctxDone]) fun hfailed => ?_
      simp only [ServicePc.effect, State.report]
      repeat' split
      all_goals first | exact hfailed | rfl
  | ready name => exact h.of_eq rfl rfl rfl hsettled id id
  | cancelParent => exact h.of_eq rfl rfl rfl hsettled (fun _ => rfl) id
  | callStop => exact h.of_eq rfl rfl rfl hsettled id id
  | stop hstop =>
      cases hstop with
      | cancel hcancel =>
          refine h.of_eq rfl rfl rfl hsettled (fun hdone => ?_) id
          simp only [State.ctxDone, Bool.or_eq_true] at hdone ⊢
          exact hdone.imp_right .inl
      | _ => exact h.of_eq rfl rfl rfl hsettled id id
  | stopper hst hnext => exact h.of_eq rfl rfl rfl hsettled id id

theorem Waited.of_mem {actions : List Action} {e : Edge State Action}
    (he : e ∈ runs services actions) : Startup services e.source ∧ Waited e.source := by
  obtain ⟨s, hpath⟩ := exists_path_runs services actions
  exact (hpath.invariant_of_mem (fun s => Startup services s ∧ Waited s)
    ⟨.init, .of_not_opened (by simp [init]) rfl⟩
    (fun _ _ hs hstep => ⟨hs.1.step hstep, hs.2.step hs.1 hstep⟩) he).1

end Waited

/-- The groups before the one that is being launched are the recorded ones. -/
theorem Startup.mem_startGroups {services : Services} {s : State} (hs : Startup services s) {i j : Nat}
    (hi : s.run.opened = some i) (hj : j < i) {dep : Service} (hdep : dep ∈ s.group j) :
    dep ∈ s.startGroups.flatten := by
  have hlt : j < s.startGroups.length := hs.index i (.inr hi) ▸ hj
  obtain ⟨rest, hrest⟩ := hs.recorded
  have hgroup : s.group j = s.startGroups[j] := by
    rw [State.group, ← hrest, List.getElem?_append_left hlt, List.getElem?_eq_getElem hlt]
    rfl
  exact List.mem_flatten.mpr ⟨s.startGroups[j], List.getElem_mem hlt, hgroup ▸ hdep⟩

/-- **Groups wait.** A service that is launched while the context is not done is launched after every
service of an earlier group that is to signal readiness has settled. -/
theorem launches_settled (services : Services) (actions : List Action) {e : Edge State Action}
    (he : e ∈ runs services actions) (hdone : e.source.ctxDone = false) : LaunchesSettled e := by
  obtain ⟨hs, hwaited⟩ := Waited.of_mem he
  intro p hp j hj dep hdep hnotifier
  unfold launches at hp
  split at hp
  · next i k _ hrun =>
      obtain ⟨svc, -, rfl⟩ := Option.map_eq_some_iff.mp hp
      have hopened : e.source.run.opened = some i := by rw [hrun]; rfl
      rcases hwaited ⟨i, .inr hopened⟩ with hsettled | hcancelled | ⟨-, l, hl⟩
      · refine hsettled dep ?_ hnotifier
        rw [State.awaited, List.mem_append]
        exact .inl (hs.mem_startGroups hopened hj hdep)
      · rw [hdone] at hcancelled
        cases hcancelled
      · simp [hrun] at hl
  · cases hp

namespace Sample

/-- "web" depends on "db", which signals readiness. -/
def webOverDb : Services where
  map := ⟨[⟨"db", { name := "db", readyNotifier := true }⟩,
    ⟨"web", { name := "web", dependencies := ["db"] }⟩], (by decide : ["db", "web"].Nodup)⟩
  named := by
    intro name svc hlookup
    have hmem := AList.mem_lookup_iff.mp hlookup
    simp only [List.mem_cons, List.not_mem_nil, or_false, Sigma.mk.injEq] at hmem
    rcases hmem with ⟨rfl, heq⟩ | ⟨rfl, heq⟩ <;> cases heq <;> rfl

def run (n : Nat) : List Action := List.replicate n (.run .go)

def service (n k : Nat) : List Action := List.replicate k (.service n .go)

/-- `Run` as far as the order of the services. -/
def resolve (names : List String) : List Action :=
  .startRun :: run 2 ++ [.run (.ranged names names)]

/-- `Run` has launched "db", whose own `Run` has begun, and waits for it. -/
def dbLaunched : List Action := resolve ["db", "web"] ++ run 4 ++ service 0 2 ++ run 1

end Sample

open Sample in
/-- "db" signals readiness, and "web" is launched. -/
theorem launches_settled_ready :
    let actions := dbLaunched ++ [.ready "db", .run .ready] ++ run 4
    (∃ e ∈ runs webOverDb actions, (launches e).map (·.2.name) = some "web") ∧
      (∀ e ∈ runs webOverDb actions, e.source.ctxDone = false) ∧
      ∀ e ∈ runs webOverDb actions, LaunchesSettled e := by
  intro actions
  have hdone : ∀ e ∈ runs webOverDb actions, e.source.ctxDone = false := by decide +kernel
  exact ⟨by decide +kernel, hdone, fun e he => launches_settled webOverDb actions he (hdone e he)⟩

open Sample in
/-- The context is cancelled while `Run` waits for "db": `waitGroupReady` comes back, and "web" is
launched with "db" not ready and running. -/
theorem not_launches_settled :
    ¬∀ e ∈ runs webOverDb (dbLaunched ++ [.cancelParent, .run .cancelled] ++ run 3),
      LaunchesSettled e := by
  decide +kernel

end Pr0xteus.ServiceManager
