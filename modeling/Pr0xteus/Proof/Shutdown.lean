import Pr0xteus.Proof.Spawning

/-!
# What a shutdown leaves behind

`Close` kills what it finds in the slots, one pool after the other, and takes no spawn mutex. A cell
is in a slot from its publication until something else is written there. So a cell is left running
when it is published after `Close` has looked at its pool, and when it was written over before and
nobody had killed it.
-/

namespace Pr0xteus

open Transition

variable {m : Setup} {es fs : List (Edge State Action)} {containerID pool : String} {t : Tunnel}
  {s : State} {a : Action}

/-- `Kill` is invoked on the container in one of the edges. -/
def Killed (es : List (Edge State Action)) (containerID : String) : Prop :=
  ∃ e ∈ es, ∃ pc ∈ actor e, pc.kills = some containerID

/-- What a slot held is written over only after it was killed. -/
def OverwritesKilled (es : List (Edge State Action)) : Prop :=
  ∀ j < es.length, ∀ e ∈ es[j]?, ∀ pc ∈ actor e, ∀ pool ∈ pc.overwrites,
    ∀ t ∈ e.source.shared.slot pool, Killed (es.take j) t.containerID

/-- A publication is to a pool that the `Close` of goroutine `i` has still to look at. -/
def PublishesAhead (i : Nat) (e : Edge State Action) : Prop :=
  ∀ pc ∈ actor e, ∀ pool ∈ pc.publishes, ∃ q ∈ e.source.threads[i]?, pool ∈ q.unvisited

/-- The number of the goroutine that edge `k` starts. -/
def startedBy (es : List (Edge State Action)) (k : Nat) : Nat :=
  (es[k]?.map fun e => e.source.threads.length).getD 0

/-- Edge `k` starts a `Close` and no acquisition starts after it; at the end the `Close` and all
acquisitions have returned. -/
structure Shutdown (es : List (Edge State Action)) (k : Nat) : Prop where
  starts : ∃ e ∈ es[k]?, e.action.closes = true
  last : ∀ e ∈ es.drop (k + 1), e.action.startsAcquisition = false
  closed : ∀ e ∈ es.getLast?, ∀ pc ∈ e.target.threads[startedBy es k]?, pc.task = none
  returned : ∀ e ∈ es.getLast?, ∀ pc ∈ e.target.threads, pc.acquiring = false

/-- Every container that a `Spawn` returned has been killed. -/
def LeavesNone (es : List (Edge State Action)) : Prop :=
  ∀ e ∈ es, ∀ pc ∈ actor e, ∀ containerID ∈ pc.returns, Killed es containerID

instance (es : List (Edge State Action)) (containerID : String) :
    Decidable (Killed es containerID) :=
  inferInstanceAs (Decidable (∃ e ∈ es, ∃ pc ∈ actor e, pc.kills = some containerID))

instance (es : List (Edge State Action)) : Decidable (OverwritesKilled es) :=
  inferInstanceAs (Decidable (∀ j < es.length, ∀ e ∈ es[j]?, ∀ pc ∈ actor e,
    ∀ pool ∈ pc.overwrites, ∀ t ∈ e.source.shared.slot pool, Killed (es.take j) t.containerID))

instance (i : Nat) (e : Edge State Action) : Decidable (PublishesAhead i e) :=
  inferInstanceAs (Decidable (∀ pc ∈ actor e, ∀ pool ∈ pc.publishes,
    ∃ q ∈ e.source.threads[i]?, pool ∈ q.unvisited))

instance (es : List (Edge State Action)) (k : Nat) : Decidable (Shutdown es k) :=
  decidable_of_iff ((∃ e ∈ es[k]?, e.action.closes = true) ∧
      (∀ e ∈ es.drop (k + 1), e.action.startsAcquisition = false) ∧
      (∀ e ∈ es.getLast?, ∀ pc ∈ e.target.threads[startedBy es k]?, pc.task = none) ∧
      ∀ e ∈ es.getLast?, ∀ pc ∈ e.target.threads, pc.acquiring = false)
    ⟨fun ⟨h₁, h₂, h₃, h₄⟩ => ⟨h₁, h₂, h₃, h₄⟩, fun ⟨h₁, h₂, h₃, h₄⟩ => ⟨h₁, h₂, h₃, h₄⟩⟩

instance (es : List (Edge State Action)) : Decidable (LeavesNone es) :=
  inferInstanceAs (Decidable (∀ e ∈ es, ∀ pc ∈ actor e, ∀ containerID ∈ pc.returns,
    Killed es containerID))

theorem Killed.mono (h : Killed es containerID) (hsub : es ⊆ fs) : Killed fs containerID := by
  obtain ⟨e, he, hkills⟩ := h
  exact ⟨e, hsub he, hkills⟩

theorem Killed.concat (h : Killed es containerID) (e : Edge State Action) :
    Killed (es ++ [e]) containerID :=
  h.mono (List.subset_append_left _ _)

theorem OverwritesKilled.of_isPrefix {e : Edge State Action} (h : OverwritesKilled es)
    (hfront : fs ++ [e] <+: es) {pc : Pc} (hpc : pc ∈ actor e) (hpool : pc.overwrites = some pool)
    (ht : e.source.shared.slot pool = some t) : Killed fs t.containerID := by
  obtain ⟨back, rfl⟩ := hfront
  have hkilled := h fs.length (by simp) e (by simp) pc hpc pool hpool t ht
  simpa using hkilled

section Resume

variable {s s' : Shared} {answer : Answer} {pc : Pc} {ret : pc.call.Ret}

theorem overwrites_of_publishes (h : pc.publishes = some pool) : pc.overwrites = some pool := by
  unfold Pc.publishes at h
  split at h <;> cases h
  rfl

theorem overwrites_of_clear (h : pc.call = .setTunnel pool none) : pc.overwrites = some pool := by
  simp [Pc.overwrites, h]

theorem acquiring_of_readied (h : pc.readied = some t) : pc.acquiring = true := by
  unfold Pc.readied at h
  split at h <;> first | rfl | cases h

theorem readied_of_returns (h : pc.returns = some containerID) (ret : pc.call.Ret) :
    ∃ t, (resume m pc ret).readied = some t ∧ t.containerID = containerID := by
  unfold Pc.returns at h
  split at h <;> cases h
  exact ⟨_, rfl, rfl⟩

/-- A tunnel that is returned and not published stays with its goroutine, or is published now. -/
theorem readied_or_published (hexec : exec m s pc.call answer = some (s', ret))
    (hpc : pc.Registered s) (ht : pc.readied = some t) :
    (∃ t', (resume m pc ret).readied = some t' ∧ t'.containerID = t.containerID) ∨
      ∃ pool t', s'.slot pool = some t' ∧ t'.containerID = t.containerID := by
  cases pc with
  | acquire a stage =>
      cases stage with
      | useClock mu t' =>
          cases ht
          exact .inl ⟨t, rfl, rfl⟩
      | publish mu t' now =>
          cases ht
          have hslot := slot_exec_setTunnel hexec a.state
          rw [if_pos ⟨rfl, hpc.1⟩] at hslot
          exact .inr ⟨a.state, _, hslot, rfl⟩
      | _ => cases ht
  | _ => cases ht

end Resume

/-- A container that a `Spawn` returned has been killed, or is on its way into a slot, or is in
one. -/
def Tracked (es : List (Edge State Action)) (s : State) : Prop :=
  ∀ e ∈ es, ∀ pc ∈ actor e, ∀ containerID ∈ pc.returns,
    Killed es containerID ∨
      (∃ q ∈ s.threads, ∃ t, q.readied = some t ∧ t.containerID = containerID) ∨
      ∃ pool t, s.shared.slot pool = some t ∧ t.containerID = containerID

/-- What a step does to a container on its way into a slot or in one: it stays there, or it was
killed before it was written over. -/
theorem tracked_turn {i : Nat} {answer : Answer} {pc : Pc} {shared : Shared} {ret : pc.call.Ret}
    (hguarded : Guarded s) (hpc : s.threads[i]? = some pc)
    (hexec : exec m s.shared pc.call answer = some (shared, ret))
    (hoverwrites : ∀ pool, pc.overwrites = some pool → ∀ t, s.shared.slot pool = some t →
      Killed es t.containerID)
    (h : (∃ q ∈ s.threads, ∃ t, q.readied = some t ∧ t.containerID = containerID) ∨
      ∃ pool t, s.shared.slot pool = some t ∧ t.containerID = containerID) :
    Killed es containerID ∨
      (∃ q ∈ s.threads.set i (resume m pc ret), ∃ t, q.readied = some t ∧
        t.containerID = containerID) ∨
      ∃ pool t, shared.slot pool = some t ∧ t.containerID = containerID := by
  obtain ⟨hlt, hget⟩ := List.getElem?_eq_some_iff.mp hpc
  have hmoved : resume m pc ret ∈ s.threads.set i (resume m pc ret) :=
    List.mem_set hlt _
  obtain ⟨q, hq, t, ht, rfl⟩ | ⟨pool, t, hslot, rfl⟩ := h
  · obtain ⟨j, hj⟩ := List.mem_iff_getElem?.mp hq
    by_cases hij : i = j
    · subst hij
      obtain rfl : pc = q := Option.some.inj (hpc.symm.trans hj)
      obtain ⟨t', ht', hid⟩ | hslot := readied_or_published hexec (hguarded.registered i pc hpc) ht
      · exact .inr (.inl ⟨_, hmoved, t', ht', hid⟩)
      · exact .inr (.inr hslot)
    · have hj' : (s.threads.set i (resume m pc ret))[j]? = some q := by
        rw [List.getElem?_set_ne hij, hj]
      exact .inr (.inl ⟨q, List.mem_of_getElem? hj', t, ht, rfl⟩)
  · obtain ⟨t', hslot', hcell⟩ | hpublishes | hclear := (turn_of_exec hexec).slot_stays hslot
    · exact .inr (.inr ⟨pool, t', hslot', hcell.containerID⟩)
    · exact .inl (hoverwrites pool (overwrites_of_publishes hpublishes) t hslot)
    · exact .inl (hoverwrites pool (overwrites_of_clear hclear) t hslot)

theorem tracked_step {s t : State} (hguarded : Guarded s) (h : Tracked es s)
    (hstep : step m s a = some t)
    (hoverwrites : ∀ pc ∈ actor ⟨s, a, t⟩, ∀ pool, pc.overwrites = some pool →
      ∀ u, s.shared.slot pool = some u → Killed es u.containerID) :
    Tracked (es ++ [⟨s, a, t⟩]) t := by
  intro e he pc hpc containerID hreturns
  rcases List.mem_append.mp he with he | he
  · obtain hkilled | hplace := h e he pc hpc containerID hreturns
    · exact .inl (hkilled.concat _)
    cases step_cases hstep with
    | tick d => exact .inr hplace
    | start entry hvisits =>
        refine .inr (hplace.imp_left ?_)
        rintro ⟨q, hq, hready⟩
        exact ⟨q, List.mem_append_left _ hq, hready⟩
    | turn i answer mover shared ret hmover hexec =>
        exact (tracked_turn hguarded hmover hexec (hoverwrites mover hmover) hplace).imp_left
          fun hkilled => hkilled.concat _
  · obtain rfl := List.mem_singleton.mp he
    obtain ⟨i, answer, ret, hi, hexec, htarget⟩ := turn_of_actor hstep hpc
    obtain ⟨u, hu, hid⟩ := readied_of_returns (m := m) hreturns ret
    exact .inr (.inl ⟨_, List.mem_of_getElem? htarget, u, hu, hid⟩)

theorem tracked_of_path (hpath : Path (step m) (init m) es s) (hkilled : OverwritesKilled es) :
    Tracked es s := by
  have hboth : Guarded s ∧ Tracked es s := by
    refine hpath.history_along (fun es s => Guarded s ∧ Tracked es s) ?_ ?_
    · exact ⟨guarded_of_path (.nil _), by simp [Tracked]⟩
    · rintro fs u a v ⟨hguarded, htracked⟩ hstep hfront
      refine ⟨guarded_step hguarded hstep, tracked_step hguarded htracked hstep ?_⟩
      intro pc hpc pool hpool t ht
      exact hkilled.of_isPrefix hfront hpc hpool ht
  exact hboth.2

/-- What is in the slots `Close` has looked at, as goroutine `i`, has been killed or is what it kills
next. -/
structure Swept (m : Setup) (i : Nat) (es : List (Edge State Action)) (s : State) (q : Pc) :
    Prop where
  thread : s.threads[i]? = some q
  task : q.task = some .close ∨ q.task = none
  slots : ∀ pool ∈ m.poolNames, pool ∉ q.unvisited → ∀ t, s.shared.slot pool = some t →
    Killed es t.containerID ∨ q.kills = some t.containerID

@[simp]
theorem unvisited_closeNext (names : List String) : (closeNext names).unvisited = names := by
  cases names <;> rfl

/-- One step of `Close`: it looks at the next pool, kills what it found there, or clears the slot. -/
theorem swept_resume {s s' : Shared} {answer : Answer} {stage : CloseStage}
    {ret : (Pc.close stage).call.Ret}
    (hexec : exec m s (Pc.close stage).call answer = some (s', ret))
    (hnamed : ∀ pool t, s.slot pool = some t → t.containerID ≠ "")
    (hpool : pool ∉ (resume m (.close stage) ret).unvisited) (ht : s'.slot pool = some t) :
    (resume m (.close stage) ret).kills = some t.containerID ∨
      s.slot pool = some t ∧ pool ∉ (Pc.close stage).unvisited := by
  cases stage with
  | pool look names =>
      obtain ⟨rfl, rfl⟩ := Prod.mk.inj (Option.some.inj hexec)
      by_cases hlook : pool = look
      · subst hlook
        have hresume : resume m (.close (.pool pool names)) (s.slot pool) =
            .close (.kill pool t.containerID names) := by
          rw [ht]
          exact if_neg (hnamed pool t ht)
        rw [hresume]
        exact .inl rfl
      · refine .inr ⟨ht, ?_⟩
        have hnames : (resume m (.close (.pool look names)) (s.slot look)).unvisited = names := by
          cases hslot : s.slot look with
          | none => exact unvisited_closeNext names
          | some u =>
              simp only [resume]
              split
              · exact unvisited_closeNext names
              · rfl
        rw [hnames] at hpool
        simpa [Pc.unvisited, hlook] using hpool
  | kill look containerID names =>
      obtain ⟨rfl, rfl⟩ := Prod.mk.inj (Option.some.inj hexec)
      exact .inr ⟨ht, hpool⟩
  | clear look containerID names =>
      rw [slot_exec_clear hexec rfl] at ht
      split at ht
      · cases ht
      · have hnames : pool ∉ names := by simpa [resume] using hpool
        exact .inr ⟨ht, hnames⟩

theorem swept_step {i : Nat} {s t : State} {q : Pc} (h : Swept m i es s q)
    (hstep : step m s a = some t)
    (hnamed : ∀ pool u, s.shared.slot pool = some u → u.containerID ≠ "")
    (hahead : PublishesAhead i ⟨s, a, t⟩) : ∃ q', Swept m i (es ++ [⟨s, a, t⟩]) t q' := by
  cases step_cases hstep with
  | tick d =>
      exact ⟨q, h.thread, h.task, fun pool hmem hvisited u hu =>
        (h.slots pool hmem hvisited u hu).imp_left fun hkilled => hkilled.concat _⟩
  | start entry hvisits =>
      refine ⟨q, ?_, h.task, fun pool hmem hvisited u hu =>
        (h.slots pool hmem hvisited u hu).imp_left fun hkilled => hkilled.concat _⟩
      obtain ⟨hlt, -⟩ := List.getElem?_eq_some_iff.mp h.thread
      rw [List.getElem?_append_left hlt]
      exact h.thread
  | turn j answer pc shared ret hpc hexec =>
      by_cases hij : j = i
      · subst hij
        obtain rfl : q = pc := Option.some.inj (h.thread.symm.trans hpc)
        obtain ⟨hlt, -⟩ := List.getElem?_eq_some_iff.mp hpc
        refine ⟨resume m q ret, List.getElem?_set_self hlt, ?_, fun pool hmem hvisited u hu => ?_⟩
        · obtain htask | htask := task_resume (m := m) ret
          · exact htask ▸ h.task
          · exact .inr htask
        · cases q with
          | close stage =>
              obtain hkills | ⟨hslot, hbefore⟩ := swept_resume hexec hnamed hvisited hu
              · exact .inr hkills
              · left
                obtain hkilled | hkills := h.slots pool hmem hbefore u hslot
                · exact hkilled.concat _
                · exact ⟨_, List.mem_append_right _ (List.mem_singleton.mpr rfl), _, hpc, hkills⟩
          | done | failed err => exact absurd hexec.symm (Option.some_ne_none _)
          | _ => obtain htask | htask := h.task <;> cases htask
      · refine ⟨q, ?_, h.task, fun pool hmem hvisited u hu => ?_⟩
        · rw [List.getElem?_set_ne hij]
          exact h.thread
        · obtain ⟨u', hslot, hcell⟩ | ⟨hpublishes, -⟩ := (turn_of_exec hexec).slot_cases hu
          · exact hcell.containerID ▸ (h.slots pool hmem hvisited u' hslot).imp_left
              fun hkilled => hkilled.concat _
          · obtain ⟨q', hq', hunvisited⟩ := hahead pc hpc pool hpublishes
            obtain rfl : q = q' := Option.some.inj (h.thread.symm.trans hq')
            exact absurd hunvisited hvisited

theorem swept_start {s t : State} (hstep : step m s a = some t) (hcloses : a.closes = true) :
    ∃ q, Swept m s.threads.length [] t q := by
  cases step_cases hstep with
  | start entry hvisits =>
      cases entry with
      | close names =>
          refine ⟨closeNext names, by simp [Entry.start], task_closeNext names,
            fun pool hpool hvisited => ?_⟩
          rw [unvisited_closeNext] at hvisited
          exact absurd ((List.isPerm_iff.mp hvisits).mem_iff.mpr hpool) hvisited
      | _ => cases hcloses
  | _ => cases hcloses

theorem swept_of_path {front fs : List (Edge State Action)} {e : Edge State Action}
    (hfront : Path (step m) (init m) front e.source)
    (hstep : step m e.source e.action = some e.target) (hfs : Path (step m) e.target fs s)
    (hcloses : e.action.closes = true) (hahead : ∀ f ∈ fs, PublishesAhead e.source.threads.length f) :
    ∃ q, Swept m e.source.threads.length fs s q := by
  have hnamed : ∀ u : State, WellFormed u ∧ u.shared.docker "" = none →
      ∀ pool t, u.shared.slot pool = some t → t.containerID ≠ "" :=
    fun u hu pool t => hu.1.ne_empty hu.2
  have hboth := hfs.history
    (fun fs u => (WellFormed u ∧ u.shared.docker "" = none) ∧
      ∃ q, Swept m e.source.threads.length fs u q) ⟨?_, swept_start hstep hcloses⟩ ?_
  · exact hboth.2
  · exact ⟨wellFormed_step (wellFormed_of_path hfront) hstep,
      docker_empty_step hstep (docker_empty_of_path hfront)⟩
  · rintro gs u a v ⟨hu, q, hswept⟩ huv hmem
    exact ⟨⟨wellFormed_step hu.1 huv, docker_empty_step huv hu.2⟩,
      swept_step hswept huv (hnamed u hu) (hahead _ hmem)⟩

/-- In a run where nothing is written over a cell that was not killed, and nothing is published to a
pool once `Close` has looked at it, a shutdown leaves no cell behind. -/
theorem close_leaves_none (m : Setup) (actions : List Action) (k : Nat)
    (hshutdown : Shutdown (run m actions) k) (hkilled : OverwritesKilled (run m actions))
    (hahead : ∀ e ∈ (run m actions).drop (k + 1),
      PublishesAhead (startedBy (run m actions) k) e) : LeavesNone (run m actions) := by
  obtain ⟨s, hpath⟩ := exists_path_run m actions
  obtain ⟨e, he, hcloses⟩ := hshutdown.starts
  have hnumber : startedBy (run m actions) k = e.source.threads.length := by
    rw [startedBy, he]
    rfl
  obtain ⟨hfront, hstep, hback⟩ := hpath.cut he
  obtain ⟨q, hswept⟩ := swept_of_path hfront hstep hback hcloses fun f hf => hnumber ▸ hahead f hf
  obtain ⟨last, hlast, rfl⟩ : ∃ last, (run m actions).getLast? = some last ∧ last.target = s := by
    have hne : run m actions ≠ [] := List.ne_nil_of_mem (List.mem_of_getElem? he)
    refine ⟨_, List.getLast?_eq_some_getLast hne, ?_⟩
    rw [hpath.eq_final, final, List.getLast?_eq_some_getLast hne]
    rfl
  have hclosed : q.task = none :=
    hshutdown.closed last hlast q (by rw [hnumber]; exact hswept.thread)
  have hthrough : q.unvisited = [] ∧ q.kills = none := by
    cases q with
    | done | failed err => exact ⟨rfl, rfl⟩
    | _ => cases hclosed
  intro f hf pc hpc containerID hreturns
  obtain hdone | ⟨r, hr, t, ht, -⟩ | ⟨pool, t, hslot, rfl⟩ :=
    tracked_of_path hpath hkilled f hf pc hpc containerID hreturns
  · exact hdone
  · have hreturned := hshutdown.returned last hlast r hr
    rw [acquiring_of_readied ht] at hreturned
    cases hreturned
  · obtain hswept | hkills := hswept.slots pool (mem_poolNames_of_slot hpath hslot)
      (by simp [hthrough.1]) t hslot
    · exact hswept.mono (List.drop_subset _ _)
    · rw [hthrough.2] at hkills
      cases hkills

open Schedule in
/-- `Close` starts while a request has a cell that is ready and not published yet. The request
publishes it before `Close` looks at its pool, and `Close` finds it in its slot. -/
theorem close_leaves_none_publishing :
    let actions := .start (.proxy "de" none false) :: ready 0 0 "x" ++ [.start (.close ["de"])] ++
      go 0 2 ++ go 1 3 ++ lease 0 1 2
    let k := (ready 0 0 "x").length + 1
    Shutdown (run setup actions) k ∧ OverwritesKilled (run setup actions) ∧
      (∀ e ∈ (run setup actions).drop (k + 1),
        PublishesAhead (startedBy (run setup actions) k) e) ∧ LeavesNone (run setup actions) := by
  intro actions k
  have hshutdown : Shutdown (run setup actions) k := by decide +kernel
  have hkilled : OverwritesKilled (run setup actions) := by decide +kernel
  have hahead : ∀ e ∈ (run setup actions).drop (k + 1),
      PublishesAhead (startedBy (run setup actions) k) e := by decide +kernel
  exact ⟨hshutdown, hkilled, hahead, close_leaves_none setup actions k hshutdown hkilled hahead⟩

open Schedule in
/-- `Close` looks at the pool while a request is waiting for its cell to become ready; the cell is
published afterwards, to a slot nobody looks at any more. -/
theorem not_close_leaves_none :
    let actions := .start (.proxy "de" none false) :: go 0 5 ++
      steps 0 [.draw 0, .container "x"] ++ .start (.close ["de"]) :: go 1 1 ++
      steps 0 [.ready "x:1080" "x:9050"] ++ go 0 4 ++ lease 0 1 2
    Shutdown (run setup actions) 8 ∧ ¬LeavesNone (run setup actions) := by
  decide +kernel

end Pr0xteus
