import Pr0xteus.Proof.WellFormed

/-!
# Which tunnel a clear removes

`killTunnel`, `Close` and `DestroyCell` set a slot to nil without looking at what it holds by then.
Between the moment they settle on a container and the clear, a request that finds the tunnel marked
or excluded can publish its replacement, and the clear removes the replacement.
-/

namespace Pr0xteus

open Transition

variable {m : Setup}

/-- A clear on behalf of a container finds that container in the slot, or nothing. -/
def ClearsOwn (e : Edge State Action) : Prop :=
  ∀ pc ∈ actor e, ∀ c ∈ pc.clears, ∀ t ∈ e.source.shared.slot c.1, t.containerID = c.2

/-- A spawn publishes its tunnel to a pool that nobody is clearing. -/
def PublishesAlone (e : Edge State Action) : Prop :=
  ∀ pc ∈ actor e, ∀ pool ∈ pc.publishes, ∀ q ∈ e.source.threads, ∀ c ∈ q.clearing, c.1 ≠ pool

/-- A `killTunnel` marks while the slot is empty or still holds the tunnel it goes for. -/
def MarksOwn (e : Edge State Action) : Prop :=
  ∀ pc ∈ actor e, ∀ k ∈ pc.marks, ∀ t ∈ e.source.shared.slot k.1, t.containerID = k.2.containerID

instance (e : Edge State Action) : Decidable (ClearsOwn e) :=
  inferInstanceAs (Decidable (∀ pc ∈ actor e, ∀ c ∈ pc.clears,
    ∀ t ∈ e.source.shared.slot c.1, t.containerID = c.2))

instance (e : Edge State Action) : Decidable (PublishesAlone e) :=
  inferInstanceAs (Decidable (∀ pc ∈ actor e, ∀ pool ∈ pc.publishes,
    ∀ q ∈ e.source.threads, ∀ c ∈ q.clearing, c.1 ≠ pool))

instance (e : Edge State Action) : Decidable (MarksOwn e) :=
  inferInstanceAs (Decidable (∀ pc ∈ actor e, ∀ k ∈ pc.marks,
    ∀ t ∈ e.source.shared.slot k.1, t.containerID = k.2.containerID))

section Resume

variable {s s' : Shared} {answer : Answer} {pc : Pc}

theorem isBusy_of_clearing {c : String × String} (h : pc.clearing = some c) :
    pc.isBusy = true := by
  unfold Pc.clearing at h
  split at h <;> first | rfl | cases h

/-- How a goroutine comes to be clearing a pool: it was already, or it marked a tunnel of the pool,
or it has just seen the container in the slot. -/
theorem clearing_resume {ret : pc.call.Ret} (hexec : exec m s pc.call answer = some (s', ret))
    {c : String × String} (hc : (resume m pc ret).clearing = some c) :
    pc.publishes = none ∧
      (pc.clearing = some c ∨ (∃ t, pc.marks = some (c.1, t) ∧ t.containerID = c.2) ∨
        ∃ t, s.slot c.1 = some t ∧ t.containerID = c.2) := by
  have hbusy := isBusy_of_clearing hc
  obtain ⟨hbackground, hnext⟩ := backgroundNext_of_isBusy hexec hbusy
  refine ⟨publishes_of_isBackground hbackground, ?_⟩
  generalize resume m pc ret = pc' at hnext hc
  cases hnext with
  | killInvoke pass pool t =>
      cases hc
      exact .inr (.inl ⟨t, rfl, rfl⟩)
  | killClear pass pool t => exact .inl hc
  | destroyClear containerID pool names t hslot hid =>
      cases hc
      exact .inr (.inr ⟨t, hslot, hid⟩)
  | closeKill pool names t hslot =>
      cases hc
      exact .inr (.inr ⟨t, hslot, rfl⟩)
  | closeClear pool containerID names => exact .inl hc
  | _ => cases hc

end Resume

/-- Whoever is clearing a pool finds its container there, or nothing. -/
def ClearingOwn (s : State) : Prop :=
  ∀ pc ∈ s.threads, ∀ c ∈ pc.clearing, ∀ t ∈ s.shared.slot c.1, t.containerID = c.2

theorem clearing_of_clears {pc : Pc} {c : String × String} (h : pc.clears = some c) :
    pc.clearing = some c := by
  unfold Pc.clears at h
  split at h <;> first | exact h | cases h

theorem Turn.slot_containerID {s s' : Shared} {pc pc' : Pc} (hturn : Turn s pc s' pc')
    {pool containerID : String} (hpublishes : pc.publishes ≠ some pool)
    (hbefore : ∀ t ∈ s.slot pool, t.containerID = containerID) :
    ∀ t ∈ s'.slot pool, t.containerID = containerID := by
  intro t ht
  obtain ⟨t', hslot, hcell⟩ | ⟨hpublishes', -⟩ := hturn.slot_cases ht
  · exact hcell.containerID ▸ hbefore t' hslot
  · exact absurd hpublishes' hpublishes

theorem clearingOwn_step {s t : State} {a : Action} (hown : ClearingOwn s)
    (hpublishes : PublishesAlone ⟨s, a, t⟩) (hmarks : MarksOwn ⟨s, a, t⟩)
    (hstep : step m s a = some t) : ClearingOwn t := by
  cases step_cases hstep with
  | tick d => exact hown
  | start entry hvisits =>
      intro pc hpc c hc
      rcases List.mem_append.mp hpc with hpc | hpc
      · exact hown pc hpc c hc
      · obtain rfl := List.mem_singleton.mp hpc
        have hbusy := isBusy_of_clearing hc
        simp at hbusy
  | turn i answer pc shared ret hpc hexec =>
      have hturn := turn_of_exec hexec
      have hmem := List.mem_of_getElem? hpc
      intro q hq c hc
      rcases List.mem_or_eq_of_mem_set hq with hq | rfl
      · -- the goroutine that moves publishes nothing to a pool another one is clearing
        exact hturn.slot_containerID (fun hp => hpublishes pc hpc c.1 hp q hq c hc rfl)
          (hown q hq c hc)
      · obtain ⟨hnone, hcauses⟩ := clearing_resume hexec hc
        refine hturn.slot_containerID (by simp [hnone]) ?_
        obtain hbefore | ⟨t, hmark, hid⟩ | ⟨t, hslot, hid⟩ := hcauses
        · exact hown pc hmem c hbefore
        · exact hid ▸ hmarks pc hpc (c.1, t) hmark
        · rintro t' ht'
          obtain rfl : t = t' := Option.some.inj (hslot.symm.trans ht')
          exact hid

/-- In a run where no spawn publishes to a pool that is being cleared, and every `killTunnel` marks
the tunnel it goes for or finds the slot empty, no clear removes another container's tunnel. -/
theorem clears_own_container (m : Setup) (actions : List Action)
    (halone : ∀ e ∈ run m actions, PublishesAlone e)
    (hmarks : ∀ e ∈ run m actions, MarksOwn e) : ∀ e ∈ run m actions, ClearsOwn e := by
  intro e he
  obtain ⟨s, hpath⟩ := exists_path_run m actions
  have hown : ClearingOwn e.source :=
    (hpath.invariant_of_mem ClearingOwn (by simp [ClearingOwn, init])
      (fun e he hown hstep => clearingOwn_step hown (halone e he) (hmarks e he) hstep) he).1
  intro pc hpc c hc
  exact hown pc (mem_threads_of_actor hpc) c (clearing_of_clears hc)

open Schedule in
/-- An idle pass over a pool nobody uses meanwhile. -/
theorem clears_own_container_idle :
    let actions := .start (.proxy "de" none false) :: ready 0 0 "x" ++ go 0 2 ++ lease 0 1 2 ++
      [.tick 600000000000, .start (.reapIdle ["de"])] ++ steps 1 [.ok, .handles [], .ok] ++ go 1 3
    (∀ e ∈ run setup actions, PublishesAlone e) ∧ (∀ e ∈ run setup actions, MarksOwn e) ∧
      ∀ e ∈ run setup actions, ClearsOwn e := by
  intro actions
  have halone : ∀ e ∈ run setup actions, PublishesAlone e := by decide +kernel
  have hmarks : ∀ e ∈ run setup actions, MarksOwn e := by decide +kernel
  exact ⟨halone, hmarks, clears_own_container setup actions halone hmarks⟩

open Schedule in
/-- The idle reaper marks and kills `x`; a request finds it reaping, spawns `y` and publishes it; the
reaper then clears the slot that holds `y`. -/
theorem not_clears_own_container :
    ¬∀ e ∈ run setup (.start (.proxy "de" none false) :: ready 0 0 "x" ++ go 0 2 ++ lease 0 1 2 ++
      [.tick 600000000000, .start (.reapIdle ["de"])] ++ steps 1 [.ok, .handles [], .ok] ++ go 1 2 ++
      .start (.proxy "de" none false) :: ready 2 1 "y" ++ go 2 1 ++ go 1 1), ClearsOwn e := by
  decide +kernel

end Pr0xteus
