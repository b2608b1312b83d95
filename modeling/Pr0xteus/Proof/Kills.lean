import Pr0xteus.Proof.Cold
import Pr0xteus.Proof.Orphans

/-!
# Nobody is given a killed cell

`killTunnel` marks the tunnel before the kill, and from then on nobody can acquire it. `DestroyCell`,
`Close` and the orphan passes kill first: what they kill while it is hot in a slot, or still being
readied, is handed out until somebody clears the slot.
-/

namespace Pr0xteus

open Transition

variable {m : Setup} {pc : Pc} {containerID pool : String} {k : String × String} {s : Shared}
  {es : List (Edge State Action)}

/-- Nobody acquires in the second edge what is killed in the first. -/
def Unacquired (e f : Edge State Action) : Prop :=
  ∀ pc ∈ actor e, ∀ containerID ∈ pc.kills, ∀ q ∈ actor f, ∀ t ∈ q.acquires f.source.shared,
    t.containerID ≠ containerID

/-- `DestroyCell` and the orphan passes kill nothing that somebody is still readying, and the orphan
passes nothing that is hot in its pool's slot. -/
def KillsSettled (e : Edge State Action) : Prop :=
  ∀ pc ∈ actor e,
    (∀ containerID ∈ pc.destroys <|> pc.orphanKills, ∀ q ∈ e.source.threads,
      q.readies containerID = false) ∧
    ∀ containerID ∈ pc.orphanKills, ∀ c ∈ e.source.shared.docker containerID,
      ∀ t ∈ e.source.shared.slot c.pool, t.containerID = containerID → t.state ≠ .hot

/-- Nobody asks for the tunnel of a pool while the hot tunnel there is one that `DestroyCell` or
`Close` has killed and not yet cleared away. -/
def AsksApart (e : Edge State Action) : Prop :=
  ∀ pc ∈ actor e, ∀ pool ∈ pc.asks, ∀ t ∈ e.source.shared.slot pool, t.state = .hot →
    ∀ q ∈ e.source.threads, q.removes ≠ some t.containerID

instance (e f : Edge State Action) : Decidable (Unacquired e f) :=
  inferInstanceAs (Decidable (∀ pc ∈ actor e, ∀ containerID ∈ pc.kills, ∀ q ∈ actor f,
    ∀ t ∈ q.acquires f.source.shared, t.containerID ≠ containerID))

instance (e : Edge State Action) : Decidable (KillsSettled e) :=
  inferInstanceAs (Decidable (∀ pc ∈ actor e,
    (∀ containerID ∈ pc.destroys <|> pc.orphanKills, ∀ q ∈ e.source.threads,
      q.readies containerID = false) ∧
    ∀ containerID ∈ pc.orphanKills, ∀ c ∈ e.source.shared.docker containerID,
      ∀ t ∈ e.source.shared.slot c.pool, t.containerID = containerID → t.state ≠ .hot))

instance (e : Edge State Action) : Decidable (AsksApart e) :=
  inferInstanceAs (Decidable (∀ pc ∈ actor e, ∀ pool ∈ pc.asks,
    ∀ t ∈ e.source.shared.slot pool, t.state = .hot →
      ∀ q ∈ e.source.threads, q.removes ≠ some t.containerID))

section Resume

variable {s s' : Shared} {answer : Answer} {pc : Pc} {ret : pc.call.Ret}

theorem isBusy_of_seen (h : pc.seen = some k) : pc.isBusy = true := by
  unfold Pc.seen at h
  split at h <;> first | rfl | cases h

theorem seen_of_reaps (h : pc.reaps = some k) : pc.seen = some k := by
  unfold Pc.reaps at h
  split at h
  · exact h
  · cases h

theorem seen_resume (hexec : exec m s pc.call answer = some (s', ret))
    (hk : (resume m pc ret).seen = some k) :
    pc.seen = some k ∨ ∃ t, s.slot k.1 = some t ∧ t.containerID = k.2 := by
  have hbusy := isBusy_of_seen hk
  have hnext := (backgroundNext_of_isBusy hexec hbusy).2
  generalize resume m pc ret = pc' at hnext hk
  cases hnext with
  | idleStatus now urls pool names t url hslot =>
      cases hk
      exact .inr ⟨t, hslot, rfl⟩
  | idleKill now urls pool names t hslot =>
      cases hk
      exact .inr ⟨t, hslot, rfl⟩
  | healthProbe urls pool names t url hslot =>
      cases hk
      exact .inr ⟨t, hslot, rfl⟩
  | healthAge urls pool names t hslot =>
      cases hk
      exact .inr ⟨t, hslot, rfl⟩
  | closeKill pool names t hslot =>
      cases hk
      exact .inr ⟨t, hslot, rfl⟩
  | statusKill | probeFail | ageFail | recordFailure | healthKill | killInvoke => exact .inl hk
  | _ => cases hk

theorem reaps_resume (hexec : exec m s pc.call answer = some (s', ret))
    (hk : (resume m pc ret).reaps = some k) : Cold s' k.1 k.2 := by
  have hbusy := isBusy_of_seen (seen_of_reaps hk)
  have hnext := (backgroundNext_of_isBusy hexec hbusy).2
  generalize resume m pc ret = pc' at hnext hk
  cases hnext with
  | killInvoke pass pool t =>
      cases hk
      exact cold_of_markReaping hexec
  | _ => cases hk

end Resume

/-- What a `DestroyCell` that has not killed yet goes by: all pools are still to be searched, and the
container is one the daemon listed. -/
def Pc.Searches (m : Setup) (s : Shared) : Pc → Prop
  | .destroy _ (.list names) => ∀ pool ∈ m.poolNames, pool ∈ names
  | .destroy containerID (.kill names) =>
      (∀ pool ∈ m.poolNames, pool ∈ names) ∧ (s.docker containerID).isSome = true
  | _ => True

theorem searches_of_task_ne (h : pc.task ≠ some .destroyCell) : pc.Searches m s := by
  cases pc with
  | destroy containerID stage => exact absurd rfl h
  | _ => trivial

theorem searches_start (entry : Entry) (hvisits : entry.visitsPools m = true) :
    entry.start.Searches m s := by
  cases entry with
  | destroyCell containerID names =>
      intro pool hpool
      exact (List.isPerm_iff.mp hvisits).mem_iff.mpr hpool
  | reapOrphans names | close names => cases names <;> trivial
  | _ => trivial

theorem searches_destroyNext (containerID : String) (names : List String) :
    (destroyNext containerID names).Searches m s := by
  cases names <;> trivial

theorem searches_resume {s s' : Shared} {answer : Answer} {ret : pc.call.Ret}
    (hexec : exec m s pc.call answer = some (s', ret)) (h : pc.Searches m s)
    (hdocker : ∀ id, (s.docker id).isSome = true → (s'.docker id).isSome = true) :
    (resume m pc ret).Searches m s' := by
  by_cases htask : (resume m pc ret).task = some .destroyCell
  swap
  · exact searches_of_task_ne htask
  obtain hsame | hthrough := task_resume (m := m) ret
  · rw [htask] at hsame
    cases pc with
    | destroy containerID stage =>
        cases stage with
        | list names =>
            rcases ret with _ | listed
            · trivial
            · simp only [resume]
              split
              · next hmem => exact ⟨h, hdocker containerID (docker_of_listed hexec hmem)⟩
              · trivial
        | kill names => exact searches_destroyNext containerID names
        | find pool names =>
            simp only [resume]
            split
            · exact searches_destroyNext containerID names
            · split
              · trivial
              · exact searches_destroyNext containerID names
        | clear pool => trivial
    | _ => cases hsame
  · rw [htask] at hthrough
    cases hthrough

/-- What the reaper and `Close` work on is settled, and cold once the reaper comes to the kill. -/
structure Targets (m : Setup) (s : State) : Prop where
  seen : ∀ pc ∈ s.threads, ∀ k ∈ pc.seen, s.Settled k.2 k.1
  reaped : ∀ pc ∈ s.threads, ∀ k ∈ pc.reaps, Cold s.shared k.1 k.2
  searched : ∀ pc ∈ s.threads, pc.Searches m s.shared

theorem targets_step {s t : State} {a : Action} (hwf : WellFormed s) (h : Targets m s)
    (hstep : step m s a = some t) : Targets m t := by
  refine ⟨?_, ?_, ?_⟩
  · refine forall_mem_threads_of_step hstep h.seen ?_ ?_ ?_
    · intro pc hpc k hk
      exact (hpc k hk).step hstep
    · intro entry _ _ k hk
      have hbusy := isBusy_of_seen hk
      simp at hbusy
    · intro i answer pc ret _ hpc hexec k hk
      obtain hbefore | ⟨t, hslot, hid⟩ := seen_resume hexec hk
      · exact (h.seen pc (List.mem_of_getElem? hpc) k hbefore).step hstep
      · exact hid ▸ (hwf.slot k.1 t hslot).step hstep
  · refine forall_mem_threads_of_step (P := fun pc => ∀ k ∈ pc.reaps,
      s.Settled k.2 k.1 ∧ Cold s.shared k.1 k.2) hstep ?_ ?_ ?_ ?_
    · intro pc hpc k hk
      exact ⟨h.seen pc hpc k (seen_of_reaps hk), h.reaped pc hpc k hk⟩
    · intro pc hpc k hk
      obtain ⟨hsettled, hcold⟩ := hpc k hk
      exact hcold.step hwf hsettled hstep
    · intro entry _ _ k hk
      have hbusy := isBusy_of_seen (seen_of_reaps hk)
      simp at hbusy
    · intro i answer pc ret _ hpc hexec k hk
      exact reaps_resume hexec hk
  · have hdocker : ∀ id, (s.shared.docker id).isSome = true → (t.shared.docker id).isSome = true := by
      intro id hid
      obtain ⟨c, hc⟩ := Option.isSome_iff_exists.mp hid
      exact Option.isSome_iff_exists.mpr ⟨c, docker_step hstep hc⟩
    refine forall_mem_threads_of_step hstep h.searched ?_ ?_ ?_
    · intro pc hpc
      unfold Pc.Searches at hpc ⊢
      split
      · exact hpc
      · exact ⟨hpc.1, hdocker _ hpc.2⟩
      · trivial
    · intro entry _ hvisits
      exact searches_start entry hvisits
    · intro i answer pc ret _ hpc hexec
      exact searches_resume hexec (h.searched pc (List.mem_of_getElem? hpc)) hdocker

theorem targets_of_path {s : State} (hpath : Path (step m) (init m) es s) : Targets m s := by
  refine (hpath.invariant (fun s => WellFormed s ∧ Targets m s) ⟨wellFormed_init, ?_⟩ ?_).2
  · exact ⟨by simp [init], by simp [init], by simp [init]⟩
  · rintro e - ⟨hwf, htargets⟩ hstep
    exact ⟨wellFormed_step hwf hstep, targets_step hwf htargets hstep⟩

theorem labelled_of_orphanKills {e : Edge State Action} (hpath : Path (step m) (init m) es e.source)
    (hpc : pc ∈ actor e) (hid : pc.orphanKills = some containerID) :
    ∃ pool, e.source.shared.Labelled containerID pool := by
  obtain ⟨i, hi⟩ := thread_of_actor hpc
  obtain ⟨f, hf, keep, listed, c, -, -, rfl, hreports, -⟩ :=
    chosen_of_killsOrphan hpath rfl ⟨hi, pc, hpc, hid⟩
  unfold Shared.reports at hreports
  split at hreports
  · cases hreports
  · next container hcontainer =>
      obtain ⟨front, back, rfl⟩ := List.append_of_mem hf
      obtain ⟨-, hstep, hback⟩ := hpath.split
      exact ⟨container.pool, container, docker_of_path hback (docker_step hstep hcontainer), rfl⟩

/-- A goroutine that has killed the container and is still to clear the pool's slot, or to look for
the container there. -/
def Pc.Ends (containerID pool : String) : Pc → Prop
  | .destroy id (.find p names) => id = containerID ∧ pool ∈ p :: names
  | .destroy id (.clear p) => id = containerID ∧ p = pool
  | .close (.clear p id _) => id = containerID ∧ p = pool
  | _ => False

theorem removes_of_ends (h : pc.Ends containerID pool) : pc.removes = some containerID := by
  unfold Pc.Ends at h
  split at h
  · exact congrArg some h.1
  · exact congrArg some h.1
  · exact congrArg some h.1
  · exact h.elim

theorem ends_destroyNext {names : List String} (h : pool ∈ names) :
    (destroyNext containerID names).Ends containerID pool := by
  cases names with
  | nil => cases h
  | cons p names => exact ⟨rfl, h⟩

theorem ends_resume {s s' : Shared} {answer : Answer} {ret : pc.call.Ret}
    (hexec : exec m s pc.call answer = some (s', ret))
    (hpool : ∀ p t, s.slot p = some t → t.containerID = containerID → p = pool)
    (h : pc.Ends containerID pool) :
    (resume m pc ret).Ends containerID pool ∨ Cold s' pool containerID := by
  cases pc with
  | destroy id stage =>
      cases stage with
      | find p names =>
          obtain ⟨rfl, hmem⟩ := h
          obtain ⟨rfl, hslot⟩ : s = s' ∧ s.slot p = ret := Prod.mk.inj (Option.some.inj hexec)
          by_cases hfound : ∃ t, ret = some t ∧ t.containerID = id
          · obtain ⟨t, rfl, hid⟩ := hfound
            left
            simp only [resume, if_pos hid]
            exact ⟨rfl, hpool p t hslot hid⟩
          · have hnext : resume m (.destroy id (.find p names)) ret = destroyNext id names := by
              cases ret with
              | none => rfl
              | some t => exact if_neg fun hid => hfound ⟨t, rfl, hid⟩
            obtain rfl | hmem := List.mem_cons.mp hmem
            · right
              intro t ht hid
              exact absurd ⟨t, hslot.symm.trans ht, hid⟩ hfound
            · left
              rw [hnext]
              exact ends_destroyNext hmem
      | clear p =>
          obtain ⟨rfl, rfl⟩ := h
          right
          intro t ht
          rw [Option.mem_def, slot_exec_clear hexec rfl, if_pos rfl] at ht
          cases ht
      | _ => exact h.elim
  | close stage =>
      cases stage with
      | clear p id names =>
          obtain ⟨rfl, rfl⟩ := h
          right
          intro t ht
          rw [Option.mem_def, slot_exec_clear hexec rfl, if_pos rfl] at ht
          cases ht
      | _ => exact h.elim
  | _ => exact h.elim

/-- The container is cold, or somebody is going to see to it. -/
def Doomed (s : State) (pool containerID : String) : Prop :=
  Cold s.shared pool containerID ∨ ∃ pc ∈ s.threads, pc.Ends containerID pool

theorem Doomed.step {s t : State} {a : Action} (hwf : WellFormed s)
    (hsettled : s.Settled containerID pool) (h : Doomed s pool containerID)
    (hstep : Pr0xteus.step m s a = some t) : Doomed t pool containerID := by
  obtain hcold | ⟨pc, hpc, hends⟩ := h
  · exact .inl (hcold.step hwf hsettled hstep)
  · cases step_cases hstep with
    | tick d => exact .inr ⟨pc, hpc, hends⟩
    | start entry hvisits => exact .inr ⟨pc, List.mem_append_left _ hpc, hends⟩
    | turn i answer pc' shared ret hpc' hexec =>
        obtain ⟨j, hj⟩ := List.mem_iff_getElem?.mp hpc
        by_cases hij : i = j
        · subst hij
          obtain rfl : pc = pc' := Option.some.inj (hj.symm.trans hpc')
          obtain ⟨hlt, -⟩ := List.getElem?_eq_some_iff.mp hj
          have hpool : ∀ p t, s.shared.slot p = some t → t.containerID = containerID → p = pool :=
            fun p t hslot hid => (hsettled.pool_eq (hid ▸ hwf.slot p t hslot)).symm
          obtain hends | hcold := ends_resume hexec hpool hends
          · exact .inr ⟨_, List.mem_set hlt _, hends⟩
          · exact .inl hcold
        · refine .inr ⟨pc, List.mem_of_getElem? (i := j) ?_, hends⟩
          rw [List.getElem?_set_ne hij]
          exact hj

/-- Whoever kills a container finds it settled, and has marked it or is going to see to it. -/
theorem doomed_of_kills {e : Edge State Action} (hpath : Path (step m) (init m) es e.source)
    (hstep : step m e.source e.action = some e.target) (hkills : KillsSettled e)
    (hpc : pc ∈ actor e) (hid : pc.kills = some containerID) :
    ∃ pool, e.source.Settled containerID pool ∧ Doomed e.target pool containerID := by
  have hwf := wellFormed_of_path hpath
  have htargets := targets_of_path hpath
  have hmem := mem_threads_of_actor hpc
  obtain ⟨hready, hcold⟩ := hkills pc hpc
  obtain ⟨i, answer, ret, hi, hexec, hnext⟩ := turn_of_actor hstep hpc
  unfold Pc.kills at hid
  split at hid
  · next pass pool t =>
      cases hid
      have hsettled := htargets.seen _ hmem _ rfl
      exact ⟨pool, hsettled, .inl ((htargets.reaped _ hmem _ rfl).step hwf hsettled hstep)⟩
  · next id rest =>
      cases hid
      obtain ⟨pool, c, hc, rfl⟩ := labelled_of_orphanKills hpath hpc rfl
      have hsettled : e.source.Settled containerID c.pool := ⟨⟨c, hc, rfl⟩, hready _ rfl⟩
      have hbefore : Cold e.source.shared c.pool containerID := hcold _ rfl c hc
      exact ⟨c.pool, hsettled, .inl (hbefore.step hwf hsettled hstep)⟩
  · next id names =>
      cases hid
      obtain ⟨hnames, hlisted⟩ := htargets.searched _ hmem
      obtain ⟨c, hc⟩ := Option.isSome_iff_exists.mp hlisted
      have hsettled : e.source.Settled containerID c.pool := ⟨⟨c, hc, rfl⟩, hready _ rfl⟩
      refine ⟨c.pool, hsettled, ?_⟩
      by_cases hpool : c.pool ∈ m.poolNames
      · exact .inr ⟨_, List.mem_of_getElem? hnext, ends_destroyNext (hnames _ hpool)⟩
      · have habsent : Cold e.source.shared c.pool containerID := fun t ht _ =>
          absurd (mem_poolNames_of_slot hpath ht) hpool
        exact .inl (habsent.step hwf hsettled hstep)
  · next pool id names =>
      cases hid
      exact ⟨pool, htargets.seen _ hmem _ rfl, .inr ⟨_, List.mem_of_getElem? hnext, rfl, rfl⟩⟩
  · cases hid

/-- In a run where `DestroyCell` and the orphan passes kill only what is settled, the orphan passes
only what is not hot in its slot, and nobody asks for a tunnel between the kill and the clear of a
`DestroyCell` or `Close`, nobody acquires a container after somebody has invoked its kill. -/
theorem killed_never_acquired (m : Setup) (actions : List Action)
    (hkills : ∀ e ∈ run m actions, KillsSettled e) (hasks : ∀ e ∈ run m actions, AsksApart e) :
    (run m actions).Pairwise Unacquired := by
  obtain ⟨s, hpath⟩ := exists_path_run m actions
  rw [List.pairwise_iff_getElem]
  intro j k hj hk hjk pc hpc containerID hid q hq t ht
  have he := List.getElem?_eq_getElem hj
  have hf := List.getElem?_eq_getElem hk
  obtain ⟨hfront, hstep, -⟩ := hpath.cut he
  obtain ⟨fs, hfs, -⟩ := hpath.between hjk he hf
  obtain ⟨pool, hsettled, hdoomed⟩ :=
    doomed_of_kills hfront hstep (hkills _ (List.getElem_mem hj)) hpc hid
  have hwf := wellFormed_of_path hfront
  -- what is settled and doomed stays so up to the second edge
  obtain ⟨hwf', hsettled', hdoomed'⟩ := hfs.invariant
    (fun u => WellFormed u ∧ u.Settled containerID pool ∧ Doomed u pool containerID)
    ⟨wellFormed_step hwf hstep, hsettled.step hstep, hdoomed⟩
    (fun e _ ⟨hwf, hsettled, hdoomed⟩ hstep =>
      ⟨wellFormed_step hwf hstep, hsettled.step hstep, hdoomed.step hwf hsettled hstep⟩)
  obtain hcold | ⟨pc', hpc', hends⟩ := hdoomed'
  · exact not_acquires_of_cold hwf' hsettled' hcold ht
  · rintro rfl
    obtain ⟨pool', hpool', hslot, hhot⟩ := asks_of_acquires ht
    exact hasks _ (List.getElem_mem hk) q hq pool' hpool' t hslot hhot pc' hpc'
      (removes_of_ends hends)

open Schedule in
/-- An admin destroys `x`, and the idle reaper kills `y`; requests before and after are given `x`, `y`
and `z`. -/
theorem killed_never_acquired_destroyed :
    let actions := .start (.proxy "de" none false) :: ready 0 0 "x" ++ go 0 2 ++ lease 0 1 2 ++
      .start (.destroyCell "x" ["de"]) :: steps 1 [.handles [⟨"x", none⟩]] ++ go 1 3 ++
      .start (.proxy "de" none false) :: ready 2 1 "y" ++ go 2 2 ++ lease 2 3 4 ++
      [.tick 600000000000, .start (.reapIdle ["de"])] ++ steps 3 [.ok, .handles [], .ok] ++ go 3 2 ++
      .start (.proxy "de" none false) :: ready 4 1 "z" ++ go 4 2
    (∀ e ∈ run setup actions, KillsSettled e) ∧ (∀ e ∈ run setup actions, AsksApart e) ∧
      (run setup actions).Pairwise Unacquired := by
  intro actions
  have hkills : ∀ e ∈ run setup actions, KillsSettled e := by decide +kernel
  have hasks : ∀ e ∈ run setup actions, AsksApart e := by decide +kernel
  exact ⟨hkills, hasks, killed_never_acquired setup actions hkills hasks⟩

open Schedule in
/-- `DestroyCell` has killed `x` and not yet cleared its slot; a request is given `x`. -/
theorem not_killed_never_acquired :
    ¬(run setup (.start (.proxy "de" none false) :: ready 0 0 "x" ++ go 0 2 ++ lease 0 1 2 ++
      .start (.destroyCell "x" ["de"]) :: steps 1 [.handles [⟨"x", none⟩]] ++ go 1 1 ++
      .start (.proxy "de" none false) :: go 2 1)).Pairwise Unacquired := by
  decide +kernel

end Pr0xteus
