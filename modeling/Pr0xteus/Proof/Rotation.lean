import Pr0xteus.Proof.Orphans
import Pr0xteus.Proof.Spawning

/-!
# Rotated cells and orphan passes

An orphan pass keeps what it finds in the slots. A request that excludes the current proxy replaces
the tunnel in the slot, whether or not somebody still uses it, and from then on only the age of the
old container stands between its open connections and the next pass.
-/

namespace Pr0xteus

open GoTime Transition

variable {m : Setup} {pc : Pc} {s : State}

/-- The runs without reaps, destroys, shutdowns and verdicts: only requests, connections and orphan
passes are started. -/
def Action.isTraffic : Action → Bool
  | .start (.proxy _ _ _) | .start (.lease _ _ _) | .start (.reapOrphans _) => true
  | .start _ => false
  | .tick _ | .step _ _ => true

/-- An orphan pass kills nothing that somebody holds. -/
def KillsUnheld (e : Edge State Action) : Prop :=
  ∀ pc ∈ actor e, ∀ containerID ∈ pc.orphanKills, ∀ q ∈ e.source.threads,
    q.holds containerID = false

/-- A publication replaces no tunnel that somebody holds. -/
def ReplacesUnheld (e : Edge State Action) : Prop :=
  ∀ pc ∈ actor e, ∀ pool ∈ pc.publishes, ∀ t ∈ e.source.shared.slot pool,
    ∀ q ∈ e.source.threads, q.holds t.containerID = false

instance (e : Edge State Action) : Decidable (KillsUnheld e) :=
  inferInstanceAs (Decidable (∀ pc ∈ actor e, ∀ containerID ∈ pc.orphanKills,
    ∀ q ∈ e.source.threads, q.holds containerID = false))

instance (e : Edge State Action) : Decidable (ReplacesUnheld e) :=
  inferInstanceAs (Decidable (∀ pc ∈ actor e, ∀ pool ∈ pc.publishes,
    ∀ t ∈ e.source.shared.slot pool, ∀ q ∈ e.source.threads, q.holds t.containerID = false))

def Pc.isTraffic (pc : Pc) : Bool := pc.task ∈ [none, some .serve, some .reapOrphans]

theorem isTraffic_start {entry : Entry} (h : Action.isTraffic (.start entry) = true) :
    entry.start.isTraffic = true := by
  cases entry with
  | proxy | lease => rfl
  | reapOrphans names => cases names <;> rfl
  | _ => cases h

theorem isTraffic_resume (h : pc.isTraffic = true) (ret : pc.call.Ret) :
    (resume m pc ret).isTraffic = true := by
  unfold Pc.isTraffic at h ⊢
  obtain htask | htask := task_resume (m := m) ret
  · rwa [htask]
  · rw [htask]
    rfl

theorem not_clear_of_isTraffic (h : pc.isTraffic = true) (pool : String) :
    pc.call ≠ .setTunnel pool none := by
  intro hcall
  cases pc with
  | acquire a stage | assign acq stage | gateway u p stage | orphan stage =>
      cases stage <;> cases hcall
  | done | failed err => cases hcall
  | _ => cases h

def HeldInSlot (s : State) : Prop :=
  ∀ pc ∈ s.threads, ∀ acq, pc.held = some acq →
    ∃ t, s.shared.slot acq.pool = some t ∧ t.containerID = acq.tunnel.containerID

/-- A run of this kind in which no publication replaces what somebody holds. -/
structure Rotating (s : State) : Prop where
  wellFormed : WellFormed s
  guarded : Guarded s
  traffic : ∀ pc ∈ s.threads, pc.isTraffic = true
  held : HeldInSlot s

theorem heldInSlot_turn {shared : Shared} {i : Nat} {pc pc' : Pc} (h : Rotating s)
    (hpc : s.threads[i]? = some pc) (hturn : Turn s.shared pc shared pc')
    (hreplaces : ∀ pool ∈ pc.publishes, ∀ t ∈ s.shared.slot pool, ∀ q ∈ s.threads,
      q.holds t.containerID = false) : HeldInSlot ⟨shared, s.threads.set i pc'⟩ := by
  have hmem := List.mem_of_getElem? hpc
  -- what is held and in its slot stays there
  have hstays : ∀ q ∈ s.threads, ∀ acq, q.held = some acq →
      ∃ t, shared.slot acq.pool = some t ∧ t.containerID = acq.tunnel.containerID := by
    intro q hq acq hacq
    obtain ⟨t, hslot, hid⟩ := h.held q hq acq hacq
    obtain ⟨t', hslot', hcell⟩ | hpublishes | hclear := hturn.slot_stays hslot
    · exact ⟨t', hslot', hcell.containerID.trans hid⟩
    · have hfree := hreplaces acq.pool hpublishes t hslot q hq
      rw [Pc.holds_eq_true_iff.mpr ⟨acq, hacq, hid.symm⟩] at hfree
      cases hfree
    · exact absurd hclear (not_clear_of_isTraffic (h.traffic pc hmem) acq.pool)
  intro q hq acq hacq
  rcases List.mem_or_eq_of_mem_set hq with hq | rfl
  · exact hstays q hq acq hacq
  · cases hturn with
    | use pool t hslot hhot hacquires hslots hheld hheld' =>
        obtain rfl : ⟨t.use s.shared.now, pool⟩ = acq := by simpa [hacq] using hheld'.symm
        exact ⟨_, by rw [hslots, if_pos rfl], rfl⟩
    | publish pool t now hpublishes hslots hheld hheld' =>
        obtain rfl : ⟨t.firstUse pool now, pool⟩ = acq := by simpa [hacq] using hheld'.symm
        obtain ⟨-, -, -, hpool⟩ := locks_of_critical (h.guarded.registered i pc hpc)
          (critical_of_spawned (spawned_of_publishes hpublishes))
        exact ⟨_, by rw [hslots, if_pos ⟨rfl, hpool⟩], rfl⟩
    | quiet f hkept hslots hheld => exact hstays pc hmem acq (hheld ▸ hacq)
    | release acq' hreleases hslots hheld hheld' => simp [hheld'] at hacq
    | clear pool hcall hslots hheld hheld' => simp [hheld'] at hacq
    | create pool id c hfresh hlabel hcreated hslots hheld hheld' => simp [hheld'] at hacq

theorem rotating_step {s t : State} {a : Action} (h : Rotating s) (htraffic : a.isTraffic = true)
    (hreplaces : ReplacesUnheld ⟨s, a, t⟩) (hstep : step m s a = some t) : Rotating t := by
  refine ⟨wellFormed_step h.wellFormed hstep, guarded_step h.guarded hstep, ?_, ?_⟩
  · refine forall_mem_threads_of_step hstep h.traffic (fun _ hpc => hpc) ?_ ?_
    · intro entry haction _
      exact isTraffic_start (haction ▸ htraffic)
    · intro i answer pc ret _ hpc hexec
      exact isTraffic_resume (h.traffic pc (List.mem_of_getElem? hpc)) ret
  · cases step_cases hstep with
    | tick d => exact h.held
    | start entry hvisits =>
        intro pc hpc acq hacq
        rcases List.mem_append.mp hpc with hpc | hpc
        · exact h.held pc hpc acq hacq
        · obtain rfl := List.mem_singleton.mp hpc
          simp at hacq
    | turn i answer pc shared ret hpc hexec =>
        exact heldInSlot_turn h hpc (turn_of_exec hexec) fun pool hpool => hreplaces pc hpc pool hpool

theorem rotating_of_path {es : List (Edge State Action)} (hpath : Path (step m) (init m) es s)
    (htraffic : ∀ e ∈ es, e.action.isTraffic = true) (hreplaces : ∀ e ∈ es, ReplacesUnheld e) :
    Rotating s := by
  refine hpath.invariant Rotating ?_ fun e he hrotating hstep =>
    rotating_step hrotating (htraffic e he) (hreplaces e he) hstep
  exact ⟨wellFormed_init, guarded_of_path (.nil _), by simp [init], by simp [HeldInSlot, init]⟩

theorem publication_of_publishes {pool pool' containerID : String} (h : pc.publishes = some pool)
    (hreadies : pc.unpublished = some (pool', containerID)) :
    pc.publication = some containerID := by
  unfold Pc.publishes at h
  split at h
  · cases hreadies
    rfl
  · cases h

theorem absent_step {s s' : State} {a : Action} {pool containerID : String}
    (hstep : step m s a = some s') (hpublishes : ¬Publishes ⟨s, a, s'⟩ containerID)
    (habsent : ∀ t ∈ s.shared.slot pool, t.containerID ≠ containerID) :
    ∀ t ∈ s'.shared.slot pool, t.containerID ≠ containerID := by
  intro t ht hid
  cases step_cases hstep with
  | tick d => exact habsent t ht hid
  | start entry hvisits => exact habsent t ht hid
  | turn i answer pc shared ret hpc hexec =>
      obtain ⟨t₀, hslot, hcell⟩ | ⟨hpool, hreadies, -⟩ := (turn_of_exec hexec).slot_cases ht
      · exact habsent t₀ hslot (hcell.containerID.symm.trans hid)
      · exact hpublishes ⟨pc, hpc, publication_of_publishes hpool (hid ▸ hreadies)⟩

/-- In a run of requests, connections and orphan passes, where no publication replaces a tunnel that
somebody holds, the spawns and the passes are in time, and the spawn timeout and the grace make a
duration, no orphan pass kills a container with an unreleased acquisition. -/
theorem orphan_pass_spares_held (m : Setup) (actions : List Action)
    (htraffic : ∀ e ∈ run m actions, e.action.isTraffic = true)
    (hgrace : m.cfg.spawnTimeout.toInt + orphanInFlightGrace.toInt < 2 ^ 63)
    (hspawns : ∀ e ∈ run m actions, SpawnsInTime m e.source)
    (hprompt : ∀ e ∈ run m actions, ∀ f ∈ run m actions, ∀ i ∈ e.action.thread, Prompt e f i)
    (hreplaces : ∀ e ∈ run m actions, ReplacesUnheld e) :
    ∀ e ∈ run m actions, KillsUnheld e := by
  intro f hf pc hpc containerID hkills q hq
  obtain ⟨s, hpath⟩ := exists_path_run m actions
  obtain ⟨l, hl⟩ := List.mem_iff_getElem?.mp hf
  obtain ⟨hfront, -, -⟩ := hpath.cut hl
  have hsub : ∀ e ∈ (run m actions).take l, e ∈ run m actions := fun e => List.mem_of_mem_take
  rw [← Bool.not_eq_true]
  intro hholds
  -- what is held is in its slot
  have hrotating := rotating_of_path hfront (fun e he => htraffic e (hsub e he))
    fun e he => hreplaces e (hsub e he)
  obtain ⟨acq, hacq, rfl⟩ := Pc.holds_eq_true_iff.mp hholds
  obtain ⟨t, hslot, hid⟩ := hrotating.held q hq acq hacq
  -- the pass looked there and did not find it
  obtain ⟨i, hi⟩ := thread_of_actor hpc
  have hkill : KillsOrphan f i acq.tunnel.containerID := ⟨hi, pc, hpc, hkills⟩
  obtain ⟨chosen, -, keep, listed, c, -, -, hc, -, hreaps, hcollected⟩ :=
    chosen_of_killsOrphan hfront rfl hkill
  obtain ⟨e, he, hthread, ⟨keep', names, hcollecting⟩, hkept⟩ :=
    hcollected acq.pool (mem_poolNames_of_slot hfront hslot)
  obtain ⟨hnew, -⟩ := old_of_reapsOrphan hreaps
  have habsent : ∀ t ∈ e.source.shared.slot acq.pool,
      t.containerID ≠ acq.tunnel.containerID := by
    intro t' ht' hid'
    apply hnew
    rw [hc, ← hid']
    exact hkept t' ht' (hid' ▸ hid ▸ (wellFormed_of_path hfront).ne_empty (docker_empty_of_path hfront) hslot)
  -- so it was published in between, and is too young for the pass
  obtain ⟨j, hj⟩ := List.mem_iff_getElem?.mp he
  obtain ⟨hjl, he⟩ : j < l ∧ (run m actions)[j]? = some e := by
    rw [List.getElem?_take] at hj
    split at hj
    · next hjl => exact ⟨hjl, hj⟩
    · cases hj
  obtain ⟨-, hstep, -⟩ := hpath.cut he
  obtain ⟨fs, hfs, hbetween⟩ := hpath.between hjl he hl
  have hcollects : Collects e i := ⟨hthread, _, (actor_of_thread hthread).trans hcollecting, rfl⟩
  have hspared := sparesPublished_of_path hpath hgrace hspawns
    fun e he f hf hcollects => hprompt e he f hf i hcollects.1 hcollects
  have hunpublished : ∀ g ∈ fs, ¬Publishes g acq.tunnel.containerID := by
    intro g hg
    obtain ⟨k, hjk, -, hk⟩ := hbetween g hg
    obtain ⟨hj', rfl⟩ := List.getElem?_eq_some_iff.mp he
    obtain ⟨hk', rfl⟩ := List.getElem?_eq_some_iff.mp hk
    exact List.pairwise_iff_getElem.mp hspared j k hj' hk' hjk hcollects f hf _ hkill
  have hcollector : ¬Publishes e acq.tunnel.containerID := by
    rintro ⟨pc', hpc', hpublication⟩
    rw [actor_of_thread hthread, hcollecting] at hpc'
    cases hpc'
    cases hpublication
  have hafter := hfs.invariant
    (fun s => ∀ t ∈ s.shared.slot acq.pool, t.containerID ≠ acq.tunnel.containerID)
    (absent_step hstep hcollector habsent)
    fun g hg habsent hstep => absent_step hstep (hunpublished g hg) habsent
  exact hafter t hslot hid

open Schedule in
/-- A connection to `x` is closed, `x` is rotated out by `y`, and a pass kills `x`. -/
theorem orphan_pass_spares_held_closed :
    let actions := .start (.proxy "de" none false) :: ready 0 0 "x" ++ go 0 2 ++ lease 0 1 2 ++
      .start (.lease (leasePart 1) (leasePart 2) .connect) :: go 1 5 ++
      .start (.proxy "de" (some (proxyURL "x")) false) :: go 2 6 ++ spawn 2 0 "y" ++ go 2 2 ++
      lease 2 3 4 ++ .tick 120000000000 :: .start (.reapOrphans ["de"]) :: go 3 1 ++
      steps 3 [.summaries [⟨"x", 0, "running"⟩, ⟨"y", 0, "running"⟩]] ++ go 3 2
    (∀ e ∈ run setup actions, e.action.isTraffic = true) ∧
      (∀ e ∈ run setup actions, SpawnsInTime setup e.source) ∧
      (∀ e ∈ run setup actions, ReplacesUnheld e) ∧
      ∀ e ∈ run setup actions, KillsUnheld e := by
  intro actions
  have htraffic : ∀ e ∈ run setup actions, e.action.isTraffic = true := by decide +kernel
  have hspawns : ∀ e ∈ run setup actions, SpawnsInTime setup e.source := by decide +kernel
  have hreplaces : ∀ e ∈ run setup actions, ReplacesUnheld e := by decide +kernel
  exact ⟨htraffic, hspawns, hreplaces, orphan_pass_spares_held setup actions htraffic (by decide)
    hspawns (by decide +kernel) hreplaces⟩

open Schedule in
/-- The same with the connection left open: the pass, in time, kills the cell under it. -/
theorem not_orphan_pass_spares_held :
    let es := run setup (.start (.proxy "de" none false) :: ready 0 0 "x" ++ go 0 2 ++ lease 0 1 2 ++
      .start (.lease (leasePart 1) (leasePart 2) .connect) :: go 1 4 ++
      .start (.proxy "de" (some (proxyURL "x")) false) :: go 2 6 ++ spawn 2 0 "y" ++ go 2 2 ++
      lease 2 3 4 ++ .tick 120000000000 :: .start (.reapOrphans ["de"]) :: go 3 1 ++
      steps 3 [.summaries [⟨"x", 0, "running"⟩, ⟨"y", 0, "running"⟩]] ++ go 3 2)
    (∀ e ∈ es, e.action.isTraffic = true) ∧ (∀ e ∈ es, SpawnsInTime setup e.source) ∧
      (∀ e ∈ es, ∀ f ∈ es, ∀ i ∈ e.action.thread, Prompt e f i) ∧ ¬∀ e ∈ es, KillsUnheld e := by
  decide +kernel

end Pr0xteus
