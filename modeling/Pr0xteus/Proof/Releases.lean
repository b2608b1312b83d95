import Pr0xteus.Proof.Turn

/-!
# A second release

`Manager.Release` gets an acquisition and decrements the counter of the tunnel that is in the slot of
its pool. It cannot tell whose count it takes. So a release of what has been released already is
harmless where there is nothing left to take, and takes the count of another holder otherwise.
-/

namespace Pr0xteus

open Transition

variable {m : Setup}

def released (es : List (Edge State Action)) : List Acquisition :=
  es.filterMap fun e => (actor e).bind Pc.releases

/-- The goroutine has an acquisition of this pool to release. -/
def Pc.holdsOf (pool : String) (pc : Pc) : Bool :=
  match pc.held with
  | none => false
  | some acq => acq.pool == pool

/-- No tunnel counts more requests than there are unreleased acquisitions of its pool. -/
def CoveredByHolders (s : State) : Prop :=
  ∀ pool, ∀ t ∈ s.shared.slot pool, t.inFlight ≤ s.threads.countP (Pc.holdsOf pool)

theorem PoolState.release_eq_self_iff (p : PoolState) :
    p.release = p ↔ ∀ t ∈ p.tunnel, t.inFlight ≤ 0 := by
  unfold PoolState.release
  cases htunnel : p.tunnel with
  | none => simp
  | some t =>
      by_cases hle : t.inFlight ≤ 0
      · simp [hle]
      · simp only [hle, if_false, Option.mem_some_iff, forall_eq', iff_false]
        intro hsame
        have hcount := congrArg (fun q => q.tunnel.map Tunnel.inFlight) hsame
        simp [PoolState.setTunnel, htunnel] at hcount

theorem Shared.pools_release_eq_iff (s : Shared) (acq : Acquisition) :
    (s.release acq).pools = s.pools ↔ ∀ t ∈ s.slot acq.pool, t.inFlight ≤ 0 := by
  unfold Shared.release Shared.modifyPool Shared.onPool Shared.slot
  cases hpool : s.pools acq.pool with
  | none => simp
  | some p =>
      simp only [Option.bind_some]
      rw [Function.update_eq_iff, ← p.release_eq_self_iff]
      simp [hpool]

section HoldsOf

variable {pc pc' : Pc}

theorem Pc.holdsOf_of_held_none (h : pc.held = none) (pool : String) : pc.holdsOf pool = false := by
  simp [Pc.holdsOf, h]

theorem Pc.holdsOf_of_held {acq : Acquisition} (h : pc.held = some acq) (pool : String) :
    pc.holdsOf pool = (acq.pool == pool) := by
  simp [Pc.holdsOf, h]

theorem Pc.holdsOf_congr (h : pc'.held = pc.held) (pool : String) :
    pc'.holdsOf pool = pc.holdsOf pool := by
  simp [Pc.holdsOf, h]

end HoldsOf

theorem coveredByHolders_turn {s : State} {shared : Shared} {i : Nat} {pc pc' : Pc}
    (hcovered : CoveredByHolders s) (hpc : s.threads[i]? = some pc)
    (hturn : Turn s.shared pc shared pc') : CoveredByHolders ⟨shared, s.threads.set i pc'⟩ := by
  intro q t' ht'
  change t'.inFlight ≤ ((s.threads.set i pc').countP (Pc.holdsOf q) : Int)
  have hadd := Threads.countP_set_add (Pc.holdsOf q) pc' hpc
  cases hturn with
  | use pool t hslot hhot hacquires hslots hheld hheld' =>
      rw [Pc.holdsOf_of_held_none hheld, Pc.holdsOf_of_held hheld'] at hadd
      rw [Option.mem_def, hslots] at ht'
      split at ht'
      · next hq =>
          cases ht'
          have hbefore := hcovered q t (hq ▸ hslot)
          simp only [hq, beq_self_eq_true, Bool.false_eq_true, if_true, if_false] at hadd hbefore ⊢
          simp only [Tunnel.use]
          omega
      · next hq =>
          have hbefore := hcovered q t' ht'
          simp only [beq_eq_false_iff_ne.mpr (Ne.symm hq)] at hadd
          omega
  | publish pool t now hpublishes hslots hheld hheld' =>
      rw [Pc.holdsOf_of_held_none hheld, Pc.holdsOf_of_held hheld'] at hadd
      rw [Option.mem_def, hslots] at ht'
      split at ht'
      · next hq =>
          cases ht'
          simp only [hq.1, beq_self_eq_true, Bool.false_eq_true, if_true, if_false] at hadd ⊢
          simp only [Tunnel.firstUse]
          omega
      · have hbefore := hcovered q t' ht'
        simp only [Bool.false_eq_true, if_false] at hadd
        omega
  | release acq hrel hslots hheld hheld' =>
      rw [Pc.holdsOf_of_held hheld, Pc.holdsOf_of_held_none hheld'] at hadd
      rw [Option.mem_def, hslots, Option.map_eq_some_iff] at ht'
      obtain ⟨t, hslot, rfl⟩ := ht'
      have hbefore := hcovered q t hslot
      by_cases hq : q = acq.pool
      · simp only [hq, beq_self_eq_true, Bool.false_eq_true, if_true, if_false] at hadd hbefore ⊢
        -- the one count that goes is that of the goroutine that stops holding
        unfold Tunnel.released
        split
        · omega
        · dsimp only
          omega
      · simp only [beq_eq_false_iff_ne.mpr (Ne.symm hq), if_neg hq] at hadd ⊢
        omega
  | clear pool hcall hslots hheld hheld' =>
      rw [Pc.holdsOf_of_held_none hheld, Pc.holdsOf_of_held_none hheld'] at hadd
      rw [Option.mem_def, hslots] at ht'
      split at ht'
      · cases ht'
      · have hbefore := hcovered q t' ht'
        omega
  | create pool containerID c hfresh hlabel hcreated hslots hheld hheld' =>
      rw [Pc.holdsOf_of_held_none hheld, Pc.holdsOf_of_held_none hheld'] at hadd
      rw [Option.mem_def, hslots] at ht'
      have hbefore := hcovered q t' ht'
      omega
  | quiet f hkept hslots hheld =>
      rw [Pc.holdsOf_congr hheld] at hadd
      rw [Option.mem_def, hslots, Option.map_eq_some_iff] at ht'
      obtain ⟨t, hslot, rfl⟩ := ht'
      have hbefore := hcovered q t hslot
      rw [(hkept q t).inFlight]
      omega

theorem coveredByHolders_step {s t : State} {a : Action} (hcovered : CoveredByHolders s)
    (hstep : step m s a = some t) : CoveredByHolders t := by
  cases step_cases hstep with
  | tick d => exact hcovered
  | start entry hvisits =>
      intro pool t ht
      calc t.inFlight
        _ ≤ s.threads.countP (Pc.holdsOf pool) := hcovered pool t ht
        _ ≤ (s.threads ++ [entry.start]).countP (Pc.holdsOf pool) := by
            rw [List.countP_append]
            omega
  | turn i answer pc shared ret hpc hexec =>
      exact coveredByHolders_turn hcovered hpc (turn_of_exec hexec)

theorem coveredByHolders_run (m : Setup) (actions : List Action) :
    CoveredByHolders (final (init m) (run m actions)) := by
  apply invariant_final CoveredByHolders
  · intro pool t ht
    rw [slot_init] at ht
    cases ht
  · intro e _ hcovered hstep
    exact coveredByHolders_step hcovered hstep

/-- **A second release.** In every reachable state, releasing again what has been released changes no
pool exactly when the tunnel in that slot, if there is one, has nothing in flight. So it is without
effect when nobody else holds an acquisition of the pool. -/
theorem pools_release_again (m : Setup) (actions : List Action) :
    let s := final (init m) (run m actions)
    ∀ acq ∈ released (run m actions),
      ((s.shared.release acq).pools = s.shared.pools ↔
        ∀ t ∈ s.shared.slot acq.pool, t.inFlight ≤ 0) ∧
      ((∀ pc ∈ s.threads, ∀ other ∈ pc.held, other.pool ≠ acq.pool) →
        (s.shared.release acq).pools = s.shared.pools) := by
  intro s acq _
  refine ⟨s.shared.pools_release_eq_iff acq, fun hothers => ?_⟩
  rw [Shared.pools_release_eq_iff]
  intro t ht
  have hnone : s.threads.countP (Pc.holdsOf acq.pool) = 0 := by
    rw [List.countP_eq_zero]
    intro pc hpc hholds
    cases hheld : pc.held with
    | none => simp [Pc.holdsOf_of_held_none hheld] at hholds
    | some other =>
        rw [Pc.holdsOf_of_held hheld, beq_iff_eq] at hholds
        exact hothers pc hpc other hheld hholds
  have hcovered := coveredByHolders_run m actions acq.pool t ht
  rw [hnone] at hcovered
  exact hcovered

open Schedule in
/-- The one request of a pool can release what it acquired twice. -/
theorem pools_release_again_alone :
    let es := run setup (.start (.proxy "de" none false) :: ready 0 0 "x" ++ go 0 2 ++ lease 0 1 2)
    ∃ acq ∈ released es,
      ((final (init setup) es).shared.release acq).pools = (final (init setup) es).shared.pools := by
  intro es
  have hreleased : 0 < (released es).length := by decide +kernel
  have hnone : ((final (init setup) es).threads.all fun pc => pc.held.isNone) = true := by
    decide +kernel
  obtain ⟨acq, hacq⟩ := List.exists_mem_of_length_pos hreleased
  refine ⟨acq, hacq, (pools_release_again setup _ acq hacq).2 fun pc hpc other hother => ?_⟩
  have hheld := List.all_eq_true.mp hnone pc hpc
  rw [Option.mem_def.mp hother] at hheld
  cases hheld

open Schedule in
/-- Two requests get the same tunnel, and one of them releases it. Releasing that one again takes the
count of the other, which still holds the tunnel. -/
theorem not_pools_release_again :
    let es := run setup (.start (.proxy "de" none false) :: ready 0 0 "x" ++ go 0 2 ++
      .start (.proxy "de" none false) :: go 1 1 ++ lease 0 1 2)
    ¬∀ acq ∈ released es,
      ((final (init setup) es).shared.release acq).pools = (final (init setup) es).shared.pools := by
  intro es hsame
  have hidle : ∀ acq ∈ released es, ∀ t ∈ (final (init setup) es).shared.slot acq.pool,
      t.inFlight ≤ 0 := fun acq hacq => (Shared.pools_release_eq_iff _ acq).mp (hsame acq hacq)
  revert hidle
  decide +kernel

end Pr0xteus
