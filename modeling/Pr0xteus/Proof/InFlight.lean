import Pr0xteus.Proof.WellFormed

/-!
# The in-flight counter

The counter of the tunnel in a slot is meant to be the number of unreleased acquisitions of its
container. A use, a publication and a clear keep that. A release does where it finds the container it
releases, or nothing to decrement; where the slot holds another tunnel by then, that tunnel loses a
count it still needs.
-/

namespace Pr0xteus

open Transition

variable {m : Setup}

/-- The tunnel in the slot of a pool counts the unreleased acquisitions of its container. -/
def CountedAt (s : State) (pool : String) : Prop :=
  ∀ t ∈ s.shared.slot pool, t.inFlight = s.threads.countP (Pc.holds t.containerID)

def Counted (s : State) : Prop := ∀ pool, CountedAt s pool

/-- A release finds its container in the slot, or an empty slot, or a counter at zero. -/
def ReleasesOwn (e : Edge State Action) : Prop :=
  ∀ pc ∈ actor e, ∀ acq ∈ pc.releases, ∀ t ∈ e.source.shared.slot acq.pool,
    t.containerID = acq.tunnel.containerID ∨ t.inFlight ≤ 0

instance (s : State) (pool : String) : Decidable (CountedAt s pool) :=
  inferInstanceAs (Decidable (∀ t ∈ s.shared.slot pool,
    t.inFlight = s.threads.countP (Pc.holds t.containerID)))

instance (e : Edge State Action) : Decidable (ReleasesOwn e) :=
  inferInstanceAs (Decidable (∀ pc ∈ actor e, ∀ acq ∈ pc.releases,
    ∀ t ∈ e.source.shared.slot acq.pool,
      t.containerID = acq.tunnel.containerID ∨ t.inFlight ≤ 0))

section Holds

variable {pc pc' : Pc}

theorem Pc.holds_of_held_none (h : pc.held = none) (containerID : String) :
    pc.holds containerID = false := by
  simp [Pc.holds, h]

theorem Pc.holds_of_held {acq : Acquisition} (h : pc.held = some acq) (containerID : String) :
    pc.holds containerID = (acq.tunnel.containerID == containerID) := by
  simp [Pc.holds, h]

theorem Pc.holds_congr (h : pc'.held = pc.held) (containerID : String) :
    pc'.holds containerID = pc.holds containerID := by
  simp [Pc.holds, h]

end Holds

theorem WellFormed.countP_holds_of_readied {s : State} (hwf : WellFormed s) {pc : Pc}
    (hpc : pc ∈ s.threads) {pool containerID : String}
    (hreadies : pc.unpublished = some (pool, containerID)) :
    s.threads.countP (Pc.holds containerID) = 0 := by
  rw [List.countP_eq_zero]
  intro q hq hholds
  obtain ⟨acq, hacq, rfl⟩ := Pc.holds_eq_true_iff.mp hholds
  have hready := (hwf.held q hq acq hacq).ready pc hpc
  rw [Pc.readies_eq_true_iff.mpr ⟨pool, hreadies⟩] at hready
  cases hready

theorem counted_init : Counted (init m) := by
  intro pool t ht
  rw [slot_init] at ht
  cases ht

theorem counted_turn {s : State} {shared : Shared} {i : Nat} {pc pc' : Pc} (hwf : WellFormed s)
    (hcounted : Counted s) (hpc : s.threads[i]? = some pc) (hturn : Turn s.shared pc shared pc')
    (hreleases : ∀ acq ∈ pc.releases, ∀ t ∈ s.shared.slot acq.pool,
      t.containerID = acq.tunnel.containerID ∨ t.inFlight ≤ 0) :
    Counted ⟨shared, s.threads.set i pc'⟩ := by
  have hmem := List.mem_of_getElem? hpc
  intro q t' ht'
  change t'.inFlight = ((s.threads.set i pc').countP (Pc.holds t'.containerID) : Int)
  have hadd := Threads.countP_set_add (Pc.holds t'.containerID) pc' hpc
  cases hturn with
  | use pool t hslot hhot hacquires hslots hheld hheld' =>
      rw [Pc.holds_of_held_none hheld, Pc.holds_of_held hheld'] at hadd
      rw [Option.mem_def, hslots] at ht'
      split at ht'
      · next hq =>
          subst hq
          cases ht'
          have hbefore := hcounted q t hslot
          simp [Tunnel.use] at hadd ⊢
          omega
      · next hq =>
          have hbefore := hcounted q t' ht'
          have hne : t.containerID ≠ t'.containerID := fun hid =>
            hq ((hwf.slot q t' ht').pool_eq (hid ▸ hwf.slot pool t hslot))
          simp [Tunnel.use, hne] at hadd
          omega
  | publish pool t now hpublishes hslots hheld hheld' hreadies hreadies' =>
      rw [Pc.holds_of_held_none hheld, Pc.holds_of_held hheld'] at hadd
      rw [Option.mem_def, hslots] at ht'
      split at ht'
      · -- nobody could hold the container before it was published
        cases ht'
        have hzero := hwf.countP_holds_of_readied hmem hreadies
        simp [Tunnel.firstUse] at hadd ⊢
        omega
      · have hbefore := hcounted q t' ht'
        have hready := (hwf.slot q t' ht').ready pc hmem
        have hne : t.containerID ≠ t'.containerID := by
          intro hid
          rw [Pc.readies_eq_true_iff.mpr ⟨pool, hid ▸ hreadies⟩] at hready
          cases hready
        simp [Tunnel.firstUse, hne] at hadd
        omega
  | release acq hrel hslots hheld hheld' =>
      rw [Pc.holds_of_held hheld, Pc.holds_of_held_none hheld'] at hadd
      rw [Option.mem_def, hslots, Option.map_eq_some_iff] at ht'
      obtain ⟨t, hslot, rfl⟩ := ht'
      have hbefore := hcounted q t hslot
      by_cases hq : q = acq.pool
      · subst hq
        simp only [if_true, Tunnel.containerID_released] at hadd ⊢
        by_cases hid : acq.tunnel.containerID = t.containerID
        · have hpos := Threads.countP_pos (p := Pc.holds t.containerID) hpc
            (by simp [Pc.holds_of_held hheld, hid])
          simp only [hid, beq_self_eq_true, if_true, Bool.false_eq_true, if_false] at hadd
          simp only [Tunnel.released, if_neg (by omega : ¬t.inFlight ≤ 0)]
          omega
        · have hle : t.inFlight ≤ 0 :=
            (hreleases acq hrel t hslot).resolve_left fun h => hid h.symm
          simp only [beq_eq_false_iff_ne.mpr hid, Bool.false_eq_true, if_false] at hadd
          simp only [Tunnel.released, if_pos hle]
          omega
      · have hne : acq.tunnel.containerID ≠ t.containerID := fun hid =>
          hq ((hwf.slot q t hslot).pool_eq (hid ▸ hwf.held pc hmem acq hheld))
        simp only [if_neg hq, beq_eq_false_iff_ne.mpr hne, Bool.false_eq_true, if_false] at hadd ⊢
        omega
  | clear pool hcall hslots hheld hheld' =>
      rw [Pc.holds_of_held_none hheld, Pc.holds_of_held_none hheld'] at hadd
      rw [Option.mem_def, hslots] at ht'
      split at ht'
      · cases ht'
      · have hbefore := hcounted q t' ht'
        omega
  | create pool containerID c hfresh hlabel hcreated hslots hheld hheld' =>
      rw [Pc.holds_of_held_none hheld, Pc.holds_of_held_none hheld'] at hadd
      rw [Option.mem_def, hslots] at ht'
      have hbefore := hcounted q t' ht'
      omega
  | quiet f hkept hslots hheld =>
      rw [Pc.holds_congr hheld] at hadd
      rw [Option.mem_def, hslots, Option.map_eq_some_iff] at ht'
      obtain ⟨t, hslot, rfl⟩ := ht'
      have hbefore := hcounted q t hslot
      rw [(hkept q t).sameCell.containerID] at hadd ⊢
      rw [(hkept q t).inFlight]
      omega

theorem counted_step {s t : State} {a : Action} (hwf : WellFormed s) (hcounted : Counted s)
    (hreleases : ReleasesOwn ⟨s, a, t⟩) (hstep : step m s a = some t) : Counted t := by
  cases step_cases hstep with
  | tick d => exact hcounted
  | start entry hvisits =>
      intro pool t ht
      have hbefore := hcounted pool t ht
      have hnew := Pc.holds_of_held_none (held_start entry) t.containerID
      simpa [List.countP_append, hnew] using hbefore
  | turn i answer pc shared ret hpc hexec =>
      exact counted_turn hwf hcounted hpc (turn_of_exec hexec) fun acq hacq =>
        hreleases pc hpc acq hacq

theorem call_of_releases {pc : Pc} {acq : Acquisition} (h : pc.releases = some acq) :
    pc.call = .release acq.pool ∧ pc.held = some acq ∧
      ∀ ret : pc.call.Ret, (resume m pc ret).held = none := by
  unfold Pc.releases at h
  split at h <;> cases h <;> exact ⟨rfl, rfl, fun _ => rfl⟩

/-- A release that takes a count from another container's tunnel leaves that tunnel short. -/
theorem releasesOwn_of_counted {s t : State} {a : Action} (hbefore : Counted s)
    (hafter : Counted t) (hstep : step m s a = some t) : ReleasesOwn ⟨s, a, t⟩ := by
  intro pc hactor acq hreleases tunnel hslot
  cases step_cases hstep with
  | tick d => cases hactor
  | start entry hvisits => cases hactor
  | turn i answer pc' shared ret hpc hexec =>
      obtain rfl : pc' = pc := Option.some.inj (hpc.symm.trans hactor)
      obtain ⟨hcall, hheld, hnone⟩ := call_of_releases (m := m) hreleases
      have hslots := slot_exec hexec (by simp [hcall]) acq.pool
      simp only [hcall, Call.revise, if_true] at hslots
      by_contra hother
      obtain ⟨hid, hpos⟩ := not_or.mp hother
      have hcount := hbefore acq.pool tunnel hslot
      have hcount' := hafter acq.pool tunnel.released
        (by rw [Option.mem_def, hslots, Option.mem_def.mp hslot]; rfl)
      rw [Tunnel.containerID_released] at hcount'
      have hholds : (resume m pc' ret).holds tunnel.containerID =
          pc'.holds tunnel.containerID := by
        rw [Pc.holds_of_held hheld, Pc.holds_of_held_none (hnone ret)]
        exact (beq_eq_false_iff_ne.mpr (Ne.symm hid)).symm
      have hsame := Threads.countP_set_eq hpc hholds
      simp only [Tunnel.released, if_neg hpos, hsame] at hcount'
      omega

/-- The counter is right in every state of a run exactly when every release of the run finds its own
container in the slot, or nothing to take. -/
theorem counted_iff_releasesOwn (m : Setup) (actions : List Action) :
    (∀ e ∈ run m actions, Counted e.target) ↔ ∀ e ∈ run m actions, ReleasesOwn e := by
  obtain ⟨s, hpath⟩ := exists_path_run m actions
  constructor
  · intro hcounted e he
    have hends := hpath.invariant_of_mem Counted counted_init
      (fun e he _ _ => hcounted e he) he
    exact releasesOwn_of_counted hends.1 hends.2 (hpath.enabled he)
  · intro hreleases e he
    have hends := hpath.invariant_of_mem (fun s => WellFormed s ∧ Counted s)
      ⟨wellFormed_init, counted_init⟩
      (fun e he hinv hstep =>
        ⟨wellFormed_step hinv.1 hstep, counted_step hinv.1 hinv.2 (hreleases e he) hstep⟩) he
    exact hends.2.2

open Schedule in
/-- A request holds `x` while another one, which excludes `x`, publishes and holds `y`. The first
one's release takes the count of `y`. -/
theorem not_counted :
    ¬∀ e ∈ run setup (.start (.proxy "de" none false) :: ready 0 0 "x" ++ go 0 2 ++
      .start (.proxy "de" (some (proxyURL "x")) false) :: go 1 6 ++ spawn 1 0 "y" ++ go 1 2 ++
      lease 0 1 2), Counted e.target := by
  intro hcounted
  have hde := fun e he => hcounted e he "de"
  revert hde
  decide +kernel

end Pr0xteus
