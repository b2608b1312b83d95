import Pr0xteus.Proof.WellFormed

/-!
# What cannot be acquired any more

An acquisition takes the hot tunnel in a slot. A container that is settled and not hot in its pool's
slot is never acquired again: no access makes a tunnel hot, and a publication brings in a container
that was still being readied.
-/

namespace Pr0xteus

variable {m : Setup} {containerID pool : String}

/-- The container is not in the slot, or not hot there. -/
def Cold (s : Shared) (pool containerID : String) : Prop :=
  ∀ t ∈ s.slot pool, t.containerID = containerID → t.state ≠ .hot

section Turn

variable {s s' : Shared} {pc pc' : Pc}

theorem asks_of_acquires {t : Tunnel} (h : pc.acquires s = some t) :
    ∃ pool, pc.asks = some pool ∧ s.slot pool = some t ∧ t.state = .hot := by
  unfold Pc.acquires at h
  split at h
  · obtain ⟨hslot, haccepts⟩ := Option.filter_eq_some_iff.mp h
    exact ⟨_, rfl, hslot, (of_decide_eq_true haccepts).1⟩
  · obtain ⟨hslot, haccepts⟩ := Option.filter_eq_some_iff.mp h
    exact ⟨_, rfl, hslot, (of_decide_eq_true haccepts).1⟩
  · obtain ⟨hslot, haccepts⟩ := Option.filter_eq_some_iff.mp h
    exact ⟨_, rfl, hslot, (of_decide_eq_true haccepts).1⟩
  · cases h

@[simp]
theorem Tunnel.lastUsedAt_released (t : Tunnel) : t.released.lastUsedAt = t.lastUsedAt := by
  unfold Tunnel.released
  split <;> rfl

@[simp]
theorem Tunnel.state_released (t : Tunnel) : t.released.state = t.state := by
  unfold Tunnel.released
  split <;> rfl

/-- A container that a turn does not acquire and that is not being readied is not brought in, not
used and not made hot. -/
theorem Turn.slot_of_not_acquires (hturn : Turn s pc s' pc')
    (hready : pc.readies containerID = false)
    (hacquires : ∀ t ∈ pc.acquires s, t.containerID ≠ containerID) {t' : Tunnel}
    (hslot : s'.slot pool = some t') (hid : t'.containerID = containerID) :
    ∃ t, s.slot pool = some t ∧ t.containerID = containerID ∧ t'.lastUsedAt = t.lastUsedAt ∧
      (t'.state = .hot → t.state = .hot) := by
  cases hturn with
  | use target t htarget hhot hacq hslots =>
      rw [hslots] at hslot
      split at hslot
      · cases hslot
        exact absurd hid (hacquires t hacq)
      · exact ⟨t', hslot, hid, rfl, id⟩
  | publish target t now hpublishes hslots hheld hheld' hreadies =>
      rw [hslots] at hslot
      split at hslot
      · cases hslot
        rw [Pc.readies_eq_true_iff.mpr ⟨target, hid ▸ hreadies⟩] at hready
        cases hready
      · exact ⟨t', hslot, hid, rfl, id⟩
  | release acq hreleases hslots =>
      rw [hslots, Option.map_eq_some_iff] at hslot
      obtain ⟨t, ht, rfl⟩ := hslot
      refine ⟨t, ht, ?_⟩
      split at hid
      · next hpool => simpa [hpool] using hid
      · next hpool => simpa [hpool] using hid
  | clear target hcall hslots =>
      rw [hslots] at hslot
      split at hslot
      · cases hslot
      · exact ⟨t', hslot, hid, rfl, id⟩
  | create target id c hfresh hlabel hcreated hslots =>
      exact ⟨t', hslots pool ▸ hslot, hid, rfl, fun h => h⟩
  | quiet f hkept hslots =>
      rw [hslots, Option.map_eq_some_iff] at hslot
      obtain ⟨t, ht, rfl⟩ := hslot
      have hk := hkept pool t
      exact ⟨t, ht, hk.sameCell.containerID ▸ hid, hk.lastUsedAt, hk.hot⟩

theorem Turn.holds_of_not_acquires (hturn : Turn s pc s' pc')
    (hready : pc.readies containerID = false)
    (hacquires : ∀ t ∈ pc.acquires s, t.containerID ≠ containerID)
    (hholds : pc'.holds containerID = true) : pc.holds containerID = true := by
  obtain ⟨acq, hacq, hid⟩ := Pc.holds_eq_true_iff.mp hholds
  cases hturn with
  | use pool t hslot hhot hacquires' hslots hheld hheld' =>
      obtain rfl : ⟨t.use s.now, pool⟩ = acq := by simpa [hacq] using hheld'.symm
      exact absurd hid (hacquires t hacquires')
  | publish pool t now hpublishes hslots hheld hheld' hreadies =>
      obtain rfl : ⟨t.firstUse pool now, pool⟩ = acq := by simpa [hacq] using hheld'.symm
      rw [Pc.readies_eq_true_iff.mpr ⟨pool, hid ▸ hreadies⟩] at hready
      cases hready
  | quiet f hkept hslots hheld => exact Pc.holds_eq_true_iff.mpr ⟨acq, hheld ▸ hacq, hid⟩
  | release acq' hreleases hslots hheld hheld' => simp [hheld'] at hacq
  | clear pool hcall hslots hheld hheld' => simp [hheld'] at hacq
  | create pool id c hfresh hlabel hcreated hslots hheld hheld' => simp [hheld'] at hacq

end Turn

theorem not_acquires_of_cold {s : State} (hwf : WellFormed s)
    (hsettled : s.Settled containerID pool) (hcold : Cold s.shared pool containerID) {pc : Pc}
    {t : Tunnel} (hacquires : pc.acquires s.shared = some t) : t.containerID ≠ containerID := by
  obtain ⟨pool', -, hslot, hhot⟩ := asks_of_acquires hacquires
  rintro rfl
  obtain rfl := hsettled.pool_eq (hwf.slot pool' t hslot)
  exact hcold t hslot rfl hhot

theorem Cold.step {s t : State} {a : Action} (hwf : WellFormed s)
    (hsettled : s.Settled containerID pool) (hcold : Cold s.shared pool containerID)
    (hstep : Pr0xteus.step m s a = some t) : Cold t.shared pool containerID := by
  cases step_cases hstep with
  | tick d => exact hcold
  | start entry hvisits => exact hcold
  | turn i answer pc shared ret hpc hexec =>
      intro t' ht' hid hhot
      obtain ⟨t, hslot, hid', -, hbefore⟩ := (turn_of_exec hexec).slot_of_not_acquires
        (hsettled.ready pc (List.mem_of_getElem? hpc))
        (fun t ht => not_acquires_of_cold hwf hsettled hcold ht) ht' hid
      exact hcold t hslot hid' (hbefore hhot)

theorem cold_of_markReaping {s s' : Shared} {answer : Answer} {ret : Unit}
    (hexec : exec m s (.markReaping pool containerID) answer = some (s', ret)) :
    Cold s' pool containerID := by
  intro t ht hid
  rw [Option.mem_def, slot_exec hexec (by simp), Option.map_eq_some_iff] at ht
  obtain ⟨t', -, rfl⟩ := ht
  by_cases hid' : t'.containerID = containerID
  · simp [Call.revise, hid']
  · simp [Call.revise, hid'] at hid

end Pr0xteus
