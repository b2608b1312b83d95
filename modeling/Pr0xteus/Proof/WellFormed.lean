import Pr0xteus.Proof.Turn

/-!
# Containers keep their pool

A container is created for one pool, readied by one goroutine and published once. So the daemon
knows every container in a slot or in an acquisition, under the label of that pool, and nobody is
still readying it. Once that is true of a container it stays true.
-/

namespace Pr0xteus

open Transition

variable {m : Setup} {s t : State} {containerID pool : String} {pc pc' : Pc}
  {es : List (Edge State Action)} {a : Action} {c : Container}

/-- The daemon created the container for the pool. -/
def Shared.Labelled (s : Shared) (containerID pool : String) : Prop :=
  ∃ c, s.docker containerID = some c ∧ c.pool = pool

/-- A container of the pool that nobody is still readying. -/
structure State.Settled (s : State) (containerID pool : String) : Prop where
  labelled : s.shared.Labelled containerID pool
  ready : ∀ pc ∈ s.threads, pc.readies containerID = false

structure WellFormed (s : State) : Prop where
  slot : ∀ pool t, s.shared.slot pool = some t → s.Settled t.containerID pool
  held : ∀ pc ∈ s.threads, ∀ acq, pc.held = some acq → s.Settled acq.tunnel.containerID acq.pool
  readied : ∀ pc ∈ s.threads, ∀ pool containerID,
    pc.unpublished = some (pool, containerID) → s.shared.Labelled containerID pool
  single : ∀ containerID, s.threads.countP (Pc.readies containerID) ≤ 1

@[simp]
theorem held_start (entry : Entry) : entry.start.held = none := by
  cases entry with
  | reapOrphans names | close names => cases names <;> rfl
  | _ => rfl

@[simp]
theorem unpublished_start (entry : Entry) : entry.start.unpublished = none := by
  cases entry with
  | reapOrphans names | close names => cases names <;> rfl
  | _ => rfl

theorem Pc.readies_eq_true_iff :
    pc.readies containerID = true ↔ ∃ pool, pc.unpublished = some (pool, containerID) := by
  unfold Pc.readies
  cases hspawn : pc.unpublished with
  | none => simp
  | some spawn =>
      obtain ⟨pool, id⟩ := spawn
      simp

theorem Pc.holds_eq_true_iff :
    pc.holds containerID = true ↔
      ∃ acq, pc.held = some acq ∧ acq.tunnel.containerID = containerID := by
  unfold Pc.holds
  cases pc.held <;> simp

theorem Pc.readies_of_unpublished_none (h : pc.unpublished = none) (containerID : String) :
    pc.readies containerID = false := by
  simp [Pc.readies, h]

@[simp]
theorem Tunnel.containerID_released (t : Tunnel) : t.released.containerID = t.containerID :=
  t.sameCell_released.containerID

section Turn

variable {s s' : Shared} {pc pc' : Pc}

theorem Turn.docker_mono (hturn : Turn s pc s' pc') (hc : s.docker containerID = some c) :
    s'.docker containerID = some c := by
  cases hturn with
  | create pool id container hfresh hlabel hcreated hslots hheld hheld' hreadies hreadies' hdocker =>
      have hne : containerID ≠ id := by
        rintro rfl
        rw [hfresh] at hc
        cases hc
      rw [hdocker, Function.update_of_ne hne, hc]
  | _ => simp_all

theorem Turn.readies_cases (hturn : Turn s pc s' pc')
    (hreadies : pc'.unpublished = some (pool, containerID)) :
    pc.unpublished = some (pool, containerID) ∨
      s.docker containerID = none ∧ pc.unpublished = none ∧ s'.Labelled containerID pool := by
  cases hturn with
  | create pool' id c hfresh hlabel hcreated hslots hheld hheld' hnone hreadies' hdocker =>
      obtain ⟨rfl, rfl⟩ : pool' = pool ∧ id = containerID := by simpa [hreadies] using hreadies'.symm
      exact .inr ⟨hfresh, hnone, c, by simp [hdocker], hlabel⟩
  | quiet f hkept hslots hheld hsame hdocker =>
      obtain hsame | hsame := hsame
      · exact .inl (hsame ▸ hreadies)
      · simp [hsame] at hreadies
  | _ => simp_all

/-- The cell in a slot after a turn was there before, or is published now. -/
theorem Turn.slot_cases (hturn : Turn s pc s' pc') {t' : Tunnel} (hslot : s'.slot pool = some t') :
    (∃ t, s.slot pool = some t ∧ t.SameCell t') ∨
      pc.publishes = some pool ∧ pc.unpublished = some (pool, t'.containerID) ∧
        pc'.unpublished = none ∧ pc'.held = some ⟨t', pool⟩ := by
  cases hturn with
  | use target t htarget hhot hacquires hslots =>
      rw [hslots] at hslot
      split at hslot
      · next hpool =>
          subst hpool
          cases hslot
          exact .inl ⟨t, htarget, t.sameCell_use _⟩
      · exact .inl ⟨t', hslot, .refl t'⟩
  | publish target t now hpublishes hslots hheld hheld' hreadies hreadies' =>
      rw [hslots] at hslot
      split at hslot
      · next hpool =>
          obtain ⟨rfl, -⟩ := hpool
          cases hslot
          exact .inr ⟨hpublishes, hreadies, hreadies', hheld'⟩
      · exact .inl ⟨t', hslot, .refl t'⟩
  | release acq hcall hslots =>
      rw [hslots, Option.map_eq_some_iff] at hslot
      obtain ⟨t, ht, rfl⟩ := hslot
      refine .inl ⟨t, ht, ?_⟩
      split
      · exact t.sameCell_released
      · exact .refl t
  | clear target hcall hslots =>
      rw [hslots] at hslot
      split at hslot
      · cases hslot
      · exact .inl ⟨t', hslot, .refl t'⟩
  | create target id c hfresh hlabel hcreated hslots =>
      exact .inl ⟨t', hslots pool ▸ hslot, .refl t'⟩
  | quiet f hkept hslots =>
      rw [hslots, Option.map_eq_some_iff] at hslot
      obtain ⟨t, ht, rfl⟩ := hslot
      exact .inl ⟨t, ht, (hkept pool t).sameCell⟩

/-- The cell in a slot stays there, unless the turn publishes another one or clears the slot. -/
theorem Turn.slot_stays (hturn : Turn s pc s' pc') {t : Tunnel} (hslot : s.slot pool = some t) :
    (∃ t', s'.slot pool = some t' ∧ t.SameCell t') ∨ pc.publishes = some pool ∨
      pc.call = .setTunnel pool none := by
  cases hturn with
  | use target t₀ htarget hhot hacquires hslots =>
      left
      rw [hslots]
      split
      · next hpool =>
          subst hpool
          obtain rfl : t₀ = t := Option.some.inj (htarget.symm.trans hslot)
          exact ⟨_, rfl, t₀.sameCell_use _⟩
      · exact ⟨t, hslot, .refl t⟩
  | publish target t₀ now hpublishes hslots =>
      by_cases hpool : pool = target
      · exact .inr (.inl (hpool ▸ hpublishes))
      · exact .inl ⟨t, by rw [hslots, if_neg (fun h => hpool h.1), hslot], .refl t⟩
  | release acq hreleases hslots =>
      left
      rw [hslots, hslot]
      refine ⟨_, rfl, ?_⟩
      split
      · exact t.sameCell_released
      · exact .refl t
  | clear target hcall hslots =>
      by_cases hpool : pool = target
      · exact .inr (.inr (hpool ▸ hcall))
      · exact .inl ⟨t, by rw [hslots, if_neg hpool, hslot], .refl t⟩
  | create target id c hfresh hlabel hcreated hslots =>
      exact .inl ⟨t, by rw [hslots, hslot], .refl t⟩
  | quiet f hkept hslots => exact .inl ⟨_, by rw [hslots, hslot]; rfl, (hkept pool t).sameCell⟩

/-- The acquisition a goroutine holds after a turn is the one before, or one of the cell in the slot
of its pool, or of the container it publishes. -/
theorem Turn.held_cases (hturn : Turn s pc s' pc') {acq : Acquisition}
    (hheld : pc'.held = some acq) :
    pc.held = some acq ∨
      (∃ t, s.slot acq.pool = some t ∧ t.SameCell acq.tunnel) ∨
      pc.unpublished = some (acq.pool, acq.tunnel.containerID) ∧ pc'.unpublished = none := by
  cases hturn with
  | use pool t hslot hhot hacquires hslots hnone hheld' =>
      obtain rfl : ⟨t.use s.now, pool⟩ = acq := by simpa [hheld] using hheld'.symm
      exact .inr (.inl ⟨t, hslot, t.sameCell_use _⟩)
  | publish pool t now hcall hslots hnone hheld' hreadies hreadies' =>
      obtain rfl : ⟨t.firstUse pool now, pool⟩ = acq := by simpa [hheld] using hheld'.symm
      exact .inr (.inr ⟨hreadies, hreadies'⟩)
  | quiet f hkept hslots hsame => exact .inl (hsame ▸ hheld)
  | release acq' hcall hslots hheld' hnone => simp [hnone] at hheld
  | clear pool hcall hslots hheld' hnone => simp [hnone] at hheld
  | create pool id c hfresh hlabel hcreated hslots hheld' hnone => simp [hnone] at hheld

end Turn

theorem State.Settled.step (h : s.Settled containerID pool) (hstep : Pr0xteus.step m s a = some t) :
    t.Settled containerID pool := by
  cases step_cases hstep with
  | tick d => exact ⟨h.labelled, h.ready⟩
  | start entry hvisits =>
      refine ⟨h.labelled, fun pc hpc => ?_⟩
      rcases List.mem_append.mp hpc with hpc | hpc
      · exact h.ready pc hpc
      · obtain rfl := List.mem_singleton.mp hpc
        exact Pc.readies_of_unpublished_none (unpublished_start entry) containerID
  | turn i answer pc shared ret hpc hexec =>
      have hturn := turn_of_exec hexec
      obtain ⟨c, hc, hlabel⟩ := h.labelled
      refine ⟨⟨c, hturn.docker_mono hc, hlabel⟩, fun q hq => ?_⟩
      rcases List.mem_or_eq_of_mem_set hq with hq | rfl
      · exact h.ready q hq
      · -- it would have to be readied before, or be created only now
        rw [← Bool.not_eq_true, Pc.readies_eq_true_iff]
        rintro ⟨pool', hreadies⟩
        obtain hbefore | ⟨hfresh, -⟩ := hturn.readies_cases hreadies
        · have hready := h.ready pc (List.mem_of_getElem? hpc)
          rw [Pc.readies_eq_true_iff.mpr ⟨pool', hbefore⟩] at hready
          cases hready
        · rw [hfresh] at hc
          cases hc

theorem State.Settled.pool_eq {containerID pool pool' : String} (h : s.Settled containerID pool)
    (h' : s.Settled containerID pool') : pool = pool' := by
  obtain ⟨c, hc, rfl⟩ := h.labelled
  obtain ⟨c', hc', rfl⟩ := h'.labelled
  rw [hc] at hc'
  cases hc'
  rfl

theorem WellFormed.settled_of_published {shared : Shared} {i : Nat} (hwf : WellFormed s)
    (hpc : s.threads[i]? = some pc) (hturn : Turn s.shared pc shared pc')
    (hreadies : pc.unpublished = some (pool, containerID)) (hreadies' : pc'.unpublished = none) :
    State.Settled ⟨shared, s.threads.set i pc'⟩ containerID pool := by
  obtain ⟨c, hc, hlabel⟩ := hwf.readied pc (List.mem_of_getElem? hpc) pool containerID hreadies
  refine ⟨⟨c, hturn.docker_mono hc, hlabel⟩, ?_⟩
  have hbefore : pc.readies containerID = true := Pc.readies_eq_true_iff.mpr ⟨pool, hreadies⟩
  have hafter := Pc.readies_of_unpublished_none hreadies' containerID
  have hadd := Threads.countP_set_add (Pc.readies containerID) pc' hpc
  have hsingle := hwf.single containerID
  rw [hbefore, hafter] at hadd
  have hzero : (s.threads.set i pc').countP (Pc.readies containerID) = 0 := by
    simp only [if_true, Bool.false_eq_true, if_false] at hadd
    omega
  simpa using List.countP_eq_zero.mp hzero

theorem WellFormed.countP_readies_of_fresh (hwf : WellFormed s)
    (hfresh : s.shared.docker containerID = none) :
    s.threads.countP (Pc.readies containerID) = 0 := by
  rw [List.countP_eq_zero]
  intro pc hpc hreadies
  obtain ⟨pool, hspawn⟩ := Pc.readies_eq_true_iff.mp hreadies
  obtain ⟨c, hc, -⟩ := hwf.readied pc hpc pool containerID hspawn
  rw [hfresh] at hc
  cases hc

theorem WellFormed.single_of_turn {shared : Shared} {i : Nat} (hwf : WellFormed s)
    (hpc : s.threads[i]? = some pc) (hturn : Turn s.shared pc shared pc') (containerID : String) :
    (s.threads.set i pc').countP (Pc.readies containerID) ≤ 1 := by
  have hadd := Threads.countP_set_add (Pc.readies containerID) pc' hpc
  have hsingle := hwf.single containerID
  cases hafter : pc'.readies containerID with
  | false =>
      rw [hafter] at hadd
      simp only [Bool.false_eq_true, if_false] at hadd
      omega
  | true =>
      obtain ⟨pool, hreadies⟩ := Pc.readies_eq_true_iff.mp hafter
      obtain hbefore | ⟨hfresh, -⟩ := hturn.readies_cases hreadies
      · rw [hafter, Pc.readies_eq_true_iff.mpr ⟨pool, hbefore⟩] at hadd
        omega
      · rw [hafter, hwf.countP_readies_of_fresh hfresh] at hadd
        simp only [if_true] at hadd
        omega

theorem wellFormed_init : WellFormed (init m) where
  slot pool t hslot := by
    rw [slot_init] at hslot
    cases hslot
  held pc hpc := by simp [init] at hpc
  readied pc hpc := by simp [init] at hpc
  single containerID := by simp [init]

theorem wellFormed_step (hwf : WellFormed s) (hstep : step m s a = some t) : WellFormed t := by
  have hsettled := fun {containerID pool : String} (h : s.Settled containerID pool) => h.step hstep
  cases step_cases hstep with
  | tick d =>
      exact ⟨fun pool t hslot => hsettled (hwf.slot pool t hslot),
        fun pc hpc acq hacq => hsettled (hwf.held pc hpc acq hacq), hwf.readied, hwf.single⟩
  | start entry hvisits =>
      refine ⟨fun pool t hslot => hsettled (hwf.slot pool t hslot), fun pc hpc acq hacq => ?_,
        fun pc hpc pool containerID hreadies => ?_, fun containerID => ?_⟩
      · rcases List.mem_append.mp hpc with hpc | hpc
        · exact hsettled (hwf.held pc hpc acq hacq)
        · obtain rfl := List.mem_singleton.mp hpc
          simp at hacq
      · rcases List.mem_append.mp hpc with hpc | hpc
        · exact hwf.readied pc hpc pool containerID hreadies
        · obtain rfl := List.mem_singleton.mp hpc
          simp at hreadies
      · have hnew := Pc.readies_of_unpublished_none (unpublished_start entry) containerID
        simpa [List.countP_append, hnew] using hwf.single containerID
  | turn i answer pc shared ret hpc hexec =>
      have hturn := turn_of_exec hexec
      have hmem := List.mem_of_getElem? hpc
      refine ⟨fun pool t hslot => ?_, fun q hq acq hacq => ?_,
        fun q hq pool containerID hreadies => ?_, fun containerID => ?_⟩
      · obtain ⟨t', hslot', hcell⟩ | ⟨-, hreadies, hreadies', -⟩ := hturn.slot_cases hslot
        · exact hcell.containerID ▸ hsettled (hwf.slot pool t' hslot')
        · exact hwf.settled_of_published hpc hturn hreadies hreadies'
      · rcases List.mem_or_eq_of_mem_set hq with hq | rfl
        · exact hsettled (hwf.held q hq acq hacq)
        · obtain hheld | ⟨t', hslot', hcell⟩ | ⟨hreadies, hreadies'⟩ := hturn.held_cases hacq
          · exact hsettled (hwf.held pc hmem acq hheld)
          · exact hcell.containerID ▸ hsettled (hwf.slot acq.pool t' hslot')
          · exact hwf.settled_of_published hpc hturn hreadies hreadies'
      · rcases List.mem_or_eq_of_mem_set hq with hq | rfl
        · obtain ⟨c, hc, hlabel⟩ := hwf.readied q hq pool containerID hreadies
          exact ⟨c, hturn.docker_mono hc, hlabel⟩
        · obtain hbefore | ⟨-, -, hlabelled⟩ := hturn.readies_cases hreadies
          · obtain ⟨c, hc, hlabel⟩ := hwf.readied pc hmem pool containerID hbefore
            exact ⟨c, hturn.docker_mono hc, hlabel⟩
          · exact hlabelled
      · exact hwf.single_of_turn hpc hturn containerID

theorem wellFormed_of_path (hpath : Path (step m) (init m) es s) : WellFormed s :=
  hpath.invariant WellFormed wellFormed_init fun _ _ hwf hstep => wellFormed_step hwf hstep

theorem docker_step (hstep : step m s a = some t) (hc : s.shared.docker containerID = some c) :
    t.shared.docker containerID = some c := by
  cases step_cases hstep with
  | tick d => exact hc
  | start entry hvisits => exact hc
  | turn i answer pc shared ret hpc hexec => exact (turn_of_exec hexec).docker_mono hc

theorem docker_of_path (hpath : Path (step m) s es t) (hc : s.shared.docker containerID = some c) :
    t.shared.docker containerID = some c :=
  hpath.invariant (fun u => u.shared.docker containerID = some c) hc
    fun _ _ hc hstep => docker_step hstep hc

theorem docker_empty_step (hstep : step m s a = some t) (hempty : s.shared.docker "" = none) :
    t.shared.docker "" = none := by
  cases step_cases hstep with
  | tick d => exact hempty
  | start entry hvisits => exact hempty
  | turn i answer pc shared ret hpc hexec =>
      cases turn_of_exec hexec with
      | create pool id c hfresh hlabel hcreated hslots hheld hheld' hreadies hreadies' hdocker hname =>
          rw [hdocker, Function.update_of_ne (Ne.symm hname)]
          exact hempty
      | _ => simp_all

theorem docker_empty_of_path (hpath : Path (step m) (init m) es s) : s.shared.docker "" = none :=
  hpath.invariant (fun s => s.shared.docker "" = none) m.docker_empty
    fun _ _ hempty hstep => docker_empty_step hstep hempty

theorem WellFormed.ne_empty (hwf : WellFormed s) (hempty : s.shared.docker "" = none) {t : Tunnel}
    (hslot : s.shared.slot pool = some t) : t.containerID ≠ "" := by
  intro hid
  obtain ⟨c, hc, -⟩ := (hwf.slot pool t hslot).labelled
  rw [hid, hempty] at hc
  cases hc

theorem isSome_spec_iff : (m.spec pool).isSome = true ↔ pool ∈ m.poolNames := by
  simp [Setup.spec, Setup.poolNames]

/-- The map of pools never gains or loses a key. -/
theorem isSome_pools_of_path (hpath : Path (step m) (init m) es s) (pool : String) :
    (s.shared.pools pool).isSome = true ↔ pool ∈ m.poolNames := by
  have hpools := hpath.invariant (fun s => ∀ q, (s.shared.pools q).isSome = (m.spec q).isSome)
    (by simp [init, Shared.initial])
    fun _ _ hpools hstep q => (isSome_pools_step hstep q).trans (hpools q)
  rw [hpools pool, isSome_spec_iff]

theorem mem_poolNames_of_slot (hpath : Path (step m) (init m) es s) {t : Tunnel}
    (hslot : s.shared.slot pool = some t) : pool ∈ m.poolNames := by
  refine (isSome_pools_of_path hpath pool).mp ?_
  unfold Shared.slot at hslot
  cases hpool : s.shared.pools pool with
  | none => simp [hpool] at hslot
  | some p => rfl

end Pr0xteus
