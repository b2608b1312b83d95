import Pr0xteus.Proof.Cold
import Pr0xteus.Proof.InFlight

/-!
# The idle reaper against late acquisitions

An idle pass decides on a snapshot, may ask the cell for its live connections, and only then marks
the tunnel. From the mark on nobody can acquire it. In the window before, an acquisition goes
unnoticed: `killTunnel` does not look at the counter again.
-/

namespace Pr0xteus

open GoTime Transition

variable {m : Setup} {k : Int × String × Tunnel} {s : State}

/-- An idle pass kills no container with an unreleased acquisition and none used too recently. -/
def IdleKillsUnused (m : Setup) (e : Edge State Action) : Prop :=
  ∀ pc ∈ actor e, ∀ k ∈ pc.idleKills,
    (∀ q ∈ e.source.threads, q.holds k.2.2.containerID = false) ∧
      ∀ pool, ∀ t ∈ e.source.shared.slot pool, t.containerID = k.2.2.containerID →
        ¬sub k.1 t.lastUsedAt < m.cfg.idleTimeout

/-- Nobody acquires a container between an idle pass's snapshot of it and the mark. -/
def AcquiresUnseen (e : Edge State Action) : Prop :=
  ∀ pc ∈ actor e, ∀ t ∈ pc.acquires e.source.shared, ∀ q ∈ e.source.threads, ∀ k ∈ q.idleSeen,
    k.2.2.containerID ≠ t.containerID

instance (e : Edge State Action) : Decidable (AcquiresUnseen e) :=
  inferInstanceAs (Decidable (∀ pc ∈ actor e, ∀ t ∈ pc.acquires e.source.shared,
    ∀ q ∈ e.source.threads, ∀ k ∈ q.idleSeen, k.2.2.containerID ≠ t.containerID))

/-- A container of the pool that nobody holds and nobody used lately, as of the pass's clock. -/
structure Idle (m : Setup) (s : State) (now : Int) (pool containerID : String) : Prop where
  settled : s.Settled containerID pool
  free : ∀ q ∈ s.threads, q.holds containerID = false
  old : ∀ t ∈ s.shared.slot pool, t.containerID = containerID →
    ¬sub now t.lastUsedAt < m.cfg.idleTimeout

theorem Idle.step {s t : State} {a : Action} {now : Int} {pool containerID : String}
    (hidle : Idle m s now pool containerID) (hstep : Pr0xteus.step m s a = some t)
    (hacquires : ∀ pc ∈ actor ⟨s, a, t⟩, ∀ t ∈ pc.acquires s.shared, t.containerID ≠ containerID) :
    Idle m t now pool containerID := by
  have hsettled := hidle.settled.step hstep
  cases step_cases hstep with
  | tick d => exact ⟨hsettled, hidle.free, hidle.old⟩
  | start entry hvisits =>
      refine ⟨hsettled, fun q hq => ?_, hidle.old⟩
      rcases List.mem_append.mp hq with hq | hq
      · exact hidle.free q hq
      · obtain rfl := List.mem_singleton.mp hq
        exact Pc.holds_of_held_none (held_start entry) containerID
  | turn i answer pc shared ret hpc hexec =>
      have hturn := turn_of_exec hexec
      have hmem := List.mem_of_getElem? hpc
      have hready := hidle.settled.ready pc hmem
      have hacquires := hacquires pc hpc
      refine ⟨hsettled, fun q hq => ?_, fun t' ht' hid => ?_⟩
      · rcases List.mem_or_eq_of_mem_set hq with hq | rfl
        · exact hidle.free q hq
        · rw [← Bool.not_eq_true]
          intro hholds
          have hbefore := hturn.holds_of_not_acquires hready hacquires hholds
          rw [hidle.free pc hmem] at hbefore
          cases hbefore
      · obtain ⟨t, hslot, hid', hused, -⟩ := hturn.slot_of_not_acquires hready hacquires ht' hid
        rw [hused]
        exact hidle.old t hslot hid'

section Resume

variable {s s' : Shared} {answer : Answer} {pc : Pc}

theorem isBusy_of_idleSeen (h : pc.idleSeen = some k) : pc.isBusy = true := by
  unfold Pc.idleSeen at h
  split at h <;> first | rfl | cases h

theorem isBusy_of_idleKills (h : pc.idleKills = some k) : pc.isBusy = true := by
  unfold Pc.idleKills at h
  split at h <;> first | rfl | cases h

theorem acquires_of_isBackground (h : pc.isBackground = true) : pc.acquires s = none := by
  unfold Pc.isBackground at h
  split at h <;> first | rfl | cases h

theorem idleSeen_resume {ret : pc.call.Ret} (hexec : exec m s pc.call answer = some (s', ret))
    (hk : (resume m pc ret).idleSeen = some k) :
    pc.isBackground = true ∧
      (pc.idleSeen = some k ∨ s.slot k.2.1 = some k.2.2 ∧ k.2.2.inFlight ≤ 0 ∧
        ¬sub k.1 k.2.2.lastUsedAt < m.cfg.idleTimeout) := by
  have hbusy := isBusy_of_idleSeen hk
  obtain ⟨hbackground, hnext⟩ := backgroundNext_of_isBusy hexec hbusy
  refine ⟨hbackground, ?_⟩
  generalize resume m pc ret = pc' at hnext hk
  cases hnext with
  | idleStatus now urls pool names t url hslot hidle hfree =>
      cases hk
      exact .inr ⟨hslot, hfree, hidle⟩
  | idleKill now urls pool names t hslot hidle hfree =>
      cases hk
      exact .inr ⟨hslot, hfree, hidle⟩
  | statusKill now urls pool names t url => exact .inl hk
  | _ => cases hk

theorem idleKills_resume {ret : pc.call.Ret} (hexec : exec m s pc.call answer = some (s', ret))
    (hk : (resume m pc ret).idleKills = some k) :
    pc.idleSeen = some k ∧ Cold s' k.2.1 k.2.2.containerID := by
  have hbusy := isBusy_of_idleKills hk
  have hnext := (backgroundNext_of_isBusy hexec hbusy).2
  generalize resume m pc ret = pc' at hnext hk
  cases hnext with
  | killInvoke pass pool t =>
      cases pass with
      | idle now urls names =>
          cases hk
          exact ⟨rfl, cold_of_markReaping hexec⟩
      | health urls names => cases hk
  | _ => cases hk

end Resume

/-- Whatever an idle pass goes for is idle, and cannot be acquired once the pass comes to the
kill. -/
structure IdlePasses (m : Setup) (s : State) : Prop where
  seen : ∀ pc ∈ s.threads, ∀ k ∈ pc.idleSeen, Idle m s k.1 k.2.1 k.2.2.containerID
  kills : ∀ pc ∈ s.threads, ∀ k ∈ pc.idleKills,
    Idle m s k.1 k.2.1 k.2.2.containerID ∧ Cold s.shared k.2.1 k.2.2.containerID

theorem idle_of_slot (hwf : WellFormed s) (hcounted : Counted s) {now : Int} {pool : String}
    {t : Tunnel} (hslot : s.shared.slot pool = some t) (hfree : t.inFlight ≤ 0)
    (hold : ¬sub now t.lastUsedAt < m.cfg.idleTimeout) : Idle m s now pool t.containerID := by
  refine ⟨hwf.slot pool t hslot, fun q hq => ?_, fun t' ht' _ => ?_⟩
  · have hcount := hcounted pool t hslot
    have hzero : s.threads.countP (Pc.holds t.containerID) = 0 := by omega
    simpa using List.countP_eq_zero.mp hzero q hq
  · obtain rfl : t = t' := Option.some.inj (hslot.symm.trans ht')
    exact hold

theorem idlePasses_step {s t : State} {a : Action} (hwf : WellFormed s) (hcounted : Counted s)
    (hpasses : IdlePasses m s) (hunseen : AcquiresUnseen ⟨s, a, t⟩)
    (hstep : step m s a = some t) : IdlePasses m t := by
  -- the goroutines that do not move keep what they had
  have hseen : ∀ q ∈ s.threads, ∀ k ∈ q.idleSeen, Idle m t k.1 k.2.1 k.2.2.containerID :=
    fun q hq k hk => (hpasses.seen q hq k hk).step hstep fun pc hpc t ht =>
      (hunseen pc hpc t ht q hq k hk).symm
  have hkills : ∀ q ∈ s.threads, ∀ k ∈ q.idleKills,
      Idle m t k.1 k.2.1 k.2.2.containerID ∧ Cold t.shared k.2.1 k.2.2.containerID := by
    intro q hq k hk
    obtain ⟨hidle, hcold⟩ := hpasses.kills q hq k hk
    exact ⟨hidle.step hstep fun pc hpc t ht => not_acquires_of_cold hwf hidle.settled hcold ht,
      hcold.step hwf hidle.settled hstep⟩
  constructor
  · refine forall_mem_threads_of_step hstep hseen (fun _ h => h) ?_ ?_
    · intro entry _ _ k hk
      have hbusy := isBusy_of_idleSeen hk
      simp at hbusy
    · intro i answer pc ret haction hpc hexec k hk
      obtain ⟨hbackground, hbefore | ⟨hslot, hfree, hold⟩⟩ := idleSeen_resume hexec hk
      · exact hseen pc (List.mem_of_getElem? hpc) k hbefore
      · refine (idle_of_slot hwf hcounted hslot hfree hold).step hstep fun q hq t ht => ?_
        subst haction
        obtain rfl : pc = q := Option.some.inj (hpc.symm.trans hq)
        rw [acquires_of_isBackground hbackground] at ht
        cases ht
  · refine forall_mem_threads_of_step hstep hkills (fun _ h => h) ?_ ?_
    · intro entry _ _ k hk
      have hbusy := isBusy_of_idleKills hk
      simp at hbusy
    · intro i answer pc ret _ hpc hexec k hk
      obtain ⟨hbefore, hcold⟩ := idleKills_resume hexec hk
      exact ⟨hseen pc (List.mem_of_getElem? hpc) k hbefore, hcold⟩

/-- In a run where every release finds its own container, and nobody acquires a container between an
idle pass's snapshot of it and the mark, the idle reaper kills only what nobody holds and nobody has
used within the idle timeout of the pass's clock. -/
theorem idle_kills_unused (m : Setup) (actions : List Action)
    (hreleases : ∀ e ∈ run m actions, ReleasesOwn e)
    (hunseen : ∀ e ∈ run m actions, AcquiresUnseen e) :
    ∀ e ∈ run m actions, IdleKillsUnused m e := by
  intro e he
  obtain ⟨s, hpath⟩ := exists_path_run m actions
  have hends := hpath.invariant_of_mem
    (fun s => WellFormed s ∧ Counted s ∧ IdlePasses m s)
    ⟨wellFormed_init, counted_init, ⟨by simp [init], by simp [init]⟩⟩
    (fun e he hinv hstep =>
      ⟨wellFormed_step hinv.1 hstep, counted_step hinv.1 hinv.2.1 (hreleases e he) hstep,
        idlePasses_step hinv.1 hinv.2.1 hinv.2.2 (hunseen e he) hstep⟩) he
  obtain ⟨hwf, -, hpasses⟩ := hends.1
  intro pc hpc k hk
  obtain ⟨hidle, -⟩ := hpasses.kills pc (mem_threads_of_actor hpc) k hk
  refine ⟨hidle.free, fun pool t ht hid => ?_⟩
  -- a container has one pool, so this is the slot the pass looked at
  obtain rfl := (hwf.slot pool t ht).pool_eq (hid ▸ hidle.settled)
  exact hidle.old t ht hid

open Schedule in
/-- An idle pass over a pool whose only client is gone. -/
theorem idle_kills_unused_quiet :
    let actions := .start (.proxy "de" none false) :: ready 0 0 "x" ++ go 0 2 ++ lease 0 1 2 ++
      [.tick 600000000000, .start (.reapIdle ["de"])] ++ steps 1 [.ok, .handles [], .ok] ++ go 1 3
    (∀ e ∈ run setup actions, ReleasesOwn e) ∧ (∀ e ∈ run setup actions, AcquiresUnseen e) ∧
      ∀ e ∈ run setup actions, IdleKillsUnused setup e := by
  intro actions
  have hreleases : ∀ e ∈ run setup actions, ReleasesOwn e := by decide +kernel
  have hunseen : ∀ e ∈ run setup actions, AcquiresUnseen e := by decide +kernel
  exact ⟨hreleases, hunseen, idle_kills_unused setup actions hreleases hunseen⟩

open Schedule in
/-- A lease's connection is opened between the snapshot and the mark; the pass kills its cell. -/
theorem not_idle_kills_unused :
    ¬∀ e ∈ run setup (.start (.proxy "de" none false) :: ready 0 0 "x" ++ go 0 2 ++ lease 0 1 2 ++
      [.tick 600000000000, .start (.reapIdle ["de"])] ++ steps 1 [.ok, .handles [], .ok] ++
      .start (.lease (leasePart 1) (leasePart 2) .connect) :: go 2 4 ++ go 1 2),
      IdleKillsUnused setup e := by
  intro hunused
  have hfree := fun e he pc hpc k hk => (hunused e he pc hpc k hk).1
  revert hfree
  decide +kernel

end Pr0xteus
