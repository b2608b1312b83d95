import Pr0xteus.Lib.Threads

/-!
# Doing something once

`sync.Once` among threads that call `Do` at any time. The first to come runs the function, the others
wait until it has returned, and whoever comes later goes on at once. The invariant counts the threads
at each phase, so a step of one thread is accounted for by `Threads.countP_set_add`.
-/

namespace Once

inductive State where
  | fresh
  | running
  | done
  deriving DecidableEq, Repr

/-- Where a thread is: before or waiting in `Do`, in the function, back from the function, or past
`Do`. -/
inductive Phase where
  | before
  | inside
  | leaving
  | past
  deriving DecidableEq, Repr

variable {Pc : Type}

def count (phase : Pc → Phase) (threads : List Pc) (p : Phase) : Nat :=
  threads.countP fun pc => phase pc = p

/-- The function has been run this often by these threads. -/
structure Ran (phase : Pc → Phase) (threads : List Pc) (once : State) (runs : Nat) : Prop where
  fresh : once = .fresh → count phase threads .inside = 0 ∧ count phase threads .leaving = 0 ∧
    count phase threads .past = 0 ∧ runs = 0
  running : once = .running → count phase threads .inside + count phase threads .leaving = 1 ∧
    count phase threads .past = 0 ∧ runs = count phase threads .leaving
  done : once = .done → count phase threads .inside = 0 ∧ count phase threads .leaving = 0 ∧
    0 < count phase threads .past ∧ runs = 1

namespace Ran

variable {phase : Pc → Phase} {threads : List Pc} {once : State} {runs i : Nat} {pc pc' : Pc}

theorem init (phase : Pc → Phase) : Ran phase [] .fresh 0 where
  fresh _ := ⟨rfl, rfl, rfl, rfl⟩
  running := nofun
  done := nofun

/-- Only the threads that are not before `Do` are counted. -/
theorem of_count_eq {threads' : List Pc} (h : Ran phase threads once runs)
    (hcount : ∀ p, p ≠ .before → count phase threads' p = count phase threads p) :
    Ran phase threads' once runs := by
  have hinside := hcount .inside (by decide)
  have hleaving := hcount .leaving (by decide)
  have hpast := hcount .past (by decide)
  constructor
  · rw [hinside, hleaving, hpast]
    exact h.fresh
  · rw [hinside, hleaving, hpast]
    exact h.running
  · rw [hinside, hleaving, hpast]
    exact h.done

theorem start (h : Ran phase threads once runs) (hpc : phase pc = .before) :
    Ran phase (threads ++ [pc]) once runs := by
  apply h.of_count_eq
  intro p hp
  simp [count, List.countP_append, hpc, Ne.symm hp]

theorem count_set (phase : Pc → Phase) (pc' : Pc) (p : Phase) (hpc : threads[i]? = some pc) :
    count phase (threads.set i pc') p + (if phase pc = p then 1 else 0) =
      count phase threads p + (if phase pc' = p then 1 else 0) := by
  have hadd := Threads.countP_set_add (fun pc => decide (phase pc = p)) pc' hpc
  simp only [decide_eq_true_eq] at hadd
  exact hadd

theorem stay (h : Ran phase threads once runs) (hpc : threads[i]? = some pc)
    (hsame : phase pc' = phase pc) : Ran phase (threads.set i pc') once runs := by
  apply h.of_count_eq
  intro p _
  have hset := count_set phase pc' p hpc
  rw [hsame] at hset
  omega

/-- The first to come begins to run the function. -/
theorem enter (h : Ran phase threads .fresh runs) (hpc : threads[i]? = some pc)
    (hbefore : phase pc = .before) (hinside : phase pc' = .inside) :
    Ran phase (threads.set i pc') .running runs := by
  obtain ⟨hin, hleaving, hpast, hruns⟩ := h.fresh rfl
  have hin' := count_set phase pc' .inside hpc
  have hleaving' := count_set phase pc' .leaving hpc
  have hpast' := count_set phase pc' .past hpc
  simp only [hbefore, hinside, reduceCtorEq, if_false, if_true] at hin' hleaving' hpast'
  exact ⟨nofun, fun _ => ⟨by omega, by omega, by omega⟩, nofun⟩

/-- A thread in the function is the one that runs it. -/
theorem running_of_inside (h : Ran phase threads once runs) (hpc : threads[i]? = some pc)
    (hphase : phase pc = .inside ∨ phase pc = .leaving) : once = .running := by
  have hpos : 0 < count phase threads .inside + count phase threads .leaving := by
    obtain hphase | hphase := hphase
    · have hpos : 0 < count phase threads .inside :=
        Threads.countP_pos hpc (by simp [hphase])
      omega
    · have hpos : 0 < count phase threads .leaving :=
        Threads.countP_pos hpc (by simp [hphase])
      omega
  cases once with
  | running => rfl
  | fresh =>
      obtain ⟨hin, hleaving, -⟩ := h.fresh rfl
      omega
  | done =>
      obtain ⟨hin, hleaving, -⟩ := h.done rfl
      omega

theorem run (h : Ran phase threads once runs) (hpc : threads[i]? = some pc)
    (hinside : phase pc = .inside) (hleaving : phase pc' = .leaving) :
    Ran phase (threads.set i pc') once (runs + 1) := by
  obtain rfl := h.running_of_inside hpc (.inl hinside)
  obtain ⟨hone, hpast, hruns⟩ := h.running rfl
  have hin' := count_set phase pc' .inside hpc
  have hleaving' := count_set phase pc' .leaving hpc
  have hpast' := count_set phase pc' .past hpc
  simp only [hinside, hleaving, reduceCtorEq, if_false, if_true] at hin' hleaving' hpast'
  exact ⟨nofun, fun _ => ⟨by omega, by omega, by omega⟩, nofun⟩

/-- `Do` returns where the function was run, and from then on to everybody. -/
theorem leave (h : Ran phase threads once runs) (hpc : threads[i]? = some pc)
    (hleaving : phase pc = .leaving) (hpast : phase pc' = .past) :
    Ran phase (threads.set i pc') .done runs := by
  obtain rfl := h.running_of_inside hpc (.inr hleaving)
  obtain ⟨hone, -, hruns⟩ := h.running rfl
  have hpos : 0 < count phase threads .leaving := Threads.countP_pos hpc (by simp [hleaving])
  have hin' := count_set phase pc' .inside hpc
  have hleaving' := count_set phase pc' .leaving hpc
  have hpast' := count_set phase pc' .past hpc
  simp only [hleaving, hpast, reduceCtorEq, if_false, if_true] at hin' hleaving' hpast'
  exact ⟨nofun, nofun, fun _ => ⟨by omega, by omega, by omega, by omega⟩⟩

theorem pass (h : Ran phase threads .done runs) (hpc : threads[i]? = some pc)
    (hbefore : phase pc = .before) (hpast : phase pc' = .past) :
    Ran phase (threads.set i pc') .done runs := by
  obtain ⟨hin, hleaving, hpos, hruns⟩ := h.done rfl
  have hin' := count_set phase pc' .inside hpc
  have hleaving' := count_set phase pc' .leaving hpc
  have hpast' := count_set phase pc' .past hpc
  simp only [hbefore, hpast, reduceCtorEq, if_false, if_true] at hin' hleaving' hpast'
  exact ⟨nofun, nofun, fun _ => ⟨by omega, by omega, by omega, hruns⟩⟩

theorem exists_runner (h : Ran phase threads once runs) (hrunning : once = .running) :
    ∃ pc ∈ threads, phase pc = .inside ∨ phase pc = .leaving := by
  obtain ⟨hone, -⟩ := h.running hrunning
  by_cases hinside : 0 < count phase threads .inside
  · obtain ⟨pc, hmem, hphase⟩ := List.countP_pos_iff.mp hinside
    exact ⟨pc, hmem, .inl (of_decide_eq_true hphase)⟩
  · have hleaving : 0 < count phase threads .leaving := by omega
    obtain ⟨pc, hmem, hphase⟩ := List.countP_pos_iff.mp hleaving
    exact ⟨pc, hmem, .inr (of_decide_eq_true hphase)⟩

theorem le_one (h : Ran phase threads once runs) : runs ≤ 1 := by
  cases once with
  | fresh =>
      obtain ⟨-, -, -, hruns⟩ := h.fresh rfl
      omega
  | running =>
      obtain ⟨hone, -, hruns⟩ := h.running rfl
      omega
  | done =>
      obtain ⟨-, -, -, hruns⟩ := h.done rfl
      omega

theorem eq_zero_of_nil (h : Ran phase [] once runs) : runs = 0 := by
  have hcount : ∀ p, count phase [] p = 0 := fun _ => rfl
  cases once with
  | fresh => exact (h.fresh rfl).2.2.2
  | running =>
      obtain ⟨hone, -⟩ := h.running rfl
      rw [hcount, hcount] at hone
      omega
  | done =>
      obtain ⟨-, -, hpos, -⟩ := h.done rfl
      rw [hcount] at hpos
      omega

/-- No `Do` returns before the function has. -/
theorem eq_one_of_past (h : Ran phase threads once runs) (hpc : threads[i]? = some pc)
    (hpast : phase pc = .past) : runs = 1 := by
  have hpos : 0 < count phase threads .past := Threads.countP_pos hpc (by simp [hpast])
  cases once with
  | fresh =>
      obtain ⟨-, -, hnone, -⟩ := h.fresh rfl
      omega
  | running =>
      obtain ⟨-, hnone, -⟩ := h.running rfl
      omega
  | done => exact (h.done rfl).2.2.2

end Ran

end Once
