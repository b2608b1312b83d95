import Mathlib.Data.List.Basic
import Mathlib.Logic.Hydra

/-!
# Threads over atomic objects

Threads share a state that they touch only through calls, each of them atomic. Where a thread is
tells which call it makes next, and what the call returns tells where it goes from there; the
outside world answers what the shared state does not decide. A turn is one such call.

What a turn changes is one entry of the thread list, so a count over the threads moves by the
difference at that entry. The accounting rules below are what every "the counter is the number of
threads that …" invariant uses.
-/

namespace Threads

/-- The shared state and where every thread is. -/
structure System (Shared Pc : Type) where
  shared : Shared
  threads : List Pc

section Turn

variable {Shared Call Answer Pc : Type} {Ret : Call → Type}
  (call : Pc → Call)
  (exec : Shared → (c : Call) → Answer → Option (Shared × Ret c))
  (resume : (pc : Pc) → Ret (call pc) → Pc)

/-- Thread `i` makes its next call, which the world answers with `answer`. -/
def turn (s : System Shared Pc) (i : Nat) (answer : Answer) : Option (System Shared Pc) :=
  match s.threads[i]? with
  | none => none
  | some pc =>
      (exec s.shared (call pc) answer).map fun result =>
        ⟨result.1, s.threads.set i (resume pc result.2)⟩

variable {call exec resume}

theorem turn_eq_some_iff {s t : System Shared Pc} {i : Nat} {answer : Answer} :
    turn call exec resume s i answer = some t ↔
      ∃ pc shared ret, s.threads[i]? = some pc ∧
        exec s.shared (call pc) answer = some (shared, ret) ∧
        t = ⟨shared, s.threads.set i (resume pc ret)⟩ := by
  unfold turn
  cases hpc : s.threads[i]? with
  | none => simp
  | some pc =>
      simp only [Option.map_eq_some_iff, Option.some.injEq, exists_and_left, Prod.exists]
      constructor
      · rintro ⟨shared, ret, hexec, rfl⟩
        exact ⟨pc, rfl, shared, ret, hexec, rfl⟩
      · rintro ⟨_, rfl, shared, ret, hexec, rfl⟩
        exact ⟨shared, ret, hexec, rfl⟩

/-! If every thread by itself comes to an end, so do all of them together, whatever is done to the shared
state between their turns. -/

variable (call exec resume)

/-- A thread's own next step. -/
def Resumes (pc' pc : Pc) : Prop :=
  ∃ s answer s' ret, exec s (call pc) answer = some (s', ret) ∧ pc' = resume pc ret

/-- A turn, after some change of the shared state. -/
def Continues (t s : System Shared Pc) : Prop :=
  ∃ shared i answer, turn call exec resume ⟨shared, s.threads⟩ i answer = some t

variable {call exec resume}

theorem coe_set_add {threads : List Pc} {i : Nat} {pc : Pc} (h : threads[i]? = some pc) (pc' : Pc) :
    (threads.set i pc' : Multiset Pc) + {pc} = threads + {pc'} := by
  induction threads generalizing i with
  | nil => cases h
  | cons head rest ih =>
      cases i with
      | zero =>
          obtain rfl : head = pc := Option.some.inj h
          rw [List.set_cons_zero, ← Multiset.cons_coe, ← Multiset.cons_coe, Multiset.cons_add,
            Multiset.cons_add, ← Multiset.singleton_add, ← Multiset.singleton_add]
          ac_rfl
      | succ i =>
          rw [List.set_cons_succ, ← Multiset.cons_coe, ← Multiset.cons_coe, Multiset.cons_add,
            Multiset.cons_add, ih h]

theorem wellFounded_continues (h : WellFounded (Resumes call exec resume)) :
    WellFounded (Continues call exec resume) := by
  refine Subrelation.wf ?_ (InvImage.wf (fun s => (s.threads : Multiset Pc)) h.cutExpand)
  rintro t s ⟨shared, i, answer, hturn⟩
  obtain ⟨pc, shared', ret, hpc, hexec, rfl⟩ := turn_eq_some_iff.mp hturn
  refine ⟨{resume pc ret}, pc, ?_, coe_set_add hpc _⟩
  intro pc' hpc'
  rw [Multiset.mem_singleton] at hpc'
  exact ⟨shared, answer, shared', ret, hexec, hpc'⟩

end Turn

section Accounting

variable {Pc : Type} {p : Pc → Bool} {threads : List Pc} {i : Nat} {pc pc' : Pc}

theorem countP_set_add (p : Pc → Bool) (pc' : Pc) (hpc : threads[i]? = some pc) :
    (threads.set i pc').countP p + (if p pc then 1 else 0) =
      threads.countP p + (if p pc' then 1 else 0) := by
  obtain ⟨hlt, hget⟩ := List.getElem?_eq_some_iff.mp hpc
  rw [List.countP_set hlt, hget]
  have hpos : (if p pc then 1 else 0) ≤ threads.countP p := by
    split
    · exact List.one_le_countP_iff.mpr ⟨pc, List.mem_of_getElem? hpc, by assumption⟩
    · exact Nat.zero_le _
  omega

theorem countP_set_eq (hpc : threads[i]? = some pc) (hsame : p pc' = p pc) :
    (threads.set i pc').countP p = threads.countP p := by
  have hadd := countP_set_add p pc' hpc
  rw [hsame] at hadd
  omega

theorem countP_pos (hpc : threads[i]? = some pc) (hp : p pc = true) : 0 < threads.countP p :=
  List.countP_pos_iff.mpr ⟨pc, List.mem_of_getElem? hpc, hp⟩

theorem two_le_countP {j : Nat} {q : Pc} (hij : i ≠ j) (hpc : threads[i]? = some pc)
    (hq : threads[j]? = some q) (hpi : p pc = true) (hpj : p q = true) :
    2 ≤ threads.countP p := by
  induction threads generalizing i j with
  | nil => simp at hpc
  | cons head rest ih =>
      rw [List.countP_cons]
      cases i with
      | zero =>
          cases j with
          | zero => exact absurd rfl hij
          | succ j =>
              simp only [List.getElem?_cons_zero, Option.some.injEq] at hpc
              simp only [List.getElem?_cons_succ] at hq
              have hpos := countP_pos (p := p) hq hpj
              simp only [hpc, hpi, if_true]
              omega
      | succ i =>
          simp only [List.getElem?_cons_succ] at hpc
          cases j with
          | zero =>
              simp only [List.getElem?_cons_zero, Option.some.injEq] at hq
              have hpos := countP_pos (p := p) hpc hpi
              simp only [hq, hpj, if_true]
              omega
          | succ j =>
              simp only [List.getElem?_cons_succ] at hq
              have htwo := ih (by omega) hpc hq
              omega

end Accounting

section Lock

variable {Pc : Type} {p : Pc → Bool} {threads : List Pc} {locked : Bool} {i : Nat} {pc pc' : Pc}

/-- **A lock and its owner.** As many threads are between acquiring and releasing the lock as its
bit says: none or one. -/
def Exclusive (p : Pc → Bool) (threads : List Pc) (locked : Bool) : Prop :=
  threads.countP p = if locked then 1 else 0

namespace Exclusive

theorem stay (h : Exclusive p threads locked) (hpc : threads[i]? = some pc)
    (hsame : p pc' = p pc) : Exclusive p (threads.set i pc') locked := by
  rw [Exclusive, countP_set_eq hpc hsame]
  exact h

theorem start (h : Exclusive p threads locked) (hout : p pc = false) :
    Exclusive p (threads ++ [pc]) locked := by
  unfold Exclusive at h ⊢
  simp [List.countP_append, hout, h]

theorem enter (h : Exclusive p threads false) (hpc : threads[i]? = some pc) (hout : p pc = false)
    (hin : p pc' = true) : Exclusive p (threads.set i pc') true := by
  have hadd := countP_set_add p pc' hpc
  rw [h, hout, hin] at hadd
  simpa [Exclusive] using hadd

theorem leave (h : Exclusive p threads locked) (hpc : threads[i]? = some pc) (hin : p pc = true)
    (hout : p pc' = false) : Exclusive p (threads.set i pc') false := by
  have hadd := countP_set_add p pc' hpc
  have hle : threads.countP p ≤ 1 := by
    rw [h]
    split <;> omega
  rw [hin, hout] at hadd
  simp only [if_true, Bool.false_eq_true, if_false] at hadd
  rw [Exclusive]
  simp only [Bool.false_eq_true, if_false]
  omega

theorem eq {j : Nat} {q : Pc} (h : Exclusive p threads locked) (hpc : threads[i]? = some pc)
    (hq : threads[j]? = some q) (hpi : p pc = true) (hpj : p q = true) : i = j := by
  by_contra hij
  have htwo := two_le_countP hij hpc hq hpi hpj
  rw [h] at htwo
  split at htwo <;> omega

theorem locked_eq_true (h : Exclusive p threads locked) (hpc : pc ∈ threads) (hp : p pc = true) :
    locked = true := by
  by_contra hfree
  rw [Exclusive, if_neg hfree, List.countP_eq_zero] at h
  exact h pc hpc hp

theorem exists_mem (h : Exclusive p threads true) : ∃ pc ∈ threads, p pc = true := by
  rw [Exclusive, if_pos rfl] at h
  exact List.countP_pos_iff.mp (h ▸ Nat.one_pos)

/-- Where the owner goes, nobody else is inside. -/
theorem mem_set (h : Exclusive p threads locked) (hpc : threads[i]? = some pc) (hp : p pc = true)
    {q : Pc} (hq : q ∈ threads.set i pc') : q = pc' ∨ (q ∈ threads ∧ p q = false) := by
  obtain ⟨k, hk⟩ := List.getElem?_of_mem hq
  by_cases hik : i = k
  · subst hik
    rw [List.getElem?_set_self (List.getElem?_eq_some_iff.mp hpc).1] at hk
    exact .inl (Option.some.inj hk).symm
  · rw [List.getElem?_set_ne hik] at hk
    refine .inr ⟨List.mem_of_getElem? hk, ?_⟩
    by_contra hin
    exact hik (h.eq hpc hk hp (by simpa using hin))

end Exclusive

end Lock

end Threads
