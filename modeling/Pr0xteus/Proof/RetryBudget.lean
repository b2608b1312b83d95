import Pr0xteus.Supervisor

/-!
# The retry budget of a service

`runService` by itself, with a context that is not done: it goes from one attempt to the next until
`Run` succeeds or the budget is used up. The number of its passes is computed as an `int`, and there
the largest budget is lost.
-/

namespace Pr0xteus.ServiceManager

/-- What a call of a service's `Run` ends with. -/
inductive RunResult where
  | ok
  | failed (err : Err)
  | panicked (value : String)

namespace RunResult

def answer : RunResult → Answer
  | .ok => .returned none
  | .failed err => .returned (some err)
  | .panicked value => .panicked value

/-- What `safeRun` returns. -/
def err : RunResult → Option Err
  | .ok => none
  | .failed err => some err
  | .panicked value => some (.wrap (.sentinel .servicePanic) value)

end RunResult

variable (svc : Service) (results : Nat → RunResult)

/-- What the goroutine is answered with, given what its calls of `Run` end with. -/
def answerAt : ServicePc → Answer
  | .running n => (results n).answer
  | _ => .go

/-- Where the goroutine comes by within `fuel` steps, while the context is not done. -/
def visited : (fuel : Nat) → ServicePc → List ServicePc
  | 0, _ => []
  | fuel + 1, pc =>
      match pc.next false svc (answerAt results pc) with
      | none => [pc]
      | some pc' => pc :: visited fuel pc'

def runAttempt : ServicePc → Option Nat
  | .running n => some n
  | _ => none

/-- The error that the goroutine is about to report. -/
def reportedErr : ServicePc → Option (Option Err)
  | .handleServiceError err => some err
  | _ => none

/-- The number of the first success, counted from one, where there is one among so many attempts. -/
def firstSuccess (n count : Nat) : Nat :=
  (List.range' n count).findIdx (fun k => (results k).err.isNone) + 1

def AllFail (n count : Nat) : Prop := ∀ k ∈ List.range' n count, (results k).err ≠ none

instance (n count : Nat) : Decidable (AllFail results n count) :=
  inferInstanceAs (Decidable (∀ k ∈ List.range' n count, (results k).err ≠ none))

/-- The goroutine has come to its end, with the calls of `Run` and the report that it is to make for
attempts `n` to `n + count - 1`. -/
structure UsesBudget (n count : Nat) (trace : List ServicePc) : Prop where
  ended : trace.getLast? = some .done
  runs : trace.filterMap runAttempt = List.range' n (min (firstSuccess results n count) count)
  reports : trace.filterMap reportedErr =
    if AllFail results n count then [(results (n + count - 1)).err] else []

section Attempts

variable {svc results} {n fuel count : Nat} {lastErr : Option Err}

theorem visited_cons (pc pc' : ServicePc)
    (h : pc.next false svc (answerAt results pc) = some pc') (fuel : Nat) :
    visited svc results (fuel + 1) pc = pc :: visited svc results fuel pc' := by
  rw [visited, h]

theorem visited_exiting (fuel : Nat) :
    visited svc results (fuel + 3) .exiting = [.exiting, .exited, .done] := rfl

/-- From the report on, there is nothing but the report. -/
theorem visited_handleServiceError (err : Option Err) (fuel : Nat) :
    visited svc results (fuel + 5) (.handleServiceError err) =
      .handleServiceError err :: if svc.allowedFailure then [.exiting, .exited, .done]
        else [.trigger, .exiting, .exited, .done] := by
  cases hallowed : svc.allowedFailure with
  | true =>
      rw [visited_cons _ .exiting (by simp [ServicePc.next, answerAt, hallowed]), visited_exiting]
      rfl
  | false =>
      rw [visited_cons _ .trigger (by simp [ServicePc.next, answerAt, hallowed]),
        visited_cons _ .exiting rfl, visited_exiting]
      rfl

theorem next_running (n : Nat) :
    (ServicePc.running n).next false svc (answerAt results (.running n)) =
      some (match (results n).err with
        | none => .exiting
        | some err => .failed n err) := by
  change (ServicePc.running n).next false svc (results n).answer = _
  cases results n <;> rfl

theorem next_attempt (hn : n < svc.attempts) :
    (ServicePc.attempt n lastErr).next false svc (answerAt results (.attempt n lastErr)) =
      some (.running n) := by
  simp [ServicePc.next, answerAt, hn]

theorem next_failed (n : Nat) (err : Err) :
    (ServicePc.failed n err).next false svc (answerAt results (.failed n err)) =
      some (if svc.maxRetries.toInt ≤ n then .handleServiceError (some err)
        else .waitRetryDelay n err) := by
  simp [ServicePc.next, answerAt]

theorem usesBudget_success (hok : (results n).err = none) :
    UsesBudget results n (count + 1)
      [.attempt n lastErr, .running n, .exiting, .exited, .done] where
  ended := rfl
  runs := by
    have hfirst : firstSuccess results n (count + 1) = 1 := by
      simp [firstSuccess, List.range'_succ, List.findIdx_cons, hok]
    rw [hfirst, Nat.min_eq_left (Nat.le_add_left 1 count)]
    rfl
  reports := by
    have hall : ¬ AllFail results n (count + 1) := fun h => h n (by simp) hok
    rw [if_neg hall]
    rfl

theorem usesBudget_exhausted {err : Err} (herr : (results n).err = some err)
    {rest : List ServicePc} (hended : rest.getLast? = some .done)
    (hruns : rest.filterMap runAttempt = []) (hreports : rest.filterMap reportedErr = []) :
    UsesBudget results n 1
      (.attempt n lastErr :: .running n :: .failed n err :: .handleServiceError (some err) :: rest)
    where
  ended := by
    simp only [List.getLast?_cons, hended, Option.getD_some]
  runs := by
    have hfirst : firstSuccess results n 1 = 2 := by
      simp [firstSuccess, List.findIdx_cons, herr]
    change n :: rest.filterMap runAttempt = _
    rw [hfirst, hruns]
    rfl
  reports := by
    have hall : AllFail results n 1 := by
      intro k hk
      obtain rfl : k = n := by simpa using hk
      simp [herr]
    change some err :: rest.filterMap reportedErr = _
    rw [if_pos hall, hreports, Nat.add_sub_cancel, herr]

theorem usesBudget_retry {err : Err} (herr : (results n).err = some err) {rest : List ServicePc}
    (h : UsesBudget results (n + 1) (count + 1) rest) :
    UsesBudget results n (count + 2)
      (.attempt n lastErr :: .running n :: .failed n err :: .waitRetryDelay n err :: rest) where
  ended := by
    simp only [List.getLast?_cons, h.ended, Option.getD_some]
  runs := by
    have hfirst : firstSuccess results n (count + 2) = firstSuccess results (n + 1) (count + 1) + 1 := by
      rw [firstSuccess, List.range'_succ, List.findIdx_cons, herr]
      rfl
    rw [hfirst, Nat.add_min_add_right, List.range'_succ, ← h.runs]
    rfl
  reports := by
    have hall : AllFail results n (count + 2) ↔ AllFail results (n + 1) (count + 1) := by
      unfold AllFail
      rw [List.range'_succ, List.forall_mem_cons, herr]
      exact and_iff_right nofun
    have hlast : n + (count + 2) - 1 = n + 1 + (count + 1) - 1 := by omega
    rw [if_congr hall rfl rfl, hlast, ← h.reports]
    rfl

/-- One attempt: it succeeds, or what is left is up to the failure. -/
theorem usesBudget_attempt (hn : n < svc.attempts)
    (hfailed : ∀ err, (results n).err = some err → UsesBudget results n (count + 1)
      (.attempt n lastErr :: .running n :: visited svc results (fuel + 3) (.failed n err))) :
    UsesBudget results n (count + 1) (visited svc results (fuel + 5) (.attempt n lastErr)) := by
  rw [visited_cons _ _ (next_attempt hn), visited_cons _ _ (next_running n)]
  cases herr : (results n).err with
  | none => exact usesBudget_success herr
  | some err => exact hfailed err herr

/-- The attempts from the `n`-th on, with `count + 1` of them left. -/
theorem usesBudget_visited (hattempts : svc.attempts = n + count + 1)
    (hmax : svc.maxRetries.toInt = (n + count : Nat)) (hfuel : 4 * count + 9 ≤ fuel) :
    UsesBudget results n (count + 1) (visited svc results fuel (.attempt n lastErr)) := by
  induction count generalizing n fuel lastErr with
  | zero =>
      obtain ⟨fuel, rfl⟩ := Nat.exists_eq_add_of_le' hfuel
      refine usesBudget_attempt (by omega) fun err herr => ?_
      rw [visited_cons _ _ (next_failed n err), if_pos (by omega), visited_handleServiceError]
      cases svc.allowedFailure <;> exact usesBudget_exhausted herr rfl rfl rfl
  | succ count ih =>
      obtain ⟨fuel, rfl⟩ := Nat.exists_eq_add_of_le' hfuel
      rw [Nat.mul_succ, ← Nat.add_assoc]
      refine usesBudget_attempt (by omega) fun err herr => ?_
      rw [visited_cons _ _ (next_failed n err), if_neg (by omega),
        visited_cons _ (.attempt (n + 1) (some err)) rfl]
      exact usesBudget_retry herr (ih (by omega) (by omega) (by omega))

end Attempts

section Budget

variable {svc : Service}

theorem attempts_of_ne (hneg : 0 ≤ svc.maxRetries) (hmax : svc.maxRetries ≠ Int64.maxValue) :
    svc.attempts = svc.maxRetries.toInt.toNat + 1 := by
  have hnonneg : 0 ≤ svc.maxRetries.toInt := Int64.le_iff_toInt_le.mp hneg
  have hne : svc.maxRetries.toInt ≠ 2 ^ 63 - 1 := fun heq => hmax (Int64.toInt_inj.mp heq)
  have hlt := svc.maxRetries.toInt_lt
  have hadd : (svc.maxRetries + 1).toInt = svc.maxRetries.toInt + 1 := by
    rw [Int64.toInt_add, Int64.toInt_one]
    exact Int.bmod_eq_of_le_mul_two (by omega) (by omega)
  rw [Service.attempts, hadd]
  omega

theorem attempts_of_eq (hmax : svc.maxRetries = Int64.maxValue) : svc.attempts = 0 := by
  rw [Service.attempts, hmax]
  rfl

/-- Without a pass the goroutine reports that nothing went wrong. -/
theorem visited_created_of_attempts (results : Nat → RunResult) (hattempts : svc.attempts = 0)
    (fuel : Nat) :
    visited svc results (fuel + 7) .created = .created :: .attempt 0 none ::
      .handleServiceError none :: if svc.allowedFailure then [.exiting, .exited, .done]
        else [.trigger, .exiting, .exited, .done] := by
  have hnext : (ServicePc.attempt 0 none).next false svc (answerAt results (.attempt 0 none)) =
      some (.handleServiceError none) := by
    simp [ServicePc.next, answerAt, hattempts]
  rw [visited_cons _ (.attempt 0 none) rfl, visited_cons _ _ hnext, visited_handleServiceError]

/-- Given enough steps, the goroutine has run as the budget says: `Run` was called once at least,
until its first success or until the budget was used up, and the last error was reported where all of
the attempts failed. -/
def RunsAsAllowed (svc : Service) (results : Nat → RunResult) : Prop :=
  ∃ enough, ∀ fuel, enough ≤ fuel →
    UsesBudget results 0 (svc.maxRetries.toInt.toNat + 1) (visited svc results fuel .created) ∧
      .running 0 ∈ visited svc results fuel .created

theorem usesBudget_created {results : Nat → RunResult} {count : Nat} {trace : List ServicePc}
    (h : UsesBudget results 0 (count + 1) trace) :
    UsesBudget results 0 (count + 1) (.created :: trace) where
  ended := by
    rw [List.getLast?_cons, h.ended]
    rfl
  runs := h.runs
  reports := h.reports

/-- The first attempt is made in any case. -/
theorem running_mem_of_usesBudget {results : Nat → RunResult} {count : Nat} {trace : List ServicePc}
    (h : UsesBudget results 0 (count + 1) trace) : .running 0 ∈ trace := by
  have hmem : 0 ∈ trace.filterMap runAttempt := by
    rw [h.runs, List.mem_range'_1, firstSuccess]
    omega
  obtain ⟨pc, hpc, hrun⟩ := List.mem_filterMap.mp hmem
  cases pc with
  | running n =>
      cases hrun
      exact hpc
  | _ => cases hrun

theorem not_runsAsAllowed_of_eq (hmax : svc.maxRetries = Int64.maxValue)
    (results : Nat → RunResult) : ¬ RunsAsAllowed svc results := by
  rintro ⟨enough, h⟩
  have hmem := (h (enough + 7) (Nat.le_add_right _ _)).2
  rw [visited_created_of_attempts _ (attempts_of_eq hmax)] at hmem
  generalize svc.allowedFailure = allowed at hmem
  cases allowed <;> simp at hmem

/-- **The retry budget** is kept, whatever the calls of `Run` end with, exactly where it is not the
largest `int`. -/
theorem runsAsAllowed_iff (svc : Service) (hneg : 0 ≤ svc.maxRetries) :
    (∀ results, RunsAsAllowed svc results) ↔ svc.maxRetries ≠ Int64.maxValue := by
  constructor
  · intro hall hmax
    exact not_runsAsAllowed_of_eq hmax (fun _ => .ok) (hall _)
  · intro hmax results
    have hnonneg : 0 ≤ svc.maxRetries.toInt := Int64.le_iff_toInt_le.mp hneg
    refine ⟨4 * svc.maxRetries.toInt.toNat + 10, fun fuel hfuel => ?_⟩
    obtain ⟨fuel, rfl⟩ := Nat.exists_eq_add_of_le' (Nat.le_of_add_left_le hfuel : 1 ≤ fuel)
    have hattempts : svc.attempts = 0 + svc.maxRetries.toInt.toNat + 1 := by
      rw [attempts_of_ne hneg hmax, Nat.zero_add]
    have hvisited : UsesBudget results 0 (svc.maxRetries.toInt.toNat + 1)
        (visited svc results fuel (.attempt 0 none)) :=
      usesBudget_visited hattempts (by omega) (by omega)
    have huses := usesBudget_created hvisited
    rw [visited_cons _ (.attempt 0 none) rfl]
    exact ⟨huses, running_mem_of_usesBudget huses⟩

def retrying (maxRetries : Int64) : Service := { name := "api", retryable := some ⟨maxRetries, 0⟩ }

theorem runsAsAllowed_iff_twice :
    RunsAsAllowed (retrying 2) fun n => if n = 0 then .panicked "nil map" else .ok :=
  (runsAsAllowed_iff (retrying 2) (by decide)).mpr (by decide) _

/-- With the largest budget, `Run` is not called at all, and a failure without an error is
reported. -/
theorem not_runsAsAllowed_maxValue :
    visited (retrying Int64.maxValue) (fun _ => .ok) 7 .created =
        [.created, .attempt 0 none, .handleServiceError none, .trigger, .exiting, .exited, .done] ∧
      ¬ RunsAsAllowed (retrying Int64.maxValue) fun _ => .ok :=
  ⟨visited_created_of_attempts _ (attempts_of_eq rfl) 0, not_runsAsAllowed_of_eq rfl _⟩

end Budget

end Pr0xteus.ServiceManager
