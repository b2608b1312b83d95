import Pr0xteus.Ownership

/-!
# Callers that leave

A request runs under its caller's context. `spawnFromState` derives the deadline of `Spawn` from it,
and `Spawn` passes it on to docker and to the wait for the cell. Once the caller has cancelled or
disconnected, a request to docker under that context fails and the wait ends with the same error as
at the deadline. The state of the machine is extended by the goroutines whose caller is gone.
-/

namespace Pr0xteus

structure CallerState where
  machine : State
  gone : List Nat

inductive CallerAction where
  | leave (i : Nat)
  | act (a : Action)

/-- The accesses of `Spawn` that take the caller's context. -/
def Pc.awaits : Pc → Bool
  | .acquire _ (.create _ _) => true
  | .acquire _ (.waitReady _ _ _) => true
  | _ => false

def Answer.isFail : Answer → Bool
  | .fail _ => true
  | _ => false

/-- Under a context that is done, an access that takes it can only fail. -/
def CallerState.allows (s : CallerState) : Action → Bool
  | .step i answer =>
      match s.machine.threads[i]? with
      | none => true
      | some pc => !pc.awaits || !s.gone.contains i || answer.isFail
  | _ => true

def callerStep (m : Setup) (s : CallerState) : CallerAction → Option CallerState
  | .leave i =>
      if i < s.machine.threads.length then some { s with gone := i :: s.gone } else none
  | .act a =>
      if s.allows a then (step m s.machine a).map fun machine => { s with machine := machine }
      else none

abbrev CallerEdge := Transition.Edge CallerState CallerAction

abbrev callerRun (m : Setup) (actions : List CallerAction) : List CallerEdge :=
  Transition.edges (callerStep m) ⟨init m, []⟩ actions

/-- An action of the machine is one of the machine without callers; a caller that leaves changes
nothing there. -/
theorem callerStep_eq_some_iff {m : Setup} {s t : CallerState} {a : CallerAction} :
    callerStep m s a = some t ↔
      (∃ i, a = .leave i ∧ i < s.machine.threads.length ∧ t = ⟨s.machine, i :: s.gone⟩) ∨
      ∃ b, a = .act b ∧ s.allows b = true ∧ step m s.machine b = some t.machine ∧
        t.gone = s.gone := by
  cases a with
  | leave i =>
      simp only [callerStep, Option.ite_none_right_eq_some, Option.some.injEq]
      constructor
      · rintro ⟨hlt, rfl⟩
        exact .inl ⟨i, rfl, hlt, rfl⟩
      · rintro (⟨j, hj, hlt, rfl⟩ | ⟨b, hb, -⟩)
        · cases hj
          exact ⟨hlt, rfl⟩
        · cases hb
  | act a =>
      simp only [callerStep, Option.ite_none_right_eq_some, Option.map_eq_some_iff]
      constructor
      · rintro ⟨hallows, machine, hstep, rfl⟩
        exact .inr ⟨a, rfl, hallows, hstep, rfl⟩
      · rintro (⟨j, hj, -⟩ | ⟨b, hb, hallows, hstep, hgone⟩)
        · cases hj
        · cases hb
          refine ⟨hallows, t.machine, hstep, ?_⟩
          rw [← hgone]

end Pr0xteus
