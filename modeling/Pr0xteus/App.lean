import Pr0xteus.Supervisor

/-!
# The application around the service manager

`internal/app`: `App.Run` starts the service manager in a goroutine of its own and waits for it or for
the context; `App.Stop` stops the manager, waits for that goroutine and runs the post-stop hooks. The
runner calls `Stop` while `Run` is anywhere. The state holds that of the manager, whose goroutines take
their turns between those of the application.
-/

namespace Pr0xteus.App

open ServiceManager (Err Once Services wrap)
open Transition

/-- The goroutine that `a.wg.Go` starts. -/
inductive Worker where
  | absent
  | created
  | running
  | sending (err : Err)
  | done
  deriving DecidableEq

/-- Where `App.Run` is; from `callStop` on `result` is what it is about to return. -/
inductive RunPc where
  | idle
  | storeCancel
  | preRunHooks
  | wgGo
  | select
  | callStop (result : Option Err)
  | stopping (result : Option Err) (j : Nat)
  | wgWait (result : Option Err)
  | closeErrCh (result : Option Err)
  | cancel (result : Option Err)
  | returned (result : Option Err)
  deriving DecidableEq

/-- Where a call of `App.Stop` is. -/
inductive StopPc where
  | cancel
  | once
  | managerStop
  | awaitManager (j : Nat)
  | wgWait
  | postStopHooks (k : Nat)
  | finish
  | returned
  deriving DecidableEq

structure State where
  manager : ServiceManager.State := {}
  cancelStored : Bool := false
  /-- the context of `Run`, which is the one the manager's `Run` is given -/
  ctxDone : Bool := false
  stopOnce : Once := .fresh
  worker : Worker := .absent
  errCh : Option Err := none
  closed : Bool := false
  crashed : Bool := false
  run : RunPc := .idle
  stops : List StopPc := []
  deriving DecidableEq

structure Setup where
  services : Services
  /-- how many post-stop hooks are registered -/
  postStopHooks : Nat

inductive Answer where
  | go
  | cancelled
  | received

inductive Action where
  | startRun
  | run (answer : Answer)
  | worker
  | manager (action : ServiceManager.Action)
  | cancelParent
  | callStop
  | stop (j : Nat)

/-- The turns that the manager's own goroutines take. -/
def innerAction : ServiceManager.Action → Bool
  | .run _ | .service _ _ | .ready _ | .stop _ | .stopper _ _ => true
  | .startRun | .cancelParent | .callStop => false

/-- The context is cancelled, and with it the one derived from it. -/
def State.cancelCtx (s : State) : State :=
  { s with ctxDone := true, manager := { s.manager with parentDone := true } }

/-- `a.wg` is at zero. -/
def Worker.idle : Worker → Bool
  | .absent | .done => true
  | .created | .running | .sending _ => false

/-- `App.Run` -/
def runStep (s : State) (answer : Answer) : Option State :=
  match s.run, answer with
  | .storeCancel, .go => some { s with cancelStored := true, run := .preRunHooks }
  | .preRunHooks, .go => some { s with run := .wgGo }
  | .wgGo, .go => some { s with worker := .created, run := .select }
  | .select, .cancelled => if s.ctxDone then some { s with run := .callStop none } else none
  | .select, .received =>
      s.errCh.map fun err =>
        { s with errCh := none, run := .callStop (wrap (some err) "failed to run app") }
  | .callStop result, .go =>
      some { s with stops := s.stops ++ [.cancel], run := .stopping result s.stops.length }
  | .stopping result j, .go =>
      if s.stops[j]? = some .returned then some { s with run := .wgWait result } else none
  | .wgWait result, .go =>
      if s.worker.idle then some { s with run := .closeErrCh result } else none
  | .closeErrCh result, .go => some { s with closed := true, run := .cancel result }
  | .cancel result, .go => some { s.cancelCtx with run := .returned result }
  | _, _ => none

/-- `serviceManager.Run` and the send of its error. -/
def workerStep (m : Setup) (s : State) : Option State :=
  match s.worker with
  | .created =>
      (ServiceManager.step m.services s.manager .startRun).map fun manager =>
        { s with manager := manager, worker := .running }
  | .running =>
      match s.manager.run with
      | .returned none => some { s with worker := .done }
      | .returned (some err) => some { s with worker := .sending err }
      | _ => none
  | .sending err =>
      if s.closed then some { s with crashed := true }
      else if s.errCh.isNone then some { s with errCh := some err, worker := .done }
      else none
  | .absent | .done => none

/-- `App.Stop` -/
def stopStep (m : Setup) (s : State) (j : Nat) : Option State :=
  match s.stops[j]? with
  | some .cancel =>
      some { (if s.cancelStored then s.cancelCtx else s) with stops := s.stops.set j .once }
  | some .once =>
      match s.stopOnce with
      | .fresh => some { s with stopOnce := .running, stops := s.stops.set j .managerStop }
      | .running => none
      | .finished => some { s with stops := s.stops.set j .returned }
  | some .managerStop =>
      (ServiceManager.step m.services s.manager .callStop).map fun manager =>
        { s with
          manager := manager
          stops := s.stops.set j (.awaitManager s.manager.stops.length) }
  | some (.awaitManager i) =>
      if s.manager.stops[i]? = some .returned then some { s with stops := s.stops.set j .wgWait }
      else none
  | some .wgWait =>
      if s.worker.idle then some { s with stops := s.stops.set j (.postStopHooks 0) } else none
  | some (.postStopHooks k) =>
      some { s with
        stops := s.stops.set j (if k < m.postStopHooks then .postStopHooks (k + 1) else .finish) }
  | some .finish => some { s with stopOnce := .finished, stops := s.stops.set j .returned }
  | some .returned | none => none

def step (m : Setup) (s : State) : Action → Option State
  | .startRun => if s.run = .idle then some { s with run := .storeCancel } else none
  | .run answer => runStep s answer
  | .worker => workerStep m s
  | .manager action =>
      if innerAction action then
        (ServiceManager.step m.services s.manager action).map fun manager =>
          { s with manager := manager }
      else none
  | .cancelParent => some s.cancelCtx
  | .callStop => some { s with stops := s.stops ++ [.cancel] }
  | .stop j => stopStep m s j

def init : State := {}

abbrev runs (m : Setup) (actions : List Action) : List (Edge State Action) :=
  edges (step m) init actions

theorem exists_path_runs (m : Setup) (actions : List Action) :
    ∃ s, Path (step m) init (runs m actions) s :=
  exists_path_edges init actions

end Pr0xteus.App
