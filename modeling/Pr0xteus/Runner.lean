import Pr0xteus.Lib.Transition

/-!
# The runner

`pkg/runner`: `run` starts the application in a goroutine, waits for a reason to shut down, calls
`Stop` in a second goroutine and waits at its final `select` for the error of `Stop`, for the deadline
of the shutdown or for a third goroutine, which closes `doneCh` behind the other two. The errors of
the application are of any type `ε`.
-/

namespace Pr0xteus.Runner

open Transition

/-- What `Err` of a context gives. -/
inductive CtxErr where
  | canceled
  | deadlineExceeded
  deriving DecidableEq

def CtxErr.text : CtxErr → String
  | .canceled => "context canceled"
  | .deadlineExceeded => "context deadline exceeded"

inductive Err (ε : Type) where
  /-- an error that `Run` or `Stop` of the application returns -/
  | app (err : ε)
  /-- `ErrShutdownTimeout` -/
  | shutdownTimeout
  | ctx (err : CtxErr)
  | wrap (cause : Err ε) (message : String)
  /-- `errors.Join` drops what is nil -/
  | joinOne (err : Err ε)
  | joinTwo (first second : Err ε)
  deriving DecidableEq

variable {ε : Type}

/-- The errors that `errors.Is` comes to. -/
def Err.chain : Err ε → List (Err ε)
  | .wrap cause message => .wrap cause message :: cause.chain
  | .joinOne err => .joinOne err :: err.chain
  | .joinTwo first second => .joinTwo first second :: (first.chain ++ second.chain)
  | err => [err]

def errorsJoin : Option (Err ε) → Err ε → Err ε
  | none, err => .joinOne err
  | some first, err => .joinTwo first err

/-- Where `runApp` is, from the call of `Run` to `wg.Done`. -/
inductive AppPc (ε : Type) where
  | running
  | sending (err : Option ε)
  | closeErrCh
  | wgDone
  | done
  deriving DecidableEq

/-- Where the goroutine of `wg.Go` is. -/
inductive StopperPc (ε : Type) where
  | absent
  | stopping
  | sending (err : ε)
  | wgDone
  | done
  deriving DecidableEq

/-- Where the goroutine is that waits for the other two. -/
inductive WaiterPc where
  | absent
  | wgWait
  | closeDoneCh
  | done
  deriving DecidableEq

/-- Where `run` is. -/
inductive MainPc (ε : Type) where
  | waitForShutdown
  | withTimeout (shutdownErr : Option (Err ε))
  | wgGo (shutdownErr : Option (Err ε))
  | goWaiter (shutdownErr : Option (Err ε))
  | select (shutdownErr : Option (Err ε))
  | returned (result : Option (Err ε))
  deriving DecidableEq

structure State (ε : Type) where
  main : MainPc ε := .waitForShutdown
  app : AppPc ε := .running
  stopper : StopperPc ε := .absent
  waiter : WaiterPc := .absent
  /-- the buffered value, which may be a nil error -/
  errCh : Option (Option ε) := none
  errChClosed : Bool := false
  stopErrCh : Option ε := none
  doneCh : Bool := false
  ctxDone : Bool := false
  signaled : Bool := false
  /-- the deadline of `shutdownCtx` has passed -/
  deadline : Bool := false
  deriving DecidableEq

/-- The case that a `select` takes; a statement has the first one. -/
inductive Choice where
  | go
  | ctxDone
  | sigCh
  | errCh
  | stopErrCh
  | shutdownDone
  | doneCh

inductive Action (ε : Type) where
  | main (choice : Choice)
  /-- a step of `runApp`; where it is in `Run`, what that returns -/
  | app (err : Option ε)
  /-- a step of the goroutine of `Stop`; where it is in `Stop`, what that returns -/
  | stopper (err : Option ε)
  | waiter
  | cancel
  | signal
  | deadline

/-- `waitForShutdown` on what it has received from `errCh`. -/
def runError : Option ε → Option (Err ε)
  | some err => some (.wrap (.app err) "run application")
  | none => none

/-- `handleShutdownTimeout`, on `shutdownCtx.Err()`. -/
def handleShutdownTimeout (err : Option CtxErr) (shutdownErr : Option (Err ε)) : Option (Err ε) :=
  match err with
  | none => shutdownErr
  | some .deadlineExceeded => some .shutdownTimeout
  | some err =>
      match shutdownErr with
      | some shutdownErr => some (.wrap shutdownErr err.text)
      | none => some (.wrap (.ctx err) "shutdown error")

/-- `shutdownCtx.Err()`: the context has no parent that could cancel it, and it is cancelled only when
`gracefulShutdown` returns. -/
def State.shutdownCtxErr (s : State ε) : Option CtxErr :=
  if s.deadline then some .deadlineExceeded else none

/-- `gracefulShutdown` on the error of `Stop`. -/
def stopFailure (shutdownErr : Option (Err ε)) (err : ε) : Err ε :=
  .wrap (errorsJoin shutdownErr (.app err)) "stop application"

/-- `run` -/
def mainStep (s : State ε) (choice : Choice) : Option (State ε) :=
  match s.main, choice with
  | .waitForShutdown, .ctxDone =>
      if s.ctxDone then some { s with main := .withTimeout none } else none
  | .waitForShutdown, .sigCh =>
      if s.signaled then some { s with signaled := false, main := .withTimeout none } else none
  | .waitForShutdown, .errCh =>
      match s.errCh with
      | some err => some { s with errCh := none, main := .withTimeout (runError err) }
      | none => if s.errChClosed then some { s with main := .withTimeout none } else none
  | .withTimeout shutdownErr, .go => some { s with main := .wgGo shutdownErr }
  | .wgGo shutdownErr, .go => some { s with stopper := .stopping, main := .goWaiter shutdownErr }
  | .goWaiter shutdownErr, .go => some { s with waiter := .wgWait, main := .select shutdownErr }
  | .select shutdownErr, .stopErrCh =>
      s.stopErrCh.map fun err =>
        { s with stopErrCh := none, main := .returned (some (stopFailure shutdownErr err)) }
  | .select shutdownErr, .shutdownDone =>
      if s.deadline then
        some { s with main := .returned (handleShutdownTimeout s.shutdownCtxErr shutdownErr) }
      else none
  | .select shutdownErr, .doneCh =>
      if s.doneCh then some { s with main := .returned shutdownErr } else none
  | _, _ => none

/-- `runApp` -/
def appStep (s : State ε) (err : Option ε) : Option (State ε) :=
  match s.app with
  | .running => some { s with app := .sending err }
  | .sending err =>
      if s.errCh.isNone then some { s with errCh := some err, app := .closeErrCh } else none
  | .closeErrCh => some { s with errChClosed := true, app := .wgDone }
  | .wgDone => some { s with app := .done }
  | .done => none

/-- The function that `wg.Go` runs. -/
def stopperStep (s : State ε) (err : Option ε) : Option (State ε) :=
  match s.stopper with
  | .stopping =>
      match err with
      | some err => some { s with stopper := .sending err }
      | none => some { s with stopper := .wgDone }
  | .sending err =>
      if s.stopErrCh.isNone then some { s with stopErrCh := some err, stopper := .wgDone } else none
  | .wgDone => some { s with stopper := .done }
  | .absent | .done => none

/-- The counter of `wg` is at zero. -/
def State.wgIdle (s : State ε) : Bool :=
  match s.app, s.stopper with
  | .done, .absent | .done, .done => true
  | _, _ => false

def waiterStep (s : State ε) : Option (State ε) :=
  match s.waiter with
  | .wgWait => if s.wgIdle then some { s with waiter := .closeDoneCh } else none
  | .closeDoneCh => some { s with doneCh := true, waiter := .done }
  | .absent | .done => none

/-- The context of the shutdown has been made. -/
def MainPc.shuttingDown : MainPc ε → Bool
  | .wgGo _ | .goWaiter _ | .select _ => true
  | .waitForShutdown | .withTimeout _ | .returned _ => false

def step (s : State ε) : Action ε → Option (State ε)
  | .main choice => mainStep s choice
  | .app err => appStep s err
  | .stopper err => stopperStep s err
  | .waiter => waiterStep s
  | .cancel => some { s with ctxDone := true }
  | .signal => some { s with signaled := true }
  | .deadline => if s.main.shuttingDown then some { s with deadline := true } else none

def init : State ε := {}

abbrev runs (actions : List (Action ε)) : List (Edge (State ε) (Action ε)) :=
  edges step init actions

end Pr0xteus.Runner
