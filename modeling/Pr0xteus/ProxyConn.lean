import Pr0xteus.Lib.Once
import Pr0xteus.Lib.Transition
import Pr0xteus.Types

/-!
# Connections through a cell

`dialLease`, which reserves the cell of a lease and dials through it, and the connection it returns,
which gives the cell back when it is closed. `Close` may be called any number of times and by several
goroutines at once, so each call is a thread and its steps are those that another call can come
between.
-/

namespace Pr0xteus

/-- What the steps of `dialLease` come to: the reservation, and an error where one of the others
fails. -/
structure DialWorld where
  acquireForLease : Except CtxError Acquisition
  socks5 : Option String
  contextDialer : Bool
  dialContext : Option String

/-- What is done with a reservation and with the connection that holds it. -/
inductive ConnEvent where
  | acquired (acq : Acquisition)
  | failed (message : String)
  | released (acq : Acquisition)
  | closed (err : Option String)
  | answered (status : Nat)
  deriving DecidableEq

namespace ConnEvent

def acquiredOf : ConnEvent → Option Acquisition
  | .acquired acq => some acq
  | _ => none

def releasedOf : ConnEvent → Option Acquisition
  | .released acq => some acq
  | _ => none

end ConnEvent

def acquisitions (log : List ConnEvent) : List Acquisition := log.filterMap ConnEvent.acquiredOf

def releases (log : List ConnEvent) : List Acquisition := log.filterMap ConnEvent.releasedOf

/-- What `dialLease` does, and what it returns: the message of an error, or a connection that holds
the reservation. -/
def dialLease (w : DialWorld) : List ConnEvent × Except String Acquisition :=
  match w.acquireForLease with
  | .error _ => ([], .error "acquire cell for proxy lease")
  | .ok acq =>
      let fail (message : String) := ([.acquired acq, .failed message, .released acq], .error message)
      if w.socks5.isSome then fail "create cell SOCKS5 dialer"
      else if !w.contextDialer then fail "cell SOCKS5 dialer lacks context support"
      else if w.dialContext.isSome then fail "dial destination through cell SOCKS5 proxy"
      else ([.acquired acq], .ok acq)

namespace ReleaseConn

/-- What a `Close` does that no other comes between: it closes the connection within, and then
releases the cell unless that has been done, also where closing failed. -/
def close (released : Bool) (acq : Acquisition) (err : Option String) : List ConnEvent :=
  .closed err :: if released then [] else [.released acq]

/-- What `Close` returns for the error of the connection within. -/
def wrapClose (err : Option String) : Option String := err.map fun _ => "close cell proxy connection"

/-- Where a call of `Close` is, with the error that closing the connection within returned. -/
inductive Stage where
  | closing
  | entering (err : Option String)
  | releasing (err : Option String)
  | leaving (err : Option String)
  | returned (err : Option String)
  deriving DecidableEq

structure Shared where
  acq : Acquisition
  once : Once.State
  log : List ConnEvent

abbrev State := Threads.System Shared Stage

inductive Action where
  | call
  | step (i : Nat) (closeErr : Option String)

def advance (s : Shared) (closeErr : Option String) : Stage → Option (Shared × Stage)
  | .closing => some ({ s with log := s.log ++ [.closed closeErr] }, .entering closeErr)
  | .entering err =>
      match s.once with
      | .fresh => some ({ s with once := .running }, .releasing err)
      | .running => none
      | .done => some (s, .returned (wrapClose err))
  | .releasing err => some ({ s with log := s.log ++ [.released s.acq] }, .leaving err)
  | .leaving err => some ({ s with once := .done }, .returned (wrapClose err))
  | .returned _ => none

def step (s : State) : Action → Option State
  | .call => some { s with threads := s.threads ++ [.closing] }
  | .step i closeErr =>
      match s.threads[i]? with
      | none => none
      | some stage =>
          (advance s.shared closeErr stage).map fun next =>
            ⟨next.1, s.threads.set i next.2⟩

/-- The connection as `dialLease` returns it. -/
def opened (acq : Acquisition) : State := ⟨⟨acq, .fresh, []⟩, []⟩

end ReleaseConn

end Pr0xteus
