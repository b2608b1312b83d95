import Pr0xteus.ProxyConn

/-!
# CONNECT tunnels

`handleConnect` of the HTTP gateway and the `Close` of the gateway, as they interleave: any number of
handlers and any number of calls of `Close`, whose steps are the accesses to `hijacked`, the calls
that take time, and the closing of connections. A relay goes on until one of its two copies is over: a
peer ends it, or it reads from a closed client or writes to it. A copy that waits for the cell does not
notice that the client is closed. `Shutdown` waits for the handlers whose connection is not hijacked, or
for its deadline.
-/

namespace Pr0xteus.ConnectTunnel

/-- A copy of a relay waits for its source or for its destination. -/
inductive CopyStage where
  | reading
  | writing
  deriving DecidableEq

def CopyStage.next : CopyStage → CopyStage
  | .reading => .writing
  | .writing => .reading

/-- Where a `handleConnect` is, with the reservation of its upstream connection. -/
inductive Stage where
  | start (host : String)
  | dial
  | dialFailed
  | assertHijacker (acq : Acquisition)
  | refuse (acq : Acquisition)
  | refused
  | hijack (acq : Acquisition)
  | abandon (acq : Acquisition)
  | track (acq : Acquisition)
  | write (acq : Acquisition)
  /-- `up` copies from the client to the cell, and `down` the other way. -/
  | relay (acq : Acquisition) (up down : CopyStage)
  | relayCloseClient (acq : Acquisition)
  | relayCloseUpstream (acq : Acquisition)
  | relayWait (acq : Acquisition)
  | untrack (acq : Acquisition)
  | closeClient (acq : Acquisition)
  | closeUpstream (acq : Acquisition)
  | done
  deriving DecidableEq

/-- Whether the server still has the connection, so that `Shutdown` waits for the handler. -/
def Stage.servers : Stage → Bool
  | .start _ | .dial | .dialFailed | .assertHijacker _ | .refuse _ | .refused | .hijack _
  | .abandon _ => true
  | _ => false

structure Handler where
  stage : Stage
  clientClosed : Bool
  /-- The `once` of the upstream connection. -/
  released : Bool
  log : List ConnEvent

inductive Answer where
  | ok
  | dialed (w : DialWorld)
  | hijacker (supported : Bool)
  | hijacked (err : Option String)
  /-- `buffered` is whether bytes of the client have come with its request. -/
  | written (err : Option String) (buffered : Bool)
  /-- What a copy waited for has come. -/
  | upPassed
  | downPassed
  /-- One of the peers ended its side. -/
  | ended
  | closed (err : Option String)

namespace Handler

def goTo (h : Handler) (stage : Stage) : Handler := { h with stage := stage }

def answer (h : Handler) (status : Nat) : Handler := { h with log := h.log ++ [.answered status] }

def closeClient (h : Handler) : Handler := { h with clientClosed := true }

def closeUpstream (h : Handler) (acq : Acquisition) (err : Option String) : Handler :=
  { h with released := true, log := h.log ++ ReleaseConn.close h.released acq err }

/-- One step of `handleConnect`, but for its accesses to `hijacked`. -/
def advance (h : Handler) : Stage → Answer → Option Handler
  | .start host, .ok => some (if host = "" then (h.answer 400).goTo .done else h.goTo .dial)
  | .dial, .dialed w =>
      let (events, result) := dialLease w
      let h := { h with log := h.log ++ events }
      match result with
      | .error _ => some (h.goTo .dialFailed)
      | .ok acq => some (h.goTo (.assertHijacker acq))
  | .dialFailed, .ok => some ((h.answer 502).goTo .done)
  | .assertHijacker acq, .hijacker supported =>
      some (h.goTo (if supported then .hijack acq else .refuse acq))
  | .refuse acq, .closed err => some ((h.closeUpstream acq err).goTo .refused)
  | .refused, .ok => some ((h.answer 500).goTo .done)
  | .hijack acq, .hijacked err => some (h.goTo (if err.isSome then .abandon acq else .track acq))
  | .abandon acq, .closed err => some ((h.closeUpstream acq err).goTo .done)
  | .track acq, .ok => some (h.goTo (.write acq))
  -- what is buffered is written to the cell before the client is read
  | .write acq, .written err buffered =>
      some (h.goTo (if err.isSome then .untrack acq
        else .relay acq (if buffered then .writing else .reading) .reading))
  | .relay acq up down, .upPassed =>
      if up = .reading ∧ h.clientClosed then none else some (h.goTo (.relay acq up.next down))
  | .relay acq up down, .downPassed =>
      if down = .writing ∧ h.clientClosed then none else some (h.goTo (.relay acq up down.next))
  | .relay acq _ _, .ended => some (h.goTo (.relayCloseClient acq))
  -- a copy at a closed client is over
  | .relay acq up down, .ok =>
      if h.clientClosed ∧ (up = .reading ∨ down = .writing) then
        some (h.goTo (.relayCloseClient acq))
      else none
  | .relayCloseClient acq, .closed _ => some (h.closeClient.goTo (.relayCloseUpstream acq))
  | .relayCloseUpstream acq, .closed err => some ((h.closeUpstream acq err).goTo (.relayWait acq))
  | .relayWait acq, .ok => some (h.goTo (.untrack acq))
  | .untrack acq, .ok => some (h.goTo (.closeClient acq))
  | .closeClient acq, .closed _ => some (h.closeClient.goTo (.closeUpstream acq))
  | .closeUpstream acq, .closed err => some ((h.closeUpstream acq err).goTo .done)
  | _, _ => none

end Handler

/-- Where a `Close` of the gateway is, with the connections it has yet to close, whether it took the
server, and the errors it will return. -/
inductive Closer where
  | snapshot
  | closing (connections : List Nat) (server : Bool) (closeErr : List String)
  | shutdown (closeErr : List String)
  | draining (closeErr : List String)
  | returned (err : List String)
  deriving DecidableEq

inductive CloserAnswer where
  | ok
  /-- The order of the range over `hijacked`. -/
  | order (connections : List Nat)
  /-- A connection that was closed before is no error. -/
  | closed (err : Option String)
  | expired

/-- The gateway once it is started. A client connection is known by its handler. -/
structure State where
  server : Bool
  accepting : Bool
  hijacked : List Nat
  handlers : List Handler
  closers : List Closer

inductive Action where
  /-- A CONNECT request with the credentials of a lease. -/
  | connect (host : String)
  | handler (i : Nat) (answer : Answer)
  | close
  | closer (j : Nat) (answer : CloserAnswer)

namespace State

def start : State := ⟨true, true, [], [], []⟩

def trackHijacked (s : State) (i : Nat) : State := { s with hijacked := s.hijacked.insert i }

def untrackHijacked (s : State) (i : Nat) : State := { s with hijacked := s.hijacked.filter (· ≠ i) }

def closeClient (s : State) (i : Nat) : State :=
  { s with handlers := s.handlers.modify i Handler.closeClient }

/-- What a handler's step at this stage does to `hijacked`. -/
def touch (s : State) (i : Nat) : Stage → State
  | .track _ => s.trackHijacked i
  | .untrack _ => s.untrackHijacked i
  | _ => s

end State

def Closer.advance (s : State) : Closer → CloserAnswer → Option (State × Closer)
  | .snapshot, .order connections =>
      if connections.isPerm s.hijacked then
        some ({ s with server := false }, .closing connections s.server [])
      else none
  | .closing (i :: connections) server closeErr, .closed err =>
      some (s.closeClient i, .closing connections server
        (closeErr ++ err.toList.map fun _ => "close controller HTTP proxy tunnel"))
  | .closing [] true closeErr, .ok => some (s, .shutdown closeErr)
  | .closing [] false closeErr, .ok => some (s, .returned closeErr)
  | .shutdown closeErr, .ok => some ({ s with accepting := false }, .draining closeErr)
  | .draining closeErr, .ok =>
      if s.handlers.all (fun h => !h.stage.servers) then some (s, .returned closeErr) else none
  | .draining closeErr, .expired =>
      some (s, .returned (closeErr ++ ["shutdown controller HTTP proxy"]))
  | _, _ => none

def step (s : State) : Action → Option State
  | .connect host =>
      if s.accepting then
        some { s with handlers := s.handlers ++ [⟨.start host, false, false, []⟩] }
      else none
  | .handler i answer =>
      match s.handlers[i]? with
      | none => none
      | some h =>
          (h.advance h.stage answer).map fun h' =>
            { s.touch i h.stage with handlers := s.handlers.set i h' }
  | .close => some { s with closers := s.closers ++ [.snapshot] }
  | .closer j answer =>
      match s.closers[j]? with
      | none => none
      | some c =>
          (c.advance s answer).map fun next => { next.1 with closers := s.closers.set j next.2 }

end Pr0xteus.ConnectTunnel
