import Pr0xteus.Addresses
import Pr0xteus.Socks5

/-!
# The SOCKS5 gateway

`ProxyGateway` is a SOCKS5 server whose credentials are leases, that leaves names to the cells and
permits nothing but CONNECT; a cell's own server asks for no credentials, resolves names with the DNS of
its tunnel and permits everything.
-/

namespace Pr0xteus

open Encoding Stream Socks5

/-- `proxyLeaseCredentials.Valid`. -/
def LeaseRegistry.valid (r : LeaseRegistry) (now : Int) (auth : Auth) : Bool :=
  (r.lookupBytes now auth.user auth.password).1.isSome

/-- The server that `ProxyGateway.Start` runs, given which credentials are valid and what `dialLease`
comes to. -/
def proxyGateway (valid : Auth → Bool)
    (dialLease : Auth → List UInt8 → Except Message (Option SocketAddr)) : Server where
  credentials := some valid
  -- `cellResolver`: no address, so that the name is kept
  resolve := fun _ => .ok []
  rules := ⟨true, false, false⟩
  dial := fun auth address =>
    match auth with
    | none => .error (utf8 "missing proxy lease authentication")
    | some auth => dialLease auth address

/-- The server of a cell, as `cellproxy.New` builds it. -/
def cellServer (resolve : List UInt8 → Except Message (List UInt8))
    (dial : List UInt8 → Except Message (Option SocketAddr)) : Server where
  credentials := none
  resolve := resolve
  rules := ⟨true, true, true⟩
  dial := fun _ address => dial address

/-! ## A connection

Once `handleConnect` has a target, two copies run: what the client sends behind its request goes to the
target, and what the target sends goes to the client. `handleConnect` returns when one of them fails or
both are over, and closes both ends then. -/

inductive CopyEnd where
  /-- the source is at its end, or cannot be read -/
  | source (err : Option Message)
  | write (err : Message)

/-- One of the copies: what it has read and written, and once it is over, how it came to that. -/
structure Copy where
  taken : List UInt8
  written : List UInt8
  ended? : Option CopyEnd

namespace Copy

def start : Copy := ⟨[], [], none⟩

/-- The copy has returned an error. -/
def failed (copy : Copy) : Bool :=
  match copy.ended? with
  | none | some (.source none) => false
  | some (.source (some _)) | some (.write _) => true

def writeFailed (copy : Copy) : Bool :=
  match copy.ended? with
  | some (.write _) => true
  | _ => false

/-- It reads some bytes and writes all of them. -/
def move (copy : Copy) (bytes : List UInt8) : Copy :=
  { copy with taken := copy.taken ++ bytes, written := copy.written ++ bytes }

/-- It reads some bytes and fails when it has written the first `m` of them. -/
def moveFails (copy : Copy) (bytes : List UInt8) (m : Nat) (err : Message) : Copy :=
  { taken := copy.taken ++ bytes, written := copy.written ++ bytes.take m, ended? := some (.write err) }

end Copy

/-- A connection of a client; `fromTarget` is what the target has sent and no copy has read yet. -/
structure GatewayConn where
  server : End Event (Except Message Served)
  up : Copy
  down : Copy
  fromTarget : List UInt8
  returned : Bool

inductive ConnAction where
  | handshake (move : Move)
  | copyUp (n : Nat)
  | copyDown (n : Nat)
  | copyUpFails (n m : Nat) (err : Message)
  | copyDownFails (n m : Nat) (err : Message)
  /-- The source of a copy is at its end, or cannot be read. -/
  | upEnds (err : Option Message)
  | downEnds (err : Option Message)
  | targetSends (bytes : List UInt8)
  | finish

namespace GatewayConn

def accepted (srv : Server) : GatewayConn :=
  ⟨⟨srv.serveConn.run, [], []⟩, .start, .start, [], false⟩

def relays (c : GatewayConn) : Bool :=
  match c.server.proc with
  | .ret (.ok .relays) => true
  | _ => false

/-- A copy runs, and can read `n` bytes of its source. -/
def copies (c : GatewayConn) (copy : Copy) (source : List UInt8) (n : Nat) : Bool :=
  c.relays && !c.returned && copy.ended?.isNone && 0 < n && n ≤ source.length

def readUp (c : GatewayConn) (n : Nat) (copy : Copy) : GatewayConn :=
  { c with server := { c.server with input := c.server.input.drop n }, up := copy }

def readDown (c : GatewayConn) (n : Nat) (copy : Copy) : GatewayConn :=
  { c with fromTarget := c.fromTarget.drop n, down := copy }

def step (c : GatewayConn) : ConnAction → Option GatewayConn
  | .handshake move => (c.server.step move).map fun server => { c with server := server }
  | .copyUp n =>
      if c.copies c.up c.server.input n then
        some (c.readUp n (c.up.move (c.server.input.take n)))
      else none
  | .copyDown n =>
      if c.copies c.down c.fromTarget n then
        some (c.readDown n (c.down.move (c.fromTarget.take n)))
      else none
  | .copyUpFails n m err =>
      if c.copies c.up c.server.input n then
        some (c.readUp n (c.up.moveFails (c.server.input.take n) m err))
      else none
  | .copyDownFails n m err =>
      if c.copies c.down c.fromTarget n then
        some (c.readDown n (c.down.moveFails (c.fromTarget.take n) m err))
      else none
  | .upEnds err =>
      if c.relays ∧ c.up.ended? = none ∧ (err = none → c.server.input = []) then
        some { c with up.ended? := some (.source err) }
      else none
  | .downEnds err =>
      if c.relays ∧ c.down.ended? = none ∧ (err = none → c.fromTarget = []) then
        some { c with down.ended? := some (.source err) }
      else none
  | .targetSends bytes =>
      if c.relays then some { c with fromTarget := c.fromTarget ++ bytes } else none
  | .finish =>
      if c.up.failed ∨ c.down.failed ∨ c.up.ended?.isSome ∧ c.down.ended?.isSome then
        some { c with returned := true }
      else none

end GatewayConn

/-- What an action adds to the bytes of the client. -/
def ConnAction.arrives : ConnAction → List UInt8
  | .handshake move => move.arrives
  | _ => []

def ConnAction.sentByTarget : ConnAction → List UInt8
  | .targetSends bytes => bytes
  | _ => []

end Pr0xteus
