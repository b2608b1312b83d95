import Mathlib.Data.List.Infix
import Pr0xteus.Lib.IpText
import Pr0xteus.Lib.Stream

/-!
# SOCKS5

The two ends of a SOCKS5 connection as byte-stream programs: `connect` of `golang.org/x/net`, with
which the client library reaches the gateway and the gateway reaches a cell, and `ServeConn` of
`go-socks5`, which the gateway and the cells run. A Go string is a list of bytes, and so is the text of
an error. What a server does besides reading and writing is noted: it asks whether credentials are
valid, has a name resolved, and dials.
-/

namespace Pr0xteus.Socks5

open Encoding Stream

def version5 : UInt8 := 0x05

def commandConnect : UInt8 := 0x01

def commandBind : UInt8 := 0x02

def commandAssociate : UInt8 := 0x03

def methodNoAuth : UInt8 := 0x00

def methodUserPassAuth : UInt8 := 0x02

def methodNoAcceptable : UInt8 := 0xff

def atypIPv4 : UInt8 := 0x01

def atypDomain : UInt8 := 0x03

def atypIPv6 : UInt8 := 0x04

def userPassAuthVersion : UInt8 := 0x01

def authSuccess : UInt8 := 0x00

def authFailure : UInt8 := 0x01

def repSuccess : UInt8 := 0x00

def repRuleFailure : UInt8 := 0x02

def repNetworkUnreachable : UInt8 := 0x03

def repHostUnreachable : UInt8 := 0x04

def repConnectionRefused : UInt8 := 0x05

def repCommandNotSupported : UInt8 := 0x07

def repAddrTypeNotSupported : UInt8 := 0x08

/-- A byte as `strconv.Itoa` writes it. -/
def itoa (b : UInt8) : Message := utf8 (toString b.toNat)

/-- The two bytes of a port, the higher one first. -/
def portBytes (port : Nat) : List UInt8 := [.ofNat (port >>> 8), .ofNat port]

/-- `binary.BigEndian.Uint16`. -/
def uint16 (b : List UInt8) : Nat := (b.getD 0 0).toNat <<< 8 ||| (b.getD 1 0).toNat

/-- A username and a password: `proxy.Auth` at the one end, the payload of the `AuthContext` at the
other. -/
structure Auth where
  user : List UInt8
  password : List UInt8
  deriving DecidableEq, Repr

/-! ## The dialer -/

section Dialer

/-- An address as the reply to a request has it. -/
structure BoundAddr where
  name : List UInt8
  ip : List UInt8
  port : Nat
  deriving DecidableEq, Repr

def splitHostPort (address : List UInt8) : Option (List UInt8 × Nat) := do
  let (host, port) ← Net.splitHostPort address
  let portnum ← Net.atoi port
  if 1 ≤ portnum ∧ portnum ≤ 0xffff then some (host, portnum.toNat) else none

/-- The methods that `SOCKS5` sets for credentials it may have been given. -/
def greeting : Option Auth → List UInt8
  | none => [version5, 1, methodNoAuth]
  | some _ => [version5, 2, methodNoAuth, methodUserPassAuth]

/-- `UsernamePassword.Authenticate`, where there are credentials. -/
def authenticate (auth : Option Auth) (method : UInt8) : Prog Empty Unit :=
  match auth with
  | none => pure ()
  | some up =>
      if method = methodNoAuth then pure ()
      else if method = methodUserPassAuth then do
        require (up.user.length ≠ 0 ∧ up.user.length ≤ 255 ∧ up.password.length ≤ 255)
          (utf8 "invalid username/password")
        send (userPassAuthVersion :: .ofNat up.user.length ::
          up.user ++ .ofNat up.password.length :: up.password)
        let b ← readFull 2
        require (b.getD 0 0 = userPassAuthVersion) (utf8 "invalid username/password version")
        require (b.getD 1 0 = authSuccess) (utf8 "username/password authentication failed")
      else throw (utf8 "unsupported authentication method " ++ itoa method)

/-- The address of a request: its type and its bytes. -/
def requestAddr (host : List UInt8) : Prog Empty (List UInt8) :=
  match Net.parseIP host with
  | some (.v4 value) => pure (atypIPv4 :: Net.bytes4 value)
  | some (.v6 value _) => pure (atypIPv6 :: Net.bytes16 value)
  | none => do
      require (host.length ≤ 255) (utf8 "FQDN too long")
      pure (atypDomain :: .ofNat host.length :: host)

def replyString (code : UInt8) : Message :=
  match code.toNat with
  | 0 => utf8 "succeeded"
  | 1 => utf8 "general SOCKS server failure"
  | 2 => utf8 "connection not allowed by ruleset"
  | 3 => utf8 "network unreachable"
  | 4 => utf8 "host unreachable"
  | 5 => utf8 "connection refused"
  | 6 => utf8 "TTL expired"
  | 7 => utf8 "command not supported"
  | 8 => utf8 "address type not supported"
  | _ => utf8 "unknown code: " ++ itoa code

/-- The rest of a reply, for the type of its address. -/
def readBoundAddr (atyp : UInt8) : Prog Empty BoundAddr :=
  if atyp = atypIPv4 then do
    let b ← readFull (2 + 4)
    pure ⟨[], b.take 4, uint16 (b.drop 4)⟩
  else if atyp = atypIPv6 then do
    let b ← readFull (2 + 16)
    pure ⟨[], b.take 16, uint16 (b.drop 16)⟩
  else if atyp = atypDomain then do
    let l ← readFull 1
    let b ← readFull (2 + (l.getD 0 0).toNat)
    pure ⟨b.take (l.getD 0 0).toNat, [], uint16 (b.drop (l.getD 0 0).toNat)⟩
  else throw (utf8 "unknown address type " ++ itoa atyp)

/-- The request and its reply. -/
def request (host : List UInt8) (port : Nat) : Prog Empty BoundAddr := do
  let addr ← requestAddr host
  send (version5 :: commandConnect :: 0 :: addr ++ portBytes port)
  let b ← readFull 4
  require (b.getD 0 0 = version5) (utf8 "unexpected protocol version " ++ itoa (b.getD 0 0))
  require (b.getD 1 0 = repSuccess) (utf8 "unknown error " ++ replyString (b.getD 1 0))
  require (b.getD 2 0 = 0) (utf8 "non-zero reserved field")
  readBoundAddr (b.getD 3 0)

/-- `Dialer.connect`, once the address is split. -/
def connect (auth : Option Auth) (host : List UInt8) (port : Nat) : Prog Empty BoundAddr := do
  send (greeting auth)
  let b ← readFull 2
  require (b.getD 0 0 = version5) (utf8 "unexpected protocol version " ++ itoa (b.getD 0 0))
  require (b.getD 1 0 ≠ methodNoAcceptable) (utf8 "no acceptable authentication methods")
  authenticate auth (b.getD 1 0)
  request host port

end Dialer

/-! ## The server -/

section Server

/-- What a server does besides reading and writing. -/
inductive Event where
  | checked (auth : Auth) (valid : Bool)
  | resolved (name : List UInt8)
  | dialed (auth : Option Auth) (address : List UInt8)
  | associated
  deriving DecidableEq, Repr

structure PermitCommand where
  enableConnect : Bool
  enableBind : Bool
  enableAssociate : Bool

def PermitCommand.allow (p : PermitCommand) (command : UInt8) : Bool :=
  if command = commandConnect then p.enableConnect
  else if command = commandBind then p.enableBind
  else if command = commandAssociate then p.enableAssociate
  else false

/-- The local address of a connection. -/
structure SocketAddr where
  ip : List UInt8
  port : Nat
  ip_length : ip.length = 4 ∨ ip.length = 16
  port_lt : port < 0x10000

/-- A server as `NewServer` builds it. Each of its functions is called at most once for a connection;
what `dial` gives may have an address that is no `TCPAddr` or `UDPAddr`, which a reply cannot carry. -/
structure Server where
  credentials : Option (Auth → Bool)
  resolve : List UInt8 → Except Message (List UInt8)
  rules : PermitCommand
  dial : Option Auth → List UInt8 → Except Message (Option SocketAddr)

structure AddrSpec where
  fqdn : List UInt8
  ip : List UInt8
  port : Nat
  deriving DecidableEq, Repr

/-- `AddrSpec.String`. -/
def AddrSpec.text (a : AddrSpec) : List UInt8 :=
  Net.joinBytes (if a.ip ≠ [] then Net.ipString a.ip else a.fqdn) (utf8 (toString a.port))

structure MethodRequest where
  ver : UInt8
  methods : List UInt8

def parseMethodRequest : Prog Event MethodRequest := do
  let ver ← readFull 1
  let n ← readFull 1
  let methods ← readFull (n.getD 0 0).toNat
  pure ⟨ver.getD 0 0, methods⟩

def parseUserPassRequest : Prog Event Auth := do
  let tmp ← readFull 2
  require (tmp.getD 0 0 = userPassAuthVersion)
    (utf8 "unsupported auth version: " ++ itoa (tmp.getD 0 0))
  let user ← readFull (tmp.getD 1 0).toNat
  let n ← readFull 1
  let pass ← readFull (n.getD 0 0).toNat
  pure ⟨user, pass⟩

/-- `UserPassAuthenticator.Authenticate`. -/
def userPassAuthenticate (valid : Auth → Bool) : Prog Event (Option Auth) := do
  send [version5, methodUserPassAuth]
  let auth ← parseUserPassRequest
  note (.checked auth (valid auth))
  send [userPassAuthVersion, if valid auth then authSuccess else authFailure]
  require (valid auth = true) (utf8 "user authentication failed")
  pure (some auth)

/-- `NoAuthAuthenticator.Authenticate`. -/
def noAuthAuthenticate : Prog Event (Option Auth) := do
  send [version5, methodNoAuth]
  pure none

/-- `Server.authenticate`, with the one method that the server has. A refusal that cannot be sent is no
error. -/
def Server.authenticate (srv : Server) (methods : List UInt8) : Prog Event (Option Auth) :=
  let (code, method) := match srv.credentials with
    | some valid => (methodUserPassAuth, userPassAuthenticate valid)
    | none => (methodNoAuth, noAuthAuthenticate)
  if code ∈ methods then method
  else ExceptT.mk (.write [version5, methodNoAcceptable] fun _ =>
    .ret (.error (utf8 "no supported authentication mechanism")))

structure Request where
  command : UInt8
  dstAddr : AddrSpec

/-- The rest of a request, for the type of its address; an unknown type is nothing. -/
def parseDstAddr (atyp : UInt8) : Prog Event (Option AddrSpec) :=
  if atyp = atypIPv4 then do
    let addr ← readFull (4 + 2)
    pure (some ⟨[], Net.ipv4In6 (addr.take 4), uint16 (addr.drop 4)⟩)
  else if atyp = atypIPv6 then do
    let addr ← readFull (16 + 2)
    pure (some ⟨[], addr.take 16, uint16 (addr.drop 16)⟩)
  else if atyp = atypDomain then do
    let l ← readFull 1
    let addr ← readFull ((l.getD 0 0).toNat + 2)
    pure (some ⟨addr.take (l.getD 0 0).toNat, [], uint16 (addr.drop (l.getD 0 0).toNat)⟩)
  else pure none

def parseRequest : Prog Event (Option Request) := do
  let tmp ← wrapping (utf8 "failed to get request version and command, " ++ ·) (readFull 2)
  require (tmp.getD 0 0 = version5) (utf8 "unrecognized SOCKS version[" ++ itoa (tmp.getD 0 0) ++ utf8 "]")
  let tmp' ← wrapping (utf8 "failed to get request RSV and address type, " ++ ·) (readFull 2)
  let dstAddr ← wrapping (utf8 "failed to get request, " ++ ·) (parseDstAddr (tmp'.getD 1 0))
  pure (dstAddr.map fun addr => ⟨tmp.getD 1 0, addr⟩)

/-- `Reply.Bytes`, of a reply with the address `SendReply` gives it. -/
def replyBytes (rep : UInt8) (ip : List UInt8) (port : Nat) : List UInt8 :=
  let (atyp, addr) := match Net.to4 ip with
    | some ip4 => (atypIPv4, ip4)
    | none => if ip.length = 16 then (atypIPv6, ip) else (atypIPv4, [])
  version5 :: rep :: 0 :: atyp :: addr ++ portBytes port

def sendReply (rep : UInt8) (bindAddr : Option SocketAddr) : Prog Event Unit :=
  if rep = repSuccess then
    match bindAddr with
    | some addr => send (replyBytes rep addr.ip addr.port)
    | none => send (replyBytes repAddrTypeNotSupported Net.ipv4Zero 0)
  else send (replyBytes rep Net.ipv4Zero 0)

/-- A reply that is followed by an error of its own. -/
def refuse {α : Type} (rep : UInt8) (sending err : Message) : Prog Event α := do
  wrapping (sending ++ ·) (sendReply rep none)
  throw err

/-- How `ServeConn` ends without an error: two streams are relayed, a command is turned down, or
datagrams are relayed. -/
inductive Served where
  | relays
  | replied
  | associates
  deriving DecidableEq, Repr

def failureReply (err : Message) : UInt8 :=
  if utf8 "refused" <:+: err then repConnectionRefused
  else if utf8 "network is unreachable" <:+: err then repNetworkUnreachable
  else repHostUnreachable

/-- `handleConnect`, up to the relay. -/
def Server.handleConnect (srv : Server) (auth : Option Auth) (dest : AddrSpec) :
    Prog Event Served := do
  note (.dialed auth dest.text)
  match srv.dial auth dest.text with
  | .error err =>
      refuse (failureReply err) (utf8 "failed to send reply, ")
        (utf8 "connect to " ++ dest.text ++ utf8 " failed, " ++ err)
  | .ok localAddr => do
      wrapping (utf8 "failed to send reply, " ++ ·) (sendReply repSuccess localAddr)
      pure .relays

def handleBind : Prog Event Served := do
  wrapping (utf8 "failed to send reply: " ++ ·) (sendReply repCommandNotSupported none)
  pure .replied

def handleAssociate : Prog Event Served := do
  note .associated
  pure .associates

def Server.resolveDest (srv : Server) (dest : AddrSpec) : Prog Event AddrSpec :=
  if dest.fqdn = [] then pure dest
  else do
    note (.resolved dest.fqdn)
    match srv.resolve dest.fqdn with
    | .error err =>
        refuse repHostUnreachable (utf8 "failed to send reply, ")
          (utf8 "failed to resolve destination[" ++ dest.fqdn ++ utf8 "], " ++ err)
    | .ok ip => pure { dest with ip := ip }

def Server.handleRequest (srv : Server) (auth : Option Auth) (req : Request) :
    Prog Event Served := do
  let dest ← srv.resolveDest req.dstAddr
  if !srv.rules.allow req.command then
    refuse repRuleFailure (utf8 "failed to send reply, ")
      (utf8 "bind to " ++ dest.text ++ utf8 " blocked by rules")
  else if req.command = commandConnect then srv.handleConnect auth dest
  else if req.command = commandBind then handleBind
  else handleAssociate

def Server.serveRequest (srv : Server) (auth : Option Auth) : Prog Event Served := do
  let req? ← wrapping (utf8 "failed to read destination address, " ++ ·) parseRequest
  match req? with
  | none =>
      refuse repAddrTypeNotSupported (utf8 "failed to send reply ")
        (utf8 "failed to read destination address, unrecognized address type")
  | some req =>
      if req.command ∈ [commandConnect, commandBind, commandAssociate] then
        srv.handleRequest auth req
      else
        refuse repCommandNotSupported (utf8 "failed to send reply, ")
          (utf8 "unrecognized command[" ++ itoa req.command ++ utf8 "]")

def Server.serveConn (srv : Server) : Prog Event Served := do
  let mr ← parseMethodRequest
  require (mr.ver = version5) (utf8 "not support version")
  let auth ← wrapping (utf8 "failed to authenticate: " ++ ·) (srv.authenticate mr.methods)
  srv.serveRequest auth

end Server

end Pr0xteus.Socks5
