import Pr0xteus.Proof.SocksServer

/-!
# Sessions of the two ends

The dialer asks a server for a connection, and the server answers. What a server makes of a request is
said here in one piece, as its `outcome`; every schedule of the byte-stream programs of the two ends
comes to that outcome and to nothing else.
-/

namespace Pr0xteus.Socks5

open Encoding Stream Prog

theorem uint16_portBytes {port : Nat} (h : port < 0x10000) : uint16 (portBytes port) = port := by
  have hlow : (UInt8.ofNat port).toNat < 2 ^ 8 := (UInt8.ofNat port).toNat_lt
  simp only [uint16, portBytes, List.getD_cons_zero, List.getD_cons_succ]
  rw [← Nat.shiftLeft_add_eq_or_of_lt hlow, UInt8.toNat_ofNat', UInt8.toNat_ofNat',
    Nat.shiftLeft_eq, Nat.shiftRight_eq_div_pow]
  omega

theorem toNat_ofNat_length {l : List UInt8} (h : l.length ≤ 255) :
    (UInt8.ofNat l.length).toNat = l.length := by
  rw [UInt8.toNat_ofNat']
  omega

/-! ## The server, message by message -/

section Server

variable {rest : List UInt8} {events : List Event}

theorem settle_parseMethodRequest {ver : UInt8} {methods : List UInt8} (h : methods.length ≤ 255) :
    parseMethodRequest.settle (methodRequestBytes ver methods ++ rest) events =
      ended (.ok ⟨ver, methods⟩) rest events [] := by
  have hsplit : methodRequestBytes ver methods ++ rest =
      [ver] ++ ([.ofNat methods.length] ++ (methods ++ rest)) := rfl
  unfold parseMethodRequest
  rw [hsplit, settle_bind_readFull (by rfl), settle_bind_readFull (by rfl),
    settle_bind_readFull (by exact (toNat_ofNat_length h).symm)]
  rfl

theorem settle_parseUserPassRequest {auth : Auth} (huser : auth.user.length ≤ 255)
    (hpassword : auth.password.length ≤ 255) :
    parseUserPassRequest.settle (userPassBytes auth ++ rest) events =
      ended (.ok auth) rest events [] := by
  have hsplit : userPassBytes auth ++ rest =
      [userPassAuthVersion, .ofNat auth.user.length] ++
        (auth.user ++ ([.ofNat auth.password.length] ++ (auth.password ++ rest))) := by
    simp [userPassBytes]
  unfold parseUserPassRequest
  rw [hsplit, settle_bind_readFull (by rfl), settle_bind_require (by rfl),
    settle_bind_readFull (by exact (toNat_ofNat_length huser).symm),
    settle_bind_readFull (by rfl),
    settle_bind_readFull (by exact (toNat_ofNat_length hpassword).symm)]
  rfl

theorem settle_parseDstAddr {spec : AddrSpec} {atyp : UInt8} {addr : List UInt8}
    (h : Encodes spec (atyp :: addr)) :
    (parseDstAddr atyp).settle (addr ++ rest) events = ended (.ok (some spec)) rest events [] := by
  generalize hwhole : atyp :: addr = whole at h
  unfold parseDstAddr
  cases h with
  | @ipv4 ip port hip hport =>
      obtain ⟨rfl, rfl⟩ := List.cons.inj (hwhole.trans List.cons_append)
      rw [if_pos rfl, settle_bind_readFull (by rw [List.length_append, hip, hport]), ← hip,
        List.take_left, List.drop_left]
      rfl
  | @ipv6 ip port hip hport =>
      obtain ⟨rfl, rfl⟩ := List.cons.inj (hwhole.trans List.cons_append)
      rw [if_neg (by decide), if_pos rfl,
        settle_bind_readFull (by rw [List.length_append, hip, hport]), ← hip, List.take_left,
        List.drop_left]
      rfl
  | @domain name port hname hport =>
      obtain ⟨rfl, rfl⟩ := List.cons.inj (hwhole.trans List.cons_append)
      have hsplit : UInt8.ofNat name.length :: name ++ port ++ rest =
          [UInt8.ofNat name.length] ++ (name ++ port ++ rest) := rfl
      rw [if_neg (by decide), if_neg (by decide), if_pos rfl, hsplit,
        settle_bind_readFull (by rfl)]
      simp only [List.getD_cons_zero]
      rw [toNat_ofNat_length hname, settle_bind_readFull (by rw [List.length_append, hport]),
        List.take_left, List.drop_left]
      rfl

theorem Encodes.eq_cons {spec : AddrSpec} {addr : List UInt8} (h : Encodes spec addr) :
    ∃ atyp addr', addr = atyp :: addr' := by
  cases h <;> exact ⟨_, _, rfl⟩

theorem settle_parseRequest {req : Request} {reserved : UInt8} {addr : List UInt8}
    (h : Encodes req.dstAddr addr) :
    parseRequest.settle (requestBytes req.command reserved addr ++ rest) events =
      ended (.ok (some req)) rest events [] := by
  obtain ⟨atyp, addr, rfl⟩ := h.eq_cons
  have hsplit : requestBytes req.command reserved (atyp :: addr) ++ rest =
      [version5, req.command] ++ ([reserved, atyp] ++ (addr ++ rest)) := rfl
  unfold parseRequest
  rw [hsplit, settle_bind (settle_wrapping (settle_readFull (by rfl))), afterWriting_nil,
    settle_bind_require (by rfl), settle_bind (settle_wrapping (settle_readFull (by rfl))),
    afterWriting_nil]
  exact settle_bind (settle_wrapping (settle_parseDstAddr h))

theorem settle_refuse {α : Type} {rep : UInt8} {sending err : Message} (h : rep ≠ repSuccess) :
    (refuse rep sending err : Prog Event α).settle rest events =
      ended (.error err) rest events (replyBytes rep Net.ipv4Zero 0) := by
  have hsend : (sendReply rep none).settle rest events =
      ended (.ok ()) rest events (replyBytes rep Net.ipv4Zero 0) := by
    rw [sendReply, if_neg h, settle_send]
  refine (settle_bind (settle_wrapping hsend)).trans ?_
  rw [settle_throw, afterWriting_ended, List.append_nil]

end Server

/-! ## What a request comes to -/

/-- The address of a reply that says no. -/
def SocketAddr.zero : SocketAddr where
  ip := Net.ipv4Zero
  port := 0
  ip_length := .inr (by decide)
  port_lt := by decide

/-- What a server does for a request, the reply that it sends and its result. -/
structure Outcome where
  events : List Event
  rep : UInt8
  bound : SocketAddr
  served : Except Message Served

namespace Outcome

def reply (o : Outcome) : List UInt8 := replyBytes o.rep o.bound.ip o.bound.port

/-- What the dialer returns. -/
def result (o : Outcome) : Except Message BoundAddr :=
  if o.rep = repSuccess then .ok ⟨[], (Net.to4 o.bound.ip).getD o.bound.ip, o.bound.port⟩
  else .error (utf8 "unknown error " ++ replyString o.rep)

/-- What the dialer leaves unread: of a reply that says no, the address. -/
def unread (o : Outcome) : List UInt8 := if o.rep = repSuccess then [] else o.reply.drop 4

end Outcome

/-- Where a request goes, once its name is resolved. -/
def Server.resolution (srv : Server) (dest : AddrSpec) : Except Message AddrSpec :=
  if dest.fqdn = [] then .ok dest else (srv.resolve dest.fqdn).map fun ip => { dest with ip := ip }

/-- The target is dialed. -/
def Server.dialOutcome (srv : Server) (auth : Option Auth) (dest : AddrSpec) : Outcome :=
  match srv.dial auth dest.text with
  | .error err =>
      ⟨[.dialed auth dest.text], failureReply err, .zero,
        .error (utf8 "connect to " ++ dest.text ++ utf8 " failed, " ++ err)⟩
  | .ok none =>
      ⟨[.dialed auth dest.text], repAddrTypeNotSupported, .zero, .ok .relays⟩
  | .ok (some bound) => ⟨[.dialed auth dest.text], repSuccess, bound, .ok .relays⟩

/-- A request to connect: its name is resolved, then the target is dialed. -/
def Server.outcome (srv : Server) (auth : Option Auth) (dest : AddrSpec) : Outcome :=
  match srv.resolution dest with
  | .error err =>
      ⟨dest.names, repHostUnreachable, .zero,
        .error (utf8 "failed to resolve destination[" ++ dest.fqdn ++ utf8 "], " ++ err)⟩
  | .ok dest' =>
      { srv.dialOutcome auth dest' with events := dest.names ++ (srv.dialOutcome auth dest').events }

/-- A server that has come to an outcome. -/
def Outcome.ended (o : Outcome) (rest : List UInt8) (events : List Event) :
    End Event (Except Message Served) × List UInt8 :=
  Prog.ended o.served rest (events ++ o.events) o.reply

section Outcome

variable {srv : Server} {auth : Option Auth} {dest : AddrSpec} {rest addr : List UInt8}
  {events : List Event}

theorem settle_resolveDest_ok {dest' : AddrSpec} (h : srv.resolution dest = .ok dest') :
    (srv.resolveDest dest).settle rest events = ended (.ok dest') rest (events ++ dest.names) [] := by
  unfold Server.resolution at h
  unfold Server.resolveDest AddrSpec.names
  by_cases hname : dest.fqdn = []
  · rw [if_pos hname] at h
    cases h
    rw [if_pos hname, if_pos hname, List.append_nil, settle_pure]
  · rw [if_neg hname] at h
    rw [if_neg hname, if_neg hname, settle_bind_note]
    cases hip : srv.resolve dest.fqdn with
    | error err =>
        rw [hip] at h
        cases h
    | ok ip =>
        rw [hip] at h
        cases h
        rw [settle_pure]

theorem settle_resolveDest_error {err : Message} (h : srv.resolution dest = .error err) :
    (srv.resolveDest dest).settle rest events =
      ended (.error (utf8 "failed to resolve destination[" ++ dest.fqdn ++ utf8 "], " ++ err)) rest
        (events ++ dest.names) (replyBytes repHostUnreachable Net.ipv4Zero 0) := by
  unfold Server.resolution at h
  unfold Server.resolveDest AddrSpec.names
  by_cases hname : dest.fqdn = []
  · rw [if_pos hname] at h
    cases h
  · rw [if_neg hname] at h
    rw [if_neg hname, if_neg hname, settle_bind_note]
    cases hip : srv.resolve dest.fqdn with
    | error err =>
        rw [hip] at h
        cases h
        exact settle_refuse (by decide)
    | ok ip =>
        rw [hip] at h
        cases h

theorem failureReply_ne (err : Message) : failureReply err ≠ repSuccess := by
  unfold failureReply
  split_ifs <;> decide

theorem settle_handleConnect :
    (srv.handleConnect auth dest).settle rest events = (srv.dialOutcome auth dest).ended rest events := by
  unfold Server.handleConnect Server.dialOutcome
  rw [settle_bind_note]
  cases srv.dial auth dest.text with
  | error err => exact settle_refuse (failureReply_ne err)
  | ok localAddr =>
      -- a local address that a reply cannot carry is answered with a failure, and relayed all the same
      cases localAddr with
      | none | some =>
          refine (settle_bind (settle_wrapping settle_send)).trans ?_
          rw [settle_pure, afterWriting_ended, List.append_nil]
          rfl

theorem settle_serveRequest (hallow : srv.rules.enableConnect = true) {reserved : UInt8}
    (h : Encodes dest addr) :
    (srv.serveRequest auth).settle (requestBytes commandConnect reserved addr ++ rest) events =
      (srv.outcome auth dest).ended rest events := by
  have hparse : parseRequest.settle (requestBytes commandConnect reserved addr ++ rest) events =
      ended (.ok (some ⟨commandConnect, dest⟩)) rest events [] :=
    @settle_parseRequest rest events ⟨commandConnect, dest⟩ reserved addr h
  have hrequest : (srv.serveRequest auth).settle
      (requestBytes commandConnect reserved addr ++ rest) events =
      (srv.handleRequest auth ⟨commandConnect, dest⟩).settle rest events :=
    settle_bind (settle_wrapping hparse)
  rw [hrequest]
  unfold Server.handleRequest Server.outcome
  cases hresolution : srv.resolution dest with
  | error err => exact settle_bind_error (settle_resolveDest_error hresolution)
  | ok dest' =>
      have hallowed : (!srv.rules.allow commandConnect) = false := by
        rw [PermitCommand.allow, if_pos rfl, hallow, Bool.not_true]
      rw [settle_bind (settle_resolveDest_ok hresolution), afterWriting_nil, hallowed,
        if_neg Bool.false_ne_true, if_pos rfl, settle_handleConnect]
      simp only [Outcome.ended, Outcome.reply, List.append_assoc]

end Outcome

/-! ## The greeting of a server -/

section Greeting

variable {srv : Server} {valid : Auth → Bool} {auth : Auth} {methods rest : List UInt8}

theorem settle_serveConn (h : methods.length ≤ 255) :
    srv.serveConn.settle (methodRequestBytes version5 methods ++ rest) [] =
      (wrapping (utf8 "failed to authenticate: " ++ ·) (srv.authenticate methods) >>=
        srv.serveRequest).settle rest [] := by
  unfold Server.serveConn
  rw [settle_bind (settle_parseMethodRequest h), afterWriting_nil, settle_bind_require (by rfl)]

theorem authenticate_of_valid (h : srv.credentials = some valid) (hmem : methodUserPassAuth ∈ methods) :
    srv.authenticate methods = userPassAuthenticate valid := by
  simp [Server.authenticate, h, hmem]

theorem authenticate_of_none (h : srv.credentials = none) (hmem : methodNoAuth ∈ methods) :
    srv.authenticate methods = noAuthAuthenticate := by
  simp [Server.authenticate, h, hmem]

theorem waits_userPassAuthenticate :
    Waits [version5, methodUserPassAuth] ((userPassAuthenticate valid).settle [] []) := by
  unfold userPassAuthenticate
  rw [settle_bind_send]
  exact (((waits_readFull (by decide)).bind _).bind _).afterWriting _

theorem settle_userPassAuthenticate (huser : auth.user.length ≤ 255)
    (hpassword : auth.password.length ≤ 255) :
    (userPassAuthenticate valid).settle (userPassBytes auth ++ rest) [] =
      if valid auth then
        ended (.ok (some auth)) rest [.checked auth true]
          [version5, methodUserPassAuth, userPassAuthVersion, authSuccess]
      else
        ended (.error (utf8 "user authentication failed")) rest [.checked auth false]
          [version5, methodUserPassAuth, userPassAuthVersion, authFailure] := by
  unfold userPassAuthenticate
  rw [settle_bind_send, settle_bind (settle_parseUserPassRequest huser hpassword), afterWriting_nil,
    settle_bind_note, settle_bind_send, afterWriting_afterWriting]
  cases hvalid : valid auth with
  | true =>
      rw [settle_bind_require rfl, settle_pure]
      rfl
  | false =>
      rw [settle_bind_error (settle_require_not Bool.false_ne_true)]
      rfl

theorem waits_serveRequest {auth : Option Auth} {events : List Event} :
    Waits [] ((srv.serveRequest auth).settle [] events) :=
  ((((waits_readFull (by decide)).wrapping _).bind _).wrapping _).bind _

end Greeting

/-! ## The dialer -/

section Dialer

variable {auth : Auth} {host rest : List UInt8} {port : Nat}

/-- The address that the dialer sends for a host. -/
def wireAddr (host : List UInt8) : List UInt8 :=
  match Net.parseIP host with
  | some (.v4 value) => atypIPv4 :: Net.bytes4 value
  | some (.v6 value _) => atypIPv6 :: Net.bytes16 value
  | none => atypDomain :: .ofNat host.length :: host

/-- The address that it stands for. -/
def destination (host : List UInt8) (port : Nat) : AddrSpec :=
  match Net.parseIP host with
  | some (.v4 value) => ⟨[], Net.ipv4In6 (Net.bytes4 value), port⟩
  | some (.v6 value _) => ⟨[], Net.bytes16 value, port⟩
  | none => ⟨host, [], port⟩

/-- A host and a port that fit into a request. -/
structure Fits (host : List UInt8) (port : Nat) : Prop where
  name : Net.parseIP host = none → host.length ≤ 255
  port : port < 0x10000

theorem Fits.encodes (h : Fits host port) :
    Encodes (destination host port) (wireAddr host ++ portBytes port) := by
  have hport := uint16_portBytes h.port
  unfold destination wireAddr
  cases hip : Net.parseIP host with
  | none =>
      have hencodes : Encodes ⟨host, [], uint16 (portBytes port)⟩ _ := .domain (h.name hip) rfl
      rwa [hport] at hencodes
  | some ip =>
      cases ip with
      | v4 value =>
          have hencodes : Encodes ⟨[], Net.ipv4In6 (Net.bytes4 value), uint16 (portBytes port)⟩ _ :=
            .ipv4 (Net.length_bigEndian 4 _) rfl
          rwa [hport] at hencodes
      | v6 value zone =>
          have hencodes : Encodes ⟨[], Net.bytes16 value, uint16 (portBytes port)⟩ _ :=
            .ipv6 (Net.length_bigEndian 16 _) rfl
          rwa [hport] at hencodes

theorem settle_requestAddr (h : Fits host port) (events : List Empty) :
    (requestAddr host).settle rest events = ended (.ok (wireAddr host)) rest events [] := by
  unfold requestAddr wireAddr
  cases hip : Net.parseIP host with
  | none => exact settle_bind_require (h.name hip)
  | some ip => cases ip <;> rfl

theorem waits_request (h : Fits host port) :
    Waits (requestBytes commandConnect 0 (wireAddr host ++ portBytes port))
      ((request host port).settle [] []) := by
  unfold request
  rw [settle_bind (settle_requestAddr h []), afterWriting_nil]
  exact waits_send_readFull (by decide)

theorem settle_readBoundAddr (rep : UInt8) (bound : SocketAddr) :
    ∃ atyp addr, replyBytes rep bound.ip bound.port = [version5, rep, 0, atyp] ++ addr ∧
      (readBoundAddr atyp).settle addr [] =
        ended (.ok ⟨[], (Net.to4 bound.ip).getD bound.ip, bound.port⟩) [] [] [] := by
  obtain ⟨ip, port, hip, hport⟩ := bound
  unfold replyBytes
  cases hto4 : Net.to4 ip with
  | some ip4 =>
      have hlen := Net.length_of_to4 hto4
      refine ⟨atypIPv4, ip4 ++ portBytes port ++ [], by simp, ?_⟩
      rw [readBoundAddr, if_pos rfl, settle_bind_readFull (by rw [List.length_append, hlen]; rfl),
        ← hlen, List.take_left, List.drop_left, uint16_portBytes hport]
      rfl
  | none =>
      have hlen : ip.length = 16 := by
        refine hip.resolve_left fun h4 => ?_
        rw [Net.to4, if_pos h4] at hto4
        cases hto4
      refine ⟨atypIPv6, ip ++ portBytes port ++ [], by simp [hlen], ?_⟩
      rw [readBoundAddr, if_neg (by decide), if_pos rfl,
        settle_bind_readFull (by rw [List.length_append, hlen]; rfl), ← hlen, List.take_left,
        List.drop_left, uint16_portBytes hport]
      rfl

theorem settle_request (h : Fits host port) (o : Outcome) :
    (request host port).settle o.reply [] =
      ended o.result o.unread [] (requestBytes commandConnect 0 (wireAddr host ++ portBytes port)) := by
  obtain ⟨atyp, addr, hreply, hread⟩ := settle_readBoundAddr o.rep o.bound
  unfold request Outcome.result Outcome.unread Outcome.reply
  rw [settle_bind (settle_requestAddr h []), afterWriting_nil, settle_bind_send, hreply,
    settle_bind_readFull (by rfl), settle_bind_require (by rfl)]
  by_cases hrep : o.rep = repSuccess
  · rw [settle_bind_require (by exact hrep), settle_bind_require (by rfl), if_pos hrep, if_pos hrep]
    refine (congrArg (afterWriting _) hread).trans ?_
    rw [afterWriting_ended, List.append_nil]
    rfl
  · rw [settle_bind_error (settle_require_not (by exact hrep)), if_neg hrep, if_neg hrep,
      afterWriting_ended, List.append_nil]
    rfl

/-- The dialer, once the server has chosen a method. -/
theorem settle_connect {auth : Option Auth} {method : UInt8} (h : method ≠ methodNoAcceptable) :
    (connect auth host port).settle ([version5, method] ++ rest) [] =
      afterWriting (greeting auth)
        ((authenticate auth method >>= fun _ => request host port).settle rest []) := by
  unfold connect
  rw [settle_bind_send, settle_bind_readFull (by rfl), settle_bind_require (by rfl),
    settle_bind_require (by exact h)]
  rfl

theorem waits_connect {auth : Option Auth} :
    Waits (greeting auth) ((connect auth host port).settle [] []) :=
  waits_send_readFull (by decide)

/-- Credentials that fit into their message. -/
structure Auth.Fits (auth : Auth) : Prop where
  user_ne : auth.user.length ≠ 0
  user : auth.user.length ≤ 255
  password : auth.password.length ≤ 255

theorem waits_authenticate (h : auth.Fits) :
    Waits (userPassBytes auth) ((authenticate (some auth) methodUserPassAuth).settle [] []) := by
  unfold authenticate
  simp only
  rw [if_neg (by decide), if_pos trivial, settle_bind_require ⟨h.user_ne, h.user, h.password⟩]
  exact waits_send_readFull (by decide)

theorem settle_authenticate (h : auth.Fits) (status : UInt8) :
    (authenticate (some auth) methodUserPassAuth).settle ([userPassAuthVersion, status] ++ rest) [] =
      ended (if status = authSuccess then .ok ()
        else .error (utf8 "username/password authentication failed")) rest [] (userPassBytes auth) := by
  unfold authenticate
  simp only
  rw [if_neg (by decide), if_pos trivial, settle_bind_require ⟨h.user_ne, h.user, h.password⟩,
    settle_bind_send, settle_bind_readFull (by rfl), settle_bind_require (by rfl)]
  by_cases hstatus : status = authSuccess
  · rw [settle_require (by exact hstatus), if_pos hstatus, afterWriting_ended, List.append_nil]
    rfl
  · rw [settle_require_not (by exact hstatus), if_neg hstatus, afterWriting_ended, List.append_nil]
    rfl

end Dialer

/-! ## Sessions -/

section Sessions

open Session Transition

variable {srv : Server} {valid : Auth → Bool} {auth : Auth} {host : List UInt8} {port : Nat}

/-- What a session with credentials comes to. -/
def sessionEnd (srv : Server) (valid : Auth → Bool) (auth : Auth) (host : List UInt8) (port : Nat) :
    Session Empty (Except Message BoundAddr) Event (Except Message Served) :=
  if valid auth then
    let o := srv.outcome (some auth) (destination host port)
    ⟨⟨.ret o.result, o.unread, []⟩, ⟨.ret o.served, [], .checked auth true :: o.events⟩⟩
  else
    ⟨⟨.ret (.error (utf8 "username/password authentication failed")), [], []⟩,
      ⟨.ret (.error (utf8 "failed to authenticate: " ++ utf8 "user authentication failed")), [],
        [.checked auth false]⟩⟩

/-- The request that the dialer sends. -/
def connectBytes (host : List UInt8) (port : Nat) : List UInt8 :=
  requestBytes commandConnect 0 (wireAddr host ++ portBytes port)

section Credentials

variable (hcredentials : srv.credentials = some valid) (hauth : auth.Fits)

include hcredentials

theorem waits_serveConn_greeting :
    Waits [version5, methodUserPassAuth] (srv.serveConn.settle (greeting (some auth)) []) := by
  have hgreeting : greeting (some auth) =
      methodRequestBytes version5 [methodNoAuth, methodUserPassAuth] ++ [] := rfl
  rw [hgreeting, settle_serveConn (by decide), authenticate_of_valid hcredentials (by decide)]
  exact (waits_userPassAuthenticate.wrapping _).bind _

include hauth

theorem settle_serveConn_valid (hvalid : valid auth = true) (rest : List UInt8) :
    srv.serveConn.settle (greeting (some auth) ++ (userPassBytes auth ++ rest)) [] =
      afterWriting [version5, methodUserPassAuth, userPassAuthVersion, authSuccess]
        ((srv.serveRequest (some auth)).settle rest [.checked auth true]) := by
  have hgreeting : greeting (some auth) =
      methodRequestBytes version5 [methodNoAuth, methodUserPassAuth] := rfl
  have hsettle := @settle_userPassAuthenticate valid auth rest hauth.user hauth.password
  rw [if_pos hvalid] at hsettle
  rw [hgreeting, settle_serveConn (by decide), authenticate_of_valid hcredentials (by decide)]
  exact settle_bind (settle_wrapping hsettle)

theorem settle_serveConn_invalid (hvalid : valid auth = false) :
    srv.serveConn.settle (greeting (some auth) ++ userPassBytes auth) [] =
      ended (.error (utf8 "failed to authenticate: " ++ utf8 "user authentication failed")) []
        [.checked auth false]
        [version5, methodUserPassAuth, userPassAuthVersion, authFailure] := by
  have hgreeting : greeting (some auth) =
      methodRequestBytes version5 [methodNoAuth, methodUserPassAuth] := rfl
  have hsettle := @settle_userPassAuthenticate valid auth [] hauth.user hauth.password
  rw [hvalid, if_neg Bool.false_ne_true, List.append_nil] at hsettle
  rw [hgreeting, settle_serveConn (by decide), authenticate_of_valid hcredentials (by decide)]
  exact settle_bind_error (settle_wrapping hsettle)

end Credentials

theorem waits_connect_userPass (hauth : auth.Fits) :
    Waits (greeting (some auth) ++ userPassBytes auth)
      ((connect (some auth) host port).settle [version5, methodUserPassAuth] []) := by
  have hconnect := @settle_connect host [] port (some auth) methodUserPassAuth (by decide)
  rw [List.append_nil] at hconnect
  rw [hconnect]
  exact ((waits_authenticate hauth).bind _).afterWriting _

theorem settle_connect_valid (hauth : auth.Fits) (rest : List UInt8) :
    (connect (some auth) host port).settle
        ([version5, methodUserPassAuth, userPassAuthVersion, authSuccess] ++ rest) [] =
      afterWriting (greeting (some auth) ++ userPassBytes auth)
        ((request host port).settle rest []) := by
  have hsplit : [version5, methodUserPassAuth, userPassAuthVersion, authSuccess] ++ rest =
      [version5, methodUserPassAuth] ++ ([userPassAuthVersion, authSuccess] ++ rest) := rfl
  have hsettle := @settle_authenticate auth rest hauth authSuccess
  rw [if_pos rfl] at hsettle
  rw [hsplit, settle_connect (by decide), settle_bind hsettle, afterWriting_afterWriting]

theorem settle_connect_invalid (hauth : auth.Fits) :
    (connect (some auth) host port).settle
        [version5, methodUserPassAuth, userPassAuthVersion, authFailure] [] =
      ended (.error (utf8 "username/password authentication failed")) [] []
        (greeting (some auth) ++ userPassBytes auth) := by
  have hsplit : [version5, methodUserPassAuth, userPassAuthVersion, authFailure] =
      [version5, methodUserPassAuth] ++ ([userPassAuthVersion, authFailure] ++ []) := rfl
  have hsettle := @settle_authenticate auth [] hauth authFailure
  rw [if_neg (by decide)] at hsettle
  rw [hsplit, settle_connect (by decide), settle_bind_error hsettle, afterWriting_ended]

/-- Once both ends have come to the request, one more round is the last. -/
theorem request_ends {auth : Option Auth} {auth' : Option Auth} {before after : List UInt8}
    {events : List Event} (hallow : srv.rules.enableConnect = true) (hfits : Fits host port)
    (hclient : ∀ rest, (connect auth host port).settle (before ++ rest) [] =
      afterWriting after ((request host port).settle rest []))
    (hserver : ∀ rest, srv.serveConn.settle (after ++ rest) [] =
      afterWriting before ((srv.serveRequest auth').settle rest events))
    (hrounds : Rounds (connect auth host port).run srv.serveConn.run before) :
    Ends (connect auth host port).run srv.serveConn.run
      ⟨⟨.ret (srv.outcome auth' (destination host port)).result,
          (srv.outcome auth' (destination host port)).unread, []⟩,
        ⟨.ret (srv.outcome auth' (destination host port)).served, [],
          events ++ (srv.outcome auth' (destination host port)).events⟩⟩ := by
  generalize ho : srv.outcome auth' (destination host port) = o
  have hsend : ((connect auth host port).settle before []).2 = after ++ connectBytes host port := by
    have hwaits := ((waits_request hfits).afterWriting after).written
    rwa [← hclient [], List.append_nil] at hwaits
  have hanswer : srv.serveConn.settle (after ++ connectBytes host port) [] =
      ended o.served [] (events ++ o.events) (before ++ o.reply) := by
    have hrequest := @settle_serveRequest srv auth' _ [] _ events hallow 0 hfits.encodes
    rw [List.append_nil, ho] at hrequest
    rw [hserver, connectBytes, hrequest, Outcome.ended, afterWriting_ended]
  have hresult : (connect auth host port).settle (before ++ o.reply) [] =
      ended o.result o.unread [] (after ++ connectBytes host port) := by
    rw [hclient, settle_request hfits, afterWriting_ended, connectBytes]
  exact (hrounds.next_of hsend (congrArg Prod.snd hanswer)).ends hresult hanswer

/-- A session with credentials. -/
theorem session_ends (hcredentials : srv.credentials = some valid)
    (hallow : srv.rules.enableConnect = true) (hauth : auth.Fits) (hfits : Fits host port) :
    Ends (connect (some auth) host port).run srv.serveConn.run
      (sessionEnd srv valid auth host port) := by
  have hmethod : Rounds (connect (some auth) host port).run srv.serveConn.run
      [version5, methodUserPassAuth] :=
    Rounds.nil.next_of waits_connect.written (waits_serveConn_greeting hcredentials).written
  unfold sessionEnd
  cases hvalid : valid auth with
  | false =>
      have hrefused := settle_serveConn_invalid hcredentials hauth hvalid
      exact (hmethod.next_of (waits_connect_userPass hauth).written (congrArg Prod.snd hrefused)).ends
        (settle_connect_invalid hauth) hrefused
  | true =>
      have hserver := settle_serveConn_valid hcredentials hauth hvalid
      simp only [← List.append_assoc] at hserver
      have hstatus : (srv.serveConn.settle (greeting (some auth) ++ userPassBytes auth) []).2 =
          [version5, methodUserPassAuth, userPassAuthVersion, authSuccess] := by
        have hwaits := (waits_serveRequest.afterWriting _).written.symm.trans
          (congrArg Prod.snd (hserver [])).symm
        rw [List.append_nil, List.append_nil] at hwaits
        exact hwaits.symm
      exact request_ends hallow hfits (settle_connect_valid hauth) hserver
        (hmethod.next_of (waits_connect_userPass hauth).written hstatus)

/-- A session without credentials. -/
theorem open_session_ends (hcredentials : srv.credentials = none)
    (hallow : srv.rules.enableConnect = true) (hfits : Fits host port) :
    Ends (connect none host port).run srv.serveConn.run
      ⟨⟨.ret (srv.outcome none (destination host port)).result,
          (srv.outcome none (destination host port)).unread, []⟩,
        ⟨.ret (srv.outcome none (destination host port)).served, [],
          (srv.outcome none (destination host port)).events⟩⟩ := by
  have hclient : ∀ rest, (connect none host port).settle ([version5, methodNoAuth] ++ rest) [] =
      afterWriting (greeting none) ((request host port).settle rest []) :=
    fun rest => settle_connect (by decide)
  have hserver : ∀ rest, srv.serveConn.settle (greeting none ++ rest) [] =
      afterWriting [version5, methodNoAuth] ((srv.serveRequest none).settle rest []) := by
    intro rest
    have hgreeting : greeting none = methodRequestBytes version5 [methodNoAuth] := rfl
    rw [hgreeting, settle_serveConn (by decide), authenticate_of_none hcredentials (by decide)]
    have hsettle : noAuthAuthenticate.settle rest [] =
        ended (.ok none) rest [] [version5, methodNoAuth] := settle_bind_send
    exact settle_bind (settle_wrapping hsettle)
  have hmethod : (srv.serveConn.settle (greeting none) []).2 = [version5, methodNoAuth] := by
    have hwaits := (waits_serveRequest.afterWriting _).written.symm.trans
      (congrArg Prod.snd (hserver [])).symm
    rw [List.append_nil, List.append_nil] at hwaits
    exact hwaits.symm
  exact request_ends hallow hfits hclient hserver
    (Rounds.nil.next_of waits_connect.written hmethod)

end Sessions

end Pr0xteus.Socks5
