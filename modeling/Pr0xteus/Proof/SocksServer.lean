import Pr0xteus.ProxyGateway

/-!
# What a SOCKS5 client can make the gateway do

The client may send anything, and reads and writes may fail at any point.
-/

namespace Pr0xteus.Socks5

open Encoding Stream Prog

variable {addr l seen : List UInt8}

/-! ## What the messages are read as -/

def methodRequestBytes (ver : UInt8) (methods : List UInt8) : List UInt8 :=
  ver :: .ofNat methods.length :: methods

def userPassBytes (auth : Auth) : List UInt8 :=
  userPassAuthVersion :: .ofNat auth.user.length ::
    auth.user ++ .ofNat auth.password.length :: auth.password

/-- The bytes of an address in a request, with its type and its port. -/
inductive Encodes : AddrSpec → List UInt8 → Prop
  | ipv4 {ip port : List UInt8} (hip : ip.length = 4) (hport : port.length = 2) :
      Encodes ⟨[], Net.ipv4In6 ip, uint16 port⟩ (atypIPv4 :: ip ++ port)
  | ipv6 {ip port : List UInt8} (hip : ip.length = 16) (hport : port.length = 2) :
      Encodes ⟨[], ip, uint16 port⟩ (atypIPv6 :: ip ++ port)
  | domain {name port : List UInt8} (hname : name.length ≤ 255) (hport : port.length = 2) :
      Encodes ⟨name, [], uint16 port⟩ (atypDomain :: .ofNat name.length :: name ++ port)

section Parsers

variable {R : List UInt8 → List Event → Prop} {F : List UInt8 → List Event → Message → Prop}
  {seen : List UInt8} {events : List Event}

theorem getD_singleton (h : l.length = 1) : l = [l.getD 0 0] := by
  match l, h with
  | [b], _ => rfl

theorem getD_pair (h : l.length = 2) : l = [l.getD 0 0, l.getD 1 0] := by
  match l, h with
  | [a, b], _ => rfl

theorem ofNat_length {b : UInt8} (h : l.length = b.toNat) : UInt8.ofNat l.length = b := by
  rw [h, UInt8.ofNat_toNat]

theorem ensures_parseMethodRequest {Q : List UInt8 → List Event → MethodRequest → Prop}
    (hok : ∀ mr : MethodRequest, mr.methods.length ≤ 255 →
      Q (seen ++ methodRequestBytes mr.ver mr.methods) events mr)
    (herr : ∀ seen message, F seen events message) :
    Ensures R Q F seen events parseMethodRequest := by
  refine ensures_bind (ensures_readFull (fun ver hver => ?_) (herr _))
  refine ensures_bind (ensures_readFull (fun n hn => ?_) (herr _))
  refine ensures_bind (ensures_readFull (fun methods hmethods => ?_) (herr _))
  apply ensures_pure
  have hbytes : seen ++ ver ++ n ++ methods =
      seen ++ methodRequestBytes (ver.getD 0 0) methods := by
    rw [methodRequestBytes, ofNat_length hmethods, getD_singleton hver, getD_singleton hn]
    simp
  rw [hbytes]
  refine hok ⟨ver.getD 0 0, methods⟩ ?_
  have := (n.getD 0 0).toNat_lt
  simp only
  omega

theorem ensures_parseUserPassRequest {Q : List UInt8 → List Event → Auth → Prop}
    (hok : ∀ auth : Auth, auth.user.length ≤ 255 → auth.password.length ≤ 255 →
      Q (seen ++ userPassBytes auth) events auth)
    (herr : ∀ seen message, F seen events message) :
    Ensures R Q F seen events parseUserPassRequest := by
  refine ensures_bind (ensures_readFull (fun tmp htmp => ?_) (herr _))
  refine ensures_bind (ensures_require (fun hver => ?_) fun _ => herr _ _)
  refine ensures_bind (ensures_readFull (fun user huser => ?_) (herr _))
  refine ensures_bind (ensures_readFull (fun n hn => ?_) (herr _))
  refine ensures_bind (ensures_readFull (fun pass hpass => ?_) (herr _))
  apply ensures_pure
  have hbytes : seen ++ tmp ++ user ++ n ++ pass = seen ++ userPassBytes ⟨user, pass⟩ := by
    rw [userPassBytes, ofNat_length huser, ofNat_length hpass, ← hver, getD_pair htmp,
      getD_singleton hn]
    simp
  rw [hbytes]
  have := (tmp.getD 1 0).toNat_lt
  have := (n.getD 0 0).toNat_lt
  exact hok ⟨user, pass⟩ (by simp only; omega) (by simp only; omega)

theorem ensures_parseDstAddr {Q : List UInt8 → List Event → Option AddrSpec → Prop} {atyp : UInt8}
    (hok : ∀ spec bytes, Encodes spec (atyp :: bytes) → Q (seen ++ bytes) events (some spec))
    (hnone : Q seen events none) (herr : ∀ seen message, F seen events message) :
    Ensures R Q F seen events (parseDstAddr atyp) := by
  unfold parseDstAddr
  split
  · next hatyp =>
      refine ensures_bind (ensures_readFull (fun addr haddr => ensures_pure ?_) (herr _))
      refine hok _ addr ?_
      have hencodes : Encodes ⟨[], Net.ipv4In6 (addr.take 4), uint16 (addr.drop 4)⟩
          (atypIPv4 :: addr.take 4 ++ addr.drop 4) :=
        .ipv4 (by rw [List.length_take]; omega) (by rw [List.length_drop]; omega)
      rwa [List.cons_append, List.take_append_drop, ← hatyp] at hencodes
  · split
    · next hatyp =>
        refine ensures_bind (ensures_readFull (fun addr haddr => ensures_pure ?_) (herr _))
        refine hok _ addr ?_
        have hencodes : Encodes ⟨[], addr.take 16, uint16 (addr.drop 16)⟩
            (atypIPv6 :: addr.take 16 ++ addr.drop 16) :=
          .ipv6 (by rw [List.length_take]; omega) (by rw [List.length_drop]; omega)
        rwa [List.cons_append, List.take_append_drop, ← hatyp] at hencodes
    · split
      · next hatyp =>
          refine ensures_bind (ensures_readFull (fun l hl => ?_) (herr _))
          refine ensures_bind (ensures_readFull (fun addr haddr => ensures_pure ?_) (herr _))
          rw [List.append_assoc]
          refine hok _ (l ++ addr) ?_
          generalize hn : l.getD 0 0 = n at haddr ⊢
          have hlt := n.toNat_lt
          have hlen : (addr.take n.toNat).length = n.toNat := by rw [List.length_take]; omega
          have hencodes : Encodes ⟨addr.take n.toNat, [], uint16 (addr.drop n.toNat)⟩
              (atypDomain :: .ofNat (addr.take n.toNat).length ::
                addr.take n.toNat ++ addr.drop n.toNat) :=
            .domain (by omega) (by rw [List.length_drop]; omega)
          rw [ofNat_length hlen, List.cons_append, List.cons_append, List.take_append_drop, ← hatyp]
            at hencodes
          rw [getD_singleton hl, hn]
          exact hencodes
      · exact ensures_pure hnone

/-- The bytes of a request; what the reserved one is does not matter. -/
def requestBytes (command reserved : UInt8) (addr : List UInt8) : List UInt8 :=
  version5 :: command :: reserved :: addr

theorem ensures_parseRequest {Q : List UInt8 → List Event → Option Request → Prop}
    (hok : ∀ (req : Request) reserved addr, Encodes req.dstAddr addr →
      Q (seen ++ requestBytes req.command reserved addr) events (some req))
    (hnone : ∀ seen, Q seen events none) (herr : ∀ seen message, F seen events message) :
    Ensures R Q F seen events parseRequest := by
  refine ensures_bind (ensures_wrapping (ensures_readFull (fun tmp htmp => ?_) fun _ => herr _ _))
  refine ensures_bind (ensures_require (fun hver => ?_) fun _ => herr _ _)
  refine ensures_bind (ensures_wrapping (ensures_readFull (fun tmp' htmp' => ?_) fun _ => herr _ _))
  refine ensures_bind (ensures_wrapping (ensures_parseDstAddr (fun spec bytes hencodes => ?_) ?_
    fun _ _ => herr _ _))
  · apply ensures_pure
    have hbytes : seen ++ tmp ++ tmp' ++ bytes =
        seen ++ requestBytes (tmp.getD 1 0) (tmp'.getD 0 0) (tmp'.getD 1 0 :: bytes) := by
      rw [requestBytes, ← hver, getD_pair htmp, getD_pair htmp']
      simp
    rw [hbytes]
    exact hok ⟨tmp.getD 1 0, spec⟩ _ _ hencodes
  · exact ensures_pure (hnone _)

theorem ensures_sendReply {Q : List UInt8 → List Event → Unit → Prop} {rep : UInt8}
    {bindAddr : Option SocketAddr} (hok : Q seen events ())
    (herr : ∀ message, F seen events message) :
    Ensures R Q F seen events (sendReply rep bindAddr) := by
  unfold sendReply
  split
  · split
    · exact ensures_send hok herr
    · exact ensures_send hok herr
  · exact ensures_send hok herr

theorem ensures_refuse {α : Type} {Q : List UInt8 → List Event → α → Prop} {rep : UInt8}
    {sending err : Message} (herr : ∀ seen message, F seen events message) :
    Ensures R Q F seen events (refuse rep sending err) := by
  refine ensures_bind (ensures_wrapping (ensures_sendReply ?_ fun _ => herr _ _))
  exact ensures_throw (herr _ _)

end Parsers

/-! ## The gateway -/

section Gateway

variable {valid : Auth → Bool}
  {dialLease : Auth → List UInt8 → Except Message (Option SocketAddr)}

/-- What the gateway has read when it has credentials. -/
structure Greeted (auth : Auth) (seen : List UInt8) : Prop where
  intro ::
  bytes : ∃ methods, methods.length ≤ 255 ∧ methodUserPassAuth ∈ methods ∧
    seen = methodRequestBytes version5 methods ++ userPassBytes auth
  user : auth.user.length ≤ 255
  password : auth.password.length ≤ 255

/-- The name that has to be resolved, if there is one. -/
def AddrSpec.names (spec : AddrSpec) : List Event :=
  if spec.fqdn = [] then [] else [.resolved spec.fqdn]

/-- What the gateway can have done, and what it has read before that. -/
inductive Trace (valid : Auth → Bool) : List UInt8 → List Event → Prop
  | checked {auth : Auth} {seen : List UInt8} (hgreeted : Greeted auth seen) :
      Trace valid seen [.checked auth (valid auth)]
  | resolved {auth : Auth} {seen addr : List UInt8} {command reserved : UInt8} {spec : AddrSpec}
      (hgreeted : Greeted auth seen) (hvalid : valid auth = true) (hspec : Encodes spec addr) :
      Trace valid (seen ++ requestBytes command reserved addr)
        [.checked auth true, .resolved spec.fqdn]
  | dialed {auth : Auth} {seen addr : List UInt8} {reserved : UInt8} {spec : AddrSpec}
      (hgreeted : Greeted auth seen) (hvalid : valid auth = true) (hspec : Encodes spec addr) :
      Trace valid (seen ++ requestBytes commandConnect reserved addr)
        (.checked auth true :: spec.names ++ [.dialed (some auth) spec.text])

/-- What is left of a connection that the gateway relays. -/
def Granted (valid : Auth → Bool)
    (dialLease : Auth → List UInt8 → Except Message (Option SocketAddr))
    (seen : List UInt8) (events : List Event) : Prop :=
  ∃ auth first addr reserved spec localAddr, Greeted auth first ∧ valid auth = true ∧
    Encodes spec addr ∧ seen = first ++ requestBytes commandConnect reserved addr ∧
    events = .checked auth true :: spec.names ++ [.dialed (some auth) spec.text] ∧
    dialLease auth spec.text = .ok localAddr

/-- A name comes without an address, so leaving it to the cell changes nothing. -/
theorem Encodes.ip_of_fqdn {spec : AddrSpec} (h : Encodes spec addr) (hname : spec.fqdn ≠ []) :
    spec.ip = [] := by
  cases h with
  | ipv4 | ipv6 => exact absurd rfl hname
  | domain => rfl

theorem ensures_resolveDest {R : List UInt8 → List Event → Prop}
    {F : List UInt8 → List Event → Message → Prop} {Q : List UInt8 → List Event → AddrSpec → Prop}
    {events : List Event} {spec : AddrSpec} (hspec : Encodes spec addr)
    (hname : spec.fqdn ≠ [] → R seen (events ++ [.resolved spec.fqdn]))
    (hok : Q seen (events ++ spec.names) spec) :
    Ensures R Q F seen events ((proxyGateway valid dialLease).resolveDest spec) := by
  unfold Server.resolveDest AddrSpec.names at *
  split at hok
  · next hfqdn =>
      rw [if_pos hfqdn]
      rw [List.append_nil] at hok
      exact ensures_pure hok
  · next hfqdn =>
      rw [if_neg hfqdn]
      refine ensures_bind (ensures_note (hname hfqdn) (ensures_pure ?_))
      rwa [← hspec.ip_of_fqdn hfqdn]

theorem ensures_handleRequest {auth : Auth} {req : Request} {reserved : UInt8}
    (hgreeted : Greeted auth seen) (hvalid : valid auth = true) (hspec : Encodes req.dstAddr addr) :
    Ensures (Trace valid) (fun seen events r => r = .relays → Granted valid dialLease seen events)
      (fun _ _ _ => True) (seen ++ requestBytes req.command reserved addr) [.checked auth true]
      ((proxyGateway valid dialLease).handleRequest (some auth) req) := by
  refine ensures_bind (ensures_resolveDest hspec (fun _ => .resolved hgreeted hvalid hspec) ?_)
  split
  · exact ensures_refuse fun _ _ => trivial
  · next hallow =>
      have hconnect : req.command = commandConnect := by
        by_contra hne
        apply hallow
        simp [proxyGateway, PermitCommand.allow, hne]
      rw [if_pos hconnect, hconnect]
      refine ensures_bind (ensures_note (.dialed hgreeted hvalid hspec) ?_)
      cases hdial : dialLease auth req.dstAddr.text with
      | error err =>
          simp only [proxyGateway, hdial]
          exact ensures_refuse fun _ _ => trivial
      | ok localAddr =>
          simp only [proxyGateway, hdial]
          refine ensures_bind (ensures_wrapping (ensures_sendReply ?_ fun _ => trivial))
          exact ensures_pure fun _ =>
            ⟨auth, seen, addr, reserved, _, localAddr, hgreeted, hvalid, hspec, rfl, rfl, hdial⟩

theorem ensures_serveRequest {auth : Auth} (hgreeted : Greeted auth seen)
    (hvalid : valid auth = true) :
    Ensures (Trace valid) (fun seen events r => r = .relays → Granted valid dialLease seen events)
      (fun _ _ _ => True) seen [.checked auth true]
      ((proxyGateway valid dialLease).serveRequest (some auth)) := by
  refine ensures_bind (ensures_wrapping (ensures_parseRequest (fun req reserved addr hspec => ?_)
    (fun _ => ?_) fun _ _ => trivial))
  · dsimp only
    split
    · exact ensures_handleRequest hgreeted hvalid hspec
    · exact ensures_refuse fun _ _ => trivial
  · exact ensures_refuse fun _ _ => trivial

/-- Whatever the client sends, the gateway only ever leaves a trace of the three kinds, and it relays
only what it has accepted. -/
theorem ensures_serveConn :
    Ensures (Trace valid) (fun seen events r => r = .relays → Granted valid dialLease seen events)
      (fun _ _ _ => True) [] [] (proxyGateway valid dialLease).serveConn := by
  refine ensures_bind (ensures_parseMethodRequest (fun mr hlen => ?_) fun _ _ => trivial)
  refine ensures_bind (ensures_require (fun hver => ?_) fun _ => trivial)
  refine ensures_bind (ensures_wrapping ?_)
  have hauth : (proxyGateway valid dialLease).authenticate mr.methods =
      if methodUserPassAuth ∈ mr.methods then userPassAuthenticate valid
      else ExceptT.mk (.write [version5, methodNoAcceptable] fun _ =>
        .ret (.error (utf8 "no supported authentication mechanism"))) := rfl
  by_cases hmethod : methodUserPassAuth ∈ mr.methods
  · rw [hauth, if_pos hmethod]
    refine ensures_bind (ensures_send ?_ fun _ => trivial)
    refine ensures_bind (ensures_parseUserPassRequest (fun auth huser hpassword => ?_)
      fun _ _ => trivial)
    have hgreeted : Greeted auth
        ([] ++ methodRequestBytes mr.ver mr.methods ++ userPassBytes auth) :=
      ⟨⟨mr.methods, hlen, hmethod, by rw [hver, List.nil_append]⟩, huser, hpassword⟩
    refine ensures_bind (ensures_note (.checked hgreeted) ?_)
    refine ensures_bind (ensures_send ?_ fun _ => trivial)
    refine ensures_bind (ensures_require (fun hvalid => ?_) fun _ => trivial)
    refine ensures_pure ?_
    rw [hvalid]
    exact ensures_serveRequest hgreeted hvalid
  · rw [hauth, if_neg hmethod]
    intro r
    exact trivial

end Gateway

end Pr0xteus.Socks5
