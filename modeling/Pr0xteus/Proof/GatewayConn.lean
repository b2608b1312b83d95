import Pr0xteus.Proof.SocksServer

/-!
# Connections of the SOCKS5 gateway

Over every run of a connection, with any bytes from the client and from the target, cut in any way, and
any failures: what the gateway dials, and what reaches the target.
-/

namespace Pr0xteus

open Encoding Stream Socks5 Transition

variable {copy : Copy} {n : Nat}

section Run

variable {valid : Auth → Bool}
  {dialLease : Auth → List UInt8 → Except Message (Option SocketAddr)}

abbrev ConnEdge := Edge GatewayConn ConnAction

/-- All that the client has sent. -/
def arrived (es : List ConnEdge) : List UInt8 := es.flatMap fun e => e.action.arrives

def sentByTarget (es : List ConnEdge) : List UInt8 := es.flatMap fun e => e.action.sentByTarget

/-- A copy writes what it has read, in order, and all of it unless one of its writes failed. -/
structure Copy.Sound (copy : Copy) : Prop where
  ordered : copy.written <+: copy.taken
  complete : copy.writeFailed = false → copy.written = copy.taken

theorem Copy.sound_start : Copy.start.Sound := ⟨List.prefix_refl _, fun _ => rfl⟩

theorem Copy.Sound.move (h : copy.Sound) (hrunning : copy.ended?.isNone = true) (bytes : List UInt8) :
    (copy.move bytes).Sound := by
  have hall : copy.written = copy.taken := h.complete (by simp_all [Copy.writeFailed])
  exact ⟨by simp [Copy.move, hall], fun _ => by simp [Copy.move, hall]⟩

theorem Copy.Sound.moveFails (h : copy.Sound) (hrunning : copy.ended?.isNone = true)
    (bytes : List UInt8) (m : Nat) (err : Message) : (copy.moveFails bytes m err).Sound := by
  have hall : copy.written = copy.taken := h.complete (by simp_all [Copy.writeFailed])
  refine ⟨?_, fun hcopy => by cases hcopy⟩
  simpa [Copy.moveFails, hall] using List.take_prefix m bytes

theorem Copy.Sound.ends (h : copy.Sound) (hrunning : copy.ended? = none) (err : Option Message) :
    { copy with ended? := some (.source err) : Copy }.Sound :=
  ⟨h.ordered, fun _ => h.complete (by simp [Copy.writeFailed, hrunning])⟩

/-- A connection as the first copy would find it if it had not read anything yet. -/
def GatewayConn.unread (c : GatewayConn) : End Event (Except Message Served) :=
  { c.server with input := c.up.taken ++ c.server.input }

theorem GatewayConn.relays_iff {c : GatewayConn} :
    c.relays = true ↔ c.server.proc = .ret (.ok .relays) := by
  unfold relays
  split
  · next h => simp [h]
  · next h => simpa using h

/-- What is known of a connection, given all that the client and the target have sent. -/
structure GatewayConn.Explained (valid : Auth → Bool)
    (dialLease : Auth → List UInt8 → Except Message (Option SocketAddr))
    (sent sentDown : List UInt8) (c : GatewayConn) : Prop where
  handshake : ∃ seen, c.unread.Fine (Trace valid)
    (fun seen events r => r = .ok .relays → Granted valid dialLease seen events) sent seen
  idle : c.relays = false → c.up.taken = [] ∧ sentDown = []
  up : c.up.Sound
  down : c.down.Sound
  target : sentDown = c.down.taken ++ c.fromTarget

theorem explained_accepted :
    (GatewayConn.accepted (proxyGateway valid dialLease)).Explained valid dialLease [] [] where
  handshake := by
    refine ⟨[], End.fine_start (Proc.Ensures.mono ensures_serveConn ?_)⟩
    rintro seen events r hr rfl
    exact hr rfl
  idle := fun _ => ⟨rfl, rfl⟩
  up := Copy.sound_start
  down := Copy.sound_start
  target := rfl

theorem GatewayConn.of_copies {c : GatewayConn} {source : List UInt8}
    (h : c.copies copy source n = true) : c.relays = true ∧ copy.ended?.isNone = true := by
  simp only [GatewayConn.copies, Bool.and_eq_true] at h
  exact ⟨h.1.1.1.1, h.1.1.2⟩

namespace GatewayConn.Explained

variable {sent sentDown : List UInt8} {c c' : GatewayConn}

theorem handshake_step {move : Move} (h : c.Explained valid dialLease sent sentDown)
    (hstep : c.step (.handshake move) = some c') :
    c'.Explained valid dialLease (sent ++ move.arrives) sentDown := by
  obtain ⟨seen, hfine⟩ := h.handshake
  obtain ⟨server, hserver, rfl⟩ := Option.map_eq_some_iff.mp hstep
  cases hrelays : c.relays with
  | false =>
      obtain ⟨htaken, hdown⟩ := h.idle hrelays
      have hunread : c.unread = c.server := by rw [unread, htaken, List.nil_append]
      rw [hunread] at hfine
      obtain ⟨more, hmore⟩ := hfine.step hserver
      refine ⟨⟨seen ++ more, ?_⟩, fun _ => ⟨htaken, hdown⟩, h.up, h.down, h.target⟩
      rw [unread, htaken, List.nil_append]
      exact hmore
  | true =>
      have hproc := relays_iff.mp hrelays
      cases move with
      | go => rw [End.step, End.go, hproc] at hserver; cases hserver
      | fail message => rw [End.step, End.fail, hproc] at hserver; cases hserver
      | arrive bytes =>
          cases hserver
          have hreceive : c.unread.step (.arrive bytes) = some (c.unread.receive bytes) := rfl
          obtain ⟨more, hmore⟩ := hfine.step hreceive
          refine ⟨⟨seen ++ more, ?_⟩, fun hidle => ?_, h.up, h.down, h.target⟩
          · simpa [unread, End.receive] using hmore
          · exact absurd (hrelays.symm.trans hidle) (by decide)

/-- A copy of what the client has sent. -/
theorem readUp (h : c.Explained valid dialLease sent sentDown) (hrelays : c.relays = true)
    (htaken : copy.taken = c.up.taken ++ c.server.input.take n) (hcopy : copy.Sound) :
    (c.readUp n copy).Explained valid dialLease sent sentDown := by
  refine ⟨?_, fun hidle => absurd (hrelays.symm.trans hidle) (by decide), hcopy, h.down, h.target⟩
  simpa [unread, GatewayConn.readUp, htaken] using h.handshake

/-- A copy of what the target has sent. -/
theorem readDown (h : c.Explained valid dialLease sent sentDown)
    (htaken : copy.taken = c.down.taken ++ c.fromTarget.take n) (hcopy : copy.Sound) :
    (c.readDown n copy).Explained valid dialLease sent sentDown := by
  refine ⟨h.handshake, h.idle, h.up, hcopy, ?_⟩
  simp only [GatewayConn.readDown, htaken, List.append_assoc, List.take_append_drop, h.target]

theorem step {action : ConnAction} (h : c.Explained valid dialLease sent sentDown)
    (hstep : c.step action = some c') :
    c'.Explained valid dialLease (sent ++ action.arrives) (sentDown ++ action.sentByTarget) := by
  cases action
  all_goals simp only [ConnAction.arrives, ConnAction.sentByTarget, List.append_nil]
  case handshake move =>
      exact h.handshake_step hstep
  case copyUp n =>
      obtain ⟨hcopies, ⟨⟩⟩ := Option.ite_none_right_eq_some.mp hstep
      obtain ⟨hrelays, hrunning⟩ := of_copies hcopies
      exact h.readUp hrelays rfl (h.up.move hrunning _)
  case copyDown n =>
      obtain ⟨hcopies, ⟨⟩⟩ := Option.ite_none_right_eq_some.mp hstep
      exact h.readDown rfl (h.down.move (of_copies hcopies).2 _)
  case copyUpFails n m err =>
      obtain ⟨hcopies, ⟨⟩⟩ := Option.ite_none_right_eq_some.mp hstep
      obtain ⟨hrelays, hrunning⟩ := of_copies hcopies
      exact h.readUp hrelays rfl (h.up.moveFails hrunning _ m err)
  case copyDownFails n m err =>
      obtain ⟨hcopies, ⟨⟩⟩ := Option.ite_none_right_eq_some.mp hstep
      exact h.readDown rfl (h.down.moveFails (of_copies hcopies).2 _ m err)
  case upEnds err =>
      obtain ⟨⟨-, hrunning, -⟩, ⟨⟩⟩ := Option.ite_none_right_eq_some.mp hstep
      exact ⟨h.handshake, h.idle, h.up.ends hrunning err, h.down, h.target⟩
  case downEnds err =>
      obtain ⟨⟨-, hrunning, -⟩, ⟨⟩⟩ := Option.ite_none_right_eq_some.mp hstep
      exact ⟨h.handshake, h.idle, h.up, h.down.ends hrunning err, h.target⟩
  case targetSends bytes =>
      obtain ⟨hrelays, ⟨⟩⟩ := Option.ite_none_right_eq_some.mp hstep
      refine ⟨h.handshake, fun hidle => absurd (hrelays.symm.trans hidle) (by decide), h.up, h.down, ?_⟩
      rw [h.target, List.append_assoc]
  case finish =>
      obtain ⟨-, ⟨⟩⟩ := Option.ite_none_right_eq_some.mp hstep
      exact ⟨h.handshake, h.idle, h.up, h.down, h.target⟩

end GatewayConn.Explained

variable (valid dialLease)

/-- The runs of a connection that the gateway accepts. -/
abbrev GatewayConn.run (actions : List ConnAction) : List ConnEdge :=
  edges GatewayConn.step (GatewayConn.accepted (proxyGateway valid dialLease)) actions

abbrev GatewayConn.after (actions : List ConnAction) : GatewayConn :=
  final (GatewayConn.accepted (proxyGateway valid dialLease)) (GatewayConn.run valid dialLease actions)

theorem explained_after (actions : List ConnAction) :
    (GatewayConn.after valid dialLease actions).Explained valid dialLease
      (arrived (GatewayConn.run valid dialLease actions))
      (sentByTarget (GatewayConn.run valid dialLease actions)) := by
  obtain ⟨c, hpath⟩ : ∃ c, Path GatewayConn.step _ (GatewayConn.run valid dialLease actions) c :=
    exists_path_edges _ actions
  rw [GatewayConn.after, ← hpath.eq_final]
  refine hpath.history (fun es c => c.Explained valid dialLease (arrived es) (sentByTarget es))
    explained_accepted ?_
  intro es c action c' h hstep _
  simpa [arrived, sentByTarget] using h.step hstep

/-- Whatever the client sends and whatever fails: the gateway asks about the credentials of the client
at most once; it dials at most once, and only where they were valid and the first bytes of the client
were a CONNECT request for that address, and with these credentials. -/
theorem gateway_events (actions : List ConnAction) :
    (GatewayConn.after valid dialLease actions).server.events = [] ∨
      ∃ first, first <+: arrived (GatewayConn.run valid dialLease actions) ∧
        Trace valid first (GatewayConn.after valid dialLease actions).server.events := by
  obtain ⟨seen, hfine⟩ := (explained_after valid dialLease actions).handshake
  refine hfine.noted.imp_right ?_
  rintro ⟨first, hfirst, htrace⟩
  rw [hfine.arrived_eq]
  exact ⟨first, hfirst.trans (List.prefix_append _ _), htrace⟩

/-- Nothing is relayed before the gateway has accepted a request and its target is dialed. From then on
the target gets the bytes that follow the request, those that came with it included, and the client
gets what the target sends: in order, and all that a copy has read unless one of its writes failed. -/
theorem gateway_relays (actions : List ConnAction) :
    let c := GatewayConn.after valid dialLease actions
    let es := GatewayConn.run valid dialLease actions
    (c.relays = false ∧ c.up.written = [] ∧ c.down.written = []) ∨
      ∃ handshake, Granted valid dialLease handshake c.server.events ∧
        arrived es = handshake ++ c.up.taken ++ c.server.input ∧
        sentByTarget es = c.down.taken ++ c.fromTarget ∧ c.up.Sound ∧ c.down.Sound := by
  intro c es
  have h := explained_after valid dialLease actions
  change c.Explained valid dialLease (arrived es) (sentByTarget es) at h
  cases hrelays : c.relays with
  | false =>
      obtain ⟨htaken, hdown⟩ := h.idle hrelays
      refine .inl ⟨rfl, ?_, ?_⟩
      · exact List.prefix_nil.mp (htaken ▸ h.up.ordered)
      · have htakenDown : c.down.taken = [] := (List.append_eq_nil_iff.mp (h.target ▸ hdown)).1
        exact List.prefix_nil.mp (htakenDown ▸ h.down.ordered)
  | true =>
      obtain ⟨seen, hfine⟩ := h.handshake
      refine .inr ⟨seen, ?_, ?_, h.target, h.up, h.down⟩
      · have hproc : c.unread.proc = .ret (.ok .relays) := GatewayConn.relays_iff.mp hrelays
        have hrest := hfine.rest
        rw [hproc] at hrest
        exact hrest rfl
      · rw [hfine.arrived_eq, GatewayConn.unread, List.append_assoc]

end Run

end Pr0xteus
