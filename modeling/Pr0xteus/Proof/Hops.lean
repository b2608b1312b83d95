import Pr0xteus.Proof.Credentials
import Pr0xteus.Proof.SocksSession

/-!
# From one hop to the next

The client dials through the gateway, and the gateway dials through a cell. Each hop is a session, and
the address of the second one is the text that the gateway made of the first one's.
-/

namespace Pr0xteus.Socks5

open Encoding Stream Prog

section Hops

variable {host : List UInt8} {port : Nat}

/-- The host of the address that the gateway dials. -/
def relayHost (host : List UInt8) : List UInt8 :=
  match Net.parseIP host with
  | some (.v4 value) => Net.ipString (Net.ipv4In6 (Net.bytes4 value))
  | some (.v6 value _) => Net.ipString (Net.bytes16 value)
  | none => host

theorem parseIP_relayHost : Net.parseIP (relayHost host) = Net.parseIP host := by
  unfold relayHost
  cases hip : Net.parseIP host with
  | none => exact hip
  | some ip =>
      cases ip with
      | v4 value => exact Net.parseIP_ipString (Net.addrOfIP_ipv4In6 value)
      | v6 value zone => exact Net.parseIP_ipString (Net.addrOfIP_of_parseIP_v6 hip)

theorem relayHost_of_name (h : Net.parseIP host = none) : relayHost host = host := by
  rw [relayHost, h]

theorem destination_relayHost : destination (relayHost host) port = destination host port := by
  unfold destination
  rw [parseIP_relayHost]
  cases hip : Net.parseIP host with
  | none => rw [relayHost_of_name hip]
  | some ip => cases ip <;> rfl

theorem Fits.relayHost (h : Fits host port) : Fits (relayHost host) port := by
  refine ⟨fun hip => ?_, h.port⟩
  rw [parseIP_relayHost] at hip
  rw [relayHost_of_name hip]
  exact h.name hip

theorem text_destination :
    (destination host port).text = Net.joinBytes (relayHost host) (utf8 (toString port)) := by
  unfold AddrSpec.text destination relayHost
  cases hip : Net.parseIP host with
  | none => rfl
  | some ip =>
      cases ip with
      | v4 value => rw [if_pos (by simp [Net.ipv4In6, Net.v4InV6Bytes])]
      | v6 value zone =>
          have hne : Net.bytes16 value ≠ [] := by
            rw [← List.length_pos_iff_ne_nil, Net.bytes16, Net.length_bigEndian]
            decide
          rw [if_pos hne]

theorem not_mem_relayHost (h : '['.toUInt8 ∉ host ∧ ']'.toUInt8 ∉ host) :
    '['.toUInt8 ∉ relayHost host ∧ ']'.toUInt8 ∉ relayHost host := by
  unfold relayHost
  cases hip : Net.parseIP host with
  | none => exact h
  | some ip =>
      cases ip with
      | v4 value => exact Net.not_mem_ipString (Net.addrOfIP_ipv4In6 value)
      | v6 value zone => exact Net.not_mem_ipString (Net.addrOfIP_of_parseIP_v6 hip)

/-- A dialer takes the address that it was given apart again. -/
theorem splitHostPort_text {address : List UInt8} (h : splitHostPort address = some (host, port)) :
    splitHostPort (destination host port).text = some (relayHost host, port) ∧ port < 0x10000 := by
  unfold splitHostPort at h
  obtain ⟨⟨host', port'⟩, hsplit, h⟩ := Option.bind_eq_some_iff.mp h
  obtain ⟨portnum, hportnum, h⟩ := Option.bind_eq_some_iff.mp h
  split at h
  · next hrange =>
      cases h
      have hnone := not_mem_relayHost (Net.not_mem_of_split hsplit)
      have hjoin := Net.split_joinBytes hnone.1 hnone.2 fun b hb =>
        Net.isDigit_of_mem_toString (n := portnum.toNat) hb
      have hrange' : 1 ≤ (portnum.toNat : Int) ∧ (portnum.toNat : Int) ≤ 0xffff := by omega
      have hatoi : Net.atoi (utf8 (toString portnum.toNat)) = some (portnum.toNat : Int) :=
        Net.atoi_toString (by omega)
      refine ⟨?_, by omega⟩
      rw [text_destination, splitHostPort, hjoin]
      change (Net.atoi _ >>= fun portnum => _) = _
      rw [hatoi, Option.bind_eq_bind, Option.bind_some, if_pos hrange']
      rfl
  · cases h

end Hops

/-! ## The two hops -/

section Sessions

open Session Transition

variable {valid : Auth → Bool} {dialLease : Auth → List UInt8 → Except Message (Option SocketAddr)}
  {auth : Auth} {host : List UInt8} {port : Nat}

/-- The gateway leaves the address of a request as it is. -/
theorem resolution_proxyGateway {spec : AddrSpec} {addr : List UInt8} (h : Encodes spec addr) :
    (proxyGateway valid dialLease).resolution spec = .ok spec := by
  unfold Server.resolution
  split
  · rfl
  · next hname =>
      have hip := h.ip_of_fqdn hname
      change Except.ok { spec with ip := [] } = _
      rw [← hip]

theorem outcome_proxyGateway {spec : AddrSpec} {addr : List UInt8} (h : Encodes spec addr) :
    ((proxyGateway valid dialLease).outcome (some auth) spec).events =
        spec.names ++ [.dialed (some auth) spec.text] ∧
      (((proxyGateway valid dialLease).outcome (some auth) spec).rep = repSuccess ↔
        ∃ bound, dialLease auth spec.text = .ok (some bound)) ∧
      (((proxyGateway valid dialLease).outcome (some auth) spec).rep = repSuccess →
        ((proxyGateway valid dialLease).outcome (some auth) spec).served = .ok .relays) := by
  have hdial : (proxyGateway valid dialLease).dial (some auth) spec.text = dialLease auth spec.text :=
    rfl
  simp only [Server.outcome, resolution_proxyGateway h, Server.dialOutcome, hdial]
  cases dialLease auth spec.text with
  | error err => simp [failureReply_ne]
  | ok bound =>
      cases bound with
      | none => simp [repAddrTypeNotSupported, repSuccess]
      | some bound => simp

theorem Outcome.result_eq_ok (o : Outcome) :
    (∃ bound, (Proc.ret o.result : Proc Empty _) = .ret (.ok bound)) ↔ o.rep = repSuccess := by
  unfold Outcome.result
  by_cases hrep : o.rep = repSuccess <;> simp [hrep]

/-- What a session with the gateway has come to. -/
structure GatewayEnd (valid : Auth → Bool)
    (dialLease : Auth → List UInt8 → Except Message (Option SocketAddr)) (auth : Auth)
    (dest : AddrSpec)
    (t : Session Empty (Except Message BoundAddr) Event (Except Message Served)) : Prop where
  events : t.server.events =
    if valid auth then .checked auth true :: dest.names ++ [.dialed (some auth) dest.text]
    else [.checked auth false]
  connected : (∃ bound, t.client.proc = .ret (.ok bound)) ↔
    valid auth = true ∧ ∃ bound, dialLease auth dest.text = .ok (some bound)
  relays : (∃ bound, t.client.proc = .ret (.ok bound)) → t.server.proc = .ret (.ok .relays)
  -- the relay begins with the first byte after the handshake
  unread : (∃ bound, t.client.proc = .ret (.ok bound)) → t.client.input = [] ∧ t.server.input = []
  ended : (∃ r, t.client.proc = .ret r) ∧ ∃ r, t.server.proc = .ret r

theorem gatewayEnd_sessionEnd (hfits : Fits host port) :
    GatewayEnd valid dialLease auth (destination host port)
      (sessionEnd (proxyGateway valid dialLease) valid auth host port) := by
  obtain ⟨hevents, hrep, hserved⟩ := @outcome_proxyGateway valid dialLease auth _ _ hfits.encodes
  unfold sessionEnd
  cases hvalid : valid auth with
  | false => constructor <;> simp [hvalid]
  | true =>
      generalize (proxyGateway valid dialLease).outcome (some auth) (destination host port) = o at *
      have hok := o.result_eq_ok
      constructor
      · simp [hvalid, hevents]
      · simpa [hvalid, ← hrep] using hok
      · exact fun h => congrArg Proc.ret (hserved (hok.mp h))
      · exact fun h => ⟨if_pos (hok.mp h), rfl⟩
      · exact ⟨⟨_, rfl⟩, _, rfl⟩

/-- The first hop: a dialer whose credentials and destination fit the messages of the protocol. Under
every schedule the session ends, and always in the same way. -/
theorem gateway_session (valid : Auth → Bool)
    (dialLease : Auth → List UInt8 → Except Message (Option SocketAddr)) (hauth : auth.Fits)
    (hfits : Fits host port) :
    let s := start (connect (some auth) host port).run (proxyGateway valid dialLease).serveConn.run
    ∃ n, ∀ turns,
      (edges Session.step s turns).length ≤ n ∧
      (∃ more u, Path Session.step (final s (edges Session.step s turns)) more u ∧
        GatewayEnd valid dialLease auth (destination host port) u) ∧
      (Stuck Session.step (final s (edges Session.step s turns)) →
        GatewayEnd valid dialLease auth (destination host port)
          (final s (edges Session.step s turns))) := by
  intro s
  have hend := @gatewayEnd_sessionEnd valid dialLease auth host port hfits
  obtain ⟨n, hn⟩ := (@session_ends (proxyGateway valid dialLease) valid auth host port rfl rfl hauth
    hfits).every_schedule
  refine ⟨n, fun turns => ?_⟩
  obtain ⟨hlen, ⟨more, hmore⟩, hstuck⟩ := hn turns
  refine ⟨hlen, ⟨more, _, hmore, hend⟩, fun h => ?_⟩
  rw [hstuck h]
  exact hend

theorem gateway_session_refused :
    let auth : Auth := ⟨utf8 "lease", utf8 "secret"⟩
    let s := start (connect (some auth) (utf8 "example.com") 443).run
      (proxyGateway (fun _ => true) fun _ _ => .error (utf8 "connection refused")).serveConn.run
    auth.Fits ∧ Fits (utf8 "example.com") 443 ∧
      ∃ n, ∀ turns, (edges Session.step s turns).length ≤ n ∧
        (Stuck Session.step (final s (edges Session.step s turns)) →
          ¬∃ bound, (final s (edges Session.step s turns)).client.proc = .ret (.ok bound)) := by
  intro auth s
  have hauth : auth.Fits := ⟨by decide, by decide, by decide⟩
  have hfits : Fits (utf8 "example.com") 443 := ⟨fun _ => by decide, by decide⟩
  obtain ⟨n, hn⟩ := gateway_session (fun _ => true) (fun _ _ => .error (utf8 "connection refused"))
    hauth hfits
  refine ⟨hauth, hfits, n, fun turns => ⟨(hn turns).1, fun hstuck hconnected => ?_⟩⟩
  obtain ⟨-, bound, hbound⟩ := ((hn turns).2.2 hstuck).connected.mp hconnected
  cases hbound

/-- The second hop: the gateway's dialer takes the text of the address apart again, and what it asks of
the cell is what the client asked of the gateway. A name is resolved by the cell and by nobody else. -/
theorem cell_session (resolve : List UInt8 → Except Message (List UInt8))
    (dial : List UInt8 → Except Message (Option SocketAddr)) {address : List UInt8}
    (haddress : splitHostPort address = some (host, port))
    (hname : Net.parseIP host = none → host.length ≤ 255) :
    let o := (cellServer resolve dial).outcome none (destination host port)
    let t := (⟨⟨.ret o.result, o.unread, []⟩, ⟨.ret o.served, [], o.events⟩⟩ :
      Session Empty (Except Message BoundAddr) Event (Except Message Served))
    ∃ host' n, splitHostPort (destination host port).text = some (host', port) ∧
      ∀ turns,
        let s := start (connect none host' port).run (cellServer resolve dial).serveConn.run
        (edges Session.step s turns).length ≤ n ∧
        (∃ more, Path Session.step (final s (edges Session.step s turns)) more t) ∧
        (Stuck Session.step (final s (edges Session.step s turns)) →
          final s (edges Session.step s turns) = t) := by
  intro o t
  obtain ⟨hsplit, hport⟩ := splitHostPort_text haddress
  have hfits : Fits host port := ⟨hname, hport⟩
  have hends := @open_session_ends (cellServer resolve dial) (relayHost host) port rfl rfl
    hfits.relayHost
  rw [destination_relayHost] at hends
  obtain ⟨n, hn⟩ := hends.every_schedule
  exact ⟨relayHost host, n, hsplit, hn⟩

theorem cell_session_resolved :
    let address := utf8 "example.com:443"
    let cell := cellServer (fun _ => .ok [192, 0, 2, 1]) fun _ => .error (utf8 "timeout")
    splitHostPort address = some (utf8 "example.com", 443) ∧
      (Net.parseIP (utf8 "example.com") = none → (utf8 "example.com").length ≤ 255) ∧
      ∃ host' n, splitHostPort (destination (utf8 "example.com") 443).text = some (host', 443) ∧
        ∀ turns, let s := start (connect none host' 443).run cell.serveConn.run
          (edges Session.step s turns).length ≤ n ∧
          (Stuck Session.step (final s (edges Session.step s turns)) →
            (final s (edges Session.step s turns)).server.events =
              [.resolved (utf8 "example.com"), .dialed none (utf8 "192.0.2.1:443")]) := by
  intro address cell
  have haddress : splitHostPort address = some (utf8 "example.com", 443) := by decide +kernel
  have hname : Net.parseIP (utf8 "example.com") = none → (utf8 "example.com").length ≤ 255 :=
    fun _ => by decide
  have hevents : (cell.outcome none (destination (utf8 "example.com") 443)).events =
      [.resolved (utf8 "example.com"), .dialed none (utf8 "192.0.2.1:443")] := by decide +kernel
  obtain ⟨host', n, hsplit, hn⟩ := cell_session (fun _ => .ok [192, 0, 2, 1])
    (fun _ => .error (utf8 "timeout")) haddress hname
  refine ⟨haddress, hname, host', n, hsplit, fun turns => ⟨(hn turns).1, fun hstuck => ?_⟩⟩
  rw [(hn turns).2.2 hstuck]
  exact hevents

end Sessions

/-! ## A lease in use -/

section Lease

open Session Transition

theorem length_rawURLChars (bytes : List UInt8) :
    (rawURLChars bytes).length = (4 * bytes.length + 2) / 3 := by
  induction bytes using rawURLChars.induct with
  | case1 | case2 | case3 => simp [rawURLChars]
  | case4 a b c rest ih =>
      simp only [rawURLChars, List.length_cons, ih]
      omega

theorem length_newLeasePart (bytes : LeaseBytes) : (utf8 (newLeasePart bytes)).length = 43 := by
  have hascii : ∀ c ∈ rawURLChars bytes.toList, c.toNat < 128 := by
    intro c hc
    obtain ⟨n, rfl⟩ := sextet_of_mem_rawURLChars hc
    exact (plain_sextet n).1
  rw [newLeasePart, rawURLEncode, Bytes.utf8_ofList_ascii hascii, List.length_map,
    length_rawURLChars, Vector.length_toList]
  rfl

/-- The credentials of a lease, as the client of its URL sends them. -/
def leaseAuth (idBytes secretBytes : LeaseBytes) : Auth :=
  ⟨utf8 (newLeasePart idBytes), utf8 (newLeasePart secretBytes)⟩

theorem fits_leaseAuth (idBytes secretBytes : LeaseBytes) : (leaseAuth idBytes secretBytes).Fits := by
  constructor <;> simp only [leaseAuth, length_newLeasePart] <;> decide

theorem valid_issueLocked {cfg : Config} {r : LeaseRegistry} {now now' : Int} {acq : Acquisition}
    {url : URL} {idBytes secretBytes : LeaseBytes} {ops : List LeaseOp} (hr : BuiltFrom cfg r)
    (hops : ∀ op ∈ ops, op.Spares cfg (newLeasePart idBytes) (GoTime.add now r.ttl))
    (hlive : now' < GoTime.add now r.ttl) :
    (ops.foldl LeaseRegistry.apply (r.issueLocked now (newLeasePart idBytes)
      (newLeasePart secretBytes) acq url).2).valid now' (leaseAuth idBytes secretBytes) = true := by
  have hheld : (ops.foldl LeaseRegistry.apply (r.issueLocked now (newLeasePart idBytes)
      (newLeasePart secretBytes) acq url).2).leases.lookup (newLeasePart idBytes) = _ :=
    lookup_issueLocked_of_spares hr.ttl hops
  rw [LeaseRegistry.valid, LeaseRegistry.lookupBytes, leaseAuth, Bytes.text?_utf8]
  exact Option.isSome_of_eq_some (LeaseRegistry.lookup_eq_some_iff.mpr ⟨hheld, hlive, rfl⟩)

/-- Whoever has the SOCKS5 URL of a lease is let through for as long as the lease lives: the URL gives
the credentials, the gateway knows them, and it dials with them what it was asked for. -/
theorem lease_session {cfg : Config} {r r' : LeaseRegistry} {now now' : Int}
    {draw : LeaseRegistry.Draw} {tunnel : Option Tunnel} {pool : String} {lease : ProxyLease}
    {host : List UInt8} {port : Nat} (ops : List LeaseOp) (hr : BuiltFrom cfg r)
    (hissue : r.issue now draw tunnel pool = (.ok lease, r'))
    (hreadable : readable r.socksPublicAddr = true)
    (hops : ∀ op ∈ ops, ∀ id ∈ draw.leaseID, op.Spares cfg (newLeasePart id) lease.expiresAt)
    (hlive : now' < lease.expiresAt) (hfits : Fits host port) :
    ∃ auth : Auth, socksCredentials lease.proxies.socks5 = some (auth.user, auth.password) ∧
      ∀ dialLease,
        let gateway := proxyGateway ((ops.foldl LeaseRegistry.apply r').valid now') dialLease
        let s := start (connect (some auth) host port).run gateway.serveConn.run
        let dest := destination host port
        ∃ n, ∀ turns, (edges Session.step s turns).length ≤ n ∧
          (Stuck Session.step (final s (edges Session.step s turns)) →
            (final s (edges Session.step s turns)).server.events =
              .checked auth true :: dest.names ++ [.dialed (some auth) dest.text] ∧
            ((∃ bound, (final s (edges Session.step s turns)).client.proc = .ret (.ok bound)) ↔
              ∃ bound, dialLease auth dest.text = .ok (some bound))) := by
  obtain ⟨idBytes, secretBytes, t, url, hid, hsecret, hleasable, hlocked⟩ := issue_eq_ok hissue
  obtain ⟨rfl, hregistry⟩ := Prod.mk.inj hlocked
  have hcarries := (carries_leaseURLs idBytes secretBytes .ascii r (GoTime.add now r.ttl)).socks5
  rw [if_pos hreadable] at hcarries
  have hvalid : (ops.foldl LeaseRegistry.apply r').valid now' (leaseAuth idBytes secretBytes) =
      true := by
    rw [← hregistry]
    exact valid_issueLocked hr (fun op hop => hops op hop idBytes hid) hlive
  generalize (ops.foldl LeaseRegistry.apply r').valid now' = valid at hvalid ⊢
  refine ⟨leaseAuth idBytes secretBytes, hcarries, ?_⟩
  intro dialLease gateway s dest
  obtain ⟨n, hn⟩ := (@session_ends gateway valid _ host port rfl rfl
    (fits_leaseAuth idBytes secretBytes) hfits).every_schedule
  refine ⟨n, fun turns => ⟨(hn turns).1, fun hstuck => ?_⟩⟩
  rw [(hn turns).2.2 hstuck]
  obtain ⟨hevents, hconnected, -⟩ := @gatewayEnd_sessionEnd valid dialLease
    (leaseAuth idBytes secretBytes) host port hfits
  rw [hvalid, if_pos rfl] at hevents
  exact ⟨hevents, hconnected.trans ⟨And.right, fun h => ⟨hvalid, h⟩⟩⟩

/-- A lookup with a wrong secret and another lease come between the lease and its use. -/
theorem lease_session_published :
    let cfg := (Schedule.service "proxy.example:1080" "proxy.example:8080").toConfig
    let draw : LeaseRegistry.Draw := ⟨some (.replicate _ 1), some (.replicate _ 2)⟩
    let cell : Tunnel :=
      ⟨"cell", "a.conf", some (Schedule.proxyURL "cell"), "cell:9050", .hot, "de", 0, 0, 0, "", 0, 1⟩
    let ops : List LeaseOp := [.lookup 1 (newLeasePart (.replicate _ 1)) "guess",
      .issue 2 ⟨some (.replicate _ 3), some (.replicate _ 4)⟩ (some cell) "de"]
    let bound : SocketAddr := ⟨[10, 0, 0, 2], 40000, .inl rfl, by decide⟩
    Fits (utf8 "example.com") 443 ∧
      ∃ lease r', (newLeaseRegistry cfg).issue 0 draw (some cell) "de" = (.ok lease, r') ∧
        3 < lease.expiresAt ∧
        ∃ auth : Auth, socksCredentials lease.proxies.socks5 = some (auth.user, auth.password) ∧
          ∀ turns,
            let gateway := proxyGateway ((ops.foldl LeaseRegistry.apply r').valid 3)
              fun _ _ => .ok (some bound)
            let s := start (connect (some auth) (utf8 "example.com") 443).run gateway.serveConn.run
            Stuck Session.step (final s (edges Session.step s turns)) →
              (final s (edges Session.step s turns)).server.events =
                [.checked auth true, .resolved (utf8 "example.com"),
                  .dialed (some auth) (utf8 "example.com:443")] ∧
              ∃ bound, (final s (edges Session.step s turns)).client.proc = .ret (.ok bound) := by
  intro cfg draw cell ops bound
  have hfits : Fits (utf8 "example.com") 443 := ⟨fun _ => by decide, by decide⟩
  obtain ⟨lease, r', hissue⟩ : ∃ lease r',
      (newLeaseRegistry cfg).issue 0 draw (some cell) "de" = (.ok lease, r') := ⟨_, _, rfl⟩
  have hlater : 3 < lease.expiresAt ∧
      ∀ op ∈ ops, ∀ id ∈ draw.leaseID, op.Spares cfg (newLeasePart id) lease.expiresAt := by
    cases hissue
    unfold LeaseOp.Spares
    decide +kernel
  have hdest : (destination (utf8 "example.com") 443).names = [.resolved (utf8 "example.com")] ∧
      (destination (utf8 "example.com") 443).text = utf8 "example.com:443" := by decide +kernel
  have hbuilt : BuiltFrom cfg (newLeaseRegistry cfg) := ⟨rfl, rfl, rfl⟩
  obtain ⟨auth, hauth, hsession⟩ := lease_session ops hbuilt hissue (by decide +kernel) hlater.2
    hlater.1 hfits
  obtain ⟨n, hn⟩ := hsession fun _ _ => .ok (some bound)
  refine ⟨hfits, lease, r', hissue, hlater.1, auth, hauth, fun turns hstuck => ?_⟩
  obtain ⟨hevents, hconnected⟩ := (hn turns).2 hstuck
  rw [hdest.1, hdest.2] at hevents
  exact ⟨hevents, hconnected.mpr ⟨bound, rfl⟩⟩

end Lease

end Pr0xteus.Socks5
