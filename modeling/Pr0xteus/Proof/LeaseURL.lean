import Pr0xteus.Addresses
import Pr0xteus.Lib.UrlRoundTrip
import Pr0xteus.Proof.Registry

/-!
# The URLs of a lease, read back

`Issue` prints a public address that `validatePorts` accepted into a URL. `SplitHostPort` and `Atoi`
let more through than `net/url` reads back: a port with a sign, a host with a byte that would have to
be escaped, a name in brackets. What remains is characterised exactly.
-/

namespace Pr0xteus

open Encoding Net Bytes Fallible

variable {now : Int} {r : LeaseRegistry}

section Tokens

theorem plain_sextet (n : Nat) : (sextet n).toNat < 128 ∧ tokenByte (sextet n).toUInt8 = true := by
  by_cases hn : n < 63
  · have hsmall : ∀ n : Fin 63, (sextet n).toNat < 128 ∧ tokenByte (sextet n).toUInt8 = true := by
      decide
    exact hsmall ⟨n, hn⟩
  · have hlast : sextet n = '_' := by
      rw [sextet, if_neg (by omega), if_neg (by omega), if_neg (by omega), if_neg (by omega)]
    rw [hlast]
    decide

theorem sextet_of_mem_rawURLChars {bytes : List UInt8} {c : Char} (h : c ∈ rawURLChars bytes) :
    ∃ n, c = sextet n := by
  induction bytes using rawURLChars.induct with
  | case1 => cases h
  | case2 a =>
      simp only [rawURLChars, List.mem_cons, List.not_mem_nil, or_false] at h
      obtain h | h := h <;> exact ⟨_, h⟩
  | case3 a b =>
      simp only [rawURLChars, List.mem_cons, List.not_mem_nil, or_false] at h
      obtain h | h | h := h <;> exact ⟨_, h⟩
  | case4 a b c' rest ih =>
      simp only [rawURLChars, List.mem_cons] at h
      obtain h | h | h | h | h := h
      · exact ⟨_, h⟩
      · exact ⟨_, h⟩
      · exact ⟨_, h⟩
      · exact ⟨_, h⟩
      · exact ih h

/-- The credentials of a lease have no byte that a URL would escape or cut at. -/
theorem tokenByte_newLeasePart (bytes : LeaseBytes) :
    ∀ b ∈ utf8 (newLeasePart bytes), tokenByte b = true := by
  have hplain : ∀ c ∈ rawURLChars bytes.toList, c.toNat < 128 ∧ tokenByte c.toUInt8 = true := by
    intro c hc
    obtain ⟨n, rfl⟩ := sextet_of_mem_rawURLChars hc
    exact plain_sextet n
  intro b hb
  rw [newLeasePart, rawURLEncode, utf8_ofList_ascii fun c hc => (hplain c hc).1] at hb
  obtain ⟨c, hc, rfl⟩ := List.mem_map.mp hb
  exact (hplain c hc).2

theorem newLeasePart_ne_empty (bytes : LeaseBytes) : newLeasePart bytes ≠ "" := by
  intro hempty
  have hchars : rawURLChars bytes.toList = [] := by
    simpa [newLeasePart, rawURLEncode] using congrArg String.toList hempty
  have hlength : bytes.toList.length = 32 := bytes.length_toList
  match hlist : bytes.toList with
  | [] => simp [hlist] at hlength
  | [a] => simp [hlist] at hlength
  | [a, b] => simp [hlist] at hlength
  | a :: b :: c :: rest => simp [hlist, rawURLChars] at hchars

end Tokens

section Addressable

/-- A public address that `net/url` reads back: the port is all digits, a plain host has no ASCII byte
to escape but the percent sign, and a host in brackets is an IPv6 address. -/
def addressable (addr : String) : Bool :=
  match splitHostPort (utf8 addr) with
  | none => false
  | some (host, port) =>
      port.all isDigit &&
        if (utf8 addr).head? = some '['.toUInt8 then literalSafe host else host.all hostByte

variable {addr envName : String} {allowEmptyHost : Bool}

theorem split_of_validate (h : validateTCPAddress addr allowEmptyHost envName = .ok ()) :
    ∃ host port, splitHostPort (utf8 addr) = some (host, port) ∧ port ≠ [] ∧
      ∀ b ∈ port, portByte b = true := by
  unfold validateTCPAddress at h
  split at h
  · cases h
  · next host port hsplit =>
      rw [ite_error_eq_ok_iff] at h
      obtain ⟨-, h⟩ := h
      cases hn : atoi port with
      | none => simp [hn] at h
      | some n =>
          have hpos : 0 < n := by
            by_contra hnot
            have hmin : ¬minPort ≤ n := by unfold minPort; omega
            simp [hn, hmin] at h
          exact ⟨host, port, hsplit, portByte_of_atoi hn hpos⟩

theorem parseHost_address (h : validateTCPAddress addr allowEmptyHost envName = .ok ()) :
    parseHost (escapeBytes .host (utf8 addr)) =
      if addressable addr then some (utf8 addr) else none := by
  obtain ⟨host, port, hsplit, -, hport⟩ := split_of_validate h
  generalize hbytes : utf8 addr = bytes at hsplit
  cases addressShape_of_split hsplit with
  | plain hcolon hbracket hhead =>
      have hsafe : addressable addr = (port.all isDigit && host.all hostByte) := by
        rw [addressable, hbytes, hsplit]
        exact congrArg (port.all isDigit && ·) (if_neg hhead)
      rw [hsafe, parseHost_plain hcolon hbracket hport]
  | bracketed hbracket =>
      have hsafe : addressable addr = (port.all isDigit && literalSafe host) := by
        rw [addressable, hbytes, hsplit]
        exact congrArg (port.all isDigit && ·) (if_pos rfl)
      rw [hsafe, parseHost_bracketed hbracket hport]

theorem port_of_addressable (h : validateTCPAddress addr allowEmptyHost envName = .ok ())
    (hsafe : addressable addr = true) (url : ParsedURL) (hhost : url.host = utf8 addr) :
    url.host ≠ [] ∧ url.port ≠ [] := by
  obtain ⟨host, port, hsplit, hne, hport⟩ := split_of_validate h
  have hdigits : port.all isDigit = true := by
    rw [addressable, hsplit, Bool.and_eq_true] at hsafe
    exact hsafe.1
  have hcolon : ':'.toUInt8 ∉ port := fun hb => (shouldEscape_portByte _ (hport _ hb)).2.1 rfl
  have hlast : ∃ before, utf8 addr = before ++ ':'.toUInt8 :: port := by
    generalize utf8 addr = bytes at hsplit ⊢
    cases addressShape_of_split hsplit with
    | plain _ _ _ => exact ⟨host, rfl⟩
    | bracketed _ => exact ⟨'['.toUInt8 :: host ++ [']'.toUInt8], by simp⟩
  obtain ⟨before, hbefore⟩ := hlast
  rw [ParsedURL.port, hhost, hbefore, cutLast_append hcolon]
  exact ⟨by simp, by simpa [hdigits] using hne⟩

end Addressable

/-! A lease stays in the registry until it expires or its identifier is drawn again. -/

section Kept

variable {cfg : Config} {r : LeaseRegistry} {leaseID : String} {record : ProxyLeaseRecord}

/-- A call that is made before the lease expires and does not draw its identifier. -/
def LeaseOp.Spares (cfg : Config) (leaseID : String) (expiresAt : Int) (op : LeaseOp) : Prop :=
  op.now < expiresAt ∧ ∀ i ∈ op.issued cfg, i.leaseID ≠ leaseID

theorem lookup_apply_of_spares {op : LeaseOp} (httl : r.ttl = cfg.proxyLeaseTTLOrDefault)
    (hheld : r.leases.lookup leaseID = some record) (hop : op.Spares cfg leaseID record.expiresAt) :
    (r.apply op).leases.lookup leaseID = some record ∧
      (r.apply op).ttl = cfg.proxyLeaseTTLOrDefault := by
  obtain ⟨hnow, hdistinct⟩ := hop
  cases op with
  | lookup now id secret => exact ⟨LeaseRegistry.lookup_pruneExpiredLocked.mpr ⟨hheld, hnow⟩, httl⟩
  | issue now draw tunnel pool =>
      cases hop : LeaseOp.issued cfg (.issue now draw tunnel pool) with
      | none =>
          obtain ⟨err, herr⟩ := issue_of_not_issued (r := r) hop
          rw [LeaseRegistry.apply, herr]
          exact ⟨hheld, httl⟩
      | some i =>
          rw [LeaseRegistry.apply, (issue_of_issued httl hop).1]
          refine ⟨LeaseRegistry.lookup_insertLocked.mpr ?_, httl⟩
          rw [if_neg (Ne.symm (hdistinct i hop))]
          exact ⟨hheld, hnow⟩

theorem lookup_replay_of_spares {ops : List LeaseOp} (httl : r.ttl = cfg.proxyLeaseTTLOrDefault)
    (hheld : r.leases.lookup leaseID = some record)
    (hops : ∀ op ∈ ops, op.Spares cfg leaseID record.expiresAt) :
    (ops.foldl LeaseRegistry.apply r).leases.lookup leaseID = some record := by
  induction ops generalizing r with
  | nil => exact hheld
  | cons op ops ih =>
      obtain ⟨hheld', httl'⟩ := lookup_apply_of_spares httl hheld (hops op List.mem_cons_self)
      exact ih httl' hheld' fun op' hop' => hops op' (List.mem_cons_of_mem _ hop')

/-- A lease stays in the registry through calls that spare it. -/
theorem lookup_issueLocked_of_spares {ops : List LeaseOp} {secret : String} {acq : Acquisition}
    {url : URL} (httl : r.ttl = cfg.proxyLeaseTTLOrDefault)
    (hops : ∀ op ∈ ops, op.Spares cfg leaseID (GoTime.add now r.ttl)) :
    (ops.foldl LeaseRegistry.apply (r.issueLocked now leaseID secret acq url).2).leases.lookup
        leaseID =
      some (leaseRecord acq url secret (GoTime.add now r.ttl)) := by
  let record := leaseRecord acq url secret (GoTime.add now r.ttl)
  have hinserted : (r.insertLocked now leaseID record).leases.lookup leaseID = some record := by
    rw [LeaseRegistry.lookup_insertLocked, if_pos rfl]
  have hinsertedTTL : (r.insertLocked now leaseID record).ttl = cfg.proxyLeaseTTLOrDefault := httl
  exact lookup_replay_of_spares hinsertedTTL hinserted hops

end Kept

/-- `net/url` reads the text as a URL of this scheme, host and credentials, and nothing else. -/
def ParsesTo (text scheme addr leaseID secret : String) : Prop :=
  parse (utf8 text) = some
    { scheme := utf8 scheme
      user := some ⟨utf8 leaseID, some (utf8 secret)⟩
      host := utf8 addr }

/-- A registry as `newLeaseRegistry` sets it up, with any leases in it. -/
structure BuiltFrom (cfg : Config) (r : LeaseRegistry) : Prop where
  socksPublicAddr : r.socksPublicAddr = cfg.socksPublicAddrOrDefault
  httpProxyPublicAddr : r.httpProxyPublicAddr = cfg.httpProxyPublicAddrOrDefault
  ttl : r.ttl = cfg.proxyLeaseTTLOrDefault

/-- Every lease that is issued has URLs that are read back as they were printed, and while it lives
its SOCKS5 URL excludes the cell it was issued for. -/
def RoundTrips (cfg : Config) : Prop :=
  ∀ r now draw tunnel pool lease r', BuiltFrom cfg r →
    r.issue now draw tunnel pool = (.ok lease, r') →
      ∃ idBytes secretBytes url, draw.leaseID = some idBytes ∧ draw.secret = some secretBytes ∧
        tunnel.bind Tunnel.proxyURL = some url ∧
        ParsesTo lease.proxies.socks5 proxySchemeSOCKS5 cfg.socksPublicAddr (newLeasePart idBytes)
          (newLeasePart secretBytes) ∧
        ParsesTo lease.proxies.http proxySchemeHTTP cfg.httpProxyPublicAddr (newLeasePart idBytes)
          (newLeasePart secretBytes) ∧
        ∀ (ops : List LeaseOp) (now' : Int),
          (∀ op ∈ ops, op.Spares cfg (newLeasePart idBytes) lease.expiresAt) → now' < lease.expiresAt →
            (resolveExcludedProxy (ops.foldl LeaseRegistry.apply r') now' lease.proxies.socks5).1 =
              .ok (.leased url)

section Printed

variable {scheme addr envName : String} {allowEmptyHost : Bool} (idBytes secretBytes : LeaseBytes)

theorem parseURL_lease (viaRequest : Bool) (hscheme : isPlainScheme (utf8 scheme) = true)
    (h : validateTCPAddress addr allowEmptyHost envName = .ok ()) :
    parseURL viaRequest (utf8 (URL.mk scheme
        (some ⟨newLeasePart idBytes, some (newLeasePart secretBytes)⟩) addr).text) =
      if addressable addr then
        some
          { scheme := utf8 scheme
            user := some ⟨utf8 (newLeasePart idBytes), some (utf8 (newLeasePart secretBytes))⟩
            host := utf8 addr }
      else none := by
  obtain ⟨hparse, -⟩ := parseURL_text viaRequest addr hscheme (newLeasePart_ne_empty idBytes)
    (tokenByte_newLeasePart idBytes) (tokenByte_newLeasePart secretBytes)
  rw [hparse, parseHost_address h]
  split <;> rfl

theorem parsesTo_iff (hscheme : isPlainScheme (utf8 scheme) = true)
    (h : validateTCPAddress addr allowEmptyHost envName = .ok ()) :
    ParsesTo (URL.mk scheme (some ⟨newLeasePart idBytes, some (newLeasePart secretBytes)⟩) addr).text
        scheme addr (newLeasePart idBytes) (newLeasePart secretBytes) ↔
      addressable addr = true := by
  obtain ⟨-, hfragment⟩ := parseURL_text false addr hscheme (newLeasePart_ne_empty idBytes)
    (tokenByte_newLeasePart idBytes) (tokenByte_newLeasePart secretBytes)
  rw [ParsesTo, parse_eq_parseURL hfragment, parseURL_lease idBytes secretBytes false hscheme h]
  split
  · next hsafe => simp [hsafe]
  · next hsafe => simp [hsafe]

theorem resolve_lease {record : ProxyLeaseRecord}
    (h : validateTCPAddress addr allowEmptyHost envName = .ok ()) (hsafe : addressable addr = true)
    (hheld : r.leases.lookup (newLeasePart idBytes) = some record) (hlive : now < record.expiresAt)
    (hdigest : record.secretDigest = secretDigest (newLeasePart secretBytes)) :
    (resolveExcludedProxy r now (URL.mk proxySchemeSOCKS5
        (some ⟨newLeasePart idBytes, some (newLeasePart secretBytes)⟩) addr).text).1 =
      .ok (.leased record.internalURL) := by
  have hparse := parseURL_lease idBytes secretBytes true
    (show isPlainScheme (utf8 proxySchemeSOCKS5) = true by decide) h
  rw [if_pos hsafe] at hparse
  have hfound : (r.lookupBytes now (utf8 (newLeasePart idBytes))
      (utf8 (newLeasePart secretBytes))).1 = some record := by
    rw [LeaseRegistry.lookupBytes, text?_utf8]
    exact LeaseRegistry.lookup_eq_some_iff.mpr ⟨hheld, hlive, hdigest⟩
  have hparts := port_of_addressable h hsafe
    { scheme := utf8 proxySchemeSOCKS5
      user := some ⟨utf8 (newLeasePart idBytes), some (utf8 (newLeasePart secretBytes))⟩
      host := utf8 addr } rfl
  rw [resolveExcludedProxy, parseRequestURI, hparse]
  dsimp only
  rw [if_neg (by simpa using hparts)]
  generalize r.lookupBytes now _ _ = result at hfound
  obtain ⟨found, r'⟩ := result
  obtain rfl : found = some record := hfound
  rfl

end Printed

theorem proxyURL_of_leasable {tunnel : Option Tunnel} {pool : String} {t : Tunnel} {url : URL}
    (h : leasable tunnel pool = .ok (t, url)) : tunnel = some t ∧ t.proxyURL = some url := by
  cases tunnel with
  | none => cases h
  | some u =>
      simp only [leasable] at h
      split at h
      · cases h
      · next url' hurl =>
          rw [ite_error_eq_ok_iff] at h
          obtain ⟨-, hpair⟩ := h
          cases hpair
          exact ⟨rfl, hurl⟩

theorem issue_eq_ok {r r' : LeaseRegistry} {draw : LeaseRegistry.Draw} {tunnel : Option Tunnel}
    {pool : String} {lease : ProxyLease} (h : r.issue now draw tunnel pool = (.ok lease, r')) :
    ∃ idBytes secretBytes t url, draw.leaseID = some idBytes ∧ draw.secret = some secretBytes ∧
      leasable tunnel pool = .ok (t, url) ∧
      r.issueLocked now (newLeasePart idBytes) (newLeasePart secretBytes) ⟨t, pool⟩ url =
        (lease, r') := by
  unfold LeaseRegistry.issue at h
  split at h
  · cases h
  · next t url hleasable =>
      split at h
      · cases h
      · next idBytes hid =>
          split at h
          · cases h
          · next secretBytes hsecret =>
              cases h
              exact ⟨idBytes, secretBytes, t, url, hid, hsecret, hleasable, rfl⟩

theorem addresses_of_validatePorts {cfg : ServiceConfig} (h : cfg.validatePorts = .ok ()) :
    validateTCPAddress cfg.socksPublicAddr false "TUNNEL_POOL_SOCKS_PUBLIC_ADDR" = .ok () ∧
      validateTCPAddress cfg.httpProxyPublicAddr false "TUNNEL_POOL_HTTP_PROXY_PUBLIC_ADDR" =
        .ok () := by
  simp only [ServiceConfig.validatePorts, ServiceConfig.validateProxyAddresses,
    bind_eq_ok_iff] at h
  obtain ⟨_, ⟨_, -, _, hsocks, _, -, hhttp⟩, -⟩ := h
  exact ⟨hsocks, hhttp⟩

theorem ne_empty_of_validate {addr envName : String} {allowEmptyHost : Bool}
    (h : validateTCPAddress addr allowEmptyHost envName = .ok ()) : addr ≠ "" := by
  rintro rfl
  cases h

theorem BuiltFrom.addresses {cfg : ServiceConfig} (hr : BuiltFrom cfg.toConfig r)
    (h : cfg.validatePorts = .ok ()) :
    r.socksPublicAddr = cfg.socksPublicAddr ∧ r.httpProxyPublicAddr = cfg.httpProxyPublicAddr := by
  obtain ⟨hsocks, hhttp⟩ := addresses_of_validatePorts h
  rw [hr.socksPublicAddr, hr.httpProxyPublicAddr, Config.socksPublicAddrOrDefault,
    Config.httpProxyPublicAddrOrDefault, if_pos (ne_empty_of_validate hsocks),
    if_pos (ne_empty_of_validate hhttp)]
  exact ⟨rfl, rfl⟩

/-- In particular the URLs of a first lease are read back. -/
theorem RoundTrips.parses {cfg : Config} (h : RoundTrips cfg) (part : LeaseBytes) :
    let urls := (newLeaseRegistry cfg).leaseURLs (newLeasePart part) (newLeasePart part)
    ParsesTo urls.socks5 proxySchemeSOCKS5 cfg.socksPublicAddr (newLeasePart part)
        (newLeasePart part) ∧
      ParsesTo urls.http proxySchemeHTTP cfg.httpProxyPublicAddr (newLeasePart part)
        (newLeasePart part) := by
  let tunnel := readyTunnel ⟨"de", "a.conf"⟩ "x" "x:1080" "x:9050" 0
  obtain ⟨idBytes, secretBytes, url, hid, hsecret, -, hsocks, hhttp, -⟩ :=
    h (newLeaseRegistry cfg) 0 ⟨some part, some part⟩ (some tunnel) "de" _ _ ⟨rfl, rfl, rfl⟩ rfl
  obtain rfl : part = idBytes := Option.some.inj hid
  obtain rfl : part = secretBytes := Option.some.inj hsecret
  exact ⟨hsocks, hhttp⟩

/-- The URLs of a configuration that `validatePorts` accepts make the round trip exactly when both of
its public addresses are ones that `net/url` reads back. -/
theorem roundTrips_iff_addressable (cfg : ServiceConfig) (haccepted : cfg.validatePorts = .ok ()) :
    RoundTrips cfg.toConfig ↔
      addressable cfg.socksPublicAddr = true ∧ addressable cfg.httpProxyPublicAddr = true := by
  obtain ⟨hsocks, hhttp⟩ := addresses_of_validatePorts haccepted
  have hsocksScheme : isPlainScheme (utf8 proxySchemeSOCKS5) = true := by decide
  have hhttpScheme : isPlainScheme (utf8 proxySchemeHTTP) = true := by decide
  constructor
  · intro htrips
    let part : LeaseBytes := .replicate _ 0
    obtain ⟨hsocksParses, hhttpParses⟩ := htrips.parses part
    obtain ⟨hsocksAddr, hhttpAddr⟩ :=
      BuiltFrom.addresses (r := newLeaseRegistry cfg.toConfig) ⟨rfl, rfl, rfl⟩ haccepted
    constructor
    · simp only [LeaseRegistry.leaseURLs, hsocksAddr] at hsocksParses
      exact (parsesTo_iff part part hsocksScheme hsocks).mp hsocksParses
    · simp only [LeaseRegistry.leaseURLs, hhttpAddr] at hhttpParses
      exact (parsesTo_iff part part hhttpScheme hhttp).mp hhttpParses
  · rintro ⟨hsafeSocks, hsafeHttp⟩ r now draw tunnel pool lease r' hr hissue
    obtain ⟨hsocksAddr, hhttpAddr⟩ := hr.addresses haccepted
    obtain ⟨idBytes, secretBytes, t, url, hid, hsecret, hleasable, hlocked⟩ := issue_eq_ok hissue
    obtain ⟨rfl, hurl⟩ := proxyURL_of_leasable hleasable
    obtain ⟨rfl, rfl⟩ := Prod.mk.inj hlocked
    refine ⟨idBytes, secretBytes, url, hid, hsecret, hurl, ?_, ?_, fun ops now' hops hlive => ?_⟩
    · simp only [LeaseRegistry.leaseURLs, hsocksAddr]
      exact (parsesTo_iff idBytes secretBytes hsocksScheme hsocks).mpr hsafeSocks
    · simp only [LeaseRegistry.leaseURLs, hhttpAddr]
      exact (parsesTo_iff idBytes secretBytes hhttpScheme hhttp).mpr hsafeHttp
    · simp only [LeaseRegistry.leaseURLs, hsocksAddr]
      exact resolve_lease idBytes secretBytes hsocks hsafeSocks
        (lookup_issueLocked_of_spares hr.ttl hops) hlive rfl

/-- A configuration that differs from the usual one in its public addresses. -/
def Schedule.service (socksPublicAddr httpProxyPublicAddr : String) : ServiceConfig :=
  { Schedule.setup.cfg with
    socksPublicAddr := socksPublicAddr
    httpProxyPublicAddr := httpProxyPublicAddr
    proxyLeaseTTL := 900 * GoTime.second
    socksAddr := ":1080"
    httpProxyAddr := ":8080"
    cellSocksPort := 1080
    cellControlPort := 9050 }

theorem roundTrips_iff_addressable_literal :
    let cfg := Schedule.service "[fe80::1%eth0]:1080" "proxy.example:8080"
    cfg.validatePorts = .ok () ∧ RoundTrips cfg.toConfig := by
  intro cfg
  have haccepted : cfg.validatePorts = .ok () := by decide +kernel
  exact ⟨haccepted, (roundTrips_iff_addressable cfg haccepted).mpr (by decide +kernel)⟩

/-- A port with a sign is accepted, and the URLs printed with it are not read back. -/
theorem not_roundTrips :
    let cfg := Schedule.service "proxy.example:+1080" "proxy.example:8080"
    cfg.validatePorts = .ok () ∧ ¬RoundTrips cfg.toConfig := by
  intro cfg
  refine ⟨by decide +kernel, fun htrips => ?_⟩
  let part : LeaseBytes := .replicate _ 0
  obtain ⟨hparses, -⟩ := htrips.parses part
  have hnone : parse (utf8 ((newLeaseRegistry cfg.toConfig).leaseURLs (newLeasePart part)
      (newLeasePart part)).socks5) = none := by
    decide +kernel
  exact absurd (hparses.symm.trans hnone) (Option.some_ne_none _)

end Pr0xteus
