import Pr0xteus.Client
import Pr0xteus.HttpProxy
import Pr0xteus.Proof.LeaseURL

/-!
# The credentials of a lease, by either protocol

A lease is handed out as two URLs. An HTTP client sends the credentials of the one in base64, and the
gateway reads them from the header; a SOCKS5 client takes those of the other as they are. Neither way
changes a byte, so both select the record that `Issue` stored.
-/

namespace Pr0xteus

open Encoding Bytes Utf8

section Basic

variable {fold : CaseFold} {header : Header} {scheme username password : List UInt8}

theorem Header.get_set (header : Header) (name : String) (value : List UInt8) :
    (header.set name value).get name = value := by
  rw [Header.get, Header.set, AList.lookup_insert]
  rfl

/-- The bytes that a lower-case letter stands for, in either case. -/
theorem byte_of_lowerByte {b : UInt8} (h : lowerByte b ∈ utf8 "basic") :
    b < 0x80 ∧ b ≠ ' '.toUInt8 ∧
      (Char.ofNat b.toNat).toLower = Char.ofNat (lowerByte b).toNat := by
  revert h b
  apply forall_byte
  decide +kernel

theorem equalFold_basic (fold : CaseFold) (hscheme : scheme.map lowerByte = utf8 "basic") :
    equalFold fold scheme (utf8 httpProxyBasicScheme) = true ∧ ' '.toUInt8 ∉ scheme := by
  have hbyte : ∀ b ∈ scheme, b < 0x80 ∧ b ≠ ' '.toUInt8 ∧
      (Char.ofNat b.toNat).toLower = Char.ofNat (lowerByte b).toNat := by
    intro b hb
    apply byte_of_lowerByte
    rw [← hscheme]
    exact List.mem_map_of_mem hb
  constructor
  · rw [equalFold_ascii fold (fun b hb => (hbyte b hb).1) (by decide +kernel)]
    calc scheme.map (fun b => (Char.ofNat b.toNat).toLower)
        = scheme.map (fun b => Char.ofNat (lowerByte b).toNat) :=
          List.map_congr_left fun b hb => (hbyte b hb).2.2
      _ = (scheme.map lowerByte).map fun b => Char.ofNat b.toNat := by
          rw [List.map_map]
          rfl
      _ = (utf8 httpProxyBasicScheme).map fun b => (Char.ofNat b.toNat).toLower := by
          rw [hscheme]
          decide +kernel
  · intro hblank
    exact (hbyte _ hblank).2.1 rfl

theorem proxyBasicCredentials_encode (hscheme : scheme.map lowerByte = utf8 "basic")
    (husername : username ≠ []) (hcolon : ':'.toUInt8 ∉ username) (hpassword : password ≠ [])
    (hheader : header.get httpProxyAuthHeader =
      scheme ++ ' '.toUInt8 :: Base64.encode (username ++ ':'.toUInt8 :: password)) :
    proxyBasicCredentials fold header = some (username, password) := by
  obtain ⟨hfold, hblank⟩ := equalFold_basic fold hscheme
  have hencoded : Base64.encode (username ++ ':'.toUInt8 :: password) ≠ [] :=
    Base64.encode_ne_nil (by simp)
  rw [proxyBasicCredentials, hheader, cut_append hblank]
  simp [hfold, hencoded, Base64.decode_encode, cut_append hcolon, husername, hpassword]

theorem decode_of_proxyBasicCredentials
    (h : proxyBasicCredentials fold header = some (username, password)) :
    ∃ scheme payload, header.get httpProxyAuthHeader = scheme ++ ' '.toUInt8 :: payload ∧
      equalFold fold scheme (utf8 httpProxyBasicScheme) = true ∧
      Base64.decode payload = some (username ++ ':'.toUInt8 :: password) := by
  unfold proxyBasicCredentials at h
  split at h
  · cases h
  · next scheme encoded hcut =>
      split at h
      · cases h
      · next haccepted =>
          rw [Bool.or_eq_true, not_or, Bool.not_eq_true', Bool.not_eq_false] at haccepted
          split at h
          · cases h
          · next decoded hdecoded =>
              split at h
              · cases h
              · next username' password' hparts =>
                  split at h
                  · cases h
                  · cases h
                    refine ⟨scheme, encoded, eq_append_of_cut hcut, haccepted.1, ?_⟩
                    rw [hdecoded, eq_append_of_cut hparts]

end Basic

section Lease

/-- What the gateway reads from a request that an HTTP client sends through this proxy URL. -/
def httpCredentials (fold : CaseFold) (request : Header) (proxyURL : String) :
    Option Credentials := do
  let url ← parse (utf8 proxyURL)
  let auth ← proxyAuth url
  proxyBasicCredentials fold (request.set httpProxyAuthHeader auth)

/-- What a SOCKS5 client offers that is given this proxy URL. -/
def socksCredentials (proxyURL : String) : Option Credentials := do
  let url ← parse (utf8 proxyURL)
  ClientLib.socks5Auth url

/-- Whether `net/url` reads a URL with this address as its host at all. -/
def readable (addr : String) : Bool := (parseHost (escapeBytes .host (utf8 addr))).isSome

/-- Both URLs of a lease carry the credentials: whoever reads one of them has exactly these, and has
none only where the public address makes the URL unreadable. -/
structure Carries (fold : CaseFold) (r : LeaseRegistry) (lease : ProxyLease)
    (credentials : Credentials) : Prop where
  http : ∀ request, httpCredentials fold request lease.proxies.http =
    if readable r.httpProxyPublicAddr then some credentials else none
  socks5 : socksCredentials lease.proxies.socks5 =
    if readable r.socksPublicAddr then some credentials else none

variable {scheme addr : String} (idBytes secretBytes : LeaseBytes)

/-- Reading a lease's URL, whatever is then done with its credentials. -/
theorem parse_lease {α : Type} (f : ParsedURL → Option α) (result : Option α)
    (hscheme : isPlainScheme (utf8 scheme) = true)
    (hf : ∀ url : ParsedURL,
      url.user = some ⟨utf8 (newLeasePart idBytes), some (utf8 (newLeasePart secretBytes))⟩ →
        f url = result) :
    (parse (utf8 (URL.mk scheme (some ⟨newLeasePart idBytes, some (newLeasePart secretBytes)⟩)
        addr).text)).bind f = if readable addr then result else none := by
  obtain ⟨hparse, hfragment⟩ := parseURL_text false addr hscheme (newLeasePart_ne_empty idBytes)
    (tokenByte_newLeasePart idBytes) (tokenByte_newLeasePart secretBytes)
  rw [parse_eq_parseURL hfragment, hparse, readable]
  cases parseHost (escapeBytes .host (utf8 addr)) with
  | none => rfl
  | some host => exact hf _ rfl

theorem utf8_newLeasePart_ne_nil (bytes : LeaseBytes) : utf8 (newLeasePart bytes) ≠ [] := by
  intro hempty
  have htext : text? (utf8 (newLeasePart bytes)) = text? (utf8 "") := by rw [hempty]; rfl
  rw [text?_utf8, text?_utf8] at htext
  exact newLeasePart_ne_empty bytes (Option.some.inj htext)

theorem colon_not_mem_newLeasePart (bytes : LeaseBytes) :
    ':'.toUInt8 ∉ utf8 (newLeasePart bytes) := by
  intro hcolon
  have htoken := tokenByte_newLeasePart bytes _ hcolon
  revert htoken
  decide

theorem carries_leaseURLs (fold : CaseFold) (r : LeaseRegistry) (expiresAt : Int) :
    Carries fold r
      ⟨r.leaseURLs (newLeasePart idBytes) (newLeasePart secretBytes), expiresAt⟩
      (utf8 (newLeasePart idBytes), utf8 (newLeasePart secretBytes)) where
  http request := by
    apply parse_lease idBytes secretBytes _ _ (by decide)
    intro url huser
    simp only [proxyAuth, huser, Option.map_some, Option.getD_some, Option.bind_eq_bind,
      Option.bind_some]
    have hcase : (utf8 "Basic").map lowerByte = utf8 "basic" := by decide +kernel
    have hbasic : utf8 "Basic " = utf8 "Basic" ++ [' '.toUInt8] := by decide +kernel
    apply proxyBasicCredentials_encode hcase (utf8_newLeasePart_ne_nil idBytes)
      (colon_not_mem_newLeasePart idBytes) (utf8_newLeasePart_ne_nil secretBytes)
    rw [Header.get_set, hbasic, List.append_assoc, List.singleton_append]
  socks5 := by
    apply parse_lease idBytes secretBytes _ _ (by decide)
    intro url huser
    rw [ClientLib.socks5Auth, huser]
    rfl

end Lease

/-- The gateway reads from the header the credentials that were put there and no others, and the two
URLs of every lease carry the same ones, which select that lease's record for as long as it lives. -/
theorem credentials_agree (fold : CaseFold) :
    (∀ (header : Header) (scheme username password : List UInt8),
      scheme.map lowerByte = utf8 "basic" → username ≠ [] → ':'.toUInt8 ∉ username →
        password ≠ [] →
        header.get httpProxyAuthHeader =
          scheme ++ ' '.toUInt8 :: Base64.encode (username ++ ':'.toUInt8 :: password) →
        proxyBasicCredentials fold header = some (username, password)) ∧
    (∀ (header : Header) (username password : List UInt8),
      proxyBasicCredentials fold header = some (username, password) →
        ∃ scheme payload, header.get httpProxyAuthHeader = scheme ++ ' '.toUInt8 :: payload ∧
          equalFold fold scheme (utf8 httpProxyBasicScheme) = true ∧
          Base64.decode payload = some (username ++ ':'.toUInt8 :: password)) ∧
    ∀ cfg r now draw tunnel pool lease r', BuiltFrom cfg r →
      r.issue now draw tunnel pool = (.ok lease, r') →
        ∃ idBytes secretBytes t url, draw.leaseID = some idBytes ∧ draw.secret = some secretBytes ∧
          leasable tunnel pool = .ok (t, url) ∧
          Carries fold r lease (utf8 (newLeasePart idBytes), utf8 (newLeasePart secretBytes)) ∧
          ∀ (ops : List LeaseOp) (now' : Int),
            (∀ op ∈ ops, op.Spares cfg (newLeasePart idBytes) lease.expiresAt) →
            now' < lease.expiresAt →
              ((ops.foldl LeaseRegistry.apply r').lookupBytes now' (utf8 (newLeasePart idBytes))
                  (utf8 (newLeasePart secretBytes))).1 =
                some (leaseRecord ⟨t, pool⟩ url (newLeasePart secretBytes) lease.expiresAt) := by
  refine ⟨fun header scheme username password => proxyBasicCredentials_encode,
    fun header username password => decode_of_proxyBasicCredentials, ?_⟩
  intro cfg r now draw tunnel pool lease r' hr hissue
  obtain ⟨idBytes, secretBytes, t, url, hid, hsecret, hleasable, hlocked⟩ := issue_eq_ok hissue
  obtain ⟨rfl, rfl⟩ := Prod.mk.inj hlocked
  refine ⟨idBytes, secretBytes, t, url, hid, hsecret, hleasable,
    carries_leaseURLs idBytes secretBytes fold r _, fun ops now' hops hlive => ?_⟩
  rw [LeaseRegistry.lookupBytes, text?_utf8]
  exact LeaseRegistry.lookup_eq_some_iff.mpr
    ⟨lookup_issueLocked_of_spares hr.ttl hops, hlive, rfl⟩

theorem credentials_agree_published :
    let header : Header := Header.set ∅ httpProxyAuthHeader (utf8 "bASIC bGVhc2U6cGE6c3M=")
    let cfg := (Schedule.service "proxy.example:1080" "proxy.example:8080").toConfig
    let draw : LeaseRegistry.Draw := ⟨some (.replicate _ 1), some (.replicate _ 2)⟩
    let cell : Tunnel :=
      ⟨"cell", "a.conf", some (Schedule.proxyURL "cell"), "cell:9050", .hot, "de", 0, 0, 0, "", 0, 1⟩
    let credentials := (utf8 (Schedule.leasePart 1), utf8 (Schedule.leasePart 2))
    proxyBasicCredentials .ascii header = some (utf8 "lease", utf8 "pa:ss") ∧
      (∃ scheme payload, header.get httpProxyAuthHeader = scheme ++ ' '.toUInt8 :: payload ∧
        equalFold .ascii scheme (utf8 httpProxyBasicScheme) = true ∧
        Base64.decode payload = some (utf8 "lease" ++ ':'.toUInt8 :: utf8 "pa:ss")) ∧
      ∃ lease r', (newLeaseRegistry cfg).issue 0 draw (some cell) "de" = (.ok lease, r') ∧
        httpCredentials .ascii ∅ lease.proxies.http = some credentials ∧
        socksCredentials lease.proxies.socks5 = some credentials ∧
        (r'.lookupBytes 0 credentials.1 credentials.2).1.map ProxyLeaseRecord.containerID =
          some "cell" := by
  intro header cfg draw cell credentials
  obtain ⟨hread, hwritten, hlease⟩ := credentials_agree .ascii
  have hheader : proxyBasicCredentials .ascii header = some (utf8 "lease", utf8 "pa:ss") :=
    hread header (utf8 "bASIC") (utf8 "lease") (utf8 "pa:ss") (by decide +kernel)
      (by decide +kernel) (by decide +kernel) (by decide +kernel) (by decide +kernel)
  obtain ⟨lease, r', hissue⟩ : ∃ lease r',
      (newLeaseRegistry cfg).issue 0 draw (some cell) "de" = (.ok lease, r') := ⟨_, _, rfl⟩
  obtain ⟨idBytes, secretBytes, t, url, hid, hsecret, hleasable, hcarries, hselects⟩ :=
    hlease cfg (newLeaseRegistry cfg) 0 draw (some cell) "de" lease r' ⟨rfl, rfl, rfl⟩ hissue
  cases hid
  cases hsecret
  cases hleasable
  have hlive : 0 < lease.expiresAt := by
    cases hissue
    decide +kernel
  refine ⟨hheader, hwritten header _ _ hheader, lease, r', hissue, ?_, ?_, ?_⟩
  · exact (hcarries.http ∅).trans (if_pos (by decide +kernel))
  · exact hcarries.socks5.trans (if_pos (by decide +kernel))
  · have hselected := hselects [] 0 (by simp) hlive
    exact congrArg (Option.map ProxyLeaseRecord.containerID) hselected

end Pr0xteus
