import Pr0xteus.Proof.Credentials
import Pr0xteus.Proof.Selection
import Pr0xteus.Wire

/-!
# Assignments over the wire

What the client library asks for is what the controller decodes, and what the controller answers is
what the client gets. So a client that rotates away from a lease names, in the controller's registry,
the cell that the lease was issued for, though all that it has is a URL it parsed out of JSON.
-/

namespace Pr0xteus

open Encoding Json
open ClientLib (HttpAnswer PoolCall TunnelPoolClient writeError ErrorResponse)

/-! ## The request -/

section Request

variable (call : PoolCall) (spelling : Spelling)

theorem nesting_wireRequest : (call.wireRequest spelling).nesting = 1 := by
  simp [PoolCall.wireRequest, Doc.nesting, nestingMembers_append, nestingMembers_omitEmpty,
    nestingMembers_omitFalse]

/-- The body that the client writes is decoded as what the client asked for. -/
theorem decode_wireRequest :
    ProxyRequest.decode (marshal (call.wireRequest spelling)) =
      if maxRequestBody < (marshal (call.wireRequest spelling)).length then none
      else some ⟨call.country, call.pool, .ofList (Utf8.chars (call.excludedText spelling)),
        call.fallbackOK⟩ := by
  rw [ProxyRequest.decode]
  split_ifs with hlength
  · rfl
  · have hmembers : topMembers (marshal (call.wireRequest spelling)) = some (memberValues _) :=
      topMembers_marshal (by rw [← PoolCall.wireRequest, nesting_wireRequest]; decide)
    have hknown : ∀ member ∈ omitEmpty "country" (utf8 call.country) ++
        omitEmpty "pool" (utf8 call.pool) ++ omitEmpty "excludeProxy" (call.excludedText spelling) ++
        omitFalse "fallbackOk" call.fallbackOK, member.1 ∈ ProxyRequest.fields := by
      intro member hmember
      simp only [List.mem_append] at hmember
      obtain ((h | h) | h) | h := hmember
      · rw [key_of_mem_omitEmpty h]; decide
      · rw [key_of_mem_omitEmpty h]; decide
      · rw [key_of_mem_omitEmpty h]; decide
      · rw [key_of_mem_omitFalse h]; decide
    rw [hmembers, Option.bind_eq_bind, Option.bind_some, onlyFields_memberValues hknown]
    simp (disch := decide) only [stringField, boolField, memberValues_append, List.foldlM_append,
      foldlM_omitEmpty, foldlM_omitFalse]
    simp only [Bool.not_true, Bool.false_eq_true, if_false, String.reduceEq, false_and, true_and,
      Option.bind_eq_bind, Option.bind_some, some_chars]
    rw [Utf8.chars_string, Utf8.chars_string, String.ofList_toList, String.ofList_toList]
    cases call.fallbackOK <;> rfl

theorem trimSpace_of_isCountryCode {country : String} (h : isCountryCode country = true) :
    Text.trimSpace country ≠ "" := by
  intro hempty
  rw [isCountryCode, hempty] at h
  exact absurd h (by decide)

theorem trimSpace_empty : Text.trimSpace "" = "" := by decide

theorem newProxyRequest_eq_ok {t : TunnelPoolClient} {req : ClientLib.ProxyRequest} {call : PoolCall}
    (h : t.newProxyRequest req = .ok call) :
    call.country = (if t.poolID = "" then req.country else "") ∧ call.pool = t.poolID ∧
      call.excludeProxy = req.excludeProxy ∧ call.fallbackOK = req.fallbackOK := by
  rw [TunnelPoolClient.newProxyRequest] at h
  cases hparse : Encoding.parse (utf8 (t.baseURL ++ "/v1/proxies")) with
  | none =>
      rw [hparse] at h
      cases h
  | some url =>
      rw [hparse] at h
      cases h
      exact ⟨rfl, rfl, rfl, rfl⟩

/-- What the controller makes of a client's request: it takes those that fit its limit and name a pool,
or a country where the client has no pool, and reads in them what the client was asked for. -/
theorem decode_of_newProxyRequest (t : TunnelPoolClient) (req : ClientLib.ProxyRequest)
    (hcall : t.newProxyRequest req = .ok call) :
    decodeProxyRequest (call.httpRequest spelling) =
      if maxRequestBody < (call.httpRequest spelling).body.length then
        .error (writeError 400 .validationFailed)
      else if t.poolID = "" then
        if isCountryCode req.country then
          .ok ⟨req.country, "", .ofList (Utf8.chars (call.excludedText spelling)), req.fallbackOK⟩
        else .error (writeError 400 .validationFailed)
      else if Text.trimSpace t.poolID = "" then .error (writeError 400 .validationFailed)
      else .ok ⟨"", t.poolID, .ofList (Utf8.chars (call.excludedText spelling)), req.fallbackOK⟩ := by
  obtain ⟨hcountry, hpool, -, hfallback⟩ := newProxyRequest_eq_ok hcall
  have hcontent : hasJSONContentType (call.httpRequest spelling) = true := rfl
  rw [decodeProxyRequest, hcontent, PoolCall.httpRequest, decode_wireRequest, hcountry, hpool, hfallback]
  simp only [Bool.not_true, Bool.false_eq_true, if_false]
  split_ifs with hlength hdefault hcode hblank
  · rfl
  · have htrimmed := trimSpace_of_isCountryCode hcode
    simp [ProxyRequest.hasCountry, ProxyRequest.hasPool, hdefault, htrimmed, hcode, trimSpace_empty]
  · simp only [ProxyRequest.hasCountry, ProxyRequest.hasPool, hdefault, trimSpace_empty]
    split_ifs <;> simp_all
  · simp [ProxyRequest.hasCountry, ProxyRequest.hasPool, hblank, trimSpace_empty]
  · simp [ProxyRequest.hasCountry, ProxyRequest.hasPool, hblank, trimSpace_empty]

theorem decode_of_newProxyRequest_germany :
    let call : PoolCall := ⟨"http://pr0xteus:8000/v1/proxies", some "Bearer token", "de", "", none, true⟩
    decodeProxyRequest (call.httpRequest {}) = .ok ⟨"de", "", "", true⟩ := by
  intro call
  let t : TunnelPoolClient := ⟨"http://pr0xteus:8000", "", "token"⟩
  have hcall : t.newProxyRequest ⟨"de", none, true⟩ = .ok call := by rfl
  rw [decode_of_newProxyRequest call {} t _ hcall, if_neg (by decide +kernel), if_pos rfl,
    if_pos (by decide +kernel)]
  rfl

end Request

/-! ## The answer -/

section Answer

variable (formatTime : Int → String) (response : ProxyResponse)

theorem nesting_doc : (response.doc formatTime).nesting = 2 := by
  simp [ProxyResponse.doc, ProxyURLs.doc, Doc.nesting, nestingMembers, nestingMembers_append,
    nestingMembers_omitEmpty]

/-- The client gets what the controller answered. -/
theorem parse_response {url : ParsedURL} (hne : response.proxies.socks5 ≠ "")
    (hurl : Encoding.parse (utf8 response.proxies.socks5) = some url) :
    ClientLib.parseTunnelPoolResponse (encode .indented (response.doc formatTime)) =
      .ok { proxyURL := url
            pool := response.pool.toList
            exitCountry := response.exitCountry.toList
            exitIP := response.exitIP.toList } := by
  have hmembers : topMembers (encode .indented (response.doc formatTime)) = some (memberValues _) :=
    topMembers_encode .indented (by rw [← ProxyResponse.doc, nesting_doc]; decide)
  have htext : response.proxies.socks5.toList ≠ [] := by
    simpa using hne
  rw [ClientLib.parseTunnelPoolResponse, hmembers, Option.bind_eq_bind, Option.bind_some]
  simp (disch := decide) only [structField, stringField, memberValues_append, List.foldlM_append,
    memberValues, List.foldlM_cons, List.foldlM_nil, setField_member, foldlM_omitEmpty, ProxyURLs.doc,
    Doc.value, String.reduceEq, if_true, if_false, false_and, true_and, Option.bind_eq_bind,
    Option.pure_def, Option.bind_some, List.nil_append, some_chars]
  simp only [Utf8.chars_string, if_neg htext, String.ofList_toList, hurl]

end Answer

/-! ## Rotation -/

section Rotation

variable {idBytes secretBytes : LeaseBytes} {addr envName : String} {allowEmptyHost : Bool}

/-- The URL that is read from a lease's text has that text again. -/
theorem string_lease {spelling : Spelling} (hspelling : spelling.forceQuery = false) :
    ParsedURL.string
        { scheme := utf8 proxySchemeSOCKS5
          user := some ⟨utf8 (newLeasePart idBytes), some (utf8 (newLeasePart secretBytes))⟩
          host := utf8 addr } spelling =
      utf8 (URL.mk proxySchemeSOCKS5
        (some ⟨newLeasePart idBytes, some (newLeasePart secretBytes)⟩) addr).text := by
  rw [utf8_text (by decide) (newLeasePart_ne_empty idBytes) (tokenByte_newLeasePart idBytes)
    (tokenByte_newLeasePart secretBytes)]
  exact ParsedURL.string_authority (show utf8 proxySchemeSOCKS5 ≠ [] by decide) rfl rfl rfl rfl rfl hspelling
    (utf8_newLeasePart_ne_nil idBytes) (tokenByte_newLeasePart idBytes)
    (tokenByte_newLeasePart secretBytes)

/-- What the client gets of a lease that the controller issues for its call. -/
theorem proxyForCountry_of_serves {t : TunnelPoolClient} {req : ClientLib.ProxyRequest}
    {call : PoolCall} {mgr : ManagerAnswers} {exit : Tunnel → Exit} {formatTime : Int → String}
    {spelling : Spelling} {how : AcquireCall} {acq : Acquisition} {lease : ProxyLease} {url : ParsedURL}
    (hcall : t.newProxyRequest req = .ok call)
    (hserved : APIServer.handleProxy mgr (call.httpRequest spelling) =
      [.acquire how (.ok acq), .assign acq.pool lease, .release acq])
    (hfits : ∀ status body, APIServer.serve mgr exit formatTime spelling call = .responded status body →
      body.length ≤ ClientLib.maxPoolBody)
    (hne : lease.proxies.socks5 ≠ "") (hurl : Encoding.parse (utf8 lease.proxies.socks5) = some url) :
    t.proxyForCountry (APIServer.serve mgr exit formatTime spelling) req =
      .ok { proxyURL := url
            pool := acq.pool.toList
            exitCountry := (exit acq.tunnel).country.toList
            exitIP := (exit acq.tunnel).ip.toList } := by
  have hserve : APIServer.serve mgr exit formatTime spelling call = writeJSON 200 (ProxyResponse.doc
      formatTime ⟨lease.proxies, acq.pool, (exit acq.tunnel).country, (exit acq.tunnel).ip,
        lease.expiresAt⟩) := by
    rw [APIServer.serve, hserved]
    rfl
  have htake := List.take_of_length_le (hfits _ _ hserve)
  rw [TunnelPoolClient.proxyForCountry, hcall]
  simp only [bind, Except.bind, hserve, writeJSON, ClientLib.executeProxyRequest, htake,
    show ClientLib.isSuccess 200 = true from rfl, if_true]
  exact parse_response formatTime _ hne hurl

/-- A client that has a lease from the controller and excludes it, as it does when it retries, excludes
the cell that the lease was issued for: what it sends is decoded as the lease's own text, and that names
the cell's URL for as long as the lease lives. -/
theorem rotation_over_wire {cfg : ServiceConfig} (haccepted : cfg.validatePorts = .ok ())
    (haddr : addressable cfg.socksPublicAddr = true) {r r' : LeaseRegistry} {now : Int}
    {draw : LeaseRegistry.Draw} {acq : Acquisition} {lease : ProxyLease}
    (hr : BuiltFrom cfg.toConfig r)
    (hissue : r.issue now draw (some acq.tunnel) acq.pool = (.ok lease, r'))
    {mgr : ManagerAnswers} {exit : Tunnel → Exit} {formatTime : Int → String} {t : TunnelPoolClient}
    {req : ClientLib.ProxyRequest} {call : PoolCall} {spelling : Spelling} {how : AcquireCall}
    (hcall : t.newProxyRequest req = .ok call)
    (hserved : APIServer.handleProxy mgr (call.httpRequest spelling) =
      [.acquire how (.ok acq), .assign acq.pool lease, .release acq])
    (hfits : ∀ status body, APIServer.serve mgr exit formatTime spelling call = .responded status body →
      body.length ≤ ClientLib.maxPoolBody) :
    ∃ idBytes cellURL response, draw.leaseID = some idBytes ∧ acq.tunnel.proxyURL = some cellURL ∧
      t.proxyForCountry (APIServer.serve mgr exit formatTime spelling) req = .ok response ∧
      response.pool = acq.pool.toList ∧
      ∀ (retry : ClientLib.ProxyRequest) (again : PoolCall) (spelled : Spelling) (decoded : ProxyRequest)
        (ops : List LeaseOp) (later : Int),
        retry.excludeProxy = some response.proxyURL → spelled.forceQuery = false →
        t.newProxyRequest retry = .ok again →
        decodeProxyRequest (again.httpRequest spelled) = .ok decoded →
        (∀ op ∈ ops, op.Spares cfg.toConfig (newLeasePart idBytes) lease.expiresAt) →
        later < lease.expiresAt →
        decoded.excludeProxy = lease.proxies.socks5 ∧
          (resolveExcludedProxy (ops.foldl LeaseRegistry.apply r') later decoded.excludeProxy).1 =
            .ok (.leased cellURL) := by
  obtain ⟨hsocks, -⟩ := addresses_of_validatePorts haccepted
  obtain ⟨hsocksAddr, -⟩ := hr.addresses haccepted
  obtain ⟨idBytes, secretBytes, tunnel, cellURL, hid, hsecret, hleasable, hlocked⟩ := issue_eq_ok hissue
  obtain ⟨htunnel, hcellURL⟩ := proxyURL_of_leasable hleasable
  obtain rfl := Option.some.inj htunnel
  obtain ⟨rfl, rfl⟩ := Prod.mk.inj hlocked
  have htext : (r.leaseURLs (newLeasePart idBytes) (newLeasePart secretBytes)).socks5 =
      (URL.mk proxySchemeSOCKS5
        (some ⟨newLeasePart idBytes, some (newLeasePart secretBytes)⟩) cfg.socksPublicAddr).text := by
    rw [LeaseRegistry.leaseURLs, hsocksAddr]
  have hparses := (parsesTo_iff idBytes secretBytes
    (show isPlainScheme (utf8 proxySchemeSOCKS5) = true by decide) hsocks).mpr haddr
  rw [ParsesTo, ← htext] at hparses
  have hne : (r.leaseURLs (newLeasePart idBytes) (newLeasePart secretBytes)).socks5 ≠ "" := by
    intro hempty
    have huser : (Encoding.parse (utf8 "")).map ParsedURL.user = some none := by decide
    rw [← hempty, hparses] at huser
    cases huser
  refine ⟨idBytes, cellURL, _, hid, hcellURL, proxyForCountry_of_serves hcall hserved hfits hne hparses,
    rfl, ?_⟩
  intro retry again spelled decoded ops later hexclude hspelled hagain hdecoded hops hlive
  obtain ⟨-, -, hcallExclude, -⟩ := newProxyRequest_eq_ok hagain
  have hexcluded : decoded.excludeProxy =
      (r.leaseURLs (newLeasePart idBytes) (newLeasePart secretBytes)).socks5 := by
    have hbody := (decodeProxyRequest_eq_ok_iff.mp hdecoded).2.1
    rw [PoolCall.httpRequest, decode_wireRequest] at hbody
    split_ifs at hbody
    rw [← Option.some.inj hbody, PoolCall.excludedText, hcallExclude, hexclude]
    dsimp only
    rw [string_lease hspelled, Utf8.chars_string, String.ofList_toList, htext]
  refine ⟨hexcluded, ?_⟩
  rw [hexcluded, htext]
  exact resolve_lease idBytes secretBytes hsocks haddr (lookup_issueLocked_of_spares hr.ttl hops) hlive
    rfl

/-- A first assignment for Germany, by a client without a pool, which then asks for another proxy; in
the meantime another lease is issued. -/
theorem rotation_over_wire_germany :
    let cfg := Schedule.service "proxy.example:1080" "proxy.example:8080"
    let part : LeaseBytes := .replicate _ 0
    let acq : Acquisition := ⟨readyTunnel ⟨"de", "a.conf"⟩ "x" "x:1080" "x:9050" 0, "de"⟩
    let r := newLeaseRegistry cfg.toConfig
    let lease : ProxyLease := ⟨r.leaseURLs (newLeasePart part) (newLeasePart part), GoTime.add 0 r.ttl⟩
    let r' := (r.issue 0 ⟨some part, some part⟩ (some acq.tunnel) "de").2
    let mgr : ManagerAnswers :=
      ⟨fun _ => .error ⟨.invalidCountry, ""⟩, fun _ => .ok acq, fun _ => .ok lease⟩
    let t : TunnelPoolClient := ⟨"http://pr0xteus:8000", "", "token"⟩
    let ops : List LeaseOp :=
      [.issue 1 ⟨some (.replicate _ 1), some (.replicate _ 2)⟩ (some acq.tunnel) "de"]
    ∃ response cellURL again decoded,
      t.proxyForCountry (APIServer.serve mgr (fun _ => ⟨"DE", ""⟩) (fun _ => "") {})
        ⟨"de", none, false⟩ = .ok response ∧ response.pool = "de".toList ∧
      acq.tunnel.proxyURL = some cellURL ∧
      t.newProxyRequest ⟨"de", some response.proxyURL, false⟩ = .ok again ∧
      decodeProxyRequest (again.httpRequest {}) = .ok decoded ∧
      decoded.excludeProxy = lease.proxies.socks5 ∧
      (resolveExcludedProxy (ops.foldl LeaseRegistry.apply r') 2 decoded.excludeProxy).1 =
        .ok (.leased cellURL) := by
  intro cfg part acq r lease r' mgr t ops
  let call : PoolCall :=
    ⟨"http://pr0xteus:8000/v1/proxies", some "Bearer token", "de", "", none, false⟩
  have hdecoded : decodeProxyRequest (call.httpRequest {}) = .ok ⟨"de", "", "", false⟩ := by
    refine decodeProxyRequest_eq_ok_iff.mpr ⟨rfl, ?_, by decide, fun _ => by decide⟩
    rw [PoolCall.httpRequest, decode_wireRequest, if_neg (by decide +kernel)]
    rfl
  have hserved : APIServer.handleProxy mgr (call.httpRequest {}) =
      [.acquire (.forCountry "de" none false) (.ok acq), .assign acq.pool lease, .release acq] := by
    rw [APIServer.handleProxy, hdecoded]
    rfl
  have hfits : ∀ status body, APIServer.serve mgr (fun _ => ⟨"DE", ""⟩) (fun _ => "") {} call =
      .responded status body → body.length ≤ ClientLib.maxPoolBody := by
    rw [APIServer.serve, hserved]
    rintro status body hbody
    cases hbody
    decide +kernel
  have haccepted : cfg.validatePorts = .ok () := by decide +kernel
  have hissue : r.issue 0 ⟨some part, some part⟩ (some acq.tunnel) acq.pool = (.ok lease, r') := rfl
  have hcall : t.newProxyRequest ⟨"de", none, false⟩ = .ok call := by rfl
  obtain ⟨idBytes, cellURL, response, hid, hcell, hresponse, hpool, hrotate⟩ :=
    rotation_over_wire haccepted (by decide +kernel) ⟨rfl, rfl, rfl⟩ hissue hcall hserved hfits
  cases hid
  -- what the client has read decides what its next request is
  let again (url : ParsedURL) : PoolCall := { call with excludeProxy := some url }
  have hparse : (Encoding.parse (utf8 lease.proxies.socks5)).any (fun url =>
      (marshal ((again url).wireRequest {})).length ≤ maxRequestBody) = true := by decide +kernel
  obtain ⟨url, hurl, hshort⟩ := (Option.any_eq_true _ _).mp hparse
  have hread := proxyForCountry_of_serves hcall hserved hfits (by decide +kernel) hurl
  cases hresponse.symm.trans hread
  have hagain : decodeProxyRequest ((again url).httpRequest {}) =
      .ok ⟨"de", "", .ofList (Utf8.chars (url.string {})), false⟩ := by
    have hcode : isCountryCode "de" = true := by decide
    refine decodeProxyRequest_eq_ok_iff.mpr ⟨rfl, ?_, ?_, fun _ => hcode⟩
    · rw [PoolCall.httpRequest, decode_wireRequest, if_neg (Nat.not_lt.mpr (of_decide_eq_true hshort))]
      rfl
    · simp [ProxyRequest.hasCountry, ProxyRequest.hasPool, trimSpace_of_isCountryCode hcode,
        trimSpace_empty]
  have hops : ∀ op ∈ ops, op.Spares cfg.toConfig (newLeasePart part) lease.expiresAt := by
    unfold LeaseOp.Spares
    decide +kernel
  exact ⟨_, cellURL, _, _, hresponse, hpool, hcell, rfl, hagain,
    hrotate ⟨"de", some url, false⟩ _ {} _ ops 2 rfl rfl rfl hagain hops (by decide +kernel)⟩

end Rotation

end Pr0xteus
