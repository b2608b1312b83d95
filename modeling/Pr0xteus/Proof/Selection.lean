import Pr0xteus.Api

/-!
# The country or the pool

The decoder of `POST /v1/proxies` accepts a request if one of its country and its pool is more than
white space. The dispatch asks whether the pool is the empty string.
-/

namespace Pr0xteus

open Encoding Text

/-- The calls by which a handler got, or asked for, a cell. -/
def acquireCalls (events : List ApiEvent) : List AcquireCall :=
  events.filterMap fun event => match event with
    | .acquire call _ => some call
    | _ => none

/-- A call by what the request gives: its country where only that is not blank, its pool where only
that is not. -/
def ProxyRequest.AcquiredBy (request : ProxyRequest) : AcquireCall → Prop
  | .forCountry country _ fallbackOK =>
      request.hasCountry = true ∧ request.hasPool = false ∧ country = request.country ∧
        fallbackOK = request.fallbackOK
  | .forPool poolName _ fallbackOK =>
      request.hasPool = true ∧ request.hasCountry = false ∧ poolName = request.pool ∧
        fallbackOK = request.fallbackOK

instance (request : ProxyRequest) (call : AcquireCall) : Decidable (request.AcquiredBy call) :=
  match call with
  | .forCountry country _ fallbackOK =>
      inferInstanceAs (Decidable (request.hasCountry = true ∧ request.hasPool = false ∧
        country = request.country ∧ fallbackOK = request.fallbackOK))
  | .forPool poolName _ fallbackOK =>
      inferInstanceAs (Decidable (request.hasPool = true ∧ request.hasCountry = false ∧
        poolName = request.pool ∧ fallbackOK = request.fallbackOK))

theorem decodeProxyRequest_eq_ok_iff {r : HttpRequest} {request : ProxyRequest} :
    decodeProxyRequest r = .ok request ↔
      hasJSONContentType r = true ∧ ProxyRequest.decode r.body = some request ∧
        request.hasCountry ≠ request.hasPool ∧
        (request.hasCountry = true → isCountryCode request.country = true) := by
  unfold decodeProxyRequest
  cases hjson : hasJSONContentType r with
  | false => simp
  | true =>
      cases hdecode : ProxyRequest.decode r.body with
      | none => simp
      | some decoded =>
          by_cases hsame : decoded.hasCountry = decoded.hasPool
          · simp only [hsame, Bool.not_true, Bool.false_eq_true, if_false, if_true, true_and]
            refine ⟨nofun, fun ⟨hdecoded, hdiffer, _⟩ => ?_⟩
            exact absurd (Option.some.inj hdecoded ▸ hsame) hdiffer
          · by_cases hcode : (decoded.hasCountry && !isCountryCode decoded.country) = true
            · simp only [hsame, hcode, Bool.not_true, Bool.false_eq_true, if_false, if_true, true_and]
              refine ⟨nofun, fun ⟨hdecoded, _, hcountry⟩ => ?_⟩
              rw [← Option.some.inj hdecoded] at hcountry
              simp only [Bool.and_eq_true, Bool.not_eq_true'] at hcode
              rw [hcountry hcode.1] at hcode
              cases hcode.2
            · simp only [hsame, hcode, Bool.not_true, Bool.false_eq_true, if_false, true_and,
                Except.ok.injEq, Option.some.injEq]
              refine ⟨?_, And.left⟩
              rintro rfl
              simpa [hsame] using hcode

section Dispatch

variable {mgr : ManagerAnswers} {r : HttpRequest} {request : ProxyRequest}
  {excludeProxy : Option ExcludedProxy}

/-- A request that is accepted, and whose excluded proxy is known, is one call to the manager. -/
theorem acquireCalls_handleProxy (hdecode : decodeProxyRequest r = .ok request)
    (hexclude : APIServer.parseExcludedProxy mgr request.excludeProxy = .ok excludeProxy) :
    acquireCalls (APIServer.handleProxy mgr r) =
      [APIServer.acquire request.country request.pool excludeProxy request.fallbackOK] := by
  unfold APIServer.handleProxy
  rw [hdecode]
  dsimp only
  rw [hexclude]
  dsimp only
  cases mgr.acquire
      (APIServer.acquire request.country request.pool excludeProxy request.fallbackOK) with
  | error err => rfl
  | ok acq =>
      dsimp only
      cases mgr.issueLease acq <;> rfl

theorem acquiredBy_acquire_iff (hone : request.hasCountry ≠ request.hasPool) :
    request.AcquiredBy
        (APIServer.acquire request.country request.pool excludeProxy request.fallbackOK) ↔
      request.hasPool = true ∨ request.pool = "" := by
  unfold APIServer.acquire
  by_cases hempty : request.pool = ""
  · have hblank : request.hasPool = false := by
      rw [ProxyRequest.hasPool, hempty]
      decide
    have hcountry : request.hasCountry = true := by
      simpa [hblank] using hone
    simp [hempty, ProxyRequest.AcquiredBy, hblank, hcountry]
  · cases hpool : request.hasPool with
    | false => simp [hempty, ProxyRequest.AcquiredBy, hpool]
    | true =>
        have hcountry : request.hasCountry = false := by
          simpa [hpool] using hone
        simp [hempty, ProxyRequest.AcquiredBy, hpool, hcountry]

end Dispatch

/-- **The selection of an accepted request.** Exactly one of its country and its pool is not blank.
The handler acquires by that one exactly when the pool is not blank or is empty altogether. -/
theorem selection_of_decodeProxyRequest (r : HttpRequest) (request : ProxyRequest)
    (hdecode : decodeProxyRequest r = .ok request) :
    (request.hasCountry ^^ request.hasPool) = true ∧
      ∀ mgr excludeProxy,
        APIServer.parseExcludedProxy mgr request.excludeProxy = .ok excludeProxy →
        ∃ call, acquireCalls (APIServer.handleProxy mgr r) = [call] ∧
          (request.AcquiredBy call ↔ request.hasPool = true ∨ request.pool = "") := by
  obtain ⟨-, -, hone, -⟩ := decodeProxyRequest_eq_ok_iff.mp hdecode
  refine ⟨by simpa using hone, fun mgr excludeProxy hexclude => ?_⟩
  exact ⟨_, acquireCalls_handleProxy hdecode hexclude, acquiredBy_acquire_iff hone⟩

def coldManager : ManagerAnswers where
  resolveExcludedProxy := fun _ => .error ⟨.invalidCountry, "invalid excluded proxy URL"⟩
  acquire := fun _ => .error (some .poolUnavailable)
  issueLease := fun _ => .error (.manager (unknownPool ""))

theorem selection_of_decodeProxyRequest_country :
    let r : HttpRequest := ⟨some "application/json", utf8 "\x7b\"country\":\" us\"\x7d"⟩
    let request : ProxyRequest := ⟨" us", "", "", false⟩
    decodeProxyRequest r = .ok request ∧
      ∃ call, acquireCalls (APIServer.handleProxy coldManager r) = [call] ∧
        request.AcquiredBy call := by
  intro r request
  have hdecode : decodeProxyRequest r = .ok request :=
    decodeProxyRequest_eq_ok_iff.mpr (by decide +kernel)
  obtain ⟨-, hcalls⟩ := selection_of_decodeProxyRequest r request hdecode
  obtain ⟨call, hcall, hiff⟩ := hcalls coldManager none rfl
  exact ⟨hdecode, call, hcall, hiff.mpr (.inr rfl)⟩

/-- The request `\x7b"country":"US","pool":" "\x7d` is accepted for its country, and goes to the pool
that is called by one blank. -/
theorem not_acquiredBy_blank_pool :
    let r : HttpRequest :=
      ⟨some "application/json", utf8 "\x7b\"country\":\"US\",\"pool\":\" \"\x7d"⟩
    ¬∀ request, decodeProxyRequest r = .ok request →
      ∀ call ∈ acquireCalls (APIServer.handleProxy coldManager r), request.AcquiredBy call := by
  intro r hacquired
  have hdecode : decodeProxyRequest r = .ok ⟨"US", " ", "", false⟩ :=
    decodeProxyRequest_eq_ok_iff.mpr (by decide +kernel)
  have hcalls : acquireCalls (APIServer.handleProxy coldManager r) = _ :=
    acquireCalls_handleProxy hdecode rfl
  have hby := hacquired _ hdecode _ (by rw [hcalls]; exact List.mem_singleton_self _)
  revert hby
  decide

end Pr0xteus
