import Pr0xteus.Client

/-!
# The fallback attempt

The fifth attempt is the one that allows the fallback pool. It is reached behind four errors that
are retried; the control API's answer for an exhausted or unavailable pool is not one of them, and
it comes with the first attempt.
-/

namespace Pr0xteus.ClientLib

open Encoding

variable {err : Err} {left : Nat} {t : TunnelPoolClient}

/-! ## Steps of the loop -/

variable {c : Client} {w : World} {attempt : Nat} {lastProxy : Option ParsedURL}

theorem poolRequest_fallbackOK_of_le (c : Client) (lastProxy : Option ParsedURL)
    (hattempt : attempt ≤ 4) :
    (c.poolRequest lastProxy attempt).fallbackOK = false := by
  have hstrategy : (strategyFor attempt).allowFallback = false := by
    unfold strategyFor
    split
    · rfl
    split
    · rfl
    · rfl
  simp [Client.poolRequest, hstrategy]

theorem tryOnce_of_pool_error
    (hpool : w.pool attempt (c.poolRequest lastProxy attempt) = .error err) :
    c.tryOnce w lastProxy attempt =
      if shouldRetryError err then .retry (.wrap err (utf8 "pool.ProxyForCountry")) none
      else .halt (.wrap err (utf8 "pool.ProxyForCountry")) := by
  rw [Client.tryOnce, hpool]

theorem waitBackoff_eq_ok (hcontext : ∀ n, w.backoff n = none) (n : Nat) :
    waitBackoff w n = .ok () := by
  unfold waitBackoff
  split
  · rfl
  · simp [hcontext n]

theorem attempts_of_retry {lastErr : Option Err} {proxy : Option ParsedURL}
    (hcontext : ∀ n, w.backoff n = none) (htry : c.tryOnce w lastProxy attempt = .retry err proxy) :
    c.attempts w (left + 1) attempt lastProxy lastErr =
      c.attempts w left (attempt + 1) (proxy.or lastProxy) (some err) := by
  rw [Client.attempts, waitBackoff_eq_ok hcontext, htry]
  rfl

theorem attempts_of_halt {lastErr : Option Err} (hcontext : ∀ n, w.backoff n = none)
    (htry : c.tryOnce w lastProxy attempt = .halt err) :
    c.attempts w (left + 1) attempt lastProxy lastErr = .error err := by
  rw [Client.attempts, waitBackoff_eq_ok hcontext, htry]
  rfl

/-- A loop whose pool never answers with a proxy ends with an error. -/
theorem attempts_of_pool_errors (hcontext : ∀ n, w.backoff n = none)
    (hpool : ∀ n req, ∃ err, w.pool n req = .error err) (left : Nat) (lastErr : Option Err) :
    ∃ err, c.attempts w left attempt lastProxy lastErr = .error err := by
  induction left generalizing attempt lastProxy lastErr with
  | zero => exact ⟨_, rfl⟩
  | succ left ih =>
      obtain ⟨err, herr⟩ := hpool attempt (c.poolRequest lastProxy attempt)
      have htry := tryOnce_of_pool_error herr
      split at htry
      · rw [attempts_of_retry hcontext htry]
        exact ih _
      · exact ⟨_, attempts_of_halt hcontext htry⟩

/-- Behind errors that are retried the fifth attempt is made, and a lease of the fallback pool
serves the request. -/
theorem attempts_reach_fallback (hfallback : c.useFallbackPool = true)
    (hcontext : ∀ n, w.backoff n = none) (hrewinds : ∀ call, rewindBody w call = .ok ())
    (hrefused : ∀ n req, req.fallbackOK = false →
      ∃ err, w.pool n req = .error err ∧ shouldRetryError err = true)
    (hleased : ∀ n req, req.fallbackOK = true → ∃ lease, w.pool n req = .ok lease)
    (hupstream : ∀ n proxyURL freshTCP, ∃ status,
      w.upstream n proxyURL freshTCP = .ok status ∧ shouldRetryStatus status = false)
    (hattempt : attempt ≤ 5) (hleft : 6 ≤ attempt + left) (lastErr : Option Err) :
    ∃ resp lease, c.attempts w left attempt lastProxy lastErr = .ok resp ∧
      resp.via = some lease := by
  induction left generalizing attempt lastErr with
  | zero => omega
  | succ left ih =>
      by_cases hearly : attempt ≤ 4
      · obtain ⟨err, herr, hretry⟩ :=
          hrefused attempt _ (poolRequest_fallbackOK_of_le c lastProxy hearly)
        have htry := tryOnce_of_pool_error herr
        rw [if_pos hretry] at htry
        rw [attempts_of_retry hcontext htry]
        exact ih (by omega) (by omega) _
      · obtain rfl : attempt = 5 := by omega
        obtain ⟨lease, hlease⟩ := hleased 5 (c.poolRequest lastProxy 5)
          (by simp [Client.poolRequest, strategyFor, hfallback])
        obtain ⟨status, hstatus, hfinal⟩ :=
          hupstream 5 lease.proxyURL (strategyFor 5).freshTCP
        have hfire : fire w 5 lease (strategyFor 5) = .ok ⟨status, some lease⟩ := by
          simp [fire, hrewinds (.fire 5), hstatus]
        refine ⟨⟨status, some lease⟩, lease, ?_, rfl⟩
        rw [Client.attempts, waitBackoff_eq_ok hcontext, Client.tryOnce, hlease]
        simp [hfire, hfinal, bind, Except.bind]

/-! ## The control API's refusal -/

theorem isPoolExhaustedResponse_serviceUnavailable (status : Nat) (body : List UInt8)
    (hanswer : writeError 503 .serviceUnavailable = .responded status body) :
    isPoolExhaustedResponse status (body.take maxPoolBody) = true := by
  cases hanswer
  decide +kernel

theorem proxyForCountry_of_bad_endpoint (hparse : parse (utf8 (t.baseURL ++ "/v1/proxies")) = none)
    (api : PoolCall → HttpAnswer) (req : ProxyRequest) :
    ∃ err, t.proxyForCountry api req = .error err := by
  simp [TunnelPoolClient.proxyForCountry, TunnelPoolClient.newProxyRequest, hparse, bind,
    Except.bind]

/-- A refusal becomes the error that ends the loop. -/
theorem proxyForCountry_of_refusal {url : ParsedURL}
    (hparse : parse (utf8 (t.baseURL ++ "/v1/proxies")) = some url) {api : PoolCall → HttpAnswer}
    (hrefuses : ∀ call, call.fallbackOK = false → api call = writeError 503 .serviceUnavailable)
    {req : ProxyRequest} (hreq : req.fallbackOK = false) :
    ∃ message, t.proxyForCountry api req = .error (.wrap (.sentinel .poolExhausted) message) := by
  obtain ⟨call, hcall, hfallback⟩ :
      ∃ call, t.newProxyRequest req = .ok call ∧ call.fallbackOK = false := by
    simp [TunnelPoolClient.newProxyRequest, hparse, hreq]
  obtain ⟨body, hanswer⟩ : ∃ body, writeError 503 .serviceUnavailable = .responded 503 body :=
    ⟨_, rfl⟩
  have hexhausted := isPoolExhaustedResponse_serviceUnavailable 503 body hanswer
  rw [TunnelPoolClient.proxyForCountry, hcall]
  simp [bind, Except.bind, hrefuses call hfallback, hanswer, executeProxyRequest, isSuccess,
    hexhausted]

/-! ## A primary pool that is out -/

/-- The client and the control API of a request whose primary pool has nothing to offer while the
fallback pool has: every request without `fallbackOk` is refused, every other one leased, the target
answers, and the context stays open. -/
structure PrimaryOut (c : Client) (t : TunnelPoolClient) (api : Nat → PoolCall → HttpAnswer)
    (w : World) : Prop where
  fallback : c.useFallbackPool = true
  attempts : 5 ≤ c.maxAttempts
  pool : w.pool = fun n req => t.proxyForCountry (api n) req
  refuses : ∀ n call, call.fallbackOK = false →
    ∃ err, (err = .poolExhausted ∨ err = .poolUnavailable) ∧
      api n call = writeAcquireError (some err)
  leases : ∀ n call, call.fallbackOK = true → ∃ status body lease,
    api n call = .responded status body ∧ isSuccess status = true ∧
      parseTunnelPoolResponse (body.take maxPoolBody) = .ok lease
  upstream : ∀ n proxyURL freshTCP, ∃ status,
    w.upstream n proxyURL freshTCP = .ok status ∧ shouldRetryStatus status = false
  rewinds : ∀ call, rewindBody w call = .ok ()
  context : ∀ n, w.backoff n = none

/-- The caller gets a response that came through a lease of the fallback pool. -/
def ReturnsThroughFallback (c : Client) (w : World) : Prop :=
  ∃ resp lease n req, c.dispatch w = .ok resp ∧ resp.via = some lease ∧
    req.fallbackOK = true ∧ w.pool n req = .ok lease

theorem PrimaryOut.viaProxy_error {api : Nat → PoolCall → HttpAnswer} (h : PrimaryOut c t api w) :
    ∃ err, c.viaProxy w = .error err := by
  cases hparse : parse (utf8 (t.baseURL ++ "/v1/proxies")) with
  | none =>
      -- no request leaves the client
      refine attempts_of_pool_errors h.context (fun n req => ?_) _ _
      rw [h.pool]
      exact proxyForCountry_of_bad_endpoint hparse (api n) req
  | some url =>
      have hrefuses : ∀ call, call.fallbackOK = false →
          api 1 call = writeError 503 .serviceUnavailable := by
        intro call hcall
        obtain ⟨err, rfl | rfl, hanswer⟩ := h.refuses 1 call hcall <;> exact hanswer
      have hreq := poolRequest_fallbackOK_of_le c none (show 1 ≤ 4 by decide)
      obtain ⟨message, herr⟩ := proxyForCountry_of_refusal hparse hrefuses hreq
      have htry : c.tryOnce w none 1 = .halt _ :=
        tryOnce_of_pool_error (by rw [h.pool]; exact herr)
      obtain ⟨left, hleft⟩ : ∃ left, c.maxAttempts.toNat = left + 1 :=
        ⟨c.maxAttempts.toNat - 1, by have := h.attempts; omega⟩
      rw [Client.viaProxy, hleft]
      exact ⟨_, attempts_of_halt h.context htry⟩

/-- **The fallback pool is never reached.** A primary pool that is exhausted or unavailable ends the
loop at its first attempt. -/
theorem primary_out_not_through_fallback (c : Client) (t : TunnelPoolClient)
    (api : Nat → PoolCall → HttpAnswer) (w : World) (h : PrimaryOut c t api w) :
    ¬ ReturnsThroughFallback c w ∧ (c.mode = .vpnOnly → ∃ err, c.dispatch w = .error err) := by
  obtain ⟨err, herr⟩ := h.viaProxy_error
  constructor
  · rintro ⟨resp, lease, n, req, hdispatch, hvia, -, -⟩
    unfold Client.dispatch at hdispatch
    split at hdispatch
    · simp only [Client.dispatchPublicFirst, h.rewinds, herr] at hdispatch
      split at hdispatch
      · cases hdispatch
      · split at hdispatch
        · cases hdispatch
        · -- the direct attempt has answered
          cases hdispatch
          cases hvia
    · rw [herr] at hdispatch
      cases hdispatch
  · intro hmode
    exact ⟨err, by rw [Client.dispatch, hmode]; exact herr⟩

def fiveAttempts : Client := ⟨"DE", .vpnOnly, 5, true⟩

def controllerClient : TunnelPoolClient := ⟨"http://pr0xteus:8000", "", ""⟩

def leaseBody : List UInt8 :=
  utf8 "\x7b\"proxies\":\x7b\"socks5\":\"socks5://10.0.0.2:1080\"\x7d,\"pool\":\"nl\"\x7d"

theorem parseTunnelPoolResponse_leaseBody :
    ∃ lease, parseTunnelPoolResponse (leaseBody.take maxPoolBody) = .ok lease := by
  have hok : (parseTunnelPoolResponse (leaseBody.take maxPoolBody)).isOk = true := by decide +kernel
  cases hparsed : parseTunnelPoolResponse (leaseBody.take maxPoolBody) with
  | error err =>
      rw [hparsed] at hok
      cases hok
  | ok lease => exact ⟨lease, rfl⟩

/-- A controller whose primary pool is exhausted. -/
def exhaustedAPI (_ : Nat) (call : PoolCall) : HttpAnswer :=
  if call.fallbackOK then .responded 200 leaseBody else writeAcquireError (some .poolExhausted)

def exhaustedWorld : World where
  body := .absent
  getBody := fun _ => none
  backoff := fun _ => none
  pool := fun n req => controllerClient.proxyForCountry (exhaustedAPI n) req
  upstream := fun _ _ _ => .ok 200
  direct := .ok 200

theorem primaryOut_exhausted :
    PrimaryOut fiveAttempts controllerClient exhaustedAPI exhaustedWorld where
  fallback := rfl
  attempts := by decide
  pool := rfl
  refuses := fun n call hcall => ⟨.poolExhausted, .inl rfl, by simp [exhaustedAPI, hcall]⟩
  leases := by
    intro n call hcall
    obtain ⟨lease, hlease⟩ := parseTunnelPoolResponse_leaseBody
    exact ⟨200, leaseBody, lease, by simp [exhaustedAPI, hcall], rfl, hlease⟩
  upstream := fun _ _ _ => ⟨200, rfl, rfl⟩
  rewinds := fun _ => rfl
  context := fun _ => rfl

theorem primary_out_not_through_fallback_exhausted :
    PrimaryOut fiveAttempts controllerClient exhaustedAPI exhaustedWorld ∧
      ¬ ReturnsThroughFallback fiveAttempts exhaustedWorld :=
  ⟨primaryOut_exhausted,
    (primary_out_not_through_fallback _ _ _ _ primaryOut_exhausted).1⟩

/-- The caller gets the error of the first attempt. -/
theorem not_returns_through_fallback :
    PrimaryOut fiveAttempts controllerClient exhaustedAPI exhaustedWorld ∧
      (∃ err, fiveAttempts.dispatch exhaustedWorld = .error err) ∧
        ¬ ReturnsThroughFallback fiveAttempts exhaustedWorld := by
  have hfails : (fiveAttempts.dispatch exhaustedWorld).isOk = false := by decide +kernel
  cases hdispatch : fiveAttempts.dispatch exhaustedWorld with
  | error err =>
      refine ⟨primaryOut_exhausted, ⟨err, rfl⟩, ?_⟩
      rintro ⟨resp, lease, n, req, hok, -⟩
      cases hdispatch.symm.trans hok
  | ok resp =>
      rw [hdispatch] at hfails
      cases hfails

end Pr0xteus.ClientLib
