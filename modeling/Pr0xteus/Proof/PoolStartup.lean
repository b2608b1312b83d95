import Pr0xteus.Proof.Fallback
import Pr0xteus.Proof.Preflight

/-!
# A pool that is still starting

While a tunnel is being spawned the control API answers with its refusal, and the repeated check is
there to wait for the lease behind it. The refusal reaches the loop as `poolExhausted`, which is
neither of the two errors that it repeats, so the first refusal is the last answer it asks for.
-/

namespace Pr0xteus.ClientLib

open Encoding Net GoTime

/-! ## Steps of the loop -/

section Loop

variable {r : Retry} {fuel attempt : Nat} {backoff : Duration} {err : Err}

theorem loop_of_ok (hcheck : (r.check attempt).preflightSanityCheck = .ok ()) :
    r.loop (fuel + 1) attempt backoff = some (.ok ()) := by
  rw [Retry.loop, hcheck]

/-- An error that is not repeated ends the loop, whether or not it tells of a leak. -/
theorem loop_of_final (hcheck : (r.check attempt).preflightSanityCheck = .error err)
    (hegress : err.is .egressUnavailable = false) (hfailed : err.is .preflightFailed = false) :
    r.loop (fuel + 1) attempt backoff = some (.error err) := by
  rw [Retry.loop, hcheck]
  simp [hegress, hfailed]

theorem exists_check_of_loop (hloop : r.loop fuel attempt backoff = some (.ok ())) :
    ∃ n, (r.check n).preflightSanityCheck = .ok () := by
  induction fuel generalizing attempt backoff with
  | zero => cases hloop
  | succ fuel ih =>
      cases hcheck : (r.check attempt).preflightSanityCheck with
      | ok => exact ⟨attempt, hcheck⟩
      | error err =>
          rw [Retry.loop, hcheck] at hloop
          dsimp only at hloop
          split at hloop
          · cases hloop
          split at hloop
          · cases hloop
          split at hloop
          · cases hloop
          · exact ih hloop

/-- Before the deadline the loop ends with a leak, or with an error that it does not repeat. -/
theorem error_of_loop (hdeadline : ∀ n b, r.deadline n b = false)
    (hloop : r.loop fuel attempt backoff = some (.error err)) :
    err.is .preflightLeaked = true ∨
      err.is .egressUnavailable = false ∧ err.is .preflightFailed = false := by
  induction fuel generalizing attempt backoff with
  | zero => cases hloop
  | succ fuel ih =>
      cases hcheck : (r.check attempt).preflightSanityCheck with
      | ok =>
          rw [loop_of_ok hcheck] at hloop
          cases hloop
      | error err' =>
          rw [Retry.loop, hcheck] at hloop
          dsimp only at hloop
          split at hloop
          · next hleaked =>
              cases hloop
              exact .inl hleaked
          split at hloop
          · next hfinal =>
              cases hloop
              exact .inr (by simpa using hfinal)
          · rw [hdeadline, if_neg (by decide)] at hloop
            exact ih hloop

end Loop

/-! ## Echo services that agree -/

section Echo

variable {endpoints : List String} {f : Fetch endpoints} {ip : List UInt8}

/-- Every endpoint is up and reports this address. -/
structure Fetch.Answers (f : Fetch endpoints) (ip : List UInt8) : Prop where
  valid : (parseIP ip).isSome
  reported : ∀ a ∈ f.answers, (parse (utf8 a.1)).isSome ∧ ∃ status body,
    a.2 = .responded status body ∧ isSuccess status = true ∧ echoText body = ip

theorem collect_replicate (ip : List UInt8) (m n : Nat) :
    collect (List.replicate n (.ok ip)) [(ip, m)] none = ([(ip, m + n)], none) := by
  induction n generalizing m with
  | zero => rfl
  | succ n ih =>
      calc collect (List.replicate (n + 1) (.ok ip)) [(ip, m)] none
          = collect (List.replicate n (.ok ip)) [(ip, m + 1)] none := by
            simp [List.replicate_succ, collect, increment]
        _ = ([(ip, m + 1 + n)], none) := ih (m + 1)
        _ = ([(ip, m + (n + 1))], none) := by rw [Nat.add_right_comm, Nat.add_assoc]

theorem Fetch.Answers.arrivals_eq (h : f.Answers ip) :
    f.arrivals = List.replicate endpoints.length (.ok ip) := by
  have hlength : f.arrivals.length = endpoints.length := by
    have hendpoints := congrArg List.length f.answers_endpoints
    rw [List.length_map] at hendpoints
    rw [f.arrivals_perm.length_eq, List.length_map, hendpoints]
  refine List.eq_replicate_iff.mpr ⟨hlength, fun result hresult => ?_⟩
  obtain ⟨a, ha, rfl⟩ := List.mem_map.mp (f.arrivals_perm.mem_iff.mp hresult)
  obtain ⟨hparse, status, body, hbody, hstatus, htext⟩ := h.reported a ha
  obtain ⟨url, hurl⟩ := Option.isSome_iff_exists.mp hparse
  simp [fetchPublicIPFromEndpoint, hurl, hbody, hstatus, htext]

/-- The quorum is met where there are two endpoints to meet it. -/
theorem Fetch.Answers.fetchAgreedPublicIP_eq (h : f.Answers ip) :
    fetchAgreedPublicIP f = if 2 ≤ endpoints.length then .ok ip
      else .error (wrap .preflightFailed "no quorum across IP-echo endpoints") := by
  have hranged := f.ranged_perm
  unfold fetchAgreedPublicIP
  rw [h.arrivals_eq] at hranged ⊢
  generalize endpoints.length = n at hranged ⊢
  cases n with
  | zero =>
      rw [List.perm_nil.mp hranged]
      rfl
  | succ n =>
      have hcollect : collect (List.replicate (n + 1) (.ok ip)) [] none = ([(ip, 1 + n)], none) :=
        collect_replicate ip 1 n
      rw [hcollect] at hranged ⊢
      rw [List.perm_singleton.mp hranged, List.find?_singleton]
      by_cases hquorum : 2 ≤ n + 1
      · rw [if_pos hquorum, if_pos (by simpa [quorum, Nat.add_comm] using hquorum)]
      · rw [if_neg hquorum, if_neg (by simpa [quorum, Nat.add_comm] using hquorum)]

theorem Fetch.Answers.determineIP_eq (h : f.Answers ip) (hquorum : 2 ≤ endpoints.length)
    (which : String) : determineIP which f = .ok ip := by
  refine determineIP_eq_ok_iff.mpr ⟨by rw [h.fetchAgreedPublicIP_eq, if_pos hquorum], ?_⟩
  rintro rfl
  exact absurd h.valid (by decide)

theorem Fetch.Answers.two_le (h : f.Answers ip) {which : String} {ip' : List UInt8}
    (hdetermine : determineIP which f = .ok ip') : 2 ≤ endpoints.length := by
  by_contra hquorum
  have hfetch := (determineIP_eq_ok_iff.mp hdetermine).1
  rw [h.fetchAgreedPublicIP_eq, if_neg hquorum] at hfetch
  cases hfetch

end Echo

/-! ## The controller starts -/

/-- A controller that refuses the first `k` requests of a client and leases at the next one, with
echo services that report two addresses, before the deadline. -/
structure PoolStartup (c : Client) (t : TunnelPoolClient) (api : Nat → PoolCall → HttpAnswer)
    (r : Retry) (k : Nat) : Prop where
  /-- the controller is asked at all -/
  endpoint : (parse (utf8 (t.baseURL ++ "/v1/proxies"))).isSome
  pool : ∀ n, r.pool n = (t.proxyForCountry (api n) ⟨c.country, none, false⟩).map
    fun resp => some resp.proxyURL
  refuses : ∀ n, 1 ≤ n → n ≤ k → ∀ call, api n call = writeError 503 .serviceUnavailable
  leases : ∀ call, ∃ status body lease, api (k + 1) call = .responded status body ∧
    isSuccess status = true ∧ parseTunnelPoolResponse (body.take maxPoolBody) = .ok lease
  echo : ∀ n, ∃ directIP proxiedIP, (r.direct n).Answers directIP ∧
    (r.proxied n).Answers proxiedIP ∧ parseIP directIP ≠ parseIP proxiedIP
  deadline : ∀ n backoff, r.deadline n backoff = false

section Startup

variable {c : Client} {t : TunnelPoolClient} {api : Nat → PoolCall → HttpAnswer} {r : Retry}
  {k : Nat}

theorem PoolStartup.two_le (h : PoolStartup c t api r k) {n : Nat}
    (hcheck : (r.check n).preflightSanityCheck = .ok ()) : 2 ≤ r.endpoints.length := by
  obtain ⟨directIP, proxiedIP, hdirect, -, -⟩ := h.echo n
  obtain ⟨ip, ip', hfetch, -, -⟩ := preflightSanityCheck_eq_ok_iff.mp hcheck
  exact hdirect.two_le hfetch

/-- With the lease the check passes. -/
theorem PoolStartup.check_leased (h : PoolStartup c t api r k) (hquorum : 2 ≤ r.endpoints.length) :
    (r.check (k + 1)).preflightSanityCheck = .ok () := by
  obtain ⟨directIP, proxiedIP, hdirect, hproxied, hdiffer⟩ := h.echo (k + 1)
  refine preflightSanityCheck_eq_ok_iff.mpr ⟨directIP, proxiedIP, ?_, ?_, ?_⟩
  · exact hdirect.determineIP_eq hquorum "direct"
  · obtain ⟨url, hurl⟩ := Option.isSome_iff_exists.mp h.endpoint
    obtain ⟨call, hcall⟩ : ∃ call, t.newProxyRequest ⟨c.country, none, false⟩ = .ok call := by
      simp [TunnelPoolClient.newProxyRequest, hurl]
    obtain ⟨status, body, lease, hanswer, hstatus, hlease⟩ := h.leases call
    have hpool : (r.check (k + 1)).pool = .ok (some lease.proxyURL) := by
      change r.pool (k + 1) = _
      rw [h.pool, TunnelPoolClient.proxyForCountry, hcall]
      simp [bind, Except.bind, hanswer, executeProxyRequest, hstatus, hlease, Except.map]
    rw [Preflight.fetchProxiedIP, hpool]
    exact hproxied.determineIP_eq hquorum "proxied"
  · rintro rfl
    exact hdiffer rfl

/-- A refusal is the last word of the loop. -/
theorem PoolStartup.refused (h : PoolStartup c t api r k) (hquorum : 2 ≤ r.endpoints.length)
    (hk : 1 ≤ k) : ∃ err, err.is .poolExhausted = true ∧
      ∀ fuel, r.preflightSanityCheckWithRetry (fuel + 1) = some (.error err) := by
  obtain ⟨directIP, proxiedIP, hdirect, -, -⟩ := h.echo 1
  obtain ⟨url, hurl⟩ := Option.isSome_iff_exists.mp h.endpoint
  obtain ⟨message, hrefused⟩ : ∃ message, t.proxyForCountry (api 1) ⟨c.country, none, false⟩ =
      .error (.wrap (.sentinel .poolExhausted) message) :=
    proxyForCountry_of_refusal hurl (fun call _ => h.refuses 1 le_rfl hk call) rfl
  have hfetch : (r.check 1).fetchDirectIP = .ok directIP := hdirect.determineIP_eq hquorum "direct"
  have hpool : (r.check 1).pool = .error (.wrap (.sentinel .poolExhausted) message) := by
    change r.pool 1 = _
    rw [h.pool, hrefused]
    rfl
  have hcheck : (r.check 1).preflightSanityCheck =
      .error (.wrap (.wrap (.sentinel .poolExhausted) message)
        (utf8 "preflight: pool.ProxyForCountry")) := by
    rw [Preflight.preflightSanityCheck, hfetch, Preflight.fetchProxiedIP, hpool]
    rfl
  exact ⟨_, rfl, fun fuel => loop_of_final hcheck rfl rfl⟩

/-- **What the repeated check waits for.** A client that has two echo services gets through the
start of the pool exactly where there is nothing to wait for: after one refusal or more, the call
returns it. Every error that the call returns before its deadline is a leak, or is neither of the
two errors that are repeated. -/
theorem retry_through_startup_iff (c : Client) (t : TunnelPoolClient)
    (api : Nat → PoolCall → HttpAnswer) (r : Retry) (k : Nat) (h : PoolStartup c t api r k) :
    ((∃ fuel, r.preflightSanityCheckWithRetry fuel = some (.ok ())) ↔
      k = 0 ∧ 2 ≤ r.endpoints.length) ∧
    (1 ≤ k → 2 ≤ r.endpoints.length → ∃ err, err.is .poolExhausted = true ∧
      ∀ fuel, r.preflightSanityCheckWithRetry (fuel + 1) = some (.error err)) ∧
    ∀ fuel err, r.preflightSanityCheckWithRetry fuel = some (.error err) →
      err.is .preflightLeaked = true ∨
        err.is .egressUnavailable = false ∧ err.is .preflightFailed = false := by
  refine ⟨⟨?_, ?_⟩, fun hk hquorum => h.refused hquorum hk,
    fun fuel err herr => error_of_loop h.deadline herr⟩
  · rintro ⟨fuel, hpass⟩
    obtain ⟨n, hcheck⟩ := exists_check_of_loop hpass
    have hquorum := h.two_le hcheck
    refine ⟨?_, hquorum⟩
    by_contra hk
    obtain ⟨err, -, herr⟩ := h.refused hquorum (Nat.one_le_iff_ne_zero.mpr hk)
    cases fuel with
    | zero => cases hpass
    | succ fuel => cases hpass.symm.trans (herr fuel)
  · rintro ⟨rfl, hquorum⟩
    exact ⟨1, loop_of_ok (h.check_leased hquorum)⟩

end Startup

/-- A controller that spawns its first tunnel for the length of `k` requests. -/
def startingAPI (k n : Nat) (_ : PoolCall) : HttpAnswer :=
  if n ≤ k then writeAcquireError (some .poolUnavailable) else .responded 200 leaseBody

def startingRetry (k : Nat) : Retry where
  endpoints := ["http://one.example", "http://two.example"]
  direct := fun _ => agreeing (utf8 "192.0.2.1")
  pool := fun n => (controllerClient.proxyForCountry (startingAPI k n)
    ⟨fiveAttempts.country, none, false⟩).map fun resp => some resp.proxyURL
  proxied := fun _ => agreeing (utf8 "198.51.100.7")
  deadline := fun _ _ => false

theorem answers_agreeing {body : List UInt8} (hvalid : (parseIP (echoText body)).isSome) :
    (agreeing body).Answers (echoText body) where
  valid := hvalid
  reported := by
    have hone : (parse (utf8 "http://one.example")).isSome := by decide +kernel
    have htwo : (parse (utf8 "http://two.example")).isSome := by decide +kernel
    intro a ha
    rcases List.mem_pair.mp ha with rfl | rfl
    · exact ⟨hone, 200, body, rfl, rfl, rfl⟩
    · exact ⟨htwo, 200, body, rfl, rfl, rfl⟩

theorem poolStartup_starting (k : Nat) :
    PoolStartup fiveAttempts controllerClient (startingAPI k) (startingRetry k) k where
  endpoint := by decide +kernel
  pool := fun _ => rfl
  refuses := fun n _ hn call => by simp [startingAPI, hn, writeAcquireError]
  leases := by
    intro call
    obtain ⟨lease, hlease⟩ := parseTunnelPoolResponse_leaseBody
    exact ⟨200, leaseBody, lease, by simp [startingAPI], rfl, hlease⟩
  echo := fun _ => ⟨_, _, answers_agreeing (by decide +kernel), answers_agreeing (by decide +kernel),
    by decide +kernel⟩
  deadline := fun _ _ => rfl

theorem retry_through_startup_at_once :
    PoolStartup fiveAttempts controllerClient (startingAPI 0) (startingRetry 0) 0 ∧
      ∃ fuel, (startingRetry 0).preflightSanityCheckWithRetry fuel = some (.ok ()) :=
  ⟨poolStartup_starting 0,
    (retry_through_startup_iff _ _ _ _ 0 (poolStartup_starting 0)).1.mpr ⟨rfl, by decide⟩⟩

/-- One refusal, then leases: the check is made once, however long the caller waits. -/
theorem not_retry_through_startup :
    PoolStartup fiveAttempts controllerClient (startingAPI 1) (startingRetry 1) 1 ∧
      ∀ fuel, (startingRetry 1).preflightSanityCheckWithRetry fuel ≠ some (.ok ()) := by
  refine ⟨poolStartup_starting 1, fun fuel hpass => ?_⟩
  obtain ⟨err, -, herr⟩ := (poolStartup_starting 1).refused (by decide) le_rfl
  cases fuel with
  | zero => cases hpass
  | succ fuel => cases hpass.symm.trans (herr fuel)

end Pr0xteus.ClientLib
