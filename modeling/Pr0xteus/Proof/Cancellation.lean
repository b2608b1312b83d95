import Pr0xteus.Proof.Transports

/-!
# A request whose context ends

The context of a caller ends at some moment of a `Do`. The client hears of it from a wait, from a
request to the target and from the body's `GetBody`, whose errors carry it; the client of the control
API turns every error of its request into one without a cause, and the direct attempt's error is
dropped. Whether it stops is decided by what is under way at that moment.
-/

namespace Pr0xteus.ClientLib

open Encoding ClientEvent

variable {c : Client} {w : World} {attempt left : Nat} {lastProxy : Option ParsedURL}
  {ctxErr : Sentinel}

def ClientEvent.startsRequest : ClientEvent → Bool
  | .poolStart _ _ | .upstreamStart _ _ | .directStart => true
  | _ => false

/-- The end of a wait, of a call of `rewindBody` or of a request to the target, with the context's
error. -/
def ClientEvent.reports (ctxErr : Sentinel) : ClientEvent → Bool
  | .waitEnd _ (some err) | .rewound _ (.error err) | .upstreamEnd _ (.error err) => err.is ctxErr
  | _ => false

/-! ## What does not tell of the context -/

/-- Every error of `ProxyForCountry` is a sentinel of the package with a message. -/
theorem exists_sentinel_of_proxyForCountry {t : TunnelPoolClient} {api : PoolCall → HttpAnswer}
    {req : ProxyRequest} {err : Err} (h : t.proxyForCountry api req = .error err) :
    ∃ s message, err = .wrap (.sentinel s) message ∧ (s = .egressUnavailable ∨ s = .poolExhausted) := by
  unfold TunnelPoolClient.proxyForCountry at h
  cases hcall : t.newProxyRequest req with
  | error err' =>
      rw [hcall] at h
      cases h
      unfold TunnelPoolClient.newProxyRequest at hcall
      dsimp only at hcall
      split at hcall <;> cases hcall
      exact ⟨_, _, rfl, .inl rfl⟩
  | ok call =>
      rw [hcall] at h
      cases hbody : executeProxyRequest call.endpoint (api call) with
      | error err' =>
          simp only [hbody, bind, Except.bind] at h
          cases h
          unfold executeProxyRequest at hbody
          split at hbody
          · cases hbody
            exact ⟨_, _, rfl, .inl rfl⟩
          · cases hbody
            exact ⟨_, _, rfl, .inl rfl⟩
          · dsimp only at hbody
            split at hbody <;> cases hbody
            refine ⟨_, _, rfl, ?_⟩
            split
            · exact .inr rfl
            · exact .inl rfl
      | ok body =>
          simp only [hbody, bind, Except.bind] at h
          unfold parseTunnelPoolResponse at h
          dsimp only at h
          split at h
          · cases h
            exact ⟨_, _, rfl, .inl rfl⟩
          · split at h
            · cases h
              exact ⟨_, _, rfl, .inl rfl⟩
            · split at h <;> cases h
              exact ⟨_, _, rfl, .inl rfl⟩

/-- The pool is the client of the control API. -/
structure ServedBy (t : TunnelPoolClient) (api : Nat → PoolCall → HttpAnswer) (w : World)
    (ctxErr : Sentinel) : Prop where
  isCtx : ctxErr = .canceled ∨ ctxErr = .deadlineExceeded
  pool : w.pool = fun n req => t.proxyForCountry (api n) req

section Served

variable {t : TunnelPoolClient} {api : Nat → PoolCall → HttpAnswer} {err : Err}

theorem ServedBy.is_sentinel (h : ServedBy t api w ctxErr) {s : Sentinel}
    (hs : s ≠ .canceled ∧ s ≠ .deadlineExceeded) : (Err.sentinel s).is ctxErr = false := by
  rcases h.isCtx with rfl | rfl
  · exact decide_eq_false hs.1
  · exact decide_eq_false hs.2

theorem ServedBy.is_pool (h : ServedBy t api w ctxErr) {request : ProxyRequest}
    (hpool : w.pool attempt request = .error err) : err.is ctxErr = false := by
  rw [h.pool] at hpool
  obtain ⟨s, message, rfl, rfl | rfl⟩ := exists_sentinel_of_proxyForCountry hpool
  · exact h.is_sentinel (by decide)
  · exact h.is_sentinel (by decide)

theorem ServedBy.not_shouldRetryError (h : ServedBy t api w ctxErr) (herr : err.is ctxErr = true) :
    shouldRetryError err = false := by
  unfold shouldRetryError
  rcases h.isCtx with rfl | rfl <;> simp [herr]

end Served

/-! ## A moment of a run -/

/-- The run ends with the context's error. -/
def EndsWith (ctxErr : Sentinel) (result : Except Err Response) : Prop :=
  ∃ err, result = .error err ∧ err.is ctxErr = true

/-- No request is started any more, and the run ends with the context's error. -/
def Stops (ctxErr : Sentinel) (future : List ClientEvent) (result : Except Err Response) : Prop :=
  (∀ e ∈ future, e.startsRequest = false) ∧ EndsWith ctxErr result

def Silent (ctxErr : Sentinel) (es : List ClientEvent) : Prop :=
  ∀ e ∈ es, e.reports ctxErr = false

@[simp] theorem endsWith_error (err : Err) :
    EndsWith ctxErr (.error err) ↔ err.is ctxErr = true := by
  simp [EndsWith]

@[simp] theorem not_endsWith_ok (resp : Response) : ¬EndsWith ctxErr (.ok resp) := nofun

theorem ClientEvent.startsRequest_of_reports {e : ClientEvent} (h : e.reports ctxErr = true) :
    e.startsRequest = false := by
  cases e <;> first | rfl | cases h

/-- What an event leaves under way, or over last: the waits, the requests and the calls of `rewindBody`
count, and what is built and closed does not. -/
def ClientEvent.follow (last : Option ClientEvent) : ClientEvent → Option ClientEvent
  | .buildTransport _ | .closeIdleConnections _ | .closeBody _ | .respond _ | .closeDirectBody
  | .closeDirectConnections => last
  | e => some e

def underWay (past : List ClientEvent) : Option ClientEvent := past.foldl follow none

section Told

variable (ctxErr : Sentinel) (c : Client) (w : World)

/-- The wait before an attempt ends with the context's error. -/
def TellsWait (attempt : Nat) : Prop := ∃ err ∈ w.backoff attempt, err.is ctxErr = true

/-- A next attempt is made, and the wait before it tells. -/
def TellsNext (attempt : Nat) : Prop :=
  attempt + 1 ≤ c.maxAttempts.toNat ∧ TellsWait ctxErr w (attempt + 1)

/-- The attempt has failed with this error, which is retried. -/
def TellsRetry (attempt : Nat) (err : Err) : Prop :=
  shouldRetryError err = true ∧ TellsNext ctxErr c w attempt

def TellsAnswer (attempt : Nat) : Except Err Nat → Prop
  | .error err => TellsRetry ctxErr c w attempt err
  | .ok status => shouldRetryStatus status = true ∧ TellsNext ctxErr c w attempt

/-- The body is rewound for an attempt. -/
def TellsFire (attempt : Nat) : Prop :=
  ∃ err, rewindBody w (.fire attempt) = .error err ∧
    (err.is ctxErr = true ∨ TellsRetry ctxErr c w attempt err)

/-- The body is rewound outside the loop. -/
def TellsRewind (call : Rewind) : Prop :=
  ∃ err, rewindBody w call = .error err ∧ err.is ctxErr = true

/-- The direct attempt is not the last one. -/
def fallsBack : Except Err Nat → Bool
  | .error _ => true
  | .ok status => shouldFallbackOnStatus status

/-- What is under way tells the client that the context has ended, or leads to a wait that does,
without another request. -/
def Told : Option ClientEvent → Prop
  | none => c.mode = .publicFirst ∧ TellsRewind ctxErr w .direct
  | some (.directStart) => fallsBack w.direct = true ∧ TellsRewind ctxErr w .proxy
  | some (.directEnd answer) => fallsBack answer = true ∧ TellsRewind ctxErr w .proxy
  | some (.waitStart attempt) => TellsWait ctxErr w attempt
  | some (.poolStart attempt request) =>
      match w.pool attempt request with
      | .error err => TellsRetry ctxErr c w attempt err
      | .ok _ => TellsFire ctxErr c w attempt
  | some (.poolEnd attempt (some err)) => TellsRetry ctxErr c w attempt err
  | some (.poolEnd attempt none) => TellsFire ctxErr c w attempt
  | some (.rewound (.fire attempt) (.error err)) => TellsRetry ctxErr c w attempt err
  | some (.upstreamStart attempt proxyURL) =>
      let answer := w.upstream attempt proxyURL (strategyFor attempt).freshTCP
      (∃ err, answer = .error err ∧ err.is ctxErr = true) ∨ TellsAnswer ctxErr c w attempt answer
  | some (.upstreamEnd attempt answer) => TellsAnswer ctxErr c w attempt answer
  | _ => False

end Told

/-! ## From one event to the next -/

/-- `P` says of what is under way whether the run stops. It holds when an event reports the context's
error, and no request is started from then on, and `R` holds; it is lost with the start of a request,
and no other event changes it. At the end of the events, `Q` holds. -/
def Foretells (ctxErr : Sentinel) (P Q : Option ClientEvent → Prop) (R : Prop) :
    Option ClientEvent → List ClientEvent → Prop
  | last, [] => Q last
  | last, e :: es =>
      if e.reports ctxErr = true then P last ∧ R ∧ ∀ x ∈ es, x.startsRequest = false
      else (P last ↔ e.startsRequest = false ∧ P (e.follow last)) ∧
        Foretells ctxErr P Q R (e.follow last) es

section Foretells

variable {P Q Q' : Option ClientEvent → Prop} {R R' : Prop} {last : Option ClientEvent}
  {e : ClientEvent} {es es' : List ClientEvent}

theorem Foretells.silent (he : e.reports ctxErr = false)
    (hlast : P last ↔ e.startsRequest = false ∧ P (e.follow last))
    (hes : Foretells ctxErr P Q R (e.follow last) es) : Foretells ctxErr P Q R last (e :: es) := by
  rw [Foretells, he, if_neg Bool.false_ne_true]
  exact ⟨hlast, hes⟩

theorem foretells_append : Foretells ctxErr P Q R last (es ++ es') ↔
    Foretells ctxErr P (fun last => Foretells ctxErr P Q R last es')
      (R ∧ ∀ x ∈ es', x.startsRequest = false) last es := by
  induction es generalizing last with
  | nil => rfl
  | cons e es ih =>
      simp only [List.cons_append, Foretells, ih, List.forall_mem_append]
      split <;> tauto

theorem Foretells.mono (h : Foretells ctxErr P Q R last es) (hQ : ∀ last, Q last → Q' last)
    (hR : R → R') : Foretells ctxErr P Q' R' last es := by
  induction es generalizing last with
  | nil => exact hQ last h
  | cons e es ih =>
      rw [Foretells] at h ⊢
      split at h
      · next hreports =>
          rw [if_pos hreports]
          exact ⟨h.1, hR h.2.1, h.2.2⟩
      · next hsilent =>
          rw [if_neg hsilent]
          exact ⟨h.1, ih h.2⟩

theorem Foretells.stops_iff (h : Foretells ctxErr P (P · ↔ R) R last es) :
    (∀ x ∈ es, x.startsRequest = false) ∧ R ↔ P last := by
  induction es generalizing last with
  | nil =>
      have hend : P last ↔ R := h
      simp [hend]
  | cons e es ih =>
      rw [Foretells] at h
      rw [List.forall_mem_cons]
      split at h
      · next hreports =>
          exact iff_of_true ⟨⟨ClientEvent.startsRequest_of_reports hreports, h.2.2⟩, h.2.1⟩ h.1
      · rw [h.1, ← ih h.2, and_assoc]

theorem Foretells.after {past future : List ClientEvent}
    (h : Foretells ctxErr P Q R last (past ++ future)) (hpast : Silent ctxErr past) :
    Foretells ctxErr P Q R (past.foldl follow last) future := by
  induction past generalizing last with
  | nil => exact h
  | cons e past ih =>
      obtain ⟨he, hpast⟩ := List.forall_mem_cons.mp hpast
      rw [List.cons_append, Foretells, he, if_neg Bool.false_ne_true] at h
      exact ih h.2 hpast

end Foretells

/-- What is under way decides, at every moment of the events, whether the run stops. -/
abbrev Decides (ctxErr : Sentinel) (c : Client) (w : World) (result : Except Err Response) :
    Option ClientEvent → List ClientEvent → Prop :=
  Foretells ctxErr (Told ctxErr c w) (Told ctxErr c w · ↔ EndsWith ctxErr result)
    (EndsWith ctxErr result)

section Run

variable {t : TunnelPoolClient} {api : Nat → PoolCall → HttpAnswer} {last : Option ClientEvent}
  {lastErr : Option Err}

namespace AttemptResult

def retries : AttemptResult → Bool
  | .retry _ _ => true
  | _ => false

def err? : AttemptResult → Option Err
  | .resp _ => none
  | .halt err | .retry err _ => some err

end AttemptResult

/-- An attempt whose operation failed is not repeated if the error is the context's. -/
theorem ServedBy.failed_cases (h : ServedBy t api w ctxErr) {err retryErr haltErr : Err}
    {proxy : Option ParsedURL} {result : AttemptResult}
    (hresult : result = if shouldRetryError err then .retry retryErr proxy else .halt haltErr)
    (hretry : retryErr.is ctxErr = err.is ctxErr) (hhalt : haltErr.is ctxErr = err.is ctxErr) :
    err.is ctxErr = true ∧ (∃ err, result = .halt err ∧ err.is ctxErr = true) ∨
      err.is ctxErr = false ∧ result.retries = shouldRetryError err ∧
        ∀ err ∈ result.err?, err.is ctxErr = false := by
  cases herr : err.is ctxErr with
  | true =>
      rw [h.not_shouldRetryError herr] at hresult
      exact .inl ⟨rfl, haltErr, hresult, hhalt.trans herr⟩
  | false =>
      refine .inr ⟨rfl, ?_⟩
      cases hshould : shouldRetryError err <;> rw [hshould] at hresult <;> subst hresult
      · exact ⟨rfl, by rintro _ ⟨⟩; exact hhalt.trans herr⟩
      · exact ⟨rfl, by rintro _ ⟨⟩; exact hretry.trans herr⟩

/-- An attempt begins with a request. Behind it the wait before the next one tells, if there is to be
one. -/
theorem foretells_tried (h : ServedBy t api w ctxErr) {es : List ClientEvent} {result : AttemptResult}
    (htried : Tried w attempt es result) (hlast : ¬Told ctxErr c w last) :
    Foretells ctxErr (Told ctxErr c w)
      (fun last => (Told ctxErr c w last ↔ result.retries = true ∧ TellsNext ctxErr c w attempt) ∧
        ∀ err ∈ result.err?, err.is ctxErr = false)
      (∃ err, result = .halt err ∧ err.is ctxErr = true) last es := by
  cases htried <;> refine .silent rfl (by simp [hlast, startsRequest]) ?_
  case unassigned request err hpool hresult =>
      rcases h.failed_cases hresult rfl rfl with ⟨herr, -⟩ | ⟨-, hretries, hnone⟩
      · cases herr.symm.trans (h.is_pool hpool)
      · simpa [Foretells, ClientEvent.reports, startsRequest, follow, Told, hpool,
          TellsRetry, hretries] using hnone
  case unrewound request lease err hpool hrewind hresult =>
      rcases h.failed_cases hresult rfl rfl with ⟨herr, hhalt⟩ | ⟨herr, hretries, hnone⟩
      · simpa [Foretells, ClientEvent.reports, startsRequest, follow, Told, hpool,
          hrewind, TellsFire, herr] using hhalt
      · simpa [Foretells, ClientEvent.reports, startsRequest, follow, Told, hpool,
          hrewind, TellsFire, TellsRetry, herr, hretries] using hnone
  case failed request lease err hpool hrewind hupstream hresult =>
      rcases h.failed_cases hresult rfl rfl with ⟨herr, hhalt⟩ | ⟨herr, hretries, hnone⟩
      · simpa [Foretells, ClientEvent.reports, startsRequest, follow, Told, hpool,
          hrewind, hupstream, TellsFire, herr] using hhalt
      · simpa [Foretells, ClientEvent.reports, startsRequest, follow, Told, hpool,
          hrewind, hupstream, TellsFire, TellsAnswer, TellsRetry, herr, hretries] using hnone
  case discarded request lease status hpool hrewind hupstream hstatus =>
      have herr : ∀ message, (wrap .egressUnavailable message).is ctxErr = false :=
        fun _ => h.is_sentinel (by decide)
      simp [Foretells, ClientEvent.reports, startsRequest, follow, Told, hpool, hrewind, hupstream,
        TellsFire, TellsAnswer, hstatus, AttemptResult.retries, AttemptResult.err?, herr]
  case returned request lease status hpool hrewind hupstream hstatus =>
      simp [Foretells, ClientEvent.reports, startsRequest, follow, Told, hpool, hrewind, hupstream,
        TellsFire, TellsAnswer, hstatus, AttemptResult.retries, AttemptResult.err?]

/-- What comes of an attempt, with the rest of the loop. -/
def Client.goesOn (c : Client) (w : World) (left attempt : Nat) (lastProxy : Option ParsedURL) :
    AttemptResult → Except Err Response
  | .halt err => .error err
  | .resp resp => .ok resp
  | .retry err proxy => c.attempts w left (attempt + 1) (proxy.or lastProxy) (some err)

def Client.goesOnEvents (c : Client) (w : World) (left attempt : Nat) (lastProxy : Option ParsedURL) :
    AttemptResult → List ClientEvent
  | .halt _ | .resp _ => []
  | .retry _ proxy => c.attemptEvents w left (attempt + 1) (proxy.or lastProxy)

theorem foretells_goesOn (h : ServedBy t api w ctxErr) (hlast : ¬Told ctxErr c w last)
    (hrest : ∀ last err (proxy : Option ParsedURL),
      (Told ctxErr c w last ↔ TellsNext ctxErr c w attempt) → err.is ctxErr = false →
      Decides ctxErr c w (c.attempts w left (attempt + 1) (proxy.or lastProxy) (some err)) last
        (c.attemptEvents w left (attempt + 1) (proxy.or lastProxy))) :
    Decides ctxErr c w (c.goesOn w left attempt lastProxy (c.tryOnce w lastProxy attempt)) last
      (c.tryEvents w lastProxy attempt ++
        c.goesOnEvents w left attempt lastProxy (c.tryOnce w lastProxy attempt)) := by
  have htried := foretells_tried h (tried_tryOnce c w lastProxy attempt) hlast
  refine foretells_append.mpr (htried.mono ?_ ?_)
  · rintro last ⟨hnext, hnone⟩
    cases htry : c.tryOnce w lastProxy attempt with
    | halt err | resp resp =>
        rw [htry] at hnext hnone
        simp_all [Client.goesOn, Client.goesOnEvents, Foretells, AttemptResult.retries,
          AttemptResult.err?]
    | retry err proxy =>
        rw [htry] at hnext hnone
        exact hrest last err proxy (hnext.trans (by simp [AttemptResult.retries])) (hnone err rfl)
  · rintro ⟨err, htry, his⟩
    simp [htry, Client.goesOn, Client.goesOnEvents, his]

theorem foretells_attempts (h : ServedBy t api w ctxErr) (hpos : 1 ≤ attempt)
    (hleft : attempt + left = c.maxAttempts.toNat + 1)
    (hlast : Told ctxErr c w last ↔
      1 < attempt ∧ attempt ≤ c.maxAttempts.toNat ∧ TellsWait ctxErr w attempt)
    (herr : ∀ err ∈ lastErr, err.is ctxErr = false) :
    Decides ctxErr c w (c.attempts w left attempt lastProxy lastErr) last
      (c.attemptEvents w left attempt lastProxy) := by
  induction left generalizing attempt lastProxy lastErr last with
  | zero =>
      have hexhausted : Sentinel.egressExhausted ≠ ctxErr :=
        of_decide_eq_false (h.is_sentinel (by decide))
      have hnone : Sentinel.noAttemptError ≠ ctxErr :=
        of_decide_eq_false (h.is_sentinel (by decide))
      refine iff_of_false (by rw [hlast]; omega) ?_
      cases lastErr with
      | none => simp [Client.attempts, Err.is, hexhausted, hnone]
      | some err => simp [Client.attempts, Err.is, hexhausted, herr err rfl]
  | succ left ih =>
      -- the attempt itself, once its wait is over
      have hattempt : ∀ last, ¬Told ctxErr c w last → Decides ctxErr c w
          (c.goesOn w left attempt lastProxy (c.tryOnce w lastProxy attempt)) last
          (c.tryEvents w lastProxy attempt ++
            c.goesOnEvents w left attempt lastProxy (c.tryOnce w lastProxy attempt)) := by
        refine fun last hlast => foretells_goesOn h hlast fun last err proxy hnext hnone => ?_
        refine ih (by omega) (by omega) (hnext.trans ?_) (by rintro _ ⟨⟩; exact hnone)
        exact ⟨fun h => ⟨by omega, h⟩, fun h => h.2⟩
      rw [Client.attemptEvents, Client.attempts]
      by_cases hfirst : attempt ≤ 1
      · simp only [waitEvents, waitBackoff, if_pos hfirst]
        exact hattempt last (by rw [hlast]; omega)
      · have hwait : Told ctxErr c w last ↔ TellsWait ctxErr w attempt := by
          rw [hlast]
          exact ⟨fun h => h.2.2, fun h => ⟨by omega, by omega, h⟩⟩
        simp only [waitEvents, waitBackoff, if_neg hfirst]
        refine .silent rfl (hwait.trans (by simp [startsRequest, follow, Told])) ?_
        cases hback : w.backoff attempt with
        | none =>
            refine .silent rfl ?_ (hattempt _ id)
            simp [startsRequest, follow, Told, TellsWait, hback]
        | some err =>
            cases his : err.is ctxErr <;> simp [Foretells, ClientEvent.reports, his, bind,
              Except.bind, startsRequest, follow, Told, TellsWait, hback, Err.is]

theorem foretells_viaProxy (h : ServedBy t api w ctxErr) (hlast : ¬Told ctxErr c w last) :
    Decides ctxErr c w (c.viaProxy w) last (c.viaProxyEvents w) :=
  foretells_attempts h (Nat.le_refl 1) (Nat.add_comm _ _) (by simp [hlast]) nofun

theorem foretells_close {result : Except Err Response}
    (hlast : Told ctxErr c w last ↔ EndsWith ctxErr result) :
    Decides ctxErr c w result last [.closeDirectConnections] :=
  .silent rfl (by simp [startsRequest, follow]) hlast

/-- What comes behind the direct attempt. -/
def Client.fallback (c : Client) (w : World) : Except Err Response :=
  match rewindBody w .proxy with
  | .error err => .error (.wrap err (utf8 "rewind body for proxy attempt"))
  | .ok _ => c.viaProxy w

def Client.fallbackEvents (c : Client) (w : World) : List ClientEvent :=
  .rewound .proxy (rewindBody w .proxy) :: match rewindBody w .proxy with
    | .error _ => []
    | .ok _ => c.viaProxyEvents w

theorem foretells_fallback (h : ServedBy t api w ctxErr)
    (hlast : Told ctxErr c w last ↔ TellsRewind ctxErr w .proxy) :
    Decides ctxErr c w (c.fallback w) last (c.fallbackEvents w ++ [.closeDirectConnections]) := by
  have hover : ∀ answer, ¬Told ctxErr c w (some (.rewound .proxy answer)) := fun _ => id
  unfold Client.fallback Client.fallbackEvents
  cases hproxy : rewindBody w .proxy with
  | error err =>
      cases his : err.is ctxErr <;> simp [Foretells, ClientEvent.reports, startsRequest, follow, his,
        hlast, TellsRewind, hproxy, hover, Err.is]
  | ok ok =>
      refine .silent rfl (hlast.trans ?_) (foretells_append.mpr
        ((foretells_viaProxy h (hover _)).mono (fun last => foretells_close) fun hends => ?_))
      · simp [TellsRewind, hproxy, follow, hover]
      · exact ⟨hends, by simp [startsRequest]⟩

theorem foretells_publicFirst (h : ServedBy t api w ctxErr) (hmode : c.mode = .publicFirst) :
    Decides ctxErr c w (c.dispatchPublicFirst w) none (c.publicFirstEvents w) := by
  unfold Client.publicFirstEvents Client.dispatchPublicFirst
  cases hrewind : rewindBody w .direct with
  | error err =>
      cases his : err.is ctxErr <;> simp [Foretells, ClientEvent.reports, startsRequest,
        follow, his, Told, hmode, TellsRewind, hrewind, Err.is]
  | ok ok =>
      refine .silent rfl ?_ (.silent rfl ?_ (.silent rfl ?_ ?_))
      · simp [Told, TellsRewind, hrewind, follow]
      · simp [Told, startsRequest, follow]
      · simp [Told, startsRequest, follow]
      · cases hdirect : w.direct with
        | error err => exact foretells_fallback h (by simp [follow, Told, fallsBack])
        | ok status =>
            cases hstatus : shouldFallbackOnStatus status with
            | true =>
                simp only [hstatus, if_true]
                refine .silent rfl (by simp [startsRequest, follow]) (foretells_fallback h ?_)
                simp [follow, Told, fallsBack, hstatus]
            | false =>
                simp only [hstatus, Bool.false_eq_true, if_false]
                exact foretells_close (by simp [follow, Told, fallsBack, hstatus])

theorem foretells_dispatch (h : ServedBy t api w ctxErr) :
    Decides ctxErr c w (c.dispatch w) none (c.dispatchEvents w) := by
  unfold Client.dispatchEvents Client.dispatch
  cases hmode : c.mode with
  | vpnOnly => exact foretells_viaProxy h (by simp [Told, hmode])
  | publicFirst => exact foretells_publicFirst h hmode

end Run

/-- **Where a request stops.** The context has ended between `past` and the rest of a run, and nothing
has told of it before. The client starts no further request and returns the context's error exactly
where what is under way at that moment ends with that error, or fails in a way that is retried and
leads to a wait that ends with it. The error of a request to the control API is never the context's,
and that of the direct attempt is not looked at. -/
theorem stops_iff_told (c : Client) (w : World) (t : TunnelPoolClient)
    (api : Nat → PoolCall → HttpAnswer) (ctxErr : Sentinel) (past future : List ClientEvent)
    (hserved : ServedBy t api w ctxErr) (hevents : c.dispatchEvents w = past ++ future)
    (hpast : Silent ctxErr past) :
    Stops ctxErr future (c.dispatch w) ↔ Told ctxErr c w (underWay past) := by
  have hforetells := foretells_dispatch (c := c) hserved
  rw [hevents] at hforetells
  exact (hforetells.after hpast).stops_iff

/-! ## Canceled in the first request -/

def controlClient : TunnelPoolClient := ⟨"http://pr0xteus:8000", "", ""⟩

/-- The control API and the target, for a context that is canceled: nobody answers. -/
def canceledWorld (backoff : Nat → Option Err) : World where
  body := .absent
  getBody _ := none
  backoff := backoff
  pool _ req := controlClient.proxyForCountry (fun _ => .failed (.sentinel .canceled)) req
  upstream _ _ _ := .error (.sentinel .canceled)
  direct := .error (.sentinel .canceled)

/-- What `executeProxyRequest` makes of the cancellation. -/
def unreachable : Err := wrap .egressUnavailable "POST http://pr0xteus:8000/v1/proxies: "

theorem servedBy_canceledWorld (backoff : Nat → Option Err) :
    ServedBy controlClient (fun _ _ => .failed (.sentinel .canceled)) (canceledWorld backoff)
      .canceled :=
  ⟨.inl rfl, rfl⟩

theorem proxyForCountry_canceled (req : ProxyRequest) :
    controlClient.proxyForCountry (fun _ => .failed (.sentinel .canceled)) req =
      .error unreachable := by
  have hparse : (parse (utf8 "http://pr0xteus:8000/v1/proxies")).isSome = true := by decide +kernel
  obtain ⟨url, hurl⟩ := Option.isSome_iff_exists.mp hparse
  have hcall : parse (utf8 (controlClient.baseURL ++ "/v1/proxies")) = some url := hurl
  simp only [TunnelPoolClient.proxyForCountry, TunnelPoolClient.newProxyRequest, hcall, bind,
    Except.bind]
  rfl

section CanceledWorld

variable {backoff : Nat → Option Err}

@[simp] theorem backoff_canceledWorld : (canceledWorld backoff).backoff = backoff := rfl

theorem tryEvents_canceledWorld :
    c.tryEvents (canceledWorld backoff) lastProxy attempt =
      [.poolStart attempt (c.poolRequest lastProxy attempt), .poolEnd attempt (some unreachable)] := by
  unfold Client.tryEvents
  have hpool := proxyForCountry_canceled (c.poolRequest lastProxy attempt)
  simp only [show (canceledWorld backoff).pool attempt (c.poolRequest lastProxy attempt) =
    .error unreachable from hpool]

theorem tryOnce_canceledWorld :
    c.tryOnce (canceledWorld backoff) lastProxy attempt =
      .retry (.wrap unreachable (utf8 "pool.ProxyForCountry")) none := by
  unfold Client.tryOnce
  have hpool := proxyForCountry_canceled (c.poolRequest lastProxy attempt)
  rw [show (canceledWorld backoff).pool attempt (c.poolRequest lastProxy attempt) =
    .error unreachable from hpool]
  rfl

end CanceledWorld

/-- What the attempts ask for, as long as no proxy has been obtained. -/
def firstRequest : ProxyRequest := ⟨"US", none, false⟩

/-- The wait tells of a cancellation that the request to the control API has not told of. -/
theorem stops_iff_told_wait :
    Stops .canceled [.poolEnd 1 (some unreachable), .waitStart 2,
        .waitEnd 2 (some (.sentinel .canceled))]
      (twoAttempts.dispatch (canceledWorld fun _ => some (.sentinel .canceled))) := by
  refine (stops_iff_told _ _ _ _ _ [.poolStart 1 firstRequest] _ (servedBy_canceledWorld _) ?_ ?_).mpr ?_
  · simp [Client.dispatchEvents, Client.viaProxyEvents, twoAttempts, Client.attemptEvents,
      tryEvents_canceledWorld, tryOnce_canceledWorld, waitEvents, waitBackoff, Client.poolRequest,
      strategyFor, firstRequest]
  · simp [Silent, ClientEvent.reports]
  · have hpool : (canceledWorld fun _ => some (.sentinel .canceled)).pool 1 firstRequest =
        .error unreachable := proxyForCountry_canceled firstRequest
    simp only [underWay, List.foldl, follow, Told, hpool]
    exact ⟨rfl, by decide, _, rfl, rfl⟩

def oneAttempt (mode : Mode) : Client := { twoAttempts with mode, maxAttempts := 1 }

/-- The context is canceled while the first request is under way, and the policy has no backoff. Two
attempts: the second one asks the control API again. One attempt: the error is another one. Public
first: the canceled direct request is followed by one to the control API. -/
theorem not_stops_canceledWorld :
    let w := canceledWorld fun _ => none
    (twoAttempts.dispatchEvents w = .poolStart 1 firstRequest ::
        [.poolEnd 1 (some unreachable), .waitStart 2, .waitEnd 2 none, .poolStart 2 firstRequest,
          .poolEnd 2 (some unreachable)] ∧
      ∃ err, twoAttempts.dispatch w = .error err ∧ err.is .canceled = false) ∧
    ((oneAttempt .vpnOnly).dispatchEvents w =
        .poolStart 1 firstRequest :: [.poolEnd 1 (some unreachable)] ∧
      ∃ err, (oneAttempt .vpnOnly).dispatch w = .error err ∧ err.is .canceled = false) ∧
    ((oneAttempt .publicFirst).dispatchEvents w = .rewound .direct (.ok ()) :: .directStart ::
        [.directEnd (.error (.sentinel .canceled)), .rewound .proxy (.ok ()),
          .poolStart 1 firstRequest, .poolEnd 1 (some unreachable), .closeDirectConnections] ∧
      ∃ err, (oneAttempt .publicFirst).dispatch w = .error err ∧ err.is .canceled = false) := by
  have hbody : ∀ n, rewindBody (canceledWorld fun _ => none) n = .ok () := fun _ => rfl
  have hdirect : (canceledWorld fun _ => none).direct = .error (.sentinel .canceled) := rfl
  have herr : (Err.wrap (.join (.sentinel .egressExhausted)
      (.wrap unreachable (utf8 "pool.ProxyForCountry"))) (utf8 "all attempts failed")).is
      .canceled = false := rfl
  refine ⟨⟨?_, _, ?_, herr⟩, ⟨?_, _, ?_, herr⟩, ?_, _, ?_, herr⟩
  · simp [Client.dispatchEvents, Client.viaProxyEvents, twoAttempts, Client.attemptEvents,
      tryEvents_canceledWorld, tryOnce_canceledWorld, waitEvents, waitBackoff, Client.poolRequest,
      strategyFor, firstRequest]
  · simp [Client.dispatch, Client.viaProxy, twoAttempts, Client.attempts, tryOnce_canceledWorld,
      waitBackoff, bind, Except.bind]
  · simp [Client.dispatchEvents, Client.viaProxyEvents, oneAttempt, twoAttempts,
      Client.attemptEvents, tryEvents_canceledWorld, waitEvents, waitBackoff, Client.poolRequest,
      strategyFor, firstRequest, tryOnce_canceledWorld]
  · simp [Client.dispatch, Client.viaProxy, oneAttempt, twoAttempts, Client.attempts,
      tryOnce_canceledWorld, waitBackoff, bind, Except.bind]
  · simp [Client.dispatchEvents, Client.publicFirstEvents, Client.viaProxyEvents, oneAttempt,
      twoAttempts, Client.attemptEvents, tryEvents_canceledWorld, tryOnce_canceledWorld, waitEvents,
      waitBackoff, hbody, hdirect, Client.poolRequest, strategyFor, firstRequest]
  · simp [Client.dispatch, Client.dispatchPublicFirst, Client.viaProxy, oneAttempt, twoAttempts,
      Client.attempts, tryOnce_canceledWorld, waitBackoff, bind, Except.bind, hbody, hdirect]

end Pr0xteus.ClientLib
