import Pr0xteus.ClientEvents

/-!
# The transports of the attempts

Each attempt that gets a proxy builds a transport of its own. `Tried` lists the ways an attempt can
go; in one of them the response is discarded and the transport is left as it is.
-/

namespace Pr0xteus.ClientLib

open Encoding

variable {c : Client} {w : World} {attempt left : Nat} {lastProxy : Option ParsedURL}
  {es : List ClientEvent}

/-- The ways of an attempt: what it does and what comes of it. -/
inductive Tried (w : World) (attempt : Nat) : List ClientEvent → AttemptResult → Prop
  | unassigned (request : ProxyRequest) (err : Err) (result : AttemptResult)
      (hpool : w.pool attempt request = .error err)
      (hresult : result = if shouldRetryError err then
        .retry (.wrap err (utf8 "pool.ProxyForCountry")) none
        else .halt (.wrap err (utf8 "pool.ProxyForCountry"))) :
      Tried w attempt [.poolStart attempt request, .poolEnd attempt (some err)] result
  | unrewound (request : ProxyRequest) (lease : ProxyResponse) (err : Err) (result : AttemptResult)
      (hpool : w.pool attempt request = .ok lease)
      (hrewind : rewindBody w (.fire attempt) = .error err)
      (hresult : result = if shouldRetryError err then
        .retry (.wrap err (utf8 "rewind body")) (some lease.proxyURL)
        else .halt (.wrap (.wrap err (utf8 "rewind body")) (utf8 "egress http"))) :
      Tried w attempt [.poolStart attempt request, .poolEnd attempt none, .buildTransport attempt,
        .rewound (.fire attempt) (.error err), .closeIdleConnections attempt] result
  | failed (request : ProxyRequest) (lease : ProxyResponse) (err : Err) (result : AttemptResult)
      (hpool : w.pool attempt request = .ok lease) (hrewind : rewindBody w (.fire attempt) = .ok ())
      (hupstream : w.upstream attempt lease.proxyURL (strategyFor attempt).freshTCP = .error err)
      (hresult : result = if shouldRetryError err then .retry err (some lease.proxyURL)
        else .halt (.wrap err (utf8 "egress http"))) :
      Tried w attempt [.poolStart attempt request, .poolEnd attempt none, .buildTransport attempt,
        .rewound (.fire attempt) (.ok ()), .upstreamStart attempt lease.proxyURL,
        .upstreamEnd attempt (.error err), .closeIdleConnections attempt] result
  | discarded (request : ProxyRequest) (lease : ProxyResponse) (status : Nat)
      (hpool : w.pool attempt request = .ok lease) (hrewind : rewindBody w (.fire attempt) = .ok ())
      (hupstream : w.upstream attempt lease.proxyURL (strategyFor attempt).freshTCP = .ok status)
      (hstatus : shouldRetryStatus status = true) :
      Tried w attempt [.poolStart attempt request, .poolEnd attempt none, .buildTransport attempt,
        .rewound (.fire attempt) (.ok ()), .upstreamStart attempt lease.proxyURL,
        .upstreamEnd attempt (.ok status), .closeBody attempt]
        (.retry (wrap .egressUnavailable ("upstream http " ++ toString status)) (some lease.proxyURL))
  | returned (request : ProxyRequest) (lease : ProxyResponse) (status : Nat)
      (hpool : w.pool attempt request = .ok lease) (hrewind : rewindBody w (.fire attempt) = .ok ())
      (hupstream : w.upstream attempt lease.proxyURL (strategyFor attempt).freshTCP = .ok status)
      (hstatus : shouldRetryStatus status = false) :
      Tried w attempt [.poolStart attempt request, .poolEnd attempt none, .buildTransport attempt,
        .rewound (.fire attempt) (.ok ()), .upstreamStart attempt lease.proxyURL,
        .upstreamEnd attempt (.ok status), .respond attempt] (.resp ⟨status, some lease⟩)

theorem tried_tryOnce (c : Client) (w : World) (lastProxy : Option ParsedURL) (attempt : Nat) :
    Tried w attempt (c.tryEvents w lastProxy attempt) (c.tryOnce w lastProxy attempt) := by
  unfold Client.tryEvents Client.tryOnce
  dsimp only
  cases hpool : w.pool attempt (c.poolRequest lastProxy attempt) with
  | error err => exact .unassigned _ err _ hpool rfl
  | ok lease =>
      unfold fireEvents fire
      cases hrewind : rewindBody w (.fire attempt) with
      | error err => exact .unrewound _ lease err _ hpool hrewind rfl
      | ok _ =>
          dsimp only
          cases hupstream : w.upstream attempt lease.proxyURL (strategyFor attempt).freshTCP with
          | error err => exact .failed _ lease err _ hpool hrewind hupstream rfl
          | ok status =>
              dsimp only
              cases hstatus : shouldRetryStatus status with
              | true => exact .discarded _ lease status hpool hrewind hupstream hstatus
              | false => exact .returned _ lease status hpool hrewind hupstream hstatus

/-! ## One attempt -/

/-- The attempt that an event of the loop belongs to. -/
def ClientEvent.attempt? : ClientEvent → Option Nat
  | .waitStart k | .waitEnd k _ | .poolStart k _ | .poolEnd k _ | .buildTransport k
  | .rewound (.fire k) _ | .upstreamStart k _ | .upstreamEnd k _ | .closeIdleConnections k
  | .closeBody k | .respond k => some k
  | .rewound _ _ | .directStart | .directEnd _ | .closeDirectBody | .closeDirectConnections => none

/-- A transport that was built for an attempt whose response is not returned is closed, and so is the
body of the response, if there was one. -/
def Released (es : List ClientEvent) : Prop :=
  ∀ k, .buildTransport k ∈ es → .respond k ∉ es → .closeIdleConnections k ∈ es ∧
    ∀ status, .upstreamEnd k (.ok status) ∈ es → .closeBody k ∈ es

/-- No response has a status that is retried. -/
def NoneDiscarded (es : List ClientEvent) : Prop :=
  ∀ k status, .upstreamEnd k (.ok status) ∈ es → shouldRetryStatus status = false

theorem attempt_of_tried {result : AttemptResult} (h : Tried w attempt es result) :
    ∀ e ∈ es, e.attempt? = some attempt := by
  cases h <;> simp [ClientEvent.attempt?]

theorem released_tried_iff {result : AttemptResult} (h : Tried w attempt es result) :
    Released es ↔ NoneDiscarded es := by
  unfold Released NoneDiscarded
  cases h with
  | unassigned => simp
  | unrewound => simp
  | failed => simp
  | discarded _ _ _ _ _ _ hstatus => simp [hstatus]
  | returned _ _ _ _ _ _ hstatus => simp [hstatus]

theorem attempt_waitEvents : ∀ e ∈ waitEvents w attempt, e.attempt? = some attempt := by
  unfold waitEvents
  split <;> simp [ClientEvent.attempt?]

/-! ## The loop -/

theorem le_of_mem_attemptEvents {e : ClientEvent}
    (he : e ∈ c.attemptEvents w left attempt lastProxy) :
    ∃ k, e.attempt? = some k ∧ attempt ≤ k := by
  induction left generalizing attempt lastProxy with
  | zero => cases he
  | succ left ih =>
      rw [Client.attemptEvents] at he
      rcases List.mem_append.mp he with hwait | he
      · exact ⟨attempt, attempt_waitEvents e hwait, Nat.le_refl attempt⟩
      · split at he
        · cases he
        · rcases List.mem_append.mp he with htry | he
          · exact ⟨attempt, attempt_of_tried (tried_tryOnce c w lastProxy attempt) e htry,
              Nat.le_refl attempt⟩
          · split at he
            · cases he
            · cases he
            · obtain ⟨k, hk, hle⟩ := ih he
              exact ⟨k, hk, Nat.le_of_succ_le hle⟩

/-- Events of different attempts do not bear on each other. -/
theorem released_append_iff {es es' : List ClientEvent}
    (h : ∀ e ∈ es, e.attempt? = some attempt)
    (h' : ∀ e ∈ es', ∃ k, e.attempt? = some k ∧ attempt < k) :
    Released (es ++ es') ↔ Released es ∧ Released es' := by
  have hes : ∀ {e : ClientEvent} {k : Nat}, e.attempt? = some k → attempt < k → e ∉ es := by
    intro e k hk hlt hmem
    cases (h e hmem).symm.trans hk
    exact Nat.lt_irrefl _ hlt
  have hes' : ∀ {e : ClientEvent}, e.attempt? = some attempt → e ∉ es' := by
    intro e hk hmem
    obtain ⟨k, hk', hlt⟩ := h' e hmem
    cases hk.symm.trans hk'
    exact Nat.lt_irrefl _ hlt
  unfold Released
  simp only [List.mem_append, not_or]
  constructor
  · intro hall
    constructor
    · intro k hbuild hrespond
      cases h _ hbuild
      obtain ⟨hclose, hbody⟩ := hall attempt (.inl hbuild) ⟨hrespond, hes' rfl⟩
      exact ⟨hclose.resolve_right (hes' rfl), fun status hend =>
        (hbody status (.inl hend)).resolve_right (hes' rfl)⟩
    · intro k hbuild hrespond
      obtain ⟨k', hk', hlt⟩ := h' _ hbuild
      cases hk'
      obtain ⟨hclose, hbody⟩ := hall k (.inr hbuild) ⟨hes rfl hlt, hrespond⟩
      exact ⟨hclose.resolve_left (hes rfl hlt), fun status hend =>
        (hbody status (.inr hend)).resolve_left (hes rfl hlt)⟩
  · rintro ⟨hfirst, hsecond⟩ k (hbuild | hbuild) ⟨hrespond, hrespond'⟩
    · cases h _ hbuild
      obtain ⟨hclose, hbody⟩ := hfirst attempt hbuild hrespond
      exact ⟨.inl hclose, fun status hend => .inl (hbody status (hend.resolve_right (hes' rfl)))⟩
    · obtain ⟨k', hk', hlt⟩ := h' _ hbuild
      cases hk'
      obtain ⟨hclose, hbody⟩ := hsecond k hbuild hrespond'
      exact ⟨.inr hclose, fun status hend => .inr (hbody status (hend.resolve_left (hes rfl hlt)))⟩

theorem noneDiscarded_append_iff {es es' : List ClientEvent} :
    NoneDiscarded (es ++ es') ↔ NoneDiscarded es ∧ NoneDiscarded es' := by
  unfold NoneDiscarded
  simp only [List.mem_append, or_imp, forall_and]

theorem released_wait_append_iff : Released (waitEvents w attempt ++ es) ↔ Released es := by
  unfold Released waitEvents
  split <;> simp

theorem noneDiscarded_wait_append_iff :
    NoneDiscarded (waitEvents w attempt ++ es) ↔ NoneDiscarded es := by
  unfold NoneDiscarded waitEvents
  split <;> simp

theorem released_attemptEvents_iff :
    Released (c.attemptEvents w left attempt lastProxy) ↔
      NoneDiscarded (c.attemptEvents w left attempt lastProxy) := by
  induction left generalizing attempt lastProxy with
  | zero => simp [Client.attemptEvents, Released, NoneDiscarded]
  | succ left ih =>
      rw [Client.attemptEvents, released_wait_append_iff, noneDiscarded_wait_append_iff]
      cases waitBackoff w attempt with
      | error err => simp [Released, NoneDiscarded]
      | ok _ =>
          have htried := tried_tryOnce c w lastProxy attempt
          have hfirst := released_tried_iff htried
          dsimp only
          cases c.tryOnce w lastProxy attempt with
          | halt err | resp resp =>
              rw [List.append_nil]
              exact hfirst
          | retry err proxy =>
              rw [released_append_iff (attempt_of_tried htried) fun e he => le_of_mem_attemptEvents he,
                noneDiscarded_append_iff, hfirst, ih]

/-- **What a run of `do` leaves behind.** Every transport of an attempt whose response is not returned
has been closed, and the response's body with it, exactly where no response had a status that is
retried. -/
theorem released_viaProxyEvents_iff (c : Client) (w : World) :
    Released (c.viaProxyEvents w) ↔ NoneDiscarded (c.viaProxyEvents w) :=
  released_attemptEvents_iff

def blankLease : ProxyResponse := { proxyURL := {}, pool := [], exitCountry := [], exitIP := [] }

/-- The target answers the first attempt with a 503 and the second one with a 200. -/
def busyOnce : World where
  body := .absent
  getBody _ := none
  backoff _ := none
  pool _ _ := .ok blankLease
  upstream attempt _ _ := if attempt ≤ 1 then .ok 503 else .ok 200
  direct := .ok 200

def twoAttempts : Client := { country := "US", mode := .vpnOnly, maxAttempts := 2, useFallbackPool := true }

/-- The attempt gets a proxy, and the target answers through it. -/
def answeredEvents (attempt status : Nat) : List ClientEvent :=
  [.poolStart attempt ⟨"US", none, false⟩, .poolEnd attempt none, .buildTransport attempt,
    .rewound (.fire attempt) (.ok ()), .upstreamStart attempt blankLease.proxyURL,
    .upstreamEnd attempt (.ok status)]

/-- The transport of the first attempt is not closed. -/
theorem not_released_busyOnce :
    twoAttempts.viaProxyEvents busyOnce =
        answeredEvents 1 503 ++ [.closeBody 1, .waitStart 2, .waitEnd 2 none] ++
          answeredEvents 2 200 ++ [.respond 2] ∧
      ¬ Released (twoAttempts.viaProxyEvents busyOnce) := by
  have hevents : twoAttempts.viaProxyEvents busyOnce =
      answeredEvents 1 503 ++ [.closeBody 1, .waitStart 2, .waitEnd 2 none] ++
        answeredEvents 2 200 ++ [.respond 2] := rfl
  refine ⟨hevents, fun h => ?_⟩
  rw [hevents, answeredEvents, answeredEvents] at h
  simpa using (h 1 (by simp) (by simp)).1

end Pr0xteus.ClientLib
