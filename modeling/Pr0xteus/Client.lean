import Pr0xteus.Lib.Json
import Pr0xteus.Lib.Url
import Pr0xteus.Types

/-!
# The client library

`pkg/client`: the client of the control API and the retry loop over it, with the answer the control
API gives where it has no tunnel. Attempts are numbered from one, as in the source, and what the
network answers may differ from attempt to attempt. A message ends where the source would add the
text of an error of the standard library.
-/

namespace Pr0xteus.ClientLib

open Encoding

/-! ## Errors -/

/-- The sentinels of the package, and the two of `context` that it asks for. -/
inductive Sentinel where
  | egressUnavailable
  | egressExhausted
  | poolExhausted
  | directDialForbidden
  | noAttemptError
  | preflightLeaked
  | preflightFailed
  | canceled
  | deadlineExceeded
  deriving DecidableEq, Repr

inductive Err where
  | sentinel (s : Sentinel)
  | other (text : List UInt8)
  | wrap (cause : Err) (message : List UInt8)
  | join (first second : Err)
  deriving DecidableEq

/-- `errors.Is`. -/
def Err.is (target : Sentinel) : Err → Bool
  | .sentinel s => s = target
  | .other _ => false
  | .wrap cause _ => cause.is target
  | .join first second => first.is target || second.is target

def wrap (s : Sentinel) (message : String) : Err := .wrap (.sentinel s) (utf8 message)

/-- What a round trip ends with. -/
inductive HttpAnswer where
  | failed (err : Err)
  | unreadable (status : Nat) (err : Err)
  | responded (status : Nat) (body : List UInt8)

def isSuccess (status : Nat) : Bool := 200 ≤ status && status < 300

/-! ## The control API's answer without a tunnel -/

/-- `aichteeteapee.ErrorResponse`; none of those used here has details. -/
structure ErrorResponse where
  code : String
  message : String

def ErrorResponse.validationFailed : ErrorResponse := ⟨"VALIDATION_FAILED", "Validation failed"⟩

def ErrorResponse.serviceUnavailable : ErrorResponse :=
  ⟨"SERVICE_UNAVAILABLE", "Service unavailable"⟩

def ErrorResponse.internalServerError : ErrorResponse :=
  ⟨"INTERNAL_SERVER_ERROR", "Internal server error"⟩

/-- `WriteJSON`, for texts that need no escaping. -/
def writeError (status : Nat) (response : ErrorResponse) : HttpAnswer :=
  .responded status (utf8 ("\x7b\n  \"code\": \"" ++ response.code ++ "\",\n  \"message\": \"" ++
    response.message ++ "\"\n\x7d\n"))

/-- `writeAcquireError`; an error without a sentinel of the controller is an internal one. -/
def writeAcquireError : Option Pr0xteus.Sentinel → HttpAnswer
  | some .invalidCountry | some .unknownPool => writeError 400 .validationFailed
  | some .poolExhausted | some .poolUnavailable => writeError 503 .serviceUnavailable
  | none => writeError 500 .internalServerError

/-! ## The client of the control API -/

structure ProxyRequest where
  country : String
  excludeProxy : Option ParsedURL
  fallbackOK : Bool

structure ProxyResponse where
  proxyURL : ParsedURL
  pool : List Char
  exitCountry : List Char
  exitIP : List Char

structure TunnelPoolClient where
  baseURL : String
  poolID : String
  bearerToken : String

/-- `tunnelPoolWireRequest` on its way to the control API. -/
structure PoolCall where
  endpoint : String
  authorization : Option String
  country : String
  pool : String
  excludeProxy : Option ParsedURL
  fallbackOK : Bool

/-- `newProxyRequest`. -/
def TunnelPoolClient.newProxyRequest (t : TunnelPoolClient) (req : ProxyRequest) :
    Except Err PoolCall :=
  let endpoint := t.baseURL ++ "/v1/proxies"
  match parse (utf8 endpoint) with
  | none => .error (wrap .egressUnavailable ("new request " ++ endpoint ++ ": "))
  | some _ => .ok
      { endpoint
        authorization := if t.bearerToken = "" then none else some ("Bearer " ++ t.bearerToken)
        country := if t.poolID = "" then req.country else ""
        pool := t.poolID
        excludeProxy := req.excludeProxy
        fallbackOK := req.fallbackOK }

/-- Decoding into an `ErrorResponse`, as far as its code. Any details decode. -/
def envelopeCode (body : List UInt8) : Option (List Char) := do
  let members ← Json.topMembers body
  let code ← Json.stringField "code" members
  let _ ← Json.stringField "message" members
  some code

def isPoolExhaustedResponse (status : Nat) (body : List UInt8) : Bool :=
  status = 503 && envelopeCode body = some ErrorResponse.serviceUnavailable.code.toList

def truncateBody (s : List UInt8) (n : Nat) : List UInt8 :=
  if s.length ≤ n then s else s.take n ++ utf8 "…"

def maxPoolBody : Nat := 2 ^ 16

/-- `executeProxyRequest`, given what the round trip ends with. -/
def executeProxyRequest (endpoint : String) : HttpAnswer → Except Err (List UInt8)
  | .failed _ => .error (wrap .egressUnavailable ("POST " ++ endpoint ++ ": "))
  | .unreadable _ _ => .error (wrap .egressUnavailable ("read body " ++ endpoint ++ ": "))
  | .responded status body =>
      let body := body.take maxPoolBody
      if isSuccess status then .ok body
      else
        let sentinel :=
          if isPoolExhaustedResponse status body then Sentinel.poolExhausted else .egressUnavailable
        .error (.wrap (.sentinel sentinel) (utf8 ("pr0xteus " ++ endpoint ++ " returned " ++
          toString status ++ ": ") ++ truncateBody body 200))

/-- `parseTunnelPoolResponse`. -/
def parseTunnelPoolResponse (body : List UInt8) : Except Err ProxyResponse :=
  let raw : Option (List Char × List Char × List Char × List Char) := do
    let members ← Json.topMembers body
    let proxies ← Json.structField "proxies" members
    let socks5 ← Json.stringField "socks5" proxies
    let _ ← Json.stringField "http" proxies
    some (socks5, ← Json.stringField "pool" members, ← Json.stringField "exitCountry" members,
      ← Json.stringField "exitIP" members)
  match raw with
  | none => .error (wrap .egressUnavailable "decode proxy response: ")
  | some (socks5, pool, exitCountry, exitIP) =>
      if socks5 = [] then
        .error (wrap .egressUnavailable "pr0xteus returned empty SOCKS5 proxy URL")
      else
        match parse (utf8 (String.ofList socks5)) with
        | none => .error (wrap .egressUnavailable
            ("parse SOCKS5 proxy URL " ++ String.ofList socks5 ++ ": "))
        | some proxyURL => .ok { proxyURL, pool, exitCountry, exitIP }

/-- `ProxyForCountry`, against a control API. -/
def TunnelPoolClient.proxyForCountry (t : TunnelPoolClient) (api : PoolCall → HttpAnswer)
    (req : ProxyRequest) : Except Err ProxyResponse := do
  let call ← t.newProxyRequest req
  let body ← executeProxyRequest call.endpoint (api call)
  parseTunnelPoolResponse body

/-! ## The retry loop -/

structure AttemptStrategy where
  freshTCP : Bool
  excludePrev : Bool
  allowFallback : Bool
  deriving DecidableEq, Repr

def strategyFor (attempt : Nat) : AttemptStrategy :=
  if attempt ≤ 1 then ⟨false, false, false⟩
  else if attempt = 2 then ⟨true, false, false⟩
  else if attempt ≤ 4 then ⟨false, true, false⟩
  else ⟨false, true, true⟩

/-- `shouldRetry` on an error. Time-outs are retried like every other error. -/
def shouldRetryError (err : Err) : Bool :=
  !([.canceled, .deadlineExceeded, .poolExhausted, .directDialForbidden].any (err.is ·))

/-- `shouldRetry` on a response. -/
def shouldRetryStatus (status : Nat) : Bool := [502, 503, 504, 429].contains status

def shouldFallbackOnStatus (status : Nat) : Bool := [429, 403, 503].contains status

inductive Mode where
  | vpnOnly
  | publicFirst
  deriving DecidableEq, Repr

/-- A `Client`, as far as the loop reads it. -/
structure Client where
  country : String
  mode : Mode
  maxAttempts : Int
  useFallbackPool : Bool

inductive RequestBody where
  | absent
  | seekable
  | unseekable
  deriving DecidableEq, Repr

/-- A response of the target, with the lease it came through; none where it came directly. -/
structure Response where
  status : Nat
  via : Option ProxyResponse

/-- The calls of `rewindBody`: before the direct attempt, after it, and in `fire`. -/
inductive Rewind where
  | direct
  | proxy
  | fire (attempt : Nat)
  deriving DecidableEq, Repr

/-- What happens to one request of a caller, by the number of the attempt. -/
structure World where
  body : RequestBody
  /-- the error of `GetBody` -/
  getBody : Rewind → Option Err
  /-- the error of a context that ends during the wait before an attempt -/
  backoff : Nat → Option Err
  /-- the pool service -/
  pool : Nat → ProxyRequest → Except Err ProxyResponse
  /-- the target, through a proxy -/
  upstream : Nat → (proxyURL : ParsedURL) → (freshTCP : Bool) → Except Err Nat
  /-- the target, without one -/
  direct : Except Err Nat

def rewindBody (w : World) (call : Rewind) : Except Err Unit :=
  match w.body with
  | .absent => .ok ()
  | .unseekable =>
      .error (wrap .egressUnavailable "request body is not seekable; cannot retry")
  | .seekable =>
      match w.getBody call with
      | some err => .error (.wrap err (utf8 "GetBody"))
      | none => .ok ()

def waitBackoff (w : World) (attempt : Nat) : Except Err Unit :=
  if attempt ≤ 1 then .ok ()
  else
    match w.backoff attempt with
    | some err => .error (.wrap err (utf8 "egress retry backoff aborted"))
    | none => .ok ()

/-- `fire`: one request through the proxy of a lease. -/
def fire (w : World) (attempt : Nat) (lease : ProxyResponse) (strategy : AttemptStrategy) :
    Except Err Response :=
  match rewindBody w (.fire attempt) with
  | .error err => .error (.wrap err (utf8 "rewind body"))
  | .ok _ =>
      match w.upstream attempt lease.proxyURL strategy.freshTCP with
      | .error err => .error err
      | .ok status => .ok ⟨status, some lease⟩

inductive AttemptResult where
  | resp (r : Response)
  | halt (err : Err)
  | retry (err : Err) (proxy : Option ParsedURL)

/-- What one attempt asks the pool for. -/
def Client.poolRequest (c : Client) (prevProxy : Option ParsedURL) (attempt : Nat) : ProxyRequest :=
  { country := c.country
    excludeProxy := if (strategyFor attempt).excludePrev then prevProxy else none
    fallbackOK := (strategyFor attempt).allowFallback && c.useFallbackPool }

def Client.tryOnce (c : Client) (w : World) (prevProxy : Option ParsedURL) (attempt : Nat) :
    AttemptResult :=
  match w.pool attempt (c.poolRequest prevProxy attempt) with
  | .error err =>
      let wrapped := Err.wrap err (utf8 "pool.ProxyForCountry")
      if shouldRetryError err then .retry wrapped none else .halt wrapped
  | .ok lease =>
      match fire w attempt lease (strategyFor attempt) with
      | .error err =>
          if shouldRetryError err then .retry err (some lease.proxyURL)
          else .halt (.wrap err (utf8 "egress http"))
      | .ok resp =>
          if shouldRetryStatus resp.status then
            .retry (wrap .egressUnavailable ("upstream http " ++ toString resp.status))
              (some lease.proxyURL)
          else .resp resp

/-- The username and password that the SOCKS5 dialer offers. -/
def socks5Auth (proxyURL : ParsedURL) : Option (List UInt8 × List UInt8) :=
  proxyURL.user.map fun user => (user.username, user.password.getD [])

/-- The loop of `do`, with the attempts that are left. -/
def Client.attempts (c : Client) (w : World) :
    (left : Nat) → (attempt : Nat) → (lastProxy : Option ParsedURL) → (lastErr : Option Err) →
      Except Err Response
  | 0, _, _, lastErr =>
      .error (.wrap (.join (.sentinel .egressExhausted)
        (lastErr.getD (.sentinel .noAttemptError))) (utf8 "all attempts failed"))
  | left + 1, attempt, lastProxy, _ => do
      waitBackoff w attempt
      match c.tryOnce w lastProxy attempt with
      | .halt err => .error err
      | .resp resp => .ok resp
      | .retry err proxy =>
          c.attempts w left (attempt + 1) (proxy.or lastProxy) (some err)

/-- `do`. -/
def Client.viaProxy (c : Client) (w : World) : Except Err Response :=
  c.attempts w c.maxAttempts.toNat 1 none none

def Client.dispatchPublicFirst (c : Client) (w : World) : Except Err Response :=
  match rewindBody w .direct with
  | .error err => .error (.wrap err (utf8 "rewind body for direct attempt"))
  | .ok _ =>
      let fallback : Except Err Response :=
        match rewindBody w .proxy with
        | .error err => .error (.wrap err (utf8 "rewind body for proxy attempt"))
        | .ok _ => c.viaProxy w
      match w.direct with
      | .error _ => fallback
      | .ok status => if shouldFallbackOnStatus status then fallback else .ok ⟨status, none⟩

/-- `Do`. -/
def Client.dispatch (c : Client) (w : World) : Except Err Response :=
  match c.mode with
  | .publicFirst => c.dispatchPublicFirst w
  | .vpnOnly => c.viaProxy w

end Pr0xteus.ClientLib
