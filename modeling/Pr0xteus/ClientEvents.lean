import Pr0xteus.Client

/-!
# What a request of the client does

The events of a `Do`, in order: the waits and the requests with their starts and ends, what is built
for an attempt and what is closed. They take the branches that `Client.dispatch` takes. A moment at
which the caller's context ends is a place between two events; a wait of no length ends at once and
without an error. The requests to the pool are also listed by themselves.
-/

namespace Pr0xteus.ClientLib

open Encoding

inductive ClientEvent where
  | waitStart (attempt : Nat)
  | waitEnd (attempt : Nat) (err : Option Err)
  /-- the call of `ProxyForCountry` -/
  | poolStart (attempt : Nat) (request : ProxyRequest)
  | poolEnd (attempt : Nat) (err : Option Err)
  /-- the call of `transportFactory` -/
  | buildTransport (attempt : Nat)
  /-- the call of `rewindBody` -/
  | rewound (call : Rewind) (answer : Except Err Unit)
  | upstreamStart (attempt : Nat) (proxyURL : ParsedURL)
  | upstreamEnd (attempt : Nat) (answer : Except Err Nat)
  | closeIdleConnections (attempt : Nat)
  | closeBody (attempt : Nat)
  /-- the response of the attempt is returned -/
  | respond (attempt : Nat)
  | directStart
  | directEnd (answer : Except Err Nat)
  | closeDirectBody
  | closeDirectConnections

def waitEvents (w : World) (attempt : Nat) : List ClientEvent :=
  if attempt ≤ 1 then [] else [.waitStart attempt, .waitEnd attempt (w.backoff attempt)]

def fireEvents (w : World) (attempt : Nat) (lease : ProxyResponse) (strategy : AttemptStrategy) :
    List ClientEvent :=
  .buildTransport attempt :: .rewound (.fire attempt) (rewindBody w (.fire attempt)) ::
    match rewindBody w (.fire attempt) with
    | .error _ => [.closeIdleConnections attempt]
    | .ok _ =>
        let answer := w.upstream attempt lease.proxyURL strategy.freshTCP
        .upstreamStart attempt lease.proxyURL :: .upstreamEnd attempt answer ::
          match answer with
          | .error _ => [.closeIdleConnections attempt]
          | .ok _ => []

def Client.tryEvents (c : Client) (w : World) (prevProxy : Option ParsedURL) (attempt : Nat) :
    List ClientEvent :=
  let request := c.poolRequest prevProxy attempt
  match w.pool attempt request with
  | .error err => [.poolStart attempt request, .poolEnd attempt (some err)]
  | .ok lease =>
      .poolStart attempt request :: .poolEnd attempt none ::
        (fireEvents w attempt lease (strategyFor attempt) ++
          match fire w attempt lease (strategyFor attempt) with
          | .error _ => []
          | .ok resp =>
              if shouldRetryStatus resp.status then [.closeBody attempt] else [.respond attempt])

/-- The loop of `do`, with the attempts that are left. -/
def Client.attemptEvents (c : Client) (w : World) :
    (left : Nat) → (attempt : Nat) → (lastProxy : Option ParsedURL) → List ClientEvent
  | 0, _, _ => []
  | left + 1, attempt, lastProxy =>
      waitEvents w attempt ++
        match waitBackoff w attempt with
        | .error _ => []
        | .ok _ =>
            c.tryEvents w lastProxy attempt ++
              match c.tryOnce w lastProxy attempt with
              | .halt _ | .resp _ => []
              | .retry _ proxy => c.attemptEvents w left (attempt + 1) (proxy.or lastProxy)

/-- `do`. -/
def Client.viaProxyEvents (c : Client) (w : World) : List ClientEvent :=
  c.attemptEvents w c.maxAttempts.toNat 1 none

/-- The direct transport is closed when the function returns. -/
def Client.publicFirstEvents (c : Client) (w : World) : List ClientEvent :=
  .rewound .direct (rewindBody w .direct) ::
    match rewindBody w .direct with
    | .error _ => [.closeDirectConnections]
    | .ok _ =>
        let fallback : List ClientEvent :=
          .rewound .proxy (rewindBody w .proxy) ::
            match rewindBody w .proxy with
            | .error _ => []
            | .ok _ => c.viaProxyEvents w
        .directStart :: .directEnd w.direct ::
          match w.direct with
          | .error _ => fallback ++ [.closeDirectConnections]
          | .ok status =>
              if shouldFallbackOnStatus status then
                .closeDirectBody :: (fallback ++ [.closeDirectConnections])
              else [.closeDirectConnections]

/-- `Do`. -/
def Client.dispatchEvents (c : Client) (w : World) : List ClientEvent :=
  match c.mode with
  | .publicFirst => c.publicFirstEvents w
  | .vpnOnly => c.viaProxyEvents w

/-- One request to the pool: the number of its attempt, and the proxy that the pool answered with. -/
structure PoolAttempt where
  attempt : Nat
  request : ProxyRequest
  proxy : Option ParsedURL

/-- The proxy that the pool answers an attempt with. -/
def World.obtained (w : World) (attempt : Nat) (request : ProxyRequest) : Option ParsedURL :=
  match w.pool attempt request with
  | .error _ => none
  | .ok lease => some lease.proxyURL

/-- The loop of `do`, with the requests that it makes beside what it returns. -/
def Client.tracedAttempts (c : Client) (w : World) :
    (left : Nat) → (attempt : Nat) → (lastProxy : Option ParsedURL) → (lastErr : Option Err) →
      List PoolAttempt × Except Err Response
  | 0, attempt, lastProxy, lastErr => ([], c.attempts w 0 attempt lastProxy lastErr)
  | left + 1, attempt, lastProxy, _ =>
      match waitBackoff w attempt with
      | .error err => ([], .error err)
      | .ok _ =>
          let request := c.poolRequest lastProxy attempt
          let made : PoolAttempt := ⟨attempt, request, w.obtained attempt request⟩
          match c.tryOnce w lastProxy attempt with
          | .halt err => ([made], .error err)
          | .resp resp => ([made], .ok resp)
          | .retry err proxy =>
              let rest := c.tracedAttempts w left (attempt + 1) (proxy.or lastProxy) (some err)
              (made :: rest.1, rest.2)

def Client.poolAttempts (c : Client) (w : World) : List PoolAttempt :=
  (c.tracedAttempts w c.maxAttempts.toNat 1 none none).1

end Pr0xteus.ClientLib
