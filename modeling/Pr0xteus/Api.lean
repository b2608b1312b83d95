import Pr0xteus.Addresses
import Pr0xteus.Client

/-!
# Assigning a proxy

`POST /v1/proxies`: the request is decoded and checked, and then goes to the manager by its pool or by
its country. What the manager answers is a parameter, and the result is what the handler does, in
order. The log line and the metric are left out, and so is the exit of the response.
-/

namespace Pr0xteus

open Encoding Text
open ClientLib (writeError writeAcquireError ErrorResponse HttpAnswer)

/-- The media type that `mime.ParseMediaType` finds in the header, where it finds one, and the
body. -/
structure HttpRequest where
  mediaType : Option String
  body : List UInt8

structure ProxyRequest where
  country : String
  pool : String
  excludeProxy : String
  fallbackOK : Bool
  deriving DecidableEq, Repr

def contentTypeJSON : String := "application/json"

def unsupportedContentType : ErrorResponse :=
  ⟨"UNSUPPORTED_CONTENT_TYPE", "Unsupported content type"⟩

def maxRequestBody : Nat := 16 * 1024

def hasJSONContentType (r : HttpRequest) : Bool := r.mediaType = some contentTypeJSON

namespace ProxyRequest

def fields : List String := ["country", "pool", "excludeProxy", "fallbackOk"]

/-- The two calls of `Decode`, the second of which has to find the end of the body. A body beyond the
limit has no end that they could find. -/
def decode (body : List UInt8) : Option ProxyRequest := do
  if maxRequestBody < body.length then none
  else
    let members ← Json.topMembers body
    if !Json.onlyFields fields members then none
    else
      let country ← Json.stringField "country" members
      let pool ← Json.stringField "pool" members
      let excludeProxy ← Json.stringField "excludeProxy" members
      let fallbackOK ← Json.boolField "fallbackOk" members
      some ⟨.ofList country, .ofList pool, .ofList excludeProxy, fallbackOK⟩

def hasCountry (r : ProxyRequest) : Bool := trimSpace r.country ≠ ""

def hasPool (r : ProxyRequest) : Bool := trimSpace r.pool ≠ ""

end ProxyRequest

def decodeProxyRequest (r : HttpRequest) : Except HttpAnswer ProxyRequest :=
  if !hasJSONContentType r then .error (writeError 415 unsupportedContentType)
  else
    match ProxyRequest.decode r.body with
    | none => .error (writeError 400 .validationFailed)
    | some request =>
        if request.hasCountry = request.hasPool then .error (writeError 400 .validationFailed)
        else if request.hasCountry && !isCountryCode request.country then
          .error (writeError 400 .validationFailed)
        else .ok request

/-- One of the two calls by which the handler gets a cell. -/
inductive AcquireCall where
  | forPool (poolName : String) (excludeProxy : Option ExcludedProxy) (fallbackOK : Bool)
  | forCountry (country : String) (excludeProxy : Option ExcludedProxy) (fallbackOK : Bool)

/-- What the manager answers. An error of an acquisition is its sentinel. -/
structure ManagerAnswers where
  resolveExcludedProxy : String → Except CtxError ExcludedProxy
  acquire : AcquireCall → Except (Option Sentinel) Acquisition
  issueLease : Acquisition → Except IssueLeaseError ProxyLease

/-- What the handler does. The answer to an assignment is the lease and the pool of the cell. -/
inductive ApiEvent where
  | acquire (call : AcquireCall) (result : Except (Option Sentinel) Acquisition)
  | release (acq : Acquisition)
  | refuse (answer : HttpAnswer)
  | assign (pool : String) (lease : ProxyLease)

namespace APIServer

def parseExcludedProxy (mgr : ManagerAnswers) (raw : String) :
    Except HttpAnswer (Option ExcludedProxy) :=
  if raw = "" then .ok none
  else
    match mgr.resolveExcludedProxy raw with
    | .error _ => .error (writeError 400 .validationFailed)
    | .ok proxyURL => .ok (some proxyURL)

def acquire (country pool : String) (excludeProxy : Option ExcludedProxy) (fallbackOK : Bool) :
    AcquireCall :=
  if pool ≠ "" then .forPool pool excludeProxy fallbackOK
  else .forCountry country excludeProxy fallbackOK

def handleProxy (mgr : ManagerAnswers) (r : HttpRequest) : List ApiEvent :=
  match decodeProxyRequest r with
  | .error answer => [.refuse answer]
  | .ok request =>
      match parseExcludedProxy mgr request.excludeProxy with
      | .error answer => [.refuse answer]
      | .ok excludeProxy =>
          let call := acquire request.country request.pool excludeProxy request.fallbackOK
          .acquire call (mgr.acquire call) ::
            match mgr.acquire call with
            | .error err => [.refuse (writeAcquireError err)]
            | .ok acq =>
                match mgr.issueLease acq with
                | .error _ => [.release acq, .refuse (writeError 500 .internalServerError)]
                | .ok lease => [.assign acq.pool lease, .release acq]

end APIServer

end Pr0xteus
