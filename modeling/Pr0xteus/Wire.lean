import Pr0xteus.Api
import Pr0xteus.Lib.JsonFields
import Pr0xteus.Lib.UrlString

/-!
# What the client library and the controller send each other

The body of `POST /v1/proxies` as the client writes it, and the controller's answer. A time is written
by a function that is a parameter; the client does not read it.
-/

namespace Pr0xteus

open Encoding
open ClientLib (HttpAnswer PoolCall)

/-- The text of the excluded URL, which depends on what the URL keeps of the text it was parsed from. -/
def ClientLib.PoolCall.excludedText (call : PoolCall) (spelling : Spelling) : List UInt8 :=
  match call.excludeProxy with
  | none => []
  | some url => url.string spelling

/-- `tunnelPoolWireRequest`. -/
def ClientLib.PoolCall.wireRequest (call : PoolCall) (spelling : Spelling) : Json.Doc :=
  .object (Json.omitEmpty "country" (utf8 call.country) ++ Json.omitEmpty "pool" (utf8 call.pool) ++
    Json.omitEmpty "excludeProxy" (call.excludedText spelling) ++
    Json.omitFalse "fallbackOk" call.fallbackOK)

/-- The request as `newProxyRequest` makes it, on the controller's side. -/
def ClientLib.PoolCall.httpRequest (call : PoolCall) (spelling : Spelling) : HttpRequest :=
  ⟨some "application/json", Json.marshal (call.wireRequest spelling)⟩

structure ProxyResponse where
  proxies : ProxyURLs
  pool : String
  exitCountry : String
  exitIP : String
  expiresAt : Int

def ProxyURLs.doc (urls : ProxyURLs) : Json.Doc :=
  .object [("socks5", .string (utf8 urls.socks5)), ("http", .string (utf8 urls.http))]

def ProxyResponse.doc (formatTime : Int → String) (response : ProxyResponse) : Json.Doc :=
  .object ([("proxies", response.proxies.doc), ("pool", .string (utf8 response.pool)),
      ("exitCountry", .string (utf8 response.exitCountry))] ++
    Json.omitEmpty "exitIP" (utf8 response.exitIP) ++
    [("expiresAt", .string (utf8 (formatTime response.expiresAt)))])

/-- `WriteJSON`. -/
def writeJSON (status : Nat) (doc : Json.Doc) : HttpAnswer :=
  .responded status (Json.encode .indented doc)

/-- The fields of a tunnel that only answers show. -/
structure Exit where
  country : String
  ip : String

/-- The answer among what the handler does. -/
def APIServer.answer (exit : Tunnel → Exit) (formatTime : Int → String) :
    List ApiEvent → Option HttpAnswer
  | [] => none
  | .refuse answer :: _ => some answer
  | .acquire _ (.ok acq) :: .assign pool lease :: _ =>
      some (writeJSON 200 (ProxyResponse.doc formatTime
        { proxies := lease.proxies
          pool := pool
          exitCountry := (exit acq.tunnel).country
          exitIP := (exit acq.tunnel).ip
          expiresAt := lease.expiresAt }))
  | _ :: events => answer exit formatTime events

/-- The controller, as the client library meets it: a call is answered as the handler answers it. -/
def APIServer.serve (mgr : ManagerAnswers) (exit : Tunnel → Exit) (formatTime : Int → String)
    (spelling : Spelling) (call : PoolCall) : HttpAnswer :=
  (answer exit formatTime (handleProxy mgr (call.httpRequest spelling))).getD (.failed (.other []))

end Pr0xteus
