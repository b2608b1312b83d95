import Pr0xteus.Client

/-!
# The preflight check

`pkg/client/preflight.go`: the public address that two echo services agree on, asked for directly
and through the proxy. The order in which the answers arrive, and the order in which the map of
counts is gone through, are not fixed by the program; a `Fetch` holds one choice of both. The clock
enters where the check is repeated, and only as the side that ends a wait.
-/

namespace Pr0xteus.ClientLib

open Encoding Utf8 GoTime

/-- The first line that is not blank, trimmed. -/
def firstLine (text : List UInt8) : List UInt8 :=
  ((text.splitOn '\n'.toUInt8).map trimSpace).find? (· ≠ []) |>.getD []

def parseIPEchoBody (body : List UInt8) : List UInt8 :=
  let trimmed := trimSpace body
  if trimmed.head? = some '\x7b'.toUInt8 then
    match Json.topMembers trimmed >>= Json.stringField "ip" with
    | some ip => trimSpace (utf8 (String.ofList ip))
    | none => firstLine trimmed
  else firstLine trimmed

def maxEchoBody : Nat := 2 ^ 12

/-- The text that is taken from a body, of which only the first bytes are read. -/
def echoText (body : List UInt8) : List UInt8 := parseIPEchoBody (body.take maxEchoBody)

/-- `fetchPublicIPFromEndpoint`, given what the round trip ends with. -/
def fetchPublicIPFromEndpoint (target : String) (answer : HttpAnswer) : Except Err (List UInt8) :=
  match parse (utf8 target) with
  | none => .error (.wrap (.other []) (utf8 "build IP-echo request"))
  | some _ =>
      match answer with
      | .failed err => .error (.wrap err (utf8 ("GET " ++ target)))
      | .unreadable status err =>
          if isSuccess status then .error (.wrap err (utf8 ("read body " ++ target)))
          else .error (wrap .preflightFailed (target ++ " returned " ++ toString status))
      | .responded status body =>
          if isSuccess status then .ok (echoText body)
          else .error (wrap .preflightFailed (target ++ " returned " ++ toString status))

abbrev Counts := List (List UInt8 × Nat)

/-- `counts[ip]++`. -/
def increment (ip : List UInt8) : Counts → Counts
  | [] => [(ip, 1)]
  | (key, n) :: counts =>
      if key = ip then (key, n + 1) :: counts else (key, n) :: increment ip counts

/-- The loop over the results. -/
def collect : List (Except Err (List UInt8)) → Counts → Option Err → Counts × Option Err
  | [], counts, lastErr => (counts, lastErr)
  | .error err :: results, counts, _ => collect results counts (some err)
  | .ok ip :: results, counts, lastErr => collect results (increment ip counts) lastErr

def quorum : Nat := 2

/-- What the endpoints answer, in which order it arrives, and how the map is gone through. -/
structure Fetch (endpoints : List String) where
  answers : List (String × HttpAnswer)
  answers_endpoints : answers.map Prod.fst = endpoints
  arrivals : List (Except Err (List UInt8))
  arrivals_perm : arrivals.Perm (answers.map fun a => fetchPublicIPFromEndpoint a.1 a.2)
  ranged : Counts
  ranged_perm : ranged.Perm (collect arrivals [] none).1

def fetchAgreedPublicIP {endpoints : List String} (f : Fetch endpoints) :
    Except Err (List UInt8) :=
  match f.ranged.find? fun entry => quorum ≤ entry.2 with
  | some (ip, _) => .ok ip
  | none =>
      match (collect f.arrivals [] none).2 with
      | some lastErr => .error (.wrap lastErr (utf8 "no quorum + endpoint errors"))
      | none => .error (wrap .preflightFailed "no quorum across IP-echo endpoints")

/-- One run of the check. The pool answers with an error, with no proxy, or with one. -/
structure Preflight where
  endpoints : List String
  direct : Fetch endpoints
  pool : Except Err (Option ParsedURL)
  proxied : Fetch endpoints

/-- The end of both `fetchDirectIP` and `fetchProxiedIP`. -/
def determineIP {endpoints : List String} (which : String) (f : Fetch endpoints) :
    Except Err (List UInt8) :=
  match fetchAgreedPublicIP f with
  | .error err => .error (.wrap err (utf8 ("preflight: fetch " ++ which ++ " public IP")))
  | .ok ip =>
      if ip = [] then
        .error (wrap .preflightFailed ("preflight: could not determine " ++ which ++ " public IP"))
      else .ok ip

def Preflight.fetchDirectIP (p : Preflight) : Except Err (List UInt8) :=
  determineIP "direct" p.direct

def Preflight.fetchProxiedIP (p : Preflight) : Except Err (List UInt8) :=
  match p.pool with
  | .error err => .error (.wrap err (utf8 "preflight: pool.ProxyForCountry"))
  | .ok none => .error (wrap .preflightFailed "preflight: pool returned empty proxy")
  | .ok (some _) => determineIP "proxied" p.proxied

def Preflight.preflightSanityCheck (p : Preflight) : Except Err Unit := do
  let directIP ← p.fetchDirectIP
  let proxiedIP ← p.fetchProxiedIP
  if directIP = proxiedIP then
    .error (.wrap (.sentinel .preflightLeaked) (utf8 "preflight: direct (" ++ directIP ++
      utf8 ") == proxied (" ++ proxiedIP ++ utf8 "); proxy not routing"))
  else .ok ()

/-! ## With retries -/

def preflightRetryBackoffStart : Duration := 5 * second

def preflightRetryBackoffMax : Duration := 30 * second

/-- The wait after this one. -/
def nextBackoff (backoff : Duration) : Duration :=
  let backoff := backoff * 2
  if preflightRetryBackoffMax < backoff then preflightRetryBackoffMax else backoff

/-- What the checks of one call find, by the number of the attempt. The client asks the same
endpoints every time. -/
structure Retry where
  endpoints : List String
  direct : Nat → Fetch endpoints
  pool : Nat → Except Err (Option ParsedURL)
  proxied : Nat → Fetch endpoints
  /-- the deadline ends the wait after an attempt, and not the timer -/
  deadline : (attempt : Nat) → (backoff : Duration) → Bool

def Retry.check (r : Retry) (attempt : Nat) : Preflight where
  endpoints := r.endpoints
  direct := r.direct attempt
  pool := r.pool attempt
  proxied := r.proxied attempt

/-- The loop, which has no bound of its own; none where it goes on for longer than `fuel`
attempts. -/
def Retry.loop (r : Retry) : (fuel : Nat) → (attempt : Nat) → (backoff : Duration) →
    Option (Except Err Unit)
  | 0, _, _ => none
  | fuel + 1, attempt, backoff =>
      match (r.check attempt).preflightSanityCheck with
      | .ok _ => some (.ok ())
      | .error err =>
          if err.is .preflightLeaked then some (.error err)
          else if !err.is .egressUnavailable && !err.is .preflightFailed then some (.error err)
          else if r.deadline attempt backoff then
            some (.error (.wrap err (utf8 ("preflight gave up after " ++ toString attempt ++
              " attempt(s)"))))
          else r.loop fuel (attempt + 1) (nextBackoff backoff)

def Retry.preflightSanityCheckWithRetry (r : Retry) (fuel : Nat) : Option (Except Err Unit) :=
  r.loop fuel 1 preflightRetryBackoffStart

end Pr0xteus.ClientLib
