import Pr0xteus.Lib.Encoding
import Pr0xteus.Lib.FinMap
import Pr0xteus.Lib.GoTime

/-!
# Tunnels, pools and configuration

The values the controller passes around. A `*url.URL` or `*Tunnel` that may be nil is an `Option`,
and an instant is an `Int` of nanoseconds. The metrics, the log lines and the fields that only the
admin views and responses print are left out.
-/

namespace Pr0xteus

open Encoding GoTime

inductive Sentinel where
  | poolUnavailable
  | poolExhausted
  | unknownPool
  | invalidCountry
  deriving DecidableEq, Repr

/-- A sentinel wrapped with a message. The call site that the wrapper also records is left out. -/
structure CtxError where
  err : Sentinel
  message : String
  deriving DecidableEq, Repr

inductive TunnelState where
  | spawning
  | hot
  | unhealthy
  | reaping
  deriving DecidableEq, Repr

def TunnelState.text : TunnelState → String
  | .spawning => "spawning"
  | .hot => "hot"
  | .unhealthy => "unhealthy"
  | .reaping => "reaping"

/-- One cell container, as the pool that owns it sees it. -/
structure Tunnel where
  containerID : String
  confName : String
  proxyURL : Option URL
  gatewayAddr : String
  state : TunnelState
  pool : String
  spawnedAt : Int
  healthyAt : Int
  lastUsedAt : Int
  lastURL : String
  lastURLExpiresAt : Int
  inFlight : Int
  deriving DecidableEq, Repr

/-- The definition of one logical pool, fixed at startup. An empty fallback is none. -/
structure PoolSpec where
  name : String
  configs : List String
  fallbackPool : String
  deriving DecidableEq, Repr

/-- What an allocation hands to its caller: a copy of the tunnel and the pool to release it to. -/
structure Acquisition where
  tunnel : Tunnel
  pool : String
  deriving DecidableEq, Repr

structure Config where
  socksPublicAddr : String
  httpProxyPublicAddr : String
  proxyLeaseTTL : Duration
  idleTimeout : Duration
  spawnTimeout : Duration
  healthHandshakeMaxAge : Duration
  failureCacheTTL : Duration

def defaultSOCKSPublicAddr : String := "127.0.0.1:1080"

def defaultHTTPProxyPublicAddr : String := "127.0.0.1:8080"

def defaultProxyLeaseTTL : Duration := 900 * second

namespace Config

def socksPublicAddrOrDefault (cfg : Config) : String :=
  if cfg.socksPublicAddr ≠ "" then cfg.socksPublicAddr else defaultSOCKSPublicAddr

def httpProxyPublicAddrOrDefault (cfg : Config) : String :=
  if cfg.httpProxyPublicAddr ≠ "" then cfg.httpProxyPublicAddr else defaultHTTPProxyPublicAddr

def proxyLeaseTTLOrDefault (cfg : Config) : Duration :=
  if 0 < cfg.proxyLeaseTTL then cfg.proxyLeaseTTL else defaultProxyLeaseTTL

/-- Whatever the environment says, leases live for a positive time. -/
theorem proxyLeaseTTLOrDefault_pos (cfg : Config) : 0 < cfg.proxyLeaseTTLOrDefault := by
  unfold proxyLeaseTTLOrDefault
  split
  · assumption
  · decide

end Config

def proxySchemeSOCKS5 : String := "socks5"

def proxySchemeHTTP : String := "http"

/-- Two proxies are the same when scheme and host agree; nothing else is compared. -/
def sameURL (a b : URL) : Bool := a.scheme == b.scheme && a.host == b.host

end Pr0xteus
