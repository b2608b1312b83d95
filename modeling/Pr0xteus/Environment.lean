import Pr0xteus.CellNetwork
import Pr0xteus.Lib.ParseDuration

/-!
# The environment

`LoadConfig` from the environment on: `gonfiguration.Parse` fills each field from its variable, or from
the default of its tag, and what is checked afterwards is `loadConfig`. The fields that are texts and
that nothing checks are left out; setting them does not fail.
-/

namespace Pr0xteus

open Encoding Text GoTime

/-- The variables that are set, with their values. -/
abbrev Environ := String → Option String

/-- The fields of the configuration with the interval of the health checks, which nothing checks. -/
structure EnvConfig extends CellConfig where
  healthCheckInterval : Duration

namespace Gonfiguration

section Fields

variable (env : Environ) (key : String)

/-- `fillFieldValue`, for a field that `setEnvVarValue` sets by `set`. The value of the environment
comes before the default of the tag, which has to be one that the field can have. -/
def fillFieldValue {α : Type} (set : String → Except String α) (zero : α) (required : Bool)
    (tagDefault : Option String) : Except String α := do
  let value ←
    match tagDefault with
    | none => .ok zero
    | some text =>
        (set text).mapError fun reason =>
          "field " ++ key ++ ": invalid default tag value " ++ quote text ++ ": " ++ reason
  match env key with
  | none =>
      if required ∧ tagDefault = none then .error ("field " ++ key ++ ": required field not set")
      else .ok value
  | some envVal => set envVal

def setInt (envVal : String) : Except String Int :=
  match Net.atoi (utf8 envVal) with
  | none => .error "failed to parse int"
  | some num => .ok num

def setDuration (envVal : String) : Except String Duration :=
  match parseDuration (utf8 envVal) with
  | none => .error "failed to parse duration"
  | some d => .ok d

def stringField (tagDefault : String) : Except String String :=
  fillFieldValue env key .ok "" false (some tagDefault)

def intField (tagDefault : String) : Except String Int :=
  fillFieldValue env key setInt 0 false (some tagDefault)

def durationField (tagDefault : String) : Except String Duration :=
  fillFieldValue env key setDuration 0 false (some tagDefault)

end Fields

/-- `parseDstFields`, by the order and the tags of the fields. -/
def parseDstFields (env : Environ) : Except String EnvConfig := do
  let socksAddr ← stringField env "TUNNEL_POOL_SOCKS_ADDR" ":1080"
  let socksPublicAddr ← stringField env "TUNNEL_POOL_SOCKS_PUBLIC_ADDR" "127.0.0.1:1080"
  let httpProxyAddr ← stringField env "TUNNEL_POOL_HTTP_PROXY_ADDR" ":8080"
  let httpProxyPublicAddr ← stringField env "TUNNEL_POOL_HTTP_PROXY_PUBLIC_ADDR" "127.0.0.1:8080"
  let proxyLeaseTTL ← durationField env "TUNNEL_POOL_PROXY_LEASE_TTL" "15m"
  let idleTimeout ← durationField env "TUNNEL_POOL_IDLE_TIMEOUT" "10m"
  let spawnTimeout ← durationField env "TUNNEL_POOL_SPAWN_TIMEOUT" "20s"
  let healthCheckInterval ← durationField env "TUNNEL_POOL_HEALTH_CHECK_INTERVAL" "30s"
  let healthHandshakeMaxAge ← durationField env "TUNNEL_POOL_HEALTH_HANDSHAKE_MAX_AGE" "180s"
  let failureCacheTTL ← durationField env "TUNNEL_POOL_FAILURE_CACHE_TTL" "5m"
  let cellSocksPort ← intField env "PR0XTEUS_CELL_SOCKS_PORT" "1080"
  let cellControlPort ← intField env "PR0XTEUS_CELL_CONTROL_PORT" "9090"
  let parentID ← fillFieldValue env "PR0XTEUS_PARENT_ID" .ok "" false none
  let cellNetwork ← stringField env "PR0XTEUS_CELL_NETWORK" ""
  let cellControlNetwork ← stringField env "PR0XTEUS_CELL_CONTROL_NETWORK" ""
  let managedScope ← stringField env "PR0XTEUS_MANAGED_SCOPE" "default"
  let apiToken ← fillFieldValue env "PR0XTEUS_API_TOKEN" .ok "" true none
  .ok
    { socksAddr, socksPublicAddr, httpProxyAddr, httpProxyPublicAddr, proxyLeaseTTL, idleTimeout,
      spawnTimeout, healthCheckInterval, healthHandshakeMaxAge, failureCacheTTL, cellSocksPort,
      cellControlPort, parentID, cellNetwork, cellControlNetwork, managedScope
      -- the image has no variable
      cellImage := ""
      apiToken := utf8 apiToken }

def parse (env : Environ) : Except String EnvConfig :=
  (parseDstFields env).mapError fun reason =>
    "failed to parse fields: failed to set field value: " ++ reason

end Gonfiguration

/-- `LoadConfig`, given the image that the build is paired with and the host's name. -/
def EnvConfig.loadConfig (env : Environ) (cellImage : String) (hostname : Option String) :
    Except ConfigError EnvConfig := do
  let parsed ← (Gonfiguration.parse env).mapError fun reason =>
    .wrap (.system reason) "parse pr0xteus env"
  let cfg ← Pr0xteus.loadConfig (.ok parsed.toCellConfig) cellImage hostname
  .ok ⟨cfg, parsed.healthCheckInterval⟩

end Pr0xteus
