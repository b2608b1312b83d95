import Pr0xteus.Addresses
import Pr0xteus.Bootstrap
import Pr0xteus.Ownership

/-!
# The networks of a cell

`LoadConfig`, the part of a container's definition that attaches it to docker networks, and the
functions that look for the container on a network afterwards. An address of docker is its text; one
that is not valid is none. An endpoint that the report has as nil is one that it does not have.
-/

namespace Pr0xteus

open Encoding Text Net

/-- The rest of the configuration that the spawner reads, and what `LoadConfig` checks besides. -/
structure CellConfig extends ServiceConfig where
  cellImage : String
  parentID : String
  cellNetwork : String
  cellControlNetwork : String
  managedScope : String
  apiToken : List UInt8

section LoadConfig

/-- `resolveParentID`, given the host's name where it is known. -/
def CellConfig.resolveParentID (cfg : CellConfig) (hostname : Option String) : CellConfig :=
  if trimSpace cfg.parentID ≠ "" then cfg
  else
    match hostname with
    | none => cfg
    | some hostname => { cfg with parentID := trimSpace hostname }

/-- `LoadConfig`, given what the environment parses to, the image that the build is paired with and
the host's name. -/
def loadConfig (env : Except String CellConfig) (cellImage : String) (hostname : Option String) :
    Except ConfigError CellConfig := do
  let parsed ← env.mapError fun reason => .wrap (.system reason) "parse pr0xteus env"
  let cfg := { parsed with cellImage }
  cfg.validatePorts.mapError .load
  let cfg := cfg.resolveParentID hostname
  let _ ← wrapLoad "validate PR0XTEUS_API_TOKEN" (validateAPIToken cfg.apiToken)
  if trimSpace cfg.managedScope = "" then .error (.invalid "PR0XTEUS_MANAGED_SCOPE required")
  else .ok cfg

end LoadConfig

section Attachment

structure PortBinding where
  hostIP : String
  hostPort : String
  deriving DecidableEq, Repr

/-- The network part of a host configuration; the empty mode is docker's default. -/
structure HostNetwork where
  networkMode : String := ""
  portBindings : List (Int × PortBinding) := []

def loopbackBindAddr : String := "127.0.0.1"

def cellEgressGwPriority : Int := 1

def cellControlGwPriority : Int := 0

namespace CellConfig

def buildHostConfig (cfg : CellConfig) : HostNetwork :=
  if cfg.cellNetwork ≠ "" then
    -- a mode beside a second endpoint is refused by the daemon
    if cfg.cellControlNetwork = "" then { networkMode := cfg.cellNetwork } else {}
  else { portBindings := [(cfg.cellSocksPort, ⟨loopbackBindAddr, ""⟩)] }

/-- The endpoints that a container is created with, each with its gateway priority. -/
def buildNetworkingConfig (cfg : CellConfig) : Option (AList fun _ : String => Int) :=
  if cfg.cellNetwork = "" then none
  else
    let endpoints := (∅ : AList fun _ : String => Int).insert cfg.cellNetwork cellEgressGwPriority
    if cfg.cellControlNetwork ≠ "" then
      some (endpoints.insert cfg.cellControlNetwork cellControlGwPriority)
    else some endpoints

/-- The network that docker attaches a container to that names none. -/
def defaultBridge : String := "bridge"

/-- The networks of a container with this definition. -/
def attachedNetworks (cfg : CellConfig) : List String :=
  let mode := cfg.buildHostConfig.networkMode
  let named := (if mode = "" then [] else [mode]) ++
    (cfg.buildNetworkingConfig.map AList.keys).getD []
  if named = [] then [defaultBridge] else named

end CellConfig

end Attachment

section Report

structure EndpointSettings where
  ipAddress : Option String
  deriving DecidableEq, Repr

abbrev Networks := String → Option EndpointSettings

/-- What an inspection reports of the networks. Ports are those of TCP. -/
structure NetworkSettings where
  networks : Networks
  ports : Int → List PortBinding

/-- An inspection: its error, or the settings where it has any. -/
abbrev Inspection := Except String (Option NetworkSettings)

def controlURLScheme : String := "http"

/-- The address of the cell on one network. -/
def endpointAddress (networks : Networks) (network : String) : Option String :=
  (networks network).bind EndpointSettings.ipAddress

/-- Whether a cell accepts a connection, and whether its control port reports it healthy. -/
structure CellProbes where
  probeSocks5 : String → Bool
  healthy : URL → Bool

namespace CellConfig

def controlURL (cfg : CellConfig) (ipAddress : String) : URL :=
  ⟨controlURLScheme, none, joinHostPort ipAddress (toString cfg.cellControlPort)⟩

def controlURLFromInspect (cfg : CellConfig) (settings : Option NetworkSettings) : Option URL :=
  match settings with
  | none => none
  | some settings =>
      let controlNet :=
        if cfg.cellControlNetwork = "" then cfg.cellNetwork else cfg.cellControlNetwork
      (endpointAddress settings.networks controlNet).map cfg.controlURL

/-- `controlURLFromSummary`; a listed container may come without networks. -/
def controlURLFromSummary (cfg : CellConfig) (networks : Option Networks) : Option URL :=
  if cfg.cellNetwork = "" then none
  else
    match networks with
    | none => none
    | some networks =>
        let controlNetwork :=
          if cfg.cellControlNetwork ≠ "" then cfg.cellControlNetwork else cfg.cellNetwork
        (endpointAddress networks controlNetwork).map cfg.controlURL

/-- `resolveSocksAddr`; an empty address is one that is not there yet. -/
def resolveSocksAddr (cfg : CellConfig) (containerName : String) (info : Inspection) :
    Except String String :=
  if cfg.cellNetwork ≠ "" then .ok (joinHostPort containerName (toString cfg.cellSocksPort))
  else
    match info with
    | .error reason => .error ("inspect container: " ++ reason)
    | .ok none => .error "no NetworkSettings on inspect response"
    | .ok (some settings) =>
        match settings.ports cfg.cellSocksPort with
        | [] => .ok ""
        | binding :: _ => .ok (joinHostPort binding.hostIP binding.hostPort)

def probeCellReady (cfg : CellConfig) (probes : CellProbes) (info : Inspection)
    (socksAddr : String) : Except String Bool :=
  if cfg.cellControlNetwork = "" then .ok (probes.probeSocks5 socksAddr)
  else
    match info with
    | .error reason => .error ("inspect container: " ++ reason)
    | .ok settings => .ok ((cfg.controlURLFromInspect settings).any probes.healthy)

def resolveGatewayAddr (cfg : CellConfig) (info : Inspection) (socksAddr : String) :
    Except String String :=
  if cfg.cellControlNetwork = "" then .ok socksAddr
  else
    match info with
    | .error reason => .error ("inspect cell control endpoint: " ++ reason)
    | .ok none => .error "no NetworkSettings on control endpoint inspect"
    | .ok (some settings) =>
        match endpointAddress settings.networks cfg.cellControlNetwork with
        | none => .ok ""
        | some ipAddress => .ok (joinHostPort ipAddress (toString cfg.cellSocksPort))

end CellConfig

end Report

/-- A deployment with these two networks. -/
def Schedule.cells (cellNetwork cellControlNetwork : String) : CellConfig :=
  { Schedule.setup.cfg with
    socksPublicAddr := "127.0.0.1:1080"
    httpProxyPublicAddr := "127.0.0.1:8080"
    proxyLeaseTTL := 900 * GoTime.second
    socksAddr := ":1080"
    httpProxyAddr := ":8080"
    cellSocksPort := 1080
    cellControlPort := 9090
    cellImage := "psyb0t/pr0xteus:cell-dev"
    parentID := "controller"
    cellNetwork := cellNetwork
    cellControlNetwork := cellControlNetwork
    managedScope := "default"
    apiToken := utf8 "token" }

end Pr0xteus
