import Pr0xteus.Lib.Url
import Pr0xteus.Loading

/-!
# Addresses, checked and read back

`validatePorts` checks the addresses the operator configures with one parser, and
`ResolveExcludedProxy` reads the URLs made of them with another.
-/

namespace Pr0xteus

open Encoding Text Net Bytes

/-- The fields of the configuration that `validatePorts` checks, beside those the manager uses. -/
structure ServiceConfig extends Config where
  socksAddr : String
  httpProxyAddr : String
  cellSocksPort : Int
  cellControlPort : Int

def minPort : Int := 1

def maxPort : Int := 65535

def isBlank (host : List UInt8) : Bool := (text? host).any fun s => trimSpace s = ""

def validateTCPAddress (address : String) (allowEmptyHost : Bool) (envName : String) :
    Except LoadError Unit :=
  match splitHostPort (utf8 address) with
  | none => .error ⟨.configInvalid, envName ++ " must be host:port"⟩
  | some (host, rawPort) =>
      if !allowEmptyHost && isBlank host then
        .error ⟨.configInvalid, envName ++ " host is required"⟩
      else if (atoi rawPort).any fun port => minPort ≤ port ∧ port ≤ maxPort then .ok ()
      else .error ⟨.configInvalid, envName ++ " port must be in 1..65535"⟩

namespace ServiceConfig

def validateProxyAddresses (cfg : ServiceConfig) : Except LoadError Unit := do
  validateTCPAddress cfg.socksAddr true "TUNNEL_POOL_SOCKS_ADDR"
  validateTCPAddress cfg.socksPublicAddr false "TUNNEL_POOL_SOCKS_PUBLIC_ADDR"
  validateTCPAddress cfg.httpProxyAddr true "TUNNEL_POOL_HTTP_PROXY_ADDR"
  validateTCPAddress cfg.httpProxyPublicAddr false "TUNNEL_POOL_HTTP_PROXY_PUBLIC_ADDR"

def validateCellPorts (cfg : ServiceConfig) : Except LoadError Unit :=
  if cfg.cellSocksPort < minPort ∨ maxPort < cfg.cellSocksPort then
    .error ⟨.configInvalid, "PR0XTEUS_CELL_SOCKS_PORT must be in 1..65535"⟩
  else if cfg.cellControlPort < minPort ∨ maxPort < cfg.cellControlPort then
    .error ⟨.configInvalid, "PR0XTEUS_CELL_CONTROL_PORT must be in 1..65535"⟩
  else if cfg.cellControlPort = cfg.cellSocksPort then
    .error ⟨.configInvalid, "PR0XTEUS_CELL_CONTROL_PORT must differ from PR0XTEUS_CELL_SOCKS_PORT"⟩
  else .ok ()

def validatePorts (cfg : ServiceConfig) : Except LoadError Unit := do
  cfg.validateProxyAddresses
  if cfg.proxyLeaseTTL ≤ 0 then
    .error ⟨.configInvalid, "TUNNEL_POOL_PROXY_LEASE_TTL must be positive"⟩
  else cfg.validateCellPorts

end ServiceConfig

/-- What a caller's `excludeProxy` stands for: a cell's own URL, or the one a lease records. -/
inductive ExcludedProxy where
  | direct (url : ParsedURL)
  | leased (url : URL)
  deriving DecidableEq, Repr

/-- `Lookup` with credentials as they come out of a URL; no lease has an identifier that is not
text. -/
def LeaseRegistry.lookupBytes (r : LeaseRegistry) (now : Int) (leaseID secret : List UInt8) :
    Option ProxyLeaseRecord × LeaseRegistry :=
  match text? leaseID with
  | some leaseID => r.lookupLocked now leaseID (Sha256.sum256 secret)
  | none => (none, r.pruneExpiredLocked now)

def resolveExcludedProxy (r : LeaseRegistry) (now : Int) (raw : String) :
    Except CtxError ExcludedProxy × LeaseRegistry :=
  match parseRequestURI (utf8 raw) with
  | none => (.error ⟨.invalidCountry, "invalid excluded proxy URL"⟩, r)
  | some url =>
      if url.scheme ≠ utf8 proxySchemeSOCKS5 ∨ url.host = [] ∨ url.port = [] then
        (.error ⟨.invalidCountry, "invalid excluded proxy URL"⟩, r)
      else
        match url.user with
        | none => (.ok (.direct url), r)
        | some ⟨_, none⟩ =>
            (.error ⟨.invalidCountry, "excluded controller proxy lacks password"⟩, r)
        | some ⟨username, some password⟩ =>
            match r.lookupBytes now username password with
            | (some record, r) => (.ok (.leased record.internalURL), r)
            | (none, r) =>
                (.error ⟨.invalidCountry, "excluded controller proxy is expired or unknown"⟩, r)

end Pr0xteus
