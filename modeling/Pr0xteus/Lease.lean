import Pr0xteus.Lib.Sha256
import Pr0xteus.Types

/-!
# The lease registry

A lease is a random identifier and a random secret, kept as a digest. `Issue` and `Lookup` read the
clock and draw their random bytes before they take the registry's mutex; what they do under it is
`insertLocked` and `lookupLocked`, and the whole calls are `issue` and `lookup`.
-/

namespace Pr0xteus

open Encoding GoTime

structure ProxyLeaseRecord where
  pool : String
  containerID : String
  internalURL : URL
  gatewayAddr : String
  secretDigest : List UInt8
  expiresAt : Int
  deriving DecidableEq, Repr

structure ProxyURLs where
  socks5 : String
  http : String
  deriving DecidableEq, Repr

structure ProxyLease where
  proxies : ProxyURLs
  expiresAt : Int
  deriving DecidableEq, Repr

structure LeaseRegistry where
  socksPublicAddr : String
  httpProxyPublicAddr : String
  ttl : Duration
  leases : AList fun _ : String => ProxyLeaseRecord

/-- `newLeaseRegistry`, with the arguments `NewManager` passes. -/
def newLeaseRegistry (cfg : Config) : LeaseRegistry :=
  ⟨cfg.socksPublicAddrOrDefault, cfg.httpProxyPublicAddrOrDefault, cfg.proxyLeaseTTLOrDefault, ∅⟩

def proxyLeaseSecretBytes : Nat := 32

abbrev LeaseBytes := Vector UInt8 proxyLeaseSecretBytes

def newLeasePart (bytes : LeaseBytes) : String := rawURLEncode bytes.toList

def secretDigest (secret : String) : List UInt8 := Sha256.sum256 (utf8 secret)

/-- The tunnel and URL of an acquisition that `Issue` accepts: every field a lease records is set. -/
def leasable (tunnel : Option Tunnel) (pool : String) : Except CtxError (Tunnel × URL) :=
  match tunnel with
  | none => .error ⟨.poolUnavailable, "allocated tunnel has no controller gateway"⟩
  | some t =>
      match t.proxyURL with
      | none => .error ⟨.poolUnavailable, "allocated tunnel has no controller gateway"⟩
      | some url =>
          if pool = "" ∨ t.containerID = "" ∨ t.gatewayAddr = "" then
            .error ⟨.poolUnavailable, "allocated tunnel has no controller gateway"⟩
          else .ok (t, url)

def leaseRecord (acq : Acquisition) (url : URL) (secret : String) (expiresAt : Int) :
    ProxyLeaseRecord :=
  { pool := acq.pool
    containerID := acq.tunnel.containerID
    internalURL := url
    gatewayAddr := acq.tunnel.gatewayAddr
    secretDigest := secretDigest secret
    expiresAt := expiresAt }

namespace LeaseRegistry

def pruneExpiredLocked (r : LeaseRegistry) (now : Int) : LeaseRegistry :=
  { r with leases := FinMap.keep (fun record => decide (now < record.expiresAt)) r.leases }

def insertLocked (r : LeaseRegistry) (now : Int) (leaseID : String) (record : ProxyLeaseRecord) :
    LeaseRegistry :=
  let r := r.pruneExpiredLocked now
  { r with leases := r.leases.insert leaseID record }

def lookupLocked (r : LeaseRegistry) (now : Int) (leaseID : String) (digest : List UInt8) :
    Option ProxyLeaseRecord × LeaseRegistry :=
  let r := r.pruneExpiredLocked now
  ((r.leases.lookup leaseID).filter fun record => record.secretDigest = digest, r)

def leaseURLs (r : LeaseRegistry) (leaseID secret : String) : ProxyURLs :=
  let user : Option Userinfo := some ⟨leaseID, some secret⟩
  ⟨(URL.mk proxySchemeSOCKS5 user r.socksPublicAddr).text,
    (URL.mk proxySchemeHTTP user r.httpProxyPublicAddr).text⟩

/-- The rest of `Issue`, once the acquisition is checked and the credentials are drawn. -/
def issueLocked (r : LeaseRegistry) (now : Int) (leaseID secret : String) (acq : Acquisition)
    (url : URL) : ProxyLease × LeaseRegistry :=
  let expiresAt := add now r.ttl
  (⟨r.leaseURLs leaseID secret, expiresAt⟩,
    r.insertLocked now leaseID (leaseRecord acq url secret expiresAt))

/-- The random bytes of one `Issue`: the identifier's and the secret's, each absent when reading
them failed. -/
structure Draw where
  leaseID : Option LeaseBytes
  secret : Option LeaseBytes

/-- Why `Issue` failed: the acquisition was refused, or the random source was. -/
inductive IssueError where
  | acquisition (err : CtxError)
  | leaseID
  | secret
  deriving DecidableEq, Repr

def issue (r : LeaseRegistry) (now : Int) (draw : Draw) (tunnel : Option Tunnel) (pool : String) :
    Except IssueError ProxyLease × LeaseRegistry :=
  match leasable tunnel pool with
  | .error err => (.error (.acquisition err), r)
  | .ok (t, url) =>
      match draw.leaseID with
      | none => (.error .leaseID, r)
      | some idBytes =>
          match draw.secret with
          | none => (.error .secret, r)
          | some secretBytes =>
              let result :=
                r.issueLocked now (newLeasePart idBytes) (newLeasePart secretBytes) ⟨t, pool⟩ url
              (.ok result.1, result.2)

def lookup (r : LeaseRegistry) (now : Int) (leaseID secret : String) :
    Option ProxyLeaseRecord × LeaseRegistry :=
  r.lookupLocked now leaseID (secretDigest secret)

end LeaseRegistry

end Pr0xteus
