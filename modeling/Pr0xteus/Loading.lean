import Pr0xteus.Lib.Fallible
import Pr0xteus.Lib.Text
import Pr0xteus.Machine
import Mathlib.Data.Finset.Insert
import Mathlib.Data.List.Sort

/-!
# The pools file and the routing file

What the service reads before it builds the manager. A file is what unmarshalling it gave, or why
that failed. A map of a file is an `AList`, and the order of its entries is the order in which a range
over it visits them, so what holds of all files holds of all orders.
-/

namespace Pr0xteus

open Encoding Text

inductive LoadSentinel where
  | configInvalid
  | bundleConfMissing
  deriving DecidableEq, Repr

structure LoadError where
  err : LoadSentinel
  message : String
  deriving DecidableEq, Repr

inductive YamlFile (α : Type) where
  | unreadable (reason : String)
  | malformed (reason : String)
  | parsed (value : α)

/-- The `os.ReadFile` and `yaml.Unmarshal` that both loaders begin with. -/
def YamlFile.load {α : Type} (path : String) : YamlFile α → Except LoadError α
  | .unreadable reason => .error ⟨.configInvalid, "read " ++ path ++ ": " ++ reason⟩
  | .malformed reason => .error ⟨.configInvalid, "yaml unmarshal " ++ path ++ ": " ++ reason⟩
  | .parsed value => .ok value

section Pools

structure PoolEntry where
  region : String
  purpose : String
  configs : List String
  exitCountries : AList fun _ : String => String
  fallbackPool : String

structure PoolsFile where
  pools : AList fun _ : String => PoolEntry

/-- A pool as the loader returns it: what the manager uses, and what its views print. -/
structure LoadedPool extends PoolSpec where
  region : String
  purpose : String
  exitCountries : AList fun _ : String => String

abbrev PoolSpecs := AList fun _ : String => LoadedPool

def readPoolsFile (path : String) (file : YamlFile PoolsFile) : Except LoadError PoolsFile := do
  let parsed ← file.load path
  if parsed.pools.entries.isEmpty then .error ⟨.configInvalid, "pools.yaml has no pools"⟩
  else .ok parsed

structure DirEntry where
  name : String
  isDir : Bool

def readBundle (bundleDir : String) (dir : Except String (List DirEntry)) :
    Except LoadError (Finset String) :=
  match dir with
  | .error reason =>
      .error ⟨.configInvalid, "read bundle dir " ++ bundleDir ++ ": " ++ reason⟩
  | .ok entries =>
      .ok (entries.foldl (fun out e =>
        if e.isDir || !hasSuffix e.name ".conf" then out
        else insert (trimSuffix e.name ".conf") out) ∅)

def countryCodeLength : Nat := 2

def isASCIIAlpha (value : UInt8) : Bool := (97 ≤ value && value ≤ 122) || (65 ≤ value && value ≤ 90)

def isCountryCode (country : String) : Bool :=
  let trimmed := utf8 (trimSpace country)
  trimmed.length == countryCodeLength && trimmed.all isASCIIAlpha

def normalizeExitCountries (t : CaseTable) (configs : List String)
    (exitCountries : AList fun _ : String => String) :
    Except LoadError (AList fun _ : String => String) :=
  exitCountries.entries.foldlM (fun normalized e =>
    if e.1 ∉ configs then
      .error ⟨.configInvalid, "exit_countries names config " ++ quote e.1 ++ " outside its pool"⟩
    else
      let country := t.toUpper (trimSpace e.2)
      if !isCountryCode country then
        .error ⟨.configInvalid,
          "exit_countries[" ++ quote e.1 ++ "] must be an ISO 3166-1 alpha-2 code"⟩
      else .ok (normalized.insert e.1 country)) ∅

def checkConfs (bundle : Finset String) (bundleDir name : String) (configs : List String) :
    Except LoadError Unit :=
  forM configs fun conf =>
    if conf ∉ bundle then
      .error ⟨.bundleConfMissing,
        "pool " ++ quote name ++ " references " ++ quote conf ++ ", not in " ++ bundleDir⟩
    else .ok ()

/-- One pass of the loop of `buildSpecs`. -/
def buildSpec (t : CaseTable) (bundle : Finset String) (bundleDir name : String)
    (entry : PoolEntry) : Except LoadError LoadedPool :=
  if entry.configs.isEmpty then .error ⟨.configInvalid, "pool " ++ quote name ++ " has no configs"⟩
  else do
    checkConfs bundle bundleDir name entry.configs
    let configs := entry.configs.insertionSort (· ≤ ·)
    let exitCountries ← normalizeExitCountries t configs entry.exitCountries
    .ok
      { name := name
        region := entry.region
        purpose := entry.purpose
        configs := configs
        exitCountries := exitCountries
        fallbackPool := entry.fallbackPool }

def buildSpecs (t : CaseTable) (parsed : PoolsFile) (bundle : Finset String) (bundleDir : String) :
    Except LoadError (PoolSpecs × Finset String) :=
  parsed.pools.entries.foldlM (fun acc e => do
    let spec ← buildSpec t bundle bundleDir e.1 e.2
    .ok (acc.1.insert e.1 spec, insert e.1 acc.2)) (∅, ∅)

def validateFallbacks (specs : PoolSpecs) : Except LoadError Unit :=
  forM specs.entries fun e =>
    if e.2.fallbackPool = "" then .ok ()
    else if e.2.fallbackPool ∉ specs then
      .error ⟨.configInvalid,
        "pool " ++ quote e.1 ++ " fallback " ++ quote e.2.fallbackPool ++ " not defined"⟩
    else .ok ()

def loadPoolSpecs (t : CaseTable) (path bundleDir : String) (file : YamlFile PoolsFile)
    (dir : Except String (List DirEntry)) : Except LoadError (PoolSpecs × Finset String) := do
  let parsed ← readPoolsFile path file
  let bundle ← readBundle bundleDir dir
  let (specs, known) ← buildSpecs t parsed bundle bundleDir
  validateFallbacks specs
  .ok (specs, known)

end Pools

section Routing

structure RoutingFile where
  countryToPool : AList fun _ : String => String
  defaultPool : String

structure Router where
  countryToPool : AList fun _ : String => String
  defaultPool : String

/-- The form in which country codes are compared. -/
def countryKey (t : CaseTable) (country : String) : String := t.toLower (trimSpace country)

def loadRouter (t : CaseTable) (path fallbackDefault : String) (knownPools : Finset String)
    (file : YamlFile RoutingFile) : Except LoadError Router := do
  let parsed ← file.load path
  let normalized ← parsed.countryToPool.entries.foldlM (fun normalized e =>
    if e.2 ∈ knownPools then .ok (normalized.insert (countryKey t e.1) e.2)
    else .error ⟨.configInvalid,
      "country " ++ countryKey t e.1 ++ " routes to unknown pool " ++ quote e.2⟩) ∅
  let defaultPool := if parsed.defaultPool = "" then fallbackDefault else parsed.defaultPool
  if defaultPool ≠ "" ∧ defaultPool ∉ knownPools then
    .error ⟨.configInvalid, "default pool " ++ quote defaultPool ++ " is not in pools.yaml"⟩
  else .ok ⟨normalized, defaultPool⟩

def Router.resolve (t : CaseTable) (r : Router) (country : String) : Except CtxError String :=
  let key := countryKey t country
  match r.countryToPool.lookup key with
  | some pool => .ok pool
  | none =>
      if r.defaultPool = "" then
        .error ⟨.invalidCountry,
          "country " ++ quote key ++ " has no pool and no default configured"⟩
      else .ok r.defaultPool

end Routing

/-- `AcquireForCountry` up to the `acquireFromPool` that it ends with. -/
def acquireForCountry (t : CaseTable) (r : Router) (country : String) (excludeProxy : Option URL)
    (fallbackOK : Bool) : Except CtxError Entry := do
  let poolName ← r.resolve t country
  .ok (.proxy poolName excludeProxy fallbackOK)

inductive IssueLeaseError where
  | issue (err : LeaseRegistry.IssueError)
  | manager (err : CtxError)
  deriving DecidableEq, Repr

def IssueLeaseError.sentinel : IssueLeaseError → Option Sentinel
  | .issue (.acquisition err) => some err.err
  | .issue .leaseID | .issue .secret => none
  | .manager err => some err.err

/-- `Manager.IssueLease`. -/
def issueLease (s : Shared) (now : Int) (draw : LeaseRegistry.Draw) (acq : Acquisition) :
    Except IssueLeaseError ProxyLease × Shared :=
  let issued := s.leases.issue now draw (some acq.tunnel) acq.pool
  let s := { s with leases := issued.2 }
  match issued.1 with
  | .error err => (.error (.issue err), s)
  | .ok lease =>
      match s.pools acq.pool with
      | none => (.error (.manager (unknownPool acq.pool)), s)
      | some _ =>
          (.ok lease, (s.modifyPool acq.pool fun p =>
            p.setLastURL acq.tunnel.containerID lease.proxies.socks5 lease.expiresAt).1)

end Pr0xteus
