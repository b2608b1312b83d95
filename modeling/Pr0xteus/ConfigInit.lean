import Mathlib.Data.List.Infix
import Pr0xteus.Lib.Effects
import Pr0xteus.Lib.Net
import Pr0xteus.Bootstrap

/-!
# Writing a starter configuration

`BootstrapConfig` of `bootstrap.go`, which `config init` runs. It works on a tree of files through the
calls of the operating system. Each call may fail, and a write may fail after any number of bytes: the
answers are given in advance, one for each call, and the log keeps the calls together with their
answers. Whatever the answer, nothing is created where something is, and what is not there is neither
read nor renamed; apart from that the answers are free, so the runs here include those of a real file
system. The permissions of files are not in the tree, since nothing here reads them.
-/

namespace Pr0xteus

/-- The elements of a rooted path: where it leads. -/
abbrev Location := List (List Char)

def Filepath.elements (path : String) : Location := Filepath.cleanElements (path.toList.splitOn '/')

namespace ConfigInit

open Encoding Text Effects

/-! ## The file system -/

inductive Node where
  | directory
  | regular (contents : List UInt8)
  | symlink
  | other
  deriving DecidableEq

abbrev Tree := Location → Option Node

inductive FileOp where
  | lstat (loc : Location)
  | mkdirAll (loc : Location) (mode : Nat)
  | chmod (loc : Location) (mode : Nat)
  /-- `os.OpenFile` with `O_CREATE` and `O_EXCL` -/
  | create (loc : Location) (mode : Nat)
  | createTemp (dir : Location)
  | write (loc : Location) (contents : List UInt8)
  | close (loc : Location)
  | rename (source target : Location)
  | remove (loc : Location)
  | readFile (loc : Location)
  /-- `io.ReadFull(rand.Reader, token)` -/
  | readRandom
  deriving DecidableEq

def randomTokenBytes : Nat := 32

structure Answer where
  err : Option String := none
  /-- how many bytes a write wrote before it failed; how many directories were made -/
  count : Nat := 0
  /-- the random part of the name of a temporary file -/
  name : List Char := []
  random : Fin randomTokenBytes → UInt8 := fun _ => 0

structure Disk where
  tree : Tree
  log : List (FileOp × Answer) := []

abbrev FileM (α : Type) := Prog Disk ConfigError α

section Calls

variable (os : Nat → Answer)

def ask (op : FileOp) : FileM Answer := do
  let s ← get
  modify fun s => { s with log := s.log ++ [(op, os s.log.length)] }
  pure (os s.log.length)

def setNode (loc : Location) (node : Option Node) : FileM Unit :=
  modify fun s => { s with tree := Function.update s.tree loc node }

/-- An error other than that nothing is there. -/
def lstat (loc : Location) : FileM (Except String (Option Node)) := do
  let a ← ask os (.lstat loc)
  let s ← get
  match a.err with
  | some reason => pure (.error reason)
  | none => pure (.ok (s.tree loc))

/-- The directories are made from the root on. -/
def mkdirAll (loc : Location) (mode : Nat) : FileM (Option String) := do
  let a ← ask os (.mkdirAll loc mode)
  let made := if a.err.isSome then loc.inits.take a.count else loc.inits
  modify fun s =>
    { s with tree := fun l => if l ∈ made ∧ s.tree l = none then some .directory else s.tree l }
  pure a.err

def chmod (loc : Location) (mode : Nat) : FileM (Option String) := do
  let a ← ask os (.chmod loc mode)
  pure a.err

def create (loc : Location) (mode : Nat) : FileM (Option String) := do
  let a ← ask os (.create loc mode)
  let s ← get
  match a.err, s.tree loc with
  | some reason, _ => pure (some reason)
  | none, some _ => pure (some "file exists")
  | none, none => do
      setNode loc (some (.regular []))
      pure none

/-- `os.CreateTemp`, with the pattern `stem*`. -/
def createTemp (dir : Location) (stem : String) : FileM (Except String Location) := do
  let a ← ask os (.createTemp dir)
  let loc := dir ++ [stem.toList ++ a.name]
  let s ← get
  match a.err, s.tree loc with
  | some reason, _ => pure (.error reason)
  | none, some _ => pure (.error "file exists")
  | none, none => do
      setNode loc (some (.regular []))
      pure (.ok loc)

/-- A write to a file that was just created. -/
def write (loc : Location) (contents : List UInt8) : FileM (Option String) := do
  let a ← ask os (.write loc contents)
  setNode loc (some (.regular (if a.err.isSome then contents.take a.count else contents)))
  pure a.err

def close (loc : Location) : FileM (Option String) := do
  let a ← ask os (.close loc)
  pure a.err

def rename (source target : Location) : FileM (Option String) := do
  let a ← ask os (.rename source target)
  let s ← get
  match a.err, s.tree source with
  | some reason, _ => pure (some reason)
  | none, none => pure (some "no such file or directory")
  | none, some node => do
      setNode target (some node)
      setNode source none
      pure none

def remove (loc : Location) : FileM (Option String) := do
  let a ← ask os (.remove loc)
  match a.err with
  | some reason => pure (some reason)
  | none => do
      setNode loc none
      pure none

def readFile (loc : Location) : FileM (Except String (List UInt8)) := do
  let a ← ask os (.readFile loc)
  let s ← get
  match a.err, s.tree loc with
  | none, some (.regular contents) => pure (.ok contents)
  | some reason, _ => pure (.error reason)
  | none, _ => pure (.error "not a regular file")

end Calls

/-- `ctxerrors.Wrap` of a system error, where there is one. -/
def orFail (err : Option String) (message : String) : FileM Unit :=
  match err with
  | some reason => throw (.wrap (.system reason) message)
  | none => pure ()

def check {α : Type} : Except ConfigError α → FileM α
  | .ok value => pure value
  | .error err => throw err

/-! ## Single files -/

def bootstrapDirectoryMode : Nat := 0o700

def bootstrapFileMode : Nat := 0o600

def bootstrapExampleMode : Nat := 0o644

section Files

variable (os : Nat → Answer)

def notRegular (path : String) : ConfigError :=
  .invalid ("config path " ++ quote path ++ " must be a regular file")

def ensurePrivateDirectory (path : String) : FileM Unit := do
  match ← lstat os (Filepath.elements path) with
  | .ok none => do
      orFail (← mkdirAll os (Filepath.elements path) bootstrapDirectoryMode)
        "create config directory"
      orFail (← chmod os (Filepath.elements path) bootstrapDirectoryMode)
        "restrict config directory permissions"
  | .error reason => throw (.wrap (.system reason) "stat config directory")
  | .ok (some .directory) => pure ()
  | .ok (some _) => throw (.invalid ("config path " ++ quote path ++ " must be a real directory"))

/-- `writeFileIfAbsent` from `os.OpenFile` on. -/
def writeNewFile (loc : Location) (contents : List UInt8) : FileM Unit := do
  orFail (← create os loc bootstrapFileMode) "create config file"
  match ← write os loc contents with
  | some reason => do
      orFail (← close os loc) "close partially written config file"
      throw (.wrap (.system reason) "write config file")
  | none => orFail (← close os loc) "close config file"

/-- The value says whether the file was created. -/
def writeFileIfAbsent (path : String) (contents : List UInt8) : FileM Bool := do
  match ← lstat os (Filepath.elements path) with
  | .ok (some (.regular _)) => pure false
  | .ok (some _) => throw (notRegular path)
  | .error reason => throw (.wrap (.system reason) "stat config file")
  | .ok none => do
      writeNewFile os (Filepath.elements path) contents
      pure true

def validateExamplePath (path : String) : FileM Unit := do
  match ← lstat os (Filepath.elements path) with
  | .ok none => pure ()
  | .error reason => throw (.wrap (.system reason) "stat config example")
  | .ok (some (.regular _)) => pure ()
  | .ok (some _) => throw (notRegular path)

/-- `writeRefreshedFile`, from the temporary file to its new name. -/
def replaceThrough (temporary target : Location) (contents : List UInt8) (mode : Nat) :
    FileM Unit := do
  match ← chmod os temporary mode with
  | some reason => do
      let _ ← close os temporary
      throw (.wrap (.system reason) "set config example permissions")
  | none =>
      match ← write os temporary contents with
      | some reason => do
          let _ ← close os temporary
          throw (.wrap (.system reason) "write config example")
      | none => do
          orFail (← close os temporary) "close config example"
          orFail (← rename os temporary target) "replace config example"

/-- The temporary file is removed when the function returns. -/
def writeRefreshedFile (path : String) (contents : List UInt8) (mode : Nat) : FileM Unit := do
  validateExamplePath os path
  match ← createTemp os (Filepath.elements path).dropLast ".env.example-" with
  | .error reason => throw (.wrap (.system reason) "create config example")
  | .ok temporary => do
      let result ← observe (replaceThrough os temporary (Filepath.elements path) contents mode)
      let _ ← remove os temporary
      check result

def writeExampleFile (path : String) (contents : List UInt8) : FileM Unit :=
  writeRefreshedFile os path contents bootstrapExampleMode

end Files

/-! ## The managed line of `.env` -/

/-- The line has the key before its first `=`. -/
def assigns (key line : List UInt8) : Bool :=
  match Bytes.cut '='.toUInt8 line with
  | (_, none) => false
  | (lineKey, some _) => Utf8.trimSpace lineKey = key

def joinLines (lines : List (List UInt8)) : List UInt8 := ['\n'.toUInt8].intercalate lines

def replaceDotEnvValue (contents key value : List UInt8) : List UInt8 :=
  let lines := contents.splitOn '\n'.toUInt8
  let assignment := key ++ '='.toUInt8 :: value
  if lines.any (assigns key) then
    joinLines (lines.map fun line => if assigns key line then assignment else line)
  else if lines = [] then assignment ++ ['\n'.toUInt8]
  else if lines.getLast? = some [] then joinLines (lines.dropLast ++ [assignment, []])
  else joinLines (lines ++ [assignment, []])

section DotEnv

variable (os : Nat → Answer)

def readRegularDotEnv (path : String) : FileM (List UInt8) := do
  match ← lstat os (Filepath.elements path) with
  | .error reason => throw (.wrap (.system reason) "stat .env")
  | .ok none => throw (.wrap (.system "no such file or directory") "stat .env")
  | .ok (some (.regular _)) =>
      match ← readFile os (Filepath.elements path) with
      | .error reason => throw (.wrap (.system reason) "read .env")
      | .ok contents => pure contents
  | .ok (some _) => throw (notRegular path)

def upsertDotEnvValue (path : String) (key value : List UInt8) : FileM Unit := do
  let contents ← readRegularDotEnv os path
  let updated := replaceDotEnvValue contents key value
  if updated = contents then pure ()
  else writeRefreshedFile os path updated bootstrapFileMode

end DotEnv

/-! ## The options -/

structure BootstrapOptions where
  configDir : String
  hostConfigDir : String
  controllerImage : String
  runtimeUser : String
  development : Bool
  refreshRuntimeTemplates : Bool

structure BootstrapInput where
  configDir : String
  hostConfigDir : String
  controllerImage : String
  runtimeUser : String

/-- The user and the group of the process. -/
structure Process where
  uid : Nat
  gid : Nat

def checkedImageReference (value : String) : Except ConfigError String :=
  let image := trimSpace value
  if image = "" ∨ image.toList.any (fun c => c == ' ' || c == '\t' || c == '\r' || c == '\n') then
    .error (.invalid "controller image must be a non-empty image reference")
  else .ok image

/-- `strconv.ParseUint(component, 10, 32)` succeeds. -/
def isUint32 (component : List Char) : Bool :=
  component ≠ [] && component.all Char.isDigit && Net.decimal (component.map Char.toUInt8) < 2 ^ 32

def checkedRuntimeUser (p : Process) (value : String) : Except ConfigError String :=
  let runtimeUser := trimSpace value
  if runtimeUser = "" then .ok (toString p.uid ++ ":" ++ toString p.gid)
  else
    match Bytes.cut ':' runtimeUser.toList with
    | (_, none) => .error (.invalid "runtime user must be UID:GID")
    | (uid, some gid) =>
        if uid = [] ∨ gid = [] ∨ ':' ∈ gid then .error (.invalid "runtime user must be UID:GID")
        else if [uid, gid].all isUint32 then .ok runtimeUser
        else .error (.invalid "runtime user must be UID:GID")

def checkedAbsoluteDirectory (os : Nat → Answer) (value label : String) : FileM String := do
  let path ← check (checkedAbsolutePath value label)
  ensurePrivateDirectory os path
  pure path

def checkedBootstrapInput (os : Nat → Answer) (p : Process) (options : BootstrapOptions) :
    FileM BootstrapInput := do
  let configDir ← checkedAbsoluteDirectory os options.configDir "config directory"
  let hostConfigDir ← check (checkedAbsolutePath options.hostConfigDir "host config directory")
  let controllerImage ← check (checkedImageReference options.controllerImage)
  let runtimeUser ← check (checkedRuntimeUser p options.runtimeUser)
  pure { configDir, hostConfigDir, controllerImage, runtimeUser }

/-! ## The files of a configuration -/

/-- The files that are embedded in the program. -/
structure Templates where
  pools : List UInt8
  routing : List UInt8
  compose : List UInt8
  hostPorts : List UInt8
  noHostPorts : List UInt8

structure BootstrapFile where
  path : String
  operatorPath : String
  data : List UInt8
  runtime : Bool := false

structure BootstrapResult where
  created : List String := []
  preserved : List String := []
  refreshed : List String := []

def BootstrapResult.add (result : BootstrapResult) (path : String) (created : Bool) :
    BootstrapResult :=
  if created then { result with created := result.created ++ [path] }
  else { result with preserved := result.preserved ++ [path] }

def BootstrapResult.refresh (result : BootstrapResult) (path : String) : BootstrapResult :=
  { result with refreshed := result.refreshed ++ [path] }

def dotEnvExampleFileName : String := ".env.example"

def composeFileName : String := "docker-compose.yml"

def hostPortsFileName : String := "docker-compose.host-ports.yml"

def noHostPortsFileName : String := "docker-compose.no-host-ports.yml"

def tailscaleStatePath : String := "tailscale/state"

def runtimeUserEnvName : String := "PR0XTEUS_RUNTIME_USER"

def developmentControllerImage : String := "psyb0t/pr0xteus:dev"

def bootstrapFiles (templates : Templates) (configDir hostConfigDir : String) :
    List BootstrapFile :=
  [{ path := Filepath.join configDir poolsRelativePath
     operatorPath := Filepath.join hostConfigDir poolsRelativePath
     data := templates.pools },
   { path := Filepath.join configDir routingRelativePath
     operatorPath := Filepath.join hostConfigDir routingRelativePath
     data := templates.routing },
   { path := Filepath.join configDir composeFileName
     operatorPath := Filepath.join hostConfigDir composeFileName
     data := templates.compose
     runtime := true },
   { path := Filepath.join configDir hostPortsFileName
     operatorPath := Filepath.join hostConfigDir hostPortsFileName
     data := templates.hostPorts
     runtime := true },
   { path := Filepath.join configDir noHostPortsFileName
     operatorPath := Filepath.join hostConfigDir noHostPortsFileName
     data := templates.noHostPorts
     runtime := true }]

/-- The image that is written for a development setup is a fixed one. -/
def renderedImage (controllerImage : String) (development : Bool) : String :=
  if development then developmentControllerImage else controllerImage

def renderEnvFile (hostConfigDir controllerImage runtimeUser apiToken : String)
    (development : Bool) : String :=
  "\n".intercalate
    ["# Generated by pr0xteus config init. Keep this file local.",
      "PR0XTEUS_CONFIG_DIR=" ++ hostConfigDir,
      "PR0XTEUS_CONTROLLER_IMAGE=" ++ renderedImage controllerImage development,
      "PR0XTEUS_RUNTIME_USER=" ++ runtimeUser,
      apiTokenEnvName ++ "=" ++ apiToken,
      "PR0XTEUS_HTTP_HOST_PORT=127.0.0.1:8000",
      "PR0XTEUS_METRICS_HOST_PORT=127.0.0.1:9091",
      "PR0XTEUS_SOCKS_HOST_PORT=127.0.0.1:1080",
      "PR0XTEUS_HTTP_PROXY_HOST_PORT=127.0.0.1:8080",
      "PR0XTEUS_SOCKS_PUBLIC_ADDRESS=127.0.0.1:1080",
      "PR0XTEUS_HTTP_PROXY_PUBLIC_ADDRESS=127.0.0.1:8080",
      "PR0XTEUS_DISABLE_HOST_PORTS=false",
      "PR0XTEUS_TAILSCALE_ENABLED=false",
      "TS_AUTHKEY=",
      "TS_HOSTNAME=pr0xteus",
      "TS_EXTRA_ARGS=--accept-dns=false",
      "LOG_LEVEL=info",
      "LOG_FORMAT=json",
      "LOG_ADD_SOURCE=true"] ++ "\n"

def renderEnvExample (hostConfigDir controllerImage runtimeUser : String) (development : Bool) :
    String :=
  "\n".intercalate
    ["# This file is refreshed by pr0xteus setup and upgrade. Copy values into .env; .env is never overwritten.",
      "# Never commit .env, WireGuard bundles, routing policy, or the API token.",
      "",
      "# Docker binds this absolute host directory into the controller at the same path.",
      "PR0XTEUS_CONFIG_DIR=" ++ hostConfigDir,
      "",
      "# The controller runs as this host UID:GID so it can read the private",
      "# bind-mounted config without making provider files world-readable.",
      "PR0XTEUS_RUNTIME_USER=" ++ runtimeUser,
      "",
      "# Required private controller bearer token. config init generates a random owner-only value in .env.",
      apiTokenEnvName ++ "=REPLACE_ME",
      "",
      "# Published controller image. setup and upgrade pin this automatically to a release.",
      "PR0XTEUS_CONTROLLER_IMAGE=" ++ renderedImage controllerImage development,
      "",
      "# Host-port bindings. Each value is HOST:PORT; defaults stay on host loopback.",
      "# Use a real protected host address when changing SOCKS_HOST_PORT: 0.0.0.0 is",
      "# valid for binding every interface but is not an address a client can use.",
      "PR0XTEUS_HTTP_HOST_PORT=127.0.0.1:8000",
      "PR0XTEUS_METRICS_HOST_PORT=127.0.0.1:9091",
      "PR0XTEUS_SOCKS_HOST_PORT=127.0.0.1:1080",
      "PR0XTEUS_HTTP_PROXY_HOST_PORT=127.0.0.1:8080",
      "",
      "# Addresses returned in allocated proxy URLs. Keep them aligned with reachable",
      "# host ports; do not use 0.0.0.0 here.",
      "PR0XTEUS_SOCKS_PUBLIC_ADDRESS=127.0.0.1:1080",
      "PR0XTEUS_HTTP_PROXY_PUBLIC_ADDRESS=127.0.0.1:8080",
      "",
      "# Set true to remove every pr0xteus host-port binding. Use this for the",
      "# Tailscale sidecar or another private Docker-network gateway.",
      "PR0XTEUS_DISABLE_HOST_PORTS=false",
      "",
      "# Optional tailnet-only API. Set true and provide a key from your own tailnet.",
      "PR0XTEUS_TAILSCALE_ENABLED=false",
      "TS_AUTHKEY=your-tailscale-auth-key",
      "TS_HOSTNAME=pr0xteus",
      "TS_EXTRA_ARGS=--accept-dns=false",
      "",
      "LOG_LEVEL=info",
      "LOG_FORMAT=json",
      "LOG_ADD_SOURCE=true"] ++ "\n"

/-- `hex.EncodeToString`. -/
def hexEncode (bytes : List UInt8) : String :=
  String.ofList (bytes.flatMap fun b =>
    [(hexDigit (b.toNat / 16)).toLower, (hexDigit (b.toNat % 16)).toLower])

/-! ## The command -/

section Command

variable (os : Nat → Answer)

def createBootstrapDirectories (configDir : String) : FileM Unit :=
  [Filepath.join configDir "secrets", Filepath.join configDir bundleRelativePath,
    Filepath.join configDir "config", Filepath.join configDir tailscaleStatePath].forM
      (ensurePrivateDirectory os)

def writeBootstrapFile (refreshRuntimeTemplates : Bool) (result : BootstrapResult)
    (file : BootstrapFile) : FileM BootstrapResult := do
  if refreshRuntimeTemplates && file.runtime then
    writeRefreshedFile os file.path file.data bootstrapFileMode
    pure (result.refresh file.operatorPath)
  else
    let created ← writeFileIfAbsent os file.path file.data
    pure (result.add file.operatorPath created)

def writeBootstrapFiles (templates : Templates) (input : BootstrapInput)
    (options : BootstrapOptions) (result : BootstrapResult) : FileM BootstrapResult := do
  let result ← (bootstrapFiles templates input.configDir input.hostConfigDir).foldlM
    (writeBootstrapFile os options.refreshRuntimeTemplates) result
  writeExampleFile os (Filepath.join input.configDir dotEnvExampleFileName)
    (utf8 (renderEnvExample input.hostConfigDir input.controllerImage input.runtimeUser
      options.development))
  pure (result.refresh (Filepath.join input.hostConfigDir dotEnvExampleFileName))

def newAPIToken : FileM String := do
  let a ← ask os .readRandom
  orFail a.err "generate API token"
  pure (hexEncode (List.ofFn a.random))

/-- `BootstrapConfig` on `.env`. -/
def writeDotEnv (input : BootstrapInput) (development : Bool) (token : String) : FileM Bool := do
  let envPath := Filepath.join input.configDir dotEnvFileName
  let created ← writeFileIfAbsent os envPath
    (utf8 (renderEnvFile input.hostConfigDir input.controllerImage input.runtimeUser token
      development))
  if !created then
    upsertDotEnvValue os envPath (utf8 runtimeUserEnvName) (utf8 input.runtimeUser)
  pure created

/-- `BootstrapConfig` up to `.env`. -/
def prepareConfig (p : Process) (templates : Templates) (options : BootstrapOptions) :
    FileM (BootstrapInput × BootstrapResult × String) := do
  let input ← checkedBootstrapInput os p options
  createBootstrapDirectories os input.configDir
  let result ← writeBootstrapFiles os templates input options {}
  let token ← newAPIToken os
  pure (input, result, token)

def bootstrapConfig (p : Process) (templates : Templates) (options : BootstrapOptions) :
    FileM BootstrapResult := do
  let (input, result, token) ← prepareConfig os p templates options
  let created ← writeDotEnv os input options.development token
  pure (result.add (Filepath.join input.hostConfigDir dotEnvFileName) created)

end Command

end Pr0xteus.ConfigInit
