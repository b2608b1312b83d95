import Pr0xteus.Lib.Utf8
import Pr0xteus.Loading

/-!
# Checking a configuration directory, and booting from it

`bootstrap.go`: the check that an operator runs over a configuration directory, and the steps with
which the service constructor loads the same files. Both see the files through `Files`, which holds
what the operating system answers for a path; a message ends where the source adds the text of a
system error.
-/

namespace Pr0xteus

open Encoding Text

inductive ConfigError where
  | load (err : LoadError)
  | system (reason : String)
  | wrap (cause : ConfigError) (message : String)
  deriving DecidableEq, Repr

def ConfigError.invalid (message : String) : ConfigError := .load ⟨.configInvalid, message⟩

/-- `ctxerrors.Wrap` of what a loader returns. -/
def wrapLoad {α : Type} (message : String) : Except LoadError α → Except ConfigError α
  | .error err => .error (.wrap (.load err) message)
  | .ok value => .ok value

/-! ## Paths -/

/-- The elements of a rooted path that stay. -/
def Filepath.cleanElements (elements : List (List Char)) : List (List Char) :=
  elements.foldl (fun kept element =>
    if element = [] ∨ element = ['.'] then kept
    else if element = ['.', '.'] then kept.dropLast
    else kept ++ [element]) []

/-- `filepath.Clean` of a rooted path. -/
def Filepath.clean (path : String) : String :=
  String.ofList ('/' :: ['/'].intercalate (Filepath.cleanElements (path.toList.splitOn '/')))

/-- `filepath.Join` with a rooted directory. -/
def Filepath.join (dir path : String) : String := Filepath.clean (dir ++ "/" ++ path)

example : Filepath.join "/etc//pr0xteus/./x/../" "secrets/pools.yaml" =
    "/etc/pr0xteus/secrets/pools.yaml" := by
  decide

def configDirectoryLabel : String := "config directory"

def checkedAbsolutePath (value label : String) : Except ConfigError String :=
  let path := trimSpace value
  if path.toList.head? ≠ some '/' then .error (.invalid (label ++ " must be an absolute path"))
  else if path.toList.any fun c => c == '\r' || c == '\n' then
    .error (.invalid (label ++ " contains a newline"))
  else .ok (Filepath.clean path)

/-! ## The files -/

/-- What `os.Lstat` tells apart. -/
inductive FileKind where
  | directory
  | symlink
  | other
  deriving DecidableEq, Repr

/-- A file that could be opened: what can be read of it, and the error after that, if any. -/
structure OpenFile where
  contents : List UInt8
  readErr : Option String

structure Files where
  lstat : String → Except String FileKind
  dotEnv : String → Except String OpenFile
  pools : String → YamlFile PoolsFile
  bundle : String → Except String (List DirEntry)
  routing : String → YamlFile RoutingFile

def checkedExistingDirectory (fs : Files) (value : String) : Except ConfigError String := do
  let path ← checkedAbsolutePath value configDirectoryLabel
  match fs.lstat path with
  | .error reason => .error (.wrap (.system reason) ("stat " ++ configDirectoryLabel))
  | .ok .directory => .ok path
  | .ok _ => .error (.invalid (configDirectoryLabel ++ " must be a real directory"))

/-! ## The API token -/

def maxAPITokenBytes : Nat := 4096

def validateAPIToken (raw : List UInt8) : Except LoadError (List UInt8) :=
  let token := Utf8.trimSpace raw
  if maxAPITokenBytes < token.length then
    .error ⟨.configInvalid, "API token exceeds 4096 bytes"⟩
  else if token = [] then .error ⟨.configInvalid, "API token is empty"⟩
  else .ok token

def apiTokenEnvName : String := "PR0XTEUS_API_TOKEN"

/-- `strings.Trim(value, "\"'")`. -/
def trimQuotes (value : List UInt8) : List UInt8 :=
  let isQuote (b : UInt8) : Bool := (utf8 "\"'").contains b
  ((value.dropWhile isQuote).reverse.dropWhile isQuote).reverse

/-- What a line assigns to the token, if it does. -/
def apiTokenOfLine (line : List UInt8) : Option (List UInt8) :=
  let line := Utf8.trimSpace line
  if line.head? = none ∨ line.head? = some '#'.toUInt8 then none
  else
    match Bytes.cut '='.toUInt8 line with
    | (_, none) => none
    | (key, some value) =>
        if Utf8.trimSpace key = utf8 apiTokenEnvName then some (trimQuotes value) else none

/-- `bufio.MaxScanTokenSize`. -/
def maxScanTokenSize : Nat := 65536

/-- `bufio.ScanLines` drops a carriage return before the newline. -/
def dropCR (line : List UInt8) : List UInt8 :=
  if line.getLast? = some '\r'.toUInt8 then line.dropLast else line

/-- The loop over the lines, up to the value that it returns on. A line that does not fit the
scanner's buffer ends it. The empty piece behind a last newline is passed over as an empty line
is. -/
def scanAPIToken (readErr : Option String) : List (List UInt8) → Except ConfigError (List UInt8)
  | [] =>
      match readErr with
      | some reason => .error (.wrap (.system reason) "read .env")
      | none => .error (.invalid (apiTokenEnvName ++ " is required in .env"))
  | line :: lines =>
      if maxScanTokenSize ≤ line.length then
        .error (.wrap (.system "bufio.Scanner: token too long") "read .env")
      else
        match apiTokenOfLine (dropCR line) with
        | some value => .ok value
        | none => scanAPIToken readErr lines

/-- The token that a `.env` file holds. -/
def dotEnvToken (file : Except String OpenFile) : Except ConfigError (List UInt8) :=
  match file with
  | .error reason => .error (.wrap (.system reason) "open .env")
  | .ok file => scanAPIToken file.readErr (file.contents.splitOn '\n'.toUInt8)

def loadAPITokenFromDotEnv (file : Except String OpenFile) : Except ConfigError (List UInt8) := do
  let value ← dotEnvToken file
  (validateAPIToken value).mapError .load

/-! ## The check -/

def dotEnvFileName : String := ".env"

def poolsRelativePath : String := "secrets/pools.yaml"

def bundleRelativePath : String := "secrets/wireguard"

def routingRelativePath : String := "config/egress-routing.yaml"

def checkConfig (t : CaseTable) (fs : Files) (configDir : String) : Except ConfigError Unit := do
  let configDir ← checkedExistingDirectory fs configDir
  let _ ← (loadAPITokenFromDotEnv (fs.dotEnv (Filepath.join configDir dotEnvFileName))).mapError
    (.wrap · "validate API token")
  let poolsPath := Filepath.join configDir poolsRelativePath
  let bundlePath := Filepath.join configDir bundleRelativePath
  let (specs, knownPools) ← wrapLoad "validate pools"
    (loadPoolSpecs t poolsPath bundlePath (fs.pools poolsPath) (fs.bundle bundlePath))
  if specs.entries.isEmpty then .error (.invalid "pools.yaml has no pools")
  else
    let routingPath := Filepath.join configDir routingRelativePath
    let _ ← wrapLoad "validate egress routing"
      (loadRouter t routingPath "" knownPools (fs.routing routingPath))
    .ok ()

/-! ## The boot -/

/-- The part of `Config` that says what is loaded, with the defaults of its tags. -/
structure BootConfig where
  apiToken : List UInt8
  poolsFile : String := "secrets/pools.yaml"
  bundleDir : String := "secrets/wireguard"
  routingFile : String := "config/egress-routing.yaml"
  defaultPool : String := "neutral_clean"

/-- What the constructor has loaded before it builds the manager. -/
structure Loaded where
  apiToken : List UInt8
  specs : PoolSpecs
  router : Router

/-- `New`, from the configuration to the call of `NewCellSpawner`. -/
def loadService (t : CaseTable) (fs : Files) (cfg : BootConfig) : Except ConfigError Loaded := do
  let apiToken ← wrapLoad "validate API token" (validateAPIToken cfg.apiToken)
  let (specs, known) ← wrapLoad "load pools.yaml"
    (loadPoolSpecs t cfg.poolsFile cfg.bundleDir (fs.pools cfg.poolsFile) (fs.bundle cfg.bundleDir))
  let router ← wrapLoad "load egress-routing.yaml"
    (loadRouter t cfg.routingFile cfg.defaultPool known (fs.routing cfg.routingFile))
  .ok ⟨apiToken, specs, router⟩

end Pr0xteus
