import Pr0xteus.Proof.FileCalls

/-!
# The parts of a `config init`

The files of a configuration and their places, the input as it is checked, and a rule for the run up to
`.env`: what the directories, the new files and the replaced files ensure, the run ensures.
-/

namespace Pr0xteus.ConfigInit

open Encoding Effects

variable {dir rel : String}

/-! ## The files -/

def names (rel : String) : Location := rel.toList.splitOn '/'

/-- The files that `BootstrapConfig` writes, under the configuration directory. -/
def managedFiles : List String :=
  [poolsRelativePath, routingRelativePath, composeFileName, hostPortsFileName, noHostPortsFileName,
    dotEnvExampleFileName, dotEnvFileName]

theorem dotEnvFileName_mem : dotEnvFileName ∈ managedFiles := by decide

def privateDirectories : List String := ["secrets", bundleRelativePath, "config", tailscaleStatePath]

def targets (dir : String) : List Location :=
  managedFiles.map fun rel => Filepath.elements (Filepath.join dir rel)

instance (element : List Char) : Decidable (Proper element) :=
  inferInstanceAs (Decidable (element ≠ [] ∧ element ≠ ['.'] ∧ element ≠ ['.', '.']))

theorem proper_names : ∀ rel ∈ managedFiles ++ privateDirectories, ∀ e ∈ names rel, Proper e := by
  decide +kernel

theorem elements_managed (hrel : rel ∈ managedFiles) (dir : String) :
    Filepath.elements (Filepath.join dir rel) = Filepath.elements dir ++ names rel :=
  elements_join rfl (proper_names rel (List.mem_append_left _ hrel)) dir

theorem elements_private (hrel : rel ∈ privateDirectories) (dir : String) :
    Filepath.elements (Filepath.join dir rel) = Filepath.elements dir ++ names rel :=
  elements_join rfl (proper_names rel (List.mem_append_right _ hrel)) dir

/-- No file lies on the way to a directory. -/
theorem not_prefix_of_mem_targets {loc : Location} (hloc : loc ∈ targets dir) :
    ¬ loc <+: Filepath.elements dir ∧
      ∀ rel ∈ privateDirectories, ¬ loc <+: Filepath.elements (Filepath.join dir rel) := by
  have hnames : ∀ rel ∈ managedFiles, names rel ≠ [] ∧
      ∀ rel' ∈ privateDirectories, ¬ names rel <+: names rel' := by
    decide +kernel
  obtain ⟨rel, hrel, rfl⟩ := List.mem_map.mp hloc
  obtain ⟨hne, hway⟩ := hnames rel hrel
  rw [elements_managed hrel]
  constructor
  · intro hon
    have hlength := hon.length_le
    rw [List.length_append] at hlength
    exact hne (List.length_eq_zero_iff.mp (by omega))
  · intro rel' hrel'
    rw [elements_private hrel', List.prefix_append_right_inj]
    exact hway rel' hrel'

theorem not_isTemporary_of_mem_targets {loc : Location} (hloc : loc ∈ targets dir)
    (other : Location) : ¬ IsTemporary other loc := by
  have hnames : ∀ rel ∈ managedFiles, ((names rel).getLast?.any fun last =>
      !".env.example-".toList.isPrefixOf last) = true := by
    decide +kernel
  obtain ⟨rel, hrel, rfl⟩ := List.mem_map.mp hloc
  have hlast := hnames rel hrel
  rw [elements_managed hrel]
  rintro ⟨name, heq⟩
  have hend := congrArg List.getLast? heq
  rw [List.getLast?_concat, List.getLast?_append] at hend
  cases hgetLast : (names rel).getLast? with
  | none =>
      rw [hgetLast] at hlast
      cases hlast
  | some last =>
      rw [hgetLast] at hlast hend
      cases hend
      simp at hlast

def composeFiles : List String := [composeFileName, hostPortsFileName, noHostPortsFileName]

/-- The files that a run replaces: the compose files only on request. -/
def rewritten (options : BootstrapOptions) : List String :=
  dotEnvFileName :: dotEnvExampleFileName ::
    if options.refreshRuntimeTemplates then composeFiles else []

/-! ## The input -/

/-- What `checkedBootstrapInput` checks, apart from the directory itself. -/
def checkedInput (p : Process) (options : BootstrapOptions) : Except ConfigError BootstrapInput := do
  let configDir ← checkedAbsolutePath options.configDir "config directory"
  let hostConfigDir ← checkedAbsolutePath options.hostConfigDir "host config directory"
  let controllerImage ← checkedImageReference options.controllerImage
  let runtimeUser ← checkedRuntimeUser p options.runtimeUser
  pure { configDir, hostConfigDir, controllerImage, runtimeUser }

/-- The configuration directory as it is cleaned. -/
def configDirOf (options : BootstrapOptions) : String :=
  Filepath.clean (Text.trimSpace options.configDir)

theorem eq_clean_of_checkedAbsolutePath {value label path : String}
    (h : checkedAbsolutePath value label = .ok path) : path = Filepath.clean (Text.trimSpace value) := by
  unfold checkedAbsolutePath at h
  dsimp only at h
  split at h
  · exact nomatch h
  · split at h
    · exact nomatch h
    · exact (Except.ok.inj h).symm

section Input

variable {os : Nat → Answer} {p : Process} {options : BootstrapOptions} {input : BootstrapInput}

theorem configDir_of_checkedInput (h : checkedInput p options = .ok input) :
    input.configDir = configDirOf options := by
  unfold checkedInput at h
  obtain ⟨configDir, hdir, h⟩ := Fallible.bind_eq_ok_iff.mp h
  obtain ⟨_, _, h⟩ := Fallible.bind_eq_ok_iff.mp h
  obtain ⟨_, _, h⟩ := Fallible.bind_eq_ok_iff.mp h
  obtain ⟨_, _, h⟩ := Fallible.bind_eq_ok_iff.mp h
  cases h
  exact eq_clean_of_checkedAbsolutePath hdir

theorem yields_check {α : Type} (result : Except ConfigError α) :
    Yields (fun value => result = .ok value) (check result) := by
  intro s value t hrun
  rw [runOn_check] at hrun
  exact (Prod.mk.inj hrun).1

theorem yields_checkedAbsoluteDirectory (os : Nat → Answer) (value label : String) :
    Yields (fun path => checkedAbsolutePath value label = .ok path)
      (checkedAbsoluteDirectory os value label) := by
  refine yields_bind (yields_check _) fun path hpath => ?_
  exact yields_bind (fun _ _ _ _ => trivial) fun _ _ => yields_pure hpath

theorem yields_checkedBootstrapInput (os : Nat → Answer) (p : Process) (options : BootstrapOptions) :
    Yields (fun input => checkedInput p options = .ok input) (checkedBootstrapInput os p options) := by
  refine yields_bind (yields_checkedAbsoluteDirectory os _ _) fun configDir hdir => ?_
  refine yields_bind (yields_check _) fun hostConfigDir hhost => ?_
  refine yields_bind (yields_check _) fun controllerImage himage => ?_
  refine yields_bind (yields_check _) fun runtimeUser huser => yields_pure ?_
  simp only [checkedInput, hdir, hhost, himage, huser]
  rfl

end Input

/-! ## The new contents -/

def newFiles (templates : Templates) (input : BootstrapInput) (development : Bool) :
    List (String × List UInt8) :=
  [(poolsRelativePath, templates.pools), (routingRelativePath, templates.routing),
    (composeFileName, templates.compose), (hostPortsFileName, templates.hostPorts),
    (noHostPortsFileName, templates.noHostPorts),
    (dotEnvExampleFileName, utf8 (renderEnvExample input.hostConfigDir input.controllerImage
      input.runtimeUser development))]

section Parts

variable {os : Nat → Answer} {p : Process} {templates : Templates} {options : BootstrapOptions}
  {input : BootstrapInput}

theorem mem_managedFiles_of_mem_newFiles {development : Bool} {c : List UInt8}
    (h : (rel, c) ∈ newFiles templates input development) :
    rel ∈ managedFiles ∧ rel ≠ dotEnvFileName := by
  have hall : ∀ rel ∈ [poolsRelativePath, routingRelativePath, composeFileName, hostPortsFileName,
      noHostPortsFileName, dotEnvExampleFileName], rel ∈ managedFiles ∧ rel ≠ dotEnvFileName := by
    decide
  exact hall rel (List.mem_map_of_mem (f := Prod.fst) h)

theorem eq_of_elements_join {dir rel rel' : String} (hrel : rel ∈ managedFiles)
    (hrel' : rel' ∈ managedFiles)
    (h : Filepath.elements (Filepath.join dir rel) = Filepath.elements (Filepath.join dir rel')) :
    rel = rel' := by
  have hnames : ∀ rel ∈ managedFiles, ∀ rel' ∈ managedFiles, names rel = names rel' → rel = rel' := by
    decide +kernel
  rw [elements_managed hrel, elements_managed hrel'] at h
  exact hnames rel hrel rel' hrel' (List.append_cancel_left h)

theorem mem_targets (hrel : rel ∈ managedFiles) (hinput : checkedInput p options = .ok input) :
    Filepath.elements (Filepath.join input.configDir rel) ∈ targets (configDirOf options) := by
  rw [configDir_of_checkedInput hinput]
  exact List.mem_map_of_mem hrel

/-! ## The rule for the run -/

theorem ensures_orFail {R : Disk → Option ConfigError → Disk → Prop} (h : Sequential R)
    (err : Option String) (message : String) : Ensures R (orFail err message) := by
  cases err with
  | none => exact ensures_pure h ()
  | some reason => exact ensures_throw h _

theorem ensures_check {R : Disk → Option ConfigError → Disk → Prop} {α : Type} (h : Sequential R)
    (result : Except ConfigError α) : Ensures R (check result) := by
  cases result with
  | ok value => exact ensures_pure h value
  | error err => exact ensures_throw h err

variable {R : Disk → Option ConfigError → Disk → Prop}

theorem ensures_checkedBootstrapInput (h : Sequential R)
    (hdirectory : Ensures R (ensurePrivateDirectory os (configDirOf options))) :
    Ensures R (checkedBootstrapInput os p options) := by
  have hdir : Ensures R (checkedAbsoluteDirectory os options.configDir "config directory") := by
    refine ensures_bind_of_yields h (ensures_check h _) (yields_check _) fun path hpath => ?_
    rw [eq_clean_of_checkedAbsolutePath hpath]
    exact ensures_bind h hdirectory fun _ => ensures_pure h _
  refine ensures_bind h hdir fun _ => ?_
  refine ensures_bind h (ensures_check h _) fun _ => ?_
  refine ensures_bind h (ensures_check h _) fun _ => ?_
  exact ensures_bind h (ensures_check h _) fun _ => ensures_pure h _

theorem ensures_createBootstrapDirectories (h : Sequential R)
    (hinput : checkedInput p options = .ok input)
    (hdirectories : ∀ rel ∈ privateDirectories,
      Ensures R (ensurePrivateDirectory os (Filepath.join (configDirOf options) rel))) :
    Ensures R (createBootstrapDirectories os input.configDir) := by
  rw [configDir_of_checkedInput hinput]
  refine ensures_forM h fun path hpath => ?_
  obtain ⟨rel, hrel, rfl⟩ : ∃ rel ∈ privateDirectories,
      Filepath.join (configDirOf options) rel = path := List.mem_map.mp hpath
  exact hdirectories rel hrel

theorem mem_newFiles_of_mem_bootstrapFiles (options : BootstrapOptions) {file : BootstrapFile}
    (hfile : file ∈ bootstrapFiles templates input.configDir input.hostConfigDir) :
    ∃ rel, file.path = Filepath.join input.configDir rel ∧
      (rel, file.data) ∈ newFiles templates input options.development ∧
      ((options.refreshRuntimeTemplates && file.runtime) = true → rel ∈ rewritten options) := by
  simp only [bootstrapFiles, List.mem_cons, List.not_mem_nil, or_false] at hfile
  rcases hfile with rfl | rfl | rfl | rfl | rfl
  · exact ⟨poolsRelativePath, rfl, by simp [newFiles], by simp⟩
  · exact ⟨routingRelativePath, rfl, by simp [newFiles], by simp⟩
  · exact ⟨composeFileName, rfl, by simp [newFiles], fun hrefresh => by simp_all [rewritten, composeFiles]⟩
  · exact ⟨hostPortsFileName, rfl, by simp [newFiles], fun hrefresh => by simp_all [rewritten, composeFiles]⟩
  · exact ⟨noHostPortsFileName, rfl, by simp [newFiles], fun hrefresh => by simp_all [rewritten, composeFiles]⟩

theorem ensures_writeBootstrapFiles (h : Sequential R)
    (hnew : ∀ rel contents, (rel, contents) ∈ newFiles templates input options.development →
      Ensures R (writeFileIfAbsent os (Filepath.join input.configDir rel) contents))
    (hrefreshed : ∀ rel contents mode, rel ∈ rewritten options →
      (rel, contents) ∈ newFiles templates input options.development →
        Ensures R (writeRefreshedFile os (Filepath.join input.configDir rel) contents mode))
    (result : BootstrapResult) : Ensures R (writeBootstrapFiles os templates input options result) := by
  unfold writeBootstrapFiles
  refine ensures_bind h ?_ fun result => ?_
  · refine ensures_foldlM h (fun result file hfile => ?_) result
    obtain ⟨rel, hpath, hmem, hruntime⟩ := mem_newFiles_of_mem_bootstrapFiles options hfile
    unfold writeBootstrapFile
    rw [hpath]
    split
    · next hrefresh =>
        exact ensures_bind h (hrefreshed rel _ _ (hruntime hrefresh) hmem) fun _ => ensures_pure h _
    · exact ensures_bind h (hnew rel _ hmem) fun _ => ensures_pure h _
  · refine ensures_bind h ?_ fun _ => ensures_pure h _
    exact hrefreshed dotEnvExampleFileName _ _ (by simp [rewritten]) (by simp [newFiles])

theorem ensures_prepareConfig (h : Sequential R) (hrandom : Ensures R (ask os .readRandom))
    (hdirectory : Ensures R (ensurePrivateDirectory os (configDirOf options)))
    (hdirectories : ∀ rel ∈ privateDirectories,
      Ensures R (ensurePrivateDirectory os (Filepath.join (configDirOf options) rel)))
    (hnew : ∀ input, checkedInput p options = .ok input → ∀ rel contents,
      (rel, contents) ∈ newFiles templates input options.development →
        Ensures R (writeFileIfAbsent os (Filepath.join input.configDir rel) contents))
    (hrefreshed : ∀ input, checkedInput p options = .ok input → ∀ rel contents mode,
      rel ∈ rewritten options → (rel, contents) ∈ newFiles templates input options.development →
        Ensures R (writeRefreshedFile os (Filepath.join input.configDir rel) contents mode)) :
    Ensures R (prepareConfig os p templates options) := by
  refine ensures_bind_of_yields h (ensures_checkedBootstrapInput h hdirectory)
    (yields_checkedBootstrapInput os p options) fun input hinput => ?_
  refine ensures_bind h (ensures_createBootstrapDirectories h hinput hdirectories) fun _ => ?_
  refine ensures_bind h (ensures_writeBootstrapFiles h (hnew input hinput) (hrefreshed input hinput) _)
    fun result => ?_
  refine ensures_bind h ?_ fun token => ensures_pure h _
  refine ensures_bind h hrandom fun a => ?_
  exact ensures_bind h (ensures_orFail h _ _) fun _ => ensures_pure h _

theorem yields_prepareConfig (os : Nat → Answer) (p : Process) (templates : Templates)
    (options : BootstrapOptions) :
    Yields (fun prepared => checkedInput p options = .ok prepared.1 ∧
        ∃ random : Fin randomTokenBytes → UInt8, prepared.2.2 = hexEncode (List.ofFn random))
      (prepareConfig os p templates options) := by
  refine yields_bind (yields_checkedBootstrapInput os p options) fun input hinput => ?_
  refine yields_bind (fun _ _ _ _ => trivial) fun _ _ => ?_
  refine yields_bind (fun _ _ _ _ => trivial) fun result _ => ?_
  have htoken : Yields (fun token => ∃ random : Fin randomTokenBytes → UInt8,
      token = hexEncode (List.ofFn random)) (newAPIToken os) := by
    refine yields_bind (fun _ _ _ _ => trivial) fun a _ => ?_
    refine yields_bind (fun _ _ _ _ => trivial) fun _ _ => ?_
    exact yields_pure ⟨a.random, rfl⟩
  exact yields_bind htoken fun token htoken => yields_pure ⟨hinput, htoken⟩

end Parts

/-! ## `.env` -/

/-- Where the `.env` of a configuration directory is. -/
def dotEnvOf (dir : String) : Location := Filepath.elements (Filepath.join dir dotEnvFileName)

/-- The ways of `writeDotEnv`: the managed line in a file that was there, or a new file. -/
inductive WroteDotEnv (input : BootstrapInput) (development : Bool) (token : String) (s : Disk) :
    Option ConfigError → Disk → Prop
  | upserted (err? : Option ConfigError) (t : Disk) (old : List UInt8)
      (hold : s.tree (dotEnvOf input.configDir) = some (.regular old))
      (hupserted : Upserted s (dotEnvOf input.configDir) (utf8 runtimeUserEnvName)
        (utf8 input.runtimeUser) err? t) : WroteDotEnv input development token s err? t
  | created (err? : Option ConfigError) (t : Disk)
      (hcreated : Created s (dotEnvOf input.configDir) (utf8 (renderEnvFile input.hostConfigDir
        input.controllerImage input.runtimeUser token development)) err? t) :
      WroteDotEnv input development token s err? t

theorem wroteDotEnv (os : Nat → Answer) (input : BootstrapInput) (development : Bool) (token : String)
    (hname : ¬ IsTemporary (dotEnvOf input.configDir) (dotEnvOf input.configDir)) :
    Ensures (WroteDotEnv input development token) (writeDotEnv os input development token) := by
  intro s
  unfold writeDotEnv
  dsimp only
  rw [runOn_bind]
  have hwrote := wroteIfAbsent os (Filepath.join input.configDir dotEnvFileName)
    (utf8 (renderEnvFile input.hostConfigDir input.controllerImage input.runtimeUser token
      development)) s
  generalize runOn (writeFileIfAbsent os _ _) s = outcome at hwrote
  obtain ⟨result, u⟩ := outcome
  cases hwrote with
  | present u old hpresent htree hcuts =>
      have hupserted := (upserted_upsertDotEnvValue os (Filepath.join input.configDir dotEnvFileName)
        (utf8 runtimeUserEnvName) (utf8 input.runtimeUser) u hname).of_same htree hcuts
      dsimp only
      rw [Bool.not_false, if_pos rfl, runOn_bind]
      generalize runOn (upsertDotEnvValue os _ _ _) u = outcome at hupserted
      obtain ⟨result, v⟩ := outcome
      cases result <;> exact .upserted _ v old hpresent hupserted
  | created result u hresult hcreated =>
      cases result with
      | error err => exact .created _ u hcreated
      | ok created =>
          cases created with
          | false => exact absurd rfl hresult
          | true => exact .created _ u hcreated

end Pr0xteus.ConfigInit
