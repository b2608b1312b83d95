import Pr0xteus.Proof.DotEnv
import Pr0xteus.Proof.PartialWrites

/-!
# Running `config init` again

What is there keeps its bytes through a run, but for `.env`, `.env.example` and, on request, the compose
files. In `.env` only the line of the runtime user changes, so the token that the first run left there
is the token after every later one.
-/

namespace Pr0xteus.ConfigInit

open Encoding Effects Transition

variable {options : BootstrapOptions} {s t : Disk} {loc : Location} {input : BootstrapInput}
  {p : Process} {value : List UInt8}

/-! ## What a run keeps -/

/-- What is there stays as it is, apart from `files`. -/
def Kept (files : List Location) (s : Disk) (_ : Option ConfigError) (t : Disk) : Prop :=
  ∀ loc node, loc ∉ files → s.tree loc = some node → t.tree loc = some node

section Kept

variable {files : List Location} {s t : Disk} {loc : Location} {contents : List UInt8}
  {err? : Option ConfigError}

theorem kept_of_tree (htree : t.tree = s.tree) : Kept files s err? t := by
  intro loc node _ hnode
  rw [htree, hnode]

theorem sequential_kept : Sequential (Kept files) where
  refl _ := kept_of_tree rfl
  fails _ _ := kept_of_tree rfl
  trans hfirst hsecond loc node hloc hnode := hsecond loc node hloc (hfirst loc node hloc hnode)

theorem kept_of_absent {node : Option Node} (habsent : s.tree loc = none)
    (htree : t.tree = Function.update s.tree loc node) : Kept files s err? t := by
  intro loc' node' _ hnode
  have hne : loc' ≠ loc := by
    rintro rfl
    cases habsent.symm.trans hnode
  rw [htree, Function.update_of_ne hne, hnode]

theorem kept_ensurePrivateDirectory (os : Nat → Answer) (path : String) :
    Ensures (Kept files) (ensurePrivateDirectory os path) := by
  intro s loc node _ hnode
  rcases (tree_ensurePrivateDirectory os path s loc).2 with hsame | ⟨habsent, -, -⟩
  · exact hsame.trans hnode
  · cases habsent.symm.trans hnode

theorem kept_of_created (h : Created s loc contents err? t) : Kept files s err? t := by
  cases h with
  | refused err t htree hcuts => exact kept_of_tree htree
  | full err? t habsent htree hcuts => exact kept_of_absent habsent htree
  | cut err t n habsent hn htree hcuts => exact kept_of_absent habsent htree

theorem kept_writeFileIfAbsent (os : Nat → Answer) (path : String) (contents : List UInt8) :
    Ensures (Kept files) (writeFileIfAbsent os path contents) := by
  intro s
  have hwrote := wroteIfAbsent os path contents s
  generalize runOn (writeFileIfAbsent os path contents) s = outcome at hwrote
  obtain ⟨result, t⟩ := outcome
  cases hwrote with
  | present t old hpresent htree hcuts => exact kept_of_tree htree
  | created result t hresult hcreated => exact kept_of_created hcreated

theorem kept_of_refreshed (hloc : loc ∈ files) (h : Refreshed s loc contents err? t) :
    Kept files s err? t := by
  cases h with
  | refused err t htree hcuts => exact kept_of_tree htree
  | failed err t temporary node htemporary habsent htree hcuts => exact kept_of_absent habsent htree
  | replaced t htree hcuts =>
      intro loc' node hloc' hnode
      have hne : loc' ≠ loc := by
        rintro rfl
        exact hloc' hloc
      rw [htree, Function.update_of_ne hne, hnode]

theorem kept_writeDotEnv (os : Nat → Answer) (development : Bool) (token : String)
    (hloc : dotEnvOf input.configDir ∈ files)
    (hname : ¬ IsTemporary (dotEnvOf input.configDir) (dotEnvOf input.configDir)) :
    Ensures (Kept files) (writeDotEnv os input development token) := by
  intro s
  cases wroteDotEnv os input development token hname s with
  | created hcreated => exact kept_of_created hcreated
  | upserted old hold hupserted =>
      cases hupserted with
      | same htree hcuts => exact kept_of_tree htree
      | refreshed old hold hrefreshed => exact kept_of_refreshed hloc hrefreshed

end Kept

def rewrittenFiles (options : BootstrapOptions) : List Location :=
  (rewritten options).map fun rel => Filepath.elements (Filepath.join (configDirOf options) rel)

theorem kept_bootstrapConfig (os : Nat → Answer) (p : Process) (templates : Templates)
    (options : BootstrapOptions) :
    Ensures (Kept (rewrittenFiles options)) (bootstrapConfig os p templates options) := by
  have hmem : ∀ input, checkedInput p options = .ok input → ∀ rel ∈ rewritten options,
      Filepath.elements (Filepath.join input.configDir rel) ∈ rewrittenFiles options := by
    intro input hinput rel hrel
    rw [configDir_of_checkedInput hinput]
    exact List.mem_map_of_mem hrel
  have hprepare : Ensures (Kept (rewrittenFiles options)) (prepareConfig os p templates options) := by
    refine ensures_prepareConfig sequential_kept (fun _ => kept_of_tree rfl)
      (kept_ensurePrivateDirectory os _) (fun _ _ => kept_ensurePrivateDirectory os _)
      (fun _ _ _ _ _ => kept_writeFileIfAbsent os _ _) ?_
    intro input hinput rel contents mode hrel hnew s
    have htarget := mem_targets (mem_managedFiles_of_mem_newFiles hnew).1 hinput
    exact kept_of_refreshed (hmem input hinput rel hrel) (refreshed_writeRefreshedFile os _ contents
      mode s (not_isTemporary_of_mem_targets htarget _))
  refine ensures_bind_of_yields sequential_kept hprepare (yields_prepareConfig os p templates options) ?_
  rintro ⟨input, result, token⟩ ⟨hinput, -⟩
  have hwrite : Ensures (Kept (rewrittenFiles options))
      (writeDotEnv os input options.development token) :=
    kept_writeDotEnv os _ token (hmem input hinput dotEnvFileName List.mem_cons_self)
      (not_isTemporary_of_mem_targets (mem_targets dotEnvFileName_mem hinput) _)
  exact ensures_bind sequential_kept hwrite fun _ => ensures_pure sequential_kept _

/-! ## The lines of `.env` -/

def runtimeUserKey : List UInt8 := utf8 runtimeUserEnvName

/-- The lines of `.env` that the operator owns. -/
def otherLines (contents : List UInt8) : List (List UInt8) :=
  (dotEnvLines contents).filter fun line => !assigns runtimeUserKey line

theorem runtimeUserKey_plain :
    runtimeUserKey ≠ [] ∧ runtimeUserKey ≠ utf8 apiTokenEnvName ∧
      Utf8.trimSpace runtimeUserKey = runtimeUserKey ∧ '='.toUInt8 ∉ runtimeUserKey ∧
      '\n'.toUInt8 ∉ runtimeUserKey := by
  decide +kernel

/-- The runtime user is made of digits and a colon. -/
theorem digits_of_checkedRuntimeUser {value user : String}
    (h : checkedRuntimeUser p value = .ok user) :
    ∀ c ∈ user.toList, c.isDigit = true ∨ c = ':' := by
  have hdecimal : ∀ n : Nat, ∀ c ∈ (toString n).toList, c.isDigit = true := by
    intro n c hc
    refine Nat.isDigit_of_mem_toDigits (by decide) (le_refl 10) (?_ : c ∈ Nat.toDigits 10 n)
    simpa using hc
  unfold checkedRuntimeUser at h
  dsimp only at h
  split at h
  · cases h
    intro c hc
    rw [String.toList_append, String.toList_append, List.mem_append, List.mem_append] at hc
    rcases hc with (hc | hc) | hc
    · exact .inl (hdecimal _ c hc)
    · exact .inr (List.mem_singleton.mp hc)
    · exact .inl (hdecimal _ c hc)
  · split at h
    · cases h
    · next uid gid hcut =>
        split at h
        · cases h
        · split at h
          · next hall =>
              cases h
              intro c hc
              rw [Bytes.eq_append_of_cut hcut, List.mem_append, List.mem_cons] at hc
              have hdigits : ∀ component ∈ [uid, gid], ∀ c ∈ component, c.isDigit = true := by
                intro component hcomponent
                have huint := List.all_eq_true.mp hall component hcomponent
                simp only [isUint32, Bool.and_eq_true] at huint
                exact List.all_eq_true.mp huint.1.2
              rcases hc with hc | hc | hc
              · exact .inl (hdigits uid (by simp) c hc)
              · exact .inr hc
              · exact .inl (hdigits gid (by simp) c hc)
          · cases h

theorem newline_notMem_runtimeUser (h : checkedInput p options = .ok input) :
    '\n'.toUInt8 ∉ utf8 input.runtimeUser := by
  unfold checkedInput at h
  obtain ⟨_, _, h⟩ := Fallible.bind_eq_ok_iff.mp h
  obtain ⟨_, _, h⟩ := Fallible.bind_eq_ok_iff.mp h
  obtain ⟨_, _, h⟩ := Fallible.bind_eq_ok_iff.mp h
  obtain ⟨user, huser, h⟩ := Fallible.bind_eq_ok_iff.mp h
  cases h
  dsimp only
  have hrange : ∀ c ∈ user.toList, 48 ≤ c.toNat ∧ c.toNat ≤ 58 := by
    intro c hc
    rcases digits_of_checkedRuntimeUser huser c hc with hdigit | rfl
    · simp only [Char.isDigit, Bool.and_eq_true, decide_eq_true_eq, ge_iff_le,
        UInt32.le_iff_toNat_le] at hdigit
      exact ⟨hdigit.1, Nat.le_succ_of_le hdigit.2⟩
    · decide
  rw [← String.ofList_toList (s := user), Bytes.utf8_ofList_ascii fun c hc => by
    have := hrange c hc
    omega]
  intro hmem
  obtain ⟨c, hc, heq⟩ := List.mem_map.mp hmem
  have hnat : c.toNat % 256 = 10 := congrArg UInt8.toNat heq
  have := hrange c hc
  omega

theorem otherLines_replaceDotEnvValue (contents : List UInt8) (hvalue : '\n'.toUInt8 ∉ value) :
    otherLines contents <+: otherLines (replaceDotEnvValue contents runtimeUserKey value) := by
  obtain ⟨-, -, htrim, hequals, hnewline⟩ := runtimeUserKey_plain
  have hother : ∀ line, assigns runtimeUserKey line = true → (!assigns runtimeUserKey line) = false := by
    intro line hline
    rw [hline, Bool.not_true]
  unfold otherLines
  rw [dotEnvLines_replaceDotEnvValue hnewline hvalue]
  rcases filter_updatedLines _ (dotEnvLines contents) hother
    (hother _ (assigns_assignment htrim hequals value)) with h | ⟨h, -⟩
  · rw [h]
  · rw [h]
    exact List.prefix_append _ _

/-! ## `.env` after a run -/

theorem regular_of_created {contents : List UInt8} (h : Created s loc contents none t) :
    s.tree loc = none ∧ t.tree loc = some (.regular contents) := by
  cases h with
  | full err? t habsent htree hcuts => exact ⟨habsent, by rw [htree, Function.update_self]⟩

theorem regular_of_upserted {key value old : List UInt8} (h : Upserted s loc key value none t)
    (hold : s.tree loc = some (.regular old)) :
    ∃ c, t.tree loc = some (.regular c) ∧ (c = old ∨ c = replaceDotEnvValue old key value) := by
  cases h with
  | same htree hcuts => exact ⟨old, by rw [htree, hold], .inl rfl⟩
  | refreshed old' hold' hrefreshed =>
      obtain rfl : old = old' := by
        simpa using hold.symm.trans hold'
      cases hrefreshed with
      | replaced t htree hcuts => exact ⟨_, by rw [htree, Function.update_self], .inr rfl⟩

theorem dotEnv_of_wroteDotEnv {development : Bool} {token : String}
    (h : WroteDotEnv input development token s none t) :
    ∃ c, t.tree (dotEnvOf input.configDir) = some (.regular c) ∧
      ∀ old, s.tree (dotEnvOf input.configDir) = some (.regular old) →
        c = old ∨ c = replaceDotEnvValue old runtimeUserKey (utf8 input.runtimeUser) := by
  cases h with
  | upserted old hold hupserted =>
      obtain ⟨c, hc, hlines⟩ := regular_of_upserted hupserted hold
      refine ⟨c, hc, fun old' hold' => ?_⟩
      obtain rfl : old = old' := by
        simpa using hold.symm.trans hold'
      exact hlines
  | created hcreated =>
      obtain ⟨habsent, hregular⟩ := regular_of_created hcreated
      exact ⟨_, hregular, fun old hold => nomatch habsent.symm.trans hold⟩

theorem dotEnv_bootstrapConfig {os : Nat → Answer} {templates : Templates}
    {result : BootstrapResult}
    (hrun : runOn (bootstrapConfig os p templates options) s = (.ok result, t)) :
    ∃ value, '\n'.toUInt8 ∉ value ∧ ∃ c,
      t.tree (dotEnvOf (configDirOf options)) = some (.regular c) ∧
        ∀ old, s.tree (dotEnvOf (configDirOf options)) = some (.regular old) →
          c = old ∨ c = replaceDotEnvValue old runtimeUserKey value := by
  obtain ⟨⟨input, _, token⟩, u, hprepare, hrest⟩ := exists_of_runOn_bind hrun
  obtain ⟨created, v, hwrite, hpure⟩ := exists_of_runOn_bind hrest
  cases hpure
  obtain ⟨hinput, -⟩ := yields_prepareConfig os p templates options s _ _ hprepare
  have hprepared := wrote_prepareConfig os p templates options s
  rw [hprepare] at hprepared
  have hsame := tree_dotEnv_of_wrote hinput hprepared
  have hname := not_isTemporary_of_mem_targets (mem_targets dotEnvFileName_mem hinput)
  rw [← configDir_of_checkedInput hinput]
  refine ⟨_, newline_notMem_runtimeUser hinput, ?_⟩
  have hwrote := wroteDotEnv os input options.development token (hname _) u
  rw [hwrite] at hwrote
  obtain ⟨c, hc, hlines⟩ := dotEnv_of_wroteDotEnv hwrote
  exact ⟨c, hc, fun old hold => hlines old (hsame.trans hold)⟩

/-! ## Runs -/

/-- A call of `BootstrapConfig`, with the answers of the operating system. -/
structure Run where
  os : Nat → Answer
  process : Process
  templates : Templates
  options : BootstrapOptions

/-- The tree after a run that succeeds. -/
def successfulRun (tree : Tree) (r : Run) : Option Tree :=
  match runOn (bootstrapConfig r.os r.process r.templates r.options) ⟨tree, []⟩ with
  | (.ok _, t) => some t.tree
  | (.error _, _) => none

theorem exists_of_successfulRun {tree after : Tree} {r : Run} (h : successfulRun tree r = some after) :
    ∃ result t, runOn (bootstrapConfig r.os r.process r.templates r.options) ⟨tree, []⟩ =
      (.ok result, t) ∧ t.tree = after := by
  unfold successfulRun at h
  split at h
  · next result t hrun => exact ⟨result, t, hrun, Option.some.inj h⟩
  · cases h

theorem kept_of_successfulRun {tree after : Tree} {r : Run} (h : successfulRun tree r = some after)
    {node : Node} (hloc : loc ∉ rewrittenFiles r.options) (hnode : tree loc = some node) :
    after loc = some node := by
  obtain ⟨result, t, hrun, rfl⟩ := exists_of_successfulRun h
  have hkept := kept_bootstrapConfig r.os r.process r.templates r.options ⟨tree, []⟩ loc node hloc hnode
  rw [hrun] at hkept
  exact hkept

/-! ## Names -/

theorem mem_of_mem_rewritten {rel : String} (h : rel ∈ rewritten options) :
    rel ∈ [dotEnvFileName, dotEnvExampleFileName] ++ composeFiles := by
  unfold rewritten at h
  split at h
  · exact h
  · exact List.mem_append_left composeFiles h

/-- A file that is replaced lies in the configuration directory itself. -/
theorem exists_of_mem_rewrittenFiles (h : loc ∈ rewrittenFiles options) : ∃ rel ∈ rewritten options,
      loc = Filepath.elements (configDirOf options) ++ [rel.toList] := by
  have hnames : ∀ rel ∈ [dotEnvFileName, dotEnvExampleFileName] ++ composeFiles,
      rel ∈ managedFiles ∧ names rel = [rel.toList] := by
    decide +kernel
  obtain ⟨rel, hrel, rfl⟩ := List.mem_map.mp h
  obtain ⟨hmanaged, hname⟩ := hnames rel (mem_of_mem_rewritten hrel)
  exact ⟨rel, hrel, by rw [elements_managed hmanaged, hname]⟩

theorem notMem_rewrittenFiles {rel : String} (hrel : rel ∈ managedFiles)
    (hnot : rel ∉ rewritten options) (dir : String) :
    Filepath.elements (Filepath.join dir rel) ∉ rewrittenFiles options := by
  have hlast : ∀ rel ∈ managedFiles, ∀ rel' ∈ [dotEnvFileName, dotEnvExampleFileName] ++ composeFiles,
      ((names rel).getLast?.all fun last => last = rel'.toList) = true → rel = rel' := by
    decide +kernel
  intro hmem
  obtain ⟨rel', hrel', heq⟩ := exists_of_mem_rewrittenFiles hmem
  have hend := congrArg List.getLast? heq
  rw [elements_managed hrel, List.getLast?_append, List.getLast?_concat] at hend
  have hsame : rel = rel' := by
    refine hlast rel hrel rel' (mem_of_mem_rewritten hrel') ?_
    cases hnames : (names rel).getLast? with
    | none => rfl
    | some last =>
        rw [hnames] at hend
        simpa using hend
  exact hnot (hsame ▸ hrel')

/-- The `.env` of a directory is replaced only by a run on that directory. -/
theorem dotEnvOf_eq_of_mem {dir : String} (h : dotEnvOf dir ∈ rewrittenFiles options) :
    dotEnvOf dir = dotEnvOf (configDirOf options) := by
  obtain ⟨rel, -, heq⟩ := exists_of_mem_rewrittenFiles h
  have hnames : names dotEnvFileName = [dotEnvFileName.toList] := by decide
  unfold dotEnvOf at heq ⊢
  rw [elements_managed dotEnvFileName_mem, hnames] at heq ⊢
  rw [elements_managed dotEnvFileName_mem, hnames, (List.append_inj_left' heq rfl)]

/-! ## Every run -/

/-- What is at a location before a run is there after it. -/
def Stays (before after : Tree) (loc : Location) : Prop :=
  ∀ node, before loc = some node → after loc = some node

/-- What a run with the options leaves to the operator. -/
structure Preserves (options : BootstrapOptions) (before after : Tree) : Prop where
  operatorFiles : ∀ dir, ∀ rel ∈ [poolsRelativePath, routingRelativePath],
    Stays before after (Filepath.elements (Filepath.join dir rel))
  /-- all that is in the directory of the bundle -/
  bundle : ∀ loc, Filepath.elements (Filepath.join (configDirOf options) bundleRelativePath) <+: loc →
    Stays before after loc
  /-- the files of a bundle, wherever they are -/
  bundleFiles : ∀ (dir : Location) (name : List Char), ".conf".toList <:+ name →
    Stays before after (dir ++ [name])
  composeFiles : options.refreshRuntimeTemplates = false → ∀ dir, ∀ rel ∈ composeFiles,
    Stays before after (Filepath.elements (Filepath.join dir rel))
  dotEnv : ∀ dir old, before (dotEnvOf dir) = some (.regular old) →
    ∃ new, after (dotEnvOf dir) = some (.regular new) ∧ otherLines old <+: otherLines new

theorem dotEnv_of_successfulRun {before after : Tree} {r : Run}
    (h : successfulRun before r = some after) (dir : String) {old : List UInt8}
    (hold : before (dotEnvOf dir) = some (.regular old)) :
    ∃ new, after (dotEnvOf dir) = some (.regular new) ∧ (new = old ∨
      ∃ value, '\n'.toUInt8 ∉ value ∧ new = replaceDotEnvValue old runtimeUserKey value) := by
  by_cases hmem : dotEnvOf dir ∈ rewrittenFiles r.options
  · obtain ⟨result, t, hrun, rfl⟩ := exists_of_successfulRun h
    obtain ⟨value, hvalue, new, hnew, hlines⟩ := dotEnv_bootstrapConfig hrun
    rw [dotEnvOf_eq_of_mem hmem] at hold ⊢
    rcases hlines old hold with heq | heq
    · exact ⟨new, hnew, .inl heq⟩
    · exact ⟨new, hnew, .inr ⟨value, hvalue, heq⟩⟩
  · exact ⟨old, kept_of_successfulRun h hmem hold, .inl rfl⟩

theorem preserves_of_successfulRun {before after : Tree} {r : Run}
    (h : successfulRun before r = some after) : Preserves r.options before after where
  operatorFiles dir rel hrel node hnode := by
    have hnames : ∀ rel ∈ [poolsRelativePath, routingRelativePath], rel ∈ managedFiles ∧
        rel ∉ [dotEnvFileName, dotEnvExampleFileName] ++ composeFiles := by
      decide
    obtain ⟨hmanaged, hnot⟩ := hnames rel hrel
    refine kept_of_successfulRun h (notMem_rewrittenFiles hmanaged ?_ dir) hnode
    exact fun hmem => hnot (mem_of_mem_rewritten hmem)
  bundle loc hloc node hnode := by
    refine kept_of_successfulRun h (fun hmem => ?_) hnode
    obtain ⟨rel, -, heq⟩ := exists_of_mem_rewrittenFiles hmem
    have hprivate : bundleRelativePath ∈ privateDirectories := by decide
    have hlength : (names bundleRelativePath).length = 2 := by decide
    rw [heq, elements_private hprivate, List.prefix_append_right_inj] at hloc
    have hle := hloc.length_le
    rw [hlength] at hle
    cases Nat.not_succ_le_self 1 hle
  bundleFiles dir name hname node hnode := by
    have hnames : ∀ rel ∈ [dotEnvFileName, dotEnvExampleFileName] ++ ConfigInit.composeFiles,
        ¬ ".conf".toList <:+ rel.toList := by
      decide
    refine kept_of_successfulRun h (fun hmem => ?_) hnode
    obtain ⟨rel, hrel, heq⟩ := exists_of_mem_rewrittenFiles hmem
    have hlast : [name] = [rel.toList] := List.append_inj_right' heq rfl
    rw [List.singleton_inj.mp hlast] at hname
    exact hnames rel (mem_of_mem_rewritten hrel) hname
  composeFiles hrefresh dir rel hrel node hnode := by
    have hnames : ∀ rel ∈ ConfigInit.composeFiles, rel ∈ managedFiles ∧
        rel ∉ [dotEnvFileName, dotEnvExampleFileName] := by
      decide
    obtain ⟨hmanaged, hnot⟩ := hnames rel hrel
    refine kept_of_successfulRun h (notMem_rewrittenFiles hmanaged ?_ dir) hnode
    rw [rewritten, hrefresh]
    exact hnot
  dotEnv dir old hold := by
    obtain ⟨new, hnew, rfl | ⟨value, hvalue, rfl⟩⟩ := dotEnv_of_successfulRun h dir hold
    · exact ⟨new, hnew, List.prefix_refl _⟩
    · exact ⟨_, hnew, otherLines_replaceDotEnvValue old hvalue⟩

/-! ## The token -/

/-- The lines of a file fit the scanner. -/
def ShortLines (node : Option Node) : Prop :=
  ∀ contents, node = some (.regular contents) →
    ∀ line ∈ dotEnvLines contents, line.length < maxScanTokenSize

theorem loadAPITokenFromDotEnv_replaceDotEnvValue {contents value : List UInt8}
    (hvalue : '\n'.toUInt8 ∉ value) (hshort : ShortLines (some (.regular contents)))
    (hshort' : ShortLines (some (.regular (replaceDotEnvValue contents runtimeUserKey value)))) :
    loadAPITokenFromDotEnv (.ok ⟨replaceDotEnvValue contents runtimeUserKey value, none⟩) =
      loadAPITokenFromDotEnv (.ok ⟨contents, none⟩) := by
  obtain ⟨hne, htoken, htrim, hequals, hnewline⟩ := runtimeUserKey_plain
  have hscan := scanAPIToken_replaceDotEnvValue hne htoken htrim hequals hnewline hvalue
    (hshort contents rfl) (hshort' _ rfl)
  unfold loadAPITokenFromDotEnv dotEnvToken
  dsimp only
  rw [← dotEnvLines, ← dotEnvLines, hscan]

/-- **Running `config init` again.** Every successful run leaves the files of the operator as they are,
and the lines of `.env` apart from its own; the token that the first run left in `.env` is the token
after every later run, whatever directories these are on, as long as the lines fit the scanner. -/
theorem runs_preserve (tree : Tree) (first : Run) (after : Tree)
    (hfirst : successfulRun tree first = some after) (later : List Run) :
    Preserves first.options tree after ∧
    (∀ e ∈ edges successfulRun after later, Preserves e.action.options e.source e.target) ∧
    (ShortLines (after (dotEnvOf (configDirOf first.options))) →
      (∀ e ∈ edges successfulRun after later,
        ShortLines (e.target (dotEnvOf (configDirOf first.options)))) →
      ∃ c, after (dotEnvOf (configDirOf first.options)) = some (.regular c) ∧
        ∀ e ∈ edges successfulRun after later, ∃ c',
          e.target (dotEnvOf (configDirOf first.options)) = some (.regular c') ∧
          loadAPITokenFromDotEnv (.ok ⟨c', none⟩) = loadAPITokenFromDotEnv (.ok ⟨c, none⟩)) := by
  refine ⟨preserves_of_successfulRun hfirst, fun e he => ?_, fun hshort hshorts => ?_⟩
  · exact preserves_of_successfulRun (enabled_of_mem he)
  · obtain ⟨result, t, hrun, rfl⟩ := exists_of_successfulRun hfirst
    obtain ⟨-, -, c, hc, -⟩ := dotEnv_bootstrapConfig hrun
    obtain ⟨last, hpath⟩ : ∃ last, Path successfulRun t.tree (edges successfulRun t.tree later) last :=
      exists_path_edges t.tree later
    refine ⟨c, hc, fun e he => ?_⟩
    -- the token of the first run, in a file that can be scanned
    let Inv (tree : Tree) : Prop := ∃ c', tree (dotEnvOf (configDirOf first.options)) =
      some (.regular c') ∧ ShortLines (some (.regular c')) ∧
        loadAPITokenFromDotEnv (.ok ⟨c', none⟩) = loadAPITokenFromDotEnv (.ok ⟨c, none⟩)
    have hstart : Inv t.tree := ⟨c, hc, hc ▸ hshort, rfl⟩
    have hstep : ∀ e ∈ edges successfulRun t.tree later, Inv e.source →
        successfulRun e.source e.action = some e.target → Inv e.target := by
      rintro e he ⟨old, hold, hshortOld, htoken⟩ henabled
      obtain ⟨new, hnew, hlines⟩ := dotEnv_of_successfulRun henabled (configDirOf first.options) hold
      have hshortNew := hshorts e he
      rw [hnew] at hshortNew
      refine ⟨new, hnew, hshortNew, ?_⟩
      rcases hlines with rfl | ⟨value, hvalue, rfl⟩
      · exact htoken
      · rw [loadAPITokenFromDotEnv_replaceDotEnvValue hvalue hshortOld hshortNew, htoken]
    obtain ⟨c', hc', -, htoken⟩ := (hpath.invariant_of_mem Inv hstart hstep he).2
    exact ⟨c', hc', htoken⟩

def etcRun : Run := ⟨fun _ => {}, rootUser, noTemplates, etcOptions⟩

/-- A later run for another user. -/
def otherUserRun : Run := { etcRun with options := { etcOptions with runtimeUser := "1000:1000" } }

instance (node : Option Node) : Decidable (ShortLines node) :=
  match node with
  | some (.regular contents) =>
      decidable_of_iff (∀ line ∈ dotEnvLines contents, line.length < maxScanTokenSize)
        ⟨fun h _ heq => by cases heq; exact h, fun h => h contents rfl⟩
  | some .directory | some .symlink | some .other | none => isTrue nofun

def afterEtcRun : Tree := (successfulRun emptyRoot etcRun).getD emptyRoot

theorem runs_preserve_otherUser :
    successfulRun emptyRoot etcRun = some afterEtcRun ∧
      (edges successfulRun afterEtcRun [otherUserRun]).length = 1 ∧
      ∃ c, afterEtcRun (dotEnvOf (configDirOf etcRun.options)) = some (.regular c) ∧
        ∀ e ∈ edges successfulRun afterEtcRun [otherUserRun], ∃ c',
          e.target (dotEnvOf (configDirOf etcRun.options)) = some (.regular c') ∧
          loadAPITokenFromDotEnv (.ok ⟨c', none⟩) = loadAPITokenFromDotEnv (.ok ⟨c, none⟩) := by
  have hruns : (successfulRun emptyRoot etcRun).isSome = true ∧
      (edges successfulRun afterEtcRun [otherUserRun]).length = 1 ∧
      ShortLines (afterEtcRun (dotEnvOf (configDirOf etcRun.options))) ∧
      ∀ e ∈ edges successfulRun afterEtcRun [otherUserRun],
        ShortLines (e.target (dotEnvOf (configDirOf etcRun.options))) := by
    decide +kernel
  obtain ⟨hsome, hlength, hshort, hshorts⟩ := hruns
  have hfirst : successfulRun emptyRoot etcRun = some afterEtcRun := by
    obtain ⟨after, hafter⟩ := Option.isSome_iff_exists.mp hsome
    rw [afterEtcRun, hafter, Option.getD_some]
  refine ⟨hfirst, hlength, ?_⟩
  exact (runs_preserve emptyRoot etcRun afterEtcRun hfirst [otherUserRun]).2.2 hshort hshorts

end Pr0xteus.ConfigInit
