import Pr0xteus.Proof.ConfigRun

/-!
# What a failed `config init` leaves behind

A file that is replaced goes through a temporary one, so it is there as before or complete. A file that
is created exclusively is written in place: when the write fails half-way the first part stays, and the
next run takes it for a file of the operator.
-/

namespace Pr0xteus.ConfigInit

open Encoding Effects

variable {err? : Option ConfigError} {loc : Location} {contents : List UInt8} {path : String}
  {s t : Disk}

/-! ## A run -/

/-- What part of a run does to the files `files`, where `New` says which contents are complete: each is
as before or complete, or the part has failed and one of them is there in part. -/
inductive Wrote (files : List Location) (New : Location → List UInt8 → Prop) (s : Disk) :
    Option ConfigError → Disk → Prop
  | intact (err? : Option ConfigError) (t : Disk) (hcuts : ∀ loc ∈ files, loc ∈ t.cuts → loc ∈ s.cuts)
      (hfiles : ∀ loc ∈ files,
        t.tree loc = s.tree loc ∨ ∃ c, New loc c ∧ t.tree loc = some (.regular c)) :
      Wrote files New s err? t
  | cut (err : ConfigError) (t : Disk) (loc : Location) (c : List UInt8) (n : Nat)
      (hloc : loc ∈ files) (habsent : s.tree loc = none) (hcut : loc ∈ t.cuts) (hnew : New loc c)
      (hn : n < c.length) (hpart : t.tree loc = some (.regular (c.take n))) :
      Wrote files New s (some err) t

section Wrote

variable {files : List Location} {New : Location → List UInt8 → Prop} {os : Nat → Answer}
  {s t : Disk}

theorem Wrote.of_same (hcuts : t.cuts = s.cuts) (htree : ∀ loc ∈ files, t.tree loc = s.tree loc) :
    Wrote files New s err? t :=
  .intact err? t (fun _ _ => hcuts ▸ id) fun loc hloc => .inl (htree loc hloc)

theorem Wrote.mono {New' : Location → List UInt8 → Prop} (h : Wrote files New s err? t)
    (hnew : ∀ loc c, New loc c → New' loc c) : Wrote files New' s err? t := by
  cases h with
  | intact err? t hcuts hfiles =>
      refine .intact _ t hcuts fun loc hloc => ?_
      rcases hfiles loc hloc with hsame | ⟨c, hc, hregular⟩
      · exact .inl hsame
      · exact .inr ⟨c, hnew loc c hc, hregular⟩
  | cut err t loc c n hloc habsent hcut hc hn hpart =>
      exact .cut err t loc c n hloc habsent hcut (hnew loc c hc) hn hpart

theorem sequential_wrote : Sequential (Wrote files New) where
  refl _ := .of_same rfl fun _ _ => rfl
  fails _ _ := .of_same rfl fun _ _ => rfl
  trans := by
    intro s t u err? hfirst hsecond
    cases hfirst with
    | intact err? t hcuts hfiles =>
        cases hsecond with
        | intact err? u hcuts' hfiles' =>
            refine .intact _ u (fun loc hloc hcut => hcuts loc hloc (hcuts' loc hloc hcut)) ?_
            intro loc hloc
            rcases hfiles' loc hloc with hsame | hnew
            · rw [hsame]
              exact hfiles loc hloc
            · exact .inr hnew
        | cut err u loc c n hloc habsent hcut hnew hn hpart =>
            refine .cut err u loc c n hloc ?_ hcut hnew hn hpart
            rcases hfiles loc hloc with hsame | ⟨c', -, hregular⟩
            · exact hsame.symm.trans habsent
            · cases habsent.symm.trans hregular

theorem wrote_ask {op : FileOp} (hop : ∀ a, cutAt (op, a) = none) :
    Ensures (Wrote files New) (ask os op) := fun _ =>
  .of_same (cuts_asked_other (hop _)) fun _ _ => rfl

theorem wrote_ensurePrivateDirectory (hpath : ∀ loc ∈ files, ¬ loc <+: Filepath.elements path) :
    Ensures (Wrote files New) (ensurePrivateDirectory os path) := by
  intro s
  refine .of_same (tree_ensurePrivateDirectory os path s []).1 fun loc hloc => ?_
  rcases (tree_ensurePrivateDirectory os path s loc).2 with hsame | ⟨-, hway, -⟩
  · exact hsame
  · exact absurd hway (hpath loc hloc)

theorem wrote_of_created (hloc : loc ∈ files) (hnew : s.tree loc = none → New loc contents)
    (h : Created s loc contents err? t) : Wrote files New s err? t := by
  cases h with
  | refused err t htree hcuts => exact .of_same hcuts fun _ _ => by rw [htree]
  | full err? t habsent htree hcuts =>
      refine .intact _ t (fun _ _ => hcuts ▸ id) fun loc' _ => ?_
      rw [htree]
      by_cases hsame : loc' = loc
      · subst hsame
        exact .inr ⟨contents, hnew habsent, Function.update_self _ _ _⟩
      · exact .inl (Function.update_of_ne hsame _ _)
  | cut err t n habsent hn htree hcuts =>
      refine .cut err t loc contents n hloc habsent ?_ (hnew habsent) hn ?_
      · rw [hcuts]
        exact List.mem_append_right _ (List.mem_singleton.mpr rfl)
      · rw [htree, Function.update_self]

theorem wrote_writeFileIfAbsent (hloc : Filepath.elements path ∈ files)
    (hnew : New (Filepath.elements path) contents) :
    Ensures (Wrote files New) (writeFileIfAbsent os path contents) := by
  intro s
  have hwrote := wroteIfAbsent os path contents s
  generalize runOn (writeFileIfAbsent os path contents) s = outcome at hwrote
  obtain ⟨result, t⟩ := outcome
  cases hwrote with
  | present t old hpresent htree hcuts => exact .of_same hcuts fun _ _ => by rw [htree]
  | created result t hresult hcreated => exact wrote_of_created hloc (fun _ => hnew) hcreated

theorem wrote_of_refreshed (htemporary : ∀ file ∈ files, ¬ IsTemporary loc file)
    (hnew : New loc contents) (h : Refreshed s loc contents err? t) : Wrote files New s err? t := by
  cases h with
  | refused err t htree hcuts => exact .of_same hcuts fun _ _ => by rw [htree]
  | failed err t temporary node htemp habsent htree hcuts =>
      have hne : ∀ file ∈ files, file ≠ temporary := by
        rintro file hfile rfl
        exact htemporary file hfile htemp
      refine .intact _ t (fun file hfile hcut => ?_) fun file hfile => .inl ?_
      · exact (List.mem_cons.mp (hcuts hcut)).resolve_left (hne file hfile)
      · rw [htree, Function.update_of_ne (hne file hfile)]
  | replaced t htree hcuts =>
      refine .intact _ t (fun _ _ => hcuts ▸ id) fun loc' _ => ?_
      rw [htree]
      by_cases hsame : loc' = loc
      · subst hsame
        exact .inr ⟨contents, hnew, Function.update_self _ _ _⟩
      · exact .inl (Function.update_of_ne hsame _ _)

theorem wrote_writeRefreshedFile {mode : Nat} (hloc : Filepath.elements path ∈ files)
    (htemporary : ∀ file ∈ files, ∀ loc, ¬ IsTemporary loc file)
    (hnew : New (Filepath.elements path) contents) :
    Ensures (Wrote files New) (writeRefreshedFile os path contents mode) := fun s =>
  wrote_of_refreshed (fun file hfile => htemporary file hfile _) hnew
    (refreshed_writeRefreshedFile os path contents mode s (htemporary _ hloc _))

end Wrote

/-! ## Complete contents -/

/-- The contents of a file other than `.env`. -/
def NewFile (p : Process) (templates : Templates) (options : BootstrapOptions) (loc : Location)
    (c : List UInt8) : Prop :=
  ∃ input, checkedInput p options = .ok input ∧ ∃ rel,
    (rel, c) ∈ newFiles templates input options.development ∧
      loc = Filepath.elements (Filepath.join input.configDir rel)

/-- The contents of `.env`: with the managed line where it was there, with a drawn token where not. -/
def NewEnv (p : Process) (options : BootstrapOptions) (tree : Tree) (loc : Location)
    (c : List UInt8) : Prop :=
  ∃ input, checkedInput p options = .ok input ∧
    loc = Filepath.elements (Filepath.join input.configDir dotEnvFileName) ∧
      ((∃ old, tree loc = some (.regular old) ∧
          c = replaceDotEnvValue old (utf8 runtimeUserEnvName) (utf8 input.runtimeUser)) ∨
        tree loc = none ∧ ∃ random : Fin randomTokenBytes → UInt8,
          c = utf8 (renderEnvFile input.hostConfigDir input.controllerImage input.runtimeUser
            (hexEncode (List.ofFn random)) options.development))

section New

variable {p : Process} {templates : Templates} {options : BootstrapOptions} {input : BootstrapInput}

theorem eq_of_newFile {c c' : List UInt8} (h : NewFile p templates options loc c)
    (h' : NewFile p templates options loc c') : c = c' := by
  obtain ⟨input, hinput, rel, hmem, hloc⟩ := h
  obtain ⟨input', hinput', rel', hmem', hloc'⟩ := h'
  obtain rfl : input = input' := Except.ok.inj (hinput.symm.trans hinput')
  obtain rfl : rel = rel' := eq_of_elements_join (mem_managedFiles_of_mem_newFiles hmem).1
    (mem_managedFiles_of_mem_newFiles hmem').1 (hloc.symm.trans hloc')
  have hnodup : [poolsRelativePath, routingRelativePath, composeFileName, hostPortsFileName,
      noHostPortsFileName, dotEnvExampleFileName].Nodup := by
    decide
  have hkeys : ((newFiles templates input options.development).map Prod.fst).Nodup := hnodup
  exact congrArg Prod.snd (List.inj_on_of_nodup_map hkeys hmem hmem' rfl)

theorem not_newFile_dotEnv (hinput : checkedInput p options = .ok input) (c : List UInt8) :
    ¬ NewFile p templates options (Filepath.elements (Filepath.join input.configDir dotEnvFileName))
      c := by
  rintro ⟨input', hinput', rel, hmem, hloc⟩
  cases hinput.symm.trans hinput'
  obtain ⟨hrel, hne⟩ := mem_managedFiles_of_mem_newFiles hmem
  exact hne (eq_of_elements_join hrel dotEnvFileName_mem hloc.symm)

/-! ## The run up to `.env` -/

theorem wrote_prepareConfig (os : Nat → Answer) (p : Process) (templates : Templates)
    (options : BootstrapOptions) :
    Ensures (Wrote (targets (configDirOf options)) (NewFile p templates options))
      (prepareConfig os p templates options) := by
  refine ensures_prepareConfig sequential_wrote (wrote_ask fun _ => rfl) ?_ ?_ ?_ ?_
  · exact wrote_ensurePrivateDirectory fun loc hloc => (not_prefix_of_mem_targets hloc).1
  · exact fun rel hrel => wrote_ensurePrivateDirectory fun loc hloc =>
      (not_prefix_of_mem_targets hloc).2 rel hrel
  · intro input hinput rel contents hmem
    exact wrote_writeFileIfAbsent (mem_targets (mem_managedFiles_of_mem_newFiles hmem).1 hinput)
      ⟨input, hinput, rel, hmem, rfl⟩
  · intro input hinput rel contents mode _ hmem
    exact wrote_writeRefreshedFile (mem_targets (mem_managedFiles_of_mem_newFiles hmem).1 hinput)
      (fun file hfile => not_isTemporary_of_mem_targets hfile) ⟨input, hinput, rel, hmem, rfl⟩

theorem wrote_of_upserted {files : List Location} {New : Location → List UInt8 → Prop}
    {key value : List UInt8} (htemporary : ∀ file ∈ files, ¬ IsTemporary loc file)
    (hnew : ∀ old, s.tree loc = some (.regular old) → New loc (replaceDotEnvValue old key value))
    (h : Upserted s loc key value err? t) : Wrote files New s err? t := by
  cases h with
  | same htree hcuts => exact .of_same hcuts fun _ _ => by rw [htree]
  | refreshed old hold hrefreshed =>
      exact wrote_of_refreshed htemporary (hnew old hold) hrefreshed

theorem wrote_writeDotEnv (os : Nat → Answer) (hinput : checkedInput p options = .ok input)
    {token : String}
    (htoken : ∃ random : Fin randomTokenBytes → UInt8, token = hexEncode (List.ofFn random))
    (s : Disk) :
    Wrote (targets (configDirOf options)) (NewEnv p options s.tree) s
      (failure (runOn (writeDotEnv os input options.development token) s).1)
      (runOn (writeDotEnv os input options.development token) s).2 := by
  obtain ⟨random, htoken⟩ := htoken
  have hloc : dotEnvOf input.configDir ∈ targets (configDirOf options) :=
    mem_targets dotEnvFileName_mem hinput
  cases wroteDotEnv os input options.development token (not_isTemporary_of_mem_targets hloc _) s with
  | upserted old hold hupserted =>
      refine wrote_of_upserted (fun file hfile => not_isTemporary_of_mem_targets hfile _) ?_ hupserted
      exact fun old hold => ⟨input, hinput, rfl, .inl ⟨old, hold, rfl⟩⟩
  | created hcreated =>
      refine wrote_of_created hloc (fun habsent => ?_) hcreated
      exact ⟨input, hinput, rfl, .inr ⟨habsent, random, by rw [htoken]⟩⟩

/-! ## The whole run -/

/-- Contents of a managed file that are complete. -/
def Complete (p : Process) (templates : Templates) (options : BootstrapOptions) (tree : Tree)
    (loc : Location) (c : List UInt8) : Prop :=
  NewFile p templates options loc c ∨ NewEnv p options tree loc c

/-- `.env` is the last file that is written. -/
theorem tree_dotEnv_of_wrote (hinput : checkedInput p options = .ok input)
    (h : Wrote (targets (configDirOf options)) (NewFile p templates options) s none t) :
    t.tree (Filepath.elements (Filepath.join input.configDir dotEnvFileName)) =
      s.tree (Filepath.elements (Filepath.join input.configDir dotEnvFileName)) := by
  cases h with
  | intact _ _ hcuts hfiles =>
      rcases hfiles _ (mem_targets dotEnvFileName_mem hinput) with hsame | ⟨c, hnew, -⟩
      · exact hsame
      · exact absurd hnew (not_newFile_dotEnv hinput c)

theorem wrote_bootstrapConfig (os : Nat → Answer) (p : Process) (templates : Templates)
    (options : BootstrapOptions) (s : Disk) :
    Wrote (targets (configDirOf options)) (Complete p templates options s.tree) s
      (failure (runOn (bootstrapConfig os p templates options) s).1)
      (runOn (bootstrapConfig os p templates options) s).2 := by
  unfold bootstrapConfig
  rw [runOn_bind]
  have hprepared := wrote_prepareConfig os p templates options s
  have hvalue := yields_prepareConfig os p templates options s
  generalize runOn (prepareConfig os p templates options) s = outcome at hprepared hvalue
  obtain ⟨result, t⟩ := outcome
  cases result with
  | error err => exact hprepared.mono fun _ _ => .inl
  | ok prepared =>
      obtain ⟨input, result, token⟩ := prepared
      obtain ⟨hinput, htoken⟩ := hvalue _ t rfl
      have hsame := tree_dotEnv_of_wrote hinput hprepared
      have hfirst : Wrote (targets (configDirOf options)) (Complete p templates options s.tree) s
          none t := hprepared.mono fun _ _ => .inl
      have henv : ∀ loc c, NewEnv p options t.tree loc c → NewEnv p options s.tree loc c := by
        rintro loc c ⟨input', hinput', hloc, hc⟩
        obtain rfl : input = input' := Except.ok.inj (hinput.symm.trans hinput')
        rw [hloc, hsame, ← hloc] at hc
        exact ⟨input, hinput, hloc, hc⟩
      have hwrote := wrote_writeDotEnv os hinput htoken t
      dsimp only
      rw [runOn_bind]
      generalize runOn (writeDotEnv os input options.development token) t = outcome at hwrote
      obtain ⟨created, u⟩ := outcome
      have hsecond : Wrote (targets (configDirOf options)) (Complete p templates options s.tree) t
          (failure created) u := hwrote.mono fun loc c hc => .inr (henv loc c hc)
      cases created <;> exact sequential_wrote.trans hfirst hsecond

/-! ## Lengths -/

theorem length_utf8_hexEncode (bytes : List UInt8) :
    (utf8 (hexEncode bytes)).length = 2 * bytes.length := by
  have hdigit : ∀ n < 16, (hexDigit n).toLower.toNat < 128 := by decide
  rw [hexEncode, Bytes.utf8_ofList_ascii, List.length_map, List.length_flatMap]
  · simp [Nat.mul_comm]
  · intro c hc
    obtain ⟨b, -, hb⟩ := List.mem_flatMap.mp hc
    have hlt := b.toNat_lt
    rcases List.mem_pair.mp hb with rfl | rfl
    · exact hdigit _ (by omega)
    · exact hdigit _ (by omega)

theorem length_renderEnvFile {token token' : String} (hostConfigDir controllerImage runtimeUser : String)
    (development : Bool) (h : (utf8 token).length = (utf8 token').length) :
    (utf8 (renderEnvFile hostConfigDir controllerImage runtimeUser token development)).length =
      (utf8 (renderEnvFile hostConfigDir controllerImage runtimeUser token' development)).length := by
  simp only [renderEnvFile, String.intercalate_cons_cons, String.intercalate_singleton,
    Bytes.utf8_append, List.length_append, h]

/-- All complete contents of a file that was absent have one length. -/
theorem length_of_complete {tree : Tree} {c c' : List UInt8} (habsent : tree loc = none)
    (h : Complete p templates options tree loc c) (h' : Complete p templates options tree loc c') :
    c.length = c'.length := by
  have hfileEnv : ∀ c c', NewFile p templates options loc c → ¬ NewEnv p options tree loc c' := by
    rintro c c' hfile ⟨input, hinput, hloc, -⟩
    rw [hloc] at hfile
    exact not_newFile_dotEnv hinput c hfile
  rcases h with hfile | henv
  · rcases h' with hfile' | henv'
    · rw [eq_of_newFile hfile hfile']
    · exact absurd henv' (hfileEnv c c' hfile)
  · rcases h' with hfile' | henv'
    · exact absurd henv (hfileEnv c' c hfile')
    · obtain ⟨input, hinput, -, hc⟩ := henv
      obtain ⟨input', hinput', -, hc'⟩ := henv'
      obtain rfl : input = input' := Except.ok.inj (hinput.symm.trans hinput')
      rcases hc with ⟨old, hold, -⟩ | ⟨-, random, hc⟩
      · cases habsent.symm.trans hold
      · rcases hc' with ⟨old, hold, -⟩ | ⟨-, random', hc'⟩
        · cases habsent.symm.trans hold
        · rw [hc, hc']
          refine length_renderEnvFile _ _ _ _ ?_
          rw [length_utf8_hexEncode, length_utf8_hexEncode, List.length_ofFn, List.length_ofFn]

theorem intact_iff_of_wrote (hs : s.cuts = [])
    (h : Wrote (targets (configDirOf options)) (Complete p templates options s.tree) s err? t) :
    (∀ loc ∈ targets (configDirOf options), t.tree loc = s.tree loc ∨
        ∃ c, Complete p templates options s.tree loc c ∧ t.tree loc = some (.regular c)) ↔
      ∀ loc ∈ targets (configDirOf options), loc ∉ t.cuts := by
  cases h with
  | intact _ _ hcuts hfiles =>
      refine ⟨fun _ loc hloc hcut => ?_, fun _ => hfiles⟩
      have hbefore := hcuts loc hloc hcut
      rw [hs] at hbefore
      exact List.not_mem_nil hbefore
  | cut err _ loc c n hloc habsent hcut hnew hn hpart =>
      constructor
      · intro hintact
        -- the part that is there would have to be complete
        rcases hintact loc hloc with hsame | ⟨c', hnew', hregular⟩
        · cases hpart.symm.trans (hsame.trans habsent)
        · have htake : c.take n = c' := by
            simpa using hpart.symm.trans hregular
          have hlength := length_of_complete habsent hnew hnew'
          rw [← htake, List.length_take] at hlength
          omega
      · intro hnone
        exact absurd hcut (hnone loc hloc)

end New

/-- **What a run leaves behind.** Whatever calls fail, each file that `config init` writes is as it was
before or has complete contents, exactly where no write to one of them is cut short. -/
theorem intact_iff (os : Nat → Answer) (p : Process) (templates : Templates)
    (options : BootstrapOptions) (tree : Tree) :
    let t := (runOn (bootstrapConfig os p templates options) ⟨tree, []⟩).2
    (∀ loc ∈ targets (configDirOf options), t.tree loc = tree loc ∨
        ∃ c, Complete p templates options tree loc c ∧ t.tree loc = some (.regular c)) ↔
      ∀ loc ∈ targets (configDirOf options), loc ∉ t.cuts :=
  intact_iff_of_wrote rfl (wrote_bootstrapConfig os p templates options ⟨tree, []⟩)

/-! A full disk at the write of `.env`. -/

def emptyRoot : Tree := fun loc => if loc = [] then some .directory else none

def diskFull : Nat → Answer := fun n =>
  if n = 45 then { err := some "no space left on device", count := 10 } else {}

def rootUser : Process := ⟨0, 0⟩

def noTemplates : Templates := ⟨[], [], [], [], []⟩

def etcOptions : BootstrapOptions where
  configDir := "/etc"
  hostConfigDir := "/etc"
  controllerImage := "pr0xteus"
  runtimeUser := "0:0"
  development := false
  refreshRuntimeTemplates := false

def diskFullRun : Except ConfigError BootstrapResult × Disk :=
  runOn (bootstrapConfig diskFull rootUser noTemplates etcOptions) ⟨emptyRoot, []⟩

/-- The next run, where no call fails. -/
def nextRun : Except ConfigError BootstrapResult × Disk :=
  runOn (bootstrapConfig (fun _ => {}) rootUser noTemplates etcOptions) ⟨diskFullRun.2.tree, []⟩

/-- Ten bytes of `.env` stay. The next run takes them for a file of the operator and succeeds, without
a token in the file. -/
theorem not_intact_diskFull :
    (¬ ∀ loc ∈ targets (configDirOf etcOptions), diskFullRun.2.tree loc = emptyRoot loc ∨
        ∃ c, Complete rootUser noTemplates etcOptions emptyRoot loc c ∧
          diskFullRun.2.tree loc = some (.regular c)) ∧
      nextRun.1.toOption.map (fun result => result.preserved.getLast?) = some (some "/etc/.env") ∧
      nextRun.2.tree (Filepath.elements "/etc/.env") =
        some (.regular (utf8 "# Generate\nPR0XTEUS_RUNTIME_USER=0:0\n")) := by
  have hruns : (Filepath.elements "/etc/.env" ∈ targets (configDirOf etcOptions) ∧
      Filepath.elements "/etc/.env" ∈ diskFullRun.2.cuts) ∧
      nextRun.1.toOption.map (fun result => result.preserved.getLast?) = some (some "/etc/.env") ∧
      nextRun.2.tree (Filepath.elements "/etc/.env") =
        some (.regular (utf8 "# Generate\nPR0XTEUS_RUNTIME_USER=0:0\n")) := by
    decide +kernel
  have hwrote : Wrote (targets (configDirOf etcOptions))
      (Complete rootUser noTemplates etcOptions emptyRoot) ⟨emptyRoot, []⟩ _ diskFullRun.2 :=
    wrote_bootstrapConfig diskFull rootUser noTemplates etcOptions ⟨emptyRoot, []⟩
  have hiff := intact_iff_of_wrote (s := ⟨emptyRoot, []⟩) rfl hwrote
  refine ⟨fun hintact => ?_, hruns.2⟩
  exact hiff.mp hintact _ hruns.1.1 hruns.1.2

end Pr0xteus.ConfigInit
