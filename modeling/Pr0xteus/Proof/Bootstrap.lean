import Pr0xteus.Bootstrap
import Pr0xteus.Proof.Routing

/-!
# What a checked configuration promises the boot

The check and the boot load the same files with the same loaders, and differ in one argument: the
check names no pool for the countries without an entry, and the boot names the one of its
configuration. Whether a loader succeeds does not depend on the order in which a map is ranged over;
`PoolsFile.Valid` and `loadRouter_eq_ok_iff` say what it does depend on.
-/

namespace Pr0xteus

open Encoding Text Fallible

variable {t : CaseTable} {name : String} {α : Type} {value : α}

/-! ## When the pools file is accepted -/

section PoolsFile

variable {path bundleDir name : String} {bundle known : Finset String} {entry : PoolEntry}
  {file file' : PoolsFile} {specs : PoolSpecs}

structure PoolEntry.Valid (t : CaseTable) (bundle : Finset String) (entry : PoolEntry) : Prop where
  configs : entry.configs ≠ []
  bundled : ∀ conf ∈ entry.configs, conf ∈ bundle
  countries : ∀ e ∈ entry.exitCountries.entries, e.1 ∈ entry.configs ∧
    isCountryCode (t.toUpper (trimSpace e.2)) = true

structure PoolsFile.Valid (t : CaseTable) (bundle : Finset String) (file : PoolsFile) : Prop where
  nonempty : ∃ name, name ∈ file.pools
  entries : ∀ name entry, file.pools.lookup name = some entry → entry.Valid t bundle
  fallbacks : ∀ name entry, file.pools.lookup name = some entry →
    entry.fallbackPool = "" ∨ entry.fallbackPool ∈ file.pools

theorem exists_normalizeExitCountries_iff {configs : List String}
    {exitCountries : AList fun _ : String => String} :
    (∃ normalized, normalizeExitCountries t configs exitCountries = .ok normalized) ↔
      ∀ e ∈ exitCountries.entries, e.1 ∈ configs ∧
        isCountryCode (t.toUpper (trimSpace e.2)) = true := by
  refine exists_foldlM_eq_ok_iff fun acc e => ?_
  simp only [ite_error_eq_ok_iff, not_not, Bool.not_eq_true', Bool.not_eq_false, exists_and_left,
    and_congr_right_iff]
  intro _
  exact ⟨fun h => h.1, fun h => ⟨h, _, rfl⟩⟩

theorem exists_buildSpec_iff :
    (∃ spec, buildSpec t bundle bundleDir name entry = .ok spec) ↔ entry.Valid t bundle := by
  have hsorted : ∀ conf, conf ∈ entry.configs.insertionSort (· ≤ ·) ↔ conf ∈ entry.configs :=
    fun conf => List.mem_insertionSort _
  have hcountries : (∃ normalized, normalizeExitCountries t
      (entry.configs.insertionSort (· ≤ ·)) entry.exitCountries = .ok normalized) ↔ _ :=
    exists_normalizeExitCountries_iff
  simp only [hsorted] at hcountries
  have hconfs : checkConfs bundle bundleDir name entry.configs = .ok () ↔
      ∀ conf ∈ entry.configs, conf ∈ bundle := by
    unfold checkConfs
    rw [forM_eq_ok_iff]
    simp only [ite_error_eq_ok_iff, not_not, and_true]
  simp only [buildSpec, ite_error_eq_ok_iff, bind_eq_ok_iff, List.isEmpty_iff]
  constructor
  · rintro ⟨spec, hne, ⟨⟩, hbundled, exitCountries, hexit, -⟩
    exact ⟨hne, hconfs.mp hbundled, hcountries.mp ⟨exitCountries, hexit⟩⟩
  · rintro ⟨hne, hbundled, hexit⟩
    obtain ⟨exitCountries, hexit⟩ := hcountries.mpr hexit
    exact ⟨_, hne, (), hconfs.mpr hbundled, exitCountries, hexit, rfl⟩

theorem fallbackPool_of_buildSpec {spec : LoadedPool}
    (h : buildSpec t bundle bundleDir name entry = .ok spec) :
    spec.fallbackPool = entry.fallbackPool := by
  simp only [buildSpec, ite_error_eq_ok_iff, bind_eq_ok_iff] at h
  obtain ⟨-, -, -, exitCountries, -, hspec⟩ := h
  cases hspec
  rfl

/-- The specs of these entries, and their names. -/
structure SpecsOf (entries : List ((_ : String) × PoolEntry)) (acc : PoolSpecs × Finset String) :
    Prop where
  known : ∀ name, name ∈ acc.2 ↔ ∃ e ∈ entries, e.1 = name
  specs : ∀ name, name ∈ acc.1 ↔ ∃ e ∈ entries, e.1 = name
  fallbacks : ∀ name spec, acc.1.lookup name = some spec →
    ∃ e ∈ entries, e.1 = name ∧ spec.fallbackPool = e.2.fallbackPool

theorem specsOf_of_buildSpecs
    (h : buildSpecs t file bundle bundleDir = .ok (specs, known)) :
    SpecsOf file.pools.entries (specs, known) := by
  refine foldlM_passed SpecsOf ⟨by simp, by simp, by simp⟩ ?_ h
  rintro passed ⟨specs, known⟩ e acc' hacc hpass
  obtain ⟨spec, hspec, hacc'⟩ := bind_eq_ok_iff.mp hpass
  cases hacc'
  have hmem : ∀ name, (∃ x ∈ passed ++ [e], x.1 = name) ↔ name = e.1 ∨ ∃ x ∈ passed, x.1 = name := by
    intro name
    simp only [List.mem_append, List.mem_singleton, or_and_right, exists_or, exists_eq_left]
    rw [or_comm, eq_comm]
  refine ⟨fun name => ?_, fun name => ?_, fun name spec' hlookup => ?_⟩
  · rw [hmem, ← hacc.known, Finset.mem_insert]
  · rw [hmem, ← hacc.specs, AList.mem_insert]
  · by_cases hname : name = e.1
    · subst hname
      rw [AList.lookup_insert] at hlookup
      cases hlookup
      exact ⟨e, by simp, rfl, fallbackPool_of_buildSpec hspec⟩
    · rw [AList.lookup_insert_ne hname] at hlookup
      obtain ⟨x, hx, hfallback⟩ := hacc.fallbacks name spec' hlookup
      exact ⟨x, List.mem_append_left _ hx, hfallback⟩

theorem mem_pools_iff : name ∈ file.pools ↔ ∃ e ∈ file.pools.entries, e.1 = name := by
  rw [AList.mem_keys, AList.keys, List.keys, List.mem_map]

theorem validateFallbacks_eq_ok_iff (h : SpecsOf file.pools.entries (specs, known)) :
    validateFallbacks specs = .ok () ↔ ∀ name entry, file.pools.lookup name = some entry →
      entry.fallbackPool = "" ∨ entry.fallbackPool ∈ file.pools := by
  have hmem : ∀ name, name ∈ specs ↔ name ∈ file.pools := fun name =>
    (h.specs name).trans mem_pools_iff.symm
  have hpass : validateFallbacks specs = .ok () ↔ ∀ name spec, specs.lookup name = some spec →
      spec.fallbackPool = "" ∨ spec.fallbackPool ∈ file.pools := by
    unfold validateFallbacks
    rw [forM_eq_ok_iff]
    simp only [← hmem]
    constructor
    · intro hall name spec hspec
      have hone := hall ⟨name, spec⟩ (AList.mem_lookup_iff.mp hspec)
      by_cases hempty : spec.fallbackPool = ""
      · exact .inl hempty
      · rw [if_neg hempty, ite_error_eq_ok_iff] at hone
        exact .inr (not_not.mp hone.1)
    · rintro hall ⟨name, spec⟩ hentry
      rcases hall name spec (AList.mem_lookup_iff.mpr hentry) with hempty | hknown
      · rw [if_pos hempty]
      · rw [ite_error_eq_ok_iff.mpr ⟨not_not.mpr hknown, rfl⟩, ite_self]
  rw [hpass]
  constructor
  · intro hall name entry hentry
    have hname : name ∈ specs := (hmem name).mpr (AList.lookup_isSome.mp (by simp [hentry]))
    obtain ⟨spec, hspec⟩ := Option.isSome_iff_exists.mp (AList.lookup_isSome.mpr hname)
    obtain ⟨⟨_, entry'⟩, he, rfl, hfallback⟩ := h.fallbacks name spec hspec
    -- no two entries of the map have one key
    obtain rfl : entry' = entry :=
      Option.some.inj ((AList.mem_lookup_iff.mpr he).symm.trans hentry)
    rw [← hfallback]
    exact hall _ spec hspec
  · intro hall name spec hspec
    obtain ⟨⟨_, entry⟩, he, rfl, hfallback⟩ := h.fallbacks name spec hspec
    rw [hfallback]
    exact hall _ entry (AList.mem_lookup_iff.mpr he)

theorem exists_buildSpecs_iff :
    (∃ acc, buildSpecs t file bundle bundleDir = .ok acc) ↔
      ∀ name entry, file.pools.lookup name = some entry → entry.Valid t bundle := by
  have hpass : (∃ acc, buildSpecs t file bundle bundleDir = .ok acc) ↔
      ∀ e ∈ file.pools.entries, e.2.Valid t bundle := by
    refine exists_foldlM_eq_ok_iff fun acc e => ?_
    have hspec : (∃ spec, buildSpec t bundle bundleDir e.1 e.2 = .ok spec) ↔ e.2.Valid t bundle :=
      exists_buildSpec_iff
    rw [← hspec]
    simp only [bind_eq_ok_iff]
    exact ⟨fun ⟨_, spec, hspec, _⟩ => ⟨spec, hspec⟩, fun ⟨spec, hspec⟩ => ⟨_, spec, hspec, rfl⟩⟩
  rw [hpass]
  constructor
  · exact fun hall name entry hentry => hall ⟨name, entry⟩ (AList.mem_lookup_iff.mp hentry)
  · exact fun hall e he => hall e.1 e.2 (AList.mem_lookup_iff.mpr he)

theorem readPoolsFile_eq_ok_iff {parsed : PoolsFile} :
    readPoolsFile path (.parsed file) = .ok parsed ↔
      (∃ name, name ∈ file.pools) ∧ file = parsed := by
  have hempty : file.pools.entries.isEmpty = false ↔ ∃ name, name ∈ file.pools := by
    simp only [mem_pools_iff]
    cases file.pools.entries with
    | nil => simp
    | cons e entries => exact ⟨fun _ => ⟨e.1, e, List.mem_cons_self, rfl⟩, fun _ => rfl⟩
  simp only [readPoolsFile, YamlFile.load, bind_eq_ok_iff, ite_error_eq_ok_iff, Except.ok.injEq,
    exists_eq_left', Bool.not_eq_true, hempty]

/-- **What the pools loader accepts**, and the names that it hands to the routing loader. -/
theorem exists_loadPoolSpecs_iff {dir : Except String (List DirEntry)}
    (hbundle : readBundle bundleDir dir = .ok bundle) :
    (∃ specs, loadPoolSpecs t path bundleDir (.parsed file) dir = .ok (specs, known)) ↔
      file.Valid t bundle ∧ ∀ name, name ∈ known ↔ name ∈ file.pools := by
  simp only [loadPoolSpecs, bind_eq_ok_iff, readPoolsFile_eq_ok_iff, hbundle]
  constructor
  · rintro ⟨specs, _, ⟨hne, rfl⟩, _, ⟨⟩, ⟨specs', known'⟩, hbuild, ⟨⟩, hvalid, hpair⟩
    cases hpair
    have hspecsOf := specsOf_of_buildSpecs hbuild
    refine ⟨⟨hne, exists_buildSpecs_iff.mp ⟨_, hbuild⟩, ?_⟩, fun name => ?_⟩
    · exact (validateFallbacks_eq_ok_iff hspecsOf).mp hvalid
    · rw [hspecsOf.known, mem_pools_iff]
  · rintro ⟨⟨hne, hentries, hfallbacks⟩, hknown⟩
    obtain ⟨⟨specs, known'⟩, hbuild⟩ : ∃ acc, buildSpecs t file bundle bundleDir = .ok acc :=
      exists_buildSpecs_iff.mpr hentries
    have hspecsOf := specsOf_of_buildSpecs hbuild
    obtain rfl : known' = known := by
      ext name
      rw [hspecsOf.known, hknown, mem_pools_iff]
    exact ⟨specs, file, ⟨hne, rfl⟩, bundle, rfl, (specs, known'), hbuild, (),
      (validateFallbacks_eq_ok_iff hspecsOf).mpr hfallbacks, rfl⟩

/-- The same pool, its map of countries ranged over in another order. -/
structure PoolEntry.Reordered (entry' entry : PoolEntry) : Prop where
  region : entry'.region = entry.region
  purpose : entry'.purpose = entry.purpose
  configs : entry'.configs = entry.configs
  exitCountries : entry'.exitCountries.entries.Perm entry.exitCountries.entries
  fallbackPool : entry'.fallbackPool = entry.fallbackPool

/-- The same file, its maps ranged over in another order. -/
def PoolsFile.Reordered (file' file : PoolsFile) : Prop :=
  ∀ name, Option.Rel PoolEntry.Reordered (file'.pools.lookup name) (file.pools.lookup name)

theorem PoolsFile.Reordered.refl (file : PoolsFile) : file.Reordered file := by
  intro name
  cases file.pools.lookup name with
  | none => exact .none
  | some entry => exact .some ⟨rfl, rfl, rfl, .refl _, rfl⟩

theorem PoolEntry.Reordered.valid {entry' : PoolEntry} (h : entry'.Reordered entry)
    (hvalid : entry.Valid t bundle) : entry'.Valid t bundle where
  configs := by
    rw [h.configs]
    exact hvalid.configs
  bundled := by
    rw [h.configs]
    exact hvalid.bundled
  countries := by
    rw [h.configs]
    exact fun e he => hvalid.countries e (h.exitCountries.mem_iff.mp he)

theorem PoolsFile.Reordered.mem_iff (h : file'.Reordered file) :
    name ∈ file'.pools ↔ name ∈ file.pools := by
  have hrel := h name
  rw [← AList.lookup_isSome, ← AList.lookup_isSome]
  generalize file'.pools.lookup name = entry', file.pools.lookup name = entry at hrel ⊢
  cases hrel <;> simp

theorem PoolsFile.Reordered.exists_lookup (h : file'.Reordered file) {entry' : PoolEntry}
    (hentry : file'.pools.lookup name = some entry') :
    ∃ entry, file.pools.lookup name = some entry ∧ entry'.Reordered entry := by
  have hrel := h name
  rw [hentry] at hrel
  cases hlookup : file.pools.lookup name with
  | none =>
      rw [hlookup] at hrel
      cases hrel
  | some entry =>
      rw [hlookup] at hrel
      cases hrel with
      | some hsame => exact ⟨entry, rfl, hsame⟩

theorem PoolsFile.Reordered.valid (h : file'.Reordered file) (hvalid : file.Valid t bundle) :
    file'.Valid t bundle where
  nonempty := by
    obtain ⟨name, hname⟩ := hvalid.nonempty
    exact ⟨name, h.mem_iff.mpr hname⟩
  entries := by
    intro name entry' hentry
    obtain ⟨entry, hlookup, hsame⟩ := h.exists_lookup hentry
    exact hsame.valid (hvalid.entries name entry hlookup)
  fallbacks := by
    intro name entry' hentry
    obtain ⟨entry, hlookup, hsame⟩ := h.exists_lookup hentry
    rw [hsame.fallbackPool, h.mem_iff]
    exact hvalid.fallbacks name entry hlookup

end PoolsFile

/-! ## The check and the boot -/

section Boot

variable {fs fs' : Files} {configDir dir : String} {cfg : BootConfig}

@[simp]
theorem wrapLoad_eq_ok_iff {message : String} {x : Except LoadError α} :
    wrapLoad message x = .ok value ↔ x = .ok value := by
  cases x <;> simp [wrapLoad]

/-- A file that is read twice: what it holds is the same, its maps may be ranged over in another
order. -/
def YamlFile.Reread {α : Type} (same : α → α → Prop) : YamlFile α → YamlFile α → Prop
  | .parsed value', .parsed value => same value' value
  | .unreadable reason', .unreadable reason => reason' = reason
  | .malformed reason', .malformed reason => reason' = reason
  | _, _ => False

/-- The files that the boot loads are those of the checked directory. -/
structure BootsFrom (fs : Files) (configDir : String) (fs' : Files) (cfg : BootConfig)
    (dir : String) : Prop where
  checked : checkedExistingDirectory fs configDir = .ok dir
  token : dotEnvToken (fs.dotEnv (Filepath.join dir dotEnvFileName)) = .ok cfg.apiToken
  pools : (fs'.pools cfg.poolsFile).Reread PoolsFile.Reordered
    (fs.pools (Filepath.join dir poolsRelativePath))
  bundle : fs'.bundle cfg.bundleDir = fs.bundle (Filepath.join dir bundleRelativePath)
  routing : (fs'.routing cfg.routingFile).Reread Reordered
    (fs.routing (Filepath.join dir routingRelativePath))

/-- The directory says where a country without an entry is routed: the routing file does, or the
pools file has the pool of that name. -/
def Files.NamesDefault (fs : Files) (dir name : String) : Prop :=
  ∃ pools routing, fs.pools (Filepath.join dir poolsRelativePath) = .parsed pools ∧
    fs.routing (Filepath.join dir routingRelativePath) = .parsed routing ∧
      (routing.defaultPool ≠ "" ∨ name ∈ pools.pools)

theorem YamlFile.eq_parsed_of_load {path : String} {file : YamlFile α}
    (h : file.load path = .ok value) : file = .parsed value := by
  cases file with
  | parsed value' =>
      cases h
      rfl
  | unreadable reason => cases h
  | malformed reason => cases h

theorem YamlFile.Reread.exists_parsed {same : α → α → Prop} {file' : YamlFile α}
    (h : file'.Reread same (.parsed value)) :
    ∃ value', file' = .parsed value' ∧ same value' value := by
  cases file' with
  | parsed value' => exact ⟨value', rfl, h⟩
  | unreadable reason => exact h.elim
  | malformed reason => exact h.elim

/-- What is known of a directory that passed the check. -/
structure Accepted (t : CaseTable) (fs : Files) (dir : String) (pools : PoolsFile)
    (bundle known : Finset String) (routing : RoutingFile) : Prop where
  token : ∃ value token, dotEnvToken (fs.dotEnv (Filepath.join dir dotEnvFileName)) = .ok value ∧
    validateAPIToken value = .ok token
  poolsFile : fs.pools (Filepath.join dir poolsRelativePath) = .parsed pools
  bundled : ∀ bundleDir, readBundle bundleDir (fs.bundle (Filepath.join dir bundleRelativePath)) =
    .ok bundle
  valid : pools.Valid t bundle
  names : ∀ name, name ∈ known ↔ name ∈ pools.pools
  routingFile : fs.routing (Filepath.join dir routingRelativePath) = .parsed routing
  routes : ∀ e ∈ routing.countryToPool.entries, e.2 ∈ known
  default : routing.defaultOr "" ≠ "" → routing.defaultOr "" ∈ known

theorem readBundle_eq_ok_congr {bundleDir bundleDir' : String} {bundle : Finset String}
    {dir : Except String (List DirEntry)} (h : readBundle bundleDir dir = .ok bundle) :
    readBundle bundleDir' dir = .ok bundle := by
  cases dir with
  | error reason => cases h
  | ok entries => exact h

theorem exists_accepted (hdir : checkedExistingDirectory fs configDir = .ok dir)
    (h : checkConfig t fs configDir = .ok ()) :
    ∃ pools bundle known routing, Accepted t fs dir pools bundle known routing := by
  simp only [checkConfig, hdir, bind_eq_ok_iff, mapError_eq_ok_iff, wrapLoad_eq_ok_iff,
    loadAPITokenFromDotEnv, ite_error_eq_ok_iff, Except.ok.injEq, exists_eq_left'] at h
  obtain ⟨token, ⟨value, hvalue, htoken⟩, ⟨specs, known⟩, hspecs, -, router, hrouter, -⟩ := h
  obtain ⟨pools, hpools⟩ :
      ∃ pools, fs.pools (Filepath.join dir poolsRelativePath) = .parsed pools := by
    simp only [loadPoolSpecs, readPoolsFile, bind_eq_ok_iff] at hspecs
    obtain ⟨-, ⟨pools, hload, -⟩, -⟩ := hspecs
    exact ⟨pools, YamlFile.eq_parsed_of_load hload⟩
  obtain ⟨bundle, hbundle⟩ : ∃ bundle, readBundle (Filepath.join dir bundleRelativePath)
      (fs.bundle (Filepath.join dir bundleRelativePath)) = .ok bundle := by
    simp only [loadPoolSpecs, bind_eq_ok_iff] at hspecs
    obtain ⟨-, -, bundle, hbundle, -⟩ := hspecs
    exact ⟨bundle, hbundle⟩
  obtain ⟨routing, hrouting⟩ :
      ∃ routing, fs.routing (Filepath.join dir routingRelativePath) = .parsed routing := by
    simp only [loadRouter, bind_eq_ok_iff] at hrouter
    obtain ⟨routing, hload, -⟩ := hrouter
    exact ⟨routing, YamlFile.eq_parsed_of_load hload⟩
  rw [hpools] at hspecs
  rw [hrouting] at hrouter
  obtain ⟨hvalid, hknown⟩ := (exists_loadPoolSpecs_iff hbundle).mp ⟨specs, hspecs⟩
  obtain ⟨hroutes, hdefault, -⟩ := loadRouter_eq_ok_iff.mp hrouter
  exact ⟨pools, bundle, known, routing, ⟨value, token, hvalue, htoken⟩, hpools,
    fun _ => readBundle_eq_ok_congr hbundle, hvalid, hknown, hrouting, hroutes, hdefault⟩

theorem exists_loadService_iff : (∃ loaded, loadService t fs cfg = .ok loaded) ↔
    (∃ token, validateAPIToken cfg.apiToken = .ok token) ∧
    ∃ known, (∃ specs, loadPoolSpecs t cfg.poolsFile cfg.bundleDir (fs.pools cfg.poolsFile)
        (fs.bundle cfg.bundleDir) = .ok (specs, known)) ∧
      ∃ router, loadRouter t cfg.routingFile cfg.defaultPool known (fs.routing cfg.routingFile) =
        .ok router := by
  simp only [loadService, bind_eq_ok_iff, wrapLoad_eq_ok_iff]
  constructor
  · rintro ⟨-, token, htoken, ⟨specs, known⟩, hspecs, router, hrouter, -⟩
    exact ⟨⟨token, htoken⟩, known, ⟨specs, hspecs⟩, router, hrouter⟩
  · rintro ⟨⟨token, htoken⟩, known, ⟨specs, hspecs⟩, router, hrouter⟩
    exact ⟨_, token, htoken, (specs, known), hspecs, router, hrouter, rfl⟩

/-- A default of the file is known; one that is filled in for it has to be. -/
theorem defaultOr_known_iff {known : Finset String} {file : RoutingFile}
    (hfile : file.defaultOr "" ≠ "" → file.defaultOr "" ∈ known) :
    (file.defaultOr name ≠ "" → file.defaultOr name ∈ known) ↔
      name = "" ∨ file.defaultPool ≠ "" ∨ name ∈ known := by
  by_cases hempty : file.defaultPool = ""
  · simp only [RoutingFile.defaultOr, hempty, if_true, ne_eq, not_true_eq_false, false_or]
    exact or_iff_not_imp_left.symm
  · simp only [RoutingFile.defaultOr, hempty, if_false] at hfile ⊢
    simp [hempty, hfile hempty]

/-- **What a passed check is worth at boot.** The boot from a checked directory succeeds exactly
where its default pool is left empty, or the directory itself says where the countries without an
entry go. -/
theorem checked_boots_iff (t : CaseTable) (fs fs' : Files) (configDir dir : String)
    (cfg : BootConfig) (hchecked : checkConfig t fs configDir = .ok ())
    (hboots : BootsFrom fs configDir fs' cfg dir) :
    (∃ loaded, loadService t fs' cfg = .ok loaded) ↔
      cfg.defaultPool = "" ∨ fs.NamesDefault dir cfg.defaultPool := by
  obtain ⟨pools, bundle, known, routing, h⟩ := exists_accepted hboots.checked hchecked
  -- the boot reads the same files, in an order of its own
  have hpools := hboots.pools
  rw [h.poolsFile] at hpools
  obtain ⟨pools', hparsed, hsame⟩ := hpools.exists_parsed
  have hrouting := hboots.routing
  rw [h.routingFile] at hrouting
  obtain ⟨routing', hparsed', hsame'⟩ := hrouting.exists_parsed
  obtain ⟨value, token, hvalue, htoken⟩ := h.token
  obtain rfl := Except.ok.inj (hvalue.symm.trans hboots.token)
  have hspecs : ∀ known', (∃ specs, loadPoolSpecs t cfg.poolsFile cfg.bundleDir (.parsed pools')
      (fs'.bundle cfg.bundleDir) = .ok (specs, known')) ↔ known' = known := by
    intro known'
    rw [hboots.bundle, exists_loadPoolSpecs_iff (h.bundled _), and_iff_right (hsame.valid h.valid),
      Finset.ext_iff]
    simp only [hsame.mem_iff, h.names]
  have hroutes : ∀ e ∈ routing'.countryToPool.entries, e.2 ∈ known :=
    fun e he => h.routes e (hsame'.entries.mem_iff.mp he)
  have hrouter : (∃ router, loadRouter t cfg.routingFile cfg.defaultPool known (.parsed routing') =
      .ok router) ↔ cfg.defaultPool = "" ∨ routing.defaultPool ≠ "" ∨ cfg.defaultPool ∈ known := by
    simp only [loadRouter_eq_ok_iff, hsame'.defaultOr, defaultOr_known_iff h.default]
    exact ⟨fun ⟨_, _, hdefault, _⟩ => hdefault, fun hdefault => ⟨_, hroutes, hdefault, rfl⟩⟩
  have hnames : fs.NamesDefault dir cfg.defaultPool ↔
      routing.defaultPool ≠ "" ∨ cfg.defaultPool ∈ known := by
    rw [h.names]
    constructor
    · rintro ⟨pools'', routing'', hp, hr, hdefault⟩
      cases h.poolsFile.symm.trans hp
      cases h.routingFile.symm.trans hr
      exact hdefault
    · exact fun hdefault => ⟨pools, routing, h.poolsFile, h.routingFile, hdefault⟩
  rw [exists_loadService_iff, hparsed, hparsed', and_iff_right ⟨token, htoken⟩, hnames, ← hrouter]
  simp only [hspecs, exists_eq_left]

end Boot

def secretEnv : OpenFile :=
  ⟨utf8 "# controller\nPR0XTEUS_API_TOKEN=\"secret\"\n", none⟩

theorem dotEnvToken_secretEnv : dotEnvToken (.ok secretEnv) = .ok (utf8 "secret") := by
  decide +kernel

/-- A directory with one pool. -/
def onePoolDir (defaultPool : String) : Files where
  lstat := fun _ => .ok .directory
  dotEnv := fun _ => .ok secretEnv
  pools := fun _ => .parsed ⟨(∅ : AList fun _ : String => PoolEntry).insert "primary"
    ⟨"eu", "general", ["wg-de"], (∅ : AList fun _ : String => String).insert "wg-de" "de", ""⟩⟩
  bundle := fun _ => .ok [⟨"wg-de.conf", false⟩]
  routing := fun _ => .parsed
    ⟨(∅ : AList fun _ : String => String).insert "US" "primary", defaultPool⟩

theorem bootsFrom_onePoolDir (defaultPool : String) :
    BootsFrom (onePoolDir defaultPool) "/etc/pr0xteus" (onePoolDir defaultPool)
      { apiToken := utf8 "secret" } "/etc/pr0xteus" where
  checked := rfl
  token := dotEnvToken_secretEnv
  pools := .refl _
  bundle := rfl
  routing := ⟨.refl _, rfl⟩

theorem checked_boots_onePool :
    checkConfig .ascii (onePoolDir "primary") "/etc/pr0xteus" = .ok () ∧
      ∃ loaded, loadService .ascii (onePoolDir "primary") { apiToken := utf8 "secret" } =
        .ok loaded :=
  ⟨rfl, (checked_boots_iff .ascii _ _ "/etc/pr0xteus" _ _ rfl (bootsFrom_onePoolDir "primary")).mpr
    (.inr ⟨_, _, rfl, rfl, .inl (by decide)⟩)⟩

/-- The routing file leaves the default out, and no pool has the name that the boot fills in. -/
theorem not_checked_boots :
    checkConfig .ascii (onePoolDir "") "/etc/pr0xteus" = .ok () ∧
      BootsFrom (onePoolDir "") "/etc/pr0xteus" (onePoolDir "") { apiToken := utf8 "secret" }
        "/etc/pr0xteus" ∧
      loadService .ascii (onePoolDir "") { apiToken := utf8 "secret" } =
        .error (.wrap (.load ⟨.configInvalid,
          "default pool \"neutral_clean\" is not in pools.yaml"⟩) "load egress-routing.yaml") :=
  ⟨rfl, bootsFrom_onePoolDir "", rfl⟩

end Pr0xteus
