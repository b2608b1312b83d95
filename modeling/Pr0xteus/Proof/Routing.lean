import Pr0xteus.Loading
import Pr0xteus.Proof.WellFormed

/-!
# What the loaded files guarantee

The loaders check the two files against each other, so that every pool name the manager looks up on
the way of a request for a country is one it has. What they do not check is that the country codes of
the routing file stay distinct once they are normalised: of two that do not, the one that the range
over the map visits last decides.
-/

namespace Pr0xteus

open Encoding Transition Text Fallible

variable {t : CaseTable} {m : Setup} {file : RoutingFile} {country name pool : String}
  {specs : PoolSpecs} {pc : Pc} {acq : Acquisition} {err : CtxError} {known : Finset String}

section Loaders

variable {path bundleDir fallbackDefault : String}

/-- The pool that countries without an entry are routed to, if any. -/
def RoutingFile.defaultOr (file : RoutingFile) (fallbackDefault : String) : String :=
  if file.defaultPool = "" then fallbackDefault else file.defaultPool

def RoutingFile.router (file : RoutingFile) (t : CaseTable) (fallbackDefault : String) : Router :=
  ⟨FinMap.fill (fun e => countryKey t e.1) (fun e => e.2) file.countryToPool.entries,
    file.defaultOr fallbackDefault⟩

theorem loadRouter_eq_ok_iff {r : Router} :
    loadRouter t path fallbackDefault known (.parsed file) = .ok r ↔
      (∀ e ∈ file.countryToPool.entries, e.2 ∈ known) ∧
        (file.defaultOr fallbackDefault ≠ "" → file.defaultOr fallbackDefault ∈ known) ∧
        file.router t fallbackDefault = r := by
  rw [loadRouter, YamlFile.load, bind_eq_ok_iff]
  simp only [Except.ok.injEq, exists_eq_left', bind_eq_ok_iff, foldlM_test_eq_ok_iff,
    ite_error_eq_ok_iff, not_and_not_right]
  constructor
  · rintro ⟨normalized, ⟨hknown, hfill⟩, hdefault, hr⟩
    exact ⟨hknown, hdefault, by rw [← hr, ← hfill]; rfl⟩
  · rintro ⟨hknown, hdefault, rfl⟩
    exact ⟨_, ⟨hknown, rfl⟩, hdefault, rfl⟩

theorem exists_of_lookup_router {key pool : String}
    (h : (file.router t fallbackDefault).countryToPool.lookup key = some pool) :
    ∃ e ∈ file.countryToPool.entries, countryKey t e.1 = key ∧ e.2 = pool :=
  FinMap.exists_of_lookup_fill h

/-- The routing file has an entry for the country. -/
def RoutingFile.Maps (file : RoutingFile) (t : CaseTable) (country : String) : Prop :=
  ∃ e ∈ file.countryToPool.entries, countryKey t e.1 = countryKey t country

instance {file : RoutingFile} {country : String} : Decidable (file.Maps t country) :=
  inferInstanceAs (Decidable (∃ e ∈ file.countryToPool.entries,
    countryKey t e.1 = countryKey t country))

theorem lookup_router_eq_none_iff :
    (file.router t fallbackDefault).countryToPool.lookup (countryKey t country) = none ↔
      ¬file.Maps t country := by
  rw [← Option.not_isSome_iff_eq_none]
  exact not_congr FinMap.isSome_lookup_fill_iff

end Loaders

/-! A request for a pool that exists never meets one that does not. -/

section Known

/-- Neither of the errors that only a wrong configuration explains. -/
def CtxError.IsRuntime (err : CtxError) : Prop := err.err ≠ .unknownPool ∧ err.err ≠ .invalidCountry

def AcquireStage.Runtime : AcquireStage → Prop
  | .unlockFail _ err => err.IsRuntime
  | _ => True

/-- A goroutine that serves a request for a pool of the manager, or has. -/
def Pc.Known (m : Setup) : Pc → Prop
  | .failed err => err.IsRuntime
  | .acquire a stage =>
      a.poolName ∈ m.poolNames ∧ a.state ∈ m.poolNames ∧ stage.Runtime ∧
        ∀ acq ∈ (Pc.acquire a stage).held, acq.pool ∈ m.poolNames
  | .assign acq _ => acq.pool ∈ m.poolNames
  | .done => True
  | _ => False

variable {s s' : Shared} {answer : Answer}

theorem Pc.Known.held (h : pc.Known m) (hacq : acq ∈ pc.held) : acq.pool ∈ m.poolNames := by
  cases pc with
  | acquire a stage => exact h.2.2.2 acq hacq
  | assign acq' stage => cases hacq; exact h
  | gateway u p stage => exact h.elim
  | _ => cases hacq

end Known

/-! The same of the calls that ask for a country. -/

section Country

variable {router : Router} {specs : PoolSpecs} {cfg : Config} {docker : String → Option Container}
  {docker_empty : docker "" = none} {boot : Int} {country : String} {excludeProxy : Option URL}
  {fallbackOK : Bool}

/-- In the run, a goroutine that some `start entry` started is at `pc` in the state `s`. -/
def Reaches (m : Setup) (actions : List Action) (entry : Entry) (pc : Pc) (s : State) : Prop :=
  ∃ j e, (run m actions)[j]? = some e ∧ e.action = .start entry ∧
    ∃ f ∈ (run m actions).drop j, f.target = s ∧ s.threads[e.source.threads.length]? = some pc

/-- `AcquireForCountry` has returned an acquisition, in a state of the run. -/
def Returns (t : CaseTable) (m : Setup) (router : Router) (actions : List Action) (country : String)
    (excludeProxy : Option URL) (fallbackOK : Bool) (acq : Acquisition) (s : State) : Prop :=
  ∃ entry pc, acquireForCountry t router country excludeProxy fallbackOK = .ok entry ∧
    Reaches m actions entry pc s ∧ acq ∈ pc.held

end Country

/-! Two codes differ only in letter case and surrounding white space when they have the same key. -/

section Codes

variable {file file' : RoutingFile} {path fallbackDefault : String} {known : Finset String}

/-- The same file, its map ranged over in another order. -/
structure Reordered (file' file : RoutingFile) : Prop where
  entries : file'.countryToPool.entries.Perm file.countryToPool.entries
  defaultPool : file'.defaultPool = file.defaultPool

/-- In any order, each entry of the file is what its code, however it is written, resolves to. -/
def RoutesEntries (t : CaseTable) (path fallbackDefault : String) (known : Finset String)
    (file : RoutingFile) : Prop :=
  ∀ file', Reordered file' file → ∃ r,
    loadRouter t path fallbackDefault known (.parsed file') = .ok r ∧
      ∀ e ∈ file.countryToPool.entries, ∀ country, countryKey t country = countryKey t e.1 →
        r.resolve t country = .ok e.2

/-- The routers of two orders resolve alike. -/
def OrderIndependent (t : CaseTable) (path fallbackDefault : String) (known : Finset String)
    (file : RoutingFile) : Prop :=
  ∀ file₁ file₂ r₁ r₂, Reordered file₁ file → Reordered file₂ file →
    loadRouter t path fallbackDefault known (.parsed file₁) = .ok r₁ →
    loadRouter t path fallbackDefault known (.parsed file₂) = .ok r₂ →
      ∀ country, r₁.resolve t country = r₂.resolve t country

/-- No two entries write one code differently and route it to different pools. -/
def RoutingFile.Unambiguous (t : CaseTable) (file : RoutingFile) : Prop :=
  ∀ e ∈ file.countryToPool.entries, ∀ e' ∈ file.countryToPool.entries,
    countryKey t e.1 = countryKey t e'.1 → e.2 = e'.2

instance : Decidable (file.Unambiguous t) :=
  inferInstanceAs (Decidable (∀ e ∈ file.countryToPool.entries,
    ∀ e' ∈ file.countryToPool.entries, countryKey t e.1 = countryKey t e'.1 → e.2 = e'.2))

theorem Reordered.unambiguous (h : Reordered file' file) (hfile : file.Unambiguous t) :
    file'.Unambiguous t :=
  fun e he e' he' => hfile e (h.entries.mem_iff.mp he) e' (h.entries.mem_iff.mp he')

theorem Reordered.maps_iff (h : Reordered file' file) :
    file'.Maps t country ↔ file.Maps t country := by
  simp only [RoutingFile.Maps, h.entries.mem_iff]

theorem Reordered.defaultOr (h : Reordered file' file) :
    file'.defaultOr fallbackDefault = file.defaultOr fallbackDefault := by
  rw [RoutingFile.defaultOr, h.defaultPool, RoutingFile.defaultOr]

theorem Reordered.loadRouter (h : Reordered file' file) {r : Router}
    (hfile : loadRouter t path fallbackDefault known (.parsed file) = .ok r) :
    loadRouter t path fallbackDefault known (.parsed file') =
      .ok (file'.router t fallbackDefault) := by
  obtain ⟨hentries, hdefault, -⟩ := loadRouter_eq_ok_iff.mp hfile
  rw [← h.defaultOr] at hdefault
  exact loadRouter_eq_ok_iff.mpr ⟨fun e he => hentries e (h.entries.mem_iff.mp he), hdefault, rfl⟩

theorem resolve_of_mem (h : file.Unambiguous t) {e : (_ : String) × String}
    (he : e ∈ file.countryToPool.entries) (hcountry : countryKey t country = countryKey t e.1) :
    (file.router t fallbackDefault).resolve t country = .ok e.2 := by
  have hmaps : file.Maps t country := ⟨e, he, hcountry.symm⟩
  simp only [Router.resolve]
  split
  · next pool hlookup =>
      obtain ⟨e', he', hkey, rfl⟩ := exists_of_lookup_router hlookup
      rw [h e' he' e he (hkey.trans hcountry)]
  · next hlookup => exact absurd hmaps (lookup_router_eq_none_iff.mp hlookup)

theorem resolve_of_not_maps (h : ¬file.Maps t country) :
    (file.router t fallbackDefault).resolve t country =
      (⟨∅, file.defaultOr fallbackDefault⟩ : Router).resolve t country := by
  simp only [Router.resolve, lookup_router_eq_none_iff.mpr h, AList.lookup_empty]
  rfl

/-- An accepted routing file is read faithfully, and alike in every order, exactly when it is
unambiguous. -/
theorem routes_entries_iff (t : CaseTable) (path fallbackDefault : String) (known : Finset String)
    (file : RoutingFile) (router : Router)
    (haccepted : loadRouter t path fallbackDefault known (.parsed file) = .ok router) :
    RoutesEntries t path fallbackDefault known file ∧
        OrderIndependent t path fallbackDefault known file ↔
      file.Unambiguous t := by
  constructor
  · rintro ⟨hroutes, -⟩ e he e' he' hkey
    obtain ⟨r, -, hresolve⟩ := hroutes file ⟨.refl _, rfl⟩
    -- the code of the first entry is a way to write that of the second
    have hsame := (hresolve e he e.1 rfl).symm.trans (hresolve e' he' e.1 hkey)
    exact Except.ok.inj hsame
  · intro hfile
    refine ⟨fun file' h => ⟨_, h.loadRouter haccepted, fun e he country hcountry => ?_⟩, ?_⟩
    · exact resolve_of_mem (h.unambiguous hfile) (h.entries.mem_iff.mpr he) hcountry
    · intro file₁ file₂ r₁ r₂ h₁ h₂ hr₁ hr₂ country
      obtain rfl := Except.ok.inj ((h₁.loadRouter haccepted).symm.trans hr₁)
      obtain rfl := Except.ok.inj ((h₂.loadRouter haccepted).symm.trans hr₂)
      by_cases hmaps : file.Maps t country
      · obtain ⟨e, he, hkey⟩ := hmaps
        rw [resolve_of_mem (h₁.unambiguous hfile) (h₁.entries.mem_iff.mpr he) hkey.symm,
          resolve_of_mem (h₂.unambiguous hfile) (h₂.entries.mem_iff.mpr he) hkey.symm]
      · rw [resolve_of_not_maps (mt h₁.maps_iff.mp hmaps),
          resolve_of_not_maps (mt h₂.maps_iff.mp hmaps), h₁.defaultOr, h₂.defaultOr]

/-- Two codes, one of them written with a blank and in capitals. -/
theorem routes_entries_two :
    let file : RoutingFile :=
      ⟨((∅ : AList fun _ : String => String).insert " RU" "a").insert "de" "b", ""⟩
    RoutesEntries .ascii "egress-routing.yaml" "" {"a", "b"} file ∧
      OrderIndependent .ascii "egress-routing.yaml" "" {"a", "b"} file := by
  intro file
  exact (routes_entries_iff .ascii "egress-routing.yaml" "" {"a", "b"} file _ rfl).mpr (by decide)

/-- One code written in small letters and in capitals, for two pools: the file is accepted, one of its
entries is lost, and which one depends on the order. -/
theorem not_routes_entries :
    let file : RoutingFile :=
      ⟨((∅ : AList fun _ : String => String).insert "ru" "a").insert "RU" "b", ""⟩
    (∃ router, loadRouter .ascii "egress-routing.yaml" "" {"a", "b"} (.parsed file) = .ok router) ∧
      ¬RoutesEntries .ascii "egress-routing.yaml" "" {"a", "b"} file ∧
      ¬OrderIndependent .ascii "egress-routing.yaml" "" {"a", "b"} file := by
  intro file
  refine ⟨⟨_, rfl⟩, fun hroutes => ?_, fun hindependent => ?_⟩
  · obtain ⟨r, -, hresolve⟩ := hroutes file ⟨.refl _, rfl⟩
    have ha := hresolve ⟨"ru", "a"⟩ (by simp [file]) "ru" rfl
    have hb := hresolve ⟨"RU", "b"⟩ (by simp [file]) "ru" (by decide)
    exact absurd (Except.ok.inj (ha.symm.trans hb)) (by decide)
  · let swapped : RoutingFile :=
      ⟨((∅ : AList fun _ : String => String).insert "RU" "b").insert "ru" "a", ""⟩
    have hsame := hindependent file swapped _ _ ⟨.refl _, rfl⟩ ⟨.swap _ _ _, rfl⟩ rfl rfl "ru"
    exact absurd (Except.ok.inj hsame) (by decide)

end Codes

end Pr0xteus
