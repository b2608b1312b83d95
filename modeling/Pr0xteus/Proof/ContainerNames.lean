import Pr0xteus.Proof.SpawnCleanup

/-!
# The names of cells

A name is the sanitized pool and the sanitized configuration, with a dash between them and the clock
at the end. The dash is also one of the bytes that `sanitize` keeps, and all bytes that it does not
keep become the same one. `NameClash` says when two requests of one clock reading therefore get one
name.
-/

namespace Pr0xteus

open Encoding Bytes

/-! ## Bytes -/

/-- The bytes that come out of `sanitizeByte` as an underscore. -/
def masked (b : UInt8) : Bool := !(isAlphaNum b || b == '-'.toUInt8)

/-- The bytes that `sanitizeByte` does not change. -/
def keptByte (b : UInt8) : Bool := isAlphaNum b || b == '-'.toUInt8 || b == '_'.toUInt8

theorem sanitizeByte_eq_underscore_iff (b : UInt8) : sanitizeByte b = '_' ↔ masked b = true := by
  revert b
  exact forall_byte (by decide +kernel)

theorem sanitizeByte_of_kept {b : UInt8} (h : keptByte b = true) :
    sanitizeByte b = Char.ofNat b.toNat := if_pos h

theorem keptByte_of_not_masked {b : UInt8} (h : ¬masked b = true) : keptByte b = true := by
  rw [masked, Bool.not_eq_true, Bool.not_eq_false'] at h
  rw [keptByte, h, Bool.true_or]

theorem sanitizeByte_eq_dash_iff (b : UInt8) : sanitizeByte b = '-' ↔ b = '-'.toUInt8 := by
  revert b
  exact forall_byte (by decide +kernel)

theorem char_injective {b b' : UInt8} (h : Char.ofNat b.toNat = Char.ofNat b'.toNat) : b = b' := by
  rw [← (char_of_byte b).2, ← (char_of_byte b').2, h]

theorem eq_of_sanitizeByte_eq {b b' : UInt8} (hb : keptByte b = true) (hb' : keptByte b' = true)
    (h : sanitizeByte b = sanitizeByte b') : b = b' := by
  rw [sanitizeByte_of_kept hb, sanitizeByte_of_kept hb'] at h
  exact char_injective h

/-- Two bytes that `sanitize` does not tell apart. -/
def AlikeByte (b b' : UInt8) : Prop := b = b' ∨ (masked b = true ∧ masked b' = true)

theorem sanitizeByte_eq_iff (b b' : UInt8) : sanitizeByte b = sanitizeByte b' ↔ AlikeByte b b' := by
  constructor
  · intro h
    by_cases hb : masked b = true
    · refine .inr ⟨hb, ?_⟩
      rwa [← sanitizeByte_eq_underscore_iff, ← h, sanitizeByte_eq_underscore_iff]
    · have hb' : ¬masked b' = true := by
        rwa [← sanitizeByte_eq_underscore_iff, ← h, sanitizeByte_eq_underscore_iff]
      exact .inl (eq_of_sanitizeByte_eq (keptByte_of_not_masked hb) (keptByte_of_not_masked hb') h)
  · rintro (rfl | ⟨hb, hb'⟩)
    · rfl
    · rw [(sanitizeByte_eq_underscore_iff b).mpr hb, (sanitizeByte_eq_underscore_iff b').mpr hb']

/-! ## Texts -/

/-- Two texts that `sanitize` does not tell apart. -/
def Alike (s s' : List UInt8) : Prop := List.Forall₂ AlikeByte s s'

theorem map_sanitizeByte_eq_iff (s s' : List UInt8) :
    s.map sanitizeByte = s'.map sanitizeByte ↔ Alike s s' := by
  rw [← List.forall₂_eq_eq_eq, List.forall₂_map_left_iff, List.forall₂_map_right_iff]
  simp only [sanitizeByte_eq_iff]
  rfl

/-- Texts that `sanitize` keeps are told apart. -/
theorem Alike.eq {s s' : List UInt8} (h : Alike s s') (hs : ∀ b ∈ s, keptByte b = true)
    (hs' : ∀ b ∈ s', keptByte b = true) : s = s' := by
  induction h with
  | nil => rfl
  | cons hb _ ih =>
      rw [List.forall_mem_cons] at hs hs'
      rw [eq_of_sanitizeByte_eq hs.1 hs'.1 ((sanitizeByte_eq_iff _ _).mpr hb), ih hs.2 hs'.2]

/-- A text that is sanitized to two parts around a dash has a dash there. -/
theorem map_sanitizeByte_eq_append_iff {s : List UInt8} {front back : List Char} :
    s.map sanitizeByte = front ++ '-' :: back ↔
      ∃ front' back', s = front' ++ '-'.toUInt8 :: back' ∧ front'.map sanitizeByte = front ∧
        back'.map sanitizeByte = back := by
  constructor
  · intro h
    obtain ⟨front', rest, rfl, hfront, hrest⟩ := List.map_eq_append_iff.mp h
    obtain ⟨dash, back', rfl, hdash, hback⟩ := List.map_eq_cons_iff.mp hrest
    rw [sanitizeByte_eq_dash_iff] at hdash
    exact ⟨front', back', by rw [hdash], hfront, hback⟩
  · rintro ⟨front', back', rfl, rfl, rfl⟩
    rw [List.map_append, List.map_cons, (sanitizeByte_eq_dash_iff _).mpr rfl]

/-! ## Names -/

/-- The pool of the first request goes on, after a dash, with how the configuration of the second
begins. -/
def Overlaps (pool conf pool' conf' : List UInt8) : Prop :=
  ∃ front back mid rest, pool = front ++ '-'.toUInt8 :: back ∧ conf' = mid ++ '-'.toUInt8 :: rest ∧
    Alike front pool' ∧ Alike mid back ∧ Alike rest conf

/-- Two requests that get one name at one clock reading. -/
def NameClash (req req' : SpawnRequest) : Prop :=
  (Alike (utf8 req.pool) (utf8 req'.pool) ∧ Alike (utf8 req.confName) (utf8 req'.confName)) ∨
    Overlaps (utf8 req.pool) (utf8 req.confName) (utf8 req'.pool) (utf8 req'.confName) ∨
    Overlaps (utf8 req'.pool) (utf8 req'.confName) (utf8 req.pool) (utf8 req.confName)

theorem overlaps_iff (pool conf pool' conf' : List UInt8) :
    (∃ mid, pool.map sanitizeByte = pool'.map sanitizeByte ++ '-' :: mid ∧
      conf'.map sanitizeByte = mid ++ '-' :: conf.map sanitizeByte) ↔
    Overlaps pool conf pool' conf' := by
  constructor
  · rintro ⟨mid, hpool, hconf⟩
    obtain ⟨front, back, hpool, hfront, hback⟩ := map_sanitizeByte_eq_append_iff.mp hpool
    obtain ⟨mid', rest, hconf, hmid, hrest⟩ := map_sanitizeByte_eq_append_iff.mp hconf
    refine ⟨front, back, mid', rest, hpool, hconf, ?_, ?_, ?_⟩
    · exact (map_sanitizeByte_eq_iff _ _).mp hfront
    · exact (map_sanitizeByte_eq_iff _ _).mp (hmid.trans hback.symm)
    · exact (map_sanitizeByte_eq_iff _ _).mp hrest
  · rintro ⟨front, back, mid, rest, hpool, hconf, hfront, hmid, hrest⟩
    refine ⟨back.map sanitizeByte, ?_, ?_⟩
    · exact map_sanitizeByte_eq_append_iff.mpr
        ⟨front, back, hpool, (map_sanitizeByte_eq_iff _ _).mpr hfront, rfl⟩
    · exact map_sanitizeByte_eq_append_iff.mpr ⟨mid, rest, hconf,
        (map_sanitizeByte_eq_iff _ _).mpr hmid, (map_sanitizeByte_eq_iff _ _).mpr hrest⟩

theorem toList_sanitize (s : String) : (sanitize s).toList = (utf8 s).map sanitizeByte :=
  String.toList_ofList

theorem toList_dash : "-".toList = ['-'] := rfl

theorem toList_buildContainerName (pool conf : String) (now : Int) :
    (buildContainerName pool conf now).toList =
      "pr0xteus-tunnel-".toList ++ (((utf8 pool).map sanitizeByte ++
        '-' :: (utf8 conf).map sanitizeByte) ++ '-' :: (toString now).toList) := by
  unfold buildContainerName
  -- the literal is kept from being unfolded
  generalize "pr0xteus-tunnel-" = head
  rw [String.toList_append, String.toList_append, String.toList_append, String.toList_append,
    String.toList_append, toList_sanitize, toList_sanitize, toList_dash]
  simp only [List.append_assoc, List.cons_append, List.nil_append]

theorem buildContainerName_eq_iff_nameClash (req req' : SpawnRequest) (now : Int) :
    buildContainerName req.pool req.confName now = buildContainerName req'.pool req'.confName now ↔
      NameClash req req' := by
  rw [← String.toList_inj, toList_buildContainerName, toList_buildContainerName,
    List.append_cancel_left_eq, List.append_cancel_right_eq, append_cons_eq_append_cons_iff,
    map_sanitizeByte_eq_iff, map_sanitizeByte_eq_iff, overlaps_iff, overlaps_iff]
  rfl

/-! ## What docker allows -/

def dockerNameChar (c : Char) : Bool := isAlphanumeric c || c == '_' || c == '.' || c == '-'

/-- Docker allows `[a-zA-Z0-9][a-zA-Z0-9_.-]*`. -/
def dockerName (name : String) : Bool :=
  (name.toList.head?).any isAlphanumeric && name.toList.all dockerNameChar

theorem dockerNameChar_sanitizeByte (b : UInt8) : dockerNameChar (sanitizeByte b) = true := by
  revert b
  exact forall_byte (by decide +kernel)

theorem dockerNameChar_of_isDigit {c : Char} (h : c.isDigit = true) : dockerNameChar c = true := by
  have hdigit : isAlphanumeric c = true := by
    simp only [Char.isDigit, ge_iff_le, Bool.and_eq_true, decide_eq_true_eq] at h
    simp only [isAlphanumeric, Bool.or_eq_true, Bool.and_eq_true, decide_eq_true_eq]
    exact .inr h
  simp only [dockerNameChar, hdigit, Bool.true_or]

theorem dockerNameChar_of_mem_clock (now : Int) :
    ∀ c ∈ (toString now).toList, dockerNameChar c = true := by
  intro c hc
  rcases Net.isDigit_or_dash_of_mem_toString hc with hdigit | rfl
  · exact dockerNameChar_of_isDigit hdigit
  · rfl

theorem dockerName_buildContainerName (pool conf : String) (now : Int) :
    dockerName (buildContainerName pool conf now) = true := by
  have hsanitized : ∀ s : List UInt8, ∀ c ∈ s.map sanitizeByte, dockerNameChar c = true := by
    intro s c hc
    obtain ⟨b, -, rfl⟩ := List.mem_map.mp hc
    exact dockerNameChar_sanitizeByte b
  have hhead : "pr0xteus-tunnel-".toList.all dockerNameChar = true := by decide +kernel
  rw [dockerName, toList_buildContainerName, Bool.and_eq_true, List.all_eq_true]
  refine ⟨rfl, ?_⟩
  simp only [List.forall_mem_append, List.forall_mem_cons]
  refine ⟨List.all_eq_true.mp hhead, ⟨hsanitized _, by decide, hsanitized _⟩, by decide, ?_⟩
  exact dockerNameChar_of_mem_clock now

/-! ## Simultaneous spawns -/

/-- No dash in the pool, and no byte that `sanitize` replaces. -/
structure PlainRequest (req : SpawnRequest) : Prop where
  pool : ∀ b ∈ utf8 req.pool, keptByte b = true
  conf : ∀ b ∈ utf8 req.confName, keptByte b = true
  undashed : '-'.toUInt8 ∉ utf8 req.pool

theorem not_overlaps {pool conf pool' conf' : List UInt8} (h : '-'.toUInt8 ∉ pool) :
    ¬Overlaps pool conf pool' conf' := by
  rintro ⟨front, back, mid, rest, rfl, -⟩
  exact h (List.mem_append_right _ List.mem_cons_self)

theorem NameClash.eq_of_plain {req req' : SpawnRequest} (h : NameClash req req')
    (hreq : PlainRequest req) (hreq' : PlainRequest req') : req = req' := by
  obtain ⟨hpool, hconf⟩ | hoverlap | hoverlap := h
  · have hpool := utf8_injective (hpool.eq hreq.pool hreq'.pool)
    have hconf := utf8_injective (hconf.eq hreq.conf hreq'.conf)
    cases req
    cases req'
    exact congrArg₂ SpawnRequest.mk hpool hconf
  · exact absurd hoverlap (not_overlaps hreq.undashed)
  · exact absurd hoverlap (not_overlaps hreq'.undashed)

/-- The names that docker is asked to create. -/
def createNames (calls : List DockerCall) : List String :=
  calls.filterMap fun
    | .containerCreate _ name _ => some name
    | _ => none

theorem createNames_bestEffortKill (w : SpawnWorld) (ctx : Ctx) (containerID : String) :
    createNames (w.bestEffortKill ctx containerID) = [] := by
  unfold SpawnWorld.bestEffortKill SpawnWorld.kill
  dsimp only
  split
  · rfl
  · split
    · rfl
    · rfl

/-- `createAndStart` asks for one container at most, under the name of its request. -/
theorem eq_of_mem_createNames {cfg : CellConfig} {w : SpawnWorld} {ctx : Ctx} {req : SpawnRequest}
    {name : String} (h : name ∈ createNames (cfg.createAndStart w ctx req).1) :
    name = buildContainerName req.pool req.confName w.now := by
  have hcreate : ∀ {containerName : String},
      name ∈ createNames (CellConfig.createContainer w ctx containerName).1 →
      name = containerName := by
    intro containerName h
    unfold CellConfig.createContainer at h
    dsimp only at h
    split at h
    · simpa [createNames] using h
    · split at h
      · rw [createNames, List.filterMap_append, ← createNames, ← createNames,
          createNames_bestEffortKill] at h
        simpa [createNames] using h
      · simpa [createNames] using h
  unfold CellConfig.createAndStart at h
  dsimp only at h
  split at h
  · exact hcreate h
  · split at h
    · cases h
    · exact hcreate (by simpa [createNames] using h)

/-- Two spawns of one clock reading that ask docker for one name are of clashing requests. -/
theorem nameClash_of_mem_createNames {cfg : CellConfig} {w w' : SpawnWorld} {ctx ctx' : Ctx}
    {req req' : SpawnRequest} {name : String} (hnow : w.now = w'.now)
    (h : name ∈ createNames (cfg.createAndStart w ctx req).1)
    (h' : name ∈ createNames (cfg.createAndStart w' ctx' req').1) : NameClash req req' := by
  rw [← buildContainerName_eq_iff_nameClash req req' w'.now, ← eq_of_mem_createNames h', ← hnow]
  exact (eq_of_mem_createNames h).symm

/-- Every name is one that docker allows. Two requests of one clock reading share theirs exactly if
they clash, which different ones of plain names do not. -/
theorem buildContainerName_distinct (req req' : SpawnRequest) (now : Int) :
    dockerName (buildContainerName req.pool req.confName now) = true ∧
    (buildContainerName req.pool req.confName now = buildContainerName req'.pool req'.confName now ↔
      NameClash req req') ∧
    (PlainRequest req → PlainRequest req' → req ≠ req' → ¬NameClash req req') := by
  refine ⟨dockerName_buildContainerName _ _ _, buildContainerName_eq_iff_nameClash _ _ _, ?_⟩
  intro hreq hreq' hne hclash
  exact hne (hclash.eq_of_plain hreq hreq')

example : PlainRequest ⟨"de", "de-fra_1"⟩ :=
  ⟨by decide +kernel, by decide +kernel, by decide +kernel⟩

open Schedule in
/-- Two pools of which one goes on where the name of the other ends, and two of which one has a dot
where the other has an underscore. -/
theorem buildContainerName_clashes :
    (buildContainerName "eu-west" "de" 0 = buildContainerName "eu" "west-de" 0 ∧
      buildContainerName "eu.west" "de" 0 = buildContainerName "eu_west" "de" 0) ∧
    createNames ((cells "" "").createAndStart unreadyCell .caller ⟨"eu-west", "de"⟩).1 =
      ["pr0xteus-tunnel-eu-west-de-0"] ∧
    createNames ((cells "" "").createAndStart unreadyCell .caller ⟨"eu", "west-de"⟩).1 =
      ["pr0xteus-tunnel-eu-west-de-0"] := by
  decide +kernel

end Pr0xteus
