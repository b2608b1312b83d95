import Pr0xteus.Lib.JsonRoundTrip

/-!
# Structs in JSON

How the fields of a struct are written, which of them are left out, and that they are read back.
-/

namespace Json

open Encoding

variable {key : String} {members : List (String × Doc)}

section Fields

/-- A field that is left out when it is empty. -/
def omitEmpty (name : String) (s : List UInt8) : List (String × Doc) :=
  if s = [] then [] else [(name, .string s)]

def omitFalse (name : String) (b : Bool) : List (String × Doc) :=
  if b then [(name, .bool true)] else []

variable {α : Type} {store : α → Value → Option α} {name : String} {stored : α}

theorem memberValues_append (front back : List (String × Doc)) :
    memberValues (front ++ back) = memberValues front ++ memberValues back := by
  induction front with
  | nil => rfl
  | cons member front ih => rw [List.cons_append, memberValues, memberValues, ih, List.cons_append]

theorem nestingMembers_append (front back : List (String × Doc)) :
    nestingMembers (front ++ back) = max (nestingMembers front) (nestingMembers back) := by
  induction front with
  | nil => exact (Nat.zero_max _).symm
  | cons member front ih => rw [List.cons_append, nestingMembers, nestingMembers, ih, Nat.max_assoc]

theorem nestingMembers_omitEmpty (key : String) (s : List UInt8) :
    nestingMembers (omitEmpty key s) = 0 := by
  unfold omitEmpty
  split <;> rfl

theorem nestingMembers_omitFalse (key : String) (b : Bool) : nestingMembers (omitFalse key b) = 0 := by
  cases b <;> rfl

theorem key_of_mem_omitEmpty {s : List UInt8} {member : String × Doc} (h : member ∈ omitEmpty key s) :
    member.1 = key := by
  unfold omitEmpty at h
  split at h
  · cases h
  · rw [List.mem_singleton.mp h]

theorem key_of_mem_omitFalse {b : Bool} {member : String × Doc} (h : member ∈ omitFalse key b) :
    member.1 = key := by
  cases b with
  | false => cases h
  | true => rw [List.mem_singleton.mp h]

/-- A struct has no fields that its own type does not know. -/
theorem onlyFields_memberValues {names : List String} (h : ∀ member ∈ members, member.1 ∈ names) :
    onlyFields names (memberValues members) = true := by
  induction members with
  | nil => rfl
  | cons member members ih =>
      obtain ⟨hmember, hmembers⟩ := List.forall_mem_cons.mp h
      have hname : (names.any fun name => nameMatches name member.1.toList) = true :=
        List.any_eq_true.mpr ⟨member.1, hmember, beq_self_eq_true _⟩
      rw [memberValues, onlyFields, List.all_cons, hname, Bool.true_and]
      exact ih hmembers

theorem topMembers_marshal (h : (Doc.object members).nesting ≤ maxNestingDepth) :
    topMembers (marshal (.object members)) = some (memberValues members) := by
  rw [topMembers, parse_marshal h]
  rfl

theorem topMembers_encode (layout : Layout) (h : (Doc.object members).nesting ≤ maxNestingDepth) :
    topMembers (encode layout (.object members)) = some (memberValues members) := by
  rw [topMembers, parse_encode layout h]
  rfl

/-- A member goes to the field of its name. -/
theorem setField_member (hkey : nameMatches name key.toList = decide (name = key)) (value : Value) :
    setField store name stored (key.toList, value) =
      if name = key then
        match value with
        | .null => some stored
        | value => store stored value
      else some stored := by
  cases value <;> simp only [setField, hkey, decide_eq_true_eq]

theorem foldlM_omitEmpty (hkey : nameMatches name key.toList = decide (name = key)) (s : List UInt8) :
    (memberValues (omitEmpty key s)).foldlM (setField store name) stored =
      if name = key ∧ s ≠ [] then store stored (.string (Utf8.chars s)) else some stored := by
  unfold omitEmpty
  by_cases hs : s = []
  · simp [hs, memberValues]
  · simp [hs, memberValues, Doc.value, setField_member hkey]

theorem foldlM_omitFalse (hkey : nameMatches name key.toList = decide (name = key)) (b : Bool) :
    (memberValues (omitFalse key b)).foldlM (setField store name) stored =
      if name = key ∧ b then store stored (.bool true) else some stored := by
  cases b with
  | false => simp [omitFalse, memberValues]
  | true => simp [omitFalse, memberValues, Doc.value, setField_member hkey]

theorem some_chars (s : List UInt8) :
    (if s ≠ [] then some (Utf8.chars s) else some []) = some (Utf8.chars s) := by
  by_cases hs : s = []
  · rw [hs]
    rfl
  · rw [if_pos hs]

end Fields

/-! ## Numbers and slices -/

section Numbers

/-- A field of type `int64`. -/
def int64Field (name : String) (members : Members) : Option Int64 :=
  members.foldlM (setField (fun _ value => match value with
    | .number text => (Net.atoi (utf8 (.ofList text))).map Int64.ofInt
    | _ => none) name) 0

/-- How numbers of a floating-point type are written and read. -/
structure FloatText (F : Type) where
  zero : F
  format : F → Number
  parse : List Char → Option F
  parse_format : ∀ x, parse (format x).text = some x

/-- A field of a floating-point type. -/
def floatField {F : Type} (float : FloatText F) (name : String) (members : Members) : Option F :=
  members.foldlM (setField (fun _ value => match value with
    | .number text => float.parse text
    | _ => none) name) float.zero

def Doc.int64 (n : Int64) : Doc := .number (.ofInt n.toInt)

/-- A counter is read back. -/
theorem atoi_ofInt (n : Int64) :
    (Net.atoi (utf8 (.ofList (Number.ofInt n.toInt).text))).map Int64.ofInt = some n := by
  rw [Number.ofInt, String.ofList_toList, Net.atoi_toString_int n.le_toInt n.toInt_lt, Option.map_some,
    Int64.ofInt_toInt]

end Numbers

section Slices

/-- The elements of an array, stored over those of a slice: the members that go to each. -/
def storeItems : (backing : List Members) → List Value → Option (List Members)
  | backing, [] => some backing
  | backing, item :: items => do
      let old := backing.headD []
      let stored ← match item with
        | .null => some old
        | .object more => some (old ++ more)
        | _ => none
      some (stored :: (← storeItems backing.tail items))

/-- A value, stored in a slice of structs: what its array holds, beyond its length too, and its
length. -/
def storeSlice (stored : List Members × Nat) : Value → Option (List Members × Nat)
  | .null | .array [] => some ([], 0)
  | .array items => (storeItems stored.1 items).map fun backing => (backing, items.length)
  | _ => none

/-- A field that is a slice of structs: the members that go to each of them. -/
def structsField (name : String) (members : Members) : Option (List Members) := do
  let (backing, length) ← members.foldlM (fun stored member =>
    if nameMatches name member.1 then storeSlice stored member.2 else some stored) ([], 0)
  some (backing.take length)

theorem length_values (items : List Doc) : (values items).length = items.length := by
  induction items with
  | nil => rfl
  | cons item items ih => rw [values, List.length_cons, List.length_cons, ih]

theorem storeItems_objects (objects : List (List (String × Doc))) :
    storeItems [] (values (objects.map .object)) = some (objects.map memberValues) := by
  induction objects with
  | nil => rfl
  | cons members objects ih =>
      simp only [List.map_cons, values, Doc.value, storeItems, List.headD_nil, List.nil_append,
        List.tail_nil, ih, Option.bind_eq_bind, Option.bind_some]

theorem storeSlice_objects (objects : List (List (String × Doc))) :
    storeSlice ([], 0) (.array (values (objects.map .object))) =
      some (objects.map memberValues, objects.length) := by
  cases objects with
  | nil => rfl
  | cons members objects =>
      have hstored := storeItems_objects (members :: objects)
      have hlength : (values ((members :: objects).map Doc.object)).length =
          (members :: objects).length := by
        rw [length_values, List.length_map]
      rw [storeSlice, hstored, Option.map_some, hlength]
      simp [values]

/-- A slice of structs is read back from the one member that goes to it. -/
theorem structsField_last {name : String} (front : Members) {key : List Char}
    (hfront : ∀ other ∈ front.map Prod.fst, nameMatches name other = false)
    (hkey : nameMatches name key = true) (objects : List (List (String × Doc))) :
    structsField name (front ++ [(key, .array (values (objects.map .object)))]) =
      some (objects.map memberValues) := by
  have hskip : ∀ stored, front.foldlM (fun stored member =>
      if nameMatches name member.1 then storeSlice stored member.2 else some stored) stored =
        some stored := by
    intro stored
    induction front with
    | nil => rfl
    | cons member front ih =>
        rw [List.map_cons] at hfront
        obtain ⟨hmember, hfront⟩ := List.forall_mem_cons.mp hfront
        rw [List.foldlM_cons, hmember]
        exact ih hfront
  have hlength : (objects.map memberValues).take objects.length = objects.map memberValues :=
    List.take_of_length_le (by rw [List.length_map])
  rw [structsField, List.foldlM_append, hskip]
  simp [hkey, storeSlice_objects, hlength]

end Slices

/-- The members of the first value of a text, for a decoder that reads one value. -/
def firstMembers (text : List UInt8) : Option Members :=
  match scanValue maxNestingDepth (Utf8.chars text) with
  | some (.object members, _) => some members
  | some (.null, _) => some []
  | _ => none

theorem firstMembers_encode (layout : Layout) (h : (Doc.object members).nesting ≤ maxNestingDepth) :
    firstMembers (encode layout (.object members)) = some (memberValues members) := by
  rw [firstMembers, encode, Utf8.chars_utf8, scanValue_render layout h 0 delimited_newline]
  rfl

end Json
