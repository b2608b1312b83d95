import Pr0xteus.Lib.Utf8

/-!
# JSON

`json.Unmarshal` into structs of strings and booleans. The text is checked as a whole before anything is stored.
A member goes to the field with its name, or with the same name in another case; `null` leaves a
field as it is, a value of another type is an error, and of several members for one field the last
one counts.
-/

namespace Json

inductive Value where
  | null
  | bool (b : Bool)
  | number (text : List Char)
  | string (s : List Char)
  | array (items : List Value)
  | object (members : List (List Char × Value))

abbrev Members := List (List Char × Value)

section Scanner

def isSpace (c : Char) : Bool := c == ' ' || c == '\t' || c == '\r' || c == '\n'

def skipSpace (s : List Char) : List Char := s.dropWhile isSpace

/-- One element of a string: a character, or a code unit that was written with `\u`. -/
inductive StringUnit where
  | char (c : Char)
  | code (n : Nat)

def hexValue (c : Char) : Option Nat :=
  if '0' ≤ c ∧ c ≤ '9' then some (c.toNat - '0'.toNat)
  else if 'a' ≤ c ∧ c ≤ 'f' then some (c.toNat - 'a'.toNat + 10)
  else if 'A' ≤ c ∧ c ≤ 'F' then some (c.toNat - 'A'.toNat + 10)
  else none

def hexCode (a b c d : Char) : Option Nat := do
  let a ← hexValue a
  let b ← hexValue b
  let c ← hexValue c
  let d ← hexValue d
  some (((a * 16 + b) * 16 + c) * 16 + d)

def escaped (c : Char) : Option Char :=
  if c = '"' ∨ c = '\\' ∨ c = '/' then some c
  else if c = 'b' then some (Char.ofNat 8)
  else if c = 'f' then some (Char.ofNat 12)
  else if c = 'n' then some '\n'
  else if c = 'r' then some '\r'
  else if c = 't' then some '\t'
  else none

/-- A string after its opening quote, and what follows its closing one. -/
def stringUnits : List Char → Option (List StringUnit × List Char)
  | [] => none
  | '"' :: s => some ([], s)
  | '\\' :: 'u' :: a :: b :: c :: d :: s => do
      let code ← hexCode a b c d
      let (units, rest) ← stringUnits s
      some (.code code :: units, rest)
  | '\\' :: c :: s => do
      let c ← escaped c
      let (units, rest) ← stringUnits s
      some (.char c :: units, rest)
  | c :: s => do
      if c.toNat < 0x20 then none
      else
        let (units, rest) ← stringUnits s
        some (.char c :: units, rest)

/-- `unquote`: two code units make one character where they are a surrogate pair, and a surrogate by
itself is replaced. -/
def unquote : List StringUnit → List Char
  | [] => []
  | .char c :: units => c :: unquote units
  | .code high :: .code low :: units =>
      if 0xD800 ≤ high ∧ high < 0xDC00 ∧ 0xDC00 ≤ low ∧ low < 0xE000 then
        Char.ofNat ((high - 0xD800) * 0x400 + (low - 0xDC00) + 0x10000) :: unquote units
      else
        (if 0xD800 ≤ high ∧ high < 0xE000 then Utf8.replacementChar else Char.ofNat high) ::
          unquote (.code low :: units)
  | .code n :: units =>
      (if 0xD800 ≤ n ∧ n < 0xE000 then Utf8.replacementChar else Char.ofNat n) :: unquote units

def scanString (s : List Char) : Option (List Char × List Char) := do
  let (units, rest) ← stringUnits s
  some (unquote units, rest)

def digits (s : List Char) : Option (List Char × List Char) :=
  let run := s.takeWhile Char.isDigit
  if run = [] then none else some (run, s.dropWhile Char.isDigit)

/-- A number: no zero before other digits, digits on both sides of the point and in the exponent. -/
def scanNumber (s : List Char) : Option (List Char × List Char) := do
  let (sign, s) := match s with
    | '-' :: s => (['-'], s)
    | s => ([], s)
  let (whole, s) ← match s with
    | '0' :: s => some (['0'], s)
    | s => digits s
  let (fraction, s) ← match s with
    | '.' :: s => (digits s).map fun (run, s) => ('.' :: run, s)
    | s => some ([], s)
  let (exponent, s) ← match s with
    | 'e' :: '+' :: s | 'E' :: '+' :: s => (digits s).map fun (run, s) => ('e' :: '+' :: run, s)
    | 'e' :: '-' :: s | 'E' :: '-' :: s => (digits s).map fun (run, s) => ('e' :: '-' :: run, s)
    | 'e' :: s | 'E' :: s => (digits s).map fun (run, s) => ('e' :: run, s)
    | s => some ([], s)
  some (sign ++ whole ++ fraction ++ exponent, s)

abbrev Scan (α : Type) := List Char → Option (α × List Char)

/-- The items of an array after its bracket; `room` bounds their number. -/
def scanItems (value : Scan Value) : (room : Nat) → Scan (List Value)
  | 0, _ => none
  | room + 1, s => do
      let (item, s) ← value s
      match skipSpace s with
      | ',' :: s =>
          let (items, s) ← scanItems value room s
          some (item :: items, s)
      | ']' :: s => some ([item], s)
      | _ => none

/-- The members of an object after its brace. -/
def scanMembers (value : Scan Value) : (room : Nat) → Scan Members
  | 0, _ => none
  | room + 1, s => do
      let (key, s) ← match skipSpace s with
        | '"' :: s => scanString s
        | _ => none
      let (item, s) ← match skipSpace s with
        | ':' :: s => value s
        | _ => none
      match skipSpace s with
      | ',' :: s =>
          let (members, s) ← scanMembers value room s
          some ((key, item) :: members, s)
      | '\x7d' :: s => some ([(key, item)], s)
      | _ => none

/-- A value, with containers nested at most `depth` deep. -/
def scanValue : (depth : Nat) → Scan Value
  | depth, s =>
      match skipSpace s, depth with
      | 'n' :: 'u' :: 'l' :: 'l' :: s, _ => some (.null, s)
      | 't' :: 'r' :: 'u' :: 'e' :: s, _ => some (.bool true, s)
      | 'f' :: 'a' :: 'l' :: 's' :: 'e' :: s, _ => some (.bool false, s)
      | '"' :: s, _ => (scanString s).map fun (text, s) => (.string text, s)
      | '[' :: s, depth + 1 =>
          match skipSpace s with
          | ']' :: s => some (.array [], s)
          | s => (scanItems (scanValue depth) s.length s).map fun (items, s) => (.array items, s)
      | '\x7b' :: s, depth + 1 =>
          match skipSpace s with
          | '\x7d' :: s => some (.object [], s)
          | s =>
              (scanMembers (scanValue depth) s.length s).map fun (members, s) => (.object members, s)
      | s, _ => (scanNumber s).map fun (text, s) => (.number text, s)

/-- The nesting that `encoding/json` allows. -/
def maxNestingDepth : Nat := 10000

def parse (text : List UInt8) : Option Value := do
  let (value, rest) ← scanValue maxNestingDepth (Utf8.chars text)
  if skipSpace rest = [] then some value else none

end Scanner

section Decoder

/-- The smallest character of those that differ from this one in case only, as far as ASCII letters
are among them. -/
def foldChar (c : Char) : Char :=
  if c.toNat = 0x212A then 'K' else if c.toNat = 0x17F then 'S' else c.toUpper

def nameMatches (name : String) (key : List Char) : Bool :=
  key.map foldChar == name.toList.map foldChar

/-- Storing one member into a field: `none` is the error for a value of another type. -/
def setField {α : Type} (store : α → Value → Option α) (name : String) (stored : α)
    (member : List Char × Value) : Option α :=
  if nameMatches name member.1 then
    match member.2 with
    | .null => some stored
    | value => store stored value
  else some stored

/-- A field of type `string`. -/
def stringField (name : String) (members : Members) : Option (List Char) :=
  members.foldlM (setField (fun _ value => match value with
    | .string s => some s
    | _ => none) name) []

/-- A field of type `bool`. -/
def boolField (name : String) (members : Members) : Option Bool :=
  members.foldlM (setField (fun _ value => match value with
    | .bool b => some b
    | _ => none) name) false

/-- A field that is itself a struct: the members that go to its fields, in order. -/
def structField (name : String) (members : Members) : Option Members :=
  members.foldlM (setField (fun stored value => match value with
    | .object more => some (stored ++ more)
    | _ => none) name) []

/-- The members of a text that is an object, for a struct at the top. A `null` stores nothing. -/
def topMembers (text : List UInt8) : Option Members :=
  match parse text with
  | some (.object members) => some members
  | some .null => some []
  | _ => none

/-- `DisallowUnknownFields`: every member goes to a field. -/
def onlyFields (names : List String) (members : Members) : Bool :=
  members.all fun member => names.any fun name => nameMatches name member.1

end Decoder

end Json
