import Pr0xteus.Lib.UrlRoundTrip

/-!
# Writing URLs

`URL.String`. Beside the parts of a URL it reads fields in which `Parse` keeps how the text was spelled,
where that was not the default: they are a parameter.
-/

namespace Encoding

/-- The fields of a `url.URL` that only its text depends on. -/
structure Spelling where
  rawPath : List UInt8 := []
  rawFragment : List UInt8 := []
  forceQuery : Bool := false
  omitHost : Bool := false

/-- The parts that `String` writes with their own rule of what has to be escaped. -/
inductive TextPart where
  | path
  | fragment

namespace TextPart

def unescapeMode : TextPart → UnescapeMode
  | .path => .path
  | .fragment => .fragment

def shouldEscape (part : TextPart) (byte : UInt8) : Bool :=
  let c := Char.ofNat byte.toNat
  if isAlphanumeric c || "-_.~".toList.contains c then false
  else if "$&+,/:;=?@".toList.contains c then
    match part with
    | .path => c = '?'
    | .fragment => false
  else
    match part with
    | .path => true
    | .fragment => !"!()*".toList.contains c

def escape (part : TextPart) (s : List UInt8) : List UInt8 :=
  s.flatMap fun b =>
    if part.shouldEscape b then ['%'.toUInt8, highDigit b, lowDigit b] else [b]

/-- `validEncoded`. -/
def validEncoded (part : TextPart) (s : List UInt8) : Bool :=
  s.all fun b =>
    "!$&'()*+,;=:@[]%".toList.contains (Char.ofNat b.toNat) || !part.shouldEscape b

/-- `EscapedPath` and `EscapedFragment`: the text that was parsed, where it still stands for the
part. -/
def escaped (part : TextPart) (raw s : List UInt8) : List UInt8 :=
  if raw ≠ [] ∧ part.validEncoded raw ∧ unescape part.unescapeMode raw = some s then raw
  else if s = ['*'.toUInt8] then s
  else part.escape s

theorem escaped_nil (part : TextPart) (raw : List UInt8) : part.escaped raw [] = [] := by
  have hraw : unescape part.unescapeMode raw = some [] → raw = [] := by
    intro h
    unfold unescape at h
    split at h
    · rfl
    · split_ifs at h
      · split at h
        · dsimp only at h
          split_ifs at h
          simp at h
        · cases h
      · simp at h
  rw [escaped, if_neg fun h => h.1 (hraw h.2.2), if_neg (by decide)]
  rfl

end TextPart

/-- `Userinfo.String`. -/
def ParsedUser.string (user : ParsedUser) : List UInt8 :=
  if user.username = [] ∧ user.password.getD [] = [] then []
  else escapeBytes .userPassword user.username ++
    match user.password with
    | none => []
    | some password => ':'.toUInt8 :: escapeBytes .userPassword password

namespace ParsedURL

/-- What stands before the path. -/
def stringAuthority (url : ParsedURL) (spelling : Spelling) : List UInt8 :=
  if url.scheme = [] ∧ url.host = [] ∧ url.user = none then []
  else if spelling.omitHost ∧ url.host = [] ∧ url.user = none then []
  else
    (if url.host ≠ [] ∨ url.path ≠ [] ∨ url.user ≠ none then slashes 2 else []) ++
      (match url.user with
      | none => []
      | some user => user.string ++ ['@'.toUInt8]) ++
      escapeBytes .host url.host

/-- `URL.String`. -/
def string (url : ParsedURL) (spelling : Spelling) : List UInt8 :=
  let scheme := if url.scheme = [] then [] else url.scheme ++ [':'.toUInt8]
  let front :=
    if url.opaquePart ≠ [] then scheme ++ url.opaquePart
    else
      let path := TextPart.path.escaped spelling.rawPath url.path
      let before := scheme ++ url.stringAuthority spelling
      let slash := if path ≠ [] ∧ path.head? ≠ some '/'.toUInt8 ∧ url.host ≠ [] then slashes 1 else []
      -- a colon in the first segment would make it a scheme
      let dot :=
        if before ++ slash = [] ∧ ':'.toUInt8 ∈ (cutPath path).1 then
          ['.'.toUInt8, '/'.toUInt8]
        else []
      before ++ slash ++ dot ++ path
  front ++
    (if spelling.forceQuery ∨ url.rawQuery ≠ [] then '?'.toUInt8 :: url.rawQuery else []) ++
    if url.fragment ≠ [] then '#'.toUInt8 :: TextPart.fragment.escaped spelling.rawFragment url.fragment
    else []

/-- The text of a URL that has nothing but a scheme, credentials and a host. -/
theorem string_authority {url : ParsedURL} {spelling : Spelling} {user password : List UInt8}
    (hscheme : url.scheme ≠ []) (hhier : url.opaquePart = [])
    (huser : url.user = some ⟨user, some password⟩) (hpath : url.path = [])
    (hquery : url.rawQuery = []) (hfragment : url.fragment = []) (hspelling : spelling.forceQuery = false)
    (hne : user ≠ []) (huserBytes : ∀ b ∈ user, tokenByte b = true)
    (hpasswordBytes : ∀ b ∈ password, tokenByte b = true) :
    url.string spelling = url.scheme ++ ':'.toUInt8 :: '/'.toUInt8 :: '/'.toUInt8 ::
      authority user password (escapeBytes .host url.host) := by
  have hplain : ∀ s : List UInt8, (∀ b ∈ s, tokenByte b = true) → escapeBytes .userPassword s = s :=
    fun s hs => escapeBytes_eq_self fun b hb => (plain_of_tokenByte b (hs b hb)).1
  simp only [string, stringAuthority, ParsedUser.string, hhier, huser, hpath, hquery, hfragment,
    hspelling, TextPart.escaped_nil, hplain user huserBytes, hplain password hpasswordBytes, authority]
  simp [hscheme, hne, slashes]

end ParsedURL

end Encoding
