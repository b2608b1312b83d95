import Pr0xteus.Lib.Net

/-!
# Reading URLs

`url.Parse` and `url.ParseRequestURI`, on byte strings, and how what `URL.String` escapes is read back.
In a host only bytes beyond ASCII and the percent sign may be escaped, so what has to be escaped and
is none of these cannot be read back.
-/

namespace Encoding

open Bytes Net

section Parse

inductive UnescapeMode where
  | path
  | host
  | zone
  | userPassword
  | fragment
  deriving DecidableEq

namespace UnescapeMode

/-- Whether the escape of a byte may stand for it. -/
def allowsEscape (mode : UnescapeMode) (high value : UInt8) : Bool :=
  match mode with
  | .host => 8 ≤ unhex high || value = '%'.toUInt8
  | .zone => value = '%'.toUInt8 || value = ' '.toUInt8 || !shouldEscape .host value
  | _ => true

/-- Whether a byte may stand for itself. -/
def allowsRaw (mode : UnescapeMode) (byte : UInt8) : Bool :=
  match mode with
  | .host | .zone => 0x80 ≤ byte || !shouldEscape .host byte
  | _ => true

end UnescapeMode

/-- `unescape`; the two passes of the source, the check and the replacement, are one here. -/
def unescape (mode : UnescapeMode) : List UInt8 → Option (List UInt8)
  | [] => some []
  | b :: s =>
      if b = '%'.toUInt8 then
        match s with
        | high :: low :: rest =>
            let value := UInt8.ofNat (16 * unhex high + unhex low)
            if isHex high && isHex low && mode.allowsEscape high value then
              (unescape mode rest).map (value :: ·)
            else none
        | _ => none
      else if mode.allowsRaw b then (unescape mode s).map (b :: ·)
      else none

def validOptionalPort (port : List UInt8) : Bool :=
  match port with
  | [] => true
  | b :: digits => b = ':'.toUInt8 && digits.all isDigit

/-- The host name of an IP literal, cut before the first escaped percent sign. -/
def cutZone : List UInt8 → List UInt8 × List UInt8
  | [] => ([], [])
  | b :: s =>
      if (b :: s).take 3 = ['%'.toUInt8, '2'.toUInt8, '5'.toUInt8] then ([], b :: s)
      else (b :: (cutZone s).1, (cutZone s).2)

/-- The part of `parseHost` for a host in brackets, after the opening one. -/
def parseLiteral (s : List UInt8) : Option (List UInt8) := do
  let (hostname, colonPort) ← cutLast ']'.toUInt8 s
  if !validOptionalPort colonPort then none
  else
    let colonPort ← unescape .host colonPort
    let hostPart ← unescape .host (cutZone hostname).1
    let zonePart ← unescape .zone (cutZone hostname).2
    let addr ← parseAddr (hostPart ++ zonePart)
    if addr.is4 then none
    else some ('['.toUInt8 :: (hostPart ++ zonePart) ++ ']'.toUInt8 :: colonPort)

def parseHost (host : List UInt8) : Option (List UInt8) :=
  match cutLast '['.toUInt8 host with
  | some (before, literal) => if before ≠ [] then none else parseLiteral literal
  | none =>
      match cut ':'.toUInt8 host with
      | (_, some port) =>
          -- one colon at most, with nothing but digits after it
          if ':'.toUInt8 ∈ port ∨ !port.all isDigit then none else unescape .host host
      | (_, none) => unescape .host host

structure ParsedUser where
  username : List UInt8
  password : Option (List UInt8)
  deriving DecidableEq, Repr

def isAlpha (b : UInt8) : Bool :=
  ('a'.toUInt8 ≤ b && b ≤ 'z'.toUInt8) || ('A'.toUInt8 ≤ b && b ≤ 'Z'.toUInt8)

def validUserinfo (s : List UInt8) : Bool :=
  s.all fun b => isAlpha b || isDigit b ||
    "-._:~!$&'()*+,;=%@".toList.any fun c => b = c.toUInt8

def parseUserinfo (userinfo : List UInt8) : Option ParsedUser := do
  if !validUserinfo userinfo then none
  else
    match cut ':'.toUInt8 userinfo with
    | (username, none) => some ⟨← unescape .userPassword username, none⟩
    | (username, some password) =>
        some ⟨← unescape .userPassword username, some (← unescape .userPassword password)⟩

def parseAuthority (authority : List UInt8) : Option (Option ParsedUser × List UInt8) :=
  match cutLast '@'.toUInt8 authority with
  | none => do some (none, ← parseHost authority)
  | some (userinfo, host) => do
      let host ← parseHost host
      some (some (← parseUserinfo userinfo), host)

/-- A parsed `url.URL`. The fields that only record how the text was spelled are left out. -/
structure ParsedURL where
  scheme : List UInt8 := []
  opaquePart : List UInt8 := []
  user : Option ParsedUser := none
  host : List UInt8 := []
  path : List UInt8 := []
  rawQuery : List UInt8 := []
  fragment : List UInt8 := []
  deriving DecidableEq, Repr

/-- `getScheme`, with the bytes of the scheme read so far. -/
def getScheme (raw scheme : List UInt8) : List UInt8 → Option (List UInt8 × List UInt8)
  | [] => some ([], raw)
  | b :: s =>
      if isAlpha b then getScheme raw (scheme ++ [b]) s
      else if isDigit b || ['+', '-', '.'].any fun c => b = c.toUInt8 then
        if scheme = [] then some ([], raw) else getScheme raw (scheme ++ [b]) s
      else if b = ':'.toUInt8 then
        if scheme = [] then none else some (scheme, s)
      else some ([], raw)

def lowerByte (b : UInt8) : UInt8 :=
  if 'A'.toUInt8 ≤ b && b ≤ 'Z'.toUInt8 then b + 32 else b

def isControl (b : UInt8) : Bool := b < 0x20 || b = 0x7F

/-- The authority of a URL and its path, which begins with the slash. -/
def cutPath (s : List UInt8) : List UInt8 × List UInt8 :=
  match cut '/'.toUInt8 s with
  | (authority, none) => (authority, [])
  | (authority, some path) => (authority, '/'.toUInt8 :: path)

def slashes (n : Nat) : List UInt8 := List.replicate n '/'.toUInt8

/-- `parse`, without the `*` that stands for itself. -/
def parseRest (viaRequest : Bool) (scheme rest : List UInt8) : Option ParsedURL := do
  let (rest, query) := cut '?'.toUInt8 rest
  let url : ParsedURL := { scheme := scheme, rawQuery := query.getD [] }
  if rest.head? ≠ some '/'.toUInt8 then
    if scheme ≠ [] then some { url with opaquePart := rest }
    else if viaRequest ∨ ':'.toUInt8 ∈ (cutPath rest).1 then none
    else some { url with path := ← unescape .path rest }
  else if rest.take 2 = slashes 2 ∧ (scheme ≠ [] ∨ !viaRequest ∧ rest.take 3 ≠ slashes 3) then
    let (user, host) ← parseAuthority (cutPath (rest.drop 2)).1
    some { url with
      user := user
      host := host
      path := ← unescape .path (cutPath (rest.drop 2)).2 }
  else some { url with path := ← unescape .path rest }

def parseURL (viaRequest : Bool) (raw : List UInt8) : Option ParsedURL := do
  if raw.any isControl ∨ (viaRequest ∧ raw = []) then none
  else if raw = ['*'.toUInt8] then some { path := raw }
  else
    let (scheme, rest) ← getScheme raw [] raw
    parseRest viaRequest (scheme.map lowerByte) rest

/-- `url.ParseRequestURI`. -/
def parseRequestURI (raw : List UInt8) : Option ParsedURL := parseURL true raw

/-- `url.Parse`. -/
def parse (raw : List UInt8) : Option ParsedURL := do
  let (raw, fragment) := cut '#'.toUInt8 raw
  let url ← parseURL false raw
  some { url with fragment := ← unescape .fragment (fragment.getD []) }

/-- `URL.Port`. -/
def ParsedURL.port (url : ParsedURL) : List UInt8 :=
  match cutLast ':'.toUInt8 url.host with
  | none => []
  | some (_, port) => if port.all isDigit then port else []

end Parse

example : parse (utf8 "HTTP://id:s%3A1@[::1%25eth0]:80/a?b#c") =
    some ⟨utf8 "http", [], some ⟨utf8 "id", some (utf8 "s:1")⟩, utf8 "[::1%eth0]:80", utf8 "/a",
      utf8 "b", utf8 "c"⟩ := by
  decide

end Encoding
