import Mathlib.Data.List.Basic

/-!
# The strings package

Trimming, suffixes and letter case. The case tables of the `unicode` package are a parameter; the
ASCII ones stand in for them where a concrete run is looked at.
-/

namespace Text

/-- The simple case mappings, one character at a time. -/
structure CaseTable where
  lower : Char → Char
  upper : Char → Char

def CaseTable.ascii : CaseTable := ⟨Char.toLower, Char.toUpper⟩

def CaseTable.toLower (t : CaseTable) (s : String) : String := String.ofList (s.toList.map t.lower)

def CaseTable.toUpper (t : CaseTable) (s : String) : String := String.ofList (s.toList.map t.upper)

/-- `unicode.IsSpace`. -/
def isSpace (c : Char) : Bool :=
  let n := c.toNat
  (9 ≤ n && n ≤ 13) || n == 0x20 || n == 0x85 || n == 0xA0 || n == 0x1680 ||
    (0x2000 ≤ n && n ≤ 0x200A) || n == 0x2028 || n == 0x2029 || n == 0x202F || n == 0x205F ||
    n == 0x3000

def trimChars (cs : List Char) : List Char :=
  ((cs.dropWhile isSpace).reverse.dropWhile isSpace).reverse

def trimSpace (s : String) : String := String.ofList (trimChars s.toList)

def hasSuffix (s ending : String) : Bool := ending.toList.isSuffixOf s.toList

def trimSuffix (s ending : String) : String :=
  if hasSuffix s ending then String.ofList (s.toList.take (s.toList.length - ending.toList.length))
  else s

example : trimSpace " \tde\n" = "de" := by decide

example : trimSuffix "wg-de-1.conf" ".conf" = "wg-de-1" := by decide

end Text
