import GeoRisk.PyFloat
import GeoRisk.Uuid

/-! `float` of a text, as Python reads it: blanks around it are stripped, decimal digits of any script
    count, an underscore may stand between two of them, and what remains is a decimal or a name:

        12   -1.5e3   .5   1_000.   Infinity   +nan                                               -/

namespace GeoRisk.PyFloat

def isDigit (c : Char) : Bool := 0x30 ≤ c.toNat && c.toNat ≤ 0x39

/-- Every underscore stands between two digits; `previous` is the character before. -/
def underscoresOk : Char → List Char → Bool
  | previous, [] => previous ≠ '_'
  | previous, c :: cs =>
    (if c = '_' then isDigit previous else previous ≠ '_' || isDigit c) && underscoresOk c cs

/-- The number that decimal digits write. -/
def digitsValue (cs : List Char) : ℕ := cs.foldl (fun value c => 10 * value + (c.toNat - 0x30)) 0

/-- A sign, if there is one, and what follows it. -/
def splitSign : List Char → Bool × List Char
  | '-' :: cs => (true, cs)
  | '+' :: cs => (false, cs)
  | cs => (false, cs)

/-- The exponent that ends a decimal. -/
def readExponent : List Char → Option ℤ
  | [] => some 0
  | c :: cs =>
    let (negative, digits) := splitSign cs
    if (c = 'e' ∨ c = 'E') ∧ digits ≠ [] ∧ digits.all isDigit then
      some (if negative then -digitsValue digits else digitsValue digits)
    else none

/-- A decimal without its sign. -/
def readDecimal (cs : List Char) : Option ℚ :=
  let whole := cs.takeWhile isDigit
  let rest := cs.dropWhile isDigit
  let (fraction, rest) := match rest with
    | '.' :: rest => (rest.takeWhile isDigit, rest.dropWhile isDigit)
    | rest => ([], rest)
  if whole ++ fraction = [] then none
  else (readExponent rest).map fun e =>
    (digitsValue (whole ++ fraction) : ℚ) * 10 ^ (e - (fraction.length : ℤ))

/-- `float(text)`, none where it raises a `ValueError`. -/
def ofText (text : String) : Option PyFloat :=
  let cs := stripped isSpaceC (text.toList.map intChar)
  if underscoresOk ' ' cs then
    let (negative, cs) := splitSign (cs.filter (· ≠ '_'))
    let name := cs.map Char.toLower
    if name = "inf".toList ∨ name = "infinity".toList then some (.inf negative)
    else if name = "nan".toList then some .nan
    else (readDecimal cs).map fun q => ofRat (if negative then -q else q)
  else none

example : ofText " -1_0.5e1 " = some (.finite (-105)) := by decide +kernel

example : ofText "1__0" = none := by decide +kernel

end GeoRisk.PyFloat
