/-
SigmaRules/Text/Numeral.lean

Whole numbers as people write them: white space around, a sign, digits of
any script, single underscores between digits.  Numerals with too many
digits are refused.
-/
import SigmaRules.Text.Blank
import SigmaRules.Text.Digits
import SigmaRules.Text.Word

namespace SigmaRules.Text.Numeral

/-- The values of the digits of a numeral, in which single underscores may
stand between digits. -/
def digits? : List Char → Option (List Nat)
  | [] => none
  | [c] => (digitValue? c).map ([·])
  | c :: '_' :: rest => do
    let d ← digitValue? c
    let ds ← digits? rest
    return d :: ds
  | c :: rest => do
    let d ← digitValue? c
    let ds ← digits? rest
    return d :: ds

/-- The number that an unsigned numeral writes. -/
def toNat? (s : List Char) : Option Nat := do
  let ds ← digits? s
  if ds.length ≤ maxDigits then some (numberOf 10 ds) else none

/-- White space around a numeral.  The information separators are none. -/
def isPadding (c : Char) : Bool := isBlank c && !(28 ≤ c.toNat && c.toNat ≤ 31)

/-- A text without the white space around it. -/
def unpadded (s : List Char) : List Char :=
  ((s.dropWhile isPadding).reverse.dropWhile isPadding).reverse

/-- The number that a numeral writes. -/
def toInt? (s : List Char) : Option Int :=
  match unpadded s with
  | '-' :: rest => (toNat? rest).map fun n => -(n : Int)
  | '+' :: rest => (toNat? rest).map fun n => (n : Int)
  | rest => (toNat? rest).map fun n => (n : Int)

end SigmaRules.Text.Numeral
