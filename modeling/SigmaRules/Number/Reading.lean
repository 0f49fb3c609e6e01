/-
SigmaRules/Number/Reading.lean

Floating point numbers from their texts: a sign, digits with a point, an
exponent, or the words for the infinite numbers and for what is no number.
-/
import SigmaRules.Number.Double
import SigmaRules.Text.Digits

namespace SigmaRules.Number

open Text

/-- The ASCII digits at the start, and the text after them. -/
def takeDigits (s : List Char) : List Nat × List Char :=
  ((s.takeWhile Char.isDigit).map (·.toNat - 48), s.dropWhile Char.isDigit)

/-- An exponent, which is the whole text. -/
def exponent? : List Char → Option Int
  | [] => some 0
  | c :: rest =>
    if c == 'e' || c == 'E' then
      let (neg, rest) := match rest with
        | '-' :: rest => (true, rest)
        | '+' :: rest => (false, rest)
        | rest => (false, rest)
      match takeDigits rest with
      | ([], _) => none
      | (ds, []) => some (if neg then -(numberOf 10 ds : Int) else numberOf 10 ds)
      | _ => none
    else none

/-- A number without a sign. -/
def Double.ofUnsigned? (neg : Bool) (s : List Char) : Option Double :=
  let word := String.ofList (s.map Char.toLower)
  if word == "inf" || word == "infinity" then some (infinity neg)
  else if word == "nan" then some nan
  else
    let (whole, rest) := takeDigits s
    let (part, rest) := match rest with
      | '.' :: rest => takeDigits rest
      | rest => ([], rest)
    if whole.isEmpty && part.isEmpty then none
    else (exponent? rest).map fun e =>
      ofDecimal neg (numberOf 10 (whole ++ part)) (e - part.length)

/-- The number nearest to the one that the text writes. -/
def Double.ofText? : List Char → Option Double
  | '-' :: rest => ofUnsigned? true rest
  | '+' :: rest => ofUnsigned? false rest
  | rest => ofUnsigned? false rest

end SigmaRules.Number
