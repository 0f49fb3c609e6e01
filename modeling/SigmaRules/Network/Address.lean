/-
SigmaRules/Network/Address.lean

Addresses of the internet protocol, in its fourth and its sixth version.  An
address is a number of 32 or 128 bits.  In text, one of version four is four
decimal numbers below 256 without needless zeros, and one of version six is
eight hexadecimal numbers of at most four digits, of which one run of zeros
may be left out between two colons and the last two may be written as an
address of version four.
-/
import SigmaRules.Text.Digits
import SigmaRules.Text.Split

namespace SigmaRules.Network

open Text

/-- The version of the protocol. -/
inductive Family
  | v4
  | v6
  deriving DecidableEq, Repr

/-- The number of bits of an address. -/
def Family.bits : Family → Nat
  | .v4 => 32
  | .v6 => 128

/-! ### Version four -/

/-- A number from 0 to 255 without needless zeros. -/
def octet? (s : List Char) : Option Nat := do
  let ds ← s.mapM decimalDigit?
  let n := numberOf 10 ds
  if ds.isEmpty || 3 < ds.length || (ds.head? == some 0 && ds.length != 1) || 255 < n then none
  else some n

/-- An address of version four. -/
def v4? (s : List Char) : Option Nat := do
  match ← (splitAt (· == '.') s).mapM octet? with
  | [a, b, c, d] => some (numberOf 256 [a, b, c, d])
  | _ => none

/-- The text of an address of version four. -/
def v4Text (n : Nat) : String :=
  ".".intercalate ([24, 16, 8, 0].map fun k => toString (n / Nat.pow 2 k % 256))

/-! ### Version six -/

/-- A number of at most four hexadecimal digits. -/
def hextet? (s : List Char) : Option Nat := do
  let ds ← s.mapM hexDigit?
  if ds.isEmpty || 4 < ds.length then none else some (numberOf 16 ds)

/-- The numbers of an address, in which the last two may be written as an
address of version four. -/
def hextets? : List (List Char) → Option (List Nat)
  | [] => some []
  | [last] =>
    if last.contains '.' then (v4? last).map fun n => [n / 65536, n % 65536]
    else (hextet? last).map ([·])
  | s :: rest => do
    let n ← hextet? s
    let ns ← hextets? rest
    return n :: ns

/-- The texts before and after the first two colons in a row. -/
def cutAtGap : List Char → Option (List Char × List Char)
  | ':' :: ':' :: rest => some ([], rest)
  | c :: rest => (cutAtGap rest).map fun (before, after) => (c :: before, after)
  | [] => none

/-- The parts between colons; an empty text has none. -/
def colonParts (s : List Char) : List (List Char) :=
  if s.isEmpty then [] else splitAt (· == ':') s

/-- An address of version six without a zone. -/
def v6? (s : List Char) : Option Nat :=
  match cutAtGap s with
  | none => do
    let ns ← hextets? (colonParts s)
    if ns.length == 8 then some (numberOf 65536 ns) else none
  | some (before, after) => do
    let hi ← (colonParts before).mapM hextet?
    let lo ← hextets? (colonParts after)
    let gap := 8 - hi.length - lo.length
    if gap == 0 then none
    else some (numberOf 65536 (hi ++ List.replicate gap 0 ++ lo))

/-- The length of the run of zeros at the start. -/
def zerosAt (ns : List Nat) : Nat := (ns.takeWhile (· == 0)).length

/-- The start and the length of the longest run of zeros, the first of those of
that length. -/
def longestZeros : Nat → List Nat → Nat × Nat
  | _, [] => (0, 0)
  | i, n :: rest =>
    let here := zerosAt (n :: rest)
    let (start, length) := longestZeros (i + 1) rest
    if length ≤ here then (i, here) else (start, length)

/-- Numbers in hexadecimal with colons between them. -/
def hextetsText (ns : List Nat) : String :=
  ":".intercalate (ns.map fun n => String.ofList (Nat.toDigits 16 n))

/-- The text of an address of version six: the longest run of zeros, if it is
longer than one, is left out. -/
def v6Text (n : Nat) : String :=
  let ns := (List.range 8).map fun i => n / Nat.pow 2 (16 * (7 - i)) % 65536
  let (start, length) := longestZeros 0 ns
  if length < 2 then hextetsText ns
  else hextetsText (ns.take start) ++ "::" ++ hextetsText (ns.drop (start + length))

end SigmaRules.Network
