/-
SigmaRules/Number/Double.lean

Binary floating point numbers of 64 bits, as bit patterns.  A finite one is
a sign and `m * 2 ^ q`; rounding takes an exact number to the nearest
pattern, and of two that are as near to the even one.  All arithmetic is on
natural numbers, so a statement about a number can be checked by evaluation.
-/

namespace SigmaRules.Number

/-- A floating point number, as its bits. -/
structure Double where
  bits : UInt64
  deriving DecidableEq, Repr

/-- What a pattern stands for. -/
inductive Double.Parts
  | nan
  | infinite (neg : Bool)
  /-- The number `m * 2 ^ q`, with a sign. -/
  | finite (neg : Bool) (m : Nat) (q : Int)
  deriving DecidableEq, Repr

namespace Double

/-- The number of patterns with one sign and one exponent field. -/
def fractions : Nat := Nat.pow 2 52

/-- What the pattern stands for. -/
def parts (x : Double) : Parts :=
  let n := x.bits.toNat
  let neg := Nat.pow 2 63 ≤ n
  let e : Nat := n / fractions % 2048
  let f : Nat := n % fractions
  if e == 2047 then if f == 0 then .infinite neg else .nan
  else if e == 0 then .finite neg f (-1074)
  else .finite neg (fractions + f) ((e : Int) - 1075)

/-- The pattern with a sign, an exponent field and a fraction field. -/
def ofFields (neg : Bool) (e f : Nat) : Double :=
  ⟨UInt64.ofNat ((if neg then Nat.pow 2 63 else 0) + e * fractions + f)⟩

/-- Not a number. -/
def nan : Double := ofFields false 2047 (fractions / 2)

/-- An infinite number. -/
def infinity (neg : Bool) : Double := ofFields neg 2047 0

/-- Zero, with a sign. -/
def zero (neg : Bool) : Double := ofFields neg 0 0

/-- The quotient by a positive number, rounded to the nearest whole number, a
half to the even one. -/
def divRound (a b : Nat) : Nat :=
  let d := a / b
  let r := a % b
  if 2 * r < b then d else if b < 2 * r then d + 1 else d + d % 2

/-- The pattern nearest to `m * 2 ^ q`. -/
def ofScaled (neg : Bool) (m : Nat) (q : Int) : Double :=
  if m == 0 then zero neg
  else
    let unit := max (q + Nat.log2 m - 52) (-1074)
    let rounded :=
      if unit ≤ q then m * Nat.pow 2 (q - unit).toNat
      else divRound m (Nat.pow 2 (unit - q).toNat)
    let (f, unit) := if rounded == 2 * fractions then (fractions, unit + 1) else (rounded, unit)
    if f < fractions then ofFields neg 0 f
    else
      let e := (unit + 1075).toNat
      if 2047 ≤ e then infinity neg else ofFields neg e (f - fractions)

/-- The pattern nearest to `a / b`. -/
def ofRatio (neg : Bool) (a b : Nat) : Double :=
  let k := Nat.log2 b + 66 - Nat.log2 a
  let scaled := a * Nat.pow 2 k
  let sticky := if scaled % b == 0 then 0 else 1
  ofScaled neg (2 * (scaled / b) + sticky) (-(k : Int) - 1)

/-- The number of decimal digits of a natural number. -/
def digitCount (n : Nat) : Nat := (Nat.toDigits 10 n).length

/-- The pattern nearest to `n * 10 ^ e`. -/
def ofDecimal (neg : Bool) (n : Nat) (e : Int) : Double :=
  let top := e + digitCount n
  if n == 0 || top < -400 then zero neg
  else if 400 < top then infinity neg
  else if 0 ≤ e then ofScaled neg (n * Nat.pow 10 e.toNat) 0
  else ofRatio neg n (Nat.pow 10 (-e).toNat)

/-- The pattern nearest to a whole number. -/
def ofInt (n : Int) : Double := ofScaled (n < 0) n.natAbs 0

/-- Is the pattern a number, and not an infinite one? -/
def isFinite (x : Double) : Bool :=
  match x.parts with
  | .finite .. => true
  | _ => false

/-- The whole number that the pattern stands for, if it does. -/
def toInt? (x : Double) : Option Int :=
  match x.parts with
  | .finite neg m q =>
    let whole : Option Nat :=
      if 0 ≤ q then some (m * Nat.pow 2 q.toNat)
      else if m % Nat.pow 2 (-q).toNat == 0 then some (m / Nat.pow 2 (-q).toNat)
      else none
    whole.map fun n => if neg then -(n : Int) else n
  | _ => none

/-- Are the numbers equal?  The two zeros are, and nothing equals what is not a
number. -/
def eq (x y : Double) : Bool :=
  match x.parts, y.parts with
  | .nan, _ | _, .nan => false
  | .finite _ 0 _, .finite _ 0 _ => true
  | _, _ => x == y

/-- The opposite number. -/
def neg (x : Double) : Double := ⟨x.bits ^^^ 0x8000000000000000⟩

/-- The product with a whole number, rounded. -/
def mulNat (x : Double) (n : Nat) : Double :=
  match x.parts, (ofInt n).parts with
  | .finite s m q, .finite _ m' q' => ofScaled s (m * m') (q + q')
  | .finite _ 0 _, _ => nan
  | .nan, _ | _, .nan => nan
  | .infinite s, .finite _ m _ => if m == 0 then nan else infinity s
  | .infinite s, _ | .finite s _ _, _ => infinity s

/-- The sum, rounded. -/
def add (x y : Double) : Double :=
  match x.parts, y.parts with
  | .finite s m q, .finite t n r =>
    let low := min q r
    let a : Int := (m * Nat.pow 2 (q - low).toNat : Nat)
    let b : Int := (n * Nat.pow 2 (r - low).toNat : Nat)
    let sum := (if s then -a else a) + (if t then -b else b)
    if sum == 0 then zero (s && t) else ofScaled (sum < 0) sum.natAbs low
  | .nan, _ | _, .nan => nan
  | .infinite s, .infinite t => if s == t then infinity s else nan
  | .infinite s, _ | _, .infinite s => infinity s

end Double

end SigmaRules.Number
