/-
SigmaRules/Number/Shortest.lean

The shortest decimal that reads back as a given floating point number.  The
numbers that round to it form an interval, whose ends belong to it if the
significand is even.  For one digit, two digits and so on, the two
neighbours of the number with so many digits are tried; the first count with
a hit wins, and of two hits the nearer.

How the digits are laid out is up to a `Layout`.
-/
import SigmaRules.Number.Double

namespace SigmaRules.Number

/-- A positive decimal `0.d₁d₂… * 10 ^ point`, with its digits as a number
that does not end in zero. -/
structure Decimal where
  digits : Nat
  point : Int
  deriving DecidableEq, Repr

/-- The number without its trailing zeros. -/
def dropZeros : Nat → Nat → Nat
  | 0, n => n
  | fuel + 1, n => if n != 0 && n % 10 == 0 then dropZeros fuel (n / 10) else n

/-- The greatest `p` with `10 ^ p ≤ a / b`, for a quotient below one: the first
power, counted from `k` on, that brings it to one or more. -/
def negativePower (a b : Nat) : Nat → Nat → Nat
  | 0, k => k
  | fuel + 1, k => if b ≤ a * Nat.pow 10 k then k else negativePower a b fuel (k + 1)

/-- The greatest `p` with `10 ^ p ≤ a / b`. -/
def powerBelow (a b : Nat) : Int :=
  if b ≤ a then (Double.digitCount (a / b) : Int) - 1 else -(negativePower a b 400 1 : Int)

/-- The quotient `a / b` in units of `10 ^ e`, as numerator and denominator. -/
def inUnits (a b : Nat) (e : Int) : Nat × Nat :=
  if 0 ≤ e then (a, b * Nat.pow 10 e.toNat) else (a * Nat.pow 10 (-e).toNat, b)

/-- An interval of positive rationals with a common denominator. -/
structure Interval where
  lo : Nat
  hi : Nat
  den : Nat
  closed : Bool

/-- Is `n * 10 ^ e` in the interval? -/
def Interval.holds (i : Interval) (n : Nat) (e : Int) : Bool :=
  let (a, b) := if 0 ≤ e then (n * Nat.pow 10 e.toNat, 1) else (n, Nat.pow 10 (-e).toNat)
  let x := a * i.den
  if i.closed then i.lo * b ≤ x && x ≤ i.hi * b else i.lo * b < x && x < i.hi * b

/-- The nearest decimal with `n` digits, or with more up to `n + fuel`, that is
in the interval around `a / b`. -/
def shortestFrom (a b : Nat) (i : Interval) (power : Int) : Nat → Nat → Nat × Int
  | 0, n => (a / b, n)
  | fuel + 1, n =>
    let e := power - n + 1
    let (x, y) := inUnits a b e
    let below := x / y
    let above := below + 1
    let low := i.holds below e && below != 0
    let high := i.holds above e
    let lowNearer := 2 * (x % y) < y || (2 * (x % y) == y && below % 2 == 0)
    if low && (lowNearer || !high) then (below, e)
    else if high then (above, e)
    else shortestFrom a b i power fuel (n + 1)

/-- The shortest decimal that reads back as `m * 2 ^ q`. -/
def shortest (m : Nat) (q : Int) : Decimal :=
  -- in quarters of a unit, so that the middles to both neighbours are whole
  let scale := 4 * Nat.pow 2 q.toNat
  let den := 4 * Nat.pow 2 (-q).toNat
  let down := if m == Double.fractions && q != -1074 then 1 else 2
  let quarter := scale / 4
  let i : Interval :=
    { lo := m * scale - down * quarter, hi := m * scale + 2 * quarter, den, closed := m % 2 == 0 }
  let a := m * scale
  let (n, e) := shortestFrom a den i (powerBelow a den) 17 1
  let digits := dropZeros 20 n
  ⟨digits, e + Double.digitCount n⟩

/-! ### Layout -/

/-- How decimals are written. -/
structure Layout where
  /-- Decimals whose point is above this are written with an exponent. -/
  highest : Int
  /-- Decimals whose point is not above this are written with an exponent. -/
  lowest : Int
  /-- A positive exponent has a sign, and exponents have two digits. -/
  fullExponent : Bool
  /-- A whole number with an exponent keeps a zero after its point. -/
  zeroBeforeExponent : Bool
  nan : String
  infinity : String

/-- The text of decimal digits with the point after the first `n`. -/
def withPoint (ds : List Char) (n : Int) : String :=
  if n ≤ 0 then "0." ++ String.ofList (List.replicate (-n).toNat '0' ++ ds)
  else
    let whole := ds.take n.toNat ++ List.replicate (n.toNat - ds.length) '0'
    let part := ds.drop n.toNat
    String.ofList whole ++ "." ++ (if part.isEmpty then "0" else String.ofList part)

/-- The text of an exponent. -/
def exponentText (full : Bool) (e : Int) : String :=
  let ds := toString e.natAbs
  let ds := if full && ds.length < 2 then "0" ++ ds else ds
  "e" ++ (if e < 0 then "-" else if full then "+" else "") ++ ds

/-- The text of a decimal. -/
def Decimal.text (l : Layout) (d : Decimal) : String :=
  let ds := Nat.toDigits 10 d.digits
  if l.highest < d.point || d.point ≤ l.lowest then
    let first := String.ofList (ds.take 1)
    let more := ds.drop 1
    let part :=
      if more.isEmpty then if l.zeroBeforeExponent then ".0" else ""
      else "." ++ String.ofList more
    first ++ part ++ exponentText l.fullExponent (d.point - 1)
  else withPoint ds d.point

/-- The text of a floating point number. -/
def Double.text (l : Layout) (x : Double) : String :=
  match x.parts with
  | .nan => l.nan
  | .infinite neg => (if neg then "-" else "") ++ l.infinity
  | .finite neg m q =>
    (if neg then "-" else "") ++ (if m == 0 then "0.0" else (shortest m q).text l)

end SigmaRules.Number
