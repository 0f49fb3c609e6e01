/-
SigmaRules/Text/Ranges.lean

Sets of code points, written as increasing lists of closed ranges.  The
tables of character properties in this folder are values of this type;
membership walks the list and stops at the first range that starts above
the code point asked for.
-/

namespace SigmaRules.Text

/-- A set of code points: closed ranges, disjoint and increasing. -/
abbrev Ranges := List (Nat × Nat)

/-- Does the code point lie in one of the ranges? -/
def Ranges.contains : Ranges → Nat → Bool
  | [], _ => false
  | (lo, hi) :: rest, c =>
    if c < lo then false else if c ≤ hi then true else contains rest c

@[simp] theorem Ranges.contains_nil (c : Nat) : Ranges.contains [] c = false := rfl

end SigmaRules.Text
