/-
SigmaRules/Report/Explanation.lean

Why an expression matches: those parts of its outcome that are enough for it.
Below an odd number of negations these are the parts that do not match.
-/
import SigmaRules.Expr.Outcome

namespace SigmaRules

/-- A part of an outcome, and how deep it stands. -/
structure Reason where
  depth : Nat
  part : Outcome
  deriving Repr

namespace Outcome

mutual

/-- The parts of an outcome that explain its success or, if failure is wanted,
its failure; none if it is not what is wanted. -/
def reasons (wanted : Bool) (depth : Nat) : Outcome → List Reason
  | .search s b v => if b == wanted then [⟨depth, .search s b v⟩] else []
  | .named n b o =>
    if b == wanted then ⟨depth, .named n b o⟩ :: reasons wanted (depth + 1) o else []
  | .not b o => if b == wanted then ⟨depth, .not b o⟩ :: reasons (!wanted) (depth + 1) o else []
  | .and b os =>
    if b == wanted then ⟨depth, .and b os⟩ :: allReasons wanted (depth + 1) os else []
  | .or b os => if b == wanted then ⟨depth, .or b os⟩ :: allReasons wanted (depth + 1) os else []

/-- The parts of outcomes that explain those of them that are what is wanted. -/
def allReasons (wanted : Bool) (depth : Nat) : List Outcome → List Reason
  | [] => []
  | o :: os => reasons wanted depth o ++ allReasons wanted depth os

end

end Outcome

end SigmaRules
