/-
SigmaRules/Expr/Outcome.lean

What evaluating an expression gives: not only whether it matches but the
outcomes of the parts that were evaluated, so that a report can show why.
-/
import SigmaRules.Expr.Basic

namespace SigmaRules

/-- The outcome of an expression, with those of the children that were
evaluated.  A search comes with the text that it inspected. -/
inductive Outcome
  | search (s : Search) (success : Bool) (value : String)
  | named (name : String) (success : Bool) (child : Outcome)
  | not (success : Bool) (child : Outcome)
  | and (success : Bool) (children : List Outcome)
  | or (success : Bool) (children : List Outcome)
  deriving Repr

namespace Outcome

/-- Does the expression match? -/
def success : Outcome → Bool
  | .search _ b _ | .named _ b _ | .not b _ | .and b _ | .or b _ => b

/-- What the expression is. -/
def connective : Outcome → Connective
  | .search .. => .search
  | .named .. => .named
  | .not .. => .not
  | .and .. => .and
  | .or .. => .or

/-- The outcomes of the children. -/
def children : Outcome → List Outcome
  | .search .. => []
  | .named _ _ o | .not _ o => [o]
  | .and _ os | .or _ os => os

end Outcome

end SigmaRules
