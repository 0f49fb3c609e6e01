/-
SigmaRules/Expr/Tally.lean

Counters of the work that evaluation does.
-/
import SigmaRules.Expr.Basic

namespace SigmaRules

/-- How many rules and expressions have been evaluated, and of which kinds. -/
structure Tally where
  rules : Nat := 0
  nodes : Nat := 0
  searches : Nat := 0
  nameds : Nat := 0
  nots : Nat := 0
  ands : Nat := 0
  ors : Nat := 0
  deriving DecidableEq, Repr

namespace Tally

/-- One more rule. -/
def countRule (t : Tally) : Tally := { t with rules := t.rules + 1 }

/-- One more expression of a kind. -/
def count (t : Tally) : Connective → Tally
  | .search => { t with nodes := t.nodes + 1, searches := t.searches + 1 }
  | .named => { t with nodes := t.nodes + 1, nameds := t.nameds + 1 }
  | .not => { t with nodes := t.nodes + 1, nots := t.nots + 1 }
  | .and => { t with nodes := t.nodes + 1, ands := t.ands + 1 }
  | .or => { t with nodes := t.nodes + 1, ors := t.ors + 1 }

/-- How many expressions of a kind. -/
def get (t : Tally) : Connective → Nat
  | .search => t.searches
  | .named => t.nameds
  | .not => t.nots
  | .and => t.ands
  | .or => t.ors

/-- The counters by name. -/
def counters (t : Tally) : List (String × Nat) :=
  ("evaluate.rule", t.rules) :: ("evaluate.node", t.nodes) ::
    [Connective.search, .named, .not, .and, .or].map fun c =>
      ("evaluate.node." ++ c.word, t.get c)

end Tally

end SigmaRules
