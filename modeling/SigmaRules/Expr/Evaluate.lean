/-
SigmaRules/Expr/Evaluate.lean

Evaluating expressions.  A brief evaluation leaves a conjunction at the first
child that does not match and a disjunction at the first that does; a full
one evaluates all children.
-/
import SigmaRules.Expr.Outcome
import SigmaRules.Expr.Tally
import SigmaRules.Search.Evaluate

namespace SigmaRules

/-- How to evaluate: the entry, the values of the placeholders, and whether
children that cannot change the answer are left out. -/
structure Setting where
  entry : Entry
  placeholders : Placeholders
  brief : Bool

namespace Expr

mutual

/-- The outcome of an expression, and the tally with the work that it took. -/
def evaluate (σ : Setting) : Expr → Tally → Except Fault (Outcome × Tally)
  | .search s, t =>
    match s.succeeds σ.entry σ.placeholders with
    | .error f => .error f
    | .ok b => .ok (.search s b (s.inspected σ.entry), t.count .search)
  | .named name c, t =>
    match c.evaluate σ (t.count .named) with
    | .error f => .error f
    | .ok (o, t) => .ok (.named name o.success o, t)
  | .not c, t =>
    match c.evaluate σ (t.count .not) with
    | .error f => .error f
    | .ok (o, t) => .ok (.not (!o.success) o, t)
  | .and cs, t =>
    match evaluateAll σ false cs (t.count .and) with
    | .error f => .error f
    | .ok (os, t) => .ok (.and (os.all Outcome.success) os, t)
  | .or cs, t =>
    match evaluateAll σ true cs (t.count .or) with
    | .error f => .error f
    | .ok (os, t) => .ok (.or (os.any Outcome.success) os, t)

/-- The outcomes of expressions.  A brief evaluation ends after the first
outcome that settles the question. -/
def evaluateAll (σ : Setting) (settles : Bool) :
    List Expr → Tally → Except Fault (List Outcome × Tally)
  | [], t => .ok ([], t)
  | c :: cs, t =>
    match c.evaluate σ t with
    | .error f => .error f
    | .ok (o, t) =>
      if σ.brief && o.success == settles then .ok ([o], t)
      else
        match evaluateAll σ settles cs t with
        | .error f => .error f
        | .ok (os, t) => .ok (o :: os, t)

end

/-- Does the expression match? -/
def matchesEntry (e : Entry) (ps : Placeholders) (x : Expr) : Except Fault Bool :=
  (x.evaluate ⟨e, ps, true⟩ {}).map (·.1.success)

end Expr

end SigmaRules
