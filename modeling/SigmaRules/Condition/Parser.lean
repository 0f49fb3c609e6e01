/-
SigmaRules/Condition/Parser.lean

Conditions, read as expressions over the search identifiers of a rule:

    expr   := conj ("or" conj)*
    conj   := unary ("and" unary)*
    unary  := "(" expr ")" | "not" unary | ("1" | "all") "of" pattern | identifier

The tokens are read from left to right.  A `Level` holds what is pending
between an open parenthesis and the place of reading; as `not` binds tighter
than `and`, and `and` tighter than `or`, that is at most the left side of an
`or`, then at most the left side of an `and`, then a number of `not`s.
Conjunctions and disjunctions take up further children on their right.
-/
import SigmaRules.Condition.Token
import SigmaRules.Expr.Basic

namespace SigmaRules.Condition

/-! ### Patterns of identifiers -/

/-- What can remain of a text after a run of characters other than line feeds. -/
def afterRuns : List Char → List (List Char)
  | [] => [[]]
  | c :: cs => (c :: cs) :: if c == '\n' then [] else afterRuns cs

/-- Does the pattern match the whole name?  A star stands for any run of
characters other than line feeds; all other characters stand for themselves. -/
def selects : List Char → List Char → Bool
  | [], name => name.isEmpty
  | p :: ps, name =>
    if p == '*' then (afterRuns name).any (selects ps)
    else
      match name with
      | [] => false
      | c :: cs => p == c && selects ps cs

/-! ### Problems -/

/-- What is wrong with a condition. -/
inductive Problem
  /-- The condition ends where an operand should be. -/
  | ended
  /-- A token follows the whole expression. -/
  | unexpected (token : String)
  /-- A parenthesis is not closed. -/
  | unclosed
  /-- A word is no identifier of the rule. -/
  | unknown (name : String)
  /-- A quantifier stands without its `of`. -/
  | withoutOf (quantifier : String)
  /-- A quantifier stands without its pattern. -/
  | withoutPattern (quantifier : String)
  /-- A pattern selects no identifier. -/
  | selectsNothing (quantifier pattern : String)
  /-- Matches are to be counted or otherwise combined. -/
  | aggregation
  deriving DecidableEq, Repr

/-- The message about aggregations. -/
def aggregationMessage : String := "aggregation expressions not supported"

/-- What is wrong, in words. -/
def Problem.message : Problem → String
  | .ended => "unexpected end of condition"
  | .unexpected t => "unexpected \"" ++ t ++ "\""
  | .unclosed => "missing \x27)\x27"
  | .unknown name => "unknown search identifier " ++ name
  | .withoutOf q => "expected \"of\" after \"" ++ q ++ "\""
  | .withoutPattern q => "expected word after \"" ++ q ++ " of\""
  | .selectsNothing q p => q ++ " of " ++ p ++ " did not match any identifiers"
  | .aggregation => aggregationMessage

/-- The search identifiers of a rule with their expressions, in order. -/
abbrev Identifiers := List (String × Expr)

/-- The identifiers with one more, in the place of the one of that name or at
the end. -/
def Identifiers.put : Identifiers → String → Expr → Identifiers
  | [], name, x => [(name, x)]
  | i :: rest, name, x =>
    if i.1 == name then (name, x) :: rest else i :: Identifiers.put rest name x

/-- The words before `of`. -/
inductive Quantifier
  | one
  | all
  deriving DecidableEq, Repr

/-- The word of a quantifier. -/
def Quantifier.word : Quantifier → String
  | .one => "1"
  | .all => "all"

/-- Expressions under a quantifier; a single one stands for itself. -/
def Quantifier.join : Quantifier → List Expr → Expr
  | _, [x] => x
  | .one, xs => .or xs
  | .all, xs => .and xs

/-- The expressions of the identifiers that a pattern selects. -/
def candidates (table : Identifiers) (pattern : Token) : List Expr :=
  if pattern = .word "them" then table.map (·.2)
  else (table.filter fun i => selects pattern.text.toList i.1.toList).map (·.2)

/-- The expression of a quantifier and a pattern. -/
def quantified (table : Identifiers) (q : Quantifier) (pattern : Token) : Except Problem Expr :=
  match candidates table pattern with
  | [] => .error (.selectsNothing q.word pattern.text)
  | xs => .ok (q.join xs)

/-- The conjunction with one more child. -/
def conjoin : Expr → Expr → Expr
  | .and cs, x => .and (cs ++ [x])
  | l, x => .and [l, x]

/-- The disjunction with one more child. -/
def disjoin : Expr → Expr → Expr
  | .or cs, x => .or (cs ++ [x])
  | l, x => .or [l, x]

/-- An expression under a number of negations. -/
def negate : Nat → Expr → Expr
  | 0, x => x
  | n + 1, x => negate n (.not x)

/-- What is pending since a parenthesis was opened. -/
structure Level where
  disjunct : Option Expr := none
  conjunct : Option Expr := none
  negations : Nat := 0
  deriving DecidableEq, Repr

namespace Level

/-- The conjunction up to an operand that has been read. -/
def conjunction (l : Level) (x : Expr) : Expr :=
  let x := negate l.negations x
  match l.conjunct with
  | some y => conjoin y x
  | none => x

/-- The disjunction up to a conjunction that has been read. -/
def disjunction (l : Level) (x : Expr) : Expr :=
  match l.disjunct with
  | some y => disjoin y x
  | none => x

end Level

/-- What comes next in a condition. -/
inductive Expected
  /-- An operand of the innermost level. -/
  | operand (level : Level)
  /-- The `of` after a quantifier. -/
  | ofWord (level : Level) (q : Quantifier)
  /-- The pattern after a quantifier. -/
  | pattern (level : Level) (q : Quantifier)
  /-- An operator after a conjunction, or the end of the level, whose left side of
  an `or` is given. -/
  | operator (disjunct : Option Expr) (x : Expr)
  deriving DecidableEq, Repr

/-- The state after an operand. -/
def Expected.afterOperand (l : Level) (x : Expr) : Expected :=
  .operator l.disjunct (l.conjunction x)

/-- Reads tokens from a state on; `outer` are the levels around the innermost. -/
def parseFrom (table : Identifiers) : Expected → List Level → List Token → Except Problem Expr
  | .operand _, _, [] => .error .ended
  | .ofWord _ q, _, [] => .error (.withoutOf q.word)
  | .pattern _ q, _, [] => .error (.withoutPattern q.word)
  | .operator d x, [], [] => .ok (Level.disjunction ⟨d, none, 0⟩ x)
  | .operator .., _ :: _, [] => .error .unclosed
  | .operand l, outer, t :: ts =>
    if t = .opening then parseFrom table (.operand {}) (l :: outer) ts
    else if t = .word "not" then
      parseFrom table (.operand { l with negations := l.negations + 1 }) outer ts
    else if t = .word Quantifier.one.word then parseFrom table (.ofWord l .one) outer ts
    else if t = .word Quantifier.all.word then parseFrom table (.ofWord l .all) outer ts
    else
      match table.lookup t.text with
      | some x => parseFrom table (.afterOperand l x) outer ts
      | none => .error (.unknown t.text)
  | .ofWord l q, outer, t :: ts =>
    if t = .word "of" then parseFrom table (.pattern l q) outer ts
    else .error (.withoutOf q.word)
  | .pattern l q, outer, t :: ts =>
    match quantified table q t with
    | .ok x => parseFrom table (.afterOperand l x) outer ts
    | .error p => .error p
  | .operator d x, outer, t :: ts =>
    if t = .bar then .error .aggregation
    else if t = .word "and" then parseFrom table (.operand ⟨d, some x, 0⟩) outer ts
    else if t = .word "or" then
      parseFrom table (.operand ⟨some (Level.disjunction ⟨d, none, 0⟩ x), none, 0⟩) outer ts
    else
      match outer with
      | [] => .error (.unexpected t.text)
      | l :: outer =>
        if t = .closing then
          parseFrom table (.afterOperand l (Level.disjunction ⟨d, none, 0⟩ x)) outer ts
        else .error .unclosed

/-- The expression of the tokens of a condition. -/
def parseTokens (table : Identifiers) (ts : List Token) : Except Problem Expr :=
  parseFrom table (.operand {}) [] ts

/-- The expression of a condition. -/
def parse (table : Identifiers) (condition : String) : Except Problem Expr :=
  parseTokens table (tokens condition.toList)

end SigmaRules.Condition
