/-
SigmaRules/Proofs/Condition/Grammar.lean

The grammar of conditions, on its own, and what its sentences mean.

    expression   ::= conjunction ("or" conjunction)*
    conjunction  ::= operand ("and" operand)*
    operand      ::= "(" expression ")" | "not" operand
                   | ("1" | "all") "of" pattern | identifier

`Derives` is the grammar.  A derivation comes with a `Formula`, which has the
meaning that the grammar gives: `Formula.value` is its truth value, and
`Formula.verdict` asks for the values of identifiers in the order of reading
and only as long as they matter.  The two agree where all identifiers answer
(`Formula.verdict_eq_value`).
-/
import SigmaRules.Condition.Parser
import SigmaRules.Fault

namespace SigmaRules.Condition

variable {table : Identifiers}

/-! ### Formulas -/

/-- What a condition says about the identifiers of a rule. -/
inductive Formula
  | identifier (name : String)
  | quantified (q : Quantifier) (pattern : Token)
  | not (φ : Formula)
  | and (φ ψ : Formula)
  | or (φ ψ : Formula)

/-- Does a pattern stand for the identifier of a name? -/
def picks (pattern : Token) (name : String) : Bool :=
  pattern == .word "them" || selects pattern.text.toList name.toList

/-- The identifiers that a pattern stands for. -/
def Identifiers.picked (table : Identifiers) (pattern : Token) : Identifiers :=
  table.filter fun i => picks pattern i.1

namespace Formula

/-- The truth value, when it is known which expressions hold. -/
def value (table : Identifiers) (holds : Expr → Bool) : Formula → Bool
  | .identifier name => (table.lookup name).any holds
  | .quantified .one p => (table.picked p).any (holds ·.2)
  | .quantified .all p => (table.picked p).all (holds ·.2)
  | .not φ => !φ.value table holds
  | .and φ ψ => φ.value table holds && ψ.value table holds
  | .or φ ψ => φ.value table holds || ψ.value table holds

/-- The expressions that the formula is about. -/
def exprs (table : Identifiers) : Formula → List Expr
  | .identifier name => (table.lookup name).toList
  | .quantified _ p => (table.picked p).map (·.2)
  | .not φ => φ.exprs table
  | .and φ ψ | .or φ ψ => φ.exprs table ++ ψ.exprs table

end Formula

/-- One verdict and, if that is positive, another. -/
def both (a b : Except Fault Bool) : Except Fault Bool := do
  match ← a with
  | true => b
  | false => return false

/-- One verdict and, if that is negative, another. -/
def either (a b : Except Fault Bool) : Except Fault Bool := do
  match ← a with
  | true => return true
  | false => b

/-- The verdict, asking for those of expressions from left to right. -/
def Formula.verdict (table : Identifiers) (ask : Expr → Except Fault Bool) :
    Formula → Except Fault Bool
  | .identifier name =>
    match table.lookup name with
    | some x => ask x
    | none => .ok false
  | .quantified .one p => ((table.picked p).map (·.2)).anyM ask
  | .quantified .all p => ((table.picked p).map (·.2)).allM ask
  | .not φ => (φ.verdict table ask).map (!·)
  | .and φ ψ => both (φ.verdict table ask) (ψ.verdict table ask)
  | .or φ ψ => either (φ.verdict table ask) (ψ.verdict table ask)

/-! ### The grammar -/

/-- The kinds of phrases of a condition. -/
inductive Phrase
  | expression
  | conjunction
  | operand

/-- The words that are no identifiers, whatever the table holds. -/
def reserved : List Token := [.opening, .word "not", .word "1", .word "all"]

/-- `Derives table k ts φ`: the tokens are a phrase of the kind, and say what the
formula says. -/
inductive Derives (table : Identifiers) : Phrase → List Token → Formula → Prop
  | conjunction {ts φ} : Derives table .conjunction ts φ → Derives table .expression ts φ
  | or {ts us φ ψ} :
      Derives table .expression ts φ → Derives table .conjunction us ψ →
      Derives table .expression (ts ++ .word "or" :: us) (.or φ ψ)
  | operand {ts φ} : Derives table .operand ts φ → Derives table .conjunction ts φ
  | and {ts us φ ψ} :
      Derives table .conjunction ts φ → Derives table .operand us ψ →
      Derives table .conjunction (ts ++ .word "and" :: us) (.and φ ψ)
  | group {ts φ} :
      Derives table .expression ts φ → Derives table .operand (.opening :: ts ++ [.closing]) φ
  | not {ts φ} : Derives table .operand ts φ → Derives table .operand (.word "not" :: ts) (.not φ)
  | quantified {p i} (q : Quantifier) :
      i ∈ table → picks p i.1 = true →
      Derives table .operand [.word q.word, .word "of", p] (.quantified q p)
  | identifier {t x} :
      t ∉ reserved → table.lookup t.text = some x →
      Derives table .operand [t] (.identifier t.text)

/-! ### Verdicts -/

theorem both_assoc (a b c : Except Fault Bool) : both (both a b) c = both a (both b c) := by
  rcases a with f | (- | -) <;> rfl

theorem either_assoc (a b c : Except Fault Bool) :
    either (either a b) c = either a (either b c) := by
  rcases a with f | (- | -) <;> rfl

@[simp] theorem both_true (a : Except Fault Bool) : both a (.ok true) = a := by
  rcases a with f | (- | -) <;> rfl

@[simp] theorem either_false (a : Except Fault Bool) : either a (.ok false) = a := by
  rcases a with f | (- | -) <;> rfl

section Lists

variable {α : Type} (ask : α → Except Fault Bool)

theorem allM_cons_eq_both (x : α) (xs : List α) :
    (x :: xs).allM ask = both (ask x) (xs.allM ask) := rfl

theorem anyM_cons_eq_either (x : α) (xs : List α) :
    (x :: xs).anyM ask = either (ask x) (xs.anyM ask) := rfl

theorem allM_append_singleton (xs : List α) (y : α) :
    (xs ++ [y]).allM ask = both (xs.allM ask) (ask y) := by
  induction xs with
  | nil => exact both_true (ask y)
  | cons x xs ih => rw [List.cons_append, allM_cons_eq_both, ih, allM_cons_eq_both, both_assoc]

theorem anyM_append_singleton (xs : List α) (y : α) :
    (xs ++ [y]).anyM ask = either (xs.anyM ask) (ask y) := by
  induction xs with
  | nil => exact either_false (ask y)
  | cons x xs ih =>
    rw [List.cons_append, anyM_cons_eq_either, ih, anyM_cons_eq_either, either_assoc]

theorem allM_eq_ok {holds : α → Bool} {xs : List α} (h : ∀ x ∈ xs, ask x = .ok (holds x)) :
    xs.allM ask = .ok (xs.all holds) := by
  induction xs with
  | nil => rfl
  | cons x xs ih =>
    rw [allM_cons_eq_both, h x (by simp), ih fun y hy => h y (by simp [hy]), List.all_cons]
    rcases holds x with - | - <;> rfl

theorem anyM_eq_ok {holds : α → Bool} {xs : List α} (h : ∀ x ∈ xs, ask x = .ok (holds x)) :
    xs.anyM ask = .ok (xs.any holds) := by
  induction xs with
  | nil => rfl
  | cons x xs ih =>
    rw [anyM_cons_eq_either, h x (by simp), ih fun y hy => h y (by simp [hy]), List.any_cons]
    rcases holds x with - | - <;> rfl

end Lists

/-- Where no expression that the formula is about fails to answer, the verdict is
the truth value. -/
theorem Formula.verdict_eq_value {ask : Expr → Except Fault Bool} {holds : Expr → Bool} :
    ∀ {φ : Formula}, (∀ x ∈ φ.exprs table, ask x = .ok (holds x)) →
      φ.verdict table ask = .ok (φ.value table holds)
  | .identifier name, h => by
    rw [verdict, value]
    rcases hx : table.lookup name with - | x
    · rfl
    · exact h x (by simp [exprs, hx])
  | .quantified .one p, h => by
    have hany := anyM_eq_ok ask h
    rwa [exprs, List.any_map] at hany
  | .quantified .all p, h => by
    have hall := allM_eq_ok ask h
    rwa [exprs, List.all_map] at hall
  | .not φ, h => by
    have ih : φ.verdict table ask = .ok (φ.value table holds) := verdict_eq_value h
    rw [verdict, value, ih]
    rfl
  | .and φ ψ, h => by
    simp only [exprs, List.mem_append] at h
    rw [verdict, value, verdict_eq_value fun x hx => h x (.inl hx),
      verdict_eq_value fun x hx => h x (.inr hx)]
    rcases φ.value table holds with - | - <;> rfl
  | .or φ ψ, h => by
    simp only [exprs, List.mem_append] at h
    rw [verdict, value, verdict_eq_value fun x hx => h x (.inl hx),
      verdict_eq_value fun x hx => h x (.inr hx)]
    rcases φ.value table holds with - | - <;> rfl

end SigmaRules.Condition
