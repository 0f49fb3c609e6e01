/-
SigmaRules/Expr/Basic.lean

Expressions over searches: what the condition of a rule stands for.  The
expression of a search identifier carries the identifier's name, which says
nothing about what it matches.
-/
import SigmaRules.Search.Basic

namespace SigmaRules

/-- An expression over searches. -/
inductive Expr
  | search (s : Search)
  | named (name : String) (child : Expr)
  | not (child : Expr)
  | and (children : List Expr)
  | or (children : List Expr)
  deriving Repr

/-- The kinds of expressions. -/
inductive Connective
  | search
  | named
  | not
  | and
  | or
  deriving DecidableEq, Repr

/-- The word for a kind of expressions. -/
def Connective.word : Connective → String
  | .search => "search"
  | .named => "named"
  | .not => "not"
  | .and => "and"
  | .or => "or"

namespace Expr

/-- What the expression is. -/
def connective : Expr → Connective
  | .search _ => .search
  | .named .. => .named
  | .not _ => .not
  | .and _ => .and
  | .or _ => .or

/-- Texts as the arguments of a function. -/
def applied (f : String) (args : List String) : String :=
  f ++ "(" ++ ", ".intercalate args ++ ")"

mutual

/-- The text of an expression, such as `and(a(search('x')), not(b(search('y'))))`. -/
def text : Expr → String
  | .search s => s.text
  | .named name c => applied name [c.text]
  | .not c => applied Connective.not.word [c.text]
  | .and cs => applied Connective.and.word (texts cs)
  | .or cs => applied Connective.or.word (texts cs)

/-- The texts of expressions. -/
def texts : List Expr → List String
  | [] => []
  | c :: cs => c.text :: texts cs

end

mutual

/-- Are two expressions the same? -/
def same : Expr → Expr → Bool
  | .search a, .search b => a == b
  | .named m a, .named n b => m == n && a.same b
  | .not a, .not b => a.same b
  | .and as, .and bs => sameAll as bs
  | .or as, .or bs => sameAll as bs
  | _, _ => false

/-- Are expressions the same, one by one? -/
def sameAll : List Expr → List Expr → Bool
  | [], [] => true
  | a :: as, b :: bs => a.same b && sameAll as bs
  | _, _ => false

end

mutual

theorem eq_of_same : ∀ {a b : Expr}, a.same b = true → a = b
  | .search a, b, h => by cases b <;> simp_all [same]
  | .named m a, b, h => by
    cases b <;> simp only [same, Bool.and_eq_true, beq_iff_eq, Bool.false_eq_true] at h
    rw [h.1, eq_of_same h.2]
  | .not a, b, h => by
    cases b <;> simp only [same, Bool.false_eq_true] at h
    rw [eq_of_same h]
  | .and as, b, h => by
    cases b <;> simp only [same, Bool.false_eq_true] at h
    rw [eq_of_sameAll h]
  | .or as, b, h => by
    cases b <;> simp only [same, Bool.false_eq_true] at h
    rw [eq_of_sameAll h]

theorem eq_of_sameAll : ∀ {as bs : List Expr}, sameAll as bs = true → as = bs
  | [], bs, h => by cases bs <;> simp_all [sameAll]
  | a :: as, bs, h => by
    cases bs <;> simp only [sameAll, Bool.and_eq_true, Bool.false_eq_true] at h
    rw [eq_of_same h.1, eq_of_sameAll h.2]

end

mutual

theorem same_refl : ∀ a : Expr, a.same a = true
  | .search a => by simp [same]
  | .named m a => by simp [same, same_refl a]
  | .not a => by simp [same, same_refl a]
  | .and as => by simp [same, sameAll_refl as]
  | .or as => by simp [same, sameAll_refl as]

theorem sameAll_refl : ∀ as : List Expr, sameAll as as = true
  | [] => by simp [sameAll]
  | a :: as => by simp [sameAll, same_refl a, sameAll_refl as]

end

instance : DecidableEq Expr := fun a b =>
  if h : a.same b = true then isTrue (eq_of_same h)
  else isFalse fun e => h (e ▸ same_refl a)

end Expr

end SigmaRules
