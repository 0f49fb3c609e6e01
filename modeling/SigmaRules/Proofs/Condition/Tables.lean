/-
SigmaRules/Proofs/Condition/Tables.lean

Conditions over two tables.  If tables hold the same names in the same order, for
expressions that never give different answers (`Alike`), then a condition that is read
over one is read over the other, and again as expressions that never give different
answers (`exists_parse_of_alike`).

Answers are compared only where both are there (`Consistent`), because the order in which
expressions are asked decides which fault is met.  Expressions that are consistent on every
entry concur (`Expr.Concur`); the children of a conjunction may even change places
(`Expr.Concur.and`).
-/
import SigmaRules.Proofs.Answers
import SigmaRules.Proofs.Condition.Parsing

namespace SigmaRules

/-- If there are two verdicts, they are the same. -/
def Consistent (a b : Except Fault Bool) : Prop := ∀ p q, a = .ok p → b = .ok q → p = q

namespace Consistent

open Condition

variable {a b c d : Except Fault Bool}

theorem refl (a : Except Fault Bool) : Consistent a a :=
  fun _ _ hp hq => Except.ok.inj (hp.symm.trans hq)

theorem not (h : Consistent a b) : Consistent (a.map (!·)) (b.map (!·)) := by
  rintro p q hp hq
  rcases a with f | p'
  · cases hp
  rcases b with f | q'
  · cases hq
  obtain rfl := h p' q' rfl rfl
  exact Except.ok.inj (hp.symm.trans hq)

theorem both (hab : Consistent a b) (hcd : Consistent c d) : Consistent (both a c) (both b d) := by
  intro p q hp hq
  rcases a with f | p'
  · cases hp
  rcases b with f | q'
  · cases hq
  obtain rfl := hab p' q' rfl rfl
  rcases p' with - | -
  · exact Except.ok.inj (hp.symm.trans hq)
  · exact hcd p q hp hq

theorem either (hab : Consistent a b) (hcd : Consistent c d) :
    Consistent (either a c) (either b d) := by
  intro p q hp hq
  rcases a with f | p'
  · cases hp
  rcases b with f | q'
  · cases hq
  obtain rfl := hab p' q' rfl rfl
  rcases p' with - | -
  · exact hcd p q hp hq
  · exact Except.ok.inj (hp.symm.trans hq)

section Lists

variable {α β : Type} {f : α → Except Fault Bool} {g : β → Except Fault Bool} {xs : List α}
  {ys : List β}

theorem allM (h : List.Forall₂ (fun x y => Consistent (f x) (g y)) xs ys) :
    Consistent (xs.allM f) (ys.allM g) := by
  induction h with
  | nil => exact refl _
  | cons hxy _ ih => exact hxy.both ih

theorem anyM (h : List.Forall₂ (fun x y => Consistent (f x) (g y)) xs ys) :
    Consistent (xs.anyM f) (ys.anyM g) := by
  induction h with
  | nil => exact refl _
  | cons hxy _ ih => exact hxy.either ih

end Lists

end Consistent

/-! ### Expressions -/

/-- The expressions never give different answers about an entry. -/
def Expr.Concur (x y : Expr) : Prop :=
  ∀ e ps, Consistent (x.matchesEntry e ps) (y.matchesEntry e ps)

namespace Expr.Concur

variable {x y : Expr} {xs ys : List Expr}

theorem refl (x : Expr) : x.Concur x := fun _ _ => Consistent.refl _

theorem named (h : x.Concur y) (m n : String) : (Expr.named m x).Concur (.named n y) := by
  intro e ps
  rw [matchesEntry_named, matchesEntry_named]
  exact h e ps

/-- A conjunction says that all children match, wherever they stand. -/
theorem and (h : xs.Perm ys) : (Expr.and xs).Concur (.and ys) := by
  intro e ps p q hp hq
  refine Bool.eq_iff_iff.mpr ?_
  rw [eq_true_iff_of_matchesEntry_and e ps hp, eq_true_iff_of_matchesEntry_and e ps hq]
  exact forall_congr' fun x => by rw [h.mem_iff]

theorem or (h : List.Forall₂ Concur xs ys) : (Expr.or xs).Concur (.or ys) := by
  intro e ps
  rw [matchesEntry_or, matchesEntry_or]
  exact Consistent.anyM (h.imp fun x y hxy => hxy e ps)

end Expr.Concur

/-! ### Tables -/

namespace Condition

/-- The tables have the same names in the same order, for expressions that concur. -/
def Identifiers.Alike (t u : Identifiers) : Prop :=
  List.Forall₂ (fun i j => i.1 = j.1 ∧ i.2.Concur j.2) t u

namespace Identifiers.Alike

variable {t u : Identifiers}

theorem lookup (h : t.Alike u) (name : String) :
    Option.Rel Expr.Concur (t.lookup name) (u.lookup name) := by
  induction h with
  | nil => exact .none
  | @cons i j t u hij _ ih =>
    rw [List.lookup_cons, List.lookup_cons, hij.1]
    rcases name == j.1 with - | -
    · exact ih
    · exact .some hij.2

theorem picked (h : t.Alike u) (p : Token) : (t.picked p).Alike (u.picked p) :=
  List.rel_filter (fun i j hij => by dsimp only; rw [hij.1]) h

theorem exprs (h : t.Alike u) : List.Forall₂ Expr.Concur (t.map (·.2)) (u.map (·.2)) :=
  List.forall₂_map_left_iff.mpr (List.forall₂_map_right_iff.mpr (h.imp fun _ _ hij => hij.2))

/-- The sentences over one table are sentences over the other. -/
theorem derives (h : t.Alike u) {k : Phrase} {ts : List Token} {φ : Formula}
    (hd : Derives t k ts φ) : Derives u k ts φ := by
  induction hd with
  | conjunction _ ih => exact .conjunction ih
  | or _ _ ihl ihr => exact .or ihl ihr
  | operand _ ih => exact .operand ih
  | and _ _ ihl ihr => exact .and ihl ihr
  | group _ ih => exact .group ih
  | not _ ih => exact .not ih
  | quantified q hi hp =>
    obtain ⟨j, hj, hij, -⟩ := exists_right_of_mem h hi
    exact .quantified q hj (hij ▸ hp)
  | @identifier s x hs hx =>
    have hrel := h.lookup s.text
    rw [hx] at hrel
    rcases hy : u.lookup s.text with - | y
    · rw [hy] at hrel
      cases hrel
    · exact .identifier hs hy

/-- A formula has no different verdicts over the two tables. -/
theorem verdict (h : t.Alike u) (e : Entry) (ps : Placeholders) : ∀ φ : Formula,
    Consistent (φ.verdict t (·.matchesEntry e ps)) (φ.verdict u (·.matchesEntry e ps))
  | .identifier name => by
    have hrel := h.lookup name
    rw [Formula.verdict, Formula.verdict]
    rcases hx : t.lookup name with - | x <;> rcases hy : u.lookup name with - | y <;>
      rw [hx, hy] at hrel
    · exact Consistent.refl _
    · cases hrel
    · cases hrel
    · obtain ⟨hxy⟩ := hrel
      exact hxy e ps
  | .quantified .one p => Consistent.anyM ((h.picked p).exprs.imp fun _ _ hxy => hxy e ps)
  | .quantified .all p => Consistent.allM ((h.picked p).exprs.imp fun _ _ hxy => hxy e ps)
  | .not φ => (verdict h e ps φ).not
  | .and φ ψ => (verdict h e ps φ).both (verdict h e ps ψ)
  | .or φ ψ => (verdict h e ps φ).either (verdict h e ps ψ)

end Identifiers.Alike

/-- **A condition says the same over tables that are alike.**  If it is read over one of them,
it is read over the other, as an expression that concurs. -/
theorem exists_parse_of_alike {t u : Identifiers} {condition : String} {x : Expr} (h : t.Alike u)
    (hx : parse t condition = .ok x) : ∃ y, parse u condition = .ok y ∧ x.Concur y := by
  obtain ⟨φ, hφ⟩ := derives_of_parseFrom hx rfl Level.covers_nil
  obtain ⟨x', hx', hmeans⟩ := hφ.parseTokens
  obtain ⟨y, hy, hmeans'⟩ := (h.derives hφ).parseTokens
  obtain rfl : x = x' := Except.ok.inj (hx.symm.trans hx')
  refine ⟨y, hy, fun e ps => ?_⟩
  rw [hmeans e ps, hmeans' e ps]
  exact h.verdict e ps φ

end Condition

end SigmaRules
