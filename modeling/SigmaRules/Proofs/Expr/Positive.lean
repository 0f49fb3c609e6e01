/-
SigmaRules/Proofs/Expr/Positive.lean

Expressions without negations.  If the searches of such an expression match whenever they
did, with other values of placeholders, so does the expression (`answer_ne_false`): its
children can only gain matches, and neither a conjunction nor a disjunction turns a gain
into a loss.

A search that has no answer stops the evaluation, so what is proved is that there is no
other answer, and apart from it, that there is one (`exists_answer`).
-/
import SigmaRules.Proofs.Expr.Brief

namespace SigmaRules.Expr

mutual

/-- No part of the expression is negated. -/
def isPositive : Expr → Bool
  | .search _ => true
  | .named _ c => c.isPositive
  | .not _ => false
  | .and cs | .or cs => arePositive cs

/-- No part of the expressions is negated. -/
def arePositive : List Expr → Bool
  | [] => true
  | c :: cs => c.isPositive && arePositive cs

end

/-- Does the expression match, in a brief evaluation or in a full one? -/
def answer (σ : Setting) (x : Expr) : Except Fault Bool := (x.evaluate σ {}).map (·.1.success)

variable {e : Entry} {ps qs : Placeholders}

/-! ### Brief evaluations -/

theorem matchesEntry_and_ne_false {xs : List Expr} (h : ∀ x ∈ xs, x.matchesEntry e ps ≠ .ok false) :
    (Expr.and xs).matchesEntry e ps ≠ .ok false := by
  rw [matchesEntry_and]
  induction xs with
  | nil => simp [pure, Except.pure]
  | cons x xs ih =>
    obtain ⟨hx, hxs⟩ := List.forall_mem_cons.mp h
    rw [List.allM]
    rcases hb : x.matchesEntry e ps with f | - | -
    · simp [bind, Except.bind]
    · exact absurd hb hx
    · exact ih hxs

theorem matchesEntry_or_ne_false {xs : List Expr} {x : Expr} (hx : x ∈ xs)
    (h : x.matchesEntry e ps ≠ .ok false) : (Expr.or xs).matchesEntry e ps ≠ .ok false := by
  rw [matchesEntry_or]
  induction xs with
  | nil => cases hx
  | cons y ys ih =>
    rw [List.anyM]
    rcases hb : y.matchesEntry e ps with f | - | -
    · simp [bind, Except.bind]
    · rcases List.mem_cons.mp hx with rfl | hx
      · exact absurd hb h
      · exact ih hx
    · simp [bind, Except.bind, pure, Except.pure]

mutual

/-- If its searches lose no match, nor does an expression without negations. -/
theorem matchesEntry_ne_false : ∀ {x : Expr}, x.isPositive = true →
    (∀ s ∈ x.searches, s.succeeds e ps = .ok true → s.succeeds e qs = .ok true) →
      x.matchesEntry e ps = .ok true → x.matchesEntry e qs ≠ .ok false
  | .search s, _, hs, h => by
    rw [matchesEntry_search] at h ⊢
    rw [hs s (by simp [searches]) h]
    simp
  | .named name c, hx, hs, h => by
    rw [isPositive] at hx
    rw [matchesEntry_named] at h ⊢
    exact matchesEntry_ne_false hx hs h
  | .not c, hx, _, _ => by cases hx
  | .and cs, hx, hs, h => by
    rw [isPositive] at hx
    have hall := (eq_true_iff_of_matchesEntry_and e ps h).mp rfl
    exact matchesEntry_and_ne_false fun c hc => forall_matchesEntry_ne_false hx hs c hc (hall c hc)
  | .or cs, hx, hs, h => by
    rw [isPositive] at hx
    obtain ⟨c, hc, hmatch⟩ := (eq_true_iff_of_matchesEntry_or e ps h).mp rfl
    exact matchesEntry_or_ne_false hc (forall_matchesEntry_ne_false hx hs c hc hmatch)

theorem forall_matchesEntry_ne_false : ∀ {xs : List Expr}, arePositive xs = true →
    (∀ s ∈ searchesOf xs, s.succeeds e ps = .ok true → s.succeeds e qs = .ok true) →
      ∀ x ∈ xs, x.matchesEntry e ps = .ok true → x.matchesEntry e qs ≠ .ok false
  | [], _, _ => by simp
  | c :: cs, hx, hs => by
    obtain ⟨hc, hcs⟩ := Bool.and_eq_true_iff.mp hx
    simp only [searchesOf, List.mem_append] at hs
    exact List.forall_mem_cons.mpr ⟨matchesEntry_ne_false hc fun s h => hs s (.inl h),
      forall_matchesEntry_ne_false hcs fun s h => hs s (.inr h)⟩

end

/-! ### Answers -/

theorem answer_eq (σ : Setting) (x : Expr) : x.answer σ = (x.outcome σ).map Outcome.success := by
  rw [answer, evaluate_eq]
  rcases x.outcome σ with f | o <;> rfl

/-- The answer of a full evaluation is that of a brief one. -/
theorem matchesEntry_of_answer {x : Expr} {brief b : Bool}
    (h : x.answer ⟨e, ps, brief⟩ = .ok b) : x.matchesEntry e ps = .ok b := by
  rcases brief with - | -
  · rw [answer_eq] at h
    obtain ⟨o, ho, rfl⟩ := exists_of_map_eq_ok h
    rw [matchesEntry_eq, outcome_brief ho, Except.map, Outcome.success_pruned]
  · exact h

/-- **If its searches lose no match**, an expression without negations that has matched does not
give the other answer. -/
theorem answer_ne_false {x : Expr} (hx : x.isPositive = true)
    (hs : ∀ s ∈ x.searches, s.succeeds e ps = .ok true → s.succeeds e qs = .ok true)
    {brief : Bool} (h : x.answer ⟨e, ps, brief⟩ = .ok true) :
    x.answer ⟨e, qs, brief⟩ ≠ .ok false := fun hfalse =>
  matchesEntry_ne_false hx hs (matchesEntry_of_answer h) (matchesEntry_of_answer hfalse)

/-- Both evaluations have an answer if all searches have one. -/
theorem exists_answer {x : Expr} (h : ∀ s ∈ x.searches, ∃ b, s.succeeds e ps = .ok b)
    (brief : Bool) : ∃ b, x.answer ⟨e, ps, brief⟩ = .ok b := by
  obtain ⟨o, ho⟩ := exists_outcome x h
  rcases brief with - | -
  · exact ⟨_, by rw [answer_eq, ho]; rfl⟩
  · exact ⟨_, by rw [answer_eq, outcome_brief ho]; rfl⟩

mutual

/-- A full evaluation asks all searches, so if it gives an outcome, each of them has an answer. -/
theorem exists_succeeds_of_outcome : ∀ {x : Expr} {o : Outcome},
    x.outcome ⟨e, ps, false⟩ = .ok o → ∀ s ∈ x.searches, ∃ b, s.succeeds e ps = .ok b
  | .search s, o, h => by
    rw [outcome] at h
    obtain ⟨b, hb, -⟩ := exists_of_map_eq_ok h
    rw [searches, List.forall_mem_singleton]
    exact ⟨b, hb⟩
  | .named name c, o, h => by
    rw [outcome] at h
    obtain ⟨p, hp, -⟩ := exists_of_map_eq_ok h
    rw [searches]
    exact exists_succeeds_of_outcome hp
  | .not c, o, h => by
    rw [outcome] at h
    obtain ⟨p, hp, -⟩ := exists_of_map_eq_ok h
    rw [searches]
    exact exists_succeeds_of_outcome hp
  | .and cs, o, h => by
    rw [outcome] at h
    obtain ⟨os, hos, -⟩ := exists_of_map_eq_ok h
    exact exists_succeeds_of_outcomes hos
  | .or cs, o, h => by
    rw [outcome] at h
    obtain ⟨os, hos, -⟩ := exists_of_map_eq_ok h
    exact exists_succeeds_of_outcomes hos

theorem exists_succeeds_of_outcomes : ∀ {settles : Bool} {xs : List Expr} {os : List Outcome},
    outcomes ⟨e, ps, false⟩ settles xs = .ok os →
      ∀ s ∈ searchesOf xs, ∃ b, s.succeeds e ps = .ok b
  | settles, [], os, h => by simp [searchesOf]
  | settles, c :: cs, os, h => by
    rw [outcomes] at h
    rcases hc : c.outcome ⟨e, ps, false⟩ with f | o
    · simp [hc] at h
    have hrest : (outcomes ⟨e, ps, false⟩ settles cs).map (o :: ·) = .ok os := by
      simpa only [hc, Bool.false_and, Bool.false_eq_true, if_false] using h
    obtain ⟨os', hcs, -⟩ := exists_of_map_eq_ok hrest
    rw [searchesOf, List.forall_mem_append]
    exact ⟨exists_succeeds_of_outcome hc, exists_succeeds_of_outcomes hcs⟩

end

end SigmaRules.Expr
