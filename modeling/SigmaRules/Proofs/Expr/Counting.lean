/-
SigmaRules/Proofs/Expr/Counting.lean

What evaluation counts.  The counters go up by the nodes of the outcome, kind by kind
(`tallied_eq`), so nothing is missed and nothing is counted twice, whichever way a node
comes to its answer.

An outcome has a node for every part of the expression that was evaluated, of the same
kind and in the same order.  A full evaluation leaves out none of them
(`kinds_outcome_full`), and a brief one only leaves some out, so that its kinds are a
sublist of those of the expression (`kinds_outcome_sublist`).
-/
import SigmaRules.Proofs.Answers
import SigmaRules.Proofs.Expr.Evaluation
import SigmaRules.Rule.Basic

namespace SigmaRules

/-! ### Kinds of nodes -/

namespace Outcome

mutual

/-- The kinds of the nodes of an outcome, that of a node before those of its children. -/
def kinds : Outcome → List Connective
  | .search .. => [.search]
  | .named _ _ o => .named :: o.kinds
  | .not _ o => .not :: o.kinds
  | .and _ os => .and :: kindsOf os
  | .or _ os => .or :: kindsOf os

/-- The kinds of the nodes of outcomes. -/
def kindsOf : List Outcome → List Connective
  | [] => []
  | o :: os => o.kinds ++ kindsOf os

end

end Outcome

namespace Expr

mutual

/-- The kinds of the nodes of an expression, that of a node before those of its children. -/
def kinds : Expr → List Connective
  | .search _ => [.search]
  | .named _ c => .named :: c.kinds
  | .not c => .not :: c.kinds
  | .and cs => .and :: kindsOf cs
  | .or cs => .or :: kindsOf cs

/-- The kinds of the nodes of expressions. -/
def kindsOf : List Expr → List Connective
  | [] => []
  | c :: cs => c.kinds ++ kindsOf cs

end

end Expr

/-! ### Counters -/

namespace Tally

theorem rules_count (t : Tally) (k : Connective) : (t.count k).rules = t.rules := by
  cases k <;> rfl

theorem nodes_count (t : Tally) (k : Connective) : (t.count k).nodes = t.nodes + 1 := by
  cases k <;> rfl

theorem get_count (t : Tally) (j k : Connective) :
    (t.count j).get k = t.get k + if j = k then 1 else 0 := by
  cases j <;> cases k <;> rfl

theorem countRule_count (t : Tally) (k : Connective) :
    t.countRule.count k = (t.count k).countRule := by
  cases k <;> rfl

/-- The tally with nodes of the given kinds counted. -/
def countAll (t : Tally) (ks : List Connective) : Tally := ks.foldl count t

theorem countAll_cons (t : Tally) (k : Connective) (ks : List Connective) :
    t.countAll (k :: ks) = (t.count k).countAll ks := rfl

theorem countAll_append (t : Tally) (js ks : List Connective) :
    t.countAll (js ++ ks) = (t.countAll js).countAll ks := List.foldl_append

theorem rules_countAll (t : Tally) (ks : List Connective) : (t.countAll ks).rules = t.rules := by
  induction ks generalizing t with
  | nil => rfl
  | cons k ks ih => rw [countAll_cons, ih, rules_count]

theorem nodes_countAll (t : Tally) (ks : List Connective) :
    (t.countAll ks).nodes = t.nodes + ks.length := by
  induction ks generalizing t with
  | nil => rfl
  | cons k ks ih =>
    rw [countAll_cons, ih, nodes_count, List.length_cons]
    omega

theorem get_countAll (t : Tally) (ks : List Connective) (k : Connective) :
    (t.countAll ks).get k = t.get k + ks.count k := by
  induction ks generalizing t with
  | nil => rfl
  | cons j ks ih =>
    rw [countAll_cons, ih, get_count, List.count_cons]
    simp only [beq_iff_eq]
    omega

theorem countRule_countAll (t : Tally) (ks : List Connective) :
    t.countRule.countAll ks = (t.countAll ks).countRule := by
  induction ks generalizing t with
  | nil => rfl
  | cons k ks ih => rw [countAll_cons, countAll_cons, countRule_count, ih]

end Tally

/-! ### Nodes are counted -/

namespace Outcome

mutual

/-- **The nodes of the outcome are counted**, each of them once. -/
theorem tallied_eq : ∀ (o : Outcome) (t : Tally), o.tallied t = t.countAll o.kinds
  | .search .., t => rfl
  | .named _ _ o, t => by rw [tallied, kinds, Tally.countAll_cons, tallied_eq o]
  | .not _ o, t => by rw [tallied, kinds, Tally.countAll_cons, tallied_eq o]
  | .and _ os, t => by rw [tallied, kinds, Tally.countAll_cons, talliedAll_eq os]
  | .or _ os, t => by rw [tallied, kinds, Tally.countAll_cons, talliedAll_eq os]

theorem talliedAll_eq : ∀ (os : List Outcome) (t : Tally),
    talliedAll os t = t.countAll (kindsOf os)
  | [], t => rfl
  | o :: os, t => by
    rw [talliedAll, kindsOf, Tally.countAll_append, tallied_eq o, talliedAll_eq os]

end

end Outcome

/-! ### Nodes of the outcome and of the expression -/

namespace Expr

variable {σ : Setting}

/-- Outcomes start with that of the first expression, and end there if it settles the question in
a brief evaluation. -/
theorem outcomes_cons_cases {settles : Bool} {c : Expr} {cs : List Expr} {os : List Outcome}
    (h : outcomes σ settles (c :: cs) = .ok os) :
    ∃ o, c.outcome σ = .ok o ∧ (σ.brief = true ∧ os = [o] ∨
      ∃ rest, outcomes σ settles cs = .ok rest ∧ os = o :: rest) := by
  rw [outcomes] at h
  rcases hc : c.outcome σ with f | o
  · simp [hc] at h
  simp only [hc] at h
  refine ⟨o, rfl, ?_⟩
  split at h
  case isTrue hstop =>
    obtain rfl := Except.ok.inj h
    exact .inl ⟨(Bool.and_eq_true_iff.mp hstop).1, rfl⟩
  case isFalse =>
    obtain ⟨rest, hrest, rfl⟩ := exists_of_map_eq_ok h
    exact .inr ⟨rest, hrest, rfl⟩

mutual

/-- An outcome has no nodes but those of the expression. -/
theorem kinds_outcome_sublist : ∀ {x : Expr} {o : Outcome},
    x.outcome σ = .ok o → o.kinds.Sublist x.kinds
  | .search s, o, h => by
    obtain ⟨b, -, rfl⟩ := exists_of_map_eq_ok h
    exact List.Sublist.refl _
  | .named name c, o, h => by
    obtain ⟨p, hp, rfl⟩ := exists_of_map_eq_ok h
    exact (kinds_outcome_sublist hp).cons_cons _
  | .not c, o, h => by
    obtain ⟨p, hp, rfl⟩ := exists_of_map_eq_ok h
    exact (kinds_outcome_sublist hp).cons_cons _
  | .and cs, o, h => by
    obtain ⟨os, hos, rfl⟩ := exists_of_map_eq_ok h
    exact (kinds_outcomes_sublist hos).cons_cons _
  | .or cs, o, h => by
    obtain ⟨os, hos, rfl⟩ := exists_of_map_eq_ok h
    exact (kinds_outcomes_sublist hos).cons_cons _

theorem kinds_outcomes_sublist : ∀ {settles : Bool} {xs : List Expr} {os : List Outcome},
    outcomes σ settles xs = .ok os → (Outcome.kindsOf os).Sublist (kindsOf xs)
  | _, [], os, h => by
    obtain rfl := Except.ok.inj h
    exact List.Sublist.refl _
  | _, c :: cs, os, h => by
    obtain ⟨o, ho, ⟨-, rfl⟩ | ⟨rest, hrest, rfl⟩⟩ := outcomes_cons_cases h
    -- the children that are not evaluated have no nodes in the outcome
    · exact (kinds_outcome_sublist ho).append (List.nil_sublist _)
    · exact (kinds_outcome_sublist ho).append (kinds_outcomes_sublist hrest)

end

mutual

/-- The outcome of a full evaluation has the nodes of the expression. -/
theorem kinds_outcome_full (hσ : σ.brief = false) : ∀ {x : Expr} {o : Outcome},
    x.outcome σ = .ok o → o.kinds = x.kinds
  | .search s, o, h => by
    obtain ⟨b, -, rfl⟩ := exists_of_map_eq_ok h
    rfl
  | .named name c, o, h => by
    obtain ⟨p, hp, rfl⟩ := exists_of_map_eq_ok h
    exact congrArg _ (kinds_outcome_full hσ hp)
  | .not c, o, h => by
    obtain ⟨p, hp, rfl⟩ := exists_of_map_eq_ok h
    exact congrArg _ (kinds_outcome_full hσ hp)
  | .and cs, o, h => by
    obtain ⟨os, hos, rfl⟩ := exists_of_map_eq_ok h
    exact congrArg _ (kinds_outcomes_full hσ hos)
  | .or cs, o, h => by
    obtain ⟨os, hos, rfl⟩ := exists_of_map_eq_ok h
    exact congrArg _ (kinds_outcomes_full hσ hos)

theorem kinds_outcomes_full (hσ : σ.brief = false) :
    ∀ {settles : Bool} {xs : List Expr} {os : List Outcome},
      outcomes σ settles xs = .ok os → Outcome.kindsOf os = kindsOf xs
  | _, [], os, h => by
    obtain rfl := Except.ok.inj h
    rfl
  | _, c :: cs, os, h => by
    obtain ⟨o, ho, ⟨hbrief, -⟩ | ⟨rest, hrest, rfl⟩⟩ := outcomes_cons_cases h
    · rw [hσ] at hbrief
      cases hbrief
    · rw [Outcome.kindsOf, kindsOf, kinds_outcome_full hσ ho, kinds_outcomes_full hσ hrest]

end

end Expr

/-! ### What evaluation counts -/

/-- **Evaluation counts the nodes of the outcome.**  An evaluation of an expression adds to the
counter of all nodes how many nodes its outcome has, to the counter of each kind how many it has of
that kind, and no rule.  Of a full evaluation these are the numbers of nodes of the expression; a
brief one never counts more than that.  The evaluation of a rule counts one rule besides. -/
theorem evaluation_counts_nodes {σ : Setting} {x : Expr} {t t' : Tally} {o : Outcome}
    (h : x.evaluate σ t = .ok (o, t')) :
    (t'.nodes = t.nodes + o.kinds.length ∧
      (∀ k, t'.get k = t.get k + o.kinds.count k) ∧ t'.rules = t.rules) ∧
    (σ.brief = false → o.kinds.length = x.kinds.length ∧
      ∀ k, o.kinds.count k = x.kinds.count k) ∧
    (σ.brief = true → o.kinds.length ≤ x.kinds.length ∧
      ∀ k, o.kinds.count k ≤ x.kinds.count k) ∧
    ∀ r : Rule, r.expr = x →
      r.evaluate σ t = .ok (o, { t' with rules := t.rules + 1 }) := by
  rw [Expr.evaluate_eq] at h
  obtain ⟨p, hp, hpt⟩ := exists_of_map_eq_ok h
  obtain ⟨rfl, ht⟩ := Prod.mk.inj hpt
  obtain rfl : t.countAll p.kinds = t' := Outcome.tallied_eq p t ▸ ht
  have hrules : (t.countAll p.kinds).rules = t.rules := Tally.rules_countAll t _
  refine ⟨⟨Tally.nodes_countAll t _, Tally.get_countAll t _, hrules⟩, fun hσ => ?_, fun _ => ?_, ?_⟩
  · rw [Expr.kinds_outcome_full hσ hp]
    exact ⟨rfl, fun _ => rfl⟩
  · have hsub := Expr.kinds_outcome_sublist hp
    exact ⟨hsub.length_le, fun k => hsub.count_le k⟩
  · rintro r rfl
    -- the rule is counted before its expression, which makes no difference
    rw [Rule.evaluate, Expr.evaluate_eq, hp, Except.map, Outcome.tallied_eq,
      Tally.countRule_countAll, Tally.countRule, hrules]

/-- The statement at a conjunction that fails at its first child, with a search that is invalid, for
it has no patterns: of its six nodes, a brief evaluation counts three. -/
theorem sample_evaluation_counts_nodes :
    let s : Search := ⟨none, [], []⟩
    let x : Expr := .and [.named "a" (.search s), .not (.search s), .or []]
    x.kinds.length = 6 ∧
    (∃ o t', x.evaluate ⟨{}, [], true⟩ {} = .ok (o, t') ∧
      t'.nodes = 3 ∧ t'.get .search = 1 ∧ t'.get .not = 0 ∧ t'.rules = 0) ∧
    ∃ o t', x.evaluate ⟨{}, [], false⟩ {} = .ok (o, t') ∧ t'.nodes = x.kinds.length := by
  intro s x
  have hbrief := evaluation_counts_nodes (x := x) (σ := ⟨{}, [], true⟩) (t := {}) rfl
  have hfull := evaluation_counts_nodes (x := x) (σ := ⟨{}, [], false⟩) (t := {}) rfl
  obtain ⟨⟨hnodes, hkinds, hrules⟩, -, -, -⟩ := hbrief
  obtain ⟨⟨hall, -, -⟩, hsame, -, -⟩ := hfull
  refine ⟨rfl, ⟨_, _, rfl, hnodes, hkinds .search, hkinds .not, hrules⟩, _, _, rfl, ?_⟩
  rw [hall, (hsame rfl).1]
  exact Nat.zero_add _

end SigmaRules
