/-
SigmaRules/Proofs/Expr/Brief.lean

Brief and full evaluation agree.  A brief evaluation gives the full outcome,
pruned: at every conjunction that is kept, the children after the first one
that fails are removed, and at every disjunction those after the first one
that succeeds (`Outcome.pruned`).  All else about the nodes that are kept stays
as it is, their success in particular.

The proof goes by induction on the expression, for expressions and for lists
of children at once: what `outcomes` gives for a list is, in a brief
evaluation, the pruned outcomes up to the one that settles the question
(`outcomes_brief`), and to leave out the others does not change the answer of
the node above (`all_upTo`, `any_upTo`).

A rule is matched by a brief evaluation and explained by a full one, so an
explanation always shows a match.
-/
import SigmaRules.Matching
import SigmaRules.Proofs.Answers
import SigmaRules.Proofs.Expr.Evaluation

namespace SigmaRules

/-! ### Pruning -/

namespace Outcome

/-- The outcomes up to the first one with the given success, which is the last one
to be kept. -/
def upTo (settles : Bool) : List Outcome → List Outcome
  | [] => []
  | o :: os => if o.success == settles then [o] else o :: upTo settles os

mutual

/-- The outcome without the children that come after an answer is settled. -/
def pruned : Outcome → Outcome
  | .search s b value => .search s b value
  | .named name b o => .named name b o.pruned
  | .not b o => .not b o.pruned
  | .and b os => .and b (upTo false (prunedAll os))
  | .or b os => .or b (upTo true (prunedAll os))

/-- The outcomes, each of them pruned. -/
def prunedAll : List Outcome → List Outcome
  | [] => []
  | o :: os => o.pruned :: prunedAll os

end

@[simp] theorem success_pruned (o : Outcome) : o.pruned.success = o.success := by
  cases o <;> rfl

theorem all_upTo (os : List Outcome) : (upTo false os).all success = os.all success := by
  induction os with
  | nil => rfl
  | cons o os ih =>
    rcases h : o.success with - | -
    · simp [upTo, h]
    · simp [upTo, h, ih]

theorem any_upTo (os : List Outcome) : (upTo true os).any success = os.any success := by
  induction os with
  | nil => rfl
  | cons o os ih =>
    rcases h : o.success with - | -
    · simp [upTo, h, ih]
    · simp [upTo, h]

theorem all_prunedAll (os : List Outcome) : (prunedAll os).all success = os.all success := by
  induction os with
  | nil => rfl
  | cons o os ih => rw [prunedAll, List.all_cons, List.all_cons, success_pruned, ih]

theorem any_prunedAll (os : List Outcome) : (prunedAll os).any success = os.any success := by
  induction os with
  | nil => rfl
  | cons o os ih => rw [prunedAll, List.any_cons, List.any_cons, success_pruned, ih]

end Outcome

/-! ### Brief evaluation prunes -/

namespace Expr

variable {e : Entry} {ps : Placeholders}

mutual

theorem outcome_brief : ∀ {x : Expr} {o : Outcome},
    x.outcome ⟨e, ps, false⟩ = .ok o → x.outcome ⟨e, ps, true⟩ = .ok o.pruned
  | .search s, o, h => by
    rw [outcome] at h ⊢
    obtain ⟨b, hb, rfl⟩ := exists_of_map_eq_ok h
    rw [hb, Except.map, Outcome.pruned]
  | .named name c, o, h => by
    rw [outcome] at h ⊢
    obtain ⟨p, hp, rfl⟩ := exists_of_map_eq_ok h
    rw [outcome_brief hp, Except.map, Outcome.pruned, Outcome.success_pruned]
  | .not c, o, h => by
    rw [outcome] at h ⊢
    obtain ⟨p, hp, rfl⟩ := exists_of_map_eq_ok h
    rw [outcome_brief hp, Except.map, Outcome.pruned, Outcome.success_pruned]
  | .and cs, o, h => by
    rw [outcome] at h ⊢
    obtain ⟨os, hos, rfl⟩ := exists_of_map_eq_ok h
    rw [outcomes_brief hos, Except.map, Outcome.pruned, Outcome.all_upTo, Outcome.all_prunedAll]
  | .or cs, o, h => by
    rw [outcome] at h ⊢
    obtain ⟨os, hos, rfl⟩ := exists_of_map_eq_ok h
    rw [outcomes_brief hos, Except.map, Outcome.pruned, Outcome.any_upTo, Outcome.any_prunedAll]

theorem outcomes_brief : ∀ {settles : Bool} {xs : List Expr} {os : List Outcome},
    outcomes ⟨e, ps, false⟩ settles xs = .ok os →
      outcomes ⟨e, ps, true⟩ settles xs = .ok (Outcome.upTo settles (Outcome.prunedAll os))
  | settles, [], os, h => by
    obtain rfl : [] = os := Except.ok.inj h
    rfl
  | settles, c :: cs, os, h => by
    rw [outcomes] at h
    rcases hc : c.outcome ⟨e, ps, false⟩ with f | o
    · simp [hc] at h
    · have hrest : (outcomes ⟨e, ps, false⟩ settles cs).map (o :: ·) = .ok os := by
        simpa only [hc, Bool.false_and, Bool.false_eq_true, if_false] using h
      obtain ⟨os', hcs, rfl⟩ := exists_of_map_eq_ok hrest
      -- pruning keeps the success, so both stop at the same child
      rw [outcomes, outcome_brief hc, outcomes_brief hcs, Outcome.prunedAll, Outcome.upTo]
      simp only [Bool.true_and, Except.map]
      split <;> rfl

end

/-! ### Leaves -/

mutual

/-- The searches of an expression. -/
def searches : Expr → List Search
  | .search s => [s]
  | .named _ c | .not c => c.searches
  | .and cs | .or cs => searchesOf cs

/-- The searches of expressions. -/
def searchesOf : List Expr → List Search
  | [] => []
  | c :: cs => c.searches ++ searchesOf cs

end

mutual

/-- A full evaluation gives an outcome if all searches answer. -/
theorem exists_outcome : ∀ x : Expr, (∀ s ∈ x.searches, ∃ b, s.succeeds e ps = .ok b) →
    ∃ o, x.outcome ⟨e, ps, false⟩ = .ok o
  | .search s, h => by
    obtain ⟨b, hb⟩ := h s (by simp [searches])
    exact ⟨_, by rw [outcome, hb]; rfl⟩
  | .named name c, h => by
    obtain ⟨o, ho⟩ := exists_outcome c h
    exact ⟨_, by rw [outcome, ho]; rfl⟩
  | .not c, h => by
    obtain ⟨o, ho⟩ := exists_outcome c h
    exact ⟨_, by rw [outcome, ho]; rfl⟩
  | .and cs, h => by
    obtain ⟨os, hos⟩ := exists_outcomes false cs h
    exact ⟨_, by rw [outcome, hos]; rfl⟩
  | .or cs, h => by
    obtain ⟨os, hos⟩ := exists_outcomes true cs h
    exact ⟨_, by rw [outcome, hos]; rfl⟩

theorem exists_outcomes (settles : Bool) : ∀ xs : List Expr,
    (∀ s ∈ searchesOf xs, ∃ b, s.succeeds e ps = .ok b) →
      ∃ os, outcomes ⟨e, ps, false⟩ settles xs = .ok os
  | [], _ => ⟨[], rfl⟩
  | c :: cs, h => by
    simp only [searchesOf, List.mem_append] at h
    obtain ⟨o, ho⟩ := exists_outcome c fun s hs => h s (.inl hs)
    obtain ⟨os, hos⟩ := exists_outcomes settles cs fun s hs => h s (.inr hs)
    refine ⟨o :: os, ?_⟩
    simp only [outcomes, ho, hos, Bool.false_and, Bool.false_eq_true, if_false, Except.map]

end

end Expr

/-! ### Matches are explained -/

/-- The full outcome of a rule has the success that a brief evaluation finds. -/
theorem Rule.success_of_explain {r : Rule} {e : Entry} {ps : Placeholders} {o : Outcome}
    (h : r.explain e ps = .ok o) : r.matchesEntry e ps = .ok o.success := by
  obtain ⟨⟨o, t⟩, hx, rfl⟩ := exists_of_map_eq_ok h
  rw [evaluate, Expr.evaluate_eq] at hx
  obtain ⟨p, hp, hpt⟩ := exists_of_map_eq_ok hx
  obtain rfl : p = o := congrArg Prod.fst hpt
  rw [matchesEntry, Expr.matchesEntry_eq, Expr.outcome_brief hp, Except.map,
    Outcome.success_pruned]

/-- The full outcome of a rule that accepts an entry is a success. -/
theorem Rule.explain_success {r : Rule} {e : Entry} {ps : Placeholders} {origin : Origin}
    {o : Outcome} (ha : r.accepts origin e ps = .ok true) (h : r.explain e ps = .ok o) :
    o.success = true := by
  rw [accepts] at ha
  split at ha
  · exact Except.ok.inj ((success_of_explain h).symm.trans ha)
  · simp at ha

namespace Matching

variable {origin : Origin} {e : Entry} {ps : Placeholders}

theorem outcomes_cons (r : Rule) (rs : List Rule) (b : Bool) (bs : List Bool) :
    outcomes e ps (r :: rs) (b :: bs)
      = (if b then (r.explain e ps).map some else .ok none) >>= fun x =>
          (outcomes e ps rs bs).map (x :: ·) := by
  rcases b with - | - <;> rfl

theorem success_of_mem_outcomes {rs : List Rule} {bs : List Bool} {xs : List (Option Outcome)}
    (hb : verdicts origin e ps rs = .ok bs) (hx : outcomes e ps rs bs = .ok xs) :
    ∀ o, some o ∈ xs → o.success = true := by
  induction rs generalizing bs xs with
  | nil =>
    obtain rfl : [] = xs := Except.ok.inj hx
    simp
  | cons r rs ih =>
    rw [verdicts] at hb
    obtain ⟨b, hr, hb⟩ := exists_of_bind_eq_ok hb
    obtain ⟨bs', hrs, hb⟩ := exists_of_bind_eq_ok hb
    obtain rfl : b :: bs' = bs := Except.ok.inj hb
    rw [outcomes_cons] at hx
    obtain ⟨y, hy, hx⟩ := exists_of_bind_eq_ok hx
    obtain ⟨ys, hys, rfl⟩ := exists_of_map_eq_ok hx
    intro o hm
    rcases List.mem_cons.mp hm with rfl | hm
    -- only an accepted rule has an outcome
    · rcases b with - | -
      · cases hy
      · obtain ⟨p, hp, hpo⟩ := exists_of_map_eq_ok hy
        obtain rfl : p = o := Option.some.inj hpo
        exact Rule.explain_success hr hp
    · exact ih hrs hys o hm

end Matching

theorem RuleSet.success_of_mem_explain {s : RuleSet} {origin : Origin} {e : Entry}
    {ps : Placeholders} {ms : List (Rule × Outcome)} (h : s.explain origin e ps = .ok ms) :
    ∀ m ∈ ms, m.2.success = true := by
  rw [explain, Matching.row] at h
  obtain ⟨xs, hxs, h⟩ := exists_of_bind_eq_ok h
  obtain ⟨bs, hb, hx⟩ := exists_of_bind_eq_ok hxs
  obtain rfl : ((s.rules.zip xs).filterMap fun x => x.2.map fun out => (x.1, out)) = ms :=
    Except.ok.inj h
  intro m hm
  obtain ⟨⟨r, y⟩, hy, hm⟩ := List.mem_filterMap.mp hm
  obtain ⟨o, rfl, rfl⟩ := Option.map_eq_some_iff.mp hm
  exact Matching.success_of_mem_outcomes hb hx o (List.of_mem_zip hy).2

/-! ### The two evaluations -/

/-- **Brief and full evaluation agree.**  If all searches of an expression answer,
both evaluations give an outcome, the brief one that of the full one without the
children that come after an answer is settled, and both have the same success.
So the full outcome of a rule that accepts an entry is a success, and what a set
of rules explains are matches. -/
theorem brief_evaluation_prunes :
    (∀ (x : Expr) (e : Entry) (ps : Placeholders) (t : Tally),
      (∀ s ∈ x.searches, ∃ b, s.succeeds e ps = .ok b) →
      ∃ o t₁ t₂, x.evaluate ⟨e, ps, false⟩ t = .ok (o, t₁) ∧
        x.evaluate ⟨e, ps, true⟩ t = .ok (o.pruned, t₂) ∧ o.pruned.success = o.success) ∧
    (∀ (r : Rule) (origin : Origin) (e : Entry) (ps : Placeholders) (o : Outcome),
      r.accepts origin e ps = .ok true → r.explain e ps = .ok o → o.success = true) ∧
    ∀ (s : RuleSet) (origin : Origin) (e : Entry) (ps : Placeholders)
      (ms : List (Rule × Outcome)),
      s.explain origin e ps = .ok ms → ∀ m ∈ ms, m.2.success = true := by
  refine ⟨fun x e ps t h => ?_, fun r origin e ps o => Rule.explain_success,
    fun s origin e ps ms => RuleSet.success_of_mem_explain⟩
  obtain ⟨o, ho⟩ := Expr.exists_outcome x h
  refine ⟨o, o.tallied t, o.pruned.tallied t, ?_, ?_, Outcome.success_pruned o⟩
  · rw [Expr.evaluate_eq, ho]
    rfl
  · rw [Expr.evaluate_eq, Expr.outcome_brief ho]
    rfl

/-- The statement at a search that is invalid, for it has no patterns: brief
evaluation leaves out a disjunction without children, and a set of one rule is
explained. -/
theorem sample_evaluation_prunes :
    let s : Search := ⟨none, [], []⟩
    let x : Expr := .and [.not (.search s), .search s, .or []]
    let r : Rule := { title := "", expr := .or [.not x, x] }
    let set : RuleSet := ⟨[r], List.cons_ne_nil r [], List.pairwise_singleton _ r⟩
    (∀ s ∈ x.searches, ∃ b, s.succeeds {} [] = .ok b) ∧
    (∃ o t₁ t₂, x.evaluate ⟨{}, [], false⟩ {} = .ok (o, t₁) ∧
      x.evaluate ⟨{}, [], true⟩ {} = .ok (o.pruned, t₂) ∧ o.pruned.success = o.success) ∧
    r.accepts {} {} [] = .ok true ∧
    (∃ o, r.explain {} [] = .ok o ∧ o.success = true) ∧
    ∃ ms, set.explain {} {} [] = .ok ms ∧ ms ≠ [] ∧ ∀ m ∈ ms, m.2.success = true := by
  intro s x r set
  have hs : ∀ s ∈ x.searches, ∃ b, s.succeeds {} [] = .ok b := by
    intro t ht
    obtain rfl : t = s := by simpa [x, Expr.searches, Expr.searchesOf] using ht
    exact ⟨false, rfl⟩
  have ha : r.accepts {} {} [] = .ok true := rfl
  refine ⟨hs, brief_evaluation_prunes.1 x {} [] {} hs, ha, ?_, ?_⟩
  · exact ⟨_, rfl, brief_evaluation_prunes.2.1 r {} {} [] _ ha rfl⟩
  · exact ⟨_, rfl, by simp [set], brief_evaluation_prunes.2.2 set {} {} [] _ rfl⟩

end SigmaRules
