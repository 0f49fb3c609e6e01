/-
SigmaRules/Proofs/Expr/Evaluation.lean

What evaluating an expression gives, apart from the tally that is handed
through it.  `outcome` is evaluation without a tally, and `tallied` reads the
work that was done off the outcome; together they are the evaluation
(`evaluate_eq`).

For whether an expression matches (`matchesEntry`) this leaves one equation
for each connective: conjunctions and disjunctions ask their children from
left to right and stop at the first one that settles the question
(`matchesEntry_and`, `matchesEntry_or`).
-/
import SigmaRules.Expr.Evaluate

namespace SigmaRules

/-! ### Evaluation without a tally -/

namespace Outcome

@[simp] theorem success_search (s : Search) (b : Bool) (v : String) :
    (search s b v).success = b := rfl

@[simp] theorem success_named (name : String) (b : Bool) (o : Outcome) :
    (named name b o).success = b := rfl

@[simp] theorem success_not (b : Bool) (o : Outcome) : (not b o).success = b := rfl

@[simp] theorem success_and (b : Bool) (os : List Outcome) : (and b os).success = b := rfl

@[simp] theorem success_or (b : Bool) (os : List Outcome) : (or b os).success = b := rfl

mutual

/-- The tally with the work counted that the outcome shows. -/
def tallied : Outcome → Tally → Tally
  | .search .., t => t.count .search
  | .named _ _ o, t => o.tallied (t.count .named)
  | .not _ o, t => o.tallied (t.count .not)
  | .and _ os, t => talliedAll os (t.count .and)
  | .or _ os, t => talliedAll os (t.count .or)

/-- The tally with the work counted that the outcomes show. -/
def talliedAll : List Outcome → Tally → Tally
  | [], t => t
  | o :: os, t => talliedAll os (o.tallied t)

end

end Outcome

namespace Expr

mutual

/-- The outcome of an expression. -/
def outcome (σ : Setting) : Expr → Except Fault Outcome
  | .search s =>
    (s.succeeds σ.entry σ.placeholders).map fun b => .search s b (s.inspected σ.entry)
  | .named name c => (c.outcome σ).map fun o => .named name o.success o
  | .not c => (c.outcome σ).map fun o => .not (!o.success) o
  | .and cs => (outcomes σ false cs).map fun os => .and (os.all Outcome.success) os
  | .or cs => (outcomes σ true cs).map fun os => .or (os.any Outcome.success) os

/-- The outcomes of expressions, up to the first one that settles the question
if the evaluation is brief. -/
def outcomes (σ : Setting) (settles : Bool) : List Expr → Except Fault (List Outcome)
  | [] => .ok []
  | c :: cs =>
    match c.outcome σ with
    | .error f => .error f
    | .ok o =>
      if σ.brief && o.success == settles then .ok [o] else (outcomes σ settles cs).map (o :: ·)

end

mutual

/-- **Evaluation is the outcome and its tally**: the tally that comes in changes
nothing about the outcome, and the outcome says what is counted. -/
theorem evaluate_eq (σ : Setting) : ∀ (x : Expr) (t : Tally),
    x.evaluate σ t = (x.outcome σ).map fun o => (o, o.tallied t)
  | .search s, t => by
    rw [evaluate, outcome]
    rcases s.succeeds σ.entry σ.placeholders with f | b <;> rfl
  | .named name c, t => by
    rw [evaluate, outcome, evaluate_eq σ c]
    rcases c.outcome σ with f | o <;> rfl
  | .not c, t => by
    rw [evaluate, outcome, evaluate_eq σ c]
    rcases c.outcome σ with f | o <;> rfl
  | .and cs, t => by
    rw [evaluate, outcome, evaluateAll_eq σ false cs]
    rcases outcomes σ false cs with f | os <;> rfl
  | .or cs, t => by
    rw [evaluate, outcome, evaluateAll_eq σ true cs]
    rcases outcomes σ true cs with f | os <;> rfl

theorem evaluateAll_eq (σ : Setting) (settles : Bool) : ∀ (xs : List Expr) (t : Tally),
    evaluateAll σ settles xs t
      = (outcomes σ settles xs).map fun os => (os, Outcome.talliedAll os t)
  | [], t => rfl
  | c :: cs, t => by
    rw [evaluateAll, outcomes, evaluate_eq σ c]
    rcases c.outcome σ with f | o
    · rfl
    -- the same test stops both
    · by_cases h : (σ.brief && o.success == settles) = true
      · simp only [Except.map, h, if_true, Outcome.talliedAll]
      · simp only [Except.map, h, evaluateAll_eq σ settles cs]
        rcases outcomes σ settles cs with f | os <;> rfl

end

/-! ### Whether an expression matches -/

section Matches

variable (e : Entry) (ps : Placeholders)

theorem matchesEntry_eq (x : Expr) :
    x.matchesEntry e ps = (x.outcome ⟨e, ps, true⟩).map Outcome.success := by
  rw [matchesEntry, evaluate_eq]
  rcases x.outcome ⟨e, ps, true⟩ with f | o <;> rfl

theorem matchesEntry_search (s : Search) :
    (Expr.search s).matchesEntry e ps = s.succeeds e ps := by
  rw [matchesEntry_eq, outcome]
  rcases s.succeeds e ps with f | b <;> rfl

theorem matchesEntry_named (name : String) (x : Expr) :
    (Expr.named name x).matchesEntry e ps = x.matchesEntry e ps := by
  rw [matchesEntry_eq, matchesEntry_eq, outcome]
  rcases x.outcome ⟨e, ps, true⟩ with f | o <;> rfl

theorem matchesEntry_not (x : Expr) :
    (Expr.not x).matchesEntry e ps = (x.matchesEntry e ps).map (!·) := by
  rw [matchesEntry_eq, matchesEntry_eq, outcome]
  rcases x.outcome ⟨e, ps, true⟩ with f | o <;> rfl

theorem matchesEntry_and (xs : List Expr) :
    (Expr.and xs).matchesEntry e ps = xs.allM (·.matchesEntry e ps) := by
  rw [matchesEntry_eq, outcome]
  induction xs with
  | nil => rfl
  | cons x xs ih =>
    rw [outcomes, List.allM, ← ih, matchesEntry_eq]
    rcases x.outcome ⟨e, ps, true⟩ with f | o
    · rfl
    · rcases h : o.success with - | -
      · simp [Except.map, bind, Except.bind, pure, Except.pure, h]
      · rcases outcomes ⟨e, ps, true⟩ false xs with f | os <;>
          simp [Except.map, bind, Except.bind, h]

theorem matchesEntry_or (xs : List Expr) :
    (Expr.or xs).matchesEntry e ps = xs.anyM (·.matchesEntry e ps) := by
  rw [matchesEntry_eq, outcome]
  induction xs with
  | nil => rfl
  | cons x xs ih =>
    rw [outcomes, List.anyM, ← ih, matchesEntry_eq]
    rcases x.outcome ⟨e, ps, true⟩ with f | o
    · rfl
    · rcases h : o.success with - | -
      · rcases outcomes ⟨e, ps, true⟩ true xs with f | os <;>
          simp [Except.map, bind, Except.bind, h]
      · simp [Except.map, bind, Except.bind, pure, Except.pure, h]

/-- If there is an answer, a conjunction matches if and only if all of its children do. -/
theorem eq_true_iff_of_matchesEntry_and {xs : List Expr} {b : Bool}
    (h : (Expr.and xs).matchesEntry e ps = .ok b) :
    b = true ↔ ∀ x ∈ xs, x.matchesEntry e ps = .ok true := by
  rw [matchesEntry_and] at h
  induction xs with
  | nil =>
    obtain rfl : true = b := Except.ok.inj h
    simp
  | cons x xs ih =>
    rw [List.allM] at h
    rcases hx : x.matchesEntry e ps with f | a
    · simp [hx, bind, Except.bind] at h
    rw [hx] at h
    rcases a with - | -
    · obtain rfl : false = b := Except.ok.inj h
      simp [hx]
    · simp [hx, ih h]

/-- If there is an answer, a disjunction matches if and only if one of its children does. -/
theorem eq_true_iff_of_matchesEntry_or {xs : List Expr} {b : Bool}
    (h : (Expr.or xs).matchesEntry e ps = .ok b) :
    b = true ↔ ∃ x ∈ xs, x.matchesEntry e ps = .ok true := by
  rw [matchesEntry_or] at h
  induction xs with
  | nil =>
    obtain rfl : false = b := Except.ok.inj h
    simp
  | cons x xs ih =>
    rw [List.anyM] at h
    rcases hx : x.matchesEntry e ps with f | a
    · simp [hx, bind, Except.bind] at h
    rw [hx] at h
    rcases a with - | -
    · simp [hx, ih h]
    · obtain rfl : true = b := Except.ok.inj h
      simp [hx]

end Matches

end Expr

end SigmaRules
