/-
SigmaRules/RuleSet.lean

Rule sets: rules that are used together, at least one of them, and no two of
them with the same id.
-/
import SigmaRules.Rule.Basic

namespace SigmaRules

/-- No two of the rules share an id. -/
def RuleSet.DistinctIds (rules : List Rule) : Prop :=
  rules.Pairwise fun r r' => ∀ id, r.id = some id → r'.id ≠ some id

/-- A set of rules, in order. -/
@[ext]
structure RuleSet where
  rules : List Rule
  nonempty : rules ≠ []
  distinctIds : RuleSet.DistinctIds rules

/-- Why rules make no set. -/
inductive RuleSetProblem
  /-- There are none. -/
  | empty
  /-- A rule has the id of an earlier one. -/
  | duplicateId (id title : String)
  deriving DecidableEq, Repr

/-- Why rules make no set, in words. -/
def RuleSetProblem.message : RuleSetProblem → String
  | .empty => "no rules selected"
  | .duplicateId id title => "duplicate rule id: " ++ id ++ " (" ++ title ++ ")"

/-- The report of the problem. -/
def RuleSetProblem.report (p : RuleSetProblem) : String := "invalid rule set: " ++ p.message

namespace RuleSet

/-- The first rule with the id of an earlier one, or with one of the given ids. -/
def duplicate? (seen : List String) : List Rule → Option RuleSetProblem
  | [] => none
  | r :: rs =>
    match r.id with
    | none => duplicate? seen rs
    | some id =>
      if seen.contains id then some (.duplicateId id r.title) else duplicate? (id :: seen) rs

/-- No rule is such a duplicate iff the ids tell the rules apart, and are none of those given. -/
theorem duplicate?_eq_none_iff {rules : List Rule} {seen : List String} :
    duplicate? seen rules = none ↔
      (∀ r ∈ rules, ∀ id, r.id = some id → id ∉ seen) ∧ DistinctIds rules := by
  induction rules generalizing seen with
  | nil => simp [duplicate?, DistinctIds]
  | cons r rs ih =>
    rw [duplicate?, DistinctIds, List.pairwise_cons, ← DistinctIds, List.forall_mem_cons]
    rcases hid : r.id with - | id
    · simp [ih]
    by_cases hseen : id ∈ seen
    · simp [hseen]
    · simp only [List.contains_eq_mem, hseen, decide_false, Bool.false_eq_true, if_false, ih,
        List.mem_cons, not_or, Option.some.injEq, forall_eq']
      -- the id of the first rule is seen by the rest, or is none of theirs
      constructor
      · rintro ⟨hrest, hdistinct⟩
        refine ⟨⟨not_false, fun r' hr' i hi => (hrest r' hr' i hi).2⟩, fun r' hr' hi => ?_,
          hdistinct⟩
        exact (hrest r' hr' id hi).1 rfl
      · rintro ⟨⟨-, hrest⟩, hfirst, hdistinct⟩
        refine ⟨fun r' hr' i hi => ⟨?_, hrest r' hr' i hi⟩, hdistinct⟩
        rintro rfl
        exact hfirst r' hr' hi

/-- The set of the rules. -/
def ofRules : List Rule → Except RuleSetProblem RuleSet
  | [] => .error .empty
  | r :: rs =>
    match hduplicate : duplicate? [] (r :: rs) with
    | some p => .error p
    | none => .ok ⟨r :: rs, List.cons_ne_nil r rs, (duplicate?_eq_none_iff.mp hduplicate).2⟩

/-- The rule with an id or, failing that, the first one with a title. -/
def get? (s : RuleSet) (key : String) : Option Rule :=
  (s.rules.find? fun r => r.id == some key).or (s.rules.find? fun r => r.title == key)

/-- Is there a rule with the id or title? -/
def contains (s : RuleSet) (key : String) : Bool := (s.get? key).isSome

/-- Does a text occur within another? -/
def occursIn (part : List Char) : List Char → Bool
  | [] => part.isEmpty
  | c :: cs => part.isPrefixOf (c :: cs) || occursIn part cs

/-- Does a tag occur within the title, the id or one of the tags of a rule? -/
def selects (tag : String) (r : Rule) : Bool :=
  (r.title :: r.id.getD "" :: r.tags.getD []).any fun s => occursIn tag.toList s.toList

/-- The set of the rules that a tag selects. -/
def filter (s : RuleSet) (tag : String) : Except RuleSetProblem RuleSet :=
  ofRules (s.rules.filter (selects tag))

end RuleSet

end SigmaRules
