/-
SigmaRules/Proofs/RuleSet.lean

How rule sets are made, and the sets that a run of filters leaves.  Rules make the set
that has them (`ofRules_eq_ok_iff`) unless there are none or two of them share an id
(`exists_ofRules_eq_error_iff`), and a filter leaves a set iff it selects a rule
(`exists_filter_iff`).

A run of filters goes from set to set, and a filter that selects nothing leaves the set as
it is (`refine`).  One step selects by one tag (`refine_eq`); a whole run selects by the
tags that were effective (`rules_foldl_refine`).  Main statement:
`refined_rules_are_selected`.
-/
import Mathlib.Data.List.Infix
import Mathlib.Data.List.Pairwise
import SigmaRules.RuleSet

namespace SigmaRules.RuleSet

/-- A tag occurs within the title, the id or one of the tags of a rule. -/
def Mentions (tag : String) (r : Rule) : Prop :=
  tag.toList <:+: r.title.toList ∨ (∃ id, r.id = some id ∧ tag.toList <:+: id.toList) ∨
    ∃ ts, r.tags = some ts ∧ ∃ t ∈ ts, tag.toList <:+: t.toList

variable {rules : List Rule} {s t : RuleSet} {tag : String} {r : Rule}

/-! ### Making sets -/

/-- Rules make the set that has them, if there is one. -/
theorem ofRules_eq_ok_iff : ofRules rules = .ok s ↔ s.rules = rules := by
  rcases rules with - | ⟨r, rs⟩
  · simp [ofRules, s.nonempty]
  rw [ofRules]
  split
  case h_1 p hduplicate =>
    refine iff_of_false nofun fun hrules => ?_
    have hnone := duplicate?_eq_none_iff.mpr
      ⟨fun r _ id _ => List.not_mem_nil, hrules ▸ s.distinctIds⟩
    rw [hduplicate] at hnone
    cases hnone
  case h_2 hduplicate =>
    rw [Except.ok.injEq, RuleSet.ext_iff]
    exact eq_comm

theorem exists_ofRules_eq_error_iff :
    (∃ p, ofRules rules = .error p) ↔ rules = [] ∨ ¬ DistinctIds rules := by
  rcases hset : ofRules rules with p | s
  · refine iff_of_true ⟨p, rfl⟩ ?_
    by_contra hno
    rw [not_or, not_not] at hno
    have hok : ofRules rules = .ok ⟨rules, hno.1, hno.2⟩ := ofRules_eq_ok_iff.mpr rfl
    rw [hset] at hok
    cases hok
  · obtain rfl := ofRules_eq_ok_iff.mp hset
    refine iff_of_false ?_ (not_or.mpr ⟨s.nonempty, not_not_intro s.distinctIds⟩)
    rintro ⟨p, hp⟩
    cases hp

/-! ### Selecting rules -/

theorem occursIn_iff {part text : List Char} : occursIn part text = true ↔ part <:+: text := by
  induction text with
  | nil => simp [occursIn]
  | cons c cs ih => simp [occursIn, ih, List.infix_cons_iff]

theorem selects_iff : selects tag r = true ↔ Mentions tag r := by
  simp only [selects, Mentions, List.any_cons, Bool.or_eq_true, List.any_eq_true, occursIn_iff]
  constructor
  · rintro (htitle | hid | ⟨t, ht, hin⟩)
    · exact .inl htitle
    · rcases hr : r.id with - | id
      -- a rule without an id is asked about an empty text, which its title covers
      · have htag : tag.toList = [] := by simpa [hr] using hid
        exact .inl (htag ▸ List.nil_infix)
      · exact .inr (.inl ⟨id, rfl, by simpa [hr] using hid⟩)
    · rcases hr : r.tags with - | ts
      · simp [hr] at ht
      · exact .inr (.inr ⟨ts, rfl, t, by simpa [hr] using ht, hin⟩)
  · rintro (htitle | ⟨id, hid, hin⟩ | ⟨ts, hts, t, ht, hin⟩)
    · exact .inl htitle
    · exact .inr (.inl (by simpa [hid] using hin))
    · exact .inr (.inr ⟨t, by simpa [hts] using ht, hin⟩)

instance : Decidable (Mentions tag r) := decidable_of_iff (selects tag r = true) selects_iff

theorem filter_eq_ok_iff :
    s.filter tag = .ok t ↔ t.rules = s.rules.filter fun r => Mentions tag r := by
  have hselects : (selects tag) = fun r => decide (Mentions tag r) :=
    funext fun r => Bool.eq_iff_iff.mpr (by rw [selects_iff, decide_eq_true_iff])
  rw [filter, hselects, ofRules_eq_ok_iff]

/-- A filter leaves a set iff it selects a rule. -/
theorem exists_filter_iff : (∃ t, s.filter tag = .ok t) ↔ ∃ r ∈ s.rules, Mentions tag r := by
  constructor
  · rintro ⟨t, ht⟩
    obtain ⟨r, hr⟩ := List.exists_mem_of_ne_nil t.rules t.nonempty
    rw [filter_eq_ok_iff.mp ht] at hr
    exact ⟨r, List.mem_of_mem_filter hr, by simpa using List.of_mem_filter hr⟩
  · rintro ⟨r, hr, hm⟩
    have hr' : r ∈ s.rules.filter fun r => Mentions tag r :=
      List.mem_filter.mpr ⟨hr, decide_eq_true hm⟩
    exact ⟨⟨_, List.ne_nil_of_mem hr', List.Pairwise.filter _ s.distinctIds⟩,
      filter_eq_ok_iff.mpr rfl⟩

/-! ### Runs of filters -/

/-- The set after a filter: the rules that the tag selects, or, if it selects none, the
set as it is. -/
def refine (s : RuleSet) (tag : String) : RuleSet :=
  match s.filter tag with
  | .ok t => t
  | .error _ => s

/-- The tags of a run whose filters do not fail. -/
def effective (s : RuleSet) : List String → List String
  | [] => []
  | tag :: tags =>
    match s.filter tag with
    | .ok t => tag :: t.effective tags
    | .error _ => s.effective tags

/-- A filter fails and changes nothing, or it selects rules. -/
theorem refine_eq (s : RuleSet) (tag : String) :
    (∃ p, s.filter tag = .error p) ∧ s.refine tag = s ∨
      s.filter tag = .ok (s.refine tag) ∧
        (s.refine tag).rules = s.rules.filter fun r => Mentions tag r := by
  rcases hfilter : s.filter tag with p | t
  · exact .inl ⟨⟨p, rfl⟩, by rw [refine, hfilter]⟩
  · have hrefine : s.refine tag = t := by rw [refine, hfilter]
    rw [hrefine]
    exact .inr ⟨rfl, filter_eq_ok_iff.mp hfilter⟩

/-- A run selects the rules that all effective tags select. -/
theorem rules_foldl_refine (s : RuleSet) (tags : List String) :
    (tags.foldl RuleSet.refine s).rules =
      s.rules.filter fun r => ∀ tag ∈ s.effective tags, Mentions tag r := by
  induction tags generalizing s with
  | nil => simp [effective]
  | cons tag tags ih =>
    rw [List.foldl_cons, ih, effective]
    rcases s.refine_eq tag with ⟨⟨p, hp⟩, heq⟩ | ⟨hok, hrules⟩
    · rw [hp, heq]
    · rw [hok, hrules, List.filter_filter]
      refine List.filter_congr fun r _ => ?_
      simp only [List.forall_mem_cons, Bool.decide_and]
      exact Bool.and_comm ..

/-! ### Looking for rules -/

theorem get?_of_id (hr : r ∈ s.rules) {id : String} (hid : r.id = some id) :
    s.get? id = some r := by
  have hfind : s.rules.find? (fun r => r.id == some id) = some r := by
    have h := s.distinctIds
    obtain ⟨before, after, hrules⟩ := List.append_of_mem hr
    rw [hrules, DistinctIds, List.pairwise_append] at h
    refine List.find?_eq_some_iff_append.mpr ⟨by simpa using hid, before, after, hrules, ?_⟩
    intro r' hr'
    have hne : r'.id ≠ some id := fun hid' => h.2.2 r' hr' r List.mem_cons_self id hid' hid
    simpa using hne
  rw [get?, hfind]
  rfl

theorem contains_iff {key : String} :
    s.contains key = true ↔ ∃ r ∈ s.rules, r.id = some key ∨ r.title = key := by
  simp only [contains, get?, Option.isSome_or, Bool.or_eq_true, List.find?_isSome, beq_iff_eq,
    and_or_left, exists_or]

theorem get?_of_title {key : String} (h : ∀ r ∈ s.rules, r.id ≠ some key) :
    s.get? key = s.rules.find? fun r => r.title == key := by
  have hnone : s.rules.find? (fun r => r.id == some key) = none :=
    List.find?_eq_none.mpr fun r hr => by simpa using h r hr
  rw [get?, hnone]
  rfl

/-- **A run of filters keeps what makes a rule set.**  From a set of rules, and whatever the
tags are, the rules left are those that every effective tag selects, in order; there is at
least one, and no two of them share an id.  A rule with an id is found by it, keys are ids
and titles of the rules, and a title that is no id leads to the first rule with it. -/
theorem refined_rules_are_selected (h : ofRules rules = .ok s) (tags : List String) :
    let current := tags.foldl RuleSet.refine s
    current.rules = (rules.filter fun r => ∀ tag ∈ s.effective tags, Mentions tag r) ∧
      current.rules ≠ [] ∧ DistinctIds current.rules ∧
      (∀ r ∈ current.rules, ∀ id, r.id = some id → current.get? id = some r) ∧
      ∀ key,
        (current.contains key = true ↔ ∃ r ∈ current.rules, r.id = some key ∨ r.title = key) ∧
        ((∀ r ∈ current.rules, r.id ≠ some key) →
          current.get? key = current.rules.find? fun r => r.title == key) := by
  obtain rfl := ofRules_eq_ok_iff.mp h
  intro current
  exact ⟨s.rules_foldl_refine tags, current.nonempty, current.distinctIds,
    fun r hr id hid => get?_of_id hr hid, fun key => ⟨contains_iff, get?_of_title⟩⟩

/-- Rules for one search, the second without an id, and the third with the id of the first
as its title. -/
def sampleSet : RuleSet :=
  let expr := Expr.search (Detection.keywords ["whoami"])
  { rules :=
      [{ title := "User", expr, id := some "1", tags := some ["attack.discovery"] },
        { title := "User", expr, tags := some ["attack.t1033"] },
        { title := "1", expr, id := some "2" }]
    nonempty := List.cons_ne_nil _ _
    distinctIds := by simp [DistinctIds] }

/-- Of three filters the second fails.  The third one selects one rule by its id and one by
a tag, and the id that it names is found after it. -/
theorem sample_refined_rules_are_selected :
    ofRules sampleSet.rules = .ok sampleSet ∧
      effective sampleSet ["e", "nowhere", "1"] = ["e", "1"] ∧
      (["e", "nowhere", "1"].foldl RuleSet.refine sampleSet).rules = sampleSet.rules.take 2 ∧
      (["e", "nowhere", "1"].foldl RuleSet.refine sampleSet).contains "1" = true := by
  have hset : ofRules sampleSet.rules = .ok sampleSet := rfl
  have heffective : effective sampleSet ["e", "nowhere", "1"] = ["e", "1"] := by decide +kernel
  obtain ⟨hrules, -, -, -, hkeys⟩ := refined_rules_are_selected hset ["e", "nowhere", "1"]
  rw [heffective] at hrules
  have htwo : (sampleSet.rules.filter fun r => ∀ tag ∈ ["e", "1"], Mentions tag r) =
      sampleSet.rules.take 2 := rfl
  refine ⟨hset, heffective, hrules.trans htwo, (hkeys "1").1.mpr ?_⟩
  rw [hrules, htwo]
  exact ⟨_, List.mem_cons_self, .inl rfl⟩

end SigmaRules.RuleSet
