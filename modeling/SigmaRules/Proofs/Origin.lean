/-
SigmaRules/Proofs/Origin.lean

Describing the origin of entries only narrows the matches.  One origin is narrower
than another if it agrees, but for letter case, with every attribute that the other
one names (`Origin.Narrows`).  A rule that applies to the narrower origin applies to
the other (`Rule.appliesTo_of_narrows`), and whether it matches does not depend on
the origin.

So the rest is what matching gives, and when it gives anything: for one entry
(`matching_eq_ok_iff`) and for a log (`findMatches_eq_ok_iff`) it filters the rules.
Main statement: `narrower_origin_matches_less`.
-/
import SigmaRules.Proofs.Matching

namespace SigmaRules

open Matching

/-! ### Attributes -/

/-- Only the empty text is empty in lower case. -/
theorem Text.isEmpty_lower (s : String) : (lower s).isEmpty = s.isEmpty := by
  have hfrom : (lowerFrom [] s.toList).isEmpty = s.toList.isEmpty := by
    rcases s.toList with - | ⟨c, cs⟩
    · rfl
    · rw [lowerFrom]
      split_ifs <;> rfl
  rw [Bool.eq_iff_iff, List.isEmpty_iff, List.isEmpty_iff, String.toList_eq_nil_iff] at hfrom
  rw [Bool.eq_iff_iff, String.isEmpty_iff, String.isEmpty_iff, lower, String.ofList_eq_empty_iff,
    hfrom]

namespace LogSource

variable {a b wanted : Option String}

/-- The second attribute is missing or empty, or it is the first one but for letter case. -/
def Narrower (a b : Option String) : Prop :=
  b.all String.isEmpty = true ∨ a.map Text.lower = b.map Text.lower

theorem differs_congr (h : a.map Text.lower = b.map Text.lower) (wanted : Option String) :
    differs wanted a = differs wanted b := by
  rcases wanted with - | w
  · rfl
  rcases a with - | x <;> rcases b with - | y
  · rfl
  · cases h
  · cases h
  · have hlower : Text.lower x = Text.lower y := Option.some.inj h
    have hempty : x.isEmpty = y.isEmpty := by
      rw [← Text.isEmpty_lower, hlower, Text.isEmpty_lower]
    rw [differs, differs, hlower, hempty]

/-- What does not differ from an attribute differs from no wider one. -/
theorem not_differs_of_narrower (h : Narrower a b) (ha : differs wanted a = false) :
    differs wanted b = false := by
  rcases h with hunset | hsame
  · rcases wanted with - | w
    · rfl
    rcases b with - | y
    · rfl
    · have hempty : y.isEmpty = true := hunset
      simp [differs, hempty]
  · rwa [← differs_congr hsame]

end LogSource

/-! ### Origins -/

namespace Origin

/-- The first origin agrees with the second in every attribute that the second one names. -/
structure Narrows (a b : Origin) : Prop where
  product : LogSource.Narrower a.product b.product
  service : LogSource.Narrower a.service b.service
  category : LogSource.Narrower a.category b.category

/-- The origin in lower case. -/
def lowered (o : Origin) : Origin where
  product := o.product.map Text.lower
  service := o.service.map Text.lower
  category := o.category.map Text.lower

end Origin

variable {a b : Origin}

namespace Rule

theorem appliesTo_iff {o : Origin} {r : Rule} : r.appliesTo o = true ↔
    ∀ s, r.logSource = some s → LogSource.differs s.product o.product = false ∧
      LogSource.differs s.service o.service = false ∧
      LogSource.differs s.category o.category = false := by
  rw [appliesTo]
  rcases r.logSource with - | s
  · simp
  · simp [and_assoc]

theorem appliesTo_of_narrows (h : a.Narrows b) {r : Rule} (ha : r.appliesTo a = true) :
    r.appliesTo b = true := by
  rw [appliesTo_iff] at ha ⊢
  intro s hs
  obtain ⟨hproduct, hservice, hcategory⟩ := ha s hs
  exact ⟨LogSource.not_differs_of_narrower h.product hproduct,
    LogSource.not_differs_of_narrower h.service hservice,
    LogSource.not_differs_of_narrower h.category hcategory⟩

theorem appliesTo_congr (h : a.lowered = b.lowered) (r : Rule) :
    r.appliesTo a = r.appliesTo b := by
  obtain ⟨hproduct, hservice, hcategory⟩ := Origin.mk.inj h
  simp only [appliesTo, LogSource.differs_congr hproduct, LogSource.differs_congr hservice,
    LogSource.differs_congr hcategory]

end Rule

/-! ### Matching one entry -/

section Entry

variable {o : Origin} {e : Entry} {ps : Placeholders} {rs : List Rule}

theorem Rule.accepts_eq_ok_iff {r : Rule} {v : Bool} : r.accepts o e ps = .ok v ↔
    (r.appliesTo o = true → ∃ w, r.matchesEntry e ps = .ok w) ∧
      (r.appliesTo o && r.hits e ps) = v := by
  rw [accepts, hits]
  rcases r.appliesTo o with - | -
  · simp
  · rcases r.matchesEntry e ps with f | w
    · simp
    · rcases w with - | - <;> simp [Except.toOption]

theorem Matching.verdicts_eq_ok_iff {vs : List Bool} : verdicts o e ps rs = .ok vs ↔
    (∀ r ∈ rs, r.appliesTo o = true → ∃ w, r.matchesEntry e ps = .ok w) ∧
      (rs.map fun r => r.appliesTo o && r.hits e ps) = vs := by
  induction rs generalizing vs with
  | nil => simp [verdicts]
  | cons r rs ih =>
    rw [verdicts, List.forall_mem_cons]
    constructor
    · intro h
      obtain ⟨v, hv, h⟩ := exists_of_bind_eq_ok h
      obtain ⟨ws, hws, h⟩ := exists_of_bind_eq_ok h
      obtain rfl : v :: ws = vs := Except.ok.inj h
      obtain ⟨hr, rfl⟩ := Rule.accepts_eq_ok_iff.mp hv
      obtain ⟨hrs, rfl⟩ := ih.mp hws
      exact ⟨⟨hr, hrs⟩, rfl⟩
    · rintro ⟨⟨hr, hrs⟩, rfl⟩
      rw [Rule.accepts_eq_ok_iff.mpr ⟨hr, rfl⟩, ih.mpr ⟨hrs, rfl⟩]
      rfl

/-- The rules that accept an entry are those that apply and match, if all that apply answer. -/
theorem RuleSet.matching_eq_ok_iff {s : RuleSet} {found : List Rule} :
    s.matching o e ps = .ok found ↔
      (∀ r ∈ s.rules, r.appliesTo o = true → ∃ w, r.matchesEntry e ps = .ok w) ∧
        (s.rules.filter fun r => r.appliesTo o && r.hits e ps) = found := by
  have hzip : ∀ (p : Rule → Bool) (rs : List Rule),
      ((rs.zip (rs.map p)).filter (·.2)).map (·.1) = rs.filter p := by
    intro p rs
    induction rs with
    | nil => rfl
    | cons r rs ih =>
      rw [List.map_cons, List.zip_cons_cons, List.filter_cons, List.filter_cons]
      rcases p r with - | -
      · exact ih
      · exact congrArg (r :: ·) ih
  rw [matching]
  constructor
  · intro h
    obtain ⟨vs, hvs, h⟩ := exists_of_bind_eq_ok h
    obtain ⟨hanswers, rfl⟩ := verdicts_eq_ok_iff.mp hvs
    exact ⟨hanswers, (hzip _ _).symm.trans (Except.ok.inj h)⟩
  · rintro ⟨hanswers, rfl⟩
    rw [verdicts_eq_ok_iff.mpr ⟨hanswers, rfl⟩]
    exact congrArg Except.ok (hzip _ _)

end Entry

/-! ### Matching a log -/

section Log

variable {o : Origin} {ps : Placeholders} {rs : List Rule}

/-- If the rules that match are explained, the rules that apply answer. -/
theorem Matching.answers_of_outcomes {e : Entry} {xs : List (Option Outcome)}
    (hmatch : ∀ r ∈ rs, r.appliesTo o = true → ∃ w, r.matchesEntry e ps = .ok w)
    (h : outcomes e ps rs (rs.map fun r => r.appliesTo o && r.hits e ps) = .ok xs) :
    ∀ r ∈ rs, r.appliesTo o = true → r.Answers e ps := by
  induction rs generalizing xs with
  | nil => simp
  | cons r rs ih =>
    obtain ⟨hr, hrs⟩ := List.forall_mem_cons.mp hmatch
    rw [List.map_cons, outcomes_cons] at h
    obtain ⟨x, hx, h⟩ := exists_of_bind_eq_ok h
    obtain ⟨ys, hys, -⟩ := exists_of_map_eq_ok h
    refine List.forall_mem_cons.mpr ⟨fun ha => ?_, ih hrs hys⟩
    obtain ⟨w, hw⟩ := hr ha
    refine ⟨w, hw, ?_⟩
    rintro rfl
    have hhit : r.hits e ps = true := by rw [Rule.hits, hw]; rfl
    rw [ha, hhit] at hx
    obtain ⟨out, hout, -⟩ := exists_of_map_eq_ok hx
    exact ⟨out, hout⟩

/-- If a log is collected, the rules that apply answer on all of its entries. -/
theorem Matching.answers_of_collect {es : List (Nat × Entry)} {found found' : Found}
    (h : collect rs o ps found es = .ok found') :
    ∀ r ∈ rs, r.appliesTo o = true → ∀ x ∈ es, r.Answers x.2 ps := by
  induction es generalizing found with
  | nil => simp
  | cons x es ih =>
    obtain ⟨line, e⟩ := x
    rw [collect] at h
    obtain ⟨xs, hxs, h⟩ := exists_of_bind_eq_ok h
    rw [row] at hxs
    obtain ⟨vs, hvs, hxs⟩ := exists_of_bind_eq_ok hxs
    obtain ⟨hmatch, rfl⟩ := verdicts_eq_ok_iff.mp hvs
    have hfirst := answers_of_outcomes hmatch hxs
    exact fun r hr ha => List.forall_mem_cons.mpr ⟨hfirst r hr ha, ih h r hr ha⟩

/-- The matches of a log are those of the rules that apply and match an entry, if all that apply
answer. -/
theorem RuleSet.findMatches_eq_ok_iff {s : RuleSet} {es : List (Nat × Entry)} {ms : Matches}
    {n : Nat} : s.findMatches o ps es = .ok (ms, n) ↔
      (∀ r ∈ s.rules, r.appliesTo o = true → ∀ x ∈ es, r.Answers x.2 ps) ∧
        ((s.rules.filter fun r => r.appliesTo o && es.any fun x => r.hits x.2 ps).map fun r =>
          (r, findings o ps es r)) = ms ∧ es.length = n := by
  constructor
  · intro h
    have hrun := h
    rw [findMatches] at hrun
    obtain ⟨found, hcollect, -⟩ := exists_of_bind_eq_ok hrun
    have hanswers := answers_of_collect hcollect
    rw [findMatches_eq hanswers] at h
    obtain ⟨hms, hn⟩ := Prod.mk.inj (Except.ok.inj h)
    exact ⟨hanswers, hms, hn⟩
  · rintro ⟨hanswers, rfl, rfl⟩
    exact findMatches_eq hanswers

end Log

/-! ### Narrower origins -/

theorem Matching.findings_of_appliesTo {ps : Placeholders} {es : List (Nat × Entry)} {r : Rule}
    (ha : r.appliesTo a = true) (hb : r.appliesTo b = true) :
    findings a ps es r = findings b ps es r := by
  simp only [findings, Rule.finding, ha, hb]

section Congruence

variable (h : ∀ r : Rule, r.appliesTo a = r.appliesTo b) (ps : Placeholders) (rs : List Rule)
include h

/-- Matching knows of an origin only which rules apply to it. -/
theorem Matching.verdicts_congr (e : Entry) : verdicts a e ps rs = verdicts b e ps rs := by
  induction rs with
  | nil => rfl
  | cons r rs ih => rw [verdicts, verdicts, Rule.accepts, Rule.accepts, h, ih]

theorem Matching.collect_congr (found : Found) (es : List (Nat × Entry)) :
    collect rs a ps found es = collect rs b ps found es := by
  induction es generalizing found with
  | nil => rfl
  | cons x es ih => simp only [collect, row, verdicts_congr h, ih]

end Congruence

/-- **Describing the origin only narrows the matches.**  Let an origin agree, but for letter case,
with every attribute that another one names.  If the rules give an answer for the other origin, so
they do for this one: those that match an entry are among those for the other origin, in the same
order, and so are those that match in a log, each with the same lines and outcomes.  If the
origins differ by letter case only, the answers are the same. -/
theorem narrower_origin_matches_less (s : RuleSet) (h : a.Narrows b) (ps : Placeholders) :
    (∀ e found, s.matching b e ps = .ok found →
      ∃ fewer, s.matching a e ps = .ok fewer ∧ fewer.Sublist found) ∧
    (∀ es ms n, s.findMatches b ps es = .ok (ms, n) →
      ∃ fewer, s.findMatches a ps es = .ok (fewer, n) ∧ fewer.Sublist ms) ∧
    (a.lowered = b.lowered →
      (∀ e, s.matching a e ps = s.matching b e ps) ∧
        ∀ es, s.findMatches a ps es = s.findMatches b ps es) := by
  have happlies : ∀ r : Rule, r.appliesTo a = true → r.appliesTo b = true :=
    fun r => Rule.appliesTo_of_narrows h
  have hfilter : ∀ p : Rule → Bool, (s.rules.filter fun r => r.appliesTo a && p r).Sublist
      (s.rules.filter fun r => r.appliesTo b && p r) := by
    refine fun p => List.monotone_filter_right _ fun r hr => ?_
    obtain ⟨ha, hp⟩ := Bool.and_eq_true_iff.mp hr
    exact Bool.and_eq_true_iff.mpr ⟨happlies r ha, hp⟩
  refine ⟨fun e found hfound => ?_, fun es ms n hms => ?_, fun hlower => ?_⟩
  · obtain ⟨hanswers, rfl⟩ := RuleSet.matching_eq_ok_iff.mp hfound
    refine ⟨_, RuleSet.matching_eq_ok_iff.mpr ⟨fun r hr ha => ?_, rfl⟩, hfilter _⟩
    exact hanswers r hr (happlies r ha)
  · obtain ⟨hanswers, rfl, rfl⟩ := RuleSet.findMatches_eq_ok_iff.mp hms
    refine ⟨_, RuleSet.findMatches_eq_ok_iff.mpr
      ⟨fun r hr ha => hanswers r hr (happlies r ha), rfl, rfl⟩, ?_⟩
    -- a rule that applies to both finds the same
    have hsame : ∀ r ∈ s.rules.filter fun r => r.appliesTo a && es.any fun x => r.hits x.2 ps,
        (r, findings a ps es r) = (r, findings b ps es r) := by
      intro r hr
      have ha : r.appliesTo a = true :=
        (Bool.and_eq_true_iff.mp (List.mem_filter.mp hr).2).1
      rw [findings_of_appliesTo ha (happlies r ha)]
    rw [List.map_congr_left hsame]
    exact (hfilter _).map _
  · have hsame : ∀ r : Rule, r.appliesTo a = r.appliesTo b := Rule.appliesTo_congr hlower
    refine ⟨fun e => ?_, fun es => ?_⟩
    · rw [RuleSet.matching, RuleSet.matching, verdicts_congr hsame]
    · rw [RuleSet.findMatches, RuleSet.findMatches, collect_congr hsame]

/-- Two rules for the same error, one of Linux and one of Windows. -/
def errorRules : RuleSet :=
  let rule (title : String) (source : LogSource) : Rule :=
    { title, expr := .search ⟨none, [], ["error"]⟩, logSource := some source }
  { rules :=
      [rule "linux" { product := some "linux" },
        rule "windows" { product := some "WINDOWS", category := some "" }]
    nonempty := List.cons_ne_nil _ _
    distinctIds := by simp [RuleSet.DistinctIds, rule] }

/-- The statement at a log of Windows hosts.  Only where the product is named, the rule for another
one is left out. -/
theorem sample_narrower_origin :
    let e : Entry := { message := "an error" }
    let a : Origin := { product := some "Windows", service := some "security" }
    let b : Origin := { service := some "Security", category := some "" }
    a.Narrows b ∧
      (∃ found fewer, errorRules.matching b e [] = .ok found ∧
        found.map Rule.title = ["linux", "windows"] ∧ errorRules.matching a e [] = .ok fewer ∧
        fewer.map Rule.title = ["windows"] ∧ fewer.Sublist found) ∧
      ∃ ms fewer, errorRules.findMatches b [] [(1, e)] = .ok (ms, 1) ∧
        errorRules.findMatches a [] [(1, e)] = .ok (fewer, 1) ∧ fewer.Sublist ms := by
  have hmatch : ∀ r ∈ errorRules.rules, r.matchesEntry { message := "an error" } [] = .ok true := by
    decide +kernel
  have hanswers : ∀ r ∈ errorRules.rules, r.Answers { message := "an error" } [] := by
    intro r hr
    refine ⟨true, hmatch r hr, fun _ => ?_⟩
    simp only [errorRules, List.mem_cons, List.not_mem_nil, or_false] at hr
    rcases hr with rfl | rfl <;> exact ⟨_, rfl⟩
  intro e a b
  have h : a.Narrows b := ⟨.inl rfl, .inr (by decide +kernel), .inl rfl⟩
  have hfound := RuleSet.matching_eq_ok_iff.mpr
    ⟨fun r hr (_ : r.appliesTo b = true) => ⟨true, hmatch r hr⟩, rfl⟩
  obtain ⟨fewer, hfewer, hsub⟩ := (narrower_origin_matches_less errorRules h []).1 e _ hfound
  obtain ⟨-, rfl⟩ := RuleSet.matching_eq_ok_iff.mp hfewer
  have hlines : ∀ r ∈ errorRules.rules, r.appliesTo b = true → ∀ x ∈ [(1, e)], r.Answers x.2 [] :=
    fun r hr _ => List.forall_mem_singleton.mpr (hanswers r hr)
  have hlog := RuleSet.findMatches_eq_ok_iff.mpr ⟨hlines, rfl, rfl⟩
  obtain ⟨ms, hms, hmsSub⟩ := (narrower_origin_matches_less errorRules h []).2.1 _ _ _ hlog
  exact ⟨h, ⟨_, _, hfound, by decide +kernel, hfewer, by decide +kernel, hsub⟩,
    _, _, hlog, hms, hmsSub⟩

end SigmaRules
