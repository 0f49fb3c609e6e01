/-
SigmaRules/Proofs/Matching.lean

Matching a log loses nothing, invents nothing and keeps the order.  The rules
are asked about one entry after the other, and what they say is added to what
they have found so far.  If no evaluation ends in a fault, an entry gives exactly
what the rules say about it (`row_eq`) and adds it to the matches of each rule
(`matchesOf_addRow`), so a whole log adds what each rule finds in it
(`exists_collect`), in the order of the log.  In the end the matches are listed in
the order of the rules (`listed_eq`).
-/
import Mathlib.Data.List.Forall2
import SigmaRules.Matching
import SigmaRules.Proofs.Expr.Brief

namespace SigmaRules

/-! ### What a rule says about an entry -/

namespace Rule

/-- Does the rule match the entry? -/
def hits (e : Entry) (ps : Placeholders) (r : Rule) : Bool :=
  (r.matchesEntry e ps).toOption == some true

/-- The rule is evaluated on the entry without a fault: first whether it matches,
and then, if it does, why. -/
def Answers (e : Entry) (ps : Placeholders) (r : Rule) : Prop :=
  ∃ b, r.matchesEntry e ps = .ok b ∧ (b = true → ∃ o, r.explain e ps = .ok o)

/-- The full outcome of the rule on the entry, if the rule applies and matches. -/
def finding (origin : Origin) (ps : Placeholders) (e : Entry) (r : Rule) : Option Outcome :=
  if r.appliesTo origin && r.hits e ps then (r.explain e ps).toOption else none

variable {origin : Origin} {e : Entry} {ps : Placeholders} {r : Rule}

theorem matchesEntry_eq_hits (h : r.Answers e ps) : r.matchesEntry e ps = .ok (r.hits e ps) := by
  obtain ⟨b, hb, -⟩ := h
  rw [hits, hb]
  cases b <;> rfl

theorem accepts_eq (h : r.appliesTo origin = true → r.Answers e ps) :
    r.accepts origin e ps = .ok (r.appliesTo origin && r.hits e ps) := by
  rw [accepts]
  rcases ha : r.appliesTo origin with - | -
  · rfl
  · exact matchesEntry_eq_hits (h ha)

/-- A rule that matches is explained by a success. -/
theorem exists_explain (h : r.Answers e ps) (hhit : r.hits e ps = true) :
    ∃ o, r.explain e ps = .ok o ∧ o.success = true := by
  have hm := matchesEntry_eq_hits h
  obtain ⟨b, hb, hexplain⟩ := h
  obtain rfl : b = r.hits e ps := Except.ok.inj (hb.symm.trans hm)
  obtain ⟨o, ho⟩ := hexplain hhit
  refine ⟨o, ho, ?_⟩
  exact (Except.ok.inj ((success_of_explain ho).symm.trans hm)).trans hhit

theorem finding_of_hits (ha : r.appliesTo origin = true) (hhit : r.hits e ps = true) {o : Outcome}
    (ho : r.explain e ps = .ok o) : r.finding origin ps e = some o := by
  rw [finding, ha, hhit, ho]
  rfl

theorem finding_eq_none (h : (r.appliesTo origin && r.hits e ps) = false) :
    r.finding origin ps e = none := by
  rw [finding, h]
  rfl

end Rule

namespace Matching

variable {origin : Origin} {ps : Placeholders}

/-! ### Rows -/

section Row

variable {e : Entry} {rs : List Rule}

theorem verdicts_eq (h : ∀ r ∈ rs, r.appliesTo origin = true → r.Answers e ps) :
    verdicts origin e ps rs = .ok (rs.map fun r => r.appliesTo origin && r.hits e ps) := by
  induction rs with
  | nil => rfl
  | cons r rs ih =>
    rw [verdicts, Rule.accepts_eq (h r List.mem_cons_self),
      ih fun s hs => h s (List.mem_cons_of_mem r hs)]
    rfl

theorem outcomes_eq (h : ∀ r ∈ rs, r.appliesTo origin = true → r.Answers e ps) :
    outcomes e ps rs (rs.map fun r => r.appliesTo origin && r.hits e ps)
      = .ok (rs.map (Rule.finding origin ps e)) := by
  induction rs with
  | nil => rfl
  | cons r rs ih =>
    rw [List.map_cons, outcomes_cons, ih fun s hs => h s (List.mem_cons_of_mem r hs)]
    rcases hb : r.appliesTo origin && r.hits e ps with - | -
    · rw [List.map_cons, Rule.finding_eq_none hb]
      rfl
    -- the rule matches, so it is explained
    · obtain ⟨ha, hhit⟩ := Bool.and_eq_true_iff.mp hb
      obtain ⟨o, ho, -⟩ := Rule.exists_explain (h r List.mem_cons_self ha) hhit
      rw [List.map_cons, Rule.finding_of_hits ha hhit ho, ho]
      rfl

theorem row_eq (h : ∀ r ∈ rs, r.appliesTo origin = true → r.Answers e ps) :
    row rs origin e ps = .ok (rs.map (Rule.finding origin ps e)) := by
  rw [row, verdicts_eq h]
  exact outcomes_eq h

end Row

/-! ### What a rule finds in a log -/

/-- What a rule finds in a log, with the lines. -/
def findings (origin : Origin) (ps : Placeholders) (es : List (Nat × Entry)) (r : Rule) :
    List (Nat × Outcome) :=
  es.filterMap fun x => (r.finding origin ps x.2).map fun o => (x.1, o)

section Findings

variable {r : Rule} {es : List (Nat × Entry)}

/-- An applicable rule finds the entries that it matches, in order, each with its full
outcome, which is a success. -/
theorem forall₂_findings (ha : r.appliesTo origin = true) (h : ∀ x ∈ es, r.Answers x.2 ps) :
    List.Forall₂ (fun x m => m.1 = x.1 ∧ r.explain x.2 ps = .ok m.2 ∧ m.2.success = true)
      (es.filter fun x => r.hits x.2 ps) (findings origin ps es r) := by
  induction es with
  | nil => exact .nil
  | cons x es ih =>
    have hrest := ih fun y hy => h y (List.mem_cons_of_mem x hy)
    rw [findings, List.filterMap_cons]
    by_cases hhit : r.hits x.2 ps = true
    · obtain ⟨o, ho, hs⟩ := Rule.exists_explain (h x List.mem_cons_self) hhit
      rw [List.filter_cons, if_pos hhit, Rule.finding_of_hits ha hhit ho]
      exact .cons ⟨rfl, ho, hs⟩ hrest
    · rw [List.filter_cons, if_neg hhit, Rule.finding_eq_none (by simp [hhit])]
      exact hrest

/-- A rule finds something if it applies and matches an entry. -/
theorem isEmpty_findings (h : r.appliesTo origin = true → ∀ x ∈ es, r.Answers x.2 ps) :
    (!(findings origin ps es r).isEmpty)
      = (r.appliesTo origin && es.any fun x => r.hits x.2 ps) := by
  rcases ha : r.appliesTo origin with - | -
  · have hnone : findings origin ps es r = [] := by
      rw [findings, List.filterMap_eq_nil_iff]
      intro x _
      rw [Rule.finding_eq_none (by rw [ha]; rfl)]
      rfl
    simp [hnone]
  · have hlength := (forall₂_findings ha (h ha)).length_eq
    rw [Bool.true_and, Bool.eq_iff_iff]
    rw [Bool.not_eq_true', List.isEmpty_eq_false_iff, ← List.length_pos_iff, ← hlength,
      List.length_pos_iff, ne_eq, List.filter_eq_nil_iff]
    simp

end Findings

/-! ### Collecting -/

/-- The matches that are collected for the rule at a place. -/
def matchesOf (found : Found) (place : Nat) : List (Nat × Outcome) :=
  (found.lookup place).getD []

/-- Only rules with matches are collected. -/
def Kept (found : Found) : Prop := ∀ place, found.lookup place ≠ some []

theorem kept_nil : Kept [] := fun _ => nofun

section Step

variable {found : Found} {place line q : Nat} {out : Outcome}

theorem lookup_add : (add place line out found).lookup q =
    if q = place then some (matchesOf found place ++ [(line, out)]) else found.lookup q := by
  induction found with
  | nil =>
    rw [add, List.lookup_cons]
    by_cases hq : q = place
    · simp [hq, matchesOf]
    · simp [hq, beq_false_of_ne hq]
  | cons x found ih =>
    obtain ⟨p, ms⟩ := x
    by_cases hp : p = place
    · subst hp
      rw [add, if_pos rfl, List.lookup_cons, List.lookup_cons]
      by_cases hq : q = p
      · simp [hq, matchesOf]
      · simp [hq, beq_false_of_ne hq]
    -- the match goes to the rest, where the place is as well
    · have hrest : matchesOf ((p, ms) :: found) place = matchesOf found place := by
        simp [matchesOf, List.lookup_cons, beq_false_of_ne (Ne.symm hp)]
      rw [add, if_neg hp, hrest, List.lookup_cons, List.lookup_cons, ih]
      by_cases hq : q = p
      · simp [hq, hp]
      · simp [beq_false_of_ne hq]

theorem matchesOf_add : matchesOf (add place line out found) q =
    matchesOf found q ++ if q = place then [(line, out)] else [] := by
  rw [matchesOf, lookup_add]
  split
  case isTrue hq => rw [hq, Option.getD_some]
  case isFalse => rw [List.append_nil, matchesOf]

theorem Kept.add (h : Kept found) : Kept (Matching.add place line out found) := by
  intro q
  rw [lookup_add]
  split
  case isTrue => simp
  case isFalse => exact h q

theorem Kept.addRow (h : Kept found) {xs : List (Option Outcome)} :
    Kept (Matching.addRow line place xs found) := by
  induction xs generalizing place found with
  | nil => exact h
  | cons x xs ih =>
    rcases x with - | out
    · exact ih h
    · exact ih h.add

theorem matchesOf_addRow_of_lt {xs : List (Option Outcome)} (hq : q < place) :
    matchesOf (addRow line place xs found) q = matchesOf found q := by
  induction xs generalizing place found with
  | nil => rfl
  | cons x xs ih =>
    rcases x with - | out <;> rw [addRow, ih (Nat.lt_succ_of_lt hq)]
    rw [matchesOf_add, if_neg (Nat.ne_of_lt hq), List.append_nil]

/-- A row adds to the matches of each rule what it has for it. -/
theorem matchesOf_addRow {xs : List (Option Outcome)} {i : Nat} :
    matchesOf (addRow line place xs found) (place + i) =
      matchesOf found (place + i) ++ (xs[i]?.join.map fun o => (line, o)).toList := by
  induction xs generalizing place found i with
  | nil => simp [addRow]
  | cons x xs ih =>
    rcases i with - | i
    · have hlt : place < place + 1 := Nat.lt_succ_self place
      rw [Nat.add_zero place]
      rcases x with - | out <;> rw [addRow, matchesOf_addRow_of_lt hlt]
      · simp
      · rw [matchesOf_add, if_pos rfl]
        rfl
    · rw [show place + (i + 1) = place + 1 + i by omega, List.getElem?_cons_succ]
      rcases x with - | out <;> rw [addRow, ih]
      rw [matchesOf_add, if_neg (by omega), List.append_nil]

end Step

/-- **A log is collected** without a fault, and adds to the matches of each rule what the rule
finds in it. -/
theorem exists_collect {rs : List Rule} {es : List (Nat × Entry)}
    (h : ∀ r ∈ rs, r.appliesTo origin = true → ∀ x ∈ es, r.Answers x.2 ps) {found : Found}
    (hfound : Kept found) :
    ∃ found', collect rs origin ps found es = .ok found' ∧ Kept found' ∧
      ∀ i r, rs[i]? = some r →
        matchesOf found' i = matchesOf found i ++ findings origin ps es r := by
  induction es generalizing found with
  | nil => exact ⟨found, rfl, hfound, fun i r _ => (List.append_nil _).symm⟩
  | cons x es ih =>
    obtain ⟨line, e⟩ := x
    have hrow := row_eq fun r hr ha => h r hr ha (line, e) List.mem_cons_self
    set xs := rs.map (Rule.finding origin ps e) with hxs
    have hadded : Kept (addRow line 0 xs found) := hfound.addRow
    obtain ⟨found', hcollect, hkept, hrest⟩ :=
      ih (fun r hr ha y hy => h r hr ha y (List.mem_cons_of_mem _ hy)) hadded
    refine ⟨found', ?_, hkept, fun i r hr => ?_⟩
    · rw [collect, hrow]
      exact hcollect
    · have hfirst : matchesOf (addRow line 0 xs found) (0 + i) = _ := matchesOf_addRow
      rw [Nat.zero_add, hxs, List.getElem?_map, hr] at hfirst
      rw [hrest i r hr, hfirst, List.append_assoc]
      rcases hx : r.finding origin ps e with - | out <;> simp [hx, findings]

/-- What is collected is listed by rules, without those that find nothing. -/
theorem listed_eq {found : Found} (hfound : Kept found) {rs : List Rule} {place : Nat}
    {f : Rule → List (Nat × Outcome)}
    (h : ∀ i r, rs[i]? = some r → matchesOf found (place + i) = f r) :
    listed found place rs = (rs.map fun r => (r, f r)).filter fun m => !m.2.isEmpty := by
  induction rs generalizing place with
  | nil => rfl
  | cons r rs ih =>
    have hfirst : matchesOf found place = f r := h 0 r rfl
    have hrest : listed found (place + 1) rs = _ := ih fun i s hs => by
      rw [← h (i + 1) s hs, Nat.add_right_comm, Nat.add_assoc]
    rw [listed, List.map_cons, List.filter_cons, ← hfirst, matchesOf]
    rcases hlookup : found.lookup place with - | ms
    · simpa using hrest
    · have hne : ms ≠ [] := fun hms => hfound place (hms ▸ hlookup)
      simpa [hne] using hrest

end Matching

/-! ### Matching a log -/

open Matching

/-- The matches of a log are what the rules find in it that apply and match an entry. -/
theorem RuleSet.findMatches_eq {s : RuleSet} {origin : Origin} {ps : Placeholders}
    {es : List (Nat × Entry)}
    (h : ∀ r ∈ s.rules, r.appliesTo origin = true → ∀ x ∈ es, r.Answers x.2 ps) :
    s.findMatches origin ps es =
      .ok ((s.rules.filter fun r => r.appliesTo origin && es.any fun x => r.hits x.2 ps).map
        fun r => (r, findings origin ps es r), es.length) := by
  obtain ⟨found, hcollect, hkept, hfound⟩ := exists_collect h kept_nil
  have hlisted : listed found 0 s.rules = _ := listed_eq hkept fun i r hr => by
    rw [Nat.zero_add]
    exact hfound i r hr
  have hnonempty : ∀ r ∈ s.rules, (!(findings origin ps es r).isEmpty) = _ :=
    fun r hr => isEmpty_findings (h r hr)
  rw [List.filter_map] at hlisted
  rw [findMatches, hcollect, ← List.filter_congr hnonempty]
  exact congrArg (fun ms => Except.ok (ms, es.length)) hlisted

/-- **Matching a log** neither loses nor invents a match and keeps the order, if no
evaluation ends in a fault.  It counts the entries.  The rules with matches are,
in the order of the set, those that apply to the origin and match an entry; and the
matches of a rule are, in the order of the log, the entries that it matches, each
with the full outcome, which is a success. -/
theorem findMatches_transposes (s : RuleSet) (origin : Origin) (ps : Placeholders)
    (es : List (Nat × Entry))
    (h : ∀ r ∈ s.rules, r.appliesTo origin = true → ∀ x ∈ es, r.Answers x.2 ps) :
    ∃ ms, s.findMatches origin ps es = .ok (ms, es.length) ∧
      ms.map Prod.fst
        = s.rules.filter (fun r => r.appliesTo origin && es.any fun x => r.hits x.2 ps) ∧
      ∀ m ∈ ms,
        List.Forall₂ (fun x hit => hit.1 = x.1 ∧ m.1.explain x.2 ps = .ok hit.2 ∧
          hit.2.success = true) (es.filter fun x => m.1.hits x.2 ps) m.2 := by
  refine ⟨_, RuleSet.findMatches_eq h, ?_, fun m hm => ?_⟩
  · rw [List.map_map]
    exact List.map_id _
  · obtain ⟨r, hr, rfl⟩ := List.mem_map.mp hm
    obtain ⟨hr, hfound⟩ := List.mem_filter.mp hr
    have happlies := (Bool.and_eq_true_iff.mp hfound).1
    exact forall₂_findings happlies (h r hr happlies)

/-- The statement for three rules and a log of two entries: one rule is written for
another product, one matches no entry, one matches the second. -/
theorem sample_findMatches_transposes :
    let found : Rule := { title := "found", expr := .search ⟨none, [], ["error"]⟩ }
    let missed : Rule := { title := "missed", expr := .search ⟨none, [], ["none"]⟩ }
    let other : Rule :=
      { title := "other", expr := .search ⟨none, [], ["error"]⟩,
        logSource := some { product := some "linux" } }
    let s : RuleSet := ⟨[other, missed, found], nofun, by simp [RuleSet.DistinctIds]⟩
    let origin : Origin := { product := some "windows" }
    let es : List (Nat × Entry) := [(1, { message := "fine" }), (2, { message := "an error" })]
    ∃ ms, s.findMatches origin [] es = .ok (ms, 2) ∧
      ms.map Prod.fst
        = s.rules.filter (fun r => r.appliesTo origin && es.any fun x => r.hits x.2 []) ∧
      ∀ m ∈ ms,
        List.Forall₂ (fun x hit => hit.1 = x.1 ∧ m.1.explain x.2 [] = .ok hit.2 ∧
          hit.2.success = true) (es.filter fun x => m.1.hits x.2 []) m.2 := by
  have hmissed : ∀ text ∈ ["fine", "an error"], Rule.Answers { message := text } []
      { title := "missed", expr := .search ⟨none, [], ["none"]⟩ } := by
    simp only [List.forall_mem_cons]
    exact ⟨⟨false, rfl, nofun⟩, ⟨false, rfl, nofun⟩, by simp⟩
  have hfound : ∀ text ∈ ["fine", "an error"], Rule.Answers { message := text } []
      { title := "found", expr := .search ⟨none, [], ["error"]⟩ } := by
    simp only [List.forall_mem_cons]
    exact ⟨⟨false, rfl, nofun⟩, ⟨true, rfl, fun _ => ⟨_, rfl⟩⟩, by simp⟩
  intro found missed other s origin es
  have hother : ¬ other.appliesTo origin = true := Bool.false_ne_true
  refine findMatches_transposes s origin [] es ?_
  simp only [s, es, List.forall_mem_cons]
  refine ⟨fun ha => absurd ha hother, fun _ => ⟨?_, ?_, by simp⟩, fun _ => ⟨?_, ?_, by simp⟩,
    by simp⟩
  · exact hmissed "fine" (by simp)
  · exact hmissed "an error" (by simp)
  · exact hfound "fine" (by simp)
  · exact hfound "an error" (by simp)

end SigmaRules
