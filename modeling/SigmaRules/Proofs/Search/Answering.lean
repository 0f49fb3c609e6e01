/-
SigmaRules/Proofs/Search/Answering.lean

When searches answer.  A search whose regular expressions have no counts
beyond what can be read always has an answer, whatever else is wrong with it:
with a problem it matches nothing (`exists_succeeds`).  So expressions of
such searches have outcomes (`evaluation_answers`).

The engine remembers the text of a group by the places of its two ends.  Within
possessive repetitions it does not set them back when an attempt fails.  If a later
attempt then goes past the group, it can end up with a group that ends before it starts,
and stop there.  Expressions for which this can be so are left out (`Node.KeepsSpans`).

Searches that are not for regular expressions have no counts at all
(`fits_expression`), and all expressions start with an anchor or a group
(`headed_expression`), so they are read or malformed, and nothing else.
-/
import SigmaRules.Proofs.Expr.Brief
import SigmaRules.Proofs.Pattern.Glob
import SigmaRules.Proofs.Regex.Faults
import SigmaRules.Proofs.Search.Validity

namespace SigmaRules

open Regex Pattern

/-! ### Groups in possessive repetitions -/

namespace Regex.Node

/-- Is there a group in the tree whose text is kept? -/
def hasCaptures : Node → Bool
  | .empty | .char _ | .anchor _ | .backref .. => false
  | .seq a b | .alt a b | .conditional _ a b => a.hasCaptures || b.hasCaptures
  | .group i b => i.isSome || b.hasCaptures
  | .atomic b | .ahead _ b | .behind _ _ b | .times _ _ _ b => b.hasCaptures

/-- Is there such a group that the tree can be matched without? -/
def hasLooseCaptures : Node → Bool
  | .empty | .char _ | .anchor _ | .backref .. => false
  | .seq a b => a.hasLooseCaptures || b.hasLooseCaptures
  | .group _ b | .atomic b => b.hasLooseCaptures
  | .alt a b | .conditional _ a b => a.hasCaptures || b.hasCaptures
  | .ahead _ b | .behind _ _ b | .times _ _ _ b => b.hasCaptures

/-- All groups whose texts are kept are passed each time a possessive repetition goes around. -/
def KeepsSpans : Node → Prop
  | .empty | .char _ | .anchor _ | .backref .. => True
  | .seq a b | .alt a b | .conditional _ a b => a.KeepsSpans ∧ b.KeepsSpans
  | .group _ b | .atomic b | .ahead _ b | .behind _ _ b => b.KeepsSpans
  | .times _ _ greed b => (greed = .possessive → b.hasLooseCaptures = false) ∧ b.KeepsSpans

instance decidableKeepsSpans : DecidablePred KeepsSpans
  | .empty | .char _ | .anchor _ | .backref .. => .isTrue trivial
  | .seq a b | .alt a b | .conditional _ a b =>
    have := decidableKeepsSpans a
    have := decidableKeepsSpans b
    inferInstanceAs (Decidable (a.KeepsSpans ∧ b.KeepsSpans))
  | .group _ b | .atomic b | .ahead _ b | .behind _ _ b => decidableKeepsSpans b
  | .times _ _ greed b =>
    have := decidableKeepsSpans b
    inferInstanceAs
      (Decidable ((greed = .possessive → b.hasLooseCaptures = false) ∧ b.KeepsSpans))

end Regex.Node

/-! ### Texts without counts -/

theorem Regex.Countless.escapeChar (c : Char) : Countless (escapeChar c) := by
  rw [Pattern.escapeChar]
  split
  case isTrue => exact .escaped c
  case isFalse hc =>
    refine .plain fun d hd => ?_
    obtain rfl : d = c := by simpa using hd
    constructor <;> rintro rfl <;> exact hc rfl

theorem Regex.Countless.escape (s : List Char) : Countless (escape s) :=
  .flatMap fun c _ => .escapeChar c

theorem Regex.Countless.glob (s : List Char) : Countless (glob s) := by
  rw [glob_eq_flatMap]
  refine .flatMap fun c _ => ?_
  rw [globChar]
  split
  · exact .plain (by simp)
  split
  · exact .plain (by simp)
  · exact .escapeChar c

namespace Search

theorem fits_alternatives {es : List (List Char)} (h : ∀ e ∈ es, fits e = true) :
    fits (alternatives es) = true := by
  induction es with
  | nil => rfl
  | cons e es ih =>
    rcases es with - | ⟨f, es⟩
    · exact h e (by simp)
    · exact fits_append_cons (.inl rfl) (h e (by simp)) (ih fun g hg => h g (by simp [hg]))

/-- An expression in parentheses, with nothing or an anchor after it. -/
theorem fits_grouped_append {e stop : List Char} (he : fits e = true) (hstop : fits stop = true) :
    fits (grouped e ++ stop) = true := by
  have hopen : Countless "(?:".toList := .plain (by simp)
  rw [grouped, List.append_assoc, List.append_assoc, hopen]
  exact fits_append_cons (.inr rfl) he hstop

theorem fits_grouped {e : List Char} (h : fits e = true) : fits (grouped e) = true := by
  have hgrouped := fits_grouped_append h (show fits [] = true from rfl)
  rwa [List.append_nil] at hgrouped

/-! ### Expressions of searches -/

/-- Flags at the start of an expression become those of a group. -/
theorem scopeFlags_cases (s : List Char) :
    scopeFlags s = s ∨ ∃ letters body, letters ≠ [] ∧ (∀ c ∈ letters, isLeadingFlag c = true) ∧
      s = '(' :: '?' :: letters ++ ')' :: body ∧
      scopeFlags s = '(' :: '?' :: letters ++ ':' :: body ++ [')'] := by
  unfold scopeFlags
  split
  case h_2 => exact .inl rfl
  case h_1 rest =>
    split
    case h_1 => exact .inl rfl
    case h_3 => exact .inl rfl
    case h_2 body hdrop hne =>
      refine .inr ⟨rest.takeWhile isLeadingFlag, body, hne, ?_, ?_, rfl⟩
      · exact fun c hc => List.all_eq_true.mp List.all_takeWhile c hc
      · rw [← hdrop, List.cons_append, List.cons_append, List.takeWhile_append_dropWhile]

theorem fits_scopeFlags {s : List Char} (h : fits s = true) : fits (scopeFlags s) = true := by
  rcases scopeFlags_cases s with hsame | ⟨letters, body, -, hletters, rfl, hscoped⟩
  · rwa [hsame]
  · have hstart : Countless ('(' :: '?' :: letters) := by
      refine .plain fun c hc => ?_
      rcases List.mem_cons.mp hc with rfl | hc
      · decide
      rcases List.mem_cons.mp hc with rfl | hc
      · decide
      · have hc := hletters c hc
        constructor <;> rintro rfl <;> exact absurd hc (by decide)
    have hclose : Countless [')'] := .plain (by simp)
    have hcolon : Countless [':'] := .plain (by simp)
    have hbody : fits body = true := ((hclose body).symm.trans (hstart _).symm).trans h
    rw [hscoped, List.append_assoc, hstart]
    exact (hcolon _).trans (fits_append_cons (.inr rfl) hbody rfl)

theorem fits_expression {modifiers : List Modifier} {p : String}
    (h : .re ∈ modifiers → fits p.toList = true) (field : Option String) :
    fits (expression modifiers field p) = true := by
  have hescaped : ∀ ts : List (List Char), fits (grouped (alternatives (ts.map escape))) = true :=
    fun ts => fits_grouped <| fits_alternatives <| by
      simpa using fun t _ => (Countless.escape t).fits
  rw [expression]
  split
  case isTrue hre => exact fits_grouped (fits_scopeFlags (h (by simpa using hre)))
  split
  case isTrue => exact hescaped _
  case isFalse =>
    -- anchors have no counts
    have hstart : ∀ b : Bool, Countless (if b then [] else ['^']) := by
      rintro (- | -) <;> exact .plain (by simp)
    have hstop : ∀ b : Bool, fits (if b then [] else ['\\', 'Z']) = true := by
      rintro (- | -)
      · exact (Countless.escaped 'Z').fits
      · rfl
    rw [plainExpression, List.append_assoc, hstart]
    refine fits_grouped_append ?_ (hstop _)
    split
    · exact hescaped _
    · exact (Countless.glob _).fits

theorem headed_grouped (e stop : List Char) : Headed (grouped e ++ stop) :=
  .inr ⟨e ++ [')'] ++ stop, by simp [grouped]⟩

/-- Every expression starts with an anchor or a group. -/
theorem headed_expression (modifiers : List Modifier) (field : Option String) (p : String)
    (rest : List Char) : Headed (expression modifiers field p ++ rest) := by
  rw [expression]
  split
  · exact headed_grouped (scopeFlags p.toList) rest
  split
  · exact headed_grouped _ rest
  · rw [plainExpression, List.append_assoc, List.append_assoc]
    split
    · exact headed_grouped _ _
    · exact .inl ⟨_, rfl⟩

theorem headed_alternatives {modifiers : List Modifier} {field : Option String} {ps : List String}
    (hne : ps ≠ []) : Headed (alternatives (ps.map (expression modifiers field))) := by
  rcases ps with - | ⟨p, - | ⟨q, ps⟩⟩
  · exact absurd rfl hne
  · rw [List.map_singleton, alternatives, ← List.append_nil (expression modifiers field p)]
    exact headed_expression modifiers field p []
  · exact headed_expression modifiers field p _

/-! ### Searches -/

/-- Whatever is wrong with an expression without large counts, it is malformed. -/
theorem exists_readRegex (f : Flags) {e : List Char} (hhead : Headed e) (hfits : fits e = true) :
    ∃ n, readRegex f e = .ok n ∧ (parse f e = .error .malformed → n = none) := by
  rcases parse_cases f hhead hfits with h | ⟨n, h⟩
  · exact ⟨none, by rw [readRegex, h], fun _ => rfl⟩
  · exact ⟨some n, by rw [readRegex, h], fun hbad => by simp [h] at hbad⟩

theorem checkRegexes_ne_fault {ps : List String} (h : ∀ p ∈ ps, fits p.toList = true) (f : Fault) :
    checkRegexes ps ≠ .error (.fault f) := by
  induction ps with
  | nil => simp [checkRegexes]
  | cons p ps ih =>
    have hfits : fits (regexSource p) = true := fits_grouped (fits_scopeFlags (h p (by simp)))
    have hhead : Headed (regexSource p) := .inr ⟨_, rfl⟩
    obtain ⟨n, hn, -⟩ := exists_readRegex {} hhead hfits
    rw [checkRegexes, hn]
    rcases n with - | n
    · simp
    · exact ih fun q hq => h q (by simp [hq])

theorem checkNetworks_ne_fault (ps : List String) (f : Fault) :
    checkNetworks ps ≠ .error (.fault f) := by
  induction ps with
  | nil => simp [checkNetworks]
  | cons p ps ih =>
    rw [checkNetworks]
    split
    · exact ih
    · simp

theorem map_eq_fault {α β : Type} {x : Except (Failure SearchProblem) α} {g : α → β} {f : Fault}
    (h : x.map g = .error (.fault f)) : x = .error (.fault f) := by
  rcases x with e | a
  · exact congrArg Except.error (Except.error.inj h)
  · cases h

/-- The regular expressions that the search looks for have no counts beyond what can be read. -/
def CountsFit (s : Search) (ps : Placeholders) : Prop :=
  .re ∈ s.modifiers → ∀ p ∈ s.resolve ps, fits p.toList = true

/-- What is asked of a search for regular expressions so that it has an answer. -/
structure Answerable (s : Search) (ps : Placeholders) : Prop where
  counts : s.CountsFit ps
  spans : .re ∈ s.modifiers → ∀ e ∈ s.sources (s.resolve ps),
    ∀ n ∈ (parse { ignoreCase := true } e).toOption, n.KeepsSpans

/-- What keeps a search from matching anything. -/
inductive IsFaulty (s : Search) (ps : Placeholders) : Prop
  /-- A modifier or a pattern is not valid. -/
  | invalid (q : SearchProblem) (h : s.kind = .error (.invalid q))
  /-- The placeholders have no values. -/
  | unresolved (h : s.resolve ps = [])
  /-- No pattern is a block of addresses. -/
  | noBlocks (hcidr : .cidr ∈ s.modifiers)
      (h : ∀ p ∈ s.resolve ps, Network.Block.ofText? p = none)
  /-- The patterns make no regular expression. -/
  | malformed (hcidr : .cidr ∉ s.modifiers) (e : List Char) (he : e ∈ s.sources (s.resolve ps))
      (h : parse { ignoreCase := true } e = .error .malformed)

variable {s : Search} {ps : Placeholders}

theorem kind_ne_fault (h : s.CountsFit ps) (f : Fault) : s.kind ≠ .error (.fault f) := by
  rw [kind, check]
  split
  · simp
  split
  · simp
  case h_2 k hk =>
    split
    · simp
    case isFalse hexpand =>
      have hresolve : s.resolve ps = s.patterns := by rw [resolve, has, if_neg hexpand]
      cases k with
      | glob => simp
      | regex =>
        have hre : .re ∈ s.modifiers := re_mem_of_checkModifiers hk (by decide)
        exact fun hf => checkRegexes_ne_fault (hresolve ▸ h hre) f (map_eq_fault hf)
      | network => exact fun hf => checkNetworks_ne_fault _ f (map_eq_fault hf)

theorem matchesNetworks_eq_false {patterns : List String}
    (h : ∀ p ∈ patterns, Network.Block.ofText? p = none) (value : String) :
    matchesNetworks patterns value = false := by
  have hnone : patterns.filterMap Network.Block.ofText? = [] := List.filterMap_eq_nil_iff.mpr h
  rw [matchesNetworks, hnone]
  split <;> rfl

/-- Expressions without large counts have an answer, and it is no if one of them is malformed. -/
theorem exists_matchesAllOf {es : List (List Char)} (h : ∀ e ∈ es, Headed e ∧ fits e = true)
    (value : List Char) :
    ∃ b, matchesAllOf value es = .ok b ∧
      ((∃ e ∈ es, parse { ignoreCase := true } e = .error .malformed) → b = false) := by
  induction es with
  | nil => exact ⟨true, rfl, by simp⟩
  | cons e es ih =>
    obtain ⟨hhead, hfits⟩ := h e (by simp)
    obtain ⟨n, hn, hbad⟩ := exists_readRegex { ignoreCase := true } hhead hfits
    obtain ⟨b, hb, hrest⟩ := ih fun d hd => h d (by simp [hd])
    rcases n with - | n
    · exact ⟨false, by rw [matchesAllOf, hn]; rfl, fun _ => rfl⟩
    · refine ⟨b && n.search value, by rw [matchesAllOf, hn, hb]; rfl, ?_⟩
      rintro ⟨d, hd, hmal⟩
      rcases List.mem_cons.mp hd with rfl | hd
      · exact absurd (hbad hmal) (by simp)
      · rw [hrest ⟨d, hd, hmal⟩, Bool.false_and]

theorem mem_sources (h : s.CountsFit ps) (hne : s.resolve ps ≠ []) :
    ∀ e ∈ s.sources (s.resolve ps), Headed e ∧ fits e = true := by
  have hfits : ∀ p ∈ s.resolve ps, fits (expression s.modifiers s.field p) = true := fun p hp =>
    fits_expression (fun hre => h hre p hp) s.field
  intro e he
  rw [sources] at he
  split at he
  · obtain ⟨p, hp, rfl⟩ := List.mem_map.mp he
    have hhead := headed_expression s.modifiers s.field p []
    rw [List.append_nil] at hhead
    exact ⟨hhead, hfits p hp⟩
  · obtain rfl := List.mem_singleton.mp he
    exact ⟨headed_alternatives hne, fits_alternatives (by simpa using hfits)⟩

/-- **Searches without large counts answer**, and those with a problem match nothing. -/
theorem exists_succeeds (h : s.CountsFit ps) (e : Entry) :
    ∃ b, s.succeeds e ps = .ok b ∧ (s.IsFaulty ps → b = false) := by
  rw [succeeds]
  split
  case h_1 f hf => exact absurd hf (kind_ne_fault h f)
  case h_2 => exact ⟨false, rfl, fun _ => rfl⟩
  case h_3 k hk =>
    by_cases hne : s.resolve ps = []
    · exact ⟨false, by simp [hne], fun _ => rfl⟩
    have hempty : (s.resolve ps).isEmpty = false := by simpa using hne
    simp only [hempty, Bool.false_eq_true, if_false, matchesText]
    split
    case isTrue hcidr =>
      refine ⟨_, rfl, fun hfault => ?_⟩
      cases hfault with
      | invalid q hq => simp [hk] at hq
      | unresolved hnil => exact absurd hnil hne
      | noBlocks _ hnone => exact matchesNetworks_eq_false hnone _
      | malformed hno => exact absurd (by simpa [has] using hcidr) hno
    case isFalse hcidr =>
      obtain ⟨b, hb, hmal⟩ := exists_matchesAllOf (mem_sources h hne) (s.inspected e).toList
      refine ⟨b, hb, fun hfault => ?_⟩
      cases hfault with
      | invalid q hq => simp [hk] at hq
      | unresolved hnil => exact absurd hnil hne
      | noBlocks hyes => exact absurd (by simpa [has] using hyes) hcidr
      | malformed _ d hd hbad => exact hmal ⟨d, hd, hbad⟩

end Search

/-! ### Expressions -/

/-- **Evaluation answers.**  If no regular expression that an expression of searches looks for
has a count beyond what can be read, or a group in a possessive repetition that can go around
without it, each evaluation of it has an outcome, whatever the entry, the values of placeholders and
the modifiers and patterns of the searches are.  A search with a problem matches nothing. -/
theorem evaluation_answers {x : Expr} {ps : Placeholders} (h : ∀ s ∈ x.searches, s.Answerable ps)
    (e : Entry) (brief : Bool) (t : Tally) :
    (∃ o t', x.evaluate ⟨e, ps, brief⟩ t = .ok (o, t')) ∧
      ∀ s ∈ x.searches, s.IsFaulty ps → s.succeeds e ps = .ok false := by
  constructor
  · obtain ⟨o, ho⟩ := Expr.exists_outcome (e := e) x fun s hs =>
      (Search.exists_succeeds (h s hs).counts e).imp fun _ => And.left
    rcases brief with - | -
    · exact ⟨o, _, by rw [Expr.evaluate_eq, ho]; rfl⟩
    · exact ⟨o.pruned, _, by rw [Expr.evaluate_eq, Expr.outcome_brief ho]; rfl⟩
  · intro s hs hfault
    obtain ⟨b, hb, hbad⟩ := Search.exists_succeeds (h s hs).counts e
    rw [hb, hbad hfault]

/-- The statement at a placeholder that stands for half a group, beside a count of two and a
possessive repetition of a group. -/
theorem sample_evaluation_answers :
    let half : Search := ⟨none, [.expand, .re], ["%Half%"]⟩
    let x : Expr := .or [.search half, .search ⟨none, [.re], ["a\x7b2\x7d", "(?:(b)a)++"]⟩]
    let ps : Placeholders := [("Half", ["("])]
    (∀ s ∈ x.searches, s.Answerable ps) ∧ half.IsFaulty ps ∧
      (∃ o t, x.evaluate ⟨{ message := "aa" }, ps, true⟩ {} = .ok (o, t)) ∧
      half.succeeds { message := "aa" } ps = .ok false := by
  intro half x ps
  have hanswerable : ∀ s ∈ x.searches, s.Answerable ps := by
    simp only [x, Expr.searches, Expr.searchesOf, List.cons_append, List.nil_append,
      List.forall_mem_cons, List.not_mem_nil, false_implies, implies_true, and_true]
    exact ⟨⟨fun _ => by decide, fun _ => by decide⟩, fun _ => by decide, fun _ => by decide⟩
  have hfault : half.IsFaulty ps :=
    .malformed (by decide) "(?:()".toList (by decide) rfl
  obtain ⟨hanswer, hfails⟩ := evaluation_answers hanswerable { message := "aa" } true {}
  exact ⟨hanswerable, hfault, hanswer,
    hfails half (by simp [x, Expr.searches, Expr.searchesOf]) hfault⟩

/-- A search whose only problem is a large count has no answer. -/
theorem evaluation_fails_at_large_count :
    (Expr.search ⟨none, [.re], ["a\x7b4294967295\x7d"]⟩).evaluate ⟨{ message := "a" }, [], true⟩ {}
      = .error .countTooLarge := by
  rfl

end SigmaRules
