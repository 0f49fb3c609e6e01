/-
SigmaRules/Proofs/Search/Validity.lean

Which searches are valid.  The modifiers are checked one by one, with the kind of
patterns found so far, but what comes of it can be said of the modifiers as a whole
(`checkModifiers_eq_ok_iff`).  In that form the order is gone but for `expand`, which
stands first, and so a search is valid if and only if its modifiers fit together, it
has patterns, and all of these can be read (`kind_eq_ok_iff`).

The patterns are checked one by one as well, so the searches for some of them are
valid if the search for all is (`kind_of_subset`).
-/
import Mathlib.Data.List.Basic
import SigmaRules.Search.Check

namespace SigmaRules.Search

open Regex

/-! ### Modifiers -/

/-- The kind of patterns that modifiers say, if they are of another kind without them. -/
def kindFrom (kind : PatternKind) (ms : List Modifier) : PatternKind :=
  if .re ∈ ms then .regex else if .cidr ∈ ms then .network else kind

/-- The kind of patterns that modifiers say. -/
def kindOf (ms : List Modifier) : PatternKind := kindFrom .glob ms

@[simp] theorem kindFrom_nil (kind : PatternKind) : kindFrom kind [] = kind := rfl

theorem kindFrom_of_ne (kind : PatternKind) {m : Modifier} (ms : List Modifier) (hre : m ≠ .re)
    (hcidr : m ≠ .cidr) : kindFrom kind (m :: ms) = kindFrom kind ms := by
  simp [kindFrom, Ne.symm hre, Ne.symm hcidr]

/-- Modifiers fit together, and with the patterns.  If others stand before them, they are not
the `first` ones, and the patterns are of a kind already. -/
@[mk_iff]
structure ModifiersFit (patterns : List String) (first : Bool) (kind : PatternKind)
    (ms : List Modifier) : Prop where
  /-- All of them are known. -/
  known : ∀ m ∈ ms, m.isKnown = true
  /-- `expand` is at most the very first one. -/
  expand_first : .expand ∉ if first then ms.tail else ms
  /-- With `expand`, the patterns are placeholders. -/
  placeholders : .expand ∈ ms → ∀ p ∈ patterns, Pattern.isPlaceholder p.toList = true
  /-- Patterns are not regular expressions and blocks of addresses at once. -/
  one_kind : ¬ ((kind = .regex ∨ .re ∈ ms) ∧ (kind = .network ∨ .cidr ∈ ms))

namespace ModifiersFit

variable {patterns : List String} {first : Bool} {kind : PatternKind} {m : Modifier}
  {ms : List Modifier}

/-- After another modifier, `expand` may not stand anywhere. -/
theorem expand_first_cons (hm : m ≠ .expand) :
    (.expand ∉ if first then (m :: ms).tail else m :: ms) ↔ .expand ∉ ms := by
  cases first <;> simp [Ne.symm hm]

/-- A modifier that says nothing about the kind of patterns is passed over. -/
theorem cons_iff (hknown : m.isKnown = true) (hexpand : m ≠ .expand) (hre : m ≠ .re)
    (hcidr : m ≠ .cidr) :
    ModifiersFit patterns first kind (m :: ms) ↔ ModifiersFit patterns false kind ms := by
  rw [modifiersFit_iff, modifiersFit_iff, expand_first_cons hexpand]
  simp [hknown, Ne.symm hexpand, Ne.symm hre, Ne.symm hcidr]

theorem cons_re_iff : ModifiersFit patterns first kind (.re :: ms) ↔
    kind ≠ .network ∧ ModifiersFit patterns false .regex ms := by
  rw [modifiersFit_iff, modifiersFit_iff, expand_first_cons (by simp)]
  simp only [List.mem_cons, Modifier.isKnown, forall_eq_or_imp, true_and, reduceCtorEq, false_or,
    true_or, ne_eq, Bool.false_eq_true, if_false]
  tauto

theorem cons_cidr_iff : ModifiersFit patterns first kind (.cidr :: ms) ↔
    kind ≠ .regex ∧ ModifiersFit patterns false .network ms := by
  rw [modifiersFit_iff, modifiersFit_iff, expand_first_cons (by simp)]
  simp only [List.mem_cons, Modifier.isKnown, forall_eq_or_imp, true_and, reduceCtorEq, false_or,
    true_or, ne_eq, Bool.false_eq_true, if_false]
  tauto

theorem cons_expand_iff : ModifiersFit patterns first kind (.expand :: ms) ↔
    first = true ∧ (∀ p ∈ patterns, Pattern.isPlaceholder p.toList = true) ∧
      ModifiersFit patterns false kind ms := by
  rw [modifiersFit_iff, modifiersFit_iff]
  rcases first with - | -
  · simp
  · simp only [List.mem_cons, Modifier.isKnown, forall_eq_or_imp, true_and, if_true, List.tail_cons,
      true_or, forall_const, reduceCtorEq, false_or, Bool.false_eq_true, if_false]
    tauto

theorem kindFrom_re (h : ModifiersFit patterns false .regex ms) :
    kindFrom .regex ms = kindFrom kind (.re :: ms) := by
  have hcidr : .cidr ∉ ms := fun hmem => h.one_kind ⟨.inl rfl, .inr hmem⟩
  simp [kindFrom, hcidr]

theorem kindFrom_cidr (h : ModifiersFit patterns false .network ms) :
    kindFrom .network ms = kindFrom kind (.cidr :: ms) := by
  have hre : .re ∉ ms := fun hmem => h.one_kind ⟨.inr hmem, .inl rfl⟩
  simp [kindFrom, hre]

end ModifiersFit

/-- **Modifiers are valid** if and only if they fit together, and then the patterns are of
the kind that they say. -/
theorem checkModifiers_eq_ok_iff {patterns : List String} {first : Bool} {kind k : PatternKind}
    {ms : List Modifier} :
    checkModifiers patterns first kind ms = .ok k ↔
      ModifiersFit patterns first kind ms ∧ kindFrom kind ms = k := by
  -- the check carries the place and the kind along, so both are general here
  induction ms generalizing first kind with
  | nil => cases kind <;> cases first <;> simp [checkModifiers, modifiersFit_iff]
  | cons m ms ih =>
    -- most modifiers are passed over, by the check and by the structure alike
    have hskip : m.isKnown = true → m ≠ .expand → m ≠ .re → m ≠ .cidr →
        (checkModifiers patterns false kind ms = .ok k ↔
          ModifiersFit patterns first kind (m :: ms) ∧ kindFrom kind (m :: ms) = k) := by
      intro hknown hexpand hre hcidr
      rw [ih, ModifiersFit.cons_iff hknown hexpand hre hcidr, kindFrom_of_ne kind ms hre hcidr]
    cases m with
    | re =>
      rw [checkModifiers, ModifiersFit.cons_re_iff]
      split
      case isTrue hkind => simp [show kind = .network by simpa using hkind]
      case isFalse hkind =>
        have hkind : kind ≠ .network := by simpa using hkind
        rw [ih, and_iff_right hkind]
        exact and_congr_right fun hfit => by rw [hfit.kindFrom_re]
    | cidr =>
      rw [checkModifiers, ModifiersFit.cons_cidr_iff]
      split
      case isTrue hkind => simp [show kind = .regex by simpa using hkind]
      case isFalse hkind =>
        have hkind : kind ≠ .regex := by simpa using hkind
        rw [ih, and_iff_right hkind]
        exact and_congr_right fun hfit => by rw [hfit.kindFrom_cidr]
    | expand =>
      rw [checkModifiers, ModifiersFit.cons_expand_iff, kindFrom_of_ne kind ms (by simp) (by simp)]
      split
      case isTrue hfirst => simp [show first = false by simpa using hfirst]
      case isFalse hfirst =>
        have hfirst : first = true := by simpa using hfirst
        -- the check stops at the first pattern that is no placeholder
        split
        case h_1 p hp =>
          have hbad : Pattern.isPlaceholder p.toList = false := by simpa using List.find?_some hp
          have hmem : p ∈ patterns := List.mem_of_find?_eq_some hp
          simp only [reduceCtorEq, false_iff]
          rintro ⟨⟨-, hall, -⟩, -⟩
          rw [hall p hmem] at hbad
          cases hbad
        case h_2 hnone =>
          have hall : ∀ p ∈ patterns, Pattern.isPlaceholder p.toList = true := by
            simpa using List.find?_eq_none.mp hnone
          rw [ih, and_iff_right hfirst, and_iff_right hall]
    | unknown name => simp [checkModifiers, modifiersFit_iff, Modifier.isKnown]
    | all | base64 | base64offset | contains | endswith | startswith | windash =>
      exact hskip rfl (by simp) (by simp) (by simp)

/-- The patterns are regular expressions if `re` is among the modifiers, and blocks of addresses
if `cidr` is. -/
theorem kind_of_checkModifiers {patterns : List String} {first : Bool} {kind k : PatternKind}
    {ms : List Modifier} (h : checkModifiers patterns first kind ms = .ok k) :
    (kind = .regex ∨ .re ∈ ms → k = .regex) ∧ (kind = .network ∨ .cidr ∈ ms → k = .network) := by
  obtain ⟨hfit, rfl⟩ := checkModifiers_eq_ok_iff.mp h
  constructor
  · intro hre
    have hcidr : .cidr ∉ ms := fun hmem => hfit.one_kind ⟨hre, .inr hmem⟩
    rcases hre with rfl | hre
    · simp [kindFrom, hcidr]
    · simp [kindFrom, hre]
  · intro hcidr
    have hre : .re ∉ ms := fun hmem => hfit.one_kind ⟨.inr hmem, hcidr⟩
    rcases hcidr with rfl | hcidr
    · simp [kindFrom, hre]
    · simp [kindFrom, hre, hcidr]

/-- Patterns are regular expressions only if a modifier says so. -/
theorem re_mem_of_checkModifiers {patterns : List String} {first : Bool} {kind : PatternKind}
    {ms : List Modifier} (h : checkModifiers patterns first kind ms = .ok .regex)
    (hkind : kind ≠ .regex) : .re ∈ ms := by
  by_contra hre
  have hfrom := (checkModifiers_eq_ok_iff.mp h).2
  rw [kindFrom, if_neg hre] at hfrom
  split at hfrom
  · cases hfrom
  · exact hkind hfrom

/-! ### Patterns -/

theorem checkRegexes_eq_ok_iff {ps : List String} :
    checkRegexes ps = .ok () ↔ ∀ p ∈ ps, ∃ n, parse {} (regexSource p) = .ok n := by
  induction ps with
  | nil => simp [checkRegexes]
  | cons p ps ih =>
    rw [checkRegexes, readRegex, List.forall_mem_cons]
    rcases hp : parse {} (regexSource p) with e | n
    · rcases e with - | - | - | - <;> simp
    · simp [ih]

theorem checkNetworks_eq_ok_iff {ps : List String} :
    checkNetworks ps = .ok () ↔ ∀ p ∈ ps, ∃ b, Network.Block.ofText? p = some b := by
  induction ps with
  | nil => simp [checkNetworks]
  | cons p ps ih =>
    rw [checkNetworks, List.forall_mem_cons]
    rcases hp : Network.Block.ofText? p with - | b
    · simp
    · simp [ih]

/-- Each of the patterns can be read as one of the kind. -/
def Readable (kind : PatternKind) (ps : List String) : Prop :=
  match kind with
  | .glob => True
  | .regex => ∀ p ∈ ps, ∃ n, parse {} (regexSource p) = .ok n
  | .network => ∀ p ∈ ps, ∃ b, Network.Block.ofText? p = some b

theorem Readable.subset {kind : PatternKind} {ps qs : List String} (h : Readable kind ps)
    (hsub : qs ⊆ ps) : Readable kind qs := by
  cases kind with
  | glob => trivial
  | regex => exact fun p hp => h p (hsub hp)
  | network => exact fun p hp => h p (hsub hp)

/-! ### Searches -/

variable {s : Search} {k : PatternKind}

/-- **A search is valid** if and only if it has patterns, its modifiers fit together and, unless
the patterns are placeholders, each of these can be read. -/
theorem kind_eq_ok_iff : s.kind = .ok k ↔
    s.patterns ≠ [] ∧ ModifiersFit s.patterns true .glob s.modifiers ∧ kindOf s.modifiers = k ∧
      (.expand ∉ s.modifiers → Readable k s.patterns) := by
  rw [kind, check]
  by_cases hne : s.patterns = []
  · simp [hne]
  rw [if_neg (by simpa using hne)]
  have hmodifiers : ∀ j, checkModifiers s.patterns true .glob s.modifiers = .ok j ↔
      ModifiersFit s.patterns true .glob s.modifiers ∧ kindOf s.modifiers = j :=
    fun j => checkModifiers_eq_ok_iff
  rcases hj : checkModifiers s.patterns true .glob s.modifiers with p | j
  · simp only [hj, reduceCtorEq, false_iff] at hmodifiers ⊢
    rintro ⟨-, hfit, hk, -⟩
    exact hmodifiers k ⟨hfit, hk⟩
  obtain ⟨hfit, hkind⟩ := (hmodifiers j).mp hj
  obtain rfl : kindOf s.modifiers = j := hkind
  by_cases hexpand : .expand ∈ s.modifiers
  · simp [hne, hfit, hexpand]
  -- it remains to read the patterns
  have hread : ∀ (x : Except (Failure SearchProblem) Unit) (j : PatternKind),
      x.map (fun _ => j) = .ok k ↔ x = .ok () ∧ j = k := by
    intro x j
    rcases x with f | u <;> simp [Except.map]
  simp only [List.contains_iff_mem, hexpand, if_false, ne_eq, hne, not_false_eq_true, hfit,
    true_and, forall_const]
  rcases kindOf s.modifiers with - | - | -
  · rw [Except.ok.injEq]
    exact ⟨fun hk => ⟨hk, hk ▸ trivial⟩, And.left⟩
  · rw [hread, checkRegexes_eq_ok_iff, and_comm]
    exact and_congr_right fun hk => by rw [← hk, Readable]
  · rw [hread, checkNetworks_eq_ok_iff, and_comm]
    exact and_congr_right fun hk => by rw [← hk, Readable]

/-- Some of the patterns of a valid search make a valid search. -/
theorem kind_of_subset (hexpand : .expand ∉ s.modifiers) (hk : s.kind = .ok k)
    {ps : List String} (hne : ps ≠ []) (hsub : ps ⊆ s.patterns) :
    ({ s with patterns := ps } : Search).kind = .ok k := by
  obtain ⟨-, hfit, hkind, hread⟩ := kind_eq_ok_iff.mp hk
  refine kind_eq_ok_iff.mpr ⟨hne, ?_, hkind, fun _ => (hread hexpand).subset hsub⟩
  exact ⟨hfit.known, hfit.expand_first, fun hmem => absurd hmem hexpand, hfit.one_kind⟩

/-- One of the patterns of a valid search makes a valid search. -/
theorem kind_single (hexpand : .expand ∉ s.modifiers) (hk : s.kind = .ok k) {p : String}
    (hp : p ∈ s.patterns) : ({ s with patterns := [p] } : Search).kind = .ok k :=
  kind_of_subset hexpand hk (List.cons_ne_nil p []) (by simpa using hp)

end SigmaRules.Search
