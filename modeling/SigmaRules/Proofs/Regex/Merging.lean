/-
SigmaRules/Proofs/Regex/Merging.lean

Joined alternatives gain no match, either.  Without regard to letter case, a
set that alternatives of one character are merged to accepts just what one of
them accepts (`accepts_merged_iff`), because its members may as well all be
compared in lower case (`setHolds_fold`).  There is one exception: a capital
beyond the basic plane that stands for itself is compared as it is written
when it becomes a member of a set, and then it is never found.

Alternatives are merged to a set where they are a common beginning and one character each
(`Merged`); all others match as one of them does when they are joined
(`merged_or_mem_ways_iff`).  So alternatives that are not merged to a set with such a capital
(`JoinsAlike`) can be joined without any change (`JoinsAlike.mem_ways_iff`), and find what one
of them finds (`search_joined_iff`).
-/
import Mathlib.Data.Set.List
import SigmaRules.Proofs.Regex.Joining
import SigmaRules.Proofs.Text.LetterCase

namespace SigmaRules.Regex

open Text

/-! ### Members of sets -/

/-- If the item is a class of characters, it is one of all characters and not just of ASCII. -/
def SetItem.IsUnicode : SetItem → Prop
  | .category _ ascii _ => ascii = false
  | _ => True

/-- A class holds the lower case partners of what it holds. -/
theorem Category.holds_lowerCode (k : Category) (c : Nat) :
    k.holds false (lowerCode c) = k.holds false c := by
  rcases k with - | - | -
  · exact isDecimal_lowerCode c
  · exact contains_blanks_lowerCode c
  · exact isWord_lowerCode c

theorem isCased_of_mem_capitalsOf {c d : Nat} (h : d ∈ capitalsOf c) : isCasedCode d = true := by
  rcases List.mem_append.mp h with h | h
  · split at h
    case isTrue hletter =>
      obtain rfl := List.mem_singleton.mp h
      simp only [Bool.and_eq_true, decide_eq_true_eq] at hletter
      rw [isCasedCode, if_pos (by omega)]
      simp only [Bool.or_eq_true, Bool.and_eq_true, decide_eq_true_eq]
      omega
    case isFalse => cases h
  · obtain ⟨r, hr, h⟩ := List.mem_filterMap.mp h
    exact isCased_of_unmap? hr h

/-- A code point without two cases is the same as itself only. -/
theorem otherLowers_eq_nil {c : Nat} (hc : isCasedCode c = false) : otherLowers c = [] := by
  rw [List.eq_nil_iff_forall_not_mem]
  intro d hd
  simp [(isCased_of_mem_otherLowers hd).1] at hc

theorem eq_of_mem_variants {c d : Nat} (hd : isCasedCode d = false)
    (h : d ∈ CaseRule.fold.variants (lowerCode c)) : d = c := by
  obtain ⟨l, hl, h⟩ := List.mem_flatMap.mp h
  rcases List.mem_cons.mp h with rfl | h
  · rcases List.mem_cons.mp hl with rfl | hl
    · exact ((lowerCode_eq_iff hd).mp rfl).symm
    · simp [(isCased_of_mem_otherLowers hl).2.1] at hd
  · simp [isCased_of_mem_capitalsOf h] at hd

/-- An item without regard to letter case holds as well what it holds without. -/
theorem SetItem.holdsFolded_lowerCode {i : SetItem} (hi : i.IsUnicode)
    (hcased : i.isCased .fold = false) (c : Nat) :
    i.holdsFolded .fold (lowerCode c) = i.holds c := by
  rcases i with d | ⟨lo, hi'⟩ | ⟨k, ascii, negated⟩
  · simp only [isCased, CaseRule.isCased, Bool.or_eq_false_iff, decide_eq_false_iff_not] at hcased
    obtain ⟨hplane, hd⟩ := hcased
    have hlower : lowerCode d = d := (lowerCode_eq_iff hd).mpr rfl
    rw [Bool.eq_iff_iff]
    simp [holdsFolded, hplane, CaseRule.lower, hlower, otherLowers_eq_nil hd, holds,
      lowerCode_eq_iff hd]
  · simp only [isCased, CaseRule.isCased, Bool.or_eq_false_iff, decide_eq_false_iff_not,
      List.any_eq_false, List.mem_range] at hcased
    obtain ⟨hplane, hall⟩ := hcased
    have hd : ∀ d, lo ≤ d → d ≤ hi' → isCasedCode d = false := by
      intro d hlo hhi
      have := hall (d - lo) (by omega)
      simpa [Nat.add_sub_cancel' hlo] using this
    rw [Bool.eq_iff_iff]
    simp only [holdsFolded, holds, hplane, Bool.or_eq_true, Bool.and_eq_true, decide_eq_true_eq,
      List.any_eq_true, false_and, or_false]
    constructor
    · rintro (⟨hlo, hhi⟩ | ⟨d, hmem, ⟨hlo, hhi⟩, -⟩)
      · rw [(lowerCode_eq_iff (hd _ hlo hhi)).mp rfl]
        exact ⟨hlo, hhi⟩
      · rw [← eq_of_mem_variants (hd d hlo hhi) hmem]
        exact ⟨hlo, hhi⟩
    · rintro ⟨hlo, hhi⟩
      rw [(lowerCode_eq_iff (hd c hlo hhi)).mpr rfl]
      exact .inl ⟨hlo, hhi⟩
  · obtain rfl : ascii = false := hi
    simp only [holdsFolded, holds, k.holds_lowerCode]

/-- **Sets without regard to letter case** may compare all their members in lower case. -/
theorem setHolds_fold {items : List SetItem} (hitems : ∀ i ∈ items, i.IsUnicode) (c : Nat) :
    setHolds .fold items c = items.any (·.holdsFolded .fold (lowerCode c)) := by
  rw [setHolds]
  split
  · rfl
  case isFalse hcased =>
    have hnone : ∀ i ∈ items, i.isCased .fold = false := by simpa using hcased
    rw [Bool.eq_iff_iff, List.any_eq_true, List.any_eq_true]
    exact exists_congr fun i => and_congr_right fun hi => by
      rw [i.holdsFolded_lowerCode (hitems i hi) (hnone i hi)]

/-! ### Merged sets -/

/-- The test may become part of a set without regard to letter case: it names no capital beyond the
basic plane and no class of ASCII characters. -/
def CharTest.IsFoldable : CharTest → Prop
  | .literal rule c => rule = .fold ∧ (c < 0x10000 ∨ lowerCode c = c)
  | .set rule false items => rule = .fold ∧ ∀ i ∈ items, i.IsUnicode
  | _ => True

instance : DecidablePred SetItem.IsUnicode
  | .single _ | .range .. => .isTrue trivial
  | .category _ ascii _ => inferInstanceAs (Decidable (ascii = false))

instance : DecidablePred CharTest.IsFoldable
  | .literal rule c =>
    inferInstanceAs (Decidable (rule = .fold ∧ (c < 0x10000 ∨ lowerCode c = c)))
  | .set rule false items => inferInstanceAs (Decidable (rule = .fold ∧ ∀ i ∈ items, i.IsUnicode))
  | .notLiteral .. | .any | .notNewline | .set _ true _ => .isTrue trivial

/-- If the node is one character, its test is foldable. -/
def Node.IsFoldable : Node → Prop
  | .char t => t.IsFoldable
  | _ => True

/-- A character that stands for itself is the only member of a set. -/
theorem same_eq_holdsFolded {d : Nat} (hd : d < 0x10000 ∨ lowerCode d = d) (c : Nat) :
    CaseRule.fold.same d c = (SetItem.single d).holdsFolded .fold (lowerCode c) := by
  rw [CaseRule.same]
  by_cases hplane : 0x10000 ≤ d
  · -- beyond the basic plane, no letters share a capital
    have hlower : lowerCode d = d := hd.resolve_left (by omega)
    have hothers : otherLowers d = [] := by
      rw [List.eq_nil_iff_forall_not_mem]
      intro l hl
      have := (isCased_of_mem_otherLowers hl).2.2
      omega
    rcases hcased : isCasedCode d with - | -
    · rw [Bool.eq_iff_iff]
      simp [CaseRule.isCased, SetItem.holdsFolded, hcased, hplane, lowerCode_eq_iff hcased]
    · simp [CaseRule.isCased, CaseRule.lower, SetItem.holdsFolded, hcased, hplane, hlower, hothers]
  · rcases hcased : isCasedCode d with - | -
    · have hlower : lowerCode d = d := (lowerCode_eq_iff hcased).mpr rfl
      rw [Bool.eq_iff_iff]
      simp [CaseRule.isCased, CaseRule.lower, SetItem.holdsFolded, hcased, hplane, hlower,
        otherLowers_eq_nil hcased, lowerCode_eq_iff hcased]
    · simp [CaseRule.isCased, CaseRule.lower, SetItem.holdsFolded, hcased, hplane]

/-- An alternative of one character accepts what its items hold in lower case. -/
theorem accepts_of_oneCharItems? {t : CharTest} {items : List SetItem} (ht : t.IsFoldable)
    (hitems : oneCharItems? [.char t] = some items) :
    (∀ i ∈ items, i.IsUnicode) ∧
      ∀ c : Char, t.accepts c = items.any (·.holdsFolded .fold (lowerCode c.toNat)) := by
  rcases t with ⟨r, d⟩ | ⟨r, d⟩ | - | - | ⟨r, - | -, is⟩
  · obtain ⟨rfl, hd⟩ := ht
    obtain rfl : [.single d] = items := Option.some.inj hitems
    refine ⟨by simp [SetItem.IsUnicode], fun c => ?_⟩
    rw [CharTest.accepts, same_eq_holdsFolded hd]
    simp
  · cases hitems
  · cases hitems
  · cases hitems
  · obtain ⟨rfl, his⟩ := ht
    obtain rfl : is = items := Option.some.inj hitems
    exact ⟨his, fun c => by rw [CharTest.accepts, setHolds_fold his, Bool.bne_false]⟩
  · cases hitems

/-- The items of a test that may be merged to a set. -/
def CharTest.items (t : CharTest) : List SetItem := (oneCharItems? [.char t]).getD []

theorem CharTest.items_eq {t : CharTest} (h : (oneCharItems? [.char t]).isSome = true) :
    oneCharItems? [.char t] = some t.items := by
  obtain ⟨is, his⟩ := Option.isSome_iff_exists.mp h
  rw [items, his]
  rfl

/-- The set that tests are merged to. -/
def mergedSet (tests : List CharTest) : CharTest :=
  .set .fold false (tests.flatMap CharTest.items).eraseDups

/-- A merged set accepts what one of the items of its parts holds. -/
theorem accepts_mergedSet_iff {tests : List CharTest}
    (h : ∀ t ∈ tests, ∀ i ∈ t.items, i.IsUnicode) (c : Char) :
    (mergedSet tests).accepts c = true ↔
      ∃ t ∈ tests, ∃ i ∈ t.items, i.holdsFolded .fold (lowerCode c.toNat) = true := by
  have hunicode : ∀ i ∈ (tests.flatMap CharTest.items).eraseDups, i.IsUnicode := by
    intro i hi
    obtain ⟨t, ht, hi⟩ := List.mem_flatMap.mp (List.mem_eraseDups.mp hi)
    exact h t ht i hi
  rw [mergedSet, CharTest.accepts, setHolds_fold hunicode, Bool.bne_false, List.any_eq_true]
  simp only [List.mem_eraseDups, List.mem_flatMap]
  constructor
  · rintro ⟨i, ⟨t, ht, hi⟩, hc⟩
    exact ⟨t, ht, i, hi, hc⟩
  · rintro ⟨t, ht, i, hi, hc⟩
    exact ⟨i, ⟨t, ht, hi⟩, hc⟩

/-- **A merged set** accepts what one of its parts accepts, and nothing else. -/
theorem accepts_merged_iff {tests : List CharTest} (hfold : ∀ t ∈ tests, t.IsFoldable)
    (hsets : ∀ t ∈ tests, (oneCharItems? [.char t]).isSome = true) (c : Char) :
    (mergedSet tests).accepts c = true ↔ ∃ t ∈ tests, t.accepts c = true := by
  have hpart : ∀ t ∈ tests, (∀ i ∈ t.items, i.IsUnicode) ∧
      ∀ c : Char, t.accepts c = t.items.any (·.holdsFolded .fold (lowerCode c.toNat)) :=
    fun t ht => accepts_of_oneCharItems? (hfold t ht) (CharTest.items_eq (hsets t ht))
  rw [accepts_mergedSet_iff fun t ht => (hpart t ht).1]
  refine exists_congr fun t => and_congr_right fun ht => ?_
  rw [(hpart t ht).2 c, List.any_eq_true]

/-! ### Alternatives that are merged -/

/-- A common beginning, and one character after it in each alternative. -/
def endings (start : List Node) (tests : List CharTest) : List (List Node) :=
  tests.map fun t => start ++ [.char t]

/-- The alternatives with a common beginning and one character each are merged to a set. -/
structure Merged (start : List Node) (tests : List CharTest) : Prop where
  leaves : ∀ n ∈ start, n.isLeaf = true
  sets : ∀ t ∈ tests, (oneCharItems? [.char t]).isSome = true
  differ : ∃ t ∈ tests, ∃ u ∈ tests, t ≠ u

/-- A common beginning is made of leaves. -/
theorem isLeaf_of_mem_commonStart {first : List Node} {others : List (List Node)} {n : Node}
    (h : n ∈ (commonStart first others).1) : n.isLeaf = true := by
  induction first generalizing others with
  | nil => cases h
  | cons m rest ih =>
    rw [commonStart] at h
    split at h
    case isTrue hm =>
      rcases List.mem_cons.mp h with rfl | h
      · exact (Bool.and_eq_true_iff.mp hm).1
      · exact ih h
    case isFalse => cases h

/-- What leaves all alternatives start with is a part of their common beginning. -/
theorem commonStart_append {start : List Node} (hstart : ∀ n ∈ start, n.isLeaf = true)
    (first : List Node) (others : List (List Node)) :
    commonStart (start ++ first) (others.map (start ++ ·))
      = (start ++ (commonStart first others).1, (commonStart first others).2) := by
  induction start with
  | nil => simp
  | cons n start ih =>
    obtain ⟨hn, hstart⟩ := List.forall_mem_cons.mp hstart
    have htails : (others.map (n :: start ++ ·)).map List.tail = others.map (start ++ ·) := by
      simp [Function.comp_def]
    rw [List.cons_append, commonStart, if_pos (by simp [hn]), htails, ih hstart]
    rfl

/-- Characters that are not all the same have no common beginning. -/
theorem commonStart_of_differ {t : CharTest} {tests : List CharTest} (h : ∃ u ∈ tests, u ≠ t) :
    commonStart [.char t] (tests.map fun u => [.char u])
      = ([], (t :: tests).map fun u => [.char u]) := by
  obtain ⟨u, hu, hne⟩ := h
  rw [commonStart, if_neg]
  · rfl
  · simp only [Bool.and_eq_true, List.all_eq_true, List.mem_map, not_and]
    intro _ hall
    exact hne (by simpa using hall [.char u] ⟨u, hu, rfl⟩)

namespace Merged

variable {start : List Node} {tests : List CharTest}

/-- If any two differ, some one differs from the first. -/
theorem exists_ne {t : CharTest} (h : Merged start (t :: tests)) : ∃ u ∈ tests, u ≠ t := by
  by_contra hall
  push Not at hall
  have hsame : ∀ u ∈ t :: tests, u = t := List.forall_mem_cons.mpr ⟨rfl, hall⟩
  obtain ⟨u, hu, v, hv, hne⟩ := h.differ
  exact hne ((hsame u hu).trans (hsame v hv).symm)

/-- What they have in common is the beginning, and a character is left of each. -/
theorem commonStart_eq {t : CharTest} (h : Merged start (t :: tests)) :
    commonStart (start ++ [.char t]) (endings start tests)
      = (start, (t :: tests).map fun v => [.char v]) := by
  have hothers : endings start tests = (tests.map fun v => [Node.char v]).map (start ++ ·) := by
    rw [endings, List.map_map]
    rfl
  rw [hothers, commonStart_append h.leaves, commonStart_of_differ h.exists_ne, List.append_nil]

/-- **Merged alternatives** are read as their common beginning and a set. -/
theorem joinAlternatives_eq (h : Merged start tests) :
    joinAlternatives .fold (endings start tests) = start ++ [.char (mergedSet tests)] := by
  rcases tests with - | ⟨t, - | ⟨u, tests⟩⟩
  · obtain ⟨v, hv, -⟩ := h.differ
    cases hv
  · obtain ⟨v, hv, -⟩ := h.exists_ne
    cases hv
  have hitems : ((t :: u :: tests).map fun v => [Node.char v]).mapM oneCharItems?
      = some ((t :: u :: tests).map CharTest.items) := by
    rw [mapM_eq_some_iff, List.forall₂_map_left_iff, List.forall₂_map_right_iff,
      List.forall₂_same]
    exact fun v hv => CharTest.items_eq (h.sets v hv)
  rw [show endings start (t :: u :: tests) = (start ++ [.char t]) :: endings start (u :: tests)
    from rfl, joinAlternatives, h.commonStart_eq]
  · simp only [hitems]
    rfl
  · simp [endings]

end Merged

/-- What is left after a common beginning is merged if it is one character in each alternative. -/
theorem merged_of_commonStart {first : List Node} {others : List (List Node)}
    {start : List Node} {tests : List CharTest}
    (h : commonStart first others = (start, tests.map fun t => [.char t]))
    (hsets : ∀ t ∈ tests, (oneCharItems? [.char t]).isSome = true) :
    Merged start tests ∧ endings start tests = first :: others := by
  have hleaf : ∀ n ∈ start, n.isLeaf = true := by
    intro n hn
    have hmem : n ∈ (commonStart first others).1 := by rwa [h]
    exact isLeaf_of_mem_commonStart hmem
  have halts : (tests.map fun t => [Node.char t]).map (start ++ ·) = first :: others := by
    simpa only [h] using map_append_commonStart first others
  have hdiffer : ∃ t ∈ tests, ∃ u ∈ tests, t ≠ u := by
    rcases tests with - | ⟨t, tests⟩
    · cases halts
    -- a character that all end with would be a part of the common beginning
    have hhead := exists_head?_commonStart_ne (n := .char t) first others rfl
    rw [h] at hhead
    obtain ⟨v, hv, hne⟩ := hhead
    obtain ⟨u, hu, rfl⟩ := List.mem_map.mp hv
    exact ⟨t, List.mem_cons_self, u, hu, fun heq => hne (by rw [heq]; rfl)⟩
  refine ⟨⟨hleaf, hsets, hdiffer⟩, ?_⟩
  rw [← halts, List.map_map]
  rfl

theorem exists_merged_of_commonStart {first : List Node} {others : List (List Node)}
    {start : List Node} {tails : List (List Node)}
    (h : commonStart first others = (start, tails))
    (hsets : ∀ t ∈ tails, (oneCharItems? t).isSome = true) :
    ∃ tests, Merged start tests ∧ endings start tests = first :: others := by
  obtain ⟨tests, rfl⟩ : tails ∈ Set.range (List.map fun u => [Node.char u]) := by
    rw [Set.range_list_map]
    intro t ht
    obtain ⟨is, his⟩ := Option.isSome_iff_exists.mp (hsets t ht)
    obtain ⟨u, rfl⟩ := exists_char_of_oneCharItems? his
    exact ⟨u, rfl⟩
  exact ⟨tests, merged_of_commonStart h fun t ht => hsets _ (List.mem_map_of_mem ht)⟩

/-- The test of an alternative that is one character and may become a part of a set. -/
def oneCharTest? : List Node → Option CharTest
  | [.char t] => if (oneCharItems? [.char t]).isSome then some t else none
  | _ => none

theorem oneCharTest?_eq_some_iff {ns : List Node} {t : CharTest} :
    oneCharTest? ns = some t ↔ ns = [.char t] ∧ (oneCharItems? [.char t]).isSome = true := by
  unfold oneCharTest?
  split
  case h_1 u =>
    rw [Option.ite_none_right_eq_some, Option.some.injEq]
    constructor
    · rintro ⟨hu, rfl⟩
      exact ⟨rfl, hu⟩
    · rintro ⟨heq, ht⟩
      obtain rfl : u = t := by simpa using heq
      exact ⟨ht, rfl⟩
  case h_2 hns =>
    simp only [reduceCtorEq, false_iff, not_and]
    exact fun heq => absurd heq (hns t)

theorem mapM_oneCharTest?_eq_some_iff {tails : List (List Node)} {tests : List CharTest} :
    tails.mapM oneCharTest? = some tests ↔ tails = tests.map (fun t => [.char t]) ∧
      ∀ t ∈ tests, (oneCharItems? [.char t]).isSome = true := by
  simp only [mapM_eq_some_iff, oneCharTest?_eq_some_iff]
  constructor
  · intro h
    induction h with
    | nil => simp
    | cons hnode _ ih =>
      obtain ⟨rfl, hset⟩ := hnode
      exact ⟨by rw [ih.1, List.map_cons], List.forall_mem_cons.mpr ⟨hset, ih.2⟩⟩
  · rintro ⟨rfl, hsets⟩
    rw [List.forall₂_map_left_iff, List.forall₂_same]
    exact fun t ht => ⟨rfl, hsets t ht⟩

/-- The tests that alternatives are merged by, if they are merged to a set. -/
def mergedTests? : List (List Node) → Option (List CharTest)
  | [] => none
  | first :: others => (commonStart first others).2.mapM oneCharTest?

theorem mergedTests?_eq_some_iff {alts : List (List Node)} {tests : List CharTest} :
    mergedTests? alts = some tests ↔ ∃ start, Merged start tests ∧ endings start tests = alts := by
  rcases alts with - | ⟨first, others⟩
  · simp only [mergedTests?, reduceCtorEq, false_iff, not_exists, not_and]
    intro start hm hend
    obtain ⟨t, ht, -⟩ := hm.differ
    obtain rfl : tests = [] := List.map_eq_nil_iff.mp hend
    cases ht
  rw [mergedTests?, mapM_oneCharTest?_eq_some_iff]
  constructor
  · rintro ⟨htails, hsets⟩
    exact ⟨_, merged_of_commonStart (Prod.ext rfl htails) hsets⟩
  · rintro ⟨start, hm, hend⟩
    rcases tests with - | ⟨t, tests⟩
    · cases hend
    obtain ⟨rfl, rfl⟩ := List.cons_eq_cons.mp hend
    exact ⟨congrArg Prod.snd hm.commonStart_eq, hm.sets⟩

/-- **Alternatives are merged, or match as one of them does.** -/
theorem merged_or_mem_ways_iff {alts : List (List Node)} (hne : alts ≠ []) :
    (∃ start tests, Merged start tests ∧ endings start tests = alts) ∨
      ∀ s s', s' ∈ (Node.ofList (joinAlternatives .fold alts)).ways s ↔
        ∃ ns ∈ alts, s' ∈ (Node.ofList ns).ways s := by
  rcases alts with - | ⟨first, - | ⟨second, others⟩⟩
  · exact absurd rfl hne
  · right
    simp [joinAlternatives]
  rcases hcommon : commonStart first (second :: others) with ⟨start, tails⟩
  rcases hitems : tails.mapM oneCharItems? with - | items
  · right
    intro s s'
    have halts : tails.map (start ++ ·) = first :: second :: others := by
      simpa only [hcommon] using map_append_commonStart first (second :: others)
    have htails : tails ≠ [] := by
      rintro rfl
      cases halts
    rw [joinAlternatives, hcommon]
    · simp only [hitems]
      rw [mem_ways_shared htails, ← halts]
      simp only [List.mem_map, exists_exists_and_eq_and]
    · simp
  · left
    have hsets : ∀ t ∈ tails, (oneCharItems? t).isSome = true := by
      intro t ht
      obtain ⟨is, -, his⟩ := exists_right_of_mem (mapM_eq_some_iff.mp hitems) ht
      exact Option.isSome_iff_exists.mpr ⟨is, his⟩
    exact ⟨start, exists_merged_of_commonStart hcommon hsets⟩

/-! ### Joining -/

/-- Several nodes match up to a character, and the last one accepts it. -/
theorem mem_ways_concat_char {start : List Node} {t : CharTest} {s s' : State} :
    s' ∈ (Node.ofList (start ++ [.char t])).ways s ↔
      ∃ r c rest, r ∈ (Node.ofList start).ways s ∧ r.after = c :: rest ∧ t.accepts c = true ∧
        s' = r.advance c rest := by
  rw [Node.mem_ways_ofList_append]
  constructor
  · rintro ⟨r, hr, hs⟩
    rw [Node.ways_ofList_singleton, Node.ways_char] at hs
    rcases hafter : r.after with - | ⟨c, rest⟩
    · simp [hafter] at hs
    · simp only [hafter, List.mem_ite_nil_right, List.mem_singleton] at hs
      exact ⟨r, c, rest, hr, hafter, hs⟩
  · rintro ⟨r, c, rest, hr, hafter, hc, rfl⟩
    exact ⟨r, hr, by simp [Node.ways_char, hafter, hc]⟩

section Ending

variable {start : List Node} {tests : List CharTest} {t u : CharTest} {s s' : State}

/-- The last one of several nodes may be a test that accepts more. -/
theorem mem_ways_last (htu : ∀ c, t.accepts c = true → u.accepts c = true)
    (h : s' ∈ (Node.ofList (start ++ [.char t])).ways s) :
    s' ∈ (Node.ofList (start ++ [.char u])).ways s := by
  obtain ⟨r, c, rest, hr, hafter, hc, hs⟩ := mem_ways_concat_char.mp h
  exact mem_ways_concat_char.mpr ⟨r, c, rest, hr, hafter, htu c hc, hs⟩

/-- A test that accepts no more than others do matches after a beginning as one of them does. -/
theorem exists_mem_ways_endings
    (hu : ∀ c, u.accepts c = true → ∃ t ∈ tests, t.accepts c = true)
    (h : s' ∈ (Node.ofList (start ++ [.char u])).ways s) :
    ∃ ns ∈ endings start tests, s' ∈ (Node.ofList ns).ways s := by
  obtain ⟨r, c, rest, hr, hafter, hc, hs⟩ := mem_ways_concat_char.mp h
  obtain ⟨t, ht, hc⟩ := hu c hc
  exact ⟨_, List.mem_map_of_mem ht, mem_ways_concat_char.mpr ⟨r, c, rest, hr, hafter, hc, hs⟩⟩

end Ending

/-- If the alternatives are merged to a set, it misses nothing of what one of them accepts. -/
def JoinsAlike (alts : List (List Node)) : Prop :=
  ∀ tests ∈ mergedTests? alts, ∀ t ∈ tests, t.IsFoldable

instance : DecidablePred JoinsAlike := fun _ => inferInstanceAs (Decidable (∀ _ ∈ _, _))

theorem joinsAlike_iff {alts : List (List Node)} :
    JoinsAlike alts ↔
      ∀ start tests, Merged start tests → endings start tests = alts → ∀ t ∈ tests, t.IsFoldable := by
  simp only [JoinsAlike, Option.mem_def, mergedTests?_eq_some_iff]
  exact ⟨fun h start tests hm hend => h tests ⟨start, hm, hend⟩,
    fun h tests ⟨start, hm, hend⟩ => h start tests hm hend⟩

/-- **Joined alternatives match as one of them does**, without regard to letter case, unless they
are merged to a set that misses something. -/
theorem JoinsAlike.mem_ways_iff {alts : List (List Node)} (h : JoinsAlike alts) (hne : alts ≠ [])
    {s s' : State} :
    s' ∈ (Node.ofList (joinAlternatives .fold alts)).ways s ↔
      ∃ ns ∈ alts, s' ∈ (Node.ofList ns).ways s := by
  rcases merged_or_mem_ways_iff hne with ⟨start, tests, hm, rfl⟩ | hplain
  · have hset := accepts_merged_iff (joinsAlike_iff.mp h start tests hm rfl) hm.sets
    rw [hm.joinAlternatives_eq]
    constructor
    · exact exists_mem_ways_endings fun c => (hset c).mp
    · rintro ⟨ns, hns, hs⟩
      obtain ⟨t, ht, rfl⟩ := List.mem_map.mp hns
      exact mem_ways_last (fun c hc => (hset c).mpr ⟨t, ht, hc⟩) hs
  · exact hplain s s'

/-- Alternatives join alike if those are foldable that are merged to a set: what is left of them
after a common beginning, if it is one character of each, and not the same one of all. -/
theorem joinsAlike_of_tails {alts : List (List Node)}
    (hfold : ∀ (shared : List Node) (tails : List (List Node)), tails.map (shared ++ ·) = alts →
      (∀ t ∈ tails, (oneCharItems? t).isSome = true) → (∃ t ∈ tails, ∃ u ∈ tails, t ≠ u) →
      ∀ t ∈ tails, ∀ n ∈ t, n.IsFoldable) : JoinsAlike alts := by
  rw [joinsAlike_iff]
  rintro start tests hm rfl t ht
  have hdiffer : ∃ v ∈ tests.map fun t => [Node.char t], ∃ w ∈ tests.map fun t => [Node.char t],
      v ≠ w := by
    obtain ⟨t, ht, u, hu, hne⟩ := hm.differ
    exact ⟨_, List.mem_map_of_mem ht, _, List.mem_map_of_mem hu, by simpa using hne⟩
  exact hfold start (tests.map fun t => [.char t]) (List.map_map ..)
    (List.forall_mem_map.mpr hm.sets) hdiffer _ (List.mem_map_of_mem ht) (.char t)
    (List.mem_singleton_self _)

/-- What joined alternatives find, one of them does, if those are foldable that are merged to a
set. -/
theorem search_joined_iff {alts : List (List Node)} (hne : alts ≠ [])
    (hfold : ∀ (shared : List Node) (tails : List (List Node)), tails.map (shared ++ ·) = alts →
      (∀ t ∈ tails, (oneCharItems? t).isSome = true) → (∃ t ∈ tails, ∃ u ∈ tails, t ≠ u) →
      ∀ t ∈ tails, ∀ n ∈ t, n.IsFoldable) (v : List Char) :
    (Node.ofList (joinAlternatives .fold alts)).search v = true ↔
      ∃ ns ∈ alts, (Node.ofList ns).search v = true := by
  simp only [Node.search_iff, (joinsAlike_of_tails hfold).mem_ways_iff hne]
  constructor
  · rintro ⟨x, y, s, hv, ns, hns, hs⟩
    exact ⟨ns, hns, x, y, s, hv, hs⟩
  · rintro ⟨ns, hns, x, y, s, hv, hs⟩
    exact ⟨x, y, s, hv, ns, hns, hs⟩

/-! ### What joining makes -/

/-- Characters of the basic plane are foldable. -/
theorem Node.IsNarrow.isFoldable {n : Node} (h : n.IsNarrow .fold) : n.IsFoldable := by
  rcases n with - | t | - <;> try trivial
  rcases t with ⟨r, c⟩ | - | - | - | ⟨r, - | -, items⟩ <;> try trivial
  · exact ⟨h.1, .inl h.2⟩
  · refine ⟨h.1, fun i hi => ?_⟩
    obtain ⟨c, -, rfl⟩ := h.2 i hi
    trivial

end SigmaRules.Regex
