/-
SigmaRules/Proofs/Search/Keywords.lean

Searches for words in the message.  All words of a search are looked for as one
expression, and this finds what looking for one after the other finds
(`succeeds_keywords`), with one exception.  Words that are alike but for their last
characters are read as their common beginning and a set of characters, and a set without
regard to letter case misses a capital beyond the basic plane.  Words are `Mergeable` if
there is no such capital at such a place.
-/
import Mathlib.Data.Set.List
import SigmaRules.Proofs.Regex.Merging
import SigmaRules.Proofs.Search.Glob

namespace SigmaRules.Search

open Regex Pattern

/-! ### Words that are merged to a set -/

/-- Wherever words differ in their last characters only, and these are no wildcards, none of
these is a capital beyond the basic plane. -/
def Mergeable (ps : List String) : Prop :=
  ∀ start ends : List Char, ps.map String.toList = ends.map (start ++ [·]) →
    (∀ c ∈ ends, c ≠ '*' ∧ c ≠ '?') → (∃ c ∈ ends, ∃ d ∈ ends, c ≠ d) →
    ∀ c ∈ ends, c.toNat < 0x10000 ∨ Text.lowerCode c.toNat = c.toNat

/-- Words of the basic plane are mergeable. -/
theorem mergeable_of_plane {ps : List String} (h : ∀ p ∈ ps, ∀ c ∈ p.toList, c.toNat < 0x10000) :
    Mergeable ps := by
  intro start ends heq _ _ c hc
  obtain ⟨p, hp, hpc⟩ := List.mem_map.mp
    (heq ▸ List.mem_map_of_mem (f := (start ++ [·])) hc : start ++ [c] ∈ ps.map String.toList)
  exact .inl (h p hp c (hpc ▸ List.mem_append_right start (List.mem_singleton_self c)))

/-- Different characters of globs are different nodes. -/
theorem globNode_injective : Function.Injective globNode := by
  intro c d h
  grind [globNode, Char.toNat_inj]

/-- What may be merged to a set stands for itself. -/
theorem of_isSome_oneCharItems? {c : Char} (h : (oneCharItems? [globNode c]).isSome = true) :
    (c ≠ '*' ∧ c ≠ '?') ∧ globNode c = .char (.literal .fold c.toNat) := by
  by_cases hs : c = '*'
  · subst hs
    cases h
  by_cases hq : c = '?'
  · subst hq
    cases h
  exact ⟨⟨hs, hq⟩, by rw [globNode, if_neg hs, if_neg hq]⟩

/-- What is left of words after a common beginning is foldable, if it is merged to a set. -/
theorem isFoldable_of_mergeable {ps : List String} (h : Mergeable ps) {shared : List Node}
    {tails : List (List Node)}
    (halts : tails.map (shared ++ ·) = ps.map fun p => p.toList.map globNode)
    (hset : ∀ t ∈ tails, (oneCharItems? t).isSome = true)
    (hdiffer : ∃ t ∈ tails, ∃ u ∈ tails, t ≠ u) : ∀ t ∈ tails, ∀ n ∈ t, n.IsFoldable := by
  -- each word is read as the common beginning and the node of a character
  have hword : ∀ t ∈ tails, ∃ (start : List Char) (c : Char),
      start.map globNode = shared ∧ [globNode c] = t := by
    intro t ht
    obtain ⟨p, -, heq⟩ := List.mem_map.mp (halts ▸ List.mem_map_of_mem (f := (shared ++ ·)) ht)
    obtain ⟨start, rest, -, hstart, hrest⟩ := List.map_eq_append_iff.mp heq
    obtain ⟨is, his⟩ := Option.isSome_iff_exists.mp (hset t ht)
    obtain ⟨u, rfl⟩ := exists_char_of_oneCharItems? his
    obtain ⟨c, rfl, hc⟩ := List.map_eq_singleton_iff.mp hrest
    exact ⟨start, c, hstart, by rw [hc]⟩
  obtain ⟨t, ht, u, hu, htu⟩ := hdiffer
  obtain ⟨start, -, rfl, -⟩ := hword t ht
  obtain ⟨ends, rfl⟩ : tails ∈ Set.range (List.map fun c => [globNode c]) := by
    rw [Set.range_list_map]
    intro t ht
    obtain ⟨-, c, -, hc⟩ := hword t ht
    exact ⟨c, hc⟩
  -- different characters have different nodes, so the words themselves are alike
  have hwords : ps.map String.toList = ends.map (start ++ [·]) := by
    apply List.map_injective_iff.mpr (List.map_injective_iff.mpr globNode_injective)
    rw [List.map_map, List.map_map]
    simpa [Function.comp_def] using halts.symm
  have hends : ∀ c ∈ ends, (c ≠ '*' ∧ c ≠ '?') ∧ globNode c = .char (.literal .fold c.toNat) :=
    fun c hc => of_isSome_oneCharItems? (hset _ (List.mem_map_of_mem hc))
  obtain ⟨c, hc, rfl⟩ := List.mem_map.mp ht
  obtain ⟨d, hd, rfl⟩ := List.mem_map.mp hu
  have hplane := h start ends hwords (fun c hc => (hends c hc).1)
    ⟨c, hc, d, hd, fun hcd => htu (by rw [hcd])⟩
  refine List.forall_mem_map.mpr fun a ha n hn => ?_
  rw [List.mem_singleton.mp hn, (hends a ha).2]
  exact ⟨rfl, hplane a ha⟩

/-! ### Searching for words -/

/-- Is the word, read as a glob, somewhere in the text? -/
def finds (v : List Char) (p : String) : Bool := (Node.ofList (p.toList.map globNode)).search v

variable {s : Search}

/-- **A search for words finds any of them**, if they are mergeable. -/
theorem succeeds_keywords (hfield : s.fieldName? = none) (hmodifiers : s.modifiers = [])
    (h : Mergeable s.patterns) (e : Entry) (ps : Placeholders) :
    s.succeeds e ps = .ok (s.patterns.any (finds e.message.toList)) := by
  obtain ⟨field, modifiers, patterns⟩ := s
  obtain rfl : modifiers = [] := hmodifiers
  -- a search without words is not valid and finds nothing
  by_cases hne : patterns = []
  · subst hne
    rfl
  have hfree : field.all String.isEmpty = true := (fieldName?_eq_none_iff _).mp hfield
  have hexpression : ∀ p : String, expression [] field p = grouped (glob p.toList) := by
    intro p
    simp [expression_of_free free_nil, anchored, startFree, endFree, hfree]
  -- the words are alternatives, each of which is read on its own before they are joined
  have hparse : parse { ignoreCase := true } (alternatives (patterns.map (expression [] field)))
      = .ok (.ofList (joinAlternatives .fold (patterns.map fun p => p.toList.map globNode))) := by
    refine parse_alternatives (fun p _ => ?_) fun p _ => ?_
    · rw [hexpression]
      exact (Adds.glob p.toList).grouped_single
    · exact List.forall_mem_map.mpr fun c _ => lookBehindsFixed_globNode c
  have hkind := kind_of_free free_nil field hne
  rw [succeeds_of_parse hkind hne (by simp) (by simp) (by simp) hparse, inspected, hfield]
  -- joining them loses nothing, as there is no capital that a set would miss
  refine congrArg Except.ok (Bool.eq_iff_iff.mpr ?_)
  rw [search_joined_iff (by simpa using hne)
    fun shared tails halts hset hdiffer => isFoldable_of_mergeable h halts hset hdiffer]
  simp only [List.any_eq_true, finds, List.mem_map, exists_exists_and_eq_and]

end SigmaRules.Search
