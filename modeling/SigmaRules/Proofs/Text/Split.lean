/-
SigmaRules/Proofs/Text/Split.lean

Cutting lists at the elements that a test tells to be separators.  Cutting before and
after a separator do not depend on each other (`splitAt_append_separator`), so lists
without separators are found again where a separator joins them
(`splitAt_intercalate_of_forall`).
-/
import SigmaRules.Text.Split

namespace SigmaRules.Text

variable {α : Type} {separates : α → Bool}

/-- Pieces before a separator and after it do not depend on each other. -/
theorem splitAt_append_separator {c : α} (hc : separates c = true) (s rest : List α) :
    splitAt separates (s ++ c :: rest) = splitAt separates s ++ splitAt separates rest := by
  induction s with
  | nil => simp [splitAt, hc]
  | cons d s ih =>
    rw [List.cons_append, splitAt, splitAt, ih]
    split
    · rfl
    · rcases hs : splitAt separates s with - | ⟨piece, pieces⟩
      · exact absurd hs (splitAt_ne_nil separates s)
      · rfl

/-- There is one more piece than there are separators. -/
theorem length_splitAt (s : List α) :
    (splitAt separates s).length = s.countP separates + 1 := by
  induction s with
  | nil => rfl
  | cons c s ih =>
    rw [splitAt, List.countP_cons]
    split
    · rw [List.length_cons, ih]
    · rcases hs : splitAt separates s with - | ⟨piece, pieces⟩
      · exact absurd hs (splitAt_ne_nil separates s)
      · rw [hs] at ih
        exact ih

/-- A piece consists of elements of the list. -/
theorem mem_of_mem_splitAt {s piece : List α} {c : α} (h : piece ∈ splitAt separates s)
    (hc : c ∈ piece) : c ∈ s := by
  induction s generalizing piece with
  | nil =>
    obtain rfl := List.mem_singleton.mp h
    exact hc
  | cons d s ih =>
    rw [splitAt] at h
    split at h
    · rcases List.mem_cons.mp h with rfl | h
      · cases hc
      · exact List.mem_cons_of_mem d (ih h hc)
    · rcases hs : splitAt separates s with - | ⟨first, pieces⟩
      · exact absurd hs (splitAt_ne_nil separates s)
      rw [hs] at h ih
      rcases List.mem_cons.mp h with rfl | h
      · rcases List.mem_cons.mp hc with rfl | hc
        · exact List.mem_cons_self
        · exact List.mem_cons_of_mem d (ih List.mem_cons_self hc)
      · exact List.mem_cons_of_mem d (ih (List.mem_cons_of_mem first h) hc)

/-- A list without separators is one piece. -/
theorem splitAt_of_forall {s : List α} (h : ∀ c ∈ s, separates c = false) :
    splitAt separates s = [s] := by
  induction s with
  | nil => rfl
  | cons c s ih =>
    obtain ⟨hc, hs⟩ := List.forall_mem_cons.mp h
    simp [splitAt, hc, ih hs]

/-- Lists without separators are the pieces of the list that a separator joins them to. -/
theorem splitAt_intercalate_of_forall {c : α} (hc : separates c = true)
    {pieces : List (List α)} (hne : pieces ≠ []) (h : ∀ p ∈ pieces, ∀ d ∈ p, separates d = false) :
    splitAt separates ([c].intercalate pieces) = pieces := by
  induction pieces with
  | nil => exact absurd rfl hne
  | cons p pieces ih =>
    obtain ⟨hp, hrest⟩ := List.forall_mem_cons.mp h
    rcases pieces with - | ⟨q, pieces⟩
    · rw [List.intercalate_singleton]
      exact splitAt_of_forall hp
    · rw [List.intercalate_cons_cons, List.append_assoc, List.singleton_append,
        splitAt_append_separator hc, splitAt_of_forall hp, ih (List.cons_ne_nil q pieces) hrest]
      rfl

end SigmaRules.Text
