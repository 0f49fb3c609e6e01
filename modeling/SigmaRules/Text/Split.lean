/-
SigmaRules/Text/Split.lean

Cutting texts at separators and joining the pieces again.  Main statements:
joining the pieces gives back the text (`join_splitAt`), and pieces without
separators are found again where they are joined (`splitAt_intercalate`).
-/

namespace SigmaRules.Text

/-- The pieces of a list between the elements that separate; one more piece
than there are separators. -/
def splitAt {α : Type} (separates : α → Bool) : List α → List (List α)
  | [] => [[]]
  | c :: rest =>
    if separates c then [] :: splitAt separates rest
    else
      match splitAt separates rest with
      | [] => [[c]]
      | piece :: pieces => (c :: piece) :: pieces

/-- The pieces one after the other, with a separator between two of them. -/
def join {α : Type} (separator : α) : List (List α) → List α
  | [] => []
  | [piece] => piece
  | piece :: next :: rest => piece ++ separator :: join separator (next :: rest)

attribute [local simp] splitAt

theorem splitAt_ne_nil {α : Type} (separates : α → Bool) (s : List α) :
    splitAt separates s ≠ [] := by
  cases s with
  | nil => simp
  | cons c rest =>
    simp only [splitAt]
    split
    · simp
    · split <;> simp

/-- There is no separator within a piece. -/
theorem not_mem_of_mem_splitAt {separator : Char} {s piece : List Char}
    (h : piece ∈ splitAt (· == separator) s) : separator ∉ piece := by
  induction s generalizing piece with
  | nil =>
    obtain rfl := List.mem_singleton.mp h
    exact List.not_mem_nil
  | cons c rest ih =>
    rw [splitAt] at h
    split at h
    case isTrue =>
      rcases List.mem_cons.mp h with rfl | hrest
      · exact List.not_mem_nil
      · exact ih hrest
    case isFalse hc =>
      have hne : separator ≠ c := fun heq => hc (beq_iff_eq.mpr heq.symm)
      split at h
      case h_1 hnil => exact absurd hnil (splitAt_ne_nil _ rest)
      case h_2 first pieces hrest =>
        rw [hrest] at ih
        rcases List.mem_cons.mp h with rfl | hpieces
        · exact List.not_mem_cons_of_ne_of_not_mem hne (ih List.mem_cons_self)
        · exact ih (List.mem_cons_of_mem first hpieces)

/-- A character that does not separate is in one of the pieces. -/
theorem exists_mem_splitAt {separator c : Char} {s : List Char} (hc : c ∈ s)
    (hne : c ≠ separator) : ∃ piece ∈ splitAt (· == separator) s, c ∈ piece := by
  induction s with
  | nil => cases hc
  | cons d rest ih =>
    rw [splitAt]
    rcases List.mem_cons.mp hc with rfl | hrest
    · rw [if_neg (by simpa using hne)]
      split
      · exact ⟨[c], List.mem_cons_self, List.mem_cons_self⟩
      · exact ⟨_, List.mem_cons_self, List.mem_cons_self⟩
    · obtain ⟨piece, hpiece, hmem⟩ := ih hrest
      split
      · exact ⟨piece, List.mem_cons_of_mem [] hpiece, hmem⟩
      split
      case h_1 hnil => exact absurd hnil (splitAt_ne_nil _ rest)
      case h_2 first pieces hsplit =>
        rcases List.mem_cons.mp (hsplit ▸ hpiece) with rfl | hpieces
        · exact ⟨_, List.mem_cons_self, List.mem_cons_of_mem d hmem⟩
        · exact ⟨piece, List.mem_cons_of_mem _ hpieces, hmem⟩

/-- Joining the pieces gives back the text. -/
theorem join_splitAt (separator : Char) (s : List Char) :
    join separator (splitAt (· == separator) s) = s := by
  induction s with
  | nil => rfl
  | cons c rest ih =>
    simp only [splitAt]
    split
    · rename_i h
      cases hr : splitAt (· == separator) rest with
      | nil => exact absurd hr (splitAt_ne_nil _ _)
      | cons p ps =>
        rw [hr] at ih
        simp [join, ih, beq_iff_eq.mp h]
    · cases hr : splitAt (· == separator) rest with
      | nil => exact absurd hr (splitAt_ne_nil _ _)
      | cons p ps =>
        rw [hr] at ih
        cases ps with
        | nil => simp_all [join]
        | cons q qs => simp_all [join]

/-- A text without separators is one piece. -/
theorem splitAt_of_not_mem {separator : Char} {cs : List Char} (h : separator ∉ cs) :
    splitAt (· == separator) cs = [cs] := by
  induction cs with
  | nil => rfl
  | cons c cs ih =>
    obtain ⟨hc, hrest⟩ := List.ne_and_not_mem_of_not_mem_cons h
    simp [Ne.symm hc, ih hrest]

/-- A piece ends at the first separator. -/
theorem splitAt_append_cons {separator : Char} {cs : List Char} (h : separator ∉ cs)
    (rest : List Char) : splitAt (· == separator) (cs ++ separator :: rest)
      = cs :: splitAt (· == separator) rest := by
  induction cs with
  | nil => simp
  | cons c cs ih =>
    obtain ⟨hc, hrest⟩ := List.ne_and_not_mem_of_not_mem_cons h
    simp [Ne.symm hc, ih hrest]

/-- Pieces with separators between them are found again. -/
theorem splitAt_intercalate {separator : Char} {pieces : List (List Char)} (hne : pieces ≠ [])
    (h : ∀ p ∈ pieces, separator ∉ p) :
    splitAt (· == separator) ([separator].intercalate pieces) = pieces := by
  induction pieces with
  | nil => exact absurd rfl hne
  | cons p pieces ih =>
    obtain ⟨hp, hrest⟩ := List.forall_mem_cons.mp h
    rcases pieces with - | ⟨q, pieces⟩
    · rw [List.intercalate_singleton]
      exact splitAt_of_not_mem hp
    · rw [List.intercalate_cons_cons, List.append_assoc, List.singleton_append,
        splitAt_append_cons hp, ih (List.cons_ne_nil q pieces) hrest]

/-- The text before the first separator, and the text after it if there is
one. -/
def cutAt (separator : Char) (s : List Char) : List Char × Option (List Char) :=
  match s.dropWhile (· != separator) with
  | [] => (s, none)
  | _ :: rest => (s.takeWhile (· != separator), some rest)

theorem cutAt_of_not_mem {separator : Char} {s : List Char} (h : separator ∉ s) :
    cutAt separator s = (s, none) := by
  have hnone : s.dropWhile (· != separator) = [] := by
    induction s with
    | nil => rfl
    | cons c rest ih =>
      obtain ⟨hc, hrest⟩ := List.ne_and_not_mem_of_not_mem_cons h
      have hkeep : (c != separator) = true := bne_iff_ne.mpr hc.symm
      rw [List.dropWhile_cons, if_pos hkeep, ih hrest]
  rw [cutAt, hnone]

/-- The text after a separator is shorter. -/
theorem length_of_cutAt {separator : Char} {s before after : List Char}
    (h : cutAt separator s = (before, some after)) : after.length < s.length := by
  simp only [cutAt] at h
  split at h
  · simp at h
  · rename_i c rest hd
    simp only [Prod.mk.injEq, Option.some.injEq] at h
    have : (s.dropWhile (· != separator)).length ≤ s.length :=
      (List.dropWhile_suffix _).length_le
    rw [hd, List.length_cons, h.2] at this
    omega

end SigmaRules.Text
