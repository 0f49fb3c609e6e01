/-
SigmaRules/Proofs/Report/Markup.lean

What texts show in the cells of a report.  Escaped texts and titles can always be read, and so
can ids in which no tag starts.  Texts that are `Legible` show themselves, alone
(`exists_readMarkup_title`, `exists_readMarkup_id`) and below each other
(`exists_readMarkup_stacked`).
-/
import SigmaRules.Proofs.Layout.Cells
import SigmaRules.Proofs.Text.Escaping
import SigmaRules.Report.Summary

namespace SigmaRules.Report

open Layout Text Text.Markup

theorem readMarkup_eq {s : String} {t : List Char} (h : Text.Markup.read s.toList = .ok t) :
    readMarkup s = .ok (String.ofList t) := by
  rw [readMarkup, h]

theorem exists_readMarkup_escaped (s : String) : ∃ t, readMarkup (escaped s) = .ok t := by
  obtain ⟨t, ht, -⟩ := exists_read_escape s.toList
  exact ⟨_, readMarkup_eq (by rw [escaped, String.toList_ofList, ht])⟩

/-- A text without colons and opening brackets shows itself. -/
theorem readMarkup_of_not_mem {s : String} (hcolon : ':' ∉ s.toList) (hbracket : '[' ∉ s.toList) :
    readMarkup s = .ok s := by
  obtain ⟨t, ht, hshown⟩ := exists_read_of_untagged (Untagged.of_not_mem hbracket)
  rw [readMarkup_eq ht, hshown (.of_not_mem hcolon) (.of_not_mem hbracket), String.ofList_toList]

/-! ### Legible texts -/

/-- The text is one line, and showing it changes nothing in it: there are no names of emoji in it,
no tabs or controls, no backslashes before brackets that start no tag, and no white space at its
end that is taken away. -/
structure Legible (s : String) : Prop where
  oneLine : OneLine s.toList
  emojiFree : EmojiFree s.toList
  slashes : SlashesMarkTags s.toList
  keepsEnd : KeepsEnd s.toList

theorem Legible.stands {s : String} (h : Legible s) : Stands .left s := ⟨h.oneLine, h.keepsEnd⟩

theorem stands_concat {s : String} (h : OneLine s.toList) : Stands .left (s ++ "\\") := by
  have hlist : (s ++ "\\").toList = s.toList ++ ['\\'] := String.toList_append
  rw [Stands, hlist]
  refine ⟨fun c hc => ?_, .inr ?_⟩
  · rcases List.mem_append.mp hc with hc | hc
    · exact h c hc
    · rw [List.mem_singleton.mp hc]
      decide
  · have hend : stripEnd (s.toList ++ ['\\']) = s.toList ++ ['\\'] := by
      have hslash : isBlank '\\' = false := by decide
      rw [stripEnd, List.reverse_concat, List.dropWhile_cons, hslash, if_neg Bool.false_ne_true,
        List.reverse_cons, List.reverse_reverse]
    rw [hend, List.drop_length]
    exact fun c hc => absurd hc List.not_mem_nil

/-- The text is shown as it is, or with a backslash at its end doubled. -/
def ShownAs (s shown : String) : Prop := shown = s ∨ shown = s ++ "\\"

theorem Legible.stands_of_shownAs {s shown : String} (h : Legible s) (hs : ShownAs s shown) :
    Stands .left shown := by
  rcases hs with rfl | rfl
  · exact h.stands
  · exact stands_concat h.oneLine

theorem toList_stacked (ss : List String) :
    (stacked ss).toList = ['\n'].intercalate (ss.map String.toList) := by
  rw [stacked, String.toList_intercalate]
  rfl

/-- A backslash below texts is one at the end of the last of them. -/
theorem exists_stacked_concat {ss : List String} (hne : ss ≠ []) :
    ∃ shown, stacked ss ++ "\\" = stacked shown ∧ List.Forall₂ ShownAs ss shown := by
  induction ss with
  | nil => exact absurd rfl hne
  | cons s ss ih =>
    rcases ss with - | ⟨t, ss⟩
    · exact ⟨[s ++ "\\"], by simp [stacked], .cons (.inr rfl) .nil⟩
    · obtain ⟨shown, heq, hshown⟩ := ih (List.cons_ne_nil t ss)
      have hshown' : shown ≠ [] := by
        rintro rfl
        cases hshown
      refine ⟨s :: shown, ?_, .cons (.inl rfl) hshown⟩
      rw [stacked, String.intercalate_cons_cons, String.append_assoc, ← stacked, heq, stacked,
        stacked, String.intercalate_cons_of_ne_nil hshown']

/-- Legible texts one below the other show themselves; the last of them may have a backslash at
its end doubled. -/
theorem exists_readMarkup_stacked {ss : List String} (hne : ss ≠ []) (h : ∀ s ∈ ss, Legible s) :
    ∃ shown, readMarkup (escaped (stacked ss)) = .ok (stacked shown) ∧
      List.Forall₂ ShownAs ss shown := by
  obtain ⟨t, ht, hshown⟩ := exists_read_escape (stacked ss).toList
  have hread : readMarkup (escaped (stacked ss)) = .ok (String.ofList t) :=
    readMarkup_eq (by rw [escaped, String.toList_ofList, ht])
  have hall : ∀ P : List Char → Prop, (∀ s ∈ ss, P s.toList) → ∀ t ∈ ss.map String.toList, P t := by
    intro P hP t ht
    obtain ⟨s, hs, rfl⟩ := List.mem_map.mp ht
    exact hP s hs
  rw [toList_stacked] at hshown
  rcases hshown (.intercalate (hall _ fun s hs => (h s hs).emojiFree))
    (.intercalate (hall _ fun s hs => (h s hs).slashes)) with rfl | rfl
  · refine ⟨ss, ?_, List.forall₂_same.mpr fun _ _ => .inl rfl⟩
    rw [hread, ← toList_stacked, String.ofList_toList]
  · obtain ⟨shown, heq, hforall⟩ := exists_stacked_concat hne
    refine ⟨shown, ?_, hforall⟩
    rw [hread, ← heq, ← toList_stacked]
    simp

/-! ### Titles and ids -/

theorem toList_styled (s : String) : (styled emphasis (escaped s)).toList
    = bracketed emphasis.toList ++ escape s.toList ++ bracketed ('/' :: emphasis.toList) := by
  simp [styled, escaped, bracketed, emphasis]

/-- A title can always be read, and shows itself if it is legible and does not end in two
backslashes. -/
theorem exists_readMarkup_title (title : String) : ∃ shown,
    readMarkup (styled emphasis (escaped title)) = .ok shown ∧
    (Legible title → ¬ ['\\', '\\'] <:+ title.toList → shown = title) := by
  have hname : emphasis.toList = ['c', 'y', 'a', 'n'] := by decide
  have hopening : IsTag emphasis.toList := hname ▸ isTag_cons (by decide) (by decide)
  have hclosing : IsTag ('/' :: emphasis.toList) := isTag_cons (by decide) (by decide)
  have hgive : applyTag [] emphasis.toList = .ok [styleName emphasis.toList] :=
    applyTag_open (by decide) (by decide) []
  have htake : applyTag [styleName emphasis.toList] ('/' :: emphasis.toList) = .ok [] :=
    applyTag_close (by decide) (by decide) []
  obtain ⟨t, ht, hshown⟩ := exists_read_between hopening hclosing hgive htake title.toList
  refine ⟨_, readMarkup_eq (by rw [toList_styled, ht]), fun hlegible htwo => ?_⟩
  rw [hshown hlegible.emojiFree hlegible.slashes htwo, String.ofList_toList]

/-- An id in which no tag starts can be read, and shows itself if it is legible. -/
theorem exists_readMarkup_id {id : String} (h : Untagged id.toList) : ∃ shown,
    readMarkup id = .ok shown ∧ (Legible id → shown = id) := by
  obtain ⟨t, ht, hshown⟩ := exists_read_of_untagged h
  refine ⟨_, readMarkup_eq ht, fun hlegible => ?_⟩
  rw [hshown hlegible.emojiFree hlegible.slashes, String.ofList_toList]

end SigmaRules.Report
