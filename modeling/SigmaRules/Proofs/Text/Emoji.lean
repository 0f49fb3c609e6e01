/-
SigmaRules/Proofs/Text/Emoji.lean

Texts that name no emoji stay as they are where names give way to emoji
(`withEmoji_of_emojiFree`).  A name has no white space in it, so texts below each other name
none if none of them does (`EmojiFree.intercalate`).
-/
import SigmaRules.Text.Emoji

namespace SigmaRules.Text

/-- No name of an emoji stands between two colons. -/
def EmojiFree (s : List Char) : Prop :=
  ∀ name, name.any isBlank = false → ':' :: name ++ [':'] <:+: s → emojiFor? name = none

theorem EmojiFree.of_not_mem {s : List Char} (h : ':' ∉ s) : EmojiFree s :=
  fun _ _ hpart => absurd (hpart.subset (List.mem_cons_self)) h

theorem EmojiFree.of_infix {s t : List Char} (h : EmojiFree s) (ht : t <:+: s) : EmojiFree t :=
  fun name hname hpart => h name hname (hpart.trans ht)

/-- The name of an emoji ends with its colon, not with another character after it. -/
theorem EmojiFree.concat {s : List Char} {c : Char} (h : EmojiFree s) (hc : c ≠ ':') :
    EmojiFree (s ++ [c]) := by
  intro name hname hpart
  rcases List.infix_concat_iff.mp hpart with hsuffix | hpart
  · rcases List.suffix_concat_iff.mp hsuffix with hnil | ⟨t, ht, -⟩
    · simp at hnil
    · exact absurd (List.append_inj_right' ht rfl) (by simpa using hc.symm)
  · exact h name hname hpart

/-- What holds no separator stands before it or after it. -/
theorem infix_of_not_mem {w s t : List Char} {c : Char} (h : w <:+: s ++ c :: t) (hc : c ∉ w) :
    w <:+: s ∨ w <:+: t := by
  obtain ⟨before, after, heq⟩ := h
  rcases List.append_eq_append_iff.mp heq with ⟨u, hs, -⟩ | ⟨u, hbefore, hafter⟩
  · exact .inl ⟨before, u, hs.symm⟩
  rcases List.append_eq_append_iff.mp hbefore with ⟨v, hs, hw⟩ | ⟨v, hs, hu⟩
  · rcases u with - | ⟨d, u⟩
    · exact .inl ⟨before, [], by rw [hs, hw]; simp⟩
    · obtain ⟨rfl, -⟩ := List.cons.inj hafter
      exact absurd (hw ▸ List.mem_append_right v List.mem_cons_self) hc
  · rcases v with - | ⟨d, v⟩
    · rw [hu] at hafter
      rcases w with - | ⟨e, w⟩
      · exact .inl (List.nil_infix)
      · obtain ⟨rfl, -⟩ := List.cons.inj hafter
        exact absurd List.mem_cons_self hc
    · rw [hu] at hafter
      exact .inr ⟨v, after, (List.cons.inj hafter).2.symm⟩

/-- Lines below each other name no emoji if none of them does: names have no line feeds. -/
theorem EmojiFree.intercalate {ss : List (List Char)} (h : ∀ s ∈ ss, EmojiFree s) :
    EmojiFree (['\n'].intercalate ss) := by
  induction ss with
  | nil => exact fun name _ hpart => by simp [List.intercalate] at hpart
  | cons s ss ih =>
    obtain ⟨hs, hrest⟩ := List.forall_mem_cons.mp h
    rcases ss with - | ⟨t, ss⟩
    · rwa [List.intercalate_singleton]
    intro name hname hpart
    rw [List.intercalate_cons_cons, List.append_assoc, List.singleton_append] at hpart
    have hfeed : '\n' ∉ ':' :: name ++ [':'] := by
      have : '\n' ∉ name := fun hmem =>
        Bool.false_ne_true (hname.symm.trans (List.any_eq_true.mpr ⟨'\n', hmem, by decide⟩))
      simpa using this
    rcases infix_of_not_mem hpart hfeed with h1 | h2
    · exact hs name hname h1
    · exact ih hrest name hname h2

theorem nameAfterColon?_eq_some {s name after : List Char}
    (h : nameAfterColon? s = some (name, after)) :
    name.any isBlank = false ∧ s = name ++ ':' :: after := by
  simp only [nameAfterColon?, cutAt] at h
  rcases hrest : s.dropWhile (· != ':') with - | ⟨c, rest⟩
  · simp [hrest] at h
  · have hc : c = ':' := by
      have := List.head?_dropWhile_not (· != ':') s
      simpa [hrest] using this
    simp only [hrest] at h
    split at h
    · cases h
    · rename_i hblank
      cases h
      refine ⟨by simpa using hblank, ?_⟩
      have hwhole := (List.takeWhile_append_dropWhile (p := (· != ':')) (l := s)).symm
      rwa [hrest, hc] at hwhole

theorem withEmoji_of_emojiFree {s : List Char} (h : EmojiFree s) : withEmoji s = s := by
  induction s using withEmoji.induct with
  | case1 => rw [withEmoji]
  | case2 c rest hc hname ih =>
    rw [withEmoji, if_pos hc]
    split
    · rw [ih (h.of_infix (List.suffix_cons c rest).isInfix)]
    · simp_all
  | case3 c rest hc name after hname ih =>
    obtain ⟨hblank, hrest⟩ := nameAfterColon?_eq_some hname
    have hcolon : c = ':' := beq_iff_eq.mp hc
    have hwhole : c :: rest = (':' :: name ++ [':']) ++ after := by simp [hcolon, hrest]
    have hafter : EmojiFree after := h.of_infix (hwhole ▸ List.suffix_append _ after).isInfix
    have hnone : emojiFor? name = none :=
      h name hblank (hwhole ▸ List.prefix_append _ after).isInfix
    rw [withEmoji, if_pos hc]
    split
    · simp_all
    · rename_i n a heq
      obtain ⟨rfl, rfl⟩ : n = name ∧ a = after := by simpa [hname] using heq.symm
      rw [hnone, ih hafter, hwhole]
      rfl
  | case4 c rest hc ih =>
    rw [withEmoji, if_neg hc, ih (h.of_infix (List.suffix_cons c rest).isInfix)]

end SigmaRules.Text
