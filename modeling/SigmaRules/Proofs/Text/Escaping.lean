/-
SigmaRules/Proofs/Text/Escaping.lean

Escaped texts can always be read, with nothing around them (`exists_read_escape`) and between
tags (`exists_read_between`).  Their pieces are texts, whatever stands behind them
(`exists_piecesFrom_escapeFrom`).

They show what was escaped if it names no emoji and has no backslash before a bracket that
starts no tag, which escaping leaves alone.  The end needs care.  Escaping doubles a single
backslash there, which a tag behind it halves again; of two backslashes and more a tag takes
some away.
-/
import SigmaRules.Proofs.Text.Markup

namespace SigmaRules.Text.Markup

/-! ### Pieces of an escaped text -/

/-- What may stand behind an escaped text: backslashes, and then nothing or a bracket. -/
def IsEnd (t : List Char) : Prop := ∃ k u, t = slashes k ++ u ∧ (u = [] ∨ ∃ v, u = '[' :: v)

theorem dropWhile_slashes (k : Nat) (s : List Char) :
    (slashes k ++ s).dropWhile noBracket = s.dropWhile noBracket :=
  List.dropWhile_append_of_pos fun c hc => by rw [List.eq_of_mem_replicate hc]; rfl

theorem escapeFrom_slash (n : Nat) (rest : List Char) :
    escapeFrom n ('\\' :: rest) = escapeFrom (n + 1) rest := by
  rw [escapeFrom, if_pos (by decide)]

theorem escapeFrom_other (n : Nat) {c : Char} (hslash : c ≠ '\\') (hbracket : c ≠ '[')
    (rest : List Char) : escapeFrom n (c :: rest) = slashes n ++ c :: escapeFrom 0 rest := by
  rw [escapeFrom, if_neg (by simpa using hslash), if_neg (by simpa using hbracket)]

theorem escapeFrom_bracket (n : Nat) {rest : List Char} (h : tagAt? rest = none) :
    escapeFrom n ('[' :: rest) = slashes n ++ '[' :: escapeFrom 0 rest := by
  rw [escapeFrom, if_neg (by decide), if_pos (by decide)]
  split
  · simp_all
  · rfl

theorem escapeFrom_tag (n : Nat) {rest tag after : List Char} (h : tagAt? rest = some (tag, after)) :
    escapeFrom n ('[' :: rest) = slashes (2 * n + 1) ++ bracketed tag ++ escapeFrom 0 after := by
  rw [escapeFrom, if_neg (by decide), if_pos (by decide)]
  split
  · rename_i t a heq
    cases heq.symm.trans h
    rfl
  · simp_all

/-- Backslashes stay in front. -/
theorem exists_escapeFrom_succ (n : Nat) (s : List Char) :
    ∃ t, escapeFrom (n + 1) s = '\\' :: t := by
  have hfront : ∀ k t, ∃ u, slashes (k + 1) ++ t = '\\' :: u := fun k t => ⟨slashes k ++ t, rfl⟩
  induction s generalizing n with
  | nil => exact ⟨slashes n, by rw [escapeFrom]; rfl⟩
  | cons c rest ih =>
    by_cases hslash : c = '\\'
    · rw [hslash, escapeFrom_slash]
      exact ih (n + 1)
    by_cases hbracket : c = '['
    · rw [hbracket]
      rcases htag : tagAt? rest with - | ⟨tag, after⟩
      · rw [escapeFrom_bracket _ htag]
        exact hfront n _
      · rw [escapeFrom_tag _ htag, List.append_assoc]
        exact hfront (2 * (n + 1)) _
    · rw [escapeFrom_other _ hslash hbracket]
      exact hfront n _

/-- Escaping leaves the first bracket in its place, but for the backslashes before it. -/
theorem dropWhile_escapeFrom {s : List Char} (hs : ∀ after, s.dropWhile noBracket ≠ ']' :: after)
    {t : List Char} (ht : IsEnd t) (n : Nat) (after : List Char) :
    (escapeFrom n s ++ t).dropWhile noBracket ≠ ']' :: after := by
  induction s generalizing n with
  | nil =>
    obtain ⟨k, u, rfl, hu⟩ := ht
    rw [escapeFrom, dropWhile_slashes, dropWhile_slashes]
    rcases hu with rfl | ⟨v, rfl⟩ <;> simp [noBracket]
  | cons c rest ih =>
    by_cases hslash : c = '\\'
    · subst hslash
      rw [escapeFrom_slash]
      exact ih hs (n + 1)
    by_cases hbracket : c = '['
    · rw [hbracket]
      rcases htag : tagAt? rest with - | ⟨tag, more⟩
      · rw [escapeFrom_bracket n htag, List.append_assoc, dropWhile_slashes]
        simp [noBracket]
      · rw [escapeFrom_tag n htag, List.append_assoc, List.append_assoc, dropWhile_slashes]
        simp [noBracket, bracketed]
    · have hopen : c ≠ ']' := by
        rintro rfl
        exact hs rest rfl
      have hc : noBracket c = true := by simp [noBracket, hbracket, hopen]
      rw [escapeFrom_other n hslash hbracket, List.append_assoc, dropWhile_slashes,
        List.cons_append, List.dropWhile_cons, if_pos hc]
      exact ih (fun after => by simpa [List.dropWhile_cons, hc] using hs after) 0

/-- Where no tag starts in a text, none starts when it is escaped. -/
theorem tagAt?_escapeFrom {s : List Char} (hs : tagAt? s = none) {t : List Char} (ht : IsEnd t) :
    tagAt? (escapeFrom 0 s ++ t) = none := by
  have hslash : ∀ u, tagAt? ('\\' :: u) = none := fun u => rfl
  have hbracket : ∀ u, tagAt? ('[' :: u) = none := fun u => rfl
  rcases s with - | ⟨c, rest⟩
  · obtain ⟨k, u, rfl, hu⟩ := ht
    rw [escapeFrom]
    rcases k with - | k
    · rcases hu with rfl | ⟨v, rfl⟩
      · rfl
      · exact hbracket v
    · exact hslash _
  by_cases hc : c = '\\'
  · obtain ⟨u, hu⟩ := exists_escapeFrom_succ 0 rest
    rw [hc, escapeFrom_slash, hu]
    exact hslash _
  by_cases hopen : c = '['
  · rw [hopen]
    rcases htag : tagAt? rest with - | ⟨tag, after⟩
    · rw [escapeFrom_bracket 0 htag]
      exact hbracket _
    · rw [escapeFrom_tag 0 htag]
      exact hslash _
  · rw [escapeFrom_other 0 hc hopen, List.append_assoc]
    change tagAt? (c :: (escapeFrom 0 rest ++ t)) = none
    rw [tagAt?] at hs ⊢
    split
    · rename_i hstart
      rw [if_pos hstart] at hs
      split
      · rename_i after hdrop
        refine absurd hdrop (dropWhile_escapeFrom (fun more hmore => ?_) ht 0 after)
        simp [hmore] at hs
      · rfl
    · rfl

theorem getLast?_append_cons {body : List Char} (h : body.getLast? ≠ some '\\') {c : Char}
    (hc : c ≠ '\\') (before : List Char) : (before ++ c :: body).getLast? ≠ some '\\' := by
  rcases body with - | ⟨d, body⟩
  · simpa using hc
  · simpa [List.getLast?_append] using h

/-- **The pieces of an escaped text** are texts, whatever stands behind it.  They are what was
escaped if its backslashes stand before tags only, up to those at the end, which are left to
what follows. -/
theorem exists_piecesFrom_escapeFrom (n : Nat) (s : List Char) :
    ∃ body k, escapeFrom n s = body ++ slashes k ∧ body.getLast? ≠ some '\\' ∧
      ∀ plain t, IsEnd t → ∃ (texts : List (List Char)) (last : List Char),
        piecesFrom plain 0 (escapeFrom n s ++ t) = texts.map .text ++ piecesFrom last k t ∧
        (SlashesMarkTags (slashes n ++ s) →
          texts.flatten ++ last ++ slashes k = plain ++ slashes n ++ s) := by
  induction n, s using escapeFrom.induct with
  | case1 n =>
    refine ⟨[], n, by rw [escapeFrom]; rfl, by simp, fun plain t _ => ⟨[], plain, ?_, fun _ => ?_⟩⟩
    · rw [escapeFrom, piecesFrom_slashes, Nat.zero_add]
      rfl
    · simp
  | case2 n c rest hslash ih =>
    obtain rfl : c = '\\' := beq_iff_eq.mp hslash
    have hsame : slashes (n + 1) ++ rest = slashes n ++ '\\' :: rest := by
      rw [slashes_succ, List.append_assoc]
      rfl
    simpa only [escapeFrom_slash, List.append_assoc, hsame] using ih
  | case3 n c rest hslash hbracket tag after htag ih =>
    obtain rfl : c = '[' := beq_iff_eq.mp hbracket
    obtain ⟨body, k, hescape, hbody, hpieces⟩ := ih
    have hrest : '[' :: rest = bracketed tag ++ after := by
      rw [tagAt?_eq_some htag, bracketed]
      simp
    refine ⟨slashes (2 * n + 1) ++ bracketed tag ++ body, k, ?_, ?_, fun plain t ht => ?_⟩
    · rw [escapeFrom_tag n htag, hescape, List.append_assoc _ body]
    · have hclose : slashes (2 * n + 1) ++ bracketed tag ++ body
          = (slashes (2 * n + 1) ++ '[' :: tag) ++ ']' :: body := by simp [bracketed]
      rw [hclose]
      exact getLast?_append_cons hbody (by decide) _
    · obtain ⟨texts, last, hread, hshown⟩ := hpieces [] t ht
      refine ⟨plain :: slashes n :: bracketed tag :: texts, last, ?_, fun hmark => ?_⟩
      · rw [escapeFrom_tag n htag, List.append_assoc, List.append_assoc, piecesFrom_slashes,
          piecesFrom_tag _ _ (isTag_of_tagAt? htag), hread,
          show (0 + (2 * n + 1)) / 2 = n by omega, if_pos (by simp)]
        rfl
      · have hafter : SlashesMarkTags (slashes 0 ++ after) := by
          refine hmark.of_suffix ?_
          rw [hrest, ← List.append_assoc]
          exact List.suffix_append _ after
        have hsame := hshown hafter
        rw [hrest, List.flatten_cons, List.flatten_cons, List.flatten_cons]
        simp only [List.append_assoc] at hsame ⊢
        rw [hsame]
        simp [slashes]
  | case4 n c rest hslash hbracket htag ih =>
    obtain rfl : c = '[' := beq_iff_eq.mp hbracket
    obtain ⟨body, k, hescape, hbody, hpieces⟩ := ih
    refine ⟨slashes n ++ '[' :: body, k, ?_, getLast?_append_cons hbody (by decide) _,
      fun plain t ht => ?_⟩
    · rw [escapeFrom_bracket n htag, hescape, List.append_assoc, List.cons_append]
    · obtain ⟨texts, last, hread, hshown⟩ := hpieces (plain ++ slashes (n - 1) ++ ['[']) t ht
      refine ⟨texts, last, ?_, fun hmark => ?_⟩
      · rw [escapeFrom_bracket n htag, List.append_assoc, piecesFrom_slashes, Nat.zero_add,
          List.cons_append, piecesFrom_bracket _ _ (tagAt?_escapeFrom htag ht), hread]
      · obtain rfl := hmark.eq_zero htag
        rw [hshown (hmark.of_suffix (List.suffix_cons _ rest))]
        simp [slashes]
  | case5 n c rest hslash hbracket ih =>
    have hslash : c ≠ '\\' := by simpa using hslash
    have hbracket : c ≠ '[' := by simpa using hbracket
    obtain ⟨body, k, hescape, hbody, hpieces⟩ := ih
    refine ⟨slashes n ++ c :: body, k, ?_, getLast?_append_cons hbody hslash _,
      fun plain t ht => ?_⟩
    · rw [escapeFrom_other n hslash hbracket, hescape, List.append_assoc, List.cons_append]
    · obtain ⟨texts, last, hread, hshown⟩ := hpieces (plain ++ slashes n ++ [c]) t ht
      refine ⟨texts, last, ?_, fun hmark => ?_⟩
      · rw [escapeFrom_other n hslash hbracket, List.append_assoc, piecesFrom_slashes,
          Nat.zero_add, List.cons_append, piecesFrom_other _ _ hslash hbracket, hread]
      · rw [hshown (hmark.of_suffix ((List.suffix_cons c rest).trans (List.suffix_append _ _)))]
        simp [slashes]

/-- A single backslash at the end, told by the backslashes there. -/
theorem endsInSlash_append {body : List Char} (h : body.getLast? ≠ some '\\') (k : Nat) :
    endsInSlash (body ++ slashes k) = (k == 1) := by
  have hreverse : (body ++ slashes k).reverse = slashes k ++ body.reverse := by
    rw [List.reverse_append, slashes, List.reverse_replicate]
  rw [endsInSlash, hreverse]
  have hhead : body.reverse.head? ≠ some '\\' := by rwa [List.head?_reverse]
  rcases k with - | - | k
  · rcases hrev : body.reverse with - | ⟨c, rest⟩
    · rfl
    · have hc : c ≠ '\\' := by simpa [hrev] using hhead
      simp [slashes, hc]
  · rcases hrev : body.reverse with - | ⟨c, rest⟩
    · rfl
    · have hc : c ≠ '\\' := by simpa [hrev] using hhead
      simp [slashes, hc]
  · rfl

/-- Backslashes at the end of an escaped text. -/
def endSlashes (k : Nat) : Nat := if k = 1 then 2 else k

/-- The pieces of an escaped text with nothing or a bracket behind it: texts, and what the
backslashes at the end make of what follows. -/
theorem exists_piecesFrom_escape (s : List Char) : ∃ k, ∀ u, (u = [] ∨ ∃ v, u = '[' :: v) →
    ∃ (texts : List (List Char)) (last : List Char),
      pieces (escape s ++ u) = texts.map .text ++ piecesFrom last (endSlashes k) u ∧
      (SlashesMarkTags s → texts.flatten ++ last ++ slashes k = s) := by
  obtain ⟨body, k, hescape, hbody, hpieces⟩ := exists_piecesFrom_escapeFrom 0 s
  refine ⟨k, fun u hu => ?_⟩
  have hdouble : ∃ j, escape s = escapeFrom 0 s ++ slashes j ∧ k + j = endSlashes k := by
    have hends : endsInSlash (escapeFrom 0 s) = (k == 1) := by
      rw [hescape, endsInSlash_append hbody]
    by_cases hk : k = 1
    · exact ⟨1, by rw [escape, hends, hk]; rfl, by rw [hk]; rfl⟩
    · exact ⟨0, by simp [escape, hends, hk, slashes], by simp [endSlashes, hk]⟩
  obtain ⟨j, hj, hkj⟩ := hdouble
  obtain ⟨texts, last, hread, hshown⟩ := hpieces [] (slashes j ++ u) ⟨j, u, rfl, hu⟩
  refine ⟨texts, last, ?_, hshown⟩
  rw [hj, List.append_assoc, pieces, hread, piecesFrom_slashes, hkj]

/-! ### Reading -/

/-- **An escaped text can be read**, and shows itself; a single backslash at its end is shown
twice. -/
theorem exists_read_escape (s : List Char) : ∃ t, read (escape s) = .ok t ∧
    (EmojiFree s → SlashesMarkTags s → t = s ∨ t = s ++ ['\\']) := by
  obtain ⟨k, hk⟩ := exists_piecesFrom_escape s
  obtain ⟨texts, last, hpieces, hshown⟩ := hk [] (.inl rfl)
  rw [List.append_nil, piecesFrom] at hpieces
  have hread : read (escape s)
      = .ok ((texts ++ [last ++ slashes (endSlashes k)]).flatMap withEmoji) := by
    rw [read, hpieces, ← readPieces_of_texts [], List.map_append]
    rfl
  refine ⟨_, hread, fun hemoji hmark => ?_⟩
  have hflat : (texts ++ [last ++ slashes (endSlashes k)]).flatten
      = texts.flatten ++ last ++ slashes (endSlashes k) := by simp
  rcases eq_or_ne k 1 with rfl | hne
  · have hsame : (texts ++ [last ++ slashes (endSlashes 1)]).flatten = s ++ ['\\'] := by
      rw [hflat, ← hshown hmark, List.append_assoc _ (slashes 1)]
      rfl
    right
    rw [flatMap_withEmoji (hsame ▸ hemoji.concat (by decide)), hsame]
  · have hsame : (texts ++ [last ++ slashes (endSlashes k)]).flatten = s := by
      rw [hflat, endSlashes, if_neg hne, hshown hmark]
    left
    rw [flatMap_withEmoji (hsame ▸ hemoji), hsame]

/-- **An escaped text can be read between two tags** of which the one gives a style and the other
takes it away.  It shows itself if it does not end in two backslashes, of which the tag after it
takes some away. -/
theorem exists_read_between {opening closing : List Char} (hopening : IsTag opening)
    (hclosing : IsTag closing) {styles left : List String}
    (hgive : applyTag [] opening = .ok styles) (htake : applyTag styles closing = .ok left)
    (s : List Char) : ∃ t, read (bracketed opening ++ escape s ++ bracketed closing) = .ok t ∧
      (EmojiFree s → SlashesMarkTags s → ¬ ['\\', '\\'] <:+ s → t = s) := by
  obtain ⟨k, hk⟩ := exists_piecesFrom_escape s
  obtain ⟨texts, last, hpieces, hshown⟩ := hk (bracketed closing) (.inr ⟨_, rfl⟩)
  have hend := piecesFrom_tag last (endSlashes k) hclosing []
  rw [List.append_nil, piecesFrom] at hend
  have hread : read (bracketed opening ++ escape s ++ bracketed closing)
      = readPieces styles ((texts ++ [last, slashes (endSlashes k / 2)]).map .text ++
          [if endSlashes k % 2 == 1 then .text (bracketed closing) else .tag closing,
            .text (slashes 0)]) := by
    have hempty : ∀ ps, readPieces [] ([[], slashes 0].map .text ++ ps) = readPieces [] ps := by
      intro ps
      rw [readPieces_texts]
      rcases readPieces [] ps <;> simp [Except.map, withEmoji, slashes]
    rw [List.append_assoc, read, pieces, piecesFrom_tag [] 0 hopening, ← pieces, hpieces, hend]
    refine (hempty _).trans ((readPieces_tag hgive _).trans ?_)
    simp
  have hfew : SlashesMarkTags s → ¬ ['\\', '\\'] <:+ s →
      endSlashes k / 2 = k ∧ endSlashes k % 2 = 0 := by
    intro hmark htwo
    rcases k with - | - | k
    · exact ⟨rfl, rfl⟩
    · exact ⟨rfl, rfl⟩
    · refine absurd ⟨texts.flatten ++ last ++ slashes k, ?_⟩ htwo
      rw [List.append_assoc _ (slashes k)]
      exact (congrArg _ (slashes_append k 2)).trans (hshown hmark)
  -- an odd number of backslashes makes text of the tag
  rcases hodd : endSlashes k % 2 == 1 with - | -
  · refine ⟨(texts ++ [last, slashes (endSlashes k / 2)]).flatMap withEmoji, ?_, ?_⟩
    · rw [hread, hodd, readPieces_texts]
      rw [if_neg (by decide), readPieces_tag htake]
      simp [readPieces, Except.map, withEmoji, slashes]
    · intro hemoji hmark htwo
      have hsame : (texts ++ [last, slashes (endSlashes k / 2)]).flatten = s := by
        rw [(hfew hmark htwo).1]
        simpa using hshown hmark
      rw [flatMap_withEmoji (hsame ▸ hemoji), hsame]
  · refine ⟨(texts ++ [last, slashes (endSlashes k / 2), bracketed closing, []]).flatMap
      withEmoji, ?_, ?_⟩
    · rw [hread, hodd, ← readPieces_of_texts styles]
      simp [slashes]
    · intro hemoji hmark htwo
      rw [(hfew hmark htwo).2] at hodd
      cases hodd

end SigmaRules.Text.Markup
