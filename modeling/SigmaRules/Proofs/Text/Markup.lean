/-
SigmaRules/Proofs/Text/Markup.lean

What texts show when they are read as texts with markup.  A text in which no tag starts can
always be read (`exists_read_of_untagged`).  What it shows is the text itself, if it names no
emoji and has no backslash before a bracket that starts no tag (`SlashesMarkTags`): such a
backslash is dropped.
-/
import Mathlib.Data.List.Infix
import Mathlib.Data.List.TakeWhile
import SigmaRules.Proofs.Text.Emoji
import SigmaRules.Text.Markup

namespace SigmaRules.Text.Markup

/-! ### Backslashes and tags -/

theorem slashes_succ (n : Nat) : slashes (n + 1) = slashes n ++ ['\\'] := List.replicate_succ'

theorem slashes_append (m n : Nat) : slashes m ++ slashes n = slashes (m + n) :=
  List.replicate_append_replicate

/-- Is the character no bracket? -/
abbrev noBracket (c : Char) : Bool := c != '[' && c != ']'

theorem tagAt?_eq_some {s tag after : List Char} (h : tagAt? s = some (tag, after)) :
    s = tag ++ ']' :: after := by
  rcases s with - | ⟨c, rest⟩
  · cases h
  simp only [tagAt?] at h
  split at h
  · split at h
    · rename_i hdrop
      cases h
      rw [List.cons_append, ← hdrop, List.takeWhile_append_dropWhile]
    · cases h
  · cases h

/-- What can stand in a tag. -/
def IsTag (tag : List Char) : Prop :=
  ∃ c rest, tag = c :: rest ∧ startsTag c = true ∧ ∀ d ∈ rest, noBracket d = true

theorem isTag_cons {c : Char} (hc : startsTag c = true) {rest : List Char}
    (h : rest.all noBracket = true) : IsTag (c :: rest) :=
  ⟨c, rest, rfl, hc, List.all_eq_true.mp h⟩

/-- A tag is what stands before the first bracket, which closes it. -/
theorem tagAt?_append {tag : List Char} (h : IsTag tag) (after : List Char) :
    tagAt? (tag ++ ']' :: after) = some (tag, after) := by
  obtain ⟨c, rest, rfl, hc, hrest⟩ := h
  have hdrop : (rest ++ ']' :: after).dropWhile noBracket = ']' :: after := by
    rw [List.dropWhile_append_of_pos hrest]
    rfl
  have htake : (rest ++ ']' :: after).takeWhile noBracket = rest := by
    rw [List.takeWhile_append_of_pos hrest]
    simp
  rw [List.cons_append, tagAt?, if_pos hc]
  simp only [hdrop, htake]

theorem isTag_of_tagAt? {s tag after : List Char} (h : tagAt? s = some (tag, after)) :
    IsTag tag := by
  rcases s with - | ⟨c, rest⟩
  · cases h
  simp only [tagAt?] at h
  split at h
  · rename_i hc
    split at h
    · cases h
      exact ⟨c, _, rfl, hc, fun d hd => List.mem_takeWhile_imp hd⟩
    · cases h
  · cases h

/-- A tag that ends in a text is the same if more text follows. -/
theorem tagAt?_of_append {s tag after : List Char} (h : tagAt? s = some (tag, after))
    (more : List Char) : tagAt? (s ++ more) = some (tag, after ++ more) := by
  rw [tagAt?_eq_some h, List.append_assoc]
  exact tagAt?_append (isTag_of_tagAt? h) (after ++ more)

/-! ### Texts between tags -/

/-- A backslash stands before a bracket only where that starts a tag. -/
def SlashesMarkTags (s : List Char) : Prop :=
  ∀ before after, s = before ++ '\\' :: '[' :: after → (tagAt? after).isSome = true

/-- No bracket starts a tag. -/
def Untagged (s : List Char) : Prop :=
  ∀ before after, s = before ++ '[' :: after → tagAt? after = none

theorem slashesMarkTags_iff {s : List Char} : SlashesMarkTags s ↔
    ∀ t ∈ s.tails, t.take 2 = ['\\', '['] → (tagAt? (t.drop 2)).isSome = true := by
  refine ⟨fun h t ht htake => ?_, fun h before after heq => ?_⟩
  · obtain ⟨before, heq⟩ := (List.mem_tails _ _).mp ht
    refine h before (t.drop 2) ?_
    rw [← heq]
    exact congrArg (before ++ ·) ((List.take_append_drop 2 t).symm.trans (by rw [htake]; rfl))
  · exact h ('\\' :: '[' :: after) ((List.mem_tails _ _).mpr ⟨before, heq.symm⟩) rfl

instance (s : List Char) : Decidable (SlashesMarkTags s) := decidable_of_iff _ slashesMarkTags_iff.symm

theorem untagged_iff {s : List Char} : Untagged s ↔
    ∀ t ∈ s.tails, t.take 1 = ['['] → tagAt? (t.drop 1) = none := by
  refine ⟨fun h t ht htake => ?_, fun h before after heq => ?_⟩
  · obtain ⟨before, heq⟩ := (List.mem_tails _ _).mp ht
    refine h before (t.drop 1) ?_
    rw [← heq]
    exact congrArg (before ++ ·) ((List.take_append_drop 1 t).symm.trans (by rw [htake]; rfl))
  · exact h ('[' :: after) ((List.mem_tails _ _).mpr ⟨before, heq.symm⟩) rfl

instance (s : List Char) : Decidable (Untagged s) := decidable_of_iff _ untagged_iff.symm

theorem SlashesMarkTags.of_not_mem {s : List Char} (h : '[' ∉ s) : SlashesMarkTags s :=
  fun before _ heq => absurd (heq ▸ List.mem_append_right before
    (List.mem_cons_of_mem _ List.mem_cons_self)) h

theorem Untagged.of_not_mem {s : List Char} (h : '[' ∉ s) : Untagged s :=
  fun before _ heq => absurd (heq ▸ List.mem_append_right before List.mem_cons_self) h

theorem SlashesMarkTags.of_suffix {s t : List Char} (h : SlashesMarkTags s) (ht : t <:+ s) :
    SlashesMarkTags t := by
  obtain ⟨u, rfl⟩ := ht
  exact fun before after heq => h (u ++ before) after (by rw [heq, List.append_assoc])

theorem Untagged.of_suffix {s t : List Char} (h : Untagged s) (ht : t <:+ s) : Untagged t := by
  obtain ⟨u, rfl⟩ := ht
  exact fun before after heq => h (u ++ before) after (by rw [heq, List.append_assoc])

/-- There are no backslashes before a bracket that starts no tag. -/
theorem SlashesMarkTags.eq_zero {n : Nat} {rest : List Char}
    (h : SlashesMarkTags (slashes n ++ '[' :: rest)) (hrest : tagAt? rest = none) : n = 0 := by
  rcases n with - | n
  · rfl
  · have := h (slashes n) rest (by rw [slashes_succ, List.append_assoc]; rfl)
    rw [hrest] at this
    cases this

/-- Lines below each other have backslashes before tags only if each of them has. -/
theorem SlashesMarkTags.intercalate {ss : List (List Char)} (h : ∀ s ∈ ss, SlashesMarkTags s) :
    SlashesMarkTags (['\n'].intercalate ss) := by
  induction ss with
  | nil => exact fun before after heq => by simp [List.intercalate] at heq
  | cons s ss ih =>
    obtain ⟨hs, hrest⟩ := List.forall_mem_cons.mp h
    rcases ss with - | ⟨t, ss⟩
    · rwa [List.intercalate_singleton]
    intro before after heq
    rw [List.intercalate_cons_cons, List.append_assoc, List.singleton_append] at heq
    rcases List.append_eq_append_iff.mp heq with ⟨u, rfl, hu⟩ | ⟨u, rfl, hu⟩
    · rcases u with - | ⟨c, u⟩
      · simp at hu
      · exact ih hrest u after (List.cons.inj hu).2
    · rcases u with - | ⟨c, - | ⟨d, u⟩⟩
      · simp at hu
      · simp at hu
      · simp only [List.cons_append, List.cons.injEq] at hu
        obtain ⟨rfl, rfl, rfl⟩ := hu
        obtain ⟨⟨tag, rest⟩, htag⟩ := Option.isSome_iff_exists.mp (hs before u rfl)
        rw [tagAt?_of_append htag]
        rfl

/-! ### Pieces of a text with markup -/

theorem piecesFrom_slash (plain : List Char) (n : Nat) (rest : List Char) :
    piecesFrom plain n ('\\' :: rest) = piecesFrom plain (n + 1) rest := by
  rw [piecesFrom, if_pos (by decide)]

theorem piecesFrom_slashes (plain : List Char) (n k : Nat) (s : List Char) :
    piecesFrom plain n (slashes k ++ s) = piecesFrom plain (n + k) s := by
  induction k generalizing n with
  | zero => rfl
  | succ k ih =>
    rw [slashes, List.replicate_succ, List.cons_append, piecesFrom_slash]
    exact (ih (n + 1)).trans (by rw [Nat.add_right_comm, Nat.add_assoc])

theorem piecesFrom_tag (plain : List Char) (n : Nat) {tag : List Char} (h : IsTag tag)
    (after : List Char) :
    piecesFrom plain n (bracketed tag ++ after)
      = .text plain :: .text (slashes (n / 2)) ::
        (if n % 2 == 1 then .text (bracketed tag) else .tag tag) :: piecesFrom [] 0 after := by
  have hsame : bracketed tag ++ after = '[' :: (tag ++ ']' :: after) := by simp [bracketed]
  rw [hsame, piecesFrom, if_neg (by decide), if_pos (by decide)]
  split
  · rename_i t a heq
    cases heq.symm.trans (tagAt?_append h after)
    rfl
  · rename_i heq
    rw [tagAt?_append h after] at heq
    cases heq

theorem piecesFrom_bracket (plain : List Char) (n : Nat) {rest : List Char}
    (h : tagAt? rest = none) :
    piecesFrom plain n ('[' :: rest) = piecesFrom (plain ++ slashes (n - 1) ++ ['[']) 0 rest := by
  rw [piecesFrom, if_neg (by decide), if_pos (by decide)]
  split
  · simp_all
  · rfl

theorem piecesFrom_other (plain : List Char) (n : Nat) {c : Char} (hslash : c ≠ '\\')
    (hbracket : c ≠ '[') (rest : List Char) :
    piecesFrom plain n (c :: rest) = piecesFrom (plain ++ slashes n ++ [c]) 0 rest := by
  rw [piecesFrom, if_neg (by simpa using hslash), if_neg (by simpa using hbracket)]

/-- What has neither backslashes nor opening brackets is plain text. -/
theorem piecesFrom_plain {s : List Char} (h : ∀ c ∈ s, c ≠ '\\' ∧ c ≠ '[') (plain t : List Char) :
    piecesFrom plain 0 (s ++ t) = piecesFrom (plain ++ s) 0 t := by
  induction s generalizing plain with
  | nil => rw [List.nil_append, List.append_nil]
  | cons c rest ih =>
    obtain ⟨⟨hslash, hbracket⟩, hrest⟩ := List.forall_mem_cons.mp h
    rw [List.cons_append, piecesFrom_other plain 0 hslash hbracket, ih hrest]
    simp [slashes]

/-- A text in which no tag starts is one piece. -/
theorem exists_piecesFrom_of_untagged {s : List Char} (h : Untagged s) (plain : List Char)
    (n : Nat) : ∃ t, piecesFrom plain n s = [.text t] ∧
      (SlashesMarkTags (slashes n ++ s) → t = plain ++ slashes n ++ s) := by
  induction s generalizing plain n with
  | nil => exact ⟨plain ++ slashes n, by rw [piecesFrom], fun _ => (List.append_nil _).symm⟩
  | cons c rest ih =>
    have hrest : Untagged rest := h.of_suffix (List.suffix_cons c rest)
    by_cases hslash : c = '\\'
    · obtain ⟨t, ht, heq⟩ := ih hrest plain (n + 1)
      refine ⟨t, by rw [hslash, piecesFrom_slash, ht], fun hmark => ?_⟩
      have hsame : slashes (n + 1) ++ rest = slashes n ++ c :: rest := by
        rw [slashes_succ, List.append_assoc, hslash]
        rfl
      rw [heq (hsame ▸ hmark), List.append_assoc, hsame, List.append_assoc]
    by_cases hbracket : c = '['
    · have hnone : tagAt? rest = none := h [] rest (by rw [hbracket]; rfl)
      obtain ⟨t, ht, heq⟩ := ih hrest (plain ++ slashes (n - 1) ++ ['[']) 0
      refine ⟨t, by rw [hbracket, piecesFrom_bracket plain n hnone, ht], fun hmark => ?_⟩
      subst hbracket
      obtain rfl := hmark.eq_zero hnone
      rw [heq (hmark.of_suffix (List.suffix_cons _ rest))]
      simp [slashes]
    · obtain ⟨t, ht, heq⟩ := ih hrest (plain ++ slashes n ++ [c]) 0
      refine ⟨t, by rw [piecesFrom_other plain n hslash hbracket, ht], fun hmark => ?_⟩
      rw [heq (hmark.of_suffix ((List.suffix_cons c rest).trans (List.suffix_append _ _)))]
      simp [slashes]

/-! ### Reading -/

theorem readPieces_texts (styles : List String) (texts : List (List Char)) (ps : List Piece) :
    readPieces styles (texts.map .text ++ ps)
      = (readPieces styles ps).map (texts.flatMap withEmoji ++ ·) := by
  induction texts with
  | nil => rcases h : readPieces styles ps <;> simp [h, Except.map]
  | cons t texts ih =>
    rw [List.map_cons, List.cons_append, readPieces, ih]
    rcases readPieces styles ps <;> simp [Except.map]

/-- Texts alone can be read. -/
theorem readPieces_of_texts (styles : List String) (texts : List (List Char)) :
    readPieces styles (texts.map .text) = .ok (texts.flatMap withEmoji) := by
  have h := readPieces_texts styles texts []
  rw [List.append_nil] at h
  exact h.trans (by simp [readPieces, Except.map])

theorem readPieces_tag {styles styles' : List String} {tag : List Char}
    (h : applyTag styles tag = .ok styles') (ps : List Piece) :
    readPieces styles (.tag tag :: ps) = readPieces styles' ps := by
  rw [readPieces, h]
  rfl

/-- Texts in which no emoji is named show themselves. -/
theorem flatMap_withEmoji {texts : List (List Char)} (h : EmojiFree texts.flatten) :
    texts.flatMap withEmoji = texts.flatten := by
  have hsame : ∀ t ∈ texts, withEmoji t = t := by
    intro t ht
    exact withEmoji_of_emojiFree (h.of_infix (List.infix_of_mem_flatten ht))
  rw [List.flatMap, List.map_congr_left hsame, List.map_id']

/-- A tag gives the style whose name stands before its first equals sign. -/
theorem applyTag_open {name : List Char} (hslash : name.head? ≠ some '/') {tag : List Char}
    (htag : (cutAt '=' tag).1 = name) (styles : List String) :
    applyTag styles tag = .ok (styleName name :: styles) := by
  rw [applyTag.eq_def, htag]
  split
  · exact absurd rfl hslash
  · rfl

/-- A tag with a slash takes the style away. -/
theorem applyTag_close {name : List Char} (h : '=' ∉ name) (hne : (strip name).isEmpty = false)
    (styles : List String) :
    applyTag (styleName name :: styles) ('/' :: name) = .ok styles := by
  rw [applyTag.eq_def, cutAt_of_not_mem (List.not_mem_cons_of_ne_of_not_mem (by decide) h)]
  simp [hne]

/-- **A text in which no tag starts can be read**, and shows itself. -/
theorem exists_read_of_untagged {s : List Char} (h : Untagged s) :
    ∃ t, read s = .ok t ∧ (EmojiFree s → SlashesMarkTags s → t = s) := by
  obtain ⟨t, ht, hshown⟩ := exists_piecesFrom_of_untagged h [] 0
  refine ⟨[t].flatMap withEmoji, ?_, fun hemoji hmark => ?_⟩
  · rw [read, pieces, ht, ← readPieces_of_texts []]
    rfl
  · rw [hshown hmark, List.flatMap_singleton]
    exact withEmoji_of_emojiFree hemoji

end SigmaRules.Text.Markup
