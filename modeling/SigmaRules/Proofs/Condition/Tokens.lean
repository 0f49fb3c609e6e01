/-
SigmaRules/Proofs/Condition/Tokens.lean

What the tokens of a condition say about its text.  A text renders tokens if it
has them one after the other, with any white space around them, but some
between two words (`Renders`).  A text has certain tokens if and only if these can
be tokens of a condition and the text renders them (`tokens_eq_iff`): it can be put
together again from its tokens and the white space around them
(`renders_tokens`), and white space makes no difference but where it keeps words
apart (`tokens_of_renders`).  Main statement: `tokens_lose_only_blanks`.
-/
import Mathlib.Data.List.Chain
import SigmaRules.Proofs.Condition.Printing
import SigmaRules.Proofs.Regex.Spelling
import SigmaRules.Regex.Parser

namespace SigmaRules.Condition

open Text

variable {c : Char} {s before : List Char} {t : Token} {ts : List Token}
  {laid : List (Token × List Char)}

/-! ### Renderings -/

/-- Is the token a word? -/
def Token.isWord : Token → Bool
  | .word _ => true
  | _ => false

/-- The character is neither a mark nor white space. -/
def InWord (c : Char) : Prop := c ∉ ['(', ')', '|'] ∧ isBlank c = false

/-- A token as conditions have them: a mark, or a word of some characters, none of
which is a mark or white space. -/
def Token.WellFormed : Token → Prop
  | .opening | .closing | .bar => True
  | .word w => w ≠ "" ∧ ∀ c ∈ w.toList, InWord c

/-- The text of tokens, each with what stands after it, and of what stands before the
first one. -/
def rendered (before : List Char) (laid : List (Token × List Char)) : List Char :=
  before ++ laid.flatMap fun t => t.1.text.toList ++ t.2

/-- Around the tokens there is white space or nothing, and not nothing between two words. -/
structure Spacing (before : List Char) (laid : List (Token × List Char)) : Prop where
  blank_before : ∀ c ∈ before, isBlank c = true
  blank_after : ∀ t ∈ laid, ∀ c ∈ t.2, isBlank c = true
  apart : laid.IsChain fun t u => t.1.isWord = true → u.1.isWord = true → t.2 ≠ []

/-- The text has the tokens one after the other, with white space around them. -/
def Renders (ts : List Token) (s : List Char) : Prop :=
  ∃ before laid, Spacing before laid ∧ laid.map Prod.fst = ts ∧ rendered before laid = s

/-! ### Characters -/

theorem ofMark?_eq_none_iff : Token.ofMark? c = none ↔ c ∉ ['(', ')', '|'] := by
  simp only [Token.ofMark?, beq_iff_eq, List.mem_cons, List.not_mem_nil, or_false]
  split_ifs <;> simp_all

theorem ofMark?_eq_none_of_isBlank (h : isBlank c = true) : Token.ofMark? c = none := by
  simp only [ofMark?_eq_none_iff, List.mem_cons, List.not_mem_nil, or_false, not_or]
  refine ⟨?_, ?_, ?_⟩
  all_goals
    rintro rfl
    exact absurd h (by decide)

theorem of_ofMark?_eq_some (h : Token.ofMark? c = some t) :
    t.text.toList = [c] ∧ t.isWord = false := by
  simp only [Token.ofMark?, beq_iff_eq] at h
  split_ifs at h with h1 h2 h3
  all_goals
    obtain rfl := Option.some.inj h
    subst c
    decide

theorem exists_ofMark?_eq_some (h : t.isWord = false) : ∃ c, Token.ofMark? c = some t := by
  cases t with
  | opening => exact ⟨'(', rfl⟩
  | closing => exact ⟨')', rfl⟩
  | bar => exact ⟨'|', rfl⟩
  | word => cases h

theorem endsWord_of_isBlank (h : isBlank c = true) : endsWord c = true := by
  simp [endsWord, h]

theorem endsWord_of_ofMark? (h : Token.ofMark? c = some t) : endsWord c = true := by
  simp [endsWord, h]

/-! ### Tokens of a rendering -/

theorem tokens_cons_of_ofMark? (h : Token.ofMark? c = some t) (s : List Char) :
    tokens (c :: s) = t :: tokens s := by
  rw [tokens, tokensAfter, h]
  rfl

/-- White space before a text makes no difference. -/
theorem tokens_append_of_blank (h : ∀ c ∈ before, isBlank c = true) (s : List Char) :
    tokens (before ++ s) = tokens s := by
  induction before with
  | nil => rfl
  | cons c before ih =>
    obtain ⟨hc, hbefore⟩ := List.forall_mem_cons.mp h
    rw [List.cons_append, tokens, tokensAfter, ofMark?_eq_none_of_isBlank hc, if_pos hc]
    exact ih hbefore

/-- The characters of a word are collected. -/
theorem tokensAfter_of_forall {w : List Char} (hs : ∀ c ∈ s, InWord c) :
    tokensAfter w s = finish (s.reverse ++ w) [] := by
  induction s generalizing w with
  | nil => rfl
  | cons c s ih =>
    obtain ⟨⟨hmark, hblank⟩, hrest⟩ := List.forall_mem_cons.mp hs
    simp [tokensAfter, ofMark?_eq_none_iff.mpr hmark, hblank, ih hrest]

theorem tokens_word {w : String} (h : (Token.word w).WellFormed) : tokens w.toList = [.word w] := by
  rw [tokens, tokensAfter_of_forall h.2, finish, if_neg (by simpa using h.1)]
  simp

/-- A word ends where another character does not go on with it. -/
theorem tokens_word_append {w : String} (h : (Token.word w).WellFormed)
    (hs : ∀ c ∈ s.head?, endsWord c = true) : tokens (w.toList ++ s) = .word w :: tokens s := by
  rcases s with - | ⟨c, s⟩
  · rw [List.append_nil, tokens_word h]
    rfl
  · rw [tokens_append (hs c rfl), tokens_word h, List.singleton_append]

/-- What stands after a word does not go on with it. -/
theorem Spacing.endsWord_head {u : Token × List Char} (h : Spacing before (u :: laid))
    (hu : u.1.isWord = true) : ∀ c ∈ (u.2 ++ rendered [] laid).head?, endsWord c = true := by
  intro c hc
  rcases hgap : u.2 with - | ⟨b, gap⟩
  · rw [hgap, List.nil_append] at hc
    rcases laid with - | ⟨v, laid⟩
    · cases hc
    -- without white space after the word, a mark follows
    · have hv : v.1.isWord = false := by
        by_contra hv
        exact (List.isChain_cons_cons.mp h.apart).1 hu (by simpa using hv) hgap
      obtain ⟨d, hd⟩ := exists_ofMark?_eq_some hv
      have hhead : (rendered [] (v :: laid)).head? = some d := by
        simp [rendered, (of_ofMark?_eq_some hd).1]
      obtain rfl : d = c := by simpa [hhead] using hc
      exact endsWord_of_ofMark? hd
  · obtain rfl : b = c := by simpa [hgap] using hc
    exact endsWord_of_isBlank (h.blank_after u List.mem_cons_self b (by simp [hgap]))

theorem Spacing.tail {u : Token × List Char} (h : Spacing before (u :: laid)) : Spacing u.2 laid :=
  ⟨h.blank_after u List.mem_cons_self, fun v hv => h.blank_after v (List.mem_cons_of_mem u hv),
    h.apart.tail⟩

/-- **Tokens are found again** in a text that renders them. -/
theorem tokens_rendered (h : Spacing before laid) (hlaid : ∀ t ∈ laid, t.1.WellFormed) :
    tokens (rendered before laid) = laid.map Prod.fst := by
  induction laid generalizing before with
  | nil => exact tokens_append_of_blank h.blank_before []
  | cons u laid ih =>
    obtain ⟨hu, hrest⟩ := List.forall_mem_cons.mp hlaid
    have htail : tokens (u.2 ++ rendered [] laid) = laid.map Prod.fst := ih h.tail hrest
    have htext : rendered before (u :: laid)
        = before ++ (u.1.text.toList ++ (u.2 ++ rendered [] laid)) := by
      simp [rendered]
    rw [htext, tokens_append_of_blank h.blank_before, List.map_cons, ← htail]
    rcases hword : u.1.isWord with - | -
    · obtain ⟨c, hc⟩ := exists_ofMark?_eq_some hword
      rw [(of_ofMark?_eq_some hc).1]
      exact tokens_cons_of_ofMark? hc _
    · have hends := h.endsWord_head hword
      obtain ⟨w, hw⟩ : ∃ w, u.1 = .word w := by
        rcases hu' : u.1 with - | - | - | w <;> simp_all [Token.isWord]
      rw [hw] at hu ⊢
      exact tokens_word_append hu hends

theorem tokens_of_renders (hts : ∀ t ∈ ts, t.WellFormed) (h : Renders ts s) : tokens s = ts := by
  obtain ⟨before, laid, hspacing, rfl, rfl⟩ := h
  exact tokens_rendered hspacing (List.forall_mem_map.mp hts)

/-! ### Renderings of the tokens of a text -/

theorem wellFormed_finish {w : List Char} (hw : ∀ c ∈ w, InWord c)
    (hts : ∀ t ∈ ts, t.WellFormed) : ∀ t ∈ finish w ts, t.WellFormed := by
  rw [finish]
  split
  case isTrue => exact hts
  case isFalse hne => exact List.forall_mem_cons.mpr ⟨⟨by simpa using hne, by simpa using hw⟩, hts⟩

theorem wellFormed_tokensAfter {w : List Char} (hw : ∀ c ∈ w, InWord c) :
    ∀ t ∈ tokensAfter w s, t.WellFormed := by
  fun_induction tokensAfter w s with
  | case1 w => exact wellFormed_finish hw (List.forall_mem_nil _)
  | case2 w c cs t hm ih =>
    refine wellFormed_finish hw (List.forall_mem_cons.mpr ⟨?_, ih (List.forall_mem_nil _)⟩)
    have hmark := (of_ofMark?_eq_some hm).2
    cases t with
    | opening | closing | bar => trivial
    | word => cases hmark
  | case3 w c cs hm hb ih => exact wellFormed_finish hw (ih (List.forall_mem_nil _))
  | case4 w c cs hm hb ih =>
    have hc : InWord c := ⟨ofMark?_eq_none_iff.mp hm, by simpa using hb⟩
    exact ih (List.forall_mem_cons.mpr ⟨hc, hw⟩)

/-- A collected word and what follows it are rendered, if that does not go on with the word. -/
theorem renders_finish (w : List Char) (h : Spacing before laid)
    (hnext : before ≠ [] ∨ ∀ t ∈ laid.head?, t.1.isWord = false) :
    Renders (finish w (laid.map Prod.fst)) (w.reverse ++ rendered before laid) := by
  rw [finish]
  split
  case isTrue hw =>
    obtain rfl := List.isEmpty_iff.mp hw
    exact ⟨before, laid, h, rfl, rfl⟩
  case isFalse hw =>
    refine ⟨[], (.word (String.ofList w.reverse), before) :: laid, ⟨by simp, ?_, ?_⟩, rfl, ?_⟩
    · exact List.forall_mem_cons.mpr ⟨h.blank_before, h.blank_after⟩
    · refine List.isChain_cons.mpr ⟨fun t ht _ hword => ?_, h.apart⟩
      rcases hnext with hnext | hnext
      · exact hnext
      · rw [hnext t ht] at hword
        cases hword
    · simp [rendered, Token.text]

/-- **A text is put together from its tokens** and the white space around them. -/
theorem renders_tokensAfter (w s : List Char) : Renders (tokensAfter w s) (w.reverse ++ s) := by
  fun_induction tokensAfter w s with
  | case1 w => exact renders_finish w ⟨List.forall_mem_nil _, List.forall_mem_nil _, .nil⟩ (by simp)
  | case2 w c cs t hm ih =>
    obtain ⟨before, laid, h, hts, hcs⟩ := ih
    obtain ⟨htext, hmark⟩ := of_ofMark?_eq_some hm
    have hspacing : Spacing [] ((t, before) :: laid) := by
      refine ⟨List.forall_mem_nil _, List.forall_mem_cons.mpr ⟨h.blank_before, h.blank_after⟩, ?_⟩
      refine List.isChain_cons.mpr ⟨fun u _ hword => ?_, h.apart⟩
      rw [hmark] at hword
      cases hword
    have hrest := renders_finish w hspacing (.inr (by simpa using hmark))
    have hrendered : rendered [] ((t, before) :: laid) = c :: cs := by
      simpa [rendered, htext] using hcs
    rwa [List.map_cons, hts, hrendered] at hrest
  | case3 w c cs hm hb ih =>
    obtain ⟨before, laid, h, hts, hcs⟩ := ih
    have hspacing : Spacing (c :: before) laid :=
      ⟨List.forall_mem_cons.mpr ⟨hb, h.blank_before⟩, h.blank_after, h.apart⟩
    have hrest := renders_finish w hspacing (.inl (List.cons_ne_nil c before))
    have hrendered : rendered (c :: before) laid = c :: cs := congrArg (c :: ·) hcs
    rwa [hts, hrendered] at hrest
  | case4 w c cs hm hb ih => simpa using ih

/-- A text has certain tokens if and only if these can be tokens and it renders them. -/
theorem tokens_eq_iff : tokens s = ts ↔ (∀ t ∈ ts, t.WellFormed) ∧ Renders ts s := by
  constructor
  · rintro rfl
    exact ⟨wellFormed_tokensAfter (List.forall_mem_nil _), renders_tokensAfter [] s⟩
  · rintro ⟨hts, h⟩
    exact tokens_of_renders hts h

theorem filter_text {t : Token} (h : t.WellFormed) :
    t.text.toList.filter (!isBlank ·) = t.text.toList := by
  cases t with
  | opening | closing | bar => decide
  | word w => exact List.filter_eq_self.mpr fun c hc => by simp [(h.2 c hc).2]

theorem filter_blank {gap : List Char} (h : ∀ c ∈ gap, isBlank c = true) :
    gap.filter (!isBlank ·) = [] :=
  List.filter_eq_nil_iff.mpr fun c hc => by simp [h c hc]

/-- What is left of a rendering without its white space are the tokens. -/
theorem filter_of_renders (hts : ∀ t ∈ ts, t.WellFormed) (h : Renders ts s) :
    s.filter (!isBlank ·) = ts.flatMap (·.text.toList) := by
  obtain ⟨before, laid, hspacing, rfl, rfl⟩ := h
  rw [rendered, List.filter_append, filter_blank hspacing.blank_before, List.nil_append,
    List.filter_flatMap, List.flatMap_map]
  refine List.flatMap_congr fun t ht => ?_
  rw [List.filter_append, filter_text (hts t.1 (List.mem_map_of_mem ht)),
    filter_blank (hspacing.blank_after t ht), List.append_nil]

/-- White space is what the class of regular expressions for it matches. -/
theorem exists_parse_blank :
    ∃ n, Regex.parse {} ['\\', 's'] = .ok n ∧ ∀ c, n.matchesAll [c] = true ↔ isBlank c = true := by
  let t : Regex.CharTest := .set .exact false [.category .space false false]
  have haccepts : t.accepts = isBlank := by
    funext c
    simp [t, Regex.CharTest.accepts, Regex.setHolds, Regex.SetItem.holds, Regex.Category.holds,
      isBlank]
  refine ⟨.seq (.char t) .empty, rfl, fun c => ?_⟩
  rw [((Regex.Node.Spells.char t).seq .empty).matchesAll_iff, mul_one, Regex.mem_oneChar, haccepts]
  simp

/-- **The tokens of a condition lose nothing but white space.**  Each of them is a mark, or a word
without marks and white space.  One after the other they are the text without its white space.
And another text has the same tokens if and only if it has them one after the other, with any
white space before, between and after them, but some between two words.  White space is what
regular expressions call so. -/
theorem tokens_lose_only_blanks (s : List Char) :
    (∀ t ∈ tokens s, t.WellFormed) ∧
      (tokens s).flatMap (·.text.toList) = s.filter (!isBlank ·) ∧
      (∀ u, tokens u = tokens s ↔ Renders (tokens s) u) ∧
      ∃ n, Regex.parse {} ['\\', 's'] = .ok n ∧
        ∀ c, n.matchesAll [c] = true ↔ isBlank c = true := by
  obtain ⟨hwell, hrenders⟩ := tokens_eq_iff.mp (rfl : tokens s = tokens s)
  refine ⟨hwell, (filter_of_renders hwell hrenders).symm, fun u => ?_, exists_parse_blank⟩
  rw [tokens_eq_iff, and_iff_right hwell]

end SigmaRules.Condition
