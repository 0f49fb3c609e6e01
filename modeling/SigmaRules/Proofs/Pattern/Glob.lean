/-
SigmaRules/Proofs/Pattern/Glob.lean

What globs stand for.  The expression of a glob is written by replacing pairs
of characters in the escaped text.  Such a text is made of escapes and of
characters that are no backslashes (`IsPart`), so a pair that starts with a
backslash is always a whole escape and never two halves (`replacePair_flatMap`).
Hence each character of the glob is written on its own (`glob_eq_flatMap`), and
read as one node (`Adds.glob`).

`language` is what globs mean, without expressions.  The nodes of a glob match
its texts (`spells_glob`).
-/
import SigmaRules.Proofs.Regex.Reading
import SigmaRules.Proofs.Regex.Spelling

namespace SigmaRules.Pattern

open Regex

/-! ### Replacing in escaped texts -/

/-- A part of a text in which pairs of a backslash and `b` are replaced: an escape, or
some text without a backslash that does not start with `b`. -/
def IsPart (b : Char) (w : List Char) : Prop :=
  (∃ d, w = ['\\', d]) ∨ ('\\' ∉ w ∧ w.head? ≠ some b)

section Replace

variable {b : Char} {new : List Char}

theorem replacePair_cons {a c : Char} {t : List Char} (h : c ≠ a ∨ t.head? ≠ some b) :
    replacePair a b new (c :: t) = c :: replacePair a b new t := by
  rcases t with - | ⟨d, t⟩
  · rfl
  · rw [replacePair, if_neg]
    rintro hc
    obtain ⟨rfl, rfl⟩ : c = a ∧ d = b := by simpa using hc
    rcases h with h | h
    · exact h rfl
    · exact h rfl

theorem replacePair_append {w : List Char} (h : '\\' ∉ w) (t : List Char) :
    replacePair '\\' b new (w ++ t) = w ++ replacePair '\\' b new t := by
  induction w with
  | nil => rfl
  | cons c w ih =>
    obtain ⟨hc, hw⟩ := List.ne_and_not_mem_of_not_mem_cons h
    rw [List.cons_append, replacePair_cons (.inl (Ne.symm hc)), ih hw, List.cons_append]

/-- After a whole part, no part starts in the middle of a pair. -/
theorem head?_flatMap_ne {g : Char → List Char} (hb : b ≠ '\\') (h : ∀ c, IsPart b (g c))
    (s : List Char) : (s.flatMap g).head? ≠ some b := by
  induction s with
  | nil => simp
  | cons c s ih =>
    rw [List.flatMap_cons]
    rcases h c with ⟨d, hd⟩ | ⟨-, hw⟩
    · simpa [hd] using Ne.symm hb
    · rcases hg : g c with - | ⟨d, w⟩
      · exact ih
      · simpa [hg] using hw

/-- **Replacements hit whole parts**: to replace pairs in a text is to replace the
parts that are such a pair. -/
theorem replacePair_flatMap {g : Char → List Char} (hb : b ≠ '\\') (h : ∀ c, IsPart b (g c))
    (s : List Char) :
    replacePair '\\' b new (s.flatMap g)
      = s.flatMap fun c => if g c = ['\\', b] then new else g c := by
  induction s with
  | nil => rfl
  | cons c s ih =>
    rw [List.flatMap_cons, List.flatMap_cons, ← ih]
    rcases h c with ⟨d, hd⟩ | ⟨hw, -⟩
    · by_cases hdb : d = b
      · subst hdb
        simp [hd, replacePair]
      · -- the backslash belongs to this escape, and so does the character after it
        have hpair : ¬ (g c = ['\\', b]) := by simp [hd, hdb]
        rw [if_neg hpair, hd]
        show replacePair '\\' b new ('\\' :: d :: s.flatMap g) = _
        rw [replacePair_cons (.inr (by simpa using hdb)),
          replacePair_cons (.inr (head?_flatMap_ne hb h s))]
        rfl
    · have hpair : ¬ (g c = ['\\', b]) := fun hg => hw (by simp [hg])
      rw [if_neg hpair, replacePair_append hw]

end Replace

/-! ### Globs, character by character -/

theorem escapeChar_eq_iff {b c : Char} (hb : isSpecial b = true) :
    escapeChar c = ['\\', b] ↔ c = b := by
  rw [escapeChar]
  split
  case isTrue => simp
  case isFalse hc =>
    constructor
    · simp
    · rintro rfl
      exact absurd hb hc

theorem isPart_escapeChar {b : Char} (hb : isSpecial b = true) (c : Char) :
    IsPart b (escapeChar c) := by
  rw [escapeChar]
  split
  case isTrue => exact .inl ⟨c, rfl⟩
  case isFalse hc =>
    refine .inr ⟨?_, ?_⟩
    · rintro hmem
      obtain rfl : '\\' = c := by simpa using hmem
      exact hc (by decide)
    · rintro hhead
      obtain rfl : c = b := by simpa using hhead
      exact hc hb

/-- A character of a glob as a regular expression. -/
def globChar (c : Char) : List Char :=
  if c = '*' then ['.', '*'] else if c = '?' then ['.'] else escapeChar c

/-- **A glob is written character by character.** -/
theorem glob_eq_flatMap (s : List Char) : glob s = s.flatMap globChar := by
  have hstar : ∀ c,
      IsPart '?' (if escapeChar c = ['\\', '*'] then ['.', '*'] else escapeChar c) := by
    intro c
    split
    · exact .inr ⟨by decide, by decide⟩
    · exact isPart_escapeChar (by decide) c
  -- the first replacement leaves parts, which the second one hits
  rw [glob, escape, replacePair_flatMap (by decide) (isPart_escapeChar (by decide)),
    replacePair_flatMap (by decide) hstar]
  refine List.flatMap_congr fun c _ => ?_
  rw [globChar]
  by_cases hc : c = '*'
  · simp [hc, (escapeChar_eq_iff (b := '*') (c := '*') (by decide)).mpr rfl]
  · simp only [escapeChar_eq_iff (show isSpecial '*' = true by decide), hc, if_false,
      escapeChar_eq_iff (show isSpecial '?' = true by decide)]

/-! ### What globs mean -/

/-- The texts that a character of a glob stands for: a star for runs of characters but
the line feed, a question mark for one such character, and any other character for
those that are the same without regard to letter case. -/
def charLanguage (c : Char) : Language Char :=
  if c = '*' then runsOf (· ≠ '\n')
  else if c = '?' then oneChar (· ≠ '\n')
  else oneChar fun d => CaseRule.fold.same c.toNat d.toNat = true

/-- The texts that a glob stands for: one for each of its characters, in order. -/
def language (p : List Char) : Language Char := (p.map charLanguage).prod

theorem charLanguage_star : charLanguage '*' = runsOf (· ≠ '\n') := if_pos rfl

theorem charLanguage_other {c : Char} (hs : c ≠ '*') (hq : c ≠ '?') :
    charLanguage c = oneChar fun d => CaseRule.fold.same c.toNat d.toNat = true := by
  rw [charLanguage, if_neg hs, if_neg hq]

theorem nil_mem_language : [] ∈ language [] := Language.nil_mem_one

theorem append_mem_language {c : Char} {p x y : List Char} (hx : x ∈ charLanguage c)
    (hy : y ∈ language p) : x ++ y ∈ language (c :: p) := by
  rw [language, List.map_cons, List.prod_cons]
  exact Language.append_mem_mul hx hy

/-- A character of a glob as a node. -/
def globNode (c : Char) : Node :=
  if c = '*' then .times 0 none .greedy (.char .notNewline)
  else if c = '?' then .char .notNewline
  else .char (.literal .fold c.toNat)

theorem accepts_notNewline {c : Char} : CharTest.notNewline.accepts c = true ↔ c ≠ '\n' := by
  have h10 : c.toNat = 10 ↔ c = '\n' := by
    rw [← Char.toNat_inj]
    rfl
  simp [CharTest.accepts, h10]

theorem spells_globNode (c : Char) : (globNode c).Spells (charLanguage c) := by
  have hany : oneChar (CharTest.notNewline.accepts · = true) = oneChar (· ≠ '\n') := by
    simp only [accepts_notNewline]
  rw [globNode, charLanguage]
  by_cases hs : c = '*'
  · rw [if_pos hs, if_pos hs, ← kstar_oneChar, ← hany]
    exact (Node.Spells.char .notNewline).star
  by_cases hq : c = '?'
  · rw [if_neg hs, if_neg hs, if_pos hq, if_pos hq, ← hany]
    exact .char .notNewline
  · rw [if_neg hs, if_neg hs, if_neg hq, if_neg hq]
    exact .char (.literal .fold c.toNat)

/-- **The nodes of a glob match its texts.** -/
theorem spells_glob (p : List Char) : (Node.ofList (p.map globNode)).Spells (language p) :=
  Node.Spells.ofList_map spells_globNode p

end SigmaRules.Pattern

namespace SigmaRules.Regex

open Pattern

/-- **The expression of a glob is read as its nodes.** -/
theorem Adds.glob (p : List Char) : Adds { ignoreCase := true } (glob p) (p.map globNode) := by
  rw [glob_eq_flatMap]
  refine .flatMap fun c _ => ?_
  rw [globChar, globNode]
  by_cases hs : c = '*'
  · rw [if_pos hs, if_pos hs]
    exact .dotStar rfl rfl
  by_cases hq : c = '?'
  · rw [if_neg hs, if_neg hs, if_pos hq, if_pos hq]
    exact .dot rfl rfl
  · rw [if_neg hs, if_neg hs, if_neg hq, if_neg hq]
    exact .escapeChar rfl c

end SigmaRules.Regex
