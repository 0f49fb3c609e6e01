/-
SigmaRules/Proofs/Regex/Reading.lean

Texts that are read as certain nodes wherever they stand.  `Reads` is a part of
a run of the reader, without a bound on the number of constructs, which the
number of tokens makes superfluous (`Reads.readAll_eq`).  A text adds nodes
(`Adds`) if to read it adds them to the alternative that is being read,
whatever comes after it.

What comes after a repetition may change what it does: a question mark makes
it lazy and a plus sign possessive.  So the text after must be calm, that is,
not start with one of them, and texts that add nodes leave calm texts calm.
-/
import SigmaRules.Pattern.Glob
import SigmaRules.Regex.Parser

namespace SigmaRules.Regex

/-! ### Runs of the reader -/

/-- From a state with some tokens to come, reading gets to another one. -/
inductive Reads : Reading → List Token → Reading → List Token → Prop
  | refl (r : Reading) (ts : List Token) : Reads r ts r ts
  | step {r r₁ r₂ : Reading} {t : Token} {rest rest₁ ts : List Token}
      (h : step r t rest = .ok (r₁, rest₁)) (hle : rest₁.length ≤ rest.length)
      (hr : Reads r₁ rest₁ r₂ ts) : Reads r (t :: rest) r₂ ts

namespace Reads

variable {r r₁ r₂ : Reading} {ts ts₁ ts₂ : List Token}

theorem trans (h₁ : Reads r ts r₁ ts₁) (h₂ : Reads r₁ ts₁ r₂ ts₂) : Reads r ts r₂ ts₂ := by
  induction h₁ with
  | refl => exact h₂
  | step h hle _ ih => exact .step h hle (ih h₂)

/-- A construct of one token. -/
theorem single {t : Token} (h : Regex.step r t ts = .ok (r₁, ts)) : Reads r (t :: ts) r₁ ts :=
  .step h (Nat.le_refl _) (.refl r₁ ts)

theorem readAll_eq (h : Reads r ts r₁ []) {fuel : Nat} (hf : ts.length ≤ fuel) :
    readAll fuel r ts = .ok r₁ := by
  generalize hend : ([] : List Token) = us at h
  induction h generalizing fuel with
  | refl =>
    subst hend
    rcases fuel with - | fuel <;> rfl
  | step h hle _ ih =>
    rcases fuel with - | fuel
    · simp at hf
    · have hrest := ih (Nat.le_trans hle (Nat.le_of_succ_le_succ hf)) hend
      simp only [readAll, h, bind, Except.bind, hrest]

end Reads

/-! ### Texts that add nodes -/

/-- With pieces at the end of the alternative that is being read. -/
def Reading.append (r : Reading) (ps : List Piece) : Reading :=
  { r with top := { r.top with pieces := ps.reverse ++ r.top.pieces } }

theorem Reading.append_append (r : Reading) (ps qs : List Piece) :
    (r.append ps).append qs = r.append (ps ++ qs) := by
  simp [append]

/-- The text does not start with a mark that changes a repetition before it. -/
def Calm (s : List Char) : Prop := s.head? ≠ some '?' ∧ s.head? ≠ some '+'

/-- The text adds the nodes to the alternative that is being read. -/
structure Adds (f : Flags) (s : List Char) (ns : List Node) : Prop where
  calm {rest : List Char} : Calm rest → Calm (s ++ rest)
  reads {r : Reading} {rest : List Char} : r.top.flags = f → Calm rest →
    ∃ ps : List Piece, ps.flatMap Piece.nodes = ns ∧
      Reads r (tokenize (s ++ rest)) (r.append ps) (tokenize rest)

namespace Adds

variable {f : Flags} {s t : List Char} {ns ms : List Node}

theorem nil : Adds f [] [] := ⟨id, fun {r rest} _ _ => ⟨[], rfl, .refl r (tokenize rest)⟩⟩

theorem append (hs : Adds f s ns) (ht : Adds f t ms) : Adds f (s ++ t) (ns ++ ms) := by
  constructor
  · intro rest hc
    rw [List.append_assoc]
    exact hs.calm (ht.calm hc)
  · intro r rest hf hc
    obtain ⟨ps, hps, hfirst⟩ := hs.reads hf (ht.calm hc)
    obtain ⟨qs, hqs, hsecond⟩ := ht.reads (r := r.append ps) hf hc
    refine ⟨ps ++ qs, by rw [List.flatMap_append, hps, hqs], ?_⟩
    rw [List.append_assoc, ← Reading.append_append]
    exact hfirst.trans hsecond

theorem flatMap {α : Type} {g : α → List Char} {n : α → Node} {as : List α}
    (h : ∀ a ∈ as, Adds f (g a) [n a]) : Adds f (as.flatMap g) (as.map n) := by
  induction as with
  | nil => exact nil
  | cons a as ih =>
    rw [List.flatMap_cons, List.map_cons]
    exact (h a (by simp)).append (ih fun b hb => h b (by simp [hb]))

end Adds

/-! ### Characters -/

theorem tokenize_cons {c : Char} (hc : c ≠ '\\') (s : List Char) :
    tokenize (c :: s) = .plain c :: tokenize s := by
  rw [tokenize.eq_def]
  split <;> simp_all

/-- Where a text goes on, the character there stands for itself, unless the text
before ends in a backslash. -/
theorem tokenize_append_cons {c : Char} (hc : c ≠ '\\') (s rest : List Char) :
    tokenize (s ++ c :: rest) = tokenize s ++ .plain c :: tokenize rest ∨
      ∃ ts, tokenize s = ts ++ [.dangling] ∧
        tokenize (s ++ c :: rest) = ts ++ .escaped c :: tokenize rest := by
  fun_induction tokenize s with
  | case1 => exact .inl (tokenize_cons hc rest)
  | case2 => exact .inr ⟨[], rfl, by simp [tokenize]⟩
  | case3 d s ih =>
    rw [List.cons_append, List.cons_append, tokenize]
    rcases ih with h | ⟨ts, hs, h⟩
    · exact .inl (by rw [h, List.cons_append])
    · exact .inr ⟨.escaped d :: ts, by rw [hs, List.cons_append], by rw [h, List.cons_append]⟩
  | case4 d s hend hesc ih =>
    have hd : d ≠ '\\' := by
      rintro rfl
      rcases s with - | ⟨d, s⟩
      · exact hend rfl rfl
      · exact hesc d s rfl rfl
    rw [List.cons_append, tokenize_cons hd]
    rcases ih with h | ⟨ts, hs, h⟩
    · exact .inl (by rw [h, List.cons_append])
    · exact .inr ⟨.plain d :: ts, by rw [hs, List.cons_append], by rw [h, List.cons_append]⟩

theorem calm_cons {c : Char} (hq : c ≠ '?') (hp : c ≠ '+') (s : List Char) : Calm (c :: s) := by
  simp [Calm, hq, hp]

/-- The tokens of a calm text do not change a repetition before it. -/
theorem greed_of_calm {s : List Char} (h : Calm s) (r : Reading) (n : Node) (before : List Piece)
    (lo : Nat) (hi : Option Nat) (hp : r.top.pieces = .node n :: before)
    (hn : (n.isAnchor || n.isTimes) = false) :
    r.repeated lo hi (tokenize s) = .ok ({ r with top := { r.top with
      pieces := .node (.times lo hi .greedy n) :: before } }, tokenize s) := by
  rcases s with - | ⟨c, s⟩
  · simp [tokenize, Reading.repeated, hp, hn]
  by_cases hc : c = '\\'
  -- an escape, or a backslash at the end
  · subst hc
    rcases s with - | ⟨d, s⟩ <;> simp [tokenize, Reading.repeated, hp, hn]
  · obtain ⟨hq, hplus⟩ := h
    have hq' : c ≠ '?' := by simpa using hq
    have hplus' : c ≠ '+' := by simpa using hplus
    rw [tokenize_cons hc]
    unfold Reading.repeated
    split
    simp_all

namespace Adds

variable {f : Flags}

/-- A construct of one plain token that adds a node. -/
theorem plain {c : Char} {n : Node} (hc : c ≠ '\\') (hq : c ≠ '?') (hp : c ≠ '+')
    (h : ∀ (r : Reading) (rest : List Token), r.top.flags = f →
      step r (.plain c) rest = .ok (r.pushNode n, rest)) : Adds f [c] [n] := by
  refine ⟨fun _ => calm_cons hq hp _, fun hf _ => ⟨[.node n], rfl, ?_⟩⟩
  rw [List.singleton_append, tokenize_cons hc]
  exact .single (h _ _ hf)

/-- A construct of one escaped token that adds a node. -/
theorem escaped {c : Char} {n : Node}
    (h : ∀ (r : Reading) (rest : List Token), r.top.flags = f →
      step r (.escaped c) rest = .ok (r.pushNode n, rest)) : Adds f ['\\', c] [n] := by
  refine ⟨fun _ => calm_cons (by decide) (by decide) _, fun hf _ => ⟨[.node n], rfl, ?_⟩⟩
  rw [List.cons_append, List.singleton_append, tokenize]
  exact .single (h _ _ hf)

theorem dot (hv : f.verbose = false) (hd : f.dotAll = false) :
    Adds f ['.'] [.char .notNewline] := by
  refine plain (by decide) (by decide) (by decide) fun r rest hf => ?_
  simp [step, hf, hv, hd]

theorem caret (hv : f.verbose = false) : Adds f ['^'] [.anchor (.caret f.multiline)] := by
  refine plain (by decide) (by decide) (by decide) fun r rest hf => ?_
  simp [step, hf, hv]

theorem textEnd : Adds f ['\\', 'Z'] [.anchor .textEnd] :=
  escaped fun _ _ _ => rfl

/-- A dot and a star are a run of characters, and stay it if the text after them is
calm. -/
theorem dotStar (hv : f.verbose = false) (hd : f.dotAll = false) :
    Adds f ['.', '*'] [.times 0 none .greedy (.char .notNewline)] := by
  refine ⟨fun _ => calm_cons (by decide) (by decide) _, fun {r rest} hf hc => ?_⟩
  refine ⟨[.node (.times 0 none .greedy (.char .notNewline))], rfl, ?_⟩
  have hdot : step r (.plain '.') (.plain '*' :: tokenize rest)
      = .ok (r.pushNode (.char .notNewline), .plain '*' :: tokenize rest) := by
    simp [step, hf, hv, hd]
  have hstar : step (r.pushNode (.char .notNewline)) (.plain '*') (tokenize rest)
      = (r.pushNode (.char .notNewline)).repeated 0 none (tokenize rest) := by
    have hf' : (r.pushNode (.char .notNewline)).top.flags = f := hf
    simp [step, hf', hv]
  show Reads r (tokenize ('.' :: '*' :: rest)) _ (tokenize rest)
  rw [tokenize_cons (by decide), tokenize_cons (by decide)]
  exact (Reads.single hdot).trans
    (.single (hstar.trans (greed_of_calm hc _ _ r.top.pieces _ _ rfl rfl)))

end Adds

/-! ### Escaped texts -/

open Pattern

/-- A character that means nothing in an expression is a literal. -/
theorem step_plain {f : Flags} (hv : f.verbose = false) {c : Char} (hc : isSpecial c = false)
    (r : Reading) (rest : List Token) (hf : r.top.flags = f) :
    step r (.plain c) rest = .ok (r.pushNode (.char (.literal f.caseRule c.toNat)), rest) := by
  unfold step
  simp only [hf, hv, Bool.false_and, Bool.false_eq_true, if_false]
  split
  -- a character with a case of its own is special
  all_goals first
    | exact absurd hc (by decide)
    | rw [← hf]; rfl

/-- An escaped character that is neither a letter nor a digit is a literal. -/
theorem readEscape_literal {c : Char} (hl : isAsciiLetter c = false)
    (hd : Text.decimalDigit? c = none) (r : Reading) (rest : List Token) :
    readEscape r c rest = .ok (r.pushLiteral c.toNat, rest) := by
  have hclass : classEscape? c = none := by
    unfold classEscape?
    split <;> first | rfl | exact absurd hl (by decide)
  have hcode : codeEscape c rest = none := by
    unfold codeEscape
    split <;> first | rfl | exact absurd hl (by decide)
  by_cases hb : c = '\\'
  · subst hb
    rfl
  have hcontrol : controlEscape? c = none := by
    unfold controlEscape?
    split <;> first | rfl | exact absurd hl (by decide) | exact absurd rfl hb
  unfold readEscape
  split
  -- all cases but the last are of a letter or a digit
  case h_6 => simp [hclass, hcontrol, hcode, hd, hl]
  case h_5 => exact absurd hd (by decide)
  all_goals exact absurd hl (by decide)

theorem alnum_of_isSpecial {c : Char} (hc : isSpecial c = true) :
    isAsciiLetter c = false ∧ Text.decimalDigit? c = none := by
  have hall : "()[]\x7b\x7d?*+-|^$\\.&~# \t\n\r\x0b\x0c".toList.all
      (fun d => !isAsciiLetter d && (Text.decimalDigit? d).isNone) = true := by decide
  have := List.all_eq_true.mp hall c (by simpa [isSpecial] using hc)
  simpa using this

namespace Adds

variable {f : Flags}

theorem escapeChar (hv : f.verbose = false) (c : Char) :
    Adds f (escapeChar c) [.char (.literal f.caseRule c.toNat)] := by
  rw [Pattern.escapeChar]
  split
  case isTrue hc =>
    obtain ⟨hl, hd⟩ := alnum_of_isSpecial hc
    refine .escaped fun r rest hf => ?_
    rw [← hf]
    exact readEscape_literal hl hd r rest
  case isFalse hc =>
    have hc := Bool.eq_false_iff.mpr hc
    refine .plain ?_ ?_ ?_ (step_plain hv hc) <;> rintro rfl <;> exact absurd hc (by decide)

/-- **An escaped text is read as its characters.** -/
theorem escape (hv : f.verbose = false) (s : List Char) :
    Adds f (escape s) (s.map fun c => .char (.literal f.caseRule c.toNat)) :=
  .flatMap fun c _ => escapeChar hv c

end Adds

end SigmaRules.Regex
