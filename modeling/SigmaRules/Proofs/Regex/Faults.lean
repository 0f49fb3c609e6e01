/-
SigmaRules/Proofs/Regex/Faults.lean

When an expression is neither read nor malformed.  There are three such
faults: a count that is too large, one with too many digits, and an expression
that is set to ASCII and to Unicode at once.  The first two are found at a
brace, so a text without such counts does not lead to them (`countsFit`).  The
last one is found in flags of the whole expression, which have to come before
anything else; so expressions that start with a group or an anchor do not lead
to it (`Headed`).

Whether the counts of a text fit is settled by its tokens, but it can be told
part by part (`countsFit_append`).
-/
import SigmaRules.Proofs.Regex.Base
import SigmaRules.Proofs.Regex.Lexing

namespace SigmaRules.Regex

/-! ### Counts that fit -/

/-- If counts start here, they are not beyond what can be read. -/
def countFits (ts : List Token) : Bool :=
  match takeCounts ts with
  | none => true
  | some ((los, his), _) =>
    match countsOf los his with
    | .ok _ => true
    | .error e => e == .malformed

/-- No count is beyond what can be read. -/
def countsFit : List Token → Bool
  | [] => true
  | t :: ts => (t != .plain '{' || countFits ts) && countsFit ts

theorem countsFit_of_suffix {ts us : List Token} (hsuffix : ts <:+ us) (h : countsFit us = true) :
    countsFit ts = true := by
  induction us with
  | nil =>
    obtain rfl := List.suffix_nil.mp hsuffix
    rfl
  | cons u us ih =>
    rcases List.suffix_cons_iff.mp hsuffix with rfl | hsuffix
    · exact h
    · exact ih hsuffix (Bool.and_eq_true_iff.mp h).2

theorem eq_malformed_of_countFits {ts : List Token} {e : Error} (h : countFits ts = true)
    (he : readCounts ts = .error e) : e = .malformed := by
  unfold countFits at h
  unfold readCounts at he
  rcases htake : takeCounts ts with - | ⟨⟨los, his⟩, rest⟩
  · simp only [htake] at he
    cases he
  simp only [htake] at h he
  split at he
  · exact (Except.error.inj he).symm
  rcases hcounts : countsOf los his with e' | counts
  · rw [hcounts] at h he
    exact (Except.error.inj he) ▸ beq_iff_eq.mp h
  · rw [hcounts] at he
    cases he

theorem countFits_append {us : List Token} (hus : Ends us) (ts : List Token) :
    countFits (ts ++ us) = countFits ts := by
  rw [countFits, countFits, takeCounts_append hus]
  rcases takeCounts ts with - | x <;> rfl

theorem countsFit_append {ts us : List Token} (hus : Ends us) :
    countsFit (ts ++ us) = (countsFit ts && countsFit us) := by
  induction ts with
  | nil => rfl
  | cons t ts ih =>
    simp only [List.cons_append, countsFit, ih, countFits_append hus, Bool.and_assoc]

/-! ### Reading without faults -/

theorem lex_of_countsFit {f : Flags} {t : Token} {ts : List Token} {e : Error}
    (h : countsFit (t :: ts) = true) (he : lex f t ts = .error e) : e = .malformed := by
  rcases eq_malformed_of_lex he with rfl | ⟨rfl, hcounts⟩
  · rfl
  · have hfits : countFits ts = true := by simpa [countsFit] using (Bool.and_eq_true_iff.mp h).1
    exact eq_malformed_of_countFits hfits hcounts

/-- **Reading without large counts** goes well or finds the expression malformed, once anything has
been read that takes part in a match. -/
theorem Proceeds.readAll {fuel : Nat} {r : Reading} {ts : List Token} (hb : r.begun = true)
    (h : countsFit ts = true) : Proceeds r (readAll fuel r ts) := by
  induction fuel generalizing r ts with
  | zero =>
    rcases ts with - | ⟨t, ts⟩
    · exact .of_begun hb rfl
    · exact malformed
  | succ fuel ih =>
    rcases ts with - | ⟨t, ts⟩
    · exact .of_begun hb rfl
    rw [readAll_cons]
    rcases hlex : lex r.top.flags t ts with e | ⟨c, rest⟩
    · obtain rfl := lex_of_countsFit h hlex
      exact malformed
    · have hrest := countsFit_of_suffix ((lex_suffix hlex).trans (List.suffix_cons t ts)) h
      exact (apply hb c).bind fun r' hb' => ih hb' hrest

/-- The start of the expression takes part in a match. -/
theorem Proceeds.of_headed {r : Reading} {s : List Char} (hs : Headed s)
    (h : countsFit (tokenize s) = true) :
    Proceeds r (Regex.readAll (tokenize s).length r (tokenize s)) := by
  obtain ⟨t, ts, c, rest, htokens, hlex, hc⟩ := hs.lex_first r.top.flags
  rw [htokens] at h ⊢
  rw [List.length_cons, readAll_cons, hlex]
  have hrest := countsFit_of_suffix ((lex_suffix hlex).trans (List.suffix_cons t ts)) h
  exact (first hc).bind fun _ hb => readAll hb hrest

/-- Without flags of the whole expression, a complete reading is a tree or malformed. -/
theorem finish_cases {r : Reading} (hw : r.wholeFlags = []) :
    r.finish = .error .malformed ∨ ∃ n, r.finish = .ok n := by
  simp only [Reading.finish, hw]
  split
  · exact .inl rfl
  split
  case isTrue h => simp at h
  split
  · exact .inl rfl
  split
  · exact .inl rfl
  split
  · exact .inl rfl
  · exact .inr ⟨_, rfl⟩

/-- **Expressions without large counts** are read or malformed, if they start with an anchor or a
group. -/
theorem parse_cases (f : Flags) {s : List Char} (hs : Headed s)
    (h : countsFit (tokenize s) = true) :
    parse f s = .error .malformed ∨ ∃ n, parse f s = .ok n := by
  rcases Proceeds.of_headed (r := { top := { opening := .whole, flags := f } }) hs h with
    hread | ⟨r, hread, -, hbase⟩
  · exact .inl (by rw [parse, hread]; rfl)
  · rw [parse, hread]
    exact finish_cases (congrArg Base.wholeFlags hbase)

/-! ### Counts of a text -/

/-- No count of the expression is beyond what can be read. -/
def fits (s : List Char) : Bool := countsFit (tokenize s)

/-- Texts with a bar or a closing parenthesis between them. -/
theorem fits_append_cons {c : Char} (hc : c = '|' ∨ c = ')') {s rest : List Char}
    (hs : fits s = true) (hrest : fits rest = true) : fits (s ++ c :: rest) = true := by
  have hesc : c ≠ '\\' := by rcases hc with rfl | rfl <;> decide
  rw [fits] at hs ⊢
  rcases tokenize_append_cons hesc s rest with h | ⟨ts, hts, h⟩
  · have hend : Ends (.plain c :: tokenize rest) := fun d hd => by
      obtain rfl : c = d := by simpa using hd
      exact hc
    rw [h, countsFit_append hend, hs, Bool.true_and]
    rcases hc with rfl | rfl <;> exact hrest
  · have hend : Ends (.escaped c :: tokenize rest) := fun d hd => by simp at hd
    have hend' : Ends [.dangling] := fun d hd => by simp at hd
    rw [hts, countsFit_append hend'] at hs
    rw [h, countsFit_append hend, (Bool.and_eq_true_iff.mp hs).1]
    exact hrest

/-- To write the text before another one adds no counts. -/
def Countless (s : List Char) : Prop := ∀ rest, fits (s ++ rest) = fits rest

namespace Countless

variable {s t : List Char}

theorem nil : Countless [] := fun _ => rfl

theorem append (hs : Countless s) (ht : Countless t) : Countless (s ++ t) := fun rest => by
  rw [List.append_assoc, hs, ht]

theorem flatMap {α : Type} {g : α → List Char} {as : List α} (h : ∀ a ∈ as, Countless (g a)) :
    Countless (as.flatMap g) := by
  induction as with
  | nil => exact nil
  | cons a as ih =>
    rw [List.flatMap_cons]
    exact (h a (by simp)).append (ih fun b hb => h b (by simp [hb]))

/-- A text without braces and backslashes. -/
theorem plain (h : ∀ c ∈ s, c ≠ '\\' ∧ c ≠ '{') : Countless s := fun rest => by
  induction s with
  | nil => rfl
  | cons c s ih =>
    obtain ⟨hesc, hbrace⟩ := h c (by simp)
    rw [← ih fun d hd => h d (by simp [hd]), List.cons_append, fits, tokenize_cons hesc, countsFit]
    simp [hbrace, fits]

theorem escaped (c : Char) : Countless ['\\', c] := fun rest => by
  rw [List.cons_append, List.singleton_append, fits, tokenize, countsFit]
  simp [fits]

theorem fits (hs : Countless s) : fits s = true := by
  have h := hs []
  rwa [List.append_nil] at h

end Countless

end SigmaRules.Regex
