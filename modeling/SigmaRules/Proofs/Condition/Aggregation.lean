/-
SigmaRules/Proofs/Condition/Aggregation.lean

Aggregations are told apart from malformed conditions.  A condition is rejected
because it combines matches if and only if a bar follows a complete operand: what
stands before the bar, with some closing parentheses behind it, is a condition
(`aggregation_iff_bar_after_operand`).

The parser goes from token to token, and what a token does is settled before the
next one is read (`parseFrom_cons_cases`), so conditions that begin alike lead to
the same states up to where they differ.  A bar is an aggregation in those states
from which closing parentheses lead to an end: on the one hand the levels that are
open can be closed there (`exists_parseFrom_closings`), on the other hand nothing
but an operator can be expected before a parenthesis that closes
(`exists_operator_of_closings`).
-/
import SigmaRules.Detection.Problem
import SigmaRules.Proofs.Condition.Printing

namespace SigmaRules.Condition

variable {table : Identifiers}

/-- The tokens are those of a condition that is read. -/
def Accepted (table : Identifiers) (ts : List Token) : Prop :=
  ∃ condition x, tokens condition.toList = ts ∧ parse table condition = .ok x

/-- A bar follows a complete operand: what stands before it, with some closing
parentheses behind, is accepted. -/
def BarAfterOperand (table : Identifiers) (ts : List Token) : Prop :=
  ∃ before after n, ts = before ++ .bar :: after ∧
    Accepted table (before ++ List.replicate n .closing)

/-! ### The text before a bar -/

theorem exists_of_finish_eq {w : List Char} {ts before after : List Token}
    (h : finish w ts = before ++ .bar :: after) :
    ∃ inner, ts = inner ++ .bar :: after ∧ before = finish w inner := by
  rw [finish] at h
  split at h
  case isTrue hw => exact ⟨before, h, by rw [finish, if_pos hw]⟩
  case isFalse hw =>
    rcases before with - | ⟨u, inner⟩
    -- a word is no bar
    · cases h
    · obtain ⟨rfl, hts⟩ := List.cons.inj h
      exact ⟨inner, hts, by rw [finish, if_neg hw]⟩

/-- The tokens before a bar are those of the text before it. -/
theorem exists_tokensAfter_of_bar {w s : List Char} {before after : List Token}
    (h : tokensAfter w s = before ++ .bar :: after) : ∃ s', tokensAfter w s' = before := by
  fun_induction tokensAfter w s generalizing before with
  | case1 w =>
    obtain ⟨inner, hinner, -⟩ := exists_of_finish_eq h
    simp at hinner
  | case2 w c cs t hm ih =>
    obtain ⟨inner, hinner, rfl⟩ := exists_of_finish_eq h
    rcases inner with - | ⟨u, inner⟩
    · exact ⟨[], rfl⟩
    · obtain ⟨rfl, hrest⟩ := List.cons.inj hinner
      obtain ⟨s', rfl⟩ := ih hrest
      exact ⟨c :: s', by rw [tokensAfter, hm]⟩
  | case3 w c cs hm hb ih =>
    obtain ⟨inner, hinner, rfl⟩ := exists_of_finish_eq h
    obtain ⟨s', rfl⟩ := ih hinner
    exact ⟨c :: s', by rw [tokensAfter, hm, if_pos hb]⟩
  | case4 w c cs hm hb ih =>
    obtain ⟨s', rfl⟩ := ih h
    exact ⟨c :: s', by rw [tokensAfter, hm, if_neg hb]⟩

/-- Closing parentheses are tokens of their own behind any text. -/
theorem tokens_append_closings (s : List Char) (n : Nat) :
    tokens (s ++ List.replicate n ')') = tokens s ++ List.replicate n .closing := by
  have hclosings : tokens (List.replicate n ')') = List.replicate n .closing := by
    induction n with
    | zero => rfl
    | succ n ih =>
      have hstep : tokens (')' :: List.replicate n ')')
          = .closing :: tokens (List.replicate n ')') := rfl
      rw [List.replicate_succ, hstep, ih, List.replicate_succ]
  rcases n with - | n
  · simp
  · rw [List.replicate_succ, tokens_append rfl, ← List.replicate_succ, hclosings]

/-- What stands before a bar of a condition, with closing parentheses, is accepted if the
parser reads it. -/
theorem accepted_iff {condition : String} {before after : List Token}
    (h : tokens condition.toList = before ++ .bar :: after) (n : Nat) :
    Accepted table (before ++ List.replicate n .closing) ↔
      ∃ x, parseTokens table (before ++ List.replicate n .closing) = .ok x := by
  constructor
  · rintro ⟨c, x, hc, hx⟩
    exact ⟨x, by rw [← hc]; exact hx⟩
  · rintro ⟨x, hx⟩
    obtain ⟨s, hs⟩ := exists_tokensAfter_of_bar h
    have hts : tokens (String.ofList (s ++ List.replicate n ')')).toList
        = before ++ List.replicate n .closing := by
      rw [String.toList_ofList, tokens_append_closings, tokens, hs]
    exact ⟨_, x, hts, by rw [parse, hts, hx]⟩

/-! ### What a token does -/

theorem quantified_ne_aggregation {q : Quantifier} {p : Token} :
    quantified table q p ≠ .error .aggregation := by
  rw [quantified]
  split <;> simp

/-- **A step of the parser**: a token leads to another state, or it is wrong, or it is a bar
where an operator is expected. -/
theorem parseFrom_cons_cases (table : Identifiers) (st : Expected) (outer : List Level)
    (t : Token) :
    (∃ st' outer', ∀ ts, parseFrom table st outer (t :: ts) = parseFrom table st' outer' ts) ∨
      (∃ p, p ≠ .aggregation ∧ ∀ ts, parseFrom table st outer (t :: ts) = .error p) ∨
      t = .bar ∧ ∃ d x, st = .operator d x := by
  cases st with
  | operand l =>
    simp only [parseFrom_operand]
    split_ifs
    · exact .inl ⟨_, _, fun _ => rfl⟩
    · exact .inl ⟨_, _, fun _ => rfl⟩
    · exact .inl ⟨_, _, fun _ => rfl⟩
    · exact .inl ⟨_, _, fun _ => rfl⟩
    · rcases table.lookup t.text with - | x
      · exact .inr (.inl ⟨.unknown t.text, by simp, fun _ => rfl⟩)
      · exact .inl ⟨_, _, fun _ => rfl⟩
  | ofWord l q =>
    simp only [parseFrom]
    split_ifs
    · exact .inl ⟨_, _, fun _ => rfl⟩
    · exact .inr (.inl ⟨.withoutOf q.word, by simp, fun _ => rfl⟩)
  | pattern l q =>
    simp only [parseFrom]
    rcases h : quantified table q t with p | x
    · refine .inr (.inl ⟨p, ?_, fun _ => rfl⟩)
      rintro rfl
      exact quantified_ne_aggregation h
    · exact .inl ⟨_, _, fun _ => rfl⟩
  | operator d x =>
    by_cases hbar : t = .bar
    · exact .inr (.inr ⟨hbar, d, x, rfl⟩)
    by_cases hand : t = .word "and"
    · exact .inl ⟨_, _, fun ts => hand ▸ parseFrom_and d x outer ts⟩
    by_cases hor : t = .word "or"
    · exact .inl ⟨_, _, fun ts => hor ▸ parseFrom_or d x outer ts⟩
    rcases outer with - | ⟨l, outer⟩
    · refine .inr (.inl ⟨.unexpected t.text, by simp, fun ts => ?_⟩)
      rw [parseFrom, if_neg hbar, if_neg hand, if_neg hor]
    by_cases hclosing : t = .closing
    · exact .inl ⟨_, _, fun ts => hclosing ▸ parseFrom_closing l d x outer ts⟩
    · refine .inr (.inl ⟨.unclosed, by simp, fun ts => ?_⟩)
      rw [parseFrom, if_neg hbar, if_neg hand, if_neg hor, if_neg hclosing]

theorem parseFrom_bar (d : Option Expr) (x : Expr) (outer : List Level) (ts : List Token) :
    parseFrom table (.operator d x) outer (.bar :: ts) = .error .aggregation := by
  cases outer with
  | nil => rfl
  | cons l outer => rfl

/-! ### Levels that are closed -/

/-- After a complete operand the levels that are open can be closed. -/
theorem exists_parseFrom_closings (table : Identifiers) (d : Option Expr) (x : Expr)
    (outer : List Level) :
    ∃ y, parseFrom table (.operator d x) outer (List.replicate outer.length .closing) = .ok y := by
  induction outer generalizing d x with
  | nil => exact ⟨_, rfl⟩
  | cons l outer ih =>
    rw [List.length_cons, List.replicate_succ, parseFrom_closing]
    exact ih _ _

/-- A closing parenthesis is no pattern, unless an identifier has its name. -/
theorem picks_closing_iff {name : String} : picks .closing name = true ↔ name = ")" := by
  have hselects : ∀ s, selects [')'] s = true ↔ s = [')'] := by
    rintro (- | ⟨c, - | ⟨d, s⟩⟩)
    · simp [selects]
    · simpa [selects] using eq_comm
    · simp [selects]
  have hpicks : picks .closing name = selects [')'] name.toList := rfl
  rw [hpicks, hselects, ← String.toList_inj]
  rfl

/-- Where closing parentheses lead to an end, an operator is expected. -/
theorem exists_operator_of_closings (hclosing : ∀ i ∈ table, i.1 ≠ ")") {st : Expected}
    {outer : List Level} {n : Nat} {y : Expr}
    (h : parseFrom table st outer (List.replicate n .closing) = .ok y) :
    ∃ d x, st = .operator d x := by
  cases st with
  | operator d x => exact ⟨d, x, rfl⟩
  | operand l =>
    have hnone : table.lookup ")" = none :=
      List.lookup_eq_none_iff.mpr fun i hi => by simpa using (hclosing i hi).symm
    rcases n with - | n
    · cases h
    · rw [List.replicate_succ, parseFrom_operand] at h
      simp [Token.text, hnone] at h
  | ofWord l q => rcases n with - | n <;> cases h
  | pattern l q =>
    rcases n with - | n
    · cases h
    rw [List.replicate_succ, parseFrom] at h
    rcases hq : quantified table q .closing with p | x
    · rw [hq] at h
      cases h
    · obtain ⟨i, hi, hpick⟩ := exists_picked_of_quantified hq
      exact absurd (picks_closing_iff.mp hpick) (hclosing i hi)

/-! ### Bars behind operands -/

/-- If reading comes to an aggregation, what stands before the bar can be closed. -/
theorem exists_closed_of_aggregation {st : Expected} {outer : List Level} {ts : List Token}
    (h : parseFrom table st outer ts = .error .aggregation) :
    ∃ before after n y, ts = before ++ .bar :: after ∧
      parseFrom table st outer (before ++ List.replicate n .closing) = .ok y := by
  induction ts generalizing st outer with
  | nil => cases st <;> cases outer <;> cases h
  | cons t ts ih =>
    rcases parseFrom_cons_cases table st outer t with
      ⟨st', outer', hstep⟩ | ⟨p, hp, hstep⟩ | ⟨rfl, d, x, rfl⟩
    · rw [hstep] at h
      obtain ⟨before, after, n, y, rfl, hy⟩ := ih h
      exact ⟨t :: before, after, n, y, rfl, by rw [List.cons_append, hstep, hy]⟩
    · rw [hstep] at h
      exact absurd (Except.error.inj h) hp
    · obtain ⟨y, hy⟩ := exists_parseFrom_closings table d x outer
      exact ⟨[], ts, outer.length, y, rfl, hy⟩

/-- If what stands before a bar can be closed, reading comes to an aggregation. -/
theorem aggregation_of_closed (hclosing : ∀ i ∈ table, i.1 ≠ ")") {st : Expected}
    {outer : List Level} {before : List Token} {n : Nat} {y : Expr}
    (h : parseFrom table st outer (before ++ List.replicate n .closing) = .ok y)
    (after : List Token) :
    parseFrom table st outer (before ++ .bar :: after) = .error .aggregation := by
  induction before generalizing st outer with
  | nil =>
    obtain ⟨d, x, rfl⟩ := exists_operator_of_closings hclosing h
    exact parseFrom_bar d x outer after
  | cons t before ih =>
    rw [List.cons_append] at h ⊢
    rcases parseFrom_cons_cases table st outer t with
      ⟨st', outer', hstep⟩ | ⟨p, -, hstep⟩ | ⟨rfl, d, x, rfl⟩
    · rw [hstep] at h ⊢
      exact ih h
    · rw [hstep] at h
      cases h
    · rw [parseFrom_bar] at h
      cases h

theorem parse_eq_aggregation_iff (hclosing : ∀ i ∈ table, i.1 ≠ ")") {condition : String} :
    parse table condition = .error .aggregation ↔
      BarAfterOperand table (tokens condition.toList) := by
  constructor
  · intro h
    obtain ⟨before, after, n, y, hts, hy⟩ := exists_closed_of_aggregation h
    exact ⟨before, after, n, hts, (accepted_iff hts n).mpr ⟨y, hy⟩⟩
  · rintro ⟨before, after, n, hts, haccepted⟩
    obtain ⟨y, hy⟩ := (accepted_iff hts n).mp haccepted
    rw [parse, hts]
    exact aggregation_of_closed hclosing hy after

theorem kind_condition_eq_ite (p : Problem) :
    (Detection.Problem.condition p).kind =
      if p = .aggregation then .aggregation else .condition := by
  cases p <;> rfl

/-- **Aggregations are told apart from malformed conditions.**  Let no identifier have the name of
a closing parenthesis.  A condition is rejected because it combines matches if and only if a bar
follows a complete operand, in any number of parentheses; in all other cases in which it is
rejected, it is malformed. -/
theorem aggregation_iff_bar_after_operand (hclosing : ∀ i ∈ table, i.1 ≠ ")")
    (condition : String) :
    ((∃ p, parse table condition = .error p ∧
        (Detection.Problem.condition p).kind = .aggregation) ↔
      BarAfterOperand table (tokens condition.toList)) ∧
    ∀ p, parse table condition = .error p →
      ¬ BarAfterOperand table (tokens condition.toList) →
      (Detection.Problem.condition p).kind = .condition := by
  rw [← parse_eq_aggregation_iff hclosing]
  simp only [kind_condition_eq_ite]
  refine ⟨⟨?_, fun h => ⟨.aggregation, h, if_pos rfl⟩⟩, fun p hp hbar => if_neg ?_⟩
  · rintro ⟨p, hp, hkind⟩
    split at hkind
    case isTrue heq => rw [hp, heq]
    case isFalse => cases hkind
  · rintro rfl
    exact hbar hp

/-- The statement at two conditions over the same identifiers: in the one a bar follows an operand
within a parenthesis, in the other a word before the bar is out of place. -/
theorem sample_bars_after_operands :
    let table : Identifiers := [("a", .and []), ("b", .or [])]
    (∀ i ∈ table, i.1 ≠ ")") ∧
      parse table "a and (not b | count() > 5" = .error .aggregation ∧
      BarAfterOperand table (tokens "a and (not b | count() > 5".toList) ∧
      parse table "a b | count() > 5" = .error (.unexpected "b") ∧
      ¬ BarAfterOperand table (tokens "a b | count() > 5".toList) ∧
      (Detection.Problem.condition (.unexpected "b")).kind = .condition := by
  intro table
  have hclosing : ∀ i ∈ table, i.1 ≠ ")" := by decide
  have hcounts : parse table "a and (not b | count() > 5" = .error .aggregation := by decide
  have hword : parse table "a b | count() > 5" = .error (.unexpected "b") := by decide
  have hbar : ¬ BarAfterOperand table (tokens "a b | count() > 5".toList) := fun h => by
    obtain ⟨p, hp, hkind⟩ := (aggregation_iff_bar_after_operand hclosing _).1.mpr h
    obtain rfl := Except.error.inj (hword.symm.trans hp)
    cases hkind
  exact ⟨hclosing, hcounts, (aggregation_iff_bar_after_operand hclosing _).1.mp ⟨_, hcounts, rfl⟩,
    hword, hbar, (aggregation_iff_bar_after_operand hclosing _).2 _ hword hbar⟩

end SigmaRules.Condition
