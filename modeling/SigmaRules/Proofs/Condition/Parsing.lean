/-
SigmaRules/Proofs/Condition/Parsing.lean

The parser of conditions reads exactly the sentences of the grammar, and what
it builds matches as the sentence says (`parse_iff_derives_and_matches`).

That it reads every sentence goes by induction on the derivation.  A phrase
takes the parser from one state to another, whatever is pending there and
whatever follows (`Carries`).  That it reads nothing else goes along the run,
with an invariant of its states: the tokens read so far are what the state says
is pending (`Expected.Covers`), behind what the open parentheses say is pending
(`Nested`).
-/
import SigmaRules.Proofs.Condition.Grammar
import SigmaRules.Proofs.Expr.Evaluation
import Mathlib.Tactic.FinCases

namespace SigmaRules.Condition

variable {table : Identifiers}

/-! ### What the parser builds -/

/-- The expression matches as the formula says, for every entry. -/
def Means (table : Identifiers) (φ : Formula) (x : Expr) : Prop :=
  ∀ e ps, x.matchesEntry e ps = φ.verdict table (·.matchesEntry e ps)

theorem matchesEntry_conjoin (e : Entry) (ps : Placeholders) (x y : Expr) :
    (conjoin x y).matchesEntry e ps = both (x.matchesEntry e ps) (y.matchesEntry e ps) := by
  cases x with
  | and cs => rw [conjoin, Expr.matchesEntry_and, Expr.matchesEntry_and, allM_append_singleton]
  | search _ | named _ _ | not _ | or _ =>
    rw [conjoin, Expr.matchesEntry_and, allM_cons_eq_both, allM_cons_eq_both]
    · exact congrArg _ (both_true _)
    · simp

theorem matchesEntry_disjoin (e : Entry) (ps : Placeholders) (x y : Expr) :
    (disjoin x y).matchesEntry e ps = either (x.matchesEntry e ps) (y.matchesEntry e ps) := by
  cases x with
  | or cs => rw [disjoin, Expr.matchesEntry_or, Expr.matchesEntry_or, anyM_append_singleton]
  | search _ | named _ _ | not _ | and _ =>
    rw [disjoin, Expr.matchesEntry_or, anyM_cons_eq_either, anyM_cons_eq_either]
    · exact congrArg _ (either_false _)
    · simp

theorem Means.not {φ : Formula} {x : Expr} (h : Means table φ x) :
    Means table (.not φ) (.not x) := fun e ps => by
  rw [Expr.matchesEntry_not, h e ps, Formula.verdict]

theorem Means.conjoin {φ ψ : Formula} {x y : Expr} (hx : Means table φ x)
    (hy : Means table ψ y) : Means table (.and φ ψ) (conjoin x y) := fun e ps => by
  rw [matchesEntry_conjoin, hx e ps, hy e ps, Formula.verdict]

theorem Means.disjoin {φ ψ : Formula} {x y : Expr} (hx : Means table φ x)
    (hy : Means table ψ y) : Means table (.or φ ψ) (disjoin x y) := fun e ps => by
  rw [matchesEntry_disjoin, hx e ps, hy e ps, Formula.verdict]

/-- The parser's candidates are the expressions of the identifiers picked. -/
theorem candidates_eq (table : Identifiers) (p : Token) :
    candidates table p = (table.picked p).map (·.2) := by
  by_cases h : p = .word "them"
  · have hall : table.picked p = table := List.filter_eq_self.mpr fun i _ => by simp [picks, h]
    rw [candidates, if_pos h, hall]
  · have hp : ∀ name, picks p name = selects p.text.toList name.toList := by simp [picks, h]
    simp only [candidates, if_neg h, Identifiers.picked, hp]

/-- A quantifier and a pattern stand for an expression exactly if the pattern picks
an identifier. -/
theorem quantified_eq_ok {p : Token} {i : String × Expr} (q : Quantifier) (hi : i ∈ table)
    (hp : picks p i.1 = true) :
    quantified table q p = .ok (q.join ((table.picked p).map (·.2))) := by
  have hmem : i.2 ∈ (table.picked p).map (·.2) :=
    List.mem_map_of_mem (List.mem_filter.mpr ⟨hi, hp⟩)
  rw [quantified, candidates_eq]
  split
  · rename_i h
    rw [h] at hmem
    exact absurd hmem List.not_mem_nil
  · rfl

theorem exists_picked_of_quantified {p : Token} {q : Quantifier} {x : Expr}
    (h : quantified table q p = .ok x) : ∃ i ∈ table, picks p i.1 = true := by
  rw [quantified, candidates_eq] at h
  rcases hs : table.picked p with - | ⟨i, is⟩
  · simp [hs] at h
  · have hi : i ∈ table.picked p := by simp [hs]
    exact ⟨i, List.mem_filter.mp hi⟩

theorem matchesEntry_join_one (e : Entry) (ps : Placeholders) :
    ∀ xs, (Quantifier.one.join xs).matchesEntry e ps = xs.anyM (·.matchesEntry e ps)
  | [] => Expr.matchesEntry_or e ps []
  | [_] => (either_false _).symm
  | x :: y :: xs => Expr.matchesEntry_or e ps (x :: y :: xs)

theorem matchesEntry_join_all (e : Entry) (ps : Placeholders) :
    ∀ xs, (Quantifier.all.join xs).matchesEntry e ps = xs.allM (·.matchesEntry e ps)
  | [] => Expr.matchesEntry_and e ps []
  | [_] => (both_true _).symm
  | x :: y :: xs => Expr.matchesEntry_and e ps (x :: y :: xs)

theorem means_quantified (q : Quantifier) (p : Token) :
    Means table (.quantified q p) (q.join ((table.picked p).map (·.2))) := fun e ps => by
  cases q with
  | one => rw [matchesEntry_join_one, Formula.verdict]
  | all => rw [matchesEntry_join_all, Formula.verdict]

/-! ### Steps of the parser -/

section Steps

variable (l : Level) (d : Option Expr) (x : Expr) (outer : List Level) (ts : List Token)

theorem parseFrom_operand (t : Token) :
    parseFrom table (.operand l) outer (t :: ts)
      = if t = .opening then parseFrom table (.operand {}) (l :: outer) ts
        else if t = .word "not" then
          parseFrom table (.operand { l with negations := l.negations + 1 }) outer ts
        else if t = .word Quantifier.one.word then parseFrom table (.ofWord l .one) outer ts
        else if t = .word Quantifier.all.word then parseFrom table (.ofWord l .all) outer ts
        else
          match table.lookup t.text with
          | some x => parseFrom table (.afterOperand l x) outer ts
          | none => .error (.unknown t.text) :=
  rfl

theorem parseFrom_opening :
    parseFrom table (.operand l) outer (.opening :: ts)
      = parseFrom table (.operand {}) (l :: outer) ts :=
  rfl

theorem parseFrom_not :
    parseFrom table (.operand l) outer (.word "not" :: ts)
      = parseFrom table (.operand { l with negations := l.negations + 1 }) outer ts :=
  rfl

theorem parseFrom_identifier {t : Token} (ht : t ∉ reserved)
    (hx : table.lookup t.text = some x) :
    parseFrom table (.operand l) outer (t :: ts)
      = parseFrom table (.afterOperand l x) outer ts := by
  simp only [reserved, List.mem_cons, List.not_mem_nil, or_false, not_or] at ht
  obtain ⟨hopen, hnot, hone, hall⟩ := ht
  have hone : t ≠ .word Quantifier.one.word := hone
  have hall : t ≠ .word Quantifier.all.word := hall
  rw [parseFrom_operand, if_neg hopen, if_neg hnot, if_neg hone, if_neg hall, hx]

theorem parseFrom_quantifier (q : Quantifier) :
    parseFrom table (.operand l) outer (.word q.word :: .word "of" :: ts)
      = parseFrom table (.pattern l q) outer ts := by
  cases q with
  | one => rfl
  | all => rfl

theorem parseFrom_pattern {q : Quantifier} {p : Token} (h : quantified table q p = .ok x) :
    parseFrom table (.pattern l q) outer (p :: ts)
      = parseFrom table (.afterOperand l x) outer ts := by
  simp only [parseFrom, h]

theorem parseFrom_and :
    parseFrom table (.operator d x) outer (.word "and" :: ts)
      = parseFrom table (.operand ⟨d, some x, 0⟩) outer ts := by
  cases outer with
  | nil => rfl
  | cons l outer => rfl

theorem parseFrom_or :
    parseFrom table (.operator d x) outer (.word "or" :: ts)
      = parseFrom table (.operand ⟨some (Level.disjunction ⟨d, none, 0⟩ x), none, 0⟩) outer ts := by
  cases outer with
  | nil => rfl
  | cons l outer => rfl

theorem parseFrom_closing :
    parseFrom table (.operator d x) (l :: outer) (.closing :: ts)
      = parseFrom table (.afterOperand l (Level.disjunction ⟨d, none, 0⟩ x)) outer ts :=
  rfl

end Steps

/-! ### Every sentence is read -/

/-- A phrase of the kind carries the parser over its tokens, with an expression for
what the formula says. -/
def Carries (table : Identifiers) : Phrase → List Token → Formula → Prop
  | .operand, ts, φ => ∃ x, Means table φ x ∧ ∀ l outer rest,
      parseFrom table (.operand l) outer (ts ++ rest)
        = parseFrom table (.afterOperand l x) outer rest
  | .conjunction, ts, φ => ∃ x, Means table φ x ∧ ∀ d outer rest,
      parseFrom table (.operand ⟨d, none, 0⟩) outer (ts ++ rest)
        = parseFrom table (.operator d x) outer rest
  | .expression, ts, φ => ∃ d x, Means table φ (Level.disjunction ⟨d, none, 0⟩ x) ∧
      ∀ outer rest, parseFrom table (.operand {}) outer (ts ++ rest)
        = parseFrom table (.operator d x) outer rest

theorem Derives.carries {k : Phrase} {ts : List Token} {φ : Formula}
    (h : Derives table k ts φ) : Carries table k ts φ := by
  induction h with
  | conjunction _ ih =>
    obtain ⟨x, hx, hrun⟩ := ih
    exact ⟨none, x, hx, hrun none⟩
  -- after `or` what was read is pending, and the right side starts afresh
  | or _ _ ihl ihr =>
    obtain ⟨d, x, hx, hl⟩ := ihl
    obtain ⟨y, hy, hr⟩ := ihr
    refine ⟨some (Level.disjunction ⟨d, none, 0⟩ x), y, hx.disjoin hy, fun outer rest => ?_⟩
    rw [List.append_assoc, List.cons_append, hl, parseFrom_or, hr]
  | operand _ ih =>
    obtain ⟨x, hx, hrun⟩ := ih
    exact ⟨x, hx, fun d => hrun ⟨d, none, 0⟩⟩
  | and _ _ ihl ihr =>
    obtain ⟨x, hx, hl⟩ := ihl
    obtain ⟨y, hy, hr⟩ := ihr
    refine ⟨conjoin x y, hx.conjoin hy, fun d outer rest => ?_⟩
    rw [List.append_assoc, List.cons_append, hl, parseFrom_and, hr]
    rfl
  -- the level around the parentheses comes back unchanged
  | @group ts _ _ ih =>
    obtain ⟨d, x, hx, hrun⟩ := ih
    refine ⟨Level.disjunction ⟨d, none, 0⟩ x, hx, fun l outer rest => ?_⟩
    rw [List.cons_append, List.cons_append, List.append_assoc, parseFrom_opening, hrun,
      List.singleton_append, parseFrom_closing]
  | not _ ih =>
    obtain ⟨x, hx, hrun⟩ := ih
    refine ⟨.not x, hx.not, fun l outer rest => ?_⟩
    rw [List.cons_append, parseFrom_not, hrun]
    rfl
  | quantified q hi hp =>
    refine ⟨_, means_quantified q _, fun l outer rest => ?_⟩
    exact (parseFrom_quantifier l outer _ q).trans
      (parseFrom_pattern l _ outer rest (quantified_eq_ok q hi hp))
  | identifier ht hx =>
    refine ⟨_, fun e ps => by rw [Formula.verdict, hx], fun l outer rest => ?_⟩
    exact parseFrom_identifier l _ outer rest ht hx

/-- A sentence of the grammar is read, as an expression that matches as it says. -/
theorem Derives.parseTokens {ts : List Token} {φ : Formula}
    (h : Derives table .expression ts φ) : ∃ x, parseTokens table ts = .ok x ∧ Means table φ x := by
  obtain ⟨d, x, hx, hrun⟩ := h.carries
  refine ⟨_, ?_, hx⟩
  rw [Condition.parseTokens, ← List.append_nil ts, hrun]
  rfl

/-! ### Nothing else is read -/

/-- The tokens are the left side of an operator that is pending, with the operator,
or nothing if none is. -/
def Pending (table : Identifiers) (k : Phrase) (operator : String) :
    Option Expr → List Token → Prop
  | none, ts => ts = []
  | some _, ts => ∃ us φ, Derives table k us φ ∧ ts = us ++ [.word operator]

/-- The tokens are what is pending at a level. -/
def Level.Covers (table : Identifiers) (l : Level) (ts : List Token) : Prop :=
  ∃ ds cs, Pending table .expression "or" l.disjunct ds ∧
    Pending table .conjunction "and" l.conjunct cs ∧
    ts = ds ++ cs ++ List.replicate l.negations (.word "not")

/-- The tokens lead from the last open parenthesis to the state. -/
def Expected.Covers (table : Identifiers) : Expected → List Token → Prop
  | .operand l, ts => l.Covers table ts
  | .ofWord l q, ts => ∃ us, l.Covers table us ∧ ts = us ++ [.word q.word]
  | .pattern l q, ts => ∃ us, l.Covers table us ∧ ts = us ++ [.word q.word, .word "of"]
  | .operator d _, ts => ∃ ds cs φ, Pending table .expression "or" d ds ∧
      Derives table .conjunction cs φ ∧ ts = ds ++ cs

/-- The tokens lead up to the last open parenthesis, with what is pending around
each. -/
def Nested (table : Identifiers) : List Level → List Token → Prop
  | [], ts => ts = []
  | l :: outer, ts => ∃ us vs, Nested table outer us ∧ l.Covers table vs ∧
      ts = us ++ vs ++ [.opening]

theorem Derives.negated {n : Nat} {ts : List Token} {φ : Formula}
    (h : Derives table .operand ts φ) :
    ∃ ψ, Derives table .operand (List.replicate n (.word "not") ++ ts) ψ := by
  induction n with
  | zero => exact ⟨φ, h⟩
  | succ n ih =>
    obtain ⟨ψ, hψ⟩ := ih
    exact ⟨.not ψ, hψ.not⟩

/-- An operand completes a conjunction of its level. -/
theorem Level.Covers.afterOperand {l : Level} {us ts : List Token} {φ : Formula} (x : Expr)
    (hl : l.Covers table us) (h : Derives table .operand ts φ) :
    (Expected.afterOperand l x).Covers table (us ++ ts) := by
  obtain ⟨ds, cs, hd, hc, rfl⟩ := hl
  obtain ⟨ψ, hψ⟩ := h.negated (n := l.negations)
  rcases hconj : l.conjunct with - | y
  · rw [hconj] at hc
    obtain rfl : cs = [] := hc
    exact ⟨ds, _, ψ, hd, .operand hψ, by simp⟩
  · rw [hconj] at hc
    obtain ⟨vs, χ, hχ, rfl⟩ := hc
    exact ⟨ds, _, _, hd, .and hχ hψ, by simp⟩

/-- After a conjunction, the tokens of a level are an expression. -/
theorem Expected.Covers.expression {d : Option Expr} {x : Expr} {ts : List Token}
    (h : (Expected.operator d x).Covers table ts) : ∃ φ, Derives table .expression ts φ := by
  obtain ⟨ds, cs, φ, hd, hc, rfl⟩ := h
  cases d with
  | none =>
    obtain rfl : ds = [] := hd
    exact ⟨φ, .conjunction hc⟩
  | some y =>
    obtain ⟨us, ψ, hψ, rfl⟩ := hd
    exact ⟨_, by simpa using Derives.or hψ hc⟩

theorem Level.covers_nil : Level.Covers table {} [] := ⟨[], [], rfl, rfl, rfl⟩

theorem Level.Covers.negation {l : Level} {ts : List Token} (h : l.Covers table ts) :
    Level.Covers table { l with negations := l.negations + 1 } (ts ++ [.word "not"]) := by
  obtain ⟨ds, cs, hd, hc, rfl⟩ := h
  exact ⟨ds, cs, hd, hc, by simp [List.replicate_succ']⟩

/-- A conjunction is pending after its `and`. -/
theorem Expected.Covers.and {d : Option Expr} {x : Expr} {ts : List Token}
    (h : (Expected.operator d x).Covers table ts) :
    Level.Covers table ⟨d, some x, 0⟩ (ts ++ [.word "and"]) := by
  obtain ⟨ds, cs, φ, hd, hc, rfl⟩ := h
  exact ⟨ds, cs ++ [.word "and"], hd, ⟨cs, φ, hc, rfl⟩, by simp⟩

/-- A disjunction is pending after its `or`. -/
theorem Expected.Covers.or {d : Option Expr} {x y : Expr} {ts : List Token}
    (h : (Expected.operator d x).Covers table ts) :
    Level.Covers table ⟨some y, none, 0⟩ (ts ++ [.word "or"]) := by
  obtain ⟨φ, hφ⟩ := h.expression
  exact ⟨ts ++ [.word "or"], [], ⟨ts, φ, hφ, rfl⟩, rfl, by simp⟩

/-- **The invariant of reading**: if reading goes well from a state on, the tokens
that led to the state and those that follow are a sentence. -/
theorem derives_of_parseFrom {st : Expected} {outer : List Level} {us vs ts : List Token}
    {r : Expr} (h : parseFrom table st outer ts = .ok r) (ho : Nested table outer us)
    (hs : st.Covers table vs) : ∃ φ, Derives table .expression (us ++ vs ++ ts) φ := by
  fun_induction parseFrom table st outer ts generalizing us vs
  -- one token further, the prefix is the same with the token at its end
  case case6 l outer ts ih =>
    have hn : Nested table (l :: outer) (us ++ vs ++ [.opening]) := ⟨us, vs, ho, hs, rfl⟩
    simpa using ih h hn Level.covers_nil
  case case7 l outer ts _ ih =>
    simpa using ih h ho hs.negation
  case case8 l outer ts _ _ ih =>
    simpa using ih h ho ⟨vs, hs, rfl⟩
  case case9 l outer ts _ _ _ ih =>
    simpa using ih h ho ⟨vs, hs, rfl⟩
  case case10 l outer t ts h1 h2 h3 h4 x hx ih =>
    have ht : t ∉ reserved := by
      simp only [Quantifier.word] at h3 h4
      simp [reserved, h1, h2, h3, h4]
    simpa using ih h ho (hs.afterOperand x (.identifier ht hx))
  case case12 l q outer ts ih =>
    obtain ⟨ws, hw, rfl⟩ := hs
    simpa using ih h ho ⟨ws, hw, rfl⟩
  case case14 l q outer p ts x hx ih =>
    obtain ⟨ws, hw, rfl⟩ := hs
    obtain ⟨i, hi, hp⟩ := exists_picked_of_quantified hx
    simpa using ih h ho (hw.afterOperand x (.quantified q hi hp))
  case case17 d x outer ts _ ih =>
    simpa using ih h ho hs.and
  case case18 d x outer ts _ _ ih =>
    simpa using ih h ho hs.or
  case case20 d x ts l outer _ _ _ ih =>
    obtain ⟨ws, zs, ho', hl, rfl⟩ := ho
    obtain ⟨φ, hφ⟩ := hs.expression
    simpa using ih h ho' (hl.afterOperand _ (.group hφ))
  -- the end of the tokens: nothing is open, and the prefix is an expression
  case case4 d x =>
    obtain rfl : us = [] := ho
    simpa using hs.expression
  all_goals cases h

/-! ### The parser and the grammar -/

/-- **The parser accepts exactly its grammar and gives it the right meaning.**  A
condition is read if and only if its tokens are a sentence.  Then, for every
derivation of the sentence and every entry, the expression answers as the formula
of the derivation does when it asks the identifiers from left to right, failing
where that fails; and if all identifiers of the formula answer, the expression
matches if and only if the formula is true of their answers. -/
theorem parse_iff_derives_and_matches (table : Identifiers) (condition : String) :
    ((∃ x, parse table condition = .ok x) ↔
      ∃ φ, Derives table .expression (tokens condition.toList) φ) ∧
    ∀ x φ, parse table condition = .ok x →
      Derives table .expression (tokens condition.toList) φ → ∀ e ps,
        x.matchesEntry e ps = φ.verdict table (·.matchesEntry e ps) ∧
        ∀ holds : Expr → Bool,
          (∀ y ∈ φ.exprs table, y.matchesEntry e ps = .ok (holds y)) →
          x.matchesEntry e ps = .ok (φ.value table holds) := by
  refine ⟨⟨fun ⟨x, hx⟩ => ?_, fun ⟨φ, hφ⟩ => ?_⟩, fun x φ hx hφ e ps => ?_⟩
  · exact derives_of_parseFrom hx rfl Level.covers_nil
  · obtain ⟨x, hx, -⟩ := hφ.parseTokens
    exact ⟨x, hx⟩
  · obtain ⟨y, hy, hm⟩ := hφ.parseTokens
    obtain rfl : x = y := Except.ok.inj (hx.symm.trans hy)
    exact ⟨hm e ps, fun holds h => (hm e ps).trans (Formula.verdict_eq_value h)⟩

/-- The statement at a condition with all kinds of phrases: `a` holds and `b` does
not. -/
theorem parse_sample_matches :
    let table : Identifiers := [("a", .and []), ("b", .or [])]
    let φ : Formula := .and (.not (.identifier "b"))
      (.or (.identifier "a") (.quantified .one (.word "them")))
    ∃ x, parse table "not b and (a or 1 of them)" = .ok x ∧
      Derives table .expression (tokens "not b and (a or 1 of them)".toList) φ ∧
      (∀ y ∈ φ.exprs table, y.matchesEntry {} [] = .ok (y == .and [])) ∧
      x.matchesEntry {} [] = .ok (φ.value table (· == .and [])) := by
  intro table φ
  have hs := parse_iff_derives_and_matches table "not b and (a or 1 of them)"
  have ht : tokens "not b and (a or 1 of them)".toList
      = [.word "not", .word "b", .word "and", .opening, .word "a", .word "or", .word "1",
        .word "of", .word "them", .closing] := by decide
  have ha : Derives table .operand [.word "a"] (.identifier "a") := .identifier (by decide) rfl
  have hb : Derives table .operand [.word "b"] (.identifier "b") := .identifier (by decide) rfl
  have hq : Derives table .operand [.word "1", .word "of", .word "them"]
      (.quantified .one (.word "them")) := .quantified .one (List.mem_cons_self) (by decide)
  have hd : Derives table .expression (tokens "not b and (a or 1 of them)".toList) φ := by
    rw [ht]
    exact .conjunction (.and (.operand (.not hb))
      (.group (.or (.conjunction (.operand ha)) (.operand hq))))
  have hv : ∀ y ∈ φ.exprs table, y.matchesEntry {} [] = .ok (y == .and []) := by
    have he : φ.exprs table = [.or [], .and [], .and [], .or []] := by decide
    rw [he]
    intro y hy
    fin_cases hy <;> rfl
  obtain ⟨x, hx⟩ := hs.1.mpr ⟨φ, hd⟩
  exact ⟨x, hx, hd, hv, (hs.2 x φ hx hd {} []).2 (· == .and []) hv⟩

end SigmaRules.Condition
