/-
SigmaRules/Proofs/Condition/Printing.lean

Conditions written down and read again: which expressions the parser gives, and
that each of them can be written so that the parser gives it back
(`parse_normal_and_written`).

Children are added on the right only, so an `and` never has an `and` as its
first child, while it may have one further right, where parentheses were; the
same holds for `or`.  That is all that the parser's expressions have in common
(`Normal`).  One direction is an invariant of the parser's states
(`Expected.Normal`); the other goes by induction on the expression, whose text
takes the parser from one state to another, whatever follows (`ReadAsOperand`,
`ReadAsExpression`).
-/
import SigmaRules.Proofs.Condition.Parsing

namespace SigmaRules.Condition

variable {table : Identifiers}

/-! ### The expressions of conditions -/

/-- The identifiers are a table of named expressions, under names that a condition
can mention. -/
structure Identifiers.WellNamed (table : Identifiers) : Prop where
  /-- No name is there twice. -/
  distinct : (table.map (·.1)).Nodup
  /-- Every expression carries its name. -/
  named : ∀ i ∈ table, ∃ x, i.2 = .named i.1 x
  /-- Every name is a word of its own in a condition. -/
  word : ∀ i ∈ table, tokens i.1.toList = [.word i.1]
  /-- No name is read as something else where an operand stands. -/
  free : ∀ i ∈ table, i.1 ∉ ["not", "1", "all"]

/-- The expressions of identifiers under negations, conjunctions and disjunctions
of two children or more, where what stands first in a conjunction is no
conjunction, and what stands first in a disjunction is no disjunction. -/
inductive Normal (table : Identifiers) : Expr → Prop
  | identifier {name x} : (name, .named name x) ∈ table → Normal table (.named name x)
  | not {x} : Normal table x → Normal table (.not x)
  | and {x y xs} : x.connective ≠ .and → (∀ z ∈ x :: y :: xs, Normal table z) →
      Normal table (.and (x :: y :: xs))
  | or {x y xs} : x.connective ≠ .or → (∀ z ∈ x :: y :: xs, Normal table z) →
      Normal table (.or (x :: y :: xs))

/-- Is the expression written with an operator between its children? -/
def isJunction : Expr → Bool
  | .and _ | .or _ => true
  | _ => false

/-- The text of an expression where it is a child: in parentheses, if it has an
operator. -/
def enclosed (x : Expr) (text : String) : String :=
  if isJunction x then "(" ++ text ++ ")" else text

mutual

/-- An expression over identifiers as a condition. -/
def written : Expr → String
  | .search s => s.text
  | .named name _ => name
  | .not x => "not " ++ enclosed x (written x)
  | .and xs => " and ".intercalate (writtenAll xs)
  | .or xs => " or ".intercalate (writtenAll xs)

/-- The texts of the children of an expression. -/
def writtenAll : List Expr → List String
  | [] => []
  | x :: xs => enclosed x (written x) :: writtenAll xs

end

theorem writtenAll_eq_map (xs : List Expr) :
    writtenAll xs = xs.map fun x => enclosed x (written x) := by
  induction xs with
  | nil => rfl
  | cons x xs ih => rw [writtenAll, ih, List.map_cons]

/-! ### Tokens of a text in parts -/

/-- Does the character end a word? -/
def endsWord (c : Char) : Bool := (Token.ofMark? c).isSome || Text.isBlank c

theorem finish_append (w : List Char) (ts us : List Token) :
    finish w (ts ++ us) = finish w ts ++ us := by
  rw [finish, finish]
  split <;> rfl

/-- A text falls apart into tokens on its own before a character that ends words. -/
theorem tokensAfter_append {c : Char} (hc : endsWord c = true) (cs : List Char) :
    ∀ w s, tokensAfter w (s ++ c :: cs) = tokensAfter w s ++ tokens (c :: cs) := by
  intro w s
  induction s generalizing w with
  | nil =>
    rw [List.nil_append, tokens, tokensAfter, tokensAfter, tokensAfter, ← finish_append,
      List.nil_append]
    rcases hm : Token.ofMark? c with - | t
    · have hb : Text.isBlank c = true := by simpa [endsWord, hm] using hc
      simp [hb, finish]
    · simp [finish]
  | cons a s ih =>
    rw [List.cons_append, tokensAfter, tokensAfter]
    rcases hm : Token.ofMark? a with - | t
    · by_cases hb : Text.isBlank a = true
      · simp only [hb, if_true, ih, finish_append]
      · simp only [hb, ih]
        rfl
    · simp only [ih, ← finish_append, List.cons_append]

theorem tokens_append {c : Char} (hc : endsWord c = true) (s cs : List Char) :
    tokens (s ++ c :: cs) = tokens s ++ tokens (c :: cs) :=
  tokensAfter_append hc cs [] s

/-- A word between blanks is one token. -/
theorem tokens_between (s cs : List Char) (w : String) (hw : tokens (' ' :: w.toList) = [.word w]) :
    tokens (s ++ ' ' :: (w.toList ++ ' ' :: cs)) = tokens s ++ .word w :: tokens cs := by
  have hblank : endsWord ' ' = true := rfl
  have hcs : tokens (' ' :: cs) = tokens cs := rfl
  rw [tokens_append hblank, ← List.cons_append, tokens_append hblank, hw, hcs]
  rfl

theorem tokens_not (s : String) :
    tokens ("not " ++ s).toList = .word "not" :: tokens s.toList := by
  have hnot : ("not " ++ s).toList = "not".toList ++ ' ' :: s.toList := by simp
  have hs : tokens (' ' :: s.toList) = tokens s.toList := rfl
  rw [hnot, tokens_append rfl, hs]
  rfl

theorem tokens_enclosed (s : String) :
    tokens ("(" ++ s ++ ")").toList = .opening :: (tokens s.toList ++ [.closing]) := by
  have hs : ("(" ++ s ++ ")").toList = '(' :: (s.toList ++ [')']) := by simp
  have hopen : tokens ('(' :: (s.toList ++ [')'])) = .opening :: tokens (s.toList ++ [')']) := rfl
  rw [hs, hopen, tokens_append rfl]
  rfl

/-- Texts joined by an operator, as tokens. -/
theorem tokens_intercalate {operator w : String} (hop : operator.toList = ' ' :: (w.toList ++ [' ']))
    (hw : tokens (' ' :: w.toList) = [.word w]) (s : String) (ss : List String) :
    tokens (operator.intercalate (s :: ss)).toList
      = tokens s.toList ++ ss.flatMap fun t => .word w :: tokens t.toList := by
  rw [String.toList_intercalate, List.map_cons]
  induction ss generalizing s with
  | nil => simp
  | cons t ss ih =>
    rw [List.map_cons, List.intercalate_cons_cons, hop, List.append_assoc, List.cons_append,
      List.append_assoc, List.singleton_append, tokens_between _ _ w hw, ← hop, ih t,
      List.flatMap_cons, List.cons_append]

/-! ### Reading what was written -/

/-- The tokens are read as the expression where an operand is expected. -/
def ReadAsOperand (table : Identifiers) (ts : List Token) (x : Expr) : Prop :=
  ∀ l outer rest, parseFrom table (.operand l) outer (ts ++ rest)
    = parseFrom table (.afterOperand l x) outer rest

/-- The tokens are read as the expression where one begins. -/
def ReadAsExpression (table : Identifiers) (ts : List Token) (x : Expr) : Prop :=
  ∃ d y, Level.disjunction ⟨d, none, 0⟩ y = x ∧
    ∀ outer rest, parseFrom table (.operand {}) outer (ts ++ rest)
      = parseFrom table (.operator d y) outer rest

section Reading

variable {x y : Expr} {ts us : List Token}

theorem ReadAsOperand.expression (h : ReadAsOperand table ts x) : ReadAsExpression table ts x :=
  ⟨none, x, rfl, fun outer rest => h {} outer rest⟩

theorem ReadAsOperand.not (h : ReadAsOperand table ts x) :
    ReadAsOperand table (.word "not" :: ts) (.not x) := by
  intro l outer rest
  rw [List.cons_append, parseFrom_not, h]
  rfl

theorem ReadAsExpression.enclosed (h : ReadAsExpression table ts x) :
    ReadAsOperand table (.opening :: (ts ++ [.closing])) x := by
  obtain ⟨d, y, rfl, hrun⟩ := h
  intro l outer rest
  rw [List.cons_append, parseFrom_opening, List.append_assoc, hrun, List.singleton_append,
    parseFrom_closing]

theorem lookup_eq_some (h : (table.map (·.1)).Nodup) {i : String × Expr} (hi : i ∈ table) :
    table.lookup i.1 = some i.2 := by
  obtain ⟨before, after, rfl⟩ := List.append_of_mem hi
  refine List.lookup_eq_some_iff.mpr ⟨before, after, rfl, fun j hj => bne_iff_ne.mpr ?_⟩
  -- an earlier identifier of the same name would be the name a second time
  rw [List.map_append, List.nodup_append] at h
  exact fun e => h.2.2 j.1 (List.mem_map_of_mem hj) i.1 (by simp) e.symm

theorem Identifiers.WellNamed.readAsOperand (h : table.WellNamed) {i : String × Expr}
    (hi : i ∈ table) : ReadAsOperand table (tokens i.1.toList) i.2 := by
  have hfree : Token.word i.1 ∉ reserved := by simpa [reserved] using h.free i hi
  intro l outer rest
  rw [h.word i hi, List.singleton_append]
  exact parseFrom_identifier l i.2 outer rest hfree (lookup_eq_some h.distinct hi)

/-- Operands after an `and` each, behind a conjunction. -/
theorem parseFrom_conjuncts {texts : Expr → List Token} (d : Option Expr) (outer : List Level)
    (rest : List Token) (xs : List Expr) (h : ∀ y ∈ xs, ReadAsOperand table (texts y) y) (x : Expr) :
    parseFrom table (.operator d x) outer ((xs.flatMap fun y => .word "and" :: texts y) ++ rest)
      = parseFrom table (.operator d (xs.foldl conjoin x)) outer rest := by
  induction xs generalizing x with
  | nil => rfl
  | cons y ys ih =>
    have hy := h y List.mem_cons_self
    rw [List.flatMap_cons, List.append_assoc, List.cons_append, parseFrom_and, hy]
    exact ih (fun z hz => h z (List.mem_cons_of_mem _ hz)) (conjoin x y)

/-- Operands after an `or` each, behind a disjunction. -/
theorem parseFrom_disjuncts {texts : Expr → List Token} (xs : List Expr)
    (h : ∀ y ∈ xs, ReadAsOperand table (texts y) y) (d : Option Expr) (x : Expr) :
    ∃ e z, Level.disjunction ⟨e, none, 0⟩ z
        = xs.foldl disjoin (Level.disjunction ⟨d, none, 0⟩ x) ∧ ∀ outer rest,
      parseFrom table (.operator d x) outer ((xs.flatMap fun y => .word "or" :: texts y) ++ rest)
        = parseFrom table (.operator e z) outer rest := by
  induction xs generalizing d x with
  | nil => exact ⟨d, x, rfl, fun _ _ => rfl⟩
  | cons y ys ih =>
    have hy := h y List.mem_cons_self
    obtain ⟨e, z, he, hrun⟩ := ih (fun z hz => h z (List.mem_cons_of_mem _ hz))
      (some (Level.disjunction ⟨d, none, 0⟩ x)) y
    refine ⟨e, z, he, fun outer rest => ?_⟩
    rw [List.flatMap_cons, List.append_assoc, List.cons_append, parseFrom_or, hy]
    exact hrun outer rest

theorem foldl_conjoin_and (cs xs : List Expr) :
    xs.foldl conjoin (.and cs) = .and (cs ++ xs) := by
  induction xs generalizing cs with
  | nil => simp
  | cons x xs ih => rw [List.foldl_cons, conjoin, ih, List.append_assoc, List.singleton_append]

theorem foldl_disjoin_or (cs xs : List Expr) :
    xs.foldl disjoin (.or cs) = .or (cs ++ xs) := by
  induction xs generalizing cs with
  | nil => simp
  | cons x xs ih => rw [List.foldl_cons, disjoin, ih, List.append_assoc, List.singleton_append]

/-- What is no conjunction becomes the first child of one. -/
theorem conjoin_of_connective_ne (h : x.connective ≠ .and) : conjoin x y = .and [x, y] := by
  cases x with
  | and cs => exact absurd rfl h
  | search _ | named _ _ | not _ | or _ => rfl

/-- What is no disjunction becomes the first child of one. -/
theorem disjoin_of_connective_ne (h : x.connective ≠ .or) : disjoin x y = .or [x, y] := by
  cases x with
  | or cs => exact absurd rfl h
  | search _ | named _ _ | not _ | and _ => rfl

/-- The tokens of an expression where it is a child. -/
def operandTokens (x : Expr) : List Token := tokens (enclosed x (written x)).toList

theorem tokens_written_and (x : Expr) (xs : List Expr) :
    tokens (written (.and (x :: xs))).toList
      = operandTokens x ++ xs.flatMap fun y => .word "and" :: operandTokens y := by
  rw [written, writtenAll_eq_map, List.map_cons, tokens_intercalate rfl (w := "and") rfl,
    List.flatMap_map]
  rfl

theorem tokens_written_or (x : Expr) (xs : List Expr) :
    tokens (written (.or (x :: xs))).toList
      = operandTokens x ++ xs.flatMap fun y => .word "or" :: operandTokens y := by
  rw [written, writtenAll_eq_map, List.map_cons, tokens_intercalate rfl (w := "or") rfl,
    List.flatMap_map]
  rfl

theorem readAsExpression_and (hx : x.connective ≠ .and) (xs : List Expr)
    (h : ∀ z ∈ x :: y :: xs, ReadAsOperand table (operandTokens z) z) :
    ReadAsExpression table (tokens (written (.and (x :: y :: xs))).toList)
      (.and (x :: y :: xs)) := by
  have hfold : (y :: xs).foldl conjoin x = .and (x :: y :: xs) := by
    rw [List.foldl_cons, conjoin_of_connective_ne hx, foldl_conjoin_and]
    rfl
  refine ⟨none, .and (x :: y :: xs), rfl, fun outer rest => ?_⟩
  rw [tokens_written_and, List.append_assoc, h x List.mem_cons_self]
  have hrun := parseFrom_conjuncts none outer rest (y :: xs)
    (fun z hz => h z (List.mem_cons_of_mem _ hz)) x
  rw [hfold] at hrun
  exact hrun

theorem readAsExpression_or (hx : x.connective ≠ .or) (xs : List Expr)
    (h : ∀ z ∈ x :: y :: xs, ReadAsOperand table (operandTokens z) z) :
    ReadAsExpression table (tokens (written (.or (x :: y :: xs))).toList)
      (.or (x :: y :: xs)) := by
  have hfold : (y :: xs).foldl disjoin x = .or (x :: y :: xs) := by
    rw [List.foldl_cons, disjoin_of_connective_ne hx, foldl_disjoin_or]
    rfl
  obtain ⟨e, z, he, hrun⟩ := parseFrom_disjuncts (y :: xs)
    (fun z hz => h z (List.mem_cons_of_mem _ hz)) none x
  refine ⟨e, z, he.trans hfold, fun outer rest => ?_⟩
  rw [tokens_written_or, List.append_assoc, h x List.mem_cons_self]
  exact hrun outer rest

/-- What is read whole is an operand in parentheses. -/
theorem ReadAsExpression.operand (h : ReadAsExpression table (tokens (written x).toList) x)
    (hj : isJunction x = true) : ReadAsOperand table (operandTokens x) x := by
  rw [operandTokens, Condition.enclosed, if_pos hj, tokens_enclosed]
  exact h.enclosed

/-- As a child, an expression is read as an operand. -/
theorem Normal.readAsOperand (h : table.WellNamed) (hx : Normal table x) :
    ReadAsOperand table (operandTokens x) x := by
  induction hx with
  | identifier hi =>
    have hop := h.readAsOperand hi
    exact hop
  | @not x _ ih =>
    rw [operandTokens, enclosed, if_neg (by simp [isJunction]), written, tokens_not]
    exact ih.not
  | and hne _ ih =>
    have hwhole := readAsExpression_and hne _ ih
    exact hwhole.operand rfl
  | or hne _ ih =>
    have hwhole := readAsExpression_or hne _ ih
    exact hwhole.operand rfl

/-- On its own, an expression is read whole, without parentheses around it. -/
theorem Normal.readAsExpression (h : table.WellNamed) (hx : Normal table x) :
    ReadAsExpression table (tokens (written x).toList) x := by
  have hop := hx.readAsOperand h
  cases hx with
  | identifier _ | not _ => exact hop.expression
  | and hne hall => exact readAsExpression_and hne _ fun z hz => (hall z hz).readAsOperand h
  | or hne hall => exact readAsExpression_or hne _ fun z hz => (hall z hz).readAsOperand h

theorem ReadAsExpression.parseTokens (h : ReadAsExpression table ts x) :
    parseTokens table ts = .ok x := by
  obtain ⟨d, y, rfl, hrun⟩ := h
  rw [Condition.parseTokens, ← List.append_nil ts, hrun]
  rfl

end Reading

/-! ### What is read -/

section Shape

variable {x y : Expr}

theorem Normal.conjoin (hx : Normal table x) (hy : Normal table y) :
    Normal table (conjoin x y) := by
  cases hx with
  | @and a b cs hne hall =>
    refine @Normal.and table a b (cs ++ [y]) hne fun z hz => ?_
    have hz' : z ∈ a :: b :: cs ∨ z = y := by simpa [or_assoc] using hz
    rcases hz' with hz' | rfl
    · exact hall z hz'
    · exact hy
  | identifier _ | not _ | or _ _ =>
    refine Normal.and (by simp [Expr.connective]) fun z hz => ?_
    rcases List.mem_pair.mp hz with rfl | rfl
    · constructor <;> assumption
    · exact hy

theorem Normal.disjoin (hx : Normal table x) (hy : Normal table y) :
    Normal table (disjoin x y) := by
  cases hx with
  | @or a b cs hne hall =>
    refine @Normal.or table a b (cs ++ [y]) hne fun z hz => ?_
    have hz' : z ∈ a :: b :: cs ∨ z = y := by simpa [or_assoc] using hz
    rcases hz' with hz' | rfl
    · exact hall z hz'
    · exact hy
  | identifier _ | not _ | and _ _ =>
    refine Normal.or (by simp [Expr.connective]) fun z hz => ?_
    rcases List.mem_pair.mp hz with rfl | rfl
    · constructor <;> assumption
    · exact hy

theorem Normal.negate (hx : Normal table x) (n : Nat) : Normal table (negate n x) := by
  induction n generalizing x with
  | zero => exact hx
  | succ n ih => exact ih hx.not

/-- The identifiers' own expressions. -/
theorem normal_of_mem (h : ∀ i ∈ table, ∃ x, i.2 = .named i.1 x) {i : String × Expr}
    (hi : i ∈ table) : Normal table i.2 ∧ i.2.connective = .named := by
  obtain ⟨name, x⟩ := i
  obtain ⟨y, hy⟩ := h _ hi
  have hx : x = .named name y := hy
  subst hx
  exact ⟨.identifier hi, rfl⟩

theorem normal_of_lookup (h : ∀ i ∈ table, ∃ x, i.2 = .named i.1 x) {name : String}
    (hx : table.lookup name = some x) : Normal table x := by
  obtain ⟨before, after, rfl, -⟩ := List.lookup_eq_some_iff.mp hx
  exact (normal_of_mem h (i := (name, x)) (by simp)).1

/-- Under a quantifier stand identifiers only, so none of them is a conjunction or a
disjunction. -/
theorem normal_of_quantified (h : ∀ i ∈ table, ∃ x, i.2 = .named i.1 x) {q : Quantifier} {p : Token}
    (hx : quantified table q p = .ok x) : Normal table x := by
  have hmem : ∀ z ∈ candidates table p, Normal table z ∧ z.connective = .named := by
    intro z hz
    rw [candidates_eq] at hz
    obtain ⟨i, hi, rfl⟩ := List.mem_map.mp hz
    exact normal_of_mem h (List.mem_of_mem_filter hi)
  rw [quantified] at hx
  rcases hc : candidates table p with - | ⟨y, - | ⟨z, zs⟩⟩
  · simp [hc] at hx
  · rw [hc] at hmem hx
    obtain rfl : q.join [y] = x := Except.ok.inj hx
    cases q <;> exact (hmem y List.mem_cons_self).1
  · rw [hc] at hmem hx
    have hfirst := (hmem y List.mem_cons_self).2
    obtain rfl : q.join (y :: z :: zs) = x := Except.ok.inj hx
    cases q with
    | one => exact .or (by simp [hfirst]) fun w hw => (hmem w hw).1
    | all => exact .and (by simp [hfirst]) fun w hw => (hmem w hw).1

/-- What is pending at a level has the shape of conditions. -/
structure Level.Normal (table : Identifiers) (l : Level) : Prop where
  disjunct : ∀ y ∈ l.disjunct, Condition.Normal table y
  conjunct : ∀ y ∈ l.conjunct, Condition.Normal table y

theorem Level.normal_empty : Level.Normal table {} := ⟨by simp, by simp⟩

theorem Level.Normal.conjunction {l : Level} (hl : l.Normal table) (hx : Condition.Normal table x) :
    Condition.Normal table (l.conjunction x) := by
  rw [Level.conjunction]
  rcases hc : l.conjunct with - | y
  · exact hx.negate _
  · exact (hl.conjunct y hc).conjoin (hx.negate _)

theorem Level.Normal.disjunction {l : Level} (hl : l.Normal table) (hx : Condition.Normal table x) :
    Condition.Normal table (l.disjunction x) := by
  rw [Level.disjunction]
  rcases hd : l.disjunct with - | y
  · exact hx
  · exact (hl.disjunct y hd).disjoin hx

/-- Everything that a state has read has the shape of conditions. -/
def Expected.Normal (table : Identifiers) : Expected → Prop
  | .operand l | .ofWord l _ | .pattern l _ => l.Normal table
  | .operator d x => Level.Normal table ⟨d, none, 0⟩ ∧ Condition.Normal table x

theorem Level.Normal.afterOperand {l : Level} (hl : l.Normal table)
    (hx : Condition.Normal table x) : (Expected.afterOperand l x).Normal table :=
  ⟨⟨hl.disjunct, by simp⟩, hl.conjunction hx⟩

end Shape

/-- **The invariant of reading**: if what a state and the levels around it have read
has the shape of conditions, so has what comes of it. -/
theorem normal_of_parseFrom (h : ∀ i ∈ table, ∃ x, i.2 = .named i.1 x) {st : Expected}
    {outer : List Level} {ts : List Token} {r : Expr} (hr : parseFrom table st outer ts = .ok r)
    (hs : st.Normal table) (ho : ∀ l ∈ outer, l.Normal table) : Normal table r := by
  fun_induction parseFrom table st outer ts
  -- the end of the tokens
  case case4 d x =>
    obtain rfl : Level.disjunction ⟨d, none, 0⟩ x = r := Except.ok.inj hr
    exact hs.1.disjunction hs.2
  -- an opening parenthesis: the level is put aside
  case case6 l outer ts ih =>
    exact ih hr Level.normal_empty (List.forall_mem_cons.mpr ⟨hs, ho⟩)
  case case7 l outer ts _ ih => exact ih hr ⟨hs.disjunct, hs.conjunct⟩ ho
  case case8 l outer ts _ _ ih => exact ih hr hs ho
  case case9 l outer ts _ _ _ ih => exact ih hr hs ho
  case case10 l outer t ts _ _ _ _ x hx ih =>
    exact ih hr (hs.afterOperand (normal_of_lookup h hx)) ho
  case case12 l q outer ts ih => exact ih hr hs ho
  case case14 l q outer p ts x hx ih =>
    exact ih hr (hs.afterOperand (normal_of_quantified h hx)) ho
  case case17 d x outer ts _ ih =>
    exact ih hr ⟨hs.1.disjunct, fun y hy => Option.mem_some.mp hy ▸ hs.2⟩ ho
  case case18 d x outer ts _ _ ih =>
    exact ih hr ⟨fun y hy => Option.mem_some.mp hy ▸ hs.1.disjunction hs.2, by simp⟩ ho
  -- a closing parenthesis: the level that was put aside comes back
  case case20 d x ts l outer _ _ _ ih =>
    obtain ⟨hl, ho⟩ := List.forall_mem_cons.mp ho
    exact ih hr (hl.afterOperand (hs.1.disjunction hs.2)) ho
  all_goals cases hr

/-- What is read over a table of named expressions has the shape of conditions, whatever the
names are. -/
theorem normal_of_parse (h : ∀ i ∈ table, ∃ x, i.2 = .named i.1 x) {condition : String} {x : Expr}
    (hx : parse table condition = .ok x) : Normal table x :=
  normal_of_parseFrom h hx Level.normal_empty (by simp)

/-! ### Writing undoes reading -/

/-- **What is read has the shape of conditions, and all expressions of this shape are
read back as they were written.** -/
theorem parse_normal_and_written (table : Identifiers) (h : table.WellNamed) :
    (∀ condition x, parse table condition = .ok x → Normal table x) ∧
    ∀ x, Normal table x → parse table (written x) = .ok x := by
  refine ⟨fun condition x hx => ?_, fun x hx => ?_⟩
  · exact normal_of_parse h.named hx
  · exact (hx.readAsExpression h).parseTokens

/-- Identifiers with the names of operators, in an expression that needs
parentheses of all kinds. -/
theorem parse_written_sample :
    let table : Identifiers := ["and", "or", "of", "them"].map fun name =>
      (name, .named name (.search ⟨none, [], [name]⟩))
    let leaf (name : String) : Expr := .named name (.search ⟨none, [], [name]⟩)
    let x : Expr := .and [.or [leaf "and", .not (leaf "or")], .and [leaf "of", leaf "them"],
      .not (.or [.not (.not (leaf "them")), .or [leaf "or", leaf "of"]])]
    table.WellNamed ∧ Normal table x ∧
      written x = "(and or not or) and (of and them) and not (not not them or (or or of))" ∧
      parse table (written x) = .ok x := by
  intro table leaf x
  have htable : table.WellNamed :=
    { distinct := by decide
      named := by
        intro i hi
        obtain ⟨name, -, rfl⟩ := List.mem_map.mp hi
        exact ⟨_, rfl⟩
      word := by decide
      free := by decide }
  have hleaf : ∀ name ∈ ["and", "or", "of", "them"], Normal table (leaf name) :=
    fun name hname => .identifier (List.mem_map_of_mem hname)
  have hand := hleaf "and" (by decide)
  have hor := hleaf "or" (by decide)
  have hof := hleaf "of" (by decide)
  have hthem := hleaf "them" (by decide)
  have hx : Normal table x :=
    .and (by decide) (by
      simp only [List.forall_mem_cons]
      refine ⟨.or (by decide) ?_, .and (by decide) ?_, .not (.or (by decide) ?_), by simp⟩
      · simpa using ⟨hand, hor.not⟩
      · simpa using ⟨hof, hthem⟩
      · simpa using ⟨hthem.not.not, .or (by decide) (by simpa using ⟨hor, hof⟩)⟩)
  have hwritten : written x
      = "(and or not or) and (of and them) and not (not not them or (or or of))" := by decide
  have hread : parse table (written x) = .ok x := (parse_normal_and_written table htable).2 x hx
  exact ⟨htable, hx, hwritten, hread⟩

end SigmaRules.Condition
