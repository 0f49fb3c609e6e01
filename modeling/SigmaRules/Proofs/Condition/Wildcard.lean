/-
SigmaRules/Proofs/Condition/Wildcard.lean

Which names a pattern of identifiers selects.  Between its stars a pattern has
pieces; the names that it selects have these pieces in order, with a run of
characters other than line feeds for each star (`Fills`).

The language of a pattern has one factor for each of its characters
(`selection`).  So whatever goes through a pattern from left to right is compared
with it one character at a time: filling in (`fills_iff_mem`), the search for a way to
divide a name (`selects_iff_mem`), and the regular expression in which the pieces
stand for themselves, with `.*` for the stars (`adds_wildcardExpression`).  Main
statement: `selects_iff_fills`.
-/
import SigmaRules.Condition.Parser
import SigmaRules.Proofs.Pattern.Glob
import SigmaRules.Proofs.Search.Expression

namespace SigmaRules.Condition

open Regex

variable {c : Char} {p name : List Char}

/-- The name has the pieces of the pattern between its stars, in order, and for each star a run
of characters other than line feeds. -/
def Fills (pattern name : List Char) : Prop :=
  ∃ first rest runs, Text.splitAt (· == '*') pattern = first :: rest ∧
    runs.length = rest.length ∧ (∀ run ∈ runs, '\n' ∉ run) ∧
    name = first ++ (List.zipWith (· ++ ·) runs rest).flatten

/-! ### The language of a pattern -/

/-- The texts that a character of a pattern stands for: a star for runs of characters but the
line feed, any other character for itself. -/
def wildcardLanguage (c : Char) : Language Char :=
  if c = '*' then runsOf (· ≠ '\n') else oneChar (· = c)

/-- The names that have a text for each character of a pattern, in order. -/
def selection (pattern : List Char) : Language Char := (pattern.map wildcardLanguage).prod

theorem mem_selection_nil : name ∈ selection [] ↔ name = [] := Language.mem_one name

theorem mem_selection_cons : name ∈ selection (c :: p) ↔
    ∃ x ∈ wildcardLanguage c, ∃ y ∈ selection p, x ++ y = name := by
  rw [selection, List.map_cons, List.prod_cons, Language.mem_mul]
  rfl

theorem mem_selection_star : name ∈ selection ('*' :: p) ↔
    ∃ run rest, '\n' ∉ run ∧ rest ∈ selection p ∧ name = run ++ rest := by
  have hrun : ∀ run, run ∈ wildcardLanguage '*' ↔ '\n' ∉ run := by
    intro run
    rw [wildcardLanguage, if_pos rfl, mem_runsOf]
    exact ⟨fun h hmem => h _ hmem rfl, fun h c hc heq => h (heq ▸ hc)⟩
  simp only [mem_selection_cons, hrun, eq_comm (a := name), exists_and_left]

theorem mem_selection_other (hc : c ≠ '*') : name ∈ selection (c :: p) ↔
    ∃ rest ∈ selection p, name = c :: rest := by
  have hone : ∀ x, x ∈ wildcardLanguage c ↔ x = [c] := by
    intro x
    rw [wildcardLanguage, if_neg hc, mem_oneChar]
    simp
  simp [mem_selection_cons, hone, eq_comm]

/-! ### Pieces of a pattern -/

theorem fills_nil : Fills [] name ↔ name = [] := by
  constructor
  · rintro ⟨first, rest, runs, hsplit, -, -, rfl⟩
    obtain ⟨rfl, rfl⟩ := List.cons.inj hsplit
    simp
  · rintro rfl
    exact ⟨[], [], [], rfl, rfl, List.forall_mem_nil _, rfl⟩

/-- A star divides off a piece that is empty, and is filled in by the first run. -/
theorem fills_star : Fills ('*' :: p) name ↔
    ∃ run rest, '\n' ∉ run ∧ Fills p rest ∧ name = run ++ rest := by
  have hstar : Text.splitAt (· == '*') ('*' :: p) = [] :: Text.splitAt (· == '*') p := rfl
  constructor
  · rintro ⟨first, pieces, runs, hsplit, hlength, hruns, rfl⟩
    obtain ⟨rfl, rfl⟩ := List.cons.inj (hstar.symm.trans hsplit)
    rcases hp : Text.splitAt (· == '*') p with - | ⟨second, pieces⟩
    · exact absurd hp (Text.splitAt_ne_nil _ p)
    -- the empty piece takes up nothing, so the name starts with the first run
    rcases runs with - | ⟨run, runs⟩
    · simp [hp] at hlength
    obtain ⟨hrun, hruns⟩ := List.forall_mem_cons.mp hruns
    refine ⟨run, _, hrun, ⟨second, pieces, runs, hp, ?_, hruns, rfl⟩, ?_⟩
    · simpa [hp] using hlength
    · simp
  · rintro ⟨run, -, hrun, ⟨first, pieces, runs, hsplit, hlength, hruns, rfl⟩, rfl⟩
    refine ⟨[], first :: pieces, run :: runs, by rw [hstar, hsplit], by simp [hlength],
      List.forall_mem_cons.mpr ⟨hrun, hruns⟩, by simp⟩

/-- Any other character is the first one of a piece. -/
theorem fills_other (hc : c ≠ '*') :
    Fills (c :: p) name ↔ ∃ rest, Fills p rest ∧ name = c :: rest := by
  have hother : ∀ first pieces, Text.splitAt (· == '*') p = first :: pieces →
      Text.splitAt (· == '*') (c :: p) = (c :: first) :: pieces := by
    intro first pieces hp
    simp [Text.splitAt, hc, hp]
  constructor
  · rintro ⟨first, pieces, runs, hsplit, hlength, hruns, rfl⟩
    rcases hp : Text.splitAt (· == '*') p with - | ⟨second, others⟩
    · exact absurd hp (Text.splitAt_ne_nil _ p)
    obtain ⟨rfl, rfl⟩ := List.cons.inj ((hother second others hp).symm.trans hsplit)
    exact ⟨_, ⟨second, others, runs, hp, hlength, hruns, rfl⟩, rfl⟩
  · rintro ⟨-, ⟨first, pieces, runs, hsplit, hlength, hruns, rfl⟩, rfl⟩
    exact ⟨c :: first, pieces, runs, hother first pieces hsplit, hlength, hruns, rfl⟩

/-- A name fills in a pattern if it is of the language. -/
theorem fills_iff_mem : Fills p name ↔ name ∈ selection p := by
  induction p generalizing name with
  | nil => rw [fills_nil, mem_selection_nil]
  | cons c p ih =>
    by_cases hc : c = '*'
    · subst hc
      simp only [fills_star, mem_selection_star, ih]
    · simp only [fills_other hc, mem_selection_other hc, ih]

/-! ### The search for a way to divide a name -/

/-- After any run of characters there is what is left of the name. -/
theorem mem_afterRuns {rest : List Char} :
    rest ∈ afterRuns name ↔ ∃ run, '\n' ∉ run ∧ name = run ++ rest := by
  induction name with
  | nil => simp [afterRuns, eq_comm]
  | cons c name ih =>
    -- the run is empty, or it starts with a character that is no line feed
    have hempty : rest = c :: name ↔ '\n' ∉ ([] : List Char) ∧ c :: name = [] ++ rest := by
      simp [eq_comm]
    have hmore : rest ∈ (if c == '\n' then [] else afterRuns name) ↔
        ∃ run, '\n' ∉ c :: run ∧ name = run ++ rest := by
      by_cases hc : c = '\n'
      · simp [hc]
      · simp [hc, ih, Ne.symm hc]
    rw [afterRuns, List.mem_cons, hempty, hmore]
    constructor
    · rintro (h | ⟨run, hrun, rfl⟩)
      · exact ⟨[], h⟩
      · exact ⟨c :: run, hrun, rfl⟩
    · rintro ⟨run, hrun, h⟩
      rcases run with - | ⟨d, run⟩
      · exact .inl ⟨hrun, h⟩
      · obtain ⟨rfl, rfl⟩ := List.cons_eq_cons.mp h
        exact .inr ⟨run, hrun, rfl⟩

theorem selects_star : selects ('*' :: p) name = (afterRuns name).any (selects p) := by
  cases name <;> rfl

theorem selects_other (hc : c ≠ '*') :
    selects (c :: p) name = true ↔ ∃ rest, selects p rest = true ∧ name = c :: rest := by
  rcases name with - | ⟨d, name⟩
  · simp [selects, hc]
  · rw [selects, if_neg (by simpa using hc), Bool.and_eq_true, beq_iff_eq]
    constructor
    · rintro ⟨rfl, h⟩
      exact ⟨name, h, rfl⟩
    · rintro ⟨rest, h, heq⟩
      obtain ⟨rfl, rfl⟩ := List.cons_eq_cons.mp heq
      exact ⟨rfl, h⟩

/-- A pattern selects the names of its language. -/
theorem selects_iff_mem : selects p name = true ↔ name ∈ selection p := by
  induction p generalizing name with
  | nil => rw [selects, mem_selection_nil, List.isEmpty_iff]
  | cons c p ih =>
    by_cases hc : c = '*'
    · subst hc
      rw [selects_star, List.any_eq_true, mem_selection_star]
      simp only [mem_afterRuns, ih]
      constructor
      · rintro ⟨rest, ⟨run, hrun, rfl⟩, hrest⟩
        exact ⟨run, rest, hrun, hrest, rfl⟩
      · rintro ⟨run, rest, hrun, hrest, rfl⟩
        exact ⟨rest, ⟨run, hrun, rfl⟩, hrest⟩
    · simp only [selects_other hc, mem_selection_other hc, ih]

/-! ### The regular expression of a pattern -/

/-- The pieces of a pattern as they stand, with an expression for runs of characters between
them. -/
def wildcardExpression (pattern : List Char) : List Char :=
  ['.', '*'].intercalate ((Text.splitAt (· == '*') pattern).map Pattern.escape)

/-- A character of a pattern as an expression. -/
def wildcardChar (c : Char) : List Char := if c = '*' then ['.', '*'] else Pattern.escapeChar c

/-- A character of a pattern as a node. -/
def wildcardNode (c : Char) : Node :=
  if c = '*' then .times 0 none .greedy (.char .notNewline) else .char (.literal .exact c.toNat)

/-- The expression of a pattern is written character by character. -/
theorem wildcardExpression_eq_flatMap (p : List Char) :
    wildcardExpression p = p.flatMap wildcardChar := by
  induction p with
  | nil => rfl
  | cons c p ih =>
    rcases hp : Text.splitAt (· == '*') p with - | ⟨first, pieces⟩
    · exact absurd hp (Text.splitAt_ne_nil _ p)
    rw [List.flatMap_cons, ← ih, wildcardExpression, wildcardExpression, wildcardChar, hp]
    -- after a star a piece begins, and any other character goes to the first one there is
    by_cases hc : c = '*'
    · simp [Text.splitAt, hc, hp, Pattern.escape]
    · rcases pieces with - | ⟨second, pieces⟩ <;>
        simp [Text.splitAt, hc, hp, Pattern.escape]

theorem adds_wildcardExpression (p : List Char) :
    Adds {} (wildcardExpression p) (p.map wildcardNode) := by
  rw [wildcardExpression_eq_flatMap]
  refine .flatMap fun c _ => ?_
  rw [wildcardChar, wildcardNode]
  split
  · exact .dotStar rfl rfl
  · exact .escapeChar rfl c

theorem spells_wildcardNode (c : Char) : (wildcardNode c).Spells (wildcardLanguage c) := by
  rw [wildcardNode, wildcardLanguage]
  split
  · have hrun : oneChar (CharTest.notNewline.accepts · = true) = oneChar (· ≠ '\n') := by
      simp only [Pattern.accepts_notNewline]
    rw [← kstar_oneChar, ← hrun]
    exact (Node.Spells.char .notNewline).star
  · have hself : oneChar ((CharTest.literal .exact c.toNat).accepts · = true) = oneChar (· = c) := by
      simp [CharTest.accepts, CaseRule.same, CaseRule.isCased, Char.toNat_inj]
    rw [← hself]
    exact .char (.literal .exact c.toNat)

theorem parse_wildcardExpression (p : List Char) :
    Regex.parse {} (wildcardExpression p) = .ok (Node.ofList (p.map wildcardNode)) := by
  refine (adds_wildcardExpression p).parse_eq (List.forall_mem_map.mpr fun c _ => ?_)
  rw [wildcardNode]
  split <;> rfl

/-- **Patterns select the names that fill in their stars.**  So do their regular expressions,
which are read for every pattern and have to match the whole of a name. -/
theorem selects_iff_fills (pattern : List Char) :
    (∀ name, selects pattern name = true ↔ Fills pattern name) ∧
      ∃ n, Regex.parse {} (wildcardExpression pattern) = .ok n ∧
        ∀ name, n.matchesAll name = true ↔ Fills pattern name := by
  have hspells : (Node.ofList (pattern.map wildcardNode)).Spells (selection pattern) :=
    Node.Spells.ofList_map spells_wildcardNode pattern
  refine ⟨fun name => selects_iff_mem.trans fills_iff_mem.symm, _,
    parse_wildcardExpression pattern, fun name => ?_⟩
  exact (hspells.matchesAll_iff name).trans fills_iff_mem.symm

end SigmaRules.Condition
