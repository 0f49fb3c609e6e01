/-
SigmaRules/Proofs/Regex/Ways.lean

What backtracking finds.  `Node.ways` lists the states in which an expression
can end, in the order in which the matcher tries them, and running the
expression is to try the rest at each of them until one goes well
(`run_eq_findSome?`).  So nothing about a match depends on the matcher's
continuations.

An expression is found in a text if it can end anywhere when it starts at
some place of the text (`search_iff`).
-/
import SigmaRules.Regex.Matcher

namespace SigmaRules.Regex

/-! ### Ways to match -/

/-- From a state, the states in which a match can end, in the order in which they
are tried. -/
abbrev Ways := State → List State

/-- A matcher tries the rest at these states, one after the other. -/
def Matcher.Tries (m : Matcher) (f : Ways) : Prop := ∀ s k, m s k = (f s).findSome? k

/-- The ways of exactly so many rounds. -/
def exactlyWays (f : Ways) : Nat → Ways
  | 0, s => [s]
  | n + 1, s => (f s).flatMap (exactlyWays f n)

/-- The ways of as many rounds as possible, or fewer. -/
def greedyWays (f : Ways) : Nat → Option Nat → Option Nat → Ways
  | 0, _, _, s => [s]
  | fuel + 1, limit, last, s =>
    if limit == some 0 || last == some s.pos then [s]
    else (f s).flatMap (greedyWays f fuel (limit.map (· - 1)) (some s.pos)) ++ [s]

/-- The ways of as few rounds as possible, or more. -/
def lazyWays (f : Ways) : Nat → Option Nat → Option Nat → Ways
  | 0, _, _, s => [s]
  | fuel + 1, limit, last, s =>
    s :: if limit == some 0 || last == some s.pos then []
      else (f s).flatMap (lazyWays f fuel (limit.map (· - 1)) (some s.pos))

/-- The ways of an expression.  Where its first match is final, or counts only as
found or not, that match is what running it alone gives. -/
def Node.ways : Node → Ways
  | .empty, s => [s]
  | .char t, s =>
    match s.after with
    | [] => []
    | c :: rest => if t.accepts c then [s.advance c rest] else []
  | .anchor a, s => if a.holds s then [s] else []
  | .seq a b, s => (a.ways s).flatMap b.ways
  | .alt a b, s => a.ways s ++ b.ways s
  | .group none b, s => b.ways s
  | .group (some i) b, s => (b.ways (s.openGroup i)).map (·.closeGroup i)
  | .atomic b, s => (b.run s some).toList
  | .ahead negated b, s =>
    match b.run s some with
    | some s' => if negated then [] else [s.withGroups s']
    | none => if negated then [s] else []
  | .behind negated width b, s =>
    match (s.back? width).bind fun s' => b.run s' some with
    | some s' => if negated then [] else [s.withGroups s']
    | none => if negated then [s] else []
  | .backref rule i _, s =>
    match s.groupText? i with
    | some t => if startsWithCopy rule t s.after then [s.skip t.length] else []
    | none => []
  | .conditional i y n, s => if s.hasMatched i then y.ways s else n.ways s
  | .times lo hi greed b, s =>
    let limit := hi.map (· - lo)
    match greed with
    | .greedy =>
      (exactlyWays b.ways lo s).flatMap fun s' =>
        greedyWays b.ways (s'.after.length + 2) limit none s'
    | .lazy =>
      (exactlyWays b.ways lo s).flatMap fun s' =>
        lazyWays b.ways (s'.after.length + 2) limit none s'
    | .possessive =>
      ((exactlyFinal b.run lo s).map fun s' =>
        possessively b.run (s'.after.length + 2) limit s').toList

namespace Node

@[simp] theorem ways_empty (s : State) : empty.ways s = [s] := rfl

@[simp] theorem ways_anchor (a : Anchor) (s : State) :
    (anchor a).ways s = if a.holds s then [s] else [] := rfl

@[simp] theorem ways_seq (a b : Node) (s : State) :
    (seq a b).ways s = (a.ways s).flatMap b.ways := rfl

@[simp] theorem ways_alt (a b : Node) (s : State) : (alt a b).ways s = a.ways s ++ b.ways s := rfl

theorem ways_char (t : CharTest) (s : State) :
    (char t).ways s =
      match s.after with
      | [] => []
      | c :: rest => if t.accepts c then [s.advance c rest] else [] := rfl

theorem ways_greedy (lo : Nat) (hi : Option Nat) (b : Node) (s : State) :
    (times lo hi .greedy b).ways s =
      (exactlyWays b.ways lo s).flatMap fun s' =>
        greedyWays b.ways (s'.after.length + 2) (hi.map (· - lo)) none s' := rfl

end Node

/-! ### Running tries the ways -/

theorem findSome?_flatMap {α β γ : Type} (l : List α) (f : α → List β) (k : β → Option γ) :
    (l.flatMap f).findSome? k = l.findSome? fun x => (f x).findSome? k := by
  induction l with
  | nil => rfl
  | cons x l ih =>
    rw [List.flatMap_cons, List.findSome?_append, ih, List.findSome?_cons]
    rcases (f x).findSome? k with - | r <;> rfl

section Rounds

variable {m : Matcher} {f : Ways}

theorem exactly_tries (h : m.Tries f) (n : Nat) :
    Matcher.Tries (exactly m n) (exactlyWays f n) := by
  intro s k
  induction n generalizing s with
  | zero => simp [exactly, exactlyWays]
  | succ n ih =>
    rw [exactly, exactlyWays, findSome?_flatMap, h]
    exact congrArg (List.findSome? · (f s)) (funext fun s' => ih s')

theorem greedy_tries (h : m.Tries f) (fuel : Nat) (limit last : Option Nat) :
    Matcher.Tries (greedy m fuel limit last) (greedyWays f fuel limit last) := by
  intro s k
  induction fuel generalizing s limit last with
  | zero => simp [greedy, greedyWays]
  | succ fuel ih =>
    rw [greedy, greedyWays]
    split
    · simp
    -- a further round comes before the rest, so its ways come first
    · rw [List.findSome?_append, findSome?_flatMap, h, List.findSome?_singleton]
      simp only [ih]
      rcases (f s).findSome? _ with - | r <;> rfl

theorem lazily_tries (h : m.Tries f) (fuel : Nat) (limit last : Option Nat) :
    Matcher.Tries (lazily m fuel limit last) (lazyWays f fuel limit last) := by
  intro s k
  induction fuel generalizing s limit last with
  | zero => simp [lazily, lazyWays]
  | succ fuel ih =>
    rw [lazily, lazyWays, List.findSome?_cons]
    rcases k s with - | r
    -- the rest fails here, so one more round is tried
    · show (if _ then none else m s _) = List.findSome? k (if _ then [] else _)
      split
      · rfl
      · rw [findSome?_flatMap, h]
        simp only [ih]
    · rfl

end Rounds

/-- **Running is trying the ways**: an expression with a rest to match after it goes
well at the first of its ways after which the rest does. -/
theorem Node.run_tries (n : Node) : n.run.Tries n.ways := by
  induction n with
  | empty => intro s k; simp [run, ways]
  | char t =>
    intro s k
    rcases hs : s.after with - | ⟨c, rest⟩
    · simp [run, ways, hs]
    · by_cases hc : t.accepts c = true <;> simp [run, ways, hs, hc]
  | anchor a => intro s k; rw [run, ways]; split <;> simp
  | seq a b iha ihb =>
    intro s k
    rw [run, ways, findSome?_flatMap, iha]
    exact congrArg (List.findSome? · (a.ways s)) (funext fun s' => ihb s' k)
  | alt a b iha ihb =>
    intro s k
    rw [run, ways, List.findSome?_append, iha, ihb]
    rcases (a.ways s).findSome? k with - | r <;> rfl
  | group i b ih =>
    intro s k
    rcases i with - | i
    · exact ih s k
    · rw [run, ways, List.findSome?_map, ih]
      rfl
  -- what these run on their own ends in one state at most, and that is the only way
  | atomic b => intro s k; rw [run, ways]; rcases b.run s some with - | s' <;> simp
  | ahead negated b =>
    intro s k
    rw [run, ways]
    rcases b.run s some with - | s' <;> rcases negated with - | - <;> simp
  | behind negated width b =>
    intro s k
    rw [run, ways]
    rcases (s.back? width).bind fun s' => b.run s' some with - | s' <;>
      rcases negated with - | - <;> simp
  | backref rule i w =>
    intro s k
    rw [run, ways]
    rcases s.groupText? i with - | t
    · rfl
    · by_cases ht : startsWithCopy rule t s.after = true <;> simp [ht]
  | conditional i y n ihy ihn =>
    intro s k
    rw [run, ways]
    split
    · exact ihy s k
    · exact ihn s k
  | times lo hi greed b ih =>
    intro s k
    rcases greed with - | - | -
    · rw [run, ways, findSome?_flatMap, exactly_tries ih]
      exact congrArg (List.findSome? · _) (funext fun s' => greedy_tries ih _ _ _ s' k)
    · rw [run, ways, findSome?_flatMap, exactly_tries ih]
      exact congrArg (List.findSome? · _) (funext fun s' => lazily_tries ih _ _ _ s' k)
    -- the rounds of a possessive repetition are final
    · rw [run, ways]
      rcases exactlyFinal b.run lo s with - | s' <;> simp

theorem Node.run_eq_findSome? (n : Node) (s : State) (k : State → Option State) :
    n.run s k = (n.ways s).findSome? k := n.run_tries s k

/-- Running an expression alone goes well if there is a way. -/
theorem Node.isSome_run_iff (n : Node) (s : State) :
    (n.run s some).isSome = true ↔ ∃ s', s' ∈ n.ways s := by
  rw [run_eq_findSome?]
  simp

/-! ### Search -/

/-- The state between two parts of a text. -/
def State.between (x y : List Char) : State := { pos := x.length, before := x.reverse, after := y }

theorem Node.matchesFrom_iff (n : Node) (before rest : List Char) (pos : Nat) :
    n.matchesFrom before rest pos = true ↔
      ∃ x y s', rest = x ++ y ∧
        s' ∈ n.ways { pos := pos + x.length, before := x.reverse ++ before, after := y } := by
  induction rest generalizing before pos with
  | nil =>
    rw [matchesFrom, isSome_run_iff]
    constructor
    · rintro ⟨s', hs⟩
      exact ⟨[], [], s', rfl, hs⟩
    · rintro ⟨x, y, s', hxy, hs⟩
      obtain ⟨rfl, rfl⟩ := List.append_eq_nil_iff.mp hxy.symm
      exact ⟨s', hs⟩
  | cons c rest ih =>
    rw [matchesFrom, Bool.or_eq_true, isSome_run_iff, ih]
    constructor
    · rintro (⟨s', hs⟩ | ⟨x, y, s', rfl, hs⟩)
      · exact ⟨[], c :: rest, s', rfl, hs⟩
      · refine ⟨c :: x, y, s', rfl, ?_⟩
        simpa [Nat.add_assoc, Nat.add_comm 1] using hs
    · rintro ⟨x, y, s', hxy, hs⟩
      rcases x with - | ⟨d, x⟩
      · exact .inl ⟨s', by simpa [hxy] using hs⟩
      · obtain ⟨rfl, rfl⟩ := List.cons_eq_cons.mp hxy
        refine .inr ⟨x, y, s', rfl, ?_⟩
        simpa [Nat.add_assoc, Nat.add_comm 1] using hs

/-- **Search looks at every place**: an expression is found in a text if it matches
from some place on. -/
theorem Node.search_iff (n : Node) (v : List Char) :
    n.search v = true ↔ ∃ x y s', v = x ++ y ∧ s' ∈ n.ways (.between x y) := by
  rw [search, matchesFrom_iff]
  simp [State.between]

end SigmaRules.Regex
