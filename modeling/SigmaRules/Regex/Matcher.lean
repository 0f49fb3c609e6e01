/-
SigmaRules/Regex/Matcher.lean

Matching by backtracking.  A matcher takes a state and what has to match
after it, and returns the state at the very end, or nothing.  Trying the
rest within the matcher is what makes it come back for its next way to match
when the rest fails.

A state is a place in a text, which is held as the text before it, read
backwards, and the text after it, together with where groups were opened and
closed last.
-/
import SigmaRules.Regex.CharTest

namespace SigmaRules.Regex

open Text

/-- A place in a text and the groups that have been passed. -/
structure State where
  pos : Nat
  before : List Char
  after : List Char
  /-- Where groups were opened, with the text from there on; latest first. -/
  opened : List (Nat × Nat × List Char) := []
  /-- Where groups were closed, with the text matched; latest first. -/
  closed : List (Nat × Nat × List Char) := []
  deriving Repr

namespace State

/-- The state at the start of a text. -/
def start (s : List Char) : State := { pos := 0, before := [], after := s }

/-- One character further. -/
def advance (s : State) (c : Char) (rest : List Char) : State :=
  { s with pos := s.pos + 1, before := c :: s.before, after := rest }

/-- Some characters further; the text must hold as many. -/
def skip (s : State) (n : Nat) : State :=
  { s with
    pos := s.pos + n
    before := (s.after.take n).reverse ++ s.before
    after := s.after.drop n }

/-- Some characters back, if there are as many. -/
def back? (s : State) (n : Nat) : Option State :=
  if n ≤ s.pos then
    some { s with
      pos := s.pos - n
      before := s.before.drop n
      after := (s.before.take n).reverse ++ s.after }
  else none

/-- A group opens here. -/
def openGroup (s : State) (i : Nat) : State :=
  { s with opened := (i, s.pos, s.after) :: s.opened }

/-- A group closes here. -/
def closeGroup (s : State) (i : Nat) : State :=
  match s.opened.lookup i with
  | some (p, after) => { s with closed := (i, s.pos, after.take (s.pos - p)) :: s.closed }
  | none => s

/-- Has the group matched?  A group that was opened again further on has
not. -/
def hasMatched (s : State) (i : Nat) : Bool :=
  match s.opened.lookup i, s.closed.lookup i with
  | some (p, _), some (q, _) => p ≤ q
  | _, _ => false

/-- The text that the group has matched. -/
def groupText? (s : State) (i : Nat) : Option (List Char) :=
  if s.hasMatched i then (s.closed.lookup i).map (·.2) else none

/-- The groups of another state. -/
def withGroups (s t : State) : State := { s with opened := t.opened, closed := t.closed }

end State

/-! ### Places -/

/-- Does the text start with a character of words? -/
def startsWithWord (ascii : Bool) : List Char → Bool
  | [] => false
  | c :: _ => Category.word.holds ascii c.toNat

/-- Does the place satisfy the anchor?  An empty text has no word edges, and
no places without one either. -/
def Anchor.holds (a : Anchor) (s : State) : Bool :=
  match a with
  | .textStart => s.before.isEmpty
  | .textEnd => s.after.isEmpty
  | .caret multiline => s.before.isEmpty || (multiline && s.before.head? == some '\n')
  | .dollar multiline =>
    s.after.isEmpty || s.after == ['\n'] || (multiline && s.after.head? == some '\n')
  | .wordEdge ascii negated =>
    !(s.before.isEmpty && s.after.isEmpty) &&
      ((startsWithWord ascii s.before != startsWithWord ascii s.after) != negated)

/-- The text starts with a copy of the given one, up to the rule. -/
def startsWithCopy (rule : CaseRule) : List Char → List Char → Bool
  | [], _ => true
  | _ :: _, [] => false
  | c :: copy, d :: text =>
    rule.lower c.toNat == rule.lower d.toNat && startsWithCopy rule copy text

/-! ### Matchers -/

/-- A matcher: from a state, and a way to match the rest, to the end state. -/
abbrev Matcher := State → (State → Option State) → Option State

/-- Exactly so many rounds. -/
def exactly (m : Matcher) : Nat → Matcher
  | 0, s, k => k s
  | n + 1, s, k => m s fun s' => exactly m n s' k

/-- As many rounds as possible first.  A round that starts where the one before
it started is not tried. -/
def greedy (m : Matcher) : Nat → Option Nat → Option Nat → Matcher
  | 0, _, _, s, k => k s
  | fuel + 1, limit, last, s, k =>
    if limit == some 0 || last == some s.pos then k s
    else
      match m s fun s' => greedy m fuel (limit.map (· - 1)) (some s.pos) s' k with
      | some r => some r
      | none => k s

/-- As few rounds as possible first. -/
def lazily (m : Matcher) : Nat → Option Nat → Option Nat → Matcher
  | 0, _, _, s, k => k s
  | fuel + 1, limit, last, s, k =>
    match k s with
    | some r => some r
    | none =>
      if limit == some 0 || last == some s.pos then none
      else m s fun s' => lazily m fuel (limit.map (· - 1)) (some s.pos) s' k

/-- Exactly so many rounds, each of them final. -/
def exactlyFinal (m : Matcher) : Nat → State → Option State
  | 0, s => some s
  | n + 1, s => (m s some).bind (exactlyFinal m n)

/-- As many rounds as possible, each of them final. -/
def possessively (m : Matcher) : Nat → Option Nat → State → State
  | 0, _, s => s
  | fuel + 1, limit, s =>
    if limit == some 0 then s
    else
      match m s some with
      | some s' => if s'.pos == s.pos then s' else possessively m fuel (limit.map (· - 1)) s'
      | none => s

/-- Matching a regular expression.  A place further on in the text bounds the
rounds of a repetition, so its length bounds their number. -/
def Node.run : Node → Matcher
  | .empty, s, k => k s
  | .char t, s, k =>
    match s.after with
    | [] => none
    | c :: rest => if t.accepts c then k (s.advance c rest) else none
  | .anchor a, s, k => if a.holds s then k s else none
  | .seq a b, s, k => a.run s fun s' => b.run s' k
  | .alt a b, s, k =>
    match a.run s k with
    | some r => some r
    | none => b.run s k
  | .group none b, s, k => b.run s k
  | .group (some i) b, s, k => b.run (s.openGroup i) fun s' => k (s'.closeGroup i)
  | .atomic b, s, k => (b.run s some).bind k
  | .ahead negated b, s, k =>
    match b.run s some with
    | some s' => if negated then none else k (s.withGroups s')
    | none => if negated then k s else none
  | .behind negated width b, s, k =>
    match (s.back? width).bind fun s' => b.run s' some with
    | some s' => if negated then none else k (s.withGroups s')
    | none => if negated then k s else none
  | .backref rule i _, s, k =>
    match s.groupText? i with
    | some t => if startsWithCopy rule t s.after then k (s.skip t.length) else none
    | none => none
  | .conditional i y n, s, k => if s.hasMatched i then y.run s k else n.run s k
  | .times lo hi greed b, s, k =>
    let limit := hi.map (· - lo)
    match greed with
    | .greedy => exactly b.run lo s fun s' => greedy b.run (s'.after.length + 2) limit none s' k
    | .lazy => exactly b.run lo s fun s' => lazily b.run (s'.after.length + 2) limit none s' k
    | .possessive =>
      (exactlyFinal b.run lo s).bind fun s' =>
        k (possessively b.run (s'.after.length + 2) limit s')

/-- Does the expression match somewhere from this state on? -/
def Node.matchesFrom (n : Node) : List Char → List Char → Nat → Bool
  | before, [], pos => (n.run { pos, before, after := [] } some).isSome
  | before, c :: rest, pos =>
    (n.run { pos, before, after := c :: rest } some).isSome ||
      n.matchesFrom (c :: before) rest (pos + 1)

/-- Does the expression match somewhere in the text?  An engine that does not set back
the ends of a group when an attempt within a possessive repetition fails can end up
with a group that ends before it starts, and stop; here, such a group has no text. -/
def Node.search (n : Node) (s : List Char) : Bool := n.matchesFrom [] s 0

/-- Does the expression match the whole text? -/
def Node.matchesAll (n : Node) (s : List Char) : Bool :=
  (n.run (.start s) fun s' => if s'.after.isEmpty then some s' else none).isSome

end SigmaRules.Regex
