/-
SigmaRules/Yaml/Block.lean

Block scalars: indented lines after a bar, which keeps line breaks, or after
an angle, which folds them.
-/
import SigmaRules.Yaml.Dialect
import SigmaRules.Yaml.Place

namespace SigmaRules.Yaml

/-- What becomes of the line breaks at the end of a block scalar. -/
inductive Chomping
  | strip
  | clip
  | keep
  deriving DecidableEq, Repr

/-- The indicators after the bar or angle. -/
structure BlockHeader where
  chomping : Chomping := .clip
  /-- How much deeper than its surroundings the scalar is indented. -/
  increment : Option Nat := none

/-- The way of chomping that a character indicates. -/
def chomping? (c : Char) : Option Chomping :=
  if c == '+' then some .keep else if c == '-' then some .strip else none

/-- An indentation indicator, and the text after it.  Zero is malformed. -/
def increment? : List Char → Option (Option Nat × List Char)
  | c :: rest =>
    if c == '0' then none
    else if c.isDigit then some (some (c.toNat - 48), rest)
    else some (none, c :: rest)
  | [] => some (none, [])

/-- A chomping indicator, and the text after it. -/
def chompingIndicator : List Char → Option Chomping × List Char
  | c :: rest =>
    match chomping? c with
    | some k => (some k, rest)
    | none => (none, c :: rest)
  | [] => (none, [])

/-- The indicators at the start of a text, in either order, and the text after
them. -/
def blockHeader? (s : List Char) : Option (BlockHeader × List Char) :=
  match chompingIndicator s with
  | (some k, rest) => do
    let (n, rest) ← increment? rest
    return (⟨k, n⟩, rest)
  | (none, rest) => do
    let (n, rest) ← increment? rest
    match n with
    | none => return ({}, rest)
    | some _ =>
      let (k, rest) := chompingIndicator rest
      return (⟨k.getD .clip, n⟩, rest)

/-- Is there nothing but blanks and a comment in the rest of the line? -/
def onlyComment (d : Dialect) (s : List Char) : Bool :=
  match s.dropWhile d.separates with
  | [] => true
  | c :: _ => c == '#'

/-- Can the rest of the line follow the indicators? -/
def headerEnds (d : Dialect) (s : List Char) : Bool :=
  (d.commentsTouch || s.head?.all d.separates) && onlyComment d s

/-- How many spaces open a line. -/
def Line.spaces (l : Line) : Nat := (l.text.takeWhile (· == ' ')).length

/-- The deepest indentation among the empty lines that open a text and the line
after them, unless a tab stands there that does not belong. -/
def deepest (d : Dialect) (n : Nat) : List Line → Option Nat
  | [] => some n
  | l :: ls =>
    let n := max n l.spaces
    match l.text.drop l.spaces with
    | [] => if l.ending.isSome then deepest d n ls else some n
    | c :: _ => if d.tabsSeparate && c == '\t' then none else some n

/-- The lines of a block scalar that have been read: the text up to the last line,
the break after that line, the breaks of empty lines after it, and whether the
line begins with a blank. -/
structure BlockText where
  text : List Char := []
  ending : List Char := []
  empties : List Char := []
  blank : Bool := false

/-- The text with one more line. -/
def BlockText.add (fold : Bool) (b : BlockText) (l : Line) (content : List Char) : BlockText :=
  let blank := content.head?.any isGap
  let joint :=
    if fold && b.ending == ['\n'] && !b.blank && !blank then
      if b.empties.isEmpty then [' '] else []
    else b.ending
  { text := b.text ++ joint ++ b.empties ++ content
    ending := l.ending.toList
    empties := []
    blank := blank }

/-- The text that is left after chomping. -/
def BlockText.chomped (k : Chomping) (b : BlockText) : List Char :=
  match k with
  | .strip => b.text
  | .clip => b.text ++ b.ending
  | .keep => b.text ++ b.ending ++ b.empties

/-- Reads lines up to the first that is indented less, and gives the lines that
are left. -/
def blockLines (fold : Bool) (indent : Nat) (b : BlockText) : List Line → BlockText × List Line
  | [] => (b, [])
  | l :: ls =>
    let content := l.text.drop indent
    if l.spaces < indent && l.spaces < l.text.length then (b, l :: ls)
    else if content.isEmpty then
      match l.ending with
      | some c => blockLines fold indent { b with empties := b.empties ++ [c] } ls
      | none => (b, [])
    else blockLines fold indent (b.add fold l content) ls

/-- The block scalar at a place, with the place after it.  `margin` is the least
indentation that it can have. -/
def blockScalar (d : Dialect) (margin : Nat) (p : Place) : Option (String × Place) :=
  match p.rest with
  | [] => none
  | c :: rest =>
    match lines rest with
    | [] => none
    | first :: body => do
      let (header, after) ← blockHeader? first.text
      if !headerEnds d after then none
      else
        let least := max margin 1
        let indent ←
          match header.increment with
          | some n => some (least + n - 1)
          | none => (deepest d 0 body).map (max least)
        let (b, left) := blockLines (c == '>') indent {} body
        let used := 1 + lengthOf (first :: body) - lengthOf left
        let rest := p.rest.drop used
        return (String.ofList (b.chomped header.chomping),
          ⟨rest, p.index + used, p.line + (body.length + 1 - left.length), 0⟩)

end SigmaRules.Yaml
