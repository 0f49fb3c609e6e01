/-
SigmaRules/Regex/Syntax.lean

Regular expressions as trees.  Flags such as "ignore case" are not kept in
the tree: each leaf that depends on them carries what it needs, so a tree
means the same wherever it stands.

Code points are natural numbers here, because an expression may name a code
point that no text can hold.
-/
import SigmaRules.Text.LetterCase

namespace SigmaRules.Regex

open Text

/-- The switches that an expression can set for itself or for a group. -/
structure Flags where
  ignoreCase : Bool := false
  multiline : Bool := false
  dotAll : Bool := false
  ascii : Bool := false
  verbose : Bool := false
  deriving DecidableEq, Repr

/-- How two letters are compared: as they are, up to ASCII letter case, or up
to letter case. -/
inductive CaseRule
  | exact
  | asciiFold
  | fold
  deriving DecidableEq, Repr

/-- The rule for letters under the flags. -/
def Flags.caseRule (f : Flags) : CaseRule :=
  if f.ignoreCase then if f.ascii then .asciiFold else .fold else .exact

/-- The named classes of characters. -/
inductive Category
  | digit
  | space
  | word
  deriving DecidableEq, Repr

/-- A member of a bracketed set. -/
inductive SetItem
  | single (c : Nat)
  | range (lo hi : Nat)
  | category (k : Category) (ascii negated : Bool)
  deriving DecidableEq, Repr

/-- What one character must satisfy. -/
inductive CharTest
  /-- The character, up to the case rule. -/
  | literal (rule : CaseRule) (c : Nat)
  /-- Any character but this one, up to the case rule. -/
  | notLiteral (rule : CaseRule) (c : Nat)
  /-- Any character. -/
  | any
  /-- Any character but the line feed. -/
  | notNewline
  /-- A character that some item holds, or that none does. -/
  | set (rule : CaseRule) (negated : Bool) (items : List SetItem)
  deriving DecidableEq, Repr

/-- What a place in the text must satisfy. -/
inductive Anchor
  /-- The start of the text. -/
  | textStart
  /-- The end of the text. -/
  | textEnd
  /-- The start of the text or, if `multiline`, of a line. -/
  | caret (multiline : Bool)
  /-- The end of the text, or the place before its last line feed, or, if
  `multiline`, the end of a line. -/
  | dollar (multiline : Bool)
  /-- A place with a word character on exactly one side; with `negated`, one
  with a word character on both sides or on neither. -/
  | wordEdge (ascii negated : Bool)
  deriving DecidableEq, Repr

/-- Least and greatest length of what an expression can match. -/
structure Width where
  lo : Nat
  hi : Nat
  deriving DecidableEq, Repr

/-- Lengths are counted up to this bound. -/
def maxWidth : Nat := Nat.pow 2 64

/-- Counts are below this bound. -/
def maxRepeat : Nat := Nat.pow 2 32 - 1

/-- What a repetition does when the rest of the expression fails: try with one
round less, with one round more, or give up. -/
inductive Greed
  | greedy
  | lazy
  | possessive
  deriving DecidableEq, Repr

/-- A regular expression. -/
inductive Node
  | empty
  | char (t : CharTest)
  | anchor (a : Anchor)
  | seq (first rest : Node)
  | alt (first rest : Node)
  /-- A group; with an index, the text that it matches is kept. -/
  | group (index : Option Nat) (body : Node)
  /-- The first way in which the body matches is final. -/
  | atomic (body : Node)
  /-- The text from here on matches the body, or does not. -/
  | ahead (negated : Bool) (body : Node)
  /-- The text from `width` characters back matches the body, or does not. -/
  | behind (negated : Bool) (width : Nat) (body : Node)
  /-- The text that a group matched; `width` is what that group can match. -/
  | backref (rule : CaseRule) (index : Nat) (width : Width)
  /-- One expression if the group has matched, another if it has not. -/
  | conditional (index : Nat) (yes no : Node)
  /-- At least `lo` rounds and, if there is a bound, at most `hi`. -/
  | times (lo : Nat) (hi : Option Nat) (greed : Greed) (body : Node)
  deriving DecidableEq, Repr

namespace Node

/-- One after the other. -/
def ofList (ns : List Node) : Node := ns.foldr .seq .empty

/-- Any of these. -/
def oneOf : List Node → Node
  | [] => .empty
  | [n] => n
  | n :: m :: rest => .alt n (oneOf (m :: rest))

/-- Does the node look at one place only, with nothing below it? -/
def isLeaf : Node → Bool
  | .char _ | .anchor _ | .backref .. => true
  | _ => false

/-- Does the node test a place without taking a character? -/
def isAnchor : Node → Bool
  | .anchor _ => true
  | _ => false

/-- Is the node a repetition? -/
def isTimes : Node → Bool
  | .times .. => true
  | _ => false

/-- Is there a repetition in the tree? -/
def hasTimes : Node → Bool
  | .empty | .char _ | .anchor _ | .backref .. => false
  | .seq a b | .alt a b | .conditional _ a b => a.hasTimes || b.hasTimes
  | .group _ b | .atomic b | .ahead _ b | .behind _ _ b => b.hasTimes
  | .times .. => true

end Node

/-! ### Widths -/

/-- A width with both ends cut at the bound. -/
def Width.cut (lo hi : Nat) : Width := ⟨min lo maxWidth, min hi maxWidth⟩

/-- The widths of what the expression can match. -/
def Node.width : Node → Width
  | .empty | .anchor _ | .ahead .. | .behind .. => ⟨0, 0⟩
  | .char _ => ⟨1, 1⟩
  | .seq a b => .cut (a.width.lo + b.width.lo) (a.width.hi + b.width.hi)
  | .alt a b => ⟨min a.width.lo b.width.lo, max a.width.hi b.width.hi⟩
  | .group _ b | .atomic b => b.width
  | .backref _ _ w => w
  | .conditional _ y n => ⟨min y.width.lo n.width.lo, max y.width.hi n.width.hi⟩
  | .times lo hi _ b =>
    let top := match hi with
      | some h => b.width.hi * h
      | none => if b.width.hi == 0 then 0 else maxWidth
    .cut (b.width.lo * lo) top

/-- Every look-behind has a body of one length, which its node states. -/
def Node.lookBehindsFixed : Node → Bool
  | .empty | .char _ | .anchor _ | .backref .. => true
  | .seq a b | .alt a b | .conditional _ a b => a.lookBehindsFixed && b.lookBehindsFixed
  | .group _ b | .atomic b | .ahead _ b | .times _ _ _ b => b.lookBehindsFixed
  | .behind _ w b =>
    b.width.lo == w && b.width.hi == w && decide (w < Nat.pow 2 32) && b.lookBehindsFixed

end SigmaRules.Regex
