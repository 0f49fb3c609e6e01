/-
SigmaRules/Yaml/Unquoted.lean

Scalars without quotes.  They end before a comment, before a colon with a
blank after it, where the indentation ends, and in flow collections at
brackets, braces and commas.
-/
import SigmaRules.Yaml.Quoted

namespace SigmaRules.Yaml

/-- What a character of a scalar does. -/
inductive PlainStep
  | goes
  | ends
  | fails
  deriving DecidableEq, Repr

/-- Is the character a bracket, brace or comma? -/
def isFlowMark (c : Char) : Bool :=
  c == ',' || c == '[' || c == ']' || c == '\x7b' || c == '\x7d'

/-- What a character does, with the text after it. -/
def plainStep (d : Dialect) (flow : Bool) (c : Char) (rest : List Char) : PlainStep :=
  if isGap c || isBreak c then .ends
  else if c == ':' && atBlank rest then .ends
  else if !flow then .goes
  else if c == ':' && d.colonEnds && rest.head?.any isFlowMark then .ends
  else if c == ':' && !d.colonEnds && rest.head?.any (fun x => isFlowMark x || x == '?') then .fails
  else if isFlowMark c || (c == '?' && d.questionEnds) then .ends
  else .goes

/-- The characters of a scalar up to its next blank or end. -/
def plainWord (d : Dialect) (flow : Bool) : List Char → Option (List Char)
  | [] => some []
  | c :: rest =>
    match plainStep d flow c rest with
    | .goes => (plainWord d flow rest).map (c :: ·)
    | .ends => some []
    | .fails => none

/-- What stands between two words: blanks, or line breaks with the first of them
apart. -/
structure PlainGap where
  blanks : List Char := []
  breaks : Option (Char × List Char) := none

/-- The text that a gap becomes. -/
def PlainGap.text (g : PlainGap) : List Char :=
  match g.breaks with
  | none => g.blanks
  | some (c, others) => folded c others

/-- Blanks and line breaks from a place on.  Reading stops at a line that begins
or ends a document; a tab in the indentation is malformed or stops it, too.  The
number bounds the steps. -/
def plainGap (d : Dialect) (margin : Nat) : Nat → PlainGap → Place → Option (PlainGap × Place)
  | 0, g, p => some (g, p)
  | n + 1, g, p =>
    if p.atDocument && g.breaks.isSome then some (g, p)
    else
      match p.break?, p.rest with
      | some (c, q), _ =>
        let breaks :=
          match g.breaks with
          | none => (c, [])
          | some (first, others) => (first, others ++ [c])
        plainGap d margin n ⟨[], some breaks⟩ q
      | none, ' ' :: _ =>
        plainGap d margin n (if g.breaks.isSome then g else { g with blanks := g.blanks ++ [' '] })
          (p.skip 1)
      | none, '\t' :: _ =>
        if !d.tabsSeparate then some (g, p)
        else if g.breaks.isNone then
          plainGap d margin n { g with blanks := g.blanks ++ ['\t'] } (p.skip 1)
        else if p.column < margin then none
        else plainGap d margin n g (p.skip 1)
      | none, _ => some (g, p)

/-- A scalar that has been read: its text, the place after it and the blanks after
it, and whether there was a line break among these. -/
structure PlainScalar where
  text : List Char
  place : Place
  ended : Bool

/-- The scalar from a place on, after some text and a gap.  The number bounds the
words. -/
def plainWords (d : Dialect) (flow : Bool) (margin : Nat) :
    Nat → List Char → PlainGap → Place → Option PlainScalar
  | 0, text, g, p => some ⟨text, p, g.breaks.isSome⟩
  | n + 1, text, g, p =>
    if p.atDocument || p.rest.head? == some '#' then some ⟨text, p, g.breaks.isSome⟩
    else
      match plainWord d flow p.rest with
      | none => none
      | some [] => some ⟨text, p, g.breaks.isSome⟩
      | some word =>
        let text := text ++ g.text ++ word
        let p := p.skip word.length
        match plainGap d margin p.rest.length {} p with
        | none => none
        | some (g, q) =>
          if q.index == p.index then some ⟨text, p, false⟩
          else if !flow && q.column < margin then some ⟨text, q, g.breaks.isSome⟩
          else plainWords d flow margin n text g q

/-- The scalar at a place. -/
def plainScalar (d : Dialect) (flow : Bool) (margin : Nat) (p : Place) : Option PlainScalar :=
  plainWords d flow margin p.rest.length [] {} p

/-- Can a scalar without quotes begin here? -/
def startsPlain (flow : Bool) : List Char → Bool
  | [] => false
  | c :: rest =>
    if isGap c || isBreak c then false
    else if c == '-' then !atBlank rest
    else if c == '?' || c == ':' then !flow && !atBlank rest
    else !(isFlowMark c || "#&*!|>\x27\"%@`".toList.contains c)

end SigmaRules.Yaml
