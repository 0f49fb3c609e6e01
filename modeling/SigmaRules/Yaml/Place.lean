/-
SigmaRules/Yaml/Place.lean

Places in the text of a document, and the line breaks that it can hold.
-/

namespace SigmaRules.Yaml

/-- Does the character end a line? -/
def isBreak (c : Char) : Bool :=
  c == '\n' || c == '\r' || c == '\u0085' || c == '\u2028' || c == '\u2029'

/-- Is the character a space or a tab? -/
def isGap (c : Char) : Bool := c == ' ' || c == '\t'

/-- Is there a blank, a line break or the end of the text? -/
def atBlank : List Char → Bool
  | [] => true
  | c :: _ => isGap c || isBreak c

/-- The line break at the start of a text: what it counts as, how many characters
it takes, and the text after it. -/
def lineBreak? : List Char → Option (Char × Nat × List Char)
  | '\r' :: '\n' :: rest => some ('\n', 2, rest)
  | c :: rest =>
    if c == '\u2028' || c == '\u2029' then some (c, 1, rest)
    else if isBreak c then some ('\n', 1, rest)
    else none
  | [] => none

/-- A line of a text: its characters, the line break after it if there is one, and
how many characters the break takes. -/
structure Line where
  text : List Char
  ending : Option Char
  length : Nat

/-- The lines of a text.  Only the last line is without a break. -/
def lines : List Char → List Line
  | [] => [⟨[], none, 0⟩]
  | '\r' :: '\n' :: rest => ⟨[], some '\n', 2⟩ :: lines rest
  | c :: rest =>
    if isBreak c then
      ⟨[], some (if c == '\u2028' || c == '\u2029' then c else '\n'), 1⟩ :: lines rest
    else
      match lines rest with
      | [] => [⟨[c], none, 0⟩]
      | l :: ls => { l with text := c :: l.text } :: ls

/-- The number of characters of lines, with their breaks. -/
def lengthOf (ls : List Line) : Nat := ls.foldr (fun l n => l.text.length + l.length + n) 0

/-- Do three marks of a document's start or end open a line? -/
def opensDocument : List Char → Bool
  | '-' :: '-' :: '-' :: rest | '.' :: '.' :: '.' :: rest => atBlank rest
  | _ => false

/-- A place in a text: what follows, the characters, lines and columns before it. -/
structure Place where
  rest : List Char
  index : Nat := 0
  line : Nat := 0
  column : Nat := 0

namespace Place

/-- The place after characters of the same line. -/
def skip (p : Place) (n : Nat) : Place :=
  { p with rest := p.rest.drop n, index := p.index + n, column := p.column + n }

/-- The place after the characters of the same line that satisfy a condition, and
these characters. -/
def takeWhile (p : Place) (f : Char → Bool) : List Char × Place :=
  let cs := p.rest.takeWhile f
  (cs, p.skip cs.length)

/-- The place after a line break, with what the break counts as. -/
def break? (p : Place) : Option (Char × Place) :=
  (lineBreak? p.rest).map fun (c, n, rest) => (c, ⟨rest, p.index + n, p.line + 1, 0⟩)

/-- Does a mark of a document's start or end stand here? -/
def atDocument (p : Place) : Bool := p.column == 0 && opensDocument p.rest

end Place

end SigmaRules.Yaml
