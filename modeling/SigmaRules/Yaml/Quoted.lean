/-
SigmaRules/Yaml/Quoted.lean

Scalars between quotes.  They may take several lines, which are folded: blanks
around a line break do not count, a single break becomes a space, and of more
breaks in a row the first is left out.
-/
import SigmaRules.Text.Digits
import SigmaRules.Yaml.Dialect
import SigmaRules.Yaml.Place

namespace SigmaRules.Yaml

open Text

/-- A quoted line is made of characters that count and of blanks that may not. -/
inductive Piece
  | content (c : Char)
  | gap (c : Char)

namespace Piece

/-- The character. -/
def char : Piece → Char
  | content c | gap c => c

/-- Is it a blank? -/
def isGap : Piece → Bool
  | content _ => false
  | gap _ => true

/-- The piece of a character that stands for itself. -/
def ofChar (c : Char) : Piece := if Yaml.isGap c then gap c else content c

end Piece

/-- The text up to the quote that closes a scalar, with the text after it. -/
def singleExtent : List Char → Option (List Char × List Char)
  | '\'' :: '\'' :: rest => (singleExtent rest).map fun (s, rest) => ('\'' :: '\'' :: s, rest)
  | '\'' :: rest => some ([], rest)
  | c :: rest => (singleExtent rest).map fun (s, rest) => (c :: s, rest)
  | [] => none

/-- The text up to the double quote that closes a scalar, with the text after it. -/
def doubleExtent : List Char → Option (List Char × List Char)
  | '\\' :: '\r' :: '\n' :: rest =>
    (doubleExtent rest).map fun (s, rest) => ('\\' :: '\r' :: '\n' :: s, rest)
  | '\\' :: c :: rest => (doubleExtent rest).map fun (s, rest) => ('\\' :: c :: s, rest)
  | '"' :: rest => some ([], rest)
  | c :: rest => (doubleExtent rest).map fun (s, rest) => (c :: s, rest)
  | [] => none

/-- The characters that single letters stand for after a backslash. -/
def escapes : List (Char × Char) :=
  [('0', '\x00'), ('a', '\x07'), ('b', '\x08'), ('t', '\t'), ('\t', '\t'), ('n', '\n'),
    ('v', '\x0b'), ('f', '\x0c'), ('r', '\r'), ('e', '\x1b'), (' ', ' '), ('"', '"'), ('/', '/'),
    ('\\', '\\'), ('N', '\u0085'), ('_', '\u00a0'), ('L', '\u2028'), ('P', '\u2029')]

/-- How many hexadecimal digits follow a letter after a backslash. -/
def escapeLength? (c : Char) : Option Nat :=
  if c == 'x' then some 2 else if c == 'u' then some 4 else if c == 'U' then some 8 else none

/-- The character of a code, if there is one. -/
def charOf? (n : Nat) : Option Char := if n.isValidChar then some (Char.ofNat n) else none

/-- The pieces of a line of a scalar in double quotes, from within an escape on of
which so many digits are missing.  The second part tells whether the line break
after the line is escaped. -/
def doublePieces (missing code : Nat) : List Char → Option (List Piece × Bool)
  | [] => if missing == 0 then some ([], false) else none
  | c :: rest =>
    match missing with
    | n + 1 => do
      let d ← hexDigit? c
      let code := 16 * code + d
      if n == 0 then
        let x ← charOf? code
        let (ps, b) ← doublePieces 0 0 rest
        return (.content x :: ps, b)
      else doublePieces n code rest
    | 0 =>
      if c == '\\' then
        match rest with
        | [] => some ([], true)
        | e :: rest =>
          match escapes.lookup e, escapeLength? e with
          | some x, _ => (doublePieces 0 0 rest).map fun (ps, b) => (.content x :: ps, b)
          | none, some n => doublePieces n 0 rest
          | none, none => none
      else (doublePieces 0 0 rest).map fun (ps, b) => (.ofChar c :: ps, b)

/-- The pieces of a line of a scalar in single quotes. -/
def singlePieces : List Char → List Piece
  | '\'' :: '\'' :: rest => .content '\'' :: singlePieces rest
  | c :: rest => .ofChar c :: singlePieces rest
  | [] => []

/-- A line of a quoted scalar: its pieces, whether the break after it is escaped,
and what the break counts as. -/
structure QuotedLine where
  pieces : List Piece
  escaped : Bool
  ending : Option Char

/-- What line breaks in a row become. -/
def folded (first : Char) (others : List Char) : List Char :=
  if first == '\n' then if others.isEmpty then [' '] else others else first :: others

/-- Pieces without the blanks at their end. -/
def trimEnd (ps : List Piece) : List Piece := (ps.reverse.dropWhile Piece.isGap).reverse

/-- The text of lines, before which there were line breaks. `pending` are these
breaks, the last of them first; the first one may be missing, if it is escaped. -/
def joinLines (pending : Option (Option Char × List Char)) : List QuotedLine → List Char
  | [] => []
  | l :: ls =>
    let ps := if pending.isSome then l.pieces.dropWhile Piece.isGap else l.pieces
    let before : List Char :=
      match pending with
      | none => []
      | some (none, others) => others.reverse
      | some (some c, others) => folded c others.reverse
    match l.ending with
    | none => before ++ ps.map Piece.char
    | some c =>
      if l.escaped then before ++ ps.map Piece.char ++ joinLines (some (none, [])) ls
      else
        match pending, trimEnd ps with
        | some (first, others), [] => joinLines (some (first, c :: others)) ls
        | _, ps => before ++ ps.map Piece.char ++ joinLines (some (some c, [])) ls

/-- Does a line other than the first begin a document?  The last line is followed
by a quote. -/
def holdsDocument : List Line → Bool
  | [] => false
  | l :: ls =>
    (if l.ending.isNone then opensDocument (l.text ++ ['"']) else opensDocument l.text) ||
      holdsDocument ls

/-- The text of a quoted scalar from its lines. -/
def quotedText? (double : Bool) (ls : List Line) : Option (List Char) :=
  if holdsDocument (ls.drop 1) then none
  else
    (joinLines none ·) <$> ls.mapM fun l =>
      if double then
        (doublePieces 0 0 l.text).bind fun (ps, b) =>
          if b && l.ending.isNone then none else some ⟨ps, b, l.ending⟩
      else some ⟨singlePieces l.text, false, l.ending⟩

/-- The place after a quoted scalar that takes the given lines: the quotes, and
what is between them. -/
def Place.afterLines (p : Place) (ls : List Line) (rest : List Char) : Place :=
  let count := lengthOf ls
  match ls.getLast? with
  | some l =>
    if ls.length ≤ 1 then
      { p with rest, index := p.index + count + 2, column := p.column + count + 2 }
    else ⟨rest, p.index + count + 2, p.line + (ls.length - 1), l.text.length + 1⟩
  | none => { p with rest }

/-- The quoted scalar at a place, and the place after it. -/
def quotedScalar (p : Place) : Option (String × Place) :=
  match p.rest with
  | '"' :: rest => do
    let (s, rest) ← doubleExtent rest
    let ls := lines s
    let text ← quotedText? true ls
    return (String.ofList text, p.afterLines ls rest)
  | '\'' :: rest => do
    let (s, rest) ← singleExtent rest
    let ls := lines s
    let text ← quotedText? false ls
    return (String.ofList text, p.afterLines ls rest)
  | _ => none

end SigmaRules.Yaml
