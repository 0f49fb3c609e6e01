/-
SigmaRules/Layout/Wrap.lean

Fitting texts into columns.  Lines are broken between words; a word that is
wider than the columns is cut off, and ends in an ellipsis, or goes on in the
next line.
-/
import SigmaRules.Layout.Line
import SigmaRules.Text.Blank

namespace SigmaRules.Layout

open Text

/-- The text without white space at its end. -/
def stripEnd (s : List Char) : List Char := (s.reverse.dropWhile isBlank).reverse

/-- The words of a text, each with the white space after it; the white space at
the start belongs to the first word.  There are none in white space alone. -/
def words (s : List Char) : List (List Char) :=
  let start := s.takeWhile isBlank
  match wordsFrom (s.drop start.length) with
  | [] => []
  | w :: ws => (start ++ w) :: ws
where
  /-- The words of a text that starts with one. -/
  wordsFrom (s : List Char) : List (List Char) := s.foldr addChar []
  /-- Words with one more character before them. -/
  addChar (c : Char) : List (List Char) → List (List Char)
    | [] => [[c]]
    | w :: ws =>
      if isBlank c then
        if (w.head?.map isBlank).getD false then (c :: w) :: ws else [c] :: w :: ws
      else (c :: w) :: ws

/-- What becomes of a text that is wider than the columns: it is cut off, or folded. -/
inductive Overflow
  | cut
  | fold
  deriving DecidableEq, Repr

/-- A text folded into lines, the first of which has been started, and takes so many
columns. -/
def chop (width used : Nat) (line : List Char) : List Char → List (List Char)
  | [] => [line]
  | c :: rest =>
    if used + charColumns c ≤ width then chop width (used + charColumns c) (line ++ [c]) rest
    else line :: chop width (charColumns c) [c] rest

/-- The lines of a word that starts a line: those that it fills, and the one that can go on. -/
def wordLines (o : Overflow) (width : Nat) (w : List Char) : List (List Char) × List Char :=
  if o = .fold ∧ width < columns (stripEnd w) then
    let parts := chop width 0 [] w
    (parts.dropLast, parts.getLastD [])
  else ([], w)

/-- Words put into lines, the first of which has been started, and takes so many
columns. -/
def fill (o : Overflow) (width used : Nat) (line : List Char) : List (List Char) → List (List Char)
  | [] => [line]
  | w :: ws =>
    if used + columns (stripEnd w) ≤ width then fill o width (used + columns w) (line ++ w) ws
    else
      let parts := wordLines o width w
      line :: (parts.1 ++ fill o width (columns parts.2) parts.2 ws)

/-- A line broken into lines. -/
def breakLine (o : Overflow) (width : Nat) (s : List Char) : List (List Char) :=
  match words s with
  | [] => [s]
  | w :: ws =>
    let parts := wordLines o width w
    parts.1 ++ fill o width (columns parts.2) parts.2 ws

/-- A line that has more characters than there are columns, with less white space
at its end. -/
def trimEnd (width : Nat) (s : List Char) : List Char :=
  let blanks := s.length - (stripEnd s).length
  s.take (s.length - min blanks (s.length - width))

/-- As much of a text as fills the columns; a space stands in for half a wide
character. -/
def takeColumns : Nat → List Char → List Char
  | 0, _ => []
  | n, [] => List.replicate n ' '
  | n, c :: rest =>
    if charColumns c ≤ n then c :: takeColumns (n - charColumns c) rest else List.replicate n ' '

/-- The mark of a text that is cut off. -/
def ellipsis : Char := '…'

/-- A line, cut off if it is wider than the columns. -/
def cutOff (o : Overflow) (width : Nat) (s : List Char) : List Char :=
  if columns s ≤ width then s
  else
    match o with
    | .cut => takeColumns (width - 1) s ++ [ellipsis]
    | .fold => takeColumns width s

/-- The side on which the text of a column stands. -/
inductive Side
  | left
  | right
  deriving DecidableEq, Repr

/-- A line that fills the columns. -/
def align (side : Side) (width : Nat) (s : List Char) : List Char :=
  match side with
  | .left =>
    let s := cutOff .cut width s
    s ++ List.replicate (width - columns s) ' '
  | .right =>
    let s := cutOff .cut width (stripEnd s)
    List.replicate (width - columns s) ' ' ++ s

/-- The lines of a text that fill the columns. -/
def fit (side : Side) (width : Nat) (s : List Char) : List (List Char) :=
  ((lines s).flatMap (breakLine .cut width)).map fun l => align side width (trimEnd width l)

/-- The text as it is shown in a console with so many columns. -/
def shown (room : Nat) (s : String) : String :=
  String.ofList (join '\n' (((lines s.toList).flatMap (breakLine .fold room)).map fun l =>
    cutOff .fold room (trimEnd room l)))

end SigmaRules.Layout
