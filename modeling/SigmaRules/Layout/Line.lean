/-
SigmaRules/Layout/Line.lean

The lines of a text as a terminal shows them.  Controls that would move the
cursor are left out, and a tab is as many spaces as lead to the next column
that is a multiple of eight.
-/
import SigmaRules.Text.Columns
import SigmaRules.Text.Split

namespace SigmaRules.Layout

open Text

/-- Controls that would move the cursor: bell, backspace, vertical tab, form feed
and carriage return. -/
def movesCursor (c : Char) : Bool := ['\x07', '\x08', '\x0b', '\x0c', '\r'].contains c

/-- The text without controls that would move the cursor. -/
def withoutControls (s : List Char) : List Char := s.filter fun c => !movesCursor c

/-- How far tabs are apart. -/
def tabStop : Nat := 8

/-- A text that starts in a column, with spaces in place of its tabs. -/
def expandTabs (column : Nat) : List Char → List Char
  | [] => []
  | c :: rest =>
    if c == '\t' then
      let n := tabStop - column % tabStop
      List.replicate n ' ' ++ expandTabs (column + n) rest
    else c :: expandTabs (column + charColumns c) rest

/-- The lines of a text. -/
def lines (s : List Char) : List (List Char) :=
  (splitAt (· == '\n') (withoutControls s)).map (expandTabs 0)

/-- A line of a report. -/
def line (s : String) : String := s ++ "\n"

/-- Characters that end a line of a text whose width is measured. -/
def endsLine (c : Char) : Bool :=
  ['\n', '\x1c', '\x1d', '\x1e', '\x85', '\u2028', '\u2029'].contains c

/-- The columns of the widest line of a text. -/
def widest (s : List Char) : Nat :=
  ((splitAt endsLine (withoutControls s)).map columns).foldr max 0

end SigmaRules.Layout
