/-
SigmaRules/Report/Summary.lean

Reports in short: tables of what was matched, of the techniques that were
detected, and of the rules that match.  The cells of the tables are texts with
markup.  Names, paths and titles are escaped; an id stands as it is.
-/
import SigmaRules.Fault
import SigmaRules.Layout.Table
import SigmaRules.Report.Technique
import SigmaRules.Text.Markup

namespace SigmaRules.Report

open Layout

/-- A text with markup that shows the given text. -/
def escaped (s : String) : String := String.ofList (Text.Markup.escape s.toList)

/-- A text with markup, in a style. -/
def styled (style s : String) : String := "[" ++ style ++ "]" ++ s ++ "[/" ++ style ++ "]"

/-- The style of what stands out. -/
def emphasis : String := "cyan"

/-- The text that a text with markup shows. -/
def readMarkup (s : String) : Except Fault String :=
  match Text.Markup.read s.toList with
  | .ok t => .ok (String.ofList t)
  | .error _ => .error .malformedMarkup

/-- Rows of texts with markup, read. -/
def readRows (rows : List (List String)) : Except Fault (List (List String)) :=
  rows.mapM fun row => row.mapM readMarkup

/-- A heading that is at least so wide. -/
def wide (width : Nat) (s : String) : String :=
  s ++ String.ofList (List.replicate (width - s.length) ' ')

/-- The columns of the table of what was matched. -/
def runColumns : List Column := [{}, {}]

/-- The cells of the table of what was matched. -/
def runCells (r : Run) : Except Fault (List (List String)) :=
  readRows ((runRows r).map fun row => [row.1, escaped row.2])

/-- The table of what was matched. -/
def runTable (room : Nat) (r : Run) : Except Fault String :=
  (runCells r).map (table room runColumns false)

/-- The page about a technique. -/
def techniquePage (t : String) : String :=
  let steps := Text.splitAt (· == '.') t.toList
  "https://attack.mitre.org/techniques/" ++ String.ofList (Text.join '/' steps) ++ "/"

/-- A technique in brackets, with a link to the page about it. -/
def techniqueLink (t : String) : String :=
  "\\[[link=" ++ techniquePage t ++ "]" ++ t ++ "[/link]]"

/-- The table of techniques; none if there are no techniques. -/
def techniqueTable (room : Nat) (rules : List Rule) : Except Fault String := do
  let found := techniques rules
  if found.isEmpty then return ""
  let rows ← readRows (found.map fun t => [techniqueLink t.1, escaped (stacked t.2)])
  return table room [⟨wide 20 "ATT&CK Technique", .left⟩, ⟨"Rule", .left⟩] true rows

/-- What stands in the place of a level that is missing. -/
def noLevel : String := "-"

/-- The row of a rule that matches.  The level is no text with markup. -/
def ruleRow (m : Rule × List (Nat × Outcome)) : Except Fault (List String) := do
  let title ← readMarkup (styled emphasis (escaped m.1.title))
  let id ← readMarkup (m.1.id.getD "")
  return [title, (m.1.level.map Level.word).getD noLevel, id, toString m.2.length]

/-- The columns of the table of rules that match. -/
def ruleColumns : List Column :=
  [⟨wide 40 "Rule", .left⟩, ⟨"Level", .left⟩, ⟨"ID", .left⟩, ⟨"Matches", .right⟩]

/-- The cells of the table of rules that match. -/
def ruleCells (found : Matches) : Except Fault (List (List String)) := found.mapM ruleRow

/-- The table of rules that match. -/
def ruleTable (room : Nat) (found : Matches) : Except Fault String :=
  (ruleCells found).map (table room ruleColumns true)

/-- The report in short, in a console with so many columns. -/
def summary (room : Nat) (r : Report) : Except Fault String := do
  let run ← runTable room r.run
  let found ← techniqueTable room (r.found.map (·.1))
  if r.found.isEmpty then return run ++ found ++ line (shown room nothingFound)
  let rules ← ruleTable room r.found
  return run ++ found ++ rules

end SigmaRules.Report
