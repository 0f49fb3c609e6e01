/-
SigmaRules/Report/Verbose.lean

Reports that say all about the rules that match, and for each entry why they
match it.
-/
import SigmaRules.Document.Text
import SigmaRules.Layout.Table
import SigmaRules.Report.Basic
import SigmaRules.Report.Explanation

namespace SigmaRules.Report

open Layout

/-- The space before what stands at a depth. -/
def indentation (depth : Nat) : String := String.ofList (List.replicate (2 * depth) ' ')

/-- What a search asks for, and of what. -/
def searchLine (room : Nat) (s : Search) (value : String) : String :=
  let key := "|".intercalate (s.field.getD "" :: s.modifiers.map Modifier.name)
  let patterns := ", ".intercalate (s.patterns.map Text.quoted)
  shown room (if key == "" then "keywords: " else key ++ ": ") ++ shown room patterns ++
    (if value == "" then "" else " = " ++ shown room (Text.quoted value))

/-- What a part of an outcome is. -/
def partLine (room : Nat) : Outcome → String
  | .search s _ v => searchLine room s v
  | .named n _ _ => shown room n ++ ":"
  | o => o.connective.word ++ ":"

/-- The line of a reason. -/
def reasonLine (room : Nat) (r : Reason) : String :=
  line (shown room (indentation r.depth) ++ partLine room r.part)

/-- The lines of a match. -/
def matchLines (room : Nat) (m : Nat × Outcome) : String :=
  line (shown room ("entry @ line " ++ toString m.1)) ++
    String.join ((m.2.reasons true 1).map (reasonLine room))

/-- The rows of what a rule is about. -/
def ruleRows (r : Rule) : List (String × String) :=
  let present (name : String) (s : Option String) : List (String × String) :=
    ((s.filter (· != "")).map fun v => (name, v)).toList
  let listed (name separator : String) (ss : List String) : List (String × String) :=
    if ss.isEmpty then [] else [(name, separator.intercalate ss)]
  let source (s : LogSource) : Option String :=
    let o : Origin := ⟨s.product, s.service, s.category⟩
    some (", ".intercalate (o.attributes.map fun a => a.1 ++ ": " ++ a.2))
  present "id" r.id ++
  present "level" (r.level.map Level.word) ++
  present "status" (r.status.map Status.word) ++
  present "author" r.author ++
  present "date" (r.date.map RuleDate.text) ++
  present "logsource" (r.logSource.bind source) ++
  listed "tags" ", " (r.tags.getD []) ++
  listed "references" "\n" (r.references.getD []) ++
  listed "false positives" "\n" r.falsePositives ++
  ((r.description.filter (· != "")).map fun d =>
    ("description", String.ofList (Text.strip d.toList))).toList ++
  present "path" r.path

/-- The lines of a rule and its matches. -/
def findingLines (room : Nat) (m : Rule × List (Nat × Outcome)) : String :=
  let count := if m.2.length == 1 then "" else " (" ++ toString m.2.length ++ " matches)"
  line (shown room (m.1.title ++ count)) ++ grid room (ruleRows m.1) ++
    String.join (m.2.map (matchLines room)) ++ line ""

/-- The report in full, in a console with so many columns. -/
def verbose (room : Nat) (r : Report) : String :=
  grid room ([("timestamp", r.run.moment.text " "), ("version", r.run.version)] ++ runRows r.run) ++
    line "" ++
    (if r.found.isEmpty then line (shown room nothingFound)
      else String.join (r.found.map (findingLines room)))

end SigmaRules.Report
