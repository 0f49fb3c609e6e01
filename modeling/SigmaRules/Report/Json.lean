/-
SigmaRules/Report/Json.lean

Reports as JSON documents.  Attributes that are missing are left out.
-/
import SigmaRules.Document.Access
import SigmaRules.Json.Writer
import SigmaRules.Report.Basic

namespace SigmaRules.Report

open Document

/-- An object with those of its members that are not missing. -/
def object (members : List (String × Option Value)) : Value :=
  .map (members.filterMap fun m => m.2.map fun v => (.text m.1, v))

/-- A text that may be missing. -/
def optional (s : Option String) : Option Value := s.map .text

/-- A list of texts. -/
def textList (ss : List String) : Value := .list (ss.map .text)

/-- The document of a run. -/
def ofRun (r : Run) : Value :=
  object [
    ("timestamp", some (.moment r.moment)),
    ("version", some (.text r.version)),
    ("argv", r.arguments.map textList),
    ("input", some (.text r.input)),
    ("rules", some (textList r.rules)),
    ("logsource", some (object [
      ("product", optional r.origin.product),
      ("service", optional r.origin.service),
      ("category", optional r.origin.category)])),
    ("entry_count", some (.int r.entryCount))]

/-- The document of a log source, in which attributes without a value are left
out. -/
def ofLogSource (s : LogSource) : Value :=
  let known := [
    ("category", optional s.category),
    ("product", optional s.product),
    ("service", optional s.service),
    ("definition", optional s.definition)]
  .map ((known.filterMap fun m => m.2.map fun v => (Value.text m.1, v)) ++
    s.extra.filter fun e => !e.2.isNull)

/-- The document of a relation to another rule. -/
def ofRelation (r : Relation) : Value :=
  object [("id", some (.text r.id)), ("type", some (.text r.kind.word))]

/-- The document of what a rule is about. -/
def ofRule (r : Rule) : Value :=
  object [
    ("title", some (.text r.title)),
    ("id", optional r.id),
    ("status", optional (r.status.map Status.word)),
    ("level", optional (r.level.map Level.word)),
    ("description", optional r.description),
    ("author", optional r.author),
    ("date", optional (r.date.map RuleDate.text)),
    ("modified", optional (r.modified.map RuleDate.text)),
    ("references", some (textList (r.references.getD []))),
    ("tags", some (textList (r.tags.getD []))),
    ("related", some (.list ((r.related.getD []).map ofRelation))),
    ("logsource", r.logSource.map ofLogSource),
    ("falsepositives", some (textList r.falsePositives)),
    ("path", optional r.path)]

/-- The document of a search. -/
def ofSearch (s : Search) : Value :=
  object [
    ("type", some (.text "search")),
    ("field", optional s.field),
    ("modifiers", some (textList (s.modifiers.map Modifier.name))),
    ("patterns", some (textList s.patterns))]

/-- The document of what combines other expressions. -/
def ofStatement (c : Connective) (name : Option String) : Value :=
  object [
    ("type", some (.text "statement")),
    ("statement", some (.text c.word)),
    ("name", optional name)]

/-- The document of an outcome, from those of its parts. -/
def outcomeOf (success : Bool) (node : Value) (children : List Value) (value : Option String) :
    Value :=
  object [
    ("success", some (.bool success)),
    ("node", some node),
    ("children", some (.list children)),
    ("value", optional value)]

mutual

/-- The document of an outcome. -/
def ofOutcome : Outcome → Value
  | .search s b v => outcomeOf b (ofSearch s) [] (some v)
  | .named n b o => outcomeOf b (ofStatement .named (some n)) [ofOutcome o] none
  | .not b o => outcomeOf b (ofStatement .not none) [ofOutcome o] none
  | .and b os => outcomeOf b (ofStatement .and none) (ofOutcomes os) none
  | .or b os => outcomeOf b (ofStatement .or none) (ofOutcomes os) none

/-- The documents of outcomes. -/
def ofOutcomes : List Outcome → List Value
  | [] => []
  | o :: os => ofOutcome o :: ofOutcomes os

end

/-- The document of a rule and its matches. -/
def ofFinding (r : Rule) (found : List (Nat × Outcome)) : Value :=
  object [
    ("meta", some (ofRule r)),
    ("source", some (.text r.definition)),
    ("matches", some (.list (found.map fun m => .list [.int m.1, ofOutcome m.2])))]

/-- The document of a report. -/
def document (r : Report) : Value :=
  object [
    ("meta", some (ofRun r.run)),
    ("rules", some (.list (r.found.map fun m => ofFinding m.1 m.2)))]

/-- The report as JSON, if all bytes in it are texts. -/
def json (r : Report) : Except Fault String :=
  if Json.canWrite r.document then .ok (Json.write r.document) else .error .notText

end SigmaRules.Report
