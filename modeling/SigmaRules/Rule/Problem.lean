/-
SigmaRules/Rule/Problem.lean

What can be wrong with a rule.
-/
import SigmaRules.Detection.Problem
import SigmaRules.Rule.Date

namespace SigmaRules.Rule

/-- What is wrong with the description of a rule. -/
inductive FieldProblem
  /-- The related rules are no list. -/
  | relatedNotList
  /-- A relation is no mapping. -/
  | relationNotMapping (position : Nat)
  /-- A relation does not say to which rule. -/
  | relationWithoutId (position : Nat)
  /-- A relation does not say of what kind it is. -/
  | relationWithoutType (position : Nat)
  /-- There is no such kind of relations. -/
  | relationType (position : Nat) (value : String)
  /-- There is no such state. -/
  | status (value : String)
  /-- There is no such level. -/
  | level (value : String)
  /-- The log source is no mapping. -/
  | logSourceNotMapping
  /-- The log source is malformed. -/
  | logSource
  /-- A value stands where a day should. -/
  | dateValue (key value : String)
  /-- A day is malformed. -/
  | date (p : DateProblem)
  deriving DecidableEq, Repr

/-- The marker that stands for what the check of log sources says. -/
def logSourceMarker : String := "<pydantic>"

/-- The marker that stands for what the reader of documents says. -/
def documentMarker : String := "<yaml>"

/-- What is wrong, in words. -/
def FieldProblem.message : FieldProblem → String
  | .relatedNotList => "related must be a list"
  | .relationNotMapping i => "related[" ++ toString i ++ "]: must be a mapping"
  | .relationWithoutId i => "related[" ++ toString i ++ "]: missing id"
  | .relationWithoutType i => "related[" ++ toString i ++ "]: missing type"
  | .relationType i v => "related[" ++ toString i ++ "]: unsupported type " ++ v
  | .status v => "unsupported status " ++ v
  | .level v => "unsupported level " ++ v
  | .logSourceNotMapping => "logsource must be a mapping"
  | .logSource => "logsource: " ++ logSourceMarker
  | .dateValue key v => key ++ ": unsupported value " ++ v
  | .date p => p.message

/-- What is wrong with a rule. -/
inductive Problem
  /-- The document cannot be read. -/
  | unreadable
  /-- The document is no mapping. -/
  | notMapping
  /-- There is no title. -/
  | untitled
  /-- The detection is malformed. -/
  | detection (title : String) (p : Detection.Problem)
  /-- The description is malformed. -/
  | field (title : String) (p : FieldProblem)
  /-- A value stands where a list should. -/
  | notList (key : String)
  deriving DecidableEq, Repr

namespace Problem

/-- The kind of the problem. -/
def kind : Problem → ProblemKind
  | .detection _ p => p.kind
  | _ => .rule

/-- What is wrong, in words. -/
def message : Problem → String
  | .unreadable => "parse sigma rule: " ++ documentMarker
  | .notMapping => "parse sigma rule: rule must be a mapping"
  | .untitled => "parse sigma rule: missing title"
  | .detection title p => "parse sigma rule \"" ++ title ++ "\": detection: " ++ p.message
  | .field title p => "parse sigma rule \"" ++ title ++ "\": " ++ p.message
  | .notList key => key ++ " must be a list"

/-- The report of the problem. -/
def report (p : Problem) : String := p.kind.introduction ++ p.message

end Problem

end SigmaRules.Rule
