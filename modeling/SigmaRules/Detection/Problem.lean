/-
SigmaRules/Detection/Problem.lean

What can be wrong with the detection of a rule.  Problems are of four kinds;
a problem keeps its kind however far from its place it is reported.
-/
import SigmaRules.Condition.Parser
import SigmaRules.Search.Check

namespace SigmaRules

/-- The kinds of problems that rules have. -/
inductive ProblemKind
  /-- The rule is malformed. -/
  | rule
  /-- A search is malformed. -/
  | search
  /-- A condition is malformed. -/
  | condition
  /-- The rule is well-formed but counts or combines matches, which is not
  supported. -/
  | aggregation
  deriving DecidableEq, Repr

/-- What introduces a report. -/
def ProblemKind.introduction : ProblemKind → String
  | .rule => "invalid rule: "
  | .search => "invalid search: "
  | .condition => "invalid condition: "
  | .aggregation => "unsupported rule: "

namespace Detection

/-- What is wrong with the value of a search identifier. -/
inductive ValueProblem
  /-- The value of a field is none to search for. -/
  | unsupportedField (key : String)
  /-- A mapping holds no fields. -/
  | emptyMap
  /-- The search of a field is not valid. -/
  | search (key : String) (p : SearchProblem)
  /-- An item of a list is no search. -/
  | unsupportedItem (name : String)
  /-- A list holds no items. -/
  | emptyList (name : String)
  /-- The value is no search. -/
  | unsupported (name : String)
  deriving DecidableEq, Repr

/-- Where an identifier is. -/
def place (name : String) : String := "search identifier \"" ++ name ++ "\": "

namespace ValueProblem

/-- The kind of the problem. -/
def kind : ValueProblem → ProblemKind
  | .search .. => .search
  | _ => .rule

/-- What is wrong, in words. -/
def message : ValueProblem → String
  | .unsupportedField key => key ++ ": unsupported value"
  | .emptyMap => "empty map"
  | .search key p => key ++ ": " ++ p.message
  | .unsupportedItem name => place name ++ "unsupported list value"
  | .emptyList name => place name ++ "empty list"
  | .unsupported name => place name ++ "unsupported value"

end ValueProblem

/-- What is wrong with a detection. -/
inductive Problem
  /-- There is none. -/
  | missing
  /-- It is no mapping. -/
  | notMapping
  /-- Matches are to be counted over a span of time. -/
  | timeframe
  /-- There is no condition. -/
  | withoutCondition
  /-- The value of an identifier is malformed. -/
  | identifier (name : String) (p : ValueProblem)
  /-- A condition is malformed. -/
  | condition (p : Condition.Problem)
  deriving DecidableEq, Repr

namespace Problem

/-- The kind of the problem. -/
def kind : Problem → ProblemKind
  | .timeframe | .condition .aggregation => .aggregation
  | .condition _ => .condition
  | .identifier _ p => p.kind
  | _ => .rule

/-- What is wrong, in words.  Problems of searches are reported with the name of
their identifier. -/
def message : Problem → String
  | .missing => "missing detection"
  | .notMapping => "detection must be a mapping"
  | .timeframe => Condition.aggregationMessage
  | .withoutCondition => "missing detection condition"
  | .identifier name (.search key p) => place name ++ (ValueProblem.search key p).message
  | .identifier _ p => p.message
  | .condition p => p.message

end Problem

end Detection

end SigmaRules
