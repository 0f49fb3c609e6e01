/-
SigmaRules/Document/Access.lean

Reading values that are expected to be texts, or lists of texts.
-/
import SigmaRules.Document.Text

namespace SigmaRules.Document

namespace Value

/-- Is the value missing? -/
def isNull : Value → Bool
  | .null => true
  | _ => false

/-- The text of a value that is one. -/
def asText? : Value → Option String
  | .text s => some s
  | _ => none

/-- The texts of a value that is one text or a list of texts; other values have
none. -/
def texts : Value → List String
  | .text s => [s]
  | .list xs => (xs.mapM asText?).getD []
  | _ => []

/-- A scalar as a pattern: spelled the way the value appears in log entries.
Floating point numbers that are whole have no point. -/
def pattern : Value → String
  | .bool b => if b then "true" else "false"
  | .float x =>
    match x.toInt? with
    | some n => toString n
    | none => (Value.float x).plain
  | v => v.plain

end Value

namespace Entries

/-- The plain form of the value of a name, if there is one. -/
def textOf? (es : Entries) (name : String) : Except Fault (Option String) :=
  match es.named? name with
  | none => .ok none
  | some v => (v.write Value.plain).map some

/-- The plain forms of the values of a name, if there are some: those in a list,
or that of a scalar.  For other values the name is given back. -/
def textsOf? (es : Entries) (name : String) : Except (Failure String) (Option (List String)) :=
  match es.named? name with
  | none => .ok none
  | some (.list xs) => (Failure.orStop (xs.mapM (·.write Value.plain))).map some
  | some v =>
    if v.isScalar then (Failure.orStop (v.write Value.plain)).map fun s => some [s]
    else .error (.invalid name)

end Entries

end SigmaRules.Document
