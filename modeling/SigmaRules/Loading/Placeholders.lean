/-
SigmaRules/Loading/Placeholders.lean

Loading the values of placeholders from a document that maps their names to
values, or to lists of values.
-/
import SigmaRules.Bytes.Utf8
import SigmaRules.Files.Path
import SigmaRules.Pattern.Placeholder
import SigmaRules.Yaml.Document
import SigmaRules.Document.Text
import SigmaRules.Rule.Problem

namespace SigmaRules.Loading

open Document

/-- What is wrong with a file of placeholders. -/
inductive PlaceholderProblem
  /-- The bytes are no text. -/
  | notText (e : Bytes.DecodeError)
  /-- The text is no document. -/
  | unreadable
  /-- The document is no mapping. -/
  | notMapping
  /-- What a name stands for is no value. -/
  | notValues (name : String)
  deriving DecidableEq, Repr

/-- The report of the problem of the file at a path. -/
def PlaceholderProblem.report (path : Files.Path) : PlaceholderProblem → String
  | .notText e => e.message
  | .unreadable => path.text ++ ": " ++ Rule.documentMarker
  | .notMapping => path.text ++ ": expected a mapping of placeholder names to values"
  | .notValues name =>
    path.text ++ ": placeholder " ++ name ++ ": expected a string or list of strings"

/-- What is wrong with a part of a moment, in words. -/
def calendarMessage (value : Int) : CalendarPart → String
  | .year => "year " ++ toString value ++ " is out of range"
  | .month => "month must be in 1..12"
  | .day => "day is out of range for month"
  | .hour => "hour must be in 0..23"
  | .minute => "minute must be in 0..59"
  | .second => "second must be in 0..59"
  | .zone =>
    "offset must be a timedelta strictly between -timedelta(hours=24) and timedelta(hours=24), " ++
      "not " ++ spanQuoted value ++ "."

/-- The report of a fault, if it is one of a value. -/
def faultReport? : Fault → Option String
  | .notInCalendar part value => some (calendarMessage value part)
  | .notWhole base s =>
    some ("invalid literal for int() with base " ++ toString base ++ ": " ++ Text.quoted s)
  | .notFloat s => some ("could not convert string to float: " ++ Text.quoted s)
  | .numberUnwritable =>
    some ("Exceeds the limit (" ++ toString Text.maxDigits ++ " digits) for integer " ++
      "string conversion; use sys.set_int_max_str_digits() to increase the limit")
  | _ => none

/-- The values that a value stands for. -/
def placeholderValues? : Value → Option (List Value)
  | .bool _ => none
  | .list xs => if xs.all Value.isScalar then some xs else none
  | v => if v.isScalar then some [v] else none

/-- Placeholders with those that the entries of a mapping name. -/
def addPlaceholders (ps : Placeholders) :
    Document.Entries → Except (Failure PlaceholderProblem) Placeholders
  | [] => .ok ps
  | (name, v) :: es => do
    let name ← Failure.orStop (name.write Value.plain)
    match placeholderValues? v with
    | some vs =>
      let values ← Failure.orStop (vs.mapM (·.write Value.plain))
      addPlaceholders (ps.put name values) es
    | none => .error (.invalid (.notValues name))

/-- The placeholders of a document. -/
def placeholdersOf : Value → Except (Failure PlaceholderProblem) Placeholders
  | .null => .ok []
  | .map es => addPlaceholders [] es
  | _ => .error (.invalid .notMapping)

/-- The placeholders in the bytes of a file. -/
def readPlaceholders (bytes : List UInt8) : Except (Failure PlaceholderProblem) Placeholders :=
  match Bytes.decode bytes with
  | .error e => .error (.invalid (.notText e))
  | .ok s => do
    let v ← Failure.within (fun _ => .unreadable) (Yaml.read .placeholders (String.ofList s))
    placeholdersOf v

end SigmaRules.Loading
