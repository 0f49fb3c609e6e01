/-
SigmaRules/Entry.lean

Log entries: a free message and named fields, all of them texts.  Names of
fields are compared without regard to letter case, and a field that is
missing reads as the empty text.  There are no entries with numbers that have
too many digits to be written, nor with values that are nested too deep.
-/
import SigmaRules.Document.Text
import SigmaRules.Text.LetterCase

namespace SigmaRules

open Document

/-- An entry of a log. -/
structure Entry where
  message : String := ""
  fields : List (String × String) := []
  deriving DecidableEq, Repr

/-- A value of a record as the text that searches see.  Truth values are
spelled as documents spell them, and null is the empty text. -/
def Document.Value.shown : Value → String
  | .null => ""
  | .bool b => if b then "true" else "false"
  | v => v.plain

/-- A value of a record as a text, if it is not nested deeper than so many levels. -/
def Document.Value.show? (depth : Nat) (v : Value) : Except Fault String :=
  if depth < v.levels then .error .tooDeep else v.write Value.shown

namespace Entry

/-- The fields with a value written for a name, in the place of the field of
that very name or at the end. -/
def putField : List (String × String) → String → String → List (String × String)
  | [], name, value => [(name, value)]
  | f :: rest, name, value =>
    if f.1 == name then (name, value) :: rest else f :: putField rest name value

/-- The name and the text of a field from their values. -/
def ofField (depth : Nat) (e : Value × Value) : Except Fault (String × String) := do
  let name ← e.1.write Value.plain
  let value ← e.2.show? depth
  return (name, value)

/-- An entry from the values of its message and of its fields, of which none may be
nested deeper than so many levels. -/
def ofValues (depth : Nat) (message : Value) (fields : Entries) : Except Fault Entry := do
  let message ← message.show? depth
  let fields ← fields.mapM (ofField depth)
  return { message, fields := fields.foldl (fun fs f => putField fs f.1 f.2) [] }

/-- An entry from a record.  The fields are the entries of the mapping under
`fields`, or, without such a mapping, all entries but the message. -/
def ofRecord (depth : Nat) (record : Entries) : Except Fault Entry :=
  let message := (record.get? (.text "message")).getD .null
  match record.get? (.text "fields") with
  | some (.map fields) => ofValues depth message fields
  | _ => ofValues depth message (record.filter fun e => !e.1.sameKey (.text "message"))

/-- The value of the first field of the name. -/
def get (e : Entry) (name : String) : String :=
  let name := Text.lower name
  match e.fields.find? fun f => Text.lower f.1 == name with
  | some f => f.2
  | none => ""

end Entry

end SigmaRules
