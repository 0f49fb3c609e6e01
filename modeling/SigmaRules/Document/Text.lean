/-
SigmaRules/Document/Text.lean

Values as texts, in two forms.  The plain form of a text is the text itself;
the quoted form tells apart what the plain one does not, and is the one used
within lists and mappings.

Whole numbers are not written in any form if they have too many digits, wherever
in a value they stand (`Value.write`).
-/
import SigmaRules.Document.Value
import SigmaRules.Fault
import SigmaRules.Number.Shortest
import SigmaRules.Text.Digits
import SigmaRules.Text.Quoted

namespace SigmaRules.Document

open Number Text

/-- A number with zeros before it up to a length. -/
def padded (length n : Nat) : String :=
  let ds := toString n
  String.ofList (List.replicate (length - ds.length) '0') ++ ds

/-- Floating point numbers are written with a point up to sixteen digits
before it and three zeros after it. -/
def floatLayout : Layout where
  highest := 16
  lowest := -4
  fullExponent := true
  zeroBeforeExponent := false
  nan := "nan"
  infinity := "inf"

/-- A day as `2019-10-23`. -/
def Date.text (d : Date) : String :=
  padded 4 d.year ++ "-" ++ padded 2 d.month ++ "-" ++ padded 2 d.day

/-- The distance from universal time, as `+02:00`. -/
def offsetText (seconds : Int) : String :=
  let n := seconds.natAbs
  (if seconds < 0 then "-" else "+") ++ padded 2 (n / 3600) ++ ":" ++ padded 2 (n / 60 % 60)

/-- A moment, with a separator between day and time. -/
def Moment.text (separator : String) (m : Moment) : String :=
  m.date.text ++ separator ++ padded 2 m.hour ++ ":" ++ padded 2 m.minute ++ ":" ++
    padded 2 m.second ++
    (if m.microsecond == 0 then "" else "." ++ padded 6 m.microsecond) ++
    (match m.offset with
      | some s => offsetText s
      | none => "")

/-- A day in quoted form. -/
def Date.quoted (d : Date) : String :=
  s!"datetime.date({d.year}, {d.month}, {d.day})"

/-- A span of time in quoted form: whole days, and the seconds beyond them. -/
def spanQuoted (seconds : Int) : String :=
  let part (name : String) (n : Int) := if n == 0 then [] else [name ++ "=" ++ toString n]
  "datetime.timedelta(" ++
    ", ".intercalate (part "days" (seconds / 86400) ++ part "seconds" (seconds % 86400)) ++ ")"

/-- The distance from universal time in quoted form. -/
def offsetQuoted (seconds : Int) : String :=
  if seconds == 0 then "datetime.timezone.utc"
  else "datetime.timezone(" ++ spanQuoted seconds ++ ")"

/-- A moment in quoted form; seconds that are zero are left out. -/
def Moment.quoted (m : Moment) : String :=
  let parts := [m.date.year, m.date.month, m.date.day, m.hour, m.minute] ++
    (if m.microsecond != 0 then [m.second, m.microsecond]
     else if m.second != 0 then [m.second] else [])
  "datetime.datetime(" ++ ", ".intercalate (parts.map toString) ++
    (match m.offset with
      | some s => ", tzinfo=" ++ offsetQuoted s
      | none => "") ++ ")"

mutual

/-- The quoted form of a value. -/
def Value.quoted : Value → String
  | .null => "None"
  | .bool b => if b then "True" else "False"
  | .int n => toString n
  | .float x => x.text floatLayout
  | .text s => Text.quoted s
  | .date d => d.quoted
  | .moment m => m.quoted
  | .bytes bs => quotedBytes bs
  | .list xs => "[" ++ ", ".intercalate (quotedList xs) ++ "]"
  | .pair a b => "(" ++ a.quoted ++ ", " ++ b.quoted ++ ")"
  | .set [] => "set()"
  | .set xs => "\x7b" ++ ", ".intercalate (quotedList xs) ++ "\x7d"
  | .map es => "\x7b" ++ ", ".intercalate (quotedEntries es) ++ "\x7d"
  | .again asMap => if asMap then "\x7b...\x7d" else "[...]"

/-- The quoted forms of values. -/
def quotedList : List Value → List String
  | [] => []
  | x :: xs => x.quoted :: quotedList xs

/-- The quoted forms of entries. -/
def quotedEntries : List (Value × Value) → List String
  | [] => []
  | (k, v) :: es => (k.quoted ++ ": " ++ v.quoted) :: quotedEntries es

end

/-- The plain form of a value. -/
def Value.plain : Value → String
  | .text s => s
  | .date d => d.text
  | .moment m => m.text " "
  | v => v.quoted

/-! ### What can be written -/

mutual

/-- Have all whole numbers in the value few enough digits to be written? -/
def Value.isWritable : Value → Bool
  | .int n => Double.digitCount n.natAbs ≤ maxDigits
  | .list xs | .set xs => areWritable xs
  | .pair a b => a.isWritable && b.isWritable
  | .map es => entriesAreWritable es
  | _ => true

/-- Can all values be written? -/
def areWritable : List Value → Bool
  | [] => true
  | x :: xs => x.isWritable && areWritable xs

/-- Can all keys and values be written? -/
def entriesAreWritable : List (Value × Value) → Bool
  | [] => true
  | (k, v) :: es => k.isWritable && v.isWritable && entriesAreWritable es

end

theorem areWritable_iff {xs : List Value} :
    areWritable xs = true ↔ ∀ x ∈ xs, x.isWritable = true := by
  induction xs with
  | nil => simp [areWritable]
  | cons x xs ih => simp [areWritable, ih]

theorem entriesAreWritable_iff {es : Entries} :
    entriesAreWritable es = true ↔ ∀ e ∈ es, e.1.isWritable = true ∧ e.2.isWritable = true := by
  induction es with
  | nil => simp [entriesAreWritable]
  | cons e es ih => simp [entriesAreWritable, ih, and_assoc]

mutual

/-- How many values are within one another, beside the first. -/
def Value.levels : Value → Nat
  | .list xs | .set xs => levelsIn xs
  | .pair a b => max a.levels b.levels + 1
  | .map es => levelsInEntries es
  | _ => 0

/-- How many values are within one another in a collection. -/
def levelsIn : List Value → Nat
  | [] => 0
  | x :: xs => max (x.levels + 1) (levelsIn xs)

/-- How many values are within one another in a mapping. -/
def levelsInEntries : List (Value × Value) → Nat
  | [] => 0
  | (k, v) :: es => max (max k.levels v.levels + 1) (levelsInEntries es)

end

/-- The value in a form, if it can be written. -/
def Value.write (form : Value → String) (v : Value) : Except Fault String :=
  if v.isWritable then .ok (form v) else .error .numberUnwritable

theorem Value.write_eq_ok_iff {form : Value → String} {v : Value} {s : String} :
    v.write form = .ok s ↔ v.isWritable = true ∧ form v = s := by
  rw [write]
  split
  case isTrue h => simp [h]
  case isFalse h => simp [h]

end SigmaRules.Document
