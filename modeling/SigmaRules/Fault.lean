/-
SigmaRules/Fault.lean

The two ways in which an operation can fail.  A problem is what the operation
reports about its input; a fault stops it without any report.
-/

namespace SigmaRules

/-- The parts of a moment that the calendar limits. -/
inductive CalendarPart
  | year
  | month
  | day
  | hour
  | minute
  | second
  | zone
  deriving DecidableEq, Repr

/-- Faults that are not reported as problems of a rule: whoever asks gets no
answer. -/
inductive Fault
  /-- A count in a regular expression is too large. -/
  | countTooLarge
  /-- A numeral has too many digits to be read. -/
  | numberTooLong
  /-- A whole number has too many digits to be written. -/
  | numberUnwritable
  /-- A number is beyond the range of floating point. -/
  | numberTooLarge
  /-- A part of a day or a time is not in the calendar. -/
  | notInCalendar (part : CalendarPart) (value : Int)
  /-- A text marked as a moment is none. -/
  | notMoment
  /-- What is marked as a moment is a mapping, and not a text. -/
  | momentInMapping
  /-- A text marked as a whole number is none in this base. -/
  | notWhole (base : Nat) (s : String)
  /-- A text marked as a floating point number is none. -/
  | notFloat (s : String)
  /-- An empty text is marked as a number. -/
  | emptyNumber
  /-- A text marked as a truth value is none. -/
  | notTruth
  /-- The tags of a text with markup do not match. -/
  | malformedMarkup
  /-- Bytes that have to be a text are none. -/
  | notText
  /-- Values are nested too deep. -/
  | tooDeep
  /-- Compressed data end too early. -/
  | truncated
  /-- Compressed data make no sense. -/
  | corrupt
  deriving DecidableEq, Repr

/-- Why an operation gives no result. -/
inductive Failure (Problem : Type)
  | invalid (p : Problem)
  | fault (f : Fault)
  deriving DecidableEq, Repr

namespace Failure

/-- The failure with its problem seen from outside. -/
def map {α β : Type} (f : α → β) : Failure α → Failure β
  | .invalid p => .invalid (f p)
  | .fault e => .fault e

/-- A result whose problem is seen from outside. -/
def within {α β γ : Type} (f : α → β) : Except (Failure α) γ → Except (Failure β) γ :=
  Except.mapError (map f)

/-- A result that may stop with a fault, where there may be problems, too. -/
def orStop {α β : Type} : Except Fault α → Except (Failure β) α := Except.mapError .fault

end Failure

end SigmaRules
