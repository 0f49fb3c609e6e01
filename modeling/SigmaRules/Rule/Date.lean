/-
SigmaRules/Rule/Date.lean

The days on which rules were written or changed, such as `2019/10/23`.  The
parts are in range, but the calendar is not consulted: `2020/02/31` is kept
as written.
-/
import SigmaRules.Document.Text
import SigmaRules.Text.Numeral
import SigmaRules.Text.Split

namespace SigmaRules

/-- The day of a rule. -/
structure RuleDate where
  year : Nat
  month : Nat
  day : Nat
  deriving DecidableEq, Repr

/-- What is wrong with a day. -/
inductive DateProblem
  /-- There are not three parts. -/
  | unknownFormat (s : String)
  /-- A part is no number. -/
  | notNumber (s : String)
  /-- The year has lost its century. -/
  | shortYear (s : String)
  /-- There is no such month. -/
  | invalidMonth (s : String) (month : Int)
  /-- There is no such day. -/
  | invalidDay (s : String) (day : Int)
  deriving DecidableEq, Repr

/-- What is wrong, in words. -/
def DateProblem.message : DateProblem → String
  | .unknownFormat s => "parse sigma date " ++ s ++ ": unknown format"
  | .notNumber s => "parse sigma date " ++ s ++ ": invalid date component"
  | .shortYear s => "parse sigma date " ++ s ++ ": short years not allowed"
  | .invalidMonth s n => "parse sigma date " ++ s ++ ": invalid month " ++ toString n
  | .invalidDay s n => "parse sigma date " ++ s ++ ": invalid day " ++ toString n

namespace RuleDate

/-- The day with its parts between slashes. -/
def text (d : RuleDate) : String :=
  Document.padded 4 d.year ++ "/" ++ Document.padded 2 d.month ++ "/" ++ Document.padded 2 d.day

/-- Is a day before another, or the same? -/
def le (a b : RuleDate) : Bool :=
  if a.year != b.year then a.year < b.year
  else if a.month != b.month then a.month < b.month
  else a.day ≤ b.day

/-- The day of the calendar. -/
def ofDate (d : Document.Date) : RuleDate := ⟨d.year, d.month, d.day⟩

/-- The day that three numbers write in a text. -/
def ofNumbers (s : String) (year month day : Int) : Except DateProblem RuleDate :=
  if year < 100 then .error (.shortYear s)
  else if month < 1 || 12 < month then .error (.invalidMonth s month)
  else if day < 1 || 31 < day then .error (.invalidDay s day)
  else .ok ⟨year.toNat, month.toNat, day.toNat⟩

/-- The day that a text writes: year, month and day between slashes or hyphens. -/
def parse (s : String) : Except DateProblem RuleDate :=
  match Text.splitAt (fun c => c == '/' || c == '-') s.toList with
  | [y, m, d] =>
    match Text.Numeral.toInt? y, Text.Numeral.toInt? m, Text.Numeral.toInt? d with
    | some y, some m, some d => ofNumbers s y m d
    | _, _, _ => .error (.notNumber s)
  | _ => .error (.unknownFormat s)

end RuleDate

end SigmaRules
