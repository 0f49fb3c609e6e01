/-
SigmaRules/CommandLine/Stage.lean

The stages of a run.  A stage logs messages, and then has a result or ends the
run.
-/
import SigmaRules.Fault

namespace SigmaRules.CommandLine

/-- The codes with which a run ends before its report. -/
inductive ExitCode
  /-- There are no rules at a path, or none with the tag. -/
  | missingRules
  /-- The input is no file. -/
  | missingFile
  /-- The rules are malformed. -/
  | invalidRule
  /-- The input holds something else than entries. -/
  | invalidInput
  /-- The placeholders are malformed. -/
  | invalidPlaceholders
  deriving DecidableEq, Repr

/-- The number of a code. -/
def ExitCode.number : ExitCode → Nat
  | missingRules => 10
  | missingFile => 11
  | invalidRule => 12
  | invalidInput => 13
  | invalidPlaceholders => 14

/-- How grave a message is. -/
inductive Severity
  | warning
  | error
  deriving DecidableEq, Repr

/-- The word for a severity. -/
def Severity.word : Severity → String
  | warning => "warning"
  | error => "error"

/-- A message of a log.  It is a text with markup. -/
structure Message where
  severity : Severity
  text : String
  deriving DecidableEq, Repr

/-- Why a run ends before its report. -/
inductive Ending
  | exit (code : ExitCode)
  | fault (f : Fault)
  deriving DecidableEq, Repr

/-- A stage of a run. -/
structure Stage (α : Type) where
  log : List Message
  result : Except Ending α

namespace Stage

/-- A stage that has a result, and logs nothing. -/
def done {α : Type} (a : α) : Stage α := ⟨[], .ok a⟩

/-- A stage that ends the run with a code, and logs why. -/
def stop {α : Type} (code : ExitCode) (reasons : List String) : Stage α :=
  ⟨reasons.map (⟨.error, ·⟩), .error (.exit code)⟩

/-- A stage that fails. -/
def fail {α : Type} (f : Fault) : Stage α := ⟨[], .error (.fault f)⟩

/-- The stage after messages. -/
def after {α : Type} (messages : List Message) (s : Stage α) : Stage α :=
  ⟨messages ++ s.log, s.result⟩

/-- A stage, and the one that its result leads to. -/
def andThen {α β : Type} (s : Stage α) (next : α → Stage β) : Stage β :=
  match s.result with
  | .ok a => (next a).after s.log
  | .error e => ⟨s.log, .error e⟩

end Stage

end SigmaRules.CommandLine
