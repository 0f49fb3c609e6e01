/-
SigmaRules/Loading/Rules.lean

Loading rules from files.  The first file that cannot be loaded ends it,
except that rules that count or combine matches may be skipped.
-/
import SigmaRules.Loading.Discovery
import SigmaRules.Rule.Basic
import SigmaRules.RuleSet

namespace SigmaRules.Loading

open Files

/-- What is wrong with the file of a rule. -/
inductive FileProblem
  /-- The bytes are no text. -/
  | notText (e : Bytes.DecodeError)
  /-- The rule is malformed. -/
  | rule (p : Rule.Problem)

namespace FileProblem

/-- Is the rule well-formed, but not supported? -/
def isUnsupported : FileProblem → Bool
  | .notText _ => false
  | .rule p => p.kind == .aggregation

/-- What is wrong, in words. -/
def message : FileProblem → String
  | .notText e => e.message
  | .rule p => p.message

/-- The report of the problem of the file at a path. -/
def report (path : Path) (p : FileProblem) : String :=
  ProblemKind.rule.introduction ++ path.text ++ ": " ++ p.message

end FileProblem

/-- The rule that the bytes of the file at a path hold. -/
def readRule (path : Path) (bytes : List UInt8) : Except (Failure FileProblem) Rule :=
  match Bytes.decode bytes with
  | .error e => .error (.invalid (.notText e))
  | .ok s => do
    let r ← Failure.within .rule (Rule.parse (String.ofList s))
    return { r with path := some path.text }

/-- Why rules cannot be loaded. -/
inductive Problem
  /-- A path leads nowhere. -/
  | missing (path : Path)
  /-- A file is malformed. -/
  | file (path : Path) (p : FileProblem)
  /-- The rules make no set. -/
  | set (p : RuleSetProblem)

/-- The report of the problem. -/
def Problem.report : Problem → String
  | .missing path => "rule path " ++ path.text ++ " does not exist or cannot be accessed"
  | .file path p => p.report path
  | .set p => p.report

/-- What happens while rules are loaded. -/
inductive Event
  /-- A file is passed over because of its name. -/
  | skippedFile (name : String)
  /-- The file at a position, of so many, is about to be loaded. -/
  | loading (path : Path) (position total : Nat)
  /-- The rule in a file is skipped. -/
  | skippedRule (path : Path) (p : FileProblem)

/-- The warning about what happens, if there is one. -/
def Event.warning? : Event → Option String
  | .skippedFile name => some ("skipping non-.yml file: " ++ name)
  | .loading .. => none
  | .skippedRule path p => some ("skipping unsupported rule: " ++ p.report path)

/-- The rules in the files at paths, the first of which has the given position.
The files are those of the tree. -/
def loadFrom (disk : Disk) (skipUnsupported : Bool) (total : Nat) :
    Nat → List Path → List Event × Except (Failure Problem) (List Rule)
  | _, [] => ([], .ok [])
  | i, p :: ps =>
    let event := Event.loading p i total
    match readRule p ((disk.read p).toOption.getD []) with
    | .error (.fault f) => ([event], .error (.fault f))
    | .error (.invalid e) =>
      if skipUnsupported && e.isUnsupported then
        let (events, rest) := loadFrom disk skipUnsupported total (i + 1) ps
        (event :: .skippedRule p e :: events, rest)
      else ([event], .error (.invalid (.file p e)))
    | .ok r =>
      let (events, rest) := loadFrom disk skipUnsupported total (i + 1) ps
      (event :: events, rest.map (r :: ·))

/-- The set of the rules at paths, and what happens while they are loaded. -/
def loadRules (disk : Disk) (paths : List Path) (skipUnsupported : Bool) :
    List Event × Except (Failure Problem) RuleSet :=
  let (found, missing) := collect disk paths
  let skipped := found.skipped.map Event.skippedFile
  match missing with
  | some p => (skipped, .error (.invalid (.missing p)))
  | none =>
    let (events, rules) := loadFrom disk skipUnsupported found.paths.length 0 found.paths
    (skipped ++ events, rules.bind fun rs =>
      (RuleSet.ofRules rs).mapError fun p => .invalid (.set p))

end SigmaRules.Loading
