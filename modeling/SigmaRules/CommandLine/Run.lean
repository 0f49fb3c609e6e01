/-
SigmaRules/CommandLine/Run.lean

Runs of the program: the input has to be a file, the rules are loaded, then the
placeholders, the entries are matched, and a report is written.  The first
stage that fails ends the run, and nothing is written.
-/
import SigmaRules.CommandLine.Arguments
import SigmaRules.CommandLine.Help
import SigmaRules.CommandLine.Stage
import SigmaRules.Loading.Entries
import SigmaRules.Loading.Placeholders
import SigmaRules.Loading.Rules
import SigmaRules.Report.Json
import SigmaRules.Report.Summary
import SigmaRules.Report.Verbose

namespace SigmaRules.CommandLine

open Files

/-- What a run gives: its code, what it writes, and what it logs. -/
structure Answer where
  code : Nat
  output : String := ""
  log : List Message := []
  deriving DecidableEq, Repr

/-! ### Stages -/

/-- The bytes of the input. -/
def readInput (disk : Disk) (o : Options) : Stage (List UInt8) :=
  match disk.read o.input with
  | .ok bytes => .done bytes
  | .error _ =>
    .stop .missingFile
      ["input file " ++ o.input.text ++ " does not exist or cannot be accessed"]

/-- What may help if a file of a rule is malformed. -/
def hint (p : Loading.Problem) : String :=
  match p with
  | .file _ (.rule r) =>
    if r.kind == .aggregation then "Use --skip-unsupported to ignore rules that use aggregations."
    else properRules
  | _ => properRules
where
  /-- What may help with rules in general. -/
  properRules : String := "Make sure your rule paths contain properly formatted Sigma rules."

/-- The rules. -/
def readRules (disk : Disk) (o : Options) : Stage RuleSet :=
  let (events, result) := Loading.loadRules disk o.rules o.skipUnsupported
  let warnings := (events.filterMap Loading.Event.warning?).map fun w => (⟨.warning, w⟩ : Message)
  .after warnings <|
    match result with
    | .ok s => .done s
    | .error (.fault f) => .fail f
    | .error (.invalid (.missing path)) =>
      .stop .missingRules [(Loading.Problem.missing path).report]
    | .error (.invalid p) => .stop .invalidRule [p.report, hint p]

/-- The rules with the tag that is asked for. -/
def selectRules (o : Options) (s : RuleSet) : Stage RuleSet :=
  match o.tag with
  | none => .done s
  | some tag =>
    match s.filter tag with
    | .ok s => .done s
    | .error _ => .stop .missingRules ["no rules match the tag: " ++ tag]

/-- The placeholders. -/
def readPlaceholders (disk : Disk) (o : Options) : Stage Placeholders :=
  let failed (why : String) : Stage Placeholders :=
    .stop .invalidPlaceholders ["failed to load placeholders: " ++ why]
  match o.placeholders with
  | none => .done []
  | some path =>
    match disk.read path with
    | .error p => failed (p.message path)
    | .ok bytes =>
      match Loading.readPlaceholders bytes with
      | .ok ps => .done ps
      | .error (.invalid p) => failed (p.report path)
      | .error (.fault f) =>
        match Loading.faultReport? f with
        | some why => failed why
        | none => .fail f

/-- Where the entries come from. -/
def Options.origin (o : Options) : Origin := ⟨o.product, o.service, o.category⟩

/-- The matches, and the number of entries.  Entries are matched as they are read,
so that a fault comes before the problem of a later line. -/
def matchEntries (d : Loading.Depths) (o : Options) (s : RuleSet) (ps : Placeholders)
    (input : List UInt8) : Stage (Matches × Nat) :=
  let read := Loading.readEntries d input
  match s.findMatches o.origin ps read.entries with
  | .error f => .fail f
  | .ok found =>
    match read.stop with
    | none => .done found
    | some (.line number p) => .stop .invalidInput [p.report o.input number]
    | some (.fault f) => .fail f

/-- The text of a report, in the form that is asked for. -/
def write (room : Nat) (o : Options) (r : Report) : Stage String :=
  let text :=
    if o.json then r.json else if o.verbose then .ok (r.verbose room) else r.summary room
  match text with
  | .ok s => .done s
  | .error f => .fail f

/-- A run, at a moment, in a console with so many columns. -/
def stages (disk : Disk) (d : Loading.Depths) (room : Nat) (now : Document.Moment)
    (arguments : List String) (o : Options) : Stage String :=
  (readInput disk o).andThen fun input =>
  (readRules disk o).andThen fun all =>
  (selectRules o all).andThen fun rules =>
  (readPlaceholders disk o).andThen fun ps =>
  (matchEntries d o rules ps input).andThen fun found =>
  write room o {
    run := {
      moment := now
      version := version
      arguments := if arguments.isEmpty then none else some arguments
      input := o.input.text
      rules := o.rules.map Path.text
      origin := o.origin
      entryCount := found.2 }
    found := found.1 }

/-! ### Answers -/

/-- Can the message be read? -/
def Message.isReadable (m : Message) : Bool := (Report.readMarkup m.text).toBool

/-- What a run gives.  A message that cannot be read is a fault. -/
def Stage.answer (s : Stage String) : Except Fault Answer :=
  if s.log.all Message.isReadable then
    match s.result with
    | .ok text => .ok ⟨0, Layout.line text, s.log⟩
    | .error (.exit code) => .ok ⟨code.number, "", s.log⟩
    | .error (.fault f) => .error f
  else .error .malformedMarkup

/-- The code for a command line that is malformed. -/
def usageCode : Nat := 2

/-- What the program gives for a command line: what is wrong with it, or the
answer. -/
def respond (disk : Disk) (d : Loading.Depths) (room : Nat) (now : Document.Moment)
    (arguments : List String) : Except UsageProblem (Except Fault Answer) :=
  (Request.ofArguments arguments).map fun request =>
    match request with
    | .help => .ok ⟨0, help room, []⟩
    | .version => .ok ⟨0, Layout.line (programName ++ " " ++ version), []⟩
    | .report o => (stages disk d room now arguments o).answer

end SigmaRules.CommandLine
