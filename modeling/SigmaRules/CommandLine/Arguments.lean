/-
SigmaRules/CommandLine/Arguments.lean

What the arguments of the command line ask for.
-/
import SigmaRules.CommandLine.Switch
import SigmaRules.Files.Path

namespace SigmaRules.CommandLine

/-- When reports are colored. -/
inductive Coloring
  | auto
  | always
  | never
  deriving DecidableEq, Repr

/-- The coloring of a name. -/
def Coloring.ofText? : String → Option Coloring
  | "auto" => some auto
  | "always" => some always
  | "never" => some never
  | _ => none

/-- What has been given on the command line. -/
structure Given where
  input : Option String := none
  rules : List String := []
  verbose : Bool := false
  debug : Bool := false
  quiet : Bool := false
  coloring : Coloring := .auto
  skipUnsupported : Bool := false
  tag : Option String := none
  product : Option String := none
  service : Option String := none
  category : Option String := none
  placeholders : Option String := none
  json : Bool := false
  /-- Words that are not expected. -/
  surplus : List String := []
  deriving DecidableEq, Repr

/-- What is wrong with a command line. -/
inductive UsageProblem
  /-- A text may be the start of several switches. -/
  | ambiguous (s : String) (candidates : List String)
  /-- A switch lacks its value. -/
  | noValue (w : Switch)
  /-- A switch that has no value is given one. -/
  | ignoredValue (w : Switch) (value : String)
  /-- There is no such coloring. -/
  | notColoring (s : String)
  /-- Arguments that are required are not given. -/
  | missing (names : List String)
  /-- There are words that are not expected. -/
  | surplus (words : List String)
  deriving DecidableEq, Repr

/-- What is wrong, in words. -/
def UsageProblem.message : UsageProblem → String
  | .ambiguous s candidates =>
    "ambiguous option: " ++ s ++ " could match " ++ ", ".intercalate candidates
  | .noValue w => "argument " ++ "/".intercalate w.spellings ++ ": expected one argument"
  | .ignoredValue w value =>
    "argument " ++ "/".intercalate w.spellings ++ ": ignored explicit argument " ++ value
  | .notColoring s =>
    "argument --color: invalid choice: " ++ s ++ " (choose from auto, always, never)"
  | .missing names => "the following arguments are required: " ++ ", ".intercalate names
  | .surplus words => "unrecognized arguments: " ++ " ".intercalate words

/-- Why the rest of a command line is not read. -/
inductive Stop
  | help
  | version
  | problem (p : UsageProblem)
  deriving DecidableEq, Repr

/-- What has been given, with a switch and its value. -/
def Given.apply (g : Given) (w : Switch) (value : String) : Except Stop Given :=
  match w with
  | .help => .error .help
  | .version => .error .version
  | .verbose => .ok { g with verbose := true }
  | .debug => .ok { g with debug := true }
  | .quiet => .ok { g with quiet := true }
  | .color =>
    match Coloring.ofText? value with
    | some c => .ok { g with coloring := c }
    | none => .error (.problem (.notColoring value))
  | .rules => .ok { g with rules := g.rules ++ [value] }
  | .skipUnsupported => .ok { g with skipUnsupported := true }
  | .tag => .ok { g with tag := some value }
  | .product => .ok { g with product := some value }
  | .service => .ok { g with service := some value }
  | .category => .ok { g with category := some value }
  | .placeholders => .ok { g with placeholders := some value }
  | .json => .ok { g with json := true }

/-- What has been given, with switches that have no value. -/
def Given.applyAll (g : Given) (ws : List Switch) : Except Stop Given :=
  ws.foldlM (fun g w => g.apply w "") g

/-- The switches in a word: those without a value and, at the end, one that takes
a value, with that value if it is in the word, or else a rest that is none. -/
structure Cluster where
  flags : List Switch
  last : Option (Switch × Option String) := none
  surplus : Option String := none

/-- The cluster with a switch before it. -/
def Cluster.addFlag (w : Switch) (c : Cluster) : Cluster := { c with flags := w :: c.flags }

/-- The switches of a word that starts with a switch.  Behind a short switch that
takes no value there may be others. -/
def cluster (w : Switch) (short : Bool) : Option Attached → Except UsageProblem Cluster
  | none => .ok (if w.takesValue then ⟨[], some (w, none), none⟩ else ⟨[w], none, none⟩)
  | some a =>
    if w.takesValue then .ok ⟨[], some (w, some (String.ofList a.text)), none⟩
    else if short && !a.marked then letters w a.text
    else .error (.ignoredValue w (String.ofList a.text))
where
  /-- The switches whose letters stand behind a switch without a value. -/
  letters (w : Switch) : List Char → Except UsageProblem Cluster
    | [] => .error (.ignoredValue w "")
    | c :: rest =>
      if c == '-' then .error (.ignoredValue w (String.ofList (c :: rest)))
      else
        match Switch.ofText? (String.ofList ['-', c]) with
        | none => .ok ⟨[w], none, some (String.ofList ('-' :: c :: rest))⟩
        | some v =>
          if v.takesValue then
            let value := match rest with
              | [] => none
              | '=' :: value => some (String.ofList value)
              | value => some (String.ofList value)
            .ok ⟨[w], some (v, value), none⟩
          else
            match rest with
            | [] => .ok ⟨[w, v], none, none⟩
            | '=' :: value => .error (.ignoredValue v (String.ofList value))
            | rest => (letters v rest).map (Cluster.addFlag w)

/-- Where in a command line a word stands. -/
inductive Place
  /-- Right behind the input. -/
  | behindInput
  /-- Where the value of a switch is expected.  Flags in the word of the switch
  count only once the value is there. -/
  | behindSwitch (flags : List Switch) (w : Switch)
  /-- Anywhere else. -/
  | elsewhere
  deriving DecidableEq, Repr

/-- What has been given, with a cluster, and the place behind it. -/
def Given.applyCluster (g : Given) (c : Cluster) : Except Stop (Given × Place) :=
  match c.last with
  | some (w, none) => .ok (g, .behindSwitch c.flags w)
  | some (w, some value) => do
    let g ← g.applyAll c.flags
    let g ← g.apply w value
    return (g, .elsewhere)
  | none => do
    let g ← g.applyAll c.flags
    return ({ g with surplus := g.surplus ++ c.surplus.toList }, .elsewhere)

/-- What has been given, with one more word at a place, and the place behind it.
The first plain word is the input.  A separator is not expected once the input
is known, except right behind it. -/
def Given.readWord (g : Given) : Place → Word → Except Stop (Given × Place)
  | .behindSwitch flags w, .plain value => do
    let g ← g.applyAll flags
    let g ← g.apply w value
    return (g, .elsewhere)
  | .behindSwitch _ w, _ => .error (.problem (.noValue w))
  | _, .plain s =>
    if g.input.isNone then .ok ({ g with input := some s }, .behindInput)
    else .ok ({ g with surplus := g.surplus ++ [s] }, .elsewhere)
  | place, .separator =>
    if g.input.isNone || place == .behindInput then .ok (g, .elsewhere)
    else .ok ({ g with surplus := g.surplus ++ [separatorText] }, .elsewhere)
  | _, .unknown s => .ok ({ g with surplus := g.surplus ++ [s] }, .elsewhere)
  | _, .switch w short attached =>
    match cluster w short attached with
    | .error p => .error (.problem p)
    | .ok c => g.applyCluster c

/-- What has been given, with words from a place on. -/
def Given.read (g : Given) : Place → List Word → Except Stop Given
  | .behindSwitch _ w, [] => .error (.problem (.noValue w))
  | _, [] => .ok g
  | place, word :: rest => do
    let (g, place) ← g.readWord place word
    g.read place rest

/-- The options of a run. -/
structure Options where
  input : Files.Path
  rules : List Files.Path
  verbose : Bool
  debug : Bool
  quiet : Bool
  coloring : Coloring
  skipUnsupported : Bool
  tag : Option String
  product : Option String
  service : Option String
  category : Option String
  placeholders : Option Files.Path
  json : Bool
  deriving DecidableEq, Repr

/-- The options that have been given.  A tag or a path of placeholders that is
empty counts as not given. -/
def Given.options (g : Given) : Except UsageProblem Options :=
  let missing := (if g.input.isNone then ["input_file"] else []) ++
    (if g.rules.isEmpty then ["/".intercalate Switch.rules.spellings] else [])
  if !missing.isEmpty then .error (.missing missing)
  else if !g.surplus.isEmpty then .error (.surplus g.surplus)
  else .ok {
    input := .parse (g.input.getD "")
    rules := g.rules.map .parse
    verbose := g.verbose
    debug := g.debug
    quiet := g.quiet
    coloring := g.coloring
    skipUnsupported := g.skipUnsupported
    tag := g.tag.filter (· != "")
    product := g.product
    service := g.service
    category := g.category
    placeholders := (g.placeholders.filter (· != "")).map .parse
    json := g.json }

/-- What a command line asks for. -/
inductive Request
  | help
  | version
  | report (o : Options)
  deriving DecidableEq, Repr

/-- What arguments ask for. -/
def Request.ofArguments (arguments : List String) : Except UsageProblem Request :=
  match Word.ofTexts arguments with
  | .error (s, candidates) => .error (.ambiguous s candidates)
  | .ok words =>
    match ({} : Given).read .elsewhere words with
    | .error .help => .ok .help
    | .error .version => .ok .version
    | .error (.problem p) => .error p
    | .ok g => g.options.map .report

end SigmaRules.CommandLine
