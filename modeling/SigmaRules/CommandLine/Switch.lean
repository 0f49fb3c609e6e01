/-
SigmaRules/CommandLine/Switch.lean

The switches of the command line, and how they are written.  A long switch may
be cut short as long as no other one starts like it.  A value follows in the
next word, or in the same one: after an equals sign or, behind the letter of a
short switch, right away.
-/
import SigmaRules.Text.Split
import SigmaRules.Text.Word

namespace SigmaRules.CommandLine

/-- A switch of the command line. -/
inductive Switch
  | help
  | version
  | verbose
  | debug
  | quiet
  | color
  | rules
  | skipUnsupported
  | tag
  | product
  | service
  | category
  | placeholders
  | json
  deriving DecidableEq, Repr

namespace Switch

/-- All switches. -/
def all : List Switch := [help, version, verbose, debug, quiet, color, rules, skipUnsupported, tag,
  product, service, category, placeholders, json]

/-- How a switch is written. -/
def spellings : Switch → List String
  | help => ["-h", "--help"]
  | version => ["--version"]
  | verbose => ["-v", "--verbose"]
  | debug => ["-d", "--debug"]
  | quiet => ["-q", "--quiet"]
  | color => ["--color"]
  | rules => ["-r", "--rules"]
  | skipUnsupported => ["--skip-unsupported"]
  | tag => ["-t", "--tag"]
  | product => ["--product"]
  | service => ["--service"]
  | category => ["--category"]
  | placeholders => ["-p", "--placeholders"]
  | json => ["-j", "--json"]

/-- Does a value follow the switch? -/
def takesValue : Switch → Bool
  | color | rules | tag | product | service | category | placeholders => true
  | _ => false

/-- The switch that is written so. -/
def ofText? (s : String) : Option Switch := all.find? fun w => w.spellings.contains s

/-- The switches that have a spelling with the given start, with the spelling. -/
def startingWith (start : List Char) : List (Switch × String) :=
  all.flatMap fun w => (w.spellings.filter fun s => start.isPrefixOf s.toList).map fun s => (w, s)

end Switch

/-- The rest of a word behind a switch. -/
structure Attached where
  text : List Char
  /-- Does an equals sign come before it? -/
  marked : Bool
  deriving DecidableEq, Repr

/-- A word of the command line. -/
inductive Word
  /-- A word that is no switch. -/
  | plain (s : String)
  /-- Two dashes, after which all words are plain. -/
  | separator
  /-- A switch, short or long. -/
  | switch (w : Switch) (short : Bool) (rest : Option Attached)
  /-- A word that looks like a switch, but is none. -/
  | unknown (s : String)
  deriving DecidableEq, Repr

/-- Is the text nothing but digits? -/
def isDigits (s : List Char) : Bool := s.all fun c => (Text.digitValue? c).isSome

/-- Does the text write a negative number? -/
def isNegativeNumber (s : List Char) : Bool :=
  match s with
  | '-' :: rest =>
    match Text.cutAt '.' (if rest.getLast? == some '\n' then rest.dropLast else rest) with
    | (whole, none) => !whole.isEmpty && isDigits whole
    | (whole, some part) => isDigits whole && !part.isEmpty && isDigits part
  | _ => false

/-- The word, if it is no switch after all: a negative number, or a text with a
space. -/
def Word.unlessPlain (s : String) : Word :=
  if isNegativeNumber s.toList || s.toList.contains ' ' then .plain s else .unknown s

/-- The word that a text writes, unless it may be the start of several switches,
which are given back. -/
def Word.ofText (s : String) : Except (List String) Word :=
  match s.toList with
  | '-' :: c :: rest =>
    let cut := Text.cutAt '=' s.toList
    let attached := cut.2.map fun t => (⟨t, true⟩ : Attached)
    match Switch.ofText? s, Switch.ofText? (String.ofList cut.1) with
    | some w, _ => .ok (.switch w (c != '-') none)
    | none, some w => .ok (.switch w (c != '-') attached)
    | none, none =>
      if c == '-' then
        match Switch.startingWith cut.1 with
        | [(w, _)] => .ok (.switch w false attached)
        | [] => .ok (unlessPlain s)
        | ws => .error (ws.map (·.2))
      else
        match Switch.ofText? (String.ofList ['-', c]) with
        | some w => .ok (.switch w true (some ⟨rest, false⟩))
        | none => .ok (unlessPlain s)
  | _ => .ok (.plain s)

/-- Two dashes. -/
def separatorText : String := "--"

/-- The words that texts write; or a text that may be the start of several
switches, and these. -/
def Word.ofTexts : List String → Except (String × List String) (List Word)
  | [] => .ok []
  | s :: ss =>
    if s == separatorText then .ok (.separator :: ss.map .plain)
    else do
      let w ← (Word.ofText s).mapError fun candidates => (s, candidates)
      let ws ← ofTexts ss
      return w :: ws

end SigmaRules.CommandLine
