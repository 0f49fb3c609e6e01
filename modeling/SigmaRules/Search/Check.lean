/-
SigmaRules/Search/Check.lean

Which searches are valid, and how their patterns are read.  Modifiers are
checked in order and the first problem is the one reported; patterns are
checked after all modifiers, except that placeholders are checked where their
modifier stands.
-/
import SigmaRules.Fault
import SigmaRules.Network.Block
import SigmaRules.Pattern.InlineFlags
import SigmaRules.Pattern.Placeholder
import SigmaRules.Regex.Parser
import SigmaRules.Search.Basic

namespace SigmaRules

/-- What is wrong with a search. -/
inductive SearchProblem
  | noPatterns
  | regexAndNetwork
  | expandNotFirst
  | notPlaceholder (pattern : String)
  | notRegex (pattern : String)
  | notNetwork (pattern : String)
  | unknownModifier (name : String)
  deriving DecidableEq, Repr

/-- The marker that stands for what the reader of regular expressions says. -/
def regexMarker : String := "<regex>"

/-- What is wrong, in words. -/
def SearchProblem.message : SearchProblem → String
  | .noPatterns => "no patterns"
  | .regexAndNetwork => "modifiers re and cidr are mutually exclusive"
  | .expandNotFirst => "expand can only be the first modifier"
  | .notPlaceholder p => "placeholder \"" ++ p ++ "\" must start and end with \x27%\x27"
  | .notRegex p => "pattern " ++ p ++ ": " ++ regexMarker
  | .notNetwork p => "pattern " ++ p ++ ": not a valid CIDR"
  | .unknownModifier name => "unknown modifier \"" ++ name ++ "\""

/-- How the patterns of a search are read. -/
inductive PatternKind
  | glob
  | regex
  | network
  deriving DecidableEq, Repr

/-- The name of a kind of patterns. -/
def PatternKind.name : PatternKind → String
  | .glob => "glob"
  | .regex => "re"
  | .network => "cidr"

/-- Reads a regular expression that may be malformed, or too demanding to be
read at all. -/
def readRegex (flags : Regex.Flags) (source : List Char) : Except Fault (Option Regex.Node) :=
  match Regex.parse flags source with
  | .ok n => .ok (some n)
  | .error .malformed => .ok none
  | .error .repeatTooLarge => .error .countTooLarge
  | .error .numberTooLong | .error .clashingFlags => .error .numberTooLong

namespace Search

/-- The modifiers from a position on, with the kind of patterns found so far. -/
def checkModifiers (patterns : List String) (first : Bool) (kind : PatternKind) :
    List Modifier → Except SearchProblem PatternKind
  | [] => .ok kind
  | m :: rest =>
    match m with
    | .re =>
      if kind == .network then .error .regexAndNetwork
      else checkModifiers patterns false .regex rest
    | .cidr =>
      if kind == .regex then .error .regexAndNetwork
      else checkModifiers patterns false .network rest
    | .expand =>
      if !first then .error .expandNotFirst
      else
        match patterns.find? fun p => !Pattern.isPlaceholder p.toList with
        | some p => .error (.notPlaceholder p)
        | none => checkModifiers patterns false kind rest
    | .unknown name _ => .error (.unknownModifier name)
    | _ => checkModifiers patterns false kind rest

/-- A regular expression as a group of its own. -/
def regexSource (p : String) : List Char := "(?:".toList ++ Pattern.scopeFlags p.toList ++ [')']

/-- Every pattern is a regular expression. -/
def checkRegexes : List String → Except (Failure SearchProblem) Unit
  | [] => .ok ()
  | p :: rest =>
    match readRegex {} (regexSource p) with
    | .ok (some _) => checkRegexes rest
    | .ok none => .error (.invalid (.notRegex p))
    | .error f => .error (.fault f)

/-- Every pattern is a block of addresses. -/
def checkNetworks : List String → Except (Failure SearchProblem) Unit
  | [] => .ok ()
  | p :: rest =>
    match Network.Block.ofText? p with
    | some _ => checkNetworks rest
    | none => .error (.invalid (.notNetwork p))

/-- How the patterns are read, if the search is valid. -/
def check (modifiers : List Modifier) (patterns : List String) :
    Except (Failure SearchProblem) PatternKind :=
  if patterns.isEmpty then .error (.invalid .noPatterns)
  else
    match checkModifiers patterns true .glob modifiers with
    | .error p => .error (.invalid p)
    | .ok kind =>
      if modifiers.contains .expand then .ok kind
      else
        match kind with
        | .glob => .ok .glob
        | .regex => (checkRegexes patterns).map fun _ => .regex
        | .network => (checkNetworks patterns).map fun _ => .network

/-- How the patterns of the search are read, if it is valid. -/
def kind (s : Search) : Except (Failure SearchProblem) PatternKind := check s.modifiers s.patterns

end Search

end SigmaRules
