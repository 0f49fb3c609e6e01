/-
SigmaRules/Search/Evaluate.lean

Whether a search matches an entry.  Invalid searches, searches without
patterns, and patterns that make no regular expression together match
nothing.

All patterns are joined to one expression, of which any alternative may
match; with the modifier `all` each pattern is an expression of its own, and
all have to match.
-/
import SigmaRules.Regex.Matcher
import SigmaRules.Search.Expression

namespace SigmaRules.Search

/-- The patterns to look for: those of the search, or the values of the
placeholders that they name. -/
def resolve (s : Search) (ps : Placeholders) : List String :=
  if s.has .expand then
    s.patterns.flatMap fun p => ps.values (String.ofList (Pattern.placeholderName p.toList))
  else s.patterns

/-- Is the text an address or a block within one of the given blocks?  Patterns
that are no blocks are passed over. -/
def matchesNetworks (patterns : List String) (value : String) : Bool :=
  match Network.Block.ofText? value with
  | none => false
  | some b => (patterns.filterMap Network.Block.ofText?).any (·.contains b)

/-- The sources of the expressions that all have to match. -/
def sources (s : Search) (patterns : List String) : List (List Char) :=
  let es := patterns.map (expression s.modifiers s.field)
  if s.has .all then es else [alternatives es]

/-- Do all the expressions match?  If one of them is malformed, they do not. -/
def matchesAllOf (value : List Char) : List (List Char) → Except Fault Bool
  | [] => .ok true
  | e :: rest => do
    match ← readRegex { ignoreCase := true } e with
    | none => .ok false
    | some n => return (← matchesAllOf value rest) && n.search value

/-- Do the resolved patterns match the text? -/
def matchesText (s : Search) (patterns : List String) (value : String) : Except Fault Bool :=
  if s.has .cidr then .ok (matchesNetworks patterns value)
  else matchesAllOf value.toList (s.sources patterns)

/-- Does the search match the entry? -/
def succeeds (s : Search) (e : Entry) (ps : Placeholders) : Except Fault Bool :=
  match s.kind with
  | .error (.fault f) => .error f
  | .error (.invalid _) => .ok false
  | .ok _ =>
    let patterns := s.resolve ps
    if patterns.isEmpty then .ok false else s.matchesText patterns (s.inspected e)

end SigmaRules.Search
