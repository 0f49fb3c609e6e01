/-
SigmaRules/Matching.lean

Matching the entries of a log against a set of rules.  Only rules count that
are written for the log source of the entries; an attribute of the log source
tells rules apart only if both sides name it.
-/
import SigmaRules.RuleSet

namespace SigmaRules

/-- Where entries come from. -/
structure Origin where
  product : Option String := none
  service : Option String := none
  category : Option String := none
  deriving DecidableEq, Repr

/-- Is the rule written for entries of this origin? -/
def Rule.appliesTo (r : Rule) (o : Origin) : Bool :=
  match r.logSource with
  | none => true
  | some s =>
    !(LogSource.differs s.product o.product || LogSource.differs s.service o.service ||
      LogSource.differs s.category o.category)

/-- Does the rule apply to the entry, and match it? -/
def Rule.accepts (o : Origin) (e : Entry) (ps : Placeholders) (r : Rule) : Except Fault Bool :=
  if r.appliesTo o then r.matchesEntry e ps else .ok false

/-- The full outcome of the rule on the entry. -/
def Rule.explain (e : Entry) (ps : Placeholders) (r : Rule) : Except Fault Outcome :=
  (r.evaluate ⟨e, ps, false⟩ {}).map (·.1)

/-- The matches of each rule, with the lines of the entries. -/
abbrev Matches := List (Rule × List (Nat × Outcome))

namespace Matching

/-- For each rule, whether it accepts the entry. -/
def verdicts (o : Origin) (e : Entry) (ps : Placeholders) : List Rule → Except Fault (List Bool)
  | [] => .ok []
  | r :: rs => do
    let b ← r.accepts o e ps
    let bs ← verdicts o e ps rs
    return b :: bs

/-- For each rule that accepts the entry, its full outcome. -/
def outcomes (e : Entry) (ps : Placeholders) :
    List Rule → List Bool → Except Fault (List (Option Outcome))
  | r :: rs, b :: bs => do
    let x ← if b then (r.explain e ps).map some else .ok none
    let xs ← outcomes e ps rs bs
    return x :: xs
  | _, _ => .ok []

/-- For each rule, its full outcome if it accepts the entry. -/
def row (rules : List Rule) (o : Origin) (e : Entry) (ps : Placeholders) :
    Except Fault (List (Option Outcome)) := do
  let bs ← verdicts o e ps rules
  outcomes e ps rules bs

/-- What is found while a log is read: the places of the rules that have matched, in the
order of their first matches, each with its matches. -/
abbrev Found := List (Nat × List (Nat × Outcome))

/-- Adds a match of the rule at a place. -/
def add (place line : Nat) (out : Outcome) : Found → Found
  | [] => [(place, [(line, out)])]
  | (p, ms) :: found =>
    if p = place then (p, ms ++ [(line, out)]) :: found else (p, ms) :: add place line out found

/-- Adds the outcomes on the entry of a line, for the rules from a place on. -/
def addRow (line : Nat) : Nat → List (Option Outcome) → Found → Found
  | _, [], found => found
  | place, none :: xs, found => addRow line (place + 1) xs found
  | place, some out :: xs, found => addRow line (place + 1) xs (add place line out found)

/-- Asks the rules about one entry after the other. -/
def collect (rules : List Rule) (o : Origin) (ps : Placeholders) (found : Found) :
    List (Nat × Entry) → Except Fault Found
  | [] => .ok found
  | (line, e) :: es => do
    let xs ← row rules o e ps
    collect rules o ps (addRow line 0 xs found) es

/-- What is found, in the order of the rules, which are those from a place on. -/
def listed (found : Found) : Nat → List Rule → Matches
  | _, [] => []
  | place, r :: rs =>
    match found.lookup place with
    | some ms => (r, ms) :: listed found (place + 1) rs
    | none => listed found (place + 1) rs

end Matching

namespace RuleSet

/-- The rules that accept the entry. -/
def matching (s : RuleSet) (o : Origin) (e : Entry) (ps : Placeholders) :
    Except Fault (List Rule) := do
  let bs ← Matching.verdicts o e ps s.rules
  return ((s.rules.zip bs).filter (·.2)).map (·.1)

/-- The rules that accept the entry, with their full outcomes. -/
def explain (s : RuleSet) (o : Origin) (e : Entry) (ps : Placeholders) :
    Except Fault (List (Rule × Outcome)) := do
  let xs ← Matching.row s.rules o e ps
  return (s.rules.zip xs).filterMap fun x => x.2.map fun out => (x.1, out)

/-- The matches of the rules that match at least one of the entries, in the order
of the rules, and how many entries there are. -/
def findMatches (s : RuleSet) (o : Origin) (ps : Placeholders) (es : List (Nat × Entry)) :
    Except Fault (Matches × Nat) := do
  let found ← Matching.collect s.rules o ps [] es
  return (Matching.listed found 0 s.rules, es.length)

end RuleSet

end SigmaRules
