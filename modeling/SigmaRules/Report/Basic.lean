/-
SigmaRules/Report/Basic.lean

Reports: what was matched against which rules, and what came of it.
-/
import SigmaRules.Matching

namespace SigmaRules

open Document

/-- What a report says about the run that it is about. -/
structure Run where
  moment : Moment
  version : String
  arguments : Option (List String)
  input : String
  rules : List String
  origin : Origin
  entryCount : Nat
  deriving Repr

/-- A report: a run, and what it has found. -/
structure Report where
  run : Run
  found : Matches

/-- The attributes of an origin that are not empty, with their names. -/
def Origin.attributes (o : Origin) : List (String × String) :=
  [("product", o.product), ("service", o.service), ("category", o.category)].filterMap fun a =>
    (a.2.filter (· != "")).map fun v => (a.1, v)

namespace Report

/-- Texts one below the other. -/
def stacked (texts : List String) : String := "\n".intercalate texts

/-- What a report says about its run. -/
def runRows (r : Run) : List (String × String) :=
  [("input", r.input), ("entries", toString r.entryCount), ("rules", stacked r.rules)] ++
    r.origin.attributes

/-- What a report says if no rule matches. -/
def nothingFound : String := "no matches found"

end Report

end SigmaRules
