/-
SigmaRules/Search/Basic.lean

Searches: the leaves of a rule.  A search inspects one field of an entry, or
its message, and asks whether patterns match it; modifiers say how the
patterns are meant.
-/
import SigmaRules.Entry
import SigmaRules.Search.Modifier
import SigmaRules.Text.Quoted

namespace SigmaRules

/-- A search.  Without a field, or with an empty one, it inspects the message. -/
structure Search where
  field : Option String
  modifiers : List Modifier
  patterns : List String
  deriving DecidableEq, Repr

namespace Search

/-- The name of the field, if it has one that is not empty. -/
def fieldName? (s : Search) : Option String := s.field.filter (!·.isEmpty)

/-- Does the search have the modifier? -/
def has (s : Search) (m : Modifier) : Bool := s.modifiers.contains m

/-- The field and the modifiers, with bars between them. -/
def key (s : Search) : String :=
  "|".intercalate (s.field.getD "" :: s.modifiers.map Modifier.name)

/-- The patterns in quotes, with commas between them. -/
def patternsText (s : Search) : String := ", ".intercalate (s.patterns.map Text.quoted)

/-- The text of a search, such as `search(Image|endswith: 'whoami.exe')`. -/
def text (s : Search) : String :=
  if s.key.isEmpty then "search(" ++ s.patternsText ++ ")"
  else "search(" ++ s.key ++ ": " ++ s.patternsText ++ ")"

/-- The text of an entry that the search inspects. -/
def inspected (s : Search) (e : Entry) : String :=
  match s.fieldName? with
  | some f => e.get f
  | none => e.message

end Search

end SigmaRules
