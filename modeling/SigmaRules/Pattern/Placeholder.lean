/-
SigmaRules/Pattern/Placeholder.lean

Placeholders: names between percent signs, for which values are given when a
search is evaluated.
-/

namespace SigmaRules

/-- The values that placeholders stand for. -/
abbrev Placeholders := List (String × List String)

/-- The values of a placeholder; one that is unknown has none. -/
def Placeholders.values (ps : Placeholders) (name : String) : List String :=
  (List.lookup name ps).getD []

/-- The placeholders with values written for a name. -/
def Placeholders.put : Placeholders → String → List String → Placeholders
  | [], name, values => [(name, values)]
  | p :: rest, name, values =>
    if p.1 == name then (name, values) :: rest else p :: put rest name values

namespace Pattern

/-- Is the text between percent signs?  A single sign is both of them. -/
def isPlaceholder (s : List Char) : Bool := s.head? == some '%' && s.getLast? == some '%'

/-- The name of a placeholder: the text without its first and its last
character. -/
def placeholderName (s : List Char) : List Char := (s.drop 1).dropLast

end Pattern

end SigmaRules
