/-
SigmaRules/Files/Path.lean

Paths of files: names, from the working directory or from the root on.  Empty
names and single dots lead nowhere and are left out.
-/
import SigmaRules.Text.Split

namespace SigmaRules.Files

/-- A path. -/
structure Path where
  names : List String
  /-- Does it start at the root? -/
  absolute : Bool := false
  deriving DecidableEq, Repr

namespace Path

/-- What stands between the names of a path. -/
def separator : Char := '/'

/-- The path that a text writes. -/
def parse (s : String) : Path where
  names := ((Text.splitAt (· == separator) s.toList).map String.ofList).filter fun n =>
    n != "" && n != "."
  absolute := s.toList.head? == some separator

/-- The text of a path. -/
def text (p : Path) : String :=
  let names := (String.singleton separator).intercalate p.names
  if p.absolute then String.singleton separator ++ names
  else if p.names.isEmpty then "."
  else names

/-- The path of what is in a directory. -/
def child (p : Path) (name : String) : Path := { p with names := p.names ++ [name] }

end Path

end SigmaRules.Files
