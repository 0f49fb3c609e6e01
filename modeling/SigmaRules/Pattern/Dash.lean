/-
SigmaRules/Pattern/Dash.lean

Flags of command lines may be introduced by a hyphen, a slash and some
dashes that look alike.  `dashVariants` writes a text once with each of them
in the place of the first hyphen or slash that starts a word.
-/
import SigmaRules.Text.Word

namespace SigmaRules.Pattern

open Text

/-- The characters that introduce a flag. -/
def dashes : List Char := ['-', '/', '\u2013', '\u2014', '\u2015']

/-- Does the text start with a hyphen or a slash that starts a word, given that
a word may start here? -/
def dashStarts : List Char → Bool
  | c :: d :: _ => (c == '-' || c == '/') && isAsciiWord d
  | _ => false

/-- The text with another character for the first dash that starts a word;
`fresh` says that no word ends here. -/
def replaceDash (dash : Char) (fresh : Bool) : List Char → List Char
  | [] => []
  | c :: rest =>
    if fresh && dashStarts (c :: rest) then dash :: rest
    else c :: replaceDash dash (!isAsciiWord c) rest

/-- The text with each of the dashes. -/
def dashVariants (s : List Char) : List (List Char) := dashes.map (replaceDash · true s)

end SigmaRules.Pattern
