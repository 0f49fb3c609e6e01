/-
SigmaRules/Pattern/Glob.lean

Texts as regular expressions.  `escape` writes an expression that matches the
text itself, and `glob` one in which a star stands for any run of characters
and a question mark for any character.
-/

namespace SigmaRules.Pattern

/-- Characters that have a meaning in regular expressions. -/
def isSpecial (c : Char) : Bool := "()[]\x7b\x7d?*+-|^$\\.&~# \t\n\r\x0b\x0c".toList.contains c

/-- A character that stands for itself in a regular expression. -/
def escapeChar (c : Char) : List Char := if isSpecial c then ['\\', c] else [c]

/-- The regular expression that matches the text. -/
def escape (s : List Char) : List Char := s.flatMap escapeChar

/-- The text with a replacement for each occurrence of a pair of characters, found
from left to right. -/
def replacePair (a b : Char) (new : List Char) : List Char → List Char
  | c :: d :: rest =>
    if c == a && d == b then new ++ replacePair a b new rest
    else c :: replacePair a b new (d :: rest)
  | s => s

/-- The regular expression of a glob: what stands for an escaped star or question
mark is replaced in the escaped text. -/
def glob (s : List Char) : List Char :=
  replacePair '\\' '?' ['.'] (replacePair '\\' '*' ['.', '*'] (escape s))

end SigmaRules.Pattern
