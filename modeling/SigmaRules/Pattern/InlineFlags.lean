/-
SigmaRules/Pattern/InlineFlags.lean

Flags at the start of a regular expression hold for all of it.  Within a
larger expression they have to be the flags of a group instead.
-/

namespace SigmaRules.Pattern

/-- The letters of flags that are recognised at the start of an expression. -/
def isLeadingFlag (c : Char) : Bool := "aiLmsux".toList.contains c

/-- The expression with flags at its start made the flags of a group. -/
def scopeFlags : List Char → List Char
  | '(' :: '?' :: rest =>
    match rest.takeWhile isLeadingFlag, rest.dropWhile isLeadingFlag with
    | [], _ => '(' :: '?' :: rest
    | flags, ')' :: body => '(' :: '?' :: flags ++ ':' :: body ++ [')']
    | _, _ => '(' :: '?' :: rest
  | s => s

end SigmaRules.Pattern
