/-
SigmaRules/Search/Expression.lean

Patterns as regular expressions.  Patterns of field searches match the whole
field, unless a modifier frees one of the ends; patterns of message searches
match anywhere.
-/
import SigmaRules.Pattern.Alignment
import SigmaRules.Pattern.Dash
import SigmaRules.Pattern.Glob
import SigmaRules.Search.Check

namespace SigmaRules.Search

open Pattern

/-- Expressions with bars between them. -/
def alternatives : List (List Char) → List Char
  | [] => []
  | [e] => e
  | e :: f :: rest => e ++ '|' :: alternatives (f :: rest)

/-- An expression as a group. -/
def grouped (e : List Char) : List Char := "(?:".toList ++ e ++ [')']

/-- A pattern that is no regular expression, no block of addresses and not to
be aligned. -/
def plainExpression (modifiers : List Modifier) (field : Option String) (p : List Char) :
    List Char :=
  let p := if modifiers.contains .base64 then Bytes.toBase64 (Bytes.encode p) else p
  let e :=
    if modifiers.contains .windash then grouped (alternatives ((dashVariants p).map escape))
    else glob p
  let free := field.all String.isEmpty || modifiers.contains .contains
  let start := if free || modifiers.contains .endswith then [] else ['^']
  let stop := if free || modifiers.contains .startswith then [] else ['\\', 'Z']
  start ++ grouped e ++ stop

/-- The regular expression of a pattern. -/
def expression (modifiers : List Modifier) (field : Option String) (p : String) : List Char :=
  if modifiers.contains .re then regexSource p
  else if modifiers.contains .base64offset then
    grouped (alternatives ((alignments p.toList).map escape))
  else plainExpression modifiers field p.toList

end SigmaRules.Search
