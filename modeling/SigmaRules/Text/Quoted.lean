/-
SigmaRules/Text/Quoted.lean

Texts between quotes.  Single quotes are used, unless the text holds some and
no double ones.  The quote and the backslash are escaped by a backslash, and
so is what cannot be printed.
-/
import SigmaRules.Text.Printable

namespace SigmaRules.Text

/-- The hexadecimal digits of a number, with zeros before them up to a length. -/
def hexText (length n : Nat) : List Char :=
  let ds := Nat.toDigits 16 n
  List.replicate (length - ds.length) '0' ++ ds

/-- The quote for a text. -/
def quoteFor (s : List Char) : Char :=
  if s.contains '\'' && !s.contains '"' then '"' else '\''

/-- A character between quotes. -/
def quotedChar (quote c : Char) : List Char :=
  if c == quote || c == '\\' then ['\\', c]
  else if c == '\t' then ['\\', 't']
  else if c == '\n' then ['\\', 'n']
  else if c == '\r' then ['\\', 'r']
  else if isPrintable c then [c]
  else if c.toNat < 0x100 then '\\' :: 'x' :: hexText 2 c.toNat
  else if c.toNat < 0x10000 then '\\' :: 'u' :: hexText 4 c.toNat
  else '\\' :: 'U' :: hexText 8 c.toNat

/-- The text between quotes. -/
def quoted (s : String) : String :=
  let quote := quoteFor s.toList
  String.ofList (quote :: s.toList.flatMap (quotedChar quote) ++ [quote])

/-- Bytes between quotes; bytes beyond ASCII are escaped. -/
def quotedBytes (bs : List UInt8) : String :=
  let cs := bs.map fun b => Char.ofNat b.toNat
  let quote := quoteFor cs
  let byte (c : Char) :=
    if c.toNat < 128 then quotedChar quote c else '\\' :: 'x' :: hexText 2 c.toNat
  String.ofList ('b' :: quote :: cs.flatMap byte ++ [quote])

end SigmaRules.Text
