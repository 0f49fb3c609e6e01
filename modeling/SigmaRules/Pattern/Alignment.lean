/-
SigmaRules/Pattern/Alignment.lean

A text within a larger text that is written in base 64.  What the text looks
like there depends on how many bytes come before it, counted modulo three,
and its first and last characters depend on its neighbours.  `alignments`
gives the characters that depend on the text alone, for each of the three
positions.
-/
import SigmaRules.Bytes.Base64
import SigmaRules.Bytes.Utf8

namespace SigmaRules.Pattern

open Bytes

/-- How many characters at the start depend on the bytes before, of which there
are so many modulo three. -/
def startTrim : Nat → Nat
  | 0 => 0
  | 1 => 2
  | _ => 3

/-- How many characters at the end depend on the bytes after, if so many bytes,
modulo three, are written up to there. -/
def endTrim : Nat → Nat
  | 0 => 0
  | 1 => 3
  | _ => 2

/-- The bytes in base 64 after `shift` bytes, without what depends on others. -/
def alignment (shift : Nat) (bs : List UInt8) : List Char :=
  let written := toBase64 (List.replicate shift 32 ++ bs)
  (written.take (written.length - endTrim ((bs.length + shift) % 3))).drop (startTrim shift)

/-- The text in base 64 at each of the three positions; an empty text has no
such form. -/
def alignments (s : List Char) : List (List Char) :=
  if s.isEmpty then [] else (List.range 3).map (alignment · (encode s))

end SigmaRules.Pattern
