/-
SigmaRules/Json/Writer.lean

Documents as JSON texts, without any white space.  Characters beyond ASCII
stand for themselves.  Days and moments are written as strings, bytes as the
text that they are, sets and pairs as arrays, and numbers that are not finite
as null.  A document with bytes that are no text cannot be written.
-/
import SigmaRules.Bytes.Utf8
import SigmaRules.Document.Text

namespace SigmaRules.Json

open Document Number Text

/-- Floating point numbers in JSON. -/
def floatLayout : Layout where
  highest := 16
  lowest := -5
  fullExponent := false
  zeroBeforeExponent := false
  nan := "null"
  infinity := "null"

/-- A floating point number; one that is not finite is null. -/
def floatText (x : Double) : String := if x.isFinite then x.text floatLayout else "null"

/-- A character in a string. -/
def charText (c : Char) : List Char :=
  if c == '"' then ['\\', '"']
  else if c == '\\' then ['\\', '\\']
  else if c == '\n' then ['\\', 'n']
  else if c == '\r' then ['\\', 'r']
  else if c == '\t' then ['\\', 't']
  else if c == '\x08' then ['\\', 'b']
  else if c == '\x0c' then ['\\', 'f']
  else if c.toNat < 32 then '\\' :: 'u' :: hexText 4 c.toNat
  else [c]

/-- A string. -/
def stringText (s : String) : String :=
  String.ofList ('"' :: s.toList.flatMap charText ++ ['"'])

/-- A moment, with the letter Z for universal time. -/
def momentText (m : Moment) : String :=
  match m.offset with
  | some 0 => { m with offset := none }.text "T" ++ "Z"
  | _ => m.text "T"

/-- Bytes as the text that they are, if they are one. -/
def bytesText (bs : List UInt8) : String :=
  match Bytes.decode bs with
  | .ok cs => String.ofList cs
  | .error _ => ""

/-- A key of an object. -/
def keyText : Value → String
  | .bool b => if b then "true" else "false"
  | .float x => x.text Document.floatLayout
  | .moment m => momentText m
  | .bytes bs => bytesText bs
  | v => v.plain

mutual

/-- Can the document be written?  All bytes in it have to be texts, and it must not
stand within itself. -/
def canWrite : Value → Bool
  | .bytes bs => (Bytes.decode bs).toBool
  | .again _ => false
  | .list xs => canWriteList xs
  | .pair a b => canWrite a && canWrite b
  | .set xs => canWriteList xs
  | .map es => canWriteEntries es
  | _ => true

/-- Can all of the documents be written? -/
def canWriteList : List Value → Bool
  | [] => true
  | x :: xs => canWrite x && canWriteList xs

/-- Can the members of an object be written?  Their names have to be texts. -/
def canWriteEntries : List (Value × Value) → Bool
  | [] => true
  | (k, v) :: es => canWrite k && k.isWritable && canWrite v && canWriteEntries es

end

mutual

/-- A document as JSON. -/
def write : Value → String
  | .null | .again _ => "null"
  | .bool b => if b then "true" else "false"
  | .int n => toString n
  | .float x => floatText x
  | .text s => stringText s
  | .date d => stringText d.text
  | .moment m => stringText (momentText m)
  | .bytes bs => stringText (bytesText bs)
  | .list xs => "[" ++ ",".intercalate (writeList xs) ++ "]"
  | .pair a b => "[" ++ write a ++ "," ++ write b ++ "]"
  | .set xs => "[" ++ ",".intercalate (writeList xs) ++ "]"
  | .map es => "\x7b" ++ ",".intercalate (writeEntries es) ++ "\x7d"

/-- Documents as JSON. -/
def writeList : List Value → List String
  | [] => []
  | x :: xs => write x :: writeList xs

/-- The members of an object. -/
def writeEntries : List (Value × Value) → List String
  | [] => []
  | (k, v) :: es => (stringText (keyText k) ++ ":" ++ write v) :: writeEntries es

end

end SigmaRules.Json
