/-
SigmaRules/Loading/Entries.lean

Loading the entries of a log from a file with one JSON object on each line.
Blank lines are passed over, but counted.  The file may be compressed.
-/
import SigmaRules.Bytes.Gzip
import SigmaRules.Entry
import SigmaRules.Fault
import SigmaRules.Files.Path
import SigmaRules.Json.Reader
import SigmaRules.Text.Blank
import SigmaRules.Text.Split

namespace SigmaRules.Loading

open Document

/-- What is wrong with a line. -/
inductive LineProblem
  /-- It is no JSON document. -/
  | malformed
  /-- It is a JSON document, but no object. -/
  | notObject (found : String)
  deriving DecidableEq, Repr

/-- The marker that stands for what the reader of JSON says. -/
def jsonMarker : String := "<json>"

/-- What is wrong, in words. -/
def LineProblem.message : LineProblem → String
  | .malformed => jsonMarker
  | .notObject found => "expected an object, found: " ++ found

/-- The report of the problem of a line of the file at a path. -/
def LineProblem.report (path : Files.Path) (number : Nat) (p : LineProblem) : String :=
  "invalid log entry: " ++ path.text ++ ":" ++ toString number ++ ": " ++ p.message

/-- Why reading entries stops before the end. -/
inductive EntryStop
  /-- A line holds no entry. -/
  | line (number : Nat) (p : LineProblem)
  /-- The bytes cannot be read at all. -/
  | fault (f : Fault)
  deriving DecidableEq, Repr

/-- Entries with the numbers of their lines, and why there are no more of them. -/
structure Entries where
  entries : List (Nat × Entry)
  stop : Option EntryStop

/-- How deep values may be nested: a line that is read, and a value in it that is
shown as a text. -/
structure Depths where
  line : Nat
  value : Nat

/-- The word for the kind of a value. -/
def kindWord : Value → String
  | .null => "NoneType"
  | .bool _ => "bool"
  | .int _ => "int"
  | .float _ => "float"
  | .text _ => "str"
  | .list _ => "list"
  | _ => "dict"

/-- The line without the blanks around it. -/
def stripBytes (line : List UInt8) : List UInt8 :=
  ((line.dropWhile Text.isBlankByte).reverse.dropWhile Text.isBlankByte).reverse

/-- The entry of a line; nothing if the line is blank. -/
def readLine (d : Depths) (number : Nat) (line : List UInt8) : Except EntryStop (Option Entry) :=
  let line := stripBytes line
  if line.isEmpty then .ok none
  else
    match Json.read d.line line with
    | .ok (.map es) => ((Entry.ofRecord d.value es).map some).mapError .fault
    | .ok v => .error (.line number (.notObject (kindWord v)))
    | .error .malformed => .error (.line number .malformed)
    | .error .notText => .error (.fault .notText)
    | .error .tooDeep => .error (.fault .tooDeep)

/-- The entries of lines, the first of which has the given number. -/
def readLines (d : Depths) (number : Nat) : List (List UInt8) → Entries
  | [] => ⟨[], none⟩
  | line :: rest =>
    match readLine d number line with
    | .error stop => ⟨[], some stop⟩
    | .ok none => readLines d (number + 1) rest
    | .ok (some e) =>
      let more := readLines d (number + 1) rest
      ⟨(number, e) :: more.entries, more.stop⟩

/-- The lines of bytes, the last of which is without a line feed. -/
def linesOf (bytes : List UInt8) : List (List UInt8) := Text.splitAt (· == 10) bytes

/-- The entries of bytes that are not compressed. -/
def readPlain (d : Depths) (bytes : List UInt8) : Entries := readLines d 1 (linesOf bytes)

/-- Entries and then others, if nothing stops the first ones. -/
def Entries.followedBy (a : Entries) (b : Entries) : Entries :=
  match a.stop with
  | some _ => a
  | none => ⟨a.entries ++ b.entries, b.stop⟩

/-- The entries of a file.  If it is not compressed it is read as it is, even if
that becomes clear only after some lines; the line in which compressed data end
too early is left out. -/
def readEntries (d : Depths) (bytes : List UInt8) : Entries :=
  let content := Bytes.Gzip.read bytes
  let complete := readLines d 1 (linesOf content.bytes).dropLast
  match content.ending with
  | .complete => readPlain d content.bytes
  | .notGzip => complete.followedBy (readPlain d bytes)
  | .truncated => complete.followedBy ⟨[], some (.fault .truncated)⟩
  | .corrupt => complete.followedBy ⟨[], some (.fault .corrupt)⟩

end SigmaRules.Loading
