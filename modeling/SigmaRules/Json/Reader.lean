/-
SigmaRules/Json/Reader.lean

JSON documents from their bytes.  The bytes are read as text loosely: a byte
that is part of no character is a gap, and a gap is a fault of its own kind if
it stands in a string that is otherwise complete, and breaks the grammar
anywhere else.

Objects keep the last of the values written for a name.  Whole numbers are
read exactly.  How large numbers may be, and how deep values may be nested, is not
a matter of the grammar: in entries there are limits (`Limits.ofEntries`), and
otherwise nothing is refused.
-/
import SigmaRules.Bytes.Utf8
import SigmaRules.Document.Value
import SigmaRules.Number.Reading
import SigmaRules.Text.Digits

namespace SigmaRules.Json

open Document Number Text

/-- Why bytes are not a JSON document. -/
inductive Error
  /-- The grammar or a limit of numbers is broken. -/
  | malformed
  /-- A string holds bytes that are no text. -/
  | notText
  /-- Arrays and objects are nested too deep. -/
  | tooDeep
  deriving DecidableEq, Repr

/-- What is refused that the grammar allows. -/
structure Limits where
  /-- Whole numbers with more digits than so many. -/
  digits : Option Nat := none
  /-- Numbers beyond the range of floating point. -/
  finite : Bool := false
  /-- More arrays and objects within one another than so many. -/
  depth : Option Nat := none

/-- The limits of entries, with the depth to which they may be nested. -/
def Limits.ofEntries (depth : Nat) : Limits := ⟨some maxDigits, true, some depth⟩

/-- The limits within an array or an object, if there may be one. -/
def Limits.inner? (limits : Limits) : Option Limits :=
  match limits.depth with
  | none => some limits
  | some 0 => none
  | some (n + 1) => some { limits with depth := some n }

/-- A character, or a gap where there is none. -/
abbrev Item := Option Char

/-- White space between tokens. -/
def isSpace (i : Item) : Bool :=
  i == some ' ' || i == some '\t' || i == some '\n' || i == some '\r'

/-- The text after white space. -/
def skipSpace (s : List Item) : List Item := s.dropWhile isSpace

/-! ### Strings -/

/-- A number of four hexadecimal digits, and the text after it. -/
def unit? : List Item → Option (Nat × List Item)
  | a :: b :: c :: d :: rest => do
    let ds ← [a, b, c, d].mapM (·.bind hexDigit?)
    return (numberOf 16 ds, rest)
  | _ => none

/-- The character of an escape by number, which two escapes make together if
the first one is the first half of a pair. -/
def unitEscape? (s : List Item) : Option (Char × List Item) := do
  let (hi, rest) ← unit? s
  if 0xD800 ≤ hi && hi < 0xDC00 then
    match rest with
    | some '\\' :: some 'u' :: rest => do
      let (lo, rest) ← unit? rest
      if 0xDC00 ≤ lo && lo < 0xE000 then
        some (Char.ofNat (0x10000 + (hi - 0xD800) * 0x400 + (lo - 0xDC00)), rest)
      else none
    | _ => none
  else if 0xDC00 ≤ hi && hi < 0xE000 then none
  else some (Char.ofNat hi, rest)

/-- The character of an escape by letter. -/
def letterEscape? : Char → Option Char
  | '"' => some '"'
  | '\\' => some '\\'
  | '/' => some '/'
  | 'b' => some '\x08'
  | 'f' => some '\x0c'
  | 'n' => some '\n'
  | 'r' => some '\r'
  | 't' => some '\t'
  | _ => none

/-- The content of a string up to its closing quote, last first. -/
def stringItems : Nat → List Item → List Item → Except Error (List Item × List Item)
  | 0, _, _ => .error .malformed
  | fuel + 1, found, s =>
    match s with
    | [] => .error .malformed
    | some '"' :: rest => .ok (found, rest)
    | some '\\' :: some 'u' :: rest =>
      match unitEscape? rest with
      | some (c, rest) => stringItems fuel (some c :: found) rest
      | none => .error .malformed
    | some '\\' :: some e :: rest =>
      match letterEscape? e with
      | some c => stringItems fuel (some c :: found) rest
      | none => .error .malformed
    | some '\\' :: _ => .error .malformed
    | some c :: rest =>
      if c.toNat < 32 then .error .malformed else stringItems fuel (some c :: found) rest
    | none :: rest => stringItems fuel (none :: found) rest

/-- A string after its opening quote. -/
def readString (s : List Item) : Except Error (String × List Item) := do
  let (found, rest) ← stringItems (s.length + 1) [] s
  match found.reverse.mapM id with
  | some cs => .ok (String.ofList cs, rest)
  | none => .error .notText

/-! ### Numbers -/

/-- Is the item a digit? -/
def isDigit : Item → Bool
  | some c => c.isDigit
  | none => false

/-- The digits at the start, as characters, and the text after them. -/
def digits (s : List Item) : List Char × List Item :=
  ((s.takeWhile isDigit).filterMap id, s.dropWhile isDigit)

/-- Digits that have to be there. -/
def someDigits? (s : List Item) : Option (List Char × List Item) :=
  match digits s with
  | ([], _) => none
  | r => some r

/-- The part of a number from its point on, if there is one. -/
def fraction? : List Item → Option (List Char × List Item)
  | some '.' :: rest => (someDigits? rest).map fun (ds, rest) => ('.' :: ds, rest)
  | s => some ([], s)

/-- The exponent of a number, if there is one. -/
def exponent? : List Item → Option (List Char × List Item)
  | some e :: rest =>
    if e == 'e' || e == 'E' then
      match rest with
      | some '-' :: rest => (someDigits? rest).map fun (ds, rest) => ('e' :: '-' :: ds, rest)
      | some '+' :: rest => (someDigits? rest).map fun (ds, rest) => ('e' :: ds, rest)
      | _ => (someDigits? rest).map fun (ds, rest) => ('e' :: ds, rest)
    else some ([], some e :: rest)
  | s => some ([], s)

/-- A number without its sign. -/
def readNumber (limits : Limits) (neg : Bool) (s : List Item) : Except Error (Value × List Item) :=
  let number := do
    let (whole, s) ← someDigits? s
    let (part, s) ← fraction? s
    let (power, s) ← exponent? s
    return (whole, part ++ power, s)
  match number with
  | none => .error .malformed
  | some (whole, more, rest) =>
    if whole.head? == some '0' && whole.length != 1 then .error .malformed
    else if more.isEmpty then
      if limits.digits.any (· < whole.length) then .error .malformed
      else
        let n : Int := numberOf 10 (whole.map (·.toNat - 48))
        .ok (.int (if neg then -n else n), rest)
    else
      match Double.ofUnsigned? neg (whole ++ more) with
      | some x =>
        if limits.finite && !x.isFinite then .error .malformed else .ok (.float x, rest)
      | none => .error .malformed

/-! ### Values -/

/-- The text after a word that starts it. -/
def afterWord? : List Char → List Item → Option (List Item)
  | [], s => some s
  | c :: word, i :: s => if i == some c then afterWord? word s else none
  | _ :: _, [] => none

/-- A word that stands for a value. -/
def readWord (word : String) (v : Value) (s : List Item) : Except Error (Value × List Item) :=
  match afterWord? word.toList s with
  | some rest => .ok (v, rest)
  | none => .error .malformed

mutual

/-- A value, with at most so many values within one another or in a row. -/
def readValue (limits : Limits) : Nat → List Item → Except Error (Value × List Item)
  | 0, _ => .error .malformed
  | fuel + 1, s =>
    match skipSpace s with
    | some '\x7b' :: rest =>
      match limits.inner? with
      | none => .error .tooDeep
      | some inner =>
        match skipSpace rest with
        | some '\x7d' :: rest => .ok (.map [], rest)
        | rest => do
          let (es, rest) ← readMembers inner fuel [] rest
          .ok (.map es, rest)
    | some '[' :: rest =>
      match limits.inner? with
      | none => .error .tooDeep
      | some inner =>
        match skipSpace rest with
        | some ']' :: rest => .ok (.list [], rest)
        | rest => do
          let (vs, rest) ← readElements inner fuel [] rest
          .ok (.list vs.reverse, rest)
    | some '"' :: rest => do
      let (t, rest) ← readString rest
      .ok (.text t, rest)
    | some '-' :: rest => readNumber limits true rest
    | some 't' :: rest => readWord "rue" (.bool true) rest
    | some 'f' :: rest => readWord "alse" (.bool false) rest
    | some 'n' :: rest => readWord "ull" .null rest
    | s => readNumber limits false s

/-- The elements of an array up to its end, last first. -/
def readElements (limits : Limits) :
    Nat → List Value → List Item → Except Error (List Value × List Item)
  | 0, _, _ => .error .malformed
  | fuel + 1, found, s => do
    let (v, rest) ← readValue limits fuel s
    match skipSpace rest with
    | some ',' :: rest => readElements limits fuel (v :: found) rest
    | some ']' :: rest => .ok (v :: found, rest)
    | _ => .error .malformed

/-- The members of an object up to its end. -/
def readMembers (limits : Limits) :
    Nat → Entries → List Item → Except Error (Entries × List Item)
  | 0, _, _ => .error .malformed
  | fuel + 1, found, s =>
    match skipSpace s with
    | some '"' :: rest => do
      let (name, rest) ← readString rest
      match skipSpace rest with
      | some ':' :: rest =>
        let (v, rest) ← readValue limits fuel rest
        let found := found.put (.text name) v
        match skipSpace rest with
        | some ',' :: rest => readMembers limits fuel found rest
        | some '\x7d' :: rest => .ok (found, rest)
        | _ => .error .malformed
      | _ => .error .malformed
    | _ => .error .malformed

end

/-- The document that items write. -/
def readItems (limits : Limits) (s : List Item) : Except Error Value := do
  let (v, rest) ← readValue limits (2 * s.length + 2) s
  if (skipSpace rest).isEmpty then .ok v else .error .malformed

/-- The document that the bytes of an entry write, which may be nested so deep. -/
def read (depth : Nat) (bs : List UInt8) : Except Error Value :=
  readItems (.ofEntries depth) (Bytes.decodeLoosely bs)

end SigmaRules.Json
