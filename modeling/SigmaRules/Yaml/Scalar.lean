/-
SigmaRules/Yaml/Scalar.lean

Scalars and their values.  A scalar without quotes and without a tag gets the
tag of what it looks like: a truth value, a number, a day or moment, null, or
else a text.
-/
import SigmaRules.Bytes.Base64
import SigmaRules.Document.Value
import SigmaRules.Number.Reading
import SigmaRules.Text.LetterCase
import SigmaRules.Text.Numeral
import SigmaRules.Text.Split
import SigmaRules.Yaml.Tag

namespace SigmaRules.Yaml

open Document Number Text

/-! ### Numbers -/

/-- A text without the sign that it may begin with, and whether that is a minus. -/
def unsigned : List Char → Bool × List Char
  | '-' :: rest => (true, rest)
  | '+' :: rest => (false, rest)
  | s => (false, s)

/-- Are all characters digits below a bound, or underscores? -/
def areDigits (below : Char) (s : List Char) : Bool :=
  s.all fun c => c == '_' || ('0' ≤ c && c < below)

/-- Are all characters decimal digits, or underscores? -/
def areDecimals (s : List Char) : Bool := areDigits ':' s

/-- A digit, and then digits and underscores. -/
def looksNatural : List Char → Bool
  | c :: rest => c.isDigit && areDecimals rest
  | [] => false

/-- One or two digits below sixty. -/
def looksSixtieth : List Char → Bool
  | [a] => a.isDigit
  | [a, b] => '0' ≤ a && a ≤ '5' && b.isDigit
  | _ => false

/-- Numbers below sixty after colons, of which there has to be one. -/
def looksSexagesimal (first : List Char → Bool) (s : List Char) : Bool :=
  match splitAt (· == ':') s with
  | a :: b :: rest => first a && (b :: rest).all looksSixtieth
  | _ => false

/-- Does an unsigned text look like a whole number? -/
def looksWhole : List Char → Bool
  | '0' :: 'b' :: c :: rest => areDigits '2' (c :: rest)
  | '0' :: 'x' :: c :: rest => (c :: rest).all fun c => c == '_' || (hexDigit? c).isSome
  | '0' :: rest => areDigits '8' rest
  | s => looksNatural s || looksSexagesimal looksNatural s

/-- Does a text look like an exponent, which needs a sign? -/
def looksExponent : List Char → Bool
  | e :: s :: c :: rest =>
    (e == 'e' || e == 'E') && (s == '+' || s == '-') && (c :: rest).all Char.isDigit
  | _ => false

/-- Digits and underscores, and then an exponent if there is more. -/
def looksFraction (s : List Char) : Bool :=
  let rest := s.dropWhile fun c => c == '_' || c.isDigit
  rest.isEmpty || looksExponent rest

/-- Does a text look like a floating point number? -/
def looksFloat (s : List Char) : Bool :=
  match s with
  | '.' :: c :: rest =>
    (c.isDigit && looksFraction rest) ||
      ["inf", "Inf", "INF", "nan", "NaN", "NAN"].contains (String.ofList (c :: rest))
  | _ =>
    let s := (unsigned s).2
    match cutAt '.' s with
    | (_, none) => false
    | (whole, some part) =>
      (looksNatural whole && looksFraction part) ||
        (looksSexagesimal looksNatural whole && areDecimals part) ||
        (whole.isEmpty && ["inf", "Inf", "INF"].contains (String.ofList part))

/-- The value of a digit in bases up to sixteen. -/
def digitIn? (base : Nat) (c : Char) : Option Nat :=
  ((digitValue? c).orElse fun _ => hexDigit? c).filter (· < base)

/-- The value of digits, between which single underscores may stand. -/
def digitsIn? (base : Nat) : List Char → Option Nat
  | [] => none
  | cs => cs.foldlM (fun n c => (digitIn? base c).map (base * n + ·)) 0

/-- The letter that tells the base of digits. -/
def baseLetter (base : Nat) : Char := if base == 2 then 'b' else if base == 8 then 'o' else 'x'

/-- A whole number in a base other than ten, which may be told once more. -/
def wholeIn? (base : Nat) (s : List Char) : Option Int :=
  let (negative, s) := unsigned (Numeral.unpadded s)
  let digits :=
    match s with
    | '0' :: c :: rest => if c.toLower == baseLetter base then rest else s
    | _ => s
  (digitsIn? base digits).map fun n => if negative then -(n : Int) else n

/-- The whole number that decimal digits write. -/
def readDecimal (s : List Char) : Result Int :=
  match Numeral.toInt? s with
  | some n => .ok n
  | none => .error (.fault (.notWhole 10 (String.ofList s)))

/-- The whole number that digits in a base other than ten write. -/
def readWholeIn (base : Nat) (s : List Char) : Result Int :=
  match wholeIn? base s with
  | some n => .ok n
  | none => .error (.fault (.notWhole base (String.ofList s)))

/-- The whole number that digits in base sixty write. -/
def readSexagesimal (s : List Char) : Result Int := do
  let parts ← (splitAt (· == ':') s).mapM readDecimal
  return parts.foldl (fun n d => 60 * n + d) 0

/-- The whole number that a text writes. -/
def readInt (s : String) : Result Value :=
  match s.toList.filter (· != '_') with
  | [] => .error (.fault .emptyNumber)
  | c :: rest =>
    let negative := c == '-'
    let s := if c == '-' || c == '+' then rest else c :: rest
    let number : Result Int :=
      match s with
      | [] => .error (.fault .emptyNumber)
      | ['0'] => .ok 0
      | '0' :: 'b' :: rest => readWholeIn 2 rest
      | '0' :: 'x' :: rest => readWholeIn 16 rest
      | '0' :: rest => readWholeIn 8 ('0' :: rest)
      | s => if s.contains ':' then readSexagesimal s else readDecimal s
    number.map fun n => .int (if negative then -n else n)

/-- The floating point number that a text writes in decimal digits. -/
def decimal? (s : List Char) : Option Double :=
  Double.ofText? ((Numeral.unpadded s).map fun c =>
    match digitValue? c with
    | some d => Char.ofNat (48 + d)
    | none => c)

/-- The sum of numbers, each of which counts sixty times the next one.  What they
count has to be in the range of floating point. -/
def sixtyfold (parts : List Double) : Result Double :=
  let sum := parts.reverse.foldl
    (fun (acc : Double × Nat) x => (acc.1.add (x.mulNat acc.2), acc.2 * 60)) (.zero false, 1)
  if (Double.ofInt (sum.2 / 60 : Nat)).isFinite then .ok sum.1
  else .error (.fault .numberTooLarge)

/-- The floating point number that a text writes. -/
def readFloat (s : String) : Result Value :=
  match (lower (String.ofList (s.toList.filter (· != '_')))).toList with
  | [] => .error (.fault .emptyNumber)
  | c :: rest =>
    let negative := c == '-'
    let s := if c == '-' || c == '+' then rest else c :: rest
    let read (s : List Char) : Result Double :=
      match decimal? s with
      | some x => .ok x
      | none => .error (.fault (.notFloat (String.ofList s)))
    let number : Result Double :=
      if s == ".inf".toList then .ok (.infinity false)
      else if s == ".nan".toList then .ok .nan
      else if s.contains ':' then ((splitAt (· == ':') s).mapM read).bind sixtyfold
      else read s
    number.map fun x => .float (if negative then x.neg else x)

/-! ### Days and moments -/

/-- The parts of a written moment. -/
structure Stamp where
  year : Nat
  month : Nat
  day : Nat
  /-- Hour, minute, second, the digits of the fraction and the zone. -/
  time : Option (Nat × Nat × Nat × List Nat × Option Int) := none
  deriving Repr

/-- The number of at least and at most so many digits at the start of a text, and
the text after it. -/
def digitsUpTo? (least most : Nat) (s : List Char) : Option (Nat × List Char) :=
  let ds := (s.take most).takeWhile Char.isDigit
  if ds.length < least then none
  else some (numberOf 10 (ds.map fun c => c.toNat - 48), s.drop ds.length)

/-- The text after a character. -/
def after? (c : Char) : List Char → Option (List Char)
  | d :: rest => if c == d then some rest else none
  | [] => none

/-- The zone that is the rest of a text, in seconds. -/
def zone? (s : List Char) : Option (Option Int) :=
  match s.dropWhile isGap with
  | [] => if s.isEmpty then some none else none
  | ['Z'] => some (some 0)
  | c :: rest => do
    if c != '+' && c != '-' then none
    let (h, rest) ← digitsUpTo? 1 2 rest
    let m ←
      match rest with
      | [] => some 0
      | _ => do
        let rest ← after? ':' rest
        let (m, rest) ← digitsUpTo? 2 2 rest
        if rest.isEmpty then some m else none
    let seconds : Int := ((h * 60 + m) * 60 : Nat)
    return some (if c == '-' then -seconds else seconds)

/-- The time that is the rest of a text. -/
def time? (s : List Char) : Option (Nat × Nat × Nat × List Nat × Option Int) := do
  let (h, s) ← digitsUpTo? 1 2 s
  let s ← after? ':' s
  let (m, s) ← digitsUpTo? 2 2 s
  let s ← after? ':' s
  let (sec, s) ← digitsUpTo? 2 2 s
  let (fraction, s) :=
    match s with
    | '.' :: rest => ((rest.takeWhile Char.isDigit).map (·.toNat - 48), rest.dropWhile Char.isDigit)
    | s => ([], s)
  let z ← zone? s
  return (h, m, sec, fraction, z)

/-- A text without the line feed that it may end in. -/
def withoutLineFeed (s : List Char) : List Char :=
  if s.getLast? == some '\n' then s.dropLast else s

/-- The day or moment that a text writes. -/
def stamp? (s : List Char) : Option Stamp := do
  let (y, s) ← digitsUpTo? 4 4 (withoutLineFeed s)
  let s ← after? '-' s
  let (m, s) ← digitsUpTo? 1 2 s
  let s ← after? '-' s
  let (d, s) ← digitsUpTo? 1 2 s
  match s with
  | [] => return ⟨y, m, d, none⟩
  | c :: rest =>
    let t ←
      if c == 'T' || c == 't' then time? rest
      else if isGap c then time? (rest.dropWhile isGap)
      else none
    return ⟨y, m, d, some t⟩

/-- How many days a month has. -/
def daysIn (year month : Nat) : Nat :=
  if month == 2 then
    if year % 4 == 0 && (year % 100 != 0 || year % 400 == 0) then 29 else 28
  else if [4, 6, 9, 11].contains month then 30
  else 31

/-- The number of millionths that the digits of a fraction write. -/
def millionths (ds : List Nat) : Nat :=
  numberOf 10 ((ds ++ List.replicate 6 0).take 6)

/-- The part of a day that is not in the calendar. -/
def Stamp.wrongDay? (t : Stamp) : Option (CalendarPart × Int) :=
  if t.year == 0 then some (.year, t.year)
  else if t.month == 0 || 12 < t.month then some (.month, t.month)
  else if t.day == 0 || daysIn t.year t.month < t.day then some (.day, t.day)
  else none

/-- The day or moment that a text writes, if the calendar has it. -/
def readStamp (s : String) : Result Value :=
  let wrong (part : CalendarPart × Int) : Result Value :=
    .error (.fault (.notInCalendar part.1 part.2))
  match stamp? s.toList with
  | none => .error (.fault .notMoment)
  | some t =>
    let date : Date := ⟨t.year, t.month, t.day⟩
    match t.time with
    | none =>
      match t.wrongDay? with
      | some part => wrong part
      | none => .ok (.date date)
    | some (h, m, sec, fraction, zone) =>
      match zone.filter (86400 ≤ ·.natAbs), t.wrongDay? with
      | some z, _ => wrong (.zone, z)
      | none, some part => wrong part
      | none, none =>
        if 23 < h then wrong (.hour, h)
        else if 59 < m then wrong (.minute, m)
        else if 59 < sec then wrong (.second, sec)
        else .ok (.moment ⟨date, h, m, sec, millionths fraction, zone⟩)

/-! ### Tags of scalars without tags -/

/-- The words for truth values, in lower case. -/
def truthWords : List (String × Bool) :=
  [("yes", true), ("no", false), ("true", true), ("false", false), ("on", true), ("off", false)]

/-- A word in lower case, in upper case, or with an initial. -/
def spellings (word : String) : List String := [word, word.capitalize, word.toUpper]

/-- The tag of a scalar by its looks, with or without a line feed at its end. -/
def Tag.ofPlain (text : String) : Tag :=
  let cs := withoutLineFeed text.toList
  let s := String.ofList cs
  if (truthWords.flatMap fun w => spellings w.1).contains s then .bool
  else if text == "" || s == "~" || (spellings "null").contains s then .null
  else if s == "<<" then .merge
  else if s == "=" then .value
  else if looksFloat cs then .float
  else if looksWhole (unsigned cs).2 then .int
  else
    match stamp? cs with
    | some t => if t.time.isSome || cs.length == 10 then .timestamp else .str
    | none => .str

/-- The truth value that a text writes. -/
def readBool (s : String) : Result Value :=
  match truthWords.lookup (lower s) with
  | some b => .ok (.bool b)
  | none => .error (.fault .notTruth)

/-- The bytes that a text writes in base 64. -/
def readBytes (s : String) : Result Value :=
  if s.toList.all (·.toNat < 128) then
    orFail .value ((Bytes.ofBase64? s.toList).map .bytes)
  else .error (.invalid .value)

/-- The value of a scalar with a tag. -/
def readScalar (t : Tag) (s : String) : Result Value :=
  match t with
  | .null => .ok .null
  | .bool => readBool s
  | .int => readInt s
  | .float => readFloat s
  | .binary => readBytes s
  | .timestamp => readStamp s
  | .str => .ok (.text s)
  | _ => .error (.invalid .value)

end SigmaRules.Yaml
