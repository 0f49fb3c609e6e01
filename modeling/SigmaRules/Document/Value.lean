/-
SigmaRules/Document/Value.lean

The values that documents hold.  A mapping keeps its entries in order and
has one entry for each key; keys that are numbers are the same if the
numbers are equal, whatever their kinds, and the truth values count as one
and zero.  Main statement: writing an entry and asking for it gives the value
written (`get?_put_text`).
-/
import SigmaRules.Number.Double

namespace SigmaRules.Document

open Number

/-- A day of the calendar. -/
structure Date where
  year : Nat
  month : Nat
  day : Nat
  deriving DecidableEq, Repr

/-- A moment of a day, with its distance from universal time in seconds if it
is known. -/
structure Moment where
  date : Date
  hour : Nat
  minute : Nat
  second : Nat
  microsecond : Nat
  offset : Option Int
  deriving DecidableEq, Repr

/-- A value of a document. -/
inductive Value
  | null
  | bool (b : Bool)
  | int (n : Int)
  | float (x : Double)
  | text (s : String)
  | date (d : Date)
  | moment (m : Moment)
  | bytes (bs : List UInt8)
  | list (items : List Value)
  | pair (first second : Value)
  | set (items : List Value)
  | map (entries : List (Value × Value))
  /-- The list or the mapping in which the value itself stands. -/
  | again (asMap : Bool)
  deriving Repr, Inhabited

/-- The entries of a mapping, in order. -/
abbrev Entries := List (Value × Value)

namespace Value

/-- Does a floating point number equal a whole one? -/
def floatIs (x : Double) (n : Int) : Bool := x.toInt? == some n

/-- A truth value as a number. -/
def ofBool (b : Bool) : Int := if b then 1 else 0

/-- Are two scalars the same key? -/
def sameKey : Value → Value → Bool
  | .null, .null => true
  | .bool a, .bool b => a == b
  | .bool a, .int b => ofBool a == b
  | .bool a, .float b => floatIs b (ofBool a)
  | .int a, .bool b => a == ofBool b
  | .int a, .int b => a == b
  | .int a, .float b => floatIs b a
  | .float a, .bool b => floatIs a (ofBool b)
  | .float a, .int b => floatIs a b
  | .float a, .float b => a.eq b
  | .text a, .text b => a == b
  | .date a, .date b => a == b
  | .moment a, .moment b => a == b
  | .bytes a, .bytes b => a == b
  | _, _ => false

/-- Can the value be a key? -/
def isKey : Value → Bool
  | .list _ | .set _ | .map _ | .again _ => false
  | .pair a b => a.isKey && b.isKey
  | _ => true

/-- Is the value a scalar that a search can hold? -/
def isScalar : Value → Bool
  | .bool _ | .int _ | .float _ | .text _ => true
  | _ => false

/-- Values that count as missing: null, false, zero and whatever is empty. -/
def isBlank : Value → Bool
  | .null => true
  | .bool b => !b
  | .int n => n == 0
  | .float x => x.eq (.zero false)
  | .text s => s.isEmpty
  | .bytes bs => bs.isEmpty
  | .list xs | .set xs => xs.isEmpty
  | .map es => es.isEmpty
  | .date _ | .moment _ | .pair .. | .again _ => false

end Value

namespace Entries

/-- The value of a key. -/
def get? (es : Entries) (key : Value) : Option Value :=
  (es.find? fun e => e.1.sameKey key).map (·.2)

/-- The value of a name; a null counts as no value. -/
def named? (es : Entries) (name : String) : Option Value :=
  match es.get? (.text name) with
  | some .null | none => none
  | some v => some v

/-- Is there an entry for the key? -/
def has (es : Entries) (key : Value) : Bool := es.any fun e => e.1.sameKey key

/-- The entries with a value written for a key: in the place of the entry that
the key has, whose spelling it keeps, or at the end. -/
def put : Entries → Value → Value → Entries
  | [], k, v => [(k, v)]
  | e :: rest, k, v => if e.1.sameKey k then (e.1, v) :: rest else e :: put rest k v

/-- The entries that writing pairs one by one leaves. -/
def ofPairs (ps : List (Value × Value)) : Entries := ps.foldl (fun es p => es.put p.1 p.2) []

/-- The value written for a name is the one found. -/
theorem get?_put_text (es : Entries) (name : String) (v : Value) :
    (es.put (.text name) v).get? (.text name) = some v := by
  induction es with
  | nil => simp [put, get?, Value.sameKey]
  | cons e rest ih =>
    by_cases h : e.1.sameKey (.text name)
    · simp [put, get?, h]
    · simpa [put, get?, h] using ih

end Entries

end SigmaRules.Document
