/-
SigmaRules/Yaml/Tag.lean

Tags, which say what kind of value a node stands for.
-/
import SigmaRules.Bytes.Utf8
import SigmaRules.Yaml.Quoted
import SigmaRules.Yaml.Token

namespace SigmaRules.Yaml

open Text

/-- The kinds of values that tags name. -/
inductive Tag
  | null
  | bool
  | int
  | float
  | binary
  | timestamp
  | omap
  | pairs
  | set
  | str
  | seq
  | map
  | merge
  | value
  /-- The mapping is to be merged with what is no mapping. -/
  | unmergeable
  /-- A name that is not known. -/
  | unknown
  deriving DecidableEq, Repr

/-- What the handle of two exclamation marks stands for. -/
def standardTags : String := "tag:yaml.org,2002:"

/-- The names of the tags that are known. -/
def Tag.vocabulary : List (String × Tag) :=
  [("null", .null), ("bool", .bool), ("int", .int), ("float", .float), ("binary", .binary),
    ("timestamp", .timestamp), ("omap", .omap), ("pairs", .pairs), ("set", .set), ("str", .str),
    ("seq", .seq), ("map", .map), ("merge", .merge), ("value", .value)]

/-- The tag of a whole name. -/
def Tag.ofName (name : String) : Tag :=
  ((Tag.vocabulary.map fun v => (standardTags ++ v.1, v.2)).lookup name).getD .unknown

/-- Letters, digits, lines and hyphens, of which names are made. -/
def isNameChar (c : Char) : Bool := c.isAlphanum || c == '-' || c == '_'

/-- Characters of tags. -/
def isTagChar (brackets : Bool) (c : Char) : Bool :=
  isNameChar c || ";/?:@&=+$.!~*\x27()%".toList.contains c ||
    (brackets && ",[]".toList.contains c)

/-- The bytes of the characters of a tag, of which some are written in
hexadecimal digits after a percent sign. -/
def tagBytes : List Char → Option (List UInt8)
  | [] => some []
  | '%' :: a :: b :: rest => do
    let a ← hexDigit? a
    let b ← hexDigit? b
    let bs ← tagBytes rest
    return UInt8.ofNat (16 * a + b) :: bs
  | c :: rest => if c == '%' then none else (tagBytes rest).map (Bytes.encodeChar c ++ ·)

/-- The text of the characters of a tag. -/
def tagText (s : List Char) : Option String := do
  let bs ← tagBytes s
  let cs ← (Bytes.decode bs).toOption
  return String.ofList cs

/-- A handle at the start of a text, such as `!e!`, and the text after it. -/
def tagHandle? : List Char → Option (List Char × List Char)
  | '!' :: rest =>
    let name := rest.takeWhile isNameChar
    match rest.dropWhile isNameChar with
    | '!' :: rest => some ('!' :: name ++ ['!'], rest)
    | _ => none
  | _ => none

/-- Can a tag end before this text? -/
def tagEnds (d : Dialect) (flow : Bool) (s : List Char) : Bool :=
  if d.bracketsInTags then s.head?.all fun c => c == ' ' || isBreak c
  else atBlank s || (flow && s.head? == some ',')

/-- The tag at the start of a text, and the text after it. -/
def rawTag? (d : Dialect) (flow : Bool) (s : List Char) : Option (RawTag × List Char) := do
  let isChar := isTagChar d.bracketsInTags
  let (tag, rest) ←
    match s with
    | '!' :: '<' :: rest =>
      let name := rest.takeWhile (isTagChar true)
      match rest.dropWhile (isTagChar true) with
      | '>' :: rest =>
        if name.isEmpty then none else (tagText name).map fun n => (⟨none, n⟩, rest)
      | _ => none
    | '!' :: rest =>
      match tagHandle? s with
      | some (handle, rest) =>
        let name := rest.takeWhile isChar
        if name.isEmpty then none
        else
          (tagText name).map fun n =>
            ((⟨some (String.ofList handle), n⟩ : RawTag), rest.dropWhile isChar)
      | none =>
        let name := rest.takeWhile isChar
        if name.isEmpty then some (⟨none, "!"⟩, rest)
        else (tagText name).map fun n => (⟨some "!", n⟩, rest.dropWhile isChar)
    | _ => none
  if tagEnds d flow rest then some (tag, rest) else none

end SigmaRules.Yaml
