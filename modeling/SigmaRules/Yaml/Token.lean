/-
SigmaRules/Yaml/Token.lean

The tokens of a document.
-/

namespace SigmaRules.Yaml

/-- A tag as it is written: with a handle that stands for the start of the name,
or with the whole name. -/
structure RawTag where
  handle : Option String
  name : String
  deriving DecidableEq, Repr

/-- A token of a document. -/
inductive Token
  /-- A version directive. -/
  | version (major minor : Nat)
  /-- A directive that says what a handle stands for. -/
  | handle (name start : String)
  /-- A directive that says nothing. -/
  | directive
  | documentStart
  | documentEnd
  | blockSequence
  | blockMapping
  /-- The end of a block sequence or mapping, which is the end of its indentation. -/
  | blockEnd
  | flowSequence
  | flowSequenceEnd
  | flowMapping
  | flowMappingEnd
  | blockEntry
  | flowEntry
  | key
  | value
  | alias (name : String)
  | anchor (name : String)
  | tag (t : RawTag)
  | scalar (text : String) (unquoted : Bool)
  deriving DecidableEq, Repr

end SigmaRules.Yaml
