/-
SigmaRules/Rule/Metadata.lean

The parts of a rule that say what it is about, and in what state it is.
-/
import SigmaRules.Bytes.Utf8
import SigmaRules.Document.Access
import SigmaRules.Text.LetterCase

namespace SigmaRules

open Document

/-- How far a rule has been tested. -/
inductive Status
  | stable
  | test
  | experimental
  | deprecated
  | unsupported
  deriving DecidableEq, Repr

namespace Status

/-- The states, in order. -/
def all : List Status := [.stable, .test, .experimental, .deprecated, .unsupported]

/-- The word for a state. -/
def word : Status → String
  | .stable => "stable"
  | .test => "test"
  | .experimental => "experimental"
  | .deprecated => "deprecated"
  | .unsupported => "unsupported"

/-- The state that a value names. -/
def ofValue? (v : Value) : Option Status := all.find? fun s => v.asText? == some s.word

end Status

/-- How grave a match is. -/
inductive Level
  | informational
  | low
  | medium
  | high
  | critical
  deriving DecidableEq, Repr

namespace Level

/-- The levels, from the least grave on. -/
def all : List Level := [.informational, .low, .medium, .high, .critical]

/-- The word for a level. -/
def word : Level → String
  | .informational => "informational"
  | .low => "low"
  | .medium => "medium"
  | .high => "high"
  | .critical => "critical"

/-- The level that a value names. -/
def ofValue? (v : Value) : Option Level := all.find? fun l => v.asText? == some l.word

end Level

/-- The text of a value that is one, or whose bytes encode one. -/
def Document.Value.asEncodedText? : Value → Option String
  | .text s => some s
  | .bytes bs => (Bytes.decode bs).toOption.map String.ofList
  | _ => none

/-- How a rule is related to another. -/
inductive RelationKind
  | derived
  | obsoletes
  | merged
  | renamed
  | similar
  deriving DecidableEq, Repr

namespace RelationKind

/-- The kinds of relations. -/
def all : List RelationKind := [.derived, .obsoletes, .merged, .renamed, .similar]

/-- The word for a kind. -/
def word : RelationKind → String
  | .derived => "derived"
  | .obsoletes => "obsoletes"
  | .merged => "merged"
  | .renamed => "renamed"
  | .similar => "similar"

/-- The kind that a value names. -/
def ofValue? (v : Value) : Option RelationKind :=
  all.find? fun k => v.asEncodedText? == some k.word

end RelationKind

/-- Another rule to which a rule is related. -/
structure Relation where
  id : String
  kind : RelationKind
  deriving DecidableEq, Repr

/-- Where the entries come from for which a rule is written. -/
structure LogSource where
  category : Option String := none
  product : Option String := none
  service : Option String := none
  definition : Option String := none
  extra : Entries := []
  deriving Repr

namespace LogSource

/-- The names that log sources know. -/
def knownKeys : List String := ["category", "product", "service", "definition"]

/-- The text under a name; nothing if there is none, a failure if the value is
no text. -/
def textOf? (es : Entries) (name : String) : Option (Option String) :=
  match es.named? name with
  | none => some none
  | some v => v.asEncodedText?.map some

/-- The log source that a mapping describes.  All its keys have to be texts. -/
def ofEntries? (es : Entries) : Option LogSource := do
  let category ← textOf? es "category"
  let product ← textOf? es "product"
  let service ← textOf? es "service"
  let definition ← textOf? es "definition"
  let keys ← es.mapM fun e => e.1.asText?
  let extra := (es.zip keys).filter fun e => !knownKeys.contains e.2
  return { category, product, service, definition, extra := extra.map (·.1) }

/-- Do two attributes differ?  Letter case does not count, and an attribute that
is missing or empty differs from none. -/
def differs (wanted given : Option String) : Bool :=
  match wanted, given with
  | some w, some g => !w.isEmpty && !g.isEmpty && Text.lower w != Text.lower g
  | _, _ => false

end LogSource

end SigmaRules
