/-
SigmaRules/Yaml/Dialect.lean

Two ways of reading documents, which differ where the format is vague.  Rules
are read in one, the values of placeholders in the other.
-/
import SigmaRules.Fault

namespace SigmaRules.Yaml

/-- Where readers of documents differ. -/
structure Dialect where
  /-- Tabs separate tokens like spaces, except before the first token of a line. -/
  tabsSeparate : Bool
  /-- In flow collections, a question mark ends an unquoted scalar. -/
  questionEnds : Bool
  /-- In flow collections, a colon before a bracket, brace or comma ends an
  unquoted scalar; otherwise it is malformed there. -/
  colonEnds : Bool
  /-- Directives with other names are passed over; otherwise they are malformed. -/
  passesDirectives : Bool
  /-- Documents may say that they follow any version 1; otherwise only 1.1 and 1.2. -/
  anyMinorVersion : Bool
  /-- A tag ends at a blank only, and may hold commas and brackets. -/
  bracketsInTags : Bool
  /-- Byte order marks are characters like others; otherwise one may only open the
  text. -/
  orderMarks : Bool
  /-- A comment may follow the indicators of a block scalar without a blank. -/
  commentsTouch : Bool
  /-- Nothing under the tag `!` is null; otherwise it is the empty text. -/
  bareTagIsNull : Bool

namespace Dialect

/-- The way in which rules are read. -/
def rules : Dialect where
  tabsSeparate := true
  questionEnds := false
  colonEnds := false
  passesDirectives := false
  anyMinorVersion := false
  bracketsInTags := false
  orderMarks := false
  commentsTouch := true
  bareTagIsNull := false

/-- The way in which the values of placeholders are read. -/
def placeholders : Dialect where
  tabsSeparate := false
  questionEnds := true
  colonEnds := true
  passesDirectives := true
  anyMinorVersion := true
  bracketsInTags := true
  orderMarks := true
  commentsTouch := false
  bareTagIsNull := true

end Dialect

/-- Why a text is no document. -/
inductive Malformed
  /-- A character cannot stand in a document. -/
  | character
  /-- Characters make no token. -/
  | token
  /-- Tokens make no node. -/
  | node
  /-- A node has no value. -/
  | value
  deriving DecidableEq, Repr

/-- A result, or why there is none. -/
abbrev Result (α : Type) := Except (Failure Malformed) α

/-- The result of a step that may fail in one way. -/
def orFail {α : Type} (m : Malformed) : Option α → Result α
  | some a => .ok a
  | none => .error (.invalid m)

/-- Is the character a blank that separates tokens? -/
def Dialect.separates (d : Dialect) (c : Char) : Bool := c == ' ' || (d.tabsSeparate && c == '\t')

/-- May the character stand in a document? -/
def Dialect.allows (d : Dialect) (c : Char) : Bool :=
  let n := c.toNat
  c == '\t' || c == '\n' || c == '\r' || (0x20 ≤ n && n ≤ 0x7E) || n == 0x85 ||
    (0xA0 ≤ n && n ≤ 0xFFFD && (d.orderMarks || n != 0xFEFF)) || 0x10000 ≤ n

end SigmaRules.Yaml
