/-
SigmaRules/Yaml/Lexer.lean

From the text of a document to its tokens.

Indentation opens and closes blocks, and the lexer writes tokens where they
begin and end.  A colon may make a key of what stands before it on its line;
so the lexer remembers, for each bracket that is open, where a key could have
begun, and puts the tokens of the key there afterwards.
-/
import SigmaRules.Yaml.Block
import SigmaRules.Yaml.Directive
import SigmaRules.Yaml.Unquoted

namespace SigmaRules.Yaml

/-- The start of what may turn out to be a key. -/
structure KeyStart where
  /-- How many tokens there were. -/
  count : Nat
  index : Nat
  line : Nat
  column : Nat
  /-- Nothing but a key can stand there. -/
  required : Bool
  deriving DecidableEq, Repr

/-- Keys take one line, and at most this many characters. -/
def maxKeyLength : Nat := 1024

/-- The state of the lexer. -/
structure Lexer where
  place : Place
  /-- The tokens so far, the last of them first. -/
  tokens : List Token := []
  /-- The indentations of the open blocks, the innermost first. -/
  margins : List Nat := []
  /-- The starts of keys within each open bracket and outside of all, the innermost
  first. -/
  keys : List (Option KeyStart) := [none]
  /-- Can a key begin here? -/
  keyAllowed : Bool := true

namespace Lexer

/-- Is a bracket open? -/
def inFlow (l : Lexer) : Bool := 1 < l.keys.length

/-- The least column of what stands within the innermost block. -/
def margin (l : Lexer) : Nat :=
  match l.margins with
  | [] => 0
  | m :: _ => m + 1

/-- One more token. -/
def emit (l : Lexer) (t : Token) : Lexer := { l with tokens := t :: l.tokens }

/-- One more token, which takes characters of the line. -/
def emitMark (l : Lexer) (t : Token) (length : Nat) : Lexer :=
  { l.emit t with place := l.place.skip length }

/-- A token put in after the first tokens. -/
def insert (l : Lexer) (count : Nat) (t : Token) : Lexer :=
  let after := l.tokens.length - count
  { l with tokens := l.tokens.take after ++ t :: l.tokens.drop after }

/-- The blocks closed that begin right of a column, or all blocks. -/
def unwindTo (column : Option Nat) : List Nat → List Token → List Nat × List Token
  | [], ts => ([], ts)
  | m :: ms, ts =>
    if column.all (· < m) then unwindTo column ms (.blockEnd :: ts) else (m :: ms, ts)

/-- The blocks closed that begin right of a column, or all blocks.  Within brackets
indentation does not count. -/
def unwind (l : Lexer) (column : Option Nat) : Lexer :=
  if l.inFlow then l
  else
    let (margins, tokens) := unwindTo column l.margins l.tokens
    { l with margins, tokens }

/-- A block opened at a column, if that is right of the innermost block; `count`
tells where its token goes. -/
def openBlock (l : Lexer) (column count : Nat) (t : Token) : Lexer :=
  if l.margin ≤ column then { l.insert count t with margins := column :: l.margins } else l

/-- The starts of keys that are still possible.  It is malformed if one is not that
has to be a key. -/
def staleKeys (p : Place) : List (Option KeyStart) → Option (List (Option KeyStart))
  | [] => some []
  | none :: ks => (staleKeys p ks).map (none :: ·)
  | some k :: ks =>
    if k.line < p.line || k.index + maxKeyLength < p.index then
      if k.required then none else (staleKeys p ks).map (none :: ·)
    else (staleKeys p ks).map (some k :: ·)

/-- No key within the innermost bracket.  It is malformed if there has to be one. -/
def dropKey (l : Lexer) : Option Lexer :=
  match l.keys with
  | some k :: ks => if k.required then none else some { l with keys := none :: ks }
  | _ => some l

/-- A key may begin here, if one is allowed. -/
def markKey (l : Lexer) : Option Lexer :=
  if !l.keyAllowed then some l
  else do
    let required := !l.inFlow && l.margins.head? == some l.place.column
    let l ← l.dropKey
    let p := l.place
    let k : KeyStart := ⟨l.tokens.length, p.index, p.line, p.column, required⟩
    return { l with keys := some k :: l.keys.drop 1 }

/-- The place of the next token: blanks, comments and line breaks are passed over.
The number bounds the steps. -/
def skipBlanks (d : Dialect) : Nat → Lexer → Lexer
  | 0, l => l
  | n + 1, l =>
    let space (c : Char) := c == ' ' || (c == '\t' && d.tabsSeparate && (l.inFlow || !l.keyAllowed))
    let p := (l.place.takeWhile space).2
    let p := if p.rest.head? == some '#' then (p.takeWhile (!isBreak ·)).2 else p
    match p.break? with
    | some (_, q) => skipBlanks d n { l with place := q, keyAllowed := l.keyAllowed || !l.inFlow }
    | none => { l with place := p }

/-- A mark of a document's start or end. -/
def documentMark (l : Lexer) (t : Token) : Option Lexer := do
  let l ← (l.unwind none).dropKey
  return { l.emitMark t 3 with keyAllowed := false }

/-- A directive. -/
def directive (d : Dialect) (l : Lexer) : Option Lexer := do
  let l ← (l.unwind none).dropKey
  let (line, p) := l.place.takeWhile (!isBreak ·)
  let t ← directive? d line
  return { l.emit t with place := p, keyAllowed := false }

/-- An opening bracket. -/
def openBracket (l : Lexer) (t : Token) : Option Lexer := do
  let l ← l.markKey
  return { l.emitMark t 1 with keys := none :: l.keys, keyAllowed := true }

/-- A closing bracket. -/
def closeBracket (l : Lexer) (t : Token) : Option Lexer := do
  let l ← l.dropKey
  let keys := if l.inFlow then l.keys.drop 1 else l.keys
  return { l.emitMark t 1 with keys, keyAllowed := false }

/-- A comma. -/
def comma (l : Lexer) : Option Lexer := do
  let l ← l.dropKey
  return { l.emitMark .flowEntry 1 with keyAllowed := true }

/-- The hyphen of an item. -/
def hyphen (l : Lexer) : Option Lexer := do
  if !l.inFlow && !l.keyAllowed then none
  else
    let l := if l.inFlow then l else l.openBlock l.place.column l.tokens.length .blockSequence
    let l ← l.dropKey
    return { l.emitMark .blockEntry 1 with keyAllowed := true }

/-- The question mark of a key. -/
def questionMark (l : Lexer) : Option Lexer := do
  if !l.inFlow && !l.keyAllowed then none
  else
    let l := if l.inFlow then l else l.openBlock l.place.column l.tokens.length .blockMapping
    let l ← l.dropKey
    return { l.emitMark .key 1 with keyAllowed := !l.inFlow }

/-- The colon of a value, after a key or without one. -/
def colon (l : Lexer) : Option Lexer :=
  match l.keys with
  | some k :: ks =>
    let l := ({ l with keys := none :: ks } : Lexer).insert k.count .key
    let l := if l.inFlow then l else l.openBlock k.column k.count .blockMapping
    some { l.emitMark .value 1 with keyAllowed := false }
  | _ =>
    if !l.inFlow && !l.keyAllowed then none
    else
      let l := if l.inFlow then l else l.openBlock l.place.column l.tokens.length .blockMapping
      some { l.emitMark .value 1 with keyAllowed := !l.inFlow }

/-- A name after an ampersand or a star. -/
def named (l : Lexer) (t : String → Token) : Option Lexer := do
  let l ← l.markKey
  let (name, p) := (l.place.skip 1).takeWhile isNameChar
  let ends := atBlank p.rest || p.rest.head?.any "?:,]\x7d%@`".toList.contains
  if name.isEmpty || !ends then none
  else return { l.emit (t (String.ofList name)) with place := p, keyAllowed := false }

/-- A tag. -/
def tag (d : Dialect) (l : Lexer) : Option Lexer := do
  let l ← l.markKey
  let (t, rest) ← rawTag? d l.inFlow l.place.rest
  return { l.emitMark (.tag t) (l.place.rest.length - rest.length) with keyAllowed := false }

/-- A block scalar. -/
def block (d : Dialect) (l : Lexer) : Option Lexer := do
  let l ← l.dropKey
  let (s, p) ← blockScalar d l.margin l.place
  return { l.emit (.scalar s false) with place := p, keyAllowed := true }

/-- A quoted scalar. -/
def quoted (l : Lexer) : Option Lexer := do
  let l ← l.markKey
  let (s, p) ← quotedScalar l.place
  return { l.emit (.scalar s false) with place := p, keyAllowed := false }

/-- A scalar without quotes. -/
def plain (d : Dialect) (l : Lexer) : Option Lexer := do
  let l ← l.markKey
  let s ← plainScalar d l.inFlow l.margin l.place
  let l := l.emit (.scalar (String.ofList s.text) true)
  return { l with place := s.place, keyAllowed := s.ended }

/-- The token that begins with a character. -/
def token (d : Dialect) (l : Lexer) (c : Char) (rest : List Char) : Option Lexer :=
  if c == '%' && l.place.column == 0 then l.directive d
  else if l.place.atDocument then
    l.documentMark (if c == '-' then .documentStart else .documentEnd)
  else if c == '[' then l.openBracket .flowSequence
  else if c == '\x7b' then l.openBracket .flowMapping
  else if c == ']' then l.closeBracket .flowSequenceEnd
  else if c == '\x7d' then l.closeBracket .flowMappingEnd
  else if c == ',' then l.comma
  else if c == '-' && atBlank rest then l.hyphen
  else if c == '?' && (l.inFlow || atBlank rest) then l.questionMark
  else if c == ':' && (l.inFlow || atBlank rest) then l.colon
  else if c == '*' then l.named .alias
  else if c == '&' then l.named .anchor
  else if c == '!' then l.tag d
  else if (c == '|' || c == '>') && !l.inFlow then l.block d
  else if c == '\'' || c == '"' then l.quoted
  else if startsPlain l.inFlow (c :: rest) then l.plain d
  else none

/-- The tokens from a state on.  The number bounds the tokens. -/
def run (d : Dialect) : Nat → Lexer → Option (List Token)
  | 0, _ => none
  | n + 1, l => do
    let l := l.skipBlanks d (l.place.rest.length + 1)
    let keys ← staleKeys l.place l.keys
    let l := ({ l with keys } : Lexer)
    match l.place.rest with
    | [] =>
      let l ← (l.unwind none).dropKey
      return l.tokens.reverse
    | c :: rest =>
      let l := l.unwind (some l.place.column)
      let l ← l.token d c rest
      run d n l

end Lexer

/-- The tokens of a text. -/
def tokens (d : Dialect) (s : List Char) : Option (List Token) :=
  Lexer.run d (s.length + 1) ⟨⟨s, 0, 0, 0⟩, [], [], [none], true⟩

end SigmaRules.Yaml
