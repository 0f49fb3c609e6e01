/-
SigmaRules/Yaml/Directive.lean

Directives: lines before a document that say which version of the format it
follows, and what the handles of its tags stand for.
-/
import SigmaRules.Text.Digits
import SigmaRules.Yaml.Block
import SigmaRules.Yaml.Tag

namespace SigmaRules.Yaml

open Text

/-- A number of ASCII digits at the start of a text, and the text after it. -/
def versionNumber? (s : List Char) : Option (Nat × List Char) :=
  match s.takeWhile Char.isDigit with
  | [] => none
  | ds =>
    some (numberOf 10 (ds.map fun c => c.toNat - 48), s.dropWhile Char.isDigit)

/-- Is there a blank that separates, or the end of the line? -/
def Dialect.separated (d : Dialect) (s : List Char) : Bool :=
  match s with
  | [] => true
  | c :: _ => d.separates c

/-- The rest of a line with a version directive. -/
def versionDirective? (d : Dialect) (s : List Char) : Option Token := do
  let (major, s) ← versionNumber? (s.dropWhile d.separates)
  match s with
  | '.' :: s =>
    let (minor, s) ← versionNumber? s
    if d.separated s && onlyComment d s then some (.version major minor) else none
  | _ => none

/-- The rest of a line with a directive about a handle. -/
def handleDirective? (d : Dialect) (s : List Char) : Option Token := do
  let s := s.dropWhile d.separates
  let (handle, s) ←
    match tagHandle? s with
    | some x => some x
    | none =>
      match s with
      | '!' :: s => some (['!'], s)
      | _ => none
  match s with
  | [] => none
  | c :: _ =>
    if !d.separates c then none
    else
      let s := s.dropWhile d.separates
      let name := s.takeWhile (isTagChar true)
      let s := s.dropWhile (isTagChar true)
      if name.isEmpty || !(d.separated s && onlyComment d s) then none
      else (tagText name).map fun n => .handle (String.ofList handle) n

/-- The directive on a line. -/
def directive? (d : Dialect) (line : List Char) : Option Token :=
  match line with
  | '%' :: s =>
    let name := s.takeWhile isNameChar
    let s := s.dropWhile isNameChar
    if name.isEmpty || !d.separated s then none
    else if name == "YAML".toList then versionDirective? d s
    else if name == "TAG".toList then handleDirective? d s
    else if d.passesDirectives then some .directive
    else none
  | _ => none

end SigmaRules.Yaml
