/-
SigmaRules/Detection/Basic.lean

The detection of a rule: named values that stand for searches, and conditions
over their names.  Alternative conditions are joined by a disjunction.
-/
import SigmaRules.Detection.Problem
import SigmaRules.Document.Access

namespace SigmaRules.Detection

open Document

/-- The name of the condition. -/
def conditionKey : String := "condition"

/-- The name of the span of time over which matches are counted. -/
def timeframeKey : String := "timeframe"

/-- A search for words in the message. -/
def keywords (patterns : List String) : Search := ⟨none, [], patterns⟩

/-- The search that a key such as `Image|endswith` writes for patterns. -/
def searchFor (key : String) (patterns : List String) : Search :=
  match Text.splitAt (· == '|') key.toList with
  | [] => keywords patterns
  | field :: modifiers =>
    { field := if field.isEmpty then none else some (String.ofList field)
      modifiers := modifiers.map fun m => Modifier.ofName (String.ofList m)
      patterns := patterns }

/-- The scalars that the value of a field is made of. -/
def scalars? : Value → Option (List Value)
  | .list xs => if xs.all Value.isScalar then some xs else none
  | v => if v.isScalar then some [v] else none

/-- The search of a field. -/
def ofField (key : Value) (v : Value) : Except (Failure ValueProblem) Search := do
  let key ← Failure.orStop (key.write Value.plain)
  match scalars? v with
  | none => .error (.invalid (.unsupportedField key))
  | some vs =>
    let patterns ← Failure.orStop (vs.mapM (·.write Value.pattern))
    let s := searchFor key patterns
    (Failure.within (.search key) s.kind).map fun _ => s

/-- The searches of fields, or what is wrong with the first that is malformed. -/
def ofFields : Entries → Except (Failure ValueProblem) (List Search)
  | [] => .ok []
  | (k, v) :: es => do
    let s ← ofField k v
    let ss ← ofFields es
    return s :: ss

/-- The expression of a mapping, of which all searches have to match. -/
def ofMap (es : Entries) : Except (Failure ValueProblem) Expr := do
  match ← ofFields es with
  | [] => .error (.invalid .emptyMap)
  | [s] => return .search s
  | ss => return .and (ss.map .search)

/-- The expression of a scalar, which is a word to look for. -/
def ofScalar (v : Value) : Except (Failure ValueProblem) Expr := do
  let pattern ← Failure.orStop (v.write Value.pattern)
  return .search (keywords [pattern])

/-- The expression of an item of a list. -/
def ofItem (name : String) : Value → Except (Failure ValueProblem) Expr
  | .map es => ofMap es
  | v => if v.isScalar then ofScalar v else .error (.invalid (.unsupportedItem name))

/-- The expressions of items, or what is wrong with the first that is malformed. -/
def ofItems (name : String) : List Value → Except (Failure ValueProblem) (List Expr)
  | [] => .ok []
  | v :: vs => do
    let x ← ofItem name v
    let xs ← ofItems name vs
    return x :: xs

/-- The patterns of an expression that only looks for words. -/
def plainKeywords? : Expr → Option (List String)
  | .search s => if s.fieldName?.isNone && s.modifiers.isEmpty then some s.patterns else none
  | _ => none

/-- Expressions of which any has to match.  Words to look for are joined to one
search. -/
def anyOf (xs : List Expr) : Expr :=
  match xs.mapM plainKeywords? with
  | some ps => .search (keywords ps.flatten)
  | none => .or xs

/-- The expression of the value of a search identifier. -/
def ofValue (name : String) : Value → Except (Failure ValueProblem) Expr
  | .list vs => do
    match ← ofItems name vs with
    | [] => .error (.invalid (.emptyList name))
    | [x] => return x
    | xs => return anyOf xs
  | .map es => ofMap es
  | v => if v.isScalar then ofScalar v else .error (.invalid (.unsupported name))

/-- Named values with one more, in the place of the one of that name or in the
order of names. -/
def insertNamed (name : String) (v : Value) : List (String × Value) → List (String × Value)
  | [] => [(name, v)]
  | i :: rest =>
    if name < i.1 then (name, v) :: i :: rest
    else if name = i.1 then (name, v) :: rest
    else i :: insertNamed name v rest

/-- Is the key that of a search identifier? -/
def isIdentifier (key : Value) : Bool :=
  !(key.sameKey (.text conditionKey) || key.sameKey (.text timeframeKey))

/-- The values of the search identifiers of a detection, in the order of their
names. -/
def identifierValues (es : Entries) : Except Fault (List (String × Value)) := do
  let named ← (es.filter fun e => isIdentifier e.1).mapM fun e => do
    let name ← e.1.write Value.plain
    return (name, e.2)
  return named.foldl (fun found i => insertNamed i.1 i.2 found) []

/-- The search identifiers with their expressions. -/
def identifiers : List (String × Value) → Except (Failure Problem) Condition.Identifiers
  | [] => .ok []
  | (name, v) :: rest => do
    let x ← Failure.within (.identifier name) (ofValue name v)
    let xs ← identifiers rest
    return (name, .named name x) :: xs

/-- The expressions of conditions. -/
def ofConditions (table : Condition.Identifiers) :
    List String → Except (Failure Problem) (List Expr)
  | [] => .ok []
  | c :: cs => do
    let x ← (Condition.parse table c).mapError fun p => .invalid (.condition p)
    let xs ← ofConditions table cs
    return x :: xs

/-- The expression of a detection. -/
def build (block : Value) : Except (Failure Problem) Expr :=
  if block.isBlank then .error (.invalid .missing)
  else
    match block with
    | .map es =>
      if Entries.has es (.text timeframeKey) then .error (.invalid .timeframe)
      else
        match (Entries.get? es (.text conditionKey)).elim [] Value.texts with
        | [] => .error (.invalid .withoutCondition)
        | conditions => do
          let named ← Failure.orStop (identifierValues es)
          let table ← identifiers named
          match ← ofConditions table conditions with
          | [x] => return x
          | xs => return .or xs
    | _ => .error (.invalid .notMapping)

end SigmaRules.Detection
