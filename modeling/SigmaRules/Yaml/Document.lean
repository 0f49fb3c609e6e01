/-
SigmaRules/Yaml/Document.lean

From the nodes of a document to its value.  Mappings take up the entries of
those that they are merged with; their own entries come last, and the last
entry of a key counts.

Nodes are checked level by level, and the first that has no value is the one
reported.
-/
import SigmaRules.Yaml.Lexer
import SigmaRules.Yaml.Node

namespace SigmaRules.Yaml

open Document

namespace Node

/-! ### Merging -/

/-- The entries of mappings that a mapping is merged with, those of the last one
first. -/
def mergedItems : List Node → Option (List (Node × Node))
  | [] => some []
  | map t es :: ns => if t == .unmergeable then none else (mergedItems ns).map (· ++ es)
  | _ :: _ => none

/-- The entries that the value of a merge key stands for. -/
def sources : Node → Option (List (Node × Node))
  | map t es => if t == .unmergeable then none else some es
  | list _ ns => mergedItems ns
  | again _ => some []
  | scalar .. => none

mutual

/-- The node with all its mappings merged. -/
def merged : Node → Node
  | scalar t s => scalar t s
  | again t => again t
  | list t ns => list t (mergedAll ns)
  | map t es =>
    match mergedEntries es with
    | some (taken, own) => map t (taken ++ own)
    | none => map .unmergeable []

/-- The nodes with all their mappings merged. -/
def mergedAll : List Node → List Node
  | [] => []
  | n :: ns => n.merged :: mergedAll ns

/-- The entries taken from others, and the entries of the mapping itself. -/
def mergedEntries : List (Node × Node) → Option (List (Node × Node) × List (Node × Node))
  | [] => some ([], [])
  | (k, v) :: es =>
    let key := k.merged
    let v := v.merged
    match mergedEntries es with
    | none => none
    | some (taken, own) =>
      if k.tag == .merge then (sources v).map fun new => (new ++ taken, own)
      else some (taken, (key, v) :: own)

end

mutual

/-- How many collections are around the innermost scalar. -/
def depth : Node → Nat
  | scalar .. | again _ => 0
  | list _ ns => depthAll ns + 1
  | map _ es => depthEntries es + 1

/-- The greatest depth of nodes. -/
def depthAll : List Node → Nat
  | [] => 0
  | n :: ns => max n.depth (depthAll ns)

/-- The greatest depth of keys and values. -/
def depthEntries : List (Node × Node) → Nat
  | [] => 0
  | (k, v) :: es => max (max k.depth v.depth) (depthEntries es)

end

/-! ### Values -/

mutual

/-- The text of a scalar, or of a mapping that says what its text is. -/
def text? : Node → Option String
  | scalar _ s => some s
  | map _ es => entriesText? es
  | list .. | again _ => none

/-- The text under the first equals sign among the keys. -/
def entriesText? : List (Node × Node) → Option String
  | [] => none
  | (k, v) :: es => if k.tag == .value then v.text? else entriesText? es

end

/-- Does the tag ask for a collection? -/
def asksCollection : Tag → Bool
  | .seq | .map | .set | .omap | .pairs | .unmergeable => true
  | _ => false

/-- Is the node a mapping? -/
def isMap : Node → Bool
  | map .. => true
  | _ => false

/-- The value of a node whose tag asks for a scalar; nothing if it asks for a
collection. -/
def atOnce? (n : Node) : Result (Option Value) :=
  if asksCollection n.tag then .ok none
  else
    match n.text? with
    | some s =>
      if n.tag == .timestamp && n.isMap then .error (.fault .momentInMapping)
      else (readScalar n.tag s).map some
    | none => .error (.invalid .value)

/-- A key: it has to have a scalar value. -/
def checkKey (k : Node) : Result Unit :=
  match k with
  | scalar .value _ => .ok ()
  | k =>
    match k.atOnce? with
    | .ok (some _) => .ok ()
    | .ok none => .error (.invalid .value)
    | .error e => .error e

/-- A node that is no key; gives it back if it is a collection. -/
def checkItem (n : Node) : Result (List Node) :=
  n.atOnce?.map fun v => if v.isSome then [] else [n]

/-- Entries, with the collections among the values. -/
def checkEntries : List (Node × Node) → Result (List Node)
  | [] => .ok []
  | (k, v) :: es => do
    checkKey k
    let ns ← checkItem v
    let rest ← checkEntries es
    return ns ++ rest

/-- Items, with the collections among them. -/
def checkItems : List Node → Result (List Node)
  | [] => .ok []
  | n :: ns => do
    let first ← checkItem n
    let rest ← checkItems ns
    return first ++ rest

/-- Items that are mappings of one entry, with the collections in them. -/
def checkPairs : List Node → Result (List Node)
  | [] => .ok []
  | map _ [(k, v)] :: ns => do
    let first ← checkItem k
    let second ← checkItem v
    let rest ← checkPairs ns
    return first ++ second ++ rest
  | _ => .error (.invalid .value)

/-- What is in a collection, with the collections among that. -/
def checkCollection : Node → Result (List Node)
  | list .seq ns => checkItems ns
  | list .omap ns | list .pairs ns => checkPairs ns
  | map .map es | map .set es => checkEntries es
  | again _ => .ok []
  | _ => .error (.invalid .value)

/-- Collections of one level, with those of the next level. -/
def checkLevel : List Node → Result (List Node)
  | [] => .ok []
  | n :: ns => do
    let first ← checkCollection n
    let rest ← checkLevel ns
    return first ++ rest

/-- All levels from one on.  The number bounds the levels. -/
def checkLevels : Nat → List Node → Result Unit
  | 0, _ => .ok ()
  | n + 1, ns => do
    let next ← checkLevel ns
    if next.isEmpty then return ()
    checkLevels n next

/-- The keys without those that are the same as earlier ones. -/
def distinct (vs : List Value) : List Value :=
  (Entries.ofPairs (vs.map fun v => (v, Value.null))).map (·.1)

mutual

/-- The value of a node that has one. -/
def value : Node → Value
  | scalar t s =>
    match readScalar t s with
    | .ok v => v
    | .error _ => .null
  | list t ns =>
    match t with
    | .omap | .pairs => .list (pairValues ns)
    | _ => .list (values ns)
  | map t es =>
    match t with
    | .map => .map (Entries.ofPairs (entryValues es))
    | .set => .set (distinct ((entryValues es).map (·.1)))
    | _ =>
      match atOnce? (map t es) with
      | .ok (some v) => v
      | _ => .null
  | again t => .again (t == .map || t == .set)

/-- The values of nodes. -/
def values : List Node → List Value
  | [] => []
  | n :: ns => n.value :: values ns

/-- The values of entries. -/
def entryValues : List (Node × Node) → List (Value × Value)
  | [] => []
  | (scalar .value s, v) :: es => (.text s, v.value) :: entryValues es
  | (k, v) :: es => (k.value, v.value) :: entryValues es

/-- Mappings of one entry as pairs. -/
def pairValues : List Node → List Value
  | [] => []
  | map _ [(k, v)] :: ns => .pair k.value v.value :: pairValues ns
  | _ :: ns => pairValues ns

end

end Node

/-- The value of a document's node. -/
def valueOf (n : Node) : Result Value := do
  let n := n.merged
  match ← n.atOnce? with
  | some v => return v
  | none =>
    Node.checkLevels (n.depth + 1) [n]
    return n.value

/-- A text without the byte order mark that may open it. -/
def withoutMark : List Char → List Char
  | '\ufeff' :: rest => rest
  | s => s

/-- The value of the document that a text holds; null if it holds none. -/
def read (d : Dialect) (text : String) : Result Value := do
  let s := withoutMark text.toList
  if !s.all d.allows then .error (.invalid .character)
  let ts ← orFail .token (tokens d s)
  match ← orFail .node (Node.ofTokens? d ts) with
  | none => return .null
  | some n => valueOf n

end SigmaRules.Yaml
