/-
SigmaRules/Yaml/Node.lean

From tokens to nodes.  Aliases are replaced by the nodes that they name; what
stands for an alias within the very node that it names is a mark (`Node.again`).
-/
import SigmaRules.Yaml.Scalar

namespace SigmaRules.Yaml

/-- A node of a document, with its tag. -/
inductive Node
  | scalar (t : Tag) (text : String)
  | list (t : Tag) (items : List Node)
  | map (t : Tag) (entries : List (Node × Node))
  /-- The collection in which the node stands, of which this is the tag. -/
  | again (t : Tag)
  deriving Repr

namespace Node

/-- The tag of a node. -/
def tag : Node → Tag
  | scalar t _ | list t _ | map t _ | again t => t

/-- What stands where nothing is written. -/
def missing : Node := scalar .null ""

/-- What is known while nodes are read: what the handles of tags stand for, and the
nodes that have names. -/
structure Context where
  handles : List (String × String)
  anchors : List (String × Node) := []

/-- What stands before a node. -/
structure Properties where
  anchor : Option String := none
  tag : Option RawTag := none

/-- The properties at the start of tokens, in either order, and the tokens after
them. -/
def properties : List Token → Properties × List Token
  | .anchor a :: .tag t :: ts | .tag t :: .anchor a :: ts => (⟨some a, some t⟩, ts)
  | .anchor a :: ts => (⟨some a, none⟩, ts)
  | .tag t :: ts => (⟨none, some t⟩, ts)
  | ts => ({}, ts)

namespace Properties

/-- Are there none? -/
def isEmpty (p : Properties) : Bool := p.anchor.isNone && p.tag.isNone

/-- The whole name of the tag: `some none` without a tag, `none` if its handle
stands for nothing. -/
def tagName? (c : Context) (p : Properties) : Option (Option String) :=
  match p.tag with
  | none => some none
  | some ⟨none, name⟩ => some (some name)
  | some ⟨some h, name⟩ => (c.handles.lookup h).map fun start => some (start ++ name)

end Properties

/-- The tag of a node that is no scalar. -/
def collectionTag (name : Option String) (default : Tag) : Tag :=
  match name with
  | none => default
  | some "!" => default
  | some n => .ofName n

/-- The tag of a scalar that is written. -/
def scalarTag (name : Option String) (unquoted : Bool) (text : String) : Tag :=
  match name with
  | none => if unquoted then .ofPlain text else .str
  | some "!" => .ofPlain text
  | some n => .ofName n

/-- A node of which only the properties are written. -/
def ofProperties (d : Dialect) (name : Option String) : Node :=
  match name with
  | none => missing
  | some "!" => scalar (if d.bareTagIsNull then .null else .str) ""
  | some n => scalar (.ofName n) ""

/-- The context in which a name stands for a node. -/
def Context.naming (c : Context) (anchor : Option String) (n : Node) : Context :=
  match anchor with
  | none => c
  | some a => { c with anchors := (a, n) :: c.anchors }

/-- Can a node not begin with this token, nor anything that stands in its place in
a sequence? -/
def endsItem (indentless : Bool) : List Token → Bool
  | .blockEntry :: _ | .blockEnd :: _ => true
  | .key :: _ | .value :: _ => indentless
  | _ => false

/-- Is nothing written for a key or a value of a block mapping? -/
def endsEntry : List Token → Bool
  | .key :: _ | .value :: _ | .blockEnd :: _ => true
  | _ => false

/-- Is nothing written for a key of a flow collection? -/
def endsFlowKey : List Token → Bool
  | .value :: _ | .flowEntry :: _ | .flowSequenceEnd :: _ | .flowMappingEnd :: _ => true
  | _ => false

/-- Is nothing written for a value of a flow collection? -/
def endsFlowValue : List Token → Bool
  | .flowEntry :: _ | .flowSequenceEnd :: _ | .flowMappingEnd :: _ => true
  | _ => false

mutual

/-- The node at the start of tokens.  `block` tells whether it can be a block
collection, `indentless` whether it can be a sequence that is not indented.  The
number bounds the depth of the calls. -/
def read (d : Dialect) (block indentless : Bool) :
    Nat → Context → List Token → Option (Node × Context × List Token)
  | 0, _, _ => none
  | _ + 1, c, .alias a :: ts => (c.anchors.lookup a).map fun n => (n, c, ts)
  | n + 1, c, ts =>
    let (p, ts) := properties ts
    match p.tagName? c with
    | none => none
    | some name =>
      if p.anchor.any fun a => (c.anchors.lookup a).isSome then none
      else
        let named (x : Option (Node × Context × List Token)) :
            Option (Node × Context × List Token) :=
          x.map fun (m, c, ts) => (m, c.naming p.anchor m, ts)
        let inList := c.naming p.anchor (again (collectionTag name .seq))
        let inMap := c.naming p.anchor (again (collectionTag name .map))
        let sequence (x : Option (List Node × Context × List Token)) :
            Option (Node × Context × List Token) :=
          named (x.map fun (ns, c, ts) => (list (collectionTag name .seq) ns, c, ts))
        let mapping (x : Option (List (Node × Node) × Context × List Token)) :
            Option (Node × Context × List Token) :=
          named (x.map fun (es, c, ts) => (map (collectionTag name .map) es, c, ts))
        match ts with
        | .scalar s unquoted :: ts => named (some (scalar (scalarTag name unquoted s) s, c, ts))
        | .flowSequence :: ts => sequence (readFlowItems d true n inList ts)
        | .flowMapping :: ts => mapping (readFlowEntries d true n inMap ts)
        | .blockSequence :: ts =>
          if block then sequence (readItems d false n inList ts)
          else if p.isEmpty then none
          else named (some (ofProperties d name, c, .blockSequence :: ts))
        | .blockMapping :: ts =>
          if block then mapping (readEntries d n inMap ts)
          else if p.isEmpty then none
          else named (some (ofProperties d name, c, .blockMapping :: ts))
        | .blockEntry :: ts =>
          if indentless then sequence (readItems d true n inList (.blockEntry :: ts))
          else if p.isEmpty then none
          else named (some (ofProperties d name, c, .blockEntry :: ts))
        | ts => if p.isEmpty then none else named (some (ofProperties d name, c, ts))

/-- The items of a block sequence. -/
def readItems (d : Dialect) (indentless : Bool) :
    Nat → Context → List Token → Option (List Node × Context × List Token)
  | 0, _, _ => none
  | n + 1, c, .blockEntry :: ts => do
    let (item, c, ts) ←
      if endsItem indentless ts then some (missing, c, ts) else read d true false n c ts
    let (items, c, ts) ← readItems d indentless n c ts
    return (item :: items, c, ts)
  | _ + 1, c, ts =>
    if indentless then some ([], c, ts)
    else
      match ts with
      | .blockEnd :: ts => some ([], c, ts)
      | _ => none

/-- The entries of a block mapping. -/
def readEntries (d : Dialect) :
    Nat → Context → List Token → Option (List (Node × Node) × Context × List Token)
  | 0, _, _ => none
  | _ + 1, c, .blockEnd :: ts => some ([], c, ts)
  | n + 1, c, ts => do
    let (k, c, ts) ←
      match ts with
      | .key :: ts => if endsEntry ts then some (missing, c, ts) else read d true true n c ts
      | .value :: ts => some (missing, c, .value :: ts)
      | _ => none
    let (v, c, ts) ←
      match ts with
      | .value :: ts => if endsEntry ts then some (missing, c, ts) else read d true true n c ts
      | ts => some (missing, c, ts)
    let (es, c, ts) ← readEntries d n c ts
    return ((k, v) :: es, c, ts)

/-- The items of a flow sequence.  An item with a colon is a mapping of one entry. -/
def readFlowItems (d : Dialect) (first : Bool) :
    Nat → Context → List Token → Option (List Node × Context × List Token)
  | 0, _, _ => none
  | _ + 1, c, .flowSequenceEnd :: ts => some ([], c, ts)
  | n + 1, c, ts => do
    let ts ←
      match first, ts with
      | true, ts => some ts
      | false, .flowEntry :: ts => some ts
      | false, _ => none
    match ts with
    | .flowSequenceEnd :: ts => if first then none else some ([], c, ts)
    | .key :: ts =>
      let (k, c, ts) ← if endsFlowKey ts then some (missing, c, ts) else read d false false n c ts
      let (v, c, ts) ←
        match ts with
        | .value :: ts =>
          if endsFlowValue ts then some (missing, c, ts) else read d false false n c ts
        | ts => some (missing, c, ts)
      let (items, c, ts) ← readFlowItems d false n c ts
      return (map .map [(k, v)] :: items, c, ts)
    | ts =>
      let (item, c, ts) ← read d false false n c ts
      let (items, c, ts) ← readFlowItems d false n c ts
      return (item :: items, c, ts)

/-- The entries of a flow mapping. -/
def readFlowEntries (d : Dialect) (first : Bool) :
    Nat → Context → List Token → Option (List (Node × Node) × Context × List Token)
  | 0, _, _ => none
  | _ + 1, c, .flowMappingEnd :: ts => some ([], c, ts)
  | n + 1, c, ts => do
    let ts ←
      match first, ts with
      | true, ts => some ts
      | false, .flowEntry :: ts => some ts
      | false, _ => none
    match ts with
    | .flowMappingEnd :: ts => if first then none else some ([], c, ts)
    | .key :: ts =>
      let (k, c, ts) ← if endsFlowKey ts then some (missing, c, ts) else read d false false n c ts
      let (v, c, ts) ←
        match ts with
        | .value :: ts =>
          if endsFlowValue ts then some (missing, c, ts) else read d false false n c ts
        | ts => some (missing, c, ts)
      let (es, c, ts) ← readFlowEntries d false n c ts
      return ((k, v) :: es, c, ts)
    | ts =>
      let (k, c, ts) ← read d false false n c ts
      let (es, c, ts) ← readFlowEntries d false n c ts
      return ((k, missing) :: es, c, ts)

end

/-! ### Documents -/

/-- The handles that stand for something in every document. -/
def standardHandles : List (String × String) := [("!", "!"), ("!!", standardTags)]

/-- The handles that directives define, and the tokens after the directives.  There
is at most one directive for a handle, and for the version. -/
def directives (d : Dialect) (versions : Bool) (handles : List (String × String)) :
    List Token → Option (List (String × String) × List Token)
  | .version major minor :: ts =>
    if versions || major != 1 || !(d.anyMinorVersion || minor == 1 || minor == 2) then none
    else directives d true handles ts
  | .handle h start :: ts =>
    if (handles.lookup h).isSome then none else directives d versions ((h, start) :: handles) ts
  | .directive :: ts => directives d versions handles ts
  | ts => some (handles ++ standardHandles, ts)

/-- Is the document after its start mark empty? -/
def endsDocument : List Token → Bool
  | [] => true
  | .version .. :: _ | .handle .. :: _ | .directive :: _ | .documentStart :: _
  | .documentEnd :: _ => true
  | _ => false

/-- The node of the only document that tokens hold; nothing if they hold none. -/
def ofTokens? (d : Dialect) (ts : List Token) : Option (Option Node) := do
  let bound := 2 * ts.length + 2
  let whole (handles : List (String × String)) (ts : List Token) :=
    (read d true false bound ⟨handles, []⟩ ts).map fun (n, _, ts) => (some n, ts)
  let (node, rest) ←
    if ts.isEmpty then some (none, [])
    else if endsDocument ts && ts.head? != some .documentEnd then
      match directives d false [] ts with
      | some (handles, .documentStart :: ts) =>
        if endsDocument ts then some (some missing, ts) else whole handles ts
      | _ => none
    else whole standardHandles ts
  if (rest.dropWhile (· == .documentEnd)).isEmpty then some node else none

end Node

end SigmaRules.Yaml
