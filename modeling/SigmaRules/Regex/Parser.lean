/-
SigmaRules/Regex/Parser.lean

From the text of a regular expression to its tree.  The reader goes through
the tokens once, with a stack of the groups that are open.  An open group is
a `Frame`: the alternatives that are complete and the pieces of the one being
read.  `step` reads one construct and leaves fewer tokens.

When a group closes, its alternatives are joined: a common beginning is taken
out, and alternatives of one character each become a set.
-/
import SigmaRules.Regex.Escape
import SigmaRules.Text.Blank
import SigmaRules.Text.Name
import SigmaRules.Text.Numeral

namespace SigmaRules.Regex

open Text

/-! ### Joining alternatives -/

/-- The leaves that all alternatives start with, and what is left of each. -/
def commonStart : List Node → List (List Node) → List Node × List (List Node)
  | n :: rest, others =>
    if n.isLeaf && others.all (fun o => o.head? == some n) then
      let (shared, tails) := commonStart rest (others.map List.tail)
      (n :: shared, tails)
    else ([], (n :: rest) :: others)
  | [], others => ([], [] :: others)

/-- The set items of an alternative that is one character. -/
def oneCharItems? : List Node → Option (List SetItem)
  | [.char (.literal _ c)] => some [.single c]
  | [.char (.set _ false items)] => some items
  | _ => none

/-- Alternatives as one sequence of nodes. -/
def joinAlternatives (rule : CaseRule) : List (List Node) → List Node
  | [] => []
  | [nodes] => nodes
  | first :: others =>
    let (shared, tails) := commonStart first others
    match tails.mapM oneCharItems? with
    | some items => shared ++ [.char (.set rule false items.flatten.eraseDups)]
    | none => shared ++ [.oneOf (tails.map .ofList)]

/-! ### Open groups -/

/-- What has been opened by a parenthesis, and is not closed yet. -/
inductive Opening
  /-- The expression itself. -/
  | whole
  /-- A group without effect of its own. -/
  | plain
  /-- A group with flags of its own. -/
  | scoped
  /-- A group whose first match is final. -/
  | atomic
  /-- A group whose text is kept. -/
  | capture (index : Nat)
  /-- A test of the text that follows. -/
  | ahead (negated : Bool)
  /-- A test of the text before; `outer` is the bound on references that holds
  again after it. -/
  | behind (negated : Bool) (outer : Option Nat)
  /-- Two expressions, of which a group's match selects one. -/
  | conditional (index : Nat)
  deriving DecidableEq, Repr

/-- An element of an alternative.  The nodes of a group without effect are
spliced into the sequence around it once that is complete. -/
inductive Piece
  | node (n : Node)
  | spliced (ns : List Node)
  deriving Repr

/-- The nodes of a piece. -/
def Piece.nodes : Piece → List Node
  | .node n => [n]
  | .spliced ns => ns

/-- An open group. -/
structure Frame where
  opening : Opening
  flags : Flags
  /-- Complete alternatives, last first. -/
  complete : List (List Node) := []
  /-- Pieces of the alternative being read, last first. -/
  pieces : List Piece := []
  deriving Repr

/-- The nodes of the alternative being read. -/
def Frame.current (f : Frame) : List Node := f.pieces.reverse.flatMap Piece.nodes

/-- The content of the group, all alternatives joined. -/
def Frame.content (f : Frame) : List Node :=
  joinAlternatives f.flags.caseRule (f.complete.reverse ++ [f.current])

/-- What is known while an expression is read. -/
structure Reading where
  top : Frame
  below : List Frame := []
  /-- The number of groups opened so far. -/
  groups : Nat := 0
  /-- The widths of the groups that are closed. -/
  widths : List (Nat × Width) := []
  /-- The groups that have names. -/
  names : List (List Char × Nat) := []
  /-- Within a look-behind, the number of groups opened before it. -/
  bound : Option Nat := none
  /-- The groups that conditions ask for. -/
  asked : List Nat := []
  /-- The flags that the whole expression was set to. -/
  wholeFlags : List Char := []
  deriving Repr

namespace Reading

/-- One more piece. -/
def push (r : Reading) (p : Piece) : Reading :=
  { r with top := { r.top with pieces := p :: r.top.pieces } }

/-- One more node. -/
def pushNode (r : Reading) (n : Node) : Reading := r.push (.node n)

/-- A character that stands for itself. -/
def pushLiteral (r : Reading) (c : Nat) : Reading :=
  r.pushNode (.char (.literal r.top.flags.caseRule c))

/-- A group opens. -/
def enter (r : Reading) (opening : Opening) (flags : Flags) : Reading :=
  { r with top := { opening, flags }, below := r.top :: r.below }

/-- A group may be referred to if it is closed and, in a look-behind, was
opened before it. -/
def closedWidth? (r : Reading) (index : Nat) : Option Width :=
  match r.bound with
  | some b => if index ≤ b then r.widths.lookup index else none
  | none => r.widths.lookup index

/-- A reference to what a group matched. -/
def refer (r : Reading) (index : Nat) : Except Error Reading :=
  match r.closedWidth? index with
  | some w => .ok (r.pushNode (.backref r.top.flags.caseRule index w))
  | none => .error .malformed

/-- The last piece is repeated.  Anchors and repetitions cannot be. -/
def repeated (r : Reading) (lo : Nat) (hi : Option Nat) (rest : List Token) :
    Except Error (Reading × List Token) :=
  let (greed, rest) := match rest with
    | .plain '?' :: rest => (Greed.lazy, rest)
    | .plain '+' :: rest => (Greed.possessive, rest)
    | _ => (Greed.greedy, rest)
  match r.top.pieces with
  | [] => .error .malformed
  | .spliced ns :: before =>
    .ok ({ r with top := { r.top with
      pieces := .node (.times lo hi greed (.ofList ns)) :: before } }, rest)
  | .node n :: before =>
    if n.isAnchor || n.isTimes then .error .malformed
    else .ok ({ r with top := { r.top with
      pieces := .node (.times lo hi greed n) :: before } }, rest)

end Reading

/-! ### Constructs -/

/-- The tokens after a comment's closing parenthesis. -/
def skipComment : List Token → Except Error (List Token)
  | [] => .error .malformed
  | .plain ')' :: rest => .ok rest
  | _ :: rest => skipComment rest

/-- The tokens after a comment that goes on to the end of the line. -/
def skipLine : List Token → Except Error (List Token)
  | [] => .ok []
  | .plain '\n' :: rest => .ok rest
  | .dangling :: _ => .error .malformed
  | _ :: rest => skipLine rest

/-- A reference by number, or a character by its octal code: three octal
digits are a code, any other digits a reference. -/
def numberEscape (r : Reading) (c : Char) (rest : List Token) :
    Except Error (Reading × List Token) :=
  let (more, after) := takeDigits decimalDigit? 1 rest
  let (octal, afterOctal) := takeDigits octalDigit? 2 rest
  match octalDigit? c, octal with
  | some a, [b, d] =>
    let n := numberOf 8 [a, b, d]
    if n ≤ 0o377 then .ok (r.pushLiteral n, afterOctal) else .error .malformed
  | _, _ =>
    let index := numberOf 10 ((decimalDigit? c).getD 0 :: more)
    (r.refer index).map fun r => (r, after)

/-- An escape outside of sets. -/
def readEscape (r : Reading) (c : Char) (rest : List Token) :
    Except Error (Reading × List Token) :=
  let ascii := r.top.flags.ascii
  let anchor (a : Anchor) := Except.ok (r.pushNode (.anchor a), rest)
  match c with
  | 'A' => anchor .textStart
  | 'Z' => anchor .textEnd
  | 'b' => anchor (.wordEdge ascii false)
  | 'B' => anchor (.wordEdge ascii true)
  | '0' =>
    let (ds, rest) := takeDigits octalDigit? 2 rest
    .ok (r.pushLiteral (numberOf 8 ds), rest)
  | _ =>
    match classEscape? c, controlEscape? c, codeEscape c rest with
    | some (k, negated), _, _ =>
      let test := CharTest.set r.top.flags.caseRule false [.category k ascii negated]
      .ok (r.pushNode (.char test), rest)
    | _, some n, _ => .ok (r.pushLiteral n, rest)
    | _, _, some code => code.map fun (n, rest) => (r.pushLiteral n, rest)
    | _, _, _ =>
      if (decimalDigit? c).isSome then numberEscape r c rest
      else if isAsciiLetter c then .error .malformed
      else .ok (r.pushLiteral c.toNat, rest)

/-- A group whose text is kept opens. -/
def openCapture (r : Reading) (name : Option (List Char)) : Except Error Reading := do
  let index := r.groups + 1
  let names ← match name with
    | some n =>
      if (r.names.lookup n).isSome then .error .malformed else pure ((n, index) :: r.names)
    | none => pure r.names
  return { r with groups := index, names }.enter (.capture index) r.top.flags

/-- The group that a condition asks for, by name or by number. -/
def readCondition (r : Reading) (name : List Char) : Except Error Reading := do
  let (index, r) ←
    if isName name then
      match r.names.lookup name with
      | some index => pure (index, r)
      | none => .error .malformed
    else
      match Numeral.toInt? name with
      | some (.ofNat (index + 1)) =>
        pure (index + 1, { r with asked := (index + 1) :: r.asked })
      | _ => .error .malformed
  if r.bound.isSome && (r.closedWidth? index).isNone then .error .malformed
  else return r.enter (.conditional index) r.top.flags

/-- What follows an opening parenthesis and a question mark. -/
def readExtension (r : Reading) (ts : List Token) : Except Error (Reading × List Token) :=
  let flags := r.top.flags
  match ts with
  | .plain 'P' :: .plain '<' :: rest => do
    let (name, rest) ← readName '>' rest
    if isName name then return (← openCapture r (some name), rest) else .error .malformed
  | .plain 'P' :: .plain '=' :: rest => do
    let (name, rest) ← readName ')' rest
    match isName name, r.names.lookup name with
    | true, some index => return (← r.refer index, rest)
    | _, _ => .error .malformed
  | .plain ':' :: rest => .ok (r.enter .plain flags, rest)
  | .plain '#' :: rest => (skipComment rest).map fun rest => (r, rest)
  | .plain '=' :: rest => .ok (r.enter (.ahead false) flags, rest)
  | .plain '!' :: rest => .ok (r.enter (.ahead true) flags, rest)
  | .plain '<' :: .plain c :: rest =>
    if c == '=' || c == '!' then
      let inner := { r with bound := some (r.bound.getD r.groups) }
      .ok (inner.enter (.behind (c == '!') r.bound) flags, rest)
    else .error .malformed
  | .plain '(' :: rest => do
    let (name, rest) ← readName ')' rest
    return (← readCondition r name, rest)
  | .plain '>' :: rest => .ok (r.enter .atomic flags, rest)
  | _ => do
    let (change, rest) ← flagChange ts
    match change with
    | .group on off => return (r.enter .scoped (flags.change on off), rest)
    | .whole on =>
      if r.below.isEmpty && r.top.complete.isEmpty && r.top.pieces.isEmpty then
        let top := { r.top with flags := flags.change on [] }
        return ({ r with top, wholeFlags := on ++ r.wholeFlags }, rest)
      else .error .malformed

/-- A bar ends an alternative.  A condition has at most two. -/
def readBar (r : Reading) : Except Error Reading :=
  match r.top.opening, r.top.complete with
  | .conditional _, _ :: _ => .error .malformed
  | _, complete =>
    .ok { r with top := { r.top with complete := r.top.current :: complete, pieces := [] } }

/-- A closing parenthesis ends the innermost group. -/
def readClose (r : Reading) : Except Error Reading :=
  match r.below with
  | [] => .error .malformed
  | outer :: below =>
    let content := r.top.content
    let body := Node.ofList content
    let r' := { r with top := outer, below }
    match r.top.opening with
    | .whole => .error .malformed
    | .plain => .ok (r'.push (.spliced content))
    | .scoped => .ok (r'.pushNode (.group none body))
    | .atomic => .ok (r'.pushNode (.atomic body))
    | .capture index =>
      let r' := { r' with widths := (index, body.width) :: r'.widths }
      .ok (r'.pushNode (.group (some index) body))
    | .ahead negated => .ok (r'.pushNode (.ahead negated body))
    | .behind negated bound =>
      .ok ({ r' with bound }.pushNode (.behind negated body.width.lo body))
    | .conditional index =>
      let current := Node.ofList r.top.current
      match r.top.complete with
      | [] => .ok (r'.pushNode (.conditional index current .empty))
      | yes :: _ => .ok (r'.pushNode (.conditional index (.ofList yes) current))

/-- Reads one construct, which takes at least one token. -/
def step (r : Reading) (t : Token) (rest : List Token) : Except Error (Reading × List Token) :=
  let flags := r.top.flags
  match t with
  | .dangling => .error .malformed
  | .escaped c => readEscape r c rest
  | .plain c =>
    if flags.verbose && (c == ' ' || (9 ≤ c.toNat && c.toNat ≤ 13)) then .ok (r, rest)
    else if flags.verbose && c == '#' then (skipLine rest).map fun rest => (r, rest)
    else
      match c with
      | '|' => (readBar r).map fun r => (r, rest)
      | ')' => (readClose r).map fun r => (r, rest)
      | '(' =>
        match rest with
        | .plain '?' :: rest => readExtension r rest
        | _ => (openCapture r none).map fun r => (r, rest)
      | '[' => (bracketed flags rest).map fun (t, rest) => (r.pushNode (.char t), rest)
      | '?' => r.repeated 0 (some 1) rest
      | '*' => r.repeated 0 none rest
      | '+' => r.repeated 1 none rest
      | '{' => do
        match ← readCounts rest with
        | some ((lo, hi), rest) => r.repeated lo hi rest
        | none => return (r.pushLiteral c.toNat, rest)
      | '.' => .ok (r.pushNode (.char (if flags.dotAll then .any else .notNewline)), rest)
      | '^' => .ok (r.pushNode (.anchor (.caret flags.multiline)), rest)
      | '$' => .ok (r.pushNode (.anchor (.dollar flags.multiline)), rest)
      | _ => .ok (r.pushLiteral c.toNat, rest)

/-- Reads constructs up to the end.  Each takes a token at least, so the
number of tokens bounds their number. -/
def readAll : Nat → Reading → List Token → Except Error Reading
  | _, r, [] => .ok r
  | 0, _, _ :: _ => .error .malformed
  | fuel + 1, r, t :: rest => do
    let (r, rest) ← step r t rest
    readAll fuel r rest

/-- The tree of a complete reading: all groups are closed, the groups that
conditions ask for exist, every look-behind has one length, and a template
has no repetitions. -/
def Reading.finish (r : Reading) : Except Error Node :=
  let node := Node.ofList r.top.content
  if !r.below.isEmpty then .error .malformed
  else if r.wholeFlags.contains 'a' && r.wholeFlags.contains 'u' then .error .clashingFlags
  else if r.asked.any (· > r.groups) then .error .malformed
  else if !node.lookBehindsFixed then .error .malformed
  else if r.wholeFlags.contains 't' && node.hasTimes then .error .malformed
  else .ok node

/-- The tree of a regular expression, read under the given flags. -/
def parse (flags : Flags) (source : List Char) : Except Error Node := do
  let ts := tokenize source
  let r ← readAll ts.length { top := { opening := .whole, flags } } ts
  r.finish

end SigmaRules.Regex
