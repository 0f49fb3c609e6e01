/-
SigmaRules/Files/Tree.lean

Files and directories, as values.
-/

namespace SigmaRules.Files

/-- A file with its bytes, or a directory with what is in it. -/
inductive Tree
  | file (bytes : List UInt8)
  | directory (children : List (String × Tree))

namespace Tree

/-- Is it a directory? -/
def isDirectory : Tree → Bool
  | file _ => false
  | directory _ => true

/-- Children with one more, in the place of the one of that name. -/
def putChild (name : String) (t : Tree) : List (String × Tree) → List (String × Tree)
  | [] => [(name, t)]
  | c :: cs => if c.1 == name then (name, t) :: cs else c :: putChild name t cs

/-- The tree with something put where names lead to.  Directories on the way are
made. -/
def putAt (new : Tree) : List String → Tree → Tree
  | [], t =>
    match new, t with
    | directory [], directory cs => directory cs
    | new, _ => new
  | n :: ns, t =>
    let cs := match t with
      | directory cs => cs
      | file _ => []
    directory (putChild n (putAt new ns ((cs.lookup n).getD (directory []))) cs)

end Tree

end SigmaRules.Files
