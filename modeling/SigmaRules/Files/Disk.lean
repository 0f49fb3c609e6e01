/-
SigmaRules/Files/Disk.lean

A disk, as it is seen from a directory in which a program works.
-/
import SigmaRules.Files.Path
import SigmaRules.Files.Tree
import SigmaRules.Text.Quoted

namespace SigmaRules.Files

/-- Files and directories, and the names of the directory in which work is done. -/
structure Disk where
  root : Tree
  here : List String := []

/-- Why a path leads to no file. -/
inductive ReadProblem
  /-- Nothing has the name. -/
  | missing
  /-- The path leads on from a file. -/
  | notDirectory
  /-- The path leads to a directory. -/
  | isDirectory
  deriving DecidableEq, Repr

/-- What is wrong, in words. -/
def ReadProblem.message (path : Path) (p : ReadProblem) : String :=
  (match p with
    | missing => "[Errno 2] No such file or directory: "
    | notDirectory => "[Errno 20] Not a directory: "
    | isDirectory => "[Errno 21] Is a directory: ") ++ Text.quoted path.text

namespace Disk

/-- What names lead to, from a tree within others.  Two dots lead to the directory
around; nothing is around the root but itself. -/
def follow (around : List Tree) (t : Tree) : List String → Except ReadProblem Tree
  | [] => .ok t
  | n :: ns =>
    match t with
    | .file _ => .error .notDirectory
    | .directory cs =>
      if n == ".." then
        match around with
        | a :: as => follow as a ns
        | [] => follow [] t ns
      else
        match cs.lookup n with
        | some c => follow (t :: around) c ns
        | none => .error .missing

/-- The names that lead from the root to where a path leads. -/
def namesOf (d : Disk) (p : Path) : List String :=
  if p.absolute then p.names else d.here ++ p.names

/-- What a path leads to. -/
def find (d : Disk) (p : Path) : Except ReadProblem Tree := follow [] d.root (d.namesOf p)

/-- The bytes of the file that a path leads to. -/
def read (d : Disk) (p : Path) : Except ReadProblem (List UInt8) :=
  match d.find p with
  | .ok (.file bytes) => .ok bytes
  | .ok (.directory _) => .error .isDirectory
  | .error e => .error e

/-- Names without steps to the directory around; `before` are those before them,
in reverse. -/
def resolve (before : List String) : List String → List String
  | [] => before.reverse
  | n :: ns => if n == ".." then resolve before.tail ns else resolve (n :: before) ns

/-- The disk with something put where a path leads. -/
def put (d : Disk) (p : Path) (t : Tree) : Disk :=
  { d with root := Tree.putAt t (resolve [] (d.namesOf p)) d.root }

end Disk

end SigmaRules.Files
