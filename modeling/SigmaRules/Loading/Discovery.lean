/-
SigmaRules/Loading/Discovery.lean

Finding the files that hold rules.  The files of a directory come before those
of its subdirectories, both in the order of their names.
-/
import SigmaRules.Files.Disk

namespace SigmaRules.Loading

open Files

/-- Does the name begin with the given text? -/
def startsWith (start name : String) : Bool := start.toList.isPrefixOf name.toList

/-- Does the name end with the given text? -/
def endsWith (ending name : String) : Bool := ending.toList.isSuffixOf name.toList

/-- Is the name one of a file with rules? -/
def isRuleFile (name : String) : Bool := endsWith ".yml" name || endsWith ".yaml" name

/-- Is the name one of a file that is not expected to hold rules? -/
def isKnownOther (name : String) : Bool :=
  startsWith ".git" name || [".md", ".txt", ".json"].any (endsWith · name)

/-- Is the name one of a directory in which no rules are looked for? -/
def isHidden (name : String) : Bool := startsWith ".git" name

/-- What has been found: the paths of rules, and the names of files that are
passed over though they may hold rules. -/
structure Found where
  paths : List Path := []
  skipped : List String := []
  deriving DecidableEq, Repr

/-- What has been found in one place and in another. -/
def Found.append (a b : Found) : Found := ⟨a.paths ++ b.paths, a.skipped ++ b.skipped⟩

/-- All that has been found. -/
def Found.concat (fs : List Found) : Found := fs.foldr Found.append {}

/-- What is found at a file of a directory. -/
def foundFile (dir : Path) (name : String) : Found :=
  if isRuleFile name then ⟨[dir.child name], []⟩
  else if isKnownOther name then {}
  else ⟨[], [name]⟩

/-- Named things in the order of their names. -/
def byName {α : Type} (xs : List (String × α)) : List (String × α) :=
  xs.mergeSort fun a b => decide (a.1 ≤ b.1)

mutual

/-- What is found in a tree at a path. -/
def discover (p : Path) : Tree → Found
  | .file _ => {}
  | .directory cs =>
    let files := (byName (cs.filter fun c => !c.2.isDirectory)).map fun c => foundFile p c.1
    let dirs := (byName (discoverAll p cs)).map (·.2)
    Found.concat (files ++ dirs)

/-- What is found in each of the subdirectories. -/
def discoverAll (p : Path) : List (String × Tree) → List (String × Found)
  | [] => []
  | (name, t) :: cs =>
    let rest := discoverAll p cs
    if t.isDirectory && !isHidden name then (name, discover (p.child name) t) :: rest else rest

end

/-- What is found at paths, up to the first that leads nowhere, which is given
back.  A file counts whatever its name. -/
def collect (disk : Disk) : List Path → Found × Option Path
  | [] => ({}, none)
  | p :: ps =>
    match disk.find p with
    | .error _ => ({}, some p)
    | .ok t =>
      let first : Found := match t with
        | .file _ => ⟨[p], []⟩
        | .directory cs => discover p (.directory cs)
      let (rest, missing) := collect disk ps
      (first.append rest, missing)

end SigmaRules.Loading
