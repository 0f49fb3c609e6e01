/-
SigmaRules/Main.lean

The program: it reads what the command line names from the disk, and writes
what the library answers.
-/
import SigmaRules.CommandLine.Run
import Std.Time.Format

namespace SigmaRules

open Files CommandLine

/-- What is on the disk at a path.  Of a directory, only files with rules are
read. -/
partial def loadTree (path : String) : IO (Option Tree) := do
  let place := (← IO.currentDir) / path
  if ← place.isDir then
    let mut children : List (String × Tree) := []
    for entry in ← place.readDir do
      if (← entry.path.symlinkMetadata).type == .symlink && (← entry.path.isDir) then continue
      if (← entry.path.isDir) || Loading.isRuleFile entry.fileName then
        if let some t ← loadTree entry.path.toString then
          children := (entry.fileName, t) :: children
      else children := (entry.fileName, .file []) :: children
    return some (.directory children)
  else if ← place.pathExists then return some (.file (← IO.FS.readBinFile place).toList)
  else return none

/-- The disk with what is at a path, and with the directories on the way. -/
def loadPath (disk : Disk) (path : Path) : IO Disk := do
  let mut disk := disk
  for count in [0:path.names.length] do
    let part := { path with names := path.names.take count }
    if ← ((← IO.currentDir) / part.text).isDir then disk := disk.put part (.directory [])
  match ← loadTree path.text with
  | some t => return disk.put path t
  | none => return disk

/-- The disk with all that a run may read. -/
def loadDisk (o : Options) : IO Disk := do
  let here := Path.parse (← IO.currentDir).toString
  let mut disk : Disk := { root := .directory [], here := here.names }
  for path in o.rules ++ o.placeholders.toList ++ [o.input] do
    disk ← loadPath disk path
  return disk

/-- The moment that it is. -/
def now : IO Document.Moment := do
  let t ← Std.Time.PlainDateTime.now
  let date : Document.Date := ⟨t.year.toInt.toNat, t.month.toNat, t.day.toNat⟩
  return ⟨date, t.hour.toNat, t.minute.toNat, t.second.toNat, t.nanosecond.toNat / 1000, none⟩

/-- How deep the values in the input may be nested. -/
def depths : Loading.Depths := ⟨900, 900⟩

/-- The columns of the console; 80, if nothing tells. -/
def room : IO Nat := do
  let told ← IO.getEnv "COLUMNS"
  return (told.bind String.toNat?).getD 80

end SigmaRules

open SigmaRules CommandLine

def main (arguments : List String) : IO UInt32 := do
  let disk ←
    match Request.ofArguments arguments with
    | .ok (.report o) => loadDisk o
    | _ => pure { root := .directory [] }
  match respond disk depths (← room) (← now) arguments with
  | .error p =>
    IO.eprintln usage
    IO.eprintln (programName ++ ": error: " ++ p.message)
    return UInt32.ofNat usageCode
  | .ok (.error _) =>
    IO.eprintln (programName ++ ": a fault ended the run")
    return 1
  | .ok (.ok a) =>
    for m in a.log do
      IO.eprintln (programName ++ ": " ++ m.severity.word ++ ": " ++ m.text)
    IO.print a.output
    return UInt32.ofNat a.code
