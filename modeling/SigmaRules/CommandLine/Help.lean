/-
SigmaRules/CommandLine/Help.lean

What the program says about itself.
-/
import SigmaRules.CommandLine.Switch
import SigmaRules.Layout.Table

namespace SigmaRules.CommandLine

/-- The name of the program. -/
def programName : String := "sigmatch"

/-- The version of the program. -/
def version : String := "1.2.0"

/-- What a switch is for. -/
def Switch.purpose : Switch → String
  | .help => "show this help and exit"
  | .version => "show the version and exit"
  | .verbose => "report which entries matched, and why"
  | .debug => "log more"
  | .quiet => "log nothing but problems"
  | .color => "color reports: auto, always or never"
  | .rules => "path of a rule or of a directory of rules; may be repeated"
  | .skipUnsupported => "skip rules that count or combine matches"
  | .tag => "use only rules whose title, id or tags contain this"
  | .product => "product that emitted the entries"
  | .service => "service that emitted the entries"
  | .category => "category of the entries"
  | .placeholders => "path of a file with the values of placeholders"
  | .json => "report in JSON"

/-- How the program is called. -/
def usage : String := "usage: " ++ programName ++ " [options] -r RULES input_file"

/-- What the program says about itself, in a console with so many columns. -/
def help (room : Nat) : String :=
  Layout.line usage ++ Layout.line "" ++
    Layout.line "Match Sigma detection rules against JSON-lines log entries." ++ Layout.line "" ++
    Layout.grid room (Switch.all.map fun w => (", ".intercalate w.spellings, w.purpose))

end SigmaRules.CommandLine
