/-
SigmaRules/Rule/Basic.lean

Rules: an expression to look for in the entries of a log, with what it is
about.  A rule is read from a document; the first problem found is reported,
in the order detection, relations, status, level, log source, days, lists.
-/
import SigmaRules.Detection.Basic
import SigmaRules.Expr.Evaluate
import SigmaRules.Rule.Metadata
import SigmaRules.Rule.Problem
import SigmaRules.Yaml.Document

namespace SigmaRules

open Document

/-- A rule. -/
structure Rule where
  title : String
  expr : Expr
  id : Option String := none
  related : Option (List Relation) := none
  status : Option Status := none
  description : Option String := none
  references : Option (List String) := none
  author : Option String := none
  date : Option RuleDate := none
  modified : Option RuleDate := none
  tags : Option (List String) := none
  level : Option Level := none
  logSource : Option LogSource := none
  fields : Option (List String) := none
  falsePositives : List String := []
  /-- Entries of the document that rules do not know. -/
  extra : Entries := []
  /-- The document as it is written. -/
  definition : String := ""
  /-- The file in which the rule stands. -/
  path : Option String := none
  deriving Repr

namespace Rule

/-- The names that rules know. -/
def knownKeys : List String :=
  ["title", "id", "related", "status", "description", "references", "author", "date", "modified",
    "tags", "level", "logsource", "detection", "fields", "falsepositives"]

/-- A short text that tells rules apart. -/
def label (r : Rule) : String :=
  "Rule(id=" ++ r.id.getD Value.null.plain ++ ", title=" ++ r.title ++ ")"

/-- The value of a name, unless it counts as missing. -/
def filled? (es : Entries) (name : String) : Option Value :=
  (es.named? name).filter fun v => !v.isBlank

/-- A problem with a value, which is told in its plain form. -/
def refuse {α : Type} (problem : String → FieldProblem) (v : Value) :
    Except (Failure FieldProblem) α := do
  let text ← Failure.orStop (v.write Value.plain)
  .error (.invalid (problem text))

/-- A relation to another rule; values that count as missing are none. -/
def relation? (i : Nat) (v : Value) : Except (Failure FieldProblem) (Option Relation) :=
  if v.isBlank then .ok none
  else
    match v with
    | .map es =>
      match filled? es "id", filled? es "type" with
      | none, _ => .error (.invalid (.relationWithoutId i))
      | _, none => .error (.invalid (.relationWithoutType i))
      | some id, some type => do
        let id ← Failure.orStop (id.write Value.plain)
        match RelationKind.ofValue? type with
        | some kind => return some ⟨id, kind⟩
        | none => refuse (.relationType i) type
    | _ => .error (.invalid (.relationNotMapping i))

/-- The relations that stand from a position on. -/
def relationsFrom (i : Nat) : List Value → Except (Failure FieldProblem) (List Relation)
  | [] => .ok []
  | v :: vs => do
    let r ← relation? i v
    let rs ← relationsFrom (i + 1) vs
    return r.toList ++ rs

/-- The relations to other rules. -/
def related? (es : Entries) : Except (Failure FieldProblem) (Option (List Relation)) :=
  match es.named? "related" with
  | none => .ok none
  | some (.list vs) => (relationsFrom 0 vs).map some
  | some _ => .error (.invalid .relatedNotList)

/-- The state of the rule. -/
def status? (es : Entries) : Except (Failure FieldProblem) (Option Status) :=
  match es.named? "status" with
  | none => .ok none
  | some v =>
    match Status.ofValue? v with
    | some s => .ok (some s)
    | none => refuse .status v

/-- The level of the rule. -/
def level? (es : Entries) : Except (Failure FieldProblem) (Option Level) :=
  match es.named? "level" with
  | none => .ok none
  | some v =>
    match Level.ofValue? v with
    | some l => .ok (some l)
    | none => refuse .level v

/-- The log source of the rule. -/
def logSource? (es : Entries) : Except (Failure FieldProblem) (Option LogSource) :=
  match es.named? "logsource" with
  | none => .ok none
  | some (.map fields) =>
    match LogSource.ofEntries? fields with
    | some s => .ok (some s)
    | none => .error (.invalid .logSource)
  | some _ => .error (.invalid .logSourceNotMapping)

/-- The day that a value stands for. -/
def dateOfValue (key : String) : Value → Except (Failure FieldProblem) RuleDate
  | .text s => (RuleDate.parse s).mapError fun p => .invalid (.date p)
  | .date d => .ok (.ofDate d)
  | .moment m => .ok (.ofDate m.date)
  | v => refuse (.dateValue key) v

/-- A day of the rule. -/
def date? (es : Entries) (key : String) : Except (Failure FieldProblem) (Option RuleDate) :=
  match es.named? key with
  | none => .ok none
  | some v => (dateOfValue key v).map some

/-- The text under a name. -/
def text? (es : Entries) (key : String) : Except (Failure Problem) (Option String) :=
  Failure.orStop (es.textOf? key)

/-- The texts under a name. -/
def texts? (es : Entries) (key : String) : Except (Failure Problem) (Option (List String)) :=
  Failure.within .notList (es.textsOf? key)

/-- The rule of a mapping. -/
def ofEntries (es : Entries) (definition : String) : Except (Failure Problem) Rule :=
  match filled? es "title" with
  | none => .error (.invalid .untitled)
  | some v => do
    let title ← Failure.orStop (v.write Value.plain)
    let ofField {α : Type} : Except (Failure FieldProblem) α → Except (Failure Problem) α :=
      Failure.within (.field title)
    let expr ← Failure.within (.detection title)
      (Detection.build ((es.get? (.text "detection")).getD .null))
    let related ← ofField (related? es)
    let status ← ofField (status? es)
    let level ← ofField (level? es)
    let logSource ← ofField (logSource? es)
    let date ← ofField (date? es "date")
    let modified ← ofField (date? es "modified")
    let id ← text? es "id"
    let description ← text? es "description"
    let references ← texts? es "references"
    let author ← text? es "author"
    let tags ← texts? es "tags"
    let fields ← texts? es "fields"
    return {
      title, expr, id, related, status, description, references, author, date, modified, tags,
      level, logSource, fields
      falsePositives := (es.named? "falsepositives").elim [] Value.texts
      extra := es.filter fun e => knownKeys.all fun k => !e.1.sameKey (.text k)
      definition }

/-- The rule of a document. -/
def ofDocument (v : Value) (definition : String) : Except (Failure Problem) Rule :=
  match v with
  | .map es => ofEntries es definition
  | _ => .error (.invalid .notMapping)

/-- The rule that a text writes. -/
def parse (text : String) : Except (Failure Problem) Rule := do
  let v ← Failure.within (fun _ => .unreadable) (Yaml.read .rules text)
  ofDocument v text

/-- The outcome of the rule on an entry, and the tally with the work that it
took. -/
def evaluate (σ : Setting) (r : Rule) (t : Tally) : Except Fault (Outcome × Tally) :=
  r.expr.evaluate σ t.countRule

/-- Does the rule match the entry? -/
def matchesEntry (e : Entry) (ps : Placeholders) (r : Rule) : Except Fault Bool :=
  r.expr.matchesEntry e ps

end Rule

end SigmaRules
