/-
SigmaRules/Proofs/Report/Decoding.lean

A report in JSON loses nothing of the matches.  Its text is valid, and what a reader
of JSON makes of it still tells, for each rule in order, the title, the id and the
source, and for each match the line and the whole outcome (`json_loses_nothing`).

The objects of a report have no name twice, so that nothing is lost when they are read
back (`reread_object`), and each member is found by its name (`member?_object_cons`).  Of
a modifier only the name is written, which names it.
-/
import SigmaRules.Proofs.Json.Documents
import SigmaRules.Proofs.Report.Writing

namespace SigmaRules

open Document

/-- What a report tells about a rule that matches. -/
structure Finding where
  title : String
  id : Option String
  source : String
  found : List (Nat × Outcome)

namespace Report

open Json

/-- What the report tells about the rules that match, in order. -/
def findings (r : Report) : List Finding :=
  r.found.map fun m => ⟨m.1.title, m.1.id, m.1.definition, m.2⟩

/-! ### Readers of documents -/

/-- The member of an object with the name. -/
def member? (name : String) : Value → Option Value
  | .map es => Entries.get? es (.text name)
  | _ => none

/-- The text that a member of an object has to be. -/
def textOf? (name : String) (v : Value) : Option String := (member? name v).bind Value.asText?

/-- The text that a member of an object is, if it is not missing. -/
def optionalOf? (name : String) (v : Value) : Option (Option String) :=
  match member? name v with
  | some t => t.asText?.map some
  | none => some none

/-- The elements that a member of an object has to have. -/
def listOf? {α : Type} (element? : Value → Option α) (name : String) (v : Value) :
    Option (List α) :=
  match member? name v with
  | some (.list vs) => vs.mapM element?
  | _ => none

/-- The search of a node. -/
def search? (node : Value) : Option Search := do
  let field ← optionalOf? "field" node
  let modifiers ← listOf? Value.asText? "modifiers" node
  let patterns ← listOf? Value.asText? "patterns" node
  return ⟨field, modifiers.map .ofName, patterns⟩

/-- The outcome of an object, from the outcomes of its children. -/
def assemble? (v : Value) (children : List Outcome) : Option Outcome := do
  let .bool success ← member? "success" v | none
  let node ← member? "node" v
  match ← textOf? "type" node, children with
  | "search", [] => return .search (← search? node) success (← textOf? "value" v)
  | "statement", os =>
    match ← textOf? "statement" node, os with
    | "named", [o] => return .named (← textOf? "name" node) success o
    | "not", [o] => return .not success o
    | "and", os => return .and success os
    | "or", os => return .or success os
    | _, _ => none
  | _, _ => none

mutual

/-- The outcome that a document tells. -/
def outcome? : Value → Option Outcome
  | .map es => (children? es).bind (assemble? (.map es))
  | _ => none

/-- The outcomes of the children that an object tells. -/
def children? : Entries → Option (List Outcome)
  | [] => none
  | (k, .list vs) :: es => if k.sameKey (.text "children") then outcomes? vs else children? es
  | _ :: es => children? es

/-- The outcomes that documents tell. -/
def outcomes? : List Value → Option (List Outcome)
  | [] => some []
  | v :: vs => do return (← outcome? v) :: (← outcomes? vs)

end

/-- The line and the outcome of a match. -/
def match? : Value → Option (Nat × Outcome)
  | .list [.int (.ofNat line), o] => (outcome? o).map (line, ·)
  | _ => none

/-- What a document tells about a rule that matches. -/
def finding? (v : Value) : Option Finding := do
  let about ← member? "meta" v
  return {
    title := ← textOf? "title" about
    id := ← optionalOf? "id" about
    source := ← textOf? "source" v
    found := ← listOf? match? "matches" v }

/-- What the document of a report tells about the rules that match. -/
def findings? (v : Value) : Option (List Finding) := listOf? finding? "rules" v

/-! ### Objects -/

@[simp] theorem member?_object_nil (name : String) : member? name (object []) = none := rfl

/-- A member is found by its name, if it is not missing. -/
@[simp] theorem member?_object_cons (name : String) (m : String × Option Value)
    (members : List (String × Option Value)) :
    member? name (object (m :: members)) =
      if m.1 = name then m.2.or (member? name (object members))
      else member? name (object members) := by
  obtain ⟨other, - | v⟩ := m
  · simp [object]
  · by_cases hname : other = name <;>
      simp [object, member?, Entries.get?, Value.sameKey, hname]

theorem put_of_not_has {es : Entries} {k : Value} (h : es.has k = false) (v : Value) :
    es.put k v = es ++ [(k, v)] := by
  induction es with
  | nil => rfl
  | cons e es ih =>
    rw [Entries.has, List.any_cons, Bool.or_eq_false_iff] at h
    rw [Entries.put, h.1, if_neg (by decide), ih h.2, List.cons_append]

/-- Members with a name each are all written. -/
theorem foldl_put_members {members : List (String × Option Value)}
    (h : (members.map Prod.fst).Nodup) {found : Entries}
    (hfound : ∀ m ∈ members, found.has (.text m.1) = false) :
    (members.filterMap fun m => m.2.map fun v => (Value.text m.1, v)).foldl
        (fun es p => es.put p.1 p.2) found
      = found ++ members.filterMap fun m => m.2.map fun v => (.text m.1, v) := by
  induction members generalizing found with
  | nil => simp
  | cons m members ih =>
    obtain ⟨hm, hmembers⟩ := List.forall_mem_cons.mp hfound
    obtain ⟨hnot, hnames⟩ := List.nodup_cons.mp h
    obtain ⟨name, - | v⟩ := m
    · simpa using ih hnames hmembers
    have hput : ∀ m ∈ members, Entries.has (found ++ [(.text name, v)]) (.text m.1) = false := by
      intro m hmem
      have hne : name ≠ m.1 := fun heq => hnot (List.mem_map.mpr ⟨m, hmem, heq.symm⟩)
      simpa [Entries.has, Value.sameKey, hne] using hmembers m hmem
    simpa [put_of_not_has hm] using ih hnames hput

/-- **An object is read back** with its members read back, if no name is given twice. -/
theorem reread_object {members : List (String × Option Value)}
    (h : (members.map Prod.fst).Nodup) :
    reread (object members) = object (members.map fun m => (m.1, m.2.map reread)) := by
  have hentries : rereadEntries (members.filterMap fun m => m.2.map fun v => (.text m.1, v)) =
      (members.map fun m => (m.1, m.2.map reread)).filterMap
        fun m => m.2.map fun v => (Value.text m.1, v) := by
    clear h
    induction members with
    | nil => rfl
    | cons m members ih =>
      obtain ⟨name, - | v⟩ := m
      · simpa using ih
      · simpa [rereadEntries, keyText, Value.plain] using ih
  rw [object, reread, hentries, Entries.ofPairs,
    foldl_put_members (by simpa [Function.comp_def] using h) fun _ _ => rfl]
  rfl

theorem rereadList_eq_map (xs : List Value) : rereadList xs = xs.map reread := by
  induction xs with
  | nil => rfl
  | cons x xs ih => rw [rereadList, List.map_cons, ih]

@[simp] theorem reread_textList (ss : List String) : reread (textList ss) = textList ss := by
  rw [textList, reread, rereadList_eq_map, List.map_map]
  rfl

@[simp] theorem map_reread_optional (s : Option String) :
    (optional s).map reread = optional s := by
  rcases s with - | s <;> rfl

/-! ### Outcomes -/

theorem reread_ofSearch (s : Search) : reread (ofSearch s) = ofSearch s := by
  rw [ofSearch, reread_object (by simp)]
  simp [reread]

theorem reread_ofStatement (c : Connective) (name : Option String) :
    reread (ofStatement c name) = ofStatement c name := by
  rw [ofStatement, reread_object (by simp)]
  simp [reread]

theorem reread_outcomeOf (success : Bool) {node : Value} (hnode : reread node = node)
    {children : List Value} (hchildren : rereadList children = children) (value : Option String) :
    reread (outcomeOf success node children value) = outcomeOf success node children value := by
  rw [outcomeOf, reread_object (by simp)]
  simp [reread, hnode, hchildren]

mutual

/-- The document of an outcome is read back as it is. -/
theorem reread_ofOutcome : ∀ o : Outcome, reread (ofOutcome o) = ofOutcome o
  | .search s b v => reread_outcomeOf b (reread_ofSearch s) rfl _
  | .named n b o =>
    reread_outcomeOf b (reread_ofStatement _ _) (by rw [rereadList, reread_ofOutcome o]; rfl) _
  | .not b o =>
    reread_outcomeOf b (reread_ofStatement _ _) (by rw [rereadList, reread_ofOutcome o]; rfl) _
  | .and b os => reread_outcomeOf b (reread_ofStatement _ _) (rereadList_ofOutcomes os) _
  | .or b os => reread_outcomeOf b (reread_ofStatement _ _) (rereadList_ofOutcomes os) _

theorem rereadList_ofOutcomes : ∀ os : List Outcome,
    rereadList (ofOutcomes os) = ofOutcomes os
  | [] => rfl
  | o :: os => by rw [ofOutcomes, rereadList, reread_ofOutcome o, rereadList_ofOutcomes os]

end

/-- The text of a member that may be missing. -/
theorem optionalOf?_eq {name : String} {v : Value} {s : Option String}
    (h : member? name v = optional s) : optionalOf? name v = some s := by
  rcases s with - | s <;> rw [optionalOf?, h] <;> rfl

/-- The elements of a member that is a list, one by one. -/
theorem listOf?_eq {α β : Type} {f : α → Value} {g : α → β} {element? : Value → Option β}
    {name : String} {v : Value} {as : List α}
    (hmember : member? name v = some (.list (as.map f)))
    (helement : ∀ a ∈ as, element? (f a) = some (g a)) :
    listOf? element? name v = some (as.map g) := by
  rw [listOf?, hmember]
  clear hmember
  induction as with
  | nil => rfl
  | cons a as ih =>
    obtain ⟨ha, has⟩ := List.forall_mem_cons.mp helement
    simp only [List.map_cons, List.mapM_cons, ha, ih has]
    rfl

/-- A search is told by its document. -/
theorem search?_ofSearch (s : Search) : search? (ofSearch s) = some s := by
  have hfield : optionalOf? "field" (ofSearch s) = some s.field :=
    optionalOf?_eq (by simp [ofSearch])
  have hmodifiers : listOf? Value.asText? "modifiers" (ofSearch s) =
      some (s.modifiers.map Modifier.name) :=
    listOf?_eq (f := .text ∘ Modifier.name) (by simp [ofSearch, textList]) fun _ _ => rfl
  have hpatterns : listOf? Value.asText? "patterns" (ofSearch s) = some (s.patterns.map id) :=
    listOf?_eq (f := .text) (by simp [ofSearch, textList]) fun _ _ => rfl
  rw [search?, hfield, hmodifiers, hpatterns]
  have hnames : (s.modifiers.map Modifier.name).map Modifier.ofName = s.modifiers := by
    rw [List.map_map]
    exact (List.map_congr_left fun m _ => Modifier.ofName_name m).trans (List.map_id _)
  simp [hnames]

/-- The outcome of an object is assembled from those of its children. -/
theorem outcome?_outcomeOf (success : Bool) (node : Value) (children : List Value)
    (value : Option String) :
    outcome? (outcomeOf success node children value) =
      (outcomes? children).bind (assemble? (outcomeOf success node children value)) := by
  rw [outcomeOf, object, outcome?]
  congr 1
  cases node <;> rfl

@[simp] theorem member?_outcomeOf (name : String) (success : Bool) (node : Value)
    (children : List Value) (value : Option String) :
    member? name (outcomeOf success node children value) =
      if name = "success" then some (.bool success)
      else if name = "node" then some node
      else if name = "children" then some (.list children)
      else if name = "value" then optional value
      else none := by
  simp [outcomeOf, eq_comm (a := name)]

theorem textOf?_ofSearch (s : Search) : textOf? "type" (ofSearch s) = some "search" := by
  simp [textOf?, ofSearch, Value.asText?]

theorem textOf?_ofStatement (c : Connective) (name : Option String) :
    textOf? "type" (ofStatement c name) = some "statement" ∧
      textOf? "statement" (ofStatement c name) = some c.word ∧
      textOf? "name" (ofStatement c name) = name := by
  rcases name with - | n <;> simp [textOf?, ofStatement, optional, Value.asText?]

/-- A search with its outcome is told by their document. -/
theorem assemble?_search (s : Search) (b : Bool) (v : String) :
    assemble? (outcomeOf b (ofSearch s) [] (some v)) [] = some (.search s b v) := by
  have hvalue : textOf? "value" (outcomeOf b (ofSearch s) [] (some v)) = some v := by
    simp [textOf?, optional, Value.asText?]
  simp [assemble?, textOf?_ofSearch, search?_ofSearch, hvalue]

mutual

/-- **An outcome is told by its document**, the whole tree. -/
theorem outcome?_ofOutcome : ∀ o : Outcome, outcome? (ofOutcome o) = some o
  | .search s b v => by
    rw [ofOutcome, outcome?_outcomeOf]
    exact assemble?_search s b v
  | .named n b o => by
    obtain ⟨htype, hstatement, hname⟩ := textOf?_ofStatement .named (some n)
    rw [ofOutcome, outcome?_outcomeOf, outcomes?, outcome?_ofOutcome o]
    simp [assemble?, outcomes?, htype, hstatement, hname, Connective.word]
  | .not b o => by
    obtain ⟨htype, hstatement, -⟩ := textOf?_ofStatement .not none
    rw [ofOutcome, outcome?_outcomeOf, outcomes?, outcome?_ofOutcome o]
    simp [assemble?, outcomes?, htype, hstatement, Connective.word]
  | .and b os => by
    obtain ⟨htype, hstatement, -⟩ := textOf?_ofStatement .and none
    rw [ofOutcome, outcome?_outcomeOf, outcomes?_ofOutcomes os]
    simp [assemble?, htype, hstatement, Connective.word]
  | .or b os => by
    obtain ⟨htype, hstatement, -⟩ := textOf?_ofStatement .or none
    rw [ofOutcome, outcome?_outcomeOf, outcomes?_ofOutcomes os]
    simp [assemble?, htype, hstatement, Connective.word]

theorem outcomes?_ofOutcomes : ∀ os : List Outcome,
    outcomes? (ofOutcomes os) = some os
  | [] => rfl
  | o :: os => by
    rw [ofOutcomes, outcomes?, outcome?_ofOutcome o, outcomes?_ofOutcomes os]
    rfl

end

/-! ### Findings -/

theorem match?_ofMatch (m : Nat × Outcome) :
    match? (.list [.int m.1, ofOutcome m.2]) = some m := by
  have htold := outcome?_ofOutcome m.2
  show (outcome? (ofOutcome m.2)).map _ = _
  rw [htold]
  rfl

/-- The title and the id of a rule are told by what is read back of its document. -/
theorem reread_ofRule (r : Rule) :
    textOf? "title" (reread (ofRule r)) = some r.title ∧
      optionalOf? "id" (reread (ofRule r)) = some r.id := by
  rw [ofRule, reread_object (by simp)]
  constructor
  · simp [textOf?, reread, Value.asText?]
  · exact optionalOf?_eq (by simp)

/-- What is found of a rule is told by what is read back of its document. -/
theorem finding?_reread_ofFinding (r : Rule) (found : List (Nat × Outcome)) :
    finding? (reread (ofFinding r found)) =
      some ⟨r.title, r.id, r.definition, found⟩ := by
  have hobject : reread (ofFinding r found) = object [
      ("meta", some (reread (ofRule r))),
      ("source", some (.text r.definition)),
      ("matches", some (.list (found.map fun m => .list [.int m.1, ofOutcome m.2])))] := by
    rw [ofFinding, reread_object (by simp)]
    simp [reread, rereadList_eq_map, Function.comp_def, reread_ofOutcome]
  obtain ⟨htitle, hid⟩ := reread_ofRule r
  have hmeta : member? "meta" (reread (ofFinding r found)) = some (reread (ofRule r)) := by
    simp [hobject]
  have hsource : textOf? "source" (reread (ofFinding r found)) = some r.definition := by
    simp [hobject, textOf?, Value.asText?]
  have hmatches : listOf? match? "matches" (reread (ofFinding r found)) = some (found.map id) :=
    listOf?_eq (f := fun m => .list [.int m.1, ofOutcome m.2]) (by simp [hobject])
      fun m _ => match?_ofMatch m
  simp [finding?, hmeta, htitle, hid, hsource, hmatches]

/-- The findings of a report are told by what is read back of its document. -/
theorem findings?_reread_document (r : Report) :
    findings? (reread r.document) = some r.findings := by
  have hrules : member? "rules" (reread r.document) =
      some (.list (r.found.map fun m => reread (ofFinding m.1 m.2))) := by
    rw [document, reread_object (by simp)]
    simp [reread, rereadList_eq_map, Function.comp_def]
  rw [findings?, findings]
  exact listOf?_eq hrules fun m _ => finding?_reread_ofFinding m.1 m.2

theorem json_eq_ok_iff {r : Report} {text : String} :
    r.json = .ok text ↔ canWrite r.document = true ∧ write r.document = text := by
  rw [json]
  split
  case isTrue h => simp [h]
  case isFalse h => simp [h]

/-- **The JSON of a report loses nothing of the matches.**  There is a text if the log sources of
the rules hold no bytes but those of texts.  It is valid, and the document that it writes tells the
title, the id and the source of every rule in order, and the line and the whole outcome of every
match.  So two reports that differ in any of these have different texts. -/
theorem json_loses_nothing (r : Report) :
    ((∃ text, r.json = .ok text) ↔
      ∀ m ∈ r.found, ∀ s, m.1.logSource = some s → canWrite (ofLogSource s) = true) ∧
    ∀ text, r.json = .ok text →
      (∃ v, readItems {} (items text.toList) = .ok v ∧ findings? v = some r.findings) ∧
        ∀ other : Report, other.json = .ok text → r.findings = other.findings := by
  have hread : ∀ {r : Report} {text}, r.json = .ok text →
      readItems {} (items text.toList) = .ok (reread r.document) := by
    intro r text htext
    obtain ⟨-, rfl⟩ := json_eq_ok_iff.mp htext
    exact readItems_write r.document
  refine ⟨?_, fun text htext =>
    ⟨⟨_, hread htext, findings?_reread_document r⟩, fun other hother => ?_⟩⟩
  · rw [← canWrite_document_iff]
    simp [json_eq_ok_iff]
  · have hsame : reread r.document = reread other.document :=
      Except.ok.inj ((hread htext).symm.trans (hread hother))
    have hfindings := findings?_reread_document other
    rw [← hsame, findings?_reread_document r] at hfindings
    exact Option.some.inj hfindings

/-- The fields that a rule lists are not in the report, and the findings are the same. -/
theorem sample_json_loses_nothing :
    let outcome : Outcome := .named "é" true
      (.search ⟨some "Image", [.endswith], ["\\\"\n"]⟩ true "a\\\"\n")
    let rule : Rule := { title := "A", expr := .and [], id := some "1", definition := "title: A" }
    let run : Run := ⟨⟨⟨2024, 1, 2⟩, 3, 4, 5, 0, none⟩, "1", none, "a", ["b"], {}, 1⟩
    let r : Report := ⟨run, [(rule, [(1, outcome)])]⟩
    let other : Report := ⟨run, [({ rule with fields := some ["Image"] }, [(1, outcome)])]⟩
    ∃ text, r.json = .ok text ∧ other.json = .ok text ∧ r.findings = other.findings := by
  intro outcome rule run r other
  obtain ⟨hexists, htold⟩ := json_loses_nothing r
  obtain ⟨text, htext⟩ : ∃ text, r.json = .ok text := by
    refine hexists.mpr fun m hm s hs => ?_
    obtain rfl := List.mem_singleton.mp hm
    cases hs
  have hother : other.json = .ok text := htext
  exact ⟨text, htext, hother, (htold text htext).2 other hother⟩

end Report

end SigmaRules
