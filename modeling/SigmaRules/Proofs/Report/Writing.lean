/-
SigmaRules/Proofs/Report/Writing.lean

Which reports can be written in JSON.  Documents that hold bytes have to hold texts, and
of a report only the log sources of rules may hold bytes.  So a report can be written if
and only if the log sources of its rules can be (`canWrite_document_iff`).
-/
import SigmaRules.Report.Json

namespace SigmaRules

open Document

attribute [local simp] Json.canWrite Json.canWriteList Json.canWriteEntries

/-! ### Documents -/

namespace Json

theorem canWriteList_iff (xs : List Value) :
    canWriteList xs = true ↔ ∀ x ∈ xs, canWrite x = true := by
  induction xs with
  | nil => simp
  | cons x xs ih => simp [ih]

end Json

namespace Report

open Json

/-- An object can be written if its members can. -/
theorem canWrite_object (members : List (String × Option Value)) :
    canWrite (object members) = members.all fun m => m.2.all canWrite := by
  rw [object, canWrite]
  induction members with
  | nil => rfl
  | cons m members ih =>
    obtain ⟨name, - | v⟩ := m
    · simpa using ih
    · simpa [Value.isWritable] using congrArg (canWrite v && ·) ih

@[simp] theorem all_canWrite_optional (s : Option String) :
    (optional s).all canWrite = true := by
  rcases s with - | t <;> rfl

@[simp] theorem canWrite_textList (ss : List String) : canWrite (textList ss) = true := by
  rw [textList, canWrite, canWriteList_iff]
  exact List.forall_mem_map.mpr fun _ _ => rfl

/-! ### The parts of a report -/

theorem canWrite_ofRun (r : Run) : canWrite (ofRun r) = true := by
  rcases hargs : r.arguments with - | args <;>
    simp [ofRun, canWrite_object, hargs]

theorem canWrite_ofRelation (r : Relation) : canWrite (ofRelation r) = true := by
  simp [ofRelation, canWrite_object]

/-- What a rule is about can be written if its log source can. -/
theorem canWrite_ofRule (r : Rule) :
    canWrite (ofRule r) = (r.logSource.map ofLogSource).all canWrite := by
  have hrelated : canWriteList ((r.related.getD []).map ofRelation) = true :=
    (canWriteList_iff _).mpr (List.forall_mem_map.mpr fun x _ => canWrite_ofRelation x)
  simp [ofRule, canWrite_object, hrelated]

theorem canWrite_outcomeOf (success : Bool) {node : Value} {children : List Value}
    (value : Option String) (hnode : canWrite node = true)
    (hchildren : canWriteList children = true) :
    canWrite (outcomeOf success node children value) = true := by
  simp [outcomeOf, canWrite_object, hnode, hchildren]

theorem canWrite_ofStatement (c : Connective) (name : Option String) :
    canWrite (ofStatement c name) = true := by
  simp [ofStatement, canWrite_object]

mutual

theorem canWrite_ofOutcome : ∀ o : Outcome, canWrite (ofOutcome o) = true
  | .search s b v =>
    canWrite_outcomeOf b (some v) (by simp [ofSearch, canWrite_object]) rfl
  | .named n b o =>
    canWrite_outcomeOf b none (canWrite_ofStatement .named (some n))
      (by simp [canWrite_ofOutcome o])
  | .not b o =>
    canWrite_outcomeOf b none (canWrite_ofStatement .not none)
      (by simp [canWrite_ofOutcome o])
  | .and b os =>
    canWrite_outcomeOf b none (canWrite_ofStatement .and none) (canWrite_ofOutcomes os)
  | .or b os =>
    canWrite_outcomeOf b none (canWrite_ofStatement .or none) (canWrite_ofOutcomes os)

theorem canWrite_ofOutcomes : ∀ os : List Outcome, canWriteList (ofOutcomes os) = true
  | [] => rfl
  | o :: os => by simp [ofOutcomes, canWrite_ofOutcome o, canWrite_ofOutcomes os]

end

/-- What is found of a rule can be written if its log source can. -/
theorem canWrite_ofFinding (r : Rule) (found : List (Nat × Outcome)) :
    canWrite (ofFinding r found) = (r.logSource.map ofLogSource).all canWrite := by
  have hmatches : canWriteList (found.map fun m => .list [.int m.1, ofOutcome m.2]) = true :=
    (canWriteList_iff _).mpr (List.forall_mem_map.mpr fun m _ => by
      simp [canWrite_ofOutcome m.2])
  simp [ofFinding, canWrite_object, canWrite_ofRule, hmatches]

/-- **A report can be written** if and only if the log sources of its rules can. -/
theorem canWrite_document_iff (r : Report) :
    canWrite r.document = true ↔
      ∀ m ∈ r.found, ∀ s, m.1.logSource = some s → canWrite (ofLogSource s) = true := by
  have hfound : canWriteList (r.found.map fun m => ofFinding m.1 m.2) = true ↔
      ∀ m ∈ r.found, (m.1.logSource.map ofLogSource).all canWrite = true := by
    rw [canWriteList_iff, List.forall_mem_map]
    simp only [canWrite_ofFinding]
  simp [document, canWrite_object, canWrite_ofRun, hfound, Option.all_eq_true]

end Report

end SigmaRules
