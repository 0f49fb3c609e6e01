/-
SigmaRules/Proofs/Yaml/Values.lean

Where the faults of documents come from.  Whatever is wrong with a document is
reported as a problem, but for one thing: a node that is meant as a truth value, a
number or a moment and is none that can be read stops the reading (`meets_read`).

Nodes are checked level by level.  The levels hold nothing but nodes of the document
(`Node.Within`), so each node that is read as a scalar on the way is one of them.
-/
import SigmaRules.Proofs.Answers
import SigmaRules.Yaml.Document

namespace SigmaRules.Yaml

open Document

/-- The node of the document that a text holds. -/
def node? (d : Dialect) (text : String) : Option Node :=
  (tokens d (withoutMark text.toList)).bind fun ts => (Node.ofTokens? d ts).join

/-- Scalars that stop the reading are meant as truth values, numbers or moments. -/
theorem tag_of_readScalar_fault {t : Tag} {s : String} {f : Fault}
    (h : readScalar t s = .error (.fault f)) : t ∈ [.bool, .int, .float, .timestamp] := by
  cases t with
  | bool | int | float | timestamp => decide
  | binary =>
    have hbytes : Meets (fun _ => False) (fun _ => True) (readBytes s) := by
      rw [readBytes]
      split
      · rcases Bytes.ofBase64? s.toList with - | bs <;> trivial
      · trivial
    rw [show readBytes s = .error (.fault f) from h] at hbytes
    exact hbytes.elim
  | _ => cases h

namespace Node

/-- The node or one of those in it, at any depth. -/
inductive Within (n : Node) : Node → Prop
  | whole : Within n n
  | item {t ns m} : Within n (list t ns) → m ∈ ns → Within n m
  | key {t es e} : Within n (map t es) → e ∈ es → Within n e.1
  | entry {t es e} : Within n (map t es) → e ∈ es → Within n e.2

/-- The node, which has a text, is not what its tag says: the text is none of a truth value, a
number or a moment, or it is that of a mapping, of which no moments are made. -/
def Stops (m : Node) (f : Fault) : Prop :=
  ∃ s, m.text? = some s ∧
    (m.tag ∈ [.bool, .int, .float, .timestamp] ∧ readScalar m.tag s = .error (.fault f) ∨
      m.tag = .timestamp ∧ m.isMap = true ∧ f = .momentInMapping)

/-- One of the nodes within the node stops the reading with the fault. -/
def StopsAt (n : Node) (f : Fault) : Prop := ∃ m, n.Within m ∧ m.Stops f

variable {n m k v : Node} {t : Tag} {ns : List Node} {es : List (Node × Node)}

/-! ### Single nodes -/

theorem meets_atOnce? (h : n.Within m) : Meets n.StopsAt (fun _ => True) m.atOnce? := by
  rw [atOnce?]
  split
  · trivial
  split
  case h_1 s hs =>
    split
    case isTrue hmoment =>
      rw [Bool.and_eq_true, beq_iff_eq] at hmoment
      exact ⟨m, h, s, hs, .inr ⟨hmoment.1, hmoment.2, rfl⟩⟩
    case isFalse =>
      have hself := Meets.self (readScalar m.tag s)
      exact hself.map (fun _ _ => trivial) |>.mono
        (fun f hf => ⟨m, h, s, hs, .inl ⟨tag_of_readScalar_fault hf, hf⟩⟩) fun _ => id
  case h_2 => trivial

theorem meets_checkKey (h : n.Within k) : Meets n.StopsAt (fun _ => True) (checkKey k) := by
  rw [checkKey.eq_def]
  split
  · trivial
  · have hk := meets_atOnce? h
    split
    · trivial
    · trivial
    case h_3 e he =>
      rw [he] at hk
      cases e with
      | invalid p => trivial
      | fault f => exact hk

/-- What is left to check of nodes is nodes in them. -/
abbrev Left (n : Node) (x : Result (List Node)) : Prop :=
  Meets n.StopsAt (fun ns => ∀ m ∈ ns, n.Within m) x

theorem left_checkItem (h : n.Within m) : Left n (checkItem m) := by
  refine (meets_atOnce? h).map fun v _ => ?_
  split
  · simp
  · simpa using h

theorem Left.append {x y : Result (List Node)} (hx : Left n x) (hy : Left n y) :
    Left n (do let ms ← x; let ks ← y; return ms ++ ks) := by
  refine hx.bind fun ms hms => hy.bind fun ks hks => ?_
  exact List.forall_mem_append.mpr ⟨hms, hks⟩

/-! ### Collections -/

theorem left_checkItems (h : ∀ m ∈ ns, n.Within m) : Left n (checkItems ns) := by
  induction ns with
  | nil => exact fun m hm => absurd hm List.not_mem_nil
  | cons m ns ih =>
    obtain ⟨hm, hns⟩ := List.forall_mem_cons.mp h
    exact (left_checkItem hm).append (ih hns)

theorem left_checkEntries (h : ∀ e ∈ es, n.Within e.1 ∧ n.Within e.2) :
    Left n (checkEntries es) := by
  induction es with
  | nil => exact fun m hm => absurd hm List.not_mem_nil
  | cons e es ih =>
    obtain ⟨⟨hk, hv⟩, hes⟩ := List.forall_mem_cons.mp h
    exact (meets_checkKey hk).bind fun _ _ => (left_checkItem hv).append (ih hes)

theorem left_checkPairs (h : ∀ m ∈ ns, n.Within m) : Left n (checkPairs ns) := by
  fun_induction checkPairs ns with
  | case1 => exact fun m hm => absurd hm List.not_mem_nil
  | case2 t k v ns ih =>
    obtain ⟨hm, hns⟩ := List.forall_mem_cons.mp h
    have hk : n.Within k := .key hm List.mem_cons_self
    have hv : n.Within v := .entry hm List.mem_cons_self
    refine (left_checkItem hk).bind fun ms hms => (left_checkItem hv).bind fun ks hks =>
      (ih hns).bind fun rest hrest => ?_
    exact List.forall_mem_append.mpr ⟨List.forall_mem_append.mpr ⟨hms, hks⟩, hrest⟩
  | case3 => trivial

theorem left_checkCollection (h : n.Within m) : Left n (checkCollection m) := by
  rw [checkCollection.eq_def]
  split
  · exact left_checkItems fun m hm => h.item hm
  · exact left_checkPairs fun m hm => h.item hm
  · exact left_checkPairs fun m hm => h.item hm
  · exact left_checkEntries fun e he => ⟨h.key he, h.entry he⟩
  · exact left_checkEntries fun e he => ⟨h.key he, h.entry he⟩
  · exact fun m hm => absurd hm List.not_mem_nil
  · trivial

/-! ### Levels -/

theorem left_checkLevel (h : ∀ m ∈ ns, n.Within m) : Left n (checkLevel ns) := by
  induction ns with
  | nil => exact fun m hm => absurd hm List.not_mem_nil
  | cons m ns ih =>
    obtain ⟨hm, hns⟩ := List.forall_mem_cons.mp h
    exact (left_checkCollection hm).append (ih hns)

theorem meets_checkLevels (levels : Nat) (h : ∀ m ∈ ns, n.Within m) :
    Meets n.StopsAt (fun _ => True) (checkLevels levels ns) := by
  induction levels generalizing ns with
  | zero => trivial
  | succ levels ih =>
    rw [checkLevels]
    refine (left_checkLevel h).bind fun next hnext => ?_
    split
    · trivial
    · exact ih hnext

end Node

/-! ### Documents -/

theorem meets_valueOf (n : Node) :
    Meets n.merged.StopsAt (fun _ => True) (valueOf n) := by
  refine (Node.meets_atOnce? .whole).bind fun v _ => ?_
  split
  · trivial
  · refine (Node.meets_checkLevels _ ?_).bind fun _ _ => trivial
    intro m hm
    obtain rfl := List.mem_singleton.mp hm
    exact .whole

theorem meets_orFail {α : Type} {S : Fault → Prop} (m : Malformed) (x : Option α) :
    Meets S (fun a => x = some a) (orFail m x) := by
  rcases x with - | a
  · trivial
  · rfl

/-- **A document is read, is reported, or stops at one of its nodes.** -/
theorem meets_read (d : Dialect) (text : String) :
    Meets (fun f => ∃ n, node? d text = some n ∧ n.merged.StopsAt f) (fun _ => True)
      (read d text) := by
  rw [read]
  split
  · trivial
  · refine (meets_orFail .token _).bind fun ts hts => (meets_orFail .node _).bind fun node hnode => ?_
    split
    · trivial
    case h_2 n =>
      have hn : node? d text = some n := by simp [node?, hts, hnode]
      exact (meets_valueOf n).mono (fun f hf => ⟨n, hn, hf⟩) fun _ => id

end SigmaRules.Yaml
