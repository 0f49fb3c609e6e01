/-
SigmaRules/Proofs/Detection/Building.lean

The builder of detections, read backwards.  Each of its stages reports a problem or
gives what all of its parts give: the searches of the fields of a mapping
(`ofMap_eq_ok_iff`), the expressions of the items of a list (`ofValue_list_iff`), the
named values and the conditions of a block (`build_map_iff`).  Several parts are joined,
and a single part stands for itself.

The key of a field is what the search of the field is written with, and it is read as
this search again (`searchFor_key`).
-/
import SigmaRules.Detection.Basic
import SigmaRules.Proofs.Answers

namespace SigmaRules.Detection

open Document

variable {name : String} {v : Value} {vs : List Value} {es : Entries} {s : Search} {x : Expr}

/-! ### Keys -/

/-- A field and modifiers written with bars between them are read as this field and these
modifiers. -/
theorem searchFor_key {f : String} {ms : List Modifier} (hf : f ≠ "") (hbar : '|' ∉ f.toList)
    (hms : ∀ m ∈ ms, m.isKnown = true) (ps : List String) :
    searchFor (Search.key ⟨some f, ms, ps⟩) ps = ⟨some f, ms, ps⟩ := by
  have hname : ∀ m : Modifier, m.isKnown = true → '|' ∉ m.name.toList := by
    intro m hm
    cases m with
    | unknown => cases hm
    | _ => decide
  have hkey : (Search.key ⟨some f, ms, ps⟩).toList
      = ['|'].intercalate (f.toList :: ms.map fun m => m.name.toList) := by
    simp [Search.key, String.toList_intercalate, Function.comp_def]
  -- neither the field nor the name of a known modifier has a bar in it
  have hsplit := Text.splitAt_intercalate (List.cons_ne_nil f.toList _)
    (List.forall_mem_cons.mpr ⟨hbar, List.forall_mem_map.mpr fun m hm => hname m (hms m hm)⟩)
  have hfield : f.toList ≠ [] := by simpa using hf
  have hmodifiers : ms.map (fun m => Modifier.ofName m.name) = ms :=
    (List.map_congr_left fun m _ => Modifier.ofName_name m).trans (List.map_id ms)
  rw [searchFor, hkey, hsplit]
  simp [hfield, hmodifiers, Function.comp_def]

/-! ### Fields and mappings -/

theorem mapM_write (form : Value → String) (vs : List Value) :
    vs.mapM (·.write form)
      = if areWritable vs then .ok (vs.map form) else .error .numberUnwritable := by
  have hall : vs.all Value.isWritable = areWritable vs := by
    rw [Bool.eq_iff_iff, List.all_eq_true, areWritable_iff]
  rw [← hall]
  exact mapM_eq_ite (fun _ => rfl) vs

/-- A field gives its search, if its key and its values can be written and the search is valid. -/
theorem ofField_eq_ok_iff {key : Value} : ofField key v = .ok s ↔
    key.isWritable = true ∧ ∃ ws, scalars? v = some ws ∧ areWritable ws = true ∧
      searchFor key.plain (ws.map Value.pattern) = s ∧ ∃ k, s.kind = .ok k := by
  simp only [ofField, bind_eq_ok_iff, orStop_eq_ok_iff, Value.write_eq_ok_iff, and_assoc,
    exists_and_left, exists_eq_left']
  refine and_congr_right fun _ => ?_
  rcases scalars? v with - | ws
  · simp
  · simp only [mapM_write, bind_eq_ok_iff, orStop_eq_ok_iff, map_eq_ok_iff, Failure.within,
      mapError_eq_ok_iff, Option.some.injEq, exists_eq_left']
    constructor
    · rintro ⟨qs, hqs, k, hk, rfl⟩
      split at hqs
      · obtain rfl := Except.ok.inj hqs
        exact ⟨‹_›, rfl, k, hk⟩
      · cases hqs
    · rintro ⟨hws, rfl, k, hk⟩
      exact ⟨_, if_pos hws, k, hk, rfl⟩

theorem ofFields_eq_ok_iff {ss : List Search} :
    ofFields es = .ok ss ↔ List.Forall₂ (fun e s => ofField e.1 e.2 = .ok s) es ss :=
  list_eq_ok_iff ofFields (fun e => ofField e.1 e.2) rfl fun _ _ => rfl

/-- A mapping gives the search of its only field, or the conjunction of those of all fields. -/
theorem ofMap_eq_ok_iff : ofMap es = .ok x ↔ ∃ ss, ofFields es = .ok ss ∧
    ((∃ s, ss = [s] ∧ x = .search s) ∨ (2 ≤ ss.length ∧ x = .and (ss.map .search))) := by
  rw [ofMap]
  rcases ofFields es with f | ss
  · simp [bind, Except.bind]
  rcases ss with - | ⟨s, - | ⟨t, ss⟩⟩
  · simp [bind, Except.bind]
  · simp [bind, Except.bind, pure, Except.pure, eq_comm]
  · simp [bind, Except.bind, pure, Except.pure, eq_comm]

/-- The search of a scalar under the key that the search is written with. -/
theorem ofMap_of_key {f : String} {ms : List Modifier} {k : PatternKind} (hf : f ≠ "")
    (hbar : '|' ∉ f.toList) (hms : ∀ m ∈ ms, m.isKnown = true) (hv : v.isScalar = true)
    (hw : v.isWritable = true) (hk : (Search.mk (some f) ms [v.pattern]).kind = .ok k) :
    ofMap [(.text (Search.key ⟨some f, ms, [v.pattern]⟩), v)]
      = .ok (.search ⟨some f, ms, [v.pattern]⟩) := by
  have hscalars : scalars? v = some [v] := by
    cases v with
    | bool _ | int _ | text _ | float _ => rfl
    | _ => cases hv
  have hsearch := searchFor_key hf hbar hms [v.pattern]
  have hfield : ofField (.text (Search.key ⟨some f, ms, [v.pattern]⟩)) v
      = .ok ⟨some f, ms, [v.pattern]⟩ :=
    ofField_eq_ok_iff.mpr ⟨rfl, _, hscalars, areWritable_iff.mpr (by simpa using hw), hsearch, k, hk⟩
  exact ofMap_eq_ok_iff.mpr ⟨_, ofFields_eq_ok_iff.mpr (.cons hfield .nil), .inl ⟨_, rfl, rfl⟩⟩

/-! ### Items and lists -/

/-- An item of a list gives what it gives on its own, if it is no list itself. -/
theorem ofItem_eq_ok_iff :
    ofItem name v = .ok x ↔ (∀ ws, v ≠ .list ws) ∧ ofValue name v = .ok x := by
  cases v with
  | list ws => simp [ofItem, Value.isScalar]
  | map es => simp [ofItem, ofValue]
  | null | bool _ | int _ | float _ | text _ | date _ | moment _ | bytes _ | pair _ _ | set _
  | again _ =>
    simp [ofItem, ofValue, Value.isScalar]

/-- A scalar gives a search for it as a word, if it can be written. -/
theorem ofScalar_eq_ok_iff :
    ofScalar v = .ok x ↔ v.isWritable = true ∧ x = .search (keywords [v.pattern]) := by
  simp only [ofScalar, bind_eq_ok_iff, orStop_eq_ok_iff, Value.write_eq_ok_iff]
  constructor
  · rintro ⟨p, ⟨hv, rfl⟩, hx⟩
    exact ⟨hv, (Except.ok.inj hx).symm⟩
  · rintro ⟨hv, rfl⟩
    exact ⟨_, ⟨hv, rfl⟩, rfl⟩

/-- Whatever is no list and no mapping gives a search for one word. -/
theorem eq_search_of_ofValue (h : ofValue name v = .ok x) (hlist : ∀ ws, v ≠ .list ws)
    (hmap : ∀ es, v ≠ .map es) : x = .search (keywords [v.pattern]) := by
  cases v with
  | list ws => exact absurd rfl (hlist ws)
  | map es => exact absurd rfl (hmap es)
  | bool _ | int _ | float _ | text _ => exact (ofScalar_eq_ok_iff.mp h).2
  | null | date _ | moment _ | bytes _ | pair _ _ | set _ | again _ => cases h

theorem ofItems_eq_ok_iff {xs : List Expr} :
    ofItems name vs = .ok xs ↔ List.Forall₂ (fun v x => ofItem name v = .ok x) vs xs :=
  list_eq_ok_iff (ofItems name) (ofItem name) rfl fun _ _ => rfl

/-- A list gives the expression of its only item, or that of any of its items. -/
theorem ofValue_list_iff : ofValue name (.list vs) = .ok x ↔
    ∃ xs, ofItems name vs = .ok xs ∧ (xs = [x] ∨ (2 ≤ xs.length ∧ x = anyOf xs)) := by
  rw [ofValue]
  rcases ofItems name vs with f | xs
  · simp [bind, Except.bind]
  rcases xs with - | ⟨y, - | ⟨z, xs⟩⟩
  · simp [bind, Except.bind]
  · simp [bind, Except.bind, pure, Except.pure]
  · simp [bind, Except.bind, pure, Except.pure, eq_comm]

/-- Expressions of which any has to match are joined to one search, or to a disjunction. -/
theorem anyOf_cases (xs : List Expr) :
    (∃ pss : List (List String), List.Forall₂ (fun x ps => plainKeywords? x = some ps) xs pss ∧
        anyOf xs = .search (keywords pss.flatten)) ∨
      anyOf xs = .or xs := by
  rw [anyOf]
  rcases hxs : xs.mapM plainKeywords? with - | pss
  · exact .inr rfl
  · have hequal : List.Forall₂ (· = ·) (xs.map plainKeywords?) (pss.map some) := by
      rw [List.forall₂_eq_eq_eq]
      exact map_eq_of_mapM hxs
    rw [List.forall₂_map_left_iff, List.forall₂_map_right_iff] at hequal
    exact .inl ⟨pss, hequal, rfl⟩

/-- What only looks for words is a search for them. -/
theorem eq_search_of_plainKeywords? {ps : List String} (h : plainKeywords? x = some ps) :
    ∃ s, x = .search s ∧ s.fieldName? = none ∧ s.modifiers = [] ∧ s.patterns = ps := by
  cases x with
  | search s =>
    simp only [plainKeywords?, Bool.and_eq_true, Option.isNone_iff_eq_none, List.isEmpty_iff,
      Option.ite_none_right_eq_some, Option.some.injEq] at h
    exact ⟨s, rfl, h.1.1, h.1.2, h.2⟩
  | named _ _ | not _ | and _ | or _ => cases h

/-! ### Blocks -/

/-- The conditions of a block. -/
def conditions (es : Entries) : List String :=
  (Entries.get? es (.text conditionKey)).elim [] Value.texts

/-- The values of search identifiers under the plain forms of their names. -/
def namedValues (es : Entries) : List (String × Value) :=
  (es.filter fun e => isIdentifier e.1).foldl (fun named e => insertNamed e.1.plain e.2 named) []

/-- Can the names of all search identifiers be written? -/
def namesAreWritable (es : Entries) : Bool :=
  (es.filter fun e => isIdentifier e.1).all fun e => e.1.isWritable

theorem identifierValues_eq (es : Entries) : identifierValues es =
    if namesAreWritable es then .ok (namedValues es) else .error .numberUnwritable := by
  have hname : ∀ e : Value × Value, (do
      let name ← e.1.write Value.plain
      return (name, e.2) : Except Fault (String × Value))
      = if e.1.isWritable then .ok (e.1.plain, e.2) else .error .numberUnwritable := by
    intro e
    rw [Value.write]
    split <;> rfl
  rw [identifierValues, mapM_eq_ite hname, namesAreWritable]
  split
  · rw [namedValues, ← List.foldl_map (f := fun e : Value × Value => (e.1.plain, e.2))
      (g := fun found i => insertNamed i.1 i.2 found)]
    rfl
  · rfl

/-- The values of search identifiers are found if their names can be written. -/
theorem identifierValues_eq_ok_iff {named : List (String × Value)} :
    identifierValues es = .ok named ↔ namesAreWritable es = true ∧ namedValues es = named := by
  rw [identifierValues_eq]
  split
  case isTrue h => simp [h]
  case isFalse h => simp [h]

theorem mem_insertNamed {i : String × Value} {named : List (String × Value)}
    (h : i ∈ insertNamed name v named) : i = (name, v) ∨ i ∈ named := by
  induction named with
  | nil => exact .inl (List.mem_singleton.mp h)
  | cons j named ih =>
    rw [insertNamed] at h
    split at h
    · exact List.mem_cons.mp h
    split at h
    · exact (List.mem_cons.mp h).imp_right (List.mem_cons_of_mem j)
    · rcases List.mem_cons.mp h with rfl | h
      · exact .inr List.mem_cons_self
      · exact (ih h).imp_right (List.mem_cons_of_mem j)

/-- What is named after a block has been named before or stands in the block. -/
theorem mem_foldl_insertNamed {named : List (String × Value)}
    (h : (name, v) ∈ es.foldl (fun named e => insertNamed e.1.plain e.2 named) named) :
    (name, v) ∈ named ∨ ∃ e ∈ es, e.1.plain = name ∧ e.2 = v := by
  induction es generalizing named with
  | nil => exact .inl h
  | cons e es ih =>
    rcases ih h with hmem | ⟨f, hf, hvalue⟩
    · rcases mem_insertNamed hmem with heq | hmem
      · obtain ⟨rfl, rfl⟩ := Prod.mk.inj heq
        exact .inr ⟨e, List.mem_cons_self, rfl, rfl⟩
      · exact .inl hmem
    · exact .inr ⟨f, List.mem_cons_of_mem e hf, hvalue⟩

/-- The value of a search identifier stands in the block, under a key that is spelled like the
identifier. -/
theorem exists_mem_of_mem_namedValues (h : (name, v) ∈ namedValues es) :
    ∃ key, (key, v) ∈ es ∧ isIdentifier key = true ∧ key.plain = name := by
  rcases mem_foldl_insertNamed h with hnil | ⟨e, he, rfl, rfl⟩
  · cases hnil
  · obtain ⟨hmem, hkey⟩ := List.mem_filter.mp he
    exact ⟨e.1, hmem, hkey, rfl⟩

/-- Named values are built one by one, each to an expression under its name. -/
theorem identifiers_cons (i : String × Value) (is : List (String × Value)) :
    identifiers (i :: is)
      = (Failure.within (.identifier i.1) (ofValue i.1 i.2)).map (fun x => (i.1, Expr.named i.1 x))
        >>= fun j => identifiers is >>= fun js => .ok (j :: js) := by
  rw [identifiers]
  rcases ofValue i.1 i.2 with e | x <;> rfl

/-- Named values give a table of named expressions. -/
theorem identifiers_eq_ok_iff {named : List (String × Value)} {table : Condition.Identifiers} :
    identifiers named = .ok table ↔
      List.Forall₂ (fun i j => ∃ x, ofValue i.1 i.2 = .ok x ∧ (i.1, Expr.named i.1 x) = j)
        named table := by
  rw [list_eq_ok_iff identifiers _ rfl identifiers_cons]
  simp only [map_eq_ok_iff, Failure.within, mapError_eq_ok_iff]

theorem ofConditions_eq_ok_iff {table : Condition.Identifiers} {cs : List String}
    {xs : List Expr} : ofConditions table cs = .ok xs ↔
      List.Forall₂ (fun c x => Condition.parse table c = .ok x) cs xs := by
  rw [list_eq_ok_iff (ofConditions table)
    (fun c => (Condition.parse table c).mapError fun p => Failure.invalid (.condition p)) rfl
    fun _ _ => rfl]
  simp only [mapError_eq_ok_iff]

/-- A block is a mapping. -/
theorem exists_eq_map_of_build {block : Value} (h : build block = .ok x) :
    ∃ es, block = .map es := by
  rw [build.eq_def] at h
  split at h
  · cases h
  · cases block with
    | map es => exact ⟨es, rfl⟩
    | _ => cases h

/-- A block gives the expression of its only condition, or that of any of them. -/
theorem build_map_iff : build (.map es) = .ok x ↔
    ∃ table xs, Entries.has es (.text timeframeKey) = false ∧ namesAreWritable es = true ∧
      identifiers (namedValues es) = .ok table ∧
      ofConditions table (conditions es) = .ok xs ∧
      (xs = [x] ∨ (2 ≤ xs.length ∧ x = .or xs)) := by
  have hconditions : (Entries.get? es (.text conditionKey)).elim [] Value.texts = conditions es :=
    rfl
  simp only [build, hconditions]
  rcases es with - | ⟨e, es⟩
  -- an empty mapping has no conditions
  · simp [Value.isBlank, conditions, Entries.get?, ofConditions]
  rw [if_neg (by simp [Value.isBlank])]
  rcases Entries.has (e :: es) (.text timeframeKey) with - | -
  · rcases conditions (e :: es) with - | ⟨c, cs⟩
    · simp [ofConditions]
    simp only [Bool.false_eq_true, if_false, bind_eq_ok_iff, orStop_eq_ok_iff,
      identifierValues_eq_ok_iff, true_and]
    -- there are as many expressions as conditions, so at least one
    constructor
    · rintro ⟨named, ⟨hnames, rfl⟩, table, htable, xs, hxs, hx⟩
      refine ⟨table, xs, hnames, htable, hxs, ?_⟩
      rcases xs with - | ⟨y, - | ⟨z, xs⟩⟩
      · cases ofConditions_eq_ok_iff.mp hxs
      · exact .inl (by rw [Except.ok.inj hx])
      · exact .inr ⟨by simp, (Except.ok.inj hx).symm⟩
    · rintro ⟨table, xs, hnames, htable, hxs, hx⟩
      refine ⟨_, ⟨hnames, rfl⟩, table, htable, xs, hxs, ?_⟩
      rcases hx with rfl | ⟨h2, rfl⟩
      · rfl
      rcases xs with - | ⟨y, - | ⟨z, xs⟩⟩
      · cases h2
      · exact absurd h2 (by simp)
      · rfl
  -- time frames are refused
  · simp

end SigmaRules.Detection
