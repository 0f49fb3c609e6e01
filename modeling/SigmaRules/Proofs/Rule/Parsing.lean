/-
SigmaRules/Proofs/Rule/Parsing.lean

What reading a rule can come to.  From every text comes a rule or a report of what is
wrong, unless reading stops at one of three things: a node of the document that is
meant as a truth value, a number or a moment and is none that can be read, a whole
number that has too many digits to be written, or a regular expression with a count
beyond what can be read (`parse_reports_or_stops`).  Merging, keys, the detection with
its searches and conditions, and the description of the rule report whatever else is
wrong.

The faults are followed from the step that they come from outwards, with the bounds
of `Meets`.
-/
import SigmaRules.Proofs.Detection.Building
import SigmaRules.Proofs.Search.Answering
import SigmaRules.Proofs.Yaml.Values
import SigmaRules.Rule.Basic

namespace SigmaRules

open Document

/-! ### Searches -/

/-- A search stops the check only at a count in one of its regular expressions. -/
theorem Search.exists_count_of_kind {s : Search} {f : Fault} (h : s.kind = .error (.fault f)) :
    .re ∈ s.modifiers ∧ ∃ p ∈ s.patterns, Regex.fits p.toList = false := by
  have hcounts : ¬ s.CountsFit [] := fun hfit => kind_ne_fault hfit f h
  rw [CountsFit] at hcounts
  simp only [Classical.not_imp, not_forall] at hcounts
  obtain ⟨hre, p, hp, hfits⟩ := hcounts
  refine ⟨hre, p, ?_, by simpa using hfits⟩
  by_cases hexpand : .expand ∈ s.modifiers
  · -- without values for placeholders there are no patterns to look for
    simp [resolve, has, hexpand, Placeholders.values] at hp
  · simpa [resolve, has, hexpand] using hp

/-! ### Writing values -/

/-- If the value cannot be written, the fault of writing it is one of these. -/
def WritesUpTo (S : Fault → Prop) (v : Value) : Prop :=
  v.isWritable = false → S .numberUnwritable

section Writing

variable {S : Fault → Prop} {ε : Type} {v : Value} {vs : List Value} {es : Entries}

/-- What is in a list is written like the list. -/
theorem WritesUpTo.of_mem_list (h : WritesUpTo S (.list vs)) : ∀ v ∈ vs, WritesUpTo S v := by
  intro v hv hunwritable
  refine h (Bool.eq_false_iff.mpr fun hall => ?_)
  rw [areWritable_iff.mp hall v hv] at hunwritable
  cases hunwritable

/-- What is in a mapping is written like the mapping. -/
theorem WritesUpTo.of_mem_map (h : WritesUpTo S (.map es)) :
    ∀ e ∈ es, WritesUpTo S e.1 ∧ WritesUpTo S e.2 := by
  intro e he
  have hstop : ∀ v, v = e.1 ∨ v = e.2 → WritesUpTo S v := by
    intro v hv hunwritable
    refine h (Bool.eq_false_iff.mpr fun hall => ?_)
    obtain ⟨hkey, hvalue⟩ := entriesAreWritable_iff.mp hall e he
    rcases hv with rfl | rfl
    · rw [hkey] at hunwritable
      cases hunwritable
    · rw [hvalue] at hunwritable
      cases hunwritable
  exact ⟨hstop _ (.inl rfl), hstop _ (.inr rfl)⟩

/-- The value of a name is one of those in the mapping. -/
theorem WritesUpTo.of_named? (h : WritesUpTo S (.map es)) {name : String}
    (hv : es.named? name = some v) : WritesUpTo S v := by
  rw [Entries.named?] at hv
  split at hv
  · cases hv
  · cases hv
  case h_3 w _ hw =>
    obtain rfl := Option.some.inj hv
    obtain ⟨e, he, rfl⟩ := Option.map_eq_some_iff.mp hw
    exact (h.of_mem_map e (List.mem_of_find?_eq_some he)).2

theorem meets_write (h : WritesUpTo S v) (form : Value → String) :
    Meets S (fun s => s = form v) (Failure.orStop (v.write form) : Except (Failure ε) String) := by
  rw [Value.write]
  split
  case isTrue => rfl
  case isFalse hunwritable => exact h (by simpa using hunwritable)

theorem meets_mapM_write (h : ∀ v ∈ vs, WritesUpTo S v) (form : Value → String) :
    Meets S (fun ss => ss = vs.map form)
      (Failure.orStop (vs.mapM (·.write form)) : Except (Failure ε) (List String)) := by
  rw [Detection.mapM_write]
  split
  case isTrue => rfl
  case isFalse hall =>
    rw [areWritable_iff] at hall
    push Not at hall
    obtain ⟨v, hv, hunwritable⟩ := hall
    exact h v hv (by simpa using hunwritable)

end Writing

namespace Detection

/-- The searches that the fields of a mapping write. -/
def fieldSearches (es : Entries) : List Search :=
  es.filterMap fun e =>
    (scalars? e.2).map fun vs => searchFor e.1.plain (vs.map Value.pattern)

/-- The searches with fields that an item of a list writes. -/
def itemSearches : Value → List Search
  | .map es => fieldSearches es
  | _ => []

/-- The searches with fields that the value of a search identifier writes. -/
def valueSearches : Value → List Search
  | .list vs => vs.flatMap itemSearches
  | v => itemSearches v

/-- The searches with fields that a detection writes. -/
def searches : Value → List Search
  | .map es => (namedValues es).flatMap fun i => valueSearches i.2
  | _ => []

/-- Where the check of a search stops, it is with one of the faults. -/
def StopOnly (S : Fault → Prop) (ss : List Search) : Prop :=
  ∀ s ∈ ss, ∀ f, s.kind = .error (.fault f) → S f

variable {S : Fault → Prop} {es : Entries} {v : Value}

theorem StopOnly.subset {ss ts : List Search} (h : StopOnly S ts) (hsub : ss ⊆ ts) :
    StopOnly S ss :=
  fun s hs => h s (hsub hs)

/-- The scalars that a value is made of are the value itself or in it. -/
theorem writesUpTo_of_scalars? {vs : List Value} (hw : WritesUpTo S v)
    (h : scalars? v = some vs) : ∀ w ∈ vs, WritesUpTo S w := by
  rw [scalars?.eq_def] at h
  split at h
  · obtain ⟨-, hvs⟩ := Option.ite_none_right_eq_some.mp h
    obtain rfl := Option.some.inj hvs
    exact hw.of_mem_list
  · obtain ⟨-, hvs⟩ := Option.ite_none_right_eq_some.mp h
    obtain rfl := Option.some.inj hvs
    exact List.forall_mem_singleton.mpr hw

theorem meets_ofField {key : Value} (hkey : WritesUpTo S key) (hw : WritesUpTo S v)
    (h : StopOnly S (fieldSearches [(key, v)])) : Meets S (fun _ => True) (ofField key v) := by
  refine (meets_write hkey _).bind ?_
  rintro _ rfl
  split
  · trivial
  case h_2 vs hvs =>
    refine (meets_mapM_write (writesUpTo_of_scalars? hw hvs) _).bind ?_
    rintro _ rfl
    have hmem : searchFor key.plain (vs.map Value.pattern) ∈ fieldSearches [(key, v)] := by
      simp [fieldSearches, hvs]
    have hkind := (Meets.self (searchFor key.plain (vs.map Value.pattern)).kind).mono (h _ hmem)
      fun _ _ => trivial
    exact hkind.within.map fun _ _ => trivial

theorem meets_ofFields (hw : WritesUpTo S (.map es)) (h : StopOnly S (fieldSearches es)) :
    Meets S (fun _ => True) (ofFields es) := by
  refine Meets.list ofFields (fun e => ofField e.1 e.2) rfl (fun _ _ => rfl) fun e he => ?_
  obtain ⟨hkey, hvalue⟩ := hw.of_mem_map e he
  refine meets_ofField hkey hvalue (h.subset ?_)
  exact List.filterMap_subset _ (List.cons_subset.mpr ⟨he, List.nil_subset es⟩)

theorem meets_ofMap (hw : WritesUpTo S (.map es)) (h : StopOnly S (fieldSearches es)) :
    Meets S (fun _ => True) (ofMap es) := by
  refine (meets_ofFields hw h).bind fun ss _ => ?_
  split <;> trivial

theorem meets_ofScalar (hw : WritesUpTo S v) : Meets S (fun _ => True) (ofScalar v) :=
  (meets_write hw _).bind fun _ _ => trivial

theorem meets_ofItem (name : String) (hw : WritesUpTo S v) (h : StopOnly S (itemSearches v)) :
    Meets S (fun _ => True) (ofItem name v) := by
  rw [ofItem.eq_def]
  split
  · exact meets_ofMap hw h
  · split
    · exact meets_ofScalar hw
    · trivial

theorem meets_ofItems (name : String) {vs : List Value} (hw : ∀ v ∈ vs, WritesUpTo S v)
    (h : StopOnly S (vs.flatMap itemSearches)) : Meets S (fun _ => True) (ofItems name vs) := by
  refine Meets.list (ofItems name) (ofItem name) rfl (fun _ _ => rfl) fun v hv =>
    meets_ofItem name (hw v hv) (h.subset ?_)
  exact fun s hs => List.mem_flatMap.mpr ⟨v, hv, hs⟩

theorem meets_ofValue (name : String) (hw : WritesUpTo S v) (h : StopOnly S (valueSearches v)) :
    Meets S (fun _ => True) (ofValue name v) := by
  rw [ofValue.eq_def]
  split
  · refine (meets_ofItems name hw.of_mem_list h).bind fun xs _ => ?_
    split <;> trivial
  · exact meets_ofMap hw h
  · split
    · exact meets_ofScalar hw
    · trivial

/-- The names of search identifiers are written, and then their values are known. -/
theorem meets_identifierValues {ε : Type} (hw : WritesUpTo S (.map es)) :
    Meets S (fun named => named = namedValues es)
      (Failure.orStop (identifierValues es) : Except (Failure ε) _) := by
  rw [identifierValues_eq]
  split
  case isTrue => rfl
  case isFalse hnames =>
    simp only [namesAreWritable, List.all_eq_true, not_forall] at hnames
    obtain ⟨e, he, hunwritable⟩ := hnames
    exact (hw.of_mem_map e (List.mem_of_mem_filter he)).1 (by simpa using hunwritable)

theorem meets_identifiers {named : List (String × Value)} (hw : ∀ i ∈ named, WritesUpTo S i.2)
    (h : StopOnly S (named.flatMap fun i => valueSearches i.2)) :
    Meets S (fun _ => True) (identifiers named) := by
  refine Meets.list identifiers _ rfl identifiers_cons fun i hi => ?_
  have hsub : valueSearches i.2 ⊆ named.flatMap fun i => valueSearches i.2 :=
    fun s hs => List.mem_flatMap.mpr ⟨i, hi, hs⟩
  exact (meets_ofValue i.1 (hw i hi) (h.subset hsub)).within.map fun _ _ => trivial

/-- Conditions are never more than malformed. -/
theorem meets_ofConditions (table : Condition.Identifiers) (cs : List String) :
    Meets S (fun _ => True) (ofConditions table cs) := by
  exact Meets.list (ofConditions table)
    (fun c => (Condition.parse table c).mapError fun p => .invalid (.condition p))
    rfl (fun _ _ => rfl) fun c _ => .mapError _

/-- **A detection is read, is reported, or stops at one of its numbers or searches.** -/
theorem meets_build {block : Value} (hw : WritesUpTo S block) (h : StopOnly S (searches block)) :
    Meets S (fun _ => True) (build block) := by
  rw [build.eq_def]
  split
  · trivial
  split
  case h_2 => trivial
  case h_1 es _ =>
    split
    · trivial
    split
    · trivial
    refine (meets_identifierValues hw).bind ?_
    rintro _ rfl
    have hvalues : ∀ i ∈ namedValues es, WritesUpTo S i.2 := by
      intro i hi
      obtain ⟨key, hmem, -, -⟩ := exists_mem_of_mem_namedValues hi
      exact (hw.of_mem_map _ hmem).2
    refine (meets_identifiers hvalues h).bind fun table _ =>
      (meets_ofConditions table _).bind fun xs _ => ?_
    split <;> trivial

end Detection

/-! ### Rules -/

namespace Rule

section Fields

variable {S : Fault → Prop} {v : Value} {es : Entries}

/-- Where a value is refused, it is written. -/
theorem meets_refuse {α : Type} {P : α → Prop} (h : WritesUpTo S v)
    (problem : String → FieldProblem) : Meets S P (refuse problem v) :=
  (meets_write h _).bind fun _ _ => trivial

theorem filled?_eq_some {name : String} (h : filled? es name = some v) :
    es.named? name = some v := (Option.filter_eq_some_iff.mp h).1

theorem meets_relation? (h : WritesUpTo S v) (i : Nat) :
    Meets S (fun _ => True) (relation? i v) := by
  rw [relation?.eq_def]
  split
  · trivial
  split
  case h_2 => trivial
  case h_1 es =>
    split
    · trivial
    · trivial
    case h_3 id type hid htype =>
      refine (meets_write (h.of_named? (filled?_eq_some hid)) _).bind fun _ _ => ?_
      split
      · trivial
      · exact meets_refuse (h.of_named? (filled?_eq_some htype)) _

theorem meets_relationsFrom {vs : List Value} (h : ∀ v ∈ vs, WritesUpTo S v) (i : Nat) :
    Meets S (fun _ => True) (relationsFrom i vs) := by
  induction vs generalizing i with
  | nil => trivial
  | cons v vs ih =>
    obtain ⟨hv, hvs⟩ := List.forall_mem_cons.mp h
    exact (meets_relation? hv i).bind fun _ _ => (ih hvs (i + 1)).bind fun _ _ => trivial

variable (h : WritesUpTo S (.map es))

include h

theorem meets_related? : Meets S (fun _ => True) (related? es) := by
  rw [related?]
  split
  · trivial
  case h_2 vs hvs =>
    exact (meets_relationsFrom (h.of_named? hvs).of_mem_list 0).map fun _ _ => trivial
  · trivial

theorem meets_status? : Meets S (fun _ => True) (status? es) := by
  rw [status?]
  split
  · trivial
  case h_2 v hv =>
    split
    · trivial
    · exact meets_refuse (h.of_named? hv) _

theorem meets_level? : Meets S (fun _ => True) (level? es) := by
  rw [level?]
  split
  · trivial
  case h_2 v hv =>
    split
    · trivial
    · exact meets_refuse (h.of_named? hv) _

omit h in
theorem meets_logSource? : Meets S (fun _ => True) (logSource? es) := by
  rw [logSource?]
  split
  · trivial
  · split <;> trivial
  · trivial

theorem meets_date? (key : String) : Meets S (fun _ => True) (date? es key) := by
  rw [date?]
  split
  · trivial
  case h_2 v hv =>
    refine Meets.map (P := fun _ => True) ?_ fun _ _ => trivial
    rw [dateOfValue.eq_def]
    split
    · exact Meets.mapError _
    · trivial
    · trivial
    · exact meets_refuse (h.of_named? hv) _

theorem meets_text? (key : String) : Meets S (fun _ => True) (text? es key) := by
  rw [text?, Entries.textOf?]
  split
  · trivial
  case h_2 v hv =>
    have hwritten := meets_write (ε := Problem) (h.of_named? hv) Value.plain
    rcases hs : v.write Value.plain with f | s
    · rw [hs] at hwritten
      exact (show S f from hwritten)
    · trivial

theorem meets_texts? (key : String) : Meets S (fun _ => True) (texts? es key) := by
  refine Meets.within ?_
  rw [Entries.textsOf?]
  split
  · trivial
  case h_2 vs hvs =>
    exact (meets_mapM_write (h.of_named? hvs).of_mem_list _).map fun _ _ => trivial
  case h_3 v _ hv =>
    split
    · exact (meets_write (h.of_named? hv) _).map fun _ _ => trivial
    · trivial

end Fields

/-- The searches with fields that the detection of a document writes. -/
def searches : Value → List Search
  | .map es => Detection.searches ((Entries.get? es (.text "detection")).getD .null)
  | _ => []

theorem meets_ofDocument {S : Fault → Prop} {v : Value} (definition : String)
    (hw : WritesUpTo S v) (h : Detection.StopOnly S (searches v)) :
    Meets S (fun _ => True) (ofDocument v definition) := by
  rw [ofDocument.eq_def]
  split
  case h_2 => trivial
  case h_1 es =>
    have hdetection : WritesUpTo S ((Entries.get? es (.text "detection")).getD .null) := by
      rcases hes : Entries.get? es (.text "detection") with - | block
      · exact nofun
      · obtain ⟨e, he, rfl⟩ := Option.map_eq_some_iff.mp hes
        exact (hw.of_mem_map e (List.mem_of_find?_eq_some he)).2
    rw [ofEntries]
    split
    · trivial
    case h_2 title htitle =>
      refine (meets_write (hw.of_named? (filled?_eq_some htitle)) _).bind fun _ _ => ?_
      refine (Detection.meets_build hdetection h).within.bind fun _ _ => ?_
      refine (meets_related? hw).within.bind fun _ _ => (meets_status? hw).within.bind fun _ _ =>
        (meets_level? hw).within.bind fun _ _ => meets_logSource?.within.bind fun _ _ =>
        (meets_date? hw _).within.bind fun _ _ => (meets_date? hw _).within.bind fun _ _ => ?_
      exact (meets_text? hw _).bind fun _ _ => (meets_text? hw _).bind fun _ _ =>
        (meets_texts? hw _).bind fun _ _ => (meets_text? hw _).bind fun _ _ =>
        (meets_texts? hw _).bind fun _ _ => (meets_texts? hw _).bind fun _ _ => trivial

end Rule

end SigmaRules
