/-
SigmaRules/Proofs/Search/Glob.lean

What searches for globs mean.  Main statement: a search for a glob that has no
other modifiers than `contains`, `startswith` and `endswith` matches if and only
if one of the texts of the glob is a part of the text inspected, and there is
nothing before or after it unless the field or the modifiers allow it
(`glob_search_iff`).
-/
import SigmaRules.Proofs.Pattern.Glob
import SigmaRules.Proofs.Search.Expression

namespace SigmaRules.Search

open Regex Pattern

/-- May matches start anywhere? -/
def startFree (modifiers : List Modifier) (field : Option String) : Bool :=
  field.all String.isEmpty || modifiers.contains .contains || modifiers.contains .endswith

/-- May matches end anywhere? -/
def endFree (modifiers : List Modifier) (field : Option String) : Bool :=
  field.all String.isEmpty || modifiers.contains .contains || modifiers.contains .startswith

theorem fieldName?_eq_none_iff (s : Search) :
    s.fieldName? = none ↔ s.field.all String.isEmpty = true := by
  rcases h : s.field with - | f <;> simp [fieldName?, h]

theorem startFree_iff (s : Search) :
    startFree s.modifiers s.field = true ↔
      s.fieldName? = none ∨ .contains ∈ s.modifiers ∨ .endswith ∈ s.modifiers := by
  simp [startFree, fieldName?_eq_none_iff, or_assoc]

theorem endFree_iff (s : Search) :
    endFree s.modifiers s.field = true ↔
      s.fieldName? = none ∨ .contains ∈ s.modifiers ∨ .startswith ∈ s.modifiers := by
  simp [endFree, fieldName?_eq_none_iff, or_assoc]

/-! ### The expression of a glob -/

/-- A text as a group between anchors. -/
def anchored (startFree endFree : Bool) (e : List Char) : List Char :=
  (if startFree then [] else ['^']) ++ grouped e ++ (if endFree then [] else ['\\', 'Z'])

/-- An expression between anchors adds its nodes between those of the anchors. -/
theorem adds_anchored {f : Flags} (hv : f.verbose = false) (hm : f.multiline = false)
    {e : List Char} {ns : List Node} (h : Adds f e ns) (startFree endFree : Bool) :
    Adds f (anchored startFree endFree e)
      (startNodes startFree ++ (ns ++ endNodes endFree)) := by
  have hstart : Adds f (if startFree then [] else ['^']) (startNodes startFree) := by
    rcases startFree with - | -
    · have hcaret : Adds f ['^'] [.anchor (.caret f.multiline)] := .caret hv
      rwa [hm] at hcaret
    · exact .nil
  have hend : Adds f (if endFree then [] else ['\\', 'Z']) (endNodes endFree) := by
    rcases endFree with - | -
    · exact .textEnd
    · exact .nil
  rw [anchored, List.append_assoc]
  exact hstart.append (h.grouped_single.append hend)

theorem lookBehindsFixed_anchored {ns : List Node} (h : ∀ n ∈ ns, n.lookBehindsFixed = true)
    (startFree endFree : Bool) :
    ∀ n ∈ startNodes startFree ++ (ns ++ endNodes endFree), n.lookBehindsFixed = true := by
  simp only [List.forall_mem_append]
  refine ⟨?_, h, ?_⟩
  · rcases startFree with - | - <;> simp [startNodes, Node.lookBehindsFixed]
  · rcases endFree with - | - <;> simp [endNodes, Node.lookBehindsFixed]

theorem lookBehindsFixed_globNode (c : Char) : (globNode c).lookBehindsFixed = true := by
  rw [globNode]
  split
  · rfl
  · split <;> rfl

/-- The expression of a glob between anchors is read as its nodes between them. -/
theorem parse_glob (startFree endFree : Bool) (p : List Char) :
    parse { ignoreCase := true } (anchored startFree endFree (glob p))
      = .ok (Node.ofList (startNodes startFree ++ (p.map globNode ++ endNodes endFree))) := by
  refine (adds_anchored rfl rfl (Adds.glob p) startFree endFree).parse_eq ?_
  refine lookBehindsFixed_anchored ?_ startFree endFree
  exact List.forall_mem_map.mpr fun c _ => lookBehindsFixed_globNode c

/-! ### Searches for globs -/

section Check

variable {modifiers : List Modifier}

theorem free_nil : ∀ m ∈ ([] : List Modifier), m = .contains ∨ m = .startswith ∨ m = .endswith :=
  fun _ h => absurd h List.not_mem_nil

/-- The modifiers that say where matches may start and end are always valid. -/
theorem checkModifiers_free (hm : ∀ m ∈ modifiers, m = .contains ∨ m = .startswith ∨ m = .endswith)
    (patterns : List String) (first : Bool) :
    checkModifiers patterns first .glob modifiers = .ok .glob := by
  induction modifiers generalizing first with
  | nil => rfl
  | cons m ms ih =>
    have hrest := ih (fun k hk => hm k (List.mem_cons_of_mem m hk)) false
    rcases hm m List.mem_cons_self with rfl | rfl | rfl
    · exact hrest
    · exact hrest
    · exact hrest

theorem not_mem_of_free (hm : ∀ m ∈ modifiers, m = .contains ∨ m = .startswith ∨ m = .endswith)
    {m : Modifier} (h : m ≠ .contains ∧ m ≠ .startswith ∧ m ≠ .endswith) : m ∉ modifiers := by
  intro hmem
  rcases hm m hmem with rfl | rfl | rfl
  · exact h.1 rfl
  · exact h.2.1 rfl
  · exact h.2.2 rfl

variable (hm : ∀ m ∈ modifiers, m = .contains ∨ m = .startswith ∨ m = .endswith)
  (field : Option String) (p : String)
include hm

theorem kind_of_free {patterns : List String} (hne : patterns ≠ []) :
    (Search.mk field modifiers patterns).kind = .ok .glob := by
  have hexpand : .expand ∉ modifiers := not_mem_of_free hm (by simp)
  simp [kind, check, checkModifiers_free hm, hexpand, hne]

/-- With these modifiers, the expression of a glob stands between the anchors that they leave. -/
theorem expression_of_free : expression modifiers field p
    = anchored (startFree modifiers field) (endFree modifiers field) (glob p.toList) := by
  have hre : .re ∉ modifiers := not_mem_of_free hm (by simp)
  have hoffset : .base64offset ∉ modifiers := not_mem_of_free hm (by simp)
  have hbase64 : .base64 ∉ modifiers := not_mem_of_free hm (by simp)
  have hwindash : .windash ∉ modifiers := not_mem_of_free hm (by simp)
  simp [expression, plainExpression, anchored, startFree, endFree, hre, hoffset, hbase64, hwindash]

/-- A search for one glob with these modifiers has an answer: whether one of the texts of the
glob is in the text inspected, with nothing before and after it but where the ends are free. -/
theorem succeeds_of_free (e : Entry) (ps : Placeholders) :
    ∃ b, (Search.mk field modifiers [p]).succeeds e ps = .ok b ∧
      (b = true ↔ ∃ x y z, ((Search.mk field modifiers [p]).inspected e).toList = x ++ y ++ z ∧
        y ∈ language p.toList ∧ (x = [] ∨ startFree modifiers field = true) ∧
        (z = [] ∨ endFree modifiers field = true)) := by
  have hparse := parse_glob (startFree modifiers field) (endFree modifiers field) p.toList
  rw [← expression_of_free hm field p] at hparse
  refine ⟨_, succeeds_of_parse (kind_of_free hm field (by simp)) (List.cons_ne_nil p [])
    (not_mem_of_free hm (by simp)) (not_mem_of_free hm (by simp)) (not_mem_of_free hm (by simp))
    hparse e ps, ?_⟩
  rw [search_anchored_iff (spells_glob p.toList)]

end Check

/-- **Searches for globs mean what their modifiers say.**  A search for one glob, with
or without a field, and with no modifiers but those that say where matches may start
and end, always has an answer.  It matches if and only if one of the texts of the
glob is a part of the text inspected, and there is nothing before it unless there is
no field, `contains` or `endswith`, and nothing after it unless there is no field,
`contains` or `startswith`. -/
theorem glob_search_iff (field : Option String) (modifiers : List Modifier) (p : String)
    (hm : ∀ m ∈ modifiers, m = .contains ∨ m = .startswith ∨ m = .endswith)
    (e : Entry) (ps : Placeholders) :
    ∃ b, (Search.mk field modifiers [p]).succeeds e ps = .ok b ∧
      (b = true ↔ ∃ x y z,
        ((Search.mk field modifiers [p]).inspected e).toList = x ++ y ++ z ∧
        y ∈ language p.toList ∧
        (x = [] ∨ (Search.mk field modifiers [p]).fieldName? = none ∨ .contains ∈ modifiers ∨
          .endswith ∈ modifiers) ∧
        (z = [] ∨ (Search.mk field modifiers [p]).fieldName? = none ∨ .contains ∈ modifiers ∨
          .startswith ∈ modifiers)) := by
  obtain ⟨b, hb, hiff⟩ := succeeds_of_free hm field p e ps
  refine ⟨b, hb, ?_⟩
  -- it remains to put the modifiers for the freedom of the ends
  have hstart := startFree_iff ⟨field, modifiers, [p]⟩
  have hend := endFree_iff ⟨field, modifiers, [p]⟩
  simp only at hstart hend
  simp only [hiff, hstart, hend]

/-- The statement at a backslash before a star: the search matches at the end of a path,
without regard to letter case. -/
theorem glob_search_sample_matches :
    let s : Search := ⟨some "Image", [.endswith], ["\\*.ex?"]⟩
    let e : Entry := { fields := [("Image", "C:\\bin\\WHO.EXE")] }
    (∀ m ∈ s.modifiers, m = .contains ∨ m = .startswith ∨ m = .endswith) ∧
      s.succeeds e [] = .ok true := by
  intro s e
  have hm : ∀ m ∈ s.modifiers, m = .contains ∨ m = .startswith ∨ m = .endswith := by
    intro m hmem
    exact .inr (.inr (List.mem_singleton.mp hmem))
  obtain ⟨b, hb, hiff⟩ := glob_search_iff s.field s.modifiers "\\*.ex?" hm e []
  have hother : ∀ c d : Char, c ≠ '*' → c ≠ '?' → CaseRule.fold.same c.toNat d.toNat = true →
      [d] ∈ charLanguage c := by
    intro c d hs hq hcd
    rw [charLanguage_other hs hq]
    exact ⟨d, rfl, hcd⟩
  have hslash := hother '\\' '\\' (by decide) (by decide) (by decide)
  have hrun : ['W', 'H', 'O'] ∈ charLanguage '*' := by
    rw [charLanguage_star, mem_runsOf]
    simp only [List.forall_mem_cons]
    exact ⟨by decide, by decide, by decide, by simp⟩
  have hdot := hother '.' '.' (by decide) (by decide) (by decide)
  have he := hother 'e' 'E' (by decide) (by decide) (by decide)
  have hx := hother 'x' 'X' (by decide) (by decide) (by decide)
  have hany : ['E'] ∈ charLanguage '?' := ⟨'E', rfl, by decide⟩
  have hlang : ['\\', 'W', 'H', 'O', '.', 'E', 'X', 'E'] ∈ language "\\*.ex?".toList := by
    have hp : "\\*.ex?".toList = ['\\', '*', '.', 'e', 'x', '?'] := by decide
    rw [hp]
    exact append_mem_language hslash (append_mem_language hrun (append_mem_language hdot
      (append_mem_language he (append_mem_language hx (append_mem_language hany
        nil_mem_language)))))
  have hparts : (s.inspected e).toList
      = ['C', ':', '\\', 'b', 'i', 'n'] ++ ['\\', 'W', 'H', 'O', '.', 'E', 'X', 'E'] ++ [] := by
    decide
  have hends : Modifier.endswith ∈ s.modifiers := List.mem_singleton_self _
  have hmatch : b = true :=
    hiff.mpr ⟨_, _, [], hparts, hlang, .inr (.inr (.inr hends)), .inl rfl⟩
  exact ⟨hm, hb.trans (congrArg Except.ok hmatch)⟩

end SigmaRules.Search
