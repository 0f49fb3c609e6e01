/-
SigmaRules/Proofs/Search/ModifierOrder.lean

The order of modifiers and their repetitions do not matter.  The check goes through the
modifiers one by one and carries a kind of patterns along, but whether they fit together
and what kind they say depends only on which modifiers there are, as long as `expand`
stands where it may (`ModifiersFit.congr`).  From there on, modifiers are only asked for:
so two searches whose modifiers are the same set are valid alike (`check_congr`) and
match alike (`Respelled.succeeds`).

What the order does decide is which problem is reported, if there are several.
-/
import SigmaRules.Proofs.Search.Acceptance

namespace SigmaRules.Search

/-! ### Checking -/

section Check

variable {ms ns : List Modifier} {patterns : List String}

theorem contains_congr (h : ∀ m, m ∈ ms ↔ m ∈ ns) (m : Modifier) :
    ms.contains m = ns.contains m := by
  rw [Bool.eq_iff_iff, List.contains_iff_mem, List.contains_iff_mem]
  exact h m

theorem kindOf_congr (h : ∀ m, m ∈ ms ↔ m ∈ ns) : kindOf ms = kindOf ns := by
  simp only [kindOf, kindFrom, h]

/-- Modifiers fit together or not as a set, if `expand` is at most the first of them. -/
theorem ModifiersFit.congr (h : ∀ m, m ∈ ms ↔ m ∈ ns) (hms : .expand ∉ ms.tail)
    (hns : .expand ∉ ns.tail) :
    ModifiersFit patterns true .glob ms ↔ ModifiersFit patterns true .glob ns := by
  simp only [modifiersFit_iff, h, if_true, hms, hns]

/-- **The check does not look at the order of modifiers.**  Two lists of the same modifiers come
to the same, or a problem is reported of both. -/
theorem check_congr (h : ∀ m, m ∈ ms ↔ m ∈ ns) (hms : .expand ∉ ms.tail)
    (hns : .expand ∉ ns.tail) (patterns : List String) :
    check ms patterns = check ns patterns ∨
      (∃ q, check ms patterns = .error (.invalid q)) ∧
        ∃ q, check ns patterns = .error (.invalid q) := by
  by_cases hfit : ModifiersFit patterns true .glob ms
  · have hfit' : ModifiersFit patterns true .glob ns := (ModifiersFit.congr h hms hns).mp hfit
    have hread : checkModifiers patterns true .glob ms = .ok (kindOf ms) :=
      checkModifiers_eq_ok_iff.mpr ⟨hfit, rfl⟩
    have hread' : checkModifiers patterns true .glob ns = .ok (kindOf ms) :=
      checkModifiers_eq_ok_iff.mpr ⟨hfit', (kindOf_congr h).symm⟩
    left
    rw [check, check, hread, hread', contains_congr h]
  · have hfit' : ¬ ModifiersFit patterns true .glob ns :=
      fun hns' => hfit ((ModifiersFit.congr h hms hns).mpr hns')
    exact .inr ⟨check_of_not_fit hfit, check_of_not_fit hfit'⟩

/-- Of two unknown modifiers, the first is the one reported. -/
example : check (["a", "b"].map .ofName) ["x"] ≠ check (["b", "a"].map .ofName) ["x"] := by
  decide

end Check

/-! ### Matching -/

/-- Two searches look for the same patterns in the same place, with the same modifiers, in any
order and any number of times. -/
structure Respelled (s t : Search) : Prop where
  field : s.field = t.field
  patterns : s.patterns = t.patterns
  modifiers : ∀ m, m ∈ s.modifiers ↔ m ∈ t.modifiers

namespace Respelled

variable {s t : Search}

theorem has (h : Respelled s t) (m : Modifier) : s.has m = t.has m :=
  contains_congr h.modifiers m

theorem expression (h : Respelled s t) :
    Search.expression s.modifiers s.field = Search.expression t.modifiers t.field := by
  funext p
  simp only [Search.expression, plainExpression, contains_congr h.modifiers, h.field]

theorem resolve (h : Respelled s t) (ps : Placeholders) : s.resolve ps = t.resolve ps := by
  rw [Search.resolve, Search.resolve, h.has, h.patterns]

theorem inspected (h : Respelled s t) (e : Entry) : s.inspected e = t.inspected e := by
  rw [Search.inspected, Search.inspected, fieldName?, fieldName?, h.field]

theorem matchesText (h : Respelled s t) (patterns : List String) (value : String) :
    s.matchesText patterns value = t.matchesText patterns value := by
  rw [Search.matchesText, Search.matchesText, h.has, sources, sources, h.has, h.expression]

/-- **Searches match alike** if their modifiers are the same set and `expand` is at most the first
of them; if one of them has no answer, the other has none either, for the same reason. -/
theorem succeeds (h : Respelled s t) (hs : .expand ∉ s.modifiers.tail)
    (ht : .expand ∉ t.modifiers.tail) (e : Entry) (ps : Placeholders) :
    s.succeeds e ps = t.succeeds e ps := by
  rw [Search.succeeds, Search.succeeds, Search.kind, Search.kind, ← h.patterns]
  rcases check_congr h.modifiers hs ht s.patterns with hsame | ⟨⟨q, hq⟩, ⟨r, hr⟩⟩
  · rw [hsame, h.resolve, h.inspected]
    simp only [h.matchesText]
  · rw [hq, hr]

end Respelled

/-- The outcomes say the same of two searches: whether they match, and the text that they
inspected; and evaluation took the same work. -/
def SayAlike (s t : Search) (x y : Outcome × Tally) : Prop :=
  ∃ b value, x.1 = .search s b value ∧ y.1 = .search t b value ∧ x.2 = y.2

theorem Respelled.evaluate {s t : Search} (h : Respelled s t) (hs : .expand ∉ s.modifiers.tail)
    (ht : .expand ∉ t.modifiers.tail) (σ : Setting) (tally : Tally) :
    Agree (SayAlike s t) ((Expr.search s).evaluate σ tally) ((Expr.search t).evaluate σ tally) := by
  rw [Expr.evaluate, Expr.evaluate, h.succeeds hs ht, h.inspected]
  rcases t.succeeds σ.entry σ.placeholders with f | b
  · exact .error f
  · exact .ok ⟨b, _, rfl, rfl, rfl⟩

/-- **Modifiers act as a set.**  Let two lists name the same modifiers, with `expand` at most as the
very first name of each.  Whatever the patterns are, the check of both comes to the same, or it
reports a problem of both; and two searches with these modifiers and the same field and patterns
have the same outcome under every setting, or both have none. -/
theorem modifiers_act_as_set {names others : List String} (hsame : ∀ n, n ∈ names ↔ n ∈ others)
    (hnames : ∀ i : Nat, names[i]? = some "expand" → i = 0)
    (hothers : ∀ i : Nat, others[i]? = some "expand" → i = 0)
    (field : Option String) (patterns : List String) :
    let s : Search := ⟨field, names.map Modifier.ofName, patterns⟩
    let t : Search := ⟨field, others.map Modifier.ofName, patterns⟩
    (check s.modifiers patterns = check t.modifiers patterns ∨
        (∃ q, check s.modifiers patterns = .error (.invalid q)) ∧
          ∃ q, check t.modifiers patterns = .error (.invalid q)) ∧
      ∀ σ tally, Agree (SayAlike s t)
        ((Expr.search s).evaluate σ tally) ((Expr.search t).evaluate σ tally) := by
  intro s t
  have hmodifiers : ∀ m, m ∈ s.modifiers ↔ m ∈ t.modifiers := by
    intro m
    simp only [s, t, List.mem_map, hsame]
  have htail : ∀ ns : List String, (∀ i : Nat, ns[i]? = some "expand" → i = 0) →
      .expand ∉ (ns.map Modifier.ofName).tail := by
    intro ns hns
    rw [← List.map_tail, Modifier.mem_map_ofName]
    exact not_mem_tail_iff.mpr hns
  have hs := htail names hnames
  have ht := htail others hothers
  have hrespelled : Respelled s t := ⟨rfl, rfl, hmodifiers⟩
  exact ⟨check_congr hmodifiers hs ht patterns, hrespelled.evaluate hs ht⟩

/-- The statement at a search for the values of a placeholder, one of which is a block around the
address in the entry. -/
theorem sample_modifier_sets :
    let names := ["expand", "all", "cidr", "all"]
    let others := ["expand", "cidr", "all"]
    let s : Search := ⟨some "Ip", names.map Modifier.ofName, ["%Net%"]⟩
    let σ : Setting := ⟨{ fields := [("ip", "10.1.2.3")] }, [("Net", ["::/0", "10.0.0.0/8"])], true⟩
    (∀ n, n ∈ names ↔ n ∈ others) ∧ (∀ i : Nat, names[i]? = some "expand" → i = 0) ∧
      (∀ i : Nat, others[i]? = some "expand" → i = 0) ∧ check s.modifiers ["%Net%"] = .ok .network ∧
      ∃ tally, (Expr.search s).evaluate σ {} = .ok (.search s true "10.1.2.3", tally) := by
  intro names others s σ
  let t : Search := ⟨some "Ip", others.map Modifier.ofName, ["%Net%"]⟩
  have hsame : ∀ n, n ∈ names ↔ n ∈ others := by
    intro n
    simp only [names, others, List.mem_cons, List.not_mem_nil]
    tauto
  have hnames : ∀ i : Nat, names[i]? = some "expand" → i = 0 := not_mem_tail_iff.mp (by decide)
  have hothers : ∀ i : Nat, others[i]? = some "expand" → i = 0 := not_mem_tail_iff.mp (by decide)
  obtain ⟨hcheck, heval⟩ := modifiers_act_as_set hsame hnames hothers (some "Ip") ["%Net%"]
  refine ⟨hsame, hnames, hothers, ?_, ?_⟩
  · have hother : check t.modifiers ["%Net%"] = .ok .network := by decide
    rcases hcheck with heq | ⟨-, q, hq⟩
    · exact heq.trans hother
    · cases hother.symm.trans hq
  · have hfound : t.succeeds σ.entry σ.placeholders = .ok true := by decide +kernel
    obtain ⟨after, ht⟩ : ∃ after, (Expr.search t).evaluate σ {}
        = .ok (.search t true "10.1.2.3", after) := by
      rw [Expr.evaluate, hfound]
      exact ⟨_, rfl⟩
    have hsays := heval σ {}
    rw [ht] at hsays
    obtain ⟨⟨o, tally⟩, ho, b, value, rfl, hother, -⟩ := hsays.exists_ok
    cases hother
    exact ⟨tally, ho⟩

end SigmaRules.Search
