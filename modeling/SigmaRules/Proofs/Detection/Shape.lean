/-
SigmaRules/Proofs/Detection/Shape.lean

The shape of what detections are built to.  The values of search identifiers become
trees of valid searches, in which no names stand and every junction has two children
or more (`SearchTree`): fields are checked one by one, and words that are merged to one
search are valid because each item of the list has a pattern.  Conditions put these
trees together, each under its name, to a tree over the table of identifiers
(`Assembled`).

So a way down from the root to a search passes through one name exactly, below the
junctions and negations of the conditions and above those of the value
(`build_wellFormed`).
-/
import SigmaRules.Proofs.Condition.Printing
import SigmaRules.Proofs.Detection.Building
import SigmaRules.Proofs.Search.Glob
import SigmaRules.Proofs.Search.Validity

namespace SigmaRules

namespace Expr

/-! ### Ways down an expression -/

/-- The expressions right below an expression. -/
def children : Expr → List Expr
  | .search _ => []
  | .named _ c | .not c => [c]
  | .and cs | .or cs => cs

/-- Does the expression carry a name? -/
def isNamed (x : Expr) : Bool := x.connective == .named

/-- A way down from an expression to one in it, with all expressions that it passes
through, both ends included. -/
inductive Path : Expr → List Expr → Expr → Prop
  | here (x : Expr) : Path x [x] x
  | down {x c y : Expr} {ys : List Expr} : c ∈ x.children → Path c ys y → Path x (x :: ys) y

end Expr

namespace Detection

open Condition (Identifiers isJunction)
open Document Search

/-! ### Values -/

/-- A tree of valid searches without names, in which junctions have two children or
more. -/
inductive SearchTree : Expr → Prop
  | search {s k} : s.kind = .ok k → SearchTree (.search s)
  | and {xs} : 2 ≤ xs.length → (∀ x ∈ xs, SearchTree x) → SearchTree (.and xs)
  | or {xs} : 2 ≤ xs.length → (∀ x ∈ xs, SearchTree x) → SearchTree (.or xs)

variable {name : String} {v : Value} {es : Entries} {x : Expr}

/-- A search for words is valid if there are any. -/
theorem kind_keywords {ps : List String} (h : ps ≠ []) : (keywords ps).kind = .ok .glob :=
  kind_of_free free_nil none h

theorem searchTree_of_ofMap (h : ofMap es = .ok x) : SearchTree x := by
  obtain ⟨ss, hss, hx⟩ := ofMap_eq_ok_iff.mp h
  have hvalid : ∀ s ∈ ss, SearchTree (.search s) := by
    intro s hs
    obtain ⟨e, -, he⟩ := exists_left_of_mem (ofFields_eq_ok_iff.mp hss) hs
    obtain ⟨-, -, -, -, -, k, hk⟩ := ofField_eq_ok_iff.mp he
    exact .search hk
  rcases hx with ⟨s, rfl, rfl⟩ | ⟨h2, rfl⟩
  · exact hvalid s (List.mem_singleton_self s)
  · exact .and (by simpa using h2) (List.forall_mem_map.mpr hvalid)

/-- Words of several searches make a valid search, as the first of these has some. -/
theorem searchTree_anyOf {xs : List Expr} (h2 : 2 ≤ xs.length) (h : ∀ x ∈ xs, SearchTree x) :
    SearchTree (anyOf xs) := by
  rcases anyOf_cases xs with ⟨pss, hpss, heq⟩ | heq
  -- there are two searches or more, and the words of the first are among those of all
  · rcases hpss with - | ⟨hps, -⟩
    · cases h2
    obtain ⟨s, rfl, -, -, rfl⟩ := eq_search_of_plainKeywords? hps
    have hne : s.patterns ≠ [] := by
      cases h _ List.mem_cons_self with
      | search hk => exact (kind_eq_ok_iff.mp hk).1
    rw [heq]
    exact .search (kind_keywords (by simp [hne]))
  · rw [heq]
    exact .or h2 h

/-- The value of a search identifier that is no list becomes a conjunction or a single search. -/
theorem searchTree_of_single (h : ofValue name v = .ok x) (hlist : ∀ ws, v ≠ .list ws) :
    SearchTree x := by
  by_cases hmap : ∃ es, v = .map es
  · obtain ⟨es, rfl⟩ := hmap
    exact searchTree_of_ofMap h
  · rw [eq_search_of_ofValue h hlist (not_exists.mp hmap)]
    exact .search (kind_keywords (List.cons_ne_nil _ _))

/-- **The value of a search identifier becomes a tree of valid searches.** -/
theorem searchTree_of_ofValue (h : ofValue name v = .ok x) : SearchTree x := by
  by_cases hlist : ∃ ws, v = .list ws
  · obtain ⟨ws, rfl⟩ := hlist
    obtain ⟨xs, hxs, hx⟩ := ofValue_list_iff.mp h
    have hitems : ∀ y ∈ xs, SearchTree y := by
      intro y hy
      obtain ⟨w, -, hw⟩ := exists_left_of_mem (ofItems_eq_ok_iff.mp hxs) hy
      obtain ⟨hsingle, hw⟩ := ofItem_eq_ok_iff.mp hw
      exact searchTree_of_single hw hsingle
    rcases hx with rfl | ⟨h2, rfl⟩
    · exact hitems x (List.mem_singleton_self x)
    · exact searchTree_anyOf h2 hitems
  · exact searchTree_of_single h (not_exists.mp hlist)

theorem SearchTree.isNamed_eq_false (h : SearchTree x) : x.isNamed = false := by
  cases h <;> rfl

theorem SearchTree.of_mem_children (h : SearchTree x) {c : Expr} (hc : c ∈ x.children) :
    SearchTree c := by
  cases h with
  | search _ => cases hc
  | and _ hall | or _ hall => exact hall c hc

theorem SearchTree.length_children (h : SearchTree x) (hx : isJunction x = true) :
    2 ≤ x.children.length := by
  cases h with
  | search _ => cases hx
  | and h2 _ | or h2 _ => exact h2

/-- On the way down a tree of searches there are no names. -/
theorem SearchTree.path (h : SearchTree x) {ys : List Expr} {y : Expr} (hp : x.Path ys y) :
    SearchTree y ∧ ys.filter Expr.isNamed = [] := by
  induction hp with
  | here x => exact ⟨h, by simp [h.isNamed_eq_false]⟩
  | down hc _ ih =>
    obtain ⟨hy, hnames⟩ := ih (h.of_mem_children hc)
    exact ⟨hy, by rw [List.filter_cons_of_neg (by simp [h.isNamed_eq_false]), hnames]⟩

/-! ### Conditions -/

variable {table : Identifiers}

/-- A tree over the named expressions of a table, in which junctions have two children
or more. -/
inductive Assembled (table : Identifiers) : Expr → Prop
  | identifier {name : String} {c : Expr} :
      (name, .named name c) ∈ table → Assembled table (.named name c)
  | not {x : Expr} : Assembled table x → Assembled table (.not x)
  | and {xs} : 2 ≤ xs.length → (∀ x ∈ xs, Assembled table x) → Assembled table (.and xs)
  | or {xs} : 2 ≤ xs.length → (∀ x ∈ xs, Assembled table x) → Assembled table (.or xs)

theorem assembled_of_normal (h : Condition.Normal table x) : Assembled table x := by
  induction h with
  | identifier hmem => exact .identifier hmem
  | not _ ih => exact .not ih
  | and _ _ ih => exact .and (by simp) ih
  | or _ _ ih => exact .or (by simp) ih

theorem Assembled.length_children (h : Assembled table x) (hx : isJunction x = true) :
    2 ≤ x.children.length := by
  cases h with
  | identifier _ | not _ => cases hx
  | and h2 _ | or h2 _ => exact h2

/-- **A way down a tree over a table** either stays above the names, or has passed through one
of them and ends in the tree that it names. -/
theorem Assembled.path (htable : ∀ name c, (name, .named name c) ∈ table → SearchTree c)
    (h : Assembled table x) {ys : List Expr} {y : Expr} (hp : x.Path ys y) :
    Assembled table y ∨
      SearchTree y ∧ ∃ name c, (name, .named name c) ∈ table ∧
        ys.filter Expr.isNamed = [.named name c] := by
  induction hp with
  | here x => exact .inl h
  | @down x c y ys hc hp ih =>
    -- what joins or negates adds no name to the way
    have hpass : x.isNamed = false → Assembled table c → Assembled table y ∨
        SearchTree y ∧ ∃ name d, (name, .named name d) ∈ table ∧
          (x :: ys).filter Expr.isNamed = [.named name d] := by
      intro hx hc
      rw [List.filter_cons_of_neg (by simp [hx])]
      exact ih hc
    cases h with
    | @identifier name d hmem =>
      obtain rfl : c = d := List.mem_singleton.mp hc
      obtain ⟨hy, hnames⟩ := (htable name c hmem).path hp
      refine .inr ⟨hy, name, c, hmem, ?_⟩
      rw [List.filter_cons_of_pos rfl, hnames]
    | @not d hd =>
      obtain rfl : c = d := List.mem_singleton.mp hc
      exact hpass rfl hd
    | and _ hall => exact hpass rfl (hall c hc)
    | or _ hall => exact hpass rfl (hall c hc)

/-! ### Detections -/

/-- What holds of the expression of a detection with the given entries. -/
structure WellFormed (es : Entries) (x : Expr) : Prop where
  /-- Every conjunction and every disjunction has two children or more. -/
  junctions : ∀ ys y, x.Path ys y → isJunction y = true → 2 ≤ y.children.length
  /-- Every search is valid: it has patterns, only known modifiers, of which `re` and `cidr`
  exclude each other, and `expand` in the first place only. -/
  searches : ∀ ys s, x.Path ys (.search s) →
    (∃ k, s.kind = .ok k) ∧ s.patterns ≠ [] ∧ (∀ m ∈ s.modifiers, m.isKnown = true) ∧
      ¬ (.re ∈ s.modifiers ∧ .cidr ∈ s.modifiers) ∧ .expand ∉ s.modifiers.tail
  /-- Every way to a search passes through one name exactly.  It is that of a search identifier
  among the entries, and what it names is built from the value there. -/
  names : ∀ ys s, x.Path ys (.search s) →
    ∃ key v c, (key, v) ∈ es ∧ isIdentifier key = true ∧ ofValue key.plain v = .ok c ∧
      ys.filter Expr.isNamed = [.named key.plain c]

/-- The table holds what values of the entries are built to, each under the name of its key. -/
def BuiltFrom (es : Entries) (table : Identifiers) : Prop :=
  ∀ i ∈ table, ∃ key v c, (key, v) ∈ es ∧ isIdentifier key = true ∧
    ofValue key.plain v = .ok c ∧ (key.plain, .named key.plain c) = i

theorem builtFrom_identifiers (h : identifiers (namedValues es) = .ok table) :
    BuiltFrom es table := by
  intro i hi
  obtain ⟨⟨name, v⟩, hnv, c, hc, rfl⟩ := exists_left_of_mem (identifiers_eq_ok_iff.mp h) hi
  obtain ⟨key, hkey, hident, rfl⟩ := exists_mem_of_mem_namedValues hnv
  exact ⟨key, v, c, hkey, hident, hc, rfl⟩

/-- What a name of the table stands for is built from the value of that name. -/
theorem BuiltFrom.exists_value (h : BuiltFrom es table) {c : Expr}
    (hc : (name, .named name c) ∈ table) :
    ∃ key v, (key, v) ∈ es ∧ isIdentifier key = true ∧ ofValue key.plain v = .ok c ∧
      key.plain = name := by
  obtain ⟨key, v, d, hkey, hident, hd, heq⟩ := h _ hc
  obtain ⟨rfl, heq⟩ := Prod.mk.inj heq
  obtain ⟨-, rfl⟩ := Expr.named.inj heq
  exact ⟨key, v, hkey, hident, hd, rfl⟩

/-- A block is built to a tree over the table of its identifiers. -/
theorem exists_assembled_of_build (h : build (.map es) = .ok x) :
    ∃ table, BuiltFrom es table ∧ Assembled table x := by
  obtain ⟨table, xs, -, -, htable, hxs, hx⟩ := build_map_iff.mp h
  have hbuilt := builtFrom_identifiers htable
  have hnamed : ∀ i ∈ table, ∃ c, i.2 = .named i.1 c := by
    intro i hi
    obtain ⟨key, v, c, -, -, -, rfl⟩ := hbuilt i hi
    exact ⟨c, rfl⟩
  have hconditions : ∀ y ∈ xs, Assembled table y := by
    intro y hy
    obtain ⟨c, -, hc⟩ := exists_left_of_mem (ofConditions_eq_ok_iff.mp hxs) hy
    exact assembled_of_normal (Condition.normal_of_parse hnamed hc)
  refine ⟨table, hbuilt, ?_⟩
  rcases hx with rfl | ⟨h2, rfl⟩
  · exact hconditions x (List.mem_singleton_self x)
  -- several conditions are joined by a disjunction of their own
  · exact .or h2 hconditions

/-- A tree over a table that is built from the entries is well-formed. -/
theorem wellFormed_of_assembled (htable : BuiltFrom es table) (h : Assembled table x) :
    WellFormed es x := by
  have htrees : ∀ name c, (name, .named name c) ∈ table → SearchTree c := by
    intro name c hc
    obtain ⟨key, v, -, -, hd, -⟩ := htable.exists_value hc
    exact searchTree_of_ofValue hd
  refine ⟨?_, ?_, ?_⟩
  · intro ys y hp hy
    rcases h.path htrees hp with hy' | ⟨hy', -⟩
    · exact hy'.length_children hy
    · exact hy'.length_children hy
  -- above the names there are no searches
  · intro ys s hp
    rcases h.path htrees hp with hs | ⟨hs, -⟩
    · cases hs
    cases hs with
    | search hk =>
      obtain ⟨hne, hfit, -, -⟩ := kind_eq_ok_iff.mp hk
      exact ⟨⟨_, hk⟩, hne, hfit.known, fun hboth => hfit.one_kind (by simpa using hboth),
        by simpa using hfit.expand_first⟩
  · intro ys s hp
    rcases h.path htrees hp with hs | ⟨-, name, c, hc, hnames⟩
    · cases hs
    obtain ⟨key, v, hkey, hident, hd, rfl⟩ := htable.exists_value hc
    exact ⟨key, v, c, hkey, hident, hd, hnames⟩

/-- **What is built from a detection is well-formed.** -/
theorem build_wellFormed {block : Value} (h : build block = .ok x) :
    ∃ es, block = .map es ∧ WellFormed es x := by
  obtain ⟨es, rfl⟩ := exists_eq_map_of_build h
  obtain ⟨table, htable, hx⟩ := exists_assembled_of_build h
  exact ⟨es, rfl, wellFormed_of_assembled htable hx⟩

/-- The statement at words in a list that are merged to one search, under two conditions of which
the second has a quantifier. -/
theorem sample_build_wellFormed :
    let es : Entries := [
      (.text "sel", .map [(.text "Image|endswith", .text "\\cmd.exe"), (.text "EventID", .int 1)]),
      (.text "words", .list [.text "foo", .map [(.text "", .list [.text "bar", .bool true])]]),
      (.text "condition", .list [.text "sel and not words", .text "1 of *"])]
    let sel : Expr := .named "sel" (.and [.search ⟨some "Image", [.endswith], ["\\cmd.exe"]⟩,
      .search ⟨some "EventID", [], ["1"]⟩])
    let words : Expr := .named "words" (.search ⟨none, [], ["foo", "bar", "true"]⟩)
    let x : Expr := .or [.and [sel, .not words], .or [sel, words]]
    build (.map es) = .ok x ∧ ∃ fs, Value.map es = .map fs ∧ WellFormed fs x := by
  intro es sel words x
  have hbuild : build (.map es) = .ok x := by rfl
  exact ⟨hbuild, build_wellFormed hbuild⟩

end Detection

end SigmaRules
