/-
SigmaRules/Proofs/Detection/Composition.lean

The parts of a detection on their own.  What is built from a list matches if what is built
from one of its items does, a mapping matches if each of its fields does, and a detection
with several conditions matches if it does with one of them
(`built_matches_as_parts`).

Each part is built alike on its own and among the others, so the answer can be read off
the conjunction or disjunction of the parts.  Only words are not kept apart but merged
to one search, and for these it takes that merging changes nothing (`MergeableItems`).
-/
import SigmaRules.Proofs.Detection.Building
import SigmaRules.Proofs.Expr.Evaluation
import SigmaRules.Proofs.Search.Keywords

namespace SigmaRules.Detection

open Document Search

/-- What is built, if anything is, matches the entry. -/
def Accepts {ε : Type} (e : Entry) (ps : Placeholders) (x : Except ε Expr) : Prop :=
  ∃ y, x = .ok y ∧ y.matchesEntry e ps = .ok true

variable {e : Entry} {ps : Placeholders} {b : Bool} {name : String} {vs : List Value}
  {es : Entries} {x : Expr}

/-! ### Parts and what they are built to -/

section Parts

variable {α ε : Type} {g : α → Except ε Expr} {as : List α} {xs : List Expr}

theorem accepts_ok {y : Expr} :
    Accepts e ps (.ok y : Except ε Expr) ↔ y.matchesEntry e ps = .ok true := by
  simp [Accepts]

theorem exists_accepts_iff (h : List.Forall₂ (fun a x => g a = .ok x) as xs) :
    (∃ a ∈ as, Accepts e ps (g a)) ↔ ∃ y ∈ xs, y.matchesEntry e ps = .ok true := by
  constructor
  · rintro ⟨a, ha, haccepts⟩
    obtain ⟨y, hy, hga⟩ := exists_right_of_mem h ha
    rw [hga, accepts_ok] at haccepts
    exact ⟨y, hy, haccepts⟩
  · rintro ⟨y, hy, hmatch⟩
    obtain ⟨a, ha, hga⟩ := exists_left_of_mem h hy
    exact ⟨a, ha, y, hga, hmatch⟩

theorem forall_accepts_iff (h : List.Forall₂ (fun a x => g a = .ok x) as xs) :
    (∀ a ∈ as, Accepts e ps (g a)) ↔ ∀ y ∈ xs, y.matchesEntry e ps = .ok true := by
  constructor
  · intro haccepts y hy
    obtain ⟨a, ha, hga⟩ := exists_left_of_mem h hy
    have hbuilt := haccepts a ha
    rwa [hga, accepts_ok] at hbuilt
  · intro hmatch a ha
    obtain ⟨y, hy, hga⟩ := exists_right_of_mem h ha
    exact ⟨y, hga, hmatch y hy⟩

theorem exists_built (h : List.Forall₂ (fun a x => g a = .ok x) as xs) :
    ∀ a ∈ as, ∃ y, g a = .ok y := by
  intro a ha
  obtain ⟨y, -, hga⟩ := exists_right_of_mem h ha
  exact ⟨y, hga⟩

end Parts

/-! ### Lists -/

/-- If all items of a list look for words only, merging these changes nothing: neither those of
all items nor those of a single one. -/
def MergeableItems (name : String) (vs : List Value) : Prop :=
  ∀ (xs : List Expr) (pss : List (List String)), 2 ≤ xs.length → ofItems name vs = .ok xs →
    List.Forall₂ (fun x ps => plainKeywords? x = some ps) xs pss →
    Mergeable pss.flatten ∧ ∀ ps ∈ pss, Mergeable ps

/-- Words that are merged are found where those of one of the searches are. -/
theorem eq_true_iff_of_merged {xs : List Expr} {pss : List (List String)}
    (hpss : List.Forall₂ (fun x ps => plainKeywords? x = some ps) xs pss)
    (hall : Mergeable pss.flatten) (hsingle : ∀ ps ∈ pss, Mergeable ps)
    (hb : (Expr.search (keywords pss.flatten)).matchesEntry e ps = .ok b) :
    b = true ↔ ∃ y ∈ xs, y.matchesEntry e ps = .ok true := by
  -- single searches and the merged one are searches for words alike
  have hword : ∀ y qs, plainKeywords? y = some qs → Mergeable qs →
      y.matchesEntry e ps = .ok (qs.any (finds e.message.toList)) := by
    intro y qs hy hqs
    obtain ⟨s, rfl, hfield, hmodifiers, rfl⟩ := eq_search_of_plainKeywords? hy
    rw [Expr.matchesEntry_search, succeeds_keywords hfield hmodifiers hqs]
  rw [hword _ _ rfl hall] at hb
  obtain rfl : pss.flatten.any (finds e.message.toList) = b := Except.ok.inj hb
  rw [List.any_flatten, List.any_eq_true]
  constructor
  · rintro ⟨qs, hqs, hfound⟩
    obtain ⟨y, hy, hyqs⟩ := exists_left_of_mem hpss hqs
    exact ⟨y, hy, (hword y qs hyqs (hsingle qs hqs)).trans (congrArg Except.ok hfound)⟩
  · rintro ⟨y, hy, hmatch⟩
    obtain ⟨qs, hqs, hyqs⟩ := exists_right_of_mem hpss hy
    rw [hword y qs hyqs (hsingle qs hqs)] at hmatch
    exact ⟨qs, hqs, Except.ok.inj hmatch⟩

/-- **A list matches as one of its items does**, if merging words changes nothing. -/
theorem eq_true_iff_of_list (hx : ofValue name (.list vs) = .ok x) (hm : MergeableItems name vs)
    (hb : x.matchesEntry e ps = .ok b) :
    (∀ v ∈ vs, ∃ y, ofValue name v = .ok y) ∧
      (b = true ↔ ∃ v ∈ vs, Accepts e ps (ofValue name v)) := by
  obtain ⟨xs, hxs, hcases⟩ := ofValue_list_iff.mp hx
  have hitems : List.Forall₂ (fun v y => ofValue name v = .ok y) vs xs :=
    (ofItems_eq_ok_iff.mp hxs).imp fun v y hvy => (ofItem_eq_ok_iff.mp hvy).2
  refine ⟨exists_built hitems, ?_⟩
  rw [exists_accepts_iff hitems]
  rcases hcases with rfl | ⟨h2, rfl⟩
  -- the only item stands for itself
  · simp [hb]
  rcases anyOf_cases xs with ⟨pss, hpss, heq⟩ | heq
  -- words are merged, and anything else is kept apart
  · rw [heq] at hb
    obtain ⟨hall, hsingle⟩ := hm xs pss h2 hxs hpss
    exact eq_true_iff_of_merged hpss hall hsingle hb
  · rw [heq] at hb
    exact Expr.eq_true_iff_of_matchesEntry_or e ps hb

/-! ### Mappings -/

/-- **A mapping matches as all of its fields do.** -/
theorem eq_true_iff_of_map (hx : ofValue name (.map es) = .ok x)
    (hb : x.matchesEntry e ps = .ok b) :
    (∀ f ∈ es, ∃ y, ofValue name (.map [f]) = .ok y) ∧
      (b = true ↔ ∀ f ∈ es, Accepts e ps (ofValue name (.map [f]))) := by
  obtain ⟨ss, hss, hcases⟩ := ofMap_eq_ok_iff.mp hx
  have hfields : List.Forall₂ (fun f y => ofValue name (.map [f]) = .ok y) es
      (ss.map .search) := by
    rw [List.forall₂_map_right_iff]
    refine (ofFields_eq_ok_iff.mp hss).imp fun f s hfs => ?_
    exact ofMap_eq_ok_iff.mpr
      ⟨[s], ofFields_eq_ok_iff.mpr (.cons hfs .nil), .inl ⟨s, rfl, rfl⟩⟩
  refine ⟨exists_built hfields, ?_⟩
  rw [forall_accepts_iff hfields]
  rcases hcases with ⟨s, rfl, rfl⟩ | ⟨-, rfl⟩
  · simp [hb]
  · exact Expr.eq_true_iff_of_matchesEntry_and e ps hb

/-! ### Conditions -/

/-- The block with a single condition. -/
def withCondition (es : Entries) (c : String) : Value :=
  .map (Entries.put es (.text conditionKey) (.text c))

theorem conditions_put (es : Entries) (v : Value) :
    conditions (Entries.put es (.text conditionKey) v) = v.texts := by
  rw [conditions, Entries.get?_put_text]
  rfl

/-- A name that is written does not change whether there is another one. -/
theorem has_put_of_ne {m n : String} (hmn : m ≠ n) (es : Entries) (v : Value) :
    Entries.has (Entries.put es (.text m) v) (.text n) = Entries.has es (.text n) := by
  induction es with
  | nil => simp [Entries.put, Entries.has, Value.sameKey, hmn]
  | cons f es ih =>
    rw [Entries.put]
    split
    · rfl
    · simp only [Entries.has, List.any_cons] at ih ⊢
      rw [ih]

/-- The condition of a block is no search identifier. -/
theorem filter_isIdentifier_put (es : Entries) (v : Value) :
    (Entries.put es (.text conditionKey) v).filter (fun f => isIdentifier f.1)
      = es.filter fun f => isIdentifier f.1 := by
  induction es with
  | nil => rfl
  | cons f es ih =>
    rw [Entries.put]
    split
    case isTrue hkey =>
      have hf : isIdentifier f.1 = false := by simp [isIdentifier, hkey]
      rw [List.filter_cons_of_neg (by simp [hf]), List.filter_cons_of_neg (by simp [hf])]
    case isFalse => rw [List.filter_cons, List.filter_cons, ih]

/-- **A detection matches as it does with one of its conditions.** -/
theorem eq_true_iff_of_build (hx : build (.map es) = .ok x) (hb : x.matchesEntry e ps = .ok b) :
    (∀ c ∈ conditions es, ∃ y, build (withCondition es c) = .ok y) ∧
      (b = true ↔ ∃ c ∈ conditions es, Accepts e ps (build (withCondition es c))) := by
  obtain ⟨table, xs, htime, hnames, htable, hxs, hcases⟩ := build_map_iff.mp hx
  have hconditions : List.Forall₂ (fun c y => build (withCondition es c) = .ok y)
      (conditions es) xs := by
    refine (ofConditions_eq_ok_iff.mp hxs).imp fun c y hcy => ?_
    -- the table of identifiers is the same, whatever the condition
    refine build_map_iff.mpr ⟨table, [y], ?_, ?_, ?_, ?_, .inl rfl⟩
    · rw [has_put_of_ne (by decide), htime]
    · rw [namesAreWritable, filter_isIdentifier_put]
      exact hnames
    · rw [namedValues, filter_isIdentifier_put]
      exact htable
    · rw [conditions_put]
      exact ofConditions_eq_ok_iff.mpr (.cons hcy .nil)
  refine ⟨exists_built hconditions, ?_⟩
  rw [exists_accepts_iff hconditions]
  rcases hcases with rfl | ⟨-, rfl⟩
  · simp [hb]
  · exact Expr.eq_true_iff_of_matchesEntry_or e ps hb

/-! ### Values and detections -/

/-- **The builder is compositional.**  The items of a list that can be built can be built on their
own, and if matching has an answer, the list matches if and only if one of its items does, as long
as merging words changes nothing.  A mapping matches if and only if each of its fields does on its
own, and a block with conditions if and only if it does with one of them alone. -/
theorem built_matches_as_parts (e : Entry) (ps : Placeholders) :
    (∀ name vs x b, ofValue name (.list vs) = .ok x → MergeableItems name vs →
      x.matchesEntry e ps = .ok b →
      (∀ v ∈ vs, ∃ y, ofValue name v = .ok y) ∧
        (b = true ↔ ∃ v ∈ vs, Accepts e ps (ofValue name v))) ∧
    (∀ name es x b, ofValue name (.map es) = .ok x → x.matchesEntry e ps = .ok b →
      (∀ f ∈ es, ∃ y, ofValue name (.map [f]) = .ok y) ∧
        (b = true ↔ ∀ f ∈ es, Accepts e ps (ofValue name (.map [f])))) ∧
    ∀ es x b, build (.map es) = .ok x → x.matchesEntry e ps = .ok b →
      (∀ c ∈ conditions es, ∃ y, build (withCondition es c) = .ok y) ∧
        (b = true ↔ ∃ c ∈ conditions es, Accepts e ps (build (withCondition es c))) := by
  refine ⟨?_, ?_, ?_⟩
  · intro name vs x b hx hm hb
    exact eq_true_iff_of_list hx hm hb
  · intro name es x b hx hb
    exact eq_true_iff_of_map hx hb
  · intro es x b hx hb
    exact eq_true_iff_of_build hx hb

/-- The statement at words of which some stand under an empty key, at two fields, and at two
conditions of which the second one matches. -/
theorem sample_matches_as_parts :
    let vs : List Value := [.text "foo", .map [(.text "", .list [.text "b?r", .bool true])]]
    let fs : Entries := [(.text "User", .text "root"), (.text "Id|startswith", .int 4)]
    let es : Entries := [(.text "fields", .map fs), (.text "words", .list vs),
      (.text "condition", .list [.text "not words", .text "all of *"])]
    let e : Entry := ⟨"a BAR", [("id", "4688"), ("user", "ROOT")]⟩
    MergeableItems "words" vs ∧
      (∃ x, ofValue "words" (.list vs) = .ok x ∧ x.matchesEntry e [] = .ok true) ∧
      (∃ v ∈ vs, Accepts e [] (ofValue "words" v)) ∧
      (∃ x, ofValue "fields" (.map fs) = .ok x ∧ x.matchesEntry e [] = .ok true) ∧
      (∀ f ∈ fs, Accepts e [] (ofValue "fields" (.map [f]))) ∧
      (∃ x, build (.map es) = .ok x ∧ x.matchesEntry e [] = .ok true) ∧
      ∃ c ∈ conditions es, Accepts e [] (build (withCondition es c)) := by
  intro vs fs es e
  let words : Expr := .search (keywords ["foo", "b?r", "true"])
  let fields : Expr := .and [.search ⟨some "User", [], ["root"]⟩,
    .search ⟨some "Id", [.startswith], ["4"]⟩]
  let block : Expr := .or [.not (.named "words" words),
    .and [.named "fields" fields, .named "words" words]]
  have hm : MergeableItems "words" vs := by
    intro xs pss _ hxs hpss
    obtain rfl : [.search (keywords ["foo"]), .search ⟨none, [], ["b?r", "true"]⟩] = xs :=
      Except.ok.inj hxs
    rcases hpss with - | ⟨hp, - | ⟨hq, - | -⟩⟩
    obtain rfl := Option.some.inj hp
    obtain rfl := Option.some.inj hq
    have hplane : ∀ p ∈ ["foo", "b?r", "true"], ∀ c ∈ p.toList, c.toNat < 0x10000 := by simp
    refine ⟨mergeable_of_plane hplane, fun qs hqs => mergeable_of_plane fun p hp => ?_⟩
    exact hplane p (List.mem_flatten.mpr ⟨qs, hqs, hp⟩)
  have hwords : ofValue "words" (.list vs) = .ok words := by rfl
  have hfields : ofValue "fields" (.map fs) = .ok fields := by rfl
  have hblock : build (.map es) = .ok block := by decide +kernel
  have hwords' : words.matchesEntry e [] = .ok true := by decide +kernel
  have hfields' : fields.matchesEntry e [] = .ok true := by decide +kernel
  have hblock' : block.matchesEntry e [] = .ok true := by decide +kernel
  obtain ⟨hlist, hmap, hconditions⟩ := built_matches_as_parts e []
  exact ⟨hm, ⟨words, hwords, hwords'⟩, (hlist _ _ _ _ hwords hm hwords').2.mp rfl,
    ⟨fields, hfields, hfields'⟩, (hmap _ _ _ _ hfields hfields').2.mp rfl,
    ⟨block, hblock, hblock'⟩, (hconditions _ _ _ hblock hblock').2.mp rfl⟩

/-- Two words of one letter become a set, in which a capital beyond the basic plane is never found,
while on its own it is. -/
theorem merged_words_miss_capital :
    let e : Entry := { message := "𐐀" }
    ofValue "s" (.list [.text "𐐀", .text "b"]) = .ok (.search (keywords ["𐐀", "b"])) ∧
      (Expr.search (keywords ["𐐀", "b"])).matchesEntry e [] = .ok false ∧
      ofValue "s" (.text "𐐀") = .ok (.search (keywords ["𐐀"])) ∧
      (Expr.search (keywords ["𐐀"])).matchesEntry e [] = .ok true := by
  exact ⟨rfl, by decide +kernel, rfl, by decide +kernel⟩

end SigmaRules.Detection
