/-
SigmaRules/Proofs/Search/MoreValues.lean

More values for placeholders.  A search with `expand` looks for any value of the
placeholders that it names, so with more values it finds more (`matchesText_of_subset`), and
an expression without negations still matches what it has matched
(`more_values_keep_match`).

There is one exception.  All values are looked for as one expression, and a word that was
looked for on its own may become a member of a set with the others: where they differ from
it in the last character only.  If that character is a capital beyond the basic plane, the
set misses it (`LoneWordStays` says that it is none).  Words that were members of a set before
had been missed before.

Values that are no blocks of addresses are passed over, so they do no harm to the others.
-/
import SigmaRules.Proofs.Expr.Positive
import SigmaRules.Proofs.Regex.Widening
import SigmaRules.Proofs.Search.AnyPattern

namespace SigmaRules

open Regex Pattern

namespace Search

/-! ### Words that are all the same -/

/-- If the old words are all the same and end with a certain character, and the new words have
others in its place, it is no capital beyond the basic plane.  This is asked only where the new
words are merged to a set: where no star comes before, and the last characters are no wildcards
and are not all this one. -/
def LoneWordStays (old new : List String) : Prop :=
  ∀ (start : List Char) (c : Char) (ends : List Char), '*' ∉ start →
    old ≠ [] → (∀ p ∈ old, p.toList = start ++ [c]) →
    new.map String.toList = ends.map (start ++ [·]) → (∀ d ∈ ends, d ≠ '*' ∧ d ≠ '?') →
    (∃ d ∈ ends, d ≠ c) → c.toNat < 0x10000 ∨ Text.lowerCode c.toNat = c.toNat

/-- Words of different lengths are not merged. -/
theorem loneWordStays_of_length {old new : List String} {p q : String} (hp : p ∈ new) (hq : q ∈ new)
    (hpq : p.toList.length ≠ q.toList.length) : LoneWordStays old new := by
  intro start c ends _ _ _ hnew _ _
  have hlength : ∀ r ∈ new, r.toList.length = start.length + 1 := by
    intro r hr
    obtain ⟨d, -, hd⟩ := List.mem_map.mp (hnew ▸ List.mem_map_of_mem hr)
    rw [← hd, List.length_append, List.length_singleton]
  exact absurd ((hlength p hp).trans (hlength q hq).symm) hpq

/-- The nodes of a word whose matches may end anywhere. -/
def wordNodes (startFree : Bool) (p : String) : List Node :=
  startNodes startFree ++ p.toList.map globNode

section Words

variable {free : Bool} {old new : List String}

theorem isFolded_wordNodes (p : String) : ∀ n ∈ wordNodes free p, n.IsFolded := by
  rw [wordNodes, List.forall_mem_append]
  constructor
  · rcases free <;> simp [startNodes, Node.IsFolded]
  · refine List.forall_mem_map.mpr fun c _ => ?_
    rw [globNode]
    split
    · trivial
    split
    · trivial
    · rfl

/-- A word is read as the nodes of all but its last character, and the node of that. -/
theorem exists_of_wordNodes {p : String} {start : List Node} {u : CharTest}
    (h : wordNodes free p = start ++ [.char u]) : ∃ (inner : List Char) (c : Char),
      p.toList = inner ++ [c] ∧ startNodes free ++ inner.map globNode = start ∧
        globNode c = .char u := by
  rw [wordNodes] at h
  rcases List.eq_nil_or_concat p.toList with hp | ⟨inner, c, hp⟩
  -- an anchor is no character
  · rcases free with - | -
    · have hlast := congrArg List.getLast? h
      simp [hp, startNodes] at hlast
    · simp [hp, startNodes] at h
  · rw [List.concat_eq_append] at hp
    rw [hp, List.map_append, ← List.append_assoc] at h
    obtain ⟨hstart, hlast⟩ := List.append_inj' h rfl
    exact ⟨inner, c, hp, hstart, (List.cons.inj hlast).1⟩

/-- Words that are merged to a set differ in their last characters only, and none of these is a
wildcard. -/
theorem exists_ends_of_merged {inner : List Char} {tests : List CharTest}
    (hm : Merged (startNodes free ++ inner.map globNode) tests)
    (hends : endings (startNodes free ++ inner.map globNode) tests = new.map (wordNodes free)) :
    ∃ ends : List Char, new.map String.toList = ends.map (inner ++ [·]) ∧
      (∀ d ∈ ends, d ≠ '*' ∧ d ≠ '?') ∧ tests = ends.map fun d => .literal .fold d.toNat := by
  have hword : ∀ p ∈ new, ∃ d, inner ++ [d] = p.toList := by
    intro p hp
    have hmem : wordNodes free p ∈ endings _ tests := hends ▸ List.mem_map_of_mem hp
    obtain ⟨u, -, hu⟩ := List.mem_map.mp hmem
    obtain ⟨inner', d, hpd, hstart, -⟩ := exists_of_wordNodes hu.symm
    have hsame := List.map_injective_iff.mpr globNode_injective (List.append_cancel_left hstart)
    exact ⟨d, hsame ▸ hpd.symm⟩
  obtain ⟨ends, hnew⟩ : new.map String.toList ∈ Set.range (List.map (inner ++ [·])) := by
    rw [Set.range_list_map]
    exact List.forall_mem_map.mpr hword
  -- the tests are the nodes of the last characters
  have htests : tests.map Node.char = ends.map globNode := by
    have hnodes : new.map (wordNodes free)
        = (new.map String.toList).map (startNodes free ++ ·.map globNode) := by
      rw [List.map_map]
      rfl
    apply List.map_injective_iff.mpr
      (List.append_right_injective (startNodes free ++ inner.map globNode)
        |>.comp (List.singleton_injective))
    rw [hnodes, ← hnew] at hends
    simpa [endings, Function.comp_def] using hends
  have hset : ∀ d ∈ ends, (d ≠ '*' ∧ d ≠ '?') ∧ globNode d = .char (.literal .fold d.toNat) := by
    intro d hd
    obtain ⟨u, hu, hud⟩ := List.mem_map.mp (htests ▸ List.mem_map_of_mem (f := globNode) hd)
    exact of_isSome_oneCharItems? (hud ▸ hm.sets u hu)
  refine ⟨ends, hnew.symm, fun d hd => (hset d hd).1, ?_⟩
  apply List.map_injective_iff.mpr (fun _ _ => Node.char.inj)
  rw [htests, List.map_map]
  exact List.map_congr_left fun d hd => (hset d hd).2

/-- The character that the old words all end with is foldable, if it becomes a member of a set. -/
theorem isFoldable_of_loneWord (h : LoneWordStays old new) (hne : old ≠ []) (hsub : old ⊆ new)
    {start : List Node} {tests : List CharTest} (hm : Merged start tests)
    (hends : endings start tests = new.map (wordNodes free)) {t : CharTest}
    (hold : ∀ p ∈ old, wordNodes free p = start ++ [.char t]) : t.IsFoldable := by
  obtain ⟨p, hp⟩ := List.exists_mem_of_ne_nil old hne
  obtain ⟨inner, c, hpc, rfl, hc⟩ := exists_of_wordNodes (hold p hp)
  obtain ⟨ends, hnew, hwild, rfl⟩ := exists_ends_of_merged hm hends
  have hlast : ∀ q ∈ old, q.toList = inner ++ [c] := by
    intro q hq
    have hsame : wordNodes free q = wordNodes free p := (hold q hq).trans (hold p hp).symm
    rw [← hpc]
    exact List.map_injective_iff.mpr globNode_injective (List.append_cancel_left hsame)
  have hcends : c ∈ ends := by
    obtain ⟨d, hd, hdc⟩ := List.mem_map.mp (hnew ▸ List.mem_map_of_mem (hsub hp))
    obtain rfl : d = c := by simpa [hpc] using hdc
    exact hd
  obtain rfl : t = .literal .fold c.toNat := by
    rw [globNode, if_neg (hwild c hcends).1, if_neg (hwild c hcends).2] at hc
    exact (Node.char.inj hc).symm
  have hstar : '*' ∉ inner := by
    intro hmem
    have hleaf := hm.leaves _ (List.mem_append_right _ (List.mem_map_of_mem (f := globNode) hmem))
    cases hleaf
  have hdiffer : ∃ d ∈ ends, d ≠ c := by
    by_contra hall
    push Not at hall
    obtain ⟨u, hu, v, hv, hne⟩ := hm.differ
    obtain ⟨a, ha, rfl⟩ := List.mem_map.mp hu
    obtain ⟨b, hb, rfl⟩ := List.mem_map.mp hv
    exact hne (by rw [hall a ha, hall b hb])
  exact ⟨rfl, h inner c ends hstar hne hlast hnew hwild hdiffer⟩

/-- **More words lose no match**, if a lone one stays. -/
theorem search_words_of_subset (h : LoneWordStays old new) (hne : old ≠ []) (hsub : old ⊆ new)
    {v : List Char}
    (hmatch : (Node.ofList (joinAlternatives .fold (old.map (wordNodes free)))).search v = true) :
    (Node.ofList (joinAlternatives .fold (new.map (wordNodes free)))).search v = true := by
  rw [Node.search_iff] at hmatch ⊢
  obtain ⟨x, y, s', hxy, hs⟩ := hmatch
  refine ⟨x, y, s', hxy, mem_ways_join_of_subset (by simpa using hne) (List.map_subset _ hsub)
    ?_ ?_ hs⟩
  · exact List.forall_mem_map.mpr fun p _ => isFolded_wordNodes p
  · intro start tests hm hends t hold
    exact isFoldable_of_loneWord h hne hsub hm hends (List.forall_mem_map.mp hold)

end Words

/-! ### Searches for more values -/

/-- The search is for globs as they are written, and their matches may end anywhere. -/
def LooksForWords (s : Search) : Prop :=
  (s.fieldName? = none ∨ .contains ∈ s.modifiers ∨ .startswith ∈ s.modifiers) ∧
    ∀ m ∈ [Modifier.cidr, .base64, .base64offset, .windash], m ∉ s.modifiers

/-- If the search looks for words, the values under the first placeholders are no lone word that a
set would miss among those under the second. -/
def KeepsLoneWord (s : Search) (ps qs : Placeholders) : Prop :=
  s.LooksForWords → LoneWordStays (s.resolve ps) (s.resolve qs)

section Values

variable {s : Search} {ps qs : Placeholders} {old new : List String}

theorem matchesText_joined (hcidr : .cidr ∉ s.modifiers) (hre : .re ∉ s.modifiers)
    (hall : .all ∉ s.modifiers) (patterns : List String) (value : String) :
    s.matchesText patterns value = .ok ((Node.ofList (joinAlternatives .fold
      (patterns.map (patternNodes s.modifiers s.field)))).search value.toList) := by
  have hread := parse_patterns hre s.field patterns
  simp [matchesText, has, hcidr, sources, hall, matchesAllOf, readRegex, hread, bind, Except.bind,
    pure, Except.pure]

theorem patternNodes_of_words (h : s.LooksForWords) (p : String) :
    patternNodes s.modifiers s.field p = wordNodes (startFree s.modifiers s.field) p := by
  obtain ⟨hfree, hm⟩ := h
  simp only [List.forall_mem_cons, List.not_mem_nil, false_implies, implies_true, and_true] at hm
  obtain ⟨-, hbase64, hoffset, hwindash⟩ := hm
  rw [patternNodes_eq hoffset, (endFree_iff s).mpr hfree, plainNodes,
    if_neg (by simpa using hwindash), if_neg (by simpa using hbase64), endNodes, if_pos rfl,
    List.append_nil, wordNodes]

/-- Patterns that are no words are found as they are on their own, since none that a set would miss
are merged. -/
theorem search_patterns_iff (h : ¬ s.LooksForWords) (hcidr : .cidr ∉ s.modifiers)
    {patterns : List String} (hne : patterns ≠ []) (v : List Char) :
    (Node.ofList (joinAlternatives .fold
        (patterns.map (patternNodes s.modifiers s.field)))).search v = true ↔
      ∃ ns ∈ patterns.map (patternNodes s.modifiers s.field), (Node.ofList ns).search v = true := by
  have hjoinable : ({ s with patterns } : Search).Joinable := fun hfree hm => absurd ⟨hfree, hm⟩ h
  exact search_joined_iff (by simpa using hne) (fun shared tails halts hset hdiffer =>
    isFoldable_of_joinable hset hdiffer hjoinable hcidr halts) v

/-- **More values lose no match** of a search that looks for any of them. -/
theorem matchesText_of_subset (hre : .re ∉ s.modifiers) (hall : .all ∉ s.modifiers)
    (hsub : s.resolve ps ⊆ s.resolve qs) (hne : s.resolve ps ≠ []) (h : s.KeepsLoneWord ps qs)
    {value : String} (hmatch : s.matchesText (s.resolve ps) value = .ok true) :
    s.matchesText (s.resolve qs) value = .ok true := by
  by_cases hcidr : .cidr ∈ s.modifiers
  · rw [matchesText_networks hcidr, Except.ok.injEq, matchesNetworks_iff] at hmatch ⊢
    obtain ⟨p, hp, hmatch⟩ := hmatch
    exact ⟨p, hsub hp, hmatch⟩
  rw [matchesText_joined hcidr hre hall, Except.ok.injEq] at hmatch ⊢
  by_cases hwords : s.LooksForWords
  · rw [funext (patternNodes_of_words hwords)] at hmatch ⊢
    exact search_words_of_subset (h hwords) hne hsub hmatch
  · obtain ⟨ns, hns, hmatch⟩ := (search_patterns_iff hwords hcidr hne _).mp hmatch
    have hne' : s.resolve qs ≠ [] := List.ne_nil_of_mem (hsub (List.head_mem hne))
    exact (search_patterns_iff hwords hcidr hne' _).mpr ⟨ns, List.map_subset _ hsub hns, hmatch⟩

/-- A search whose patterns are taken as they are does not see the placeholders. -/
theorem succeeds_eq_of_not_expand (hexpand : .expand ∉ s.modifiers) (e : Entry) :
    s.succeeds e ps = s.succeeds e qs := by
  simp only [succeeds, resolve_of_not_expand hexpand]

/-- To compare the values of two tables, it is enough to look at the rows of the first. -/
theorem values_subset_of_rows (h : ∀ row ∈ ps, ps.values row.1 ⊆ qs.values row.1) (name : String) :
    ps.values name ⊆ qs.values name := by
  rcases hname : List.lookup name ps with - | vs
  · simp [Placeholders.values, hname]
  · obtain ⟨before, after, rfl, -⟩ := List.lookup_eq_some_iff.mp hname
    exact h (name, vs) (by simp)

/-- Placeholders with more values stand for more patterns. -/
theorem resolve_subset (h : ∀ name, ps.values name ⊆ qs.values name) (s : Search) :
    s.resolve ps ⊆ s.resolve qs := by
  rw [resolve, resolve]
  split
  · intro v hv
    obtain ⟨p, hp, hv⟩ := List.mem_flatMap.mp hv
    exact List.mem_flatMap.mpr ⟨p, hp, h _ hv⟩
  · exact List.Subset.refl _

/-- A search that has matched still does with more values. -/
theorem succeeds_of_subset (h : ∀ name, ps.values name ⊆ qs.values name)
    (hs : .expand ∈ s.modifiers → .re ∉ s.modifiers ∧ .all ∉ s.modifiers ∧ s.KeepsLoneWord ps qs)
    {e : Entry} (hmatch : s.succeeds e ps = .ok true) : s.succeeds e qs = .ok true := by
  by_cases hexpand : .expand ∈ s.modifiers
  · obtain ⟨hre, hall, hkeeps⟩ := hs hexpand
    obtain ⟨k, hk, hne⟩ : ∃ k, s.kind = .ok k ∧ s.resolve ps ≠ [] := by
      rw [succeeds] at hmatch
      split at hmatch
      case h_1 => cases hmatch
      case h_2 => cases hmatch
      case h_3 k hk =>
        refine ⟨k, hk, fun hnil => ?_⟩
        simp [hnil] at hmatch
    have hsub := resolve_subset h s
    rw [succeeds_eq_of_resolve hk hne] at hmatch
    rw [succeeds_eq_of_resolve hk (List.ne_nil_of_mem (hsub (List.head_mem hne)))]
    exact matchesText_of_subset hre hall hsub hne hkeeps hmatch
  · rwa [← succeeds_eq_of_not_expand hexpand]

end Values

end Search

/-! ### Expressions -/

/-- **More values of placeholders lose no match.**  Let an expression without negations match an
entry, in a brief or a full evaluation, and let every value that a placeholder has be one of its
values in a second table, in whatever order and with whatever others.  Then the expression does not
answer no under the second table, if its searches with `expand` have neither `re` nor `all`, and
their lone words stay.  And it matches under it if there is an answer: after a full evaluation
always, and after a brief one if no regular expression has a count beyond what can be read. -/
theorem more_values_keep_match {x : Expr} {e : Entry} {ps qs : Placeholders} {brief : Bool}
    (hx : x.isPositive = true) (hmore : ∀ name, ps.values name ⊆ qs.values name)
    (hs : ∀ s ∈ x.searches, .expand ∈ s.modifiers →
      .re ∉ s.modifiers ∧ .all ∉ s.modifiers ∧ s.KeepsLoneWord ps qs)
    (h : x.answer ⟨e, ps, brief⟩ = .ok true) :
    x.answer ⟨e, qs, brief⟩ ≠ .ok false ∧
      ((brief = true → ∀ s ∈ x.searches, s.CountsFit qs) →
        x.answer ⟨e, qs, brief⟩ = .ok true) := by
  have hno : x.answer ⟨e, qs, brief⟩ ≠ .ok false :=
    Expr.answer_ne_false hx (fun s hmem => Search.succeeds_of_subset hmore (hs s hmem)) h
  refine ⟨hno, fun hfit => ?_⟩
  have hanswers : ∀ s ∈ x.searches, ∃ b, s.succeeds e qs = .ok b := by
    intro s hmem
    have hanswer : s.CountsFit qs → ∃ b, s.succeeds e qs = .ok b := fun hcounts =>
      (Search.exists_succeeds hcounts e).imp fun _ => And.left
    rcases brief with - | -
    · by_cases hexpand : .expand ∈ s.modifiers
      · exact hanswer fun hre => absurd hre (hs s hmem hexpand).1
      -- the full evaluation has asked the search
      · rw [Expr.answer_eq] at h
        obtain ⟨o, ho, -⟩ := exists_of_map_eq_ok h
        rw [← Search.succeeds_eq_of_not_expand hexpand]
        exact Expr.exists_succeeds_of_outcome ho s hmem
    · exact hanswer (hfit rfl s hmem)
  obtain ⟨b, hb⟩ := Expr.exists_answer hanswers brief
  rcases b with - | -
  · exact absurd hb hno
  · exact hb

/-- The statement at two placeholders: one has a capital beyond the basic plane and gets a longer
word, the other gets a block of another family and a value that is no block. -/
theorem sample_more_values :
    let home : Search := ⟨some "Ip", [.expand, .cidr], ["%Net%"]⟩
    let twice : Search := ⟨none, [.re], ["^b\x7b2\x7d$"]⟩
    let who : Search := ⟨none, [.expand], ["%Who%"]⟩
    let x : Expr := .and [.named "home" (.search home), .or [.search twice, .search who]]
    let e : Entry := { message := "run by 𐐨", fields := [("Ip", "10.1.2.3")] }
    let ps : Placeholders := [("Who", ["𐐀"]), ("Net", ["10.0.0.0/8"])]
    let qs : Placeholders := [("Net", ["router", "10.0.0.0/8", "::/0"]), ("Who", ["bob", "𐐀"])]
    x.isPositive = true ∧ (∀ name, ps.values name ⊆ qs.values name) ∧
      (∀ s ∈ x.searches, .expand ∈ s.modifiers →
        .re ∉ s.modifiers ∧ .all ∉ s.modifiers ∧ s.KeepsLoneWord ps qs) ∧
      (∀ s ∈ x.searches, s.CountsFit qs) ∧
      x.answer ⟨e, ps, true⟩ = .ok true ∧ x.answer ⟨e, qs, true⟩ = .ok true := by
  intro home twice who x e ps qs
  have hx : x.isPositive = true := rfl
  have hmore : ∀ name, ps.values name ⊆ qs.values name :=
    Search.values_subset_of_rows (by decide +kernel)
  have hsearches : x.searches = [home, twice, who] := rfl
  have hhome : home.KeepsLoneWord ps qs := fun hwords =>
    absurd (hwords.2 .cidr (by simp)) (by decide)
  have hwho : who.KeepsLoneWord ps qs := by
    have hresolve : who.resolve qs = ["bob", "𐐀"] := by decide +kernel
    intro _
    rw [hresolve]
    exact Search.loneWordStays_of_length (p := "bob") (q := "𐐀") (by simp) (by simp) (by decide)
  have hs : ∀ s ∈ x.searches, .expand ∈ s.modifiers →
      .re ∉ s.modifiers ∧ .all ∉ s.modifiers ∧ s.KeepsLoneWord ps qs := by
    simp only [hsearches, List.forall_mem_cons, List.not_mem_nil, false_implies, implies_true]
    exact ⟨fun _ => ⟨by decide, by decide, hhome⟩, fun h => absurd h (by decide),
      fun _ => ⟨by decide, by decide, hwho⟩, trivial⟩
  have hfit : ∀ s ∈ x.searches, s.CountsFit qs := by
    simp only [hsearches, List.forall_mem_cons, List.not_mem_nil, false_implies, implies_true]
    exact ⟨fun h => absurd h (by decide), fun _ => by decide, fun h => absurd h (by decide), trivial⟩
  have hmatch : x.answer ⟨e, ps, true⟩ = .ok true := by decide +kernel
  exact ⟨hx, hmore, hs, hfit, hmatch, (more_values_keep_match hx hmore hs hmatch).2 fun _ => hfit⟩

/-- A second value loses the match of the first: both are one character, and are merged to a set,
which misses a capital beyond the basic plane. -/
theorem second_value_loses_match :
    let s : Search := ⟨none, [.expand], ["%V%"]⟩
    let x : Expr := .search s
    let e : Entry := { message := "𐐀" }
    let ps : Placeholders := [("V", ["𐐀"])]
    let qs : Placeholders := [("V", ["𐐀", "b"])]
    x.isPositive = true ∧ .re ∉ s.modifiers ∧ .all ∉ s.modifiers ∧
      (∀ name, ps.values name ⊆ qs.values name) ∧
      x.answer ⟨e, ps, true⟩ = .ok true ∧ x.answer ⟨e, qs, true⟩ = .ok false := by
  intro s x e ps qs
  exact ⟨rfl, by decide, by decide, Search.values_subset_of_rows (by decide +kernel),
    by decide +kernel, by decide +kernel⟩

/-- With more values a conjunction gets as far as a search that has no answer. -/
example :
    let x : Expr := .or [
      .and [.search ⟨none, [.expand], ["%V%"]⟩, .search ⟨none, [.re], ["a\x7b4294967295\x7d"]⟩],
      .search ⟨none, [], ["a"]⟩]
    x.answer ⟨{ message := "a" }, [], true⟩ = .ok true ∧
      x.answer ⟨{ message := "a" }, [("V", ["a"])], true⟩ = .error .countTooLarge := by
  exact ⟨by decide +kernel, by decide +kernel⟩

end SigmaRules
