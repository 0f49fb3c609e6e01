/-
SigmaRules/Proofs/Search/RegexList.lean

Searches for lists of regular expressions.  The patterns are read one by one
when a search is checked, but they are looked for as one expression.  A list
means that any of its patterns matches (`succeeds_regexes_iff`) as long as the
patterns are independent of each other: no pattern refers by number to groups
of which there are any in a pattern before it, no two of them use one name,
and they are not merged to a set that misses a capital beyond the basic plane
(`Independent`).

Otherwise a list can miss what a single one of its patterns matches
(`regexes_miss_back_reference`).
-/
import SigmaRules.Proofs.Regex.Alternation
import SigmaRules.Proofs.Regex.Merging
import SigmaRules.Proofs.Search.Answering

namespace SigmaRules

namespace Regex

/-! ### Ways of joined expressions -/

/-- The alternatives without the numbers of their groups. -/
def unnumbered (alts : List (List Node)) : List (List Node) :=
  alts.map (List.map (Node.rename fun _ => 0))

/-- Whether alternatives are merged to a set does not depend on the numbers of groups. -/
theorem JoinsAlike.of_unnumbered {alts : List (List Node)} (h : JoinsAlike (unnumbered alts)) :
    JoinsAlike alts := by
  rw [joinsAlike_iff] at h ⊢
  rintro start tests hm rfl t ht
  have hleaves : ∀ n ∈ start.map (Node.rename fun _ => 0), n.isLeaf = true :=
    List.forall_mem_map.mpr fun n hn => (Node.isLeaf_rename _ n).trans (hm.leaves n hn)
  refine h _ tests ⟨hleaves, hm.sets, hm.differ⟩ ?_ t ht
  simp [endings, unnumbered]

theorem Gathered.unnumbered_eq {qs : List Reading} {alts : List (List Node)}
    (h : Gathered qs alts) : unnumbered alts = qs.flatMap fun q => unnumbered q.top.alternatives := by
  induction h with
  | nil => rfl
  | cons hσ h ih =>
    rw [List.flatMap_cons, ← ih]
    simp [unnumbered, Function.comp_def, Node.rename_rename]

/-- Before anything is matched, no groups have passed, so numbers do not matter. -/
theorem State.rename_between (σ : Nat → Nat) (x y : List Char) :
    (State.between x y).rename σ = .between x y := rfl

/-- From the start of a match, an expression under other numbers matches if the expression does. -/
theorem exists_way_rename_iff {σ : Nat → Nat} (hσ : Function.Injective σ) (n : Node)
    (x y : List Char) :
    (∃ s', s' ∈ (n.rename σ).ways (.between x y)) ↔ ∃ s', s' ∈ n.ways (.between x y) := by
  have hways := Node.ways_rename hσ n (.between x y)
  rw [State.rename_between] at hways
  simp [hways]

/-- **Joined expressions are found** where one of them is. -/
theorem search_join_iff {qs : List Reading} {alts : List (List Node)} (h : Gathered qs alts)
    (hne : alts ≠ []) (hrule : ∀ q ∈ qs, q.top.flags.caseRule = .fold)
    (hjoined : JoinsAlike (qs.flatMap fun q => unnumbered q.top.alternatives))
    (hown : ∀ q ∈ qs, JoinsAlike (unnumbered q.top.alternatives)) (v : List Char) :
    (Node.ofList (joinAlternatives .fold alts)).search v = true ↔
      ∃ q ∈ qs, (Node.ofList q.top.content).search v = true := by
  have hjoin : ∀ s s', s' ∈ (Node.ofList (joinAlternatives .fold alts)).ways s ↔
      ∃ ns ∈ alts, s' ∈ (Node.ofList ns).ways s := fun s s' =>
    (JoinsAlike.of_unnumbered (h.unnumbered_eq ▸ hjoined)).mem_ways_iff hne
  -- an expression on its own is the join of its alternatives
  have hsingle : ∀ q ∈ qs, ∀ s s', s' ∈ (Node.ofList q.top.content).ways s ↔
      ∃ ms ∈ q.top.alternatives, s' ∈ (Node.ofList ms).ways s := by
    intro q hq s s'
    rw [Frame.content, hrule q hq]
    exact (hown q hq).of_unnumbered.mem_ways_iff (by simp [Frame.alternatives])
  simp only [Node.search_iff]
  constructor
  · rintro ⟨x, y, s', hv, hs'⟩
    obtain ⟨ns, hns, hs'⟩ := (hjoin _ _).mp hs'
    obtain ⟨q, hq, ms, hms, σ, hσ, rfl⟩ := h.exists_of_mem hns
    rw [← Node.rename_ofList] at hs'
    obtain ⟨t, ht⟩ := (exists_way_rename_iff hσ _ x y).mp ⟨s', hs'⟩
    exact ⟨q, hq, x, y, t, hv, (hsingle q hq _ _).mpr ⟨ms, hms, ht⟩⟩
  · rintro ⟨q, hq, x, y, t, hv, ht⟩
    obtain ⟨ms, hms, ht⟩ := (hsingle q hq _ _).mp ht
    obtain ⟨σ, hσ, hns⟩ := h.exists_mem hq hms
    obtain ⟨s', hs'⟩ := (exists_way_rename_iff hσ _ x y).mpr ⟨t, ht⟩
    rw [Node.rename_ofList] at hs'
    exact ⟨x, y, s', hv, (hjoin _ _).mpr ⟨_, hns, hs'⟩⟩

end Regex

namespace Search

open Regex

/-! ### Valid patterns -/

/-- A search for regular expressions is valid if its modifiers are and all patterns can be read. -/
theorem kind_regexes_iff {field : Option String} {modifiers : List Modifier}
    {patterns : List String} (hre : .re ∈ modifiers) (hexpand : .expand ∉ modifiers)
    {k : PatternKind} :
    kind ⟨field, modifiers, patterns⟩ = .ok k ↔
      patterns ≠ [] ∧ checkModifiers [] true .glob modifiers = .ok k ∧
        ∀ p ∈ patterns, ∃ n, parse {} (regexSource p) = .ok n := by
  have hkind : kindOf modifiers = .regex := if_pos hre
  have hfit : ModifiersFit patterns true .glob modifiers ↔ ModifiersFit [] true .glob modifiers := by
    simp [modifiersFit_iff, hexpand]
  rw [kind_eq_ok_iff, checkModifiers_eq_ok_iff, hfit, and_assoc]
  refine and_congr_right fun _ => and_congr_right fun _ => and_congr_right fun hk => ?_
  obtain rfl : .regex = k := hkind.symm.trans hk
  simp [Readable, hexpand]

/-- A group does not end within an escape. -/
theorem tokenize_grouped_ne (e : List Char) (ts : List Token) :
    tokenize (grouped e) ≠ ts ++ [.dangling] := by
  intro h
  have hlast : (tokenize (grouped e)).getLast? = some .dangling := by simp [h]
  rw [grouped] at hlast
  rcases tokenize_append_cons (c := ')') (by decide) ("(?:".toList ++ e) [] with htokens | htokens
  · rw [htokens, tokenize, List.getLast?_concat] at hlast
    cases hlast
  · obtain ⟨us, -, htokens⟩ := htokens
    rw [htokens, tokenize, List.getLast?_concat] at hlast
    cases hlast

/-- A pattern that can be read on its own can be read without regard to letter case. -/
theorem exists_isReadAs_regexSource {p : String} (h : ∃ n, parse {} (regexSource p) = .ok n) :
    ∃ q, IsReadAs { ignoreCase := true } (regexSource p) q ∧
      parse { ignoreCase := true } (regexSource p) = .ok (.ofList q.top.content) ∧
      (Node.ofList q.top.content).lookBehindsFixed = true := by
  obtain ⟨n, hn⟩ := h
  have hagree := parse_agree (f := { ignoreCase := true }) (g := {}) rfl (regexSource p)
  obtain ⟨m, hm, -⟩ := (hn ▸ hagree).exists_ok
  obtain ⟨q, hq, rfl, hfixed⟩ := exists_isReadAs hm (.inr ⟨_, rfl⟩)
    (tokenize_grouped_ne (Pattern.scopeFlags p.toList))
  exact ⟨q, hq, hm, hfixed⟩

/-! ### Lists of patterns -/

/-- What the reader reads of a pattern. -/
def regexConstructs (p : String) : List Construct :=
  constructs { ignoreCase := true } (regexSource p)

/-- The alternatives that a pattern is read as, without the numbers of their groups. -/
def regexAlternatives (p : String) : List (List Node) :=
  match readAll (tokenize (regexSource p)).length (.start { ignoreCase := true })
      (tokenize (regexSource p)) with
  | .ok q => unnumbered q.top.alternatives
  | .error _ => []

/-- The patterns do not see each other's groups, and joining them merges no capital beyond the
basic plane with others to a set.  What a pattern finds on its own is settled by its spans, too. -/
structure Independent (patterns : List String) : Prop where
  apart : patterns.Pairwise fun p q => Apart (regexConstructs p) (regexConstructs q)
  joined : JoinsAlike (patterns.flatMap regexAlternatives)
  own : ∀ p ∈ patterns, JoinsAlike (regexAlternatives p)
  spans : ∀ p ∈ patterns, ∀ n ∈ (parse { ignoreCase := true } (regexSource p)).toOption,
    n.KeepsSpans

instance (patterns : List String) : Decidable (Independent patterns) :=
  decidable_of_iff
    ((patterns.Pairwise fun p q => Apart (regexConstructs p) (regexConstructs q)) ∧
      JoinsAlike (patterns.flatMap regexAlternatives) ∧
      (∀ p ∈ patterns, JoinsAlike (regexAlternatives p)) ∧
      ∀ p ∈ patterns, ∀ n ∈ (parse { ignoreCase := true } (regexSource p)).toOption, n.KeepsSpans)
    ⟨fun h => ⟨h.1, h.2.1, h.2.2.1, h.2.2.2⟩, fun h => ⟨h.apart, h.joined, h.own, h.spans⟩⟩

/-- A search for one regular expression looks for what it is read as. -/
theorem succeeds_single {field : Option String} {modifiers : List Modifier} {p : String}
    {k : PatternKind} {n : Node} (hre : .re ∈ modifiers) (hall : .all ∉ modifiers)
    (hexpand : .expand ∉ modifiers) (hcidr : .cidr ∉ modifiers)
    (hk : kind ⟨field, modifiers, [p]⟩ = .ok k)
    (hn : parse { ignoreCase := true } (regexSource p) = .ok n) (e : Entry) (ps : Placeholders) :
    succeeds ⟨field, modifiers, [p]⟩ e ps
      = .ok (n.search (inspected ⟨field, modifiers, [p]⟩ e).toList) := by
  refine succeeds_of_parse hk (by simp) hexpand hcidr hall ?_ e ps
  simpa [alternatives, expression, hre] using hn

/-- **A list of regular expressions means any of them**, if they are independent of each other.  A
valid search for a list, without `all` and `expand`, always has an answer, and it matches if and
only if one of the searches with the same field and modifiers and just one of its patterns does. -/
theorem succeeds_regexes_iff {s : Search} {k : PatternKind} (hk : s.kind = .ok k)
    (hre : .re ∈ s.modifiers) (hall : .all ∉ s.modifiers) (hexpand : .expand ∉ s.modifiers)
    (h : Independent s.patterns) (e : Entry) (ps : Placeholders) :
    ∃ b, s.succeeds e ps = .ok b ∧
      (b = true ↔
        ∃ p ∈ s.patterns, ({ s with patterns := [p] } : Search).succeeds e ps = .ok true) := by
  obtain ⟨hne, hmodifiers, hread⟩ := (kind_regexes_iff hre hexpand).mp hk
  obtain ⟨hregex, hnetwork⟩ := kind_of_checkModifiers hmodifiers
  have hcidr : .cidr ∉ s.modifiers := fun hmem => by
    have hboth := (hregex (.inr hre)).symm.trans (hnetwork (.inr hmem))
    cases hboth
  -- each pattern is read on its own, and then all of them together
  have : Nonempty Reading := ⟨.start {}⟩
  choose! q hq hparse hfixed using fun p hp => exists_isReadAs_regexSource (hread p hp)
  have hqs : List.Forall₂ (IsReadAs { ignoreCase := true }) (s.patterns.map regexSource)
      (s.patterns.map q) := by
    rw [List.forall₂_map_left_iff, List.forall₂_map_right_iff, List.forall₂_same]
    exact hq
  obtain ⟨alts, hgathered, hjoined⟩ := parse_alternatives_of_apart rfl hqs (by simpa using hne)
    (List.pairwise_map.mpr h.apart) (List.forall_mem_map.mpr hfixed)
  have hsources : s.patterns.map (expression s.modifiers s.field) = s.patterns.map regexSource :=
    List.map_congr_left fun p _ => by simp [expression, hre]
  refine ⟨_, succeeds_of_parse hk hne hexpand hcidr hall (hsources ▸ hjoined) e ps, ?_⟩
  have halts : alts ≠ [] := by
    obtain ⟨p, hp⟩ := List.exists_mem_of_ne_nil _ hne
    obtain ⟨σ, -, hmem⟩ := hgathered.exists_mem (List.mem_map_of_mem hp)
      (List.mem_append_right _ (List.mem_singleton_self _))
    exact List.ne_nil_of_mem hmem
  have hrule : ∀ r ∈ s.patterns.map q, r.top.flags.caseRule = .fold :=
    List.forall_mem_map.mpr fun p hp => by rw [(hq p hp).settled.1]; rfl
  have halternatives : ∀ p ∈ s.patterns, unnumbered (q p).top.alternatives = regexAlternatives p :=
    fun p hp => by rw [regexAlternatives, (hq p hp).read]
  have hjoined : JoinsAlike ((s.patterns.map q).flatMap fun r => unnumbered r.top.alternatives) := by
    rw [List.flatMap_map, List.flatMap_congr halternatives]
    exact h.joined
  have hown : ∀ r ∈ s.patterns.map q, JoinsAlike (unnumbered r.top.alternatives) :=
    List.forall_mem_map.mpr fun p hp => halternatives p hp ▸ h.own p hp
  rw [show Flags.caseRule { ignoreCase := true } = .fold from rfl,
    search_join_iff hgathered halts hrule hjoined hown]
  simp only [List.mem_map, exists_exists_and_eq_and]
  refine exists_congr fun p => and_congr_right fun hp => ?_
  rw [succeeds_single hre hall hexpand hcidr (kind_single hexpand hk hp) (hparse p hp),
    Except.ok.injEq]
  rfl

/-- The statement at a capital beyond the basic plane that is not merged with anything, and a
pattern with a group of its own. -/
theorem sample_succeeds_regexes :
    let s : Search := ⟨none, [.re], ["𐐀b|c", "(c)\\1"]⟩
    s.kind = .ok .regex ∧ .re ∈ s.modifiers ∧ .all ∉ s.modifiers ∧ .expand ∉ s.modifiers ∧
      Independent s.patterns ∧ s.succeeds { message := "cc" } [] = .ok true := by
  intro s
  have hkind : s.kind = .ok .regex := rfl
  have hre : .re ∈ s.modifiers := by decide
  have hall : .all ∉ s.modifiers := by decide
  have hexpand : .expand ∉ s.modifiers := by decide
  have hpatterns : Independent s.patterns := by decide
  obtain ⟨b, hb, hiff⟩ :=
    succeeds_regexes_iff hkind hre hall hexpand hpatterns { message := "cc" } []
  have hsingle : (Search.mk none [.re] ["(c)\\1"]).succeeds { message := "cc" } [] = .ok true := by
    rfl
  have hmatch : b = true := hiff.mpr ⟨"(c)\\1", by decide, hsingle⟩
  exact ⟨hkind, hre, hall, hexpand, hpatterns, hb.trans (congrArg Except.ok hmatch)⟩

/-- A reference to the first group points to that of the first pattern, so the list misses what
its second pattern matches. -/
theorem regexes_miss_back_reference :
    let s : Search := ⟨none, [.re], ["(x)y", "(a)\\1"]⟩
    s.kind = .ok .regex ∧ s.succeeds { message := "aa" } [] = .ok false ∧
      ({ s with patterns := ["(a)\\1"] } : Search).succeeds { message := "aa" } [] = .ok true := by
  exact ⟨rfl, rfl, rfl⟩

end Search

end SigmaRules
