/-
SigmaRules/Proofs/Search/AnyPattern.lean

Searches for one of several patterns.  The expressions of the patterns are joined, and
a search matches if and only if one of the searches for a single pattern does
(`succeeds_any_iff`).  This goes for globs, blocks of addresses, dashes, and patterns in
base 64, with any freedom of the ends.

Joining changes the answer only where it merges alternatives of one character to a set,
and a set misses capitals beyond the basic plane.  Most patterns are never merged,
because an anchor or a choice of dashes comes last (`getLast?_plainNodes`).  Patterns in
base 64 have no capitals that a set would miss.  What is left are globs whose matches
may end anywhere, and these have to be mergeable as words have to (`Joinable`).
-/
import SigmaRules.Proofs.Search.EveryPattern
import SigmaRules.Proofs.Search.Keywords
import SigmaRules.Proofs.Search.Alignment

namespace SigmaRules

open Regex Pattern Bytes

/-! ### The variants of a dash -/

/-- A dash is replaced before a word only, so the text ends as it did. -/
theorem Pattern.getLast?_replaceDash (dash : Char) (fresh : Bool) (s : List Char) :
    (replaceDash dash fresh s).getLast? = s.getLast? := by
  induction s generalizing fresh with
  | nil => rfl
  | cons c rest ih =>
    rw [replaceDash]
    split
    case isTrue h =>
      obtain ⟨-, hstarts⟩ := Bool.and_eq_true_iff.mp h
      rcases rest with - | ⟨d, rest⟩
      · cases hstarts
      · rw [List.getLast?_cons_cons, List.getLast?_cons_cons]
    case isFalse => rw [List.getLast?_cons, List.getLast?_cons, ih]

/-- Alternatives that end alike are not merged to a set: a character that all end with would be a
part of their common beginning. -/
theorem Regex.getLast?_joinAlternatives {rule : CaseRule} {alts : List (List Node)}
    (h2 : 2 ≤ alts.length) {last : Option Node} (h : ∀ ns ∈ alts, ns.getLast? = last) :
    ∃ n m, (joinAlternatives rule alts).getLast? = some (.alt n m) := by
  obtain ⟨shared, tails, halts, hstart, hjoin⟩ := joinAlternatives_cases rule alts h2
  have hlength : tails.length = alts.length := by rw [← halts, List.length_map]
  rcases hjoin with ⟨items, hitems, -⟩ | hjoin
  · -- each tail would be that character
    have hlast : ∀ u ∈ tails, ∃ v, u = [.char v] ∧ some (.char v) = last := by
      intro u hu
      obtain ⟨is, -, his⟩ :=
        List.mem_map.mp (hitems ▸ List.mem_map_of_mem (f := oneCharItems?) hu)
      obtain ⟨v, rfl⟩ := exists_char_of_oneCharItems? his.symm
      have hall := h _ (halts ▸ List.mem_map_of_mem (f := (shared ++ ·)) hu)
      rw [List.getLast?_append] at hall
      exact ⟨v, rfl, hall⟩
    obtain ⟨u, hu⟩ : ∃ u, u ∈ tails := List.exists_mem_of_length_pos (by omega)
    obtain ⟨v, -, hv⟩ := hlast u hu
    obtain ⟨w, hw, hhead⟩ := hstart (.char v) rfl
    obtain ⟨x, rfl, hx⟩ := hlast w hw
    exact absurd (hx.trans hv.symm) hhead
  · rw [hjoin]
    rcases tails with - | ⟨u, - | ⟨v, tails⟩⟩
    · rw [List.length_nil] at hlength
      omega
    · rw [List.length_singleton] at hlength
      omega
    · exact ⟨_, _, List.getLast?_concat⟩

namespace Search

/-! ### The nodes of a pattern -/

/-- The nodes of a pattern without those of the anchors. -/
def plainNodes (modifiers : List Modifier) (p : List Char) : List Node :=
  let p := if modifiers.contains .base64 then toBase64 (encode p) else p
  if modifiers.contains .windash then joinAlternatives .fold ((dashVariants p).map (literals .fold))
  else p.map globNode

/-- The nodes of a pattern. -/
def patternNodes (modifiers : List Modifier) (field : Option String) (p : String) : List Node :=
  if modifiers.contains .base64offset then alignmentNodes p
  else startNodes (startFree modifiers field) ++
    (plainNodes modifiers p.toList ++ endNodes (endFree modifiers field))

section Nodes

variable {modifiers : List Modifier}

theorem patternNodes_eq (hoffset : .base64offset ∉ modifiers) (field : Option String)
    (p : String) :
    patternNodes modifiers field p = startNodes (startFree modifiers field) ++
      (plainNodes modifiers p.toList ++ endNodes (endFree modifiers field)) := by
  rw [patternNodes, if_neg (by simpa using hoffset)]

/-- The expression of a pattern is read as its nodes. -/
theorem adds_expression (hre : .re ∉ modifiers) (field : Option String) (p : String) :
    Adds { ignoreCase := true } (expression modifiers field p)
      (patternNodes modifiers field p) := by
  rw [expression, if_neg (by simpa using hre), patternNodes]
  split
  · exact adds_alignments p
  · refine adds_anchored rfl rfl ?_ (startFree modifiers field) (endFree modifiers field)
    rw [plainNodes]
    split
    · exact Adds.grouped fun w _ => Adds.escape rfl w
    · exact Adds.glob _

theorem lookBehindsFixed_patternNodes (field : Option String) (p : String) :
    ∀ n ∈ patternNodes modifiers field p, n.lookBehindsFixed = true := by
  rw [patternNodes]
  split
  · exact lookBehindsFixed_alignmentNodes p
  · refine lookBehindsFixed_anchored ?_ (startFree modifiers field) (endFree modifiers field)
    rw [plainNodes]
    split
    · exact lookBehindsFixed_joinAlternatives .fold
        (List.forall_mem_map.mpr fun w _ => lookBehindsFixed_literals .fold w)
    · exact List.forall_mem_map.mpr fun c _ => lookBehindsFixed_globNode c

/-- The expression of several patterns is read as the join of their nodes. -/
theorem parse_patterns (hre : .re ∉ modifiers) (field : Option String) (patterns : List String) :
    parse { ignoreCase := true } (alternatives (patterns.map (expression modifiers field)))
      = .ok (.ofList (joinAlternatives .fold (patterns.map (patternNodes modifiers field)))) :=
  parse_alternatives (fun p _ => adds_expression hre field p)
    fun p _ => lookBehindsFixed_patternNodes field p

/-- The variants of a dash end alike. -/
theorem getLast?_dashNodes {p : List Char} :
    ∀ ns ∈ (dashVariants p).map (literals .fold),
      ns.getLast? = p.getLast?.map fun c => .char (.literal .fold c.toNat) := by
  intro ns hns
  obtain ⟨w, hw, rfl⟩ := List.mem_map.mp hns
  obtain ⟨dash, -, rfl⟩ := List.mem_map.mp hw
  rw [literals, List.getLast?_map, getLast?_replaceDash]

/-- A choice of dashes comes last. -/
theorem getLast?_plainNodes (hwindash : .windash ∈ modifiers) (p : List Char) :
    ∃ n m, (plainNodes modifiers p).getLast? = some (.alt n m) := by
  rw [plainNodes, if_pos (by simpa using hwindash)]
  generalize (if modifiers.contains .base64 then toBase64 (encode p) else p) = q
  exact getLast?_joinAlternatives (by simp [dashVariants, dashes]) getLast?_dashNodes

/-- A glob in ASCII is made of characters of the basic plane. -/
theorem isNarrow_globNode {c : Char} (hc : c.toNat < 128) : (globNode c).IsNarrow .fold := by
  rw [globNode]
  split
  · trivial
  · split
    · trivial
    · exact ⟨rfl, Nat.lt_trans hc (by decide)⟩

/-- A pattern in base 64 is made of characters of the basic plane. -/
theorem isNarrow_plainNodes_base64 (hbase64 : .base64 ∈ modifiers) (hwindash : .windash ∉ modifiers)
    (p : List Char) : ∀ n ∈ plainNodes modifiers p, n.IsNarrow .fold := by
  rw [plainNodes, if_neg (by simpa using hwindash), if_pos (by simpa using hbase64)]
  exact List.forall_mem_map.mpr fun c hc => isNarrow_globNode (toNat_lt_of_mem_toBase64 hc)

end Nodes

/-! ### What joining merges -/

/-- The patterns of the search may be joined: if they are globs as they are written, and their
matches may end anywhere, they are mergeable. -/
def Joinable (s : Search) : Prop :=
  (s.fieldName? = none ∨ .contains ∈ s.modifiers ∨ .startswith ∈ s.modifiers) →
    (∀ m ∈ [Modifier.cidr, .base64, .base64offset, .windash], m ∉ s.modifiers) →
      Mergeable s.patterns

/-- Alternatives that are merged to a set end with a character. -/
theorem exists_getLast?_of_merged {t : List Node} (h : (oneCharItems? t).isSome = true)
    (shared : List Node) : ∃ u, (shared ++ t).getLast? = some (.char u) := by
  obtain ⟨is, his⟩ := Option.isSome_iff_exists.mp h
  obtain ⟨u, rfl⟩ := exists_char_of_oneCharItems? his
  exact ⟨u, List.getLast?_concat⟩

/-- What is merged of nodes of the basic plane is foldable. -/
theorem isFoldable_of_isNarrow {shared : List Node} {tails : List (List Node)}
    {ps : List String} {nodes : String → List Node} (halts : tails.map (shared ++ ·) = ps.map nodes)
    (h : ∀ p, ∀ n ∈ nodes p, n.IsNarrow .fold) : ∀ t ∈ tails, ∀ n ∈ t, n.IsFoldable := by
  intro t ht n hn
  obtain ⟨p, -, heq⟩ := List.mem_map.mp (halts ▸ List.mem_map_of_mem (f := (shared ++ ·)) ht)
  exact (h p n (heq ▸ List.mem_append_right shared hn)).isFoldable

section Merged

variable {shared : List Node} {tails : List (List Node)}
  (hset : ∀ t ∈ tails, (oneCharItems? t).isSome = true)
  (hdiffer : ∃ t ∈ tails, ∃ u ∈ tails, t ≠ u)
include hset hdiffer

/-- What is merged of mergeable globs is foldable, if there is an anchor before them, too. -/
theorem isFoldable_globs {ps : List String} (h : Mergeable ps) (startFree : Bool)
    (halts : tails.map (shared ++ ·)
      = ps.map fun p => startNodes startFree ++ p.toList.map globNode) :
    ∀ t ∈ tails, ∀ n ∈ t, n.IsFoldable := by
  -- the anchor is no character, so it is a part of the common beginning
  obtain ⟨inner, rfl⟩ : ∃ inner, shared = startNodes startFree ++ inner := by
    rcases startFree with - | -
    · obtain ⟨t, ht, -⟩ := hdiffer
      obtain ⟨p, -, heq⟩ := List.mem_map.mp (halts ▸ List.mem_map_of_mem (f := (shared ++ ·)) ht)
      obtain ⟨is, his⟩ := Option.isSome_iff_exists.mp (hset t ht)
      obtain ⟨u, rfl⟩ := exists_char_of_oneCharItems? his
      rcases shared with - | ⟨n, inner⟩
      · cases (List.cons.inj heq).1
      · exact ⟨inner, by rw [← (List.cons.inj heq).1]; rfl⟩
    · exact ⟨shared, rfl⟩
  have hinner : tails.map (inner ++ ·) = ps.map fun p => p.toList.map globNode := by
    apply List.map_injective_iff.mpr (List.append_right_injective (startNodes startFree))
    rw [List.map_map, List.map_map]
    simpa [Function.comp_def] using halts
  exact isFoldable_of_mergeable h hinner hset hdiffer

/-- Only patterns whose matches may end anywhere are merged, and none that end with a choice of
dashes. -/
theorem endFree_of_merged {modifiers : List Modifier} (hoffset : .base64offset ∉ modifiers)
    {field : Option String} {ps : List String}
    (halts : tails.map (shared ++ ·) = ps.map (patternNodes modifiers field)) :
    endFree modifiers field = true ∧ .windash ∉ modifiers := by
  obtain ⟨t, ht, -⟩ := hdiffer
  obtain ⟨p, -, heq⟩ := List.mem_map.mp (halts ▸ List.mem_map_of_mem (f := (shared ++ ·)) ht)
  obtain ⟨u, hu⟩ := exists_getLast?_of_merged (hset t ht) shared
  simp only [← heq, patternNodes_eq hoffset, ← List.append_assoc] at hu
  rcases hend : endFree modifiers field with - | -
  · rw [hend, endNodes, if_neg Bool.false_ne_true, List.getLast?_concat] at hu
    cases hu
  refine ⟨rfl, fun hwindash => ?_⟩
  obtain ⟨n, m, hlast⟩ := getLast?_plainNodes hwindash p.toList
  rw [hend, endNodes, if_pos rfl, List.append_nil, List.getLast?_append, hlast] at hu
  cases hu

/-- What is merged of patterns that may be joined is foldable. -/
theorem isFoldable_of_joinable {s : Search} (h : s.Joinable) (hcidr : .cidr ∉ s.modifiers)
    (halts : tails.map (shared ++ ·) = s.patterns.map (patternNodes s.modifiers s.field)) :
    ∀ t ∈ tails, ∀ n ∈ t, n.IsFoldable := by
  by_cases hoffset : .base64offset ∈ s.modifiers
  · refine isFoldable_of_isNarrow halts fun p => ?_
    rw [patternNodes, if_pos (by simpa using hoffset)]
    exact isNarrow_alignmentNodes p
  obtain ⟨hend, hwindash⟩ := endFree_of_merged hset hdiffer hoffset halts
  by_cases hbase64 : .base64 ∈ s.modifiers
  · refine isFoldable_of_isNarrow halts fun p => ?_
    rw [patternNodes_eq hoffset, hend]
    simp only [List.forall_mem_append]
    refine ⟨?_, isNarrow_plainNodes_base64 hbase64 hwindash p.toList, by simp [endNodes]⟩
    rcases startFree s.modifiers s.field with - | - <;>
      simp [startNodes, Node.IsNarrow]
  · have hmergeable : Mergeable s.patterns := by
      refine h ((endFree_iff s).mp hend) ?_
      simp [hcidr, hbase64, hoffset, hwindash]
    have hglob : ∀ p, patternNodes s.modifiers s.field p
        = startNodes (startFree s.modifiers s.field) ++ p.toList.map globNode := by
      intro p
      rw [patternNodes_eq hoffset, hend, plainNodes, if_neg (by simpa using hwindash),
        if_neg (by simpa using hbase64)]
      simp [endNodes]
    rw [funext hglob] at halts
    exact isFoldable_globs hset hdiffer hmergeable _ halts

end Merged

/-! ### Searches -/

/-- **Without `all`, one pattern has to match.**  A valid search without `re`, `all` and `expand`,
whose patterns may be joined, always has an answer.  It matches if and only if one of the searches
with the same field and modifiers and a single one of its patterns does. -/
theorem succeeds_any_iff {s : Search} {k : PatternKind} (hk : s.kind = .ok k)
    (hre : .re ∉ s.modifiers) (hall : .all ∉ s.modifiers) (hexpand : .expand ∉ s.modifiers)
    (hjoinable : s.Joinable) (e : Entry) (ps : Placeholders) :
    ∃ b, s.succeeds e ps = .ok b ∧ (b = true ↔
      ∃ p ∈ s.patterns, ({ s with patterns := [p] } : Search).succeeds e ps = .ok true) := by
  have hne : s.patterns ≠ [] := (kind_eq_ok_iff.mp hk).1
  have hkind : ∀ p ∈ s.patterns, ({ s with patterns := [p] } : Search).kind = .ok k :=
    fun p hp => kind_single hexpand hk hp
  by_cases hcidr : .cidr ∈ s.modifiers
  -- blocks of addresses are tried one after the other
  · have htext : ∀ qs, s.matchesText qs (s.inspected e)
        = .ok (matchesNetworks qs (s.inspected e)) := by
      intro qs
      rw [matchesText, has, if_pos (by simpa using hcidr)]
    have hsingle : ∀ p ∈ s.patterns, ({ s with patterns := [p] } : Search).succeeds e ps
        = .ok (matchesNetworks [p] (s.inspected e)) := fun p hp =>
      (succeeds_eq_matchesText (hkind p hp) (List.cons_ne_nil p []) hexpand e ps).trans (htext [p])
    refine ⟨_, (succeeds_eq_matchesText hk hne hexpand e ps).trans (htext _), ?_⟩
    rw [matchesNetworks_iff]
    refine exists_congr fun p => and_congr_right fun hp => ?_
    rw [hsingle p hp, Except.ok.injEq]
  · have hparse := parse_patterns hre s.field
    have hsingle : ∀ p ∈ s.patterns, ({ s with patterns := [p] } : Search).succeeds e ps
        = .ok ((Node.ofList (patternNodes s.modifiers s.field p)).search (s.inspected e).toList) :=
      fun p hp => succeeds_of_parse (hkind p hp) (List.cons_ne_nil p []) hexpand hcidr hall
        (hparse [p]) e ps
    refine ⟨_, succeeds_of_parse hk hne hexpand hcidr hall (hparse s.patterns) e ps, ?_⟩
    rw [search_joined_iff (by simpa using hne) fun shared tails halts hset hdiffer =>
      isFoldable_of_joinable hset hdiffer hjoinable hcidr halts]
    simp only [List.mem_map, exists_exists_and_eq_and]
    refine exists_congr fun p => and_congr_right fun hp => ?_
    rw [hsingle p hp, Except.ok.injEq]

/-- The statement at two globs that may stand anywhere in a field. -/
theorem sample_succeeds_any :
    let s : Search := ⟨some "CommandLine", [.contains], ["add", "use?"]⟩
    let e : Entry := { fields := [("CommandLine", "NET USER bob")] }
    s.kind = .ok .glob ∧ .re ∉ s.modifiers ∧ .all ∉ s.modifiers ∧ .expand ∉ s.modifiers ∧
      s.Joinable ∧ s.succeeds e [] = .ok true := by
  intro s e
  have hkind : s.kind = .ok .glob := rfl
  have hre : .re ∉ s.modifiers := by decide
  have hall : .all ∉ s.modifiers := by decide
  have hexpand : .expand ∉ s.modifiers := by decide
  have hplane : (s.patterns.all fun p => p.toList.all fun c => c.toNat < 0x10000) = true := by
    decide
  have hjoinable : s.Joinable := fun _ _ => mergeable_of_plane fun p hp c hc =>
    of_decide_eq_true (List.all_eq_true.mp (List.all_eq_true.mp hplane p hp) c hc)
  obtain ⟨b, hb, hiff⟩ := succeeds_any_iff hkind hre hall hexpand hjoinable e []
  have hsingle : ({ s with patterns := ["use?"] } : Search).succeeds e [] = .ok true := by
    decide +kernel
  have hmatch : b = true := hiff.mpr ⟨"use?", by decide, hsingle⟩
  exact ⟨hkind, hre, hall, hexpand, hjoinable, hb.trans (congrArg Except.ok hmatch)⟩

/-- Two patterns of one character are merged to a set, which misses the capital beyond the basic
plane that the first of them finds. -/
theorem joined_patterns_miss_capital :
    let s : Search := ⟨some "Data", [.startswith], ["𐐀", "b"]⟩
    let e : Entry := { fields := [("Data", "𐐀")] }
    s.kind = .ok .glob ∧ s.succeeds e [] = .ok false ∧
      ({ s with patterns := ["𐐀"] } : Search).succeeds e [] = .ok true := by
  exact ⟨rfl, by decide +kernel, by decide +kernel⟩

end Search

end SigmaRules
