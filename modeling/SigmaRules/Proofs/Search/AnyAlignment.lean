/-
SigmaRules/Proofs/Search/AnyAlignment.lean

What searches at any alignment in base 64 find.  The expression of a text offers
its alignments, and it is found where a text stands that is one of them, without
regard to letter case (`search_alignmentNodes_iff`).  So such a search tells texts
apart as long as none of the alignments is empty.

Texts of two bytes or more have no empty alignment, and a search for them finds
nothing in a field that is missing (`alignments_discriminate`).  A text of a single
byte has one: no character depends on the byte alone if there is one byte before it,
and the search matches whatever the field holds (`single_byte_found_in_missing_field`).
-/
import SigmaRules.Proofs.Regex.Merging
import SigmaRules.Proofs.Search.Alignment
import SigmaRules.Proofs.Search.Answering

namespace SigmaRules.Search

open Regex Pattern Bytes

/-! ### Texts without regard to letter case -/

/-- The texts that are the same as a text without regard to letter case. -/
def foldings (w : List Char) : Language Char :=
  (w.map fun c => oneChar fun d => CaseRule.fold.same c.toNat d.toNat = true).prod

theorem mem_foldings_iff {w u : List Char} :
    u ∈ foldings w ↔
      List.Forall₂ (fun c d => CaseRule.fold.same c.toNat d.toNat = true) w u := by
  induction w generalizing u with
  | nil => exact Language.mem_one u |>.trans List.forall₂_nil_left_iff.symm
  | cons c w ih =>
    rw [foldings, List.map_cons, List.prod_cons, Language.mem_mul, List.forall₂_cons_left_iff]
    constructor
    · rintro ⟨-, ⟨d, rfl, hd⟩, y, hy, rfl⟩
      exact ⟨d, y, hd, ih.mp hy, rfl⟩
    · rintro ⟨d, y, hd, hy, rfl⟩
      exact ⟨[d], ⟨d, rfl, hd⟩, y, ih.mpr hy, rfl⟩

theorem spells_literals (w : List Char) :
    (Node.ofList (literals .fold w)).Spells (foldings w) :=
  Node.Spells.ofList_map (fun c : Char => Node.Spells.char (.literal .fold c.toNat)) w

/-- **A text that stands for itself is found** where it stands, without regard to letter case. -/
theorem search_literals_iff (w v : List Char) :
    (Node.ofList (literals .fold w)).search v = true ↔
      ∃ u, u <:+: v ∧ List.Forall₂ (fun c d => CaseRule.fold.same c.toNat d.toNat = true) w u := by
  have hsearch := search_anchored_iff (spells_literals w) true true v
  simp only [startNodes, endNodes, if_true, List.nil_append, List.append_nil, or_true,
    and_true] at hsearch
  rw [hsearch]
  constructor
  · rintro ⟨x, u, z, rfl, hu⟩
    exact ⟨u, ⟨x, z, rfl⟩, mem_foldings_iff.mp hu⟩
  · rintro ⟨u, ⟨x, z, rfl⟩, hu⟩
    exact ⟨x, u, z, rfl, mem_foldings_iff.mpr hu⟩

/-- In the empty text nothing is found but the empty text. -/
theorem search_literals_nil_iff (w : List Char) :
    (Node.ofList (literals .fold w)).search [] = true ↔ w = [] := by
  rw [search_literals_iff]
  constructor
  · rintro ⟨u, hu, hwu⟩
    obtain rfl : u = [] := List.eq_nil_of_infix_nil hu
    exact List.forall₂_nil_right_iff.mp hwu
  · rintro rfl
    exact ⟨[], List.infix_refl [], .nil⟩

/-! ### Alignments -/

/-- **The expression of the alignments is found** where one of them stands. -/
theorem search_alignmentNodes_iff {p : String} (hp : p ≠ "") (v : List Char) :
    (Node.ofList (alignmentNodes p)).search v = true ↔
      ∃ w ∈ alignments p.toList, (Node.ofList (literals .fold w)).search v = true := by
  have hne : (alignments p.toList).map (literals .fold) ≠ [] := by
    simpa [alignments] using hp
  -- alignments are written in ASCII, so joining them loses and gains nothing
  have hnarrow : ∀ ns ∈ (alignments p.toList).map (literals .fold), ∀ n ∈ ns, n.IsNarrow .fold :=
    List.forall_mem_map.mpr fun w hw =>
      isNarrow_literals .fold fun c hc => toNat_lt_of_mem_alignments hw hc
  rw [alignmentNodes, search_joined_iff hne]
  · simp only [List.mem_map, exists_exists_and_eq_and]
  · intro shared tails halts _ _ t ht n hn
    refine (hnarrow (shared ++ t) (halts ▸ List.mem_map_of_mem ht) n ?_).isFoldable
    exact List.mem_append_right shared hn

section Single

variable (field : Option String) {modifiers : List Modifier} {p : String}

/-- A search for one text at any alignment answers: no if it is not valid, and otherwise as blocks
of addresses do, or as one of the alignments does. -/
theorem succeeds_alignment (hoffset : .base64offset ∈ modifiers) (hre : .re ∉ modifiers)
    (hexpand : .expand ∉ modifiers) (hp : p ≠ "") (e : Entry) (ps : Placeholders) :
    ∃ b, (Search.mk field modifiers [p]).succeeds e ps = .ok b ∧
      (b = true → (.cidr ∈ modifiers ∧
          matchesNetworks [p] ((Search.mk field modifiers [p]).inspected e) = true) ∨
        ∃ w ∈ alignments p.toList, (Node.ofList (literals .fold w)).search
          ((Search.mk field modifiers [p]).inspected e).toList = true) := by
  have hfit : (Search.mk field modifiers [p]).CountsFit ps := fun hmem => absurd hmem hre
  obtain ⟨b, hb, -⟩ := exists_succeeds hfit e
  refine ⟨b, hb, ?_⟩
  rintro rfl
  rcases hk : (Search.mk field modifiers [p]).kind with (q | f) | k
  · simp [succeeds, hk] at hb
  · simp [succeeds, hk] at hb
  rw [succeeds_eq_matchesText hk (List.cons_ne_nil p []) hexpand] at hb
  by_cases hcidr : .cidr ∈ modifiers
  · rw [matchesText, has, if_pos (by simpa using hcidr)] at hb
    exact .inl ⟨hcidr, Except.ok.inj hb⟩
  right
  -- with one pattern, there is one expression, whether all have to match or one of them
  have hsources : (Search.mk field modifiers [p]).sources [p]
      = [alternatives ([p].map (expression modifiers field))] := by
    simp [sources, alternatives]
  have hparse := parse_alignments hre hoffset field [p]
  rw [matchesText, has, if_neg (by simpa using hcidr), hsources, matchesAllOf, readRegex, hparse]
    at hb
  have hfound : (alignmentsNode [p]).search
      ((Search.mk field modifiers [p]).inspected e).toList = true := Except.ok.inj hb
  exact (search_alignmentNodes_iff hp _).mp hfound

end Single

/-- **Alignments tell texts apart.**  A text that is written with two bytes or more has three
alignments, none of which is empty.  So a search for it at any alignment, in a field that is
missing or empty, always has an answer, and it is no, whatever other modifiers there are but those
that read the text as a regular expression or as a placeholder. -/
theorem alignments_discriminate {p : String} (hp : p ≠ "") (hbytes : (encode p.toList).length ≠ 1) :
    (alignments p.toList).length = 3 ∧ (∀ w ∈ alignments p.toList, w ≠ []) ∧
      ∀ (name : String) (modifiers : List Modifier) (e : Entry) (ps : Placeholders), name ≠ "" →
        .base64offset ∈ modifiers → .re ∉ modifiers → .expand ∉ modifiers → e.get name = "" →
          (Search.mk (some name) modifiers [p]).succeeds e ps = .ok false := by
  have hne : p.toList ≠ [] := by simpa using hp
  have hfull : ∀ w ∈ alignments p.toList, w ≠ [] :=
    (forall_alignments_ne_nil_iff hne).mpr hbytes
  refine ⟨by simp [alignments, hp], hfull, ?_⟩
  intro name modifiers e ps hname hoffset hre hexpand hget
  have hinspected : (Search.mk (some name) modifiers [p]).inspected e = "" := by
    have hfield : (Search.mk (some name) modifiers [p]).fieldName? = some name := by
      simp [fieldName?, Option.filter, hname]
    rw [inspected, hfield]
    exact hget
  obtain ⟨b, hb, hfound⟩ := succeeds_alignment (some name) hoffset hre hexpand hp e ps
  rw [hinspected] at hfound
  rcases b with - | -
  · exact hb
  rcases hfound rfl with ⟨-, hblock⟩ | ⟨w, hw, hsearch⟩
  · -- the empty text is no address
    have hnone : matchesNetworks [p] "" = false := by
      rw [matchesNetworks, show Network.Block.ofText? "" = none by decide]
    rw [hnone] at hblock
    cases hblock
  · exact absurd ((search_literals_nil_iff w).mp hsearch) (hfull w hw)

/-- The statement at one letter that is written with two bytes, and a field that is missing. -/
theorem sample_alignments_discriminate :
    "\u00E9" ≠ "" ∧ (encode "\u00E9".toList).length ≠ 1 ∧
      alignments "\u00E9".toList = ["w6".toList, "Op".toList, "Dq".toList] ∧
      (Search.mk (some "Data") [.base64offset, .all] ["\u00E9"]).succeeds
        { message := "w6k=", fields := [("Date", "w6k=")] } [] = .ok false := by
  have hp : "\u00E9" ≠ "" := by decide
  have hbytes : (encode "\u00E9".toList).length ≠ 1 := by decide
  refine ⟨hp, hbytes, by decide, ?_⟩
  exact (alignments_discriminate hp hbytes).2.2 "Data" [.base64offset, .all] _ [] (by decide)
    (by decide) (by decide) (by decide) (by decide)

/-- A single byte after another one leaves an empty alignment, which is found in any field. -/
theorem single_byte_found_in_missing_field :
    (alignments "a".toList)[1]? = some [] ∧
      (Search.mk (some "Data") [.base64offset] ["a"]).succeeds {} [] = .ok true := by
  exact ⟨by decide, rfl⟩

end SigmaRules.Search
