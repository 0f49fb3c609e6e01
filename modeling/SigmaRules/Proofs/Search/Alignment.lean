/-
SigmaRules/Proofs/Search/Alignment.lean

Searches at any alignment in base 64 miss nothing.  The expression of such a
search offers the alignments of each of its texts.  As they are written in
ASCII, joining them loses no match, so the text inspected matches wherever one
of the alignments occurs in it (`search_of_isInfix`), and one of them occurs
wherever the bytes of the text are a part of what is written in base 64
(`alignment_isInfix`).
-/
import SigmaRules.Proofs.Pattern.Alignment
import SigmaRules.Proofs.Search.Expression

namespace SigmaRules.Search

open Regex Pattern Bytes

/-! ### Literal texts -/

/-- The nodes of a text that stands for itself. -/
def literals (rule : CaseRule) (w : List Char) : List Node :=
  w.map fun c => .char (.literal rule c.toNat)

theorem same_self (rule : CaseRule) (c : Nat) : rule.same c c = true := by
  rw [CaseRule.same]
  split <;> simp

/-- A text matches itself. -/
theorem skip_mem_ways_literals (rule : CaseRule) (w after : List Char) {s : State}
    (h : s.after = w ++ after) : s.skip w.length ∈ (Node.ofList (literals rule w)).ways s := by
  have hspells := Node.Spells.ofList_map
    (fun c : Char => Node.Spells.char (.literal rule c.toNat)) w
  refine (hspells s _).mpr ⟨w, ?_, ⟨after, h.symm⟩, rfl⟩
  clear h hspells
  induction w with
  | nil => exact Language.nil_mem_one
  | cons c w ih =>
    rw [List.map_cons, List.prod_cons]
    exact Language.append_mem_mul (mem_oneChar.mpr ⟨c, rfl, same_self rule c.toNat⟩) ih

theorem isNarrow_literals (rule : CaseRule) {w : List Char} (h : ∀ c ∈ w, c.toNat < 128) :
    ∀ n ∈ literals rule w, n.IsNarrow rule := by
  intro n hn
  obtain ⟨c, hc, rfl⟩ := List.mem_map.mp hn
  exact ⟨rfl, Nat.lt_trans (h c hc) (by decide)⟩

theorem lookBehindsFixed_literals (rule : CaseRule) (w : List Char) :
    ∀ n ∈ literals rule w, n.lookBehindsFixed = true := by
  intro n hn
  obtain ⟨c, -, rfl⟩ := List.mem_map.mp hn
  rfl

/-! ### The expression of the alignments -/

/-- The nodes of the alignments of a text. -/
def alignmentNodes (p : String) : List Node :=
  joinAlternatives .fold ((alignments p.toList).map (literals .fold))

/-- The expression of the alignments of a text is read as their join. -/
theorem adds_alignments (p : String) :
    Adds { ignoreCase := true } (grouped (alternatives ((alignments p.toList).map escape)))
      (alignmentNodes p) :=
  Adds.grouped fun w _ => Adds.escape rfl w

theorem isNarrow_alignmentNodes (p : String) : ∀ n ∈ alignmentNodes p, n.IsNarrow .fold := by
  refine isNarrow_joinAlternatives (List.forall_mem_map.mpr fun w hw => ?_)
  exact isNarrow_literals .fold fun c hc => toNat_lt_of_mem_alignments hw hc

theorem lookBehindsFixed_alignmentNodes (p : String) :
    ∀ n ∈ alignmentNodes p, n.lookBehindsFixed = true := by
  refine lookBehindsFixed_joinAlternatives .fold (List.forall_mem_map.mpr fun w _ => ?_)
  exact lookBehindsFixed_literals .fold w

/-- The expression of a search at any alignment. -/
def alignmentsNode (patterns : List String) : Node :=
  .ofList (joinAlternatives .fold (patterns.map alignmentNodes))

theorem parse_alignments {modifiers : List Modifier} (hre : Modifier.re ∉ modifiers)
    (hoffset : Modifier.base64offset ∈ modifiers) (field : Option String)
    (patterns : List String) :
    parse { ignoreCase := true } (alternatives (patterns.map (expression modifiers field)))
      = .ok (alignmentsNode patterns) := by
  have hadds : ∀ p ∈ patterns,
      Adds { ignoreCase := true } (expression modifiers field p) (alignmentNodes p) := by
    intro p _
    have hexpr : expression modifiers field p
        = grouped (alternatives ((alignments p.toList).map escape)) := by
      simp [expression, hre, hoffset]
    rw [hexpr]
    exact adds_alignments p
  exact parse_alternatives hadds fun p _ => lookBehindsFixed_alignmentNodes p

/-- The expression is found wherever one of the alignments occurs. -/
theorem search_of_isInfix {patterns : List String} {p : String} (hp : p ∈ patterns)
    {w v : List Char} (hw : w ∈ alignments p.toList) (h : w <:+: v) :
    (alignmentsNode patterns).search v = true := by
  obtain ⟨x, z, rfl⟩ := h
  let s := State.between x (w ++ z)
  have hliterals : s.skip w.length ∈ (Node.ofList (literals .fold w)).ways s :=
    skip_mem_ways_literals .fold w z rfl
  have hpattern : s.skip w.length ∈ (Node.ofList (alignmentNodes p)).ways s := by
    refine mem_ways_joinAlternatives ?_ (List.mem_map_of_mem hw) hliterals
    refine List.forall_mem_map.mpr fun u hu => ?_
    exact isNarrow_literals .fold fun c hc => toNat_lt_of_mem_alignments hu hc
  have hall : s.skip w.length ∈ (alignmentsNode patterns).ways s := by
    refine mem_ways_joinAlternatives ?_ (List.mem_map_of_mem hp) hpattern
    exact List.forall_mem_map.mpr fun q _ => isNarrow_alignmentNodes q
  exact (Node.search_iff _ _).mpr ⟨x, w ++ z, _, by rw [List.append_assoc], hall⟩

/-! ### Nothing is missed -/

/-- **No text in base 64 is missed, at any alignment.**  The alignment of a text for
the number of bytes before it is a part of what these, the text and any bytes after
it are written with.  So a valid search at any alignment, without the modifiers that
read or join its patterns in another way, matches wherever bytes with one of its
texts in them are written in the text that it inspects. -/
theorem alignments_occur_and_are_found :
    (∀ (p : String) (before after : List UInt8), p ≠ "" →
      ∃ w, (alignments p.toList)[before.length % 3]? = some w ∧
        w <:+: toBase64 (before ++ encode p.toList ++ after)) ∧
    ∀ (s : Search) (k : PatternKind), s.kind = .ok k →
      .base64offset ∈ s.modifiers → .re ∉ s.modifiers → .cidr ∉ s.modifiers →
      .expand ∉ s.modifiers → .all ∉ s.modifiers →
      ∀ p ∈ s.patterns, p ≠ "" → ∀ (before after : List UInt8) (e : Entry) (ps : Placeholders),
        toBase64 (before ++ encode p.toList ++ after) <:+: (s.inspected e).toList →
        s.succeeds e ps = .ok true := by
  have hoccurs : ∀ (p : String) (before after : List UInt8), p ≠ "" →
      ∃ w, (alignments p.toList)[before.length % 3]? = some w ∧
        w <:+: toBase64 (before ++ encode p.toList ++ after) := by
    intro p before after hp
    have hne : p.toList ≠ [] := by simpa using hp
    exact ⟨_, alignments_getElem? hne (Nat.mod_lt _ (by decide)), alignment_isInfix _ _ _⟩
  refine ⟨hoccurs, ?_⟩
  intro s k hk hoffset hre hcidr hexpand hall p hp hne before after e ps hv
  obtain ⟨w, hw, hpart⟩ := hoccurs p before after hne
  have hparse := parse_alignments hre hoffset s.field s.patterns
  rw [succeeds_of_parse hk (List.ne_nil_of_mem hp) hexpand hcidr hall hparse e ps]
  exact congrArg Except.ok (search_of_isInfix hp (List.mem_of_getElem? hw) (hpart.trans hv))

/-- The statement after one byte, for a search that has an empty pattern besides. -/
theorem sample_alignment_is_found :
    let s : Search := ⟨some "Data", [.base64offset], ["", "whoami"]⟩
    let e : Entry := { fields := [("Data", "x=QXdob2FtaUI=;")] }
    (∃ w, (alignments "whoami".toList)[1]? = some w ∧
      w <:+: toBase64 ([65] ++ encode "whoami".toList ++ [66])) ∧
    s.kind = .ok .glob ∧
    toBase64 ([65] ++ encode "whoami".toList ++ [66]) <:+: (s.inspected e).toList ∧
    s.succeeds e [] = .ok true := by
  intro s e
  have hk : s.kind = .ok .glob := rfl
  have hv : toBase64 ([65] ++ encode "whoami".toList ++ [66]) <:+: (s.inspected e).toList :=
    ⟨['x', '='], [';'], by decide⟩
  refine ⟨alignments_occur_and_are_found.1 "whoami" [65] [66] (by decide), hk, hv, ?_⟩
  exact alignments_occur_and_are_found.2 s .glob hk (by decide) (by decide) (by decide) (by decide)
    (by decide) "whoami" (by decide) (by decide) [65] [66] e [] hv

end SigmaRules.Search
