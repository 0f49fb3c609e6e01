/-
SigmaRules/Proofs/Regex/Spelling.lean

Expressions that match the texts of a language.  Most expressions look neither
behind nor ahead and keep no groups; where such an expression can end depends
only on the text that comes next (`Node.Spells`).  One after the other they
match the product of their languages, a repetition matches the star, and these
lemmas are all that is needed of the matcher.

A round that takes no character is the last one of a repetition.  Nothing is
lost by this, as every text of the star is made of texts that are not empty.
-/
import Mathlib.Algebra.BigOperators.Group.List.Basic
import Mathlib.Computability.Language
import SigmaRules.Proofs.Regex.Ways

namespace SigmaRules.Regex

open Computability

/-! ### Going on in a text -/

namespace State

@[simp] theorem skip_zero (s : State) : s.skip 0 = s := rfl

@[simp] theorem skip_skip (s : State) (m n : Nat) : (s.skip m).skip n = s.skip (m + n) := by
  simp [skip, Nat.add_assoc, List.take_add]

theorem advance_eq_skip {s : State} {c : Char} {rest : List Char} (h : s.after = c :: rest) :
    s.advance c rest = s.skip 1 := by
  simp [advance, skip, h]

@[simp] theorem after_skip (s : State) (n : Nat) : (s.skip n).after = s.after.drop n := rfl

@[simp] theorem pos_skip (s : State) (n : Nat) : (s.skip n).pos = s.pos + n := rfl

/-- To read two texts is to read the first one and then the other. -/
theorem append_prefix_iff {s : State} {x y : List Char} :
    x ++ y <+: s.after ↔ x <+: s.after ∧ y <+: (s.skip x.length).after := by
  constructor
  · rintro ⟨z, hz⟩
    refine ⟨⟨y ++ z, by rw [← hz, List.append_assoc]⟩, z, ?_⟩
    rw [after_skip, ← hz, List.append_assoc, List.drop_left]
  · rintro ⟨⟨z, hz⟩, w, hw⟩
    rw [after_skip, ← hz, List.drop_left] at hw
    exact ⟨w, by rw [List.append_assoc, hw, hz]⟩

end State

/-! ### Languages -/

/-- The expression matches the texts of the language, wherever they stand. -/
def Node.Spells (n : Node) (L : Language Char) : Prop :=
  ∀ s s', s' ∈ n.ways s ↔ ∃ y ∈ L, y <+: s.after ∧ s' = s.skip y.length

/-- The texts of one character that satisfies a condition. -/
def oneChar (P : Char → Prop) : Language Char := {y | ∃ c, y = [c] ∧ P c}

theorem mem_oneChar {P : Char → Prop} {y : List Char} : y ∈ oneChar P ↔ ∃ c, y = [c] ∧ P c :=
  Iff.rfl

/-- The texts all of whose characters satisfy a condition. -/
def runsOf (P : Char → Prop) : Language Char := {y | ∀ c ∈ y, P c}

theorem mem_runsOf {P : Char → Prop} {y : List Char} : y ∈ runsOf P ↔ ∀ c ∈ y, P c := Iff.rfl

theorem kstar_oneChar (P : Char → Prop) : (oneChar P)∗ = runsOf P := by
  ext y
  rw [Language.mem_kstar, mem_runsOf]
  constructor
  · rintro ⟨ys, rfl, hys⟩ c hc
    obtain ⟨z, hz, hc⟩ := List.mem_flatten.mp hc
    obtain ⟨d, rfl, hd⟩ := hys z hz
    obtain rfl : c = d := by simpa using hc
    exact hd
  · intro hy
    -- the parts are the characters of the text
    refine ⟨y.map fun c => [c], by simp [← List.flatMap_def], ?_⟩
    intro z hz
    obtain ⟨c, hc, rfl⟩ := List.mem_map.mp hz
    exact ⟨c, rfl, hy c hc⟩

namespace Node.Spells

variable {a b : Node} {L M : Language Char}

theorem empty : Spells .empty 1 := by
  intro s s'
  simp [Language.mem_one]

theorem char (t : CharTest) : Spells (.char t) (oneChar (t.accepts ·)) := by
  intro s s'
  rcases hs : s.after with - | ⟨c, rest⟩
  · simp only [ways_char, hs, List.not_mem_nil, false_iff]
    rintro ⟨y, ⟨c, rfl, -⟩, hy, -⟩
    simp at hy
  · simp only [ways_char, hs]
    constructor
    · intro h
      split at h
      case isTrue hc =>
        obtain rfl : s' = s.advance c rest := by simpa using h
        exact ⟨[c], ⟨c, rfl, hc⟩, ⟨rest, rfl⟩, State.advance_eq_skip hs⟩
      case isFalse => simp at h
    · rintro ⟨y, ⟨d, rfl, hd⟩, ⟨z, hz⟩, rfl⟩
      obtain ⟨rfl, rfl⟩ := List.cons_eq_cons.mp hz
      rw [if_pos hd, State.advance_eq_skip hs]
      exact List.mem_singleton_self _

theorem seq (ha : a.Spells L) (hb : b.Spells M) : Spells (.seq a b) (L * M) := by
  intro s s'
  simp only [ways_seq, List.mem_flatMap, Language.mem_mul]
  constructor
  · rintro ⟨s₁, h₁, h₂⟩
    obtain ⟨x, hx, hxs, rfl⟩ := (ha _ _).mp h₁
    obtain ⟨y, hy, hys, rfl⟩ := (hb _ _).mp h₂
    exact ⟨x ++ y, ⟨x, hx, y, hy, rfl⟩, State.append_prefix_iff.mpr ⟨hxs, hys⟩, by simp⟩
  · rintro ⟨-, ⟨x, hx, y, hy, rfl⟩, hxy, rfl⟩
    obtain ⟨hxs, hys⟩ := State.append_prefix_iff.mp hxy
    exact ⟨_, (ha _ _).mpr ⟨x, hx, hxs, rfl⟩, (hb _ _).mpr ⟨y, hy, hys, by simp⟩⟩

theorem alt (ha : a.Spells L) (hb : b.Spells M) : Spells (.alt a b) (L + M) := by
  intro s s'
  simp only [ways_alt, List.mem_append, ha s s', hb s s', Language.mem_add, or_and_right, exists_or]

/-- The rounds of a repetition read a text of the star. -/
theorem exists_of_mem_greedyWays (hb : b.Spells L) {fuel : Nat} {last : Option Nat} {s s' : State}
    (h : s' ∈ greedyWays b.ways fuel none last s) :
    ∃ y ∈ L∗, y <+: s.after ∧ s' = s.skip y.length := by
  induction fuel generalizing last s with
  | zero =>
    obtain rfl : s' = s := by simpa [greedyWays] using h
    exact ⟨[], Language.nil_mem_kstar L, List.nil_prefix, rfl⟩
  | succ fuel ih =>
    have hstay : s' = s → ∃ y ∈ L∗, y <+: s.after ∧ s' = s.skip y.length := by
      rintro rfl
      exact ⟨[], Language.nil_mem_kstar L, List.nil_prefix, rfl⟩
    rw [greedyWays] at h
    split at h
    · exact hstay (by simpa using h)
    -- one round reads a text of the language, and the others go on from there
    · rcases List.mem_append.mp h with h | h
      · obtain ⟨s₁, h₁, h₂⟩ := List.mem_flatMap.mp h
        obtain ⟨x, hx, hxs, rfl⟩ := (hb _ _).mp h₁
        obtain ⟨y, hy, hys, rfl⟩ := ih h₂
        refine ⟨x ++ y, ?_, State.append_prefix_iff.mpr ⟨hxs, hys⟩, by simp⟩
        rw [← Language.one_add_self_mul_kstar_eq_kstar L]
        exact .inr (Language.append_mem_mul hx hy)
      · exact hstay (by simpa using h)

/-- A round for each of these texts, none of which is empty, is among the rounds that
are tried. -/
theorem mem_greedyWays (hb : b.Spells L) {ys : List (List Char)} (hL : ∀ y ∈ ys, y ∈ L ∧ y ≠ [])
    {fuel : Nat} {last : Option Nat} {s : State} (hs : ys.flatten <+: s.after)
    (hf : ys.length ≤ fuel) (hl : last ≠ some s.pos) :
    s.skip ys.flatten.length ∈ greedyWays b.ways fuel none last s := by
  induction ys generalizing fuel last s with
  -- to stop is always a way, whether rounds are left or not
  | nil => rcases fuel with - | fuel <;> simp [greedyWays, hl]
  | cons y ys ih =>
    obtain ⟨hy, hne⟩ := hL y List.mem_cons_self
    rcases fuel with - | fuel
    · simp at hf
    obtain ⟨hys, hyss⟩ := State.append_prefix_iff.mp hs
    have hround := (hb s _).mpr ⟨y, hy, hys, rfl⟩
    -- the round takes characters, so another one may follow
    have hpos : (some s.pos) ≠ some (s.skip y.length).pos := by
      have := List.length_pos_iff.mpr hne
      simp only [State.pos_skip, ne_eq, Option.some.injEq]
      omega
    have hrest := ih (fun z hz => hL z (List.mem_cons_of_mem y hz)) hyss
      (Nat.le_of_succ_le_succ hf) hpos
    rw [greedyWays, if_neg (by simpa using hl)]
    refine List.mem_append_left _ (List.mem_flatMap.mpr ⟨_, hround, ?_⟩)
    simpa using hrest

theorem star (hb : b.Spells L) : Spells (.times 0 none .greedy b) L∗ := by
  intro s s'
  have hways : (Node.times 0 none .greedy b).ways s
      = greedyWays b.ways (s.after.length + 2) none none s := by
    simp [ways_greedy, exactlyWays]
  rw [hways]
  constructor
  · exact exists_of_mem_greedyWays hb
  · rintro ⟨y, hy, hys, rfl⟩
    obtain ⟨ys, rfl, hL⟩ := Language.mem_kstar_iff_exists_nonempty.mp hy
    refine mem_greedyWays hb hL hys ?_ (by simp)
    -- texts that are not empty are no more than the characters that they have
    have hle : ys.length ≤ ys.flatten.length := by
      rw [List.length_flatten]
      refine le_trans (by simp) (List.length_le_sum_of_one_le (ys.map List.length) ?_)
      intro n hn
      obtain ⟨z, hz, rfl⟩ := List.mem_map.mp hn
      exact List.length_pos_iff.mpr (hL z hz).2
    have := hys.length_le
    omega

end Node.Spells

/-! ### Sequences -/

namespace Node

@[simp] theorem ofList_nil : ofList [] = .empty := rfl

@[simp] theorem ofList_cons (n : Node) (ns : List Node) : ofList (n :: ns) = .seq n (ofList ns) :=
  rfl

@[simp] theorem ways_ofList_singleton (n : Node) (s : State) :
    (ofList [n]).ways s = n.ways s :=
  List.flatMap_singleton' (n.ways s)

theorem ways_ofList_append (xs ys : List Node) (s : State) :
    (ofList (xs ++ ys)).ways s = ((ofList xs).ways s).flatMap (ofList ys).ways := by
  induction xs generalizing s with
  | nil => simp
  | cons x xs ih =>
    simp only [List.cons_append, ofList_cons, ways_seq, List.flatMap_assoc]
    exact List.flatMap_congr fun s' _ => ih s'

theorem mem_ways_ofList_append {xs ys : List Node} {s s' : State} :
    s' ∈ (ofList (xs ++ ys)).ways s ↔
      ∃ t ∈ (ofList xs).ways s, s' ∈ (ofList ys).ways t := by
  rw [ways_ofList_append, List.mem_flatMap]

/-- One expression after the other matches the product of their languages. -/
theorem Spells.ofList_map {α : Type} {f : α → Node} {L : α → Language Char}
    (h : ∀ a, (f a).Spells (L a)) (as : List α) : (ofList (as.map f)).Spells (as.map L).prod := by
  induction as with
  | nil => exact Spells.empty
  | cons a as ih =>
    rw [List.map_cons, List.map_cons, List.prod_cons, ofList_cons]
    exact (h a).seq ih

end Node

/-! ### Search between anchors -/

/-- The anchor at the start of the text, unless matches may start anywhere. -/
def startNodes (free : Bool) : List Node := if free then [] else [.anchor (.caret false)]

/-- The anchor at the end of the text, unless matches may end anywhere. -/
def endNodes (free : Bool) : List Node := if free then [] else [.anchor .textEnd]

theorem mem_ways_startNodes {free : Bool} {x y : List Char} {s' : State} :
    s' ∈ (Node.ofList (startNodes free)).ways (.between x y) ↔
      s' = .between x y ∧ (x = [] ∨ free = true) := by
  rcases free with - | -
  -- the anchor holds only with nothing before
  · rcases x with - | ⟨c, x⟩ <;> simp [startNodes, Anchor.holds, State.between]
  · simp [startNodes]

theorem mem_ways_endNodes {free : Bool} {s s' : State} :
    s' ∈ (Node.ofList (endNodes free)).ways s ↔ s' = s ∧ (s.after = [] ∨ free = true) := by
  rcases free with - | -
  · rcases h : s.after with - | ⟨c, rest⟩ <;> simp [endNodes, Anchor.holds, h]
  · simp [endNodes]

/-- **Search for a language**: an expression between anchors is found in a text if one
of its texts is a part of it, with nothing before or after where matches may not
start or end anywhere. -/
theorem search_anchored_iff {ns : List Node} {L : Language Char} (h : (Node.ofList ns).Spells L)
    (startFree endFree : Bool) (v : List Char) :
    (Node.ofList (startNodes startFree ++ (ns ++ endNodes endFree))).search v = true ↔
      ∃ x y z, v = x ++ y ++ z ∧ y ∈ L ∧ (x = [] ∨ startFree = true) ∧
        (z = [] ∨ endFree = true) := by
  rw [Node.search_iff]
  constructor
  · rintro ⟨x, w, s', rfl, hs⟩
    obtain ⟨t, ht, hs⟩ := Node.mem_ways_ofList_append.mp hs
    obtain ⟨rfl, hstart⟩ := mem_ways_startNodes.mp ht
    obtain ⟨u, hu, hs⟩ := Node.mem_ways_ofList_append.mp hs
    obtain ⟨y, hy, ⟨z, hz⟩, rfl⟩ := (h _ _).mp hu
    obtain ⟨rfl, hend⟩ := mem_ways_endNodes.mp hs
    obtain rfl : y ++ z = w := hz
    refine ⟨x, y, z, by rw [List.append_assoc], hy, hstart, ?_⟩
    simpa [State.between] using hend
  · rintro ⟨x, y, z, rfl, hy, hstart, hend⟩
    let s := State.between x (y ++ z)
    have hu : s.skip y.length ∈ (Node.ofList ns).ways s :=
      (h _ _).mpr ⟨y, hy, List.prefix_append y z, rfl⟩
    have hz : s.skip y.length ∈ (Node.ofList (endNodes endFree)).ways (s.skip y.length) :=
      mem_ways_endNodes.mpr ⟨rfl, by simpa [s, State.between] using hend⟩
    refine ⟨x, y ++ z, s.skip y.length, by rw [List.append_assoc], ?_⟩
    exact Node.mem_ways_ofList_append.mpr ⟨s, mem_ways_startNodes.mpr ⟨rfl, hstart⟩,
      Node.mem_ways_ofList_append.mpr ⟨_, hu, hz⟩⟩

/-! ### Whole texts -/

/-- The whole of a text is matched if it is one of the language. -/
theorem Node.Spells.matchesAll_iff {n : Node} {L : Language Char} (h : n.Spells L)
    (v : List Char) : n.matchesAll v = true ↔ v ∈ L := by
  have hways : n.matchesAll v = true ↔ ∃ s' ∈ n.ways (.start v), s'.after = [] := by
    rw [Node.matchesAll, Node.run_eq_findSome?, List.findSome?_isSome_iff]
    refine exists_congr fun s' => and_congr_right fun _ => ?_
    split <;> simp_all
  rw [hways]
  constructor
  · rintro ⟨s', hs', hafter⟩
    obtain ⟨y, hy, ⟨z, hz⟩, rfl⟩ := (h _ _).mp hs'
    obtain rfl : y ++ z = v := hz
    obtain rfl : z = [] := by simpa [State.start] using hafter
    rwa [List.append_nil]
  · intro hv
    exact ⟨_, (h _ _).mpr ⟨v, hv, List.prefix_rfl, rfl⟩, by simp [State.start]⟩

end SigmaRules.Regex
