/-
SigmaRules/Proofs/Regex/IgnoringCase.lean

Expressions that ignore letter case (`Node.IgnoresCase`): whatever they compare,
they compare without regard to it.  Such an expression finds the same in two
texts if each character of the one has the same lower case partner as the
character in its place in the other (`Node.search_map`).  All its ways in the one
text are ways in the other (`Node.ways_map`), because a test accepts both
characters or neither (`CharTest.accepts_congr`), and no other construct looks at
the characters but references to groups.
-/
import SigmaRules.Proofs.Regex.Merging
import SigmaRules.Proofs.Regex.Transport

namespace SigmaRules.Regex

open Text

/-! ### Tests and places -/

/-- The test compares without regard to letter case. -/
def CharTest.IgnoresCase : CharTest → Prop
  | .literal rule _ | .notLiteral rule _ => rule = .fold
  | .any | .notNewline => True
  | .set rule _ items => rule = .fold ∧ ∀ i ∈ items, i.IsUnicode

/-- The place does not depend on letter case. -/
def Anchor.IgnoresCase : Anchor → Prop
  | .wordEdge ascii _ => ascii = false
  | _ => True

/-- Code points with the same lower case partner are alike to those without two cases. -/
theorem eq_iff_of_lowerCode_eq {c d k : Nat} (h : lowerCode c = lowerCode d)
    (hk : isCasedCode k = false) : c = k ↔ d = k := by
  rw [← lowerCode_eq_iff hk, h, lowerCode_eq_iff hk]

theorem CaseRule.same_congr {c d : Nat} (h : lowerCode c = lowerCode d) (written : Nat) :
    CaseRule.fold.same written c = CaseRule.fold.same written d := by
  rw [same, same]
  split
  · simp only [lower, h]
  -- a code point without two cases is compared as it stands
  case isFalse hw =>
    rw [Bool.eq_iff_iff, beq_iff_eq, beq_iff_eq]
    exact eq_iff_of_lowerCode_eq h (by simpa [isCased] using hw)

/-- **A test that ignores letter case** accepts both of two characters with the same lower case
partner, or neither. -/
theorem CharTest.accepts_congr {t : CharTest} (ht : t.IgnoresCase) {c d : Char}
    (h : lowerCode c.toNat = lowerCode d.toNat) : t.accepts c = t.accepts d := by
  rcases t with ⟨rule, k⟩ | ⟨rule, k⟩ | - | - | ⟨rule, negated, items⟩
  · obtain rfl : rule = .fold := ht
    exact CaseRule.same_congr h k
  · obtain rfl : rule = .fold := ht
    exact congrArg Bool.not (CaseRule.same_congr h k)
  · rfl
  · have hline : c.toNat = 10 ↔ d.toNat = 10 := eq_iff_of_lowerCode_eq h (by decide)
    simp [accepts, bne, beq_eq_decide, hline]
  · obtain ⟨rfl, hitems⟩ := ht
    rw [accepts, accepts, setHolds_fold hitems, setHolds_fold hitems, h]

/-! ### Texts with other characters -/

variable (f : Char → Char)

/-- The state in the text that has other characters in the places of those of the text. -/
def State.map (s : State) : State where
  pos := s.pos
  before := s.before.map f
  after := s.after.map f
  opened := s.opened.map (Prod.map id (Prod.map id (List.map f)))
  closed := s.closed.map (Prod.map id (Prod.map id (List.map f)))

namespace State

theorem skip_map (s : State) (n : Nat) : (s.map f).skip n = (s.skip n).map f := by
  simp [skip, map, List.map_take, List.map_drop]

theorem carrier_map : Carrier (map f) where
  pos _ := rfl
  length_after _ := List.length_map f
  back? s n := by
    rw [back?, back?]
    split <;> simp_all [map, List.map_take, List.map_drop]
  withGroups _ _ := rfl

theorem lookup_opened_map (s : State) (i : Nat) :
    (s.map f).opened.lookup i = (s.opened.lookup i).map (Prod.map id (List.map f)) :=
  lookup_map_values _ s.opened i

theorem lookup_closed_map (s : State) (i : Nat) :
    (s.map f).closed.lookup i = (s.closed.lookup i).map (Prod.map id (List.map f)) :=
  lookup_map_values _ s.closed i

theorem closeGroup_map (s : State) (i : Nat) :
    (s.map f).closeGroup i = (s.closeGroup i).map f := by
  rw [closeGroup, closeGroup, lookup_opened_map]
  rcases s.opened.lookup i with - | ⟨p, after⟩
  · rfl
  · simp [map, List.map_take]

theorem hasMatched_map (s : State) (i : Nat) : (s.map f).hasMatched i = s.hasMatched i := by
  rw [hasMatched, hasMatched, lookup_opened_map, lookup_closed_map]
  rcases s.opened.lookup i with - | p <;> rcases s.closed.lookup i with - | q <;> rfl

theorem groupText?_map (s : State) (i : Nat) :
    (s.map f).groupText? i = (s.groupText? i).map (List.map f) := by
  rw [groupText?, groupText?, hasMatched_map, lookup_closed_map]
  split
  · rcases s.closed.lookup i with - | q <;> rfl
  · rfl

end State

/-! ### Ways -/

/-- All that the expression compares it compares without regard to letter case. -/
def Node.IgnoresCase : Node → Prop
  | .empty => True
  | .char t => t.IgnoresCase
  | .anchor a => a.IgnoresCase
  | .seq a b | .alt a b | .conditional _ a b => a.IgnoresCase ∧ b.IgnoresCase
  | .group _ b | .atomic b | .ahead _ b | .behind _ _ b | .times _ _ _ b => b.IgnoresCase
  | .backref rule _ _ => rule = .fold

section Lower

variable {f} (hf : ∀ c : Char, lowerCode (f c).toNat = lowerCode c.toNat)
include hf

theorem eq_newline_iff (c : Char) : f c = '\n' ↔ c = '\n' := by
  rw [← Char.toNat_inj, ← Char.toNat_inj]
  exact eq_iff_of_lowerCode_eq (hf c) (by decide)

theorem startsWithWord_map (l : List Char) :
    startsWithWord false (l.map f) = startsWithWord false l := by
  rcases l with - | ⟨c, l⟩
  · rfl
  · rw [List.map_cons, startsWithWord, startsWithWord, ← Category.holds_lowerCode, hf,
      Category.holds_lowerCode]

theorem startsWithCopy_map (t l : List Char) :
    startsWithCopy .fold (t.map f) (l.map f) = startsWithCopy .fold t l := by
  induction t generalizing l with
  | nil => rfl
  | cons c t ih =>
    rcases l with - | ⟨d, l⟩
    · rfl
    · simp only [List.map_cons, startsWithCopy, CaseRule.lower, hf, ih]

theorem Anchor.holds_map {a : Anchor} (ha : a.IgnoresCase) (s : State) :
    a.holds (s.map f) = a.holds s := by
  have hhead : ∀ l : List Char, ((l.map f).head? == some '\n') = (l.head? == some '\n') := by
    intro l
    rcases l with - | ⟨c, l⟩
    · rfl
    · rw [Bool.eq_iff_iff]
      simpa using eq_newline_iff hf c
  have hline : ((s.after.map f) == ['\n']) = (s.after == ['\n']) := by
    rcases s.after with - | ⟨c, - | ⟨d, l⟩⟩
    · rfl
    · rw [Bool.eq_iff_iff]
      simpa using eq_newline_iff hf c
    · rw [Bool.eq_iff_iff]
      simp
  cases a with
  | textStart => simp [holds, State.map]
  | textEnd => simp [holds, State.map]
  | caret multiline => simp only [holds, State.map, List.isEmpty_map, hhead]
  | dollar multiline => simp only [holds, State.map, List.isEmpty_map, hhead, hline]
  | wordEdge ascii negated =>
    obtain rfl : ascii = false := ha
    simp only [holds, State.map, List.isEmpty_map, startsWithWord_map hf]

namespace Node

/-- **An expression that ignores letter case** matches in the same ways if characters are replaced
by others with the same lower case partner. -/
theorem ways_map {n : Node} (hn : n.IgnoresCase) : Ways.Carried (State.map f) n.ways n.ways := by
  have hg := State.carrier_map f
  induction n with
  | empty => exact fun s => rfl
  | char t =>
    intro s
    have hafter : (s.map f).after = s.after.map f := rfl
    rw [ways_char, ways_char, hafter]
    rcases s.after with - | ⟨c, rest⟩
    · rfl
    · simp only [List.map_cons, CharTest.accepts_congr hn (hf c)]
      split <;> rfl
  | anchor a =>
    intro s
    rw [ways_anchor, ways_anchor, Anchor.holds_map hf hn]
    split <;> rfl
  | seq a b iha ihb => exact seq_carried (iha hn.1) (ihb hn.2)
  | alt a b iha ihb => exact alt_carried (iha hn.1) (ihb hn.2)
  | group i b ih =>
    intro s
    rcases i with - | i
    · exact ih hn s
    · have hopen : (s.map f).openGroup i = (s.openGroup i).map f := rfl
      rw [ways, ways, hopen, ih hn, List.map_map, List.map_map]
      exact List.map_congr_left fun s' _ => State.closeGroup_map f s' i
  | atomic b ih => exact atomic_carried (ih hn)
  | ahead negated b ih => exact ahead_carried hg (ih hn) negated
  | behind negated width b ih => exact behind_carried hg (ih hn) negated width
  -- the text of a group has been replaced along with the text that it was matched in
  | backref rule i w =>
    intro s
    obtain rfl : rule = .fold := hn
    have hafter : (s.map f).after = s.after.map f := rfl
    rw [ways, ways, State.groupText?_map, hafter]
    rcases s.groupText? i with - | t
    · rfl
    · simp only [Option.map_some, startsWithCopy_map hf, List.length_map, State.skip_map]
      split <;> rfl
  | conditional i y n ihy ihn =>
    intro s
    rw [ways, ways, State.hasMatched_map]
    split
    · exact ihy hn.1 s
    · exact ihn hn.2 s
  | times lo hi greed b ih => exact times_carried hg (ih hn) lo hi greed

theorem matchesFrom_map {n : Node} (hn : n.IgnoresCase) (before rest : List Char) (pos : Nat) :
    n.matchesFrom (before.map f) (rest.map f) pos = n.matchesFrom before rest pos := by
  have hrun : ∀ s : State, (n.run (s.map f) some).isSome = (n.run s some).isSome := by
    intro s
    rw [run_carried (ways_map hf hn) s, Option.isSome_map]
  induction rest generalizing before pos with
  | nil => exact hrun ⟨pos, before, [], [], []⟩
  | cons c rest ih =>
    rw [List.map_cons, matchesFrom, matchesFrom]
    exact congrArg₂ (· || ·) (hrun ⟨pos, before, c :: rest, [], []⟩) (ih (c :: before) (pos + 1))

/-- **Search without regard to letter case**: characters may be replaced by others with the same
lower case partner. -/
theorem search_map {n : Node} (hn : n.IgnoresCase) (v : List Char) :
    n.search (v.map f) = n.search v := matchesFrom_map hf hn [] v 0

end Node

end Lower

/-! ### What ignores letter case -/

namespace Node

theorem ignoresCase_ofList {ns : List Node} (h : ∀ n ∈ ns, n.IgnoresCase) :
    (ofList ns).IgnoresCase := by
  induction ns with
  | nil => trivial
  | cons n ns ih => exact ⟨h n (by simp), ih fun m hm => h m (by simp [hm])⟩

theorem ignoresCase_oneOf {ns : List Node} (h : ∀ n ∈ ns, n.IgnoresCase) :
    (oneOf ns).IgnoresCase := by
  induction ns with
  | nil => trivial
  | cons n ns ih =>
    rcases ns with - | ⟨m, ns⟩
    · exact h n (by simp)
    · exact ⟨h n (by simp), ih fun k hk => h k (by simp [hk])⟩

end Node

theorem isUnicode_of_oneCharItems? {t : CharTest} (ht : t.IgnoresCase) {items : List SetItem}
    (h : oneCharItems? [.char t] = some items) : ∀ i ∈ items, i.IsUnicode := by
  rcases t with ⟨rule, d⟩ | ⟨rule, d⟩ | - | - | ⟨rule, - | -, is⟩
  · obtain rfl : [.single d] = items := Option.some.inj h
    simp [SetItem.IsUnicode]
  · cases h
  · cases h
  · cases h
  · obtain rfl : is = items := Option.some.inj h
    exact ht.2
  · cases h

/-- Alternatives that ignore letter case still do when they are joined. -/
theorem ignoresCase_joinAlternatives {alts : List (List Node)}
    (h : ∀ ns ∈ alts, ∀ n ∈ ns, n.IgnoresCase) :
    ∀ n ∈ joinAlternatives .fold alts, n.IgnoresCase := by
  refine forall_mem_joinAlternatives h (fun items hitems => ⟨rfl, fun i hi => ?_⟩)
    fun n m ns hall => ?_
  · obtain ⟨t, is, his, hi, ht⟩ := hitems i hi
    exact isUnicode_of_oneCharItems? ht his i hi
  · refine Node.ignoresCase_oneOf fun k hk => ?_
    obtain ⟨ms, hms, rfl⟩ := List.mem_map.mp hk
    exact Node.ignoresCase_ofList (hall ms hms)

end SigmaRules.Regex
