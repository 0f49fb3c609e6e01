/-
SigmaRules/Proofs/Regex/Joining.lean

Alternatives lose no match when they are joined.  A common beginning is taken
out, which changes nothing (`mem_ways_shared`); alternatives of one character
become a set, and the set accepts whatever one of them accepts, at least if
their characters lie in the basic plane (`Node.IsNarrow`).  Beyond it, a set
compares a character as it is written.

What joining makes is again of this kind, so alternatives may be nested.
-/
import Mathlib.Data.List.Basic
import SigmaRules.Proofs.Answers
import SigmaRules.Proofs.Regex.Spelling
import SigmaRules.Regex.Parser

namespace SigmaRules.Regex

/-! ### Sets of characters -/

/-- If the test is one that alternatives are merged by, it names characters of the
basic plane, under the rule. -/
def CharTest.IsNarrow (rule : CaseRule) : CharTest → Prop
  | .literal r c => r = rule ∧ c < 0x10000
  | .set r false items => r = rule ∧ ∀ i ∈ items, ∃ c < 0x10000, i = .single c
  | _ => True

/-- If the node is one character, its test is narrow. -/
def Node.IsNarrow (rule : CaseRule) : Node → Prop
  | .char t => t.IsNarrow rule
  | _ => True

/-- A set with more items accepts more. -/
theorem setHolds_mono {rule : CaseRule} {items more : List SetItem} {c : Nat}
    (hn : ∀ i ∈ items, ∃ d < 0x10000, i = .single d) (hsub : items ⊆ more)
    (h : setHolds rule items c = true) : setHolds rule more c = true := by
  by_cases hi : (rule != .exact && items.any (·.isCased rule)) = true
  · -- items with two cases stay
    have hm : (rule != .exact && more.any (·.isCased rule)) = true := by
      obtain ⟨hr, hc⟩ := Bool.and_eq_true_iff.mp hi
      obtain ⟨i, hmem, hc⟩ := List.any_eq_true.mp hc
      exact Bool.and_eq_true_iff.mpr ⟨hr, List.any_eq_true.mpr ⟨i, hsub hmem, hc⟩⟩
    rw [setHolds, if_pos hi] at h
    rw [setHolds, if_pos hm]
    obtain ⟨i, hmem, hc⟩ := List.any_eq_true.mp h
    exact List.any_eq_true.mpr ⟨i, hsub hmem, hc⟩
  · -- without such items, the character itself is one of them
    rw [setHolds, if_neg hi] at h
    obtain ⟨i, hmem, hc⟩ := List.any_eq_true.mp h
    obtain ⟨d, hd, rfl⟩ := hn i hmem
    obtain rfl : c = d := by simpa [SetItem.holds] using hc
    rw [setHolds]
    split
    · exact List.any_eq_true.mpr
        ⟨_, hsub hmem, by simp [SetItem.holdsFolded, Nat.not_le.mpr hd]⟩
    · exact List.any_eq_true.mpr ⟨_, hsub hmem, hc⟩

/-- A set of one character accepts what the character accepts. -/
theorem setHolds_single {rule : CaseRule} {c d : Nat} (hd : d < 0x10000)
    (h : rule.same d c = true) : setHolds rule [.single d] c = true := by
  have hd' := Nat.not_le.mpr hd
  rw [CaseRule.same] at h
  by_cases hc : rule.isCased d = true
  -- both compare the lower case of the characters
  · have hr : (rule != .exact) = true := by
      rcases rule with - | - | -
      · simp [CaseRule.isCased] at hc
      · rfl
      · rfl
    rw [if_pos hc] at h
    rw [setHolds, if_pos (by simp [hr, SetItem.isCased, hc])]
    rcases rule with - | - | -
    · cases hr
    · simpa [SetItem.holdsFolded, hd'] using h
    · simpa [SetItem.holdsFolded, hd', CaseRule.lower] using h
  -- both compare the characters as they are
  · rw [if_neg hc] at h
    rw [setHolds, if_neg (by simp [SetItem.isCased, hd', hc])]
    simpa [SetItem.holds] using h

/-- A merged set accepts whatever one of its parts accepts. -/
theorem accepts_merged {rule : CaseRule} {t : CharTest} {items more : List SetItem} {c : Char}
    (hitems : oneCharItems? [.char t] = some items) (hn : t.IsNarrow rule) (hsub : items ⊆ more)
    (h : t.accepts c = true) : (CharTest.set rule false more).accepts c = true := by
  have hset : setHolds rule more c.toNat = true := by
    rcases t with ⟨r, d⟩ | ⟨r, d⟩ | - | - | ⟨r, - | -, is⟩
    · obtain ⟨rfl, hd⟩ := hn
      obtain rfl : [.single d] = items := Option.some.inj hitems
      exact setHolds_mono (by simpa using hd) hsub (setHolds_single hd h)
    · cases hitems
    · cases hitems
    · cases hitems
    · obtain ⟨rfl, his⟩ := hn
      obtain rfl : is = items := Option.some.inj hitems
      exact setHolds_mono his hsub (by simpa [CharTest.accepts] using h)
    · cases hitems
  simpa [CharTest.accepts] using hset

/-- The items of a narrow character are characters of the basic plane. -/
theorem single_of_oneCharItems? {rule : CaseRule} {t : CharTest} {items : List SetItem}
    (hitems : oneCharItems? [.char t] = some items) (hn : t.IsNarrow rule) :
    ∀ i ∈ items, ∃ c < 0x10000, i = .single c := by
  rcases t with ⟨r, d⟩ | ⟨r, d⟩ | - | - | ⟨r, - | -, is⟩
  · obtain rfl : [.single d] = items := Option.some.inj hitems
    simpa using hn.2
  · cases hitems
  · cases hitems
  · cases hitems
  · obtain rfl : is = items := Option.some.inj hitems
    exact hn.2
  · cases hitems

/-- An alternative that becomes a part of a set is one character. -/
theorem exists_char_of_oneCharItems? {ns : List Node} {items : List SetItem}
    (h : oneCharItems? ns = some items) : ∃ t, ns = [.char t] := by
  rw [oneCharItems?.eq_def] at h
  split at h
  · exact ⟨_, rfl⟩
  · exact ⟨_, rfl⟩
  · cases h

/-! ### Common beginnings -/

/-- The common beginning, followed by what is left of each, is what there was. -/
theorem map_append_commonStart (first : List Node) (others : List (List Node)) :
    (commonStart first others).2.map ((commonStart first others).1 ++ ·) = first :: others := by
  induction first generalizing others with
  | nil => simp [commonStart]
  | cons n rest ih =>
    rw [commonStart]
    split
    case isFalse => simp
    case isTrue h =>
      have hothers : (others.map List.tail).map (n :: ·) = others := by
        have hall := List.all_eq_true.mp (Bool.and_eq_true_iff.mp h).2
        rw [List.map_map]
        refine (List.map_congr_left fun o ho => ?_).trans (List.map_id others)
        have hhead : o.head? = some n := by simpa using hall o ho
        rcases o with - | ⟨m, o⟩
        · simp at hhead
        · obtain rfl : m = n := by simpa using hhead
          rfl
      have hrest := ih (others.map List.tail)
      calc (commonStart rest (others.map List.tail)).2.map
            (n :: (commonStart rest (others.map List.tail)).1 ++ ·)
          = ((commonStart rest (others.map List.tail)).2.map
              ((commonStart rest (others.map List.tail)).1 ++ ·)).map (n :: ·) := by
            rw [List.map_map]
            rfl
        _ = (n :: rest) :: others := by rw [hrest, List.map_cons, hothers]

/-- What is left of the alternatives does not start with one leaf in common. -/
theorem exists_head?_commonStart_ne (first : List Node) (others : List (List Node)) {n : Node}
    (hn : n.isLeaf = true) : ∃ t ∈ (commonStart first others).2, t.head? ≠ some n := by
  induction first generalizing others with
  | nil => exact ⟨[], by simp [commonStart], by simp⟩
  | cons m rest ih =>
    rw [commonStart]
    split
    case isTrue => exact ih (others.map List.tail)
    case isFalse h =>
      by_cases hm : m = n
      · obtain ⟨o, ho, hhead⟩ : ∃ o ∈ others, o.head? ≠ some n := by
          subst hm
          simpa [hn] using h
        exact ⟨o, List.mem_cons_of_mem _ ho, hhead⟩
      · exact ⟨m :: rest, List.mem_cons_self, by simpa using hm⟩

theorem mem_ways_oneOf {ns : List Node} (hne : ns ≠ []) {s s' : State} :
    s' ∈ (Node.oneOf ns).ways s ↔ ∃ n ∈ ns, s' ∈ n.ways s := by
  induction ns with
  | nil => exact absurd rfl hne
  | cons n ns ih =>
    rcases ns with - | ⟨m, ns⟩
    · simp [Node.oneOf]
    · rw [Node.oneOf, Node.ways_alt, List.mem_append, ih (by simp)]
      simp

/-- To take out a common beginning changes nothing. -/
theorem mem_ways_shared {shared : List Node} {tails : List (List Node)} (hne : tails ≠ [])
    {s s' : State} :
    s' ∈ (Node.ofList (shared ++ [.oneOf (tails.map .ofList)])).ways s ↔
      ∃ t ∈ tails, s' ∈ (Node.ofList (shared ++ t)).ways s := by
  have hone : ∀ u, s' ∈ (Node.ofList [.oneOf (tails.map .ofList)]).ways u ↔
      ∃ t ∈ tails, s' ∈ (Node.ofList t).ways u := by
    intro u
    rw [Node.ways_ofList_singleton, mem_ways_oneOf (List.map_eq_nil_iff.not.mpr hne)]
    simp only [List.mem_map, exists_exists_and_eq_and]
  simp only [Node.mem_ways_ofList_append, hone]
  constructor
  · rintro ⟨u, hu, t, ht, hs⟩
    exact ⟨t, ht, u, hu, hs⟩
  · rintro ⟨t, ht, u, hu, hs⟩
    exact ⟨u, hu, t, ht, hs⟩

/-! ### Joining -/

/-- What joining two alternatives or more makes: a common beginning, and then a set or
what is left of each, where no leaf is left that all start with. -/
theorem joinAlternatives_cases (rule : CaseRule) (alts : List (List Node)) (h2 : 2 ≤ alts.length) :
    ∃ (shared : List Node) (tails : List (List Node)), tails.map (shared ++ ·) = alts ∧
      (∀ n : Node, n.isLeaf = true → ∃ t ∈ tails, t.head? ≠ some n) ∧
      ((∃ items : List (List SetItem), tails.map oneCharItems? = items.map some ∧
          joinAlternatives rule alts
            = shared ++ [.char (.set rule false items.flatten.eraseDups)]) ∨
        joinAlternatives rule alts = shared ++ [.oneOf (tails.map .ofList)]) := by
  rcases alts with - | ⟨first, - | ⟨second, others⟩⟩
  · simp at h2
  · simp at h2
  refine ⟨_, _, map_append_commonStart first (second :: others),
    fun n hn => exists_head?_commonStart_ne first (second :: others) hn, ?_⟩
  rw [joinAlternatives]
  rcases h : (commonStart first (second :: others)).2.mapM oneCharItems? with - | items
  · exact .inr (by simp only [h])
  · exact .inl ⟨items, map_eq_of_mapM h, by simp only [h]⟩
  · simp

/-- **Joined alternatives lose no match** of any of them. -/
theorem mem_ways_joinAlternatives {rule : CaseRule} {alts : List (List Node)} {ns : List Node}
    (hn : ∀ ms ∈ alts, ∀ n ∈ ms, n.IsNarrow rule) (hns : ns ∈ alts) {s s' : State}
    (h : s' ∈ (Node.ofList ns).ways s) :
    s' ∈ (Node.ofList (joinAlternatives rule alts)).ways s := by
  rcases alts with - | ⟨first, - | ⟨second, others⟩⟩
  · simp at hns
  · obtain rfl : ns = first := by simpa using hns
    exact h
  obtain ⟨shared, tails, halts, -, hjoin⟩ :=
    joinAlternatives_cases rule (first :: second :: others) (by simp)
  obtain ⟨t, ht, rfl⟩ := List.mem_map.mp (halts ▸ hns)
  rcases hjoin with ⟨items, hitems, hjoin⟩ | hjoin
  -- after the common beginning there is one character, which the set accepts
  · rw [hjoin]
    obtain ⟨u, hu, hs⟩ := Node.mem_ways_ofList_append.mp h
    refine Node.mem_ways_ofList_append.mpr ⟨u, hu, ?_⟩
    obtain ⟨is, his, hist⟩ :=
      List.mem_map.mp (hitems ▸ List.mem_map_of_mem (f := oneCharItems?) ht)
    obtain ⟨test, rfl⟩ := exists_char_of_oneCharItems? hist.symm
    rw [Node.ways_ofList_singleton, Node.ways_char] at hs ⊢
    rcases hafter : u.after with - | ⟨c, rest⟩
    · simp [hafter] at hs
    · simp only [hafter, List.mem_ite_nil_right, List.mem_singleton] at hs ⊢
      have hnar : test.IsNarrow rule := hn _ hns (.char test) (by simp)
      have hsub : is ⊆ items.flatten.eraseDups := fun i hi =>
        List.mem_eraseDups.mpr (List.mem_flatten.mpr ⟨is, his, hi⟩)
      exact ⟨accepts_merged hist.symm hnar hsub hs.1, hs.2⟩
  · rw [hjoin, mem_ways_shared (List.ne_nil_of_mem ht)]
    exact ⟨t, ht, h⟩

/-! ### What joining makes -/

/-- A property that all nodes of the alternatives have is one of what joining makes, if
merged sets and choices of two sequences or more have it. -/
theorem forall_mem_joinAlternatives {P : Node → Prop} {rule : CaseRule} {alts : List (List Node)}
    (h : ∀ ns ∈ alts, ∀ n ∈ ns, P n)
    (hset : ∀ items : List SetItem,
      (∀ i ∈ items, ∃ t is, oneCharItems? [.char t] = some is ∧ i ∈ is ∧ P (.char t)) →
      P (.char (.set rule false items)))
    (hone : ∀ n m ns, (∀ ms ∈ n :: m :: ns, ∀ k ∈ ms, P k) →
      P (.oneOf ((n :: m :: ns).map .ofList))) :
    ∀ n ∈ joinAlternatives rule alts, P n := by
  rcases alts with - | ⟨first, - | ⟨second, others⟩⟩
  · simp [joinAlternatives]
  · exact h first (by simp)
  obtain ⟨shared, tails, halts, -, hjoin⟩ :=
    joinAlternatives_cases rule (first :: second :: others) (by simp)
  have hall : ∀ t ∈ tails, ∀ n ∈ shared ++ t, P n := fun t ht =>
    h _ (halts ▸ List.mem_map_of_mem (f := (shared ++ ·)) ht)
  -- there are as many tails as alternatives, so two at least
  rcases tails with - | ⟨t, - | ⟨u, tails⟩⟩
  · simp at halts
  · simp at halts
  have hshared : ∀ n ∈ shared, P n := fun n hn =>
    hall t (by simp) n (List.mem_append_left t hn)
  rcases hjoin with ⟨items, hitems, hjoin⟩ | hjoin
  · rw [hjoin]
    intro n hn
    rcases List.mem_append.mp hn with hn | hn
    · exact hshared n hn
    obtain rfl := List.mem_singleton.mp hn
    refine hset _ fun i hi => ?_
    obtain ⟨is, his, hi⟩ := List.mem_flatten.mp (List.mem_eraseDups.mp hi)
    obtain ⟨v, hv, hvs⟩ := List.mem_map.mp (hitems ▸ List.mem_map_of_mem (f := some) his)
    obtain ⟨test, rfl⟩ := exists_char_of_oneCharItems? hvs
    exact ⟨test, is, hvs, hi, hall _ hv _ (by simp)⟩
  · rw [hjoin]
    intro n hn
    rcases List.mem_append.mp hn with hn | hn
    · exact hshared n hn
    obtain rfl := List.mem_singleton.mp hn
    exact hone t u tails fun v hv n hn => hall v hv n (List.mem_append_right shared hn)

theorem isNarrow_joinAlternatives {rule : CaseRule} {alts : List (List Node)}
    (h : ∀ ns ∈ alts, ∀ n ∈ ns, n.IsNarrow rule) :
    ∀ n ∈ joinAlternatives rule alts, n.IsNarrow rule := by
  refine forall_mem_joinAlternatives h (fun items hitems => ⟨rfl, fun i hi => ?_⟩)
    fun n m ns _ => trivial
  obtain ⟨t, is, his, hi, ht⟩ := hitems i hi
  exact single_of_oneCharItems? his ht i hi

theorem lookBehindsFixed_ofList {ns : List Node} (h : ∀ n ∈ ns, n.lookBehindsFixed = true) :
    (Node.ofList ns).lookBehindsFixed = true := by
  induction ns with
  | nil => rfl
  | cons n ns ih =>
    rw [Node.ofList_cons, Node.lookBehindsFixed, h n (by simp), ih fun m hm => h m (by simp [hm])]
    rfl

theorem lookBehindsFixed_oneOf {ns : List Node} (h : ∀ n ∈ ns, n.lookBehindsFixed = true) :
    (Node.oneOf ns).lookBehindsFixed = true := by
  induction ns with
  | nil => rfl
  | cons n ns ih =>
    rcases ns with - | ⟨m, ns⟩
    · exact h n (by simp)
    · rw [Node.oneOf, Node.lookBehindsFixed, h n (by simp), ih fun k hk => h k (by simp [hk])]
      rfl

theorem lookBehindsFixed_joinAlternatives (rule : CaseRule) {alts : List (List Node)}
    (h : ∀ ns ∈ alts, ∀ n ∈ ns, n.lookBehindsFixed = true) :
    ∀ n ∈ joinAlternatives rule alts, n.lookBehindsFixed = true := by
  refine forall_mem_joinAlternatives h (fun _ _ => rfl) fun n m ns hall => ?_
  refine lookBehindsFixed_oneOf fun k hk => ?_
  obtain ⟨ms, hms, rfl⟩ := List.mem_map.mp hk
  exact lookBehindsFixed_ofList (hall ms hms)

end SigmaRules.Regex
