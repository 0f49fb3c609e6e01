/-
SigmaRules/Proofs/Regex/Widening.lean

What joined alternatives find when there are more of them.  Joining never gains a match
(`exists_mem_ways_of_join`), so with more alternatives no match is lost unless joining
loses it.

It can lose one only where alternatives are a common beginning and one character each,
and become a set (`Merged`).  Fewer of them are merged to a set in the same way, with fewer
items, and a set with more items accepts more, even if none of the two accepts what an
alternative on its own does.  This leaves alternatives that are all the same, which are
not merged: what the one character of these accepts, the set of all the others has to
accept (`mem_ways_join_of_subset`).
-/
import SigmaRules.Proofs.Regex.Merging

namespace SigmaRules.Regex

open Text

/-! ### Tests without regard to letter case -/

/-- If the test may be merged to a set, it disregards letter case, and has no class of ASCII
characters. -/
def CharTest.IsFolded : CharTest → Prop
  | .literal rule _ => rule = .fold
  | .set rule false items => rule = .fold ∧ ∀ i ∈ items, i.IsUnicode
  | _ => True

/-- If the node is one character, its test is folded. -/
def Node.IsFolded : Node → Prop
  | .char t => t.IsFolded
  | _ => True

namespace CharTest.IsFolded

variable {t : CharTest}

theorem isUnicode (h : t.IsFolded) : ∀ i ∈ t.items, i.IsUnicode := by
  rcases t with ⟨r, d⟩ | ⟨r, d⟩ | - | - | ⟨r, - | -, is⟩
  · simp [items, oneCharItems?, SetItem.IsUnicode]
  · simp [items, oneCharItems?]
  · simp [items, oneCharItems?]
  · simp [items, oneCharItems?]
  · exact h.2
  · simp [items, oneCharItems?]

/-- A character accepts what it accepts as the member of a set.  A capital beyond the basic plane
accepts nothing there. -/
theorem accepts_of_holdsFolded (h : t.IsFolded) {i : SetItem} (hi : i ∈ t.items) {c : Char}
    (hc : i.holdsFolded .fold (lowerCode c.toNat) = true) : t.accepts c = true := by
  rcases t with ⟨r, d⟩ | ⟨r, d⟩ | - | - | ⟨r, - | -, is⟩
  · obtain rfl : r = .fold := h
    obtain rfl : i = .single d := List.mem_singleton.mp hi
    rw [accepts, same_eq_holdsFolded ?_ c.toNat]
    · exact hc
    by_cases hplane : d < 0x10000
    · exact .inl hplane
    -- what is compared with it is in lower case
    · have heq : lowerCode c.toNat = d := by
        simpa [SetItem.holdsFolded, Nat.not_lt.mp hplane] using hc
      right
      rw [← heq]
      exact lowerCode_lowerCode (heq ▸ Nat.not_lt.mp hplane)
  · cases hi
  · cases hi
  · cases hi
  · obtain ⟨rfl, his⟩ := h
    rw [accepts, setHolds_fold his, Bool.bne_false]
    exact List.any_eq_true.mpr ⟨i, hi, hc⟩
  · cases hi

end CharTest.IsFolded

theorem isFolded_of_endings {start : List Node} {tests : List CharTest}
    (h : ∀ ns ∈ endings start tests, ∀ n ∈ ns, n.IsFolded) : ∀ t ∈ tests, t.IsFolded :=
  fun t ht => h _ (List.mem_map_of_mem ht) (.char t) (by simp)

/-- Some of the alternatives that are merged have the same common beginning. -/
theorem exists_endings_of_subset {start : List Node} {tests : List CharTest}
    {alts : List (List Node)} (h : alts ⊆ endings start tests) :
    ∃ us, us ⊆ tests ∧ endings start us = alts := by
  induction alts with
  | nil => exact ⟨[], by simp, rfl⟩
  | cons ns alts ih =>
    obtain ⟨hns, hrest⟩ := List.cons_subset.mp h
    obtain ⟨u, hu, rfl⟩ := List.mem_map.mp hns
    obtain ⟨us, hus, rfl⟩ := ih hrest
    exact ⟨u :: us, List.cons_subset.mpr ⟨hu, hus⟩, rfl⟩

/-- **Joining gains no match**, for alternatives that disregard letter case. -/
theorem exists_mem_ways_of_join {alts : List (List Node)} (hne : alts ≠ [])
    (hfold : ∀ ns ∈ alts, ∀ n ∈ ns, n.IsFolded) {s s' : State}
    (h : s' ∈ (Node.ofList (joinAlternatives .fold alts)).ways s) :
    ∃ ns ∈ alts, s' ∈ (Node.ofList ns).ways s := by
  rcases merged_or_mem_ways_iff hne with ⟨start, tests, hm, rfl⟩ | hplain
  · have hfolded := isFolded_of_endings hfold
    rw [hm.joinAlternatives_eq] at h
    refine exists_mem_ways_endings (fun c hc => ?_) h
    rw [accepts_mergedSet_iff fun t ht => (hfolded t ht).isUnicode] at hc
    obtain ⟨t, ht, i, hi, hc⟩ := hc
    exact ⟨t, ht, (hfolded t ht).accepts_of_holdsFolded hi hc⟩
  · exact (hplain s s').mp h

/-- **More alternatives lose no match**, if these disregard letter case.  If the ones that there
were are all the same, and now are merged with others to a set, the character that they end with
has to be one that a set does not miss. -/
theorem mem_ways_join_of_subset {alts more : List (List Node)} (hne : alts ≠ [])
    (hsub : alts ⊆ more) (hfold : ∀ ns ∈ more, ∀ n ∈ ns, n.IsFolded)
    (hlone : ∀ start tests, Merged start tests → endings start tests = more → ∀ t,
      (∀ ns ∈ alts, ns = start ++ [.char t]) → t.IsFoldable) {s s' : State}
    (h : s' ∈ (Node.ofList (joinAlternatives .fold alts)).ways s) :
    s' ∈ (Node.ofList (joinAlternatives .fold more)).ways s := by
  have hfold' : ∀ ns ∈ alts, ∀ n ∈ ns, n.IsFolded := fun ns hns => hfold ns (hsub hns)
  rcases merged_or_mem_ways_iff (List.ne_nil_of_mem (hsub (List.head_mem hne))) with
    ⟨start, tests, hm, rfl⟩ | hplain
  · have hunicode : ∀ t ∈ tests, ∀ i ∈ t.items, i.IsUnicode := fun t ht =>
      (isFolded_of_endings hfold t ht).isUnicode
    obtain ⟨us, hus, rfl⟩ := exists_endings_of_subset hsub
    rw [hm.joinAlternatives_eq]
    by_cases hdiffer : ∃ t ∈ us, ∃ u ∈ us, t ≠ u
    -- both are sets, and one has more items
    · have hu : Merged start us := ⟨hm.leaves, fun t ht => hm.sets t (hus ht), hdiffer⟩
      rw [hu.joinAlternatives_eq] at h
      refine mem_ways_last (fun c hc => ?_) h
      rw [accepts_mergedSet_iff fun t ht => hunicode t (hus ht)] at hc
      obtain ⟨t, ht, hc⟩ := hc
      exact (accepts_mergedSet_iff hunicode c).mpr ⟨t, hus ht, hc⟩
    -- one character becomes a member of the set
    · obtain ⟨ns, hns, hs⟩ := exists_mem_ways_of_join hne hfold' h
      obtain ⟨t, ht, rfl⟩ := List.mem_map.mp hns
      have hsame : ∀ ns ∈ endings start us, ns = start ++ [.char t] := by
        refine List.forall_mem_map.mpr fun u hu => ?_
        push Not at hdiffer
        rw [hdiffer u hu t ht]
      have hfoldable := hlone start tests hm rfl t hsame
      refine mem_ways_last (fun c hc => ?_) hs
      rw [(accepts_of_oneCharItems? hfoldable (CharTest.items_eq (hm.sets t (hus ht)))).2 c] at hc
      obtain ⟨i, hi, hc⟩ := List.any_eq_true.mp hc
      exact (accepts_mergedSet_iff hunicode c).mpr ⟨t, hus ht, i, hi, hc⟩
  · obtain ⟨ns, hns, hs⟩ := exists_mem_ways_of_join hne hfold' h
    exact (hplain s s').mpr ⟨ns, hsub hns, hs⟩

end SigmaRules.Regex
