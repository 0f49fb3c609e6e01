/-
SigmaRules/Proofs/Pattern/Dash.lean

The variants of a text, one for each of the dashes.  What is replaced is the first
hyphen or slash that starts a word (`StartsWord`), and nothing else
(`replaceDash_eq_set`); a text without one is left as it is (`replaceDash_eq_self`).

So the text itself is among its variants (`mem_dashVariants_self`), and texts that
differ in that place only, with a hyphen in one and a slash in the other, have the
same variants (`dashVariants_set`).
-/
import Mathlib.Order.Nat
import SigmaRules.Pattern.Dash

namespace SigmaRules.Pattern

open Text

/-- A hyphen or a slash stands at the index, where no word ends, and a word comes after it; `fresh`
says that no word ends before the text. -/
structure StartsWord (fresh : Bool) (s : List Char) (i : Nat) : Prop where
  /-- There is one of the two characters. -/
  dash : s[i]? = some '-' ∨ s[i]? = some '/'
  /-- It is the first character, or comes after one that belongs to no word. -/
  before : i = 0 ∧ fresh = true ∨ ∃ j c, i = j + 1 ∧ s[j]? = some c ∧ isAsciiWord c = false
  /-- The next character belongs to a word. -/
  after : ∃ c, s[i + 1]? = some c ∧ isAsciiWord c = true

variable {fresh : Bool} {s : List Char} {i : Nat} {c : Char}

/-- Whether a dash starts a word is told by the characters around it. -/
theorem startsWord_iff : StartsWord fresh s i ↔
    (s[i]? = some '-' ∨ s[i]? = some '/') ∧
      (i = 0 ∧ fresh = true ∨ 0 < i ∧ s[i - 1]?.any (!isAsciiWord ·) = true) ∧
        s[i + 1]?.any isAsciiWord = true := by
  simp only [Option.any_eq_true, Bool.not_eq_true']
  constructor
  · rintro ⟨hdash, hfirst | ⟨j, c, rfl, hc⟩, hafter⟩
    · exact ⟨hdash, .inl hfirst, hafter⟩
    · exact ⟨hdash, .inr ⟨Nat.succ_pos j, c, hc⟩, hafter⟩
  · rintro ⟨hdash, hfirst | ⟨hpos, c, hc⟩, hafter⟩
    · exact ⟨hdash, .inl hfirst, hafter⟩
    · exact ⟨hdash, .inr ⟨i - 1, c, by omega, hc⟩, hafter⟩

instance : Decidable (StartsWord fresh s i) := decidable_of_iff' _ startsWord_iff

theorem startsWord_zero_iff : StartsWord fresh s 0 ↔ fresh = true ∧ dashStarts s = true := by
  constructor
  · rintro ⟨hdash, hbefore, d, hd, hword⟩
    obtain ⟨-, hfresh⟩ : (0 : Nat) = 0 ∧ fresh = true := by simpa using hbefore
    rcases s with - | ⟨c, - | ⟨e, rest⟩⟩
    · simp at hd
    · simp at hd
    · simp_all [dashStarts]
  · rintro ⟨hfresh, hstarts⟩
    rcases s with - | ⟨c, - | ⟨e, rest⟩⟩
    · cases hstarts
    · cases hstarts
    · simp only [dashStarts, Bool.and_eq_true, Bool.or_eq_true, beq_iff_eq] at hstarts
      exact ⟨by simpa using hstarts.1, .inl ⟨rfl, hfresh⟩, e, rfl, hstarts.2⟩

theorem startsWord_succ_iff :
    StartsWord fresh (c :: s) (i + 1) ↔ StartsWord (!isAsciiWord c) s i := by
  constructor
  · rintro ⟨hdash, hbefore, hafter⟩
    refine ⟨hdash, ?_, hafter⟩
    obtain ⟨hzero, -⟩ | ⟨j, d, hj, hd, hword⟩ := hbefore
    · cases hzero
    obtain rfl : i = j := Nat.succ.inj hj
    rcases i with - | i
    · obtain rfl : c = d := Option.some.inj hd
      exact .inl ⟨rfl, by rw [hword, Bool.not_false]⟩
    · exact .inr ⟨i, d, rfl, hd, hword⟩
  · rintro ⟨hdash, hbefore, hafter⟩
    refine ⟨hdash, .inr ?_, hafter⟩
    obtain ⟨rfl, hfresh⟩ | ⟨j, d, rfl, hd, hword⟩ := hbefore
    · exact ⟨0, c, rfl, rfl, by simpa using hfresh⟩
    · exact ⟨j + 1, d, rfl, hd, hword⟩

/-! ### What is replaced -/

section Replace

variable {dash : Char}

/-- **The first dash that starts a word is replaced**, and nothing else. -/
theorem replaceDash_eq_set (h : IsLeast {i | StartsWord fresh s i} i) :
    replaceDash dash fresh s = s.set i dash := by
  induction s generalizing fresh i with
  | nil =>
    obtain hdash | hdash := h.1.dash <;> cases hdash
  | cons c rest ih =>
    rw [replaceDash]
    split
    case isTrue hstarts =>
      have hzero : StartsWord fresh (c :: rest) 0 :=
        startsWord_zero_iff.mpr (Bool.and_eq_true_iff.mp hstarts)
      obtain rfl : i = 0 := Nat.le_zero.mp (h.2 hzero)
      rfl
    case isFalse hstarts =>
      rcases i with - | i
      · exact absurd (Bool.and_eq_true_iff.mpr (startsWord_zero_iff.mp h.1)) hstarts
      have hrest : IsLeast {i | StartsWord (!isAsciiWord c) rest i} i := by
        refine ⟨startsWord_succ_iff.mp h.1, fun j hj => ?_⟩
        exact Nat.le_of_succ_le_succ (h.2 (startsWord_succ_iff.mpr hj))
      rw [ih hrest, List.set_cons_succ]

/-- A text in which no dash starts a word is left as it is. -/
theorem replaceDash_eq_self (h : ∀ i, ¬ StartsWord fresh s i) : replaceDash dash fresh s = s := by
  induction s generalizing fresh with
  | nil => rfl
  | cons c rest ih =>
    have hstarts : ¬ (fresh && dashStarts (c :: rest)) = true := fun hstarts =>
      h 0 (startsWord_zero_iff.mpr (Bool.and_eq_true_iff.mp hstarts))
    rw [replaceDash, if_neg hstarts, ih fun i hi => h (i + 1) (startsWord_succ_iff.mpr hi)]

end Replace

/-! ### Variants -/

theorem dashVariants_of_isLeast (h : IsLeast {i | StartsWord true s i} i) :
    dashVariants s = dashes.map fun dash => s.set i dash :=
  List.map_congr_left fun _ _ => replaceDash_eq_set h

theorem dashVariants_of_not (h : ∀ i, ¬ StartsWord true s i) :
    dashVariants s = List.replicate 5 s := by
  rw [dashVariants, List.map_congr_left fun _ _ => replaceDash_eq_self h]
  rfl

/-- **A text is one of its variants.** -/
theorem mem_dashVariants_self (s : List Char) : s ∈ dashVariants s := by
  classical
  by_cases h : ∃ i, StartsWord true s i
  · have hleast : IsLeast {i | StartsWord true s i} (Nat.find h) := Nat.isLeast_find h
    rw [dashVariants_of_isLeast hleast]
    -- the dash that stands there is one of those that are put there
    obtain ⟨dash, hdash, hget⟩ : ∃ dash ∈ dashes, s[Nat.find h]? = some dash := by
      obtain hget | hget := hleast.1.dash
      · exact ⟨_, by decide, hget⟩
      · exact ⟨_, by decide, hget⟩
    obtain ⟨hlt, rfl⟩ := List.getElem?_eq_some_iff.mp hget
    exact List.mem_map.mpr ⟨_, hdash, List.set_getElem_self hlt⟩
  · rw [dashVariants_of_not (not_exists.mp h)]
    exact List.mem_replicate.mpr ⟨by decide, rfl⟩

/-- The first dash that starts a word may be any of the two. -/
theorem isLeast_set {dash : Char} (hdash : dash = '-' ∨ dash = '/')
    (h : IsLeast {i | StartsWord true s i} i) :
    IsLeast {j | StartsWord true (s.set i dash) j} i := by
  have hlt : i < s.length := by
    obtain hget | hget := h.1.dash <;> exact (List.getElem?_eq_some_iff.mp hget).1
  have hself : (s.set i dash)[i]? = some dash := List.getElem?_set_self hlt
  constructor
  · obtain ⟨-, hbefore, d, hd, hword⟩ := h.1
    refine ⟨by simpa [hself] using hdash, ?_, d, ?_, hword⟩
    · obtain hfirst | ⟨j, c, rfl, hc, hc'⟩ := hbefore
      · exact .inl hfirst
      · exact .inr ⟨j, c, rfl, by rw [List.getElem?_set_ne (by omega), hc], hc'⟩
    · rw [List.getElem?_set_ne (by omega), hd]
  · rintro j ⟨hdash', hbefore, d, hd, hword⟩
    by_contra hlt'
    have hji : j < i := by omega
    have hnext : i ≠ j + 1 := by
      -- the dash belongs to no word
      rintro rfl
      obtain rfl := Option.some.inj (hself.symm.trans hd)
      rcases hdash with rfl | rfl <;> cases hword
    have hstarts : StartsWord true s j := by
      refine ⟨?_, ?_, d, ?_, hword⟩
      · rwa [List.getElem?_set_ne (by omega)] at hdash'
      · obtain hfirst | ⟨k, c, rfl, hc, hc'⟩ := hbefore
        · exact .inl hfirst
        · rw [List.getElem?_set_ne (by omega)] at hc
          exact .inr ⟨k, c, rfl, hc, hc'⟩
      · rwa [List.getElem?_set_ne hnext] at hd
    exact absurd (h.2 hstarts) (by omega)

/-- **Hyphens and slashes have the same variants.** -/
theorem dashVariants_set {dash : Char} (hdash : dash = '-' ∨ dash = '/')
    (h : IsLeast {i | StartsWord true s i} i) :
    dashVariants (s.set i dash) = dashVariants s := by
  rw [dashVariants_of_isLeast (isLeast_set hdash h), dashVariants_of_isLeast h]
  exact List.map_congr_left fun _ _ => List.set_set _

end SigmaRules.Pattern
