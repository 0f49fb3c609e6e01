/-
SigmaRules/Proofs/Pattern/Alignment.lean

Texts within larger texts in base 64.  A group of four characters is written
by three bytes, so of the characters that bytes are written with

* those of complete groups, and of the last group those whose six bits are all
  there (`settled`), stay the same whatever bytes come after
  (`settled_isPrefix`);
* those past the trim at the start stay the same whatever bytes come before, as
  long as there are as many of them, modulo three (`drop_settled_append`);
* whole groups before them change nothing (`toBase64_append`).

An alignment is what is left after both trims, so it occurs wherever the bytes
are a part of what is written (`alignment_isInfix`).  Nothing is left of a single
byte after another one, and in no other case (`alignment_eq_nil_iff`).
-/
import SigmaRules.Pattern.Alignment

namespace SigmaRules.Pattern

open Bytes

/-! ### What does not depend on the bytes after -/

/-- The characters all of whose bits are given by the bytes. -/
def settled : List UInt8 → List Char
  | [] => []
  | [a] => [base64Char (a.toNat / 4)]
  | [a, b] => [base64Char (a.toNat / 4), base64Char (a.toNat % 4 * 16 + b.toNat / 16)]
  | a :: b :: c :: rest =>
    [base64Char (a.toNat / 4), base64Char (a.toNat % 4 * 16 + b.toNat / 16),
      base64Char (b.toNat % 16 * 4 + c.toNat / 64), base64Char (c.toNat % 64)] ++ settled rest

theorem settled_isPrefix (bs after : List UInt8) : settled bs <+: toBase64 (bs ++ after) := by
  fun_induction settled bs with
  | case1 => exact List.nil_prefix
  | case2 a => rcases after with - | ⟨b, - | ⟨c, after⟩⟩ <;> simp [toBase64]
  | case3 a b => rcases after with - | ⟨c, after⟩ <;> simp [toBase64]
  | case4 a b c rest ih =>
    show _ ++ settled rest <+: toBase64 (a :: b :: c :: (rest ++ after))
    rw [toBase64]
    exact (List.prefix_append_right_inj _).mpr ih

/-- The trim at the end leaves what does not depend on the bytes after. -/
theorem take_endTrim (bs : List UInt8) :
    endTrim (bs.length % 3) ≤ (toBase64 bs).length ∧
      (toBase64 bs).take ((toBase64 bs).length - endTrim (bs.length % 3)) = settled bs := by
  fun_induction settled bs with
  | case1 => exact ⟨Nat.le_refl _, rfl⟩
  | case2 a => exact ⟨by simp [toBase64, endTrim], by simp [toBase64, endTrim]⟩
  | case3 a b => exact ⟨by simp [toBase64, endTrim], by simp [toBase64, endTrim]⟩
  | case4 a b c rest ih =>
    obtain ⟨hle, htake⟩ := ih
    have hmod : (a :: b :: c :: rest).length % 3 = rest.length % 3 := by
      simp only [List.length_cons]
      omega
    -- a complete group is before the trim
    rw [hmod, toBase64, List.length_append, ← htake]
    refine ⟨Nat.le_add_left_of_le hle, ?_⟩
    rw [Nat.add_sub_assoc hle, List.take_length_add_append]

/-! ### What does not depend on the bytes before -/

theorem toBase64_append (xs ys : List UInt8) (h : 3 ∣ xs.length) :
    toBase64 (xs ++ ys) = toBase64 xs ++ toBase64 ys := by
  fun_induction toBase64 xs with
  | case1 => rfl
  | case2 a => simp at h
  | case3 a b => simp at h
  | case4 a b c rest ih =>
    have hrest : 3 ∣ rest.length := by
      simp only [List.length_cons] at h
      omega
    rw [List.cons_append, List.cons_append, List.cons_append, toBase64, ih hrest]
    simp

/-- Past the trim at the start, bytes that come before leave no trace but their
number. -/
theorem drop_settled_append {xs ys : List UInt8} {n : Nat} (hx : xs.length = n)
    (hy : ys.length = n) (hn : n < 3) (bs : List UInt8) :
    (settled (xs ++ bs)).drop (startTrim n) = (settled (ys ++ bs)).drop (startTrim n) := by
  subst hx
  -- no byte, one or two before: the characters with bits of them are trimmed
  rcases xs with - | ⟨a, - | ⟨b, - | ⟨c, xs⟩⟩⟩
  · obtain rfl : ys = [] := List.eq_nil_of_length_eq_zero hy
    rfl
  · obtain ⟨d, rfl⟩ := List.length_eq_one_iff.mp hy
    rcases bs with - | ⟨u, - | ⟨v, bs⟩⟩ <;> simp [settled, startTrim]
  · obtain ⟨d, e, rfl⟩ : ∃ d e, ys = [d, e] := by
      rcases ys with - | ⟨d, - | ⟨e, - | ⟨_, _⟩⟩⟩ <;> simp at hy ⊢
    rcases bs with - | ⟨u, bs⟩ <;> simp [settled, startTrim]
  · simp only [List.length_cons] at hn
    omega

/-! ### Alignments -/

theorem alignment_eq (shift : Nat) (bs : List UInt8) :
    alignment shift bs = (settled (List.replicate shift 32 ++ bs)).drop (startTrim shift) := by
  have hlen : (bs.length + shift) % 3 = (List.replicate shift 32 ++ bs).length % 3 := by
    simp [Nat.add_comm]
  rw [alignment, hlen, (take_endTrim _).2]

/-- **An alignment occurs wherever its bytes do**: it is a part of what any bytes are
written with that the given bytes are a part of, after as many bytes, modulo
three. -/
theorem alignment_isInfix (before bs after : List UInt8) :
    alignment (before.length % 3) bs <:+: toBase64 (before ++ bs ++ after) := by
  -- whole groups first, and then fewer than three bytes
  obtain ⟨xs, ys, rfl, hxs, hys⟩ : ∃ xs ys : List UInt8,
      before = xs ++ ys ∧ 3 ∣ xs.length ∧ ys.length = before.length % 3 := by
    refine ⟨before.take (before.length / 3 * 3), before.drop (before.length / 3 * 3),
      (List.take_append_drop _ _).symm, ?_, ?_⟩
    · rw [List.length_take, Nat.min_eq_left (Nat.div_mul_le_self _ _)]
      exact Nat.dvd_mul_left 3 _
    · rw [List.length_drop]
      omega
  have hlt : ys.length < 3 := by
    rw [hys]
    exact Nat.mod_lt _ (by decide)
  have hdrop : alignment ys.length bs = (settled (ys ++ bs)).drop (startTrim ys.length) :=
    (alignment_eq ys.length bs).trans
      (drop_settled_append List.length_replicate rfl hlt bs)
  have hafter : settled (ys ++ bs) <:+: toBase64 (ys ++ bs ++ after) :=
    (settled_isPrefix (ys ++ bs) after).isInfix
  have hbefore : toBase64 (ys ++ bs ++ after) <:+: toBase64 (xs ++ ys ++ bs ++ after) := by
    rw [List.append_assoc xs, List.append_assoc xs, toBase64_append xs _ hxs]
    exact (List.suffix_append _ _).isInfix
  rw [← hys, hdrop]
  exact ((List.drop_suffix _ _).isInfix.trans hafter).trans hbefore

theorem alignments_getElem? {s : List Char} (hs : s ≠ []) {shift : Nat} (h : shift < 3) :
    (alignments s)[shift]? = some (alignment shift (encode s)) := by
  rw [alignments, if_neg (by simpa using hs), List.getElem?_map, List.getElem?_range h]
  rfl

/-! ### How long alignments are -/

/-- As many characters are settled as there are groups of six bits in the bytes. -/
theorem length_settled (bs : List UInt8) : (settled bs).length = 8 * bs.length / 6 := by
  fun_induction settled bs with
  | case1 => rfl
  | case2 a => simp
  | case3 a b => simp
  | case4 a b c rest ih =>
    simp only [List.length_append, List.length_cons, List.length_nil, ih]
    omega

theorem length_alignment (shift : Nat) (bs : List UInt8) :
    (alignment shift bs).length = 8 * (shift + bs.length) / 6 - startTrim shift := by
  rw [alignment_eq, List.length_drop, length_settled, List.length_append, List.length_replicate]

/-- A single byte after another one settles no character, and all else settles some. -/
theorem alignment_eq_nil_iff {shift : Nat} (hshift : shift < 3) {bs : List UInt8} (hbs : bs ≠ []) :
    alignment shift bs = [] ↔ shift = 1 ∧ bs.length = 1 := by
  have hpos : 0 < bs.length := List.length_pos_iff.mpr hbs
  rw [← List.length_eq_zero_iff, length_alignment]
  obtain rfl | rfl | rfl : shift = 0 ∨ shift = 1 ∨ shift = 2 := by omega
  · rw [startTrim]
    omega
  · rw [startTrim]
    omega
  · show 8 * (2 + bs.length) / 6 - 3 = 0 ↔ 2 = 1 ∧ bs.length = 1
    omega

/-- Every character is written with a byte at least. -/
theorem encode_ne_nil {s : List Char} (hs : s ≠ []) : encode s ≠ [] := by
  obtain ⟨c, s, rfl⟩ := List.exists_cons_of_ne_nil hs
  have hchar : encodeChar c ≠ [] := by
    simp only [encodeChar]
    repeat' split
    all_goals exact List.cons_ne_nil _ _
  rw [encode, List.flatMap_cons]
  exact List.append_ne_nil_of_left_ne_nil hchar _

/-- **None of the alignments of a text is empty**, unless the text is written with a single
byte. -/
theorem forall_alignments_ne_nil_iff {s : List Char} (hs : s ≠ []) :
    (∀ w ∈ alignments s, w ≠ []) ↔ (encode s).length ≠ 1 := by
  have hempty : ∀ shift < 3, alignment shift (encode s) = [] ↔
      shift = 1 ∧ (encode s).length = 1 :=
    fun shift hshift => alignment_eq_nil_iff hshift (encode_ne_nil hs)
  rw [alignments, if_neg (by simpa using hs), List.forall_mem_map]
  simp only [List.mem_range]
  constructor
  · intro h hone
    exact h 1 (by decide) ((hempty 1 (by decide)).mpr ⟨rfl, hone⟩)
  · intro hone shift hshift hnil
    exact hone ((hempty shift hshift).mp hnil).2

/-! ### The characters of alignments -/

theorem toNat_base64Char_lt (n : Nat) : (base64Char n).toNat < 128 := by
  have hall : base64Alphabet.all (·.toNat < 128) = true := by decide +kernel
  rw [base64Char, List.getD_eq_getElem?_getD]
  rcases h : base64Alphabet[n]? with - | c
  · decide
  · exact of_decide_eq_true (List.all_eq_true.mp hall c (List.mem_of_getElem? h))

theorem toNat_lt_of_mem_settled {bs : List UInt8} {c : Char} (h : c ∈ settled bs) :
    c.toNat < 128 := by
  fun_induction settled bs with
  | case1 => simp at h
  | case2 a =>
    obtain rfl := List.mem_singleton.mp h
    exact toNat_base64Char_lt _
  | case3 a b => rcases (by simpa using h) with rfl | rfl <;> exact toNat_base64Char_lt _
  | case4 a b d rest ih =>
    rcases List.mem_append.mp h with h | h
    · rcases (by simpa using h) with rfl | rfl | rfl | rfl <;> exact toNat_base64Char_lt _
    · exact ih h

/-- What is written in base 64 is written in ASCII. -/
theorem toNat_lt_of_mem_toBase64 {bs : List UInt8} {c : Char} (h : c ∈ toBase64 bs) :
    c.toNat < 128 := by
  fun_induction toBase64 bs with
  | case1 => simp at h
  | case2 a =>
    rcases (by simpa using h) with rfl | rfl | rfl
    · exact toNat_base64Char_lt _
    · exact toNat_base64Char_lt _
    · decide
  | case3 a b =>
    rcases (by simpa using h) with rfl | rfl | rfl | rfl
    · exact toNat_base64Char_lt _
    · exact toNat_base64Char_lt _
    · exact toNat_base64Char_lt _
    · decide
  | case4 a b d rest ih =>
    rcases List.mem_append.mp h with h | h
    · rcases (by simpa using h) with rfl | rfl | rfl | rfl <;> exact toNat_base64Char_lt _
    · exact ih h

/-- Alignments are written in ASCII. -/
theorem toNat_lt_of_mem_alignments {s w : List Char} (hw : w ∈ alignments s) {c : Char}
    (h : c ∈ w) : c.toNat < 128 := by
  rw [alignments] at hw
  split at hw
  · simp at hw
  · obtain ⟨shift, -, rfl⟩ := List.mem_map.mp hw
    rw [alignment_eq] at h
    exact toNat_lt_of_mem_settled (List.mem_of_mem_drop h)

end SigmaRules.Pattern
