/-
SigmaRules/Proofs/Text/Numeral.lean

Whole numbers that texts write.  Digits of any script write numbers, with white space, a
sign and underscores, but no text writes a number with more digits than are read
(`toNat_lt_of_toInt?`).  The other way round, a number that has no more digits
is read back from its decimal digits, with zeros before them or without
(`toInt?_padded`).
-/
import SigmaRules.Document.Text
import SigmaRules.Proofs.Text.Digits
import SigmaRules.Text.Numeral

namespace SigmaRules.Text.Numeral

variable {s : List Char} {n : Nat}

/-! ### What is read -/

theorem digitValue?_lt {c : Char} {d : Nat} (h : digitValue? c = some d) : d < 10 := by
  rw [digitValue?] at h
  split at h
  · simp only [Option.ite_none_right_eq_some, Bool.and_eq_true, decide_eq_true_eq,
      Option.some.injEq] at h
    obtain ⟨⟨-, hle⟩, rfl⟩ := h
    have hnat : c.toNat ≤ '9'.toNat := hle
    have hnine : '9'.toNat = 57 := rfl
    omega
  · obtain ⟨r, -, rfl⟩ := Option.map_eq_some_iff.mp h
    exact Nat.mod_lt _ (by decide)

theorem digits?_lt {ds : List Nat} (h : digits? s = some ds) : ∀ d ∈ ds, d < 10 := by
  fun_induction digits? s generalizing ds with
  | case1 => cases h
  | case2 c =>
    obtain ⟨d, hd, rfl⟩ := Option.map_eq_some_iff.mp h
    exact List.forall_mem_singleton.mpr (digitValue?_lt hd)
  | case3 c rest ih | case4 c rest _ _ ih =>
    obtain ⟨d, hd, h⟩ := Option.bind_eq_some_iff.mp h
    obtain ⟨es, hes, h⟩ := Option.bind_eq_some_iff.mp h
    obtain rfl : d :: es = ds := Option.some.inj h
    exact List.forall_mem_cons.mpr ⟨digitValue?_lt hd, ih hes⟩

/-- A numeral has no more digits than are read. -/
theorem lt_of_toNat? (h : toNat? s = some n) : n < 10 ^ maxDigits := by
  obtain ⟨ds, hds, h⟩ := Option.bind_eq_some_iff.mp h
  obtain ⟨hlength, hn⟩ := Option.ite_none_right_eq_some.mp h
  obtain rfl : numberOf 10 ds = n := Option.some.inj hn
  calc numberOf 10 ds < 10 ^ ds.length := numberOf_lt (digits?_lt hds)
    _ ≤ 10 ^ maxDigits := Nat.pow_le_pow_right (by decide) hlength

theorem toNat_lt_of_toInt? {i : Int} (h : toInt? s = some i) : i.toNat < 10 ^ maxDigits := by
  rw [toInt?] at h
  split at h
  all_goals
    obtain ⟨j, hj, rfl⟩ := Option.map_eq_some_iff.mp h
    obtain ⟨n, hn, hnj⟩ := Option.bind_eq_some_iff.mp hj
    obtain rfl : (n : Int) = j := Option.some.inj hnj
    have hlt := lt_of_toNat? hn
    omega

/-! ### What is read back -/

theorem digitValue?_digitChar : ∀ d < 10, digitValue? (Nat.digitChar d) = some d := by decide

theorem isPadding_of_isDigit {c : Char} (h : c.isDigit = true) : isPadding c = false := by
  have hrange : 48 ≤ c.toNat ∧ c.toNat ≤ 57 := Char.isDigit_iff_toNat.mp h
  have hblank : isBlank c = false := by
    simp only [isBlank, blanks, Ranges.contains]
    grind
  rw [isPadding, hblank, Bool.false_and]

/-- Without underscores, a numeral is read digit by digit. -/
theorem digits?_eq_mapM (hne : s ≠ []) (h : '_' ∉ s) : digits? s = s.mapM digitValue? := by
  induction s with
  | nil => exact absurd rfl hne
  | cons c s ih =>
    rcases s with - | ⟨d, s⟩
    · rw [digits?, List.mapM_cons, List.mapM_nil]
      rcases digitValue? c <;> rfl
    · have hd : d ≠ '_' := fun heq => h (by simp [heq])
      rw [digits?.eq_4 c (d :: s) (by simp) (by simp [hd]), List.mapM_cons,
        ih (List.cons_ne_nil d s) fun hmem => h (List.mem_cons_of_mem c hmem)]

/-- Around digits there is nothing to leave out. -/
theorem unpadded_of_isDigit (h : ∀ c ∈ s, c.isDigit = true) : unpadded s = s := by
  have hdrop : ∀ t : List Char, (∀ c ∈ t, c.isDigit = true) → t.dropWhile isPadding = t := by
    rintro (- | ⟨c, t⟩) ht
    · rfl
    · exact List.dropWhile_cons_of_neg (by simp [isPadding_of_isDigit (ht c List.mem_cons_self)])
  rw [unpadded, hdrop s h, hdrop s.reverse (by simpa using h), List.reverse_reverse]

/-- Digits have no sign. -/
theorem toInt?_of_isDigit (h : ∀ c ∈ s, c.isDigit = true) (hn : toNat? s = some n) :
    toInt? s = some (n : Int) := by
  rw [toInt?, unpadded_of_isDigit h]
  split
  case h_1 => exact absurd (h '-' List.mem_cons_self) (by decide)
  case h_2 => exact absurd (h '+' List.mem_cons_self) (by decide)
  case h_3 =>
    rw [hn]
    rfl

theorem toList_padded (length n : Nat) : (Document.padded length n).toList =
    List.replicate (length - (Nat.toDigits 10 n).length) '0' ++ Nat.toDigits 10 n := by
  have htext : (toString n).toList = Nat.toDigits 10 n := Nat.toList_repr
  rw [Document.padded, String.toList_append, String.toList_ofList, htext, ← String.length_toList,
    htext]

theorem isDigit_of_mem_padded {length : Nat} {c : Char}
    (hc : c ∈ (Document.padded length n).toList) : c.isDigit = true := by
  rw [toList_padded] at hc
  rcases List.mem_append.mp hc with hc | hc
  · rw [List.eq_of_mem_replicate hc]
    rfl
  · exact Nat.isDigit_of_mem_toDigits (by decide) (by decide) hc

/-- **A number is read back** from its decimal digits, with zeros before them up to a length. -/
theorem toInt?_padded {length : Nat} (hlength : length ≤ maxDigits) (hn : n < 10 ^ maxDigits) :
    toInt? (Document.padded length n).toList = some (n : Int) := by
  refine toInt?_of_isDigit (fun c => isDigit_of_mem_padded) ?_
  obtain ⟨ds, hds, hnumber, hcount⟩ := exists_digits (by decide) digitValue?_digitChar n
  let zeros := length - (Nat.toDigits 10 n).length
  have hzeros : (List.replicate zeros '0').mapM digitValue? = some (List.replicate zeros 0) := by
    rw [mapM_eq_some_iff]
    exact List.forall₂_iff_get.mpr ⟨by simp, fun i _ _ => by simp; rfl⟩
  have hread : digits? (Document.padded length n).toList = some (List.replicate zeros 0 ++ ds) := by
    rw [digits?_eq_mapM, toList_padded, List.mapM_append, hzeros, hds]
    · rfl
    · simp [toList_padded, Nat.toDigits_ne_nil]
    · intro hmem
      exact absurd (isDigit_of_mem_padded hmem) (by decide)
  have hfew : (Nat.toDigits 10 n).length ≤ maxDigits :=
    (Nat.length_toDigits_le_iff (by decide) (by decide)).mpr hn
  have hshort : (List.replicate zeros 0 ++ ds).length ≤ maxDigits := by
    rw [List.length_append, List.length_replicate, hcount]
    omega
  rw [toNat?, hread, Option.bind_eq_bind, Option.bind_some, if_pos hshort, numberOf_zeros_append,
    hnumber]

end SigmaRules.Text.Numeral
