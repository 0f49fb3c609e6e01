/-
SigmaRules/Proofs/Number/Whole.lean

How floating point numbers that are whole are written.  Below ten to the power of
sixteen such a number is written with all its digits and a zero after the point
(`Double.text_of_toInt?`); and it is never written as a whole number would be
(`Double.mem_text_of_toInt?`).

Every decimal that the search for the shortest one tries, up to the digit of the
ones, is a whole number.  None of these but the number itself rounds to it
(`eq_of_rounding_holds`): neighbours are at most two apart there, and where they are
two apart, the number is even and so is every multiple of ten.  So the search ends at
the number itself (`shortestFrom_whole`), whose zeros are cut off, and the layout puts
them back (`withPoint_of_whole`).
-/
import SigmaRules.Number.Shortest
import SigmaRules.Document.Text
import Mathlib.Tactic.Ring

namespace SigmaRules.Number

open Double

/-! ### Digits and zeros -/

theorem toDigits_mul_pow {d : Nat} (hd : 0 < d) (j : Nat) :
    Nat.toDigits 10 (d * 10 ^ j) = Nat.toDigits 10 d ++ List.replicate j '0' := by
  induction j with
  | zero => simp
  | succ j ih =>
    have hpos : 0 < d * 10 ^ j := Nat.mul_pos hd (Nat.pow_pos (by decide))
    have hsucc : d * 10 ^ (j + 1) = 10 * (d * 10 ^ j) + 0 := by ring
    rw [hsucc, ← Nat.toDigits_append_toDigits (by decide) hpos (by decide), ih,
      Nat.toDigits_zero, List.append_assoc, List.replicate_succ']

theorem digitCount_mul_pow {d : Nat} (hd : 0 < d) (j : Nat) :
    digitCount (d * 10 ^ j) = digitCount d + j := by
  rw [digitCount, toDigits_mul_pow hd, List.length_append, List.length_replicate, digitCount]

theorem digitCount_le {n k : Nat} (hk : 0 < k) (hn : n < 10 ^ k) : digitCount n ≤ k :=
  (Nat.length_toDigits_le_iff (by decide) hk).mpr hn

theorem digitCount_pos (n : Nat) : 0 < digitCount n := Nat.length_toDigits_pos

/-- A number is what is left without its zeros, with the zeros put back. -/
theorem exists_dropZeros {n : Nat} (hn : 0 < n) (fuel : Nat) :
    ∃ j, dropZeros fuel n * 10 ^ j = n ∧ 0 < dropZeros fuel n := by
  induction fuel generalizing n with
  | zero => exact ⟨0, Nat.mul_one n, hn⟩
  | succ fuel ih =>
    rw [dropZeros]
    split
    case isTrue h =>
      have hmod : n % 10 = 0 := by simpa [hn.ne'] using h
      have hdiv : 0 < n / 10 := by omega
      obtain ⟨j, hj, hpos⟩ := ih hdiv
      refine ⟨j + 1, ?_, hpos⟩
      rw [pow_succ, ← Nat.mul_assoc, hj]
      omega
    case isFalse => exact ⟨0, Nat.mul_one n, hn⟩

/-! ### The search for the shortest decimal -/

/-- At a whole number the search ends with that number, if it is in the interval and
no other multiple of ten is. -/
theorem shortestFrom_whole {n den : Nat} {i : Interval} (hn : 0 < n) (hden : 0 < den)
    (hself : i.holds n 0 = true)
    (honly : ∀ c (e : Int), 0 < e → i.holds c e = true → c * 10 ^ e.toNat = n) :
    ∀ fuel k, k ≤ digitCount n → digitCount n < k + fuel →
      ∃ c e, shortestFrom (n * den) den i (digitCount n - 1) fuel k = (c, e) ∧ 0 ≤ e ∧
        c * 10 ^ e.toNat = n := by
  intro fuel
  induction fuel with
  | zero => exact fun k hk hf => absurd hk (by omega)
  | succ fuel ih =>
    intro k hk hf
    have he : ((digitCount n : Int) - 1 - k + 1) = ((digitCount n - k : Nat) : Int) := by omega
    simp only [shortestFrom, he]
    rcases Nat.eq_zero_or_pos (digitCount n - k) with hzero | hpos
    · -- at the ones the number itself is tried, and it is a hit
      refine ⟨n, 0, ?_, le_refl 0, by simp⟩
      have hdiv : n * den / den = n := Nat.mul_div_cancel n hden
      rw [hzero]
      simp [inUnits, hdiv, hself, hn.ne', hden]
    · have hpos' : (0 : Int) < ((digitCount n - k : Nat) : Int) := by omega
      split
      case isTrue h =>
        simp only [Bool.and_eq_true] at h
        exact ⟨_, _, rfl, hpos'.le, honly _ _ hpos' h.1.1⟩
      case isFalse =>
        split
        case isTrue h => exact ⟨_, _, rfl, hpos'.le, honly _ _ hpos' h⟩
        case isFalse => exact ih (k + 1) (by omega) (by omega)

/-- What is in an interval is not beyond its ends. -/
theorem Interval.bounds_of_holds {i : Interval} {c : Nat} {e : Int} (he : 0 ≤ e)
    (h : i.holds c e = true) :
    i.lo ≤ c * 10 ^ e.toNat * i.den ∧ c * 10 ^ e.toNat * i.den ≤ i.hi := by
  simp only [Interval.holds, he, if_true, Nat.mul_one] at h
  split at h
  · simpa using h
  · have hlt := h
    simp only [Bool.and_eq_true, decide_eq_true_eq] at hlt
    exact ⟨hlt.1.le, hlt.2.le⟩

/-- Of a whole number and another whole number less than one away from it, or less
than two if both are even, there is only one. -/
theorem eq_of_near {z n den u : Nat} (hle : z * den ≤ n * den + 2 * u)
    (hge : n * den ≤ z * den + 2 * u)
    (hfar : 2 * u < den ∨ 2 * u < 2 * den ∧ z % 2 = 0 ∧ n % 2 = 0) : z = n := by
  have hstep : ∀ {a b : Nat} (k : Nat), a + k ≤ b → b * den ≤ a * den + 2 * u →
      k * den ≤ 2 * u := by
    intro a b k hab hb
    have hmul : (a + k) * den ≤ b * den := Nat.mul_le_mul_right den hab
    rw [Nat.add_mul] at hmul
    omega
  rcases Nat.lt_trichotomy z n with h | h | h
  · rcases hfar with hfar | ⟨hfar, hz, hn⟩
    · have h1 := hstep 1 h hge
      omega
    · have h2 := hstep 2 (by omega) hge
      omega
  · exact h
  · rcases hfar with hfar | ⟨hfar, hz, hn⟩
    · have h1 := hstep 1 h hle
      omega
    · have h2 := hstep 2 (by omega) hle
      omega

section Whole

variable {m n : Nat} {q : Int}

/-- Below ten to the power of sixteen, neighbours of a whole number are at most two
apart, and where they are two apart it is even. -/
theorem neighbours_of_whole (hw : m * 2 ^ q.toNat = n * 2 ^ (-q).toNat) (hn : n < 10 ^ 16)
    (hm : 0 ≤ q → fractions ≤ m) :
    2 * 2 ^ q.toNat < 4 * 2 ^ (-q).toNat ∨
      2 * 2 ^ q.toNat < 2 * (4 * 2 ^ (-q).toNat) ∧ n % 2 = 0 := by
  rcases Int.lt_or_le 0 q with hq | hq
  · right
    have hneg : (-q).toNat = 0 := by omega
    obtain ⟨k, hk⟩ : ∃ k, q.toNat = k + 1 := ⟨q.toNat - 1, by omega⟩
    have hm : 2 ^ 52 ≤ m := hm hq.le
    rw [hneg, pow_zero, Nat.mul_one, hk] at hw
    rw [hneg, hk]
    rcases Nat.eq_zero_or_pos k with rfl | hpos
    · exact ⟨by decide, by omega⟩
    · -- with two binary places more the number would be too large
      exfalso
      have htwo : 2 ^ 2 ≤ 2 ^ (k + 1) := Nat.pow_le_pow_right (by decide) (by omega)
      have hbig : 2 ^ 52 * 2 ^ 2 ≤ m * 2 ^ (k + 1) := Nat.mul_le_mul hm htwo
      omega
  · left
    have hpos : q.toNat = 0 := by omega
    have hone : 1 ≤ 2 ^ (-q).toNat := Nat.one_le_two_pow
    rw [hpos]
    omega

/-- The numbers that round to `m * 2 ^ q`, in quarters of its unit. -/
def rounding (m : Nat) (q : Int) : Interval where
  lo := m * (4 * 2 ^ q.toNat) - (if m == fractions && q != -1074 then 1 else 2) * 2 ^ q.toNat
  hi := m * (4 * 2 ^ q.toNat) + 2 * 2 ^ q.toNat
  den := 4 * 2 ^ (-q).toNat
  closed := m % 2 == 0

theorem shortest_eq (m : Nat) (q : Int) :
    shortest m q =
      let a := m * (4 * 2 ^ q.toNat)
      let den := 4 * 2 ^ (-q).toNat
      let c := shortestFrom a den (rounding m q) (powerBelow a den) 17 1
      ⟨dropZeros 20 c.1, c.2 + digitCount c.1⟩ := by
  have hquarter : 4 * 2 ^ q.toNat / 4 = 2 ^ q.toNat := Nat.mul_div_cancel_left _ (by decide)
  simp only [shortest, rounding, Nat.pow_eq, hquarter]

theorem quarters_of_whole (hw : m * 2 ^ q.toNat = n * 2 ^ (-q).toNat) :
    m * (4 * 2 ^ q.toNat) = n * (4 * 2 ^ (-q).toNat) := by
  calc m * (4 * 2 ^ q.toNat) = 4 * (m * 2 ^ q.toNat) := by ring
    _ = 4 * (n * 2 ^ (-q).toNat) := by rw [hw]
    _ = n * (4 * 2 ^ (-q).toNat) := by ring

/-- A number rounds to itself. -/
theorem rounding_holds_self (hpos : 0 < n) (hw : m * 2 ^ q.toNat = n * 2 ^ (-q).toNat) :
    (rounding m q).holds n 0 = true := by
  have hden : 0 < n * (4 * 2 ^ (-q).toNat) :=
    Nat.mul_pos hpos (Nat.mul_pos (by decide) (Nat.two_pow_pos _))
  have hunit : 0 < 2 ^ q.toNat := Nat.two_pow_pos _
  simp only [Interval.holds, rounding, le_refl, if_true, quarters_of_whole hw]
  split <;> split <;> simp <;> omega

/-- No other multiple of ten rounds to a whole number. -/
theorem eq_of_rounding_holds (hw : m * 2 ^ q.toNat = n * 2 ^ (-q).toNat) (hn : n < 10 ^ 16)
    (hm : 0 ≤ q → fractions ≤ m) {c : Nat} {e : Int} (he : 0 < e)
    (h : (rounding m q).holds c e = true) : c * 10 ^ e.toNat = n := by
  have heven : c * 10 ^ e.toNat % 2 = 0 := by
    obtain ⟨k, hk⟩ : ∃ k, e.toNat = k + 1 := ⟨e.toNat - 1, by omega⟩
    have hfactor : c * 10 ^ e.toNat = 2 * (c * 10 ^ k * 5) := by
      rw [hk]
      ring
    omega
  obtain ⟨hlo, hhi⟩ := Interval.bounds_of_holds he.le h
  simp only [rounding, quarters_of_whole hw] at hlo hhi
  have hdown : (if m == fractions && q != -1074 then 1 else 2) * 2 ^ q.toNat ≤ 2 * 2 ^ q.toNat :=
    Nat.mul_le_mul_right _ (by split <;> decide)
  refine eq_of_near (u := 2 ^ q.toNat) hhi (by omega) ?_
  exact (neighbours_of_whole hw hn hm).imp_right fun h => ⟨h.1, heven, h.2⟩

/-- The shortest decimal of a whole number is that number, without the zeros at its
end. -/
theorem shortest_of_whole (hpos : 0 < n) (hw : m * 2 ^ q.toNat = n * 2 ^ (-q).toNat)
    (hn : n < 10 ^ 16) (hm : 0 ≤ q → fractions ≤ m) :
    ∃ d j, shortest m q = ⟨d, digitCount n⟩ ∧ 0 < d ∧ d * 10 ^ j = n := by
  have hden : 0 < 4 * 2 ^ (-q).toNat := Nat.mul_pos (by decide) (Nat.two_pow_pos _)
  have hpower : powerBelow (n * (4 * 2 ^ (-q).toNat)) (4 * 2 ^ (-q).toNat)
      = (digitCount n : Int) - 1 := by
    rw [powerBelow, if_pos (Nat.le_mul_of_pos_left _ hpos), Nat.mul_div_cancel _ hden]
  have hdigits : digitCount n ≤ 16 := digitCount_le (by decide) hn
  obtain ⟨c, e, hc, he, hce⟩ := shortestFrom_whole hpos hden (rounding_holds_self hpos hw)
    (fun c e he => eq_of_rounding_holds hw hn hm he) 17 1 (digitCount_pos n) (by omega)
  have hcpos : 0 < c := by
    rcases Nat.eq_zero_or_pos c with rfl | h
    · omega
    · exact h
  have hpoint : digitCount n = digitCount c + e.toNat := by rw [← hce, digitCount_mul_pow hcpos]
  obtain ⟨j, hj, hdpos⟩ := exists_dropZeros hcpos 20
  refine ⟨dropZeros 20 c, j + e.toNat, ?_, hdpos, ?_⟩
  · simp only [shortest_eq, quarters_of_whole hw, hpower, hc]
    congr 1
    omega
  · rw [pow_add, ← Nat.mul_assoc, hj, hce]

end Whole

/-! ### Layout -/

/-- The text of a number that ends in zeros has them before its point. -/
theorem withPoint_of_whole {d j : Nat} (hd : 0 < d) :
    withPoint (Nat.toDigits 10 d) (digitCount (d * 10 ^ j)) = toString (d * 10 ^ j) ++ ".0" := by
  have hlength : digitCount (d * 10 ^ j) = (Nat.toDigits 10 d).length + j := digitCount_mul_pow hd j
  have hpos : ¬ (digitCount (d * 10 ^ j) : Int) ≤ 0 := by
    have hcount := digitCount_pos (d * 10 ^ j)
    omega
  have htext : toString (d * 10 ^ j)
      = String.ofList (Nat.toDigits 10 d ++ List.replicate j '0') := by
    rw [← toDigits_mul_pow hd j]
    exact String.toList_inj.mp (by simp)
  rw [withPoint, if_neg hpos, Int.toNat_natCast, hlength, htext,
    List.take_of_length_le (Nat.le_add_right _ _), List.drop_of_length_le (Nat.le_add_right _ _),
    Nat.add_sub_cancel_left, String.append_assoc]
  rfl

theorem Decimal.text_of_whole {l : Layout} {d j : Nat} (hd : 0 < d)
    (hhigh : (digitCount (d * 10 ^ j) : Int) ≤ l.highest) (hlow : l.lowest ≤ 0) :
    Decimal.text l ⟨d, digitCount (d * 10 ^ j)⟩ = toString (d * 10 ^ j) ++ ".0" := by
  have hpos := digitCount_pos (d * 10 ^ j)
  have hhigh' : ¬ l.highest < (digitCount (d * 10 ^ j) : Int) := by omega
  have hlow' : ¬ (digitCount (d * 10 ^ j) : Int) ≤ l.lowest := by omega
  rw [Decimal.text]
  simp only [hhigh', hlow', decide_false, Bool.or_false, Bool.false_eq_true, if_false]
  exact withPoint_of_whole hd

/-- A decimal is written with a point or with an exponent. -/
theorem Decimal.mem_text (l : Layout) (d : Decimal) :
    '.' ∈ (d.text l).toList ∨ 'e' ∈ (d.text l).toList := by
  rw [Decimal.text]
  split
  · right
    simp [exponentText]
  · left
    rw [withPoint]
    split
    · simp
    · simp

namespace Double

variable {x : Double} {z : Int}

/-- The significand of a number without binary places after the point is not short
of any. -/
theorem fractions_le_of_parts {neg : Bool} {m : Nat} {q : Int} (h : x.parts = .finite neg m q)
    (hq : 0 ≤ q) : fractions ≤ m := by
  rw [parts] at h
  split at h
  · split at h <;> cases h
  · split at h
    · cases h
      omega
    · cases h
      exact Nat.le_add_right _ _

/-- A number that is whole, in parts. -/
theorem parts_of_toInt? (h : x.toInt? = some z) :
    ∃ neg m q k, x.parts = .finite neg m q ∧ m * 2 ^ q.toNat = k * 2 ^ (-q).toNat ∧
      z = if neg then -(k : Int) else k := by
  rw [toInt?] at h
  rcases hparts : x.parts with - | neg | ⟨neg, m, q⟩
  · simp [hparts] at h
  · simp [hparts] at h
  · -- the number without its sign
    have hwhole : ∃ k, m * 2 ^ q.toNat = k * 2 ^ (-q).toNat ∧
        z = if neg then -(k : Int) else k := by
      by_cases hq : 0 ≤ q
      · have hneg : (-q).toNat = 0 := by omega
        refine ⟨m * 2 ^ q.toNat, by rw [hneg, pow_zero, Nat.mul_one], ?_⟩
        cases neg <;> simpa [hparts, hq] using h.symm
      · have hpos : q.toNat = 0 := by omega
        by_cases hmod : m % 2 ^ (-q).toNat = 0
        · refine ⟨m / 2 ^ (-q).toNat, ?_, ?_⟩
          · rw [hpos, pow_zero, Nat.mul_one, Nat.div_mul_cancel (Nat.dvd_of_mod_eq_zero hmod)]
          · cases neg <;> simpa [hparts, hq, hmod] using h.symm
        · simp [hparts, hq, hmod] at h
    obtain ⟨k, hk, hz⟩ := hwhole
    exact ⟨neg, m, q, k, rfl, hk, hz⟩

/-- **Whole numbers below ten to the power of sixteen are written in full**, with a
zero after the point, and maybe with the sign of zero. -/
theorem text_of_toInt? (h : x.toInt? = some z) (hz : z.natAbs < 10 ^ 16) :
    ∃ sign : String, x.text Document.floatLayout = sign ++ toString z ++ ".0" := by
  obtain ⟨neg, m, q, k, hparts, hw, rfl⟩ := parts_of_toInt? h
  have hk : k < 10 ^ 16 := by
    split at hz <;> omega
  rw [text, hparts]
  rcases Nat.eq_zero_or_pos k with rfl | hpos
  · have hm : m = 0 := by
      have hunit : 0 < 2 ^ q.toNat := Nat.two_pow_pos _
      simpa [hunit.ne'] using hw
    subst hm
    refine ⟨if neg then "-" else "", ?_⟩
    cases neg <;> rfl
  · have hm : m ≠ 0 := by
      rintro rfl
      have hunit : 0 < k * 2 ^ (-q).toNat := Nat.mul_pos hpos (Nat.two_pow_pos _)
      omega
    obtain ⟨d, j, hshortest, hd, rfl⟩ :=
      shortest_of_whole hpos hw hk (fractions_le_of_parts hparts)
    have hdigits : digitCount (d * 10 ^ j) ≤ 16 := digitCount_le (by decide) hk
    have htext := Decimal.text_of_whole (l := Document.floatLayout) (j := j) hd
      (by simpa [Document.floatLayout] using hdigits) (by decide)
    refine ⟨"", ?_⟩
    simp only [hshortest, htext, beq_iff_eq, hm, if_false, String.empty_append]
    cases neg with
    | false => rfl
    | true =>
      have hneg : toString (-((d * 10 ^ j : Nat) : Int)) = "-" ++ toString (d * 10 ^ j) := by
        have hneg' : ¬ (0 : Int) ≤ -((d * 10 ^ j : Nat) : Int) := by omega
        rw [Int.toString_eq_repr, Int.repr_eq_if, if_neg hneg', Int.neg_neg, Int.toNat_natCast]
        rfl
      simp only [if_true, hneg, String.append_assoc]

/-- No number that is not infinite is written as a whole number would be. -/
theorem mem_text_of_toInt? (l : Layout) (h : x.toInt? = some z) :
    '.' ∈ (x.text l).toList ∨ 'e' ∈ (x.text l).toList := by
  obtain ⟨neg, m, q, k, hparts, -, -⟩ := parts_of_toInt? h
  have hdecimal : '.' ∈ (if m == 0 then "0.0" else (shortest m q).text l).toList ∨
      'e' ∈ (if m == 0 then "0.0" else (shortest m q).text l).toList := by
    split
    · exact .inl (by decide)
    · exact Decimal.mem_text l _
  simp only [text, hparts, String.toList_append, List.mem_append]
  exact hdecimal.imp .inr .inr

end Double

end SigmaRules.Number
