/-
SigmaRules/Proofs/Network/Blocks.lean

Blocks as sets of addresses.  An address and a length stand for all addresses of the
family that begin with the same bits, so the bits beyond the length do not matter
(`Family.addresses`).  Of two such sets, one is within the other if and only if it is
given by at least as many bits and begins alike (`addresses_subset_iff`).

The block around an address is told by its first and its last address, and two blocks
are compared by these.  That is to compare the sets (`contains_around_iff`).
-/
import Mathlib.Data.Set.Basic
import Mathlib.Tactic.Ring
import SigmaRules.Network.Block

namespace SigmaRules.Network

/-! ### Sets of addresses -/

/-- The addresses of the family that agree with an address in the first bits. -/
def Family.addresses (family : Family) (address length : Nat) : Set Nat :=
  {x | x < 2 ^ family.bits ∧
    x / 2 ^ (family.bits - length) = address / 2 ^ (family.bits - length)}

section Bits

variable {bits a l n k : Nat}

/-- The addresses that agree in fewer bits are runs of those that agree in more. -/
theorem two_pow_eq_mul (hk : k ≤ l) :
    2 ^ (bits - k) = 2 ^ (bits - l) * 2 ^ (bits - k - (bits - l)) := by
  rw [← Nat.pow_add]
  congr 1
  omega

/-- Addresses that agree in more bits agree in fewer. -/
theorem prefix_eq_of_le (hk : k ≤ l) (h : a / 2 ^ (bits - l) = n / 2 ^ (bits - l)) :
    a / 2 ^ (bits - k) = n / 2 ^ (bits - k) := by
  rw [@two_pow_eq_mul bits l k hk, ← Nat.div_div_eq_div_mul, ← Nat.div_div_eq_div_mul, h]

/-- The next run of addresses starts within the family or at its end. -/
theorem next_run_le (ha : a < 2 ^ bits) :
    a / 2 ^ (bits - l) * 2 ^ (bits - l) + 2 ^ (bits - l) ≤ 2 ^ bits := by
  have hpos : 0 < 2 ^ (bits - l) := Nat.two_pow_pos _
  obtain ⟨m, hm⟩ : 2 ^ (bits - l) ∣ 2 ^ bits := Nat.pow_dvd_pow 2 (Nat.sub_le bits l)
  have hlt : a / 2 ^ (bits - l) < m := Nat.div_lt_of_lt_mul (hm ▸ ha)
  calc a / 2 ^ (bits - l) * 2 ^ (bits - l) + 2 ^ (bits - l)
      = 2 ^ (bits - l) * (a / 2 ^ (bits - l) + 1) := by ring
    _ ≤ 2 ^ (bits - l) * m := Nat.mul_le_mul_left _ hlt
    _ = 2 ^ bits := hm.symm

end Bits

/-- **One set of addresses is within another** if and only if its addresses agree in at least as
many bits, and begin with the bits of the other. -/
theorem addresses_subset_iff {family : Family} {a l n k : Nat} (ha : a < 2 ^ family.bits)
    (hk : k ≤ family.bits) :
    family.addresses a l ⊆ family.addresses n k ↔
      k ≤ l ∧ a / 2 ^ (family.bits - k) = n / 2 ^ (family.bits - k) := by
  constructor
  · intro hsub
    obtain ⟨-, hsame⟩ := hsub ⟨ha, rfl⟩
    refine ⟨?_, hsame⟩
    by_contra hlt
    -- otherwise the run holds two addresses that differ in the first bits
    have hdouble : 2 * 2 ^ (family.bits - k) ≤ 2 ^ (family.bits - l) := by
      rw [← Nat.pow_succ']
      exact Nat.pow_le_pow_right Nat.two_pos (by omega)
    have hpos : 0 < 2 ^ (family.bits - k) := Nat.two_pow_pos _
    have hend := next_run_le (l := l) ha
    obtain ⟨m, hm⟩ : 2 ^ (family.bits - k) ∣ 2 ^ (family.bits - l) :=
      Nat.pow_dvd_pow 2 (by omega)
    let start := a / 2 ^ (family.bits - l) * 2 ^ (family.bits - l)
    have hrun : ∀ x, start ≤ x → x < start + 2 ^ (family.bits - l) →
        x ∈ family.addresses n k := by
      intro x hlo hhi
      apply hsub
      refine ⟨Nat.lt_of_lt_of_le hhi hend, Nat.div_eq_of_lt_le hlo ?_⟩
      rw [Nat.add_one_mul]
      exact hhi
    obtain ⟨-, hfirst⟩ := hrun start (Nat.le_refl _) (by omega)
    obtain ⟨-, hsecond⟩ := hrun (start + 2 ^ (family.bits - k)) (by omega) (by omega)
    rw [Nat.add_div_right _ hpos] at hsecond
    omega
  · rintro ⟨hle, hsame⟩ x ⟨hx, hxa⟩
    exact ⟨hx, (prefix_eq_of_le hle hxa).trans hsame⟩

/-! ### The block around an address -/

section Around

variable {family : Family} {a l : Nat} {zone : Option (List Char)}

theorem freeCount_eq (family : Family) (l : Nat) : freeCount family l = 2 ^ (family.bits - l) := rfl

/-- The block starts at the multiple of its size below the address. -/
theorem base_around :
    (Block.around family a l zone).base = a / 2 ^ (family.bits - l) * 2 ^ (family.bits - l) := by
  have hsplit := Nat.div_add_mod' a (2 ^ (family.bits - l))
  simp only [Block.around, freeCount_eq, beq_iff_eq]
  split
  case isTrue hzero => show a = _; omega
  case isFalse => show a - _ = _; omega

theorem family_around : (Block.around family a l zone).family = family := by
  simp only [Block.around]
  split <;> rfl

theorem length_around : (Block.around family a l zone).length = l := by
  simp only [Block.around]
  split <;> rfl

theorem zone_around_none : (Block.around family a l none).zone = none := by
  simp only [Block.around]
  split <;> rfl

theorem last_around : (Block.around family a l zone).last
    = a / 2 ^ (family.bits - l) * 2 ^ (family.bits - l) + 2 ^ (family.bits - l) - 1 := by
  rw [Block.last, base_around, family_around, length_around, freeCount_eq]

end Around

/-- **Blocks are compared as sets.**  The block around an address is within the block around
another one if and only if the family is the same and so are the bits of the other. -/
theorem contains_around_iff {family family' : Family} {a l n k : Nat} (hk : k ≤ family'.bits) :
    (Block.around family' n k none).contains (Block.around family a l none) = true ↔
      family' = family ∧ k ≤ l ∧
        a / 2 ^ (family.bits - k) = n / 2 ^ (family.bits - k) := by
  simp only [Block.contains, family_around, base_around, zone_around_none, last_around,
    Bool.and_eq_true, beq_iff_eq, Bool.or_eq_true, decide_eq_true_eq, beq_self_eq_true, and_true,
    ← Nat.le_iff_lt_or_eq, and_assoc]
  refine and_congr_right fun hfamily => ?_
  subst hfamily
  have hBpos : 0 < 2 ^ (family'.bits - l) := Nat.two_pow_pos _
  have hCpos : 0 < 2 ^ (family'.bits - k) := Nat.two_pow_pos _
  constructor
  · rintro ⟨hlo, hhi⟩
    have hcount : 2 ^ (family'.bits - l) ≤ 2 ^ (family'.bits - k) := by omega
    have hexponent := (Nat.pow_le_pow_iff_right Nat.one_lt_two).mp hcount
    have hbelow := Nat.div_mul_le_self a (2 ^ (family'.bits - l))
    have habove := Nat.lt_div_mul_add hBpos (a := a)
    refine ⟨by omega, Nat.div_eq_of_lt_le (by omega) ?_⟩
    rw [Nat.add_one_mul]
    omega
  · rintro ⟨hle, hsame⟩
    -- both ends are counted in blocks of the shorter length
    obtain ⟨m, hm⟩ : ∃ m, 2 ^ (family'.bits - k) = 2 ^ (family'.bits - l) * m :=
      ⟨_, two_pow_eq_mul hle⟩
    have hmpos : 0 < m := Nat.pos_of_mul_pos_left (hm ▸ hCpos)
    rw [← hsame, hm, ← Nat.div_div_eq_div_mul]
    generalize a / 2 ^ (family'.bits - l) = q
    generalize 2 ^ (family'.bits - l) = B at *
    have hbelow := Nat.mul_le_mul_right B (Nat.div_mul_le_self q m)
    have habove := Nat.mul_le_mul_right B (Nat.lt_div_mul_add hmpos (a := q))
    have hassoc : q / m * (B * m) = q / m * m * B := by ring
    have hassoc' : (q / m * m + m) * B = q / m * m * B + B * m := by ring
    rw [hassoc', Nat.succ_mul] at habove
    rw [hassoc]
    omega

end SigmaRules.Network
