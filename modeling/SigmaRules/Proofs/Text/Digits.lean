/-
SigmaRules/Proofs/Text/Digits.lean

Numbers and their digits in a base.  Each digit that is written for a number is read,
and nothing else is written (`exists_digits`, `not_mem_toDigits`); so many digits write no
number from the power of the base for their count on (`numberOf_lt`), and zeros before
them do not matter (`numberOf_zeros_append`).
-/
import SigmaRules.Proofs.Answers
import SigmaRules.Text.Digits
import Mathlib.Algebra.Group.Nat.Defs

namespace SigmaRules.Text

/-- Digits of a base write a number below the power of the base for their count. -/
theorem numberOf_lt {base : Nat} {ds : List Nat} (h : ∀ d ∈ ds, d < base) :
    numberOf base ds < base ^ ds.length := by
  -- with a number read before, the bound is for the digits that come after it
  have hread : ∀ n, ds.foldl (fun n d => n * base + d) n < (n + 1) * base ^ ds.length := by
    induction ds with
    | nil => simp
    | cons d ds ih =>
      intro n
      obtain ⟨hd, hds⟩ := List.forall_mem_cons.mp h
      have hstep : n * base + d + 1 ≤ (n + 1) * base := by
        rw [Nat.add_one_mul]
        omega
      calc (d :: ds).foldl (fun n d => n * base + d) n
          = ds.foldl (fun n d => n * base + d) (n * base + d) := rfl
        _ < (n * base + d + 1) * base ^ ds.length := ih hds (n * base + d)
        _ ≤ (n + 1) * base * base ^ ds.length := Nat.mul_le_mul_right _ hstep
        _ = (n + 1) * base ^ (d :: ds).length := by
          rw [List.length_cons, Nat.pow_succ', Nat.mul_assoc]
  simpa [numberOf] using hread 0

/-- Zeros before the digits of a number do not change it. -/
theorem numberOf_zeros_append (base k : Nat) (ds : List Nat) :
    numberOf base (List.replicate k 0 ++ ds) = numberOf base ds := by
  induction k with
  | zero => rfl
  | succ k ih =>
    rw [List.replicate_succ, List.cons_append, ← ih]
    simp [numberOf]

section Written

variable {base : Nat} {digit? : Char → Option Nat}

/-- Each digit of a number is read. -/
theorem exists_digits (hbase : 1 < base) (hdigit : ∀ d < base, digit? (Nat.digitChar d) = some d)
    (n : Nat) : ∃ ds, (Nat.toDigits base n).mapM digit? = some ds ∧ numberOf base ds = n ∧
      ds.length = (Nat.toDigits base n).length := by
  obtain ⟨ds, hds, hn⟩ := Option.map_eq_some_iff.mp (numberOf_toDigits hbase hdigit n)
  exact ⟨ds, hds, hn, (mapM_eq_some_iff.mp hds).length_eq.symm⟩

/-- What is no digit is not among the digits of a number. -/
theorem not_mem_toDigits (hbase : 1 < base)
    (hdigit : ∀ d < base, digit? (Nat.digitChar d) = some d) {c : Char} (hc : digit? c = none)
    (n : Nat) : c ∉ Nat.toDigits base n := by
  intro hmem
  obtain ⟨ds, hds, -, -⟩ := exists_digits hbase hdigit n
  obtain ⟨d, -, hd⟩ := exists_right_of_mem (mapM_eq_some_iff.mp hds) hmem
  rw [hc] at hd
  cases hd

end Written

end SigmaRules.Text
