/-
SigmaRules/Text/Digits.lean

ASCII digits in three bases, and the numbers that digits write.  Main
statement: the digits of a number write that number (`numberOf_toDigits`).
-/

namespace SigmaRules.Text

/-- Numerals are read up to this many digits. -/
def maxDigits : Nat := 4300

/-- The value of an octal digit. -/
def octalDigit? (c : Char) : Option Nat :=
  if '0' ≤ c && c ≤ '7' then some (c.toNat - 48) else none

/-- The value of a decimal digit. -/
def decimalDigit? (c : Char) : Option Nat :=
  if '0' ≤ c && c ≤ '9' then some (c.toNat - 48) else none

/-- The value of a hexadecimal digit. -/
def hexDigit? (c : Char) : Option Nat :=
  if '0' ≤ c && c ≤ '9' then some (c.toNat - 48)
  else if 'a' ≤ c && c ≤ 'f' then some (c.toNat - 87)
  else if 'A' ≤ c && c ≤ 'F' then some (c.toNat - 55)
  else none

/-- The number that digits write in a base. -/
def numberOf (base : Nat) (ds : List Nat) : Nat := ds.foldl (fun n d => n * base + d) 0

theorem numberOf_append (base d : Nat) (ds : List Nat) :
    numberOf base (ds ++ [d]) = numberOf base ds * base + d := by
  simp [numberOf]

/-- Digits in a base write the number whose digits they are. -/
theorem numberOf_toDigits {base : Nat} {digit? : Char → Option Nat} (hbase : 1 < base)
    (hdigit : ∀ d < base, digit? (Nat.digitChar d) = some d) (n : Nat) :
    ((Nat.toDigits base n).mapM digit?).map (numberOf base) = some n := by
  induction n using Nat.strongRecOn with
  | ind n ih =>
    rw [Nat.toDigits_eq_if hbase]
    split
    case isTrue h => simp [hdigit n h, numberOf]
    case isFalse h =>
      have hlt : n / base < n := Nat.div_lt_self (by omega) hbase
      obtain ⟨ds, hs, hn⟩ := Option.map_eq_some_iff.mp (ih (n / base) hlt)
      have hlast : n % base < base := Nat.mod_lt n (by omega)
      rw [List.mapM_append, hs]
      simp only [List.mapM_cons, List.mapM_nil, hdigit _ hlast, Option.pure_def,
        Option.bind_eq_bind, Option.bind_some, Option.map_some, numberOf_append, hn]
      rw [Nat.mul_comm, Nat.div_add_mod]

theorem decimalDigit?_digitChar : ∀ d < 10, decimalDigit? (Nat.digitChar d) = some d := by decide

theorem hexDigit?_digitChar : ∀ d < 16, hexDigit? (Nat.digitChar d) = some d := by decide

/-- The decimal digits of a number write it. -/
theorem numberOf_decimalDigits (n : Nat) :
    ((Nat.toDigits 10 n).mapM decimalDigit?).map (numberOf 10) = some n :=
  numberOf_toDigits (by decide) decimalDigit?_digitChar n

end SigmaRules.Text
