/-
SigmaRules/Proofs/Json/Limits.lean

What the limits of a reader keep out.  If it refuses whole numbers of too many digits,
then all values that it reads can be written again (`isWritable_of_read`).  The reader of
values and those of elements and of members call each other, with fewer steps left each
time, so this goes by induction on the steps for all three of them (`ReadsWritable`).
-/
import SigmaRules.Document.Text
import SigmaRules.Json.Reader
import SigmaRules.Proofs.Number.Whole
import SigmaRules.Proofs.Text.Digits

namespace SigmaRules.Json

open Document Number Text

variable {limits inner : Limits} {s rest : List Item} {fuel : Nat} {v : Value} {vs : List Value}
  {es : Entries}

theorem digits_of_inner? (h : limits.inner? = some inner) : inner.digits = limits.digits := by
  rw [Limits.inner?] at h
  split at h
  · rw [← Option.some.inj h]
  · cases h
  · rw [← Option.some.inj h]

/-! ### Numbers -/

theorem isDigit_of_someDigits? {ds : List Char} (h : someDigits? s = some (ds, rest)) :
    ∀ c ∈ ds, c.isDigit = true := by
  obtain rfl : ds = (digits s).1 := by
    rw [someDigits?] at h
    split at h
    · cases h
    · rw [Option.some.inj h]
  intro c hc
  obtain ⟨i, hi, hic⟩ := List.mem_filterMap.mp hc
  obtain rfl : i = some c := hic
  exact List.all_eq_true.mp (List.all_takeWhile (p := isDigit)) _ hi

/-- A whole number that is read has no more digits than are allowed. -/
theorem isWritable_of_readNumber {neg : Bool} (hlimit : limits.digits = some maxDigits)
    (h : readNumber limits neg s = .ok (v, rest)) : v.isWritable = true := by
  rw [readNumber] at h
  split at h
  · cases h
  case h_2 whole more rest hnumber =>
    obtain ⟨⟨ds, t⟩, hds, hnumber⟩ := Option.bind_eq_some_iff.mp hnumber
    obtain ⟨⟨part, u⟩, -, hnumber⟩ := Option.bind_eq_some_iff.mp hnumber
    obtain ⟨⟨power, w⟩, -, hnumber⟩ := Option.bind_eq_some_iff.mp hnumber
    obtain ⟨rfl, -, -⟩ : ds = whole ∧ part ++ power = more ∧ w = rest := by
      simpa using hnumber
    have hdigit := isDigit_of_someDigits? hds
    split at h
    · cases h
    split at h
    · split at h
      · cases h
      case isFalse hfew =>
        obtain ⟨rfl, -⟩ := Prod.mk.inj (Except.ok.inj h)
        have hbelow : ∀ d ∈ ds.map (·.toNat - 48), d < 10 := by
          refine List.forall_mem_map.mpr fun c hc => ?_
          have hrange := hdigit c hc
          simp only [Char.isDigit, Bool.and_eq_true, decide_eq_true_eq] at hrange
          have : c.toNat ≤ 57 := hrange.2
          omega
        have hlength : ds.length ≤ maxDigits := by simpa [hlimit] using hfew
        have hlt : numberOf 10 (ds.map (·.toNat - 48)) < 10 ^ maxDigits := by
          refine Nat.lt_of_lt_of_le (numberOf_lt hbelow) ?_
          rw [List.length_map]
          exact Nat.pow_le_pow_right (by decide) hlength
        have hcount := digitCount_le (by decide) hlt
        rw [Value.isWritable, decide_eq_true_eq]
        split <;> simpa using hcount
    · split at h
      · split at h
        · cases h
        · obtain ⟨rfl, -⟩ := Prod.mk.inj (Except.ok.inj h)
          rfl
      · cases h

/-! ### Values -/

theorem isWritable_of_readWord {word : String} {w : Value} (hw : w.isWritable = true)
    (h : readWord word w s = .ok (v, rest)) : v.isWritable = true := by
  rw [readWord] at h
  split at h
  · obtain ⟨rfl, -⟩ := Prod.mk.inj (Except.ok.inj h)
    exact hw
  · cases h

theorem entriesAreWritable_put {name : String} (hes : entriesAreWritable es = true)
    (hv : v.isWritable = true) : entriesAreWritable (es.put (.text name) v) = true := by
  induction es with
  | nil => simp [Entries.put, entriesAreWritable, Value.isWritable, hv]
  | cons e es ih =>
    simp only [entriesAreWritable, Bool.and_eq_true] at hes
    rw [Entries.put]
    split
    · simp [entriesAreWritable, hes, hv]
    · simp [entriesAreWritable, hes, ih hes.2]

/-- With so many steps, only values are read that can be written. -/
structure ReadsWritable (fuel : Nat) : Prop where
  value : ∀ {l : Limits} {s v rest}, l.digits = some maxDigits →
    readValue l fuel s = .ok (v, rest) → v.isWritable = true
  elements : ∀ {l : Limits} {found s vs rest}, l.digits = some maxDigits →
    areWritable found = true → readElements l fuel found s = .ok (vs, rest) →
      areWritable vs = true
  members : ∀ {l : Limits} {found s es rest}, l.digits = some maxDigits →
    entriesAreWritable found = true → readMembers l fuel found s = .ok (es, rest) →
      entriesAreWritable es = true

theorem ReadsWritable.readValue_succ (ih : ReadsWritable fuel)
    (hlimit : limits.digits = some maxDigits) (h : readValue limits (fuel + 1) s = .ok (v, rest)) :
    v.isWritable = true := by
  rw [readValue.eq_def] at h
  dsimp only at h
  split at h
  -- an object
  · split at h
    · cases h
    case h_2 hinner =>
      split at h
      · obtain ⟨rfl, -⟩ := Prod.mk.inj (Except.ok.inj h)
        rfl
      · obtain ⟨⟨es, t⟩, hes, h⟩ := exists_of_bind_eq_ok h
        obtain ⟨rfl, -⟩ := Prod.mk.inj (Except.ok.inj h)
        exact ih.members ((digits_of_inner? hinner).trans hlimit) rfl hes
  -- an array
  · split at h
    · cases h
    case h_2 hinner =>
      split at h
      · obtain ⟨rfl, -⟩ := Prod.mk.inj (Except.ok.inj h)
        rfl
      · obtain ⟨⟨vs, t⟩, hvs, h⟩ := exists_of_bind_eq_ok h
        obtain ⟨rfl, -⟩ := Prod.mk.inj (Except.ok.inj h)
        have hall := areWritable_iff.mp
          (ih.elements ((digits_of_inner? hinner).trans hlimit) rfl hvs)
        exact areWritable_iff.mpr fun v hv => hall v (List.mem_reverse.mp hv)
  -- a string
  · obtain ⟨⟨t, u⟩, -, h⟩ := exists_of_bind_eq_ok h
    obtain ⟨rfl, -⟩ := Prod.mk.inj (Except.ok.inj h)
    rfl
  · exact isWritable_of_readNumber hlimit h
  · exact isWritable_of_readWord rfl h
  · exact isWritable_of_readWord rfl h
  · exact isWritable_of_readWord rfl h
  · exact isWritable_of_readNumber hlimit h

theorem ReadsWritable.readElements_succ {found : List Value} (ih : ReadsWritable fuel)
    (hlimit : limits.digits = some maxDigits) (hfound : areWritable found = true)
    (h : readElements limits (fuel + 1) found s = .ok (vs, rest)) : areWritable vs = true := by
  rw [readElements] at h
  obtain ⟨⟨v, t⟩, hv, h⟩ := exists_of_bind_eq_ok h
  have hmore : areWritable (v :: found) = true := by
    rw [areWritable, ih.value hlimit hv, hfound]
    rfl
  dsimp only at h
  split at h
  · exact ih.elements hlimit hmore h
  · obtain ⟨rfl, -⟩ := Prod.mk.inj (Except.ok.inj h)
    exact hmore
  · cases h

theorem ReadsWritable.readMembers_succ {found : Entries} (ih : ReadsWritable fuel)
    (hlimit : limits.digits = some maxDigits) (hfound : entriesAreWritable found = true)
    (h : readMembers limits (fuel + 1) found s = .ok (es, rest)) :
    entriesAreWritable es = true := by
  rw [readMembers] at h
  split at h
  case h_2 => cases h
  obtain ⟨⟨name, t⟩, -, h⟩ := exists_of_bind_eq_ok h
  dsimp only at h
  split at h
  case h_2 => cases h
  obtain ⟨⟨v, u⟩, hv, h⟩ := exists_of_bind_eq_ok h
  have hmore : entriesAreWritable (found.put (.text name) v) = true :=
    entriesAreWritable_put hfound (ih.value hlimit hv)
  dsimp only at h
  split at h
  · exact ih.members hlimit hmore h
  · obtain ⟨rfl, -⟩ := Prod.mk.inj (Except.ok.inj h)
    exact hmore
  · cases h

theorem readsWritable (fuel : Nat) : ReadsWritable fuel := by
  induction fuel with
  | zero => exact ⟨nofun, nofun, nofun⟩
  | succ fuel ih => exact ⟨ih.readValue_succ, ih.readElements_succ, ih.readMembers_succ⟩

/-- **What is read from a line can be written.** -/
theorem isWritable_of_read {depth : Nat} {bs : List UInt8} (h : read depth bs = .ok v) :
    v.isWritable = true := by
  rw [read, readItems] at h
  obtain ⟨⟨w, rest⟩, hw, h⟩ := exists_of_bind_eq_ok h
  dsimp only at h
  split at h
  · obtain rfl := Except.ok.inj h
    exact (readsWritable _).value rfl hw
  · cases h

end SigmaRules.Json
