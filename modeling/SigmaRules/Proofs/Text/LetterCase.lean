/-
SigmaRules/Proofs/Text/LetterCase.lean

What the tables of letter case have in common with other tables.  A code point
and its lower case partner both have two cases (`isCased_of_lowerCode_ne`),
and both are word characters, neither digits nor blanks.  So to compare the
lower case partners of characters makes no difference for characters without
two cases (`lowerCode_eq_iff`).  Beyond the basic plane, lower case partners have no lower
case partners of their own (`lowerCode_lowerCode`).

The tables list runs of capitals, and a property of code points is checked for
a run and for its partners as a whole (`exists_checked`).
-/
import SigmaRules.Text.Blank
import SigmaRules.Text.LetterCase
import SigmaRules.Text.Word

namespace SigmaRules.Text

/-! ### Ranges within tables -/

namespace Ranges

/-- Is the whole range inside? -/
def covers : Ranges → Nat → Nat → Bool
  | [], _, _ => false
  | (lo, hi) :: rest, a, b =>
    bif Nat.ble lo a then (bif Nat.ble a hi then Nat.ble b hi else covers rest a b) else false

/-- Is the whole range between those before and those after it? -/
def misses : Ranges → Nat → Nat → Bool
  | [], _, _ => true
  | (lo, hi) :: rest, a, b =>
    bif Nat.blt b lo then true else bif Nat.blt hi a then misses rest a b else false

/-- Is the range beside each of those of the table, in whatever order they are? -/
def avoids (rs : Ranges) (a b : Nat) : Bool := rs.all fun r => Nat.blt b r.1 || Nat.blt r.2 a

variable {rs : Ranges} {a b c : Nat}

theorem contains_of_covers (h : rs.covers a b = true) (hac : a ≤ c) (hcb : c ≤ b) :
    rs.contains c = true := by
  induction rs with
  | nil => cases h
  | cons r rs ih =>
    obtain ⟨lo, hi⟩ := r
    simp only [covers, Bool.cond_eq_ite, Nat.ble_eq] at h
    rw [contains]
    split at h
    case isFalse => cases h
    split at h
    · have hb : b ≤ hi := by simpa using h
      rw [if_neg (by omega), if_pos (by omega)]
    · rw [if_neg (by omega), if_neg (by omega), ih h]

theorem contains_of_misses (h : rs.misses a b = true) (hac : a ≤ c) (hcb : c ≤ b) :
    rs.contains c = false := by
  induction rs with
  | nil => rfl
  | cons r rs ih =>
    obtain ⟨lo, hi⟩ := r
    simp only [misses, Bool.cond_eq_ite, Nat.blt_eq] at h
    rw [contains]
    split at h
    · rw [if_pos (by omega)]
    split at h
    · have hhi : ¬c ≤ hi := by omega
      simp [ih h, hhi]
    · cases h

theorem find?_of_avoids (h : rs.avoids a b = true) (hac : a ≤ c) (hcb : c ≤ b) :
    rs.find? (fun r => r.1 ≤ c && c ≤ r.2) = none := by
  rw [List.find?_eq_none]
  intro r hr
  have hout := List.all_eq_true.mp h r hr
  simp only [Bool.or_eq_true, Nat.blt_eq] at hout
  simp only [Bool.and_eq_true, decide_eq_true_eq]
  omega

end Ranges

/-! ### Runs of capitals -/

/-- The lower case partner of a capital of the run. -/
def CaseRun.partner (r : CaseRun) (c : Nat) : Nat := ((c : Int) + r.shift).toNat

/-- Do all code points of the range have two cases? -/
def areCased (a b : Nat) : Bool := (97 ≤ a && b ≤ 122) || (128 ≤ a && casedLetters.covers a b)

/-- Beyond the basic plane, are the code points of the range no capitals? -/
def areNoCapitals (a b : Nat) : Bool :=
  Nat.blt b 0x10000 ||
    (Nat.ble 0x10000 a && capitals.all fun r => Nat.blt b r.first || Nat.blt r.last a)

/-- Are all code points of the range letters, and no digits? -/
def areLetters (a b : Nat) : Bool := (97 ≤ a && b ≤ 122) || (128 ≤ a && lettersAndDigits.covers a b)

/-- Are the code points of the range no characters of words? -/
def areNoLetters (a b : Nat) : Bool := 128 ≤ a && lettersAndDigits.misses a b

/-- Are the code points of the range characters that are neither digits nor blanks? -/
def arePlain (a b : Nat) : Bool :=
  ((97 ≤ a && b ≤ 122) || (128 ≤ a && decimalDigits.avoids a b)) && blanks.misses a b &&
    (b < 0xD800 || (0xE000 ≤ a && b < 0x110000))

/-- Do the tables agree on a range of capitals and the range of their partners? -/
def tablesAgree (cs ps : Nat × Nat) : Bool :=
  (areCased cs.1 cs.2 && areCased ps.1 ps.2) && areNoCapitals ps.1 ps.2 &&
    ((areLetters cs.1 cs.2 && areLetters ps.1 ps.2) ||
      (areNoLetters cs.1 cs.2 && areNoLetters ps.1 ps.2)) &&
    (arePlain cs.1 cs.2 && arePlain ps.1 ps.2)

/-- The tables agree on the run and its partners, as a whole or one by one. -/
def CaseRun.isChecked (r : CaseRun) : Bool :=
  tablesAgree (r.first, r.last) (r.partner r.first, r.partner r.last) ||
    (List.range ((r.last - r.first) / r.step + 1)).all fun i =>
      let c := r.first + i * r.step
      tablesAgree (c, c) (r.partner c, r.partner c)

theorem isChecked_capitals : capitals.all CaseRun.isChecked = true := by
  decide +kernel

/-- The code points lie in ranges on which the tables agree. -/
structure Checked (c p : Nat) (cs ps : Nat × Nat) : Prop where
  within : cs.1 ≤ c ∧ c ≤ cs.2
  partner : ps.1 ≤ p ∧ p ≤ ps.2
  cased : areCased cs.1 cs.2 = true ∧ areCased ps.1 ps.2 = true
  last : areNoCapitals ps.1 ps.2 = true
  letters : areLetters cs.1 cs.2 = true ∧ areLetters ps.1 ps.2 = true ∨
    areNoLetters cs.1 cs.2 = true ∧ areNoLetters ps.1 ps.2 = true
  plain : arePlain cs.1 cs.2 = true ∧ arePlain ps.1 ps.2 = true

theorem Checked.of_tablesAgree {c p : Nat} {cs ps : Nat × Nat} (h : tablesAgree cs ps = true)
    (hc : cs.1 ≤ c ∧ c ≤ cs.2) (hp : ps.1 ≤ p ∧ p ≤ ps.2) : Checked c p cs ps := by
  simp only [tablesAgree, Bool.and_eq_true, Bool.or_eq_true] at h
  obtain ⟨⟨⟨hcased, hlast⟩, hletters⟩, hplain⟩ := h
  exact ⟨hc, hp, hcased, hlast, hletters, hplain⟩

/-- A capital of a run and its partner are checked. -/
theorem CaseRun.exists_checked {r : CaseRun} (hr : r ∈ capitals) {c : Nat}
    (hc : (r.first ≤ c && c ≤ r.last && (c - r.first) % r.step == 0) = true) :
    ∃ cs ps, Checked c (r.partner c) cs ps := by
  simp only [Bool.and_eq_true, decide_eq_true_eq, beq_iff_eq] at hc
  obtain ⟨⟨hfirst, hlast⟩, hstep⟩ := hc
  rcases Bool.or_eq_true_iff.mp (List.all_eq_true.mp isChecked_capitals r hr) with h | h
  · refine ⟨_, _, .of_tablesAgree h ⟨hfirst, hlast⟩ ⟨?_, ?_⟩⟩ <;> simp only [partner] <;> omega
  · -- the code point is a certain number of steps from the first one
    have hc : r.first + (c - r.first) / r.step * r.step = c := by
      rw [Nat.div_mul_cancel (Nat.dvd_of_mod_eq_zero hstep)]
      omega
    have hi : (c - r.first) / r.step < (r.last - r.first) / r.step + 1 :=
      Nat.lt_succ_of_le (Nat.div_le_div_right (by omega))
    have hcheck := List.all_eq_true.mp h _ (List.mem_range.mpr hi)
    simp only [hc] at hcheck
    exact ⟨_, _, .of_tablesAgree hcheck ⟨Nat.le_refl _, Nat.le_refl _⟩
      ⟨Nat.le_refl _, Nat.le_refl _⟩⟩

/-- A capital beyond ASCII and its partner are checked. -/
theorem exists_checked {c : Nat} (hc : 128 ≤ c) (hne : lowerCode c ≠ c) :
    ∃ cs ps, Checked c (lowerCode c) cs ps := by
  rw [lowerCode, if_neg (by omega)] at hne ⊢
  rcases hfind : capitals.findSome? (·.map? c) with - | p
  · simp [hfind] at hne
  · obtain ⟨r, hr, hmap⟩ := List.exists_of_findSome?_eq_some hfind
    rw [hfind]
    rw [CaseRun.map?] at hmap
    split at hmap
    case isTrue hin =>
      obtain rfl := Option.some.inj hmap
      exact r.exists_checked hr hin
    case isFalse => cases hmap

/-! ### Letters with two cases -/

theorem isCasedCode_of_areCased {a b c : Nat} (h : areCased a b = true) (hac : a ≤ c)
    (hcb : c ≤ b) : isCasedCode c = true := by
  simp only [areCased, Bool.or_eq_true, Bool.and_eq_true, decide_eq_true_eq] at h
  rw [isCasedCode]
  rcases h with h | ⟨h, hcovers⟩
  · rw [if_pos (by omega)]
    simp only [Bool.or_eq_true, Bool.and_eq_true, decide_eq_true_eq]
    omega
  · rw [if_neg (by omega)]
    exact Ranges.contains_of_covers hcovers hac hcb

/-- **A code point with a lower case partner** has two cases, and so has the partner. -/
theorem isCased_of_lowerCode_ne {c : Nat} (hne : lowerCode c ≠ c) :
    isCasedCode c = true ∧ isCasedCode (lowerCode c) = true := by
  by_cases hc : c < 128
  · rw [lowerCode, if_pos hc] at hne ⊢
    split at hne
    case isFalse => exact absurd rfl hne
    case isTrue hcapital =>
      rw [if_pos hcapital]
      simp only [Bool.and_eq_true, decide_eq_true_eq] at hcapital
      constructor
      · rw [isCasedCode, if_pos hc]
        simp only [Bool.or_eq_true, Bool.and_eq_true, decide_eq_true_eq]
        omega
      · rw [isCasedCode, if_pos (by omega)]
        simp only [Bool.or_eq_true, Bool.and_eq_true, decide_eq_true_eq]
        omega
  · obtain ⟨cs, ps, h⟩ := exists_checked (by omega) hne
    exact ⟨isCasedCode_of_areCased h.cased.1 h.within.1 h.within.2,
      isCasedCode_of_areCased h.cased.2 h.partner.1 h.partner.2⟩

/-- **A code point without two cases** is the lower case partner of itself only. -/
theorem lowerCode_eq_iff {c d : Nat} (hd : isCasedCode d = false) : lowerCode c = d ↔ c = d := by
  constructor
  · rintro rfl
    rcases Decidable.em (lowerCode c = c) with heq | hne
    · exact heq.symm
    · simp [(isCased_of_lowerCode_ne hne).2] at hd
  · rintro rfl
    rcases Decidable.em (lowerCode c = c) with heq | hne
    · exact heq
    · simp [(isCased_of_lowerCode_ne hne).1] at hd

/-- Beyond the basic plane, a lower case partner is no capital. -/
theorem lowerCode_lowerCode {c : Nat} (h : 0x10000 ≤ lowerCode c) :
    lowerCode (lowerCode c) = lowerCode c := by
  by_cases hne : lowerCode c = c
  · rw [hne, hne]
  by_cases hc : c < 128
  · have hascii : ∀ c < 128, lowerCode c < 0x10000 := by decide
    have := hascii c hc
    omega
  obtain ⟨cs, ps, hchecked⟩ := exists_checked (by omega) hne
  have hps := hchecked.partner
  have hcheck := hchecked.last
  simp only [areNoCapitals, Bool.or_eq_true, Bool.and_eq_true, Nat.blt_eq, Nat.ble_eq] at hcheck
  obtain hplane | ⟨-, hall⟩ := hcheck
  · omega
  -- no run of capitals reaches the partner
  have hnone : capitals.findSome? (·.map? (lowerCode c)) = none := by
    refine List.findSome?_eq_none_iff.mpr fun r hr => if_neg ?_
    have hout := List.all_eq_true.mp hall r hr
    simp only [Bool.or_eq_true, Nat.blt_eq] at hout
    simp only [Bool.and_eq_true, decide_eq_true_eq]
    omega
  rw [lowerCode, if_neg (by omega), hnone]
  rfl

/-! ### Letters that share a capital -/

theorem areCased_sharedCapitals : sharedCapitals.all (fun x =>
    isCasedCode x.1 && x.2.all isCasedCode && x.1 < 0x10000) = true := by
  decide +kernel

/-- A capital beyond ASCII has two cases. -/
theorem isCased_of_unmap? {r : CaseRun} (hr : r ∈ capitals) {c d : Nat} (h : r.unmap? c = some d) :
    isCasedCode d = true := by
  rw [CaseRun.unmap?] at h
  split at h
  case isTrue hin =>
    obtain rfl := Option.some.inj h
    obtain ⟨cs, ps, hchecked⟩ := r.exists_checked hr hin
    exact isCasedCode_of_areCased hchecked.cased.1 hchecked.within.1 hchecked.within.2
  case isFalse => cases h

/-- A letter that shares its capital with another one has two cases, and so has the other
one. -/
theorem isCased_of_mem_otherLowers {c d : Nat} (h : d ∈ otherLowers c) :
    isCasedCode c = true ∧ isCasedCode d = true ∧ c < 0x10000 := by
  rw [otherLowers] at h
  rcases hl : sharedCapitals.lookup c with - | others
  · simp [hl] at h
  rw [hl] at h
  obtain ⟨xs, ys, hmem, -⟩ := List.lookup_eq_some_iff.mp hl
  have hcheck := List.all_eq_true.mp areCased_sharedCapitals (c, others) (by simp [hmem])
  simp only [Bool.and_eq_true, decide_eq_true_eq] at hcheck
  exact ⟨hcheck.1.1, List.all_eq_true.mp hcheck.1.2 d h, hcheck.2⟩

/-! ### Words, digits and blanks -/

theorem toNat_ofNat_of_arePlain {a b c : Nat} (h : arePlain a b = true) (hac : a ≤ c)
    (hcb : c ≤ b) :
    (Char.ofNat c).toNat = c := by
  simp only [arePlain, Bool.and_eq_true, Bool.or_eq_true, decide_eq_true_eq] at h
  have hvalid : c.isValidChar := by
    rcases h.2 with h | h
    · exact .inl (by omega)
    · exact .inr (by omega)
  rw [Char.ofNat, dif_pos hvalid]
  rfl

/-- What holds of all ASCII characters and their partners, and of all capitals beyond ASCII and
theirs, holds of all code points. -/
theorem lowerCode_ind {P : Nat → Nat → Prop} (hself : ∀ c, P c c)
    (hascii : ∀ c < 128, P c (lowerCode c))
    (hcapital : ∀ c, 128 ≤ c → lowerCode c ≠ c → P c (lowerCode c)) (c : Nat) :
    P c (lowerCode c) := by
  by_cases hc : c < 128
  · exact hascii c hc
  by_cases hne : lowerCode c = c
  · rw [hne]
    exact hself c
  · exact hcapital c (by omega) hne

/-- Capitals beyond ASCII and their partners are characters, neither digits nor blanks. -/
theorem plain_of_lowerCode_ne {c : Nat} (hc : 128 ≤ c) (hne : lowerCode c ≠ c) {d : Nat}
    (hd : d = c ∨ d = lowerCode c) :
    (Char.ofNat d).toNat = d ∧ isDecimal (Char.ofNat d) = false ∧ blanks.contains d = false := by
  obtain ⟨cs, ps, hchecked⟩ := exists_checked hc hne
  have hall : ∀ {a b : Nat}, arePlain a b = true → a ≤ d → d ≤ b →
      (Char.ofNat d).toNat = d ∧ isDecimal (Char.ofNat d) = false ∧ blanks.contains d = false := by
    intro a b h had hdb
    have hchar := toNat_ofNat_of_arePlain h had hdb
    simp only [arePlain, Bool.and_eq_true, Bool.or_eq_true, decide_eq_true_eq] at h
    refine ⟨hchar, ?_, Ranges.contains_of_misses h.1.2 had hdb⟩
    rcases h.1.1 with hletter | ⟨hlarge, havoids⟩
    · have hascii : ∀ d < 123, 97 ≤ d → isDecimal (Char.ofNat d) = false := by decide
      exact hascii d (by omega) (by omega)
    · rw [isDecimal, digitValue?, hchar, if_neg (by omega), Ranges.find?_of_avoids havoids had hdb]
      rfl
  rcases hd with rfl | rfl
  · exact hall hchecked.plain.1 hchecked.within.1 hchecked.within.2
  · exact hall hchecked.plain.2 hchecked.partner.1 hchecked.partner.2

theorem isWord_lowerCode (c : Nat) : isWord (Char.ofNat (lowerCode c)) = isWord (Char.ofNat c) := by
  refine lowerCode_ind (P := fun c p => isWord (Char.ofNat p) = isWord (Char.ofNat c))
    (fun _ => rfl) (by decide) (fun c hc hne => ?_) c
  obtain ⟨hchar, -⟩ := plain_of_lowerCode_ne hc hne (.inl rfl)
  obtain ⟨hchar', -⟩ := plain_of_lowerCode_ne hc hne (.inr rfl)
  obtain ⟨cs, ps, hchecked⟩ := exists_checked hc hne
  have hcs := hchecked.within
  have hps := hchecked.partner
  have hin : ∀ {a b d : Nat}, areLetters a b = true → a ≤ d → d ≤ b → (Char.ofNat d).toNat = d →
      isWord (Char.ofNat d) = true := by
    intro a b d h had hdb hd
    simp only [areLetters, Bool.or_eq_true, Bool.and_eq_true, decide_eq_true_eq] at h
    rcases h with hletter | ⟨hlarge, hcovers⟩
    · have hascii : ∀ d < 123, 97 ≤ d → isWord (Char.ofNat d) = true := by decide
      exact hascii d (by omega) (by omega)
    · rw [isWord, hd, if_neg (by omega), Ranges.contains_of_covers hcovers had hdb]
  have hout : ∀ {a b d : Nat}, areNoLetters a b = true → a ≤ d → d ≤ b → (Char.ofNat d).toNat = d →
      isWord (Char.ofNat d) = false := by
    intro a b d h had hdb hd
    simp only [areNoLetters, Bool.and_eq_true, decide_eq_true_eq] at h
    rw [isWord, hd, if_neg (by omega), Ranges.contains_of_misses h.2 had hdb]
  rcases hchecked.letters with ⟨h, h'⟩ | ⟨h, h'⟩
  · rw [hin h hcs.1 hcs.2 hchar, hin h' hps.1 hps.2 hchar']
  · rw [hout h hcs.1 hcs.2 hchar, hout h' hps.1 hps.2 hchar']

theorem isDecimal_lowerCode (c : Nat) :
    isDecimal (Char.ofNat (lowerCode c)) = isDecimal (Char.ofNat c) := by
  refine lowerCode_ind (P := fun c p => isDecimal (Char.ofNat p) = isDecimal (Char.ofNat c))
    (fun _ => rfl) (by decide) (fun c hc hne => ?_) c
  rw [(plain_of_lowerCode_ne hc hne (.inl rfl)).2.1, (plain_of_lowerCode_ne hc hne (.inr rfl)).2.1]

theorem contains_blanks_lowerCode (c : Nat) :
    blanks.contains (lowerCode c) = blanks.contains c := by
  refine lowerCode_ind (P := fun c p => blanks.contains p = blanks.contains c)
    (fun _ => rfl) (by decide) (fun c hc hne => ?_) c
  rw [(plain_of_lowerCode_ne hc hne (.inl rfl)).2.2, (plain_of_lowerCode_ne hc hne (.inr rfl)).2.2]

end SigmaRules.Text
