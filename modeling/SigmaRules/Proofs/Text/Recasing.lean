/-
SigmaRules/Proofs/Text/Recasing.lean

Texts that differ in the case of ASCII letters only (`Recased`).  In lower case
they are the same text (`lower_eq_of_recased`), and so are their characters, one
by one (`lowerCode_toLower`).  The lower case of a text depends on more than its
characters, as a capital sigma looks at what is around it; but what it asks of its
neighbours does not depend on their case (`startsWithLetter_map_toLower`).
-/
import SigmaRules.Proofs.Text.LetterCase

namespace SigmaRules.Text

/-! ### Characters -/

/-- The character stays as it is unless it is a capital of ASCII. -/
theorem toLower_cases (c : Char) :
    c.toLower = c ∨ (65 ≤ c.toNat ∧ c.toNat ≤ 90) ∧ c.toLower.toNat = c.toNat + 32 := by
  by_cases h : 'A'.val ≤ c.val ∧ c.val ≤ 'Z'.val
  · have hlo : 65 ≤ c.val.toNat := h.1
    have hhi : c.val.toNat ≤ 90 := h.2
    have hval : c.toLower.val = c.val + ('a'.val - 'A'.val) := congrArg Char.val (dif_pos h)
    refine .inr ⟨⟨hlo, hhi⟩, ?_⟩
    show c.toLower.val.toNat = c.val.toNat + 32
    rw [hval, UInt32.toNat_add, Nat.mod_eq_of_lt]
    · rfl
    · show c.val.toNat + 32 < _
      omega
  · exact .inl (dif_neg h)

theorem lowerCode_toLower (c : Char) : lowerCode c.toLower.toNat = lowerCode c.toNat := by
  rcases toLower_cases c with h | ⟨⟨hlo, hhi⟩, h⟩
  · rw [h]
  · have hascii : c.toNat < 128 := by omega
    have hascii' : c.toNat + 32 < 128 := by omega
    have hsmall : ¬c.toNat + 32 ≤ 90 := by omega
    simp [h, lowerCode, hascii, hascii', hlo, hhi, hsmall]

/-- No character beyond ASCII becomes another one. -/
theorem toNat_toLower_eq_iff {k : Nat} (hk : 128 ≤ k) (c : Char) :
    c.toLower.toNat = k ↔ c.toNat = k := by
  rcases toLower_cases c with h | ⟨⟨hlo, hhi⟩, h⟩
  · rw [h]
  · omega

theorem contains_sigmaIgnored_toLower (c : Char) :
    sigmaIgnored.contains c.toLower.toNat = sigmaIgnored.contains c.toNat := by
  rcases toLower_cases c with h | ⟨⟨hlo, hhi⟩, h⟩
  · rw [h]
  -- between the capitals and the other letters there are characters that are ignored
  · have hcapitals : sigmaIgnored.misses 65 90 = true := by decide
    have hsmall : sigmaIgnored.misses 97 122 = true := by decide
    rw [Ranges.contains_of_misses hcapitals hlo hhi,
      Ranges.contains_of_misses hsmall (by omega) (by omega)]

theorem isSigmaLetter_toLower (c : Char) : isSigmaLetter c.toLower = isSigmaLetter c := by
  rcases toLower_cases c with h | ⟨⟨hlo, hhi⟩, h⟩
  · rw [h]
  · have hcased : isCasedAscii c.toNat = true := by simp [isCasedAscii, hlo, hhi]
    have hcased' : isCasedAscii c.toLower.toNat = true := by
      simp only [isCasedAscii, Bool.or_eq_true, Bool.and_eq_true, decide_eq_true_eq]
      omega
    rw [isSigmaLetter, isSigmaLetter, if_pos (by omega), if_pos (by omega), hcased, hcased']

/-! ### Texts -/

theorem startsWithLetter_map_toLower (s : List Char) :
    startsWithLetter (s.map Char.toLower) = startsWithLetter s := by
  have hignored : (fun c => sigmaIgnored.contains c.toNat) ∘ Char.toLower
      = fun c => sigmaIgnored.contains c.toNat := funext contains_sigmaIgnored_toLower
  rw [startsWithLetter, startsWithLetter, List.dropWhile_map, hignored]
  generalize s.dropWhile (fun c => sigmaIgnored.contains c.toNat) = rest
  rcases rest with - | ⟨c, rest⟩
  · rfl
  · exact isSigmaLetter_toLower c

theorem lowerFrom_map_toLower (before rest : List Char) :
    lowerFrom (before.map Char.toLower) (rest.map Char.toLower) = lowerFrom before rest := by
  induction rest generalizing before with
  | nil => rfl
  | cons c rest ih =>
    have hspecial : ∀ k, 128 ≤ k → (c.toLower.toNat == k) = (c.toNat == k) := by
      intro k hk
      rw [Bool.eq_iff_iff, beq_iff_eq, beq_iff_eq, toNat_toLower_eq_iff hk]
    have hrest := ih (c :: before)
    rw [List.map_cons] at hrest ⊢
    rw [lowerFrom, lowerFrom, hrest, hspecial 0x3A3 (by decide), hspecial 0x130 (by decide),
      startsWithLetter_map_toLower, startsWithLetter_map_toLower, lowerCode_toLower]

/-- The texts differ in nothing but the case of ASCII letters. -/
def Recased (s t : String) : Prop := s.toList.map Char.toLower = t.toList.map Char.toLower

instance (s t : String) : Decidable (Recased s t) :=
  inferInstanceAs (Decidable (s.toList.map Char.toLower = t.toList.map Char.toLower))

/-- **Texts that differ in the case of ASCII letters only** are the same text in lower case. -/
theorem lower_eq_of_recased {s t : String} (h : Recased s t) : lower s = lower t := by
  have hlower := fun u : String => lowerFrom_map_toLower [] u.toList
  rw [lower, lower, ← hlower s, ← hlower t]
  exact congrArg (fun l => String.ofList (lowerFrom [] l)) h

end SigmaRules.Text
