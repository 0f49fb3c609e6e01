/-
SigmaRules/Proofs/Search/Networks.lean

Searches for blocks of addresses.  A value matches if and only if it writes an
address or a block, and one of the patterns writes a block of the same family that
holds all of its addresses.  Which texts write blocks is told by `Writes`, and which
addresses a block holds by `Family.addresses`; bits beyond the length of a block play
no part in it.

Texts of addresses are read back, so an address in its usual text is matched by a block
in its usual text if and only if the two begin with the same bits.
-/
import SigmaRules.Proofs.Network.Writing
import SigmaRules.Search.Evaluate

namespace SigmaRules.Search

open Network

/-- Texts without zones are compared by the bits that they begin with. -/
theorem matchesNetworks_iff_leadingBits {patterns : List String} {value : String}
    (hzone : ∀ s ∈ value :: patterns, '%' ∉ s.toList) :
    matchesNetworks patterns value = true ↔
      ∃ family a l, Writes family value.toList a l ∧
        ∃ p ∈ patterns, ∃ n k, Writes family p.toList n k ∧
          k ≤ l ∧ a / 2 ^ (family.bits - k) = n / 2 ^ (family.bits - k) := by
  obtain ⟨hvalue, hpatterns⟩ := List.forall_mem_cons.mp hzone
  rw [matchesNetworks]
  constructor
  · intro h
    split at h
    case h_1 => cases h
    case h_2 b hb =>
      obtain ⟨family, a, l, ha, rfl⟩ := (ofText?_eq_some_iff hvalue).mp hb
      obtain ⟨c, hc, hcontains⟩ := List.any_eq_true.mp h
      obtain ⟨p, hp, hread⟩ := List.mem_filterMap.mp hc
      obtain ⟨family', n, k, hn, rfl⟩ := (ofText?_eq_some_iff (hpatterns p hp)).mp hread
      obtain ⟨rfl, hsame⟩ := (contains_around_iff hn.length_le).mp hcontains
      exact ⟨_, a, l, ha, p, hp, n, k, hn, hsame⟩
  · rintro ⟨family, a, l, ha, p, hp, n, k, hn, hsame⟩
    have hread := (ofText?_eq_some_iff hvalue).mpr ⟨family, a, l, ha, rfl⟩
    rw [hread]
    refine List.any_eq_true.mpr ⟨.around family n k none, List.mem_filterMap.mpr ⟨p, hp, ?_⟩, ?_⟩
    · exact (ofText?_eq_some_iff (hpatterns p hp)).mpr ⟨family, n, k, hn, rfl⟩
    · exact (contains_around_iff hn.length_le).mpr ⟨rfl, hsame⟩

/-- **Searches for blocks compare sets of addresses.**  If neither the value nor a pattern has a
zone, the value matches if and only if it writes a block and a pattern writes a block of the same
family that contains each of its addresses.  That is to say: the block of the pattern has no more
bits than the one of the value, and in these bits the two addresses agree.  In particular, the
text of an address is matched by the text of another one with a number of bits after a slash if
and only if the two addresses agree in these bits. -/
theorem networks_match_iff_subset :
    (∀ (patterns : List String) (value : String), (∀ s ∈ value :: patterns, '%' ∉ s.toList) →
      (matchesNetworks patterns value = true ↔
        ∃ family a l, Writes family value.toList a l ∧ ∃ p ∈ patterns, ∃ n k,
          Writes family p.toList n k ∧ family.addresses a l ⊆ family.addresses n k) ∧
      (matchesNetworks patterns value = true ↔
        ∃ family a l, Writes family value.toList a l ∧ ∃ p ∈ patterns, ∃ n k,
          Writes family p.toList n k ∧
            k ≤ l ∧ a / 2 ^ (family.bits - k) = n / 2 ^ (family.bits - k))) ∧
    ∀ (family : Family) (a n p : Nat), a < 2 ^ family.bits → n < 2 ^ family.bits →
      p ≤ family.bits →
      (matchesNetworks [family.text n ++ "/" ++ toString p] (family.text a) = true ↔
        a / 2 ^ (family.bits - p) = n / 2 ^ (family.bits - p)) := by
  constructor
  · intro patterns value hzone
    have hsame := matchesNetworks_iff_leadingBits hzone
    refine ⟨hsame.trans ?_, hsame⟩
    refine exists_congr fun family => exists_congr fun a => exists_congr fun l =>
      and_congr_right fun ha => exists_congr fun p => and_congr_right fun _ =>
      exists_congr fun n => exists_congr fun k => and_congr_right fun hn => ?_
    exact (addresses_subset_iff ha.address_lt hn.length_le).symm
  · intro family a n p ha hn hp
    have hvalue := writes_text ha
    have hpattern := writes_text_slash hn hp
    have hzone : ∀ s ∈ [family.text a, family.text n ++ "/" ++ toString p], '%' ∉ s.toList :=
      List.forall_mem_cons.mpr ⟨hvalue.percent_not_mem,
        List.forall_mem_singleton.mpr hpattern.percent_not_mem⟩
    rw [matchesNetworks_iff_leadingBits hzone]
    constructor
    · rintro ⟨family', a', l, hwrites, q, hq, n', k, hwrites', hsame⟩
      obtain rfl := List.mem_singleton.mp hq
      obtain ⟨rfl, rfl, rfl⟩ := hwrites.unique hvalue
      obtain ⟨-, rfl, rfl⟩ := hwrites'.unique hpattern
      exact hsame.2
    · intro hsame
      exact ⟨family, a, family.bits, hvalue, _, List.mem_singleton_self _, n, p, hpattern, hp,
        hsame⟩

/-- The statement at a block within one that is written with a mask and an address beyond its first
one, beside patterns that do not match; and at two addresses that differ in their last bit. -/
theorem sample_networks_match :
    let patterns := ["intranet", "2001:db8::/32", "10.1.2.3/255.0.0.0"]
    let value := "10.200.0.0/16"
    (∀ s ∈ value :: patterns, '%' ∉ s.toList) ∧ matchesNetworks patterns value = true ∧
      Family.v6.text 1 = "::1" ∧ matchesNetworks ["::/127"] "::1" = true ∧
      ¬ matchesNetworks ["::/128"] "::1" = true := by
  intro patterns value
  have hzone : ∀ s ∈ value :: patterns, '%' ∉ s.toList := by decide
  have hvalue : Writes .v4 value.toList 180879360 16 := by
    rw [show value.toList = "10.200.0.0".toList ++ '/' :: "16".toList by decide]
    exact .block (by decide) (by decide)
  have hpattern : Writes .v4 "10.1.2.3/255.0.0.0".toList 167838211 8 := by
    rw [show "10.1.2.3/255.0.0.0".toList = "10.1.2.3".toList ++ '/' :: "255.0.0.0".toList by decide]
    exact .block (by decide) (by decide +kernel)
  have htext : Family.v6.text 1 = "::1" := by decide +kernel
  have hpatterns : Family.v6.text 0 ++ "/" ++ toString 127 = "::/127" ∧
      Family.v6.text 0 ++ "/" ++ toString 128 = "::/128" := by
    decide +kernel
  obtain ⟨hlists, htexts⟩ := networks_match_iff_subset
  refine ⟨hzone, (hlists patterns value hzone).2.mpr ?_, htext, ?_, ?_⟩
  · exact ⟨.v4, _, _, hvalue, _, by simp [patterns], _, _, hpattern, by decide, by decide⟩
  · rw [← htext, ← hpatterns.1]
    exact (htexts .v6 1 0 127 (by decide) (by decide) (by decide)).mpr (by decide)
  · rw [← htext, ← hpatterns.2]
    exact mt (htexts .v6 1 0 128 (by decide) (by decide) (by decide)).mp (by decide)

end SigmaRules.Search
