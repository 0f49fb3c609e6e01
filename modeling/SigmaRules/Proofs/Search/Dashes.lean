/-
SigmaRules/Proofs/Search/Dashes.lean

Searches for a text with any dash.  The variants of the text stand for themselves, and
one of them has to be found, without regard to letter case (`search_dashNodes_iff`).
Joining the variants loses nothing: they end alike, so no characters are left of them
that would be merged to a set (`tails_eq_of_getLast?`).
-/
import SigmaRules.Proofs.Pattern.Dash
import SigmaRules.Proofs.Search.AnyAlignment
import SigmaRules.Proofs.Search.AnyPattern

namespace SigmaRules.Search

open Regex Pattern

/-- If alternatives end alike, what is left of them after a common beginning is the same if it is
one character of each. -/
theorem tails_eq_of_getLast? {alts tails : List (List Node)} {shared : List Node}
    {last : Option Node} (halts : tails.map (shared ++ ·) = alts)
    (hlast : ∀ ns ∈ alts, ns.getLast? = last)
    (hset : ∀ t ∈ tails, (oneCharItems? t).isSome = true) :
    ∀ t ∈ tails, ∀ u ∈ tails, t = u := by
  have hone : ∀ t ∈ tails, ∃ v, t = [.char v] ∧ some (.char v) = last := by
    intro t ht
    obtain ⟨is, his⟩ := Option.isSome_iff_exists.mp (hset t ht)
    obtain ⟨v, rfl⟩ := exists_char_of_oneCharItems? his
    refine ⟨v, rfl, ?_⟩
    rw [← hlast _ (halts ▸ List.mem_map_of_mem (f := (shared ++ ·)) ht), List.getLast?_concat]
  intro t ht u hu
  obtain ⟨v, rfl, hv⟩ := hone t ht
  obtain ⟨w, rfl, hw⟩ := hone u hu
  rw [Option.some.inj (hv.trans hw.symm)]

/-- **The variants of a text are found** where one of them stands. -/
theorem search_dashNodes_iff (p v : List Char) :
    (Node.ofList (joinAlternatives .fold ((dashVariants p).map (literals .fold)))).search v = true ↔
      ∃ w ∈ dashVariants p, ∃ u, u <:+: v ∧
        List.Forall₂ (fun c d => CaseRule.fold.same c.toNat d.toNat = true) w u := by
  have hne : (dashVariants p).map (literals .fold) ≠ [] := by simp [dashVariants, dashes]
  rw [search_joined_iff hne]
  · simp only [List.mem_map, exists_exists_and_eq_and, search_literals_iff]
  · intro shared tails halts hset hdiffer
    obtain ⟨t, ht, u, hu, htu⟩ := hdiffer
    exact absurd (tails_eq_of_getLast? halts getLast?_dashNodes hset t ht u hu) htu

section Modifiers

variable {modifiers : List Modifier} (h : ∀ m, m ∈ modifiers ↔ m = .windash ∨ m = .contains)
include h

/-- With `windash` and `contains` there is no other modifier. -/
theorem not_mem_of_windash_contains {m : Modifier} (hwindash : m ≠ .windash)
    (hcontains : m ≠ .contains) : m ∉ modifiers := fun hmem =>
  ((h m).mp hmem).elim hwindash hcontains

theorem kind_windash_contains (field : Option String) (p : String) :
    (Search.mk field modifiers [p]).kind = .ok .glob := by
  have hexpand : .expand ∉ modifiers := not_mem_of_windash_contains h (by simp) (by simp)
  have hre : .re ∉ modifiers := not_mem_of_windash_contains h (by simp) (by simp)
  have hcidr : .cidr ∉ modifiers := not_mem_of_windash_contains h (by simp) (by simp)
  refine kind_eq_ok_iff.mpr ⟨List.cons_ne_nil p [], ⟨?_, ?_, ?_, ?_⟩, ?_, fun _ => trivial⟩
  · intro m hm
    obtain rfl | rfl := (h m).mp hm <;> rfl
  · exact fun hmem => hexpand (List.mem_of_mem_tail hmem)
  · exact fun hmem => absurd hmem hexpand
  · simp [hre]
  · simp [kindOf, kindFrom, hre, hcidr]

/-- The pattern may stand anywhere, so it is read as its variants alone. -/
theorem patternNodes_windash_contains (field : Option String) (p : String) :
    patternNodes modifiers field p
      = joinAlternatives .fold ((dashVariants p.toList).map (literals .fold)) := by
  have hwindash : .windash ∈ modifiers := (h _).mpr (.inl rfl)
  have hcontains : .contains ∈ modifiers := (h _).mpr (.inr rfl)
  have hbase64 : .base64 ∉ modifiers := not_mem_of_windash_contains h (by simp) (by simp)
  have hoffset : .base64offset ∉ modifiers := not_mem_of_windash_contains h (by simp) (by simp)
  have hstart : startFree modifiers field = true := by simp [startFree, hcontains]
  have hend : endFree modifiers field = true := by simp [endFree, hcontains]
  rw [patternNodes_eq hoffset, hstart, hend, plainNodes, if_pos (by simpa using hwindash),
    if_neg (by simpa using hbase64)]
  simp [startNodes, endNodes]

end Modifiers

/-- **Exactly the first dash that starts a word is any dash.**  If there is one, the variants of a
text are the text with each of the dashes in its place, whichever of the two it is, and otherwise
they are all the text itself; the text is always among them.  The search for the text anywhere with
any dash always has an answer, in every field and for every value, and it matches if and only if
one of the variants stands in the value as it is, without regard to letter case. -/
theorem windash_replaces_first_dash (p : String) :
    (∀ i, IsLeast {i | StartsWord true p.toList i} i →
      dashVariants p.toList
          = ['-', '/', '\u2013', '\u2014', '\u2015'].map (fun dash => p.toList.set i dash) ∧
        ∀ dash, dash = '-' ∨ dash = '/' →
          dashVariants (p.toList.set i dash) = dashVariants p.toList) ∧
    ((∀ i, ¬ StartsWord true p.toList i) → dashVariants p.toList = List.replicate 5 p.toList) ∧
    p.toList ∈ dashVariants p.toList ∧
    ∀ (field : Option String) (modifiers : List Modifier),
      (∀ m, m ∈ modifiers ↔ m = .windash ∨ m = .contains) → ∀ (e : Entry) (ps : Placeholders),
        ∃ b, (Search.mk field modifiers [p]).succeeds e ps = .ok b ∧
          (b = true ↔ ∃ w ∈ dashVariants p.toList, ∃ u,
            u <:+: ((Search.mk field modifiers [p]).inspected e).toList ∧
              List.Forall₂ (fun c d => CaseRule.fold.same c.toNat d.toNat = true) w u) := by
  refine ⟨fun i hi => ⟨dashVariants_of_isLeast hi, fun dash hdash => dashVariants_set hdash hi⟩,
    dashVariants_of_not, mem_dashVariants_self p.toList, ?_⟩
  intro field modifiers hmodifiers e ps
  have hmem : ∀ m, m ≠ .windash → m ≠ .contains → m ∉ modifiers := fun _ =>
    not_mem_of_windash_contains hmodifiers
  have hparse := parse_patterns (hmem .re (by simp) (by simp)) field [p]
  refine ⟨_, succeeds_of_parse (kind_windash_contains hmodifiers field p)
    (List.cons_ne_nil p []) (hmem .expand (by simp) (by simp)) (hmem .cidr (by simp) (by simp))
    (hmem .all (by simp) (by simp)) hparse e ps, ?_⟩
  rw [List.map_singleton, patternNodes_windash_contains hmodifiers]
  exact search_dashNodes_iff p.toList _

/-- The statement at a text with several dashes, of which the third one is the first that starts a
word. -/
theorem sample_windash :
    let p := "a-b --c /d"
    IsLeast {i | StartsWord true p.toList i} 5 ∧
      (Search.mk (some "CommandLine") [.contains, .windash] [p]).succeeds
        { fields := [("CommandLine", "X A-B -—C /D")] } [] = .ok true := by
  intro p
  have hbefore : ∀ j < 5, ¬ StartsWord true p.toList j := by decide
  have hleast : IsLeast {i | StartsWord true p.toList i} 5 :=
    ⟨by decide, fun j hj => Nat.le_of_not_lt fun hlt => hbefore j hlt hj⟩
  obtain ⟨hfirst, -, -, hsearch⟩ := windash_replaces_first_dash p
  obtain ⟨b, hb, hiff⟩ := hsearch (some "CommandLine") [.contains, .windash] (by simp [or_comm])
    { fields := [("CommandLine", "X A-B -—C /D")] } []
  have hfound : b = true := by
    refine hiff.mpr ⟨p.toList.set 5 '\u2014', ?_, "A-B -\u2014C /D".toList, ?_, by decide⟩
    · rw [(hfirst 5 hleast).1]
      decide
    · exact ⟨"X ".toList, [], by decide⟩
  exact ⟨hleast, hb.trans (congrArg Except.ok hfound)⟩

end SigmaRules.Search
