/-
SigmaRules/Proofs/Detection/Wildcards.lean

Stars at the ends of a pattern against the modifiers that free the ends.  A star stands
for a run of characters, but there is no line feed in such a run
(`mem_language_starred`), while the text before and after a match under `contains`,
`startswith` or `endswith` may be any.

So the two spellings differ, and only in this: both find the same pattern in the
field, but between stars only if there is no line feed outside of it
(`starred_matches_iff`).
-/
import SigmaRules.Proofs.Detection.Scalars

namespace SigmaRules

open Document Pattern Regex

/-! ### Stars at the ends -/

namespace Pattern

/-- A text with stars at the ends that are free. -/
def starred (before after : Bool) (s : String) : String :=
  (if before then "*" else "") ++ s ++ (if after then "*" else "")

/-- The texts of a glob in two parts are those of the parts, one after the other. -/
theorem language_append (p q : List Char) : language (p ++ q) = language p * language q := by
  rw [language, List.map_append, List.prod_append]
  rfl

/-- At a free end stands a run of characters without line feeds, and nothing at another end. -/
theorem mem_language_end {free : Bool} {u : List Char} :
    u ∈ language (if free then "*" else "").toList ↔ (u = [] ∨ free = true) ∧ '\n' ∉ u := by
  rcases free with - | -
  · have hnil : u ∈ language "".toList ↔ u = [] := Iff.rfl
    rw [if_neg (by simp), hnil]
    simp only [Bool.false_eq_true, or_false, iff_self_and]
    rintro rfl
    exact List.not_mem_nil
  · have hstar : language "*".toList = runsOf (· ≠ '\n') := by
      show ([charLanguage '*']).prod = _
      rw [List.prod_singleton, charLanguage_star]
    rw [if_pos rfl, hstar, mem_runsOf]
    simp only [or_true, true_and]
    exact ⟨fun h hmem => h _ hmem rfl, fun h c hc heq => h (heq ▸ hc)⟩

/-- **The texts of a pattern between stars** have a text of the pattern in them, and no line feed
besides. -/
theorem mem_language_starred {before after : Bool} {s : String} {t : List Char} :
    t ∈ language (starred before after s).toList ↔ ∃ u w z, t = u ++ w ++ z ∧
      w ∈ language s.toList ∧ (u = [] ∨ before = true) ∧ (z = [] ∨ after = true) ∧
      '\n' ∉ u ∧ '\n' ∉ z := by
  rw [starred, String.toList_append, String.toList_append, language_append, language_append]
  simp only [Language.mem_mul, mem_language_end]
  constructor
  · rintro ⟨-, ⟨u, ⟨hu, hu'⟩, w, hw, rfl⟩, z, ⟨hz, hz'⟩, rfl⟩
    exact ⟨u, w, z, rfl, hw, hu, hz, hu', hz'⟩
  · rintro ⟨u, w, z, rfl, hw, hu, hz, hu', hz'⟩
    exact ⟨u ++ w, ⟨u, ⟨hu, hu'⟩, w, hw, rfl⟩, z, ⟨hz, hz'⟩, rfl⟩

end Pattern

namespace Detection

open Search

/-- The modifiers that free the ends of a field, and which of the ends. -/
def spellings : List (Modifier × Bool × Bool) :=
  [(.startswith, false, true), (.endswith, true, false), (.contains, true, true)]

variable {f : String} {m : Modifier} {before after : Bool}

/-- A modifier frees the ends that it is listed with. -/
theorem ends_of_mem_spellings (hf : f ≠ "") (hm : (m, before, after) ∈ spellings) :
    (∀ n ∈ [m], n = .contains ∨ n = .startswith ∨ n = .endswith) ∧
      startFree [m] (some f) = before ∧ endFree [m] (some f) = after := by
  have hempty : f.isEmpty = false := by simpa using hf
  simp only [spellings, List.mem_cons, Prod.mk.injEq, List.not_mem_nil, or_false] at hm
  rcases hm with ⟨rfl, rfl, rfl⟩ | ⟨rfl, rfl, rfl⟩ | ⟨rfl, rfl, rfl⟩
  · simp [startFree, endFree, hempty]
  · simp [startFree, endFree, hempty]
  · simp [startFree, endFree, hempty]

theorem inspected_field (hf : f ≠ "") (ms : List Modifier) (ps : List String) (e : Entry) :
    (Search.mk (some f) ms ps).inspected e = e.get f := by
  have hempty : f.isEmpty = false := by simpa using hf
  simp [Search.inspected, Search.fieldName?, Option.filter, hempty]

/-- **Stars and modifiers find the same, but for line feeds.**  Both spellings of a field search
have an answer at every entry.  With the modifier, the pattern has to be in the field, with
nothing before and after it but at the ends that are free; with stars, there must be no line feed
before and after it, either.  So the spellings agree on fields without line feeds. -/
theorem starred_matches_iff (hf : f ≠ "") (hbar : '|' ∉ f.toList)
    (hm : (m, before, after) ∈ spellings) (s : String) (e : Entry) (ps : Placeholders) :
    ∃ x y a b, ofMap [(.text f, .text (starred before after s))] = .ok x ∧
      ofMap [(.text (f ++ "|" ++ m.name), .text s)] = .ok y ∧
      x.matchesEntry e ps = .ok a ∧ y.matchesEntry e ps = .ok b ∧
      (a = true ↔ ∃ u w z, (e.get f).toList = u ++ w ++ z ∧ w ∈ language s.toList ∧
        (u = [] ∨ before = true) ∧ (z = [] ∨ after = true) ∧ '\n' ∉ u ∧ '\n' ∉ z) ∧
      (b = true ↔ ∃ u w z, (e.get f).toList = u ++ w ++ z ∧ w ∈ language s.toList ∧
        (u = [] ∨ before = true) ∧ (z = [] ∨ after = true)) ∧
      ('\n' ∉ (e.get f).toList → a = b) := by
  obtain ⟨hfree, hstart, hend⟩ := ends_of_mem_spellings hf hm
  have hempty : f.isEmpty = false := by simpa using hf
  have hkey : Search.key ⟨some f, [m], [s]⟩ = f ++ "|" ++ m.name := by simp [Search.key]
  have hknown : ∀ n ∈ [m], n.isKnown = true := by
    intro n hn
    rcases hfree n hn with rfl | rfl | rfl <;> rfl
  have hy := ofMap_of_key hf hbar hknown (v := .text s) rfl rfl
    (kind_of_free hfree (some f) (by simp))
  obtain ⟨a, ha, haiff⟩ := succeeds_unmodified (starred before after s) e ps (some f)
  obtain ⟨b, hb, hbiff⟩ := succeeds_of_free hfree (some f) s e ps
  rw [inspected_field hf] at haiff hbiff
  rw [hstart, hend] at hbiff
  -- without modifiers, the texts of the glob are the whole field
  have ha' : a = true ↔ (e.get f).toList ∈ language (starred before after s).toList := by
    rw [haiff]
    simp [hempty]
  rw [mem_language_starred] at ha'
  refine ⟨_, _, a, b, ofMap_scalar rfl rfl hf hbar, hkey ▸ hy, (Expr.matchesEntry_search ..).trans ha,
    (Expr.matchesEntry_search ..).trans hb, ha', hbiff, fun hline => ?_⟩
  rw [Bool.eq_iff_iff, ha', hbiff]
  constructor
  · rintro ⟨u, w, z, htext, hw, hu, hz, -, -⟩
    exact ⟨u, w, z, htext, hw, hu, hz⟩
  · rintro ⟨u, w, z, htext, hw, hu, hz⟩
    rw [htext, List.append_assoc, List.mem_append, List.mem_append] at hline
    exact ⟨u, w, z, htext, hw, hu, hz, fun h => hline (.inl h), fun h => hline (.inr (.inr h))⟩

/-- The statement at the end of a path: both spellings find it. -/
theorem sample_starred_matches :
    let e : Entry := { fields := [("Image", "C:\\CMD.EXE")] }
    ("Image" ≠ "" ∧ '|' ∉ "Image".toList ∧ (Modifier.endswith, true, false) ∈ spellings) ∧
    ∃ x y, ofMap [(.text "Image", .text "*\\cmd.exe")] = .ok x ∧
      ofMap [(.text "Image|endswith", .text "\\cmd.exe")] = .ok y ∧
      x.matchesEntry e [] = .ok true ∧ y.matchesEntry e [] = .ok true := by
  intro e
  have hm : (Modifier.endswith, true, false) ∈ spellings := by decide
  obtain ⟨x, y, a, b, hx, hy, ha, hb, -, -, hab⟩ :=
    starred_matches_iff (f := "Image") (by decide) (by decide) hm "\\cmd.exe" e []
  obtain rfl : .search ⟨some "Image", [.endswith], ["\\cmd.exe"]⟩ = y := Except.ok.inj hy
  have hmatch : (Expr.search ⟨some "Image", [.endswith], ["\\cmd.exe"]⟩).matchesEntry e []
      = .ok true := by decide +kernel
  obtain rfl : true = b := Except.ok.inj (hmatch.symm.trans hb)
  rw [hab (by decide)] at ha
  exact ⟨⟨by decide, by decide, hm⟩, x, _, hx, hy, ha, hb⟩

/-- A star at the end misses what `startswith` finds if there is a line feed later in the field. -/
theorem star_misses_line_feed :
    let e : Entry := { fields := [("Image", "foo\nbar")] }
    let stars : Search := ⟨some "Image", [], ["foo*"]⟩
    let modified : Search := ⟨some "Image", [.startswith], ["foo"]⟩
    ofMap [(.text "Image", .text "foo*")] = .ok (.search stars) ∧
      ofMap [(.text "Image|startswith", .text "foo")] = .ok (.search modified) ∧
      (Expr.search stars).matchesEntry e [] = .ok false ∧
      (Expr.search modified).matchesEntry e [] = .ok true := by
  exact ⟨rfl, rfl, by decide +kernel, by decide +kernel⟩

end Detection

end SigmaRules
