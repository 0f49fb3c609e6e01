/-
SigmaRules/Proofs/Report/Techniques.lean

The table of techniques in the report in short can always be told (`exists_techniqueTable`).
Titles are escaped there.  A technique is not, but its number has only digits and dots, so no
tag but that of its link starts in the cell, and the link ends as it should.
-/
import SigmaRules.Proofs.Answers
import SigmaRules.Proofs.Report.Markup

namespace SigmaRules.Report

open Layout Text Text.Markup

theorem mem_join {separator c : Char} {pieces : List (List Char)}
    (h : c ∈ join separator pieces) : c = separator ∨ ∃ p ∈ pieces, c ∈ p := by
  induction pieces using join.induct with
  | case1 => cases h
  | case2 piece => exact .inr ⟨piece, List.mem_cons_self, h⟩
  | case3 piece next rest ih =>
    rw [join, List.mem_append, List.mem_cons] at h
    rcases h with h | rfl | h
    · exact .inr ⟨piece, List.mem_cons_self, h⟩
    · exact .inl rfl
    · rcases ih h with rfl | ⟨p, hp, hc⟩
      · exact .inl rfl
      · exact .inr ⟨p, List.mem_cons_of_mem _ hp, hc⟩

/-- The characters of the number of a technique are digits and dots. -/
theorem mem_techniqueNumber {s : List Char} (h : isTechniqueNumber s = true) {c : Char}
    (hc : c ∈ s) : (digitValue? c).isSome = true ∨ c = '.' := by
  have hdigits : ∀ {n} {t : List Char}, areDigits n t = true → c ∈ t →
      (digitValue? c).isSome = true := fun h hc =>
    List.all_eq_true.mp (Bool.and_eq_true_iff.mp h).2 c hc
  rcases Bool.or_eq_true_iff.mp h with h | h
  · exact .inl (hdigits h hc)
  obtain ⟨h, hvariety⟩ := Bool.and_eq_true_iff.mp h
  obtain ⟨hfour, hdot⟩ := Bool.and_eq_true_iff.mp h
  rcases List.mem_append.mp ((List.take_append_drop 4 s).symm ▸ hc) with hc | hc
  · exact .inl (hdigits hfour hc)
  rcases hdrop : s.drop 4 with - | ⟨d, rest⟩
  · simp [hdrop] at hc
  · have hd : d = '.' := by simpa [hdrop] using hdot
    have hrest : s.drop 5 = rest := by
      rw [show 5 = 4 + 1 from rfl, ← List.drop_drop, hdrop]
      rfl
    rw [hdrop, hd] at hc
    rcases List.mem_cons.mp hc with rfl | hc
    · exact .inr rfl
    · exact .inl (hdigits hvariety (hrest ▸ hc))

/-- A technique is a text without brackets and backslashes. -/
theorem not_mem_technique {rules : List Rule} {t : String × List String}
    (h : t ∈ techniques rules) : ∀ c ∈ t.1.toList, c ≠ '\\' ∧ noBracket c = true := by
  obtain ⟨name, hname, rfl⟩ := List.mem_map.mp h
  obtain ⟨x, hx, rfl⟩ := List.mem_map.mp (List.mem_mergeSort.mp (List.mem_eraseDups.mp hname))
  obtain ⟨r, -, hx⟩ := List.mem_flatMap.mp hx
  obtain ⟨tech, htech, rfl⟩ := List.mem_map.mp hx
  obtain ⟨tag, -, htag⟩ := List.mem_filterMap.mp htech
  simp only [technique?] at htag
  split at htag
  · rename_i hnumber
    cases htag
    rw [String.toList_ofList]
    refine List.forall_mem_cons.mpr ⟨by decide, fun c hc => ?_⟩
    have hplain := mem_techniqueNumber (Bool.and_eq_true_iff.mp hnumber).2 hc
    refine ⟨?_, ?_⟩
    · rintro rfl
      revert hplain
      decide
    · rw [noBracket, Bool.and_eq_true_iff, bne_iff_ne, bne_iff_ne]
      constructor <;> (rintro rfl; revert hplain; decide)
  · cases htag

/-- The name of the style of links. -/
def linkName : List Char := ['l', 'i', 'n', 'k']

theorem toList_techniquePage (t : String) :
    (techniquePage t).toList = "https://attack.mitre.org/techniques/".toList ++
      join '/' (splitAt (· == '.') t.toList) ++ "/".toList := by
  have hpage : techniquePage t = "https://attack.mitre.org/techniques/" ++
      String.ofList (join '/' (splitAt (· == '.') t.toList)) ++ "/" := rfl
  have hjoin := String.toList_ofList (l := join '/' (splitAt (· == '.') t.toList))
  rw [hpage, String.toList_append, String.toList_append, hjoin]

/-- What the tag of a link holds. -/
theorem isTag_link {t : String} (h : ∀ c ∈ t.toList, noBracket c = true) :
    IsTag (linkName ++ '=' :: (techniquePage t).toList) := by
  have hpage : ∀ c ∈ (techniquePage t).toList, noBracket c = true := by
    have hsite : "https://attack.mitre.org/techniques/".toList.all noBracket = true := by
      decide +kernel
    rw [toList_techniquePage, List.forall_mem_append, List.forall_mem_append]
    refine ⟨⟨List.all_eq_true.mp hsite, fun c hc => ?_⟩,
      List.all_eq_true.mp (by decide +kernel)⟩
    rcases mem_join hc with rfl | ⟨piece, hpiece, hc⟩
    · rfl
    · exact h c (mem_of_mem_splitAt hpiece hc)
  exact ⟨'l', _, rfl, by decide, by simpa using hpage⟩

theorem toList_techniqueLink (t : String) : (techniqueLink t).toList
    = '\\' :: '[' :: (bracketed (linkName ++ '=' :: (techniquePage t).toList) ++
        (t.toList ++ (bracketed ('/' :: linkName) ++ [']']))) := by
  simp [techniqueLink, bracketed, linkName]

/-- The link of a technique can always be read. -/
theorem exists_readMarkup_techniqueLink {t : String}
    (h : ∀ c ∈ t.toList, c ≠ '\\' ∧ noBracket c = true) :
    ∃ shown, readMarkup (techniqueLink t) = .ok shown := by
  have hopening := isTag_link fun c hc => (h c hc).2
  have hclosing : IsTag ('/' :: linkName) := isTag_cons (by decide) (by decide)
  have hplain : ∀ c ∈ t.toList, c ≠ '\\' ∧ c ≠ '[' := fun c hc =>
    ⟨(h c hc).1, by rintro rfl; exact Bool.false_ne_true (h _ hc).2⟩
  have hgive : ∀ page, applyTag [] (linkName ++ '=' :: page) = .ok [styleName linkName] := by
    intro page
    have hname : (cutAt '=' (linkName ++ '=' :: page)).1 = linkName := rfl
    have hslash : linkName.head? ≠ some '/' := by decide
    exact applyTag_open hslash hname []
  have htake : applyTag [styleName linkName] ('/' :: linkName) = .ok [] :=
    applyTag_close (by decide) (by decide) []
  have hread : ∃ shown, Text.Markup.read (techniqueLink t).toList = .ok shown := by
    rw [toList_techniqueLink, Text.Markup.read, pieces, piecesFrom_slash,
      piecesFrom_bracket _ _ rfl, piecesFrom_tag _ _ hopening, piecesFrom_plain hplain,
      piecesFrom_tag _ _ hclosing, piecesFrom_other _ _ (by decide) (by decide), piecesFrom]
    simp [readPieces, hgive, htake, bind, Except.bind, Except.map]
  obtain ⟨shown, hshown⟩ := hread
  exact ⟨_, readMarkup_eq hshown⟩

/-- **The table of techniques can always be told.** -/
theorem exists_techniqueTable (room : Nat) (rules : List Rule) : ∃ lines : List String,
    techniqueTable room rules = .ok (String.join (lines.map line)) := by
  obtain ⟨rows, hrows, -⟩ : ∃ rows, readRows ((techniques rules).map fun t =>
      [techniqueLink t.1, escaped (stacked t.2)]) = .ok rows ∧
      List.Forall₂ (fun _ _ => True) (techniques rules) rows := by
    rw [readRows, List.mapM_map]
    refine exists_mapM_eq_ok fun t ht => ?_
    obtain ⟨link, hlink⟩ := exists_readMarkup_techniqueLink (not_mem_technique ht)
    obtain ⟨titles, htitles⟩ := exists_readMarkup_escaped (stacked t.2)
    refine ⟨[link, titles], ?_, trivial⟩
    simp only [Function.comp_apply, List.mapM_cons, List.mapM_nil, hlink, htitles]
    rfl
  rw [techniqueTable]
  split
  · exact ⟨[], rfl⟩
  · exact ⟨_, by rw [hrows]; rfl⟩

end SigmaRules.Report
