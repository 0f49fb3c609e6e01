/-
SigmaRules/Proofs/Layout/Cells.lean

Texts in the cells of tables.  A line that is no wider than its column is not broken
(`breakLine_of_le`), and a text without line ends, tabs and controls (`OneLine`) stands there
with spaces around it (`between_align`).  So a row of such texts is a line that shows them
(`exists_rowLines_eq`), and texts below each other in a cell are shown in lines below each other
(`exists_mem_rowLines`).

The columns of a table are wide enough for all of its texts if there is room for it in the
console (`HasRoom`): `exists_table_eq` says so of the widths in which its rows are laid out.
-/
import Mathlib.Data.List.Forall2
import Mathlib.Data.List.TakeWhile
import SigmaRules.Proofs.Layout.Widths
import SigmaRules.Proofs.Text.Split

namespace SigmaRules.Layout

open Text

/-! ### Lines -/

/-- The text is one line, and no character in it is a tab or a control that would move the
cursor. -/
def OneLine (s : List Char) : Prop :=
  ∀ c ∈ s, endsLine c = false ∧ movesCursor c = false ∧ c ≠ '\t'

instance (s : List Char) : Decidable (OneLine s) :=
  List.decidableBAll (fun c => endsLine c = false ∧ movesCursor c = false ∧ c ≠ '\t') s

/-- Texts one below the other. -/
abbrev below (ss : List (List Char)) : List Char := ['\n'].intercalate ss

theorem forall_mem_below {P : Char → Prop} (hfeed : P '\n') {ss : List (List Char)}
    (h : ∀ s ∈ ss, ∀ c ∈ s, P c) : ∀ c ∈ below ss, P c := by
  induction ss with
  | nil => simp [below, List.intercalate]
  | cons s ss ih =>
    obtain ⟨hs, hrest⟩ := List.forall_mem_cons.mp h
    rcases ss with - | ⟨t, ss⟩
    · rwa [below, List.intercalate_singleton]
    · rw [below, List.intercalate_cons_cons]
      intro c hc
      simp only [List.mem_append, List.mem_singleton] at hc
      rcases hc with (hc | rfl) | hc
      · exact hs c hc
      · exact hfeed
      · exact ih hrest c hc

theorem withoutControls_below {ss : List (List Char)} (h : ∀ s ∈ ss, OneLine s) :
    withoutControls (below ss) = below ss := by
  refine List.filter_eq_self.mpr (forall_mem_below (by decide) fun s hs c hc => ?_)
  rw [(h s hs c hc).2.1]
  rfl

theorem expandTabs_of_oneLine {s : List Char} (h : OneLine s) (column : Nat) :
    expandTabs column s = s := by
  induction s generalizing column with
  | nil => rfl
  | cons c s ih =>
    obtain ⟨⟨-, -, hc⟩, hs⟩ := List.forall_mem_cons.mp h
    rw [expandTabs, if_neg (by simpa using hc), ih hs]

theorem lines_below {ss : List (List Char)} (hne : ss ≠ []) (h : ∀ s ∈ ss, OneLine s) :
    lines (below ss) = ss := by
  have hfeed : ∀ s ∈ ss, ∀ c ∈ s, (c == '\n') = false := by
    intro s hs c hc
    have hends := (h s hs c hc).1
    exact beq_eq_false_iff_ne.mpr fun heq => by rw [heq] at hends; cases hends
  rw [lines, withoutControls_below h, splitAt_intercalate_of_forall rfl hne hfeed]
  exact (List.map_congr_left fun s hs => expandTabs_of_oneLine (h s hs) 0).trans (List.map_id' ss)

theorem columns_le_widest {ss : List (List Char)} (h : ∀ s ∈ ss, OneLine s) {s : List Char}
    (hs : s ∈ ss) : columns s ≤ widest (below ss) := by
  rw [widest, withoutControls_below h, splitAt_intercalate_of_forall (by decide)
    (List.ne_nil_of_mem hs) fun t ht c hc => (h t ht c hc).1]
  exact le_foldr_max 0 (List.mem_map_of_mem hs)

/-! ### Words -/

@[simp] theorem columns_nil : columns [] = 0 := rfl

@[simp] theorem columns_cons (c : Char) (s : List Char) :
    columns (c :: s) = charColumns c + columns s := rfl

@[simp] theorem columns_append (s t : List Char) : columns (s ++ t) = columns s + columns t := by
  induction s with
  | nil => simp
  | cons c s ih => simp [ih, Nat.add_assoc]

@[simp] theorem columns_spaces (n : Nat) : columns (List.replicate n ' ') = n := by
  induction n with
  | zero => rfl
  | succ n ih =>
    rw [List.replicate_succ, columns_cons, ih, Nat.add_comm]
    rfl

/-- What is left of a text without the white space at its end. -/
theorem isPrefix_stripEnd (s : List Char) : stripEnd s <+: s := by
  rw [stripEnd, ← List.reverse_suffix, List.reverse_reverse]
  exact List.dropWhile_suffix isBlank

/-- Without white space there is nothing to take away. -/
theorem stripEnd_of_forall {s : List Char} (h : ∀ c ∈ s, isBlank c = false) : stripEnd s = s := by
  rw [stripEnd]
  rcases hs : s.reverse with - | ⟨c, rest⟩
  · rw [List.reverse_eq_nil_iff.mp hs]
    rfl
  · have hc : isBlank c = false := h c (List.mem_reverse.mp (hs ▸ List.mem_cons_self))
    rw [List.dropWhile_cons, hc, if_neg Bool.false_ne_true, ← hs, List.reverse_reverse]

theorem columns_stripEnd_le (s : List Char) : columns (stripEnd s) ≤ columns s := by
  obtain ⟨t, ht⟩ := isPrefix_stripEnd s
  calc columns (stripEnd s) ≤ columns (stripEnd s) + columns t := Nat.le_add_right _ _
    _ = columns s := by rw [← columns_append, ht]

theorem flatten_wordsFrom (s : List Char) : (words.wordsFrom s).flatten = s := by
  induction s with
  | nil => rfl
  | cons c s ih =>
    have hadd : ∀ ws, (words.addChar c ws).flatten = c :: ws.flatten := by
      intro ws
      rcases ws with - | ⟨w, ws⟩
      · rfl
      · rw [words.addChar]
        split
        · split <;> rfl
        · rfl
    rw [← ih, words.wordsFrom, List.foldr_cons, hadd, ih]
    exact congrArg _ ih

/-- The words of a text make up the text. -/
theorem flatten_words {s : List Char} (h : words s ≠ []) : (words s).flatten = s := by
  have hstart : s.takeWhile isBlank ++ s.drop (s.takeWhile isBlank).length = s := by
    have htake := List.prefix_iff_eq_take.mp (List.takeWhile_prefix isBlank (l := s))
    exact (congrArg (· ++ _) htake).trans (List.take_append_drop _ s)
  have hwords := flatten_wordsFrom (s.drop (s.takeWhile isBlank).length)
  rw [words] at h ⊢
  rcases hfrom : words.wordsFrom (s.drop (s.takeWhile isBlank).length) with - | ⟨w, ws⟩
  · simp [hfrom] at h
  · rw [hfrom, List.flatten_cons] at hwords
    simp only [List.flatten_cons, List.append_assoc, hwords]
    exact hstart

/-- Words stay in a line that is wide enough. -/
theorem fill_of_le {o : Overflow} {width used : Nat} {line : List Char} {ws : List (List Char)}
    (h : used + columns ws.flatten ≤ width) : fill o width used line ws = [line ++ ws.flatten] := by
  induction ws generalizing used line with
  | nil => rw [fill, List.flatten_nil, List.append_nil]
  | cons w ws ih =>
    rw [List.flatten_cons, columns_append] at h
    have hw := columns_stripEnd_le w
    rw [fill, if_pos (by omega), ih (by omega), List.flatten_cons, List.append_assoc]

theorem wordLines_of_le {o : Overflow} {width : Nat} {w : List Char} (h : columns w ≤ width) :
    wordLines o width w = ([], w) :=
  if_neg fun hwide => absurd hwide.2 (Nat.not_lt.mpr ((columns_stripEnd_le w).trans h))

theorem breakLine_of_le {o : Overflow} {width : Nat} {s : List Char} (h : columns s ≤ width) :
    breakLine o width s = [s] := by
  rw [breakLine]
  rcases hwords : words s with - | ⟨w, ws⟩
  · rfl
  · have hflat : w ++ ws.flatten = s := by
      rw [← List.flatten_cons, ← hwords, flatten_words (by simp [hwords])]
    have hcolumns : columns w + columns ws.flatten ≤ width := by rwa [← columns_append, hflat]
    simp only [wordLines_of_le (Nat.le_of_add_right_le hcolumns), List.nil_append]
    exact (fill_of_le hcolumns).trans (by rw [hflat])

/-! ### The ends of lines -/

/-- No white space but spaces is taken away at the end of the text: there is none there, or the
characters are no more than the columns that they take, so that nothing is taken away. -/
def KeepsEnd (s : List Char) : Prop :=
  s.length ≤ columns s ∨ ∀ c ∈ s.drop (stripEnd s).length, c = ' '

instance (s : List Char) : Decidable (KeepsEnd s) :=
  have := List.decidableBAll (· = ' ') (s.drop (stripEnd s).length)
  instDecidableOr

/-- Spaces take the place of what is taken away at the end. -/
theorem exists_trimEnd {width : Nat} {s : List Char} (h : KeepsEnd s) (hs : columns s ≤ width) :
    ∃ n, trimEnd width s ++ List.replicate n ' ' = s := by
  rcases h with hlength | hspaces
  · refine ⟨0, ?_⟩
    rw [trimEnd, List.replicate_zero, List.append_nil,
      show s.length - min (s.length - (stripEnd s).length) (s.length - width) = s.length by omega,
      List.take_length]
  · rw [trimEnd]
    set n := s.length - min (s.length - (stripEnd s).length) (s.length - width) with hn
    have hle : (stripEnd s).length ≤ n := by
      have := (isPrefix_stripEnd s).length_le
      omega
    have hrest : s.drop n = List.replicate (s.drop n).length ' ' :=
      List.eq_replicate_of_mem fun c hc => hspaces c ((List.drop_sublist_drop_left s hle).subset hc)
    exact ⟨(s.drop n).length, by rw [← hrest, List.take_append_drop]⟩

/-- The text with spaces after it, up to a column. -/
def padded (width : Nat) (s : List Char) : List Char :=
  s ++ List.replicate (width - columns s) ' '

theorem align_left {width : Nat} {s : List Char} (h : KeepsEnd s) (hs : columns s ≤ width) :
    align .left width (trimEnd width s) = padded width s := by
  obtain ⟨n, hn⟩ := exists_trimEnd h hs
  have hcolumns : columns s = columns (trimEnd width s) + n := by
    rw [← columns_spaces n, ← columns_append, hn]
  have hspaces : width - columns (trimEnd width s) = n + (width - columns s) := by omega
  have hcut : cutOff .cut width (trimEnd width s) = trimEnd width s := if_pos (by omega)
  rw [align, hcut, hspaces, padded, List.replicate_add, ← List.append_assoc, hn]

theorem align_right {width : Nat} {s : List Char} (hend : stripEnd s = s)
    (hs : columns s ≤ width) :
    align .right width (trimEnd width s) = List.replicate (width - columns s) ' ' ++ s := by
  have htrim : trimEnd width s = s := by
    rw [trimEnd, hend, Nat.sub_self, Nat.zero_min, Nat.sub_zero, List.take_length]
  rw [htrim, align, hend, cutOff, if_pos hs]

/-! ### Cells -/

/-- **Texts below each other stand below each other** in a column that is wide enough. -/
theorem fit_below {side : Side} {width : Nat} {ss : List (List Char)} (hne : ss ≠ [])
    (h : ∀ s ∈ ss, OneLine s) (hwidth : widest (below ss) ≤ width) :
    fit side width (below ss) = ss.map fun s => align side width (trimEnd width s) := by
  have hbreak : ss.flatMap (breakLine .cut width) = ss.flatMap fun s => [s] :=
    List.flatMap_congr fun s hs => breakLine_of_le ((columns_le_widest h hs).trans hwidth)
  rw [fit, lines_below hne h, hbreak, List.flatMap_singleton']

/-- A text of one line stands in a column that is wide enough. -/
theorem fit_of_oneLine {side : Side} {width : Nat} {s : List Char} (h : OneLine s)
    (hwidth : widest s ≤ width) : fit side width s = [align side width (trimEnd width s)] := by
  have hbelow : below [s] = s := List.intercalate_singleton
  rw [← hbelow] at hwidth
  have hfit : fit side width (below [s]) = [align side width (trimEnd width s)] :=
    fit_below (List.cons_ne_nil s []) (List.forall_mem_singleton.mpr h) hwidth
  rwa [hbelow] at hfit

/-! ### Rows -/

/-- Cells of one line each are one line high. -/
theorem foldr_max_ones {cells : List (List Char)} {least : Nat} (hleast : least ≤ 1)
    (hne : cells ≠ []) : ((cells.map fun c => [c]).map List.length).foldr max least = 1 := by
  have hle : ∀ cells : List (List Char),
      ((cells.map fun c => [c]).map List.length).foldr max least ≤ 1 := by
    intro cells
    induction cells with
    | nil => exact hleast
    | cons c cells ih => exact max_le le_rfl ih
  refine (hle cells).antisymm (le_foldr_max least ?_)
  obtain ⟨c, hc⟩ := List.exists_mem_of_ne_nil cells hne
  exact List.mem_map.mpr ⟨[c], List.mem_map.mpr ⟨c, hc, rfl⟩, rfl⟩

/-- Cells of one line each make up a line. -/
theorem rowLines_of_singletons {left between right : String} {sides : List Side}
    {widths : List Nat} {row : List String} {cells : List (List Char)}
    (hlength : widths.length = cells.length) (hne : cells ≠ [])
    (hfit : (sides.zip widths).zipWith (fun sw s => fit sw.1 sw.2 s.toList) row
      = cells.map fun c => [c]) :
    rowLines left between right sides widths row
      = [left ++ between.intercalate (cells.map String.ofList) ++ right] := by
  have hone := foldr_max_ones (Nat.zero_le 1) hne
  have hone' := foldr_max_ones (le_refl 1) hne
  have hlevel : level widths (cells.map fun c => [c]) = cells.map fun c => [c] := by
    simp only [level, hone']
    exact List.ext_getElem (by simp [hlength]) fun i _ _ => by simp
  simp only [rowLines, hfit, hlevel, sideBySide, hone]
  simp [List.range_succ, Function.comp_def]

/-- What stands next to each other makes up a line. -/
theorem mem_sideBySide {left between right : String} {cells : List (List (List Char))} {i : Nat}
    {cell : List (List Char)} (hcell : cell ∈ cells) (hi : i < cell.length) :
    left ++ between.intercalate (cells.map fun c => String.ofList (c.getD i [])) ++ right
      ∈ sideBySide left between right cells := by
  refine List.mem_map.mpr ⟨i, List.mem_range.mpr (hi.trans_le ?_), rfl⟩
  exact le_foldr_max 0 (List.mem_map_of_mem hcell)

/-! ### What a line shows -/

/-- So many spaces. -/
def spaces (n : Nat) : String := String.ofList (List.replicate n ' ')

/-- The text stands between spaces. -/
def Between (t cell : String) : Prop := ∃ before after, cell = spaces before ++ t ++ spaces after

/-- The line shows the texts in its cells, each of them between spaces. -/
def Shows (l : String) (texts : List String) : Prop :=
  ∃ cells, List.Forall₂ Between texts cells ∧ l = "│ " ++ " │ ".intercalate cells ++ " │"

theorem between_spaces (n : Nat) : Between "" (spaces n) :=
  ⟨n, 0, by simp [spaces]⟩

/-- The text can be shown in a cell as it is: it is one line, and has nothing at its end that is
taken away. -/
def Stands : Side → String → Prop
  | .left, s => OneLine s.toList ∧ KeepsEnd s.toList
  | .right, s => OneLine s.toList ∧ stripEnd s.toList = s.toList

theorem Stands.oneLine {side : Side} {s : String} (h : Stands side s) : OneLine s.toList := by
  cases side with
  | left => exact h.1
  | right => exact h.1

theorem between_align {side : Side} {s : String} (h : Stands side s) {width : Nat}
    (hwidth : columns s.toList ≤ width) :
    Between s (String.ofList (align side width (trimEnd width s.toList))) := by
  cases side with
  | left =>
    refine ⟨0, width - columns s.toList, ?_⟩
    rw [align_left h.2 hwidth, padded]
    simp [spaces]
  | right =>
    refine ⟨width - columns s.toList, 0, ?_⟩
    rw [align_right h.2 hwidth]
    simp [spaces]

theorem columns_le_of_widest_le {s : List Char} (h : OneLine s) {width : Nat}
    (hwidth : widest s ≤ width) : columns s ≤ width := by
  have hbelow : below [s] = s := List.intercalate_singleton
  rw [← hbelow] at hwidth
  exact (columns_le_widest (List.forall_mem_singleton.mpr h) List.mem_cons_self).trans hwidth

/-- **A row of texts that stand in its cells is a line that shows them.** -/
theorem exists_rowLines_eq {sides : List Side} {row : List String} {widths : List Nat}
    (hne : row ≠ []) (h : List.Forall₂ Stands sides row)
    (hwidths : List.Forall₂ (fun s w => widest s.toList ≤ w) row widths) :
    ∃ l, rowLines "│ " " │ " " │" sides widths row = [l] ∧ Shows l row := by
  have hcells : ∃ cells : List (List Char), widths.length = cells.length ∧
      (sides.zip widths).zipWith (fun sw s => fit sw.1 sw.2 s.toList) row
        = cells.map (fun c => [c]) ∧
      List.Forall₂ (fun t c => Between t (String.ofList c)) row cells := by
    clear hne
    induction h generalizing widths with
    | nil =>
      cases hwidths
      exact ⟨[], rfl, rfl, .nil⟩
    | @cons side s sides row hs _ ih =>
      obtain ⟨w, widths, hw, hrest, rfl⟩ := List.forall₂_cons_left_iff.mp hwidths
      obtain ⟨cells, hlength, hfit, hcells⟩ := ih hrest
      refine ⟨align side w (trimEnd w s.toList) :: cells, by simp [hlength], ?_,
        .cons (between_align hs (columns_le_of_widest_le hs.oneLine hw)) hcells⟩
      rw [List.zip_cons_cons, List.zipWith_cons_cons, fit_of_oneLine hs.oneLine hw, hfit,
        List.map_cons]
  obtain ⟨cells, hlength, hfit, hshown⟩ := hcells
  have hcells : cells ≠ [] := by
    rintro rfl
    cases hshown
    exact hne rfl
  exact ⟨_, rowLines_of_singletons hlength hcells hfit, cells.map String.ofList,
    List.forall₂_map_right_iff.mpr hshown, rfl⟩

/-- Texts that stand below each other in a cell, and their widths. -/
theorem fit_stacked {texts : List String} (hne : texts ≠ []) (h : ∀ t ∈ texts, Stands .left t)
    {width : Nat} (hwidth : widest ("\n".intercalate texts).toList ≤ width) :
    fit .left width ("\n".intercalate texts).toList
        = (texts.map fun t => align .left width (trimEnd width t.toList)) ∧
      ∀ t ∈ texts, columns t.toList ≤ width := by
  have hbelow : ("\n".intercalate texts).toList = below (texts.map String.toList) := by
    rw [String.toList_intercalate]
    rfl
  have hone : ∀ s ∈ texts.map String.toList, OneLine s := by
    intro s hs
    obtain ⟨t, ht, rfl⟩ := List.mem_map.mp hs
    exact (h t ht).1
  rw [hbelow] at hwidth ⊢
  refine ⟨?_, fun t ht => (columns_le_widest hone (List.mem_map_of_mem ht)).trans hwidth⟩
  rw [fit_below (by simpa using hne) hone hwidth, List.map_map]
  rfl

/-- Blank lines are spaces, and so are lines that are missing. -/
theorem between_blank (k w i : Nat) :
    Between "" (String.ofList ((List.replicate k (List.replicate w ' ')).getD i [])) := by
  by_cases hk : i < k
  · rw [List.getD, List.getElem?_replicate_of_lt hk]
    exact between_spaces w
  · rw [List.getD, List.getElem?_eq_none (by simpa using hk)]
    exact between_spaces 0

/-- **Texts below each other are shown in lines below each other**, the first of them next to the
name of the row. -/
theorem exists_mem_rowLines {label : String} {texts : List String} (hlabel : Stands .left label)
    (h : ∀ t ∈ texts, Stands .left t) {widths : List Nat}
    (hwidths : List.Forall₂ (fun s w => widest s.toList ≤ w) [label, "\n".intercalate texts] widths)
    {i : Nat} (hi : i < texts.length) :
    ∃ l ∈ rowLines "│ " " │ " " │" [.left, .left] widths [label, "\n".intercalate texts],
      Shows l [if i = 0 then label else "", texts[i]] := by
  rcases hwidths with - | @⟨_, w, _, _, hw, hwidths⟩
  rcases hwidths with - | @⟨_, w', _, _, hw', hwidths⟩
  cases hwidths
  obtain ⟨hfit, hcolumns⟩ :=
    fit_stacked (List.ne_nil_of_length_pos (Nat.zero_lt_of_lt hi)) h hw'
  -- both cells are filled up with blank lines
  obtain ⟨k, k', hrow⟩ : ∃ k k', rowLines "│ " " │ " " │" [.left, .left] [w, w']
      [label, "\n".intercalate texts] = sideBySide "│ " " │ " " │"
        [align .left w (trimEnd w label.toList) :: List.replicate k (List.replicate w ' '),
          (texts.map fun t => align .left w' (trimEnd w' t.toList)) ++
            List.replicate k' (List.replicate w' ' ')] := by
    simp only [rowLines, List.zip_cons_cons, List.zip_nil_right, List.zipWith_cons_cons,
      List.zipWith_nil_right, fit_of_oneLine hlabel.1 hw, hfit, level]
    exact ⟨_, _, rfl⟩
  have hcell : i < ((texts.map fun t => align .left w' (trimEnd w' t.toList)) ++
      List.replicate k' (List.replicate w' ' ')).length := by
    rw [List.length_append, List.length_map]
    omega
  have hname : Between (if i = 0 then label else "") (String.ofList
      ((align .left w (trimEnd w label.toList) :: List.replicate k (List.replicate w ' ')).getD
        i [])) := by
    rcases i with - | i
    · exact between_align hlabel (columns_le_of_widest_le hlabel.1 hw)
    · exact between_blank k w i
  have htext : Between texts[i] (String.ofList
      (((texts.map fun t => align .left w' (trimEnd w' t.toList)) ++
        List.replicate k' (List.replicate w' ' ')).getD i [])) := by
    have hmem : texts[i] ∈ texts := List.getElem_mem hi
    rw [List.getD, List.getElem?_append_left (by simpa using hi), List.getElem?_map,
      List.getElem?_eq_getElem hi]
    exact between_align (h _ hmem) (hcolumns _ hmem)
  exact ⟨_, hrow ▸ mem_sideBySide (List.mem_cons_of_mem _ List.mem_cons_self) hcell, _,
    .cons hname (.cons htext .nil), rfl⟩

/-! ### Widths -/

/-- Columns are as wide as the rows ask for. -/
theorem forall₂_widest_le {rows : List (List String)} {row : List String} (h : row ∈ rows) :
    List.Forall₂ (fun s w => widest s.toList ≤ w) row (columnWidths rows row.length) := by
  rw [List.forall₂_iff_get]
  refine ⟨by simp [columnWidths], fun i hi hj => ?_⟩
  simp only [columnWidths, List.get_eq_getElem, List.getElem_map, List.getElem_range]
  refine le_foldr_max 0 (List.mem_map.mpr ⟨row, h, ?_⟩)
  rw [List.getD, List.getElem?_eq_getElem hi, Option.getD_some]

/-! ### Tables -/

/-- There is room in the console for a table of these rows. -/
def HasRoom (room : Nat) (columns : List Column) (headed : Bool) (rows : List (List String)) :
    Prop :=
  total (naturalWidths columns headed rows) + (columns.length + 1) ≤ room

/-- **A table is made of its rows**, which are laid out in columns that are wide enough for their
texts if there is room. -/
theorem exists_table_eq {room : Nat} {columns : List Column} {headed : Bool}
    {rows : List (List String)} (hroom : HasRoom room columns headed rows)
    (hrows : ∀ row ∈ rows, row.length = columns.length) :
    ∃ (widths : List Nat) (above : List String) (ruling : String),
      (∀ row ∈ rows, List.Forall₂ (fun s w => widest s.toList ≤ w) row widths) ∧
      table room columns headed rows = String.join ((above ++
        rows.flatMap (rowLines "│ " " │ " " │" (columns.map Column.side) widths) ++ [ruling]).map
          line) := by
  refine ⟨_, _, _, fun row hrow => ?_, rfl⟩
  rw [widthsWithin_of_le (Nat.le_sub_of_add_le hroom)]
  have hcells : List.Forall₂ (fun s w => widest s.toList ≤ w) row
      (columnWidths (if headed then columns.map Column.heading :: rows else rows)
        columns.length) := by
    rw [← hrows row hrow]
    refine forall₂_widest_le ?_
    split
    · exact List.mem_cons_of_mem _ hrow
    · exact hrow
  rw [List.forall₂_map_right_iff]
  refine forall₂_trans hcells (List.forall₂_map_left_iff.mp (forall₂_le_widenTo _ _)) ?_
  intro s n w hn hw
  exact hn.trans (Nat.le_sub_of_add_le hw)

end SigmaRules.Layout
