/-
SigmaRules/Proofs/Report/Summary.lean

Free text in the report in short.  The report can be told whatever the titles and paths are,
and if there is room in the console for its tables (`FitsIn`), it shows those that are legible
in the rows that are theirs (`free_text_is_shown`).

This asks for ids in which no tag starts.  A title is escaped before it gets into its cell and
an id is not, so an id can keep the whole report from being told (`tagged_id_stops_report`).
-/
import SigmaRules.Proofs.Report.Techniques

namespace SigmaRules.Report

open Layout Text Text.Markup

/-! ### The table of the run -/

/-- The names of the rows are texts without colons and brackets. -/
theorem readMarkup_runRow {r : Run} {row : String × String} (h : row ∈ runRows r) :
    readMarkup row.1 = .ok row.1 := by
  have hname : row.1 ∈ ["input", "entries", "rules", "product", "service", "category"] := by
    rcases List.mem_append.mp h with h | h
    · simp only [List.mem_cons, List.not_mem_nil, or_false] at h
      rcases h with rfl | rfl | rfl <;> simp
    · obtain ⟨a, ha, hrow⟩ := List.mem_filterMap.mp h
      obtain ⟨v, -, rfl⟩ := Option.map_eq_some_iff.mp hrow
      simp only [List.mem_cons, List.not_mem_nil, or_false] at ha
      rcases ha with rfl | rfl | rfl <;> simp
  have hplain : ∀ s ∈ ["input", "entries", "rules", "product", "service", "category"],
      ':' ∉ s.toList ∧ '[' ∉ s.toList := by decide
  exact readMarkup_of_not_mem (hplain _ hname).1 (hplain _ hname).2

/-- The rows of the table of the run can be read, each of them as its name and what its text
shows. -/
theorem exists_runCells (r : Run) : ∃ rows, runCells r = .ok rows ∧
    List.Forall₂ (fun row shown => ∃ t, readMarkup (escaped row.2) = .ok t ∧ shown = [row.1, t])
      (runRows r) rows := by
  rw [runCells, readRows, List.mapM_map]
  refine exists_mapM_eq_ok fun row hrow => ?_
  obtain ⟨t, ht⟩ := exists_readMarkup_escaped row.2
  refine ⟨[row.1, t], ?_, t, ht, rfl⟩
  simp only [Function.comp_apply, List.mapM_cons, List.mapM_nil, readMarkup_runRow hrow, ht]
  rfl

/-- The first rows of the table of the run. -/
theorem exists_runCells_cons (r : Run) : ∃ input entries rules rest,
    readMarkup (escaped r.input) = .ok input ∧
    readMarkup (escaped (stacked r.rules)) = .ok rules ∧
    runCells r = .ok (["input", input] :: ["entries", entries] :: ["rules", rules] :: rest) ∧
    ∀ row ∈ rest, row.length = 2 := by
  obtain ⟨rows, hcells, hrows⟩ := exists_runCells r
  rw [runRows, List.cons_append, List.cons_append, List.cons_append, List.nil_append] at hrows
  rcases hrows with - | ⟨⟨input, hinput, rfl⟩, hafter⟩
  rcases hafter with - | ⟨⟨entries, -, rfl⟩, hafter⟩
  rcases hafter with - | @⟨_, _, _, rest, ⟨rules, hrules, rfl⟩, hattributes⟩
  refine ⟨input, entries, rules, rest, hinput, hrules, hcells, fun row hrow => ?_⟩
  obtain ⟨_, -, t, -, rfl⟩ := exists_left_of_mem hattributes hrow
  rfl

/-- Legible paths are shown in the lines of their row. -/
theorem exists_line_of_paths {paths : List String} (h : ∀ p ∈ paths, Legible p) {text name : String}
    (hread : readMarkup (escaped (stacked paths)) = .ok text) (hname : Stands .left name)
    {widths : List Nat}
    (hwidths : List.Forall₂ (fun s w => widest s.toList ≤ w) [name, text] widths)
    {i : Nat} (hi : i < paths.length) :
    ∃ l ∈ rowLines "│ " " │ " " │" [.left, .left] widths [name, text], ∃ shown,
      ShownAs paths[i] shown ∧ Shows l [if i = 0 then name else "", shown] := by
  obtain ⟨shown, hstacked, hshown⟩ :=
    exists_readMarkup_stacked (List.ne_nil_of_length_pos (Nat.zero_lt_of_lt hi)) h
  obtain rfl : text = stacked shown := Except.ok.inj (hread.symm.trans hstacked)
  have hi' : i < shown.length := hshown.length_eq ▸ hi
  have hstands : ∀ t ∈ shown, Stands .left t := by
    intro t ht
    obtain ⟨p, hp, hpt⟩ := exists_left_of_mem hshown ht
    exact (h p hp).stands_of_shownAs hpt
  obtain ⟨l, hl, hshows⟩ := exists_mem_rowLines hname hstands hwidths hi'
  exact ⟨l, hl, shown[i], hshown.get hi hi', hshows⟩

/-- The run can be told in a table for which there is room. -/
def RunFits (room : Nat) (r : Run) : Prop :=
  ∀ rows, runCells r = .ok rows → HasRoom room runColumns false rows

/-- **The table of the run shows its paths**, if they are legible, each in a line of its own. -/
theorem exists_runTable_shows {room : Nat} {r : Run} (hroom : RunFits room r) :
    ∃ lines : List String,
      runTable room r = .ok (String.join (lines.map line)) ∧
      (Legible r.input → ∃ l ∈ lines, ∃ shown, ShownAs r.input shown ∧ Shows l ["input", shown]) ∧
      ((∀ p ∈ r.rules, Legible p) → ∀ i (hi : i < r.rules.length), ∃ l ∈ lines, ∃ shown,
        ShownAs r.rules[i] shown ∧ Shows l [if i = 0 then "rules" else "", shown]) := by
  obtain ⟨input, entries, rules, rest, hinput, hrules, hcells, hrest⟩ := exists_runCells_cons r
  have hlength : ∀ row ∈ ["input", input] :: ["entries", entries] :: ["rules", rules] :: rest,
      row.length = 2 := by simpa using hrest
  obtain ⟨widths, above, ruling, hwidths, htext⟩ := exists_table_eq (hroom _ hcells) hlength
  have hlines : ∀ {row}, row ∈ ["input", input] :: ["entries", entries] :: ["rules", rules] :: rest →
      ∀ l ∈ rowLines "│ " " │ " " │" [.left, .left] widths row, l ∈ above ++ _ ++ [ruling] :=
    fun hrow _ hl => List.mem_append_left _ (List.mem_append_right _
      (List.mem_flatMap.mpr ⟨_, hrow, hl⟩))
  have hname : ∀ name ∈ ["input", "rules"], Stands .left name := by
    simp only [Stands]
    decide
  refine ⟨_, (congrArg (Except.map _) hcells).trans (congrArg Except.ok htext),
    fun hlegible => ?_, fun hlegible i hi => ?_⟩
  · have hrow : ["input", input] ∈
        ["input", input] :: ["entries", entries] :: ["rules", rules] :: rest := by simp
    have hpaths : ∀ p ∈ [r.input], Legible p := List.forall_mem_singleton.mpr hlegible
    have hread : readMarkup (escaped (stacked [r.input])) = .ok input := by
      rw [stacked, String.intercalate_singleton, hinput]
    obtain ⟨l, hl, hshown⟩ := exists_line_of_paths hpaths hread (hname _ (by simp))
      (hwidths _ hrow) Nat.zero_lt_one
    exact ⟨l, hlines hrow l hl, hshown⟩
  · have hrow : ["rules", rules] ∈
        ["input", input] :: ["entries", entries] :: ["rules", rules] :: rest := by simp
    obtain ⟨l, hl, hshown⟩ := exists_line_of_paths hlegible hrules (hname _ (by simp))
      (hwidths _ hrow) hi
    exact ⟨l, hlines hrow l hl, hshown⟩

/-! ### The table of rules -/

/-- The id of a rule as it stands in the table, where one that is missing is empty. -/
def idText (r : Rule) : String := r.id.getD ""

/-- The level of a rule as it stands in the table. -/
def levelText (r : Rule) : String := (r.level.map Level.word).getD noLevel

/-- The texts of the row of a rule that matches. -/
def rowTexts (m : Rule × List (Nat × Outcome)) : List String :=
  [m.1.title, levelText m.1, idText m.1, toString m.2.length]

theorem mem_digits_of_isDigit {c : Char} (h : c.isDigit = true) :
    c ∈ ['0', '1', '2', '3', '4', '5', '6', '7', '8', '9'] := by
  have hrange : c.toNat ∈ List.range' 48 10 := by
    simp only [Char.isDigit, Bool.and_eq_true, decide_eq_true_eq] at h
    have h1 : 48 ≤ c.toNat := h.1
    have h2 : c.toNat ≤ 57 := h.2
    rw [List.mem_range'_1]
    omega
  have hall : ∀ n ∈ List.range' 48 10,
      Char.ofNat n ∈ ['0', '1', '2', '3', '4', '5', '6', '7', '8', '9'] := by decide
  exact Char.ofNat_toNat c ▸ hall _ hrange

theorem stands_number (n : Nat) : Stands .right (toString n) := by
  have hdigit : ∀ c ∈ (toString n).toList,
      c ∈ ['0', '1', '2', '3', '4', '5', '6', '7', '8', '9'] := fun c hc =>
    mem_digits_of_isDigit
      (Nat.isDigit_of_mem_toDigits (by decide) (by decide) (Nat.toList_repr ▸ hc))
  have honeLine : OneLine ['0', '1', '2', '3', '4', '5', '6', '7', '8', '9'] := by decide
  have hblank : ['0', '1', '2', '3', '4', '5', '6', '7', '8', '9'].all (!isBlank ·) = true := by
    decide
  refine ⟨fun c hc => honeLine c (hdigit c hc), stripEnd_of_forall fun c hc => ?_⟩
  simpa using List.all_eq_true.mp hblank c (hdigit c hc)

theorem stands_levelText (r : Rule) : Stands .left (levelText r) := by
  rw [Stands, levelText]
  rcases r.level with - | l
  · decide
  · cases l <;> decide

/-- The title and the id of the rule are shown as they are. -/
structure LegibleRule (r : Rule) : Prop where
  title : Legible r.title
  unslashed : ¬ ['\\', '\\'] <:+ r.title.toList
  id : Legible (idText r)

/-- The row of a rule that matches can be read if no tag starts in the id of the rule. -/
theorem exists_ruleRow (m : Rule × List (Nat × Outcome)) (h : Untagged (idText m.1).toList) :
    ∃ row, ruleRow m = .ok row ∧ row.length = 4 ∧
      (LegibleRule m.1 → row = rowTexts m) := by
  obtain ⟨title, htitle, htitle'⟩ := exists_readMarkup_title m.1.title
  obtain ⟨id, hid, hid'⟩ := exists_readMarkup_id h
  refine ⟨[title, levelText m.1, id, toString m.2.length], ?_, rfl, fun hlegible => ?_⟩
  · rw [idText] at hid
    rw [ruleRow, htitle, hid]
    rfl
  · rw [htitle' hlegible.title hlegible.unslashed, hid' hlegible.id, rowTexts]

/-- The rules that match can be told if no tag starts in an id. -/
theorem exists_ruleCells {found : Matches} (h : ∀ m ∈ found, Untagged (idText m.1).toList) :
    ∃ rows, ruleCells found = .ok rows ∧ List.Forall₂ (fun m row => row.length = 4 ∧
      (LegibleRule m.1 → row = rowTexts m)) found rows :=
  exists_mapM_eq_ok fun m hm => exists_ruleRow m (h m hm)

/-- The rules that match can be told in a table for which there is room. -/
def RulesFit (room : Nat) (found : Matches) : Prop :=
  ∀ rows, ruleCells found = .ok rows → HasRoom room ruleColumns true rows

/-- **The table of rules has a line for each rule** whose texts are legible. -/
theorem exists_ruleTable {room : Nat} {found : Matches} (hroom : RulesFit room found)
    (h : ∀ m ∈ found, Untagged (idText m.1).toList) :
    ∃ (above : List String) (rows : List (List String)) (ruling : String),
      ruleTable room found = .ok (String.join ((above ++ rows.flatten ++ [ruling]).map line)) ∧
      List.Forall₂ (fun m row => LegibleRule m.1 → ∃ l, row = [l] ∧ Shows l (rowTexts m))
        found rows := by
  obtain ⟨cells, hcells, hforall⟩ := exists_ruleCells h
  have hlength : ∀ row ∈ cells, row.length = ruleColumns.length := fun row hrow => by
    obtain ⟨_, -, hrow, -⟩ := exists_left_of_mem hforall hrow
    exact hrow
  obtain ⟨widths, above, ruling, hwidths, htext⟩ := exists_table_eq (hroom cells hcells) hlength
  refine ⟨above, cells.map (rowLines "│ " " │ " " │" [.left, .left, .left, .right] widths), ruling,
    ?_, ?_⟩
  · rw [ruleTable, hcells, ← List.flatMap_def]
    exact congrArg Except.ok htext
  · rw [List.forall₂_map_right_iff, List.forall₂_iff_get]
    refine ⟨hforall.length_eq, fun i hi hi' hlegible => ?_⟩
    obtain ⟨-, hrow⟩ := hforall.get hi hi'
    have hwide := hwidths _ (List.get_mem cells ⟨i, hi'⟩)
    rw [hrow hlegible] at hwide ⊢
    exact exists_rowLines_eq (List.cons_ne_nil _ _)
      (.cons hlegible.title.stands (.cons (stands_levelText _) (.cons hlegible.id.stands
        (.cons (stands_number _) .nil)))) hwide

/-! ### The report -/

/-- There is room in the console for the tables of the run and of the rules that match. -/
structure FitsIn (room : Nat) (r : Report) : Prop where
  run : RunFits room r.run
  rules : RulesFit room r.found

/-- There is room for the tables of a report in every console that is wide enough. -/
theorem exists_fitsIn (r : Report) : ∃ least, ∀ room, least ≤ room → FitsIn room r := by
  have hwide : ∀ (cells : Except Fault (List (List String))) (columns : List Column)
      (headed : Bool), ∃ least, ∀ room, least ≤ room → ∀ rows, cells = .ok rows →
        HasRoom room columns headed rows := by
    intro cells columns headed
    rcases cells with f | rows
    · exact ⟨0, fun _ _ _ => nofun⟩
    · refine ⟨total (naturalWidths columns headed rows) + (columns.length + 1), fun room hle => ?_⟩
      rintro _ ⟨⟩
      exact hle
  obtain ⟨least, hrun⟩ := hwide (runCells r.run) runColumns false
  obtain ⟨least', hrules⟩ := hwide (ruleCells r.found) ruleColumns true
  exact ⟨max least least', fun room hle =>
    ⟨hrun room ((le_max_left ..).trans hle), hrules room ((le_max_right ..).trans hle)⟩⟩

theorem summary_eq {room : Nat} {r : Report} {run found : String}
    (hrun : runTable room r.run = .ok run)
    (hfound : techniqueTable room (r.found.map (·.1)) = .ok found) :
    r.summary room = if r.found.isEmpty then .ok (run ++ found ++ line (shown room nothingFound))
      else (ruleTable room r.found).map (run ++ found ++ ·) := by
  rw [summary, hrun, hfound]
  split
  · rfl
  · rcases ruleTable room r.found <;> rfl

/-- **The report can be told** in any console, if no tag starts in an id. -/
theorem exists_summary {r : Report} (hids : ∀ m ∈ r.found, Untagged (idText m.1).toList)
    (room : Nat) : ∃ text, r.summary room = .ok text := by
  obtain ⟨cells, hcells, -⟩ := exists_runCells r.run
  obtain ⟨found, hfound⟩ := exists_techniqueTable room (r.found.map (·.1))
  obtain ⟨rows, hrows, -⟩ := exists_ruleCells hids
  rw [summary_eq (congrArg (Except.map _) hcells) hfound, ruleTable, hrows]
  split <;> exact ⟨_, rfl⟩

/-- **Free text is shown in the report in short.**  If no tag starts in an id, the report can be
told in any console.  If there is room for its tables, which is so in every console that is wide
enough, it has a line for the input and a line for each path of a rule, and then a line for each
rule that matches, with its title and its id, where these texts are legible. -/
theorem free_text_is_shown (r : Report) (hids : ∀ m ∈ r.found, Untagged (idText m.1).toList) :
    (∀ room, ∃ text, r.summary room = .ok text) ∧
    (∃ least, ∀ room, least ≤ room → FitsIn room r) ∧
    ∀ room, FitsIn room r → ∃ (head : List String) (rows : List (List String)) (foot : List String),
      r.summary room = .ok (String.join ((head ++ rows.flatten ++ foot).map line)) ∧
      (Legible r.run.input → ∃ l ∈ head, ∃ shown,
        ShownAs r.run.input shown ∧ Shows l ["input", shown]) ∧
      ((∀ p ∈ r.run.rules, Legible p) → ∀ i (hi : i < r.run.rules.length), ∃ l ∈ head, ∃ shown,
        ShownAs r.run.rules[i] shown ∧ Shows l [if i = 0 then "rules" else "", shown]) ∧
      List.Forall₂ (fun m row => LegibleRule m.1 → ∃ l, row = [l] ∧ Shows l (rowTexts m))
        r.found rows := by
  refine ⟨exists_summary hids, exists_fitsIn r, fun room hroom => ?_⟩
  obtain ⟨lines, hrun, hinput, hrules⟩ := exists_runTable_shows hroom.run
  obtain ⟨found, hfound⟩ := exists_techniqueTable room (r.found.map (·.1))
  have hjoin : ∀ xs ys : List String, String.join (xs.map line) ++ String.join (ys.map line)
      = String.join ((xs ++ ys).map line) := fun xs ys => by
    rw [List.map_append, String.join_append]
  have hsummary := summary_eq hrun hfound
  rw [hjoin] at hsummary
  obtain ⟨above, rows, ruling, htable, hrows⟩ := exists_ruleTable hroom.rules hids
  -- what is in the lines of the run stays in the lines above those of the rules
  have hhead : ∀ {P : String → Prop} (more : List String), (∃ l ∈ lines, P l) →
      ∃ l ∈ lines ++ more, P l := fun more ⟨l, hl, hP⟩ => ⟨l, List.mem_append_left more hl, hP⟩
  by_cases hnone : r.found.isEmpty = true
  · refine ⟨lines ++ found, rows, [shown room nothingFound], ?_, fun h => hhead _ (hinput h),
      fun h i hi => hhead _ (hrules h i hi), hrows⟩
    obtain rfl : rows = [] := by
      rw [List.isEmpty_iff.mp hnone] at hrows
      exact List.forall₂_nil_left_iff.mp hrows
    rw [hsummary, if_pos hnone, ← hjoin (lines ++ found ++ _)]
    simp [String.join]
  · refine ⟨lines ++ (found ++ above), rows, [ruling], ?_, fun h => hhead _ (hinput h),
      fun h i hi => hhead _ (hrules h i hi), hrows⟩
    rw [hsummary, if_neg hnone, htable]
    simp only [Except.map, hjoin, List.append_assoc]

/-- A report on a rule with this title and this id, which matches an entry. -/
def sampleReport (title id : String) : Report where
  run := {
    moment := ⟨⟨2024, 1, 2⟩, 3, 4, 5, 0, none⟩
    version := "1"
    arguments := none
    input := "logs/[/x]entries.jsonl"
    rules := ["rules/[/y]", "rules\\"]
    origin := {}
    entryCount := 1 }
  found := [({ title := title, expr := .and [], id := some id }, [(1, .and true [])])]

theorem sample_free_text :
    let title := "[bold]Bracketed[/] \\[b]title\\"
    let r := sampleReport title "1[2]"
    (∀ m ∈ r.found, Untagged (idText m.1).toList) ∧
    ∃ room head l foot, FitsIn room r ∧
      r.summary room = .ok (String.join ((head ++ l :: foot).map line)) ∧
      (∃ i ∈ head, ∃ shown, ShownAs "logs/[/x]entries.jsonl" shown ∧ Shows i ["input", shown]) ∧
      (∃ p ∈ head, ∃ shown, ShownAs "rules\\" shown ∧ Shows p ["", shown]) ∧
      Shows l [title, "-", "1[2]", "1"] := by
  intro title r
  have hlegible : ∀ s ∈ [title, "1[2]", "logs/[/x]entries.jsonl", "rules/[/y]", "rules\\"],
      Legible s := by
    have hplain : ∀ s ∈ [title, "1[2]", "logs/[/x]entries.jsonl", "rules/[/y]", "rules\\"],
        OneLine s.toList ∧ ':' ∉ s.toList ∧ SlashesMarkTags s.toList ∧ KeepsEnd s.toList := by
      decide +kernel
    exact fun s hs => ⟨(hplain s hs).1, .of_not_mem (hplain s hs).2.1, (hplain s hs).2.2.1,
      (hplain s hs).2.2.2⟩
  have hids : ∀ m ∈ r.found, Untagged (idText m.1).toList := by
    refine List.forall_mem_singleton.mpr ?_
    decide +kernel
  obtain ⟨-, ⟨room, hwide⟩, hshows⟩ := free_text_is_shown r hids
  have hroom := hwide room le_rfl
  obtain ⟨head, rows, foot, hsummary, hinput, hrules, hrows⟩ := hshows room hroom
  rcases hrows with - | @⟨_, row, _, _, hrow, hnil⟩
  cases hnil
  obtain ⟨l, rfl, hl⟩ := hrow
    ⟨hlegible title (by simp), by decide +kernel, hlegible "1[2]" (by simp)⟩
  have hrules' := hrules (fun p hp => hlegible p (by
    rcases List.mem_cons.mp hp with rfl | hp
    · simp
    · rw [List.mem_singleton.mp hp]
      simp)) 1 (by decide)
  have htexts : rowTexts ({ title := title, expr := .and [], id := some "1[2]" },
      [(1, .and true [])]) = [title, "-", "1[2]", "1"] := by decide +kernel
  refine ⟨hids, room, head, l, foot, hroom, ?_,
    hinput (hlegible "logs/[/x]entries.jsonl" (by simp)), hrules', htexts ▸ hl⟩
  simpa using hsummary

/-- An id that looks like the end of a style keeps the whole report from being told. -/
theorem tagged_id_stops_report :
    (sampleReport "t" "[/x]").summary 80 = .error .malformedMarkup := by
  have hread : Text.Markup.read "[/x]".toList = .error (.notOpen (styleName ['x'])) := by
    have hpieces : pieces (bracketed ['/', 'x'] ++ []) = _ :=
      piecesFrom_tag [] 0 (isTag_cons (by decide) (by decide)) []
    rw [List.append_nil] at hpieces
    have hlist : "[/x]".toList = bracketed ['/', 'x'] := by decide
    rw [hlist, Text.Markup.read, hpieces]
    rfl
  have hid : readMarkup "[/x]" = .error .malformedMarkup := by
    rw [readMarkup, hread]
  obtain ⟨title, htitle, -⟩ := exists_readMarkup_title "t"
  obtain ⟨cells, hcells, -⟩ := exists_runCells (sampleReport "t" "[/x]").run
  obtain ⟨found, hfound⟩ := exists_techniqueTable 80 ((sampleReport "t" "[/x]").found.map (·.1))
  have hrow : ruleRow ({ title := "t", expr := .and [], id := some "[/x]" }, [(1, .and true [])])
      = .error .malformedMarkup := by
    simp only [ruleRow, htitle, Option.getD_some, hid]
    rfl
  have hrules : ruleTable 80 (sampleReport "t" "[/x]").found = .error .malformedMarkup := by
    rw [ruleTable, ruleCells, sampleReport, List.mapM_cons, hrow]
    rfl
  rw [summary_eq (congrArg (Except.map _) hcells) hfound, hrules]
  rfl

end SigmaRules.Report
