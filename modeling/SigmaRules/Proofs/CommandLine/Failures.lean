/-
SigmaRules/Proofs/CommandLine/Failures.lean

Which failure ends a run.  What can be wrong with a run is said here about its options and
the disk alone: the input is no file (`InputMissing`), there are no rules (`RulesMissing`),
they are malformed (`RulesInvalid`), and so are the placeholders (`PlaceholdersInvalid`)
or the entries (`EntriesInvalid`).  Each stage of a run ends it if the one thing is wrong
that the stage is there to find, and stages come one after the other.  So of all that is
wrong with a run, the code tells what comes first in this order, and a run that ends early
has written nothing (`first_failure_is_told`).

A fault in a stage is no answer of the program; it is left out here.
-/
import SigmaRules.Proofs.CommandLine.Input
import SigmaRules.Proofs.Loading.Rules
import SigmaRules.Proofs.RuleSet

namespace SigmaRules

open Files

/-! ### Loading rules -/

namespace Loading

variable {disk : Disk} {paths : List Path} {skip : Bool}

/-- Collecting files ends at a path that leads nowhere, if there is one. -/
theorem collect_missing_eq_none_iff :
    (collect disk paths).2 = none ↔ ∀ p ∈ paths, ∃ t, disk.find p = .ok t := by
  induction paths with
  | nil => simp [collect]
  | cons p ps ih =>
    rw [collect, List.forall_mem_cons, ← ih]
    rcases hp : disk.find p with e | t
    · simp
    · simp

/-- If a path leads nowhere, this is why no rules are loaded. -/
theorem loadRules_of_missing (h : ∃ p ∈ paths, ∃ e, disk.find p = .error e) :
    ∃ p, (loadRules disk paths skip).2 = .error (.invalid (.missing p)) := by
  have hmissing : (collect disk paths).2 ≠ none := by
    rw [Ne, collect_missing_eq_none_iff]
    obtain ⟨p, hp, e, he⟩ := h
    intro hall
    obtain ⟨t, ht⟩ := hall p hp
    rw [he] at ht
    cases ht
  rcases hcollect : collect disk paths with ⟨found, - | p⟩
  · exact absurd (by rw [hcollect]) hmissing
  · exact ⟨p, by rw [loadRules, hcollect]⟩

theorem loadFrom_ne_missing (total i : Nat) (ps : List Path) (p : Path) :
    (loadFrom disk skip total i ps).2 ≠ .error (.invalid (.missing p)) := by
  induction ps generalizing i with
  | nil => simp [loadFrom]
  | cons q ps ih =>
    rw [loadFrom]
    split
    · simp
    · split
      · exact ih (i + 1)
      · simp
    · intro h
      refine ih (i + 1) ?_
      rcases hrest : (loadFrom disk skip total (i + 1) ps).2 with f | rs
      · simpa [hrest, Except.map] using h
      · simp [hrest, Except.map] at h

/-- If all paths lead somewhere, this is not why no rules are loaded. -/
theorem loadRules_ne_missing (h : ∀ q ∈ paths, ∃ t, disk.find q = .ok t) (p : Path) :
    (loadRules disk paths skip).2 ≠ .error (.invalid (.missing p)) := by
  have hnone := collect_missing_eq_none_iff.mpr h
  rcases hcollect : collect disk paths with ⟨found, missing⟩
  obtain rfl : missing = none := by rw [← hnone, hcollect]
  rw [(announced_loadRules skip hcollect).2]
  have hfrom : (loadFrom disk skip found.paths.length 0 found.paths).2
      ≠ .error (.invalid (.missing p)) := loadFrom_ne_missing _ 0 found.paths p
  rcases hrules : (loadFrom disk skip found.paths.length 0 found.paths).2 with f | rs
  · rw [hrules] at hfrom
    exact fun heq => hfrom (congrArg Except.error (Except.error.inj heq))
  · rw [Except.bind]
    rcases RuleSet.ofRules rs with q | s <;> simp [Except.mapError]

end Loading

namespace CommandLine

open Document Loading

/-! ### What can be wrong -/

section Wrong

variable (disk : Disk) (o : Options)

/-- The input is no file. -/
def InputMissing : Prop := ∀ bytes, disk.find o.input ≠ .ok (.file bytes)

/-- There are no rules: a path leads nowhere, or the tag selects none of those that are loaded. -/
def RulesMissing : Prop :=
  (∃ p ∈ o.rules, ∃ e, disk.find p = .error e) ∨
    ∃ s tag, (loadRules disk o.rules o.skipUnsupported).2 = .ok s ∧ o.tag = some tag ∧
      ∀ r ∈ s.rules, ¬ RuleSet.Mentions tag r

/-- The rules are malformed: the file of a rule is, or they make no set. -/
def RulesInvalid : Prop :=
  ∃ p, (loadRules disk o.rules o.skipUnsupported).2 = .error (.invalid p) ∧
    ((∃ path e, p = .file path e) ∨ ∃ e, p = .set e)

/-- A file of placeholders is asked for, but none are read from it: it is not there, or it is
malformed. -/
def PlaceholdersInvalid : Prop :=
  ∃ path, o.placeholders = some path ∧
    ¬ ∃ bytes ps, disk.read path = .ok bytes ∧ Loading.readPlaceholders bytes = .ok ps

/-- The input is a file, but no log. -/
def EntriesInvalid (d : Depths) : Prop :=
  ∃ bytes, disk.find o.input = .ok (.file bytes) ∧ ¬ IsLog d bytes

end Wrong

/-! ### Stages -/

section Stages

variable {disk : Disk} {o : Options}

theorem Stage.result_andThen {α β : Type} (s : Stage α) (next : α → Stage β) :
    (s.andThen next).result = s.result.bind fun a => (next a).result := by
  rw [andThen]
  rcases s.result with e | a <;> rfl

/-- The input is read if it is a file. -/
theorem readInput_cases (disk : Disk) (o : Options) :
    (∃ bytes, disk.find o.input = .ok (.file bytes) ∧ (readInput disk o).result = .ok bytes) ∨
      InputMissing disk o ∧ (readInput disk o).result = .error (.exit .missingFile) := by
  simp only [InputMissing, readInput, Disk.read]
  rcases disk.find o.input with e | (bytes | children)
  · exact .inr ⟨by simp, rfl⟩
  · exact .inl ⟨bytes, rfl, rfl⟩
  · exact .inr ⟨by simp, rfl⟩

/-- Rules are loaded if their paths lead somewhere and the rules are well-formed. -/
theorem readRules_cases (disk : Disk) (o : Options) :
    (∃ s, (loadRules disk o.rules o.skipUnsupported).2 = .ok s ∧
        (∀ p ∈ o.rules, ∃ t, disk.find p = .ok t) ∧ (readRules disk o).result = .ok s) ∨
      RulesMissing disk o ∧ (readRules disk o).result = .error (.exit .missingRules) ∨
      ¬ RulesMissing disk o ∧ RulesInvalid disk o ∧
        (readRules disk o).result = .error (.exit .invalidRule) ∨
      ∃ f, (readRules disk o).result = .error (.fault f) := by
  by_cases hpaths : ∀ p ∈ o.rules, ∃ t, disk.find p = .ok t
  · have hmissing : ∀ p, (loadRules disk o.rules o.skipUnsupported).2
        ≠ .error (.invalid (.missing p)) := loadRules_ne_missing hpaths
    rcases hload : (loadRules disk o.rules o.skipUnsupported).2 with (p | f) | s
    · have hnone : ¬ RulesMissing disk o := by
        rintro (⟨q, hq, e, he⟩ | ⟨s, tag, hs, -⟩)
        · obtain ⟨t, ht⟩ := hpaths q hq
          rw [he] at ht
          cases ht
        · rw [hload] at hs
          cases hs
      rcases p with path | ⟨path, e⟩ | e
      · exact absurd hload (hmissing path)
      · exact .inr (.inr (.inl ⟨hnone, ⟨_, hload, .inl ⟨path, e, rfl⟩⟩,
          by simp [readRules, hload, Stage.after, Stage.stop]⟩))
      · exact .inr (.inr (.inl ⟨hnone, ⟨_, hload, .inr ⟨e, rfl⟩⟩,
          by simp [readRules, hload, Stage.after, Stage.stop]⟩))
    · exact .inr (.inr (.inr ⟨f, by simp [readRules, hload, Stage.after, Stage.fail]⟩))
    · exact .inl ⟨s, rfl, hpaths, by simp [readRules, hload, Stage.after, Stage.done]⟩
  · have hexists : ∃ p ∈ o.rules, ∃ e, disk.find p = .error e := by
      simp only [not_forall, not_exists] at hpaths
      obtain ⟨p, hp, hfind⟩ := hpaths
      rcases he : disk.find p with e | t
      · exact ⟨p, hp, e, he⟩
      · exact absurd he (hfind t)
    obtain ⟨p, hload⟩ : ∃ p, (loadRules disk o.rules o.skipUnsupported).2
        = .error (.invalid (.missing p)) := loadRules_of_missing hexists
    exact .inr (.inl ⟨.inl hexists, by simp [readRules, hload, Stage.after, Stage.stop]⟩)

/-- Of the rules that are loaded, some are selected unless the tag selects none. -/
theorem selectRules_cases (s : RuleSet) (o : Options) :
    (¬ (∃ tag, o.tag = some tag ∧ ∀ r ∈ s.rules, ¬ RuleSet.Mentions tag r) ∧
        ∃ t, (selectRules o s).result = .ok t) ∨
      (∃ tag, o.tag = some tag ∧ ∀ r ∈ s.rules, ¬ RuleSet.Mentions tag r) ∧
        (selectRules o s).result = .error (.exit .missingRules) := by
  rcases htag : o.tag with - | tag <;> simp only [selectRules, htag]
  · exact .inl ⟨by simp, s, rfl⟩
  by_cases hsome : ∃ r ∈ s.rules, RuleSet.Mentions tag r
  · obtain ⟨t, hfilter⟩ := RuleSet.exists_filter_iff.mpr hsome
    exact .inl ⟨by simpa using hsome, t, by rw [hfilter]; rfl⟩
  · refine .inr ⟨⟨tag, rfl, by simpa using hsome⟩, ?_⟩
    rcases hfilter : s.filter tag with p | t
    · rfl
    · exact absurd (RuleSet.exists_filter_iff.mp ⟨t, hfilter⟩) hsome

/-- Placeholders are read unless their file is not there or is malformed. -/
theorem readPlaceholders_cases (disk : Disk) (o : Options) :
    (¬ PlaceholdersInvalid disk o ∧ ∃ ps, (readPlaceholders disk o).result = .ok ps) ∨
      (PlaceholdersInvalid disk o ∧
        (readPlaceholders disk o).result = .error (.exit .invalidPlaceholders)) ∨
      ∃ f, (readPlaceholders disk o).result = .error (.fault f) := by
  rcases hpath : o.placeholders with - | path
  · exact .inl ⟨by simp [PlaceholdersInvalid, hpath], [],
      by simp [readPlaceholders, hpath, Stage.done]⟩
  rcases hread : disk.read path with e | bytes
  · exact .inr (.inl ⟨⟨path, hpath, by simp [hread]⟩,
      by simp [readPlaceholders, hpath, hread, Stage.stop]⟩)
  rcases hps : Loading.readPlaceholders bytes with (p | f) | ps
  · exact .inr (.inl ⟨⟨path, hpath, by simp [hread, hps]⟩,
      by simp [readPlaceholders, hpath, hread, hps, Stage.stop]⟩)
  · have hnone : PlaceholdersInvalid disk o := ⟨path, hpath, by simp [hread, hps]⟩
    rcases hreport : faultReport? f with - | why
    · exact .inr (.inr ⟨f, by simp [readPlaceholders, hpath, hread, hps, hreport, Stage.fail]⟩)
    · exact .inr (.inl
        ⟨hnone, by simp [readPlaceholders, hpath, hread, hps, hreport, Stage.stop]⟩)
  · refine .inl ⟨?_, ps, by simp [readPlaceholders, hpath, hread, hps, Stage.done]⟩
    rintro ⟨path', hpath', hno⟩
    obtain rfl : path = path' := Option.some.inj (hpath.symm.trans hpath')
    exact hno ⟨bytes, ps, hread, hps⟩

/-- Matching gives what is found if the input is a log. -/
theorem matchEntries_cases (d : Depths) (o : Options) (s : RuleSet) (ps : Placeholders)
    (bytes : List UInt8) :
    (IsLog d bytes ∧ ∃ found, (matchEntries d o s ps bytes).result = .ok found) ∨
      (¬ IsLog d bytes ∧ (matchEntries d o s ps bytes).result = .error (.exit .invalidInput)) ∨
      ∃ f, (matchEntries d o s ps bytes).result = .error (.fault f) := by
  rw [← (stop_readEntries_iff d bytes).1]
  simp only [matchEntries]
  rcases s.findMatches o.origin ps (readEntries d bytes).entries with f | found
  · exact .inr (.inr ⟨f, rfl⟩)
  rcases (readEntries d bytes).stop with - | (⟨number, p⟩ | f)
  · exact .inl ⟨rfl, found, rfl⟩
  · exact .inr (.inl ⟨by simp, rfl⟩)
  · exact .inr (.inr ⟨f, rfl⟩)

/-- A report is written, if that is possible. -/
theorem write_cases (room : Nat) (o : Options) (r : Report) :
    (∃ text, (write room o r).result = .ok text) ∨
      ∃ f, (write room o r).result = .error (.fault f) := by
  rw [write]
  split
  case h_1 text _ => exact .inl ⟨text, rfl⟩
  case h_2 f _ => exact .inr ⟨f, rfl⟩

end Stages

/-! ### Runs -/

/-- The code that a stage ends a run with; none if it fails. -/
def Stage.code? (s : Stage String) : Option Nat :=
  match s.result with
  | .ok _ => some 0
  | .error (.exit code) => some code.number
  | .error (.fault _) => none

/-- The answer of a run has its code, and only a run with a report writes something. -/
theorem code?_of_answer {s : Stage String} {a : Answer} (h : s.answer = .ok a) :
    s.code? = some a.code ∧ (a.code ≠ 0 → a.output = "") := by
  rw [Stage.answer] at h
  split at h
  · rcases hs : s.result with (code | f) | text <;> simp only [hs] at h
    · obtain rfl := Except.ok.inj h
      exact ⟨by rw [Stage.code?, hs], fun _ => rfl⟩
    · cases h
    · obtain rfl := Except.ok.inj h
      exact ⟨by rw [Stage.code?, hs], fun hne => absurd rfl hne⟩
  · cases h

section Runs

variable {disk : Disk} {d : Depths} {o : Options}

theorem rulesMissing_iff (hpaths : ∀ p ∈ o.rules, ∃ t, disk.find p = .ok t) {s : RuleSet}
    (hload : (loadRules disk o.rules o.skipUnsupported).2 = .ok s) :
    RulesMissing disk o ↔ ∃ tag, o.tag = some tag ∧ ∀ r ∈ s.rules, ¬ RuleSet.Mentions tag r := by
  constructor
  · rintro (⟨p, hp, e, he⟩ | ⟨t, tag, ht, hnone⟩)
    · obtain ⟨t, ht⟩ := hpaths p hp
      rw [he] at ht
      cases ht
    · obtain rfl : s = t := Except.ok.inj (hload.symm.trans ht)
      exact ⟨tag, hnone⟩
  · rintro ⟨tag, hnone⟩
    exact .inr ⟨s, tag, hload, hnone⟩

theorem not_rulesInvalid {s : RuleSet}
    (hload : (loadRules disk o.rules o.skipUnsupported).2 = .ok s) : ¬ RulesInvalid disk o := by
  rintro ⟨p, hp, -⟩
  rw [hload] at hp
  cases hp

theorem entriesInvalid_iff {bytes : List UInt8} (h : disk.find o.input = .ok (.file bytes)) :
    EntriesInvalid disk o d ↔ ¬ IsLog d bytes := by
  constructor
  · rintro ⟨bytes', h', hno⟩
    obtain rfl : bytes = bytes' := Tree.file.inj (Except.ok.inj (h.symm.trans h'))
    exact hno
  · exact fun hno => ⟨bytes, h, hno⟩

end Runs

open Classical in
/-- **The first failure ends a run.**  If a command line asks for a report and is answered, the code
of the answer tells what is wrong: first that the input is no file, then that there are no rules or
that they are malformed, then that the placeholders are, and last that some line of the input is no
entry, whatever the lines before it gave.  It is 0 if nothing is wrong.  With any other code nothing
is written. -/
theorem first_failure_is_told {disk : Disk} {d : Depths} {room : Nat} {now : Moment}
    {arguments : List String} {o : Options} {a : Answer}
    (hrequest : Request.ofArguments arguments = .ok (.report o))
    (h : respond disk d room now arguments = .ok (.ok a)) :
    (a.code ≠ 0 → a.output = "") ∧
    a.code =
      if InputMissing disk o then ExitCode.missingFile.number
      else if RulesMissing disk o then ExitCode.missingRules.number
      else if RulesInvalid disk o then ExitCode.invalidRule.number
      else if PlaceholdersInvalid disk o then ExitCode.invalidPlaceholders.number
      else if EntriesInvalid disk o d then ExitCode.invalidInput.number
      else 0 := by
  have hanswer : (stages disk d room now arguments o).answer = .ok a := by
    rw [respond, hrequest] at h
    exact Except.ok.inj h
  obtain ⟨hcode, hempty⟩ := code?_of_answer hanswer
  refine ⟨hempty, Option.some.inj (hcode.symm.trans ?_)⟩
  rw [Stage.code?] at hcode ⊢
  simp only [stages, Stage.result_andThen] at hcode ⊢
  -- one stage after the other: it goes on, it ends the run, or it fails, which is no answer
  rcases readInput_cases disk o with ⟨bytes, hfile, hinput⟩ | ⟨hmissing, hinput⟩ <;>
    simp only [hinput, Except.bind] at hcode ⊢
  case inr => rw [if_pos hmissing]
  have hpresent : ¬ InputMissing disk o := fun hmissing => hmissing bytes hfile
  rw [if_neg hpresent]
  rcases readRules_cases disk o with ⟨s, hload, hpaths, hrules⟩ | ⟨hmissing, hrules⟩ |
    ⟨hsome, hinvalid, hrules⟩ | ⟨f, hrules⟩ <;> simp only [hrules] at hcode ⊢
  case inr.inl => rw [if_pos hmissing]
  case inr.inr.inl => rw [if_neg hsome, if_pos hinvalid]
  case inr.inr.inr => cases hcode
  rw [rulesMissing_iff hpaths hload, if_neg (not_rulesInvalid hload)]
  rcases selectRules_cases s o with ⟨hsome, t, hselect⟩ | ⟨hnone, hselect⟩ <;>
    simp only [hselect] at hcode ⊢
  case inr => rw [if_pos hnone]
  rw [if_neg hsome]
  rcases readPlaceholders_cases disk o with ⟨hvalid, ps, hps⟩ | ⟨hinvalid, hps⟩ | ⟨f, hps⟩ <;>
    simp only [hps] at hcode ⊢
  case inr.inl => rw [if_pos hinvalid]
  case inr.inr => cases hcode
  rw [if_neg hvalid, entriesInvalid_iff hfile]
  rcases matchEntries_cases d o t ps bytes with
    ⟨hlog, found, hfound⟩ | ⟨hno, hfound⟩ | ⟨f, hfound⟩ <;>
    simp only [hfound] at hcode ⊢
  case inr.inl => rw [if_pos hno]
  case inr.inr => cases hcode
  rw [if_neg (not_not_intro hlog)]
  rcases write_cases room o _ with ⟨text, hwrite⟩ | ⟨f, hwrite⟩
  · rw [hwrite]
  · rw [hwrite] at hcode
    cases hcode

/-! ### A sample -/

/-- The statement at an input whose first line matches and whose last one is no entry.  The last
line is told of, unless a file of placeholders is asked for that is not there. -/
theorem sample_first_failure :
    let bytes := "\x7b\"message\": \"whoami\"\x7d\nno document\n".toUTF8.toList
    let disk := sampleDisk bytes
    let d : Depths := ⟨9, 9⟩
    let now : Moment := ⟨⟨2024, 1, 1⟩, 0, 0, 0, 0, none⟩
    let plain : Options := { sampleOptions with json := false }
    let filled : Options := { plain with placeholders := some (.parse "none.yml") }
    EntriesInvalid disk plain d ∧ PlaceholdersInvalid disk filled ∧
    (∃ a, respond disk d 80 now ["-r", "user.yml", "log.jsonl"] = .ok (.ok a) ∧
      a.output = "" ∧ a.code = 13) ∧
    ∃ a, respond disk d 80 now ["-r", "user.yml", "-p", "none.yml", "log.jsonl"] = .ok (.ok a) ∧
      a.output = "" ∧ a.code = 14 := by
  intro bytes disk d now plain filled
  have hfile : disk.find plain.input = .ok (.file bytes) := rfl
  have hlog : ¬ IsLog d bytes := by
    have hfirst : ((linesRead bytes).find? (!holdsEntry d ·)).isSome = true := by decide +kernel
    rw [isLog_iff]
    rintro ⟨hnone, -⟩
    rw [hnone] at hfirst
    cases hfirst
  have hentries : EntriesInvalid disk plain d := ⟨bytes, hfile, hlog⟩
  have hread : disk.read (.parse "none.yml") = .error .missing := by decide +kernel
  have hplaceholders : PlaceholdersInvalid disk filled := ⟨_, rfl, by simp [hread]⟩
  -- nothing is wrong with the input and the rules
  have hpresent : ¬ InputMissing disk plain := fun hmissing => hmissing bytes hfile
  have hpaths : ∀ p ∈ plain.rules, ∃ t, disk.find p = .ok t := by
    intro p hp
    obtain rfl : p = .parse "user.yml" := List.mem_singleton.mp hp
    exact ⟨_, rfl⟩
  obtain ⟨s, hload⟩ : ∃ s, (loadRules disk plain.rules plain.skipUnsupported).2 = .ok s := by
    have hok : (loadRules disk plain.rules plain.skipUnsupported).2.toBool = true := by
      decide +kernel
    rcases hload : (loadRules disk plain.rules plain.skipUnsupported).2 with f | s
    · rw [hload] at hok
      cases hok
    · exact ⟨s, rfl⟩
  have hrules : ¬ RulesMissing disk plain := by
    rw [rulesMissing_iff hpaths hload]
    rintro ⟨tag, ⟨⟩, -⟩
  have hvalid : ¬ RulesInvalid disk plain := not_rulesInvalid hload
  have hnone : ¬ PlaceholdersInvalid disk plain := by
    rintro ⟨path, ⟨⟩, -⟩
  refine ⟨hentries, hplaceholders, ?_, ?_⟩
  · have hrequest : Request.ofArguments ["-r", "user.yml", "log.jsonl"] = .ok (.report plain) := by
      decide +kernel
    obtain ⟨a, ha⟩ : ∃ a, respond disk d 80 now ["-r", "user.yml", "log.jsonl"] = .ok (.ok a) :=
      ⟨⟨13, "", [⟨.error, "invalid log entry: log.jsonl:2: <json>"⟩]⟩, by decide +kernel⟩
    obtain ⟨hempty, hcode⟩ := first_failure_is_told hrequest ha
    rw [if_neg hpresent, if_neg hrules, if_neg hvalid, if_neg hnone, if_pos hentries] at hcode
    exact ⟨a, ha, hempty (by rw [hcode]; decide), hcode⟩
  · have hrequest : Request.ofArguments ["-r", "user.yml", "-p", "none.yml", "log.jsonl"]
        = .ok (.report filled) := by decide +kernel
    obtain ⟨a, ha⟩ : ∃ a, respond disk d 80 now ["-r", "user.yml", "-p", "none.yml", "log.jsonl"]
        = .ok (.ok a) :=
      ⟨⟨14, "", [⟨.error, "failed to load placeholders: " ++
        "[Errno 2] No such file or directory: 'none.yml'"⟩]⟩, by decide +kernel⟩
    obtain ⟨hempty, hcode⟩ := first_failure_is_told hrequest ha
    have hpresent' : ¬ InputMissing disk filled := hpresent
    have hrules' : ¬ RulesMissing disk filled := hrules
    have hvalid' : ¬ RulesInvalid disk filled := hvalid
    rw [if_neg hpresent', if_neg hrules', if_neg hvalid', if_pos hplaceholders] at hcode
    exact ⟨a, ha, hempty (by rw [hcode]; decide), hcode⟩

end CommandLine

end SigmaRules
