/-
SigmaRules/Proofs/CommandLine/Input.lean

What becomes of an input file.  Let rules and placeholders be loaded, let the rules be
evaluated without faults, and let all messages be readable (`Prepared`).  Then a run with
a report in JSON ends as reading the file does, which is known from
`stop_readEntries_iff`: the code is 0 for a log, if what is found in it can be written
(`Writable`), and for other files it is the code for an invalid input, unless the file
derails the reading (`input_is_answered`).

A file that derails it should be an invalid input like any other that is no log, but the
run ends in a fault (`truncated_input_is_a_fault`).
-/
import SigmaRules.CommandLine.Run
import SigmaRules.Proofs.Loading.Entries
import SigmaRules.Proofs.Matching
import SigmaRules.Proofs.Report.Writing
import SigmaRules.Proofs.Search.LetterCase
import SigmaRules.Proofs.Text.Markup

namespace SigmaRules

/-- A rule whose regular expressions have counts that can be read is evaluated without a fault. -/
theorem Rule.answers_of_countsFit {r : Rule} {ps : Placeholders}
    (h : ∀ s ∈ r.expr.searches, s.CountsFit ps) (e : Entry) : r.Answers e ps := by
  have hsucceeds : ∀ s ∈ r.expr.searches, ∃ b, s.succeeds e ps = .ok b := fun s hs =>
    (Search.exists_succeeds (h s hs) e).imp fun _ => And.left
  obtain ⟨b, hb⟩ := Expr.exists_matchesEntry hsucceeds
  obtain ⟨o, ho⟩ := Expr.exists_outcome r.expr hsucceeds
  exact ⟨b, hb, fun _ => ⟨o, by rw [Rule.explain, Rule.evaluate, Expr.evaluate_eq, ho]; rfl⟩⟩

namespace CommandLine

open Files Document Loading

/-! ### Stages -/

namespace Stage

variable {α β : Type} {s : Stage α}

theorem andThen_of_ok {a : α} (h : s.result = .ok a) (next : α → Stage β) :
    s.andThen next = (next a).after s.log := by
  rw [andThen, h]

@[simp] theorem andThen_done (a : α) (next : α → Stage β) : (done a).andThen next = next a := rfl

end Stage

/-- Selecting rules logs nothing if it succeeds. -/
theorem selectRules_eq {o : Options} {all rules : RuleSet}
    (h : (selectRules o all).result = .ok rules) : selectRules o all = .done rules := by
  unfold selectRules at h ⊢
  rcases htag : o.tag with - | tag
  · simp only [htag] at h
    cases h
    rfl
  · rcases hfilter : all.filter tag with p | s <;> simp only [htag, hfilter] at h
    · cases h
    · cases h
      simp only [hfilter]

/-- Reading placeholders logs nothing if it succeeds. -/
theorem readPlaceholders_eq {disk : Disk} {o : Options} {ps : Placeholders}
    (h : (readPlaceholders disk o).result = .ok ps) : readPlaceholders disk o = .done ps := by
  unfold readPlaceholders at h ⊢
  split
  case h_1 hnone =>
    simp only [hnone] at h
    cases h
    rfl
  case h_2 path hpath =>
    simp only [hpath] at h
    split at h
    · cases h
    · split at h
      · cases h
        simp [*]
      · cases h
      · split at h <;> cases h

/-! ### Messages -/

/-- Without an opening bracket there are no tags. -/
theorem isReadable_of_not_mem {m : Message} (h : '[' ∉ m.text.toList) : m.isReadable = true := by
  obtain ⟨t, hread, -⟩ := Text.Markup.exists_read_of_untagged (Text.Markup.Untagged.of_not_mem h)
  rw [Message.isReadable, Report.readMarkup, hread]
  rfl

theorem not_mem_append {c : Char} {s t : String} (hs : c ∉ s.toList) (ht : c ∉ t.toList) :
    c ∉ (s ++ t).toList := by
  rw [String.toList_append, List.mem_append]
  exact fun h => h.elim hs ht

/-- The messages about lines can be read if the path of the input has no opening bracket. -/
theorem isReadable_report {path : Path} (h : '[' ∉ path.text.toList) (number : Nat)
    {p : LineProblem} (hp : p.Occurs) :
    (⟨.error, p.report path number⟩ : Message).isReadable = true := by
  have hnumber : '[' ∉ (toString number).toList := by
    intro hmem
    have hdigit : '['.isDigit = true :=
      Nat.isDigit_of_mem_toDigits (by decide) (by decide) (Nat.toList_repr ▸ hmem)
    exact absurd hdigit (by decide)
  have hmessage : '[' ∉ p.message.toList := by
    rcases hp with rfl | ⟨v, rfl⟩
    · decide
    · have hword : '[' ∉ (kindWord v).toList := by rcases v <;> simp [kindWord]
      exact not_mem_append (by decide) hword
  have hplace : '[' ∉ ("invalid log entry: " ++ path.text ++ ":").toList :=
    not_mem_append (not_mem_append (by decide) h) (by decide)
  exact isReadable_of_not_mem
    (not_mem_append (not_mem_append (not_mem_append hplace hnumber) (by decide)) hmessage)

/-! ### Runs that get to their input -/

/-- All goes well until the input is read: the rules are loaded and selected, and so are the
placeholders; the rules that apply are evaluated without faults on all entries; warnings about
rules and messages about lines of the input can be read. -/
structure Prepared (disk : Disk) (o : Options) (rules : RuleSet) (ps : Placeholders) : Prop where
  loads : ∃ all, (readRules disk o).result = .ok all ∧ (selectRules o all).result = .ok rules
  fills : (readPlaceholders disk o).result = .ok ps
  answers : ∀ r ∈ rules.rules, r.appliesTo o.origin = true → ∀ e, r.Answers e ps
  warns : ∀ m ∈ (readRules disk o).log, m.isReadable = true
  reports : ∀ number (p : LineProblem), p.Occurs →
    (⟨.error, p.report o.input number⟩ : Message).isReadable = true

/-- What is found in the file can be written: the log sources of the rules that match an entry hold
no bytes but those of texts. -/
def Writable (d : Depths) (o : Options) (rules : RuleSet) (ps : Placeholders)
    (bytes : List UInt8) : Prop :=
  ∀ r ∈ rules.rules, r.appliesTo o.origin = true →
    (∃ x ∈ (readEntries d bytes).entries, r.hits x.2 ps = true) →
      ∀ s, r.logSource = some s → Json.canWrite (Report.ofLogSource s) = true

section Prepared

variable {disk : Disk} {o : Options} {rules : RuleSet} {ps : Placeholders}

/-- Matching the entries of a file gives what is found, or stops as reading does. -/
theorem matchEntries_eq (h : Prepared disk o rules ps) (d : Depths) (bytes : List UInt8) :
    ∃ found, (∀ run, Json.canWrite (Report.document ⟨run, found.1⟩) = true ↔
        Writable d o rules ps bytes) ∧
      matchEntries d o rules ps bytes =
        match (readEntries d bytes).stop with
        | none => .done found
        | some (.line number p) => .stop .invalidInput [p.report o.input number]
        | some (.fault f) => .fail f := by
  obtain ⟨ms, hms, hfound⟩ : ∃ ms, rules.findMatches o.origin ps (readEntries d bytes).entries
      = .ok (ms, (readEntries d bytes).entries.length) ∧
      ∀ r, (∃ m ∈ ms, m.1 = r) ↔ r ∈ rules.rules ∧ r.appliesTo o.origin = true ∧
        ∃ x ∈ (readEntries d bytes).entries, r.hits x.2 ps = true :=
    ⟨_, RuleSet.findMatches_eq fun r hr ha x _ => h.answers r hr ha x.2, by simp⟩
  refine ⟨(ms, (readEntries d bytes).entries.length), fun run => ?_, ?_⟩
  · rw [Report.canWrite_document_iff]
    constructor
    · intro hwrite r hr happlies hhit
      obtain ⟨m, hm, rfl⟩ := (hfound r).mpr ⟨hr, happlies, hhit⟩
      exact hwrite m hm
    · intro hwritable m hm
      obtain ⟨hr, happlies, hhit⟩ := (hfound m.1).mp ⟨m, hm, rfl⟩
      exact hwritable m.1 hr happlies hhit
  · rcases hstop : (readEntries d bytes).stop with - | (⟨number, p⟩ | f) <;>
      simp only [matchEntries, hms, hstop]

/-- A run that gets to its input, if there is one, goes on with what the input holds. -/
theorem stages_eq (h : Prepared disk o rules ps) (hjson : o.json = true) {bytes : List UInt8}
    (hinput : disk.read o.input = .ok bytes) (d : Depths) (room : Nat) (now : Moment)
    (arguments : List String) :
    ∃ written : Stage String,
      (Writable d o rules ps bytes → ∃ text, written = .done text) ∧
      (¬ Writable d o rules ps bytes → written = .fail .notText) ∧
      stages disk d room now arguments o = Stage.after (readRules disk o).log
        (match (readEntries d bytes).stop with
          | none => written
          | some (.line number p) => .stop .invalidInput [p.report o.input number]
          | some (.fault f) => .fail f) := by
  obtain ⟨all, hall, hrules⟩ := h.loads
  obtain ⟨found, hwrite, hfound⟩ := matchEntries_eq h d bytes
  have hread : readInput disk o = .done bytes := by rw [readInput, hinput]
  rw [stages, hread, Stage.andThen_done, Stage.andThen_of_ok hall, selectRules_eq hrules,
    Stage.andThen_done, readPlaceholders_eq h.fills, Stage.andThen_done, hfound]
  have hwritten : ∀ run,
      (Writable d o rules ps bytes → ∃ text, write room o ⟨run, found.1⟩ = .done text) ∧
        (¬ Writable d o rules ps bytes → write room o ⟨run, found.1⟩ = .fail .notText) := by
    intro run
    simp only [write, hjson, if_true, Report.json]
    constructor <;> intro hwritable
    · exact ⟨_, by rw [if_pos ((hwrite run).mpr hwritable)]⟩
    · rw [if_neg fun hcan => hwritable ((hwrite run).mp hcan)]
  let run : Run := {
    moment := now
    version := version
    arguments := if arguments.isEmpty then none else some arguments
    input := o.input.text
    rules := o.rules.map Path.text
    origin := o.origin
    entryCount := found.2 }
  refine ⟨write room o ⟨run, found.1⟩, (hwritten run).1, (hwritten run).2, ?_⟩
  rcases (readEntries d bytes).stop with - | (⟨number, p⟩ | f) <;> rfl

end Prepared

/-- Messages before a stage that can be read are logged first, and change nothing else. -/
theorem answer_after {log : List Message} (hlog : ∀ m ∈ log, m.isReadable = true)
    (s : Stage String) :
    (s.after log).answer = s.answer.map fun a => { a with log := log ++ a.log } := by
  have hall : log.all Message.isReadable = true := List.all_eq_true.mpr hlog
  rw [Stage.answer, Stage.answer, Stage.after, List.all_append, hall, Bool.true_and]
  split
  · rcases s.result with (code | f) | text <;> rfl
  · rfl

/-- **Every input file is answered**, but for those that derail the reading.  Of a run that is
prepared and asks for a report in JSON, the code is 0 if the file is a log and what is found can be
written.  If the file is no log, the code is the one for an invalid input, and nothing is written.
A file that derails the reading ends the run in a fault, and so does what cannot be written. -/
theorem input_is_answered {disk : Disk} {o : Options} {rules : RuleSet} {ps : Placeholders}
    (h : Prepared disk o rules ps) (hjson : o.json = true) {arguments : List String}
    (hrequest : Request.ofArguments arguments = .ok (.report o)) {bytes : List UInt8}
    (hinput : disk.read o.input = .ok bytes) (d : Depths) (room : Nat) (now : Moment) :
    (IsLog d bytes → Writable d o rules ps bytes →
      ∃ a, respond disk d room now arguments = .ok (.ok a) ∧ a.code = 0) ∧
    (IsLog d bytes → ¬ Writable d o rules ps bytes →
      respond disk d room now arguments = .ok (.error .notText)) ∧
    (¬ IsLog d bytes → (∀ f, ¬ Derails d bytes f) →
      ∃ a, respond disk d room now arguments = .ok (.ok a) ∧
        a.code = ExitCode.invalidInput.number ∧ a.output = "") ∧
    ∀ f, Derails d bytes f → respond disk d room now arguments = .ok (.error f) := by
  obtain ⟨written, hdone, hfail, hstages⟩ := stages_eq h hjson hinput d room now arguments
  obtain ⟨hlog, hfault⟩ := stop_readEntries_iff d bytes
  have hrespond : respond disk d room now arguments
      = .ok (stages disk d room now arguments o).answer := by
    rw [respond, hrequest]
    rfl
  rw [hrespond, hstages, answer_after h.warns]
  refine ⟨fun hyes hwritable => ?_, fun hyes hwritable => ?_, fun hno hfine => ?_, fun f hf => ?_⟩
  · obtain ⟨text, rfl⟩ := hdone hwritable
    rw [hlog.mpr hyes]
    exact ⟨_, rfl, rfl⟩
  · rw [hlog.mpr hyes, hfail hwritable]
    rfl
  · rcases hstop : (readEntries d bytes).stop with - | (⟨number, p⟩ | f)
    · exact absurd (hlog.mp hstop) hno
    · have hanswer : (Stage.stop .invalidInput [p.report o.input number] : Stage String).answer
          = .ok ⟨ExitCode.invalidInput.number, "", [⟨.error, p.report o.input number⟩]⟩ := by
        simp [Stage.answer, Stage.stop, h.reports number p (occurs_of_stop hstop)]
      simp only [hanswer]
      exact ⟨_, rfl, rfl, rfl⟩
    · exact absurd ((hfault f).mp hstop) (hfine f)
  · rw [(hfault f).mpr hf]
    rfl

/-! ### A sample -/

/-- A disk with a rule and an input. -/
def sampleDisk (input : List UInt8) : Disk where
  root := .directory [("log.jsonl", .file input), ("user.yml", .file
    "title: User\ndetection:\n  words: whoami\n  condition: words\n".toUTF8.toList)]

/-- The options of a run that reads the input and reports in JSON. -/
def sampleOptions : Options where
  input := .parse "log.jsonl"
  rules := [.parse "user.yml"]
  verbose := false
  debug := false
  quiet := false
  coloring := .auto
  skipUnsupported := false
  tag := none
  product := none
  service := none
  category := none
  placeholders := none
  json := true

/-- Are rules loaded without warnings, and have their searches no modifiers? -/
def loadsPlainRules (disk : Disk) : Bool :=
  match (readRules disk sampleOptions).result with
  | .ok all => (readRules disk sampleOptions).log.isEmpty &&
      all.rules.all fun r => r.expr.searches.all (·.modifiers.isEmpty)
  | .error _ => false

theorem prepared_sample {disk : Disk} (h : loadsPlainRules disk = true) :
    ∃ rules, Prepared disk sampleOptions rules [] := by
  rw [loadsPlainRules] at h
  rcases hload : (readRules disk sampleOptions).result with p | all <;> rw [hload] at h
  · cases h
  obtain ⟨hlog, hrules⟩ := Bool.and_eq_true_iff.mp h
  have hplain : ∀ r ∈ all.rules, ∀ s ∈ r.expr.searches, s.modifiers = [] := by
    simpa using hrules
  refine ⟨all, ⟨all, hload, rfl⟩, rfl, fun r hr _ e => ?_, fun m hm => ?_,
    fun number p => isReadable_report (by decide) number⟩
  · refine Rule.answers_of_countsFit (fun s hs hre => ?_) e
    rw [hplain r hr s hs] at hre
    cases hre
  · rw [List.isEmpty_iff.mp hlog] at hm
    cases hm

/-- The statement at an entry, a blank line and a line that is no document. -/
theorem sample_input_is_answered :
    let bytes := "\x7b\"message\": \"whoami\"\x7d\n\nno document\n".toUTF8.toList
    let disk := sampleDisk bytes
    let arguments := ["-j", "-r", "user.yml", "log.jsonl"]
    let d : Depths := ⟨9, 9⟩
    (∃ rules, Prepared disk sampleOptions rules []) ∧
      Request.ofArguments arguments = .ok (.report sampleOptions) ∧
      disk.read sampleOptions.input = .ok bytes ∧ (∀ f, ¬ Derails d bytes f) ∧
      ∃ a, respond disk d 80 ⟨⟨2024, 1, 1⟩, 0, 0, 0, 0, none⟩ arguments = .ok (.ok a) ∧
        a.code = 13 := by
  intro bytes disk arguments d
  have hload : loadsPlainRules disk = true := by decide +kernel
  obtain ⟨rules, hprepared⟩ := prepared_sample hload
  have hrequest : Request.ofArguments arguments = .ok (.report sampleOptions) := by decide +kernel
  have hinput : disk.read sampleOptions.input = .ok bytes := by decide +kernel
  -- the first line that holds no entry causes no fault
  obtain ⟨hfirst, hfault⟩ : (linesRead bytes).find? (!holdsEntry d ·)
      = some "no document".toUTF8.toList ∧ lineFault? d "no document".toUTF8.toList = none := by
    decide +kernel
  have hfine : ∀ f, ¬ Derails d bytes f := by
    intro f hf
    rw [Derails, hfirst] at hf
    exact Option.some_ne_none f (hf.symm.trans hfault)
  have hno : ¬ IsLog d bytes := by
    rw [isLog_iff, hfirst]
    rintro ⟨⟨⟩, -⟩
  obtain ⟨-, -, hanswer, -⟩ :=
    input_is_answered hprepared rfl hrequest hinput d 80 ⟨⟨2024, 1, 1⟩, 0, 0, 0, 0, none⟩
  obtain ⟨a, ha, hcode, -⟩ := hanswer hno hfine
  exact ⟨⟨rules, hprepared⟩, hrequest, hinput, hfine, a, ha, hcode⟩

/-- Compressed data that end too early are a fault, though the run reports other files that are no
log. -/
theorem truncated_input_is_a_fault :
    let disk := sampleDisk [0x1F, 0x8B]
    let d : Depths := ⟨9, 9⟩
    ¬ IsLog d [0x1F, 0x8B] ∧
      respond disk d 80 ⟨⟨2024, 1, 1⟩, 0, 0, 0, 0, none⟩ ["-j", "-r", "user.yml", "log.jsonl"]
        = .ok (.error .truncated) := by
  exact ⟨not_isLog_of_endingFault (f := .truncated) (by decide +kernel), by decide +kernel⟩

end CommandLine

end SigmaRules
