/-
SigmaRules/Proofs/Loading/Rules.lean

Loading rules is all or nothing, apart from rules that are skipped.  A file is fatal if it
gives no rule, except that rules which are well-formed but count or combine matches may be
passed over (`Fatal`).  That they do is known where the detection is read, and still known
when the file is reported (`unsupported_iff`).

One step announces a file, and ends the loading or goes on, with the rule of the file if it
has one (`loadFrom_cons_of_fatal`, `loadFrom_cons_of_loadable`).  A run announces the files
up to the first fatal one and ends with its failure, or it announces all of them and comes
to all their rules.  Main statement: `loading_is_all_or_nothing`.
-/
import Mathlib.Data.List.Basic
import SigmaRules.Loading.Rules
import SigmaRules.Proofs.Answers
import SigmaRules.Proofs.Loading.Discovery
import SigmaRules.Proofs.RuleSet

namespace SigmaRules.Loading

open Files

/-! ### Rules that are not supported -/

/-- The bytes of the file at a path. -/
def content (disk : Disk) (p : Path) : List UInt8 := (disk.read p).toOption.getD []

/-- The rule of the file at a path. -/
def rule? (disk : Disk) (p : Path) : Option Rule := (readRule p (content disk p)).toOption

/-- The rule of the file at a path is rejected because it counts or combines matches. -/
def Unsupported (disk : Disk) (p : Path) : Prop :=
  ∃ s q, Bytes.decode (content disk p) = .ok s ∧
    Rule.parse (String.ofList s) = .error (.invalid q) ∧ q.kind = .aggregation

/-- The file at a path gives no rule, for a reason, and is not one to be skipped. -/
def Fatal (disk : Disk) (skip : Bool) (p : Path) (f : Failure Problem) : Prop :=
  Failure.within (.file p) (readRule p (content disk p)) = .error f ∧
    ¬ (skip = true ∧ Unsupported disk p)

/-- The file at a path is not fatal. -/
def Loadable (disk : Disk) (skip : Bool) (p : Path) : Prop := ∀ f, ¬ Fatal disk skip p f

variable {disk : Disk} {skip : Bool} {p : Path} {f : Failure Problem}

/-- The report about a file tells whether its rule is not supported. -/
theorem unsupported_iff : Unsupported disk p ↔
    ∃ e, readRule p (content disk p) = .error (.invalid e) ∧ e.isUnsupported = true := by
  rw [Unsupported, readRule]
  rcases Bytes.decode (content disk p) with e | s
  · simp [FileProblem.isUnsupported]
  rcases h : Rule.parse (String.ofList s) with (q | f) | r
  · simp [h, Failure.within, Except.mapError, Failure.map, bind, Except.bind,
      FileProblem.isUnsupported]
  · simp [h, Failure.within, Except.mapError, Failure.map, bind, Except.bind]
  · simp [h, Failure.within, Except.mapError, bind, Except.bind, pure, Except.pure]

instance : Decidable (Unsupported disk p) :=
  decidable_of_iff ((match readRule p (content disk p) with
    | .error (.invalid e) => e.isUnsupported
    | _ => false) = true) <| by
    rw [unsupported_iff]
    rcases readRule p (content disk p) with (e | f) | r <;> simp

theorem rule?_eq_some_iff {r : Rule} :
    rule? disk p = some r ↔ readRule p (content disk p) = .ok r := by
  rw [rule?]
  rcases readRule p (content disk p) with f | r' <;> simp [Except.toOption]

/-- A file has a rule, or is skipped, or is fatal. -/
theorem rule?_cases (disk : Disk) (skip : Bool) (p : Path) :
    (∃ r, readRule p (content disk p) = .ok r ∧ rule? disk p = some r ∧ ¬ Unsupported disk p) ∨
      (∃ e, readRule p (content disk p) = .error (.invalid e) ∧ (skip && e.isUnsupported) = true ∧
        rule? disk p = none ∧ skip = true ∧ Unsupported disk p) ∨
      ∃ f, Fatal disk skip p f := by
  rcases h : readRule p (content disk p) with (e | f) | r
  · have hun : Unsupported disk p ↔ e.isUnsupported = true := by simp [unsupported_iff, h]
    by_cases hskip : skip = true ∧ Unsupported disk p
    · exact .inr (.inl ⟨e, rfl, by simpa [hun] using hskip, by rw [rule?, h]; rfl, hskip⟩)
    · exact .inr (.inr ⟨.invalid (.file p e), by rw [h]; rfl, hskip⟩)
  · have hun : ¬ Unsupported disk p := by simp [unsupported_iff, h]
    exact .inr (.inr ⟨.fault f, by rw [h]; rfl, fun hskip => hun hskip.2⟩)
  · exact .inl ⟨r, rfl, rule?_eq_some_iff.mpr h, by simp [unsupported_iff, h]⟩

theorem loadable_iff :
    Loadable disk skip p ↔ (rule? disk p).isSome = true ∨ skip = true ∧ Unsupported disk p := by
  rcases rule?_cases disk skip p with ⟨r, hr, hrule, hun⟩ | ⟨e, -, -, hrule, hskip⟩ | ⟨f, hf⟩
  · refine iff_of_true (fun f hf => ?_) (.inl (by rw [hrule]; rfl))
    have hfail := hf.1
    rw [hr] at hfail
    cases hfail
  · exact iff_of_true (fun f hf => hf.2 hskip) (.inr hskip)
  · refine iff_of_false (fun h => h f hf) ?_
    rintro (hsome | hskip)
    · obtain ⟨r, hr⟩ := Option.isSome_iff_exists.mp hsome
      have hfail := hf.1
      rw [rule?_eq_some_iff.mp hr] at hfail
      cases hfail
    · exact hf.2 hskip

instance : Decidable (Loadable disk skip p) := decidable_of_iff _ loadable_iff.symm

/-- A rule knows the file that it was read from. -/
theorem path_of_readRule {bytes : List UInt8} {r : Rule} (h : readRule p bytes = .ok r) :
    r.path = some p.text := by
  rw [readRule] at h
  rcases hbytes : Bytes.decode bytes with e | s
  · rw [hbytes] at h
    cases h
  · rw [hbytes] at h
    obtain ⟨r', -, hr⟩ := exists_of_bind_eq_ok h
    cases hr
    rfl

/-! ### Files one after the other -/

/-- The announcement of a file: its path and position, and how many files there are. -/
def Event.announced? : Event → Option (Path × Nat × Nat)
  | .loading p i total => some (p, i, total)
  | _ => none

/-- The files that are announced, in order. -/
def announced (events : List Event) : List (Path × Nat × Nat) := events.filterMap Event.announced?

/-- The announcements of files, the first of which has the given position. -/
def announcements (total i : Nat) (ps : List Path) : List (Path × Nat × Nat) :=
  (ps.zipIdx i).map fun x => (x.1, x.2, total)

theorem loadFrom_cons_of_fatal (total i : Nat) (ps : List Path) (h : Fatal disk skip p f) :
    loadFrom disk skip total i (p :: ps) = ([.loading p i total], .error f) := by
  obtain ⟨hf, hskip⟩ := h
  rw [loadFrom, ← content]
  rcases hr : readRule p (content disk p) with (e | f') | r
  · have hno : (skip && e.isUnsupported) = false := Bool.eq_false_iff.mpr fun hs => by
      obtain ⟨hs, he⟩ := Bool.and_eq_true_iff.mp hs
      exact hskip ⟨hs, unsupported_iff.mpr ⟨e, hr, he⟩⟩
    rw [hr] at hf
    cases hf
    simp [hno, Failure.map]
  · rw [hr] at hf
    cases hf
    rfl
  · rw [hr] at hf
    cases hf

theorem loadFrom_cons_of_loadable (total i : Nat) (ps : List Path) (h : Loadable disk skip p) :
    announced (loadFrom disk skip total i (p :: ps)).1 =
        (p, i, total) :: announced (loadFrom disk skip total (i + 1) ps).1 ∧
      (loadFrom disk skip total i (p :: ps)).2 =
        (loadFrom disk skip total (i + 1) ps).2.map ((rule? disk p).toList ++ ·) := by
  rw [loadFrom, ← content]
  rcases rule?_cases disk skip p with ⟨r, hr, hrule, -⟩ | ⟨e, hr, hskip, hrule, -⟩ | ⟨f, hf⟩
  · rw [hr, hrule]
    exact ⟨rfl, rfl⟩
  · rw [hr, hrule]
    dsimp only
    rw [if_pos hskip]
    refine ⟨rfl, ?_⟩
    rcases (loadFrom disk skip total (i + 1) ps).2 with f | rs <;> rfl
  · exact absurd hf (h f)

/-- The first fatal file is the last that is announced. -/
theorem loadFrom_of_fatal (total i : Nat) {before : List Path} (after : List Path)
    (hbefore : ∀ q ∈ before, Loadable disk skip q) (h : Fatal disk skip p f) :
    announced (loadFrom disk skip total i (before ++ p :: after)).1 =
        announcements total i (before ++ [p]) ∧
      (loadFrom disk skip total i (before ++ p :: after)).2 = .error f := by
  induction before generalizing i with
  | nil =>
    rw [List.nil_append, loadFrom_cons_of_fatal total i after h]
    exact ⟨rfl, rfl⟩
  | cons q before ih =>
    obtain ⟨hq, hbefore⟩ := List.forall_mem_cons.mp hbefore
    obtain ⟨hevents, hresult⟩ := ih (i + 1) hbefore
    obtain ⟨hstep, hstep'⟩ := loadFrom_cons_of_loadable total i (before ++ p :: after) hq
    rw [List.cons_append, hstep, hstep', hevents, hresult]
    exact ⟨rfl, rfl⟩

theorem loadFrom_of_loadable (total i : Nat) {ps : List Path}
    (h : ∀ q ∈ ps, Loadable disk skip q) :
    announced (loadFrom disk skip total i ps).1 = announcements total i ps ∧
      (loadFrom disk skip total i ps).2 = .ok (ps.filterMap (rule? disk)) := by
  induction ps generalizing i with
  | nil => exact ⟨rfl, rfl⟩
  | cons q ps ih =>
    obtain ⟨hq, hps⟩ := List.forall_mem_cons.mp h
    obtain ⟨hevents, hresult⟩ := ih (i + 1) hps
    obtain ⟨hstep, hstep'⟩ := loadFrom_cons_of_loadable total i ps hq
    rw [hstep, hstep', hevents, hresult, List.filterMap_cons]
    refine ⟨rfl, ?_⟩
    rcases rule? disk q with - | r <;> rfl

/-! ### All files -/

theorem announced_loadRules {paths : List Path} {found : Found} (skip : Bool)
    (h : collect disk paths = (found, none)) :
    announced (loadRules disk paths skip).1 =
        announced (loadFrom disk skip found.paths.length 0 found.paths).1 ∧
      (loadRules disk paths skip).2 =
        (loadFrom disk skip found.paths.length 0 found.paths).2.bind fun rs =>
          (RuleSet.ofRules rs).mapError fun p => .invalid (.set p) := by
  have hskipped : announced (found.skipped.map Event.skippedFile) = [] := by
    simp [announced, Event.announced?]
  rw [loadRules, h]
  refine ⟨?_, rfl⟩
  rw [announced, List.filterMap_append, ← announced, hskipped]
  rfl

theorem read_eq_content {paths : List Path} {found : Found} (hdisk : disk.root.Proper)
    (h : collect disk paths = (found, none)) :
    ∀ q ∈ found.paths, disk.read q = .ok (content disk q) := by
  intro q hq
  obtain ⟨bytes, hbytes⟩ := exists_read_of_collect hdisk h q hq
  rw [content, hbytes]
  rfl

/-- **Loading is all or nothing, apart from rules that are skipped.**  If a file is fatal,
loading ends with the failure of the first fatal file after the files up to it have been
announced.  If none is, all files are announced, the rules are those of the files that are
not skipped, in order and each with its own path, and they make the set that is loaded, or
no set.  All of the files are there to be read. -/
theorem loading_is_all_or_nothing {paths : List Path} {found : Found} (skip : Bool)
    (h : collect disk paths = (found, none)) :
    let loaded := loadRules disk paths skip
    let total := found.paths.length
    (disk.root.Proper → ∀ q ∈ found.paths, disk.read q = .ok (content disk q)) ∧
    (∀ before p after f, found.paths = before ++ p :: after →
      (∀ q ∈ before, Loadable disk skip q) → Fatal disk skip p f →
        announced loaded.1 = announcements total 0 (before ++ [p]) ∧ loaded.2 = .error f) ∧
    ((∀ q ∈ found.paths, Loadable disk skip q) →
      announced loaded.1 = announcements total 0 found.paths ∧
      (∀ q ∈ found.paths, (rule? disk q = none ↔ skip = true ∧ Unsupported disk q) ∧
        ∀ r, rule? disk q = some r → r.path = some q.text) ∧
      let rules := found.paths.filterMap (rule? disk)
      (∀ (hne : rules ≠ []) (hdistinct : RuleSet.DistinctIds rules),
        loaded.2 = .ok ⟨rules, hne, hdistinct⟩) ∧
      (rules = [] ∨ ¬ RuleSet.DistinctIds rules → ∃ p, loaded.2 = .error (.invalid (.set p)))) := by
  obtain ⟨hevents, hresult⟩ := announced_loadRules skip h
  refine ⟨fun hdisk => read_eq_content hdisk h, fun before p after f hpaths hbefore hf => ?_,
    fun hall => ?_⟩
  · obtain ⟨hrun, hend⟩ := loadFrom_of_fatal found.paths.length 0 after hbefore hf
    rw [← hpaths] at hrun hend
    rw [hevents, hresult, hrun, hend]
    exact ⟨rfl, rfl⟩
  · obtain ⟨hrun, hend⟩ := loadFrom_of_loadable found.paths.length 0 hall
    rw [hend] at hresult
    have hfile : ∀ q ∈ found.paths, rule? disk q = none ↔ skip = true ∧ Unsupported disk q := by
      intro q hq
      rcases rule?_cases disk skip q with ⟨r, -, hrule, hun⟩ | ⟨e, -, -, hrule, hs⟩ | ⟨f, hf⟩
      · simp [hrule, hun]
      · simp [hrule, hs]
      · exact absurd hf (hall q hq f)
    refine ⟨hevents.trans hrun, fun q hq => ⟨hfile q hq, fun r hr => ?_⟩, ?_, fun hno => ?_⟩
    · exact path_of_readRule (rule?_eq_some_iff.mp hr)
    · intro hne hdistinct
      have hset := RuleSet.ofRules_eq_ok_iff (s := ⟨_, hne, hdistinct⟩) |>.mpr rfl
      rw [hresult, Except.bind, hset]
      rfl
    · obtain ⟨p, hp⟩ := RuleSet.exists_ofRules_eq_error_iff.mpr hno
      exact ⟨p, by rw [hresult, Except.bind, hp]; rfl⟩

/-- A directory with two rules, and with two files that hold none. -/
def sampleDisk (once often : List UInt8) : Disk where
  root := .directory [("rules", .directory
    [("b.yml", .file often), ("a.yml", .file once), ("d.yml", .file []), ("c.yml", .file [255])])]

/-- The bytes of a rule with a condition. -/
def sampleBytes (condition : String) : List UInt8 :=
  ("title: User\ndetection:\n  words: whoami\n  condition: " ++ condition ++ "\n").toUTF8.toList

theorem collect_sampleDisk (once often : List UInt8) :
    collect (sampleDisk once often) [Path.parse "rules"] =
      (⟨["a.yml", "b.yml", "c.yml", "d.yml"].map (Path.parse "rules").child, []⟩, none) := by
  have hfind : (sampleDisk once often).find (Path.parse "rules") = .ok (.directory [
      ("b.yml", .file often), ("a.yml", .file once), ("d.yml", .file []),
      ("c.yml", .file [255])]) := rfl
  have hnames : ∀ name ∈ ["a.yml", "b.yml", "c.yml", "d.yml"], isRuleFile name = true := by
    decide
  simp only [List.forall_mem_cons] at hnames
  simp [collect, hfind, discover, discoverAll, Tree.isDirectory, byName, List.mergeSort, foundFile,
    hnames, Found.concat, Found.append]

/-- Of four files the second is skipped, and the third one ends the loading. -/
theorem sample_loading_is_all_or_nothing :
    let disk := sampleDisk (sampleBytes "words") (sampleBytes "words | count() > 5")
    let path := (Path.parse "rules").child
    let loaded := loadRules disk [Path.parse "rules"] true
    Unsupported disk (path "b.yml") ∧
      announced loaded.1 = [(path "a.yml", 0, 4), (path "b.yml", 1, 4), (path "c.yml", 2, 4)] ∧
      loaded.2 = .error (.invalid (.file (path "c.yml") (.notText ⟨.badStart, 0, 1, 255⟩))) := by
  intro disk path loaded
  have hskipped : Unsupported disk (path "b.yml") := by decide +kernel
  have hbefore : ∀ q ∈ ["a.yml", "b.yml"].map path, Loadable disk true q := by decide +kernel
  have hbytes : Bytes.decode (content disk (path "c.yml")) = .error ⟨.badStart, 0, 1, 255⟩ := by
    decide +kernel
  have hfatal : Fatal disk true (path "c.yml")
      (.invalid (.file (path "c.yml") (.notText ⟨.badStart, 0, 1, 255⟩))) := by
    refine ⟨by rw [readRule, hbytes]; rfl, ?_⟩
    rintro ⟨-, s, q, hs, -⟩
    rw [hbytes] at hs
    cases hs
  obtain ⟨-, hrun, -⟩ := loading_is_all_or_nothing true (collect_sampleDisk _ _)
  obtain ⟨hevents, hresult⟩ :=
    hrun (["a.yml", "b.yml"].map path) (path "c.yml") [path "d.yml"] _ rfl hbefore hfatal
  exact ⟨hskipped, hevents, hresult⟩

end SigmaRules.Loading
