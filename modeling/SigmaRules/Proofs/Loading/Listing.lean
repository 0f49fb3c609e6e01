/-
SigmaRules/Proofs/Loading/Listing.lean

Which files a walk finds, and in which order.  A file that holds rules is told by the names
that lead to it from the directory where the walk begins (`HoldsRules`).  Such names have an
order (`Precedes`): the files of a directory, by their names, come before all that is in its
subdirectories, and the subdirectories follow, by their names.  A list that has each of the
files once and in this order is a `Listing` of the tree, and there is only one
(`Listing.unique`).

A walk goes through the files of a directory and then through its subdirectories
(`paths_discover`), so it gives a listing by induction on the tree (`exists_listing`).  Main
statement: `collect_lists_rules_once`.
-/
import Mathlib.Data.List.Sort
import Mathlib.Data.String.Basic
import SigmaRules.Proofs.Loading.Discovery

namespace SigmaRules

namespace Files

/-- The path that leads on by names. -/
def Path.below (p : Path) (ns : List String) : Path := { p with names := p.names ++ ns }

/-- Names lead from a tree to one in it. -/
inductive Tree.LeadsTo : Tree → List String → Tree → Prop
  | here (t : Tree) : LeadsTo t [] t
  | child {cs : List (String × Tree)} {c : String × Tree} {ns : List String} {u : Tree}
      (hc : c ∈ cs) (h : LeadsTo c.2 ns u) : LeadsTo (.directory cs) (c.1 :: ns) u

theorem Path.child_below (p : Path) (n : String) (ns : List String) :
    (p.child n).below ns = p.below (n :: ns) := by
  simp [child, below]

/-- Only a directory leads on. -/
theorem Tree.LeadsTo.isDirectory {t u : Tree} {ns : List String} (h : t.LeadsTo ns u)
    (hns : ns ≠ []) : t.isDirectory = true := by
  cases h with
  | here => exact absurd rfl hns
  | child => rfl

end Files

namespace Loading

open Files

variable {disk : Disk} {p : Path} {t : Tree} {cs : List (String × Tree)} {ms ns : List String}
  {mss nss : List (List String)}

/-! ### Files with rules, and their order -/

/-- The names lead to a file that is expected to hold rules: its name ends in `.yml` or
`.yaml`, and none of the directories on the way has a name that begins with `.git`. -/
def HoldsRules (t : Tree) (ns : List String) : Prop :=
  ∃ dirs name bytes, ns = dirs ++ [name] ∧ t.LeadsTo ns (.file bytes) ∧
    (".yml".toList <:+ name.toList ∨ ".yaml".toList <:+ name.toList) ∧
    ∀ d ∈ dirs, ¬ ".git".toList <+: d.toList

/-- The order of files below a directory. -/
inductive Precedes : List String → List String → Prop
  /-- The files of a directory are in the order of their names. -/
  | files {a b : String} (h : a < b) : Precedes [a] [b]
  /-- They come before all that is in a subdirectory. -/
  | above {a b : String} {ns : List String} (hns : ns ≠ []) : Precedes [a] (b :: ns)
  /-- What is in subdirectories is in the order of their names. -/
  | beside {a b : String} {ms ns : List String} (hms : ms ≠ []) (hns : ns ≠ []) (h : a < b) :
      Precedes (a :: ms) (b :: ns)
  /-- The same order holds within a subdirectory. -/
  | within {a : String} {ms ns : List String} (h : Precedes ms ns) : Precedes (a :: ms) (a :: ns)

/-- Each of the files with rules that are in a tree, once and in order. -/
structure Listing (t : Tree) (nss : List (List String)) : Prop where
  exact : ∀ ns, ns ∈ nss ↔ HoldsRules t ns
  once : nss.Nodup
  ordered : nss.Pairwise Precedes

namespace Precedes

theorem ne_nil (h : Precedes ms ns) : ms ≠ [] ∧ ns ≠ [] := by
  cases h <;> simp

/-- No two names precede each other. -/
theorem asymm (h : Precedes ms ns) : ¬ Precedes ns ms := by
  intro h'
  induction h with
  | files hab =>
    cases h' with
    | files hba => exact lt_asymm hab hba
    | above hns | beside hns => exact hns rfl
    | within h => exact h.ne_nil.1 rfl
  | above hns =>
    cases h' with
    | files | above => exact hns rfl
    | beside _ hnil => exact hnil rfl
    | within h => exact h.ne_nil.2 rfl
  | beside hms hns hab =>
    cases h' with
    | files | above => exact hns rfl
    | beside _ _ hba => exact lt_asymm hab hba
    | within => exact lt_irrefl _ hab
  | within h ih =>
    cases h' with
    | files hlt | beside _ _ hlt => exact lt_irrefl _ hlt
    | above hms => exact h.ne_nil.2 rfl
    | within h' => exact ih h'

instance : Std.Irrefl Precedes := ⟨fun _ h => h.asymm h⟩

end Precedes

/-- A tree has one listing at most. -/
theorem Listing.unique (h : Listing t mss) (h' : Listing t nss) : mss = nss := by
  have hperm : mss.Perm nss :=
    (List.perm_ext_iff_of_nodup h.once h'.once).mpr fun ns => (h.exact ns).trans (h'.exact ns).symm
  exact hperm.eq_of_pairwise (fun _ _ _ _ hms hns => absurd hns hms.asymm) h.ordered h'.ordered

/-! ### Directories, one at a time -/

theorem isRuleFile_iff {name : String} : isRuleFile name = true ↔
    ".yml".toList <:+ name.toList ∨ ".yaml".toList <:+ name.toList := by
  simp [isRuleFile, endsWith]

theorem isHidden_eq_false_iff {name : String} :
    isHidden name = false ↔ ¬ ".git".toList <+: name.toList := by
  simp [isHidden, startsWith, ← Bool.not_eq_true]

/-- No file is found in a file. -/
theorem not_holdsRules_file (bytes : List UInt8) : ¬ HoldsRules (.file bytes) ns := by
  rintro ⟨dirs, name, bytes', rfl, hleads, -⟩
  have hdir := hleads.isDirectory (by simp)
  cases hdir

/-- Files with rules are in a directory itself, or in a subdirectory that is not hidden. -/
theorem holdsRules_directory_iff : HoldsRules (.directory cs) ns ↔
    (∃ c ∈ cs, c.2.isDirectory = false ∧ isRuleFile c.1 = true ∧ ns = [c.1]) ∨
      ∃ c ∈ cs, c.2.isDirectory = true ∧ isHidden c.1 = false ∧
        ∃ ms, HoldsRules c.2 ms ∧ ns = c.1 :: ms := by
  constructor
  · rintro ⟨dirs, name, bytes, rfl, hleads, hname, hdirs⟩
    rcases dirs with - | ⟨d, dirs⟩
    · cases hleads with
      | @child _ c _ _ hc h =>
        have hfile : c.2.isDirectory = false := by
          generalize c.2 = u at h
          cases h
          rfl
        exact .inl ⟨c, hc, hfile, isRuleFile_iff.mpr hname, rfl⟩
    · cases hleads with
      | @child _ c _ _ hc h =>
        obtain ⟨hvisible, hrest⟩ := List.forall_mem_cons.mp hdirs
        exact .inr ⟨c, hc, h.isDirectory (by simp), isHidden_eq_false_iff.mpr hvisible, _,
          ⟨dirs, name, bytes, rfl, h, hname, hrest⟩, rfl⟩
  · rintro (⟨c, hc, hfile, hname, rfl⟩ | ⟨c, hc, -, hvisible, ms, hms, rfl⟩)
    · obtain ⟨name, bytes | ds⟩ := c
      · exact ⟨[], name, bytes, rfl, .child hc (.here _), isRuleFile_iff.mp hname,
          List.forall_mem_nil _⟩
      · cases hfile
    · obtain ⟨dirs, name, bytes, rfl, hleads, hname, hdirs⟩ := hms
      exact ⟨c.1 :: dirs, name, bytes, rfl, .child hc hleads, hname,
        List.forall_mem_cons.mpr ⟨isHidden_eq_false_iff.mp hvisible, hdirs⟩⟩

/-! ### The walk -/

/-- Distinct names are sorted strictly. -/
theorem pairwise_byName {α : Type} {xs : List (String × α)} (h : (xs.map Prod.fst).Nodup) :
    (byName xs).Pairwise fun a b => a.1 < b.1 := by
  have hsorted : (byName xs).Pairwise fun a b => a.1 ≤ b.1 := by
    refine (List.pairwise_mergeSort ?_ ?_ xs).imp of_decide_eq_true
    · exact fun a b c hab hbc => by simpa using le_trans (by simpa using hab) (by simpa using hbc)
    · exact fun a b => by simpa using le_total a.1 b.1
  have hdistinct : (byName xs).Pairwise fun a b => a.1 ≠ b.1 :=
    List.pairwise_map.mp (((List.mergeSort_perm xs _).map Prod.fst).nodup_iff.mpr h)
  exact hsorted.imp₂ (fun _ _ => lt_of_le_of_ne) hdistinct

/-- Sorting by names does not look at what is named. -/
theorem map_byName {α β : Type} (f : String × α → β) (xs : List (String × α)) :
    (byName xs).map (fun c => (c.1, f c)) = byName (xs.map fun c => (c.1, f c)) :=
  List.map_mergeSort fun _ _ _ _ => rfl

theorem discoverAll_eq_map (p : Path) (cs : List (String × Tree)) :
    discoverAll p cs = (cs.filter fun c => c.2.isDirectory && !isHidden c.1).map fun c =>
      (c.1, discover (p.child c.1) c.2) := by
  induction cs with
  | nil => rfl
  | cons c cs ih =>
    rw [discoverAll, List.filter_cons, ih]
    split <;> rfl

/-- The files of a directory in which rules are expected, in order. -/
def ruleFiles (cs : List (String × Tree)) : List (String × Tree) :=
  (byName (cs.filter fun c => !c.2.isDirectory)).filter fun c => isRuleFile c.1

/-- The subdirectories of a directory that are walked through, in order. -/
def visibleDirectories (cs : List (String × Tree)) : List (String × Tree) :=
  byName (cs.filter fun c => c.2.isDirectory && !isHidden c.1)

theorem flatMap_foundFile (p : Path) (xs : List (String × Tree)) :
    xs.flatMap (fun c => (foundFile p c.1).paths)
      = (xs.filter fun c => isRuleFile c.1).map fun c => p.child c.1 := by
  induction xs with
  | nil => rfl
  | cons c xs ih =>
    rw [List.flatMap_cons, ih, List.filter_cons, foundFile]
    split
    · rfl
    · split <;> rfl

/-- **A walk through a directory** gives its files and then what is found in its
subdirectories. -/
theorem paths_discover (p : Path) (cs : List (String × Tree)) :
    (discover p (.directory cs)).paths = (ruleFiles cs).map (fun c => p.child c.1) ++
      (visibleDirectories cs).flatMap fun c => (discover (p.child c.1) c.2).paths := by
  have hfiles : ((byName (cs.filter fun c => !c.2.isDirectory)).map fun c =>
      foundFile p c.1).flatMap Found.paths = (ruleFiles cs).map fun c => p.child c.1 := by
    rw [List.flatMap_map, flatMap_foundFile, ruleFiles]
  have hdirs : ((byName (discoverAll p cs)).map (·.2)).flatMap Found.paths
      = (visibleDirectories cs).flatMap fun c => (discover (p.child c.1) c.2).paths := by
    rw [discoverAll_eq_map, ← map_byName, List.map_map, List.flatMap_map]
    rfl
  rw [discover, paths_concat, List.flatMap_append, hfiles, hdirs]

theorem mem_ruleFiles {c : String × Tree} :
    c ∈ ruleFiles cs ↔ c ∈ cs ∧ c.2.isDirectory = false ∧ isRuleFile c.1 = true := by
  simp [ruleFiles, mem_byName, and_assoc]

theorem mem_visibleDirectories {c : String × Tree} :
    c ∈ visibleDirectories cs ↔ c ∈ cs ∧ c.2.isDirectory = true ∧ isHidden c.1 = false := by
  simp [visibleDirectories, mem_byName]

theorem nodup_filter {q : String × Tree → Bool} (h : (cs.map Prod.fst).Nodup) :
    ((cs.filter q).map Prod.fst).Nodup :=
  h.sublist (List.filter_sublist.map Prod.fst)

/-- Listings of the subdirectories make a listing of the directory. -/
theorem Listing.directory {sub : String × Tree → List (List String)}
    (hdistinct : (cs.map Prod.fst).Nodup) (h : ∀ c ∈ cs, Listing c.2 (sub c)) :
    Listing (.directory cs) ((ruleFiles cs).map (fun c => [c.1]) ++
      (visibleDirectories cs).flatMap fun c => (sub c).map (c.1 :: ·)) := by
  have hsub : ∀ c ∈ visibleDirectories cs, Listing c.2 (sub c) :=
    fun c hc => h c (mem_visibleDirectories.mp hc).1
  have hne : ∀ c ∈ visibleDirectories cs, ∀ ns ∈ sub c, ns ≠ [] := by
    intro c hc ns hns
    obtain ⟨dirs, name, -, rfl, -⟩ := ((hsub c hc).exact ns).mp hns
    simp
  have hordered : List.Pairwise Precedes ((ruleFiles cs).map (fun c => [c.1]) ++
      (visibleDirectories cs).flatMap fun c => (sub c).map (c.1 :: ·)) := by
    refine List.pairwise_append.mpr ⟨?files, List.pairwise_flatMap.mpr ⟨?within, ?beside⟩, ?above⟩
    case files =>
      refine List.pairwise_map.mpr (List.Pairwise.imp .files ?_)
      exact (pairwise_byName (nodup_filter hdistinct)).filter _
    case within =>
      exact fun c hc => List.pairwise_map.mpr ((hsub c hc).ordered.imp .within)
    case beside =>
      refine List.Pairwise.imp_of_mem ?_ (pairwise_byName (nodup_filter hdistinct))
      intro c d hc hd hlt _ hc' _ hd'
      obtain ⟨ms, hms, rfl⟩ := List.mem_map.mp hc'
      obtain ⟨ns, hns, rfl⟩ := List.mem_map.mp hd'
      exact .beside (hne c hc ms hms) (hne d hd ns hns) hlt
    case above =>
      intro _ hfile _ hbelow
      obtain ⟨c, -, rfl⟩ := List.mem_map.mp hfile
      obtain ⟨d, hd, hd'⟩ := List.mem_flatMap.mp hbelow
      obtain ⟨ns, hns, rfl⟩ := List.mem_map.mp hd'
      exact .above (hne d hd ns hns)
  refine ⟨fun ns => ?_, hordered.nodup, hordered⟩
  rw [holdsRules_directory_iff, List.mem_append]
  refine or_congr ?_ ?_
  · simp only [List.mem_map, mem_ruleFiles, and_assoc, eq_comm]
  · simp only [List.mem_flatMap, List.mem_map, mem_visibleDirectories, and_assoc]
    refine exists_congr fun c => and_congr_right fun hc => and_congr_right fun _ =>
      and_congr_right fun _ => exists_congr fun ms => ?_
    rw [(h c hc).exact, eq_comm (a := ns)]

/-- **A walk gives a listing**, which does not depend on where it begins. -/
theorem exists_listing (ht : t.Proper) :
    ∃ nss, Listing t nss ∧ ∀ p, (discover p t).paths = nss.map p.below := by
  induction ht with
  | file bytes =>
    refine ⟨[], ⟨fun ns => ?_, List.nodup_nil, .nil⟩, fun p => rfl⟩
    simpa using not_holdsRules_file bytes
  | @directory cs hdistinct _ _ ih =>
    -- the listings of the subdirectories hold for any path, so they can be chosen beforehand
    choose! sub hsub hpaths using ih
    refine ⟨_, Listing.directory hdistinct hsub, fun p => ?_⟩
    rw [paths_discover, List.map_append, List.map_map, List.map_flatMap]
    refine congrArg _ (List.flatMap_congr fun c hc => ?_)
    rw [hpaths c (mem_visibleDirectories.mp hc).1, List.map_map]
    exact List.map_congr_left fun ns _ => Path.child_below p c.1 ns

/-! ### All paths -/

/-- What there is to be found at a path: the file itself, whatever its name, or the files
with rules that are below the directory. -/
inductive FoundAt (disk : Disk) : Path → List Path → Prop
  | file {p : Path} {bytes : List UInt8} (h : disk.find p = .ok (.file bytes)) : FoundAt disk p [p]
  | directory {p : Path} {cs : List (String × Tree)} {nss : List (List String)}
      (h : disk.find p = .ok (.directory cs)) (hlist : Listing (.directory cs) nss) :
      FoundAt disk p (nss.map p.below)

theorem rightUnique_foundAt : Relator.RightUnique (FoundAt disk) := by
  intro p qs rs h h'
  cases h with
  | file hfind =>
    cases h' with
    | file => rfl
    | directory hfind' => cases hfind.symm.trans hfind'
  | directory hfind hlist =>
    cases h' with
    | file hfind' => cases hfind.symm.trans hfind'
    | directory hfind' hlist' =>
      cases hfind.symm.trans hfind'
      rw [hlist.unique hlist']

/-- What is found at a path comes before what is found at the paths after it. -/
theorem exists_collect_cons (hdisk : disk.root.Proper) (h : disk.find p = .ok t)
    {paths : List Path} {found : Found} (hrest : collect disk paths = (found, none)) :
    ∃ qs skipped, FoundAt disk p qs ∧
      collect disk (p :: paths) = (⟨qs ++ found.paths, skipped⟩, none) := by
  rw [collect, h, hrest]
  rcases t with bytes | cs
  · exact ⟨[p], _, .file h, rfl⟩
  · obtain ⟨nss, hlist, hpaths⟩ := exists_listing (Disk.proper_of_find hdisk h)
    refine ⟨_, (discover p (.directory cs)).skipped ++ found.skipped, .directory h hlist, ?_⟩
    rw [← hpaths p]
    rfl

/-- **Rules are found once, and in a fixed order.**  If all paths lead somewhere, what is found
is one list for each of them, in the order in which they are given: a file itself, or the
listing of a directory.  There are no other lists of this kind. -/
theorem collect_lists_rules_once (hdisk : disk.root.Proper) {paths : List Path}
    (hpaths : ∀ p ∈ paths, ∃ t, disk.find p = .ok t) :
    ∃ lists skipped, collect disk paths = (⟨lists.flatten, skipped⟩, none) ∧
      List.Forall₂ (FoundAt disk) paths lists ∧
      ∀ others, List.Forall₂ (FoundAt disk) paths others → others = lists := by
  have hlists : ∃ lists skipped, collect disk paths = (⟨lists.flatten, skipped⟩, none) ∧
      List.Forall₂ (FoundAt disk) paths lists := by
    induction paths with
    | nil => exact ⟨[], [], rfl, .nil⟩
    | cons p paths ih =>
      obtain ⟨⟨t, ht⟩, hrest⟩ := List.forall_mem_cons.mp hpaths
      obtain ⟨lists, skipped, hcollect, hfound⟩ := ih hrest
      obtain ⟨qs, skipped', hqs, hcons⟩ := exists_collect_cons hdisk ht hcollect
      exact ⟨qs :: lists, skipped', hcons, .cons hqs hfound⟩
  obtain ⟨lists, skipped, hcollect, hfound⟩ := hlists
  exact ⟨lists, skipped, hcollect, hfound, fun others hothers =>
    rightUnique_foundAt.forall₂ hothers hfound⟩

/-- The statement at a file and a directory with rules two levels down, beside a file of another
kind and a directory that is hidden. -/
theorem sample_listing :
    let hidden : Tree := .directory [("ci.yml", .file [])]
    let linux : Tree := .directory [("deep", .directory [("x.yml", .file [])])]
    let windows : Tree := .directory [("b.yml", .file []), ("a.yaml", .file [])]
    let rules : List (String × Tree) := [("windows", windows), ("z.yml", .file []),
      ("notes.md", .file []), (".github", hidden), ("linux", linux)]
    let disk : Disk := { root := .directory [("rules", .directory rules), ("one.txt", .file [])] }
    let p := Path.parse "rules"
    let paths := [Path.parse "one.txt", p]
    disk.root.Proper ∧ (∀ p ∈ paths, ∃ t, disk.find p = .ok t) ∧
      ∃ lists, List.Forall₂ (FoundAt disk) paths lists ∧
        lists.flatten = ["one.txt", "rules/z.yml", "rules/linux/deep/x.yml",
          "rules/windows/a.yaml", "rules/windows/b.yml"].map Path.parse := by
  intro hidden linux windows rules disk p paths
  have hfile : ∀ n : String, n ≠ ".." → (Tree.directory [(n, .file [])]).Proper := by
    intro n hn
    exact .directory (by simp) (by simpa using hn) (by simpa using .file [])
  have hlinux : linux.Proper :=
    .directory (by decide) (by decide) (by simpa [linux] using hfile "x.yml" (by decide))
  have hwindows : windows.Proper :=
    .directory (by decide) (by decide) (by simpa [windows] using .file [])
  have hrules : (Tree.directory rules).Proper := by
    refine .directory (by decide) (by decide) ?_
    simp only [rules, List.forall_mem_cons]
    exact ⟨hwindows, .file [], .file [], hfile "ci.yml" (by decide), hlinux,
      List.forall_mem_nil _⟩
  have hproper : disk.root.Proper :=
    .directory (by decide) (by decide) (by simpa using ⟨hrules, .file []⟩)
  have hpaths : ∀ p ∈ paths, ∃ t, disk.find p = .ok t := by
    refine List.forall_mem_cons.mpr ⟨⟨.file [], rfl⟩, List.forall_mem_singleton.mpr ?_⟩
    exact ⟨.directory rules, rfl⟩
  obtain ⟨lists, skipped, hcollect, hlists, -⟩ := collect_lists_rules_once hproper hpaths
  have hone : disk.find (Path.parse "one.txt") = .ok (.file []) := rfl
  have hall : disk.find p = .ok (.directory rules) := rfl
  have hnames : ∀ n ∈ ["z.yml", "x.yml", "a.yaml", "b.yml"], isRuleFile n = true := by decide
  have hnotes : isRuleFile "notes.md" = false := by decide
  have hvisible : ∀ n ∈ ["windows", "linux", "deep"], isHidden n = false := by decide
  have hhidden : isHidden ".github" = true := by decide
  simp only [List.forall_mem_cons] at hnames hvisible
  have hfound : (collect disk paths).1.paths = [Path.parse "one.txt", p.child "z.yml",
      ((p.child "linux").child "deep").child "x.yml", (p.child "windows").child "a.yaml",
      (p.child "windows").child "b.yml"] := by
    simp [collect, paths, p, hone, hall, Found.append, paths_discover, ruleFiles,
      visibleDirectories, byName, List.mergeSort, rules, windows, linux, Tree.isDirectory, hnames,
      hnotes, hvisible, hhidden]
  refine ⟨hproper, hpaths, lists, hlists, ?_⟩
  rw [hcollect] at hfound
  exact hfound.trans (by decide)

end Loading

end SigmaRules
