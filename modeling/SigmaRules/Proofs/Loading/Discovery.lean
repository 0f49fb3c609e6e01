/-
SigmaRules/Proofs/Loading/Discovery.lean

What is found can be read.  In a tree in which the names of a directory tell apart what is in
it (`Tree.Proper`), the name of a child leads from the directory to it (`find_child`), so
each path that is found leads to a file.  Main statement: `exists_read_of_collect`.
-/
import Mathlib.Data.List.Nodup
import SigmaRules.Loading.Discovery

namespace SigmaRules

open Files

/-- In each directory names are distinct, and none is the one for the directory around. -/
inductive Files.Tree.Proper : Tree → Prop
  | file (bytes : List UInt8) : Proper (.file bytes)
  | directory {cs : List (String × Tree)} (distinct : (cs.map Prod.fst).Nodup)
      (down : ∀ c ∈ cs, c.1 ≠ "..") (children : ∀ c ∈ cs, Proper c.2) : Proper (.directory cs)

namespace Files.Disk

variable {t u : Tree} {cs : List (String × Tree)} {c : String × Tree} {d : Disk} {p q : Path}

/-! ### Following names -/

theorem mem_of_lookup {n : String} (h : cs.lookup n = some t) : (n, t) ∈ cs := by
  obtain ⟨before, after, rfl, -⟩ := List.lookup_eq_some_iff.mp h
  exact List.mem_append_right before List.mem_cons_self

theorem lookup_of_mem (h : (cs.map Prod.fst).Nodup) (hc : c ∈ cs) : cs.lookup c.1 = some c.2 := by
  obtain ⟨before, after, rfl⟩ := List.append_of_mem hc
  refine List.lookup_eq_some_iff.mpr ⟨before, after, rfl, fun b hb => ?_⟩
  rw [List.map_append, List.map_cons, List.nodup_append] at h
  exact bne_iff_ne.mpr (h.2.2 b.1 (List.mem_map_of_mem hb) c.1 List.mem_cons_self).symm

theorem proper_of_follow {around : List Tree} {ns : List String} (haround : ∀ a ∈ around, a.Proper)
    (ht : t.Proper) (h : follow around t ns = .ok u) : u.Proper := by
  induction around, t, ns using follow.induct with
  | case1 around t =>
    cases h
    exact ht
  | case2 => cases h
  | case3 n ns cs hn a as ih =>
    simp only [follow, hn, if_true] at h
    obtain ⟨ha, has⟩ := List.forall_mem_cons.mp haround
    exact ih has ha h
  | case4 n ns cs hn ih =>
    simp only [follow, hn, if_true] at h
    exact ih haround ht h
  | case5 around n ns cs hn c hc ih =>
    simp only [follow, hn, hc, if_false, Bool.false_eq_true] at h
    have ht' := ht
    rcases ht with - | ⟨-, -, hcs⟩
    exact ih (List.forall_mem_cons.mpr ⟨ht', haround⟩) (hcs _ (mem_of_lookup hc)) h
  | case6 around n ns cs hn hc => simp [follow, hn, hc] at h

theorem proper_of_find (hd : d.root.Proper) (h : d.find p = .ok t) : t.Proper :=
  proper_of_follow (List.forall_mem_nil _) hd h

/-- Where names lead to a directory, they lead on from there by the names in it. -/
theorem follow_child {around : List Tree} {ns : List String} {n : String}
    (h : follow around t ns = .ok (.directory cs)) (hn : n ≠ "..") (hu : cs.lookup n = some u) :
    follow around t (ns ++ [n]) = .ok u := by
  induction around, t, ns using follow.induct with
  | case1 around t =>
    cases h
    simp [follow, hn, hu]
  | case2 => cases h
  | case3 m ns cs hm a as ih =>
    simp only [follow, hm, if_true, List.cons_append] at h ⊢
    exact ih h
  | case4 m ns cs hm ih =>
    simp only [follow, hm, if_true, List.cons_append] at h ⊢
    exact ih h
  | case5 around m ns cs hm c hc ih =>
    simp only [follow, hm, hc, if_false, Bool.false_eq_true, List.cons_append] at h ⊢
    exact ih h
  | case6 around m ns cs hm hc => simp [follow, hm, hc] at h

/-- The name of what is in a directory leads from the directory to it. -/
theorem find_child (ht : (Tree.directory cs).Proper) (h : d.find p = .ok (.directory cs))
    (hc : c ∈ cs) : d.find (p.child c.1) = .ok c.2 := by
  rcases ht with - | ⟨hdistinct, hdown, -⟩
  have hnames : d.namesOf (p.child c.1) = d.namesOf p ++ [c.1] := by
    rw [namesOf, namesOf, Path.child]
    split <;> simp
  rw [find, hnames]
  exact follow_child h (hdown c hc) (lookup_of_mem hdistinct hc)

theorem read_of_find {bytes : List UInt8} (h : d.find p = .ok (.file bytes)) :
    d.read p = .ok bytes := by
  rw [read, h]

end Files.Disk

namespace Loading

open Files

variable {disk : Disk} {p q : Path} {t : Tree} {cs : List (String × Tree)}

/-! ### What is found -/

theorem paths_concat (fs : List Found) : (Found.concat fs).paths = fs.flatMap Found.paths := by
  induction fs with
  | nil => rfl
  | cons f fs ih => rw [List.flatMap_cons, ← ih]; rfl

theorem mem_byName {α : Type} {x : String × α} {xs : List (String × α)} : x ∈ byName xs ↔ x ∈ xs :=
  List.mem_mergeSort

theorem eq_child_of_mem_foundFile {name : String} (h : q ∈ (foundFile p name).paths) :
    q = p.child name := by
  rw [foundFile] at h
  split at h
  · exact List.mem_singleton.mp h
  · split at h <;> cases h

theorem exists_of_mem_discoverAll {x : String × Found} (h : x ∈ discoverAll p cs) :
    ∃ c ∈ cs, x.2 = discover (p.child c.1) c.2 := by
  induction cs with
  | nil => simp [discoverAll] at h
  | cons c cs ih =>
    have hrest (h : x ∈ discoverAll p cs) : ∃ c' ∈ c :: cs, x.2 = discover (p.child c'.1) c'.2 := by
      obtain ⟨c', hc', hx⟩ := ih h
      exact ⟨c', List.mem_cons_of_mem c hc', hx⟩
    rw [discoverAll] at h
    split at h
    · rcases List.mem_cons.mp h with rfl | h
      · exact ⟨c, List.mem_cons_self, rfl⟩
      · exact hrest h
    · exact hrest h

/-- A path that is found in a directory is that of a file in it or is found in a child. -/
theorem exists_of_mem_discover (h : q ∈ (discover p (.directory cs)).paths) : ∃ c ∈ cs,
    c.2.isDirectory = false ∧ q = p.child c.1 ∨ q ∈ (discover (p.child c.1) c.2).paths := by
  rw [discover, paths_concat, List.mem_flatMap] at h
  obtain ⟨f, hf, hq⟩ := h
  rcases List.mem_append.mp hf with hf | hf
  · obtain ⟨c, hc, rfl⟩ := List.mem_map.mp hf
    obtain ⟨hc, hfile⟩ := List.mem_filter.mp (mem_byName.mp hc)
    exact ⟨c, hc, .inl ⟨by simpa using hfile, eq_child_of_mem_foundFile hq⟩⟩
  · obtain ⟨x, hx, rfl⟩ := List.mem_map.mp hf
    obtain ⟨c, hc, hx⟩ := exists_of_mem_discoverAll (mem_byName.mp hx)
    exact ⟨c, hc, .inr (hx ▸ hq)⟩

/-- What is found in a tree can be read. -/
theorem exists_read_of_discover (ht : t.Proper) (hp : disk.find p = .ok t)
    (hq : q ∈ (discover p t).paths) : ∃ bytes, disk.read q = .ok bytes := by
  induction ht generalizing p with
  | file bytes => simp [discover] at hq
  | directory hdistinct hdown hcs ih =>
    obtain ⟨c, hc, hq⟩ := exists_of_mem_discover hq
    have hfind := Disk.find_child (.directory hdistinct hdown hcs) hp hc
    rcases hq with ⟨hfile, rfl⟩ | hq
    · rcases hchild : c.2 with bytes | ds
      · exact ⟨bytes, Disk.read_of_find (hfind.trans (congrArg _ hchild))⟩
      · simp [hchild, Tree.isDirectory] at hfile
    · exact ih c hc hfind hq

/-- **Paths that are found lead to files.**  None of the files that are to be loaded is missing
or a directory. -/
theorem exists_read_of_collect {paths : List Path} {found : Found} {missing : Option Path}
    (hdisk : disk.root.Proper) (h : collect disk paths = (found, missing)) :
    ∀ q ∈ found.paths, ∃ bytes, disk.read q = .ok bytes := by
  induction paths generalizing found with
  | nil =>
    cases h
    exact List.forall_mem_nil _
  | cons p paths ih =>
    rw [collect] at h
    rcases hfind : disk.find p with e | t
    · rw [hfind] at h
      cases h
      exact List.forall_mem_nil _
    · rw [hfind] at h
      obtain ⟨rest, missing', hrest⟩ : ∃ rest missing', collect disk paths = (rest, missing') :=
        ⟨_, _, rfl⟩
      rw [hrest] at h
      cases h
      intro q hq
      rcases List.mem_append.mp hq with hq | hq
      · rcases t with bytes | cs
        · rw [List.mem_singleton.mp hq]
          exact ⟨bytes, Disk.read_of_find hfind⟩
        · exact exists_read_of_discover (Disk.proper_of_find hdisk hfind) hfind hq
      · exact ih hrest q hq

end Loading

end SigmaRules
