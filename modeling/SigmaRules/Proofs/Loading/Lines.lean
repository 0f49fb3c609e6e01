/-
SigmaRules/Proofs/Loading/Lines.lean

Which lines reading a log tells of: those of its entries, and the one that it stops at.
Lines that are read one after the other have increasing numbers (`forward_readLines`), and
each entry is the one of its line (`exists_line_of_mem_entries`).

For files that may be compressed this has one exception.  Data that begin as compressed
ones can turn out to be none after entries have been read.  Then reading starts over with
the file as it is, and stops at its first line, which points before the entries
(`StartsOver`).  In all other cases the numbers go forward (`lines_go_forward_iff`).
-/
import SigmaRules.Proofs.Loading.Entries

namespace SigmaRules.Loading

variable {d : Depths}

/-! ### Lines -/

/-- The line that reading stops at. -/
def EntryStop.line? : EntryStop → Option Nat
  | .line number _ => some number
  | .fault _ => none

/-- The lines that are told of: those of the entries, and then the one at which reading stops. -/
def Entries.reported (r : Entries) : List Nat :=
  r.entries.map (·.1) ++ (r.stop.bind EntryStop.line?).toList

/-- The numbers increase, and none of them is lower than the first one allowed. -/
structure Forward (first : Nat) (numbers : List Nat) : Prop where
  increasing : numbers.Pairwise (· < ·)
  first_le : ∀ n ∈ numbers, first ≤ n

namespace Forward

variable {first : Nat} {numbers : List Nat}

theorem nil (first : Nat) : Forward first [] := ⟨.nil, nofun⟩

theorem cons (h : Forward (first + 1) numbers) : Forward first (first :: numbers) where
  increasing := List.pairwise_cons.mpr ⟨fun n hn => h.first_le n hn, h.increasing⟩
  first_le := List.forall_mem_cons.mpr
    ⟨Nat.le_refl first, fun n hn => Nat.le_of_succ_le (h.first_le n hn)⟩

theorem of_succ (h : Forward (first + 1) numbers) : Forward first numbers where
  increasing := h.increasing
  first_le n hn := Nat.le_of_succ_le (h.first_le n hn)

end Forward

/-- A line that holds no entry is reported under its own number, if it is reported. -/
theorem forward_of_readLine {number : Nat} {line : List UInt8} {stop : EntryStop}
    (h : readLine d number line = .error stop) : Forward number stop.line?.toList := by
  simp only [readLine] at h
  split at h
  · cases h
  split at h
  case h_1 es _ =>
    rcases he : Entry.ofRecord d.value es with f | e <;> rw [he] at h
    · obtain rfl := Except.error.inj h
      exact Forward.nil number
    · cases h
  all_goals obtain rfl := Except.error.inj h
  case h_2 | h_3 => exact (Forward.nil _).cons
  case h_4 | h_5 => exact Forward.nil number

/-- **Lines have increasing numbers**, that of the line at which reading stops included. -/
theorem forward_readLines (d : Depths) (number : Nat) (lines : List (List UInt8)) :
    Forward number (readLines d number lines).reported := by
  induction lines generalizing number with
  | nil => exact Forward.nil number
  | cons line rest ih =>
    rw [readLines]
    rcases hline : readLine d number line with stop | - | e
    · exact forward_of_readLine hline
    · exact (ih (number + 1)).of_succ
    · exact (ih (number + 1)).cons

/-- An entry is the one of its line. -/
theorem exists_line_of_mem_entries {number : Nat} {lines : List (List UInt8)} {x : Nat × Entry}
    (hx : x ∈ (readLines d number lines).entries) :
    ∃ i line, lines[i]? = some line ∧ x.1 = number + i ∧ readLine d x.1 line = .ok (some x.2) := by
  induction lines generalizing number with
  | nil => cases hx
  | cons line rest ih =>
    rw [readLines] at hx
    have hlater : x ∈ (readLines d (number + 1) rest).entries → ∃ i l, (line :: rest)[i]? = some l ∧
        x.1 = number + i ∧ readLine d x.1 l = .ok (some x.2) := by
      intro hmem
      obtain ⟨i, l, hl, hi, hread⟩ := ih hmem
      exact ⟨i + 1, l, hl, by omega, hread⟩
    rcases hline : readLine d number line with stop | - | e <;> rw [hline] at hx
    · cases hx
    · exact hlater hx
    · rcases List.mem_cons.mp hx with rfl | hmem
      · exact ⟨0, line, rfl, rfl, hline⟩
      · exact hlater hmem

/-- Reading lines does not stop if all of them hold entries or are blank. -/
theorem stop_readLines_eq_none_iff {number : Nat} {lines : List (List UInt8)} :
    (readLines d number lines).stop = none ↔ ∀ line ∈ lines, holdsEntry d line = true := by
  have hstop := stopsIn_readLines d number lines
  unfold StopsIn at hstop
  rcases hfind : lines.find? (!holdsEntry d ·) with - | line <;> rw [hfind] at hstop
  · exact iff_of_true hstop (by simpa using hfind)
  · refine iff_of_false ?_ fun h => ?_
    · have hline : StopsAt d line (readLines d number lines).stop := hstop
      unfold StopsAt at hline
      split at hline
      · simp [hline]
      · obtain ⟨n, p, -, hline⟩ := hline
        simp [hline]
    · have hno := List.find?_some hfind
      simp [h line (List.mem_of_find?_eq_some hfind)] at hno

theorem readLine_of_holdsEntry {line : List UInt8} (number : Nat) (h : holdsEntry d line = true) :
    (readLine d number line = .ok none ∧ (stripBytes line).isEmpty = true) ∨
      ∃ e, readLine d number line = .ok (some e) ∧ (stripBytes line).isEmpty = false := by
  simp only [holdsEntry, readLine] at h ⊢
  rcases hblank : (stripBytes line).isEmpty with - | -
  · rw [hblank] at h
    split at h
    case h_1 es hread =>
      rcases he : Entry.ofRecord d.value es with f | e
      · rw [he] at h
        cases h
      · exact .inr ⟨e, by simp [hread, he, Except.map, Except.mapError], rfl⟩
    case h_2 => cases h
  · exact .inl ⟨by simp, rfl⟩

/-- Lines that are read to the end have an entry if they are not all blank. -/
theorem entries_readLines_eq_nil_iff {number : Nat} {lines : List (List UInt8)}
    (h : ∀ line ∈ lines, holdsEntry d line = true) :
    (readLines d number lines).entries = [] ↔ ∀ line ∈ lines, (stripBytes line).isEmpty = true := by
  induction lines generalizing number with
  | nil => simp [readLines]
  | cons line rest ih =>
    obtain ⟨hline, hrest⟩ := List.forall_mem_cons.mp h
    rw [readLines, List.forall_mem_cons]
    rcases readLine_of_holdsEntry number hline with ⟨hread, hblank⟩ | ⟨e, hread, hblank⟩
    · simp [hread, hblank, ih hrest]
    · simp [hread, hblank]

/-! ### Files -/

/-- The bytes that are read as lines: what the file holds compressed, if it begins as compressed
files do, or else what it is. -/
def textOf : List UInt8 → List UInt8
  | 0x1F :: 0x8B :: rest => (Bytes.Gzip.read (0x1F :: 0x8B :: rest)).bytes
  | bytes => bytes

/-- Reading starts over: data that begin as compressed ones turn out to be none, when all whole
lines in them have been read, and not all of these are blank. -/
def StartsOver (d : Depths) (bytes : List UInt8) : Prop :=
  let content := Bytes.Gzip.read bytes
  let whole := (linesOf content.bytes).dropLast
  content.ending = .notGzip ∧ (∀ line ∈ whole, holdsEntry d line = true) ∧
    ¬ ∀ line ∈ whole, (stripBytes line).isEmpty = true

instance (bytes : List UInt8) : Decidable (StartsOver d bytes) :=
  inferInstanceAs (Decidable (_ ∧ _ ∧ _))

theorem textOf_cases (bytes : List UInt8) :
    bytes = [] ∨ (∃ rest, bytes = 0x1F :: 0x8B :: rest) ∨
      Bytes.Gzip.read bytes = ⟨[], .notGzip⟩ ∧ textOf bytes = bytes := by
  by_cases hmagic : ∃ rest, bytes = 0x1F :: 0x8B :: rest
  · exact .inr (.inl hmagic)
  rw [not_exists] at hmagic
  rcases bytes with - | ⟨b, bs⟩
  · exact .inl rfl
  refine .inr (.inr ⟨?_, ?_⟩)
  · rw [Bytes.Gzip.read]
    unfold Bytes.Gzip.members
    split
    case h_1 h => cases h
    case h_2 rest h => exact absurd h (hmagic rest)
    case h_3 => rfl
  · unfold textOf
    split
    case h_1 rest h => exact absurd h (hmagic rest)
    case h_2 => rfl

theorem followedBy_nothing (r : Entries) : r.followedBy ⟨[], none⟩ = r := by
  rw [Entries.followedBy]
  split
  · rfl
  case h_2 h => rw [List.append_nil, ← h]

theorem entries_followedBy_stop (r : Entries) (last : Option EntryStop) :
    (r.followedBy ⟨[], last⟩).entries = r.entries := by
  rw [Entries.followedBy]
  split
  · rfl
  · exact List.append_nil _

/-- What is told of lines before the end of the data is told at a later end, too. -/
theorem reported_followedBy_stop (r : Entries) (last : Option EntryStop) :
    (r.followedBy ⟨[], last⟩).reported
      = r.reported ++ (if r.stop = none then (last.bind EntryStop.line?).toList else []) := by
  rw [Entries.followedBy]
  rcases hstop : r.stop with - | stop
  · simp [Entries.reported, hstop]
  · simp

theorem readPlain_magic (rest : List UInt8) :
    readPlain d (0x1F :: 0x8B :: rest) = ⟨[], some (.line 1 .malformed)⟩ := by
  obtain ⟨line, lines, hlines⟩ := linesOf_magic rest
  obtain ⟨more, hmore⟩ := stripBytes_magic line
  rw [readPlain, hlines, readLines, readLine, hmore, read_magic]
  rfl

/-- **A file is read line by line**, as far as that goes.  The lines are the first ones of its text,
and after them reading ends as the data do: at the end, with a fault, or by starting over. -/
theorem readEntries_cases (d : Depths) (bytes : List UInt8) :
    ∃ lines last, lines <+: linesOf (textOf bytes) ∧
    readEntries d bytes = (readLines d 1 lines).followedBy ⟨[], last⟩ ∧
    (last.bind EntryStop.line? = none ∧ ¬ StartsOver d bytes ∨
      last = some (.line 1 .malformed) ∧ (StartsOver d bytes ↔
        (readLines d 1 lines).stop = none ∧ (readLines d 1 lines).entries ≠ [])) := by
  rcases textOf_cases bytes with rfl | ⟨rest, rfl⟩ | ⟨hread, htext⟩
  · exact ⟨linesOf [], none, List.prefix_rfl, rfl, .inl ⟨rfl, by
      simp [StartsOver, linesOf, Text.splitAt, Bytes.Gzip.read, Bytes.Gzip.members]⟩⟩
  · have htext : textOf (0x1F :: 0x8B :: rest)
        = (Bytes.Gzip.read (0x1F :: 0x8B :: rest)).bytes := rfl
    have hplain := readPlain_magic (d := d) rest
    simp only [htext, StartsOver, readEntries, hplain]
    generalize Bytes.Gzip.read (0x1F :: 0x8B :: rest) = content
    have hwhole := List.dropLast_prefix (linesOf content.bytes)
    rcases content.ending with - | - | - | -
    case complete =>
      exact ⟨_, none, List.prefix_rfl, (followedBy_nothing _).symm, .inl ⟨rfl, by simp⟩⟩
    case truncated => exact ⟨_, some (.fault .truncated), hwhole, rfl, .inl ⟨rfl, by simp⟩⟩
    case corrupt => exact ⟨_, some (.fault .corrupt), hwhole, rfl, .inl ⟨rfl, by simp⟩⟩
    -- the file as it is has no entry in its first line
    case notGzip =>
      refine ⟨_, some (.line 1 .malformed), hwhole, rfl, .inr ⟨rfl, ?_⟩⟩
      rw [stop_readLines_eq_none_iff]
      simp only [true_and]
      exact and_congr_right fun h => not_congr (entries_readLines_eq_nil_iff h).symm
  · have hnone : Entries.followedBy ⟨[], none⟩ (readPlain d bytes) = readPlain d bytes := rfl
    refine ⟨linesOf bytes, none, htext.symm ▸ List.prefix_rfl, ?_, .inl ⟨rfl, ?_⟩⟩
    · rw [followedBy_nothing, readEntries, hread]
      exact hnone
    · simp [StartsOver, hread, linesOf, Text.splitAt]

/-- The numbers go forward, or reading starts over and tells of the first line after entries. -/
theorem reported_cases (d : Depths) (bytes : List UInt8) :
    ¬ StartsOver d bytes ∧ Forward 1 (readEntries d bytes).reported ∨
      StartsOver d bytes ∧ ∃ numbers, numbers ≠ [] ∧ (∀ n ∈ numbers, 1 ≤ n) ∧
        (readEntries d bytes).reported = numbers ++ [1] := by
  obtain ⟨lines, last, -, hread, hlast⟩ := readEntries_cases d bytes
  have hforward := forward_readLines d 1 lines
  have hreported := reported_followedBy_stop (readLines d 1 lines) last
  rw [← hread] at hreported
  rcases hlast with ⟨hline, hover⟩ | ⟨rfl, hover⟩
  · rw [hline, Option.toList_none, ite_self, List.append_nil] at hreported
    exact .inl ⟨hover, hreported ▸ hforward⟩
  by_cases hstop : (readLines d 1 lines).stop = none
  · have hentries : (readLines d 1 lines).reported = (readLines d 1 lines).entries.map (·.1) := by
      rw [Entries.reported, hstop]
      exact List.append_nil _
    rw [if_pos hstop] at hreported
    by_cases hnone : (readLines d 1 lines).entries = []
    · rw [hentries, hnone] at hreported
      exact .inl ⟨fun h => (hover.mp h).2 hnone, hreported ▸ (Forward.nil 2).cons⟩
    · exact .inr ⟨hover.mpr ⟨hstop, hnone⟩, _, by simpa [hentries] using hnone,
        hforward.first_le, hreported⟩
  · rw [if_neg hstop, List.append_nil] at hreported
    exact .inl ⟨fun h => hstop (hover.mp h).1, hreported ▸ hforward⟩

/-- **The numbers of lines go forward**, from one on: those of the entries and then that of the line
at which reading stops, unless reading starts over.  Each entry is the one of its line in the text
of the file, so that no line is read twice. -/
theorem lines_go_forward_iff (d : Depths) (bytes : List UInt8) :
    ((readEntries d bytes).reported.Pairwise (· < ·) ↔ ¬ StartsOver d bytes) ∧
      (∀ n ∈ (readEntries d bytes).reported, 0 < n) ∧
      ∀ x ∈ (readEntries d bytes).entries, ∃ line, (linesOf (textOf bytes))[x.1 - 1]? = some line ∧
        readLine d x.1 line = .ok (some x.2) := by
  refine ⟨?_, ?_, fun x hx => ?_⟩
  · rcases reported_cases d bytes with ⟨hover, hforward⟩ | ⟨hover, numbers, hne, hone, heq⟩
    · exact iff_of_true hforward.increasing hover
    · refine iff_of_false (fun h => ?_) (not_not_intro hover)
      obtain ⟨n, hn⟩ := List.exists_mem_of_ne_nil numbers hne
      rw [heq, List.pairwise_append] at h
      exact absurd (h.2.2 n hn 1 List.mem_cons_self) (Nat.not_lt.mpr (hone n hn))
  · rcases reported_cases d bytes with ⟨-, hforward⟩ | ⟨-, numbers, -, hone, heq⟩
    · exact hforward.first_le
    · rw [heq]
      exact List.forall_mem_append.mpr ⟨hone, by simp⟩
  · obtain ⟨lines, last, ⟨more, hmore⟩, hread, -⟩ := readEntries_cases d bytes
    rw [hread, entries_followedBy_stop] at hx
    obtain ⟨i, line, hline, hi, hentry⟩ := exists_line_of_mem_entries hx
    have hlt : i < lines.length := (List.getElem?_eq_some_iff.mp hline).1
    refine ⟨line, ?_, hentry⟩
    rw [hi, Nat.add_sub_cancel_left, ← hmore, List.getElem?_append_left hlt, hline]

/-- One object, compressed, and a byte after it that is no compressed file: the entry is in the
first line, and so is the problem that is reported after it. -/
theorem line_is_told_of_twice :
    let d : Depths := ⟨100, 100⟩
    let bytes : List UInt8 := [0x1F, 0x8B, 8, 0, 0, 0, 0, 0, 2, 3, 0xAB, 0xAE, 0xE5, 2, 0,
      6, 0xB0, 0xA1, 0xDD, 3, 0, 0, 0, 0x78]
    (readEntries d bytes).entries = [(1, {})] ∧
      (readEntries d bytes).stop = some (.line 1 .malformed) ∧
      ¬ (readEntries d bytes).reported.Pairwise (· < ·) := by
  decide +kernel

end SigmaRules.Loading
