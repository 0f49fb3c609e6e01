/-
SigmaRules/Proofs/Loading/Appending.lean

Reading a log in two parts.  Cut after a line feed, the lines of a log are those of the
one part and then those of the other (`linesOf_append`), so reading goes on with the other
part where it was with the one, unless a line of the first part stops it
(`readPlain_append`).  What a line number counts is line feeds.

Where a line stops the reading with a fault this holds as well, but then the first part
ends without any report (`garbled_line_is_not_reported`).
-/
import Mathlib.Data.List.TakeWhile
import SigmaRules.Proofs.Loading.Lines
import SigmaRules.Proofs.Text.Split

namespace SigmaRules.Loading

variable {d : Depths}

/-! ### Later lines -/

/-- The stop, if so many lines come before. -/
def EntryStop.later (k : Nat) : EntryStop → EntryStop
  | .line number p => .line (number + k) p
  | .fault f => .fault f

/-- The entries, if so many lines come before. -/
def Entries.later (k : Nat) (r : Entries) : Entries :=
  ⟨r.entries.map fun x => (x.1 + k, x.2), r.stop.map (EntryStop.later k)⟩

/-- The number of a line is only told. -/
theorem readLine_later (number k : Nat) (line : List UInt8) :
    readLine d (number + k) line = (readLine d number line).mapError (EntryStop.later k) := by
  simp only [readLine]
  split
  · rfl
  split
  case h_1 es _ => rcases Entry.ofRecord d.value es with f | e <;> rfl
  all_goals rfl

theorem readLines_later (number k : Nat) (lines : List (List UInt8)) :
    readLines d (number + k) lines = (readLines d number lines).later k := by
  induction lines generalizing number with
  | nil => rfl
  | cons line rest ih =>
    have hrest := ih (number + 1)
    rw [Nat.add_right_comm] at hrest
    rw [readLines, readLines, readLine_later, hrest]
    rcases readLine d number line with stop | - | e <;> rfl

/-! ### Lines after lines -/

/-- **Lines are read one after the other**, until one of them stops the reading. -/
theorem readLines_append (number : Nat) (xs ys : List (List UInt8)) :
    readLines d number (xs ++ ys)
      = (readLines d number xs).followedBy (readLines d (number + xs.length) ys) := by
  induction xs generalizing number with
  | nil => rfl
  | cons line rest ih =>
    have hrest := ih (number + 1)
    rw [List.length_cons, Nat.add_comm rest.length, ← Nat.add_assoc]
    rw [List.cons_append, readLines, readLines, hrest]
    rcases readLine d number line with stop | - | e
    · rfl
    · rfl
    · rcases readLines d (number + 1) rest with ⟨entries, - | stop⟩ <;> rfl

/-- Bytes that are cut after a line feed. -/
theorem exists_of_endsLine {bytes : List UInt8} (h : bytes = [] ∨ bytes.getLast? = some 10)
    (rest : List UInt8) : ∃ lines, lines.length = bytes.count 10 ∧
      linesOf bytes = lines ++ [[]] ∧ linesOf (bytes ++ rest) = lines ++ linesOf rest := by
  rcases h with rfl | h
  · exact ⟨[], rfl, rfl, rfl⟩
  obtain ⟨before, rfl⟩ := List.getLast?_eq_some_iff.mp h
  have hfeed : ∀ more, linesOf (before ++ 10 :: more) = linesOf before ++ linesOf more :=
    Text.splitAt_append_separator rfl before
  refine ⟨linesOf before, ?_, hfeed [], ?_⟩
  · rw [linesOf, Text.length_splitAt, List.count_append]
    rfl
  · rw [List.append_assoc]
    exact hfeed rest

/-- **A log is read in parts** that end with a line feed: reading stops in the first part, or goes
on with the rest. -/
theorem readPlain_append {bytes : List UInt8} (h : bytes = [] ∨ bytes.getLast? = some 10)
    (rest : List UInt8) : readPlain d (bytes ++ rest)
      = (readPlain d bytes).followedBy ((readPlain d rest).later (bytes.count 10)) := by
  obtain ⟨lines, hlength, hlines, happend⟩ := exists_of_endsLine h rest
  -- the line behind the last line feed is empty
  have hempty : ∀ n, readLines d n [[]] = ⟨[], none⟩ := fun _ => rfl
  rw [readPlain, happend, readLines_append, hlength, readLines_later, readPlain, hlines,
    readLines_append, hempty, followedBy_nothing]
  rfl

/-! ### Blank lines -/

theorem stripBytes_eq_nil {line : List UInt8} (h : ∀ b ∈ line, Text.isBlankByte b = true) :
    stripBytes line = [] := by
  rw [stripBytes, List.dropWhile_eq_nil_iff.mpr h]
  rfl

/-- White space holds no entries. -/
theorem readPlain_blank {bytes : List UInt8} (h : ∀ b ∈ bytes, Text.isBlankByte b = true) :
    readPlain d bytes = ⟨[], none⟩ := by
  have hblank : ∀ line ∈ linesOf bytes, (stripBytes line).isEmpty = true := fun line hline => by
    rw [stripBytes_eq_nil fun b hb => h b (Text.mem_of_mem_splitAt hline hb)]
    rfl
  have hholds : ∀ line ∈ linesOf bytes, holdsEntry d line = true := fun line hline => by
    rw [holdsEntry, hblank line hline, Bool.true_or]
  have hentries : (readLines d 1 (linesOf bytes)).entries = [] :=
    (entries_readLines_eq_nil_iff hholds).mpr hblank
  have hstop : (readLines d 1 (linesOf bytes)).stop = none :=
    stop_readLines_eq_none_iff.mpr hholds
  rw [readPlain, ← hentries, ← hstop]

/-! ### Parts of a log -/

/-- **Reading is compositional.**  Let a log be cut after a line feed, or before its first line.  If
a line of the first part stops the reading, the log is read like the first part, up to that line.
If none does, the entries of the first part are followed by those of the second one, and reading
ends as it does for the second part; line numbers there are higher by the line feeds of the first
part.  A part that holds only white space has no entries and stops nothing, so its lines are only
counted. -/
theorem reading_is_compositional (d : Depths) {bytes : List UInt8}
    (h : bytes = [] ∨ bytes.getLast? = some 10) (rest : List UInt8) :
    ((readPlain d bytes).stop ≠ none → readPlain d (bytes ++ rest) = readPlain d bytes) ∧
    ((readPlain d bytes).stop = none →
      (readPlain d (bytes ++ rest)).entries = (readPlain d bytes).entries ++
        (readPlain d rest).entries.map (fun x => (x.1 + bytes.count 10, x.2)) ∧
      (readPlain d (bytes ++ rest)).stop =
        (readPlain d rest).stop.map (EntryStop.later (bytes.count 10))) ∧
    ∀ part, (∀ b ∈ part, Text.isBlankByte b = true) → readPlain d part = ⟨[], none⟩ := by
  refine ⟨fun hstop => ?_, fun hstop => ?_, fun part => readPlain_blank⟩
  · obtain ⟨stop, hsome⟩ := Option.ne_none_iff_exists'.mp hstop
    rw [readPlain_append h, Entries.followedBy, hsome]
  · rw [readPlain_append h, Entries.followedBy, hstop]
    exact ⟨rfl, rfl⟩

/-- The statement at an object, a blank line with a carriage return, and a line after these that is
no document: it is the third one. -/
theorem sample_reading :
    let d : Depths := ⟨100, 100⟩
    let bytes := "\x7b\x7d\n \r\n".toUTF8.toList
    let rest := "no document".toUTF8.toList
    (bytes = [] ∨ bytes.getLast? = some 10) ∧ (readPlain d bytes).stop = none ∧
      (readPlain d (bytes ++ rest)).entries = [(1, {})] ∧
      (readPlain d (bytes ++ rest)).stop = some (.line 3 .malformed) := by
  intro d bytes rest
  have hbytes : bytes = [] ∨ bytes.getLast? = some 10 := .inr (by decide +kernel)
  have hstop : (readPlain d bytes).stop = none := by decide +kernel
  obtain ⟨-, hgoes, -⟩ := reading_is_compositional d hbytes rest
  obtain ⟨hentries, hend⟩ := hgoes hstop
  refine ⟨hbytes, hstop, ?_, ?_⟩
  · rw [hentries]
    decide +kernel
  · rw [hend]
    decide +kernel

/-- A string with a byte that is no text: the line is no object, but this is not reported, and the
line after it is not read. -/
theorem garbled_line_is_not_reported :
    let d : Depths := ⟨100, 100⟩
    let bytes := "\x7b\"a\": \"".toUTF8.toList ++ 0xFF :: "\"\x7d\n".toUTF8.toList
    let rest := "\x7b\x7d\n".toUTF8.toList
    bytes.getLast? = some 10 ∧ (∀ number p, (readPlain d bytes).stop ≠ some (.line number p)) ∧
      (readPlain d rest).entries = [(1, {})] ∧ (readPlain d (bytes ++ rest)).entries = [] ∧
      ∀ number p, (readPlain d (bytes ++ rest)).stop ≠ some (.line number p) := by
  intro d bytes rest
  have hbytes : (readPlain d bytes).stop = some (.fault .notText) := by decide +kernel
  have hall : (readPlain d (bytes ++ rest)).stop = some (.fault .notText) := by decide +kernel
  refine ⟨by decide +kernel, fun number p => ?_, by decide +kernel, by decide +kernel,
    fun number p => ?_⟩
  · rw [hbytes]
    nofun
  · rw [hall]
    nofun

end SigmaRules.Loading
