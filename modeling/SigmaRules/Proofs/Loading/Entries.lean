/-
SigmaRules/Proofs/Loading/Entries.lean

Where reading the entries of a log ends.  Lines are read one by one, and the first one
that holds no entry ends the reading: it is reported as a problem of its line, or it is
garbled, which is a fault (`stopsIn_readLines`).  A file is read as what it holds
compressed, as far as that is there, and if it turns out not to be compressed, as it is.

So a file that is no log is reported, with four exceptions (`Derails`): the first line
without an entry is garbled or its values are nested too deep, the compressed data end too
early, or they make no sense.
In all other cases reading stops without a fault, and it does not stop at all if and only
if the file is a log (`stop_readEntries_iff`).
-/
import SigmaRules.Loading.Entries
import SigmaRules.Proofs.Json.Limits

namespace SigmaRules

open Document

/-! ### Compressed files -/

namespace Bytes.Gzip

/-- A file that is not complete starts as compressed files do, or nothing of it is read. -/
theorem read_cases (bs : List UInt8) :
    (read bs).ending = .complete ∨ (∃ rest, bs = 0x1F :: 0x8B :: rest) ∨
      read bs = ⟨[], .notGzip⟩ := by
  rw [read]
  unfold members
  split
  · exact .inl rfl
  · exact .inr (.inl ⟨_, rfl⟩)
  · exact .inr (.inr rfl)

end Bytes.Gzip

/-! ### Entries -/

namespace Entry

variable {depth : Nat} {v : Value} {es : Document.Entries}

/-- What can be written is shown, unless it is nested too deep. -/
theorem show?_cases (depth : Nat) (h : v.isWritable = true) :
    (∃ s, v.show? depth = .ok s) ∨ v.show? depth = .error .tooDeep := by
  rw [Value.show?]
  split
  · exact .inr rfl
  · exact .inl ⟨v.shown, if_pos h⟩

theorem ofField_cases (depth : Nat) {e : Value × Value} (hname : e.1.isWritable = true)
    (hvalue : e.2.isWritable = true) :
    (∃ f, ofField depth e = .ok f) ∨ ofField depth e = .error .tooDeep := by
  rw [ofField, Value.write, if_pos hname]
  rcases show?_cases depth hvalue with ⟨s, hs⟩ | hs
  · exact .inl ⟨_, by rw [hs]; rfl⟩
  · exact .inr (by rw [hs]; rfl)

theorem ofValues_cases (depth : Nat) (hv : v.isWritable = true)
    (hes : ∀ e ∈ es, e.1.isWritable = true ∧ e.2.isWritable = true) :
    (∃ e, ofValues depth v es = .ok e) ∨ ofValues depth v es = .error .tooDeep := by
  rw [ofValues]
  rcases show?_cases depth hv with ⟨s, hs⟩ | hs
  · rcases mapM_cases fun e he => ofField_cases depth (hes e he).1 (hes e he).2 with
      ⟨fs, hfs⟩ | hfs
    · exact .inl ⟨_, by rw [hs, hfs]; rfl⟩
    · exact .inr (by rw [hs, hfs]; rfl)
  · exact .inr (by rw [hs]; rfl)

/-- **Records make entries**, unless they are nested too deep, if their numbers can be written. -/
theorem ofRecord_cases (depth : Nat) (h : (Value.map es).isWritable = true) :
    (∃ e, ofRecord depth es = .ok e) ∨ ofRecord depth es = .error .tooDeep := by
  have hes : ∀ e ∈ es, e.1.isWritable = true ∧ e.2.isWritable = true :=
    entriesAreWritable_iff.mp h
  have hget : ∀ {key w}, Entries.get? es key = some w → w.isWritable = true := by
    intro key w hw
    obtain ⟨e, he, rfl⟩ := Option.map_eq_some_iff.mp hw
    exact (hes e (List.mem_of_find?_eq_some he)).2
  have hmessage : ((Entries.get? es (.text "message")).getD .null).isWritable = true := by
    rcases hw : Entries.get? es (.text "message") with - | w
    · rfl
    · exact hget hw
  rw [ofRecord]
  split
  case h_1 fields hfields =>
    exact ofValues_cases depth hmessage (entriesAreWritable_iff.mp (hget hfields))
  case h_2 => exact ofValues_cases depth hmessage fun e he => hes e (List.mem_of_mem_filter he)

end Entry

namespace Loading

/-! ### Lines -/

/-- Is the line blank, or an object of which an entry can be made? -/
def holdsEntry (d : Depths) (line : List UInt8) : Bool :=
  (stripBytes line).isEmpty ||
    match Json.read d.line (stripBytes line) with
    | .ok (.map es) => (Entry.ofRecord d.value es).toBool
    | _ => false

/-- The fault that the line causes: it is a document but for a string that holds bytes that are no
text, or its values are nested too deep to be read or to be shown. -/
def lineFault? (d : Depths) (line : List UInt8) : Option Fault :=
  match Json.read d.line (stripBytes line) with
  | .error .notText => some .notText
  | .error .tooDeep => some .tooDeep
  | .ok (.map es) => if (Entry.ofRecord d.value es).toBool then none else some .tooDeep
  | _ => none

/-- The problem is one that a line can have: what is found in place of an object is a value. -/
def LineProblem.Occurs (p : LineProblem) : Prop :=
  p = .malformed ∨ ∃ v, p = .notObject (kindWord v)

/-- How reading stops at a line that holds no entry. -/
def StopsAt (d : Depths) (line : List UInt8) (stop : Option EntryStop) : Prop :=
  match lineFault? d line with
  | some f => stop = some (.fault f)
  | none => ∃ n p, p.Occurs ∧ stop = some (.line n p)

/-- How reading lines stops: at the first one that holds no entry, or else with a fault that comes
after the lines. -/
def StopsIn (d : Depths) (lines : List (List UInt8)) (last : Option Fault)
    (stop : Option EntryStop) : Prop :=
  match lines.find? (!holdsEntry d ·) with
  | some line => StopsAt d line stop
  | none => stop = last.map .fault

variable {d : Depths}

theorem StopsAt.or {line : List UInt8} {stop : Option EntryStop} (h : StopsAt d line stop)
    (other : Option EntryStop) : StopsAt d line (stop.or other) := by
  unfold StopsAt at h ⊢
  rcases hfault : lineFault? d line with - | f
  · rw [hfault] at h
    obtain ⟨n, p, hp, rfl⟩ := h
    exact ⟨n, p, hp, rfl⟩
  · rw [hfault] at h
    rw [h]
    rfl

/-- Where reading stops, it is not continued. -/
theorem StopsIn.append {xs ys : List (List UInt8)} {last : Option Fault} {a b : Option EntryStop}
    (hxs : StopsIn d xs none a) (hys : StopsIn d ys last b) : StopsIn d (xs ++ ys) last (a.or b) := by
  unfold StopsIn at hxs
  rw [StopsIn, List.find?_append]
  rcases hfind : xs.find? (!holdsEntry d ·) with - | line
  · rw [hfind] at hxs
    rw [hxs]
    exact hys
  · rw [hfind] at hxs
    exact hxs.or b

/-- A line is passed over, gives an entry, or stops the reading. -/
theorem readLine_cases (d : Depths) (number : Nat) (line : List UInt8) :
    (holdsEntry d line = true ∧ ∃ e, readLine d number line = .ok e) ∨
      (holdsEntry d line = false ∧
        ∃ stop, readLine d number line = .error stop ∧ StopsAt d line (some stop)) := by
  simp only [readLine, holdsEntry, StopsAt, lineFault?]
  rcases hblank : (stripBytes line).isEmpty with - | -
  · rcases hread : Json.read d.line (stripBytes line) with (- | - | -) | v
    · exact .inr ⟨rfl, _, rfl, number, .malformed, .inl rfl, rfl⟩
    · exact .inr ⟨rfl, _, rfl, rfl⟩
    · exact .inr ⟨rfl, _, rfl, rfl⟩
    · rcases v with - | - | - | - | - | - | - | - | - | - | - | es | -
      case map =>
        rcases Entry.ofRecord_cases d.value (Json.isWritable_of_read hread) with ⟨e, he⟩ | he
        · simp only [he]
          exact .inl ⟨rfl, _, rfl⟩
        · simp only [he]
          exact .inr ⟨rfl, _, rfl, rfl⟩
      all_goals exact .inr ⟨rfl, _, rfl, number, _, .inr ⟨_, rfl⟩, rfl⟩
  · exact .inl ⟨rfl, _, rfl⟩

/-- **Reading lines stops** at the first line that holds no entry. -/
theorem stopsIn_readLines (d : Depths) (number : Nat) (lines : List (List UInt8)) :
    StopsIn d lines none (readLines d number lines).stop := by
  induction lines generalizing number with
  | nil => rfl
  | cons line rest ih =>
    rw [StopsIn, List.find?_cons, readLines]
    rcases readLine_cases d number line with ⟨hholds, e, he⟩ | ⟨hholds, stop, hstop, hline⟩
    · rw [hholds, he]
      rcases e with - | e
      · exact ih (number + 1)
      · exact ih (number + 1)
    · rw [hholds, hstop]
      exact hline

/-! ### Lines that start like a compressed file -/

theorem linesOf_magic (rest : List UInt8) :
    ∃ line lines, linesOf (0x1F :: 0x8B :: rest) = (0x1F :: line) :: lines := by
  rw [linesOf]
  rcases h : Text.splitAt (· == 10) rest with - | ⟨piece, pieces⟩
  · exact absurd h (Text.splitAt_ne_nil _ rest)
  · exact ⟨0x8B :: piece, pieces, by simp [Text.splitAt, h]⟩

theorem stripBytes_magic (line : List UInt8) :
    ∃ more, stripBytes (0x1F :: line) = 0x1F :: more := by
  have hfirst : Text.isBlankByte 0x1F = false := by decide
  refine ⟨(line.reverse.dropWhile Text.isBlankByte).reverse, ?_⟩
  rw [stripBytes, List.dropWhile_cons_of_neg (by simp [hfirst]), List.reverse_cons,
    List.dropWhile_append]
  split
  case isTrue h =>
    rw [List.isEmpty_iff.mp h, List.dropWhile_cons_of_neg (by simp [hfirst])]
    rfl
  case isFalse => rw [List.reverse_append]; rfl

/-- No document starts as compressed files do. -/
theorem read_magic (depth : Nat) (more : List UInt8) :
    Json.read depth (0x1F :: more) = .error .malformed := by
  have hitems : ∃ s, Bytes.decodeLoosely (0x1F :: more) = some '\x1f' :: s := by
    refine ⟨Bytes.decodeLoosely more, ?_⟩
    rw [Bytes.decodeLoosely]
    split
    case h_1 h => cases h
    case h_2 h =>
      cases h
      rfl
  obtain ⟨s, hs⟩ := hitems
  have hvalue : ∀ fuel, Json.readValue (.ofEntries depth) (fuel + 1) (some '\x1f' :: s)
      = .error .malformed := fun _ => rfl
  rw [Json.read, hs, Json.readItems, hvalue]
  rfl

/-! ### Files -/

/-- What a file holds: what it holds compressed, or else what it is. -/
def contentOf (bytes : List UInt8) : List UInt8 :=
  if (Bytes.Gzip.read bytes).ending = .complete then (Bytes.Gzip.read bytes).bytes else bytes

/-- Is the file a log, of which each line is blank or an object? -/
def IsLog (d : Depths) (bytes : List UInt8) : Prop :=
  ∀ line ∈ linesOf (contentOf bytes), holdsEntry d line = true

/-- The lines of a file that can be read, in the order in which they are. -/
def linesRead (bytes : List UInt8) : List (List UInt8) :=
  let content := Bytes.Gzip.read bytes
  match content.ending with
  | .complete => linesOf content.bytes
  | .notGzip => (linesOf content.bytes).dropLast ++ linesOf bytes
  | .truncated | .corrupt => (linesOf content.bytes).dropLast

/-- The fault that ends the reading of compressed data. -/
def endingFault? : Bytes.Gzip.Ending → Option Fault
  | .complete | .notGzip => none
  | .truncated => some .truncated
  | .corrupt => some .corrupt

/-- The file derails the reading: its first line without an entry causes a fault, or the lines that
can be read hold entries, but the compressed data end too early or make no sense. -/
def Derails (d : Depths) (bytes : List UInt8) (f : Fault) : Prop :=
  match (linesRead bytes).find? (!holdsEntry d ·) with
  | some line => lineFault? d line = some f
  | none => endingFault? (Bytes.Gzip.read bytes).ending = some f

theorem stop_followedBy (a b : Entries) : (a.followedBy b).stop = a.stop.or b.stop := by
  rw [Entries.followedBy]
  rcases h : a.stop with - | stop
  · rfl
  · exact h

/-- The first line of a file that starts as compressed files do holds no entry. -/
theorem not_isLog_of_magic {bytes rest : List UInt8} (h : bytes = 0x1F :: 0x8B :: rest)
    (hending : (Bytes.Gzip.read bytes).ending ≠ .complete) : ¬ IsLog d bytes := by
  intro hlog
  obtain ⟨line, lines, hlines⟩ := linesOf_magic rest
  obtain ⟨more, hmore⟩ := stripBytes_magic line
  have hfirst := hlog (0x1F :: line) (by rw [contentOf, if_neg hending, h, hlines]; simp)
  rw [holdsEntry, hmore, read_magic] at hfirst
  cases hfirst

/-- Reading a file stops at the first line that holds no entry, and else as the compressed data
end. -/
theorem stopsIn_readEntries (d : Depths) (bytes : List UInt8) :
    StopsIn d (linesRead bytes) (endingFault? (Bytes.Gzip.read bytes).ending)
      (readEntries d bytes).stop := by
  have hread := stopsIn_readLines d 1 (linesOf (Bytes.Gzip.read bytes).bytes).dropLast
  have hnil : ∀ last, StopsIn d [] last (last.map .fault) := fun _ => rfl
  rcases hending : (Bytes.Gzip.read bytes).ending with - | - | - | -
  all_goals simp only [linesRead, readEntries, hending, stop_followedBy]
  case complete => exact stopsIn_readLines d 1 (linesOf (Bytes.Gzip.read bytes).bytes)
  case notGzip => exact hread.append (stopsIn_readLines d 1 (linesOf bytes))
  case truncated =>
    have hend := hread.append (hnil (some .truncated))
    rwa [List.append_nil] at hend
  case corrupt =>
    have hend := hread.append (hnil (some .corrupt))
    rwa [List.append_nil] at hend

/-- A file whose compressed data end in a fault is no log. -/
theorem not_isLog_of_endingFault {bytes : List UInt8} {f : Fault}
    (hf : endingFault? (Bytes.Gzip.read bytes).ending = some f) : ¬ IsLog d bytes := by
  rcases Bytes.Gzip.read_cases bytes with h | ⟨rest, h⟩ | h
  · rw [h] at hf
    cases hf
  · refine not_isLog_of_magic h fun hcomplete => ?_
    rw [hcomplete] at hf
    cases hf
  · rw [h] at hf
    cases hf

/-- A file is a log if all lines that can be read hold entries, and these are all lines. -/
theorem isLog_iff (d : Depths) (bytes : List UInt8) :
    IsLog d bytes ↔ (linesRead bytes).find? (!holdsEntry d ·) = none ∧
      endingFault? (Bytes.Gzip.read bytes).ending = none := by
  have hbroken : ∀ f, endingFault? (Bytes.Gzip.read bytes).ending = some f → ¬ IsLog d bytes :=
    fun _ => not_isLog_of_endingFault
  rcases hending : (Bytes.Gzip.read bytes).ending with - | - | - | - <;> rw [hending] at hbroken
  case complete => simp [IsLog, contentOf, linesRead, hending, endingFault?]
  case truncated => exact iff_of_false (hbroken _ rfl) (by simp [endingFault?])
  case corrupt => exact iff_of_false (hbroken _ rfl) (by simp [endingFault?])
  case notGzip =>
    simp only [List.find?_eq_none, Bool.not_eq_true', Bool.not_eq_false, IsLog, contentOf,
      linesRead, hending, List.forall_mem_append, endingFault?]
    refine ⟨fun hlog => ⟨⟨?_, hlog⟩, trivial⟩, fun h => h.1.2⟩
    -- if something has been read before, the file as it is starts with a line that holds no entry
    rcases Bytes.Gzip.read_cases bytes with h | ⟨rest, h⟩ | h
    · rw [hending] at h
      cases h
    · refine absurd ?_ (not_isLog_of_magic (d := d) h (by rw [hending]; nofun))
      rwa [IsLog, contentOf, if_neg (by rw [hending]; nofun)]
    · rw [h]
      simp [linesOf, Text.splitAt]

/-- The problem of the line at which reading stops is one that a line can have. -/
theorem occurs_of_stop {bytes : List UInt8} {number : Nat} {p : LineProblem}
    (h : (readEntries d bytes).stop = some (.line number p)) : p.Occurs := by
  have hstop := stopsIn_readEntries d bytes
  unfold StopsIn at hstop
  split at hstop
  case h_1 line _ =>
    unfold StopsAt at hstop
    split at hstop
    · rw [h] at hstop
      cases hstop
    · obtain ⟨n, q, hq, hline⟩ := hstop
      rw [h] at hline
      cases hline
      exact hq
  case h_2 =>
    rw [h] at hstop
    obtain ⟨f, -, hf⟩ := Option.map_eq_some_iff.mp hstop.symm
    cases hf

/-- **Where reading a file ends.**  It does not stop if and only if the file is a log, and it stops
at a fault if and only if the file derails it. -/
theorem stop_readEntries_iff (d : Depths) (bytes : List UInt8) :
    ((readEntries d bytes).stop = none ↔ IsLog d bytes) ∧
      ∀ f, (readEntries d bytes).stop = some (.fault f) ↔ Derails d bytes f := by
  have hstop := stopsIn_readEntries d bytes
  unfold StopsIn at hstop
  simp only [isLog_iff, Derails]
  rcases hfind : (linesRead bytes).find? (!holdsEntry d ·) with - | line <;> rw [hfind] at hstop
  · simp [hstop, Option.map_eq_some_iff]
  · have hline : StopsAt d line (readEntries d bytes).stop := hstop
    unfold StopsAt at hline
    rcases hfault : lineFault? d line with - | g <;> rw [hfault] at hline
    · obtain ⟨n, p, -, hline⟩ := hline
      simp [hline, hfault]
    · simp [hline, hfault]

end Loading

end SigmaRules
