/-
SigmaRules/Proofs/Regex/Base.lean

What constructs leave as it is.  An open group hides the expression around it
until it is closed, and then the expression goes on as before.  So its flags
and the bound on references that holds outside of all groups are settled once
anything has been read that takes part in a match, and so are the flags of
the whole expression (`Reading.base`).

To apply a construct goes well or finds the expression malformed, and keeps
the base (`Proceeds.apply`); there are no other errors.
-/
import SigmaRules.Proofs.Answers
import SigmaRules.Proofs.Regex.Construct
import SigmaRules.Proofs.Regex.Reading

namespace SigmaRules.Regex

/-! ### The base of a reading -/

/-- What is settled about an expression by its start. -/
structure Base where
  /-- The flags outside of all groups. -/
  flags : Flags
  /-- The flags that the whole expression was set to. -/
  wholeFlags : List Char
  /-- The bound on references outside of all groups. -/
  bound : Option Nat

/-- The bound on references after the group. -/
def Opening.boundAfter (bound : Option Nat) : Opening → Option Nat
  | .behind _ outer => outer
  | _ => bound

/-- The flags and the bound that hold once the groups are closed, the innermost one first. -/
def outermost (bound : Option Nat) (f : Frame) : List Frame → Flags × Option Nat
  | [] => (f.flags, bound)
  | outer :: below => outermost (f.opening.boundAfter bound) outer below

/-- What is settled about the expression. -/
def Reading.base (r : Reading) : Base :=
  { flags := (outermost r.bound r.top r.below).1
    wholeFlags := r.wholeFlags
    bound := (outermost r.bound r.top r.below).2 }

/-- What is in a group does not matter for what holds outside. -/
theorem outermost_congr {f g : Frame} (hopening : g.opening = f.opening)
    (hflags : g.flags = f.flags) (bound : Option Nat) (below : List Frame) :
    outermost bound g below = outermost bound f below := by
  rcases below with - | ⟨outer, below⟩
  · rw [outermost, outermost, hflags]
  · rw [outermost, outermost, hopening]

theorem base_congr {r r' : Reading} (hopening : r'.top.opening = r.top.opening)
    (hflags : r'.top.flags = r.top.flags) (hbelow : r'.below = r.below)
    (hbound : r'.bound = r.bound) (hw : r'.wholeFlags = r.wholeFlags) : r'.base = r.base := by
  rw [Reading.base, Reading.base, hw, hbelow, hbound, outermost_congr hopening hflags]

/-! ### Constructs that take part in a match -/

/-- The expression is malformed, or something has been read that takes part in a match, and what
is settled stays as it is. -/
def Proceeds (r : Reading) (x : Except Error Reading) : Prop :=
  x = .error .malformed ∨ ∃ r', x = .ok r' ∧ r'.begun = true ∧ r'.base = r.base

namespace Proceeds

variable {r : Reading}

theorem malformed : Proceeds r (.error .malformed) := .inl rfl

theorem of_begun {r' : Reading} (hb : r'.begun = true) (hbase : r'.base = r.base) :
    Proceeds r (.ok r') := .inr ⟨r', rfl, hb, hbase⟩

theorem of_ok {q : Reading} (h : Proceeds r (.ok q)) : q.begun = true ∧ q.base = r.base := by
  rcases h with h | ⟨q', h, hb, hbase⟩
  · cases h
  · obtain rfl := Except.ok.inj h
    exact ⟨hb, hbase⟩

theorem bind {x : Except Error Reading} {g : Reading → Except Error Reading} (hx : Proceeds r x)
    (hg : ∀ r', r'.begun = true → Proceeds r' (g r')) : Proceeds r (x.bind g) := by
  rcases hx with rfl | ⟨r', rfl, hb, hbase⟩
  · exact malformed
  · rcases hg r' hb with hg | ⟨r'', hg, hb', hbase'⟩
    · exact .inl hg
    · exact .inr ⟨r'', hg, hb', hbase'.trans hbase⟩

theorem of_pieces {r' : Reading} (hb : r'.begun = true)
    (hopening : r'.top.opening = r.top.opening) (hflags : r'.top.flags = r.top.flags)
    (hbelow : r'.below = r.below) (hbound : r'.bound = r.bound)
    (hw : r'.wholeFlags = r.wholeFlags) : Proceeds r (.ok r') :=
  .of_begun hb (base_congr hopening hflags hbelow hbound hw)

theorem push (p : Piece) : Proceeds r (.ok (r.push p)) :=
  .of_pieces (by simp [Reading.begun, Reading.push]) rfl rfl rfl rfl rfl

theorem enter {opening : Opening} (flags : Flags)
    (hbase : (r.enter opening flags).base = r.base) : Proceeds r (.ok (r.enter opening flags)) :=
  .of_begun (by simp [Reading.begun, Reading.enter]) hbase

theorem refer (i : Nat) : Proceeds r (r.refer i) := by
  rw [Reading.refer]
  split
  · exact push _
  · exact malformed

/-- A referent that has a number, and what is done with it. -/
theorem indexOf {x : Referent} {f : Nat → Except Error Reading} (hf : ∀ i, Proceeds r (f i)) :
    Proceeds r ((r.indexOf x).bind f) := by
  rcases x with n | i
  · rw [Reading.indexOf]
    split
    · exact hf _
    · exact malformed
  · exact hf i

theorem openCapture (name : Option (List Char)) : Proceeds r (openCapture r name) := by
  rcases name with - | n
  · exact .of_begun (by simp [Reading.begun, Reading.enter]) rfl
  · simp only [Regex.openCapture]
    split
    · exact malformed
    · exact .of_begun (by simp [Reading.begun, Reading.enter]) rfl

theorem readBar : Proceeds r (readBar r) := by
  rw [readBar_eq]
  split
  · exact malformed
  · exact .of_pieces (by simp [Reading.begun]) rfl rfl rfl rfl rfl

/-- The group around goes on, and the bound is what it was before the group. -/
theorem readClose : Proceeds r (readClose r) := by
  rcases hb : r.below with - | ⟨outer, below⟩
  · rw [Regex.readClose, hb]
    exact malformed
  have hpush : ∀ (r' : Reading) (p : Piece), r'.top = outer → r'.below = below →
      r'.wholeFlags = r.wholeFlags → r'.bound = r.top.opening.boundAfter r.bound →
      Proceeds r (.ok (r'.push p)) := by
    intro r' p htop hbelow hw hbound
    have hbase : r'.base = r.base := by
      rw [Reading.base, Reading.base, htop, hbelow, hw, hbound, hb, outermost]
    obtain ⟨hbegun, hpushed⟩ := (push (r := r') p).of_ok
    exact .of_begun hbegun (hpushed.trans hbase)
  simp only [Regex.readClose, hb]
  split
  case h_1 => exact malformed
  case h_8 ho =>
    split
    · exact hpush _ _ rfl rfl rfl (by rw [ho]; rfl)
    · exact hpush _ _ rfl rfl rfl (by rw [ho]; rfl)
  all_goals
    rename_i ho
    exact hpush _ _ rfl rfl rfl (by rw [ho]; rfl)

theorem times (lo : Nat) (hi : Option Nat) (greed : Greed) : Proceeds r (r.times lo hi greed) := by
  unfold Reading.times
  split
  · exact malformed
  · exact .of_pieces (by simp [Reading.begun]) rfl rfl rfl rfl rfl
  · split
    · exact malformed
    · exact .of_pieces (by simp [Reading.begun]) rfl rfl rfl rfl rfl

/-- What takes part in a match leaves what is settled as it is. -/
theorem apply_of_ne {c : Construct} (hnothing : c ≠ .nothing) (hflags : ∀ on, c ≠ .flags on) :
    Proceeds r (r.apply c) := by
  cases c with
  | nothing => exact absurd rfl hnothing
  | char t => exact push _
  | anchor a => exact push _
  | reference x => exact indexOf refer
  | plain => exact enter _ rfl
  | atomic => exact enter _ rfl
  | ahead negated => exact enter _ rfl
  | behind negated => exact .of_begun (by simp [Reading.begun, Reading.enter]) rfl
  | flagged on off => exact enter _ rfl
  | capture name => exact openCapture name
  | conditional x =>
    refine indexOf fun i => ?_
    split
    · exact malformed
    · rcases x with n | j
      · exact enter _ rfl
      · exact .of_begun (by simp [Reading.begun, Reading.enter]) rfl
  | flags on => exact absurd rfl (hflags on)
  | bar => exact readBar
  | close => exact readClose
  | times lo hi greed => exact times lo hi greed

/-- **To apply a construct** goes well or finds the expression malformed.  Once anything has been
read that takes part in a match, what is settled stays as it is. -/
theorem apply (hb : r.begun = true) (c : Construct) : Proceeds r (r.apply c) := by
  by_cases hnothing : c = .nothing
  · subst hnothing
    exact .of_begun hb rfl
  by_cases hflags : ∃ on, c = .flags on
  · obtain ⟨on, rfl⟩ := hflags
    rw [Reading.apply, if_pos hb]
    exact malformed
  · exact apply_of_ne hnothing fun on h => hflags ⟨on, h⟩

end Proceeds

/-! ### Runs -/

theorem readAll_cons (fuel : Nat) (r : Reading) (t : Token) (ts : List Token) :
    readAll (fuel + 1) r (t :: ts) = (lex r.top.flags t ts).bind fun x =>
      (r.apply x.1).bind fun r' => readAll fuel r' x.2 := by
  simp only [readAll, step_eq]
  rcases lex r.top.flags t ts with e | x
  · rfl
  · simp only [Except.bind, applied]
    rcases r.apply x.1 with e | r' <;> rfl

/-- The tokens are read up to the end, construct by construct, and `q` is what comes of it. -/
inductive RunsTo (q : Reading) : Nat → Reading → List Token → Prop
  | done (fuel : Nat) : RunsTo q fuel q []
  | step {fuel : Nat} {r r' : Reading} {t : Token} {ts rest : List Token} {c : Construct}
      (hlex : lex r.top.flags t ts = .ok (c, rest)) (happly : r.apply c = .ok r')
      (hrest : RunsTo q fuel r' rest) : RunsTo q (fuel + 1) r (t :: ts)

theorem runsTo_of_readAll {fuel : Nat} {r q : Reading} {ts : List Token}
    (h : readAll fuel r ts = .ok q) : RunsTo q fuel r ts := by
  induction fuel generalizing r ts with
  | zero =>
    rcases ts with - | ⟨t, ts⟩
    · obtain rfl := Except.ok.inj h
      exact .done 0
    · cases h
  | succ fuel ih =>
    rcases ts with - | ⟨t, ts⟩
    · obtain rfl := Except.ok.inj h
      exact .done (fuel + 1)
    rw [readAll_cons] at h
    obtain ⟨⟨c, rest⟩, hlex, h⟩ := exists_of_bind_eq_ok h
    obtain ⟨r', happly, h⟩ := exists_of_bind_eq_ok h
    exact .step hlex happly (ih h)

/-- A run keeps what is settled. -/
theorem base_readAll {fuel : Nat} {r q : Reading} {ts : List Token} (hb : r.begun = true)
    (h : readAll fuel r ts = .ok q) : q.base = r.base := by
  replace h := runsTo_of_readAll h
  induction h with
  | done => rfl
  | step hlex happly hrest ih =>
    obtain ⟨hb', hbase⟩ := (happly ▸ Proceeds.apply hb _).of_ok
    exact (ih hb').trans hbase

/-- The expression starts with an anchor or a group. -/
def Headed (s : List Char) : Prop :=
  (∃ rest, s = '^' :: rest) ∨ ∃ rest, s = '(' :: '?' :: ':' :: rest

/-- The first construct of such an expression is the anchor, or that the group opens. -/
theorem Headed.lex_first {s : List Char} (hs : Headed s) (f : Flags) :
    ∃ t ts c rest, tokenize s = t :: ts ∧ lex f t ts = .ok (c, rest) ∧
      (c = .plain ∨ ∃ a, c = .anchor a) := by
  rcases hs with ⟨rest, rfl⟩ | ⟨rest, rfl⟩
  · exact ⟨_, _, _, _, tokenize_cons (by decide) rest, by simp [lex, lexPlain]; exact ⟨rfl, rfl⟩,
      .inr ⟨_, rfl⟩⟩
  · refine ⟨_, _, _, tokenize rest, tokenize_cons (by decide) _, ?_, .inl rfl⟩
    rw [tokenize_cons (by decide), tokenize_cons (by decide)]
    simp [lex, lexPlain, lexExtension]

/-- The start of such an expression takes part in a match. -/
theorem Proceeds.first {r : Reading} {c : Construct} (hc : c = .plain ∨ ∃ a, c = .anchor a) :
    Proceeds r (r.apply c) := by
  rcases hc with rfl | ⟨a, rfl⟩
  · exact apply_of_ne nofun nofun
  · exact apply_of_ne nofun nofun

end SigmaRules.Regex
