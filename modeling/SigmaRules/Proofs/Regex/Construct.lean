/-
SigmaRules/Proofs/Regex/Construct.lean

Reading in two halves.  What the next construct of an expression is depends on
the tokens and on some of the flags, and not on anything that was read before
(`lex`).  What it does to the reading depends on no tokens (`Reading.apply`).
A step of the reader is one after the other (`step_eq`), so a law about all
expressions is a law about tokens or one with a case for each construct.

No construct depends on whether letter case is ignored: the case rule is put
into tests of characters when they are applied (`CharTest.withRule`).
-/
import SigmaRules.Regex.Parser

namespace SigmaRules.Regex

open Text

/-! ### Constructs -/

/-- A group that an expression refers to, by its name or by its number. -/
inductive Referent
  | name (n : List Char)
  | number (index : Nat)
  deriving DecidableEq, Repr

/-- What the reader reads at once. -/
inductive Construct
  /-- Blanks and comments. -/
  | nothing
  /-- A test of one character, whose case rule is not fixed yet. -/
  | char (t : CharTest)
  | anchor (a : Anchor)
  | reference (x : Referent)
  /-- The start of a group without effect of its own. -/
  | plain
  | atomic
  | ahead (negated : Bool)
  | behind (negated : Bool)
  /-- The start of a group with flags of its own. -/
  | flagged (on off : List Char)
  | capture (name : Option (List Char))
  | conditional (x : Referent)
  /-- Flags of the whole expression. -/
  | flags (on : List Char)
  | bar
  | close
  | times (lo : Nat) (hi : Option Nat) (greed : Greed)
  deriving DecidableEq, Repr

/-- A character that stands for itself. -/
def Construct.literal (c : Nat) : Construct := .char (.literal .exact c)

/-- The test under a case rule. -/
def CharTest.withRule (rule : CaseRule) : CharTest → CharTest
  | .literal _ c => .literal rule c
  | .notLiteral _ c => .notLiteral rule c
  | .any => .any
  | .notNewline => .notNewline
  | .set _ negated items => .set rule negated items

/-! ### From tokens to constructs -/

/-- What the mark after a count says about rounds, and the tokens after it. -/
def takeGreed : List Token → Greed × List Token
  | .plain '?' :: rest => (.lazy, rest)
  | .plain '+' :: rest => (.possessive, rest)
  | ts => (.greedy, ts)

/-- The repetition whose count has been read. -/
def lexTimes (lo : Nat) (hi : Option Nat) (rest : List Token) : Construct × List Token :=
  (.times lo hi (takeGreed rest).1, (takeGreed rest).2)

/-- The construct of an escaped digit. -/
def lexNumber (c : Char) (rest : List Token) : Except Error (Construct × List Token) :=
  let (more, after) := takeDigits decimalDigit? 1 rest
  let (octal, afterOctal) := takeDigits octalDigit? 2 rest
  match octalDigit? c, octal with
  | some a, [b, d] =>
    let n := numberOf 8 [a, b, d]
    if n ≤ 0o377 then .ok (.literal n, afterOctal) else .error .malformed
  | _, _ => .ok (.reference (.number (numberOf 10 ((decimalDigit? c).getD 0 :: more))), after)

/-- The construct of an escaped character outside of sets. -/
def lexEscape (f : Flags) (c : Char) (rest : List Token) :
    Except Error (Construct × List Token) :=
  match c with
  | 'A' => .ok (.anchor .textStart, rest)
  | 'Z' => .ok (.anchor .textEnd, rest)
  | 'b' => .ok (.anchor (.wordEdge f.ascii false), rest)
  | 'B' => .ok (.anchor (.wordEdge f.ascii true), rest)
  | '0' =>
    let (ds, rest) := takeDigits octalDigit? 2 rest
    .ok (.literal (numberOf 8 ds), rest)
  | _ =>
    match classEscape? c, controlEscape? c, codeEscape c rest with
    | some (k, negated), _, _ => .ok (.char (.set .exact false [.category k f.ascii negated]), rest)
    | _, some n, _ => .ok (.literal n, rest)
    | _, _, some code => code.map fun (n, rest) => (.literal n, rest)
    | _, _, _ =>
      if (decimalDigit? c).isSome then lexNumber c rest
      else if isAsciiLetter c then .error .malformed
      else .ok (.literal c.toNat, rest)

/-- What a condition asks for, if its text is a name or a number. -/
def referent? (text : List Char) : Except Error Referent :=
  if isName text then .ok (.name text)
  else
    match Numeral.toInt? text with
    | some (.ofNat (index + 1)) => .ok (.number (index + 1))
    | _ => .error .malformed

/-- The construct after an opening parenthesis and a question mark. -/
def lexExtension (ts : List Token) : Except Error (Construct × List Token) :=
  match ts with
  | .plain 'P' :: .plain '<' :: rest => do
    let (name, rest) ← readName '>' rest
    if isName name then return (.capture (some name), rest) else .error .malformed
  | .plain 'P' :: .plain '=' :: rest => do
    let (name, rest) ← readName ')' rest
    if isName name then return (.reference (.name name), rest) else .error .malformed
  | .plain ':' :: rest => .ok (.plain, rest)
  | .plain '#' :: rest => (skipComment rest).map fun rest => (.nothing, rest)
  | .plain '=' :: rest => .ok (.ahead false, rest)
  | .plain '!' :: rest => .ok (.ahead true, rest)
  | .plain '<' :: .plain c :: rest =>
    if c == '=' || c == '!' then .ok (.behind (c == '!'), rest) else .error .malformed
  | .plain '(' :: rest => do
    let (text, rest) ← readName ')' rest
    return (.conditional (← referent? text), rest)
  | .plain '>' :: rest => .ok (.atomic, rest)
  | _ => do
    let (change, rest) ← flagChange ts
    match change with
    | .group on off => return (.flagged on off, rest)
    | .whole on => return (.flags on, rest)

/-- The construct that starts with a character that is not escaped. -/
def lexPlain (f : Flags) (c : Char) (rest : List Token) : Except Error (Construct × List Token) :=
  match c with
  | '|' => .ok (.bar, rest)
  | ')' => .ok (.close, rest)
  | '(' =>
    match rest with
    | .plain '?' :: rest => lexExtension rest
    | _ => .ok (.capture none, rest)
  | '[' => (bracketed { f with ignoreCase := false } rest).map fun (t, rest) => (.char t, rest)
  | '?' => .ok (lexTimes 0 (some 1) rest)
  | '*' => .ok (lexTimes 0 none rest)
  | '+' => .ok (lexTimes 1 none rest)
  | '{' => do
    match ← readCounts rest with
    | some ((lo, hi), rest) => return lexTimes lo hi rest
    | none => return (.literal c.toNat, rest)
  | '.' => .ok (.char (if f.dotAll then .any else .notNewline), rest)
  | '^' => .ok (.anchor (.caret f.multiline), rest)
  | '$' => .ok (.anchor (.dollar f.multiline), rest)
  | _ => .ok (.literal c.toNat, rest)

/-- The construct that starts with the token, and the tokens after it. -/
def lex (f : Flags) (t : Token) (rest : List Token) : Except Error (Construct × List Token) :=
  match t with
  | .dangling => .error .malformed
  | .escaped c => lexEscape f c rest
  | .plain c =>
    if f.verbose && (c == ' ' || (9 ≤ c.toNat && c.toNat ≤ 13)) then .ok (.nothing, rest)
    else if f.verbose && c == '#' then (skipLine rest).map fun rest => (.nothing, rest)
    else lexPlain f c rest

/-! ### What constructs do -/

namespace Reading

/-- The number of a group that can be referred to. -/
def indexOf (r : Reading) : Referent → Except Error Nat
  | .number index => .ok index
  | .name n =>
    match r.names.lookup n with
    | some index => .ok index
    | none => .error .malformed

/-- A condition opens; those that ask by number are remembered. -/
def ask (r : Reading) : Referent → Reading
  | .number index => { r with asked := index :: r.asked }
  | .name _ => r

/-- The last piece is repeated.  Anchors and repetitions cannot be. -/
def times (r : Reading) (lo : Nat) (hi : Option Nat) (greed : Greed) : Except Error Reading :=
  match r.top.pieces with
  | [] => .error .malformed
  | .spliced ns :: before =>
    .ok { r with top := { r.top with
      pieces := .node (.times lo hi greed (.ofList ns)) :: before } }
  | .node n :: before =>
    if n.isAnchor || n.isTimes then .error .malformed
    else .ok { r with top := { r.top with pieces := .node (.times lo hi greed n) :: before } }

/-- Has anything been read that takes part in a match? -/
def begun (r : Reading) : Bool :=
  !(r.below.isEmpty && r.top.complete.isEmpty && r.top.pieces.isEmpty)

/-- The reading after a construct. -/
def apply (r : Reading) : Construct → Except Error Reading
  | .nothing => .ok r
  | .char t => .ok (r.pushNode (.char (t.withRule r.top.flags.caseRule)))
  | .anchor a => .ok (r.pushNode (.anchor a))
  | .reference x => (r.indexOf x).bind r.refer
  | .plain => .ok (r.enter .plain r.top.flags)
  | .atomic => .ok (r.enter .atomic r.top.flags)
  | .ahead negated => .ok (r.enter (.ahead negated) r.top.flags)
  | .behind negated =>
    .ok ({ r with bound := some (r.bound.getD r.groups) }.enter (.behind negated r.bound)
      r.top.flags)
  | .flagged on off => .ok (r.enter .scoped (r.top.flags.change on off))
  | .capture name => openCapture r name
  | .conditional x =>
    (r.indexOf x).bind fun index =>
      if r.bound.isSome && (r.closedWidth? index).isNone then .error .malformed
      else .ok ((r.ask x).enter (.conditional index) r.top.flags)
  | .flags on =>
    if r.begun then .error .malformed
    else .ok { r with
      top := { r.top with flags := r.top.flags.change on [] }
      wholeFlags := on ++ r.wholeFlags }
  | .bar => readBar r
  | .close => readClose r
  | .times lo hi greed => r.times lo hi greed

end Reading

/-- Is this a condition, which has at most two alternatives? -/
def Opening.isConditional : Opening → Bool
  | .conditional _ => true
  | _ => false

theorem readBar_eq (r : Reading) :
    readBar r = if r.top.opening.isConditional && !r.top.complete.isEmpty then .error .malformed
      else .ok { r with top := { r.top with
        complete := r.top.current :: r.top.complete, pieces := [] } } := by
  rcases ho : r.top.opening <;> rcases hc : r.top.complete <;>
    simp [readBar, ho, hc, Opening.isConditional]

/-! ### A step of the reader -/

/-- A construct and the tokens after it, applied. -/
def applied (r : Reading) (x : Construct × List Token) : Except Error (Reading × List Token) :=
  (r.apply x.1).map fun r => (r, x.2)

theorem repeated_eq (r : Reading) (lo : Nat) (hi : Option Nat) (rest : List Token) :
    r.repeated lo hi rest = applied r (lexTimes lo hi rest) := by
  have htimes : ∀ greed after, takeGreed rest = (greed, after) →
      r.repeated lo hi rest = (r.times lo hi greed).map fun r => (r, after) := by
    intro greed after h
    unfold takeGreed at h
    unfold Reading.repeated
    split at h
    all_goals
      obtain ⟨rfl, rfl⟩ := Prod.mk.inj h
      rcases hp : r.top.pieces with - | ⟨⟨n⟩ | ⟨ns⟩, before⟩
      · simp [Reading.times, hp, Except.map]
      · by_cases hn : (n.isAnchor || n.isTimes) = true <;>
          simp [Reading.times, hp, hn, Except.map]
      · simp [Reading.times, hp, Except.map]
  exact htimes _ _ rfl

theorem numberEscape_eq (r : Reading) (c : Char) (rest : List Token) :
    numberEscape r c rest = (lexNumber c rest).bind (applied r) := by
  rcases hmore : takeDigits decimalDigit? 1 rest with ⟨more, after⟩
  rcases hoctal : takeDigits octalDigit? 2 rest with ⟨octal, afterOctal⟩
  simp only [numberEscape, lexNumber, hmore, hoctal]
  rcases octalDigit? c with - | a
  · rfl
  · rcases octal with - | ⟨b, - | ⟨d, - | ⟨_, _⟩⟩⟩
    · rfl
    · rfl
    · simp only
      split <;> rfl
    · rfl

theorem readEscape_eq (r : Reading) (c : Char) (rest : List Token) :
    readEscape r c rest = (lexEscape r.top.flags c rest).bind (applied r) := by
  unfold readEscape
  split
  case h_6 =>
    split
    case h_1 => simp only [lexEscape, *]; rfl
    case h_2 => simp only [lexEscape, *]; rfl
    case h_3 code _ _ _ =>
      simp only [lexEscape, *]
      rcases code with e | ⟨n, rest⟩ <;> rfl
    case h_4 =>
      simp only [lexEscape, *]
      split
      · exact numberEscape_eq r c rest
      · split <;> rfl
  all_goals rfl

/-- The test of a set with these members.  A single character is a set of its own kind. -/
def testOf (rule : CaseRule) (negated : Bool) : List SetItem → CharTest
  | [.single c] => if negated then .notLiteral rule c else .literal rule c
  | items => .set rule negated items

theorem testOf_withRule (rule : CaseRule) (negated : Bool) (items : List SetItem) :
    (testOf .exact negated items).withRule rule = testOf rule negated items := by
  unfold testOf
  split
  · rcases negated with - | - <;> rfl
  · rfl

/-- A set after its bracket and the mark of complements. -/
def membersTest (f : Flags) (negated : Bool) (ts : List Token) :
    Except Error (CharTest × List Token) :=
  (setMembers f.ascii (ts.length + 1) [] ts).map fun x =>
    (testOf f.caseRule negated x.1.reverse.eraseDups, x.2)

theorem bracketed_complement (f : Flags) (ts : List Token) :
    bracketed f (.plain '^' :: ts) = membersTest f true ts := by
  simp only [bracketed, membersTest]
  rcases setMembers f.ascii (ts.length + 1) [] ts with e | ⟨found, rest⟩
  · rfl
  · simp only [bind, Except.bind, Except.map]
    rcases found.reverse.eraseDups with - | ⟨⟨c⟩ | ⟨lo, hi⟩ | ⟨k, ascii, n⟩, - | ⟨i, is⟩⟩ <;> rfl

theorem bracketed_plain (f : Flags) {ts : List Token} (h : ∀ rest, ts ≠ .plain '^' :: rest) :
    bracketed f ts = membersTest f false ts := by
  simp only [bracketed, membersTest]
  rcases setMembers f.ascii (ts.length + 1) [] ts with e | ⟨found, rest⟩
  · rfl
  · simp only [bind, Except.bind, Except.map]
    rcases found.reverse.eraseDups with - | ⟨⟨c⟩ | ⟨lo, hi⟩ | ⟨k, ascii, n⟩, - | ⟨i, is⟩⟩ <;> rfl

/-- A bracketed set takes its case rule from the flags, and nothing else in it depends on
whether letter case is ignored. -/
theorem bracketed_eq (f : Flags) (ts : List Token) :
    bracketed f ts = (bracketed { f with ignoreCase := false } ts).map fun x =>
      (x.1.withRule f.caseRule, x.2) := by
  have hmembers : ∀ negated ts, membersTest f negated ts
      = (membersTest { f with ignoreCase := false } negated ts).map fun x =>
        (x.1.withRule f.caseRule, x.2) := by
    intro negated ts
    simp only [membersTest]
    rcases setMembers f.ascii (ts.length + 1) [] ts with e | x
    · rfl
    · exact congrArg (fun t => Except.ok (t, x.2)) (testOf_withRule _ _ _).symm
  by_cases h : ∃ rest, ts = .plain '^' :: rest
  · obtain ⟨rest, rfl⟩ := h
    rw [bracketed_complement, bracketed_complement]
    exact hmembers true rest
  · have h' : ∀ rest, ts ≠ .plain '^' :: rest := fun rest heq => h ⟨rest, heq⟩
    rw [bracketed_plain f h', bracketed_plain _ h']
    exact hmembers false ts

/-- A condition is found by its text, and then it is applied. -/
theorem readCondition_eq (r : Reading) (text : List Char) :
    readCondition r text = (referent? text).bind fun x => r.apply (.conditional x) := by
  unfold readCondition referent?
  split
  case isTrue =>
    simp only [Except.bind, Reading.apply, Reading.indexOf, Reading.ask]
    rcases r.names.lookup text with - | index <;> rfl
  case isFalse =>
    rcases Numeral.toInt? text with - | (- | index) | index <;> rfl

theorem readExtension_eq (r : Reading) (ts : List Token) :
    readExtension r ts = (lexExtension ts).bind (applied r) := by
  unfold readExtension
  split
  case h_1 rest =>
    simp only [lexExtension]
    rcases readName '>' rest with e | ⟨name, rest⟩
    · rfl
    · simp only [bind, Except.bind]
      split <;> rfl
  case h_2 rest =>
    simp only [lexExtension]
    rcases readName ')' rest with e | ⟨name, rest⟩
    · rfl
    · simp only [bind, Except.bind]
      rcases hname : isName name with - | -
      · rfl
      · rcases hlookup : r.names.lookup name with - | index <;>
          simp [applied, Reading.apply, Reading.indexOf, hlookup, Except.bind, Except.map, pure,
            Except.pure]
  case h_3 => rfl
  case h_4 rest =>
    simp only [lexExtension]
    rcases skipComment rest with e | rest <;> rfl
  case h_5 => rfl
  case h_6 => rfl
  case h_7 =>
    simp only [lexExtension]
    split <;> rfl
  case h_8 rest =>
    simp only [lexExtension]
    rcases readName ')' rest with e | ⟨text, rest⟩
    · rfl
    · simp only [bind, Except.bind, readCondition_eq]
      rcases referent? text with e | x <;> rfl
  case h_9 => rfl
  case h_10 =>
    simp only [lexExtension, *]
    rcases flagChange ts with e | ⟨⟨on, off⟩ | on, rest⟩
    · rfl
    · rfl
    · simp only [bind, Except.bind, pure, Except.pure, applied, Reading.apply, Reading.begun]
      by_cases hb : (r.below.isEmpty && r.top.complete.isEmpty && r.top.pieces.isEmpty) = true <;>
        simp [hb, Except.map]

/-- **A step of the reader** finds the next construct and applies it. -/
theorem step_eq (r : Reading) (t : Token) (rest : List Token) :
    step r t rest = (lex r.top.flags t rest).bind (applied r) := by
  rcases t with c | c | -
  · unfold step lex
    simp only
    split
    case isTrue => rfl
    split
    case isTrue => rcases skipLine rest with e | after <;> rfl
    unfold lexPlain
    split
    case h_3 =>
      split
      case h_1 after => exact readExtension_eq r after
      case h_2 =>
        simp only [Except.bind, *]
        rfl
    case h_4 =>
      rw [bracketed_eq]
      rcases bracketed { r.top.flags with ignoreCase := false } rest with e | ⟨t, after⟩ <;> rfl
    case h_5 => exact repeated_eq r 0 (some 1) rest
    case h_6 => exact repeated_eq r 0 none rest
    case h_7 => exact repeated_eq r 1 none rest
    case h_8 =>
      rcases readCounts rest with e | - | ⟨⟨lo, hi⟩, after⟩
      · rfl
      · rfl
      · exact repeated_eq r lo hi after
    case h_9 =>
      simp only [Except.bind, applied, Reading.apply]
      split <;> rfl
    case h_12 =>
      simp only [Except.bind, *]
      rfl
    all_goals rfl
  · exact readEscape_eq r c rest
  · rfl

end SigmaRules.Regex
