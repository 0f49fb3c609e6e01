/-
SigmaRules/Regex/Escape.lean

Escapes, bracketed sets, counts and flag lists: the parts of a regular
expression that stand for one character, a class, a number of rounds or a
change of flags.  Each reader takes the tokens from its start on and returns
the tokens that it leaves.  A token is a character that stands alone, or one
that is escaped by a backslash.
-/
import SigmaRules.Regex.Syntax
import SigmaRules.Text.CharacterName

namespace SigmaRules.Regex

open Text

/-! ### Tokens -/

/-- A token of a regular expression.  A backslash at the very end escapes
nothing. -/
inductive Token
  | plain (c : Char)
  | escaped (c : Char)
  | dangling
  deriving DecidableEq, Repr

/-- The text of a token. -/
def Token.text : Token → List Char
  | .plain c => [c]
  | .escaped c => ['\\', c]
  | .dangling => ['\\']

/-- The tokens of a source text. -/
def tokenize : List Char → List Token
  | [] => []
  | '\\' :: [] => [.dangling]
  | '\\' :: c :: rest => .escaped c :: tokenize rest
  | c :: rest => .plain c :: tokenize rest

/-- Why a text is not a regular expression. -/
inductive Error
  /-- The text breaks the rules of the notation. -/
  | malformed
  /-- A count of rounds is beyond the greatest one. -/
  | repeatTooLarge
  /-- A number has more digits than can be read. -/
  | numberTooLong
  /-- The whole expression is set to ASCII and to Unicode at once. -/
  | clashingFlags
  deriving DecidableEq, Repr

/-! ### Digits -/

/-- At most `n` digits, with their values, and the tokens after them. -/
def takeDigits (value : Char → Option Nat) : Nat → List Token → List Nat × List Token
  | n + 1, .plain c :: rest =>
    match value c with
    | some d => let (ds, after) := takeDigits value n rest; (d :: ds, after)
    | none => ([], .plain c :: rest)
  | _, ts => ([], ts)

/-- The number written by exactly `n` hexadecimal digits. -/
def hexNumber (n : Nat) (ts : List Token) : Except Error (Nat × List Token) :=
  let (ds, rest) := takeDigits hexDigit? n ts
  if ds.length == n then .ok (numberOf 16 ds, rest) else .error .malformed

/-! ### Escapes -/

/-- Control characters that have an escape of their own. -/
def controlEscape? : Char → Option Nat
  | 'a' => some 7
  | 'b' => some 8
  | 'f' => some 12
  | 'n' => some 10
  | 'r' => some 13
  | 't' => some 9
  | 'v' => some 11
  | '\\' => some 92
  | _ => none

/-- Classes that have an escape of their own, with their complements. -/
def classEscape? : Char → Option (Category × Bool)
  | 'd' => some (.digit, false)
  | 'D' => some (.digit, true)
  | 's' => some (.space, false)
  | 'S' => some (.space, true)
  | 'w' => some (.word, false)
  | 'W' => some (.word, true)
  | _ => none

/-- Is the character an ASCII letter? -/
def isAsciiLetter (c : Char) : Bool := ('a' ≤ c && c ≤ 'z') || ('A' ≤ c && c ≤ 'Z')

/-- A name and the tokens after its terminator. -/
def readName (stop : Char) : List Token → Except Error (List Char × List Token)
  | [] => .error .malformed
  | t :: rest =>
    if t == .plain stop then .ok ([], rest)
    else do
      let (name, rest) ← readName stop rest
      .ok (t.text ++ name, rest)

/-- The code point of the character that is named in braces. -/
def namedCode : List Token → Except Error (Nat × List Token)
  | .plain '{' :: rest => do
    let (name, rest) ← readName '}' rest
    match codeNamed? name with
    | some n => .ok (n, rest)
    | none => .error .malformed
  | _ => .error .malformed

/-- An escape that gives a code point, in hexadecimal or by the character's
name. -/
def codeEscape (c : Char) (rest : List Token) : Option (Except Error (Nat × List Token)) :=
  match c with
  | 'x' => some (hexNumber 2 rest)
  | 'u' => some (hexNumber 4 rest)
  | 'U' => some do
    let (n, rest) ← hexNumber 8 rest
    if n < 0x110000 then .ok (n, rest) else .error .malformed
  | 'N' => some (namedCode rest)
  | _ => none

/-- An escape within a bracketed set. -/
def setEscape (ascii : Bool) (c : Char) (rest : List Token) :
    Except Error (SetItem × List Token) :=
  match controlEscape? c, classEscape? c, codeEscape c rest, octalDigit? c with
  | some n, _, _, _ => .ok (.single n, rest)
  | _, some (k, negated), _, _ => .ok (.category k ascii negated, rest)
  | _, _, some code, _ => code.map fun (n, rest) => (.single n, rest)
  | _, _, _, some d =>
    let (ds, rest) := takeDigits octalDigit? 2 rest
    let n := numberOf 8 (d :: ds)
    if n ≤ 0o377 then .ok (.single n, rest) else .error .malformed
  | _, _, _, _ =>
    if (decimalDigit? c).isSome || isAsciiLetter c then .error .malformed
    else .ok (.single c.toNat, rest)

/-! ### Bracketed sets -/

/-- A member of a set, or one end of a range in it. -/
def setMember (ascii : Bool) : List Token → Except Error (SetItem × List Token)
  | .plain c :: rest => .ok (.single c.toNat, rest)
  | .escaped c :: rest => setEscape ascii c rest
  | _ => .error .malformed

/-- The range between two members, if they are characters in order. -/
def SetItem.upTo : SetItem → SetItem → Except Error SetItem
  | .single lo, .single hi => if lo ≤ hi then .ok (.range lo hi) else .error .malformed
  | _, _ => .error .malformed

/-- The members of a set up to its closing bracket, last first.  A closing
bracket in the first place is a member. -/
def setMembers (ascii : Bool) : Nat → List SetItem → List Token →
    Except Error (List SetItem × List Token)
  | 0, _, _ => .error .malformed
  | fuel + 1, found, ts =>
    match found, ts with
    | _ :: _, .plain ']' :: rest => .ok (found, rest)
    | _, _ => do
      let (item, rest) ← setMember ascii ts
      match rest with
      | .plain '-' :: .plain ']' :: rest => .ok (.single 45 :: item :: found, rest)
      | .plain '-' :: rest =>
        let (last, rest) ← setMember ascii rest
        let range ← item.upTo last
        setMembers ascii fuel (range :: found) rest
      | rest => setMembers ascii fuel (item :: found) rest

/-- The set after an opening bracket.  A set of one character is that
character. -/
def bracketed (flags : Flags) (ts : List Token) : Except Error (CharTest × List Token) := do
  let (negated, ts) := match ts with
    | .plain '^' :: rest => (true, rest)
    | _ => (false, ts)
  let (found, rest) ← setMembers flags.ascii (ts.length + 1) [] ts
  let rule := flags.caseRule
  match found.reverse.eraseDups, negated with
  | [.single c], false => .ok (.literal rule c, rest)
  | [.single c], true => .ok (.notLiteral rule c, rest)
  | items, _ => .ok (.set rule negated items, rest)

/-! ### Counts -/

/-- A count of rounds, which has to be below the bound. -/
def readCount (ds : List Nat) : Except Error Nat :=
  if ds.length > maxDigits then .error .numberTooLong
  else if numberOf 10 ds ≥ maxRepeat then .error .repeatTooLarge
  else .ok (numberOf 10 ds)

/-- The counts that digits write, which have to be in order.  No digits set no
bound. -/
def countsOf (los his : List Nat) : Except Error (Nat × Option Nat) := do
  let lo ← if los.isEmpty then pure 0 else readCount los
  let hi ← if his.isEmpty then pure none else some <$> readCount his
  if hi.any (· < lo) then .error .malformed else .ok (lo, hi)

/-- The digits of the greatest count, which is the least one unless there is a
comma. -/
def takeUpper (los : List Nat) : List Token → List Nat × List Token
  | .plain ',' :: rest => takeDigits decimalDigit? rest.length rest
  | ts => (los, ts)

/-- The digits of the counts after an opening brace and the tokens after the
closing one, or nothing if the brace stands for itself. -/
def takeCounts (ts : List Token) : Option ((List Nat × List Nat) × List Token) :=
  let (los, rest) := takeDigits decimalDigit? ts.length ts
  let (his, rest) := takeUpper los rest
  match ts, rest with
  | .plain '}' :: _, _ => none
  | _, .plain '}' :: rest => some ((los, his), rest)
  | _, _ => none

/-- The counts after an opening brace, or nothing if the brace stands for
itself. -/
def readCounts (ts : List Token) : Except Error (Option ((Nat × Option Nat) × List Token)) :=
  match takeCounts ts with
  | none => .ok none
  | some ((los, his), rest) =>
    -- a backslash at the very end is noticed before the numbers are
    if rest.head? == some .dangling then .error .malformed
    else (countsOf los his).map fun counts => some (counts, rest)

/-! ### Flags -/

/-- The letters that name flags. -/
def isFlagLetter (c : Char) : Bool := "iLmsxatu".toList.contains c

/-- Flags that choose the alphabet exclude each other. -/
def isAlphabetFlag (c : Char) : Bool := c == 'a' || c == 'u'

/-- Flags to switch on, up to a closing parenthesis, a colon or a hyphen,
which is returned with them. -/
def flagsOn : List Char → List Token → Except Error (List Char × Char × List Token)
  | found, .plain c :: rest =>
    if !found.isEmpty && (c == ')' || c == '-' || c == ':') then .ok (found, c, rest)
    else if !isFlagLetter c || c == 'L' then .error .malformed
    else if isAlphabetFlag c && found.any (fun d => isAlphabetFlag d && d != c) then
      .error .malformed
    else flagsOn (c :: found) rest
  | _, _ => .error .malformed

/-- Flags to switch off, up to a colon. -/
def flagsOff : List Char → List Token → Except Error (List Char × List Token)
  | found, .plain c :: rest =>
    if !found.isEmpty && c == ':' then .ok (found, rest)
    else if !isFlagLetter c || c == 'L' || isAlphabetFlag c then .error .malformed
    else flagsOff (c :: found) rest
  | _, _ => .error .malformed

/-- A change of flags: for a group, or for the whole expression. -/
inductive FlagChange
  | group (on off : List Char)
  | whole (on : List Char)
  deriving Repr

/-- The change of flags that starts here. -/
def flagChange (ts : List Token) : Except Error (FlagChange × List Token) := do
  let (on, stop, rest) ← match ts with
    | .plain '-' :: rest => pure ([], '-', rest)
    | _ => flagsOn [] ts
  if stop == ')' then return (.whole on, rest)
  if on.contains 't' then throw .malformed
  let (off, rest) ← if stop == '-' then flagsOff [] rest else pure ([], rest)
  if off.contains 't' || on.any off.contains then throw .malformed
  return (.group on off, rest)

/-- The flags after a change. -/
def Flags.change (f : Flags) (on off : List Char) : Flags where
  ignoreCase := (f.ignoreCase || on.contains 'i') && !off.contains 'i'
  multiline := (f.multiline || on.contains 'm') && !off.contains 'm'
  dotAll := (f.dotAll || on.contains 's') && !off.contains 's'
  ascii := (f.ascii && !on.contains 'u') || on.contains 'a'
  verbose := (f.verbose || on.contains 'x') && !off.contains 'x'

end SigmaRules.Regex
