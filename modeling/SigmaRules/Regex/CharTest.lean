/-
SigmaRules/Regex/CharTest.lean

Which characters a test accepts.  Without regard to letter case a character
stands for every character with the same lower case partner and for those
whose partners share a capital with it.  A set is asked about the lower case
partner of the character, unless it holds no letter with two cases.
-/
import SigmaRules.Regex.Syntax
import SigmaRules.Text.Blank
import SigmaRules.Text.Word

namespace SigmaRules.Regex

open Text

/-- Is the code point in the class? -/
def Category.holds (k : Category) (ascii : Bool) (c : Nat) : Bool :=
  let ch := Char.ofNat c
  match k with
  | .digit => if ascii then 48 ≤ c && c ≤ 57 else isDecimal ch
  | .space => if ascii then c == 32 || (9 ≤ c && c ≤ 13) else blanks.contains c
  | .word => if ascii then isAsciiWord ch else isWord ch

/-- The lower case partner of a code point, under the rule. -/
def CaseRule.lower : CaseRule → Nat → Nat
  | .exact, c => c
  | .asciiFold, c => lowerAscii c
  | .fold, c => lowerCode c

/-- Does the code point have two cases, under the rule? -/
def CaseRule.isCased : CaseRule → Nat → Bool
  | .exact, _ => false
  | .asciiFold, c => isCasedAscii c
  | .fold, c => isCasedCode c

/-- Are the code points the same, up to the rule?  The first one is the one
that was written. -/
def CaseRule.same (rule : CaseRule) (written c : Nat) : Bool :=
  if rule.isCased written then
    let l := rule.lower written
    rule.lower c == l || (rule == .fold && (otherLowers l).contains (lowerCode c))
  else c == written

/-- The capitals of a lower case code point. -/
def capitalsOf (c : Nat) : List Nat :=
  (if 97 ≤ c && c ≤ 122 then [c - 32] else []) ++ capitals.filterMap (·.unmap? c)

/-- All code points that are the same as a lower case one. -/
def CaseRule.variants : CaseRule → Nat → List Nat
  | .exact, c => [c]
  | .asciiFold, c => if 97 ≤ c && c ≤ 122 then [c, c - 32] else [c]
  | .fold, c => (c :: otherLowers c).flatMap fun l => l :: capitalsOf l

/-- Does an item make a set depend on letter case?  Beyond the basic plane
every item does. -/
def SetItem.isCased (rule : CaseRule) : SetItem → Bool
  | .single c => 0x10000 ≤ c || rule.isCased c
  | .range lo hi => 0x10000 ≤ hi || (List.range (hi + 1 - lo)).any fun i => rule.isCased (lo + i)
  | .category .. => false

/-- Does the item hold the code point as it stands? -/
def SetItem.holds (c : Nat) : SetItem → Bool
  | .single d => c == d
  | .range lo hi => lo ≤ c && c ≤ hi
  | .category k ascii negated => k.holds ascii c != negated

/-- Does the item hold a code point that is the same as the given one, which
is in lower case?  Single code points beyond the basic plane are compared as
they stand. -/
def SetItem.holdsFolded (rule : CaseRule) (c : Nat) : SetItem → Bool
  | .single d =>
    if 0x10000 ≤ d then c == d
    else
      c == rule.lower d || (rule == .fold && (otherLowers (rule.lower d)).contains c)
  | .range lo hi =>
    (lo ≤ c && c ≤ hi) ||
    (0x10000 ≤ hi && lo ≤ upperAstral c && upperAstral c ≤ hi) ||
    (rule.variants c).any fun d => lo ≤ d && d ≤ hi && d < 0x10000
  | .category k ascii negated => k.holds ascii c != negated

/-- Does some item hold the code point, up to the rule? -/
def setHolds (rule : CaseRule) (items : List SetItem) (c : Nat) : Bool :=
  if rule != .exact && items.any (·.isCased rule) then
    items.any (·.holdsFolded rule (rule.lower c))
  else items.any (·.holds c)

/-- Does the test accept the character? -/
def CharTest.accepts (t : CharTest) (ch : Char) : Bool :=
  let c := ch.toNat
  match t with
  | .literal rule d => rule.same d c
  | .notLiteral rule d => !rule.same d c
  | .any => true
  | .notNewline => c != 10
  | .set rule negated items => setHolds rule items c != negated

end SigmaRules.Regex
