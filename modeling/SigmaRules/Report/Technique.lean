/-
SigmaRules/Report/Technique.lean

The techniques of attackers that rules detect.  A rule names them in tags such
as `attack.t1059` or, with a variety of the technique, `attack.t1059.001`.
-/
import SigmaRules.Regex.CharTest
import SigmaRules.Report.Basic

namespace SigmaRules.Report

open Text

/-- The start of a tag that names a technique, in any letter case. -/
def techniqueStart : String := "attack.t"

/-- Does the text start with the other one, but for letter case? -/
def startsLike : List Char → List Char → Bool
  | [], _ => true
  | _, [] => false
  | a :: as, c :: cs => Regex.CaseRule.fold.same a.toNat c.toNat && startsLike as cs

/-- Is the text so many digits? -/
def areDigits (count : Nat) (s : List Char) : Bool :=
  s.length == count && s.all fun c => (digitValue? c).isSome

/-- Is the text the number of a technique? -/
def isTechniqueNumber (s : List Char) : Bool :=
  areDigits 4 s ||
    (areDigits 4 (s.take 4) && (s.drop 4).head? == some '.' && areDigits 3 (s.drop 5))

/-- The text without a line feed at its end. -/
def withoutLineFeed (s : List Char) : List Char :=
  if s.getLast? == some '\n' then s.dropLast else s

/-- The technique that a tag names. -/
def technique? (tag : String) : Option String :=
  let s := withoutLineFeed tag.toList
  let start := techniqueStart.toList
  let number := s.drop start.length
  if startsLike start s && isTechniqueNumber number then some (String.ofList ('T' :: number))
  else none

/-- Texts in order, each of them once. -/
def inOrder (ss : List String) : List String :=
  (ss.mergeSort fun a b => decide (a ≤ b)).eraseDups

/-- The techniques in order, with the titles of the rules that detect them. -/
def techniques (rules : List Rule) : List (String × List String) :=
  let named := rules.flatMap fun r =>
    ((r.tags.getD []).filterMap technique?).map fun t => (t, r.title)
  (inOrder (named.map (·.1))).map fun t =>
    (t, inOrder ((named.filter fun n => n.1 == t).map (·.2)))

end SigmaRules.Report
