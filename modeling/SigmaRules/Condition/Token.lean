/-
SigmaRules/Condition/Token.lean

The tokens of a condition: parentheses and bars, which stand for themselves
wherever they are, and words, which end at blanks and at these marks.
-/
import SigmaRules.Text.Blank

namespace SigmaRules.Condition

/-- A token of a condition. -/
inductive Token
  | opening
  | closing
  | bar
  | word (text : String)
  deriving DecidableEq, Repr

namespace Token

/-- The text of a token. -/
def text : Token → String
  | .opening => "("
  | .closing => ")"
  | .bar => "|"
  | .word s => s

/-- The token that a character is on its own. -/
def ofMark? (c : Char) : Option Token :=
  if c == '(' then some .opening
  else if c == ')' then some .closing
  else if c == '|' then some .bar
  else none

end Token

/-- The word of collected characters, the last of them first, if there are any. -/
def finish (collected : List Char) (rest : List Token) : List Token :=
  if collected.isEmpty then rest else .word (String.ofList collected.reverse) :: rest

/-- The tokens of a text that goes on after the collected characters of a word. -/
def tokensAfter (collected : List Char) : List Char → List Token
  | [] => finish collected []
  | c :: cs =>
    match Token.ofMark? c with
    | some t => finish collected (t :: tokensAfter [] cs)
    | none =>
      if Text.isBlank c then finish collected (tokensAfter [] cs)
      else tokensAfter (c :: collected) cs

/-- The tokens of a condition. -/
def tokens (condition : List Char) : List Token := tokensAfter [] condition

end SigmaRules.Condition
