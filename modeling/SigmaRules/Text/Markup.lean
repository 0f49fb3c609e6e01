/-
SigmaRules/Text/Markup.lean

Text with markup.  A tag in square brackets, such as `[bold]`, gives what
follows a style, until a tag such as `[/bold]` takes it away; `[/]` takes away
the latest style, whichever it is.  A backslash before a tag makes it text.
Brackets that hold anything but a tag are text as well.
-/
import SigmaRules.Text.Emoji

namespace SigmaRules.Text.Markup

/-- Can a tag start with the character? -/
def startsTag (c : Char) : Bool := ('a' ≤ c && c ≤ 'z') || c == '#' || c == '/' || c == '@'

/-- What stands in a tag, and what follows it, if a tag ends the bracket that
was opened before the text. -/
def tagAt? : List Char → Option (List Char × List Char)
  | [] => none
  | c :: rest =>
    if startsTag c then
      match rest.dropWhile fun c => c != '[' && c != ']' with
      | ']' :: after => some (c :: rest.takeWhile fun c => c != '[' && c != ']', after)
      | _ => none
    else none

/-- What follows a tag is shorter than what it stands in. -/
theorem length_of_tagAt? {s tag after : List Char} (h : tagAt? s = some (tag, after)) :
    after.length < s.length := by
  cases s with
  | nil => simp [tagAt?] at h
  | cons c rest =>
    simp only [tagAt?] at h
    split at h
    · split at h
      · rename_i a hd
        simp only [Option.some.injEq, Prod.mk.injEq] at h
        have : (rest.dropWhile fun c => c != '[' && c != ']').length ≤ rest.length :=
          (List.dropWhile_suffix _).length_le
        rw [hd, List.length_cons, h.2] at this
        simp only [List.length_cons]
        omega
      · simp at h
    · simp at h

/-- A piece of a text with markup. -/
inductive Piece
  | text (s : List Char)
  | tag (content : List Char)
  deriving DecidableEq, Repr

/-- Backslashes. -/
def slashes (n : Nat) : List Char := List.replicate n '\\'

/-- A tag in its brackets. -/
def bracketed (tag : List Char) : List Char := '[' :: tag ++ [']']

/-- The pieces of a text; `plain` has been read since the last tag, and `n`
backslashes since then.  Of the backslashes before a tag, two stand for one,
and one that is left over makes the tag text.  A backslash before any other
bracket is dropped. -/
def piecesFrom (plain : List Char) (n : Nat) : List Char → List Piece
  | [] => [.text (plain ++ slashes n)]
  | c :: rest =>
    if c == '\\' then piecesFrom plain (n + 1) rest
    else if c == '[' then
      match _h : tagAt? rest with
      | some (tag, after) =>
        .text plain :: .text (slashes (n / 2)) ::
          (if n % 2 == 1 then .text (bracketed tag) else .tag tag) :: piecesFrom [] 0 after
      | none => piecesFrom (plain ++ slashes (n - 1) ++ [c]) 0 rest
    else piecesFrom (plain ++ slashes n ++ [c]) 0 rest
  termination_by s => s.length
  decreasing_by
    · simp
    · have := length_of_tagAt? _h
      simp only [List.length_cons]
      omega
    · simp
    · simp

/-- The pieces of a text. -/
def pieces (s : List Char) : List Piece := piecesFrom [] 0 s

/-- Short names of styles, and the names for which they stand. -/
def shortNames : List (String × String) := [
  ("d", "dim"), ("b", "bold"), ("i", "italic"), ("u", "underline"), ("r", "reverse"),
  ("c", "conceal"), ("s", "strike"), ("uu", "underline2"), ("o", "overline")]

/-- The name of a style, whichever way it is written. -/
def styleName (name : List Char) : String :=
  let name := String.ofList (lowerFrom [] (strip name))
  (shortNames.lookup name).getD name

/-- What is wrong with a text with markup. -/
inductive Problem
  /-- A tag takes away a style that nothing has given. -/
  | notOpen (name : String)
  /-- A tag takes away the latest style, but there is none. -/
  | nothingOpen
  deriving DecidableEq, Repr

/-- The styles after a tag, from the latest on. -/
def applyTag (styles : List String) (tag : List Char) : Except Problem (List String) :=
  match (cutAt '=' tag).1 with
  | '/' :: closed =>
    if (strip closed).isEmpty then
      match styles with
      | [] => .error .nothingOpen
      | _ :: rest => .ok rest
    else
      let name := styleName closed
      if styles.contains name then .ok (styles.erase name) else .error (.notOpen name)
  | name => .ok (styleName name :: styles)

/-- The text of pieces after which styles are taken away in the right order. -/
def readPieces (styles : List String) : List Piece → Except Problem (List Char)
  | [] => .ok []
  | .text s :: rest => (readPieces styles rest).map (withEmoji s ++ ·)
  | .tag t :: rest => do
    let styles ← applyTag styles t
    readPieces styles rest

/-- The text that a text with markup shows. -/
def read (s : List Char) : Except Problem (List Char) := readPieces [] (pieces s)

/-- The text with its tags made text; `n` backslashes stand before it. -/
def escapeFrom (n : Nat) : List Char → List Char
  | [] => slashes n
  | c :: rest =>
    if c == '\\' then escapeFrom (n + 1) rest
    else if c == '[' then
      match _h : tagAt? rest with
      | some (tag, after) => slashes (2 * n + 1) ++ bracketed tag ++ escapeFrom 0 after
      | none => slashes n ++ c :: escapeFrom 0 rest
    else slashes n ++ c :: escapeFrom 0 rest
  termination_by s => s.length
  decreasing_by
    · simp
    · have := length_of_tagAt? _h
      simp only [List.length_cons]
      omega
    · simp
    · simp

/-- Does the text end in a single backslash? -/
def endsInSlash (s : List Char) : Bool :=
  match s.reverse with
  | '\\' :: '\\' :: _ => false
  | '\\' :: _ => true
  | _ => false

/-- The text, written so that its tags are text.  A single backslash at the end
is doubled, so that it does not make text of a tag that follows. -/
def escape (s : List Char) : List Char :=
  let t := escapeFrom 0 s
  if endsInSlash t then t ++ ['\\'] else t

end SigmaRules.Text.Markup
