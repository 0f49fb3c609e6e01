/-
SigmaRules/Layout/Table.lean

Tables of texts.  A column is as wide as its widest text.  If there is no room for
that in the console, the widest columns are made narrower; and a table that has
a least width shares what is missing among its columns, in proportion to their
widths.
-/
import SigmaRules.Layout.Wrap

namespace SigmaRules.Layout

/-- The widths of columns: the largest of those that the rows ask for. -/
def columnWidths (rows : List (List String)) (count : Nat) : List Nat :=
  (List.range count).map fun i =>
    (rows.map fun row => widest (row.getD i "").toList).foldr max 0

/-- The sum of widths. -/
def total (widths : List Nat) : Nat := widths.foldr (· + ·) 0

/-- Shares what is to be given among columns, in proportion to their widths; each
share is rounded up, and taken from what the columns after it can get. -/
def share : Nat → List Nat → List Nat
  | _, [] => []
  | rest, w :: ws =>
    let all := total (w :: ws)
    let part := if all == 0 then rest else (w * rest + all - 1) / all
    part :: share (rest - part) ws

/-- Widths that add up to no less than the given sum. -/
def widenTo (least : Nat) (widths : List Nat) : List Nat :=
  if total widths < least then List.zipWith (· + ·) widths (share (least - total widths) widths)
  else widths

/-- A quotient, rounded to the next number, and from halfway to the next even one. -/
def nearestQuotient (m n : Nat) : Nat :=
  if 2 * (m % n) < n ∨ (2 * (m % n) = n ∧ m / n % 2 = 0) then m / n else m / n + 1

/-- Takes a sum from widths, the same from each that can give something, if it can give so
much. -/
def takeFrom (rest : Nat) : List (Nat × Nat) → List Nat
  | [] => []
  | (w, most) :: more =>
    if most = 0 then w :: takeFrom rest more
    else
      let givers := 1 + (more.filter fun x => x.2 != 0).length
      let part := min most (nearestQuotient rest givers)
      (w - part) :: takeFrom (rest - part) more

/-- The widest columns made as narrow as the next ones, or as is asked for. -/
def narrow (room : Nat) (widths : List Nat) : List Nat :=
  let excess := total widths - room
  let first := widths.foldr max 0
  let second := (widths.filter (· != first)).foldr max 0
  takeFrom excess (widths.map fun w => (w, if w = first then min excess (first - second) else 0))

/-- Widths made narrower step by step, until there is room for them. -/
def narrowTo (room : Nat) (widths : List Nat) : List Nat :=
  if total (narrow room widths) < total widths then narrowTo room (narrow room widths)
  else widths
termination_by total widths

/-- The widths of columns for which there is room, if they are to be so wide. -/
def widthsWithin (room : Nat) (natural : List Nat) : List Nat :=
  narrowTo room (natural.map (min room))

/-- The cells of a row, filled up with blank lines to the same height. -/
def level (widths : List Nat) (cells : List (List (List Char))) : List (List (List Char)) :=
  let height := (cells.map List.length).foldr max 1
  List.zipWith (fun w c => c ++ List.replicate (height - c.length) (List.replicate w ' '))
    widths cells

/-- The lines of a row, from the lines of its cells. -/
def sideBySide (left between right : String) (cells : List (List (List Char))) : List String :=
  let height := (cells.map List.length).foldr max 0
  (List.range height).map fun i =>
    left ++ between.intercalate (cells.map fun c => String.ofList (c.getD i [])) ++ right

/-- The lines of a row of texts. -/
def rowLines (left between right : String) (sides : List Side) (widths : List Nat)
    (row : List String) : List String :=
  let cells := (sides.zip widths).zipWith (fun sw s => fit sw.1 sw.2 s.toList) row
  sideBySide left between right (level widths cells)

/-! ### Tables without rulings -/

/-- What stands between the columns of a table without rulings. -/
def gap : String := "  "

/-- Names with their texts, in two columns. -/
def grid (room : Nat) (rows : List (String × String)) : String :=
  let rows := rows.map fun r => [r.1, r.2]
  let natural := List.zipWith (· + ·) (columnWidths rows 2) [gap.length, 0]
  let widths := List.zipWith (· - ·) (widthsWithin room (natural.map (max 1))) [gap.length, 0]
  String.join ((rows.flatMap (rowLines "" gap "" [.left, .left] widths)).map line)

/-! ### Tables with rulings -/

/-- A horizontal ruling: its ends, what it is made of, and its crossings. -/
structure Ruling where
  left : String
  fill : Char
  cross : String
  right : String
  deriving DecidableEq, Repr

/-- A ruling across columns. -/
def Ruling.across (r : Ruling) (widths : List Nat) : String :=
  r.left ++ r.cross.intercalate (widths.map fun w => String.ofList (List.replicate w r.fill)) ++
    r.right

/-- Above a table without headings. -/
def topRuling : Ruling := ⟨"┌", '─', "┬", "┐"⟩

/-- Below a table. -/
def bottomRuling : Ruling := ⟨"└", '─', "┴", "┘"⟩

/-- Above the headings of a table. -/
def headingTop : Ruling := ⟨"┏", '━', "┳", "┓"⟩

/-- Below the headings of a table. -/
def headingBottom : Ruling := ⟨"┡", '━', "╇", "┩"⟩

/-- The least width of a table with rulings. -/
def leastWidth : Nat := 100

/-- A column of a table with rulings. -/
structure Column where
  heading : String := ""
  side : Side := .left
  deriving DecidableEq, Repr

/-- A row between vertical rulings, with a blank on either side of each cell. -/
def ruledRow (bar : String) (columns : List Column) (widths : List Nat) (row : List String) :
    List String :=
  rowLines (bar ++ " ") (" " ++ bar ++ " ") (" " ++ bar) (columns.map Column.side)
    (widths.map (· - 2)) row

/-- The widths of the columns of a table with rulings, with a blank on either side of each
text. -/
def naturalWidths (columns : List Column) (headed : Bool) (rows : List (List String)) : List Nat :=
  (columnWidths (if headed then columns.map Column.heading :: rows else rows) columns.length).map
    (· + 2)

/-- A table with rulings, with or without headings, in a console with so many columns. -/
def table (room : Nat) (columns : List Column) (headed : Bool) (rows : List (List String)) :
    String :=
  let rulings := columns.length + 1
  let widths := widenTo (min leastWidth room - rulings)
    (widthsWithin (room - rulings) (naturalWidths columns headed rows))
  let above :=
    if headed then
      headingTop.across widths :: ruledRow "┃" columns widths (columns.map Column.heading) ++
        [headingBottom.across widths]
    else [topRuling.across widths]
  let body := rows.flatMap (ruledRow "│" columns widths)
  String.join ((above ++ body ++ [bottomRuling.across widths]).map line)

end SigmaRules.Layout
