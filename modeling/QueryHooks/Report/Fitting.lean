import QueryHooks.Text.Lines
import QueryHooks.Text.Width

/-!
Fitting text into a width of columns. Lines are broken before words, and a word that no line can hold is broken
wherever a line is full. Tabs lead to the next multiple of eight columns.
-/

namespace QueryHooks.Report.Fitting

open QueryHooks.Text (columns columnsOf)

/-- Blanks in the place of tabs, from a column on. -/
def expandTabs (column : Nat) : List Char → List Char
  | [] => []
  | '\t' :: rest =>
      let gap := 8 - column % 8
      List.replicate gap ' ' ++ expandTabs (column + gap) rest
  | c :: rest => c :: expandTabs (column + columnsOf c) rest

/-- The words of a line, each with the blanks after it, and the first with those before it too. -/
def words (line : List Char) : List (List Char) :=
  let margin := line.takeWhile Text.isBlank
  match (line.drop margin.length).splitBy fun a b => !(Text.isBlank a && !Text.isBlank b) with
  | [] => []
  | first :: others => (margin ++ first) :: others

private def withFirst (c : Char) : List (List Char) → List (List Char)
  | [] => [[c]]
  | line :: others => (c :: line) :: others

/-- A word broken wherever a line is full, of the first of which some columns are used. -/
def chop (width used : Nat) : List Char → List (List Char)
  | [] => [[]]
  | c :: rest =>
      if width < used + columnsOf c then [] :: withFirst c (chop width (columnsOf c) rest)
      else withFirst c (chop width (used + columnsOf c) rest)

/-- Where the pieces of a chopped word start. A line that starts the text needs no break. -/
def startsOf (start : Nat) : List (List Char) → List Nat
  | [] => []
  | piece :: others => (if start == 0 then [] else [start]) ++ startsOf (start + piece.length) others

/-- Where to break a line, given its further words, the place of the first of them and the columns used so far. -/
def breaks (width start used : Nat) : List (List Char) → List Nat
  | [] => []
  | word :: rest =>
      let needed := columns (word.reverse.dropWhile Text.isBlank)
      let next := start + word.length
      if used + needed ≤ width then breaks width next (used + columns word) rest
      else if width < needed then
        let pieces := chop width 0 word
        startsOf start pieces ++ breaks width next (columns (pieces.getLast?.getD [])) rest
      else if used != 0 && start != 0 then start :: breaks width next (columns word) rest
      else breaks width next used rest

/-- Break a line at places that are counted from an earlier place. -/
def breakAt (place : Nat) (line : List Char) : List Nat → List (List Char)
  | [] => [line]
  | next :: others => line.take (next - place) :: breakAt next (line.drop (next - place)) others

/-- Drop blanks at the end of a line that is too long. -/
def trimEnd (width : Nat) (line : List Char) : List Char :=
  let blanks := (line.reverse.takeWhile Text.isBlank).length
  line.take (line.length - Nat.min blanks (line.length - width))

/-- The part of a line that a width holds. Half a character is shown as a blank. -/
def clip (width : Nat) : List Char → List Char
  | [] => []
  | c :: rest =>
      if width == 0 then []
      else if width < columnsOf c then [' ']
      else c :: clip (width - columnsOf c) rest

/-- The lines of one line of text. -/
def fitLine (width : Nat) (line : List Char) : List (List Char) :=
  let line := expandTabs 0 line
  (breakAt 0 line (breaks width 0 0 (words line))).map fun piece =>
    let trimmed := trimEnd width piece
    if width < columns trimmed then clip width trimmed else trimmed

/-- The lines of a text in a width. Where there is no column nothing is shown. -/
def lines (width : Nat) (chars : List Char) : List String :=
  if width == 0 then []
  else ((Text.splitOn '\n' chars).flatMap (fitLine width)).map String.ofList

end QueryHooks.Report.Fitting
