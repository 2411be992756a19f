import SolanaBlocks.Text.Blank

/-!
# Lines

A text is cut after each line feed, and indentation puts one unit before each line that holds more
than blanks.
-/

namespace SolanaBlocks.Text

/-- The lines of a text, each with its line feed. What follows the last line feed is a line of its
own unless it is empty. -/
def lines : List Char → List (List Char)
  | [] => []
  | c :: cs =>
    if c = '\n' then [c] :: lines cs
    else
      match lines cs with
      | [] => [[c]]
      | line :: rest => (c :: line) :: rest

/-- One line with `unit` before it, if it holds more than blanks. -/
def indentLine (unit : List Char) (line : List Char) : List Char :=
  if line.all isBlank then line else unit ++ line

/-- Every line of `code` that holds more than blanks gets `unit` before it. -/
def indent (unit code : String) : String :=
  String.ofList ((lines code.toList).flatMap (indentLine unit.toList))

@[simp] theorem toList_indent (unit code : String) :
    (indent unit code).toList = (lines code.toList).flatMap (indentLine unit.toList) := by
  simp [indent]

end SolanaBlocks.Text
