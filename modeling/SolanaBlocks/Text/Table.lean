import SolanaBlocks.Text.Split

/-!
# Tables of code points

Properties of characters come in long tables. A table is written in lines, with a space between two
rows of a line. A row names a code point, or a closed range `first-last` of them. After a colon come
the numbers that belong to it, if the table has to say more than that it belongs. All numbers are in
base sixteen.
-/

namespace SolanaBlocks.Text

/-- The value of a digit in base sixteen. -/
def hexValue? (c : Char) : Option Nat :=
  if c.isDigit then some (c.toNat - '0'.toNat)
  else if 'a' ≤ c.toLower ∧ c.toLower ≤ 'f' then some (c.toLower.toNat - 'a'.toNat + 10)
  else none

/-- The number that digits in base sixteen make. -/
def hexNumber (cs : List Char) : Nat :=
  cs.foldl (fun n c => 16 * n + (hexValue? c).getD 0) 0

/-- A row: a range of code points and the numbers that belong to it. -/
structure TableRow where
  first : Nat
  last : Nat
  numbers : List Nat
deriving DecidableEq, Repr

namespace TableRow

/-- A row as it is written. -/
def read (cs : List Char) : TableRow :=
  let (range, numbers) : List Char × List Nat :=
    match splitOn ':' cs with
    | [range, []] => (range, [])
    | [range, numbers] => (range, (splitOn ',' numbers).map hexNumber)
    | _ => (cs, [])
  match splitOn '-' range with
  | [first, last] => ⟨hexNumber first, hexNumber last, numbers⟩
  | _ => ⟨hexNumber range, hexNumber range, numbers⟩

/-- Whether a row is about a character. -/
def covers (row : TableRow) (c : Char) : Bool :=
  row.first ≤ c.toNat && c.toNat ≤ row.last

/-- The character that the row moves a character to: the one at the same place in the range that
starts at the number of the row. -/
def image? (row : TableRow) (c : Char) : Option Char :=
  row.numbers.head?.map fun start => Char.ofNat (start + (c.toNat - row.first))

end TableRow

/-- A table is a list of rows. -/
abbrev Table := List TableRow

namespace Table

/-- A table as it is written. -/
def read (lines : List String) : Table :=
  lines.flatMap fun line => (splitOn ' ' line.toList).map TableRow.read

/-- The row about a character. -/
def row? (table : Table) (c : Char) : Option TableRow :=
  table.find? fun row => row.covers c

/-- Whether a table is about a character. -/
def covers (table : Table) (c : Char) : Bool :=
  table.any fun row => row.covers c

/-- The character that a table moves a character to. -/
def image? (table : Table) (c : Char) : Option Char :=
  (table.row? c).bind fun row => row.image? c

end Table

end SolanaBlocks.Text
