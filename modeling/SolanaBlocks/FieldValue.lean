import SolanaBlocks.Decimal.Layout
import SolanaBlocks.Decimal.Reading
import SolanaBlocks.Text.Blank

/-!
# Field values

The value of a block field as it was typed or chosen: a number or a text. Nothing here depends on
what the field is for.
-/

namespace SolanaBlocks

/-- What a field holds. -/
inductive FieldValue where
  | number (value : Float)
  | text (value : String)

namespace FieldValue

/-- The number a field holds, a text being read as a numeral with blanks around it. -/
def number? : FieldValue → Option Float
  | number value => some value
  | text value => Decimal.readFloat? (Text.trim value)

/-- A field is blank when it holds no number or no visible text. -/
def isBlank : FieldValue → Bool
  | number value => BinaryNumber.ofFloat value == .nan
  | text value => Text.isAllBlank value

/-- The written form of a number. Whole numbers are written as 64-bit integers, the nearest one
standing for those beyond that range. -/
def numberText (number : BinaryNumber) : String :=
  if number.isInteger then toString number.toInt64 else Decimal.plain .double number

/-- The written form of a field value; a text stands for itself. -/
def display : FieldValue → String
  | number value => numberText (.ofFloat value)
  | text value => value

end FieldValue

end SolanaBlocks
