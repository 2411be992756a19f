/-!
# Blank characters

Which characters count as white space, and the removal of white space from the ends of a text. The
class is the Unicode property White_Space, so the no-break space and the ideographic space are
blank and the zero-width space is not.
-/

namespace SolanaBlocks.Text

/-- The Unicode property White_Space. -/
def isBlank (c : Char) : Bool :=
  let n := c.toNat
  (9 ≤ n && n ≤ 13) || n == 0x20 || n == 0x85 || n == 0xA0 || n == 0x1680 ||
    (0x2000 ≤ n && n ≤ 0x200A) || n == 0x2028 || n == 0x2029 || n == 0x202F || n == 0x205F ||
    n == 0x3000

/-- The characters without the blanks at their end. -/
def dropBlanksRight (cs : List Char) : List Char :=
  (cs.reverse.dropWhile isBlank).reverse

/-- The characters without the blanks at either end. -/
def dropBlanks (cs : List Char) : List Char :=
  dropBlanksRight (cs.dropWhile isBlank)

/-- A text without the blanks at either end. -/
def trim (s : String) : String :=
  String.ofList (dropBlanks s.toList)

/-- A text without the blanks at its end. -/
def trimRight (s : String) : String :=
  String.ofList (dropBlanksRight s.toList)

/-- A text with nothing in it but blanks. -/
def isAllBlank (s : String) : Bool :=
  s.toList.all isBlank

@[simp] theorem toList_trim (s : String) : (trim s).toList = dropBlanks s.toList := by
  simp [trim]

@[simp] theorem dropBlanksRight_nil : dropBlanksRight [] = [] := rfl

@[simp] theorem dropBlanks_nil : dropBlanks [] = [] := rfl

end SolanaBlocks.Text
