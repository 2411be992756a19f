import SolanaBlocks.Palette.Basic
import SolanaBlocks.Text.Padded

/-!
# The listing of a palette

All block types of a palette for a human reader, by category. Categories stand in alphabetical
order, and the types of a category in the order of the palette.
-/

namespace SolanaBlocks

/-- The line about a block type. -/
def BlockType.listing (type : BlockType) : String :=
  let kind := if type.producesValue then "expression" else "statement"
  let fields := ", ".intercalate (type.fields.map FieldDecl.name)
  let slots := ", ".intercalate (type.slots.map SlotDecl.name)
  s!"  {Text.padTo 22 type.id} {Text.padTo 10 kind} fields: [{fields}] slots: [{slots}]\n"

namespace Palette

/-- The categories in alphabetical order. -/
def categories (palette : Palette) : List String :=
  (palette.types.map BlockType.category).eraseDups.mergeSort

/-- The lines about a category. -/
def categoryListing (palette : Palette) (category : String) : String :=
  category ++ ":\n" ++
    String.join ((palette.types.filter (·.category == category)).map BlockType.listing)

/-- The listing of all block types. -/
def listing (palette : Palette) : String :=
  String.join (palette.categories.map palette.categoryListing)

end Palette

end SolanaBlocks
