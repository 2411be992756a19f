import SolanaBlocks.BlockType

/-!
# Palettes

A palette is the list of block types a workspace may use, in the order of their first registration.
Registering a type again replaces its declaration and leaves its place in the order.
-/

namespace SolanaBlocks

/-- The block types that are known, one for each id. -/
structure Palette where
  types : List BlockType := []

namespace Palette

/-- The declaration of the type with a given id. -/
def get? (palette : Palette) (id : String) : Option BlockType :=
  palette.types.find? fun type => type.id == id

/-- Whether a type with this id is known. -/
def contains (palette : Palette) (id : String) : Bool :=
  palette.types.any fun type => type.id == id

/-- The ids of all types in order. -/
def ids (palette : Palette) : List String :=
  palette.types.map BlockType.id

/-- The number of types. -/
def size (palette : Palette) : Nat :=
  palette.types.length

/-- A list of types in which `type` replaces the first one of its id, or comes last. -/
def place (type : BlockType) : List BlockType → List BlockType
  | [] => [type]
  | known :: rest => if known.id = type.id then type :: rest else known :: place type rest

/-- Adds a type, or replaces the declaration that its id had before. -/
def register (palette : Palette) (type : BlockType) : Palette where
  types := place type palette.types

/-- The palette that results from registering types one after the other. -/
def ofTypes (types : List BlockType) : Palette :=
  types.foldl register {}

end Palette

end SolanaBlocks
