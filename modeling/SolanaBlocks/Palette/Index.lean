import SolanaBlocks.Workspace.EditError

/-!
# Types by id

How a palette is kept: in a table where each type stands under its id, and beside it in a list of
the ids in the order of their first registration. The two are written one after the other and read
together. That they name the same ids is no part of the data; every registration has to see to it.
-/

namespace SolanaBlocks

/-- Block types in a table, and the order in which their ids came up. -/
structure TypeIndex where
  types : NameTable BlockType := ∅
  order : List String := []

namespace TypeIndex

/-- Whether a type with this id is known. -/
def contains (index : TypeIndex) (id : String) : Bool := index.types.contains id

/-- The declaration of the type with a given id, if it is known. -/
def get? (index : TypeIndex) (id : String) : Option BlockType := index.types[id]?

/-- The declaration of the type with a given id, which has to be known. -/
def find (index : TypeIndex) (id : String) : Except EditError BlockType :=
  match index.get? id with
  | none => .error (.unknownType id)
  | some type => .ok type

/-- The ids of all types in order. -/
def ids (index : TypeIndex) : List String := index.order

/-- The types in the order of their ids. An id without a declaration is passed over. -/
def listed (index : TypeIndex) : List BlockType := index.order.filterMap index.get?

/-- The number of types. -/
def size (index : TypeIndex) : Nat := index.types.size

/-- Whether no type is known. -/
def isEmpty (index : TypeIndex) : Bool := index.types.isEmpty

/-- Adds a type, or replaces the declaration that its id had before. Only a new id comes onto the
list. -/
def register (index : TypeIndex) (type : BlockType) : TypeIndex :=
  let index :=
    if index.contains type.id then index
    else { index with order := index.order ++ [type.id] }
  { index with types := index.types.insert type.id type }

/-- The index that results from registering types one after the other. -/
def ofTypes (types : List BlockType) : TypeIndex :=
  types.foldl register {}

/-- The palette that an index stands for. -/
def palette (index : TypeIndex) : Palette := { types := index.listed }

end TypeIndex

end SolanaBlocks
