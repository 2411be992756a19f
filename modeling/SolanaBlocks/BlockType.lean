import SolanaBlocks.FieldValue

/-!
# Block types

A block type declares what its blocks look like: the fields a user fills in, the slots that take
other blocks, whether a block stands for a value, and where it may be placed.
-/

namespace SolanaBlocks

/-- The binding strength of an expression. A lower tier binds tighter. -/
abbrev Tier := Nat

namespace Tier

/-- Literals, names and everything in parentheses. -/
def atomic : Tier := 0

/-- Signs and negation. -/
def unary : Tier := 1

/-- Products and quotients. -/
def multiplicative : Tier := 2

/-- Sums and differences. -/
def additive : Tier := 3

/-- Comparisons. -/
def relational : Tier := 4

/-- Conjunctions. -/
def conjunction : Tier := 5

/-- Disjunctions. -/
def disjunction : Tier := 6

/-- The tier of a place that takes any expression as it is. -/
def loosest : Tier := 99

end Tier

/-- One entry of a dropdown: what the user sees and the value that is stored. -/
structure Choice where
  label : String
  value : String
deriving DecidableEq, Repr

/-- How a field is edited. -/
inductive FieldKind where
  | freeText
  | choice (options : List Choice)
  | number
deriving DecidableEq, Repr

/-- A field as a block type declares it. A required field may not be blank; an identifier has to be
usable as a name in the generated code. -/
structure FieldDecl where
  name : String
  kind : FieldKind
  default : FieldValue
  required : Bool := false
  identifier : Bool := false

namespace FieldDecl

/-- An optional free text. -/
def ofText (name default : String) : FieldDecl where
  name := name
  kind := .freeText
  default := .text default

/-- A required name. -/
def ofName (name default : String) : FieldDecl :=
  { ofText name default with required := true, identifier := true }

/-- A number. -/
def ofNumber (name : String) (default : Float) : FieldDecl where
  name := name
  kind := .number
  default := .number default

/-- A dropdown, given by its labels and values. The first entry is the default. -/
def ofChoice (name : String) (options : List (String × String)) : FieldDecl where
  name := name
  kind := .choice (options.map fun (label, value) => ⟨label, value⟩)
  default := .text ((options.head?.map Prod.snd).getD "")
  required := true

/-- The entries of a dropdown; other fields have none. -/
def options? (field : FieldDecl) : Option (List Choice) :=
  match field.kind with
  | .choice options => some options
  | _ => none

end FieldDecl

/-- What a slot takes: one block that stands for a value, or a chain of statements. -/
inductive SlotArity where
  | expression
  | chain
deriving DecidableEq, Repr

/-- What a slot takes, in words. -/
def SlotArity.describe : SlotArity → String
  | expression => "a single expression"
  | chain => "a statement chain"

/-- A slot as a block type declares it. `defaultCode` is written for an empty expression slot. -/
structure SlotDecl where
  name : String
  arity : SlotArity
  required : Bool := false
  defaultCode : Option String := none
deriving DecidableEq, Repr

namespace SlotDecl

/-- A slot for one expression, with the code that stands in when it is empty. -/
def expression (name defaultCode : String) : SlotDecl where
  name := name
  arity := .expression
  defaultCode := some defaultCode

/-- A slot for a chain of statements. -/
def chain (name : String) : SlotDecl where
  name := name
  arity := .chain

/-- The same slot, which now may not stay empty. -/
def mandatory (slot : SlotDecl) : SlotDecl :=
  { slot with required := true, defaultCode := none }

end SlotDecl

/-- Where blocks of a type may stand. `within` and `topLevelOr` ask for a block of one of the given
types somewhere above. -/
inductive Placement where
  | anywhere
  | topLevel
  | within (types : List String)
  | topLevelOr (types : List String)
deriving DecidableEq, Repr

/-- The declaration that the blocks of one type share. The tier is that of the loosest operator a
block of the type can produce, and only means something when it produces a value. -/
structure BlockType where
  id : String
  category : String
  fields : List FieldDecl := []
  slots : List SlotDecl := []
  producesValue : Bool := false
  tier : Option Tier := none
  placement : Placement := .anywhere

namespace BlockType

/-- The declaration of a field. -/
def field? (type : BlockType) (name : String) : Option FieldDecl :=
  type.fields.find? fun field => field.name == name

/-- The declaration of a slot. -/
def slot? (type : BlockType) (name : String) : Option SlotDecl :=
  type.slots.find? fun slot => slot.name == name

end BlockType

end SolanaBlocks
