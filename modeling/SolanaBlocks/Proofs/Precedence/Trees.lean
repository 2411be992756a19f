import SolanaBlocks.Palette.Standard
import SolanaBlocks.Proofs.Grammar.Basic
import SolanaBlocks.Workspace.Basic

/-!
# The tree of an expression

The blocks below an expression block make up a tree. A leaf shows a literal or a name, an operator
has the trees in its slots for operands, and a slot with nothing in it has the literal that stands
in for it. A block has at most one tree: `Denotes.unique`.
-/

namespace SolanaBlocks

open Grammar

/-- The types whose blocks are expressions. -/
def Palette.Standard.expressionIds : List String := expressionTypes.map BlockType.id

/-- What an expression block contributes to its tree. `empty` is the operand in an empty slot. -/
inductive Shape where
  | leaf (e : Expr)
  | negation
  | operation (op : Operator) (empty : Expr)

namespace Shape

def arithmetic? : String → Option Operator
  | "ADD" => some .add
  | "SUB" => some .sub
  | "MUL" => some .mul
  | "DIV" => some .div
  | _ => none

def comparison? : String → Option Operator
  | "EQ" => some .eq
  | "NEQ" => some .ne
  | "LT" => some .lt
  | "LTE" => some .le
  | "GT" => some .gt
  | "GTE" => some .ge
  | _ => none

def connective? : String → Option Operator
  | "AND" => some .and
  | "OR" => some .or
  | _ => none

def truth? : String → Option Bool
  | "TRUE" => some true
  | "FALSE" => some false
  | _ => none

/-- A number as the literal of its written form, the sign apart. -/
def number (x : BinaryNumber) : Expr :=
  .number x.isBelowZero
    (String.ofList ((FieldValue.numberText x).toList.drop (Decimal.minus x.isBelowZero).length))

end Shape

namespace Block

def fieldValue (block : Block) (name : String) (default : FieldValue) : FieldValue :=
  (block.fields[name]?).getD default

/-- What a block of the standard expression types contributes. -/
def shape? (block : Block) : Option Shape :=
  match block.type with
  | "math_operation" =>
    (Shape.arithmetic? (block.fieldValue "operation" (.text "ADD")).display).map
      (.operation · (.number false "0"))
  | "logic_compare" =>
    (Shape.comparison? (block.fieldValue "op" (.text "EQ")).display).map
      (.operation · (.number false "0"))
  | "logic_operation" =>
    (Shape.connective? (block.fieldValue "op" (.text "AND")).display).map
      (.operation · (.truth false))
  | "logic_negate" => some .negation
  | "math_number" =>
    ((block.fieldValue "num" (.number 0)).number?.map BinaryNumber.ofFloat).map
      fun x => .leaf (Shape.number x)
  | "logic_boolean" =>
    (Shape.truth? (block.fieldValue "bool" (.text "TRUE")).display).map fun value =>
      .leaf (.truth value)
  | "text" => some (.leaf (.text (block.fieldValue "text" (.text "")).display))
  | "variable_get" =>
    some (.leaf (.name (Text.trim (block.fieldValue "name" (.text "i")).display)))
  | _ => none

end Block

mutual

/-- The tree of a block. -/
inductive Denotes (w : Workspace) : BlockId → Expr → Prop where
  | leaf {id block e} (found : w.get? id = some block) (shape : block.shape? = some (.leaf e)) :
      Denotes w id e
  | negation {id block e} (found : w.get? id = some block)
      (shape : block.shape? = some .negation)
      (operand : DenotesIn w block "bool" (.truth false) e) : Denotes w id (.signed .not e)
  | operation {id block op empty a b} (found : w.get? id = some block)
      (shape : block.shape? = some (.operation op empty))
      (left : DenotesIn w block "a" empty a) (right : DenotesIn w block "b" empty b) :
      Denotes w id (.binary op a b)

/-- The tree in a slot of a block, where an empty slot has a tree of its own. -/
inductive DenotesIn (w : Workspace) : Block → String → Expr → Expr → Prop where
  | empty {block slot empty} (nothing : block.slots[slot]? = none) :
      DenotesIn w block slot empty empty
  | filled {block slot empty child e} (held : block.slots[slot]? = some (.single child))
      (content : Denotes w child e) : DenotesIn w block slot empty e

end

theorem Denotes.eq_of_leaf {w : Workspace} {id : BlockId} {block : Block} {e f : Expr}
    (found : w.get? id = some block) (shape : block.shape? = some (.leaf e))
    (denotes : Denotes w id f) : e = f := by
  cases denotes with
  | leaf found' shape' =>
      cases found.symm.trans found'
      cases shape.symm.trans shape'
      rfl
  | negation found' shape' | operation found' shape' =>
      cases found.symm.trans found'
      cases shape.symm.trans shape'

theorem DenotesIn.eq_of {w : Workspace} {block : Block} {slot : String} {empty e f : Expr}
    (unique : ∀ {id f}, Denotes w id e → Denotes w id f → e = f)
    (first : DenotesIn w block slot empty e) (second : DenotesIn w block slot empty f) :
    e = f := by
  cases first with
  | empty nothing =>
      cases second with
      | empty => rfl
      | filled held => rw [nothing] at held; cases held
  | filled held content =>
      cases second with
      | empty nothing => rw [nothing] at held; cases held
      | filled held' content' =>
          cases held.symm.trans held'
          exact unique content content'

theorem Denotes.unique {w : Workspace} {id : BlockId} {e f : Expr} (first : Denotes w id e)
    (second : Denotes w id f) : e = f := by
  induction e generalizing id f with
  | signed sign operand ih =>
      cases first with
      | leaf found shape => exact second.eq_of_leaf found shape
      | negation found shape operand =>
          cases second with
          | leaf found' shape' | operation found' shape' =>
              cases found.symm.trans found'
              cases shape.symm.trans shape'
          | negation found' shape' operand' =>
              cases found.symm.trans found'
              rw [operand.eq_of ih operand']
  | binary op left right ihLeft ihRight =>
      cases first with
      | leaf found shape => exact second.eq_of_leaf found shape
      | operation found shape left right =>
          cases second with
          | leaf found' shape' | negation found' shape' =>
              cases found.symm.trans found'
              cases shape.symm.trans shape'
          | operation found' shape' left' right' =>
              cases found.symm.trans found'
              cases shape.symm.trans shape'
              rw [left.eq_of ihLeft left', right.eq_of ihRight right']
  | _ =>
      cases first with
      | leaf found shape => exact second.eq_of_leaf found shape

theorem DenotesIn.unique {w : Workspace} {block : Block} {slot : String} {empty e f : Expr}
    (first : DenotesIn w block slot empty e) (second : DenotesIn w block slot empty f) :
    e = f :=
  first.eq_of Denotes.unique second

theorem Denotes.iff_eq {w : Workspace} {id : BlockId} {tree : Expr} (denotes : Denotes w id tree)
    (e : Expr) : Denotes w id e ↔ e = tree :=
  ⟨fun other => other.unique denotes, fun same => same ▸ denotes⟩

theorem DenotesIn.iff_eq {w : Workspace} {block : Block} {slot : String} {empty tree : Expr}
    (denotes : DenotesIn w block slot empty tree) (e : Expr) :
    DenotesIn w block slot empty e ↔ e = tree :=
  ⟨fun other => other.unique denotes, fun same => same ▸ denotes⟩

end SolanaBlocks
