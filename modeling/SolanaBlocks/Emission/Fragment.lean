import SolanaBlocks.BlockType

/-!
# Fragments and operator precedence

A fragment is a piece of generated code. The fragment of an expression carries the tier of its
outermost operator, from which the place that takes it decides whether parentheses are needed.
-/

namespace SolanaBlocks

/-- A piece of generated code; the tier is that of an expression and absent for statements. -/
structure Fragment where
  code : String
  tier : Option Tier := none
deriving DecidableEq, Repr

/-- How an operator groups with operands of its own tier: to the left, not at all, or in a way that
makes no difference. -/
inductive Associativity where
  | left
  | none
  | flat
deriving DecidableEq, Repr

/-- The side of an operator on which an operand stands. -/
inductive Side where
  | left
  | right
deriving DecidableEq, Repr

/-- The loosest tier an operand may have without parentheses, for an operator of tier `op`. -/
def operandTier (op : Tier) : Associativity → Side → Tier
  | .left, .left => op
  | .left, .right => op - 1
  | .none, _ => op - 1
  | .flat, _ => op

/-- Whether an operand of tier `child` needs parentheses where `required` is the loosest tier. -/
def needsParentheses (child required : Tier) : Bool :=
  required < child

/-- The code of a fragment, in parentheses where `required` is the loosest tier and they are
needed. -/
def Fragment.wrap (fragment : Fragment) (required : Tier) : String :=
  if needsParentheses (fragment.tier.getD Tier.atomic) required then "(" ++ fragment.code ++ ")"
  else fragment.code

end SolanaBlocks
