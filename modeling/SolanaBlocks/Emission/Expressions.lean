import SolanaBlocks.Emission.Site
import SolanaBlocks.Text.Quoted

/-!
# Expressions

The code of operators, literals and variables. Each operator states the loosest tier it accepts on
either side, and parentheses appear exactly where an operand is looser.
-/

namespace SolanaBlocks.Renderers

/-- An operator between two operands. -/
def binary (site : Site) (symbol : String) (tier : Tier) (associativity : Associativity) :
    Rendering Fragment := do
  let left ← site.value "a" (operandTier tier associativity .left)
  let right ← site.value "b" (operandTier tier associativity .right)
  return { code := s!"{left} {symbol} {right}", tier := some tier }

/-- The four basic operations. -/
def mathOperation : Renderer := fun site => do
  match ← .ofExcept (site.choice "operation") with
  | "ADD" => binary site "+" .additive .left
  | "SUB" => binary site "-" .additive .left
  | "MUL" => binary site "*" .multiplicative .left
  | _ => binary site "/" .multiplicative .left

/-- The symbol of a comparison. -/
def comparisonSymbol : String → String
  | "EQ" => "=="
  | "NEQ" => "!="
  | "LT" => "<"
  | "LTE" => "<="
  | "GT" => ">"
  | _ => ">="

/-- Comparisons, which do not chain. -/
def comparison : Renderer := fun site => do
  let symbol := comparisonSymbol (← .ofExcept (site.choice "op"))
  binary site symbol .relational .none

/-- Conjunctions and disjunctions. -/
def logicOperation : Renderer := fun site => do
  match ← .ofExcept (site.choice "op") with
  | "AND" => binary site "&&" .conjunction .flat
  | _ => binary site "||" .disjunction .flat

/-- Negation. -/
def negation : Renderer := fun site => do
  let operand ← site.value "bool" .unary
  return { code := s!"!{operand}", tier := some .unary }

/-- Truth values, in small letters. -/
def truthValue : Renderer := fun site => do
  let value ← .ofExcept (site.choice "bool")
  return { code := Text.lowercase value, tier := some .atomic }

/-- Numbers. A negative one carries a sign and binds like one. -/
def numberLiteral : Renderer := fun site => do
  let number ← .ofExcept (site.number "num")
  return {
    code := FieldValue.numberText number
    tier := some (if number.isBelowZero then .unary else .atomic) }

/-- Texts, as string literals. -/
def textLiteral : Renderer := fun site => do
  return { code := Text.quote (← .ofExcept (site.text "text")), tier := some .atomic }

/-- Variables. -/
def variableName : Renderer := fun site => do
  return { code := ← .ofExcept (site.text "name"), tier := some .atomic }

end SolanaBlocks.Renderers
