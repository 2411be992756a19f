import SolanaBlocks.Emission.Site
import SolanaBlocks.Palette.Standard

/-!
# Conditionals and loops

The code of the blocks that choose or repeat.
-/

namespace SolanaBlocks.Renderers

open Palette.Standard (conditionalArms conditionSlot bodySlot)

/-- One arm of a conditional. Only the first arm may lack a condition, which its slot then supplies;
another arm without a condition is left out, and may not have a body. -/
def conditionalArm (site : Site) (arm : Nat) : Rendering String := do
  let condition ←
    if arm = 0 then some <$> site.value (conditionSlot arm) .loosest
    else site.value? (conditionSlot arm) .loosest
  match condition with
  | none =>
    if site.isBound (bodySlot arm) then .fail (.missingSlot site.id (conditionSlot arm))
    else return ""
  | some condition =>
    let body ← site.statements (bodySlot arm)
    if arm = 0 then return s!"if {condition} \x7b\n{body}"
    else return s!"\x7d else if {condition} \x7b\n{body}"

/-- The arms of a conditional from some arm on. -/
def conditionalArmsFrom (site : Site) : List Nat → Rendering String
  | [] => return ""
  | arm :: rest => do
    let code ← conditionalArm site arm
    return code ++ (← conditionalArmsFrom site rest)

/-- A conditional: its arms in order and then the `else`, if anything is in it. -/
def conditional : Renderer := fun site => do
  let arms ← conditionalArmsFrom site (List.range conditionalArms)
  let last ←
    if site.isBound "else" then
      let body ← site.statements "else"
      pure s!"\x7d else \x7b\n{body}"
    else pure ""
  return { code := s!"{arms}{last}\x7d\n" }

/-- The head of a counted loop. A negative step walks the range backwards. -/
def countedHead (variable_ start stop step : String) : String :=
  match (Decimal.readFloat? (Text.trim step)).map BinaryNumber.ofFloat with
  | some number =>
    if number.isBelowZero then
      let size := FieldValue.numberText number.neg
      s!"for {variable_} in ({stop}..={start}).rev().step_by({size} as usize) \x7b\n"
    else s!"for {variable_} in ({start}..={stop}).step_by({step} as usize) \x7b\n"
  | none => s!"for {variable_} in ({start}..={stop}).step_by({step} as usize) \x7b\n"

/-- A counted loop over a range with both ends. -/
def countedLoop : Renderer := fun site => do
  let variable_ ← .ofExcept (site.text "var")
  let start ← site.value "start" .disjunction
  let stop ← site.value "end" .disjunction
  let step ← site.value "step" .unary
  let body ← site.statements "do"
  return { code := s!"{countedHead variable_ start stop step}{body}\x7d\n" }

/-- A loop with a condition. -/
def whileLoop : Renderer := fun site => do
  let condition ← site.value "bool" .loosest
  let body ← site.statements "do"
  return { code := s!"while {condition} \x7b\n{body}\x7d\n" }

end SolanaBlocks.Renderers
