import SolanaBlocks.Proofs.Emission.NumberLiterals
import SolanaBlocks.Proofs.Precedence.Embedding

/-!
# The direction of a counted loop

A counted loop finds its direction by reading the code of its step. That code reads as a number below
zero exactly if the block in the slot is a number block with such a number, so no name, text or
operator turns a loop round. The loop then goes down in steps of the opposite number, written as a
number block of its own would be.
-/

namespace SolanaBlocks

open BinaryNumber (ofFloat)

/-- A loop that walks its range upwards. -/
def ascendingLoop (name start stop step body : String) : String :=
  "for " ++ name ++ " in (" ++ start ++ "..=" ++ stop ++ ").step_by(" ++ step ++
    " as usize) \x7b\n" ++ body ++ "\x7d\n"

/-- A loop that walks its range downwards. -/
def descendingLoop (name start stop size body : String) : String :=
  "for " ++ name ++ " in (" ++ stop ++ "..=" ++ start ++ ").rev().step_by(" ++ size ++
    " as usize) \x7b\n" ++ body ++ "\x7d\n"

/-- Two pieces in either order are equally long, so what follows them has to agree. -/
theorem eq_of_swapped {a b between u v : List Char}
    (same : a ++ (between ++ (b ++ u)) = b ++ (between ++ (a ++ v))) : u = v := by
  have even : (a ++ between ++ b).length = (b ++ between ++ a).length := by
    simp only [List.length_append]
    omega
  have grouped : (a ++ between ++ b) ++ u = (b ++ between ++ a) ++ v := by
    simpa only [List.append_assoc] using same
  exact (List.append_inj grouped even).2

theorem ascendingLoop_ne_descendingLoop {name start stop step size body other : String} :
    ascendingLoop name start stop step body ≠ descendingLoop name start stop size other := by
  intro same
  unfold ascendingLoop descendingLoop at same
  have chars := congrArg String.toList same
  simp only [String.toList_append, List.append_assoc, List.append_cancel_left_eq] at chars
  have behind := eq_of_swapped chars
  simp at behind

/-- The step of a loop is a number block whose number `x` is below zero. -/
def StepsDown (w : Workspace) (block : Block) (x : Float) : Prop :=
  ∃ child step, block.slots["step"]? = some (.single child) ∧ w.get? child = some step ∧
    step.type = "math_number" ∧ (step.fieldValue "num" (.number 0)).number? = some x ∧
    (ofFloat x).isBelowZero

theorem Block.number_of_shape {block : Block} {negative : Bool} {digits : String}
    (shape : block.shape? = some (.leaf (.number negative digits))) :
    block.type = "math_number" ∧ ∃ x, (block.fieldValue "num" (.number 0)).number? = some x ∧
      Shape.number (ofFloat x) = .number negative digits := by
  unfold shape? at shape
  split at shape <;> simp only [Option.map_eq_some_iff, Option.some.injEq, Shape.leaf.injEq,
    reduceCtorEq, and_false, exists_false] at shape
  next type =>
    obtain ⟨-, ⟨x, held, rfl⟩, same⟩ := shape
    exact ⟨type, x, held, same⟩

section

variable {w : Workspace} {block : Block} {tree : Grammar.Expr}
  (inside : DenotesIn w block "step" (.number false "1") tree)

include inside

theorem StepsDown.stepSize?_eq {x : Float} (down : StepsDown w block x)
    (finite : (ofFloat x).isFinite) :
    stepSize? tree = some (FieldValue.numberText (ofFloat x).neg) := by
  obtain ⟨child, step, held, found, type, number, below⟩ := down
  obtain ⟨digits, -, spelled⟩ := Decimal.numberText_toList finite
  have shape : step.shape? = some (.leaf (.number true (String.ofList digits))) := by
    rw [Block.shape?, type, ← below, ← Shape.number_eq spelled]
    simp only [number, Option.map_some]
  have same : tree = .number true (String.ofList digits) :=
    inside.unique (.filled held (.leaf found shape))
  have code : "-" ++ String.ofList digits = FieldValue.numberText (ofFloat x) := by
    rw [below] at spelled
    exact String.toList_inj.1 (by simpa [Decimal.minus] using spelled.symm)
  obtain ⟨y, read, negative, opposite⟩ := Decimal.readFloat?_numberText_of_below finite below
  rw [same]
  simp only [stepSize?, code, read, Option.map_some, negative, if_true, opposite]

theorem exists_stepsDown {size : String} (signed : stepSize? tree = some size) :
    ∃ x, StepsDown w block x := by
  obtain ⟨digits, rfl⟩ : ∃ digits, tree = .number true digits := by
    unfold stepSize? at signed
    split at signed
    · next digits => exact ⟨digits, rfl⟩
    · cases signed
  cases inside with
  | filled held content =>
      cases content with
      | leaf found shape =>
          obtain ⟨type, x, number, same⟩ := Block.number_of_shape shape
          exact ⟨x, _, _, held, found, type, number, (Grammar.Expr.number.inj same).1⟩

end

/-- A step that is emitted is finite. -/
theorem StepsDown.isFinite {x : Float} {width : Nat} {open_ : List BlockId} {code : String}
    (site : Site) (down : StepsDown site.workspace site.block x)
    (rendered : (site.value "step" .unary).run
      ((Emitter.standard width).emitWithin site.workspace open_) = .ok code) :
    (ofFloat x).isFinite := by
  obtain ⟨child, step, held, found, type, number, -⟩ := down
  obtain ⟨declaration, -, ⟨nothing, -⟩ | ⟨child', block, type', fragment, held', -, -, -, answered,
    -⟩⟩ := Site.value_run_eq_ok rendered
  · rw [held] at nothing
    cases nothing
  · cases held.symm.trans held'
    obtain ⟨y, finite, read, -⟩ := Emitter.emitWithin_number found type answered
    cases number.symm.trans read
    exact finite

/-- The pieces that the code of a counted loop is made of. -/
structure Site.LoopPieces (site : Site) (answer : BlockId → Except EmitError Fragment)
    (name start stop step body : String) : Prop where
  named : site.text "var" = .ok name
  started : (site.value "start" .disjunction).run answer = .ok start
  stopped : (site.value "end" .disjunction).run answer = .ok stop
  stepped : (site.value "step" .unary).run answer = .ok step
  repeated : (site.statements "do").run answer = .ok body

namespace Emitter

/-- Every number block with the number `x` is emitted as `code`. -/
def EmitsNumber (x : Float) (code : String) : Prop :=
  ∀ (w : Workspace) (width : Nat) (open_ : List BlockId) (id : BlockId) (block : Block),
    w.get? id = some block → id ∉ open_ → block.type = "math_number" →
      (block.fieldValue "num" (.number 0)).number? = some x →
        ∃ tier, (standard width).emitWithin w open_ id = .ok ⟨code, tier⟩

theorem emitsNumber {x : Float} (finite : (ofFloat x).isFinite) :
    EmitsNumber x (FieldValue.numberText (ofFloat x)) :=
  fun _ _ _ _ _ found closed type held =>
    ⟨_, emitWithin_number_of_finite found closed type finite held⟩

/-- A counted loop goes down exactly if its step is a number block with a number below zero. -/
theorem countedLoop_direction (w : Workspace) (width : Nat) (open_ : List BlockId) (id : BlockId)
    (block : Block) (fragment : Fragment) (found : w.get? id = some block)
    (type : block.type = "controls_for")
    (emitted : (standard width).emitWithin w open_ id = .ok fragment) :
    ∃ name start stop step body,
      Site.LoopPieces ⟨w, .standard, (standard width).unit, id, block⟩
        ((standard width).emitWithin w (id :: open_)) name start stop step body ∧
      ((∃ size body', fragment.code = descendingLoop name start stop size body') ↔
        ∃ x, StepsDown w block x) ∧
      (∀ x, StepsDown w block x → ∃ y size, ofFloat y = (ofFloat x).neg ∧ EmitsNumber y size ∧
        fragment.code = descendingLoop name start stop size body) ∧
      ((¬ ∃ x, StepsDown w block x) →
        fragment.code = ascendingLoop name start stop step body) := by
  obtain ⟨block', declaration, renderer, raw, found', closed, known, rendered, ran, rfl⟩ :=
    emitWithin_eq_ok emitted
  cases found.symm.trans found'
  have same : Renderers.standard? block.type = some Renderers.countedLoop := by
    rw [type]
    rfl
  cases rendered.symm.trans same
  let site : Site := ⟨w, .standard, (standard width).unit, id, block⟩
  have palette : site.palette = .standard := rfl
  have ran : (Renderers.countedLoop site).run _ = .ok raw := ran
  obtain ⟨name, start, stop, step, body, named, startRan, stopRan, stepRan, bodyRan, spelled⟩ :=
    Site.countedLoop_run ran
  obtain ⟨tree, inside, -⟩ := Site.reads_value palette (expressive_emitWithin _ width _)
    (by rw [type]; rfl) reads_one stepRan
  have operand := Site.signOperand_value palette (by rw [type]; rfl)
    ⟨'1', [], rfl, by decide, by decide⟩ (by simp) inside stepRan
  have finite (x : Float) (down : StepsDown w block x) := down.isFinite site stepRan
  have size_eq (x : Float) (down : StepsDown w block x) := down.stepSize?_eq inside (finite x down)
  refine ⟨name, start, stop, step, body, ⟨named, startRan, stopRan, stepRan, bodyRan⟩, ?_⟩
  rcases countedHead_eq operand name start stop with ⟨unsigned, head⟩ | ⟨size, signed, -, head⟩
  · have code : raw.code = ascendingLoop name start stop step body :=
      spelled.trans (congrArg (fun head => head ++ body ++ "\x7d\n") head)
    have up : ¬ ∃ x, StepsDown w block x := by
      rintro ⟨x, down⟩
      rw [size_eq x down] at unsigned
      cases unsigned
    refine ⟨iff_of_false ?_ up, fun x down => absurd ⟨x, down⟩ up, fun _ => code⟩
    rintro ⟨size, body', other⟩
    exact ascendingLoop_ne_descendingLoop (code.symm.trans other)
  · have code : raw.code = descendingLoop name start stop size body :=
      spelled.trans (congrArg (fun head => head ++ body ++ "\x7d\n") head)
    have turned := exists_stepsDown inside signed
    refine ⟨iff_of_true ⟨size, body, code⟩ turned, fun x down => ?_, fun up => absurd turned up⟩
    have finite := finite x down
    have size_eq := size_eq x down
    obtain ⟨-, -, -, -, -, -, below⟩ := down
    obtain ⟨y, opposite⟩ := BinaryNumber.exists_opposite finite below
    have written : FieldValue.numberText (ofFloat y) = size := by
      rw [opposite]
      exact Option.some.inj (size_eq.symm.trans signed)
    have emits : EmitsNumber y (FieldValue.numberText (ofFloat y)) :=
      emitsNumber (by rw [opposite, BinaryNumber.isFinite_neg]; exact finite)
    exact ⟨y, size, opposite, written ▸ emits, code⟩

/-- A loop in steps of minus two and a half. -/
theorem countedLoop_direction_down :
    let handler : Block :=
      { type := "process_instruction", fields := ∅
        slots := Std.ExtTreeMap.insert ∅ "body" (.chain ⟨"f"⟩) }
    let loop : Block :=
      { type := "controls_for", fields := ∅, seat := some ⟨⟨"h"⟩, "body"⟩
        slots := Std.ExtTreeMap.insert ∅ "step" (.single ⟨"s"⟩) }
    let step : Block :=
      { type := "math_number", fields := Std.ExtTreeMap.insert ∅ "num" (.text "-2.5")
        seat := some ⟨⟨"f"⟩, "step"⟩ }
    let w : Workspace :=
      { palette := .standard
        blocks := Std.ExtTreeMap.insert
          (Std.ExtTreeMap.insert (Std.ExtTreeMap.insert ∅ ⟨"h"⟩ handler) ⟨"f"⟩ loop) ⟨"s"⟩ step
        roots := [⟨"h"⟩] }
    let code := "for i in (0..=0).rev().step_by(2.5 as usize) \x7b\n\x7d\n"
    w.get? ⟨"f"⟩ = some loop ∧ loop.type = "controls_for" ∧
      (standard 4).emitWithin w [⟨"h"⟩] ⟨"f"⟩ = .ok ⟨code, none⟩ ∧
      ∃ x name start stop size body, StepsDown w loop x ∧
        code = descendingLoop name start stop size body := by
  intro handler loop step w code
  have found : w.get? ⟨"f"⟩ = some loop := by rfl
  have emitted : (standard 4).emitWithin w [⟨"h"⟩] ⟨"f"⟩ = .ok ⟨code, none⟩ := by decide +kernel
  obtain ⟨name, start, stop, -, body, -, -, turned, -⟩ :=
    countedLoop_direction w 4 [⟨"h"⟩] _ _ _ found rfl emitted
  obtain ⟨x, held, value⟩ : ∃ x, (step.fieldValue "num" (.number 0)).number? = some x ∧
      ofFloat x = .finite true 0x14000000000000 (-51) :=
    Option.map_eq_some_iff.1 (by decide +kernel)
  have down : StepsDown w loop x := ⟨⟨"s"⟩, step, rfl, rfl, rfl, held, by rw [value]; rfl⟩
  obtain ⟨y, size, -, -, same⟩ := turned x down
  exact ⟨found, rfl, emitted, x, name, start, stop, size, body, down, same⟩

end Emitter

end SolanaBlocks
