import SolanaBlocks.Proofs.Decimal.Integers
import SolanaBlocks.Proofs.Precedence.Expressions

/-!
# Number literals

A number block is emitted as the number in its field, if that is finite. An integer that fits 64 bits
is emitted as its numeral, and a number with a fraction as a decimal that reads as that very number.
An integer beyond 64 bits is emitted as the end of the range that it lies beyond, so the literal is
that of another number.
-/

namespace SolanaBlocks

open BinaryNumber (ofFloat)

/-- The literal of a number: the numeral of an integer, with the integers beyond 64 bits cut to that
range, or a decimal that reads as the number. -/
structure NumberLiteral (x : Float) (q : ℚ) (code : String) : Prop where
  value : (ofFloat x).rational? = some q
  decimal : ∃ digits, Decimal.Numeral digits ∧
    code.toList = Decimal.minus (decide (q < 0)) ++ digits
  integer : ∀ z : ℤ, q = z → -9223372036854775808 ≤ z → z ≤ 9223372036854775807 → code = toString z
  above : ∀ z : ℤ, q = z → 9223372036854775807 < z → code = "9223372036854775807"
  below : ∀ z : ℤ, q = z → z < -9223372036854775808 → code = "-9223372036854775808"
  fraction : (∀ z : ℤ, q ≠ z) → Decimal.readFloat? code = some x

theorem numberLiteral_numberText {x : Float} (finite : (ofFloat x).isFinite) :
    ∃ q, NumberLiteral x q (FieldValue.numberText (ofFloat x)) := by
  obtain ⟨q, value⟩ := Option.isSome_iff_exists.1 (BinaryNumber.rational?_isSome.2 finite)
  have whole (z : ℤ) (same : q = z) := FieldValue.numberText_integer (same ▸ value)
  refine ⟨q, value, ?_, fun z same least greatest => ?_, fun z same beyond => ?_,
    fun z same beyond => ?_, fun broken => ?_⟩
  · obtain ⟨digits, written, spelled⟩ := Decimal.numberText_toList finite
    have sign : (ofFloat x).isBelowZero = decide (q < 0) :=
      Bool.eq_iff_iff.2 ((BinaryNumber.isBelowZero_iff value).trans decide_eq_true_iff.symm)
    exact ⟨digits, written.numeral, sign ▸ spelled⟩
  · have inside : max (-9223372036854775808) (min 9223372036854775807 z) = z := by omega
    rw [whole z same, inside]
  · have cut : max (-9223372036854775808) (min 9223372036854775807 z) = 9223372036854775807 := by
      omega
    rw [whole z same, cut]
    rfl
  · have cut : max (-9223372036854775808) (min 9223372036854775807 z) = -9223372036854775808 := by
      omega
    rw [whole z same, cut]
    rfl
  · rw [FieldValue.numberText_fraction value broken]
    exact Decimal.readFloat?_plain finite

namespace Emitter

variable {w : Workspace} {width : Nat} {open_ : List BlockId} {id : BlockId} {block : Block}
  {fragment : Fragment}

theorem emitWithin_number (found : w.get? id = some block) (type : block.type = "math_number")
    (emitted : (standard width).emitWithin w open_ id = .ok fragment) :
    ∃ x, (ofFloat x).isFinite ∧ (block.fieldValue "num" (.number 0)).number? = some x ∧
      fragment.code = FieldValue.numberText (ofFloat x) := by
  obtain ⟨block', declaration, renderer, raw, found', closed, known, rendered, ran, rfl⟩ :=
    emitWithin_eq_ok emitted
  cases found.symm.trans found'
  have same : Renderers.standard? block.type = some Renderers.numberLiteral := by
    rw [type]
    rfl
  cases rendered.symm.trans same
  let site : Site := ⟨w, .standard, (standard width).unit, id, block⟩
  have palette : site.palette = .standard := rfl
  obtain ⟨x, finite, held, -, rfl⟩ := Site.numberLiteral_run palette type ran
  exact ⟨x, finite, held, rfl⟩

/-- A number block with a finite number is emitted. -/
theorem emitWithin_number_of_finite {x : Float} (found : w.get? id = some block)
    (closed : id ∉ open_) (type : block.type = "math_number") (finite : (ofFloat x).isFinite)
    (held : (block.fieldValue "num" (.number 0)).number? = some x) :
    (standard width).emitWithin w open_ id = .ok
      { code := FieldValue.numberText (ofFloat x)
        tier := some (if (ofFloat x).isBelowZero then .unary else .atomic) } := by
  obtain ⟨declaration, known, anywhere, produces, field⟩ :
      ∃ declaration, Palette.standard.get? block.type = some declaration ∧
        declaration.placement = .anywhere ∧ declaration.producesValue ∧
        declaration.field? "num" = some (.ofNumber "num" 0) := by
    rw [type]
    exact ⟨_, rfl, rfl, rfl, rfl⟩
  have rendered : (standard width).renderer? block.type = some Renderers.numberLiteral := by
    rw [type]
    rfl
  let site : Site := ⟨w, .standard, (standard width).unit, id, block⟩
  have read : site.number "num" = .ok (ofFloat x) :=
    Site.number_of_finite (Site.fieldDecl_eq_ok_iff.2 ⟨declaration, known, field⟩) finite
      (congrArg (Option.map ofFloat) held)
  have ran : (Renderers.numberLiteral site).run ((standard width).emitWithin w (id :: open_)) =
      .ok
        { code := FieldValue.numberText (ofFloat x)
          tier := some (if (ofFloat x).isBelowZero then .unary else .atomic) } := by
    rw [Renderers.numberLiteral, Rendering.run_bind, Rendering.run_ofExcept, read]
    rfl
  rw [emitWithin_of_run found closed known rendered (by rw [anywhere]; rfl) ran]
  simp [Except.map, settleTier, produces]

/-- The code of a number block is the literal of the number in its field. -/
theorem numberLiteral_emitWithin (w : Workspace) (width : Nat) (open_ : List BlockId) (id : BlockId)
    (block : Block) (fragment : Fragment) (found : w.get? id = some block)
    (type : block.type = "math_number")
    (emitted : (standard width).emitWithin w open_ id = .ok fragment) :
    ∃ x q, (block.fieldValue "num" (.number 0)).number? = some x ∧
      NumberLiteral x q fragment.code := by
  obtain ⟨x, finite, held, code⟩ := emitWithin_number found type emitted
  obtain ⟨q, literal⟩ := numberLiteral_numberText finite
  exact ⟨x, q, held, code ▸ literal⟩

/-- A number block with a text that reads as a number with a fraction. -/
theorem numberLiteral_emitWithin_fraction :
    let block : Block :=
      { type := "math_number", fields := Std.ExtTreeMap.insert ∅ "num" (.text " -2.50 ") }
    let w : Workspace :=
      { palette := .standard, blocks := Std.ExtTreeMap.insert ∅ ⟨"n"⟩ block, roots := [⟨"n"⟩] }
    w.get? ⟨"n"⟩ = some block ∧ block.type = "math_number" ∧
      (standard 4).emitWithin w [] ⟨"n"⟩ = .ok ⟨"-2.5", some .unary⟩ ∧
      ∃ x q, (block.fieldValue "num" (.number 0)).number? = some x ∧ NumberLiteral x q "-2.5" := by
  intro block w
  have found : w.get? ⟨"n"⟩ = some block := rfl
  have emitted : (standard 4).emitWithin w [] ⟨"n"⟩ = .ok ⟨"-2.5", some .unary⟩ := by
    decide +kernel
  exact ⟨found, rfl, emitted, numberLiteral_emitWithin w 4 [] _ _ _ found rfl emitted⟩

/-- The integer ten to the nineteenth is beyond 64 bits, and the literal is that of another one. -/
theorem exists_other_integer :
    ∃ (w : Workspace) (block : Block) (x : Float) (code : String),
      w.get? ⟨"n"⟩ = some block ∧ block.type = "math_number" ∧
      block.fields["num"]? = some (.number x) ∧
      (ofFloat x).rational? = some ((10000000000000000000 : ℤ) : ℚ) ∧
      (standard 4).emit w ⟨"n"⟩ = .ok ⟨code, some .atomic⟩ ∧
      code ≠ toString (10000000000000000000 : ℤ) := by
  let x : Float := Float.ofBits 0x43E158E460913D00
  let block : Block :=
    { type := "math_number", fields := Std.ExtTreeMap.insert ∅ "num" (.number x) }
  let w : Workspace :=
    { palette := .standard, blocks := Std.ExtTreeMap.insert ∅ ⟨"n"⟩ block, roots := [⟨"n"⟩] }
  have number : ofFloat x = .finite false 0x1158E460913D00 11 := by decide +kernel
  refine ⟨w, block, x, "9223372036854775807", rfl, rfl, rfl, ?_, by decide +kernel,
    by decide +kernel⟩
  rw [number, BinaryNumber.rational?]
  norm_num

end Emitter

end SolanaBlocks
