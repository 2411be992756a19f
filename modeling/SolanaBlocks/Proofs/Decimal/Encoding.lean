import Mathlib.Algebra.Group.Nat.Defs
import Mathlib.Tactic.ByContra
import SolanaBlocks.Decimal.Binary

/-!
# Floats and their encodings

A float keeps the bits it is made of, except that all encodings of not-a-number become one. So the
number that a float made of bits stands for is the number that the bits encode.
-/

namespace SolanaBlocks

open Float.Model Float.Model.UnpackedFloat

theorem packComponents_unpack (b : BitVec 64) :
    packComponents .binary64 (Sign.ofBitVec (@unpackSign .binary64 b))
      (@unpackExponent .binary64 b) (@unpackMantissa .binary64 b) = b := by
  have sign : (Sign.ofBitVec (@unpackSign .binary64 b)).toBitVec = @unpackSign .binary64 b := by
    generalize @unpackSign .binary64 b = s
    revert s
    decide
  have signBit : @unpackSign .binary64 b = BitVec.cast rfl (b.extractLsb (52 + 11) (52 + 11)) := rfl
  rw [packComponents, sign, signBit]
  apply BitVec.eq_of_getLsbD_eq
  intro i below
  have width : i < 64 := below
  simp only [BitVec.getLsbD_append, unpackMantissa, unpackExponent,
    BitVec.getLsbD_cast, BitVec.getLsbD_extractLsb]
  split
  · simp only [Bool.and_eq_right_iff_imp, Nat.zero_add, decide_eq_true_eq]
    omega
  · split
    · have same : 52 + (i - 52) = i := by omega
      simp only [same, Bool.and_eq_right_iff_imp, decide_eq_true_eq]
      omega
    · have same : 52 + 11 + (i - 52 - 11) = i := by omega
      simp only [same, Bool.and_eq_right_iff_imp, decide_eq_true_eq]
      omega

/-- A finite number is packed by the length of its significand. -/
theorem pack_finite (s : Sign) (m : Nat) (exponent : Int) (some : 0 < m) :
    UnpackedFloat.pack .binary64 (.finite s m exponent some) =
      if 2 ^ 11 ≤ (exponent + 1023 + 52).toNat + 1 then packedInfinity .binary64 s
      else if m.log2 + 1 = 53 then
        packComponents .binary64 s (BitVec.ofNat 11 (exponent + 1023 + 52).toNat) (BitVec.ofNat 52 m)
      else packComponents .binary64 s 0#11 (BitVec.ofNat 52 m) := rfl

/-- A number below the normal ones has the exponent zero. -/
theorem pack_subnormal (s : Sign) (m : BitVec 52) (exponent : Int) (some : 0 < m.toNat)
    (least : exponent = -1074) :
    UnpackedFloat.pack .binary64 (.finite s m.toNat exponent some) =
      packComponents .binary64 s 0#11 m := by
  subst least
  have low : m.toNat.log2 < 52 := (Nat.log2_lt (Nat.pos_iff_ne_zero.1 some)).2 m.isLt
  have short : ¬ m.toNat.log2 + 1 = 53 := by omega
  have fits : BitVec.ofNat 52 m.toNat = m := by simp
  rw [pack_finite, if_neg (by decide), if_neg short]
  exact congrArg (packComponents .binary64 s 0#11) fits

/-- The leading bit of a normal number is not written. -/
theorem pack_normal (s : Sign) (e : BitVec 11) (m : BitVec 52) (finite : e.toNat < 2047)
    (exponent : Int) (some : 0 < (1#1 ++ m).toNat) (shifted : exponent = e.toNat - 1075) :
    UnpackedFloat.pack .binary64 (.finite s (1#1 ++ m).toNat exponent some) =
      packComponents .binary64 s e m := by
  subst shifted
  have bound : m.toNat < 2 ^ 52 := m.isLt
  have value : (1#1 ++ m).toNat = 2 ^ 52 + m.toNat := by
    rw [BitVec.toNat_append]
    change 1 <<< 52 ||| m.toNat = _
    rw [← Nat.shiftLeft_add_eq_or_of_lt bound]
    rfl
  have log : (1#1 ++ m).toNat.log2 = 52 := by
    rw [value]
    refine (Nat.log2_eq_iff (by omega)).2 ?_
    omega
  have long : (1#1 ++ m).toNat.log2 + 1 = 53 := by rw [log]
  have biased : ((e.toNat : Int) - 1075 + 1023 + 52).toNat = e.toNat := by omega
  have small : ¬ 2 ^ 11 ≤ ((e.toNat : Int) - 1075 + 1023 + 52).toNat + 1 := by omega
  have exponent : BitVec.ofNat 11 ((e.toNat : Int) - 1075 + 1023 + 52).toNat = e := by
    rw [biased]
    simp
  have mantissa : BitVec.ofNat 52 (1#1 ++ m).toNat = m := by
    refine BitVec.eq_of_toNat_eq ?_
    rw [BitVec.toNat_ofNat, value]
    omega
  rw [pack_finite, if_neg small, if_pos long]
  exact congrArg₂ (packComponents .binary64 s) exponent mantissa

theorem pack_unpack {b : BitVec 64}
    (number : ¬ (@unpackExponent .binary64 b = -1#_ ∧ @unpackMantissa .binary64 b ≠ 0#_)) :
    UnpackedFloat.pack .binary64 (UnpackedFloat.unpack .binary64 b) = b := by
  have whole := packComponents_unpack b
  unfold UnpackedFloat.unpack
  dsimp only
  by_cases top : @unpackExponent .binary64 b = -1#_
  · have zero : @unpackMantissa .binary64 b = 0#_ := by
      by_contra other
      exact number ⟨top, other⟩
    rw [if_pos top, if_pos zero]
    rw [top, zero] at whole
    exact whole
  · have below : (@unpackExponent .binary64 b).toNat < 2047 := by
      have bound : (@unpackExponent .binary64 b).toNat < 2048 := (@unpackExponent .binary64 b).isLt
      have differ : (@unpackExponent .binary64 b).toNat ≠ 2047 :=
        fun same => top (BitVec.eq_of_toNat_eq same)
      omega
    rw [if_neg top]
    by_cases bottom : @unpackExponent .binary64 b = 0#_
    · rw [if_pos bottom]
      by_cases zero : @unpackMantissa .binary64 b = 0#_
      · rw [dif_pos zero]
        rw [bottom, zero] at whole
        exact whole
      · rw [dif_neg zero, bottom]
        rw [bottom] at whole
        exact (pack_subnormal _ _ _ _ (by decide)).trans whole
    · rw [if_neg bottom]
      exact (pack_normal _ _ _ below _ _ (by rfl)).trans whole

theorem unpack_of_nan {b : BitVec 64} (top : @unpackExponent .binary64 b = -1#_)
    (some : @unpackMantissa .binary64 b ≠ 0#_) : UnpackedFloat.unpack .binary64 b = .notANumber := by
  unfold UnpackedFloat.unpack
  rw [if_pos top, if_neg some]

theorem toBits_ofBits (n : UInt64) :
    (Float.ofBits n).toBits =
      UInt64.ofBitVec (UnpackedFloat.pack .binary64 (UnpackedFloat.unpack .binary64 n.toBitVec)) :=
  rfl

theorem ext_toBits {x y : Float} (same : x.toBits = y.toBits) : x = y := by
  obtain ⟨⟨_, _⟩⟩ := x
  obtain ⟨⟨_, _⟩⟩ := y
  cases same
  rfl

/-- A float is made of its bits. Not-a-number has the bits that all its encodings become. -/
theorem ofBits_toBits (x : Float) : Float.ofBits x.toBits = x := by
  refine ext_toBits ?_
  rw [toBits_ofBits]
  by_cases number : @unpackExponent .binary64 x.toBits.toBitVec = -1#_ ∧
      @unpackMantissa .binary64 x.toBits.toBitVec ≠ 0#_
  · obtain ⟨top, some⟩ := number
    rw [unpack_of_nan top some]
    exact congrArg UInt64.ofBitVec (x.toModel.valid.eq_packedNaN top some).symm
  · rw [pack_unpack number]

theorem toNat_unpackMantissa (b : BitVec 64) :
    (@unpackMantissa .binary64 b).toNat = b.toNat % 2 ^ 52 := by
  simp [unpackMantissa, BitVec.extractLsb]

theorem toNat_unpackExponent (b : BitVec 64) :
    (@unpackExponent .binary64 b).toNat = b.toNat / 2 ^ 52 % 2 ^ 11 := by
  simp [unpackExponent, BitVec.extractLsb, Nat.shiftRight_eq_div_pow]

/-- The number of a float made of bits is the number that the bits encode. -/
theorem BinaryNumber.ofFloat_ofBits (n : UInt64) :
    BinaryNumber.ofFloat (Float.ofBits n) = BinaryFormat.double.decode n.toNat := by
  by_cases number : @unpackExponent .binary64 n.toBitVec = -1#_ ∧
      @unpackMantissa .binary64 n.toBitVec ≠ 0#_
  · obtain ⟨top, some⟩ := number
    have above : BinaryFormat.double.infinityCode < n.toNat % BinaryFormat.double.signWeight := by
      have exponent := congrArg BitVec.toNat top
      have mantissa : (@unpackMantissa .binary64 n.toBitVec).toNat ≠ 0 :=
        fun zero => some (BitVec.eq_of_toNat_eq zero)
      rw [toNat_unpackExponent] at exponent
      rw [toNat_unpackMantissa] at mantissa
      change 9218868437227405312 < n.toNat % 9223372036854775808
      change n.toNat / 2 ^ 52 % 2 ^ 11 = 2047 at exponent
      change n.toNat % 2 ^ 52 ≠ 0 at mantissa
      omega
    have encoded : BinaryFormat.double.decode n.toNat = .nan := if_pos above
    rw [BinaryNumber.ofFloat, toBits_ofBits, unpack_of_nan top some, encoded]
    rfl
  · rw [BinaryNumber.ofFloat, toBits_ofBits, pack_unpack number]

end SolanaBlocks
