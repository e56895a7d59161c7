import Mathlib.Tactic.Ring
import Typeahead.Value.Access

namespace Typeahead.Decimal

/-! Floating-point numbers that are neither negative nor infinite. A bound on the exponent is carried through rounding,
packing and products; it is a coarse one, and far from what cannot be represented for every whole number that fits
into a word. -/

open Float.Model Float.Model.UnpackedFloat

/-- Not negative, and finite with an exponent that a bound limits. -/
inductive Moderate (bound : Int) : UnpackedFloat → Prop
  | zero : Moderate bound (.zero .positive)
  | finite {mantissa : Nat} {exponent : Int} (positive : 0 < mantissa) (low : exponent ≤ bound) :
    Moderate bound (.finite .positive mantissa exponent positive)

theorem Moderate.mono {bound larger : Int} {number : UnpackedFloat} (moderate : Moderate bound number)
    (le : bound ≤ larger) : Moderate larger number := by
  cases moderate with
  | zero => exact .zero
  | finite positive low => exact .finite positive (low.trans le)

section Rounding

theorem mantissa_shiftRight_le (extended : ExtendedMantissa) (count : Nat) :
    (extended >>> count).mantissa ≤ extended.mantissa := by
  induction count with
  | zero => exact Nat.le_refl _
  | succ count ih => exact (Nat.div_le_self _ 2).trans ih

theorem roundedMantissa_le (extended : ExtendedMantissa) : extended.roundedMantissa ≤ extended.mantissa + 1 := by
  obtain ⟨mantissa, roundBit, stickyBit⟩ := extended
  cases roundBit <;> cases stickyBit <;>
    simp [ExtendedMantissa.roundedMantissa, ExtendedMantissa.accuracy, Accuracy.roundToNearestEven]
  omega

theorem shiftToTargetExponent_le {mantissa digits : Nat} {exponent bound : Int} (few : mantissa < 2 ^ digits)
    (enough : 52 < digits) (low : exponent ≤ bound) (normal : -1074 ≤ bound) :
    (shiftToTargetExponent Format.binary64 mantissa exponent .exact).2 ≤ bound + digits - 53 ∧
      (shiftToTargetExponent Format.binary64 mantissa exponent .exact).1.mantissa ≤ mantissa := by
  have length : mantissa.log2 < digits := by
    by_cases zero : mantissa = 0
    · rw [zero, Nat.log2_zero]
      omega
    · exact (Nat.log2_lt zero).mpr few
  have bits : Format.binary64.mantissaBits = 53 := rfl
  constructor
  · simp only [shiftToTargetExponent, shiftToExponent, Format.targetExponent, totalExponent, bits, Format.minExponent]
    norm_num
    omega
  · exact mantissa_shiftRight_le _ _

/-- Rounding raises the exponent by no more than the mantissa is too long, for each of its two shifts. -/
theorem moderate_round {mantissa : Nat} {exponent bound : Int} (few : mantissa < 2 ^ 128) (low : exponent ≤ bound)
    (normal : -1074 ≤ bound) :
    Moderate (bound + 151) (roundWithAccuracy Format.binary64 .positive mantissa exponent .exact) := by
  have once := shiftToTargetExponent_le few (by omega) low normal
  rcases shifted : shiftToTargetExponent Format.binary64 mantissa exponent .exact with ⟨extended, raised⟩
  rw [shifted] at once
  obtain ⟨isRaised, isShifted⟩ := once
  have raisedLow : raised ≤ bound + 75 := by omega
  have carried : extended.roundedMantissa < 2 ^ 129 := by
    have rounded := roundedMantissa_le extended
    have shorter : extended.mantissa ≤ mantissa := isShifted
    omega
  have twice := shiftToTargetExponent_le carried (by omega) raisedLow (by omega)
  rcases again : shiftToTargetExponent Format.binary64 extended.roundedMantissa raised .exact with ⟨last, final⟩
  rw [again] at twice
  unfold roundWithAccuracy
  rw [shifted]
  dsimp only
  rw [again]
  dsimp only
  by_cases vanished : last.mantissa = 0
  · rw [dif_pos vanished]
    exact .zero
  · rw [dif_neg vanished]
    exact .finite _ (by omega)

end Rounding

section Packing

theorem unpackSign_packComponents {spec : Format} (sign : Sign) (exponent : BitVec spec.exponentBits)
    (mantissa : BitVec spec.mantissaBitsWithoutImplicit) :
    unpackSign (packComponents spec sign exponent mantissa) = sign.toBitVec := by
  change BitVec.cast _ (BitVec.extractLsb _ _ (sign.toBitVec ++ exponent ++ mantissa)) = sign.toBitVec
  ext bit inside
  have only : bit = 0 := by omega
  subst only
  simp [BitVec.getLsbD_append, BitVec.getElem_append]

/-- What the bits of a number can stand for. -/
theorem unpack_cases (bits : BitVec 64) :
    (@unpackExponent Format.binary64 bits).toNat = 2047 ∧
        (UnpackedFloat.unpack Format.binary64 bits = .infinity (.ofBitVec (@unpackSign Format.binary64 bits)) ∨
          UnpackedFloat.unpack Format.binary64 bits = .notANumber) ∨
      UnpackedFloat.unpack Format.binary64 bits = .zero (.ofBitVec (@unpackSign Format.binary64 bits)) ∨
      ∃ (mantissa : Nat) (exponent : Int) (positive : 0 < mantissa), mantissa < 2 ^ 53 ∧
        exponent ≤ max 1 ((@unpackExponent Format.binary64 bits).toNat : Int) - 1075 ∧
        UnpackedFloat.unpack Format.binary64 bits =
          .finite (.ofBitVec (@unpackSign Format.binary64 bits)) mantissa exponent positive := by
  unfold UnpackedFloat.unpack
  dsimp only
  by_cases all : @unpackExponent Format.binary64 bits = -1#11
  · refine .inl ⟨congrArg BitVec.toNat all, ?_⟩
    rw [if_pos all]
    exact (em _).imp (if_pos ·) (if_neg ·)
  · rw [if_neg all]
    refine .inr ?_
    by_cases least : @unpackExponent Format.binary64 bits = 0#11
    · rw [if_pos least]
      by_cases zero : @unpackMantissa Format.binary64 bits = 0#52
      · exact .inl (dif_pos zero)
      · have positive : 0 < (@unpackMantissa Format.binary64 bits).toNat :=
          Nat.pos_of_ne_zero fun none => zero (BitVec.eq_of_toNat_eq none)
        have few := (@unpackMantissa Format.binary64 bits).isLt.trans (show 2 ^ 52 < 2 ^ 53 by decide)
        exact .inr ⟨_, _, positive, few, by rw [least]; decide, dif_neg zero⟩
    · rw [if_neg least]
      have positive : 0 < (1#1 ++ @unpackMantissa Format.binary64 bits).toNat := by
        rw [BitVec.toNat_append]
        exact Nat.lt_of_lt_of_le (by decide) Nat.left_le_or
      exact .inr ⟨_, _, positive, (1#1 ++ unpackMantissa _).isLt, Int.sub_le_sub_right (le_max_right _ _) _, rfl⟩

theorem moderate_unpack {bound : Int} {bits : BitVec 64}
    (positive : Sign.ofBitVec (@unpackSign Format.binary64 bits) = .positive)
    (finite : (@unpackExponent Format.binary64 bits).toNat < 2047)
    (low : ((@unpackExponent Format.binary64 bits).toNat : Int) - 1075 ≤ bound) (normal : -1074 ≤ bound) :
    Moderate bound (UnpackedFloat.unpack Format.binary64 bits) := by
  have cases := unpack_cases bits
  rw [positive] at cases
  rcases cases with ⟨all, _⟩ | zero | ⟨mantissa, exponent, nonzero, _, small, isFinite⟩
  · omega
  · rw [zero]
    exact .zero
  · rw [isFinite]
    exact .finite nonzero (by omega)

theorem moderate_components {bound : Int} (exponent : BitVec 11) (mantissa : BitVec 52) (finite : exponent.toNat < 2047)
    (low : (exponent.toNat : Int) - 1075 ≤ bound) (normal : -1074 ≤ bound) :
    Moderate bound
      (UnpackedFloat.unpack Format.binary64 (packComponents Format.binary64 .positive exponent mantissa)) := by
  have isExponent : unpackExponent (packComponents Format.binary64 .positive exponent mantissa) = exponent :=
    unpackExponent_packComponents
  refine moderate_unpack ?_ (by rwa [isExponent]) (by rwa [isExponent]) normal
  exact congrArg Sign.ofBitVec (@unpackSign_packComponents Format.binary64 .positive exponent mantissa)

/-- A moderate number can be represented. -/
theorem moderate_unpack_pack {bound : Int} {number : UnpackedFloat} (moderate : Moderate bound number)
    (small : bound ≤ 971) (normal : -1074 ≤ bound) : Moderate bound (Float.Model.pack number).unpack := by
  cases moderate with
  | zero => exact moderate_components 0#11 0#52 (by decide) (by simpa using by omega) normal
  | @finite mantissa exponent positive low =>
      have bias : (Format.binary64.exponentBias : Int) = 1023 := rfl
      change Moderate bound (UnpackedFloat.unpack Format.binary64 (UnpackedFloat.pack Format.binary64 _))
      unfold UnpackedFloat.pack
      dsimp only
      split
      · omega
      · rename_i fits
        generalize isBiased :
          (exponent + (Format.binary64.exponentBias : Int) + ((52 : Nat) : Int)).toNat = biased at fits
        have kept : (BitVec.ofNat 11 biased).toNat = biased := by
          rw [BitVec.toNat_ofNat]
          exact Nat.mod_eq_of_lt (by omega)
        split
        · exact moderate_components _ _ (by rw [kept]; omega) (by rw [kept]; omega) normal
        · exact moderate_components 0#11 _ (by decide) (by simpa using by omega) normal

theorem mantissa_lt {number : Float.Model} {sign : Sign} {mantissa : Nat} {exponent : Int} {positive : 0 < mantissa}
    (finite : number.unpack = .finite sign mantissa exponent positive) : mantissa < 2 ^ 53 := by
  change UnpackedFloat.unpack Format.binary64 _ = _ at finite
  rcases unpack_cases number.toBits.toBitVec with ⟨_, infinite | notNumber⟩ | zero | ⟨_, _, _, few, _, isFinite⟩
  · cases infinite.symm.trans finite
  · cases notNumber.symm.trans finite
  · cases zero.symm.trans finite
  · cases isFinite.symm.trans finite
    exact few

theorem moderate_mul {left right : Float.Model} {first second : Int} (ofLeft : Moderate first left.unpack)
    (ofRight : Moderate second right.unpack) (small : first + second ≤ 820) (normal : -1074 ≤ first + second) :
    Moderate (first + second + 151) (left * right).unpack := by
  have product : Moderate (first + second + 151) (UnpackedFloat.mul Format.binary64 left.unpack right.unpack) := by
    generalize isLeft : left.unpack = leftNumber at ofLeft
    generalize isRight : right.unpack = rightNumber at ofRight
    cases ofLeft with
    | zero =>
        cases ofRight with
        | zero => exact .zero
        | finite => exact .zero
    | finite positive low =>
        cases ofRight with
        | zero => exact .zero
        | finite otherPositive otherLow =>
            have few := Nat.mul_lt_mul'' (mantissa_lt isLeft) (mantissa_lt isRight)
            exact moderate_round (by omega) (by omega) normal
  exact moderate_unpack_pack product (by omega) (by omega)

end Packing

section Words

theorem shiftLeft_lt {number count : Nat} (word : number < 2 ^ 64) (short : count ≤ 53) :
    number <<< count < 2 ^ 128 := by
  rw [Nat.shiftLeft_eq]
  calc
    number * 2 ^ count ≤ number * 2 ^ 53 := Nat.mul_le_mul_left _ (Nat.pow_le_pow_right (by omega) short)
    _ < 2 ^ 128 := by omega

theorem moderate_ofNat {number : Nat} (word : number < 2 ^ 64) : Moderate 151 (Float.Model.ofNat number).unpack := by
  refine moderate_unpack_pack ?_ (by omega) (by omega)
  cases number with
  | zero => exact .zero
  | succ number =>
      have bits : Format.binary64.mantissaBits = 53 := rfl
      have shift : (0 - Format.binary64.targetExponent (totalExponent (number + 1) 0)).toNat ≤ 53 := by
        simp only [Format.targetExponent, totalExponent, bits, Format.minExponent]
        norm_num
        omega
      have lower : 0 - ((0 - Format.binary64.targetExponent (totalExponent (number + 1) 0)).toNat : Int) ≤ 0 := by
        omega
      exact moderate_round (shiftLeft_lt word shift) lower (by omega)

theorem moderate_ofScientific {number : Nat} (word : number < 2 ^ 64) :
    Moderate 98 (Float.Model.ofScientific number 0).unpack := by
  have exponents : (0 : Int) < 2 ^ Format.binary64.exponentBits := by decide
  refine moderate_unpack_pack ?_ (by omega) (by omega)
  unfold UnpackedFloat.ofScientific
  by_cases zero : number = 0
  · rw [dif_pos zero]
    exact .zero
  · rw [dif_neg zero, if_neg (by decide), if_neg (by omega), if_pos (by decide)]
    have bits : Format.binary64.mantissaBits ≤ 53 := by decide
    have few : number <<< Format.binary64.mantissaBits * 10 ^ (0 : Int).toNat < 2 ^ 128 := by
      simpa using shiftLeft_lt word bits
    have low : -(Format.binary64.mantissaBits : Int) + 0 ≤ -53 := by decide
    exact moderate_round few low (by omega)

theorem moderate_float_ofNat {number : Nat} (word : number < 2 ^ 64) :
    Moderate 250 (Float.ofNat number).toModel.unpack := by
  have one : Moderate (-52) (Float.ofBits 0x3FF0000000000000).toModel.unpack := .finite _ (by decide)
  change Moderate 250 (Float.ofScientific number false 0).toModel.unpack
  unfold Float.ofScientific
  split
  · exact moderate_mul (moderate_ofNat number.toUInt64.toNat_lt) one (by omega) (by omega)
  · exact (moderate_ofScientific word).mono (by omega)

end Words

section Truncation

theorem unpackSign_of_moderate {bound : Int} {bits : BitVec 64}
    (moderate : Moderate bound (UnpackedFloat.unpack Format.binary64 bits)) :
    @unpackSign Format.binary64 bits = 0#1 := by
  by_contra isSet
  have negative : Sign.ofBitVec (@unpackSign Format.binary64 bits) = .negative := if_neg isSet
  have cases := unpack_cases bits
  rw [negative] at cases
  rcases cases with ⟨_, unpacked | unpacked⟩ | unpacked | ⟨_, _, _, _, _, unpacked⟩ <;>
    · rw [unpacked] at moderate
      cases moderate

theorem isNegative_of_moderate {bound : Int} {number : Float} (moderate : Moderate bound number.toModel.unpack) :
    isNegative number = false := by
  have isBits : number.toBits = number.toModel.toBits := rfl
  have first : number.toModel.toBits.toNat >>> 63 % 2 = 0 := by
    have cleared : BitVec.cast _ (BitVec.extractLsb 63 63 number.toModel.toBits.toBitVec) = 0#1 :=
      unpackSign_of_moderate moderate
    simpa using congrArg BitVec.toNat cleared
  have size := number.toModel.toBits.toNat_lt
  rw [Nat.shiftRight_eq_div_pow] at first
  simp only [isNegative, isBits, beq_eq_false_iff_ne, Nat.pow_eq]
  omega

/-- The whole part of a moderate number is there. -/
theorem truncate_of_moderate {bound : Int} {number : Float} (moderate : Moderate bound number.toModel.unpack) :
    ∃ whole : Nat, Value.truncate number = .ok whole := by
  have isFinite : number.isNaN = false ∧ number.isInf = false := by
    change number.toModel.unpack.isNaN = false ∧ number.toModel.unpack.isInf = false
    generalize number.toModel.unpack = unpacked at moderate
    cases moderate with
    | zero => exact ⟨rfl, rfl⟩
    | finite => exact ⟨rfl, rfl⟩
  rw [Value.truncate, isFinite.1, isFinite.2, isNegative_of_moderate moderate]
  exact ⟨_, rfl⟩

end Truncation

end Typeahead.Decimal
