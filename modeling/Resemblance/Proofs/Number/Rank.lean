import Resemblance.Number.Binary64
import Resemblance.Proofs.Number.Canonical

/-!
# The rank of floating-point words

The rank puts all words in one order, also those that are not numbers, and no two words have the
same rank. Numbers that differ as numbers are ranked as such; besides, the negative zero ranks just
below the positive one.
-/

namespace Resemblance

namespace Binary64

theorem isNegative_iff (number : Binary64) :
    number.isNegative = true ↔ 2 ^ 63 ≤ number.bits.toNat := by
  have below := number.bits.toNat_lt
  rw [isNegative, decide_eq_true_iff, Nat.shiftRight_eq_div_pow]
  omega

/-- The bits without the sign, with one more below zero. -/
theorem rank_eq (number : Binary64) :
    number.rank =
      if 2 ^ 63 ≤ number.bits.toNat then (2 ^ 63 - 1 - number.bits.toNat : Int)
      else (number.bits.toNat : Int) := by
  rw [rank]
  simp only [number.isNegative_iff]
  rfl

/-- The rank tells all words apart. -/
theorem rank_injective : Function.Injective rank := by
  intro left right same
  rw [rank_eq, rank_eq] at same
  have bitsEq : left.bits = right.bits := by
    apply UInt64.toNat_inj.mp
    split at same <;> split at same <;> omega
  exact congrArg Binary64.mk bitsEq

end Binary64

namespace Score

open Float.Model

/-! ## Ranks of numbers -/

/-- The place of a finite number among those of its sign. -/
def magnitude (significand : Nat) (exponent : Int) : Nat :=
  (exponent + 1074).toNat * 2 ^ 52 + significand

/-- The rank of what is stored in a word that is a number. -/
def rankOf : UnpackedFloat → Int
  | .notANumber => 0
  | .infinity .negative => -1 - 2047 * 2 ^ 52
  | .finite .negative significand exponent _ => -1 - magnitude significand exponent
  | .zero .negative => -1
  | .zero .positive => 0
  | .finite .positive significand exponent _ => magnitude significand exponent
  | .infinity .positive => 2047 * 2 ^ 52

variable {significand other : Nat} {exponent second : Int}

theorem IsCanonical.magnitude_lt (canonical : IsCanonical significand exponent) :
    magnitude significand exponent < 2047 * 2 ^ 52 := by
  rcases canonical with ⟨_, below, least, greatest, _⟩
  rw [magnitude]
  omega

theorem IsCanonical.magnitude_pos (canonical : IsCanonical significand exponent) :
    0 < magnitude significand exponent :=
  Nat.lt_of_lt_of_le canonical.significand_pos (Nat.le_add_left _ _)

/-- The exponent decides, and then the significand. -/
theorem magnitude_lt_magnitude (low : IsCanonical significand exponent)
    (high : IsCanonical other second)
    (less : exponent < second ∨ exponent = second ∧ significand < other) :
    magnitude significand exponent < magnitude other second := by
  rcases low with ⟨_, lowBelow, lowLeast, _, _⟩
  rcases high with ⟨_, _, _, _, highLeading⟩
  rw [magnitude, magnitude]
  omega

/-- What is unpacked from a word. -/
def IsUnpacked : UnpackedFloat → Prop
  | .finite _ significand exponent _ => IsCanonical significand exponent
  | _ => True

theorem isUnpacked_unpack (bits : BitVec 64) : IsUnpacked (.unpack .binary64 bits) := by
  cases unpacked : UnpackedFloat.unpack .binary64 bits with
  | finite sign significand exponent positive => exact isCanonical_unpack unpacked
  | _ => trivial

/-- The rank of a number lies in a range of its own for each class and sign. -/
theorem rankOf_range {number : UnpackedFloat} (unpacked : IsUnpacked number)
    {here : Int ×ₗ Int ×ₗ Int} (place : placeOf number = some here) :
    (ofLex here).1 = -2 ∧ rankOf number = -1 - 2047 * 2 ^ 52 ∨
      (ofLex here).1 = -1 ∧ -1 - 2047 * 2 ^ 52 < rankOf number ∧ rankOf number < -1 ∨
      (ofLex here).1 = 0 ∧ -1 ≤ rankOf number ∧ rankOf number ≤ 0 ∨
      (ofLex here).1 = 1 ∧ 0 < rankOf number ∧ rankOf number < 2047 * 2 ^ 52 ∨
      (ofLex here).1 = 2 ∧ rankOf number = 2047 * 2 ^ 52 := by
  cases number with
  | notANumber => cases place
  | infinity sign =>
      cases sign <;> cases place
      · exact .inl ⟨rfl, rfl⟩
      · exact .inr (.inr (.inr (.inr ⟨rfl, rfl⟩)))
  | zero sign =>
      cases place
      refine .inr (.inr (.inl ⟨rfl, ?_⟩))
      cases sign <;> decide
  | finite sign significand exponent positive =>
      have above := IsCanonical.magnitude_pos unpacked
      have below := IsCanonical.magnitude_lt unpacked
      cases sign <;> cases place
      · refine .inr (.inl ⟨rfl, ?_⟩)
        simp only [rankOf]
        omega
      · refine .inr (.inr (.inr (.inl ⟨rfl, ?_⟩)))
        simp only [rankOf]
        omega

/-- Numbers are ranked by their places. -/
theorem rankOf_lt_rankOf {left right : UnpackedFloat} (leftUnpacked : IsUnpacked left)
    (rightUnpacked : IsUnpacked right) {low high : Int ×ₗ Int ×ₗ Int}
    (leftPlace : placeOf left = some low) (rightPlace : placeOf right = some high)
    (less : low < high) : rankOf left < rankOf right := by
  rcases Prod.Lex.lt_iff.mp less with apart | ⟨sameClass, less⟩
  · have leftRange := rankOf_range leftUnpacked leftPlace
    have rightRange := rankOf_range rightUnpacked rightPlace
    omega
  · -- Only among finite numbers of one sign, there are different places.
    rcases left with (_ | _) | _ | _ | ⟨_ | _, significand, exponent, _⟩ <;>
      rcases right with (_ | _) | _ | _ | ⟨_ | _, other, second, _⟩ <;>
      simp only [placeOf, Option.some.injEq, reduceCtorEq] at leftPlace rightPlace <;>
      subst leftPlace rightPlace <;>
      simp [Prod.Lex.toLex_lt_toLex] at sameClass less
    case finite.negative.finite.negative =>
      have beyond := magnitude_lt_magnitude rightUnpacked leftUnpacked (by omega)
      simp only [rankOf]
      omega
    case finite.positive.finite.positive =>
      have beyond := magnitude_lt_magnitude leftUnpacked rightUnpacked less
      simp only [rankOf]
      omega

/-! ## Ranks of words -/

/-- The sign of a word decides whether its other bits count upwards or downwards. -/
theorem rank_eq_of_components {bits : UInt64} {sign : UnpackedFloat.Sign}
    (signEq : UnpackedFloat.Sign.ofBitVec (@UnpackedFloat.unpackSign .binary64 bits.toBitVec) =
      sign) :
    (Binary64.mk bits).rank =
      match sign with
      | .positive =>
          ((@UnpackedFloat.unpackExponent .binary64 bits.toBitVec).toNat * 2 ^ 52 +
            (@UnpackedFloat.unpackMantissa .binary64 bits.toBitVec).toNat : Int)
      | .negative =>
          -1 - ((@UnpackedFloat.unpackExponent .binary64 bits.toBitVec).toNat * 2 ^ 52 +
            (@UnpackedFloat.unpackMantissa .binary64 bits.toBitVec).toNat : Int) := by
  have components : bits.toNat = _ := toNat_eq_components bits.toBitVec
  have stored_lt : (@UnpackedFloat.unpackExponent .binary64 bits.toBitVec).toNat < 2 ^ 11 :=
    (@UnpackedFloat.unpackExponent .binary64 bits.toBitVec).isLt
  have fraction_lt : (@UnpackedFloat.unpackMantissa .binary64 bits.toBitVec).toNat < 2 ^ 52 :=
    (@UnpackedFloat.unpackMantissa .binary64 bits.toBitVec).isLt
  have bit_lt : (@UnpackedFloat.unpackSign .binary64 bits.toBitVec).toNat < 2 :=
    (@UnpackedFloat.unpackSign .binary64 bits.toBitVec).isLt
  rw [Binary64.rank_eq]
  dsimp only
  rw [UnpackedFloat.Sign.ofBitVec] at signEq
  split at signEq
  · rename_i unset
    have bitEq : (@UnpackedFloat.unpackSign .binary64 bits.toBitVec).toNat = 0 :=
      congrArg BitVec.toNat unset
    subst signEq
    rw [if_neg (by omega)]
    dsimp only
    omega
  · rename_i set
    have bitNe : (@UnpackedFloat.unpackSign .binary64 bits.toBitVec).toNat ≠ 0 :=
      fun same => set (BitVec.eq_of_toNat_eq same)
    subst signEq
    rw [if_pos (by omega)]
    dsimp only
    omega

theorem of_unpack_eq_infinity {bits : BitVec 64} {sign : UnpackedFloat.Sign}
    (unpacked : UnpackedFloat.unpack .binary64 bits = .infinity sign) :
    UnpackedFloat.Sign.ofBitVec (@UnpackedFloat.unpackSign .binary64 bits) = sign ∧
      (@UnpackedFloat.unpackExponent .binary64 bits).toNat = 2047 ∧
      (@UnpackedFloat.unpackMantissa .binary64 bits).toNat = 0 := by
  rw [UnpackedFloat.unpack] at unpacked
  split at unpacked
  case isTrue greatest =>
    split at unpacked
    case isTrue noFraction =>
      injection unpacked with sign_eq
      exact ⟨sign_eq, congrArg BitVec.toNat greatest, congrArg BitVec.toNat noFraction⟩
    case isFalse => cases unpacked
  case isFalse =>
    split at unpacked
    case isTrue => split at unpacked <;> cases unpacked
    case isFalse => cases unpacked

theorem of_unpack_eq_zero {bits : BitVec 64} {sign : UnpackedFloat.Sign}
    (unpacked : UnpackedFloat.unpack .binary64 bits = .zero sign) :
    UnpackedFloat.Sign.ofBitVec (@UnpackedFloat.unpackSign .binary64 bits) = sign ∧
      (@UnpackedFloat.unpackExponent .binary64 bits).toNat = 0 ∧
      (@UnpackedFloat.unpackMantissa .binary64 bits).toNat = 0 := by
  rw [UnpackedFloat.unpack] at unpacked
  split at unpacked
  case isTrue => split at unpacked <;> cases unpacked
  case isFalse =>
    split at unpacked
    case isTrue least =>
      split at unpacked
      case isTrue noFraction =>
        injection unpacked with sign_eq
        exact ⟨sign_eq, congrArg BitVec.toNat least, congrArg BitVec.toNat noFraction⟩
      case isFalse => cases unpacked
    case isFalse => cases unpacked

/-- A word that is a number has the rank of that number. -/
theorem rank_ofFloat {score : Float} (isNumber : score.isNaN = false) :
    (Binary64.ofFloat score).rank = rankOf score.toModel.unpack := by
  rcases score with ⟨⟨bits, valid⟩⟩
  change (Binary64.mk bits).rank = rankOf (.unpack .binary64 bits.toBitVec)
  cases unpacked : UnpackedFloat.unpack .binary64 bits.toBitVec with
  | notANumber =>
      have notNumber : UnpackedFloat.isNaN (.unpack .binary64 bits.toBitVec) = false := isNumber
      rw [unpacked] at notNumber
      cases notNumber
  | infinity sign =>
      rcases of_unpack_eq_infinity unpacked with ⟨signEq, stored, fraction⟩
      rw [rank_eq_of_components signEq, stored, fraction]
      cases sign <;> rfl
  | zero sign =>
      rcases of_unpack_eq_zero unpacked with ⟨signEq, stored, fraction⟩
      rw [rank_eq_of_components signEq, stored, fraction]
      cases sign <;> rfl
  | finite sign significand exponent positive =>
      rcases of_unpack_eq_finite unpacked with ⟨signEq, parts⟩
      rw [rank_eq_of_components signEq]
      cases sign <;> simp only [rankOf, magnitude] <;> omega

/-- The rank agrees with the order of numbers. -/
theorem rank_lt_rank {left right : Float} (less : left < right) :
    (Binary64.ofFloat left).rank < (Binary64.ofFloat right).rank := by
  rcases isNaN_of_lt less with ⟨leftNumber, rightNumber⟩
  rcases lt_iff.mp less with ⟨low, high, leftPlace, rightPlace, below⟩
  rw [rank_ofFloat leftNumber, rank_ofFloat rightNumber]
  exact rankOf_lt_rankOf (isUnpacked_unpack _) (isUnpacked_unpack _) leftPlace rightPlace below

end Score

end Resemblance
