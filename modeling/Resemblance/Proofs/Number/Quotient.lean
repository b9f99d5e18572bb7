import Resemblance.Proofs.Number.Rounding

/-!
# Shares

A share is the quotient of a count and a greater one. Both counts are rounded first, which keeps
their order, and is exact as long as they fit. The quotient of two numbers has one bit more than the
significand or none; rounding it does not carry into the next power of two, since two significands
are never that close to each other. So a share lies between 0 and 1, and a quotient of numbers that
differ does not reach 1.
-/

namespace Resemblance

namespace Score

open Float.Model

variable {significand other : Nat} {exponent second : Int} {left right : Float}

/-! ## Rounded quotients -/

theorem roundedMantissa_le (extended : UnpackedFloat.ExtendedMantissa) :
    extended.roundedMantissa ≤ extended.mantissa + extended.roundBit.toNat := by
  rcases extended with ⟨significand, round, sticky⟩
  cases round <;> cases sticky <;>
    simp [UnpackedFloat.ExtendedMantissa.roundedMantissa,
      UnpackedFloat.ExtendedMantissa.accuracy, UnpackedFloat.Accuracy.roundToNearestEven]
  omega

theorem mantissa_ofMantissaAndAccuracy (significand : Nat) (accuracy : UnpackedFloat.Accuracy) :
    (UnpackedFloat.ExtendedMantissa.ofMantissaAndAccuracy significand accuracy).mantissa =
      significand := by
  rcases accuracy with _ | order
  · rfl
  · cases order <;> rfl

/-- Rounding that does not carry leaves the exponent of the format. -/
theorem exists_roundWithAccuracy {accuracy : UnpackedFloat.Accuracy}
    {extended : UnpackedFloat.ExtendedMantissa} {scale : Int} (sign : UnpackedFloat.Sign)
    (shifted : UnpackedFloat.shiftToTargetExponent .binary64 significand exponent accuracy =
      (extended, scale))
    (leading : 2 ^ 52 ≤ extended.mantissa)
    (room : extended.mantissa + extended.roundBit.toNat < 2 ^ 53) (least_le : -1074 ≤ scale)
    (le_greatest : scale ≤ 971) :
    ∃ result positive,
      UnpackedFloat.roundWithAccuracy .binary64 sign significand exponent accuracy =
          .finite sign result scale positive ∧
        IsCanonical result scale := by
  have atLeast := leading.trans (le_roundedMantissa extended).1
  have noCarry := (roundedMantissa_le extended).trans_lt room
  have positive : 0 < extended.roundedMantissa := by omega
  refine ⟨_, positive, ?_, positive, noCarry, least_le, le_greatest, .inl atLeast⟩
  rw [UnpackedFloat.roundWithAccuracy, shifted]
  dsimp only
  rw [shiftToTargetExponent_of_lt noCarry least_le]
  exact dif_neg positive.ne'

theorem shiftToTargetExponent_of_places (significand : Nat) (exponent : Int)
    (accuracy : UnpackedFloat.Accuracy) {places : Nat}
    (places_eq : (target significand exponent - exponent).toNat = places) :
    UnpackedFloat.shiftToTargetExponent .binary64 significand exponent accuracy =
      (UnpackedFloat.ExtendedMantissa.ofMantissaAndAccuracy significand accuracy >>> places,
        exponent + places) := by
  subst places_eq
  rfl

/-- The quotient of two significands with their leading bits gets 53 more bits. -/
theorem divCore_eq (leading : 2 ^ 52 ≤ significand) (significand_lt : significand < 2 ^ 53)
    (otherLeading : 2 ^ 52 ≤ other) (other_lt : other < 2 ^ 53) (near : second ≤ exponent + 1000) :
    UnpackedFloat.divCore .binary64 significand exponent other second =
      (significand * 2 ^ 53 / other, exponent - second - 53,
        UnpackedFloat.accuracyOfFraction (significand * 2 ^ 53 % other) other) := by
  have bits : significand.log2 = 52 :=
    (Nat.log2_eq_iff (by omega)).mpr ⟨leading, significand_lt⟩
  have otherBits : other.log2 = 52 := (Nat.log2_eq_iff (by omega)).mpr ⟨otherLeading, other_lt⟩
  have scale : min (exponent - second) (Format.binary64.targetExponent
      (totalExponent significand exponent - totalExponent other second)) =
        exponent - second - 53 := by
    have difference : totalExponent significand exponent - totalExponent other second =
        exponent - second := by
      rw [totalExponent, totalExponent, bits, otherBits]
      omega
    have places : Format.binary64.targetExponent (exponent - second) =
        max (exponent - second - 53) (-1074) :=
      rfl
    rw [difference, places]
    omega
  have shift : (exponent - second - (exponent - second - 53)).toNat = 53 := by omega
  rw [UnpackedFloat.divCore, scale, shift, Nat.shiftLeft_eq]

section Quotient

variable {quotient : Nat} (accuracy : UnpackedFloat.Accuracy) (least_le : -1074 ≤ exponent)
  (le_greatest : exponent < 971)

include least_le le_greatest

theorem exists_round_full (leading : 2 ^ 52 ≤ quotient) (room : quotient + 1 < 2 ^ 53) :
    ∃ result positive,
      UnpackedFloat.roundWithAccuracy .binary64 .positive quotient exponent accuracy =
          .finite .positive result exponent positive ∧
        IsCanonical result exponent := by
  have bits : quotient.log2 = 52 := (Nat.log2_eq_iff (by omega)).mpr ⟨leading, by omega⟩
  have shifted := @shiftToTargetExponent_of_places quotient exponent accuracy 0
    (by rw [target, bits]; omega)
  rw [shiftRight_zero, Int.natCast_zero, Int.add_zero] at shifted
  refine exists_roundWithAccuracy .positive shifted ?_ ?_ least_le (by omega)
  · rwa [mantissa_ofMantissaAndAccuracy]
  · have bit := Bool.toNat_le
      (UnpackedFloat.ExtendedMantissa.ofMantissaAndAccuracy quotient accuracy).roundBit
    rw [mantissa_ofMantissaAndAccuracy]
    omega

/-- One bit falls out, and decides alone whether to round up. -/
theorem exists_round_longer (leading : 2 ^ 53 ≤ quotient) (room : quotient + 1 < 2 ^ 54) :
    ∃ result positive,
      UnpackedFloat.roundWithAccuracy .binary64 .positive quotient exponent accuracy =
          .finite .positive result (exponent + 1) positive ∧
        IsCanonical result (exponent + 1) := by
  have bits : quotient.log2 = 53 := (Nat.log2_eq_iff (by omega)).mpr ⟨leading, by omega⟩
  have shifted := @shiftToTargetExponent_of_places quotient exponent accuracy 1
    (by rw [target, bits]; omega)
  rw [shiftRight_succ, shiftRight_zero] at shifted
  have mantissa_eq := mantissa_ofMantissaAndAccuracy quotient accuracy
  refine exists_roundWithAccuracy .positive shifted ?_ ?_ (by omega) (by omega)
  · rw [UnpackedFloat.ExtendedMantissa.shiftRightOne, mantissa_eq]
    dsimp only
    omega
  · have parity : (quotient % 2 != 0).toNat = quotient % 2 := by
      rcases Nat.mod_two_eq_zero_or_one quotient with even | odd <;> simp [*]
    rw [UnpackedFloat.ExtendedMantissa.shiftRightOne, mantissa_eq]
    dsimp only
    rw [parity]
    omega

end Quotient

/-- The quotient of a number and a greater one is below one. -/
theorem exists_isPositive_div (leftPositive : IsPositive left significand exponent)
    (rightPositive : IsPositive right other second) (leading : 2 ^ 52 ≤ significand)
    (otherLeading : 2 ^ 52 ≤ other) (near : second ≤ exponent + 1000)
    (less : units significand exponent < units other second) :
    ∃ result scale, IsPositive (left / right) result scale ∧ scale < -52 := by
  have significand_lt := leftPositive.canonical.significand_lt
  have other_lt := rightPositive.canonical.significand_lt
  have ordered : exponent ≤ second := not_lt.mp fun more =>
    less.not_gt (units_lt_of_exponent_lt rightPositive.canonical leftPositive.canonical more)
  have other_pos : 0 < other := by omega
  have least_le : -1074 ≤ exponent - second - 53 := by omega
  have le_greatest : exponent - second - 53 < 971 := by omega
  have core := @divCore_eq _ _ exponent second leading significand_lt otherLeading other_lt near
  -- The accuracy only decides whether to round up, and there is room for that.
  generalize UnpackedFloat.accuracyOfFraction (significand * 2 ^ 53 % other) other = accuracy
    at core
  have rounded : ∃ result scale positive,
      UnpackedFloat.roundWithAccuracy .binary64 .positive (significand * 2 ^ 53 / other)
          (exponent - second - 53) accuracy = .finite .positive result scale positive ∧
        IsCanonical result scale ∧ scale < -52 := by
    rcases Nat.lt_or_ge significand other with lower | notLower
    · have enough : 2 ^ 52 ≤ significand * 2 ^ 53 / other := by
        rw [Nat.le_div_iff_mul_le other_pos]
        omega
      have room : significand * 2 ^ 53 / other < 2 ^ 53 - 1 := by
        rw [Nat.div_lt_iff_lt_mul other_pos]
        omega
      rcases exists_round_full accuracy least_le le_greatest enough (by omega) with
        ⟨result, positive, rounded, canonical⟩
      exact ⟨result, _, positive, rounded, canonical, by omega⟩
    · have further : exponent < second := by
        refine ordered.lt_of_ne fun same => ?_
        subst same
        exact less.not_ge (units_mono notLower exponent)
      have enough : 2 ^ 53 ≤ significand * 2 ^ 53 / other := by
        rw [Nat.le_div_iff_mul_le other_pos]
        omega
      have room : significand * 2 ^ 53 / other < 2 ^ 54 - 1 := by
        rw [Nat.div_lt_iff_lt_mul other_pos]
        omega
      rcases exists_round_longer accuracy least_le le_greatest enough (by omega) with
        ⟨result, positive, rounded, canonical⟩
      exact ⟨result, _, positive, rounded, canonical, by omega⟩
  rcases rounded with ⟨result, scale, positive, rounded, canonical, small⟩
  refine ⟨result, scale, ?_, small⟩
  rcases leftPositive with ⟨_, leftUnpacked⟩
  rcases rightPositive with ⟨_, rightUnpacked⟩
  rw [div_eq, leftUnpacked, rightUnpacked, UnpackedFloat.div, core]
  exact isPositive_of_unpacked rounded canonical

/-! ## Counts -/

section Counts

variable {part count : Nat}

theorem roundedUnits_count_mono (positive : 0 < part) (atMost : part ≤ count) :
    roundedUnits (part * 2 ^ 53) (-53) ≤ roundedUnits (count * 2 ^ 53) (-53) := by
  apply roundedUnits_mono_significand (Nat.mul_pos positive (Nat.two_pow_pos 53))
    (Nat.mul_le_mul_right _ atMost)
  rw [target, log2_shifted positive]
  omega

theorem roundedUnits_one : roundedUnits (1 * 2 ^ 53) (-53) = units (2 ^ 52) (-52) := by
  decide +kernel

theorem roundedUnits_words : roundedUnits (2 ^ 64 * 2 ^ 53) (-53) = units (2 ^ 52) 12 := by
  decide +kernel

/-- A count is a number with its leading bit, between 1 and the number of machine words. -/
theorem exists_isPositive_count (positive : 0 < count) (fits : count ≤ 2 ^ 64) :
    ∃ significand exponent, IsPositive (Float.ofNat count) significand exponent ∧
      2 ^ 52 ≤ significand ∧ -52 ≤ exponent ∧ exponent ≤ 12 ∧
      units significand exponent = roundedUnits (count * 2 ^ 53) (-53) := by
  rcases exists_isPositive_ofNat positive fits with ⟨significand, exponent, found, exactly⟩
  have atLeast := roundedUnits_count_mono Nat.one_pos positive
  have atMost := roundedUnits_count_mono positive fits
  rw [roundedUnits_one, ← exactly] at atLeast
  rw [roundedUnits_words, ← exactly] at atMost
  have notSmall : -52 ≤ exponent := exponent_le_of_units_le found.canonical atLeast
  have leading : 2 ^ 52 ≤ significand := found.canonical.leading.resolve_right (by omega)
  have twelve : IsCanonical (2 ^ 52) 12 :=
    ⟨by decide, by decide, by decide, by decide, .inl le_rfl⟩
  have notGreat : exponent ≤ 12 :=
    exponent_le_of_units_le twelve ((units_mono leading exponent).trans atMost)
  exact ⟨significand, exponent, found, leading, notSmall, notGreat, exactly⟩

theorem ofNat_zero : Float.ofNat 0 = 0 := by
  decide +kernel

theorem ofNat_zero_div (positive : IsPositive right other second) : Float.ofNat 0 / right = 0 := by
  have unpacked : (0 : Float).toModel.unpack = .zero .positive := rfl
  rcases positive with ⟨_, rightUnpacked⟩
  rw [ofNat_zero, div_eq, unpacked, rightUnpacked]
  rfl

theorem ofNat_zero_ne (positive : 0 < count) (fits : count ≤ 2 ^ 64) :
    Float.ofNat 0 ≠ Float.ofNat count := by
  rcases exists_isPositive_ofNat positive fits with ⟨_, _, found, _⟩
  have less := found.zero_lt
  intro same
  rw [ofNat_zero] at same
  rw [← same] at less
  exact Score.lt_irrefl 0 less

/-- Small counts are exact, so that no two of them are rounded to the same number. -/
theorem ofNat_eq_iff (atMost : part ≤ count) (small : count < 2 ^ 53) :
    Float.ofNat part = Float.ofNat count ↔ part = count := by
  have fits : count ≤ 2 ^ 64 := small.le.trans (by decide)
  refine ⟨fun same => ?_, congrArg Float.ofNat⟩
  rcases Nat.eq_zero_or_pos part with rfl | positive
  · by_contra differ
    exact ofNat_zero_ne (Nat.pos_of_ne_zero (Ne.symm differ)) fits same
  · have countPositive := positive.trans_le atMost
    rcases exists_isPositive_ofNat positive (atMost.trans fits) with ⟨_, _, found, exactly⟩
    rcases exists_isPositive_ofNat countPositive fits with ⟨_, _, otherFound, otherExactly⟩
    rw [found.eq_iff otherFound, exactly, otherExactly,
      roundedUnits_whole positive (atMost.trans_lt small),
      roundedUnits_whole countPositive small] at same
    exact Nat.eq_of_mul_eq_mul_right (Nat.two_pow_pos _) same

/-- The share of a part is less than 1, unless rounding makes the counts equal. -/
theorem share_of_pos (partPositive : 0 < part) (atMost : part ≤ count) (fits : count ≤ 2 ^ 64) :
    Float.ofNat part = Float.ofNat count ∧ Float.ofNat part / Float.ofNat count = 1 ∨
      0 < Float.ofNat part / Float.ofNat count ∧ Float.ofNat part / Float.ofNat count < 1 := by
  rcases exists_isPositive_count partPositive (atMost.trans fits) with
    ⟨significand, exponent, found, leading, notSmall, _, exactly⟩
  rcases exists_isPositive_count (partPositive.trans_le atMost) fits with
    ⟨other, second, otherFound, otherLeading, _, notGreat, otherExactly⟩
  have ordered := roundedUnits_count_mono partPositive atMost
  rw [← exactly, ← otherExactly] at ordered
  rcases ordered.eq_or_lt with same | less
  · rw [(found.eq_iff otherFound).mpr same]
    exact .inl ⟨rfl, div_self_eq_one otherFound⟩
  · rcases exists_isPositive_div found otherFound leading otherLeading (by omega) less with
      ⟨result, scale, quotient, small⟩
    have below := units_lt_of_exponent_lt quotient.canonical isPositive_one.canonical small
    exact .inr ⟨quotient.zero_lt, quotient.lt isPositive_one below⟩

/-- A share lies between 0 and 1, and is 1 just if rounding makes the counts equal. -/
theorem share_mem (positive : 0 < count) (fits : count ≤ 2 ^ 64) (atMost : part ≤ count) :
    0 ≤ Float.ofNat part / Float.ofNat count ∧ Float.ofNat part / Float.ofNat count ≤ 1 ∧
      (Float.ofNat part / Float.ofNat count = 1 ↔ Float.ofNat part = Float.ofNat count) := by
  rcases exists_isPositive_ofNat positive fits with ⟨_, _, found, _⟩
  have one_le : (1 : Float) ≤ 1 := by decide +kernel
  rcases Nat.eq_zero_or_pos part with rfl | partPositive
  · rw [ofNat_zero_div found]
    refine ⟨by decide +kernel, Score.le_of_lt Score.zero_lt_one, ?_⟩
    exact iff_of_false (by decide +kernel) (ofNat_zero_ne positive fits)
  · rcases share_of_pos partPositive atMost fits with ⟨same, all⟩ | ⟨some, less⟩
    · rw [all]
      exact ⟨Score.le_of_lt Score.zero_lt_one, one_le, iff_of_true rfl same⟩
    · refine ⟨Score.le_of_lt some, Score.le_of_lt less, ?_⟩
      refine iff_of_false (fun all => ?_) (fun same => ?_)
      · rw [all] at less
        exact Score.lt_irrefl 1 less
      · rw [same, div_self_eq_one found] at less
        exact Score.lt_irrefl 1 less

end Counts

end Score

end Resemblance
