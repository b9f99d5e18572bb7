import Resemblance.Assignment.Basic
import Resemblance.Proofs.Number.Rounding

/-!
# Scores in millionths

A greater score never has fewer millionths. The product with a million is rounded, and rounding is
monotone; the product is then split at its point. Its whole part and what is left of it are exact,
so that a half is added to the product itself and what follows the point is dropped.
-/

namespace Resemblance

namespace Score

open Float.Model

variable {significand other : Nat} {exponent second : Int} {number : Float}

/-! ## Whole parts -/

theorem toNat_toUInt64 {places : Nat} (positive : IsPositive number significand (-places)) :
    number.toUInt64.toNat = significand / 2 ^ places := by
  have significand_lt := positive.canonical.significand_lt
  have quotient_le : significand / 2 ^ places ≤ significand := Nat.div_le_self _ _
  have word : significand / 2 ^ places < UInt64.size := by
    change _ < 2 ^ 64
    omega
  rcases positive with ⟨positive, unpacked⟩
  have down : ((0 : Int) - -places).toNat = places := by omega
  have up : ((-places : Int) - 0).toNat = 0 := by omega
  have floor : UnpackedFloat.roundToInt .positive significand (-places) =
      (significand / 2 ^ places : Nat) := by
    rw [UnpackedFloat.roundToInt, UnpackedFloat.decreaseExponent, up]
    dsimp only
    rw [UnpackedFloat.shiftToExponent, Nat.shiftLeft_zero, Int.natCast_zero, Int.sub_zero, down]
    exact congrArg Int.ofNat (mantissa_shiftRight (whole significand) places)
  change (UnpackedFloat.toUInt64 number.toModel.unpack).toNat = _
  rw [unpacked, UnpackedFloat.toUInt64, UnpackedFloat.toInt, floor, Int.toNat_natCast,
    UInt64.ofNatClamp_eq_ofNat _ word]
  exact UInt64.toNat_ofNat_of_lt' word

/-! ## What follows the point -/

theorem isPositive_half : IsPositive 0.5 (2 ^ 52) (-53) :=
  ⟨by decide, rfl⟩

theorem sub_eq (left right : Float) :
    left - right = .ofModel
      (pack (UnpackedFloat.sub .binary64 left.toModel.unpack right.toModel.unpack)) :=
  rfl

theorem normalize_natCast {rest : Nat} (positive : 0 < rest) (exponent : Int) :
    UnpackedFloat.normalize .binary64 rest exponent .positive =
      UnpackedFloat.round .binary64 .positive rest exponent := by
  have above : compare (rest : Int) 0 = .gt := by
    rw [Int.compare_eq_gt]
    omega
  rw [UnpackedFloat.normalize, above]
  dsimp only
  rw [Int.toNat_natCast]

theorem half_le_normalize_iff {rest : Nat} (small : rest < 2 ^ 53) (least_le : -1074 ≤ exponent)
    (bounded : exponent ≤ 0) :
    0.5 ≤ Float.ofModel (pack (UnpackedFloat.normalize .binary64 rest exponent .positive)) ↔
      units (2 ^ 52) (-53) ≤ units rest exponent := by
  rcases Nat.eq_zero_or_pos rest with rfl | positive
  · have half_pos : 0 < units (2 ^ 52) (-53) :=
      Nat.mul_pos (Nat.two_pow_pos 52) (Nat.two_pow_pos _)
    have nothing : units 0 exponent = 0 := Nat.zero_mul _
    have zero : UnpackedFloat.normalize .binary64 (0 : Nat) exponent .positive = .zero .positive :=
      rfl
    rw [nothing, zero]
    exact iff_of_false (by decide +kernel) (by omega)
  · have bits := (Nat.log2_lt positive.ne').mpr small
    rcases exists_round .positive exponent positive (by rw [target]; omega) least_le
      with ⟨result, scale, _, rounded, canonical, _, exactly⟩
    have found := isPositive_of_unpacked ((normalize_natCast positive exponent).trans rounded)
      canonical
    rw [isPositive_half.le_iff found, exactly small]

/-- A difference of positive numbers that fits is not rounded. -/
theorem half_le_sub_iff {left right : Float} (leftPositive : IsPositive left significand exponent)
    (rightPositive : IsPositive right other second) (ordered : exponent ≤ second) {rest : Nat}
    (small : rest < 2 ^ 53) (bounded : exponent ≤ 0)
    (difference : units significand exponent = units other second + units rest exponent) :
    0.5 ≤ left - right ↔ units (2 ^ 52) (-53) ≤ units rest exponent := by
  have least_le := leftPositive.canonical.least_le
  have exactly : significand = other * 2 ^ (second - exponent).toNat + rest := by
    have spread := units_shifted other second (second - exponent).toNat (by omega)
    have common : second - (second - exponent).toNat = exponent := by omega
    rw [common] at spread
    rw [← spread, units, units, units, ← Nat.add_mul] at difference
    exact Nat.eq_of_mul_eq_mul_right (Nat.two_pow_pos _) difference
  rcases leftPositive with ⟨_, leftUnpacked⟩
  rcases rightPositive with ⟨_, rightUnpacked⟩
  have remaining : (significand : Int) - (other * 2 ^ (second - exponent).toNat : Nat) = rest := by
    omega
  rw [sub_eq, leftUnpacked, rightUnpacked, UnpackedFloat.sub, min_eq_left ordered,
    UnpackedFloat.decreaseExponent, UnpackedFloat.decreaseExponent]
  dsimp only [UnpackedFloat.Sign.apply]
  rw [Int.sub_self, Int.toNat_zero, Nat.shiftLeft_zero, Nat.shiftLeft_eq, remaining]
  exact half_le_normalize_iff small least_le bounded

/-! ## Rounding to whole numbers -/

/-- Adding a half before the division adds one if the remainder is at least a half. -/
theorem add_half_div (count : Nat) {unit : Nat} (positive : 0 < unit) :
    (2 * count + unit) / (2 * unit) =
      if unit ≤ 2 * (count % unit) then count / unit + 1 else count / unit := by
  have rest_lt := Nat.mod_lt count positive
  have apart : 2 * count + unit = 2 * unit * (count / unit) + (2 * (count % unit) + unit) := by
    have := Nat.div_add_mod count unit
    rw [Nat.mul_assoc]
    omega
  rw [apart, Nat.mul_add_div (by omega)]
  by_cases half : unit ≤ 2 * (count % unit)
  · have one : (2 * (count % unit) + unit) / (2 * unit) = 1 :=
      Nat.div_eq_of_lt_le (by omega) (by omega)
    rw [if_pos half, one]
  · rw [if_neg half, Nat.div_eq_of_lt (by omega : 2 * (count % unit) + unit < 2 * unit),
      Nat.add_zero]

theorem units_whole (count : Nat) {places : Nat} (bounded : places ≤ 2148) :
    units (count * 2 ^ places) (-places) = units count 0 := by
  have spread := units_shifted count 0 places (by omega)
  rw [Int.zero_sub] at spread
  exact spread

theorem two_mul_units_half : 2 * units (2 ^ 52) (-53) = units 1 0 := by
  have doubled : 2 * 2 ^ 52 = 1 * 2 ^ 53 := by decide
  have places : ((53 : Nat) : Int) = 53 := rfl
  rw [← units_whole 1 (by decide : 53 ≤ 2148), units, units, ← Nat.mul_assoc, doubled, places]

theorem half_le_units_iff (rest : Nat) {places : Nat} (bounded : places ≤ 2148) :
    units (2 ^ 52) (-53) ≤ units rest (-places) ↔ 2 ^ places ≤ 2 * rest := by
  have scale_pos : 0 < 2 ^ ((-places : Int) + 2148).toNat := Nat.two_pow_pos _
  rw [← Nat.mul_le_mul_left_iff Nat.two_pos, two_mul_units_half, ← units_whole 1 bounded,
    units, units, ← Nat.mul_assoc, Nat.mul_le_mul_right_iff scale_pos, Nat.one_mul]

/-- The whole part of a number has the leading bit of the number. -/
theorem leading_le_whole {places : Nat} (leadingBit : 2 ^ 52 ≤ significand)
    (significand_lt : significand < 2 ^ 53) (whole_pos : 0 < significand / 2 ^ places) :
    2 ^ 52 ≤ significand / 2 ^ places * 2 ^ places := by
  have unit_le : 2 ^ places ≤ significand := (Nat.div_pos_iff.mp whole_pos).2
  have few : places ≤ 52 := by
    have := (Nat.pow_lt_pow_iff_right (by decide)).mp (unit_le.trans_lt significand_lt)
    omega
  have split : 2 ^ 52 = 2 ^ (52 - places) * 2 ^ places := by
    rw [← Nat.pow_add, Nat.sub_add_cancel few]
  rw [split] at leadingBit ⊢
  exact Nat.mul_le_mul_right _ ((Nat.le_div_iff_mul_le (Nat.two_pow_pos places)).mpr leadingBit)

theorem half_le_fraction_iff {places : Nat} (positive : IsPositive number significand (-places)) :
    0.5 ≤ number - number.toUInt64.toFloat ↔ 2 ^ places ≤ 2 * (significand % 2 ^ places) := by
  have canonical := positive.canonical
  have least_le := canonical.least_le
  have significand_lt := canonical.significand_lt
  have rest_le : significand % 2 ^ places ≤ significand := Nat.mod_le _ _
  have whole_le : significand / 2 ^ places ≤ significand := Nat.div_le_self _ _
  have word := toNat_toUInt64 positive
  rw [← half_le_units_iff _ (by omega)]
  rcases Nat.eq_zero_or_pos (significand / 2 ^ places) with nothing | whole_pos
  · -- Below one, all of the number follows the point.
    have zero : number.toUInt64 = 0 := UInt64.toNat_inj.mp (word.trans nothing)
    have all : significand % 2 ^ places = significand :=
      Nat.mod_eq_of_lt ((Nat.div_eq_zero_iff_lt (Nat.two_pow_pos places)).mp nothing)
    have rest : IsPositive (number - (0 : UInt64).toFloat) significand (-places) := by
      rcases positive with ⟨_, unpacked⟩
      rw [sub_eq, unpacked]
      exact isPositive_of_unpacked rfl canonical
    rw [zero, all, isPositive_half.le_iff rest]
  · rcases exists_isPositive_toFloat number.toUInt64 (by omega) with
      ⟨wholeSignificand, wholeExponent, found, exponent_le, exactly⟩
    have whole_eq : units wholeSignificand wholeExponent =
        units (significand / 2 ^ places * 2 ^ places) (-places) := by
      rw [exactly (by omega), word, units_whole _ (by omega)]
    refine half_le_sub_iff positive found ?_ (by omega) (by omega) ?_
    · rcases canonical.leading with leadingBit | least
      · apply exponent_le_of_units_le found.canonical
        rw [whole_eq]
        exact units_mono (leading_le_whole leadingBit significand_lt whole_pos) _
      · exact least ▸ found.canonical.least_le
    · rw [whole_eq, units, units, units, ← Nat.add_mul, Nat.div_add_mod']

theorem roundHalfUp_eq {places : Nat} (positive : IsPositive number significand (-places)) :
    roundHalfUp number = (2 * units significand (-places) + units 1 0) / (2 * units 1 0) := by
  have least_le := positive.canonical.least_le
  have scaled : (2 * units significand (-places) + units 1 0) / (2 * units 1 0) =
      (2 * significand + 2 ^ places) / (2 * 2 ^ places) := by
    rw [← units_whole 1 (by omega : places ≤ 2148), Nat.one_mul, units, units, ← Nat.mul_assoc,
      ← Nat.mul_assoc, ← Nat.add_mul, Nat.mul_div_mul_right _ _ (Nat.two_pow_pos _)]
  rw [scaled, add_half_div significand (Nat.two_pow_pos places), roundHalfUp,
    toNat_toUInt64 positive]
  exact if_congr (half_le_fraction_iff positive) rfl rfl

/-! ## Products -/

theorem units_mul (canonical : IsCanonical significand exponent) (factor : IsCanonical other second) :
    units (significand * other) (exponent + second) * units 1 0 =
      units significand exponent * units other second := by
  have least_le := canonical.least_le
  have factor_le := factor.least_le
  have places : (exponent + second + 2148).toNat + (0 + 2148 : Int).toNat =
      (exponent + 2148).toNat + (second + 2148).toNat := by
    omega
  rw [units, units, units, units, Nat.one_mul, Nat.mul_assoc, ← Nat.pow_add, places, Nat.pow_add,
    Nat.mul_mul_mul_comm]

theorem isPositive_million : IsPositive 1000000 (1000000 * 2 ^ 33) (-33) :=
  ⟨by decide, rfl⟩

theorem target_millionths (canonical : IsCanonical significand exponent) (small : exponent ≤ -52) :
    exponent + -33 ≤ target (significand * (1000000 * 2 ^ 33)) (exponent + -33) ∧
      target (significand * (1000000 * 2 ^ 33)) (exponent + -33) ≤ -1 := by
  have significand_pos := canonical.significand_pos
  have significand_lt := canonical.significand_lt
  have product_pos : 0 < significand * (1000000 * 2 ^ 33) := by omega
  have enough := (Nat.le_log2 product_pos.ne').mpr (by omega : 2 ^ 52 ≤ _)
  have few := (Nat.log2_lt product_pos.ne').mpr (by omega : _ < 2 ^ 106)
  rw [target]
  omega

theorem roundHalfUp_millionths {score : Float} (positive : IsPositive score significand exponent)
    (small : exponent ≤ -52) :
    roundHalfUp (score * 1000000) =
      (2 * roundedUnits (significand * (1000000 * 2 ^ 33)) (exponent + -33) + units 1 0) /
        (2 * units 1 0) := by
  have bounded := (target_millionths positive.canonical small).2
  rcases exists_isPositive_mul positive isPositive_million (by decide) (by decide) (by omega) with
    ⟨result, scale, product, scale_le, product_eq⟩
  have scale_eq : scale = -(-scale).toNat := by omega
  rw [← product_eq]
  rw [scale_eq] at product ⊢
  exact roundHalfUp_eq product

/-- Numbers up to one, in millionths, in order. -/
theorem roundHalfUp_mono {low high : Float} (positive : 0 < low) (ordered : low ≤ high)
    (atMost : high ≤ 1) : roundHalfUp (low * 1000000) ≤ roundHalfUp (high * 1000000) := by
  -- The exponent of a number up to one is at most that of one.
  have small {score : Float} {significand : Nat} {exponent : Int}
      (found : IsPositive score significand exponent) (scoreAtMost : score ≤ 1) :
      exponent ≤ -52 := by
    rw [found.le_iff isPositive_one, units_le_iff found.canonical isPositive_one.canonical,
      Prod.Lex.toLex_le_toLex] at scoreAtMost
    omega
  rcases exists_isPositive positive (Score.le_trans ordered atMost) with
    ⟨lowSignificand, lowExponent, lowFound⟩
  rcases exists_isPositive (Score.lt_of_lt_of_le positive ordered) atMost with
    ⟨highSignificand, highExponent, highFound⟩
  have lowSmall := small lowFound (Score.le_trans ordered atMost)
  have highSmall := small highFound atMost
  have lowLeast := lowFound.canonical.least_le
  have highLeast := highFound.canonical.least_le
  rw [roundHalfUp_millionths lowFound lowSmall, roundHalfUp_millionths highFound highSmall]
  apply Nat.div_le_div_right
  have exact_le : units (lowSignificand * (1000000 * 2 ^ 33)) (lowExponent + -33) ≤
      units (highSignificand * (1000000 * 2 ^ 33)) (highExponent + -33) := by
    have unit_pos : 0 < units 1 0 := Nat.mul_pos Nat.one_pos (Nat.two_pow_pos _)
    apply Nat.le_of_mul_le_mul_right _ unit_pos
    rw [units_mul lowFound.canonical isPositive_million.canonical,
      units_mul highFound.canonical isPositive_million.canonical]
    exact Nat.mul_le_mul_right _ ((lowFound.le_iff highFound).mp ordered)
  have rounded_le := roundedUnits_mono (by have := lowFound.canonical.significand_pos; omega)
    (by have := highFound.canonical.significand_pos; omega)
    (target_millionths lowFound.canonical lowSmall).1
    (target_millionths highFound.canonical highSmall).1 (by omega) (by omega) exact_le
  omega

end Score

/-- A score does not have more millionths than a greater one. -/
theorem toFixed_mono {low high : Float} (ordered : low ≤ high) : toFixed low ≤ toFixed high := by
  rw [toFixed, toFixed]
  by_cases positive : 0 < low
  · rw [if_pos positive, if_pos (Score.lt_of_lt_of_le positive ordered)]
    have capped {few many : Nat} (atMost : few ≤ many) :
        min few fixedScale ≤ min many fixedScale := by
      omega
    apply capped
    by_cases less : high < 1
    · rw [if_pos less, if_pos (Score.lt_of_le_of_lt ordered less)]
      exact Score.roundHalfUp_mono positive ordered (Score.le_of_lt less)
    · rw [if_neg less]
      have one : (1 : Float) ≤ 1 := by decide +kernel
      by_cases lowLess : low < 1
      · rw [if_pos lowLess]
        exact Score.roundHalfUp_mono positive (Score.le_of_lt lowLess) one
      · rw [if_neg lowLess]
  · rw [if_neg positive]
    exact Nat.zero_le _

end Resemblance
