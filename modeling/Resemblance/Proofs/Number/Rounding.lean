import Resemblance.Proofs.Number.Canonical

/-!
# Rounding

The exact result of an operation is shifted to the right until its significand fits; the bits that
fall out are remembered as far as they decide where to round. Rounding to a fixed exponent is
monotone, since each step of the shift is. Between different exponents, the one of the format
decides: what rounds to the lower exponent rounds to at most its end, and what rounds to the higher
one to at least its beginning. What needs no more bits than there are is not changed at all.
-/

namespace Resemblance

namespace Score

open Float.Model

/-! ## Shifted significands -/

/-- A significand without bits that have fallen out. -/
def whole (significand : Nat) : UnpackedFloat.ExtendedMantissa :=
  ⟨significand, false, false⟩

/-- A significand and what has fallen out of it, as one number. -/
def code (extended : UnpackedFloat.ExtendedMantissa) : Nat :=
  4 * extended.mantissa + 2 * extended.roundBit.toNat + extended.stickyBit.toNat

/-- The significand, rounded after a shift to the right. -/
def nearest (significand places : Nat) : Nat :=
  (whole significand >>> places).roundedMantissa

section Shift

variable {low high : UnpackedFloat.ExtendedMantissa} {significand places : Nat}

theorem shiftRight_zero (extended : UnpackedFloat.ExtendedMantissa) : extended >>> 0 = extended :=
  rfl

theorem shiftRight_succ (extended : UnpackedFloat.ExtendedMantissa) (places : Nat) :
    extended >>> (places + 1) = (extended >>> places).shiftRightOne :=
  rfl

theorem shiftRight_succ' (extended : UnpackedFloat.ExtendedMantissa) (places : Nat) :
    extended >>> (places + 1) = extended.shiftRightOne >>> places := by
  induction places with
  | zero => rfl
  | succ places ih => rw [shiftRight_succ, ih, shiftRight_succ]

theorem mantissa_shiftRight (extended : UnpackedFloat.ExtendedMantissa) (places : Nat) :
    (extended >>> places).mantissa = extended.mantissa / 2 ^ places := by
  induction places with
  | zero => simp [shiftRight_zero]
  | succ places ih =>
      rw [shiftRight_succ, Nat.pow_succ, ← Nat.div_div_eq_div_mul, ← ih]
      rfl

theorem code_shiftRightOne_mono (atMost : code low ≤ code high) :
    code low.shiftRightOne ≤ code high.shiftRightOne := by
  rcases low with ⟨lowSignificand, lowRound, lowSticky⟩
  rcases high with ⟨highSignificand, highRound, highSticky⟩
  simp only [code, UnpackedFloat.ExtendedMantissa.shiftRightOne] at atMost ⊢
  have lowParity : (lowSignificand % 2 != 0).toNat = lowSignificand % 2 := by
    rcases Nat.mod_two_eq_zero_or_one lowSignificand with even | odd <;> simp [*]
  have highParity : (highSignificand % 2 != 0).toNat = highSignificand % 2 := by
    rcases Nat.mod_two_eq_zero_or_one highSignificand with even | odd <;> simp [*]
  rw [lowParity, highParity]
  revert atMost
  cases lowRound <;> cases lowSticky <;> cases highRound <;> cases highSticky <;> simp <;> omega

theorem code_shiftRight_mono (atMost : code low ≤ code high) (places : Nat) :
    code (low >>> places) ≤ code (high >>> places) := by
  induction places with
  | zero => exact atMost
  | succ places ih => exact code_shiftRightOne_mono ih

theorem roundedMantissa_mono (atMost : code low ≤ code high) :
    low.roundedMantissa ≤ high.roundedMantissa := by
  rcases low with ⟨lowSignificand, lowRound, lowSticky⟩
  rcases high with ⟨highSignificand, highRound, highSticky⟩
  revert atMost
  cases lowRound <;> cases lowSticky <;> cases highRound <;> cases highSticky <;>
    simp [code, UnpackedFloat.ExtendedMantissa.roundedMantissa,
      UnpackedFloat.ExtendedMantissa.accuracy, UnpackedFloat.Accuracy.roundToNearestEven] <;>
    omega

theorem nearest_mono {less more : Nat} (atMost : less ≤ more) (places : Nat) :
    nearest less places ≤ nearest more places := by
  apply roundedMantissa_mono
  apply code_shiftRight_mono
  simp only [code, whole]
  omega

theorem le_roundedMantissa (extended : UnpackedFloat.ExtendedMantissa) :
    extended.mantissa ≤ extended.roundedMantissa ∧
      extended.roundedMantissa ≤ extended.mantissa + 1 := by
  rcases extended with ⟨significand, round, sticky⟩
  cases round <;> cases sticky <;>
    simp [UnpackedFloat.ExtendedMantissa.roundedMantissa,
      UnpackedFloat.ExtendedMantissa.accuracy, UnpackedFloat.Accuracy.roundToNearestEven]
  omega

theorem div_le_nearest (significand places : Nat) :
    significand / 2 ^ places ≤ nearest significand places := by
  have bound := (le_roundedMantissa (whole significand >>> places)).1
  rw [mantissa_shiftRight] at bound
  exact bound

theorem nearest_le (significand places : Nat) :
    nearest significand places ≤ significand / 2 ^ places + 1 := by
  have bound := (le_roundedMantissa (whole significand >>> places)).2
  rw [mantissa_shiftRight] at bound
  exact bound

@[simp]
theorem nearest_zero (significand : Nat) : nearest significand 0 = significand :=
  rfl

/-- Zeros that are shifted in and out again have no effect. -/
theorem nearest_shifted (significand places zeros : Nat) :
    nearest (significand * 2 ^ zeros) (places + zeros) = nearest significand places := by
  induction zeros with
  | zero => rw [Nat.pow_zero, Nat.mul_one, Nat.add_zero]
  | succ zeros ih =>
      have shifted : (whole (significand * 2 ^ (zeros + 1))).shiftRightOne =
          whole (significand * 2 ^ zeros) := by
        rw [Nat.pow_succ, ← Nat.mul_assoc]
        simp [whole, UnpackedFloat.ExtendedMantissa.shiftRightOne]
      rw [← ih, nearest, ← Nat.add_assoc, shiftRight_succ', shifted]
      rfl

end Shift

/-! ## The exponent of the format -/

/-- The exponent that the format has for a number, whatever its own exponent is. -/
def target (significand : Nat) (exponent : Int) : Int :=
  max (significand.log2 + 1 + exponent - 53) (-1074)

/-- A number rounded to the format. -/
def roundedUnits (significand : Nat) (exponent : Int) : Nat :=
  units (nearest significand (target significand exponent - exponent).toNat)
    (target significand exponent)

variable {significand other : Nat} {exponent second : Int} {sign : UnpackedFloat.Sign}

theorem log2_shifted (positive : 0 < significand) (zeros : Nat) :
    (significand * 2 ^ zeros).log2 = significand.log2 + zeros := by
  have shifted_ne : significand * 2 ^ zeros ≠ 0 :=
    (Nat.mul_pos positive (Nat.two_pow_pos zeros)).ne'
  rw [Nat.log2_eq_iff shifted_ne, Nat.pow_add, ← Nat.add_right_comm, Nat.pow_add]
  exact ⟨Nat.mul_le_mul_right _ (Nat.log2_self_le positive.ne'),
    Nat.mul_lt_mul_of_pos_right Nat.lt_log2_self (Nat.two_pow_pos zeros)⟩

theorem target_shifted (positive : 0 < significand) (exponent : Int) (zeros : Nat) :
    target (significand * 2 ^ zeros) (exponent - zeros) = target significand exponent := by
  rw [target, target, log2_shifted positive]
  omega

theorem roundedUnits_shifted (positive : 0 < significand)
    (fits : exponent ≤ target significand exponent) (zeros : Nat) :
    roundedUnits (significand * 2 ^ zeros) (exponent - zeros) =
      roundedUnits significand exponent := by
  have places : (target significand exponent - (exponent - zeros)).toNat =
      (target significand exponent - exponent).toNat + zeros := by
    omega
  rw [roundedUnits, roundedUnits, target_shifted positive, places, nearest_shifted]

theorem div_lt_leading (significand places : Nat) (enough : significand.log2 ≤ places + 52) :
    significand / 2 ^ places < 2 ^ 53 := by
  rw [Nat.div_lt_iff_lt_mul (Nat.two_pow_pos places), ← Nat.pow_add]
  exact Nat.lt_log2_self.trans_le (Nat.pow_le_pow_right Nat.two_pos (by omega))

theorem leading_le_div (positive : 0 < significand) (places : Nat)
    (exactly : significand.log2 = places + 52) : 2 ^ 52 ≤ significand / 2 ^ places := by
  rw [Nat.le_div_iff_mul_le (Nat.two_pow_pos places), ← Nat.pow_add, Nat.add_comm, ← exactly]
  exact Nat.log2_self_le positive.ne'

theorem nearest_target_le (significand : Nat) (exponent : Int) :
    nearest significand (target significand exponent - exponent).toNat ≤ 2 ^ 53 := by
  have below := div_lt_leading significand
    (target significand exponent - exponent).toNat (by rw [target]; omega)
  have := nearest_le significand (target significand exponent - exponent).toNat
  omega

theorem leading_le_nearest (positive : 0 < significand)
    (fits : exponent ≤ target significand exponent) (notLeast : target significand exponent ≠ -1074) :
    2 ^ 52 ≤ nearest significand (target significand exponent - exponent).toNat := by
  have leading := leading_le_div positive (target significand exponent - exponent).toNat
    (by rw [target] at *; omega)
  exact leading.trans (div_le_nearest _ _)

/-! ## Rounding is monotone -/

theorem roundedUnits_mono_significand (positive : 0 < significand) (atMost : significand ≤ other)
    (fits : exponent ≤ target significand exponent) :
    roundedUnits significand exponent ≤ roundedUnits other exponent := by
  have bits : significand.log2 ≤ other.log2 :=
    (Nat.le_log2 (by omega)).mpr ((Nat.log2_self_le positive.ne').trans atMost)
  have targets : target significand exponent ≤ target other exponent := by
    rw [target, target]
    omega
  rcases targets.eq_or_lt with same | less
  · rw [roundedUnits, roundedUnits, same]
    exact units_mono (nearest_mono atMost _) _
  · have least_le : -1074 ≤ target significand exponent := le_max_right _ _
    exact units_le_of_exponent_lt (nearest_target_le significand exponent)
      (leading_le_nearest (positive.trans_le atMost) (fits.trans targets) (by omega))
      (by omega) less

theorem units_shifted (significand : Nat) (exponent : Int) (zeros : Nat)
    (enough : zeros ≤ exponent + 2148) :
    units (significand * 2 ^ zeros) (exponent - zeros) = units significand exponent := by
  have places : (exponent + 2148).toNat = zeros + (exponent - zeros + 2148).toNat := by omega
  rw [units, units, places, Nat.pow_add, Nat.mul_assoc]

theorem roundedUnits_mono (positive : 0 < significand) (otherPositive : 0 < other)
    (fits : exponent ≤ target significand exponent) (otherFits : second ≤ target other second)
    (least_le : -2148 ≤ exponent) (second_least_le : -2148 ≤ second)
    (atMost : units significand exponent ≤ units other second) :
    roundedUnits significand exponent ≤ roundedUnits other second := by
  -- Both numbers are brought to the lower exponent first.
  have common : exponent - (exponent - second).toNat = second - (second - exponent).toNat := by
    omega
  rw [← roundedUnits_shifted positive fits (exponent - second).toNat,
    ← roundedUnits_shifted otherPositive otherFits (second - exponent).toNat, ← common]
  rw [← units_shifted significand exponent (exponent - second).toNat (by omega),
    ← units_shifted other second (second - exponent).toNat (by omega), ← common] at atMost
  apply roundedUnits_mono_significand
  · exact Nat.mul_pos positive (Nat.two_pow_pos _)
  · exact Nat.le_of_mul_le_mul_right atMost (Nat.two_pow_pos _)
  · rw [target_shifted positive]
    omega

/-! ## Results of operations -/

theorem targetExponent_eq (significand : Nat) (exponent : Int) :
    Format.binary64.targetExponent (totalExponent significand exponent) =
      target significand exponent :=
  rfl

theorem shiftToTargetExponent_eq (fits : exponent ≤ target significand exponent) :
    UnpackedFloat.shiftToTargetExponent .binary64 significand exponent .exact =
      (whole significand >>> (target significand exponent - exponent).toNat,
        target significand exponent) := by
  rw [UnpackedFloat.shiftToTargetExponent, targetExponent_eq, UnpackedFloat.shiftToExponent]
  refine Prod.ext rfl ?_
  dsimp only
  omega

/-- A significand that fits stays as it is. -/
theorem shiftToTargetExponent_of_lt (significand_lt : significand < 2 ^ 53)
    (least_le : -1074 ≤ exponent) :
    UnpackedFloat.shiftToTargetExponent .binary64 significand exponent .exact =
      (whole significand, exponent) := by
  have bits : significand.log2 ≤ 52 := by
    rcases Nat.eq_zero_or_pos significand with rfl | positive
    · decide
    · have := (Nat.log2_lt positive.ne').mpr significand_lt
      omega
  have places : (target significand exponent - exponent).toNat = 0 := by
    rw [target]
    omega
  rw [UnpackedFloat.shiftToTargetExponent, targetExponent_eq, UnpackedFloat.shiftToExponent, places]
  exact Prod.ext rfl (Int.add_zero exponent)

/-- A significand that was rounded up to one bit more loses the last one, which is zero. -/
theorem shiftToTargetExponent_carry (least_le : -1074 ≤ exponent) :
    UnpackedFloat.shiftToTargetExponent .binary64 (2 ^ 53) exponent .exact =
      (whole (2 ^ 52), exponent + 1) := by
  have target_eq : target (2 ^ 53) exponent = exponent + 1 := by
    rw [target, Nat.log2_two_pow]
    omega
  have places : (exponent + 1 - exponent).toNat = 1 := by omega
  rw [shiftToTargetExponent_eq (by omega), target_eq, places]
  rfl

theorem roundWithAccuracy_eq {result : Nat} {scale : Int} (positive : 0 < result)
    (fits : exponent ≤ target significand exponent)
    (again : UnpackedFloat.shiftToTargetExponent .binary64
      (nearest significand (target significand exponent - exponent).toNat)
      (target significand exponent) .exact = (whole result, scale)) :
    UnpackedFloat.roundWithAccuracy .binary64 sign significand exponent .exact =
      .finite sign result scale positive := by
  rw [UnpackedFloat.roundWithAccuracy, shiftToTargetExponent_eq fits]
  dsimp only
  rw [← nearest, again]
  exact dif_neg positive.ne'

/-- Rounding gives a canonical number, unless it underflows or overflows. -/
theorem exists_rounded (sign : UnpackedFloat.Sign) (positive : 0 < significand)
    (fits : exponent ≤ target significand exponent)
    (bounded : target significand exponent ≤ 970)
    (notZero : 0 < nearest significand (target significand exponent - exponent).toNat) :
    ∃ result scale positive,
      UnpackedFloat.roundWithAccuracy .binary64 sign significand exponent .exact =
          .finite sign result scale positive ∧
        IsCanonical result scale ∧ scale ≤ target significand exponent + 1 ∧
        units result scale = roundedUnits significand exponent := by
  have least_le : -1074 ≤ target significand exponent := le_max_right _ _
  rcases (nearest_target_le significand exponent).lt_or_eq with less | carry
  · refine ⟨_, _, notZero,
      roundWithAccuracy_eq notZero fits (shiftToTargetExponent_of_lt less least_le),
      ⟨notZero, less, least_le, by omega, ?_⟩, by omega, rfl⟩
    by_cases least : target significand exponent = -1074
    · exact .inr least
    · exact .inl (leading_le_nearest positive fits least)
  · have carried := shiftToTargetExponent_carry least_le
    rw [← carry] at carried
    refine ⟨2 ^ 52, _, Nat.two_pow_pos 52, roundWithAccuracy_eq _ fits carried,
      ⟨Nat.two_pow_pos 52, by decide, by omega, by omega, .inl le_rfl⟩, le_rfl, ?_⟩
    rw [roundedUnits, carry, ← units_shifted (2 ^ 52) _ 1 (by omega)]
    congr 1
    omega

/-! ## Whole numbers, products and quotients -/

/-- The significand gets the zeros that the format has room for. -/
theorem round_eq (sign : UnpackedFloat.Sign) (significand : Nat) (exponent : Int) :
    UnpackedFloat.round .binary64 sign significand exponent =
      UnpackedFloat.roundWithAccuracy .binary64 sign
        (significand * 2 ^ (exponent - target significand exponent).toNat)
        (exponent - (exponent - target significand exponent).toNat) .exact := by
  rw [UnpackedFloat.round, targetExponent_eq, UnpackedFloat.decreaseExponent]
  dsimp only
  rw [Nat.shiftLeft_eq]

theorem nearest_pos (positive : 0 < significand) {places : Nat}
    (kept : places ≤ significand.log2) : 0 < nearest significand places := by
  have bound : 1 ≤ significand / 2 ^ places := by
    rw [Nat.le_div_iff_mul_le (Nat.two_pow_pos places), Nat.one_mul]
    exact (Nat.pow_le_pow_right Nat.two_pos kept).trans (Nat.log2_self_le positive.ne')
  exact bound.trans (div_le_nearest significand places)

theorem exists_round (sign : UnpackedFloat.Sign) (exponent : Int) (positive : 0 < significand)
    (bounded : target significand exponent ≤ 970) (least_le : -1074 ≤ exponent) :
    ∃ result scale positive,
      UnpackedFloat.round .binary64 sign significand exponent =
          .finite sign result scale positive ∧
        IsCanonical result scale ∧ scale ≤ target significand exponent + 1 ∧
        (significand < 2 ^ 53 → units result scale = units significand exponent) := by
  have shifted_pos : 0 < significand * 2 ^ (exponent - target significand exponent).toNat :=
    Nat.mul_pos positive (Nat.two_pow_pos _)
  have same := target_shifted positive exponent (exponent - target significand exponent).toNat
  rcases exists_rounded sign shifted_pos (by rw [same]; omega) (by rw [same]; exact bounded)
    (by
      apply nearest_pos shifted_pos
      rw [same, log2_shifted positive, target]
      omega) with ⟨result, scale, result_pos, rounded, canonical, scale_le, exactly⟩
  rw [same] at scale_le
  refine ⟨result, scale, result_pos, (round_eq sign _ _).trans rounded, canonical, scale_le, ?_⟩
  intro significand_lt
  have bits := (Nat.log2_lt positive.ne').mpr significand_lt
  -- There is nothing to round, since the exponent of the format is not greater.
  have reached : target significand exponent =
      exponent - (exponent - target significand exponent).toNat := by
    rw [target]
    omega
  have spread := units_shifted significand exponent
    (exponent - target significand exponent).toNat (by rw [target]; omega)
  rw [← reached] at spread
  rw [exactly, roundedUnits, same, ← reached, Int.sub_self, Int.toNat_zero, nearest_zero, spread]

theorem isPositive_of_unpacked {number : UnpackedFloat} {positive : 0 < significand}
    (unpacked : number = .finite .positive significand exponent positive)
    (canonical : IsCanonical significand exponent) :
    IsPositive (.ofModel (pack number)) significand exponent := by
  refine ⟨positive, ?_⟩
  subst unpacked
  exact unpack_pack canonical

theorem target_ofNat_le {count : Nat} (positive : 0 < count) (fits : count < 2 ^ 64) :
    target count 0 ≤ 11 := by
  have bits := (Nat.log2_lt positive.ne').mpr fits
  rw [target]
  omega

/-- Machine words are not rounded as long as they fit. -/
theorem exists_isPositive_toFloat (word : UInt64) (positive : 0 < word.toNat) :
    ∃ significand exponent, IsPositive word.toFloat significand exponent ∧ exponent ≤ 12 ∧
      (word.toNat < 2 ^ 53 → units significand exponent = units word.toNat 0) := by
  have bounded := target_ofNat_le positive word.toNat_lt
  rcases exists_round .positive 0 positive (by omega) (by decide) with
    ⟨significand, exponent, significand_pos, rounded, canonical, exponent_le, exactly⟩
  have above : compare (word.toNat : Int) 0 = .gt := by
    rw [Int.compare_eq_gt]
    omega
  have unpacked : UnpackedFloat.ofNat .binary64 word.toNat =
      .finite .positive significand exponent significand_pos := by
    rw [UnpackedFloat.ofNat, UnpackedFloat.ofInt, UnpackedFloat.normalize, above]
    exact rounded
  exact ⟨significand, exponent, isPositive_of_unpacked unpacked canonical, by omega, exactly⟩

section Product

variable {left right : Float}

theorem mul_eq (left right : Float) :
    left * right = .ofModel
      (pack (UnpackedFloat.mul .binary64 left.toModel.unpack right.toModel.unpack)) :=
  rfl

theorem div_eq (left right : Float) :
    left / right = .ofModel
      (pack (UnpackedFloat.div .binary64 left.toModel.unpack right.toModel.unpack)) :=
  rfl

theorem exists_isPositive_mul (leftPositive : IsPositive left significand exponent)
    (rightPositive : IsPositive right other second) (leadingBit : 2 ^ 52 ≤ other)
    (notSmall : -52 ≤ second) (bounded : target (significand * other) (exponent + second) ≤ 970) :
    ∃ result scale, IsPositive (left * right) result scale ∧
      scale ≤ target (significand * other) (exponent + second) + 1 ∧
      units result scale = roundedUnits (significand * other) (exponent + second) := by
  have least_le := leftPositive.canonical.least_le
  have significand_pos := leftPositive.canonical.significand_pos
  have product_pos := Nat.mul_pos significand_pos rightPositive.canonical.significand_pos
  have bits : 52 ≤ (significand * other).log2 :=
    (Nat.le_log2 product_pos.ne').mpr (leadingBit.trans (Nat.le_mul_of_pos_left _ significand_pos))
  rcases exists_rounded .positive product_pos (by rw [target]; omega) bounded
    (nearest_pos product_pos (by rw [target]; omega)) with
    ⟨result, scale, _, rounded, canonical, scale_le, exactly⟩
  refine ⟨result, scale, ?_, scale_le, exactly⟩
  rcases leftPositive with ⟨_, leftUnpacked⟩
  rcases rightPositive with ⟨_, rightUnpacked⟩
  rw [mul_eq, leftUnpacked, rightUnpacked]
  exact isPositive_of_unpacked rounded canonical

theorem target_of_isCanonical (canonical : IsCanonical significand exponent) :
    target significand exponent = exponent := by
  have significand_ne := canonical.significand_pos.ne'
  have least_le := canonical.least_le
  have bits := (Nat.log2_lt significand_ne).mpr canonical.significand_lt
  rw [target]
  rcases canonical.leading with leadingBit | least
  · have := (Nat.le_log2 significand_ne).mpr leadingBit
    omega
  · omega

/-- A product with one is not rounded. -/
theorem exists_isPositive_mul_one (positive : IsPositive left significand exponent)
    (notGreatest : exponent ≤ 970) :
    ∃ result scale, IsPositive (left * 1) result scale ∧
      units result scale = units significand exponent := by
  have significand_pos := positive.canonical.significand_pos
  have reached := target_of_isCanonical positive.canonical
  have shifted : exponent + -52 = exponent - (52 : Nat) := by omega
  have exactly : roundedUnits (significand * 2 ^ 52) (exponent + -52) =
      units significand exponent := by
    rw [shifted, roundedUnits_shifted significand_pos reached.ge, roundedUnits, reached,
      Int.sub_self, Int.toNat_zero, nearest_zero]
  rcases exists_isPositive_mul positive isPositive_one le_rfl (by decide)
    (by rw [shifted, target_shifted significand_pos, reached]; exact notGreatest) with
    ⟨result, scale, product, _, product_eq⟩
  exact ⟨result, scale, product, product_eq.trans exactly⟩

theorem div_self_eq_one (positive : IsPositive left significand exponent) : left / left = 1 := by
  rcases positive with ⟨positive, unpacked⟩
  have quotient : UnpackedFloat.divCore .binary64 significand exponent significand exponent =
      (2 ^ 53, -53, .exact) := by
    have places : Format.binary64.targetExponent 0 = -53 := by decide
    rw [UnpackedFloat.divCore, Int.sub_self, Int.sub_self, places]
    have shift : (0 - min 0 (-53) : Int).toNat = 53 := by decide
    have divided : significand <<< 53 / significand = 2 ^ 53 := by
      rw [Nat.shiftLeft_eq, Nat.mul_div_cancel_left _ positive]
    have remainder : significand <<< 53 % significand = 0 := by
      rw [Nat.shiftLeft_eq, Nat.mul_mod_right]
    rw [shift, divided, remainder]
    rfl
  have one : (1 : Float) = .ofModel (pack (.finite .positive (2 ^ 52) (-52) (Nat.two_pow_pos 52))) :=
    rfl
  rw [div_eq, unpacked, UnpackedFloat.div, quotient, one]
  rfl

end Product

/-- Small whole numbers are converted as machine words. -/
theorem ofNat_of_lt {count : Nat} (small : count < 2 ^ 53) :
    Float.ofNat count = count.toUInt64.toFloat * 1 := by
  change Float.ofScientific count false 0 = _
  rw [Float.ofScientific, dif_pos ⟨small, by decide⟩]
  rfl

theorem ofNat_of_le {count : Nat} (large : 2 ^ 53 ≤ count) :
    Float.ofNat count =
      .ofModel (pack (UnpackedFloat.roundWithAccuracy .binary64 .positive (count * 2 ^ 53) (-53)
        .exact)) := by
  have slow : Float.ofNat count = .ofModel (pack (UnpackedFloat.ofScientific .binary64 count 0)) := by
    change Float.ofScientific count false 0 = _
    rw [Float.ofScientific, dif_neg (by omega)]
    rfl
  have shifted : count <<< 53 * 10 ^ 0 = count * 2 ^ 53 := by
    rw [Nat.pow_zero, Nat.mul_one, Nat.shiftLeft_eq]
  have powers : (2 : Int) ^ Format.binary64.exponentBits = 2048 := by decide
  rw [slow, UnpackedFloat.ofScientific, dif_neg (by omega), powers, if_neg (by decide),
    if_neg (by omega), if_pos (by decide), UnpackedFloat.mul, ← shifted]
  rfl

/-- Whole numbers are not rounded as long as they fit. -/
theorem roundedUnits_whole {count : Nat} (positive : 0 < count) (small : count < 2 ^ 53) :
    roundedUnits (count * 2 ^ 53) (-53) = units count 0 := by
  have bits : count.log2 < 53 := (Nat.log2_lt positive.ne').mpr small
  have reached : target count 0 = 0 - (52 - count.log2 : Nat) := by
    rw [target]
    omega
  have same := target_shifted positive 0 (52 - count.log2)
  have zeros : count * 2 ^ 53 = count * 2 ^ (52 - count.log2) * 2 ^ (count.log2 + 1) := by
    rw [Nat.mul_assoc, ← Nat.pow_add]
    congr 2
    omega
  have exponents : (-53 : Int) = 0 - (52 - count.log2 : Nat) - (count.log2 + 1 : Nat) := by omega
  rw [zeros, exponents, roundedUnits_shifted (Nat.mul_pos positive (Nat.two_pow_pos _))
    (by rw [same, reached]), roundedUnits, same, reached, Int.sub_self, Int.toNat_zero,
    nearest_zero, units_shifted count 0 _ (by omega)]

/-- Whole numbers are rounded once. -/
theorem exists_isPositive_ofNat {count : Nat} (positive : 0 < count) (fits : count ≤ 2 ^ 64) :
    ∃ significand exponent, IsPositive (Float.ofNat count) significand exponent ∧
      units significand exponent = roundedUnits (count * 2 ^ 53) (-53) := by
  rcases lt_or_ge count (2 ^ 53) with small | large
  · have word : count.toUInt64.toNat = count :=
      UInt64.toNat_ofNat_of_lt' (small.trans (by decide))
    rcases exists_isPositive_toFloat count.toUInt64 (by omega) with
      ⟨significand, exponent, found, exponent_le, exactly⟩
    rcases exists_isPositive_mul_one found (by omega) with ⟨result, scale, product, product_eq⟩
    rw [ofNat_of_lt small]
    refine ⟨result, scale, product, ?_⟩
    rw [product_eq, exactly (by omega), word, roundedUnits_whole positive small]
  · have same := target_shifted positive 0 53
    have bits := (Nat.log2_lt positive.ne').mpr (fits.trans_lt (by decide : 2 ^ 64 < 2 ^ 65))
    have bounded : target count 0 ≤ 12 := by
      rw [target]
      omega
    have shifted_pos : 0 < count * 2 ^ 53 := Nat.mul_pos positive (Nat.two_pow_pos 53)
    have least_le : -1074 ≤ target count 0 := le_max_right _ _
    change target (count * 2 ^ 53) (-53) = target count 0 at same
    rcases exists_rounded .positive shifted_pos (by rw [same, target]; omega) (by omega)
      (nearest_pos shifted_pos (by rw [same, target, log2_shifted positive]; omega)) with
      ⟨significand, exponent, _, rounded, canonical, _, exactly⟩
    rw [ofNat_of_le large]
    exact ⟨significand, exponent, isPositive_of_unpacked rounded canonical, exactly⟩

end Score

end Resemblance
