import Resemblance.Proofs.Number.Order

/-!
# Canonical numbers

A finite number is a significand and the exponent of a power of two. The format stores it with the
significand as great as its bits allow, or with the least exponent; in this form, the exponent
decides which of two numbers is greater, and only then the significand. Whatever is unpacked has
this form, and whatever has this form survives being packed.

Numbers of different exponents are compared as multiples of one power of two, `units`, so small that
products of two numbers are multiples of it too.
-/

namespace Resemblance

namespace Score

open Float.Model

/-- The significand has its leading bit, or the exponent is the least one. -/
structure IsCanonical (significand : Nat) (exponent : Int) : Prop where
  significand_pos : 0 < significand
  significand_lt : significand < 2 ^ 53
  least_le : -1074 ≤ exponent
  le_greatest : exponent ≤ 971
  leading : 2 ^ 52 ≤ significand ∨ exponent = -1074

/-- A positive number as a multiple of the least product of two numbers. -/
def units (significand : Nat) (exponent : Int) : Nat :=
  significand * 2 ^ (exponent + 2148).toNat

variable {significand other : Nat} {exponent second : Int} {sign : UnpackedFloat.Sign}
  {positive : 0 < significand}

/-! ## Packed numbers -/

theorem bias_binary64 : (Format.binary64.exponentBias : Int) = 1023 := rfl

theorem fractionBits_binary64 : (Format.binary64.mantissaBitsWithoutImplicit : Int) = 52 := rfl

theorem toNat_withLeadingBit (fraction : BitVec 52) :
    (1#1 ++ fraction).toNat = 2 ^ 52 + fraction.toNat := by
  rw [BitVec.toNat_append, ← Nat.shiftLeft_add_eq_or_of_lt fraction.isLt, Nat.shiftLeft_eq]
  rfl

/--
A finite number has the least exponent, without the leading bit, or the exponent that is stored,
with the leading bit.
-/
theorem of_unpack_eq_finite {bits : BitVec 64}
    (unpacked : UnpackedFloat.unpack .binary64 bits = .finite sign significand exponent positive) :
    UnpackedFloat.Sign.ofBitVec (@UnpackedFloat.unpackSign .binary64 bits) = sign ∧
      ((@UnpackedFloat.unpackExponent .binary64 bits).toNat = 0 ∧ exponent = -1074 ∧
          significand = (@UnpackedFloat.unpackMantissa .binary64 bits).toNat ∨
        (@UnpackedFloat.unpackExponent .binary64 bits).toNat ≠ 0 ∧
          (@UnpackedFloat.unpackExponent .binary64 bits).toNat ≠ 2047 ∧
          exponent = (@UnpackedFloat.unpackExponent .binary64 bits).toNat - 1075 ∧
          significand = 2 ^ 52 + (@UnpackedFloat.unpackMantissa .binary64 bits).toNat) := by
  rw [UnpackedFloat.unpack, bias_binary64, fractionBits_binary64] at unpacked
  split at unpacked
  case isTrue => split at unpacked <;> cases unpacked
  case isFalse notGreatest =>
    split at unpacked
    case isTrue least =>
      split at unpacked
      case isTrue => cases unpacked
      case isFalse =>
        injection unpacked with sign_eq significand_eq exponent_eq
        rw [least] at exponent_eq
        refine ⟨sign_eq, .inl ⟨congrArg BitVec.toNat least, ?_, significand_eq.symm⟩⟩
        exact exponent_eq.symm
    case isFalse notLeast =>
      injection unpacked with sign_eq significand_eq exponent_eq
      rw [toNat_withLeadingBit] at significand_eq
      refine ⟨sign_eq, .inr ⟨?_, ?_, ?_, significand_eq.symm⟩⟩
      · exact fun same => notLeast (BitVec.eq_of_toNat_eq same)
      · exact fun same => notGreatest (BitVec.eq_of_toNat_eq same)
      · omega

theorem isCanonical_unpack {bits : BitVec 64}
    (unpacked : UnpackedFloat.unpack .binary64 bits = .finite sign significand exponent positive) :
    IsCanonical significand exponent := by
  have fraction_lt : (@UnpackedFloat.unpackMantissa .binary64 bits).toNat < 2 ^ 52 :=
    (@UnpackedFloat.unpackMantissa .binary64 bits).isLt
  have stored_lt : (@UnpackedFloat.unpackExponent .binary64 bits).toNat < 2 ^ 11 :=
    (@UnpackedFloat.unpackExponent .binary64 bits).isLt
  have parts := (of_unpack_eq_finite unpacked).2
  constructor <;> omega

theorem toNat_eq_components (bits : BitVec 64) :
    bits.toNat = (@UnpackedFloat.unpackSign .binary64 bits).toNat * 2 ^ 63 +
      (@UnpackedFloat.unpackExponent .binary64 bits).toNat * 2 ^ 52 +
      (@UnpackedFloat.unpackMantissa .binary64 bits).toNat := by
  have sign_eq : (@UnpackedFloat.unpackSign .binary64 bits).toNat = bits.toNat >>> 63 % 2 :=
    BitVec.extractLsb_toNat 63 63 bits
  have stored_eq : (@UnpackedFloat.unpackExponent .binary64 bits).toNat =
      bits.toNat >>> 52 % 2 ^ 11 :=
    BitVec.extractLsb_toNat 62 52 bits
  have fraction_eq : (@UnpackedFloat.unpackMantissa .binary64 bits).toNat =
      bits.toNat >>> 0 % 2 ^ 52 :=
    BitVec.extractLsb_toNat 51 0 bits
  have bits_lt := bits.isLt
  rw [sign_eq, stored_eq, fraction_eq, Nat.shiftRight_eq_div_pow, Nat.shiftRight_eq_div_pow,
    Nat.shiftRight_zero]
  omega

/-- The word of a positive number counts the numbers up to it. -/
theorem toNat_of_unpack_eq {bits : BitVec 64}
    (unpacked : UnpackedFloat.unpack .binary64 bits =
      .finite .positive significand exponent positive) :
    bits.toNat = (exponent + 1074).toNat * 2 ^ 52 + significand := by
  rcases of_unpack_eq_finite unpacked with ⟨sign_eq, parts⟩
  have signBit : @UnpackedFloat.unpackSign .binary64 bits = 0#1 := by
    rw [UnpackedFloat.Sign.ofBitVec] at sign_eq
    split at sign_eq
    · assumption
    · cases sign_eq
  rw [toNat_eq_components bits, signBit]
  change 0 * 2 ^ 63 + _ + _ = _
  omega

theorem unpackSign_packComponents (sign : UnpackedFloat.Sign) (stored : BitVec 11)
    (fraction : BitVec 52) :
    UnpackedFloat.Sign.ofBitVec (UnpackedFloat.unpackSign
      (UnpackedFloat.packComponents .binary64 sign stored fraction)) = sign := by
  simp only [UnpackedFloat.unpackSign, UnpackedFloat.packComponents, BitVec.extractLsb]
  rw [BitVec.extractLsb'_append_eq_of_le (by decide),
    BitVec.extractLsb'_append_eq_of_le (by decide)]
  cases sign <;> rfl

theorem unpack_pack_eq (number : UnpackedFloat) :
    (pack number).unpack =
      UnpackedFloat.unpack .binary64 (UnpackedFloat.pack .binary64 number) :=
  rfl

theorem finite_congr (sign : UnpackedFloat.Sign) {otherPositive : 0 < other}
    (significands : significand = other) (exponents : exponent = second) :
    UnpackedFloat.finite sign significand exponent positive =
      .finite sign other second otherPositive := by
  subst significands exponents
  rfl

/-- With the least exponent, the leading bit is missing. -/
theorem unpack_pack_least (noLeadingBit : significand < 2 ^ 52) :
    (pack (.finite sign significand (-1074) positive)).unpack =
      .finite sign significand (-1074) positive := by
  rw [unpack_pack_eq]
  have bits_ne : significand.log2 + 1 ≠ Format.binary64.mantissaBits := by
    have := (Nat.log2_lt positive.ne').mpr noLeadingBit
    change significand.log2 + 1 ≠ 53
    omega
  have kept : (BitVec.ofNat 52 significand).toNat = significand := by
    rw [BitVec.toNat_ofNat, Nat.mod_eq_of_lt noLeadingBit]
  have notZero : BitVec.ofNat 52 significand ≠ 0#52 := by
    intro zero
    rw [zero] at kept
    exact positive.ne kept
  rw [UnpackedFloat.pack]
  dsimp only
  rw [if_neg (by decide), if_neg bits_ne, UnpackedFloat.unpack]
  simp only [UnpackedFloat.unpackExponent_packComponents,
    UnpackedFloat.unpackMantissa_packComponents, unpackSign_packComponents]
  rw [if_neg (by decide), if_pos trivial, dif_neg notZero]
  exact finite_congr sign kept rfl

theorem unpack_pack_leading (leadingBit : 2 ^ 52 ≤ significand)
    (canonical : IsCanonical significand exponent) :
    (pack (.finite sign significand exponent positive)).unpack =
      .finite sign significand exponent positive := by
  rw [unpack_pack_eq]
  have significand_lt := canonical.significand_lt
  have least_le := canonical.least_le
  have le_greatest := canonical.le_greatest
  have bits_eq : significand.log2 + 1 = Format.binary64.mantissaBits := by
    have := (Nat.le_log2 positive.ne').mpr leadingBit
    have := (Nat.log2_lt positive.ne').mpr significand_lt
    change significand.log2 + 1 = 53
    omega
  have stored_eq : (BitVec.ofNat 11 (exponent + 1023 + 52).toNat).toNat =
      (exponent + 1075).toNat := by
    rw [BitVec.toNat_ofNat, Nat.mod_eq_of_lt (by omega)]
    omega
  have notGreatest : BitVec.ofNat 11 (exponent + 1023 + 52).toNat ≠ -1#11 := by
    intro same
    rw [same] at stored_eq
    change 2047 = _ at stored_eq
    omega
  have notLeast : BitVec.ofNat 11 (exponent + 1023 + 52).toNat ≠ 0#11 := by
    intro same
    rw [same] at stored_eq
    change 0 = _ at stored_eq
    omega
  rw [UnpackedFloat.pack, bias_binary64, fractionBits_binary64]
  dsimp only
  rw [if_neg (by omega), if_pos bits_eq, UnpackedFloat.unpack, bias_binary64, fractionBits_binary64]
  simp only [UnpackedFloat.unpackExponent_packComponents,
    UnpackedFloat.unpackMantissa_packComponents, unpackSign_packComponents]
  rw [if_neg notGreatest, if_neg notLeast]
  apply finite_congr
  · rw [toNat_withLeadingBit, BitVec.toNat_ofNat]
    omega
  · rw [stored_eq]
    omega

/-- Packing loses nothing of a canonical number. -/
theorem unpack_pack (canonical : IsCanonical significand exponent) :
    (pack (.finite sign significand exponent positive)).unpack =
      .finite sign significand exponent positive := by
  by_cases leadingBit : 2 ^ 52 ≤ significand
  · exact unpack_pack_leading leadingBit canonical
  · cases canonical.leading.resolve_left leadingBit
    exact unpack_pack_least (not_le.mp leadingBit)

/-! ## Canonical numbers in order -/

theorem units_mono (more : significand ≤ other) (exponent : Int) :
    units significand exponent ≤ units other exponent :=
  Nat.mul_le_mul_right _ more

/-- A greater exponent makes up for any significand. -/
theorem units_le_of_exponent_lt (significand_le : significand ≤ 2 ^ 53) (leadingBit : 2 ^ 52 ≤ other)
    (least_le : -2148 ≤ exponent) (less : exponent < second) :
    units significand exponent ≤ units other second := by
  have further : (exponent + 2148).toNat + 1 ≤ (second + 2148).toNat := by omega
  calc
    units significand exponent
    _ ≤ 2 ^ 53 * 2 ^ (exponent + 2148).toNat := units_mono significand_le exponent
    _ = 2 ^ 52 * 2 ^ ((exponent + 2148).toNat + 1) := by
        rw [← Nat.pow_add, ← Nat.pow_add]
        congr 1
        omega
    _ ≤ units other second :=
        Nat.mul_le_mul leadingBit (Nat.pow_le_pow_right Nat.two_pos further)

theorem units_lt_of_exponent_lt (low : IsCanonical significand exponent)
    (high : IsCanonical other second) (less : exponent < second) :
    units significand exponent < units other second := by
  have least_le := low.least_le
  have leadingBit : 2 ^ 52 ≤ other := high.leading.resolve_right (by omega)
  calc
    units significand exponent
    _ < units (2 ^ 53) exponent :=
        Nat.mul_lt_mul_of_pos_right low.significand_lt (Nat.two_pow_pos _)
    _ ≤ units other second :=
        units_le_of_exponent_lt le_rfl leadingBit (by omega) less

/-- A number that is not below a power of two has no lower exponent. -/
theorem exponent_le_of_units_le (canonical : IsCanonical other second)
    (atLeast : units (2 ^ 52) exponent ≤ units other second) : exponent ≤ second := by
  refine not_lt.mp fun less => ?_
  have least_le := canonical.least_le
  have below : units other second < units (2 ^ 53) second :=
    Nat.mul_lt_mul_of_pos_right canonical.significand_lt (Nat.two_pow_pos _)
  have above : units (2 ^ 53) second ≤ units (2 ^ 52) exponent :=
    units_le_of_exponent_lt le_rfl le_rfl (by omega) less
  omega

theorem units_le_iff (low : IsCanonical significand exponent) (high : IsCanonical other second) :
    units significand exponent ≤ units other second ↔
      toLex (exponent, (significand : Int)) ≤ toLex (second, (other : Int)) := by
  rw [Prod.Lex.toLex_le_toLex]
  dsimp only
  constructor
  · intro atMost
    rcases lt_trichotomy exponent second with less | same | more
    · exact .inl less
    · subst same
      refine .inr ⟨rfl, ?_⟩
      exact Int.ofNat_le.mpr (Nat.le_of_mul_le_mul_right atMost (Nat.two_pow_pos _))
    · exact absurd atMost (units_lt_of_exponent_lt high low more).not_ge
  · rintro (less | ⟨rfl, atMost⟩)
    · exact (units_lt_of_exponent_lt low high less).le
    · exact units_mono (Int.ofNat_le.mp atMost) exponent

/-! ## Positive numbers -/

/-- A finite number above zero has this significand and exponent. -/
def IsPositive (score : Float) (significand : Nat) (exponent : Int) : Prop :=
  ∃ positive, score.toModel.unpack = .finite .positive significand exponent positive

variable {score greater : Float}

theorem IsPositive.canonical (positive : IsPositive score significand exponent) :
    IsCanonical significand exponent :=
  positive.elim fun _ unpacked => isCanonical_unpack unpacked

/-- No two numbers have the same significand and exponent. -/
theorem IsPositive.eq (positive : IsPositive score significand exponent)
    (other : IsPositive greater significand exponent) : score = greater := by
  rcases positive with ⟨_, unpacked⟩
  rcases other with ⟨_, otherUnpacked⟩
  rcases score with ⟨⟨bits, valid⟩⟩
  rcases greater with ⟨⟨otherBits, otherValid⟩⟩
  have same : bits = otherBits := by
    apply UInt64.toNat_inj.mp
    exact (toNat_of_unpack_eq unpacked).trans (toNat_of_unpack_eq otherUnpacked).symm
  subst same
  rfl

theorem IsPositive.place_eq (positive : IsPositive score significand exponent) :
    place score = some (toLex (1, toLex (exponent, (significand : Int)))) := by
  rcases positive with ⟨positive, unpacked⟩
  rw [place, unpacked]
  rfl

theorem IsPositive.le_iff (low : IsPositive score significand exponent)
    (high : IsPositive greater other second) :
    score ≤ greater ↔ units significand exponent ≤ units other second := by
  rw [Score.le_iff, units_le_iff low.canonical high.canonical]
  simp [low.place_eq, high.place_eq, Prod.Lex.toLex_le_toLex]

theorem IsPositive.isNaN (positive : IsPositive score significand exponent) :
    score.isNaN = false :=
  exists_place_iff.mp ⟨_, positive.place_eq⟩

theorem IsPositive.lt (low : IsPositive score significand exponent)
    (high : IsPositive greater other second)
    (less : units significand exponent < units other second) : score < greater :=
  Score.lt_of_not_le low.isNaN high.isNaN fun atMost =>
    not_le.mpr less ((high.le_iff low).mp atMost)

/-- A number is known by its units. -/
theorem IsPositive.eq_iff (low : IsPositive score significand exponent)
    (high : IsPositive greater other second) :
    score = greater ↔ units significand exponent = units other second := by
  constructor
  · rintro rfl
    have places := low.place_eq.symm.trans high.place_eq
    simp only [Option.some.injEq, toLex_inj, Prod.mk.injEq, Int.ofNat_inj, true_and] at places
    rw [places.1, places.2]
  · intro same
    have below := (units_le_iff low.canonical high.canonical).mp same.le
    have above := (units_le_iff high.canonical low.canonical).mp same.ge
    have equal := toLex_inj.mp (le_antisymm below above)
    have exponent_eq : exponent = second := congrArg Prod.fst equal
    have significand_eq : significand = other := Int.ofNat_inj.mp (congrArg Prod.snd equal)
    rw [exponent_eq, significand_eq] at low
    exact low.eq high

theorem isPositive_one : IsPositive 1 (2 ^ 52) (-52) :=
  ⟨by decide, rfl⟩

theorem place_zero : place 0 = some (toLex (0, toLex (0, 0))) := by
  have unpacked : (0 : Float).toModel.unpack = .zero .positive := rfl
  rw [place, unpacked]
  rfl

theorem IsPositive.zero_lt (positive : IsPositive score significand exponent) : 0 < score := by
  refine lt_iff.mpr ⟨_, _, place_zero, positive.place_eq, ?_⟩
  simp [Prod.Lex.toLex_lt_toLex]

/-- Between zero and one, there are only finite numbers above zero. -/
theorem exists_isPositive (positive : 0 < score) (atMost : score ≤ 1) :
    ∃ significand exponent, IsPositive score significand exponent := by
  rcases lt_iff.mp positive with ⟨zero, here, zeroPlace, found, after⟩
  rcases Score.le_iff.mp atMost with ⟨again, one, same, onePlace, before⟩
  rw [found, Option.some.injEq] at same
  subst same
  rw [isPositive_one.place_eq, Option.some.injEq] at onePlace
  rw [place_zero, Option.some.injEq] at zeroPlace
  subst onePlace zeroPlace
  rw [place] at found
  cases unpacked : score.toModel.unpack with
  | notANumber =>
      rw [unpacked] at found
      cases found
  | infinity sign =>
      rw [unpacked] at found
      cases sign <;> cases found
      · exact absurd after (by decide)
      · exact absurd before (by decide)
  | zero sign =>
      rw [unpacked] at found
      cases found
      exact absurd after (lt_irrefl _)
  | finite sign significand exponent significand_pos =>
      rw [unpacked] at found
      cases sign with
      | positive => exact ⟨significand, exponent, significand_pos, unpacked⟩
      | negative =>
          cases found
          simp [Prod.Lex.toLex_lt_toLex] at after

theorem eq_one_of_le_of_ge (atMost : score ≤ 1) (atLeast : 1 ≤ score) : score = 1 := by
  rcases exists_isPositive (Score.lt_of_lt_of_le Score.zero_lt_one atLeast) atMost with
    ⟨significand, exponent, positive⟩
  have below := (positive.le_iff isPositive_one).mp atMost
  have above := (isPositive_one.le_iff positive).mp atLeast
  exact (positive.eq_iff isPositive_one).mpr (le_antisymm below above)

end Score

end Resemblance
