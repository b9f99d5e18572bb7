import Resemblance.Proofs.Wire.Condensed

/-!
# The shortest forms of numbers

A number is written in as few groups of seven bits as its bits need, and the length that is computed
from the number of its bits is the length of what is written. The decoder accepts longer forms, none
of them shorter, and the written form is the only one of its length.

Signed numbers are folded onto the unsigned ones by shifts of their bits. Folding can be undone in
both directions, and it doubles magnitudes: so many bytes suffice for a signed number exactly if it
lies in the symmetric range of as many groups, less the one bit that holds the sign.
-/

namespace Resemblance

namespace Varint

variable {count : Nat}

theorem length_groups_pos (number : Nat) : 0 < (groups number).length := by
  rw [groups]
  split <;> simp

/-- So many groups are enough for a number exactly if their bits are. -/
theorem length_groups_le_iff {number : Nat} (positive : 0 < count) :
    (groups number).length ≤ count ↔ number < 128 ^ count := by
  induction number using groups.induct generalizing count with
  | case1 number short =>
      have least : 128 ^ 1 ≤ 128 ^ count := Nat.pow_le_pow_right (by decide) positive
      rw [groups, if_pos short, List.length_singleton]
      exact iff_of_true positive (by omega)
  | case2 number long ih =>
      rw [groups, if_neg long, List.length_cons]
      rcases Nat.exists_eq_add_one.mpr positive with ⟨others, rfl⟩
      rw [Nat.add_le_add_iff_right, Nat.pow_succ]
      rcases Nat.eq_zero_or_pos others with rfl | some
      · have further := length_groups_pos (number / 128)
        omega
      · rw [ih some, Nat.div_lt_iff_lt_mul (by decide)]

theorem encodedLength_pos (number : UInt64) : 0 < encodedLength number := by
  simp only [encodedLength]
  split <;> omega

theorem encodedLength_le_iff {number : UInt64} (positive : 0 < count) :
    encodedLength number ≤ count ↔ number.toNat < 128 ^ count := by
  simp only [encodedLength]
  split
  · rename_i zero
    rw [zero]
    exact iff_of_true (by omega) (Nat.pow_pos (by decide))
  · rename_i nonzero
    have toNat_ne_zero : number.toNat ≠ 0 := by
      intro zero
      exact nonzero (UInt64.toNat_inj.mp zero)
    have power : 128 ^ count = 2 ^ (7 * count) := by rw [Nat.pow_mul]
    rw [power, ← Nat.log2_lt toNat_ne_zero]
    omega

/-- The length that is computed from the bits of a number is that of its written form. -/
theorem length_encode (number : UInt64) : (encode number).length = encodedLength number := by
  have same {count : Nat} (positive : 0 < count) :
      (encode number).length ≤ count ↔ encodedLength number ≤ count := by
    rw [encode, length_groups_le_iff positive, encodedLength_le_iff positive]
  apply Nat.le_antisymm
  · exact (same (encodedLength_pos number)).mpr (Nat.le_refl _)
  · exact (same (length_groups_pos number.toNat)).mp (Nat.le_refl _)

theorem isForm_encode (number : UInt64) : IsForm (encode number) number.toNat := by
  have decodes := decode_encode number []
  rw [List.append_nil] at decodes
  rcases decode_eq_ok_iff.mp decodes with ⟨form, rest, split, isForm, size⟩
  have nothingLeft : rest = [] := by
    have lengths := congrArg List.length split
    rw [List.length_append, size] at lengths
    exact List.length_eq_zero_iff.mp (by omega)
  rwa [split, nothingLeft, List.append_nil]

/-- No form of a number is shorter than the written one, and no other form is as short. -/
theorem IsForm.encodedLength_le {form : List UInt8} {number : UInt64}
    (isForm : IsForm form number.toNat) :
    encodedLength number ≤ form.length ∧
      (form.length = encodedLength number ↔ form = encode number) := by
  have condensed := isForm.chained.groups_amount
  rw [isForm.amount_eq] at condensed
  rw [← length_encode, encode]
  rcases condensed with written | shorter
  · rw [written]
    exact ⟨Nat.le_refl _, iff_of_true rfl rfl⟩
  · refine ⟨Nat.le_of_lt shorter, iff_of_false (Nat.ne_of_gt shorter) ?_⟩
    rintro rfl
    exact Nat.lt_irrefl _ shorter

end Varint

/-! ## Folding -/

namespace ZigZag

theorem toNat_encode (number : Int64) :
    ((encode number).toNat : Int) =
      if 0 ≤ number.toInt then 2 * number.toInt else -2 * number.toInt - 1 := by
  have lower := number.le_toInt
  have upper := number.toInt_lt
  simp only [encode]
  split
  · have fits : (2 * number.toInt).toNat < UInt64.size := by
      change _ < 18446744073709551616
      omega
    rw [UInt64.toNat_ofNat_of_lt' fits]
    omega
  · have fits : (-2 * number.toInt - 1).toNat < UInt64.size := by
      change _ < 18446744073709551616
      omega
    rw [UInt64.toNat_ofNat_of_lt' fits]
    omega

theorem toNat_encode_lt_iff (number : Int64) (half : Nat) :
    (encode number).toNat < 2 * half ↔ -half ≤ number.toInt ∧ number.toInt < half := by
  have folded := toNat_encode number
  split at folded <;> omega

/-- The sign of a number on all of its bits. -/
theorem shiftRight_sign (number : Int64) :
    number >>> 63 = if 0 ≤ number.toInt then 0 else -1 := by
  have lower := number.le_toInt
  have upper := number.toInt_lt
  have shifted : (number >>> 63).toInt = number.toInt / 2 ^ 63 := by
    have bits : (number >>> 63).toInt = (number.toBitVec.sshiftRight 63).toInt := rfl
    rw [bits, BitVec.toInt_sshiftRight, Int.shiftRight_eq_div_pow]
    rfl
  rw [← Int64.toInt_inj, shifted]
  split
  · rw [Int64.toInt_zero]
    omega
  · change _ = (-1 : Int)
    omega

theorem toNat_shiftLeft_one (number : Int64) :
    ((number <<< 1).toUInt64.toNat : Int) = 2 * number.toInt % 2 ^ 64 := by
  have bits : (number <<< 1).toUInt64.toNat = (number.toBitVec <<< 1).toNat := rfl
  have value : number.toInt = number.toBitVec.toInt := rfl
  rw [bits, BitVec.toNat_shiftLeft, Nat.shiftLeft_eq, value, BitVec.toInt_eq_toNat_bmod,
    Int.bmod_def]
  omega

/-- Numbers are folded by their shifted bits, which are inverted below zero. -/
theorem encode_eq_shifts (number : Int64) :
    encode number = ((number <<< 1) ^^^ (number >>> 63)).toUInt64 := by
  have lower := number.le_toInt
  have upper := number.toInt_lt
  have doubled := toNat_shiftLeft_one number
  have folded := toNat_encode number
  rw [shiftRight_sign, ← UInt64.toNat_inj]
  by_cases nonnegative : 0 ≤ number.toInt
  · rw [if_pos nonnegative] at folded ⊢
    rw [Int64.xor_zero]
    omega
  · rw [if_neg nonnegative] at folded ⊢
    rw [Int64.xor_neg_one, Int64.toUInt64_not, UInt64.toNat_not]
    change _ = 18446744073709551616 - 1 - _
    omega

theorem toInt_shiftRight_one (number : UInt64) :
    (number >>> 1).toInt64.toInt = (number.toNat / 2 : Nat) := by
  have below := number.toNat_lt
  have value : (number >>> 1).toInt64.toInt = (number >>> 1).toBitVec.toInt := rfl
  have half : (number >>> 1).toBitVec.toNat = number.toNat / 2 := by
    change (number >>> 1).toNat = _
    rw [UInt64.toNat_shiftRight]
    exact Nat.shiftRight_eq_div_pow _ 1
  rw [value, BitVec.toInt_eq_toNat_bmod, half]
  exact Int.bmod_eq_of_le (by omega) (by omega)

/-- Numbers are unfolded by shifting out the lowest bit, which inverts the others if it is set. -/
theorem decode_eq_shifts (number : UInt64) :
    decode number = (number >>> 1).toInt64 ^^^ -(number &&& 1).toInt64 := by
  have halved := toInt_shiftRight_one number
  have half : Int64.ofInt (number.toNat / 2 : Nat) = (number >>> 1).toInt64 := by
    rw [← halved, Int64.ofInt_toInt]
  have lowest : (number &&& 1).toNat = number.toNat % 2 := by
    rw [UInt64.toNat_and]
    exact Nat.and_one_is_mod _
  rw [decode]
  by_cases even : number.toNat % 2 = 0
  · have clear : number &&& 1 = 0 := by
      rw [← UInt64.toNat_inj, lowest, even]
      rfl
    simp only [even, if_true, half, clear]
    exact Int64.xor_zero.symm
  · have set : number &&& 1 = 1 := by
      rw [← UInt64.toNat_inj, lowest]
      change _ = 1
      omega
    have minusOne : -(1 : UInt64).toInt64 = -1 := by decide
    simp only [even, if_false, set, minusOne, Int64.xor_neg_one]
    rw [← Int64.toInt_inj, Int64.toInt_not, halved, Int64.toInt_ofInt]

end ZigZag

/-! ## Shortest forms -/

namespace Varint

/-- The written form of a number is its shortest one, and the number is read back from it. -/
structure WrittenShortest (number : UInt64) : Prop where
  length_eq : (encode number).length = encodedLength number
  decodes : ∀ rest, decode (encode number ++ rest) = .ok (number, encodedLength number)
  /-- A reader takes the form and leaves what follows it. -/
  leaves : ∀ rest position depth ending,
    Reader.varint ⟨encode number ++ rest, position, depth, ending⟩ =
      .ok number ⟨rest, position + encodedLength number, depth, ending⟩
  shortest : ∀ bytes consumed, decode bytes = .ok (number, consumed) →
    encodedLength number ≤ consumed ∧
      (consumed = encodedLength number ↔ bytes.take consumed = encode number)

/-- Folding a signed number loses nothing, and keeps it short if it is close to zero. -/
structure FoldedShort (number : Int64) : Prop where
  eq_shifts : ZigZag.encode number = ((number <<< 1) ^^^ (number >>> 63)).toUInt64
  unfolds : ZigZag.decode (ZigZag.encode number) = number
  length_le_iff : ∀ count, 0 < count →
    ((encode (ZigZag.encode number)).length ≤ count ↔
      -2 ^ (7 * count - 1) ≤ number.toInt ∧ number.toInt < 2 ^ (7 * count - 1))

/-- Unfolding an unsigned number loses nothing either. -/
structure Unfolded (number : UInt64) : Prop where
  eq_shifts : ZigZag.decode number = (number >>> 1).toInt64 ^^^ -(number &&& 1).toInt64
  folds : ZigZag.encode (ZigZag.decode number) = number

theorem writtenShortest (number : UInt64) : WrittenShortest number where
  length_eq := length_encode number
  decodes := by
    intro rest
    rw [← length_encode, decode_encode]
  leaves := by
    intro rest position depth ending
    rw [← length_encode]
    exact Reader.varint_takes_iff.mpr (isForm_encode number) position rest ending
  shortest := by
    intro bytes consumed success
    rcases decode_eq_ok_iff.mp success with ⟨form, rest, rfl, isForm, rfl⟩
    rw [List.take_left]
    exact isForm.encodedLength_le

theorem foldedShort (number : Int64) : FoldedShort number where
  eq_shifts := ZigZag.encode_eq_shifts number
  unfolds := ZigZag.decode_encode number
  length_le_iff := by
    intro count positive
    have power : 128 ^ count = 2 * 2 ^ (7 * count - 1) := by
      have exponent : 7 * count = 7 * count - 1 + 1 := by omega
      calc 128 ^ count = 2 ^ (7 * count) := by rw [Nat.pow_mul]
        _ = 2 ^ (7 * count - 1 + 1) := by rw [← exponent]
        _ = 2 * 2 ^ (7 * count - 1) := by rw [Nat.pow_succ, Nat.mul_comm]
    rw [encode, length_groups_le_iff positive, power, ZigZag.toNat_encode_lt_iff]
    simp

/-- Numbers are written in their shortest forms, signed ones after an invertible folding. -/
theorem encode_isShortest (number : UInt64) (signed : Int64) :
    WrittenShortest number ∧ FoldedShort signed ∧ Unfolded number :=
  ⟨writtenShortest number, foldedShort signed,
    ZigZag.decode_eq_shifts number, ZigZag.encode_decode number⟩

/-- The range of two bytes ends at the number that a third byte is needed for. -/
example : (encode (ZigZag.encode (-8192))).length = 2 ∧
    (encode (ZigZag.encode 8192)).length = 3 := by
  rw [length_encode, length_encode]
  decide

end Varint

end Resemblance
