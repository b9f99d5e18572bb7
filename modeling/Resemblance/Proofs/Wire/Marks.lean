import Mathlib
import Resemblance.Proofs.Wire.Form

/-!
# Decoding by the marks

What the decoder of variable-length numbers says of a byte string can be read off the top bits of
its first ten bytes, the marks. The first byte without the mark ends a number, which is the sum of
the groups of seven bits, each at the place that counts the groups before it. If there is no such
byte, the bytes have run out, or ten of them were not enough; and as nine groups have 63 bits, the
tenth one has room for one bit only. Each of these cases is recognized exactly, together with the
number of bytes taken.
-/

namespace Resemblance

namespace Varint

variable {index sum consumed last : Nat} {byte : UInt8} {bytes form rest : List UInt8}

/-! ## Amounts -/

theorem amount_append (front back : List UInt8) :
    amount (front ++ back) = amount front + 128 ^ front.length * amount back := by
  induction front with
  | nil => simp [amount]
  | cons byte front ih =>
      rw [List.cons_append, amount_cons, ih, amount_cons, List.length_cons, Nat.pow_succ]
      ring

theorem amount_lt (bytes : List UInt8) : amount bytes < 128 ^ bytes.length := by
  induction bytes with
  | nil => decide
  | cons byte bytes ih =>
      have group := Nat.mod_lt byte.toNat (by decide : 0 < 128)
      rw [amount_cons, List.length_cons, Nat.pow_succ]
      omega

theorem amount_eq_sum (bytes : List UInt8) :
    amount bytes =
      ∑ place ∈ Finset.range bytes.length, (bytes.getD place 0).toNat % 128 * 128 ^ place := by
  induction bytes with
  | nil => rfl
  | cons byte bytes ih =>
      rw [amount_cons, List.length_cons, Finset.sum_range_succ', ih, Finset.mul_sum, Nat.add_comm]
      simp only [List.getD_cons_succ, List.getD_cons_zero, Nat.pow_zero, Nat.mul_one, Nat.pow_succ]
      congr 1
      apply Finset.sum_congr rfl
      intro place _
      ring

/-! ## Marks -/

/-- The byte at a place is the first one without the mark. -/
structure EndsAt (bytes : List UInt8) (last : Nat) : Prop where
  within : last < bytes.length
  unmarked : (bytes.getD last 0).toNat < 128
  marked : ∀ earlier < last, 128 ≤ (bytes.getD earlier 0).toNat

theorem endsAt_cons_zero_iff : EndsAt (byte :: rest) 0 ↔ byte.toNat < 128 := by
  constructor
  · intro ends
    exact ends.unmarked
  · intro unmarked
    exact ⟨Nat.zero_lt_succ _, unmarked, fun earlier before => absurd before (Nat.not_lt_zero _)⟩

theorem endsAt_cons_succ_iff :
    EndsAt (byte :: rest) (last + 1) ↔ 128 ≤ byte.toNat ∧ EndsAt rest last := by
  constructor
  · intro ends
    refine ⟨ends.marked 0 (Nat.zero_lt_succ _), Nat.lt_of_succ_lt_succ ends.within, ends.unmarked, ?_⟩
    intro earlier before
    exact ends.marked (earlier + 1) (Nat.succ_lt_succ before)
  · rintro ⟨marked, ends⟩
    refine ⟨Nat.succ_lt_succ ends.within, ends.unmarked, ?_⟩
    intro earlier before
    cases earlier with
    | zero => exact marked
    | succ earlier => exact ends.marked earlier (Nat.lt_of_succ_lt_succ before)

/-- The bytes up to the first one without the mark are a chain, and there is no other chain. -/
theorem chained_iff_endsAt (rest : List UInt8) :
    Chained form ↔ EndsAt (form ++ rest) (form.length - 1) ∧ form ≠ [] := by
  induction form with
  | nil => simp [Chained]
  | cons byte form ih =>
      rw [chained_cons_iff, List.length_cons, Nat.add_sub_cancel, List.cons_append]
      cases form with
      | nil => simp [endsAt_cons_zero_iff, Chained]
      | cons next form =>
          rw [List.length_cons, endsAt_cons_succ_iff, ih, List.length_cons, Nat.add_sub_cancel]
          simp

theorem exists_chained_iff :
    (∃ form rest, bytes = form ++ rest ∧ Chained form ∧ form.length = last + 1) ↔
      EndsAt bytes last := by
  constructor
  · rintro ⟨form, rest, rfl, chained, size⟩
    have ends := ((chained_iff_endsAt rest).mp chained).1
    rwa [size, Nat.add_sub_cancel] at ends
  · intro ends
    have size : (bytes.take (last + 1)).length = last + 1 := List.length_take_of_le ends.within
    have nonempty : bytes.take (last + 1) ≠ [] := List.length_pos_iff.mp (by omega)
    refine ⟨bytes.take (last + 1), bytes.drop (last + 1), (List.take_append_drop _ _).symm, ?_, size⟩
    apply (chained_iff_endsAt (bytes.drop (last + 1))).mpr
    rw [List.take_append_drop, size, Nat.add_sub_cancel]
    exact ⟨ends, nonempty⟩

/-! ## Room -/

/-- The number that ends at a place among the first ten has no more than 64 bits. -/
def HasRoom (bytes : List UInt8) (last : Nat) : Prop :=
  last < maxLength - 1 ∨ (bytes.getD (maxLength - 1) 0).toNat ≤ 1

theorem Chained.fits_iff (chained : Chained form) (short : form.length ≤ maxLength)
    (rest : List UInt8) :
    amount form < 2 ^ 64 ↔ HasRoom (form ++ rest) (form.length - 1) := by
  have below := amount_lt form
  rcases Nat.lt_or_ge form.length maxLength with early | full
  · refine iff_of_true ?_ (.inl (Nat.sub_lt_sub_right (List.length_pos_iff.mpr chained.ne_nil) early))
    calc amount form < 128 ^ form.length := below
      _ ≤ 128 ^ 9 := Nat.pow_le_pow_right (by decide) (Nat.le_of_lt_succ early)
      _ < 2 ^ 64 := by decide
  · -- Nine groups come before the tenth one, and they have 63 bits.
    have size : form.length = 10 := Nat.le_antisymm short full
    have ends := ((chained_iff_endsAt rest).mp chained).1
    rw [size] at ends
    have tenth : ((form ++ rest).getD 9 0).toNat < 128 := ends.unmarked
    have front : (form.take 9).length = 9 := List.length_take_of_le (by omega)
    have split : form = form.take 9 ++ [(form ++ rest).getD 9 0] := by
      rw [List.getD_append _ _ _ _ (by omega), List.getD_eq_getElem _ _ (by omega),
        List.take_append_getElem, List.take_of_length_le size.le]
    have lower := amount_lt (form.take 9)
    have whole := amount_append (form.take 9) [(form ++ rest).getD 9 0]
    rw [← split, front, amount_singleton tenth] at whole
    rw [front] at lower
    rw [whole, HasRoom, size]
    change _ ↔ 9 < 9 ∨ ((form ++ rest).getD 9 0).toNat ≤ 1
    omega

/-! ## Outcomes -/

/-- The sum of the groups up to a place, each at the place that counts the groups before it. -/
def groupSum (bytes : List UInt8) (last : Nat) : Nat :=
  ∑ place ∈ Finset.range (last + 1), (bytes.getD place 0).toNat % 128 * 128 ^ place

theorem groupSum_eq (size : form.length = last + 1) (rest : List UInt8) :
    groupSum (form ++ rest) last = amount form := by
  rw [groupSum, amount_eq_sum, size]
  apply Finset.sum_congr rfl
  intro place member
  rw [List.getD_append _ _ _ _ (by rw [size]; exact Finset.mem_range.mp member)]

theorem exists_isForm_iff :
    (∃ form rest number, bytes = form ++ rest ∧ IsForm form number ∧ form.length = last + 1) ↔
      last < maxLength ∧ EndsAt bytes last ∧ HasRoom bytes last := by
  constructor
  · rintro ⟨form, rest, number, rfl, isForm, size⟩
    have room := (isForm.chained.fits_iff isForm.short rest).mp
      (isForm.amount_eq ▸ isForm.fits)
    rw [size, Nat.add_sub_cancel] at room
    refine ⟨?_, exists_chained_iff.mp ⟨form, rest, rfl, isForm.chained, size⟩, room⟩
    rw [← Nat.add_one_le_iff, ← size]
    exact isForm.short
  · rintro ⟨last_lt, ends, room⟩
    rcases exists_chained_iff.mpr ends with ⟨form, rest, rfl, chained, size⟩
    have short : form.length ≤ maxLength := by
      rw [size]
      exact last_lt
    refine ⟨form, rest, amount form, rfl, ⟨chained, short, rfl, ?_⟩, size⟩
    rw [chained.fits_iff short rest, size]
    exact room

theorem exists_decode_eq_ok_iff :
    (∃ number, decode bytes = .ok (number, last + 1)) ↔
      last < maxLength ∧ EndsAt bytes last ∧ HasRoom bytes last := by
  rw [← exists_isForm_iff]
  constructor
  · rintro ⟨number, success⟩
    rcases decode_eq_ok_iff.mp success with ⟨form, rest, split, isForm, size⟩
    exact ⟨form, rest, number.toNat, split, isForm, size.symm⟩
  · rintro ⟨form, rest, number, split, isForm, size⟩
    have word : number.toUInt64.toNat = number := UInt64.toNat_ofNat_of_lt' isForm.fits
    exact ⟨number.toUInt64, decode_eq_ok_iff.mpr ⟨form, rest, split, word.symm ▸ isForm, size.symm⟩⟩

theorem toNat_of_decode_eq_ok {number : UInt64} (success : decode bytes = .ok (number, last + 1)) :
    number.toNat = groupSum bytes last := by
  rcases decode_eq_ok_iff.mp success with ⟨form, rest, rfl, isForm, size⟩
  rw [groupSum_eq size.symm, isForm.amount_eq]

theorem consumed_pos {number : UInt64} (success : decode bytes = .ok (number, consumed)) :
    0 < consumed := by
  rcases decode_eq_ok_iff.mp success with ⟨form, _, _, isForm, rfl⟩
  exact List.length_pos_iff.mpr isForm.chained.ne_nil

/-- A byte that may be the last one is not followed by the end of the bytes. -/
theorem decodeFrom_last_ne_truncated (last : byte.toNat < 128 ∨ index + 1 = maxLength) :
    decodeFrom index sum (byte :: rest) ≠ .error ⟨.truncated, consumed⟩ := by
  intro failed
  simp only [decodeFrom] at failed
  split at failed
  · cases failed
  · split at failed
    · cases failed
    · rename_i marked
      rw [if_pos (last.resolve_left marked)] at failed
      cases failed

theorem decodeFrom_eq_truncated_iff (index_lt : index < maxLength) :
    decodeFrom index sum bytes = .error ⟨.truncated, consumed⟩ ↔
      index + bytes.length < maxLength ∧ (∀ byte ∈ bytes, 128 ≤ byte.toNat) ∧
        consumed = index + bytes.length := by
  induction bytes generalizing index sum with
  | nil => simp [decodeFrom, index_lt, eq_comm]
  | cons byte bytes ih =>
      rw [List.length_cons, List.forall_mem_cons]
      by_cases last : byte.toNat < 128 ∨ index + 1 = maxLength
      · refine iff_of_false (decodeFrom_last_ne_truncated last) ?_
        rintro ⟨short, ⟨marked, _⟩, _⟩
        omega
      · rcases not_or.mp last with ⟨marked, earlier⟩
        have next : index + 1 < maxLength := Nat.lt_of_le_of_ne index_lt earlier
        rw [decodeFrom_marked next marked, ih next, Nat.add_right_comm, Nat.add_assoc]
        simp only [Nat.le_of_not_lt marked, true_and]

theorem consumed_of_decodeFrom_eq_overflow
    (failed : decodeFrom index sum bytes = .error ⟨.overflow, consumed⟩) :
    consumed = maxLength := by
  induction bytes generalizing index sum with
  | nil => cases failed
  | cons byte bytes ih =>
      simp only [decodeFrom] at failed
      split at failed
      · cases failed
        rfl
      · split at failed
        · cases failed
        · split at failed
          · cases failed
            rfl
          · exact ih failed

/-- What the decoder says of a byte string, by the marks of its first ten bytes. -/
structure DecodedByMarks (bytes : List UInt8) : Prop where
  accepts : (∃ result, decode bytes = .ok result) ↔
    ∃ last < maxLength, EndsAt bytes last ∧ HasRoom bytes last
  /-- A number has the bytes up to the first one without the mark, and none of its bits is lost. -/
  value : ∀ last < maxLength, EndsAt bytes last → HasRoom bytes last →
    groupSum bytes last < 2 ^ 64 ∧
      ∃ number, decode bytes = .ok (number, last + 1) ∧ number.toNat = groupSum bytes last
  truncated : ∀ consumed, decode bytes = .error ⟨.truncated, consumed⟩ ↔
    bytes.length < maxLength ∧ (∀ byte ∈ bytes, 128 ≤ byte.toNat) ∧ consumed = bytes.length
  /-- What is neither a number nor the beginning of a longer form is too long. -/
  overflow : ∀ consumed, decode bytes = .error ⟨.overflow, consumed⟩ ↔
    ¬(∃ last < maxLength, EndsAt bytes last ∧ HasRoom bytes last) ∧
      ¬(bytes.length < maxLength ∧ ∀ byte ∈ bytes, 128 ≤ byte.toNat) ∧ consumed = maxLength
  /-- The bytes that are counted are those that a reader takes, also when it fails. -/
  taken : ∀ source : Source, source.rest = bytes →
    (∀ number consumed, decode bytes = .ok (number, consumed) →
      Reader.varint source = .ok number (source.advance consumed)) ∧
    ∀ fault, decode bytes = .error fault →
      ∃ failure, Reader.varint source = .error failure (source.advance fault.consumed)

/-- The decoder accepts exactly the format, and tells apart the ways in which bytes can miss it. -/
theorem decode_isExact (bytes : List UInt8) : DecodedByMarks bytes := by
  have accepts : (∃ result, decode bytes = .ok result) ↔
      ∃ last < maxLength, EndsAt bytes last ∧ HasRoom bytes last := by
    constructor
    · rintro ⟨⟨number, consumed⟩, success⟩
      rcases Nat.exists_eq_add_one.mpr (consumed_pos success) with ⟨last, rfl⟩
      exact ⟨last, exists_decode_eq_ok_iff.mp ⟨number, success⟩⟩
    · rintro ⟨last, ends⟩
      rcases exists_decode_eq_ok_iff.mpr ends with ⟨number, success⟩
      exact ⟨(number, last + 1), success⟩
  have truncated (consumed : Nat) : decode bytes = .error ⟨.truncated, consumed⟩ ↔
      bytes.length < maxLength ∧ (∀ byte ∈ bytes, 128 ≤ byte.toNat) ∧ consumed = bytes.length := by
    rw [decode, decodeFrom_eq_truncated_iff (by decide), Nat.zero_add]
  refine ⟨accepts, ?_, truncated, ?_, ?_⟩
  · intro last last_lt ends room
    rcases exists_decode_eq_ok_iff.mpr ⟨last_lt, ends, room⟩ with ⟨number, success⟩
    have value := toNat_of_decode_eq_ok success
    exact ⟨value ▸ number.toNat_lt, number, success, value⟩
  · intro consumed
    rw [← accepts]
    constructor
    · intro failed
      refine ⟨?_, ?_, consumed_of_decodeFrom_eq_overflow failed⟩
      · rintro ⟨result, success⟩
        rw [failed] at success
        cases success
      · rintro ⟨short, marked⟩
        rw [(truncated bytes.length).mpr ⟨short, marked, rfl⟩] at failed
        cases failed
    · rintro ⟨refused, complete, rfl⟩
      rcases outcome : decode bytes with ⟨reason | reason, place⟩ | result
      · rcases (truncated place).mp outcome with ⟨short, marked, _⟩
        exact absurd ⟨short, marked⟩ complete
      · rw [consumed_of_decodeFrom_eq_overflow outcome]
      · exact absurd ⟨result, outcome⟩ refused
  · rintro source rfl
    constructor
    · intro number consumed success
      rw [Reader.varint, success]
    · rintro ⟨reason | reason, consumed⟩ failed
      · exact ⟨_, by rw [Reader.varint, failed]⟩
      · exact ⟨_, by rw [Reader.varint, failed]⟩

/-- The tenth byte ends this form, but two bits do not fit there. -/
example : decode (List.replicate 9 0xFF ++ [2]) = .error ⟨.overflow, 10⟩ := by
  decide

end Varint

end Resemblance
