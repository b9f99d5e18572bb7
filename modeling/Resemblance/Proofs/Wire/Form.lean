import Resemblance.Proofs.Wire.Text

/-!
# Forms of numbers and texts

The bytes that a reader takes, described without the reader. A form of a number is a chain of at
most ten bytes, each of them but the last marked with the top bit, whose groups of seven bits amount
to the number, the lowest group first. It may have more groups than it needs. A text stands behind a
form of its length in bytes.

The statements say of each reader that it takes exactly such bytes: `Reader.varint_takes_iff` and
`Reader.string_takes_iff` are the main ones.
-/

namespace Resemblance

/-! ## Variable length -/

namespace Varint

/-- All bytes but the last one are marked with the top bit. -/
def Chained : List UInt8 → Prop
  | [] => False
  | [last] => last.toNat < 128
  | byte :: next :: rest => 128 ≤ byte.toNat ∧ Chained (next :: rest)

/-- What the groups of some bytes amount to, the lowest group first. -/
def amount (bytes : List UInt8) : Nat :=
  bytes.foldr (fun byte number => byte.toNat % 128 + 128 * number) 0

/-- The bytes stand for a number below `2 ^ 64`, in as many groups as it needs or more. -/
structure IsForm (bytes : List UInt8) (number : Nat) : Prop where
  chained : Chained bytes
  short : bytes.length ≤ maxLength
  amount_eq : amount bytes = number
  fits : number < 2 ^ 64

variable {index sum consumed : Nat} {byte : UInt8} {bytes form rest : List UInt8}
  {number : UInt64}

theorem Chained.ne_nil (chained : Chained bytes) : bytes ≠ [] := by
  rintro rfl
  exact chained

theorem chained_cons_iff :
    Chained (byte :: rest) ↔ rest = [] ∧ byte.toNat < 128 ∨ 128 ≤ byte.toNat ∧ Chained rest := by
  cases rest <;> simp [Chained]

theorem amount_cons (byte : UInt8) (rest : List UInt8) :
    amount (byte :: rest) = byte.toNat % 128 + 128 * amount rest :=
  rfl

theorem amount_singleton (unmarked : byte.toNat < 128) : amount [byte] = byte.toNat := by
  rw [amount_cons, Nat.mod_eq_of_lt unmarked]
  rfl

/-- The bytes from number `index` on end a form of at most ten bytes and of at most 64 bits. -/
structure EndsForm (index : Nat) (bytes : List UInt8) : Prop where
  chained : Chained bytes
  short : index + bytes.length ≤ maxLength
  fits : amount bytes < 2 ^ (64 - 7 * index)

/-- A byte without the mark is the last one; only one bit is left for the tenth. -/
theorem endsForm_singleton_iff (index_lt : index < maxLength) (unmarked : byte.toNat < 128) :
    EndsForm index [byte] ↔ ¬(index + 1 = maxLength ∧ 1 < byte.toNat % 128) := by
  have group := amount_singleton unmarked
  have length_le : index + [byte].length ≤ maxLength := index_lt
  rw [Nat.mod_eq_of_lt unmarked]
  constructor
  · rintro ends ⟨last, large⟩
    have fits := ends.fits
    have index_eq : index = 9 := Nat.succ.inj last
    rw [group, index_eq] at fits
    omega
  · intro small
    refine ⟨unmarked, length_le, ?_⟩
    rw [group]
    by_cases last : index = 9
    · subst last
      have : ¬1 < byte.toNat := fun large => small ⟨rfl, large⟩
      omega
    · have early : 7 ≤ 64 - 7 * index := by
        have : index < 10 := index_lt
        omega
      calc byte.toNat < 2 ^ 7 := unmarked
        _ ≤ 2 ^ (64 - 7 * index) := Nat.pow_le_pow_right (by decide) early

/-- A marked byte is followed by the end of the form. -/
theorem endsForm_cons_iff (notLast : index + 1 < maxLength) (marked : ¬byte.toNat < 128) :
    EndsForm index (byte :: form) ↔ EndsForm (index + 1) form := by
  have power : 2 ^ (64 - 7 * index) = 2 ^ (64 - 7 * (index + 1)) * 128 := by
    have exponent : 64 - 7 * index = 64 - 7 * (index + 1) + 7 := by
      have : index + 1 < 10 := notLast
      omega
    rw [exponent, Nat.pow_add]
  have chained : Chained (byte :: form) ↔ Chained form := by
    rw [chained_cons_iff]
    simp [marked, Nat.le_of_not_lt marked]
  have fits : amount (byte :: form) < 2 ^ (64 - 7 * index) ↔
      amount form < 2 ^ (64 - 7 * (index + 1)) := by
    rw [amount_cons, power]
    omega
  constructor
  · intro ends
    have short := ends.short
    rw [List.length_cons] at short
    exact ⟨chained.mp ends.chained, by omega, fits.mp ends.fits⟩
  · intro ends
    have short := ends.short
    refine ⟨chained.mpr ends.chained, ?_, fits.mpr ends.fits⟩
    rw [List.length_cons]
    omega

/-- A byte of the last kind that is possible at its place: without the mark, or the tenth one. -/
theorem decodeFrom_last (last : byte.toNat < 128 ∨ index + 1 = maxLength) :
    decodeFrom index sum (byte :: bytes) = .ok (number, consumed) ↔
      byte.toNat < 128 ∧ ¬(index + 1 = maxLength ∧ 1 < byte.toNat % 128) ∧
        consumed = index + 1 ∧ number = (sum + byte.toNat % 128 * 2 ^ (7 * index)).toUInt64 := by
  simp only [decodeFrom, Nat.shiftLeft_eq]
  by_cases overflow : index + 1 = maxLength ∧ 1 < byte.toNat % 128
  · simp [overflow]
  · rw [if_neg overflow]
    by_cases unmarked : byte.toNat < 128
    · rw [if_pos unmarked, Except.ok.injEq, Prod.mk.injEq]
      simp only [unmarked, overflow, not_false_eq_true, true_and]
      tauto
    · rw [if_neg unmarked, if_pos (last.resolve_left unmarked)]
      simp [unmarked]

theorem decodeFrom_marked (notLast : index + 1 < maxLength) (marked : ¬byte.toNat < 128) :
    decodeFrom index sum (byte :: bytes) =
      decodeFrom (index + 1) (sum + byte.toNat % 128 * 2 ^ (7 * index)) bytes := by
  have earlier : index + 1 ≠ maxLength := Nat.ne_of_lt notLast
  simp only [decodeFrom, Nat.shiftLeft_eq, earlier, false_and, if_false, marked]

/-- A form that begins with the last byte that is possible has no other bytes. -/
theorem endsForm_last_iff (index_lt : index < maxLength)
    (last : byte.toNat < 128 ∨ index + 1 = maxLength) :
    EndsForm index (byte :: form) ↔
      form = [] ∧ byte.toNat < 128 ∧ ¬(index + 1 = maxLength ∧ 1 < byte.toNat % 128) := by
  constructor
  · intro ends
    rcases chained_cons_iff.mp ends.chained with ⟨rfl, unmarked⟩ | ⟨marked, chained⟩
    · exact ⟨rfl, unmarked, (endsForm_singleton_iff index_lt unmarked).mp ends⟩
    · have short := ends.short
      have := List.length_pos_iff.mpr chained.ne_nil
      rw [List.length_cons] at short
      omega
  · rintro ⟨rfl, unmarked, small⟩
    exact (endsForm_singleton_iff index_lt unmarked).mpr small

theorem decodeFrom_eq_ok_iff (index_lt : index < maxLength) :
    decodeFrom index sum bytes = .ok (number, consumed) ↔
      ∃ form rest, bytes = form ++ rest ∧ EndsForm index form ∧ consumed = index + form.length ∧
        number = (sum + amount form * 2 ^ (7 * index)).toUInt64 := by
  induction bytes generalizing index sum with
  | nil =>
      constructor
      · intro impossible
        cases impossible
      · rintro ⟨form, rest, split, ends, _⟩
        exact absurd (List.append_eq_nil_iff.mp split.symm).1 ends.chained.ne_nil
  | cons byte bytes ih =>
      -- A form is not empty, so its first byte is the first one of all.
      have begins : (∃ form rest, byte :: bytes = form ++ rest ∧ EndsForm index form ∧
            consumed = index + form.length ∧
            number = (sum + amount form * 2 ^ (7 * index)).toUInt64) ↔
          ∃ form rest, bytes = form ++ rest ∧ EndsForm index (byte :: form) ∧
            consumed = index + 1 + form.length ∧
            number = (sum + amount (byte :: form) * 2 ^ (7 * index)).toUInt64 := by
        constructor
        · rintro ⟨form, rest, split, ends, rfl, rfl⟩
          rcases List.cons_eq_append_iff.mp split with ⟨rfl, _⟩ | ⟨others, rfl, rfl⟩
          · exact absurd rfl ends.chained.ne_nil
          · refine ⟨others, rest, rfl, ends, ?_, rfl⟩
            rw [List.length_cons]
            omega
        · rintro ⟨form, rest, rfl, ends, rfl, rfl⟩
          refine ⟨byte :: form, rest, rfl, ends, ?_, rfl⟩
          rw [List.length_cons]
          omega
      rw [begins]
      by_cases last : byte.toNat < 128 ∨ index + 1 = maxLength
      · rw [decodeFrom_last last]
        simp only [endsForm_last_iff index_lt last]
        constructor
        · rintro ⟨unmarked, small, rfl, rfl⟩
          exact ⟨[], bytes, rfl, ⟨rfl, unmarked, small⟩, rfl, rfl⟩
        · rintro ⟨form, rest, _, ⟨rfl, unmarked, small⟩, rfl, rfl⟩
          exact ⟨unmarked, small, rfl, rfl⟩
      · rcases not_or.mp last with ⟨marked, earlier⟩
        have next : index + 1 < maxLength := Nat.lt_of_le_of_ne index_lt earlier
        have total (form : List UInt8) :
            sum + byte.toNat % 128 * 2 ^ (7 * index) + amount form * 2 ^ (7 * (index + 1)) =
              sum + amount (byte :: form) * 2 ^ (7 * index) := by
          rw [amount_cons, Nat.mul_add, Nat.pow_add]
          ring
        rw [decodeFrom_marked next marked, ih next]
        simp only [endsForm_cons_iff next marked, total]

/-- Exactly the forms of numbers are decoded, and what follows a form is left. -/
theorem decode_eq_ok_iff :
    decode bytes = .ok (number, consumed) ↔
      ∃ form rest, bytes = form ++ rest ∧ IsForm form number.toNat ∧ consumed = form.length := by
  rw [decode, decodeFrom_eq_ok_iff (by decide)]
  have same (form : List UInt8) :
      EndsForm 0 form ∧ number = (0 + amount form * 2 ^ (7 * 0)).toUInt64 ↔
        IsForm form number.toNat := by
    simp only [Nat.zero_add, Nat.mul_zero, Nat.pow_zero, Nat.mul_one]
    constructor
    · rintro ⟨ends, rfl⟩
      have value : (amount form).toUInt64.toNat = amount form := UInt64.toNat_ofNat_of_lt' ends.fits
      rw [value]
      exact ⟨ends.chained, by simpa using ends.short, rfl, ends.fits⟩
    · intro isForm
      refine ⟨⟨isForm.chained, by simpa using isForm.short, ?_⟩, ?_⟩
      · rw [isForm.amount_eq]
        exact isForm.fits
      · rw [isForm.amount_eq]
        exact UInt64.ofNat_toNat.symm
  constructor
  · rintro ⟨form, rest, split, ends, consumedEq, numberEq⟩
    rw [Nat.zero_add] at consumedEq
    exact ⟨form, rest, split, (same form).mp ⟨ends, numberEq⟩, consumedEq⟩
  · rintro ⟨form, rest, split, isForm, consumedEq⟩
    rcases (same form).mpr isForm with ⟨ends, numberEq⟩
    exact ⟨form, rest, split, ends, by rw [consumedEq, Nat.zero_add], numberEq⟩

end Varint

/-! ## Readers -/

namespace Reader

variable {Result : Type} {depth : Nat} {bytes : List UInt8}

theorem varint_takes_iff {number : UInt64} :
    varint.Takes depth bytes number ↔ Varint.IsForm bytes number.toNat := by
  constructor
  · intro takes
    have success := takes 0 [] .endOfBytes
    simp only [varint, List.append_nil] at success
    split at success
    · rename_i decoded consumed decodes
      simp only [EStateM.Result.ok.injEq, Source.advance, Source.mk.injEq, and_true] at success
      rcases success with ⟨rfl, nothingLeft, _⟩
      rcases Varint.decode_eq_ok_iff.mp decodes with ⟨form, rest, rfl, isForm, rfl⟩
      rw [List.drop_left] at nothingLeft
      rwa [nothingLeft, List.append_nil]
    · cases success
    · cases success
  · intro isForm position tail ending
    have decodes : Varint.decode (bytes ++ tail) = .ok (number, bytes.length) :=
      Varint.decode_eq_ok_iff.mpr ⟨bytes, tail, rfl, isForm, rfl⟩
    simp only [varint, decodes, Source.advance, List.drop_left]

/-- A number that is checked after it was read has the same forms, if it passes. -/
theorem checkedVarint_takes_iff {condition : UInt64 → Prop} [DecidablePred condition]
    {change : UInt64 → Result} {fault : UInt64 → FormatFault} {outcome : Result} :
    (varint >>= fun number =>
        if condition number then pure (change number) else fail (fault number)).Takes depth bytes
          outcome ↔
      ∃ number, Varint.IsForm bytes number.toNat ∧ condition number ∧ change number = outcome := by
  have regular (number : UInt64) :
      (if condition number then pure (change number) else fail (fault number) :
        Reader Result).Regular := by
    split
    · exact .pure _
    · exact .fail _
  rw [Regular.varint.takes_bind_iff regular]
  constructor
  · rintro ⟨front, back, number, rfl, numberTakes, last⟩
    split at last
    · rename_i holds
      rcases takes_pure_iff.mp last with ⟨rfl, rfl⟩
      rw [List.append_nil]
      exact ⟨number, varint_takes_iff.mp numberTakes, holds, rfl⟩
    · exact absurd last not_takes_fail
  · rintro ⟨number, isForm, holds, rfl⟩
    refine ⟨bytes, [], number, (List.append_nil bytes).symm, varint_takes_iff.mpr isForm, ?_⟩
    rw [if_pos holds]
    exact .pure _

theorem length_takes_iff {count : Nat} :
    length.Takes depth bytes count ↔ Varint.IsForm bytes count ∧ count ≤ maxCollectionLength := by
  rw [length, checkedVarint_takes_iff]
  constructor
  · rintro ⟨number, isForm, within, rfl⟩
    exact ⟨isForm, within⟩
  · rintro ⟨isForm, within⟩
    have word : count.toUInt64.toNat = count := UInt64.toNat_ofNat_of_lt' isForm.fits
    exact ⟨count.toUInt64, by rwa [word], by rwa [word], word⟩

theorem index_takes_iff {number : UInt32} :
    index.Takes depth bytes number ↔ Varint.IsForm bytes number.toNat := by
  rw [index, checkedVarint_takes_iff]
  constructor
  · rintro ⟨word, isForm, within, rfl⟩
    have narrowed : word.toUInt32.toNat = word.toNat := by
      rw [UInt64.toNat_toUInt32]
      exact Nat.mod_eq_of_lt within
    rwa [narrowed]
  · intro isForm
    refine ⟨number.toUInt64, ?_, ?_, UInt32.toUInt32_toUInt64 number⟩
    · rwa [UInt32.toNat_toUInt64]
    · rw [UInt32.toNat_toUInt64]
      exact number.toNat_lt

/-- A text stands behind a form of its length in bytes. -/
theorem string_takes_iff {text : String} :
    string.Takes depth bytes text ↔
      ∃ lengthForm, bytes = lengthForm ++ Text.Utf8.encode text ∧
        Varint.IsForm lengthForm (Text.Utf8.encode text).length ∧ TextFits text := by
  rw [string_eq, Regular.varint.takes_bind_iff .textOfLength]
  simp only [varint_takes_iff, textOfLength_takes_iff]
  constructor
  · rintro ⟨lengthForm, _, length, rfl, isForm, rfl, size, fits⟩
    rw [← size] at isForm
    exact ⟨lengthForm, rfl, isForm, fits⟩
  · rintro ⟨lengthForm, rfl, isForm, fits⟩
    have word : (Text.Utf8.encode text).length.toUInt64.toNat = (Text.Utf8.encode text).length :=
      UInt64.toNat_ofNat_of_lt' isForm.fits
    refine ⟨lengthForm, _, (Text.Utf8.encode text).length.toUInt64, rfl, ?_, rfl, word.symm, fits⟩
    rwa [word]

end Reader

end Resemblance
