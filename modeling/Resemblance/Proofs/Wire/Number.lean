import Mathlib.Tactic.Ring
import Resemblance.Proofs.Wire.Exchange

/-!
# Numbers on the wire

Numbers of fixed width, variable-length numbers and signed numbers are read back from their written
form, and their readers are regular. A variable-length number may also have longer forms than the
written one; `Varint.decodeFrom_delimited` says that a decoded form stands for the number wherever
it occurs.
-/

namespace Resemblance

/-! ## Fixed width -/

@[simp]
theorem length_toLittleEndian (width number : Nat) :
    (toLittleEndian width number).length = width := by
  induction width generalizing number with
  | zero => rfl
  | succ width ih => simp [toLittleEndian, ih]

theorem ofLittleEndian_toLittleEndian {width number : Nat} (fits : number < 256 ^ width) :
    ofLittleEndian (toLittleEndian width number) = number := by
  induction width generalizing number with
  | zero =>
      rw [Nat.pow_zero] at fits
      simp only [toLittleEndian, ofLittleEndian, List.foldr_nil]
      omega
  | succ width ih =>
      have high : number / 256 < 256 ^ width := by
        rw [Nat.pow_succ] at fits
        omega
      have low : (number % 256).toUInt8.toNat = number % 256 :=
        UInt8.toNat_ofNat_of_lt' (Nat.mod_lt number (by decide))
      have later := ih high
      simp only [ofLittleEndian] at later
      simp only [toLittleEndian, ofLittleEndian, List.foldr_cons, low, later]
      omega

theorem ofLittleEndian_lt (bytes : List UInt8) : ofLittleEndian bytes < 256 ^ bytes.length := by
  induction bytes with
  | nil => decide
  | cons byte bytes ih =>
      have number : ofLittleEndian (byte :: bytes) = byte.toNat + 256 * ofLittleEndian bytes := rfl
      have below := byte.toNat_lt
      rw [number, List.length_cons, Nat.pow_succ]
      omega

theorem toLittleEndian_ofLittleEndian (bytes : List UInt8) :
    toLittleEndian bytes.length (ofLittleEndian bytes) = bytes := by
  induction bytes with
  | nil => rfl
  | cons byte bytes ih =>
      have number : ofLittleEndian (byte :: bytes) = byte.toNat + 256 * ofLittleEndian bytes := rfl
      have below := byte.toNat_lt
      have low : (byte.toNat + 256 * ofLittleEndian bytes) % 256 = byte.toNat := by
        omega
      have high : (byte.toNat + 256 * ofLittleEndian bytes) / 256 = ofLittleEndian bytes := by
        omega
      rw [number, List.length_cons, toLittleEndian, low, high, ih]
      simp

/-! ## Variable length -/

namespace Varint

theorem decodeFrom_groups (number : Nat) {index sum : Nat} (tail : List UInt8)
    (index_lt : index < maxLength) (fits : number * 2 ^ (7 * index) < 2 ^ 64) :
    decodeFrom index sum (groups number ++ tail) =
      .ok ((sum + number * 2 ^ (7 * index)).toUInt64, index + (groups number).length) := by
  -- The last group that fits starts at bit 63, so a number that fits has at most one bit there.
  have last_le_one : index + 1 = maxLength → number ≤ 1 := by
    intro last
    have index_eq : index = 9 := by simpa [maxLength] using last
    rw [index_eq] at fits
    omega
  induction number using groups.induct generalizing index sum with
  | case1 number short =>
      have byte : number.toUInt8.toNat = number :=
        UInt8.toNat_ofNat_of_lt' (Nat.lt_trans short (by decide))
      have noOverflow : ¬(index + 1 = maxLength ∧ 1 < number) := by
        rintro ⟨last, large⟩
        have := last_le_one last
        omega
      rw [groups, if_pos short]
      simp only [List.cons_append, List.nil_append, decodeFrom, byte, Nat.mod_eq_of_lt short,
        noOverflow, short, if_true, if_false, Nat.shiftLeft_eq, List.length_singleton]
  | case2 number long ih =>
      have notLast : index + 1 ≠ maxLength := by
        intro last
        have := last_le_one last
        omega
      have byte : (number % 128 + 128).toUInt8.toNat = number % 128 + 128 :=
        UInt8.toNat_ofNat_of_lt' (by change number % 128 + 128 < 256; omega)
      have group : (number % 128 + 128) % 128 = number % 128 := by omega
      have power : 2 ^ (7 * (index + 1)) = 2 ^ (7 * index) * 128 := by
        rw [Nat.mul_add, Nat.pow_add]
      have parts : number % 128 * 2 ^ (7 * index) + number / 128 * 2 ^ (7 * (index + 1)) =
          number * 2 ^ (7 * index) := by
        calc number % 128 * 2 ^ (7 * index) + number / 128 * 2 ^ (7 * (index + 1))
            = (number % 128 + 128 * (number / 128)) * 2 ^ (7 * index) := by rw [power]; ring
          _ = number * 2 ^ (7 * index) := by rw [Nat.mod_add_div]
      have highFits : number / 128 * 2 ^ (7 * (index + 1)) < 2 ^ 64 := by omega
      have nextIndex : index + 1 < maxLength := by omega
      have lastHigh : index + 1 + 1 = maxLength → number / 128 ≤ 1 := by
        intro last
        have index_eq : index = 8 := by simpa [maxLength] using last
        rw [index_eq] at highFits
        omega
      rw [groups, if_neg long]
      simp only [List.cons_append, decodeFrom, byte, group, notLast, false_and, if_false,
        Nat.not_lt.mpr (Nat.le_add_left 128 (number % 128)), Nat.shiftLeft_eq,
        List.length_cons]
      rw [ih nextIndex highFits lastHigh, Nat.add_assoc, parts]
      congr 2
      omega

theorem decode_encode (number : UInt64) (tail : List UInt8) :
    decode (encode number ++ tail) = .ok (number, (encode number).length) := by
  have fits : number.toNat * 2 ^ (7 * 0) < 2 ^ 64 := by
    simpa using number.toNat_lt
  rw [decode, encode, decodeFrom_groups number.toNat tail (by decide) fits]
  simp

theorem encode_of_lt {number : UInt64} (short : number.toNat < 128) :
    encode number = [number.toNat.toUInt8] := by
  rw [encode, groups, if_pos short]

/-- A decoded form is decoded in the same way whatever follows it. -/
theorem decodeFrom_delimited {index sum consumed : Nat} {bytes : List UInt8} {number : UInt64}
    (success : decodeFrom index sum bytes = .ok (number, consumed)) :
    ∃ taken rest, bytes = taken ++ rest ∧ consumed = index + taken.length ∧
      ∀ tail, decodeFrom index sum (taken ++ tail) = .ok (number, consumed) := by
  induction bytes generalizing index sum with
  | nil => cases success
  | cons byte bytes ih =>
      simp only [decodeFrom] at success
      split at success
      · cases success
      · rename_i noOverflow
        split at success
        · rename_i last
          simp only [Except.ok.injEq, Prod.mk.injEq] at success
          rcases success with ⟨rfl, rfl⟩
          refine ⟨[byte], bytes, rfl, rfl, ?_⟩
          intro tail
          simp only [List.cons_append, decodeFrom, noOverflow, last, if_true, if_false]
        · rename_i continued
          split at success
          · cases success
          · rename_i notLast
            rcases ih success with ⟨taken, rest, rfl, rfl, again⟩
            refine ⟨byte :: taken, rest, rfl, by simp only [List.length_cons]; omega, ?_⟩
            intro tail
            simpa [decodeFrom, noOverflow, continued, notLast] using again tail

end Varint

/-! ## Signed numbers -/

theorem ZigZag.decode_encode (number : Int64) : ZigZag.decode (ZigZag.encode number) = number := by
  have lower := number.le_toInt
  have upper := number.toInt_lt
  unfold ZigZag.encode
  simp only
  split
  · rename_i nonnegative
    have fits : (2 * number.toInt).toNat < UInt64.size := by
      change _ < 18446744073709551616
      omega
    have word : (2 * number.toInt).toNat.toUInt64.toNat = (2 * number.toInt).toNat :=
      UInt64.toNat_ofNat_of_lt' fits
    have even : (2 * number.toInt).toNat % 2 = 0 := by omega
    have half : (((2 * number.toInt).toNat / 2 : Nat) : Int) = number.toInt := by omega
    rw [ZigZag.decode, word, if_pos even, half, Int64.ofInt_toInt]
  · rename_i negative
    have fits : (-2 * number.toInt - 1).toNat < UInt64.size := by
      change _ < 18446744073709551616
      omega
    have word : (-2 * number.toInt - 1).toNat.toUInt64.toNat = (-2 * number.toInt - 1).toNat :=
      UInt64.toNat_ofNat_of_lt' fits
    have odd : (-2 * number.toInt - 1).toNat % 2 ≠ 0 := by omega
    have half : -(((-2 * number.toInt - 1).toNat / 2 : Nat) : Int) - 1 = number.toInt := by omega
    rw [ZigZag.decode, word, if_neg odd, half, Int64.ofInt_toInt]

/-! ## Readers -/

namespace Reader

theorem Regular.u8 : u8.Regular :=
  (Regular.exact 1).bind fun _ => .pure _

theorem Regular.u32 : u32.Regular :=
  (Regular.exact 4).bind fun _ => .pure _

theorem Regular.i32 : i32.Regular :=
  Regular.u32.bind fun _ => .pure _

theorem Regular.u64 : u64.Regular :=
  (Regular.exact 8).bind fun _ => .pure _

theorem Regular.i64 : i64.Regular :=
  Regular.u64.bind fun _ => .pure _

theorem Regular.bool : bool.Regular := by
  refine Regular.u8.bind fun byte => ?_
  split
  · exact .pure false
  · split
    · exact .pure true
    · exact .fail (.notBoolean byte)

theorem Regular.varint : varint.Regular where
  delimited := by
    intro source number after success
    simp only [Reader.varint] at success
    split at success
    · rename_i decoded consumed decodes
      simp only [EStateM.Result.ok.injEq] at success
      rcases success with ⟨rfl, rfl⟩
      rcases Varint.decodeFrom_delimited decodes with ⟨taken, rest, split, rfl, again⟩
      refine ⟨taken, ?_, ?_⟩
      · simp [Source.advance, split]
      · intro position tail ending
        simp [Reader.varint, Varint.decode, again tail, Source.advance]
    · cases success
    · cases success
  blamesFormat := by
    intro source failure after complete failed
    simp only [Reader.varint] at failed
    split at failed
    · cases failed
    · rename_i consumed _
      simp only [EStateM.Result.error.injEq] at failed
      rw [← failed.1]
      have completeAfter : (source.advance consumed).ending = .endOfBytes := complete
      exact Source.shortage_isFormat completeAfter .truncatedVarint
    · simp only [EStateM.Result.error.injEq] at failed
      rw [← failed.1]
      exact Source.failure_isFormat _ .varintOverflow

theorem Regular.signed : signed.Regular :=
  Regular.varint.bind fun _ => .pure _

theorem Regular.length : length.Regular := by
  refine Regular.varint.bind fun number => ?_
  split
  · exact .pure number.toNat
  · exact .fail (.collectionTooLong number)

theorem Regular.index : index.Regular := by
  refine Regular.varint.bind fun number => ?_
  split
  · exact .pure number.toUInt32
  · exact .fail (.indexTooLarge number)

/-- A length that was read is within the limit of collections. -/
theorem le_of_length_takes {depth count : Nat} {bytes : List UInt8}
    (takes : length.Takes depth bytes count) : count ≤ maxCollectionLength := by
  rcases Regular.varint.takes_bind (fun number => by
      split
      · exact .pure number.toNat
      · exact .fail (.collectionTooLong number)) takes with ⟨_, _, number, _, _, last⟩
  split at last
  · rename_i within
    rcases takes_pure_iff.mp last with ⟨_, rfl⟩
    exact within
  · exact absurd last not_takes_fail

end Reader

/-! ## Exchanges -/

/-- Numbers of seven bits are written as they are. -/
theorem Writer.Emits.varint_of_lt {number : UInt64} (short : number.toNat < 128) :
    (Writer.varint number).Emits [number.toNat.toUInt8] := by
  rw [← Varint.encode_of_lt short]
  exact .bytes _

namespace Exchange

open Reader

theorem exact {bytes : List UInt8} {count : Nat} (size : bytes.length = count) (depth : Nat) :
    Exchange (Writer.bytes bytes) (Reader.exact count) depth ⟨bytes, size⟩ :=
  ⟨bytes, .bytes bytes, exact_takes size depth⟩

/-- A fixed-width number is exchanged as its lowest bytes. -/
theorem littleEndian {Result : Type} {width number : Nat} {change : Nat → Result} {depth : Nat}
    (fits : number < 256 ^ width) :
    Exchange (Writer.bytes (toLittleEndian width number))
      (Reader.exact width >>= fun bytes => Pure.pure (change (ofLittleEndian bytes.val))) depth
      (change number) := by
  have whole := (exact (length_toLittleEndian width number) depth).map
    fun bytes => change (ofLittleEndian bytes.val)
  rwa [ofLittleEndian_toLittleEndian fits] at whole

theorem u8 (number : UInt8) (depth : Nat) : Exchange (Writer.u8 number) Reader.u8 depth number := by
  have exchange : Exchange (Writer.u8 number) Reader.u8 depth number.toNat.toUInt8 :=
    littleEndian number.toNat_lt
  simpa using exchange

theorem u32 (number : UInt32) (depth : Nat) :
    Exchange (Writer.u32 number) Reader.u32 depth number := by
  have exchange : Exchange (Writer.u32 number) Reader.u32 depth number.toNat.toUInt32 :=
    littleEndian number.toNat_lt
  simpa using exchange

theorem i32 (number : Int32) (depth : Nat) :
    Exchange (Writer.i32 number) Reader.i32 depth number := by
  have exchange := (u32 number.toUInt32 depth).map UInt32.toInt32
  rwa [Int32.toInt32_toUInt32] at exchange

theorem u64 (number : UInt64) (depth : Nat) :
    Exchange (Writer.u64 number) Reader.u64 depth number := by
  have exchange : Exchange (Writer.u64 number) Reader.u64 depth number.toNat.toUInt64 :=
    littleEndian number.toNat_lt
  simpa using exchange

theorem i64 (number : Int64) (depth : Nat) :
    Exchange (Writer.i64 number) Reader.i64 depth number := by
  have exchange := (u64 number.toUInt64 depth).map UInt64.toInt64
  rwa [Int64.toInt64_toUInt64] at exchange

theorem bool (value : Bool) (depth : Nat) :
    Exchange (Writer.bool value) Reader.bool depth value := by
  cases value with
  | false => exact (u8 0 depth).andThen (.pure false)
  | true => exact (u8 1 depth).andThen (.pure true)

theorem varint (number : UInt64) (depth : Nat) :
    Exchange (Writer.varint number) Reader.varint depth number := by
  refine ⟨Varint.encode number, .bytes _, ?_⟩
  intro position tail ending
  simp [Reader.varint, Varint.decode_encode, Source.advance]

theorem signed (number : Int64) (depth : Nat) :
    Exchange (Writer.signed number) Reader.signed depth number := by
  have exchange := (varint (ZigZag.encode number) depth).map ZigZag.decode
  rwa [ZigZag.decode_encode] at exchange

theorem length {count : Nat} (within : count ≤ maxCollectionLength) (depth : Nat) :
    Exchange (Writer.length count) Reader.length depth count := by
  have word : count.toUInt64.toNat = count := by
    apply UInt64.toNat_ofNat_of_lt'
    exact Nat.lt_of_le_of_lt within (by decide)
  refine (varint count.toUInt64 depth).andThen ?_
  simp only [word, within, if_true]
  exact .pure count

theorem index (number : UInt32) (depth : Nat) :
    Exchange (Writer.index number) Reader.index depth number := by
  refine (varint number.toUInt64 depth).andThen ?_
  have within : number.toUInt64.toNat < UInt32.size := by
    rw [UInt32.toNat_toUInt64]
    exact number.toNat_lt
  simp only [within, if_true, UInt32.toUInt32_toUInt64]
  exact .pure number

end Exchange

/-! ## Bytes of numbers -/

namespace Reader

/-- A number of 32 bits is read from its written form and from no other bytes. -/
theorem u32_takes_iff {depth : Nat} {bytes : List UInt8} {number : UInt32} :
    u32.Takes depth bytes number ↔ bytes = toLittleEndian 4 number.toNat := by
  have written (number : UInt32) : u32.Takes depth (toLittleEndian 4 number.toNat) number := by
    rcases Exchange.u32 number depth with ⟨form, emits, takes⟩
    have formEq : toLittleEndian 4 number.toNat = form := (Writer.Emits.bytes _).unique emits
    rwa [formEq]
  constructor
  · intro takes
    rcases (Regular.exact 4).takes_map takes with ⟨⟨form, size⟩, formTakes, rfl⟩
    rw [exact_takes_iff.mp formTakes]
    have below : ofLittleEndian form < UInt32.size := by
      have bound := ofLittleEndian_lt form
      rwa [size] at bound
    have numberEq : (ofLittleEndian form).toUInt32.toNat = ofLittleEndian form :=
      UInt32.toNat_ofNat_of_lt' below
    have back := toLittleEndian_ofLittleEndian form
    rw [size] at back
    rw [numberEq, back]
  · rintro rfl
    exact written number

theorem i32_takes_iff {depth : Nat} {bytes : List UInt8} {number : Int32} :
    i32.Takes depth bytes number ↔ bytes = toLittleEndian 4 number.toUInt32.toNat := by
  constructor
  · intro takes
    rcases Regular.u32.takes_map takes with ⟨word, wordTakes, rfl⟩
    rw [u32_takes_iff.mp wordTakes, UInt32.toUInt32_toInt32]
  · rintro rfl
    have takes : u32.Takes depth (toLittleEndian 4 number.toUInt32.toNat) number.toUInt32 :=
      u32_takes_iff.mpr rfl
    apply takes.andThen
    rw [Int32.toInt32_toUInt32]
    exact .pure number

end Reader

end Resemblance
