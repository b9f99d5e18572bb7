import Mathlib.Data.Nat.Bitwise
import Resemblance.Proofs.Value.Collections

/-!
# Steps that stay in range

Two readers work on machine words with steps that are not always defined: a variable-length number
is put together by shifts, which must be shorter than the word, and the bits of a filter past its
width are a slice, which must begin within the bits. Here both are written with these steps, and an
undefined step is a failure of its own. They are the readers of the same numbers and filters, so no
stream of bytes leads to an undefined step.
-/

namespace Resemblance

/-- An undefined step: nothing but the library itself is to blame for it. -/
def Reader.outOfRange {Result : Type} : Reader Result :=
  fun source => .error (.internal (.stated "out of range") none) source

/-- Sequences agree if they go on in the same way after every result that the first step gives. -/
theorem Reader.bind_congr_of_eq_ok {Result Next : Type} {reader : Reader Result}
    {next other : Result → Reader Next}
    (same : ∀ {source result after}, reader source = .ok result after →
      next result after = other result after) : (reader >>= next) = (reader >>= other) := by
  funext source
  simp only [bind, EStateM.bind]
  cases outcome : reader source with
  | ok result after => exact same outcome
  | error failure after => rfl

/-! ## Variable-length numbers -/

namespace Varint

/-- A word shifted to the left, unless the shift is as long as the word. -/
def shiftLeft? (word : UInt64) (shift : Nat) : Option UInt64 :=
  if shift < 64 then some (word <<< shift.toUInt64) else none

/-- Decodes the groups from number `index` on, where the groups before them make up `word`. -/
def decodeByShifts (index : Nat) (word : UInt64) :
    List UInt8 → Option (Except Fault (UInt64 × Nat))
  | [] => some (.error ⟨.truncated, index⟩)
  | byte :: rest =>
      let group := (byte &&& 0x7f).toUInt64
      if index + 1 = maxLength ∧ 1 < group then some (.error ⟨.overflow, maxLength⟩)
      else
        match shiftLeft? group (7 * index) with
        | none => none
        | some shifted =>
            let word := word ||| shifted
            if byte &&& 0x80 = 0 then some (.ok (word, index + 1))
            else if index + 1 = maxLength then some (.error ⟨.overflow, maxLength⟩)
            else decodeByShifts (index + 1) word rest

theorem toNat_group (byte : UInt8) : (byte &&& 0x7f).toUInt64.toNat = byte.toNat % 128 := by
  rw [UInt8.toNat_toUInt64, UInt8.toNat_and]
  exact Nat.and_two_pow_sub_one_eq_mod byte.toNat 7

theorem one_lt_group_iff (byte : UInt8) :
    1 < (byte &&& 0x7f).toUInt64 ↔ 1 < byte.toNat % 128 := by
  rw [UInt64.lt_iff_toNat_lt, toNat_group, UInt64.toNat_one]

theorem and_topBit_eq_zero_iff (byte : UInt8) : byte &&& 0x80 = 0 ↔ byte.toNat < 128 := by
  have below := byte.toNat_lt
  have masked : byte.toNat &&& 128 = (byte.toNat.testBit 7).toNat * 2 ^ 7 :=
    Nat.and_two_pow byte.toNat 7
  rw [← UInt8.toNat_inj, UInt8.toNat_and, UInt8.toNat_zero]
  change byte.toNat &&& 128 = 0 ↔ _
  rw [masked, Nat.testBit_eq_decide_div_mod_eq]
  by_cases top : byte.toNat / 2 ^ 7 % 2 = 1
  · simp only [top, decide_true, Bool.toNat_true]
    omega
  · simp only [top, decide_false, Bool.toNat_false]
    omega

/-- A group that fits above a word is joined to it without losing a bit. -/
theorem toNat_or_shiftLeft {word group : UInt64} {shift : Nat} (below : word.toNat < 2 ^ shift)
    (shift_lt : shift < 64) (fits : group.toNat <<< shift < 2 ^ 64) :
    (word ||| group <<< shift.toUInt64).toNat = word.toNat + group.toNat <<< shift := by
  have shiftEq : shift.toUInt64.toNat % 64 = shift := by
    have word64 : shift.toUInt64.toNat = shift :=
      UInt64.toNat_ofNat_of_lt' (Nat.lt_trans shift_lt (by decide))
    rw [word64, Nat.mod_eq_of_lt shift_lt]
  have shifted : (group <<< shift.toUInt64).toNat = group.toNat <<< shift := by
    rw [UInt64.toNat_shiftLeft, shiftEq, Nat.mod_eq_of_lt fits]
  rw [UInt64.toNat_or, shifted, Nat.or_comm, ← Nat.shiftLeft_add_eq_or_of_lt below, Nat.add_comm]

/-- A group in its place fits in a word, since the last group is a single bit. -/
theorem group_shiftLeft_lt {index : Nat} {byte : UInt8} (index_lt : index < maxLength)
    (noOverflow : ¬(index + 1 = maxLength ∧ 1 < byte.toNat % 128)) :
    (byte.toNat % 128) <<< (7 * index) < 2 ^ 64 := by
  rw [Nat.shiftLeft_eq]
  by_cases last : index + 1 = maxLength
  · have small : byte.toNat % 128 ≤ 1 := by
      by_contra large
      exact noOverflow ⟨last, by omega⟩
    have shift_lt : 7 * index < 64 := by
      rw [maxLength] at index_lt
      omega
    calc byte.toNat % 128 * 2 ^ (7 * index) ≤ 1 * 2 ^ (7 * index) := Nat.mul_le_mul_right _ small
      _ = 2 ^ (7 * index) := Nat.one_mul _
      _ < 2 ^ 64 := Nat.pow_lt_pow_right (by decide) shift_lt
  · have exponent : 7 + 7 * index ≤ 63 := by
      rw [maxLength] at index_lt last
      omega
    calc byte.toNat % 128 * 2 ^ (7 * index) < 2 ^ 7 * 2 ^ (7 * index) :=
          Nat.mul_lt_mul_of_pos_right (Nat.mod_lt _ (by decide)) (Nat.two_pow_pos _)
      _ = 2 ^ (7 + 7 * index) := (Nat.pow_add 2 7 (7 * index)).symm
      _ ≤ 2 ^ 63 := Nat.pow_le_pow_right (by decide) exponent
      _ < 2 ^ 64 := by decide

theorem add_group_lt {index sum : Nat} (byte : UInt8) (below : sum < 2 ^ (7 * index)) :
    sum + (byte.toNat % 128) <<< (7 * index) < 2 ^ (7 * (index + 1)) := by
  rw [Nat.shiftLeft_eq]
  calc sum + byte.toNat % 128 * 2 ^ (7 * index)
      < 2 ^ (7 * index) + byte.toNat % 128 * 2 ^ (7 * index) := Nat.add_lt_add_right below _
    _ = (byte.toNat % 128 + 1) * 2 ^ (7 * index) := by ring
    _ ≤ 2 ^ 7 * 2 ^ (7 * index) := Nat.mul_le_mul_right _ (by omega)
    _ = 2 ^ (7 * (index + 1)) := by rw [← Nat.pow_add, Nat.mul_add, Nat.add_comm]

/-- On words that hold the groups so far, shifting is the same as adding, and never undefined. -/
theorem decodeByShifts_eq {index : Nat} {word : UInt64} (bytes : List UInt8)
    (index_lt : index < maxLength) (below : word.toNat < 2 ^ (7 * index)) :
    decodeByShifts index word bytes = some (decodeFrom index word.toNat bytes) := by
  induction bytes generalizing index word with
  | nil => rfl
  | cons byte bytes ih =>
      have shift_lt : 7 * index < 64 := by
        rw [maxLength] at index_lt
        omega
      simp only [decodeByShifts, decodeFrom, one_lt_group_iff, and_topBit_eq_zero_iff, shiftLeft?,
        shift_lt, if_true]
      split
      · rfl
      · rename_i noOverflow
        have fits := group_shiftLeft_lt index_lt noOverflow
        have joined : (word ||| (byte &&& 0x7f).toUInt64 <<< (7 * index).toUInt64).toNat =
            word.toNat + (byte.toNat % 128) <<< (7 * index) := by
          have fitsGroup := fits
          rw [← toNat_group] at fitsGroup
          rw [toNat_or_shiftLeft below shift_lt fitsGroup, toNat_group]
        have wordEq : word ||| (byte &&& 0x7f).toUInt64 <<< (7 * index).toUInt64 =
            (word.toNat + (byte.toNat % 128) <<< (7 * index)).toUInt64 := by
          rw [← joined]
          exact UInt64.ofNat_toNat.symm
        split
        · rw [wordEq]
        · split
          · rfl
          · rename_i notLast
            rw [← joined]
            apply ih (by omega)
            rw [joined]
            exact add_group_lt byte below

end Varint

/-- Reads a variable-length number whose groups are put together by shifts. -/
def Reader.varintByShifts : Reader UInt64 :=
  fun source =>
    match Varint.decodeByShifts 0 0 source.rest with
    | none => outOfRange source
    | some (.ok (number, consumed)) => .ok number (source.advance consumed)
    | some (.error ⟨.truncated, consumed⟩) =>
        let source := source.advance consumed
        .error (source.shortage .truncatedVarint) source
    | some (.error ⟨.overflow, consumed⟩) =>
        let source := source.advance consumed
        .error (source.failure .varintOverflow) source

theorem Reader.varintByShifts_eq : varintByShifts = varint := by
  funext source
  have decoded : Varint.decodeByShifts 0 0 source.rest = some (Varint.decode source.rest) :=
    Varint.decodeByShifts_eq source.rest (by decide) (by decide)
  rw [varintByShifts, decoded, varint]
  cases Varint.decode source.rest with
  | ok result => rfl
  | error fault =>
      rcases fault with ⟨reason, consumed⟩
      cases reason <;> rfl

/-! ## Bits of a filter -/

namespace BloomFilter

/-- The bits of words, the lowest bit of each word first. -/
def digits (words : List UInt64) : List Bool :=
  words.flatMap fun word => (List.range 64).map word.toNat.testBit

/-- The bits from a place on, which must not be past the end. -/
def sliceFrom? (bits : List Bool) (start : Nat) : Option (List Bool) :=
  if start ≤ bits.length then some (bits.drop start) else none

@[simp]
theorem length_digits (words : List UInt64) : (digits words).length = 64 * words.length := by
  induction words with
  | nil => rfl
  | cons word words ih =>
      rw [digits, List.flatMap_cons, List.length_append, ← digits, ih]
      simp only [List.length_map, List.length_range, List.length_cons]
      omega

/-- The digits are the bits of the number that the words make up. -/
theorem digits_getElem?_eq_some_true_iff {words : List UInt64} {place : Nat} :
    (digits words)[place]? = some true ↔ (ofWords words).testBit place = true := by
  induction words generalizing place with
  | nil => simp [digits, ofWords]
  | cons word words ih =>
      have number : ofWords (word :: words) = 2 ^ 64 * ofWords words + word.toNat := by
        simp only [ofWords, List.foldr_cons]
        exact Nat.add_comm _ _
      rw [number, Nat.testBit_two_pow_mul_add _ word.toNat_lt, digits, List.flatMap_cons, ← digits]
      by_cases inside : place < 64
      · rw [if_pos inside, List.getElem?_append_left (by simpa using inside)]
        simp [inside]
      · rw [if_neg inside, List.getElem?_append_right (by simpa using Nat.not_lt.mp inside)]
        simpa using ih

theorem any_drop_digits_iff {words : List UInt64} {start : Nat} :
    ((digits words).drop start).any id = true ↔ ofWords words >>> start ≠ 0 := by
  rw [List.any_eq_true]
  constructor
  · rintro ⟨bit, member, set⟩ zero
    rcases List.mem_iff_getElem?.mp member with ⟨offset, found⟩
    have bitEq : bit = true := set
    rw [List.getElem?_drop, bitEq, digits_getElem?_eq_some_true_iff, ← Nat.testBit_shiftRight,
      zero, Nat.zero_testBit] at found
    cases found
  · intro nonzero
    rcases Nat.exists_testBit_of_ne_zero nonzero with ⟨offset, set⟩
    rw [Nat.testBit_shiftRight, ← digits_getElem?_eq_some_true_iff, ← List.getElem?_drop] at set
    exact ⟨true, List.mem_iff_getElem?.mpr ⟨offset, set⟩, rfl⟩

theorem sliceFrom?_digits {words : List UInt64} {width : Nat}
    (enough : words.length = wordCount width) :
    sliceFrom? (digits words) width = some ((digits words).drop width) := by
  rw [sliceFrom?, if_pos]
  rw [length_digits, enough, wordCount]
  omega

end BloomFilter

/-- Reads a filter whose stray bits are looked for in the slice past its width. -/
def Reader.bloomFilterBySlice : Reader BloomFilter := do
  let width ← length
  let hashCount ← index
  let wordCount ← length
  if wordCount = BloomFilter.wordCount width then
    let words ← replicate wordCount u64
    match BloomFilter.sliceFrom? (BloomFilter.digits words) width with
    | none => outOfRange
    | some stray =>
        if stray.any id then fail .bloomStrayBits
        else return ⟨width, hashCount, BloomFilter.ofWords words⟩
  else fail (.bloomWordCount width wordCount)

theorem Reader.length_of_replicate_eq_ok {Item : Type} {item : Reader Item} {count : Nat}
    {source after : Source} {items : List Item}
    (success : replicate count item source = .ok items after) : items.length = count := by
  induction count generalizing source after items with
  | zero =>
      rcases pure_eq_ok.mp success with ⟨rfl, _⟩
      rfl
  | succ count ih =>
      rcases bind_eq_ok.mp success with ⟨first, _, _, afterFirst⟩
      rcases bind_eq_ok.mp afterFirst with ⟨others, _, othersRead, last⟩
      rcases pure_eq_ok.mp last with ⟨rfl, _⟩
      rw [List.length_cons, ih othersRead]

theorem Reader.bloomFilterBySlice_eq : bloomFilterBySlice = bloomFilter := by
  refine bind_congr fun width => bind_congr fun hashCount => bind_congr fun wordCount => ?_
  split
  · rename_i enough
    apply bind_congr_of_eq_ok
    intro source words after success
    have size := (length_of_replicate_eq_ok success).trans enough
    rw [BloomFilter.sliceFrom?_digits size]
    by_cases within :
        (⟨width, hashCount, BloomFilter.ofWords words⟩ : BloomFilter).WithinWidth
    · have noneSet : ((BloomFilter.digits words).drop width).any id = false := by
        rw [Bool.eq_false_iff, ne_eq, BloomFilter.any_drop_digits_iff, not_not]
        exact within
      simp only [noneSet, within, if_true, Bool.false_eq_true, if_false]
    · have someSet := BloomFilter.any_drop_digits_iff.mpr within
      simp only [someSet, within, if_true, if_false]
  · rfl

end Resemblance
