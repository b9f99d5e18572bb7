import Resemblance.Proofs.Wire.Form
import Resemblance.Proofs.Wire.Keyed

/-!
# Written forms of what was read

A reader also accepts longer forms than those that are written: a variable-length number may end in
empty groups. `Writer.Condenses` says that a writer turns bytes into a written form that is either
the same bytes or fewer, so that a form of the same length is the same form.

This is closed under sequencing, so the forms of a whole are compared along the definitions of its
reader and its writer. The numbers are where a form can become shorter; everything else is written
as it was read.
-/

namespace Resemblance

namespace Writer

/-- The writer emits the bytes themselves, or fewer bytes. -/
def Condenses (writer : Writer Unit) (bytes : List UInt8) : Prop :=
  ∃ form, writer.Emits form ∧ (form = bytes ∨ form.length < bytes.length)

namespace Condenses

variable {first second : Writer Unit} {front back : List UInt8}

theorem of_emits {writer : Writer Unit} {bytes : List UInt8} (emits : writer.Emits bytes) :
    writer.Condenses bytes :=
  ⟨bytes, emits, .inl rfl⟩

theorem pure : (Pure.pure () : Writer Unit).Condenses [] :=
  of_emits .pure

theorem bind (firstCondenses : first.Condenses front) (secondCondenses : second.Condenses back) :
    (first >>= fun _ => second).Condenses (front ++ back) := by
  rcases firstCondenses with ⟨frontForm, firstEmits, frontShort⟩
  rcases secondCondenses with ⟨backForm, secondEmits, backShort⟩
  refine ⟨frontForm ++ backForm, firstEmits.bind secondEmits, ?_⟩
  rw [List.length_append, List.length_append]
  rcases frontShort with rfl | shorter
  · rcases backShort with rfl | shorter
    · exact .inl rfl
    · right
      omega
  · rcases backShort with rfl | _
    · right
      omega
    · right
      omega

theorem exists_form {writer : Writer Unit} {bytes : List UInt8}
    (condenses : writer.Condenses bytes) :
    ∃ form, writer.Emits form ∧ form.length ≤ bytes.length ∧
      (form.length = bytes.length ↔ form = bytes) := by
  rcases condenses with ⟨form, emits, rfl | shorter⟩
  · exact ⟨form, emits, Nat.le_refl _, iff_of_true rfl rfl⟩
  · refine ⟨form, emits, Nat.le_of_lt shorter, iff_of_false (Nat.ne_of_lt shorter) ?_⟩
    rintro rfl
    exact Nat.lt_irrefl _ shorter

end Condenses

end Writer

/-! ## Variable length -/

namespace Varint

/-- The groups of a number are its form, unless empty groups at the end make the form longer. -/
theorem Chained.groups_amount {form : List UInt8} (chained : Chained form) :
    groups (amount form) = form ∨ (groups (amount form)).length < form.length := by
  induction form with
  | nil => exact chained.elim
  | cons byte rest ih =>
      have byte_lt := byte.toNat_lt
      rcases chained_cons_iff.mp chained with ⟨rfl, unmarked⟩ | ⟨marked, chainedRest⟩
      · left
        rw [amount_singleton unmarked, groups, if_pos unmarked]
        simp
      · rw [amount_cons]
        rcases Nat.eq_zero_or_pos (amount rest) with empty | positive
        · -- Nothing but empty groups is left, and there is at least one of them.
          right
          have nonempty := List.length_pos_iff.mpr chainedRest.ne_nil
          rw [empty, groups, if_pos (by omega), List.length_cons, List.length_cons, List.length_nil]
          omega
        · have long : ¬byte.toNat % 128 + 128 * amount rest < 128 := by omega
          have low : (byte.toNat % 128 + 128 * amount rest) % 128 + 128 = byte.toNat := by omega
          have high : (byte.toNat % 128 + 128 * amount rest) / 128 = amount rest := by omega
          rw [groups, if_neg long, low, high]
          simpa using ih chainedRest

end Varint

namespace ZigZag

theorem encode_decode (number : UInt64) : encode (decode number) = number := by
  have below := number.toNat_lt
  have half_lt : number.toNat / 2 < 2 ^ 63 := by omega
  rw [decode]
  split
  · rename_i even
    have value : (Int64.ofInt (number.toNat / 2 : Nat)).toInt = (number.toNat / 2 : Nat) :=
      Int64.toInt_ofInt_of_le (by omega) (by omega)
    have doubled : (2 * ((number.toNat / 2 : Nat) : Int)).toNat = number.toNat := by omega
    rw [encode, value, if_pos (by omega), doubled]
    exact UInt64.ofNat_toNat
  · rename_i odd
    have value : (Int64.ofInt (-((number.toNat / 2 : Nat) : Int) - 1)).toInt =
        -((number.toNat / 2 : Nat) : Int) - 1 :=
      Int64.toInt_ofInt_of_le (by omega) (by omega)
    have doubled : (-2 * (-((number.toNat / 2 : Nat) : Int) - 1) - 1).toNat = number.toNat := by
      omega
    rw [encode, value, if_neg (by omega), doubled]
    exact UInt64.ofNat_toNat

end ZigZag

namespace Writer.Condenses

open Reader

variable {Item : Type} {depth : Nat} {bytes : List UInt8}

theorem of_isForm {number : UInt64} (isForm : Varint.IsForm bytes number.toNat) :
    (Writer.varint number).Condenses bytes := by
  refine ⟨Varint.encode number, .bytes _, ?_⟩
  rw [Varint.encode, ← isForm.amount_eq]
  exact isForm.chained.groups_amount

theorem varint {number : UInt64} (takes : Reader.varint.Takes depth bytes number) :
    (Writer.varint number).Condenses bytes :=
  of_isForm (varint_takes_iff.mp takes)

theorem signed {number : Int64} (takes : Reader.signed.Takes depth bytes number) :
    (Writer.signed number).Condenses bytes := by
  rcases Regular.varint.takes_map takes with ⟨word, wordTakes, rfl⟩
  rw [Writer.signed, ZigZag.encode_decode]
  exact varint wordTakes

theorem length_of_isForm {count : Nat} (isForm : Varint.IsForm bytes count) :
    (Writer.length count).Condenses bytes := by
  have word : count.toUInt64.toNat = count := UInt64.toNat_ofNat_of_lt' isForm.fits
  apply of_isForm
  rwa [word]

theorem length {count : Nat} (takes : Reader.length.Takes depth bytes count) :
    (Writer.length count).Condenses bytes :=
  length_of_isForm (length_takes_iff.mp takes).1

theorem index {number : UInt32} (takes : Reader.index.Takes depth bytes number) :
    (Writer.index number).Condenses bytes := by
  apply of_isForm
  rw [UInt32.toNat_toUInt64]
  exact index_takes_iff.mp takes

/-- A number of fixed width is written as it was read. -/
theorem littleEndian {width : Nat} {change : Nat → Item} {back : Item → Nat} {result : Item}
    (inverse : ∀ number, number < 256 ^ width → back (change number) = number)
    (takes : (Reader.exact width >>= fun form =>
      Pure.pure (change (ofLittleEndian form.val))).Takes depth bytes result) :
    (Writer.bytes (toLittleEndian width (back result))).Condenses bytes := by
  rcases (Regular.exact width).takes_map takes with ⟨⟨form, size⟩, formTakes, rfl⟩
  have number_lt := ofLittleEndian_lt form
  have written := toLittleEndian_ofLittleEndian form
  rw [size] at number_lt written
  rw [exact_takes_iff.mp formTakes, inverse _ number_lt, written]
  exact of_emits (.bytes form)

theorem u8 {number : UInt8} (takes : Reader.u8.Takes depth bytes number) :
    (Writer.u8 number).Condenses bytes :=
  littleEndian (fun _ below => UInt8.toNat_ofNat_of_lt' below) takes

theorem u32 {number : UInt32} (takes : Reader.u32.Takes depth bytes number) :
    (Writer.u32 number).Condenses bytes :=
  littleEndian (fun _ below => UInt32.toNat_ofNat_of_lt' below) takes

theorem u64 {number : UInt64} (takes : Reader.u64.Takes depth bytes number) :
    (Writer.u64 number).Condenses bytes :=
  littleEndian (fun _ below => UInt64.toNat_ofNat_of_lt' below) takes

theorem bool {truth : Bool} (takes : Reader.bool.Takes depth bytes truth) :
    (Writer.bool truth).Condenses bytes := by
  rcases Regular.u8.takes_bind (fun byte => by
      split
      · exact .pure false
      · split
        · exact .pure true
        · exact .fail (.notBoolean byte)) takes with ⟨front, _, byte, rfl, byteTakes, last⟩
  split at last
  · rename_i zero
    rcases takes_pure_iff.mp last with ⟨rfl, rfl⟩
    rw [List.append_nil]
    rw [zero] at byteTakes
    exact u8 byteTakes
  · split at last
    · rename_i one
      rcases takes_pure_iff.mp last with ⟨rfl, rfl⟩
      rw [List.append_nil]
      rw [one] at byteTakes
      exact u8 byteTakes
    · exact absurd last not_takes_fail

theorem string {text : String} (takes : Reader.string.Takes depth bytes text) :
    (Writer.string text).Condenses bytes := by
  rcases string_takes_iff.mp takes with ⟨lengthForm, rfl, isForm, _⟩
  exact bind (length_of_isForm isForm) (of_emits (.bytes _))

/-- A list is condensed as its items are. -/
theorem each {item : Reader Item} {write : Item → Writer Unit} (regular : item.Regular)
    (condenses : ∀ {bytes value}, item.Takes depth bytes value → (write value).Condenses bytes)
    {count : Nat} {items : List Item}
    (takes : (Reader.replicate count item).Takes depth bytes items) :
    (Writer.each write items).Condenses bytes := by
  induction count generalizing bytes items with
  | zero =>
      rcases takes_pure_iff.mp takes with ⟨rfl, rfl⟩
      exact pure
  | succ count ih =>
      rcases regular.takes_bind (fun first =>
        (regular.replicate count).bind fun others => .pure (first :: others)) takes with
        ⟨front, back, first, rfl, firstTakes, laterTakes⟩
      rcases (regular.replicate count).takes_map laterTakes with ⟨others, othersTake, rfl⟩
      exact bind (condenses firstTakes) (ih othersTake)

theorem keyedAfter {repeated : String → FormatFault} {item : Reader Item}
    {write : Item → Writer Unit} (regular : item.Regular)
    (condenses : ∀ {bytes value}, item.Takes depth bytes value → (write value).Condenses bytes)
    {before entries : List (String × Item)} {count : Nat}
    (takes : (Reader.keyedAfter repeated item before count).Takes depth bytes entries) :
    ∃ added, entries = before ++ added ∧ added.length = count ∧
      (Writer.each (fun entry => do Writer.string entry.1; write entry.2) added).Condenses
        bytes := by
  induction count generalizing before bytes with
  | zero =>
      rcases takes_pure_iff.mp takes with ⟨rfl, rfl⟩
      exact ⟨[], by simp, rfl, pure⟩
  | succ count ih =>
      rcases Regular.string.takes_bind
          (fun key => regular.bind (regular.laterEntries before count key)) takes with
        ⟨keyBytes, _, key, rfl, keyTakes, afterKey⟩
      rcases regular.takes_bind (regular.laterEntries before count key) afterKey with
        ⟨valueBytes, laterBytes, value, rfl, valueTakes, afterValue⟩
      split at afterValue
      · exact absurd afterValue not_takes_fail
      · rcases ih afterValue with ⟨added, rfl, lengthEq, addedCondenses⟩
        refine ⟨(key, value) :: added, by simp, by simp [lengthEq], ?_⟩
        simp only [Writer.each, bind_assoc]
        exact bind (string keyTakes) (bind (condenses valueTakes) addedCondenses)

end Writer.Condenses

end Resemblance
