import Resemblance.Proofs.Wire.Number

/-!
# Texts on the wire

A text is read back from its written form if that form has at most `Reader.maxStringLength` bytes,
and every text that is read has such a form.
-/

namespace Resemblance

namespace Text.Utf8

theorem decode_encode (text : String) : decode (encode text) = .ok text := by
  have form : (⟨(encode text).toArray⟩ : ByteArray) = text.toByteArray := by
    simp [encode]
  have valid : String.fromUTF8? text.toByteArray = some text := by
    rw [String.fromUTF8?, dif_pos text.isValidUTF8]
    rfl
  simp only [decode, form, valid]

theorem encode_of_decode {bytes : List UInt8} {text : String} (decodes : decode bytes = .ok text) :
    encode text = bytes := by
  simp only [decode, String.fromUTF8?] at decodes
  split at decodes
  · rename_i decoded found
    split at found
    · simp only [Option.some.injEq] at found
      simp only [Except.ok.injEq] at decodes
      rw [← decodes, ← found]
      simp [encode, String.fromUTF8]
    · cases found
  · cases decodes

theorem decode_eq_ok_iff {bytes : List UInt8} {text : String} :
    decode bytes = .ok text ↔ bytes = encode text := by
  constructor
  · exact fun decodes => (encode_of_decode decodes).symm
  · rintro rfl
    exact decode_encode text

end Text.Utf8

/-- The written form of a text is short enough to be read. -/
def TextFits (text : String) : Prop :=
  (Text.Utf8.encode text).length ≤ Reader.maxStringLength

instance (text : String) : Decidable (TextFits text) :=
  inferInstanceAs (Decidable (_ ≤ _))

namespace Reader

def textOfForm (form : List UInt8) : Reader String :=
  match Text.Utf8.decode form with
  | .ok text => return text
  | .error fault => fail (.notUtf8 fault)

/-- Reads a text whose length is known. -/
def textOfLength (length : UInt64) : Reader String :=
  if length.toNat ≤ maxStringLength then do
    let form ← exact length.toNat
    textOfForm form
  else fail (.stringTooLong length)

theorem string_eq : string = varint >>= textOfLength :=
  rfl

theorem Regular.textOfForm (form : List UInt8) : (textOfForm form).Regular := by
  rw [Reader.textOfForm]
  split
  · exact .pure _
  · exact .fail _

theorem Regular.textOfLength (length : UInt64) : (textOfLength length).Regular := by
  rw [Reader.textOfLength]
  split
  · exact (Regular.exact length.toNat).bind fun form => .textOfForm form
  · exact .fail (.stringTooLong length)

theorem Regular.string : string.Regular := by
  rw [string_eq]
  exact Regular.varint.bind .textOfLength

variable {depth : Nat} {bytes form : List UInt8} {text : String}

theorem textOfForm_takes_iff :
    (textOfForm form).Takes depth bytes text ↔ bytes = [] ∧ form = Text.Utf8.encode text := by
  rw [textOfForm, ← Text.Utf8.decode_eq_ok_iff]
  cases Text.Utf8.decode form with
  | ok decoded => rw [takes_pure_iff, Except.ok.injEq]
  | error fault =>
      refine iff_of_false not_takes_fail ?_
      rintro ⟨_, impossible⟩
      cases impossible

/-- Just the form of a text is taken that has the known length, unless that is too long. -/
theorem textOfLength_takes_iff {length : UInt64} :
    (textOfLength length).Takes depth bytes text ↔
      bytes = Text.Utf8.encode text ∧ bytes.length = length.toNat ∧ TextFits text := by
  constructor
  · intro takes
    rw [textOfLength] at takes
    split at takes
    · rename_i within
      rcases (Regular.exact length.toNat).takes_bind (fun form => .textOfForm form) takes with
        ⟨front, _, ⟨form, size⟩, rfl, formTakes, last⟩
      rcases textOfForm_takes_iff.mp last with ⟨rfl, formEq⟩
      have frontEq : front = form := exact_takes_iff.mp formTakes
      rw [List.append_nil, frontEq]
      refine ⟨formEq, size, ?_⟩
      rw [TextFits, ← formEq, size]
      exact within
    · exact absurd takes not_takes_fail
  · rintro ⟨rfl, size, fits⟩
    have within : length.toNat ≤ maxStringLength := by
      rw [← size]
      exact fits
    rw [textOfLength, if_pos within]
    exact (exact_takes size depth).andThen (textOfForm_takes_iff.mpr ⟨rfl, rfl⟩)

theorem textFits_of_string_takes (takes : string.Takes depth bytes text) : TextFits text := by
  rw [string_eq] at takes
  rcases Regular.varint.takes_bind .textOfLength takes with ⟨_, _, length, _, _, textTakes⟩
  exact (textOfLength_takes_iff.mp textTakes).2.2

end Reader

theorem Exchange.string {text : String} (fits : TextFits text) (depth : Nat) :
    Exchange (Writer.string text) Reader.string depth text := by
  have word : (Text.Utf8.encode text).length.toUInt64.toNat = (Text.Utf8.encode text).length := by
    apply UInt64.toNat_ofNat_of_lt'
    exact Nat.lt_of_le_of_lt fits (by decide)
  have form : (Writer.bytes (Text.Utf8.encode text)).Emits (Text.Utf8.encode text) := .bytes _
  exact (varint (Text.Utf8.encode text).length.toUInt64 depth).bind
    ⟨_, form, Reader.textOfLength_takes_iff.mpr ⟨rfl, word.symm, fits⟩⟩

end Resemblance
