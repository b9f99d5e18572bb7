import Mathlib
import Resemblance.Feature.Digest

/-!
# Codes of digests and their distance

The codes of a digest stand in its bytes as digits to the base four, the lowest digit first. So
taking a code out of a byte gives back what was packed, and a byte is known by its four codes. The
distance of two digests, which goes through the bytes and the places in them, is therefore a sum
over the buckets. Its terms are symmetric and vanish for equal codes only; hence the distance is
symmetric and tells different digests apart. As every term is small, the sum is far below the
greatest number of 32 bits.
-/

namespace Resemblance

/-- The sum that a comparison of lists of one length adds up. -/
theorem sum_zipWith_eq {Item : Type} (penalty : Item → Item → Nat) (absent : Item)
    {items others : List Item} (sizes : items.length = others.length) :
    (items.zipWith penalty others).foldr (· + ·) 0 =
      ∑ index ∈ Finset.range items.length,
        penalty (items.getD index absent) (others.getD index absent) := by
  induction items generalizing others with
  | nil => rfl
  | cons item items ih =>
      cases others with
      | nil => cases sizes
      | cons other others =>
          rw [List.zipWith_cons_cons, List.foldr_cons, ih (Nat.succ.inj sizes), List.length_cons,
            Finset.sum_range_succ', Nat.add_comm]
          rfl

namespace Digest

variable {digest left right : Digest} {bucket place index : Nat} {codes : List Nat}

/-! ## Digits of a byte -/

/-- The code at a place of a byte. -/
def codeAt (byte : UInt8) (place : Nat) : Nat :=
  byte.toNat >>> (2 * place) % 4

theorem codeAt_eq (byte : UInt8) (place : Nat) :
    codeAt byte place = byte.toNat / 4 ^ place % 4 := by
  rw [codeAt, Nat.shiftRight_eq_div_pow, Nat.pow_mul]

theorem codeAt_lt (byte : UInt8) (place : Nat) : codeAt byte place < 4 :=
  Nat.mod_lt _ (by decide)

theorem toNat_eq_codes (byte : UInt8) :
    byte.toNat = codeAt byte 0 + 4 * codeAt byte 1 + 16 * codeAt byte 2 + 64 * codeAt byte 3 := by
  have below := byte.toNat_lt
  simp only [codeAt_eq]
  omega

theorem eq_of_codeAt_eq {byte other : UInt8}
    (same : ∀ place < 4, codeAt byte place = codeAt other place) : byte = other := by
  apply UInt8.toNat_inj.mp
  rw [toNat_eq_codes byte, toNat_eq_codes other, same 0 (by decide), same 1 (by decide),
    same 2 (by decide), same 3 (by decide)]

theorem codeAt_packedByte (bounded : ∀ code ∈ codes, code < 4) (place_lt : place < 4) :
    codeAt (packedByte codes index) place = codes.getD (4 * index + place) 0 := by
  have digit (position : Nat) : codes.getD position 0 < 4 := by
    rcases Nat.lt_or_ge position codes.length with within | beyond
    · rw [List.getD_eq_getElem _ _ within]
      exact bounded _ (List.getElem_mem within)
    · rw [List.getD_eq_default _ _ beyond]
      decide
  have first := digit (4 * index)
  have second := digit (4 * index + 1)
  have third := digit (4 * index + 2)
  have fourth := digit (4 * index + 3)
  have value : (packedByte codes index).toNat = codes.getD (4 * index) 0 +
      4 * codes.getD (4 * index + 1) 0 + 16 * codes.getD (4 * index + 2) 0 +
        64 * codes.getD (4 * index + 3) 0 :=
    UInt8.toNat_ofNat_of_lt' (by change _ < 256; omega)
  rw [codeAt_eq, value]
  interval_cases place
  · change _ = codes.getD (4 * index) 0
    omega
  all_goals omega

/-! ## Codes of the buckets -/

/-- The byte that holds the codes of four buckets. -/
def byteAt (digest : Digest) (index : Nat) : UInt8 :=
  digest.codes.toList.getD index 0

theorem code_eq (digest : Digest) (bucket : Nat) :
    digest.code bucket = codeAt (digest.byteAt (bucket / 4)) (bucket % 4) := by
  rw [code, codeAt, byteAt, Array.getD_eq_getD_getElem?, List.getD_eq_getElem?_getD,
    ← Vector.toList_toArray, Array.getElem?_toList]

theorem code_lt (digest : Digest) (bucket : Nat) : digest.code bucket < 4 := by
  rw [code_eq]
  exact codeAt_lt _ _

theorem code_four_mul_add (digest : Digest) (index : Nat) (place_lt : place < 4) :
    digest.code (4 * index + place) = codeAt (digest.byteAt index) place := by
  have byte : (4 * index + place) / 4 = index := by omega
  have digit : (4 * index + place) % 4 = place := by omega
  rw [code_eq, byte, digit]

theorem byteAt_of_lt (index_lt : index < 32) : digest.byteAt index = digest.codes[index] := by
  rw [byteAt, List.getD_eq_getElem _ _ (by simpa using index_lt), Vector.getElem_toList]

/-- A digest is known by its length class and its codes. -/
theorem eq_of_code_eq (classes : left.lengthClass = right.lengthClass)
    (same : ∀ bucket < bucketCount, left.code bucket = right.code bucket) : left = right := by
  have bytes : left.codes = right.codes := by
    apply Vector.ext
    intro index within
    rw [← byteAt_of_lt within, ← byteAt_of_lt within]
    apply eq_of_codeAt_eq
    intro place place_lt
    rw [← code_four_mul_add _ _ place_lt, ← code_four_mul_add _ _ place_lt]
    apply same
    change _ < 128
    omega
  cases left
  cases right
  exact congrArg₂ Digest.mk classes bytes

/-- The codes of the buckets are those that were packed. -/
theorem code_pack (bounded : ∀ code ∈ codes, code < 4) (lengthClass : UInt8)
    (bucket_lt : bucket < bucketCount) :
    (Digest.mk lengthClass (pack codes)).code bucket = codes.getD bucket 0 := by
  have index_lt : bucket / 4 < 32 := Nat.div_lt_of_lt_mul bucket_lt
  have byte : (Digest.mk lengthClass (pack codes)).byteAt (bucket / 4) =
      packedByte codes (bucket / 4) := by
    rw [byteAt_of_lt index_lt]
    exact Vector.getElem_ofFn index_lt
  rw [code_eq, byte, codeAt_packedByte bounded (Nat.mod_lt _ (by decide)), Nat.div_add_mod]

/-! ## Distance as a sum over the buckets -/

theorem sum_range_four_mul (term : Nat → Nat) (count : Nat) :
    ∑ bucket ∈ Finset.range (4 * count), term bucket =
      ∑ index ∈ Finset.range count, ∑ place ∈ Finset.range 4, term (4 * index + place) := by
  induction count with
  | zero => rfl
  | succ count ih => rw [Nat.mul_succ, Finset.sum_range_add, ih, Finset.sum_range_succ _ count]

theorem bytePenalty_eq (first second : UInt8) :
    bytePenalty first second =
      ∑ place ∈ Finset.range 4, codePenalty (codeAt first place) (codeAt second place) := by
  rw [Finset.sum_range_succ', Finset.sum_range_succ', Finset.sum_range_succ',
    Finset.sum_range_succ', Finset.sum_range_zero]
  simp only [bytePenalty, codeAt, List.range_succ]
  simp
  omega

theorem distance_eq (left right : Digest) :
    left.distance right = lengthPenalty left.lengthClass right.lengthClass +
      ∑ bucket ∈ Finset.range bucketCount, codePenalty (left.code bucket) (right.code bucket) := by
  have sizes : left.codes.toList.length = right.codes.toList.length := by simp
  have buckets : ∑ bucket ∈ Finset.range bucketCount,
      codePenalty (left.code bucket) (right.code bucket) =
        ∑ index ∈ Finset.range 32, ∑ place ∈ Finset.range 4,
          codePenalty (left.code (4 * index + place)) (right.code (4 * index + place)) :=
    sum_range_four_mul (fun bucket => codePenalty (left.code bucket) (right.code bucket)) 32
  rw [distance, sum_zipWith_eq bytePenalty 0 sizes, Vector.length_toList, buckets]
  refine congrArg (lengthPenalty _ _ + ·) (Finset.sum_congr rfl ?_)
  intro index _
  rw [bytePenalty_eq]
  apply Finset.sum_congr rfl
  intro place member
  have place_lt := Finset.mem_range.mp member
  rw [code_four_mul_add _ _ place_lt, code_four_mul_add _ _ place_lt, byteAt, byteAt]

/-! ## Penalties -/

theorem codePenalty_eq {first second : Nat} (first_lt : first < 4) (second_lt : second < 4) :
    codePenalty first second = [0, 1, 2, 6].getD (Nat.dist first second) 0 := by
  change (if Nat.dist first second = 3 then 6 else Nat.dist first second) = _
  have gap_lt : Nat.dist first second < 4 := by
    unfold Nat.dist
    omega
  interval_cases Nat.dist first second <;> rfl

theorem codePenalty_comm (first second : Nat) :
    codePenalty first second = codePenalty second first := by
  rw [codePenalty, codePenalty, Nat.add_comm]

theorem codePenalty_eq_zero_iff {first second : Nat} :
    codePenalty first second = 0 ↔ first = second := by
  rw [codePenalty]
  split <;> omega

theorem codePenalty_le {first second : Nat} (first_lt : first < 4) (second_lt : second < 4) :
    codePenalty first second ≤ 6 := by
  rw [codePenalty]
  split <;> omega

theorem lengthPenalty_comm (first second : UInt8) :
    lengthPenalty first second = lengthPenalty second first := by
  rw [lengthPenalty, lengthPenalty, Nat.add_comm]

theorem lengthPenalty_eq_zero_iff {first second : UInt8} :
    lengthPenalty first second = 0 ↔ first = second := by
  rw [← UInt8.toNat_inj, lengthPenalty]
  split <;> omega

theorem lengthPenalty_le (first second : UInt8) : lengthPenalty first second ≤ 12 * 255 := by
  have := first.toNat_lt
  have := second.toNat_lt
  rw [lengthPenalty]
  split <;> omega

/-! ## Distance -/

theorem distance_comm (left right : Digest) : left.distance right = right.distance left := by
  rw [distance_eq, distance_eq, lengthPenalty_comm]
  refine congrArg (lengthPenalty _ _ + ·) (Finset.sum_congr rfl ?_)
  intro bucket _
  exact codePenalty_comm _ _

theorem distance_eq_zero_iff : left.distance right = 0 ↔ left = right := by
  constructor
  · intro zero
    rw [distance_eq, Nat.add_eq_zero_iff, lengthPenalty_eq_zero_iff, Finset.sum_eq_zero_iff] at zero
    apply eq_of_code_eq zero.1
    intro bucket bucket_lt
    exact codePenalty_eq_zero_iff.mp (zero.2 bucket (Finset.mem_range.mpr bucket_lt))
  · rintro rfl
    rw [distance_eq, Nat.add_eq_zero_iff, lengthPenalty_eq_zero_iff, Finset.sum_eq_zero_iff]
    exact ⟨rfl, fun bucket _ => codePenalty_eq_zero_iff.mpr rfl⟩

theorem distance_le (left right : Digest) : left.distance right ≤ 3828 := by
  have codes : ∑ bucket ∈ Finset.range bucketCount,
      codePenalty (left.code bucket) (right.code bucket) ≤ bucketCount * 6 := by
    calc _ ≤ (Finset.range bucketCount).card • 6 := by
          apply Finset.sum_le_card_nsmul
          intro bucket _
          exact codePenalty_le (left.code_lt bucket) (right.code_lt bucket)
      _ = bucketCount * 6 := by rw [Finset.card_range, smul_eq_mul]
  have classes := lengthPenalty_le left.lengthClass right.lengthClass
  rw [distance_eq]
  change _ ≤ 12 * 255 + bucketCount * 6
  omega

/-- The distance of two digests that may be absent. -/
structure SeparatedBy (left? right? : Option Digest) : Prop where
  isSome : (distance? left? right?).isSome ↔ left?.isSome ∧ right?.isSome
  /-- Codes are one, two or three steps apart; three steps count double. -/
  value : ∀ left right, left? = some left → right? = some right →
    distance? left? right? = some (lengthPenalty left.lengthClass right.lengthClass +
      ∑ bucket ∈ Finset.range 128,
        [0, 1, 2, 6].getD (Nat.dist (left.code bucket) (right.code bucket)) 0)
  symmetric : distance? left? right? = distance? right? left?
  separating : distance? left? right? = some 0 ↔ left?.isSome ∧ left? = right?
  bounded : ∀ distance, distance? left? right? = some distance →
    distance ≤ 3828 ∧ distance < UInt32.size

/-- The distance is symmetric, tells different digests apart, and fits a number of 32 bits. -/
theorem distance?_isSeparating (left? right? : Option Digest) : SeparatedBy left? right? where
  isSome := by
    cases left? <;> cases right? <;> simp [distance?]
  value := by
    rintro left right rfl rfl
    rw [distance?, distance_eq]
    refine congrArg (fun total => some (lengthPenalty _ _ + total)) (Finset.sum_congr rfl ?_)
    intro bucket _
    exact codePenalty_eq (left.code_lt bucket) (right.code_lt bucket)
  symmetric := by
    cases left? <;> cases right? <;> simp [distance?, distance_comm]
  separating := by
    cases left? <;> cases right? <;> simp [distance?, distance_eq_zero_iff]
  bounded := by
    intro distance found
    cases left? with
    | none => cases found
    | some left =>
        cases right? with
        | none => cases found
        | some right =>
            have small := left.distance_le right
            rw [Option.some.inj found] at small
            exact ⟨small, small.trans_lt (by decide)⟩

end Digest

end Resemblance
