import Resemblance.Proofs.Value.Parts

/-!
# Vectors, hash sets, filters and digests in a stream

The payloads without typed constants: each is read back from its written form, its reader is
regular, and what it reads is canonical and within the limits.
-/

namespace Resemblance

/-! ## Bloom filters -/

namespace BloomFilter

@[simp]
theorem length_toWords (count number : Nat) : (toWords count number).length = count := by
  induction count generalizing number with
  | zero => rfl
  | succ count ih => simp [toWords, ih]

theorem ofWords_toWords {count number : Nat} (fits : number < UInt64.size ^ count) :
    ofWords (toWords count number) = number := by
  induction count generalizing number with
  | zero =>
      rw [Nat.pow_zero] at fits
      simp only [toWords, ofWords, List.foldr_nil]
      omega
  | succ count ih =>
      have positive : 0 < UInt64.size := by decide
      have high : number / UInt64.size < UInt64.size ^ count := by
        rw [Nat.div_lt_iff_lt_mul positive, ← Nat.pow_succ]
        exact fits
      have low : (number % UInt64.size).toUInt64.toNat = number % UInt64.size :=
        UInt64.toNat_ofNat_of_lt' (Nat.mod_lt number positive)
      have later := ih high
      simp only [ofWords] at later
      simp only [toWords, ofWords, List.foldr_cons, low, later]
      exact Nat.mod_add_div number UInt64.size

theorem WithinWidth.bits_lt {filter : BloomFilter} (within : filter.WithinWidth) :
    filter.bits < UInt64.size ^ wordCount filter.width := by
  rw [WithinWidth, Nat.shiftRight_eq_div_pow, Nat.div_eq_zero_iff_lt (Nat.two_pow_pos _)] at within
  have enough : filter.width ≤ 64 * wordCount filter.width := by
    rw [wordCount]
    omega
  calc filter.bits < 2 ^ filter.width := within
    _ ≤ 2 ^ (64 * wordCount filter.width) := Nat.pow_le_pow_right (by decide) enough
    _ = UInt64.size ^ wordCount filter.width := by rw [Nat.pow_mul]

theorem wordCount_le {width : Nat} (within : width ≤ Reader.maxCollectionLength) :
    wordCount width ≤ Reader.maxCollectionLength := by
  rw [wordCount]
  simp only [Reader.maxCollectionLength] at within ⊢
  omega

end BloomFilter

theorem Reader.Regular.bloomFilter : bloomFilter.Regular := by
  refine Regular.length.bind fun width => Regular.index.bind fun hashCount =>
    Regular.length.bind fun wordCount => ?_
  split
  · refine (Regular.u64.replicate wordCount).bind fun words => ?_
    simp only
    split
    · exact .pure _
    · exact .fail .bloomStrayBits
  · exact .fail (.bloomWordCount width wordCount)

theorem Reader.of_bloomFilter_takes {depth : Nat} {bytes : List UInt8} {filter : BloomFilter}
    (takes : bloomFilter.Takes depth bytes filter) :
    filter.WithinWidth ∧ filter.width ≤ maxCollectionLength := by
  have success := takes 0 [] .endOfBytes
  rcases bind_eq_ok.mp success with ⟨width, _, widthSuccess, hashCountSuccess⟩
  rcases bind_eq_ok.mp hashCountSuccess with ⟨hashCount, _, _, wordCountSuccess⟩
  rcases bind_eq_ok.mp wordCountSuccess with ⟨wordCount, _, _, checked⟩
  rcases Regular.length.takes_of_ok widthSuccess with ⟨_, widthTakes, _⟩
  split at checked
  · rcases bind_eq_ok.mp checked with ⟨words, _, _, filterSuccess⟩
    split at filterSuccess
    · rename_i within
      rcases pure_eq_ok.mp filterSuccess with ⟨rfl, _⟩
      exact ⟨within, le_of_length_takes widthTakes⟩
    · cases filterSuccess
  · cases checked

theorem Exchange.bloomFilter {filter : BloomFilter} (canonical : filter.WithinWidth)
    (fits : filter.width ≤ Reader.maxCollectionLength) (depth : Nat) :
    Exchange (Writer.bloomFilter filter) Reader.bloomFilter depth filter := by
  have words : Exchange (Writer.each Writer.u64 filter.words)
      (Reader.replicate filter.words.length Reader.u64) depth filter.words :=
    each fun word _ => u64 word depth
  have lengthEq : filter.words.length = BloomFilter.wordCount filter.width :=
    BloomFilter.length_toWords _ _
  have bits : BloomFilter.ofWords filter.words = filter.bits :=
    BloomFilter.ofWords_toWords canonical.bits_lt
  refine (length fits depth).bind ((index filter.hashCount depth).bind ?_)
  refine (length (by rw [lengthEq]; exact BloomFilter.wordCount_le fits) depth).bind ?_
  rw [if_pos lengthEq]
  refine words.andThen ?_
  simp only [bits]
  rw [if_pos canonical]
  exact .pure filter

/-! ## Digests -/

theorem Reader.Regular.digest : digest.Regular := by
  refine Regular.bool.bind fun present => ?_
  split
  · exact Regular.u8.bind fun lengthClass => (Regular.exact 32).bind fun codes => .pure _
  · exact .pure none

theorem Exchange.digest (digest? : Option Digest) (depth : Nat) :
    Exchange (Writer.digest digest?) Reader.digest depth digest? := by
  cases digest? with
  | none => exact (bool false depth).andThen (.pure none)
  | some digest =>
      have size : digest.codes.toList.length = 32 := by simp
      refine (bool true depth).bind ((u8 digest.lengthClass depth).bind ?_)
      exact (exact size depth).andThen (.pure (some digest))

/-! ## Vectors -/

theorem Reader.Regular.component : component.Regular := by
  refine Regular.signed.bind fun number => ?_
  split
  · exact .pure number.toInt32
  · exact .fail (.componentTooLarge number)

theorem Exchange.component (component : Int32) (depth : Nat) :
    Exchange (Writer.signed component.toInt64) Reader.component depth component := by
  refine (signed component.toInt64 depth).andThen ?_
  have within : Int32.minValue.toInt ≤ component.toInt64.toInt ∧
      component.toInt64.toInt ≤ Int32.maxValue.toInt := by
    rw [Int32.toInt_toInt64]
    exact ⟨component.minValue_le_toInt, component.toInt_le⟩
  simp only [within, and_self, if_true, Int32.toInt32_toInt64]
  exact .pure component

/-! ## Hash sets -/

theorem Reader.Regular.laterHashes (previous : UInt64) (count : Nat) :
    (laterHashes previous count).Regular := by
  induction count generalizing previous with
  | zero => exact .pure []
  | succ count ih =>
      refine Regular.varint.bind fun difference => ?_
      split
      · exact .fail .hashesNotIncreasing
      · split
        · exact (ih _).bind fun others => .pure _
        · exact .fail .hashOverflow

theorem Reader.Regular.hashes (count : Nat) : (hashes count).Regular := by
  cases count with
  | zero => exact .pure []
  | succ count =>
      exact Regular.varint.bind fun first => (laterHashes first count).bind fun others => .pure _

theorem Reader.of_laterHashes_eq_ok {previous : UInt64} {count : Nat} {source after : Source}
    {hashes : List UInt64} (success : laterHashes previous count source = .ok hashes after) :
    hashes.length = count ∧ (previous :: hashes).Pairwise (· < ·) := by
  induction count generalizing previous source after hashes with
  | zero =>
      rcases pure_eq_ok.mp success with ⟨rfl, _⟩
      simp
  | succ count ih =>
      rcases bind_eq_ok.mp success with ⟨difference, _, _, checked⟩
      split at checked
      · cases checked
      · rename_i nonzero
        split at checked
        · rename_i within
          rcases bind_eq_ok.mp checked with ⟨others, _, othersSuccess, last⟩
          rcases pure_eq_ok.mp last with ⟨rfl, _⟩
          rcases ih othersSuccess with ⟨lengthEq, increasing⟩
          refine ⟨by simp [lengthEq], List.pairwise_cons.mpr ⟨?_, increasing⟩⟩
          have positive : 0 < difference.toNat := by
            rw [Nat.pos_iff_ne_zero]
            intro zero
            exact nonzero (UInt64.toNat_inj.mp zero)
          have step : previous < previous + difference := by
            rw [UInt64.lt_iff_toNat_lt, UInt64.toNat_add, Nat.mod_eq_of_lt within]
            omega
          intro hash member
          rcases List.mem_cons.mp member with rfl | later
          · exact step
          · exact UInt64.lt_trans step ((List.pairwise_cons.mp increasing).1 hash later)
        · cases checked

theorem Reader.of_hashes_takes {count depth : Nat} {bytes : List UInt8} {members : List UInt64}
    (takes : (hashes count).Takes depth bytes members) :
    members.length = count ∧ members.Pairwise (· < ·) := by
  cases count with
  | zero =>
      rcases takes_pure_iff.mp takes with ⟨_, rfl⟩
      simp
  | succ count =>
      rcases bind_eq_ok.mp (takes 0 [] .endOfBytes) with ⟨first, _, _, laterSuccess⟩
      rcases bind_eq_ok.mp laterSuccess with ⟨others, _, othersSuccess, last⟩
      rcases pure_eq_ok.mp last with ⟨rfl, _⟩
      rcases of_laterHashes_eq_ok othersSuccess with ⟨lengthEq, increasing⟩
      exact ⟨by simp [lengthEq], increasing⟩

theorem Exchange.laterHashes {previous : UInt64} {hashes : List UInt64} (depth : Nat)
    (increasing : (previous :: hashes).Pairwise (· < ·)) :
    Exchange (Writer.each Writer.varint (HashSet.differences previous hashes))
      (Reader.laterHashes previous hashes.length) depth hashes := by
  induction hashes generalizing previous with
  | nil => exact .pure []
  | cons hash hashes ih =>
      have step : previous < hash := (List.pairwise_cons.mp increasing).1 hash (by simp)
      have stepNat := UInt64.lt_iff_toNat_lt.mp step
      have difference : (hash - previous).toNat = hash.toNat - previous.toNat :=
        UInt64.toNat_sub_of_le hash previous (UInt64.le_of_lt step)
      have nonzero : hash - previous ≠ 0 := by
        intro zero
        have := congrArg UInt64.toNat zero
        rw [difference, UInt64.toNat_zero] at this
        omega
      have within : previous.toNat + (hash - previous).toNat < UInt64.size := by
        have := hash.toNat_lt
        change _ < 2 ^ 64
        omega
      have sum : previous + (hash - previous) = hash := by
        rw [UInt64.add_comm, UInt64.sub_add_cancel]
      have others := ih (List.pairwise_cons.mp increasing).2
      refine (varint (hash - previous) depth).bind ?_
      rw [if_neg nonzero, if_pos within, sum]
      exact others.map (hash :: ·)

theorem Exchange.hashes {hashes : List UInt64} (increasing : hashes.Pairwise (· < ·))
    (depth : Nat) :
    Exchange (Writer.each Writer.varint (HashSet.differences 0 hashes))
      (Reader.hashes hashes.length) depth hashes := by
  cases hashes with
  | nil => exact .pure []
  | cons first hashes =>
      have difference : first - 0 = first := UInt64.sub_zero first
      have head : Exchange (Writer.varint (first - 0)) Reader.varint depth first := by
        rw [difference]
        exact varint first depth
      exact head.bind ((laterHashes depth increasing).map (first :: ·))

end Resemblance
