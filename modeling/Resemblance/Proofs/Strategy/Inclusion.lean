import Resemblance.Proofs.Number.Quotient
import Resemblance.Proofs.Strategy.SelfScore
import Resemblance.Proofs.Value.Collections

/-!
# Included filters

A filter that includes another one contains what the other one contains: both give a token the same
positions, since they have the same shape, and no bit is missing. It has at least as many bits, and
as many only if the filters are equal, since no bit lies beyond the width, which is where the bits
are counted. Inserting tokens keeps within the width, and a reader refuses filters that do not.

So the share of the bits that an included filter has lies between 0 and 1, and is 1 for equal filters
only. The score is this share, of the numbers of bits as they are rounded, which numbers that fit the
significand are not.
-/

namespace Resemblance

namespace BloomFilter

/--
The filters that a program can hold: any tokens may be inserted, with any hash of tokens, into a
filter that contains nothing or one that was read.
-/
inductive Obtained : BloomFilter → Prop where
  | empty (width : Nat) (hashCount : UInt32) : Obtained (empty width hashCount)
  | insert {filter : BloomFilter} (hash : DoubleHash) (token : String)
      (obtained : Obtained filter) : Obtained (filter.insert hash token)
  | read {source after : Source} {filter : BloomFilter}
      (success : Reader.bloomFilter source = .ok filter after) : Obtained filter

variable {larger smaller filter : BloomFilter}

theorem Obtained.ofTokens (hash : DoubleHash) (width : Nat) (hashCount : UInt32)
    (tokens : List String) : Obtained (ofTokens hash width hashCount tokens) := by
  induction tokens using List.reverseRecOn with
  | nil => exact .empty width hashCount
  | append_singleton tokens token ih =>
      rw [ofTokens_concat]
      exact ih.insert hash token

theorem Obtained.withinWidth (obtained : filter.Obtained) : filter.WithinWidth := by
  induction obtained with
  | empty width hashCount => exact withinWidth_empty width hashCount
  | insert hash token _ ih => exact ih.insert hash token
  | read success =>
      rcases Reader.Regular.bloomFilter.takes_of_ok success with ⟨_, takes, _⟩
      exact (Reader.of_bloomFilter_takes takes).1

theorem Obtained.isReachable (obtained : filter.Obtained) : filter.IsReachable := by
  induction obtained with
  | empty width hashCount => exact isReachable_empty width hashCount
  | insert hash token _ ih => exact ih.insert hash token
  | read success =>
      rcases Reader.Regular.bloomFilter.takes_of_ok success with ⟨_, takes, _⟩
      rcases Reader.of_bloomFilter_takes takes with ⟨within, fits⟩
      intro position set
      have limit : Reader.maxCollectionLength < UInt64.size := by decide
      exact ((withinWidth_iff.mp within position set).trans_le fits).trans limit

/-! ## The order of filters -/

theorem includes_trans {middle : BloomFilter} (first : larger.includes middle)
    (second : middle.includes smaller) : larger.includes smaller := by
  rcases includes_iff.mp first with ⟨widths, hashCounts, bits⟩
  rcases includes_iff.mp second with ⟨widths', hashCounts', bits'⟩
  exact includes_iff.mpr ⟨widths.trans widths', hashCounts.trans hashCounts',
    fun position set => bits position (bits' position set)⟩

theorem includes_antisymm (first : larger.includes smaller) (second : smaller.includes larger) :
    larger = smaller := by
  rcases includes_iff.mp first with ⟨widths, hashCounts, bits⟩
  rcases includes_iff.mp second with ⟨_, _, others⟩
  apply eq_of_testBit_eq widths hashCounts
  intro position
  exact Bool.eq_iff_iff.mpr ⟨others position, bits position⟩

/-! ## Tokens and bits -/

/-- An included filter has no token that the other one has not. -/
theorem contains_of_includes (included : larger.includes smaller) {hash : DoubleHash}
    {token : String} (contained : smaller.contains hash token) : larger.contains hash token := by
  rcases includes_iff.mp included with ⟨widths, hashCounts, bits⟩
  rcases contains_iff.mp contained with ⟨positive, allSet⟩
  rw [contains_iff, widths, positions_congr widths hashCounts]
  exact ⟨positive, fun position chosen => bits position (allSet position chosen)⟩

theorem marks_subset_of_includes (included : larger.includes smaller) :
    smaller.marks ⊆ larger.marks := by
  rcases includes_iff.mp included with ⟨widths, _, bits⟩
  intro position marked
  rw [marks, Finset.mem_filter] at marked ⊢
  rw [widths]
  exact ⟨marked.1, bits position marked.2⟩

theorem occupancy_le_of_includes (included : larger.includes smaller) :
    smaller.occupancy ≤ larger.occupancy := by
  rw [occupancy_eq_card, occupancy_eq_card]
  exact Finset.card_le_card (marks_subset_of_includes included)

/-- With as many bits, an included filter is the other one. -/
theorem occupancy_eq_iff_of_includes (largerWithin : larger.WithinWidth)
    (smallerWithin : smaller.WithinWidth) (included : larger.includes smaller) :
    smaller.occupancy = larger.occupancy ↔ larger = smaller := by
  constructor
  · intro equal
    rw [occupancy_eq_card, occupancy_eq_card] at equal
    have same := Finset.eq_of_subset_of_card_le (marks_subset_of_includes included) equal.ge
    rcases includes_iff.mp included with ⟨widths, hashCounts, _⟩
    apply eq_of_testBit_eq widths hashCounts
    intro position
    rw [Bool.eq_iff_iff, ← largerWithin.mem_marks_iff, ← smallerWithin.mem_marks_iff, same]
  · rintro rfl
    rfl

/-! ## Scores -/

/-- The score of an included filter is 1 just if rounding makes the numbers of bits equal. -/
theorem bloomScore_of_includes (included : larger.includes smaller)
    (fits : larger.occupancy ≤ 2 ^ 64) :
    0 ≤ Similarity.bloomScore larger smaller ∧ Similarity.bloomScore larger smaller ≤ 1 ∧
      (Similarity.bloomScore larger smaller = 1 ↔
        Float.ofNat smaller.occupancy = Float.ofNat larger.occupancy) := by
  have atMost := occupancy_le_of_includes included
  rw [Similarity.bloomScore, if_pos included]
  split
  · rename_i nothing
    have none : smaller.occupancy = larger.occupancy := by omega
    rw [none]
    exact ⟨Score.le_of_lt Score.zero_lt_one, by decide +kernel, iff_of_true rfl rfl⟩
  · rename_i some
    exact Score.share_mem (Nat.pos_of_ne_zero some) fits atMost

/-- What a filter knows of the filters that it includes. -/
structure Covers (larger smaller : BloomFilter) : Prop where
  /-- Whatever the hash of tokens, no token is missing. -/
  contains : ∀ hash token, smaller.contains hash token → larger.contains hash token
  occupancy_le : smaller.occupancy ≤ larger.occupancy
  occupancy_eq_iff : smaller.occupancy = larger.occupancy ↔ larger = smaller
  /-- Without set bits, a filter includes no filter that has some. -/
  occupancy_eq_zero : larger.occupancy = 0 → smaller.occupancy = 0
  share_mem : (smaller.occupancy / larger.occupancy : ℚ) ∈ Set.Icc 0 1
  share_eq_one_iff : larger.occupancy ≠ 0 →
    ((smaller.occupancy / larger.occupancy : ℚ) = 1 ↔ larger = smaller)
  score_nonneg : 0 ≤ Similarity.bloomScore larger smaller
  score_le : Similarity.bloomScore larger smaller ≤ 1
  /-- The score is the share of the rounded numbers of bits. -/
  score_eq_one_iff : Similarity.bloomScore larger smaller = 1 ↔
    Float.ofNat smaller.occupancy = Float.ofNat larger.occupancy
  /-- Fewer bits than these are not rounded. -/
  score_eq_one_iff_eq : larger.occupancy < 2 ^ 53 →
    (Similarity.bloomScore larger smaller = 1 ↔ larger = smaller)

theorem Obtained.covers (largerObtained : larger.Obtained) (smallerObtained : smaller.Obtained)
    (included : larger.includes smaller) : larger.Covers smaller := by
  have atMost := occupancy_le_of_includes included
  have equal := occupancy_eq_iff_of_includes largerObtained.withinWidth smallerObtained.withinWidth
    included
  have score := bloomScore_of_includes included largerObtained.isReachable.occupancy_le
  constructor
  case contains => exact fun hash token => contains_of_includes included
  case occupancy_le => exact atMost
  case occupancy_eq_iff => exact equal
  case occupancy_eq_zero => omega
  case share_mem =>
    exact ⟨div_nonneg (Nat.cast_nonneg _) (Nat.cast_nonneg _),
      div_le_one_of_le₀ (Nat.cast_le.mpr atMost) (Nat.cast_nonneg _)⟩
  case share_eq_one_iff =>
    intro some
    rw [div_eq_one_iff_eq (Nat.cast_ne_zero.mpr some), Nat.cast_inj, equal]
  case score_nonneg => exact score.1
  case score_le => exact score.2.1
  case score_eq_one_iff => exact score.2.2
  case score_eq_one_iff_eq =>
    intro small
    rw [score.2.2, Score.ofNat_eq_iff atMost small, equal]

/--
Inclusion of filters is an order. A filter, however it came about, covers the filters that it
includes: it contains their tokens, and it has more bits than any other filter that it includes.
-/
theorem includes_isSound :
    (∀ larger smaller : BloomFilter, larger.Obtained → smaller.Obtained →
      larger.includes smaller → larger.Covers smaller) ∧
    (∀ filter : BloomFilter, filter.includes filter) ∧
    (∀ larger middle smaller : BloomFilter, larger.includes middle → middle.includes smaller →
      larger.includes smaller) ∧
    ∀ left right : BloomFilter, left.includes right → right.includes left → left = right := by
  refine ⟨?_, includes_self, fun _ _ _ => includes_trans, fun _ _ => includes_antisymm⟩
  intro larger smaller largerObtained smallerObtained included
  exact largerObtained.covers smallerObtained included

/-- The payload of a filter of 70 bits with the bits 1, 5, 64 and 69 in two words. -/
def paddedSample : List UInt8 :=
  [70, 2, 2, 0x22, 0, 0, 0, 0, 0, 0, 0, 0x21, 0, 0, 0, 0, 0, 0, 0]

/-- The second hash leads a token beyond the first word. -/
def wordHash : DoubleHash := fun _ => (5, 64)

/-- A filter that was read includes a filter with one token, and has twice as many bits. -/
theorem includes_isSound_paddedSample :
    Reader.bloomFilter (.ofBytes paddedSample) =
        .ok ⟨70, 2, 2 + 2 ^ 5 + 2 ^ 64 + 2 ^ 69⟩ { rest := [], position := 19 } ∧
      Covers ⟨70, 2, 2 + 2 ^ 5 + 2 ^ 64 + 2 ^ 69⟩ (ofTokens wordHash 70 2 ["a"]) ∧
      (ofTokens wordHash 70 2 ["a"]).occupancy = 2 ∧
      Similarity.bloomScore ⟨70, 2, 2 + 2 ^ 5 + 2 ^ 64 + 2 ^ 69⟩ (ofTokens wordHash 70 2 ["a"]) =
        0.5 := by
  have read : Reader.bloomFilter (.ofBytes paddedSample) =
      .ok ⟨70, 2, 2 + 2 ^ 5 + 2 ^ 64 + 2 ^ 69⟩ { rest := [], position := 19 } := by
    cbv
  refine ⟨read, ?_, by decide +kernel, by decide +kernel⟩
  exact includes_isSound.1 _ _ (.read read) (.ofTokens wordHash 70 2 ["a"]) (by decide +kernel)

end BloomFilter

end Resemblance
