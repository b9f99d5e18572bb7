import Mathlib
import Resemblance.Feature.BloomFilter

/-!
# Bits of Bloom filters

A filter is known by its width, its hash count and the positions of its set bits. The positions that
a token chooses depend on the width and the hash count alone, and inserting the token sets just these.
So the bits of a filter that was built from tokens are those that some token chooses, which makes
building a homomorphism: more tokens give the union of the bits, and neither the order of the tokens
nor repetitions matter. A filter without bits takes part in all of this, but never contains a token.
-/

namespace Resemblance

namespace BloomFilter

variable {hash : DoubleHash} {filter : BloomFilter} {token : String} {position : Nat}

/-! ## Single bits -/

theorem eq_of_testBit_eq {left right : BloomFilter} (widths : left.width = right.width)
    (hashCounts : left.hashCount = right.hashCount)
    (same : ∀ position, left.bits.testBit position = right.bits.testBit position) :
    left = right := by
  rcases left with ⟨width, hashCount, bits⟩
  rcases right with ⟨_, _, others⟩
  cases widths
  cases hashCounts
  exact congrArg (BloomFilter.mk width hashCount) (Nat.eq_of_testBit_eq same)

theorem withinWidth_iff :
    filter.WithinWidth ↔ ∀ position, filter.bits.testBit position → position < filter.width := by
  constructor
  · intro within position set
    by_contra beyond
    have shifted := congrArg (Nat.testBit · (position - filter.width)) within
    simp only [Nat.testBit_shiftRight, Nat.zero_testBit] at shifted
    rw [Nat.add_sub_cancel' (not_lt.mp beyond), set] at shifted
    cases shifted
  · intro below
    apply Nat.eq_of_testBit_eq
    intro position
    rw [Nat.testBit_shiftRight, Nat.zero_testBit, Bool.eq_false_iff]
    intro set
    have := below _ set
    omega

/-- A filter includes another one of the same shape that has no other bits. -/
theorem includes_iff {larger smaller : BloomFilter} :
    larger.includes smaller ↔ larger.width = smaller.width ∧
      larger.hashCount = smaller.hashCount ∧
        ∀ position, smaller.bits.testBit position → larger.bits.testBit position := by
  have bits : smaller.bits &&& larger.bits = smaller.bits ↔
      ∀ position, smaller.bits.testBit position → larger.bits.testBit position := by
    constructor
    · intro both position set
      rw [← both, Nat.testBit_and, Bool.and_eq_true] at set
      exact set.2
    · intro part
      apply Nat.eq_of_testBit_eq
      intro position
      rw [Nat.testBit_and, Bool.and_eq_left_iff_imp]
      exact part position
  rw [includes, Bool.and_eq_true, Bool.and_eq_true, decide_eq_true_eq, decide_eq_true_eq,
    decide_eq_true_eq, bits, and_assoc]

/-! ## Counting -/

/-- The positions of the bits that are set. -/
def marks (filter : BloomFilter) : Finset Nat :=
  {position ∈ Finset.range filter.width | filter.bits.testBit position}

theorem occupancy_eq_card (filter : BloomFilter) : filter.occupancy = filter.marks.card := by
  have same : filter.marks =
      ((List.range filter.width).filter filter.bits.testBit).toFinset := by
    ext position
    simp [marks]
  rw [occupancy, List.countP_eq_length_filter, same,
    List.toFinset_card_of_nodup (List.nodup_range.filter _)]

theorem occupancy_le_width (filter : BloomFilter) : filter.occupancy ≤ filter.width := by
  rw [occupancy_eq_card]
  exact (Finset.card_filter_le _ _).trans_eq (Finset.card_range filter.width)

theorem WithinWidth.mem_marks_iff (within : filter.WithinWidth) :
    position ∈ filter.marks ↔ filter.bits.testBit position := by
  rw [marks, Finset.mem_filter, Finset.mem_range]
  exact and_iff_right_of_imp (withinWidth_iff.mp within position)

/-! ## Insertion -/

@[simp]
theorem width_setBits (positions : List Nat) :
    (positions.foldl setBit filter).width = filter.width := by
  induction positions generalizing filter with
  | nil => rfl
  | cons position positions ih => exact ih

@[simp]
theorem hashCount_setBits (positions : List Nat) :
    (positions.foldl setBit filter).hashCount = filter.hashCount := by
  induction positions generalizing filter with
  | nil => rfl
  | cons position positions ih => exact ih

theorem testBit_setBit {other : Nat} :
    (filter.setBit other).bits.testBit position ↔
      filter.bits.testBit position ∨ position = other := by
  rw [setBit, Nat.testBit_or, Nat.one_shiftLeft, Nat.testBit_two_pow, Bool.or_eq_true,
    decide_eq_true_eq]
  exact or_congr_right eq_comm

theorem testBit_setBits {positions : List Nat} :
    (positions.foldl setBit filter).bits.testBit position ↔
      filter.bits.testBit position ∨ position ∈ positions := by
  induction positions generalizing filter with
  | nil => simp
  | cons first positions ih =>
      rw [List.foldl_cons, ih, testBit_setBit, List.mem_cons, or_assoc]

@[simp]
theorem width_insert : (filter.insert hash token).width = filter.width := by
  rw [insert]
  split
  · rfl
  · exact width_setBits _

@[simp]
theorem hashCount_insert : (filter.insert hash token).hashCount = filter.hashCount := by
  rw [insert]
  split
  · rfl
  · exact hashCount_setBits _

/-- Inserting a token sets the bits that the token chooses, if there are any bits. -/
theorem testBit_insert :
    (filter.insert hash token).bits.testBit position ↔
      filter.bits.testBit position ∨
        filter.width ≠ 0 ∧ position ∈ filter.positions (hash token) := by
  rw [insert]
  split
  · rename_i none
    simp [none]
  · rename_i some
    rw [testBit_setBits]
    simp [some]

/-- Filters of one shape give a token the same positions. -/
theorem positions_congr {other : BloomFilter} (widths : filter.width = other.width)
    (hashCounts : filter.hashCount = other.hashCount) (hashes : UInt64 × UInt64) :
    filter.positions hashes = other.positions hashes := by
  have each : filter.position hashes = other.position hashes := by
    funext round
    rw [BloomFilter.position, BloomFilter.position, widths]
  rw [positions, positions, each, hashCounts]

theorem lt_width_of_mem_positions (positive : filter.width ≠ 0) {hashes : UInt64 × UInt64}
    (chosen : position ∈ filter.positions hashes) : position < filter.width := by
  rcases List.mem_map.mp chosen with ⟨round, _, rfl⟩
  rw [BloomFilter.position, Nat.max_eq_left (Nat.pos_of_ne_zero positive)]
  exact Nat.mod_lt _ (Nat.pos_of_ne_zero positive)

theorem WithinWidth.insert (within : filter.WithinWidth) (hash : DoubleHash) (token : String) :
    (filter.insert hash token).WithinWidth := by
  rw [withinWidth_iff]
  intro position set
  rw [width_insert]
  rcases testBit_insert.mp set with old | ⟨positive, chosen⟩
  · exact withinWidth_iff.mp within position old
  · exact lt_width_of_mem_positions positive chosen

theorem withinWidth_empty (width : Nat) (hashCount : UInt32) :
    (empty width hashCount).WithinWidth := by
  rw [WithinWidth, empty, Nat.zero_shiftRight]

/-! ## Membership -/

theorem allSet_iff {hashes : UInt64 × UInt64} {round rounds : Nat} :
    filter.allSet hashes round rounds ↔
      ∀ further < rounds, filter.bits.testBit (filter.position hashes (round + further)) := by
  induction rounds generalizing round with
  | zero => simp [allSet]
  | succ rounds ih =>
      rw [allSet, Bool.and_eq_true, ih, Nat.forall_lt_succ_left]
      simp only [Nat.add_zero, Nat.add_assoc, Nat.add_comm 1]

/-- A filter contains a token if it has bits, and if all bits that the token chooses are set. -/
theorem contains_iff :
    filter.contains hash token ↔ filter.width ≠ 0 ∧
      ∀ position ∈ filter.positions (hash token), filter.bits.testBit position := by
  rw [contains, Bool.and_eq_true, decide_eq_true_eq, allSet_iff, positions]
  simp

/-! ## Building from tokens -/

section Tokens

variable {width : Nat} {hashCount : UInt32} {tokens : List String}

theorem ofTokens_concat (hash : DoubleHash) (width : Nat) (hashCount : UInt32)
    (tokens : List String) (token : String) :
    ofTokens hash width hashCount (tokens ++ [token]) =
      (ofTokens hash width hashCount tokens).insert hash token := by
  rw [ofTokens, List.foldl_append]
  rfl

@[simp]
theorem width_ofTokens : (ofTokens hash width hashCount tokens).width = width := by
  induction tokens using List.reverseRecOn with
  | nil => rfl
  | append_singleton tokens token ih => rw [ofTokens_concat, width_insert, ih]

@[simp]
theorem hashCount_ofTokens : (ofTokens hash width hashCount tokens).hashCount = hashCount := by
  induction tokens using List.reverseRecOn with
  | nil => rfl
  | append_singleton tokens token ih => rw [ofTokens_concat, hashCount_insert, ih]

theorem positions_ofTokens (hashes : UInt64 × UInt64) :
    (ofTokens hash width hashCount tokens).positions hashes =
      (empty width hashCount).positions hashes :=
  @positions_congr _ (empty width hashCount) width_ofTokens hashCount_ofTokens hashes

/-- The bits of a filter that was built are those that some token chooses. -/
theorem testBit_ofTokens :
    (ofTokens hash width hashCount tokens).bits.testBit position ↔
      width ≠ 0 ∧ ∃ token ∈ tokens, position ∈ (empty width hashCount).positions (hash token) := by
  induction tokens using List.reverseRecOn with
  | nil => simp [ofTokens, empty]
  | append_singleton tokens token ih =>
      rw [ofTokens_concat, testBit_insert, ih, width_ofTokens, positions_ofTokens, ← and_or_left]
      simp [or_and_right, exists_or]

theorem withinWidth_ofTokens : (ofTokens hash width hashCount tokens).WithinWidth := by
  induction tokens using List.reverseRecOn with
  | nil => exact withinWidth_empty width hashCount
  | append_singleton tokens token ih =>
      rw [ofTokens_concat]
      exact ih.insert hash token

theorem occupancy_ofTokens_le :
    (ofTokens hash width hashCount tokens).occupancy ≤ hashCount.toNat * tokens.toFinset.card := by
  have chosen : (ofTokens hash width hashCount tokens).marks ⊆
      tokens.toFinset.biUnion fun token =>
        ((empty width hashCount).positions (hash token)).toFinset := by
    intro position marked
    rcases testBit_ofTokens.mp (withinWidth_ofTokens.mem_marks_iff.mp marked) with
      ⟨_, token, member, hit⟩
    exact Finset.mem_biUnion.mpr
      ⟨token, List.mem_toFinset.mpr member, List.mem_toFinset.mpr hit⟩
  have few (token : String) :
      ((empty width hashCount).positions (hash token)).toFinset.card ≤ hashCount.toNat := by
    apply (List.toFinset_card_le _).trans_eq
    rw [positions, List.length_map, List.length_range]
    rfl
  rw [occupancy_eq_card, Nat.mul_comm]
  exact (Finset.card_le_card chosen).trans
    (Finset.card_biUnion_le_card_mul _ _ _ fun token _ => few token)

/-- What the filters of one shape tell of the tokens that they were built from. -/
structure GathersTokens (hash : DoubleHash) (width : Nat) (hashCount : UInt32) : Prop where
  /-- The set bits for two lists together are those for one of them or for the other one. -/
  union : ∀ first second position,
    (ofTokens hash width hashCount (first ++ second)).bits.testBit position =
      ((ofTokens hash width hashCount first).bits.testBit position ||
        (ofTokens hash width hashCount second).bits.testBit position)
  /-- Neither the order of the tokens nor repetitions matter. -/
  unordered : ∀ first second, (∀ token, token ∈ first ↔ token ∈ second) →
    ofTokens hash width hashCount first = ofTokens hash width hashCount second
  includes : ∀ more fewer, fewer ⊆ more →
    (ofTokens hash width hashCount more).includes (ofTokens hash width hashCount fewer)
  contains : 0 < width → ∀ tokens, ∀ token ∈ tokens,
    (ofTokens hash width hashCount tokens).contains hash token
  occupancy_le_width : ∀ tokens, (ofTokens hash width hashCount tokens).occupancy ≤ width
  /-- Each token has at most as many bits as it is hashed. -/
  occupancy_le : ∀ tokens, (ofTokens hash width hashCount tokens).occupancy ≤
    hashCount.toNat * tokens.toFinset.card

/-- Building a filter is a homomorphism from sets of tokens to sets of bits. -/
theorem ofTokens_gathersTokens (hash : DoubleHash) (width : Nat) (hashCount : UInt32) :
    GathersTokens hash width hashCount where
  union := by
    intro first second position
    rw [Bool.eq_iff_iff, Bool.or_eq_true, testBit_ofTokens, testBit_ofTokens, testBit_ofTokens,
      ← and_or_left]
    simp [or_and_right, exists_or]
  unordered := by
    intro first second same
    apply eq_of_testBit_eq (by simp) (by simp)
    intro position
    rw [Bool.eq_iff_iff, testBit_ofTokens, testBit_ofTokens]
    simp only [same]
  includes := by
    intro more fewer part
    refine includes_iff.mpr ⟨by simp, by simp, ?_⟩
    intro position set
    rcases testBit_ofTokens.mp set with ⟨positive, token, member, hit⟩
    exact testBit_ofTokens.mpr ⟨positive, token, part member, hit⟩
  contains := by
    intro positive tokens token member
    rw [contains_iff, width_ofTokens, positions_ofTokens]
    refine ⟨positive.ne', fun position hit => ?_⟩
    exact testBit_ofTokens.mpr ⟨positive.ne', token, member, hit⟩
  occupancy_le_width := by
    intro tokens
    have bound := (ofTokens hash width hashCount tokens).occupancy_le_width
    rwa [width_ofTokens] at bound
  occupancy_le := fun _ => occupancy_ofTokens_le

/-- All rounds of both tokens may choose the same bit. -/
example : (ofTokens (fun _ => (1, 4)) 4 3 ["a", "b"]).bits = 2 := by
  decide +kernel

end Tokens

end BloomFilter

end Resemblance
