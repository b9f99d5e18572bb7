import Resemblance.Feature.WindowHashes
import Resemblance.Proofs.Feature.BloomFilter

/-!
# How large features get

Neither a set of hashes nor the bits of a Bloom filter outnumber the machine words, whatever the
tokens and the settings that they were built from. Sorting a list of hashes and dropping repeats
leaves a strictly increasing list. And a position in a filter is what remains of a machine word, so
tokens set no bits beyond these, even in a wider filter.
-/

namespace Resemblance

theorem length_le_of_forall_lt {numbers : List Nat} {bound : Nat} (distinct : numbers.Nodup)
    (below : ∀ number ∈ numbers, number < bound) : numbers.length ≤ bound := by
  have within : numbers ⊆ List.range bound := fun number member =>
    List.mem_range.mpr (below number member)
  rw [← @List.length_range bound]
  exact (distinct.subperm within).length_le

namespace HashSet

/-! ## Sets of hashes -/

theorem mem_of_mem_dropRepeats {hash : UInt64} {hashes : List UInt64}
    (member : hash ∈ dropRepeats hashes) : hash ∈ hashes := by
  induction hashes using dropRepeats.induct with
  | case1 first rest ih =>
      rw [dropRepeats, if_pos rfl] at member
      exact List.mem_cons_of_mem first (ih member)
  | case2 first second rest different ih =>
      rw [dropRepeats, if_neg different, List.mem_cons] at member
      rcases member with rfl | later
      · exact List.mem_cons_self
      · exact List.mem_cons_of_mem first (ih later)
  | case3 short notLong =>
      rwa [dropRepeats] at member
      exact notLong

theorem pairwise_dropRepeats {hashes : List UInt64} (ordered : hashes.Pairwise (· ≤ ·)) :
    (dropRepeats hashes).Pairwise (· < ·) := by
  induction hashes using dropRepeats.induct with
  | case1 first rest ih =>
      rw [dropRepeats, if_pos rfl]
      exact ih ordered.tail
  | case2 first second rest different ih =>
      rw [dropRepeats, if_neg different]
      rcases List.pairwise_cons.mp ordered with ⟨first_le, later⟩
      refine List.pairwise_cons.mpr ⟨?_, ih later⟩
      intro hash member
      have second_le : second ≤ hash := by
        rcases List.mem_cons.mp (mem_of_mem_dropRepeats member) with rfl | beyond
        · exact UInt64.le_refl hash
        · exact (List.pairwise_cons.mp later).1 hash beyond
      exact UInt64.lt_of_lt_of_le
        (UInt64.lt_of_le_of_ne (first_le second List.mem_cons_self) different) second_le
  | case3 short notLong =>
      match short with
      | [] => exact .nil
      | [hash] => exact List.pairwise_singleton _ hash
      | first :: second :: rest => exact absurd rfl (notLong first second rest)

theorem increasing_ofList (hashes : List UInt64) : (ofList hashes).Increasing := by
  apply pairwise_dropRepeats
  have ordered := @List.pairwise_mergeSort UInt64 (fun left right => decide (left ≤ right))
    (fun first second third left right =>
      decide_eq_true (UInt64.le_trans (of_decide_eq_true left) (of_decide_eq_true right)))
    (fun first second => by simpa using UInt64.le_total first second) hashes
  exact ordered.imp of_decide_eq_true

theorem Increasing.size_le {set : HashSet} (increasing : set.Increasing) :
    set.size ≤ UInt64.size := by
  have distinct : (set.hashes.map UInt64.toNat).Nodup := by
    rw [List.Nodup, List.pairwise_map]
    exact increasing.imp fun less => Nat.ne_of_lt (UInt64.lt_iff_toNat_lt.mp less)
  have bound : (set.hashes.map UInt64.toNat).length ≤ UInt64.size := by
    apply length_le_of_forall_lt distinct
    intro number member
    rcases List.mem_map.mp member with ⟨hash, _, rfl⟩
    exact hash.toNat_lt
  rwa [List.length_map] at bound

end HashSet

theorem increasing_windowHashes (hash : String → UInt64) (tokens : List String) (window : Nat) :
    (windowHashes hash tokens window).Increasing := by
  rw [windowHashes]
  split
  · exact .nil
  · exact HashSet.increasing_ofList _

namespace BloomFilter

/-! ## Bloom filters -/

/-- Only bits that a machine word can choose are set. -/
def IsReachable (filter : BloomFilter) : Prop :=
  ∀ position, filter.bits.testBit position → position < UInt64.size

theorem position_lt (filter : BloomFilter) (hashes : UInt64 × UInt64) (round : Nat) :
    filter.position hashes round < UInt64.size :=
  Nat.lt_of_le_of_lt (Nat.mod_le _ _) (UInt64.toNat_lt _)

theorem isReachable_empty (width : Nat) (hashCount : UInt32) :
    (empty width hashCount).IsReachable := by
  intro position set
  rw [empty, Nat.zero_testBit] at set
  cases set

theorem IsReachable.insert {filter : BloomFilter} (reachable : filter.IsReachable)
    (hash : DoubleHash) (token : String) : (filter.insert hash token).IsReachable := by
  intro position set
  rcases testBit_insert.mp set with old | ⟨_, chosen⟩
  · exact reachable position old
  · rcases List.mem_map.mp chosen with ⟨round, _, rfl⟩
    exact position_lt filter (hash token) round

theorem isReachable_ofTokens (hash : DoubleHash) (width : Nat) (hashCount : UInt32)
    (tokens : List String) : (ofTokens hash width hashCount tokens).IsReachable := by
  induction tokens using List.reverseRecOn with
  | nil => exact isReachable_empty width hashCount
  | append_singleton tokens token ih =>
      rw [ofTokens_concat]
      exact ih.insert hash token

theorem IsReachable.occupancy_le {filter : BloomFilter} (reachable : filter.IsReachable) :
    filter.occupancy ≤ UInt64.size := by
  rw [occupancy, List.countP_eq_length_filter]
  apply length_le_of_forall_lt (List.nodup_range.filter _)
  intro position member
  exact reachable position (List.mem_filter.mp member).2

end BloomFilter

end Resemblance
