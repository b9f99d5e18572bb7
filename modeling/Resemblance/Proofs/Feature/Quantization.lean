import Mathlib
import Resemblance.Proofs.Feature.Codes

/-!
# Quantization by quartiles

The code of a bucket in a digest says between which quartiles of all counts the count of the bucket
lies. A quartile is an entry of the sorted counts, so that it is at most a bound if and only if more
counts than its index are. From this follow the shares of the codes, and also which token streams
have a digest: the third quartile is positive if at least a quarter of the buckets and one more were
hit. Every window of three tokens hits three times, which gives the sum of all counts. None of this
depends on the hashes.
-/

namespace Resemblance

namespace Digest

variable {counts : List Nat} {mixed : List UInt64} {bounds : Quartiles} {bucket bound : Nat}

/-! ## Order statistics -/

/-- The entries of a sorted list that are at most a bound come first. -/
theorem getD_le_iff_of_pairwise {sorted : List Nat} (increasing : sorted.Pairwise (· ≤ ·))
    {index : Nat} (within : index < sorted.length) :
    sorted.getD index 0 ≤ bound ↔ index < sorted.countP (· ≤ bound) := by
  induction sorted generalizing index with
  | nil => cases within
  | cons least others ih =>
      rcases List.pairwise_cons.mp increasing with ⟨below, increasing⟩
      by_cases small : least ≤ bound
      · rw [List.countP_cons_of_pos (by simpa using small)]
        cases index with
        | zero => simpa using small
        | succ index =>
            rw [List.getD_cons_succ, ih increasing (Nat.lt_of_succ_lt_succ within),
              Nat.add_lt_add_iff_right]
      · -- No entry is small enough, as they all are at least the first one.
        have large (entry : Nat) (member : entry ∈ least :: others) : ¬entry ≤ bound := by
          rcases List.mem_cons.mp member with rfl | later
          · exact small
          · have := below entry later
            omega
        have none : (least :: others).countP (· ≤ bound) = 0 := by
          rw [List.countP_eq_zero]
          simpa using large
        rw [none, List.getD_eq_getElem _ _ within]
        exact iff_of_false (large _ (List.getElem_mem within)) (Nat.not_lt_zero _)

theorem pairwise_mergeSort_le (counts : List Nat) : counts.mergeSort.Pairwise (· ≤ ·) := by
  have ordered := @List.pairwise_mergeSort Nat (fun first second => decide (first ≤ second))
    (by simpa using fun _ _ _ => Nat.le_trans) (by simpa using Nat.le_total) counts
  simpa using ordered

/-- An order statistic is at most a bound if enough entries are. -/
theorem getD_mergeSort_le_iff {index : Nat} (within : index < counts.length) :
    counts.mergeSort.getD index 0 ≤ bound ↔ index < counts.countP (· ≤ bound) := by
  rw [getD_le_iff_of_pairwise (pairwise_mergeSort_le counts) (by simpa using within),
    (List.mergeSort_perm counts _).countP_eq]

/-! ## Codes by the quartiles -/

theorem quantize_lt (bounds : Quartiles) (count : Nat) : quantize bounds count < 4 := by
  unfold quantize
  split_ifs <;> simp

theorem quantize_mono {fewer more : Nat} (le : fewer ≤ more) :
    quantize bounds fewer ≤ quantize bounds more := by
  unfold quantize
  split_ifs <;> omega

theorem quantize_eq_zero_of_le (bounds : Quartiles) {count : Nat} (le : count ≤ bounds.first) :
    quantize bounds count = 0 :=
  if_pos le

theorem quantize_le_one_of_le (bounds : Quartiles) {count : Nat} (le : count ≤ bounds.second) :
    quantize bounds count ≤ 1 := by
  unfold quantize
  split_ifs <;> simp_all

theorem quantize_le_two_of_le (bounds : Quartiles) {count : Nat} (le : count ≤ bounds.third) :
    quantize bounds count ≤ 2 := by
  unfold quantize
  split_ifs <;> simp_all

/-! ## Counts of the buckets -/

/-- The number of mixed hashes in a bucket. -/
def countIn (mixed : List UInt64) (bucket : Nat) : Nat :=
  mixed.countP (·.toNat % bucketCount = bucket)

@[simp]
theorem length_bucketCounts (mixed : List UInt64) : (bucketCounts mixed).length = bucketCount := by
  simp [bucketCounts]

theorem getD_bucketCounts (bucket_lt : bucket < bucketCount) :
    (bucketCounts mixed).getD bucket 0 = countIn mixed bucket := by
  simp [bucketCounts, countIn, bucket_lt]

/-- Counting buckets by their counts is counting the counts. -/
theorem countP_bucketCounts (property : Nat → Prop) [DecidablePred property]
    (mixed : List UInt64) :
    (bucketCounts mixed).countP property =
      {bucket ∈ Finset.range bucketCount | property (countIn mixed bucket)}.card := by
  rw [bucketCounts, List.countP_map]
  exact Nat.count_eq_card_filter_range (fun bucket => property (countIn mixed bucket)) bucketCount

/-- Each window of three tokens gives three mixed hashes. -/
theorem length_mixedHashes (mix : List UInt64 → UInt64) (hashes : List UInt64) :
    (mixedHashes mix hashes).length = 3 * (hashes.length - 2) := by
  fun_induction mixedHashes mix hashes with
  | case1 first second third rest ih =>
      simp only [List.length_cons] at ih ⊢
      omega
  | case2 hashes short =>
      match hashes with
      | [] => simp
      | [_] => simp
      | [_, _] => simp
      | first :: second :: third :: rest => exact absurd rfl (short first second third rest)

/-- Each mixed hash falls into one bucket. -/
theorem sum_countIn (mixed : List UInt64) :
    ∑ bucket ∈ Finset.range bucketCount, countIn mixed bucket = mixed.length := by
  induction mixed with
  | nil => simp [countIn]
  | cons hash mixed ih =>
      have bucket_lt : hash.toNat % bucketCount < bucketCount := Nat.mod_lt _ (by decide)
      simp only [countIn, List.countP_cons] at ih ⊢
      simp [Finset.sum_add_distrib, ih, bucket_lt]

theorem countIn_pos_iff : 0 < countIn mixed bucket ↔
    ∃ hash ∈ mixed, hash.toNat % bucketCount = bucket := by
  simp [countIn, List.countP_pos_iff]

/-- At least so many buckets as the place of an order statistic says have no greater counts. -/
theorem lt_card_countIn_le {index : Nat} (index_lt : index < bucketCount) (mixed : List UInt64)
    (le : (bucketCounts mixed).mergeSort.getD index 0 ≤ bound) :
    index < {bucket ∈ Finset.range bucketCount | countIn mixed bucket ≤ bound}.card := by
  rw [getD_mergeSort_le_iff (by simpa using index_lt), countP_bucketCounts] at le
  simpa using le

/-- The third quartile is positive if more than a quarter of the buckets were hit. -/
theorem third_ne_zero_iff (mixed : List UInt64) :
    (quartiles (bucketCounts mixed)).third ≠ 0 ↔
      33 ≤ {bucket ∈ Finset.range bucketCount | 0 < countIn mixed bucket}.card := by
  have statistic : (quartiles (bucketCounts mixed)).third ≤ 0 ↔
      95 < (bucketCounts mixed).countP (· ≤ 0) :=
    getD_mergeSort_le_iff (by simp [bucketCount])
  have complement := (bucketCounts mixed).length_eq_countP_add_countP (· ≤ 0)
  have positive : (bucketCounts mixed).countP (fun count => ¬(decide (count ≤ 0)) = true) =
      {bucket ∈ Finset.range bucketCount | 0 < countIn mixed bucket}.card := by
    rw [← countP_bucketCounts (0 < ·)]
    apply List.countP_congr
    simp [Nat.pos_iff_ne_zero]
  rw [positive, length_bucketCounts] at complement
  simp only [bucketCount] at complement ⊢
  omega

/-! ## Digests -/

section Tokens

variable {hash : String → UInt64} {mix : List UInt64 → UInt64} {minTokens : Nat}
  {tokens : List String} {digest : Digest}

/-- The mixed hashes of a token stream. -/
def hits (hash : String → UInt64) (mix : List UInt64 → UInt64) (tokens : List String) :
    List UInt64 :=
  mixedHashes mix (tokens.map hash)

theorem ofTokens?_eq_some_iff :
    ofTokens? hash mix minTokens tokens = some digest ↔
      max 3 minTokens ≤ tokens.length ∧
        (quartiles (bucketCounts (hits hash mix tokens))).third ≠ 0 ∧
          ⟨lengthClassOf tokens.length, pack ((bucketCounts (hits hash mix tokens)).map
            (quantize (quartiles (bucketCounts (hits hash mix tokens)))))⟩ = digest := by
  rw [ofTokens?, max_comm]
  by_cases short : tokens.length < max 3 minTokens
  · simp only [if_pos short, Nat.not_le.mpr short, reduceCtorEq, false_and]
  · rw [if_neg short]
    by_cases empty : (quartiles (bucketCounts (hits hash mix tokens))).third = 0
    · simp only [hits] at empty ⊢
      simp [empty]
    · simp only [hits] at empty ⊢
      simp [empty, Nat.le_of_not_lt short]

/-- The codes of a digest say where the counts of the buckets lie among all counts. -/
structure RespectsQuartiles (mixed : List UInt64) (digest : Digest) : Prop where
  /-- The code that is unpacked for a bucket is the quantized count of the bucket. -/
  code_eq : ∀ bucket < bucketCount,
    digest.code bucket = quantize (quartiles (bucketCounts mixed)) (countIn mixed bucket)
  code_le : ∀ fewer < bucketCount, ∀ more < bucketCount,
    countIn mixed fewer ≤ countIn mixed more → digest.code fewer ≤ digest.code more
  quarter : 32 ≤ {bucket ∈ Finset.range bucketCount | digest.code bucket = 0}.card
  half : 64 ≤ {bucket ∈ Finset.range bucketCount | digest.code bucket ≤ 1}.card
  threeQuarters : 96 ≤ {bucket ∈ Finset.range bucketCount | digest.code bucket ≤ 2}.card

theorem code_of_ofTokens?_eq_some (found : ofTokens? hash mix minTokens tokens = some digest)
    (bucket_lt : bucket < bucketCount) :
    digest.code bucket = quantize (quartiles (bucketCounts (hits hash mix tokens)))
      (countIn (hits hash mix tokens) bucket) := by
  rcases ofTokens?_eq_some_iff.mp found with ⟨_, _, rfl⟩
  have bounded : ∀ code ∈ (bucketCounts (hits hash mix tokens)).map
      (quantize (quartiles (bucketCounts (hits hash mix tokens)))), code < 4 := by
    simp [quantize_lt]
  rw [code_pack bounded _ bucket_lt, List.getD_eq_getElem _ _ (by simpa using bucket_lt),
    List.getElem_map, ← getD_bucketCounts bucket_lt, List.getD_eq_getElem]

/-- A property of the codes of all counts up to an order statistic holds of enough buckets. -/
theorem lt_card_code (found : ofTokens? hash mix minTokens tokens = some digest)
    (property : Nat → Prop) [DecidablePred property] {index : Nat} (index_lt : index < bucketCount)
    (statistic : (bucketCounts (hits hash mix tokens)).mergeSort.getD index 0 ≤ bound)
    (small : ∀ count ≤ bound,
      property (quantize (quartiles (bucketCounts (hits hash mix tokens))) count)) :
    index < {bucket ∈ Finset.range bucketCount | property (digest.code bucket)}.card := by
  apply (lt_card_countIn_le index_lt _ statistic).trans_le
  apply Finset.card_le_card
  intro bucket member
  simp only [Finset.mem_filter, Finset.mem_range] at member ⊢
  refine ⟨member.1, ?_⟩
  rw [code_of_ofTokens?_eq_some found member.1]
  exact small _ member.2

theorem respectsQuartiles_of_ofTokens?_eq_some
    (found : ofTokens? hash mix minTokens tokens = some digest) :
    RespectsQuartiles (hits hash mix tokens) digest where
  code_eq := fun bucket bucket_lt => code_of_ofTokens?_eq_some found bucket_lt
  code_le := by
    intro fewer fewer_lt more more_lt le
    rw [code_of_ofTokens?_eq_some found fewer_lt, code_of_ofTokens?_eq_some found more_lt]
    exact quantize_mono le
  quarter := by
    apply lt_card_code found (· = 0) (by decide : 31 < bucketCount) le_rfl
    exact fun count => quantize_eq_zero_of_le (quartiles _)
  half := by
    apply lt_card_code found (· ≤ 1) (by decide : 63 < bucketCount) le_rfl
    exact fun count => quantize_le_one_of_le (quartiles _)
  threeQuarters := by
    apply lt_card_code found (· ≤ 2) (by decide : 95 < bucketCount) le_rfl
    exact fun count => quantize_le_two_of_le (quartiles _)

/--
Which token streams have a digest, how often they hit the buckets, and what the digest tells of the
counts.
-/
theorem ofTokens?_isQuantized (hash : String → UInt64) (mix : List UInt64 → UInt64)
    (minTokens : Nat) (tokens : List String) (short : tokens.length < 2 ^ 30) :
    ((ofTokens? hash mix minTokens tokens).isSome ↔
      max 3 minTokens ≤ tokens.length ∧
        33 ≤ {bucket ∈ Finset.range bucketCount |
          ∃ hit ∈ hits hash mix tokens, hit.toNat % bucketCount = bucket}.card) ∧
    (3 ≤ tokens.length →
      ∑ bucket ∈ Finset.range bucketCount, countIn (hits hash mix tokens) bucket =
        3 * (tokens.length - 2) ∧
      ∑ bucket ∈ Finset.range bucketCount, countIn (hits hash mix tokens) bucket < UInt32.size) ∧
    ∀ digest, ofTokens? hash mix minTokens tokens = some digest →
      RespectsQuartiles (hits hash mix tokens) digest := by
  have total : ∑ bucket ∈ Finset.range bucketCount, countIn (hits hash mix tokens) bucket =
      3 * (tokens.length - 2) := by
    simp [sum_countIn, hits, length_mixedHashes]
  refine ⟨?_, ?_, ?_⟩
  · simp only [Option.isSome_iff_exists, ofTokens?_eq_some_iff, third_ne_zero_iff, countIn_pos_iff,
      exists_and_left, exists_eq', and_true]
  · intro _
    refine ⟨total, ?_⟩
    rw [total]
    change _ < 2 ^ 32
    omega
  · intro digest found
    exact respectsQuartiles_of_ofTokens?_eq_some found

/-- The fewest tokens that can have a digest: all of their 33 hits are in different buckets. -/
def sampleTokens : List String :=
  ["op10", "op15", "op20", "op25", "op30", "op35", "op40", "op45", "op50", "op55", "op60", "op65",
    "op70"]

/-- Thirteen tokens can be enough for a digest, by the hashes that profiles use. -/
theorem ofTokens?_isQuantized_sampleTokens :
    sampleTokens.length < 2 ^ 30 ∧
      ∑ bucket ∈ Finset.range bucketCount, countIn (hits tokenHash mixHash sampleTokens) bucket =
        33 ∧
      ∃ digest, ofTokens? tokenHash mixHash 8 sampleTokens = some digest ∧
        RespectsQuartiles (hits tokenHash mixHash sampleTokens) digest := by
  have short : sampleTokens.length < 2 ^ 30 := by decide
  rcases ofTokens?_isQuantized tokenHash mixHash 8 sampleTokens short with
    ⟨present, total, codes⟩
  have hit : 33 ≤ {bucket ∈ Finset.range bucketCount |
      ∃ hit ∈ hits tokenHash mixHash sampleTokens, hit.toNat % bucketCount = bucket}.card := by
    decide +kernel
  rcases Option.isSome_iff_exists.mp (present.mpr ⟨by decide, hit⟩) with ⟨digest, found⟩
  exact ⟨short, (total (by decide)).1, digest, found, codes digest found⟩

end Tokens

end Digest

end Resemblance
