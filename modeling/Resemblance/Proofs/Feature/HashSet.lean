import Mathlib
import Resemblance.Proofs.Feature.Size
import Resemblance.Proofs.Value.TypedConstant

/-!
# Sets of hashes and what they share

A set of hashes is known by its members: it lists them in increasing order, whether it was built
from a list or read from a stream, and there is only one such list. Building a set from a list keeps
its members, so that neither their order nor repetitions in the list matter. The difference of each
member to the one before it is a number, which is what the stream holds.

The walk over two sets drops a member that is less than all members of the other set, or one from
each set if they are equal. So each step leaves fewer members, and what it counts is the size of the
intersection; this only holds of increasing lists.
-/

namespace Resemblance

namespace HashSet

/-! ## Members -/

theorem mem_dropRepeats_iff {hash : UInt64} {hashes : List UInt64} :
    hash ∈ dropRepeats hashes ↔ hash ∈ hashes := by
  induction hashes using dropRepeats.induct with
  | case1 first rest ih =>
      rw [dropRepeats, if_pos rfl, ih]
      simp
  | case2 first second rest different ih =>
      rw [dropRepeats, if_neg different, List.mem_cons, List.mem_cons, ih]
  | case3 short notLong =>
      rw [dropRepeats]
      exact notLong

/-- A set has the members of the list that it was built from. -/
@[simp]
theorem mem_ofList_iff {hash : UInt64} {hashes : List UInt64} :
    hash ∈ (ofList hashes).hashes ↔ hash ∈ hashes :=
  mem_dropRepeats_iff.trans List.mem_mergeSort

theorem Increasing.nodup {set : HashSet} (increasing : set.Increasing) : set.hashes.Nodup :=
  increasing.imp fun less => UInt64.ne_of_lt less

/-- Sets with the same members are equal. -/
theorem Increasing.eq_of_mem_iff {left right : HashSet} (leftIncreasing : left.Increasing)
    (rightIncreasing : right.Increasing)
    (same : ∀ hash, hash ∈ left.hashes ↔ hash ∈ right.hashes) : left = right := by
  have rearranged : left.hashes.Perm right.hashes :=
    (List.perm_ext_iff_of_nodup leftIncreasing.nodup rightIncreasing.nodup).mpr same
  have equal : left.hashes = right.hashes :=
    rearranged.eq_of_pairwise
      (fun _ _ _ _ less more => absurd (UInt64.lt_trans less more) (UInt64.lt_irrefl _))
      leftIncreasing rightIncreasing
  rcases left with ⟨hashes⟩
  exact congrArg HashSet.mk equal

theorem ofList_eq_ofList_iff {hashes others : List UInt64} :
    ofList hashes = ofList others ↔ ∀ hash, hash ∈ hashes ↔ hash ∈ others := by
  constructor
  · intro equal hash
    rw [← mem_ofList_iff, equal, mem_ofList_iff]
  · intro same
    apply (increasing_ofList hashes).eq_of_mem_iff (increasing_ofList others)
    simpa using same

/-! ## Sets as they come about -/

/-- The sets that a program can hold: those built from a list and those read from a stream. -/
inductive Obtained : HashSet → Prop where
  | ofList (hashes : List UInt64) : Obtained (ofList hashes)
  | read {types : TypeTable} {source after : Source} {set : HashSet}
      (success : Reader.payload types .hashes source = .ok (.hashes set) after) : Obtained set

theorem Obtained.increasing {set : HashSet} (obtained : set.Obtained) : set.Increasing := by
  cases obtained with
  | ofList hashes => exact increasing_ofList hashes
  | @read types source after _ success =>
      rcases (Reader.Regular.payload types .hashes).takes_of_ok success with ⟨_, takes, _⟩
      exact (Reader.of_payloadWith_takes (.typed types) (fun _ => trivial) takes).2.1

/-- No difference wraps: each member is at least the one before it. -/
theorem differences_eq_of_pairwise {previous : UInt64} {hashes : List UInt64}
    (ordered : (previous :: hashes).Pairwise (· ≤ ·)) :
    (differences previous hashes).map (fun difference => (difference.toNat : Int)) =
      hashes.zipWith (fun hash before => (hash.toNat : Int) - before.toNat)
        (previous :: hashes) := by
  induction hashes generalizing previous with
  | nil => rfl
  | cons hash hashes ih =>
      rcases List.pairwise_cons.mp ordered with ⟨previous_le, later⟩
      have notLess : previous ≤ hash := previous_le hash List.mem_cons_self
      have difference : (hash - previous).toNat = hash.toNat - previous.toNat :=
        UInt64.toNat_sub_of_le hash previous notLess
      have atMost : previous.toNat ≤ hash.toNat := UInt64.le_iff_toNat_le.mp notLess
      rw [differences, List.map_cons, List.zipWith_cons_cons, ih later, difference,
        Nat.cast_sub atMost]

theorem Increasing.differences_eq {set : HashSet} (increasing : set.Increasing) :
    (differences 0 set.hashes).map (fun difference => (difference.toNat : Int)) =
      set.hashes.zipWith (fun hash before => (hash.toNat : Int) - before.toNat)
        (0 :: set.hashes) := by
  apply differences_eq_of_pairwise
  refine List.pairwise_cons.mpr ⟨?_, increasing.imp UInt64.le_of_lt⟩
  intro hash _
  exact UInt64.le_iff_toNat_le.mpr (Nat.zero_le _)

/-! ## The walk over two sets -/

/-- A walk over two lists, with the number of its steps and of the members that it counts. -/
inductive Walk : (left right : List UInt64) → (steps shared : Nat) → Prop where
  | leftDone (right : List UInt64) : Walk [] right 0 0
  | rightDone (left : List UInt64) : Walk left [] 0 0
  | dropLeft {left right : UInt64} {lefts rights : List UInt64} {steps shared : Nat}
      (less : left < right) (rest : Walk lefts (right :: rights) steps shared) :
      Walk (left :: lefts) (right :: rights) (steps + 1) shared
  | dropRight {left right : UInt64} {lefts rights : List UInt64} {steps shared : Nat}
      (less : right < left) (rest : Walk (left :: lefts) rights steps shared) :
      Walk (left :: lefts) (right :: rights) (steps + 1) shared
  | dropBoth {hash : UInt64} {lefts rights : List UInt64} {steps shared : Nat}
      (rest : Walk lefts rights steps shared) :
      Walk (hash :: lefts) (hash :: rights) (steps + 1) (shared + 1)

/-- The walk ends, since each step drops a member, and a step that counts drops two. -/
theorem exists_walk (left right : List UInt64) :
    ∃ steps, Walk left right steps (countShared left right) ∧
      steps + countShared left right ≤ left.length + right.length := by
  induction left, right using countShared.induct with
  | case1 right => exact ⟨0, by rw [countShared]; exact .leftDone right, by simp [countShared]⟩
  | case2 left nonempty =>
      rw [countShared]
      · exact ⟨0, .rightDone left, Nat.zero_le _⟩
      · exact nonempty
  | case3 left lefts right rights less ih =>
      rcases ih with ⟨steps, rest, bounded⟩
      rw [countShared, if_pos less]
      refine ⟨steps + 1, .dropLeft less rest, ?_⟩
      simp only [List.length_cons] at bounded ⊢
      omega
  | case4 left lefts right rights notLess less ih =>
      rcases ih with ⟨steps, rest, bounded⟩
      rw [countShared, if_neg notLess, if_pos less]
      refine ⟨steps + 1, .dropRight less rest, ?_⟩
      simp only [List.length_cons] at bounded ⊢
      omega
  | case5 left lefts right rights notLess notMore ih =>
      rcases ih with ⟨steps, rest, bounded⟩
      have equal : left = right := UInt64.le_antisymm (UInt64.not_lt.mp notMore)
        (UInt64.not_lt.mp notLess)
      subst equal
      rw [countShared, if_neg notLess, if_neg notMore]
      refine ⟨steps + 1, .dropBoth rest, ?_⟩
      simp only [List.length_cons]
      omega

theorem notMem_of_lt_head {hash head : UInt64} {others : List UInt64}
    (increasing : (head :: others).Pairwise (· < ·)) (less : hash < head) :
    hash ∉ head :: others := by
  intro member
  rcases List.mem_cons.mp member with rfl | later
  · exact UInt64.lt_irrefl _ less
  · have more := (List.pairwise_cons.mp increasing).1 hash later
    exact UInt64.lt_irrefl _ (UInt64.lt_trans less more)

/-- What a walk over increasing lists counts is the size of their intersection. -/
theorem Walk.shared_eq {left right : List UInt64} {steps shared : Nat}
    (walk : Walk left right steps shared) (leftIncreasing : left.Pairwise (· < ·))
    (rightIncreasing : right.Pairwise (· < ·)) :
    shared = (left.toFinset ∩ right.toFinset).card := by
  induction walk with
  | leftDone right => simp
  | rightDone left => simp
  | @dropLeft left right lefts rights _ _ less rest ih =>
      have missing : left ∉ (right :: rights).toFinset :=
        mt List.mem_toFinset.mp (notMem_of_lt_head rightIncreasing less)
      rw [ih leftIncreasing.tail rightIncreasing, @List.toFinset_cons _ _ lefts left,
        Finset.insert_inter_of_notMem missing]
  | @dropRight left right lefts rights _ _ less rest ih =>
      have missing : right ∉ (left :: lefts).toFinset :=
        mt List.mem_toFinset.mp (notMem_of_lt_head leftIncreasing less)
      rw [ih leftIncreasing rightIncreasing.tail, @List.toFinset_cons _ _ rights right,
        Finset.inter_insert_of_notMem missing]
  | @dropBoth hash lefts rights _ _ rest ih =>
      have missing : hash ∉ lefts := fun member =>
        UInt64.lt_irrefl _ ((List.pairwise_cons.mp leftIncreasing).1 hash member)
      have notShared : hash ∉ lefts.toFinset ∩ rights.toFinset := fun member =>
        missing (List.mem_toFinset.mp (Finset.mem_inter.mp member).1)
      rw [ih leftIncreasing.tail rightIncreasing.tail, List.toFinset_cons, List.toFinset_cons,
        ← Finset.insert_inter_distrib, Finset.card_insert_of_notMem notShared]

section Shared

variable {left right : HashSet}

theorem sharedSize_eq_card (leftIncreasing : left.Increasing) (rightIncreasing : right.Increasing) :
    left.sharedSize right = (left.hashes.toFinset ∩ right.hashes.toFinset).card := by
  rcases exists_walk left.hashes right.hashes with ⟨_, walk, _⟩
  exact walk.shared_eq leftIncreasing rightIncreasing

theorem Increasing.size_eq_card (increasing : left.Increasing) :
    left.size = left.hashes.toFinset.card :=
  (List.toFinset_card_of_nodup increasing.nodup).symm

/-- What the walk over two sets finds out about them. -/
structure CountsShared (left right : HashSet) : Prop where
  /-- The walk has at most as many steps as both sets have members. -/
  ends : ∃ steps, Walk left.hashes right.hashes steps (left.sharedSize right) ∧
    steps ≤ left.size + right.size
  eq_card : left.sharedSize right = (left.hashes.toFinset ∩ right.hashes.toFinset).card
  symmetric : left.sharedSize right = right.sharedSize left
  le_left : left.sharedSize right ≤ left.size
  le_right : left.sharedSize right ≤ right.size
  /-- All members are shared just by a part of the other set. -/
  eq_size_iff : left.sharedSize right = left.size ↔ left.hashes ⊆ right.hashes

theorem Increasing.countsShared (leftIncreasing : left.Increasing)
    (rightIncreasing : right.Increasing) : left.CountsShared right where
  ends := by
    rcases exists_walk left.hashes right.hashes with ⟨steps, walk, bounded⟩
    exact ⟨steps, walk, (Nat.le_add_right _ _).trans bounded⟩
  eq_card := sharedSize_eq_card leftIncreasing rightIncreasing
  symmetric := by
    rw [sharedSize_eq_card leftIncreasing rightIncreasing,
      sharedSize_eq_card rightIncreasing leftIncreasing, Finset.inter_comm]
  le_left := by
    rw [sharedSize_eq_card leftIncreasing rightIncreasing, leftIncreasing.size_eq_card]
    exact Finset.card_le_card Finset.inter_subset_left
  le_right := by
    rw [sharedSize_eq_card leftIncreasing rightIncreasing, rightIncreasing.size_eq_card]
    exact Finset.card_le_card Finset.inter_subset_right
  eq_size_iff := by
    rw [sharedSize_eq_card leftIncreasing rightIncreasing, leftIncreasing.size_eq_card]
    have within : left.hashes.toFinset ∩ right.hashes.toFinset ⊆ left.hashes.toFinset :=
      Finset.inter_subset_left
    constructor
    · intro equal hash member
      have all := Finset.eq_of_subset_of_card_le within equal.ge
      rw [← List.mem_toFinset, ← all] at member
      exact List.mem_toFinset.mp (Finset.mem_inter.mp member).2
    · intro part
      rw [Finset.inter_eq_left.mpr]
      exact fun hash member => List.mem_toFinset.mpr (part (List.mem_toFinset.mp member))

end Shared

/--
Sets of hashes are in increasing order, however they come about, so that no difference that is
written wraps. A list gives a set by its members alone, and the walk over two sets counts the
members that they share.
-/
theorem obtained_isFaithful :
    (∀ set : HashSet, set.Obtained → set.Increasing ∧
      (differences 0 set.hashes).map (fun difference => (difference.toNat : Int)) =
        set.hashes.zipWith (fun hash before => (hash.toNat : Int) - before.toNat)
          (0 :: set.hashes)) ∧
    (∀ hashes others : List UInt64, (∀ hash, hash ∈ (ofList hashes).hashes ↔ hash ∈ hashes) ∧
      (ofList hashes = ofList others ↔ ∀ hash, hash ∈ hashes ↔ hash ∈ others)) ∧
    ∀ library application : HashSet, library.Obtained → application.Obtained →
      library.CountsShared application := by
  refine ⟨?_, ?_, ?_⟩
  · intro set obtained
    exact ⟨obtained.increasing, obtained.increasing.differences_eq⟩
  · intro hashes others
    exact ⟨fun _ => mem_ofList_iff, ofList_eq_ofList_iff⟩
  · intro library application libraryObtained applicationObtained
    exact libraryObtained.increasing.countsShared applicationObtained.increasing

/-- The payload of a set of three hashes, with differences up to the greatest hash. -/
def farSample : List UInt8 :=
  [3, 1, 2, 0xfc, 0xff, 0xff, 0xff, 0xff, 0xff, 0xff, 0xff, 0xff, 0x01]

/-- A set that was read and one that was built share two hashes, of which the list has one twice. -/
theorem obtained_isFaithful_farSample :
    Reader.payload .empty .hashes (.ofBytes farSample) =
        .ok (.hashes ⟨[1, 3, 0xFFFFFFFFFFFFFFFF]⟩) { rest := [], position := 13 } ∧
      ofList [5, 3, 0xFFFFFFFFFFFFFFFF, 3] = ⟨[3, 5, 0xFFFFFFFFFFFFFFFF]⟩ ∧
      CountsShared ⟨[1, 3, 0xFFFFFFFFFFFFFFFF]⟩ (ofList [5, 3, 0xFFFFFFFFFFFFFFFF, 3]) ∧
      sharedSize ⟨[1, 3, 0xFFFFFFFFFFFFFFFF]⟩ (ofList [5, 3, 0xFFFFFFFFFFFFFFFF, 3]) = 2 := by
  have read : Reader.payload .empty .hashes (.ofBytes farSample) =
      .ok (.hashes ⟨[1, 3, 0xFFFFFFFFFFFFFFFF]⟩) { rest := [], position := 13 } := by
    cbv
  have built : ofList [5, 3, 0xFFFFFFFFFFFFFFFF, 3] = ⟨[3, 5, 0xFFFFFFFFFFFFFFFF]⟩ := by
    cbv
  refine ⟨read, built, obtained_isFaithful.2.2 _ _ (.read read) (.ofList _), ?_⟩
  rw [built]
  cbv

end HashSet

end Resemblance
