import Mathlib.Data.List.Perm.Basic
import Mathlib.Data.Prod.Lex
import Mathlib.Data.String.Basic
import Mathlib.Order.Lex
import Resemblance.Matching.Detector
import Resemblance.Proofs.Matching.Renumbering
import Resemblance.Proofs.Matching.SelfSimilarity
import Resemblance.Proofs.Number.Rank

/-!
# The order of detected libraries

A report lists the libraries with a sufficient score, the greatest first, and by name among equal
scores. Scores and names are compared in a linear order, `Detection.place`, so the scores and names
of a report do not depend on the order of the libraries. Libraries of one name and score may change
places, for the report tells nothing else about them.
-/

namespace Resemblance

namespace Detection

/-- What a detection is ranked by. -/
def key (detection : Detection) : Float × String :=
  (detection.score, detection.library)

/-- The detection has a greater score than another one, or the same score and an earlier name. -/
def RanksAbove (left right : Detection) : Prop :=
  (Binary64.ofFloat right.score).rank < (Binary64.ofFloat left.score).rank ∨
    left.score = right.score ∧ left.library < right.library

/-- The place of a score and a name, in the order of a report. -/
def place (key : Float × String) : Intᵒᵈ ×ₗ String :=
  toLex (OrderDual.toDual (Binary64.ofFloat key.1).rank, key.2)

theorem ofFloat_injective : Function.Injective Binary64.ofFloat := by
  rintro ⟨⟨leftBits, _⟩⟩ ⟨⟨rightBits, _⟩⟩ same
  have bitsEq : leftBits = rightBits := congrArg Binary64.bits same
  subst bitsEq
  rfl

theorem place_injective : Function.Injective place := by
  rintro ⟨leftScore, leftName⟩ ⟨rightScore, rightName⟩ same
  have pairEq := toLex_inj.mp same
  rw [Prod.mk.injEq, OrderDual.toDual_inj] at pairEq
  rcases pairEq with ⟨rankEq, nameEq⟩
  have scoreEq := ofFloat_injective (Binary64.rank_injective rankEq)
  exact congrArg₂ Prod.mk scoreEq nameEq

theorem precedes_iff {left right : Detection} :
    left.precedes right = true ↔ place left.key ≤ place right.key := by
  rw [precedes, decide_eq_true_iff, place, place, Prod.Lex.toLex_le_toLex]
  simp only [OrderDual.toDual_lt_toDual, OrderDual.toDual_inj, key]

theorem ranksAbove_iff {left right : Detection} :
    left.RanksAbove right ↔ place left.key < place right.key := by
  have sameScore : left.score = right.score ↔
      (Binary64.ofFloat left.score).rank = (Binary64.ofFloat right.score).rank :=
    (Binary64.rank_injective.comp ofFloat_injective).eq_iff.symm
  rw [RanksAbove, place, place, Prod.Lex.toLex_lt_toLex, sameScore]
  simp only [OrderDual.toDual_lt_toDual, OrderDual.toDual_inj, key]

/-- Among numbers, a greater score comes first. -/
theorem score_le_of_not_ranksAbove {left right : Detection} (leftNumber : left.score.isNaN = false)
    (rightNumber : right.score.isNaN = false) (notAbove : ¬right.RanksAbove left) :
    right.score ≤ left.score := by
  apply Score.le_of_not_lt rightNumber leftNumber
  intro less
  exact notAbove (.inl (Score.rank_lt_rank less))

/-! ## Sorting -/

variable {found others : List Detection}

theorem pairwise_mergeSort (found : List Detection) :
    (found.mergeSort precedes).Pairwise fun earlier later =>
      place earlier.key ≤ place later.key := by
  have sorted : (found.mergeSort precedes).Pairwise fun earlier later =>
      earlier.precedes later = true := by
    apply List.pairwise_mergeSort
    · intro first second third before after
      exact precedes_iff.mpr ((precedes_iff.mp before).trans (precedes_iff.mp after))
    · intro left right
      rw [Bool.or_eq_true, precedes_iff, precedes_iff]
      exact le_total _ _
  exact sorted.imp precedes_iff.mp

/-- Sorting puts the same scores and names in the same order. -/
theorem keys_mergeSort_eq (same : found.Perm others) :
    (found.mergeSort precedes).map key = (others.mergeSort precedes).map key := by
  have sorted (found : List Detection) :
      ((found.mergeSort precedes).map key).Pairwise fun earlier later =>
        place earlier ≤ place later :=
    List.pairwise_map.mpr (pairwise_mergeSort found)
  have permuted := (List.mergeSort_perm found precedes).trans
    (same.trans (List.mergeSort_perm others precedes).symm)
  apply List.Perm.eq_of_pairwise _ (sorted found) (sorted others) (permuted.map key)
  intro left right _ _ before after
  exact place_injective (le_antisymm before after)

/-! ## Reports -/

/-- The detections whose score reaches the least score. -/
def sufficient (settings : DetectionSettings) (scored : List Detection) : List Detection :=
  scored.filter fun detection => settings.minScore.toFloat ≤ detection.score

/-- What a report with a least score and a greatest length tells of the libraries. -/
structure IsRanking (settings : DetectionSettings) (scored reported leftOut : List Detection) :
    Prop where
  /-- All detections with the least score or more are reported or left out, and no others. -/
  selected : (reported ++ leftOut).Perm (sufficient settings scored)
  sorted : reported.Pairwise fun earlier later => ¬later.RanksAbove earlier
  descending : reported.Pairwise fun earlier later => later.score ≤ earlier.score
  best : ∀ kept ∈ reported, ∀ dropped ∈ leftOut, ¬dropped.RanksAbove kept
  unlimited : settings.maxResults = 0 → leftOut = []
  limited : 0 < settings.maxResults →
    reported.length = min settings.maxResults (reported ++ leftOut).length

/-- A limit of zero leaves nothing out, any other limit what is beyond it. -/
theorem exists_truncate_append_eq (limit : Nat) (sorted : List Detection) :
    ∃ leftOut, Detector.truncate limit sorted ++ leftOut = sorted ∧
      (limit = 0 → leftOut = []) ∧
      (0 < limit → (Detector.truncate limit sorted).length = min limit sorted.length) := by
  rw [Detector.truncate]
  split
  · rename_i unlimited
    exact ⟨[], List.append_nil _, fun _ => rfl, fun limited => absurd unlimited limited.ne'⟩
  · rename_i limited
    exact ⟨sorted.drop limit, List.take_append_drop _ _, fun none => absurd none limited,
      fun _ => List.length_take⟩

/-- What is sorted and cut off is a ranking. -/
theorem exists_isRanking (settings : DetectionSettings) (scored : List Detection) :
    ∃ leftOut, IsRanking settings scored
      (Detector.truncate settings.maxResults ((sufficient settings scored).mergeSort precedes))
      leftOut := by
  have permuted := List.mergeSort_perm (sufficient settings scored) precedes
  have inOrder := pairwise_mergeSort (sufficient settings scored)
  rcases exists_truncate_append_eq settings.maxResults
    ((sufficient settings scored).mergeSort precedes) with ⟨leftOut, whole, unlimited, limited⟩
  rw [← whole] at permuted inOrder
  rcases List.pairwise_append.mp inOrder with ⟨reportedInOrder, _, ahead⟩
  have isNumber {detection : Detection} (member : detection ∈ Detector.truncate settings.maxResults
      ((sufficient settings scored).mergeSort precedes)) : detection.score.isNaN = false := by
    have reaches := List.of_mem_filter
      (permuted.mem_iff.mp (List.mem_append_left leftOut member))
    exact (Score.isNaN_of_le (of_decide_eq_true reaches)).2
  refine ⟨leftOut, permuted, ?_, ?_, ?_, unlimited, ?_⟩
  · exact reportedInOrder.imp fun before => ranksAbove_iff.not.mpr before.not_gt
  · apply reportedInOrder.imp_of_mem
    intro earlier later earlierMember laterMember before
    exact score_le_of_not_ranksAbove (isNumber earlierMember) (isNumber laterMember)
      (ranksAbove_iff.not.mpr before.not_gt)
  · intro kept keptMember dropped droppedMember
    exact ranksAbove_iff.not.mpr (ahead kept keptMember dropped droppedMember).not_gt
  · rw [whole]
    exact limited

/-- Cutting off does not distinguish detections of one score and name. -/
theorem map_key_truncate (limit : Nat) (detections : List Detection) :
    (Detector.truncate limit detections).map key =
      if limit = 0 then detections.map key else (detections.map key).take limit := by
  rw [Detector.truncate]
  split
  · rfl
  · exact List.map_take

end Detection

namespace Detector

variable {detector : Detector} {application : Profile}

theorem detect_eq {scored : List Detection}
    (success : detector.libraries.mapM (Detection.ofProfiles detector.config application) =
      .ok scored) :
    detector.detect application =
      .ok (truncate detector.config.detection.maxResults
        ((Detection.sufficient detector.config.detection scored).mergeSort Detection.precedes)) := by
  rw [detect, success]
  rfl

/--
If all libraries can be compared, a detection reports exactly the best libraries with a sufficient
score, as many as it may, in order. For the libraries in another order, it reports the same scores
and names.
-/
theorem detect_isRanking (detector : Detector) (application : Profile)
    (compared : ∀ library ∈ detector.libraries, ∃ comparison,
      Comparison.ofProfiles detector.config library application = .ok comparison) :
    ∃ scored reported leftOut,
      List.Forall₂
        (fun library detection =>
          Detection.ofProfiles detector.config application library = .ok detection)
        detector.libraries scored ∧
      detector.detect application = .ok reported ∧
      Detection.IsRanking detector.config.detection scored reported leftOut ∧
      ∀ libraries, libraries.Perm detector.libraries → ∃ others,
        ({ detector with libraries } : Detector).detect application = .ok others ∧
          others.map Detection.key = reported.map Detection.key := by
  have each : ∀ library ∈ detector.libraries, ∃ detection,
      Detection.ofProfiles detector.config application library = .ok detection ∧ True := by
    intro library member
    rcases compared library member with ⟨comparison, success⟩
    rw [Detection.ofProfiles, success]
    exact ⟨_, rfl, trivial⟩
  rcases exists_mapM_eq_ok each with ⟨scored, success, _⟩
  have related := mapM_eq_ok_iff.mp success
  rcases Detection.exists_isRanking detector.config.detection scored with ⟨leftOut, isRanking⟩
  refine ⟨scored, _, leftOut, related, detect_eq success, isRanking, ?_⟩
  intro libraries permuted
  rcases List.perm_comp_forall₂ permuted related with ⟨others, othersRelated, sameDetections⟩
  have othersDetected := @detect_eq { detector with libraries } application others
    (mapM_eq_ok_iff.mpr othersRelated)
  have sameKeys := Detection.keys_mergeSort_eq
    (sameDetections.filter fun detection =>
      detector.config.detection.minScore.toFloat ≤ detection.score)
  refine ⟨_, othersDetected, ?_⟩
  rw [Detection.map_key_truncate, Detection.map_key_truncate]
  rw [Detection.sufficient, sameKeys, Detection.sufficient]

/-- Two libraries of one name with the same fields as an application, and one with another field. -/
def tiedLibraries : Detector where
  config := { Config.standard with detection := ⟨.ofFloat 0.3, 1, "sift"⟩ }
  libraries :=
    [vectorProfile false "1" ["J"] [vectorElement 0 [5]],
      vectorProfile false "1" ["J"] [vectorElement 0 [9]],
      vectorProfile false "2" ["J"] [vectorElement 0 [5]]]

/-- One of the two equal libraries is reported, and the other one is left out. -/
theorem detect_isRanking_tied :
    ∃ scored reported leftOut, tiedLibraries.detect fieldsInUse = .ok reported ∧
      Detection.IsRanking tiedLibraries.config.detection scored reported leftOut ∧
      reported.length = 1 ∧ leftOut.length = 1 := by
  have evaluated : (match tiedLibraries.libraries.mapM
        (Detection.ofProfiles tiedLibraries.config fieldsInUse) with
      | .error _ => false
      | .ok scored =>
          (Detection.sufficient tiedLibraries.config.detection scored).length == 2) = true := by
    decide +kernel
  cases success : tiedLibraries.libraries.mapM
      (Detection.ofProfiles tiedLibraries.config fieldsInUse) with
  | error failure => simp [success] at evaluated
  | ok known =>
      simp only [success, beq_iff_eq] at evaluated
      have compared : ∀ library ∈ tiedLibraries.libraries, ∃ comparison,
          Comparison.ofProfiles tiedLibraries.config library fieldsInUse = .ok comparison := by
        intro library member
        rcases exists_mapM_eq_ok_iff.mp ⟨_, success⟩ library member with ⟨detection, detected⟩
        rcases except_bind_eq_ok.mp detected with ⟨comparison, comparedEq, _⟩
        exact ⟨comparison, comparedEq⟩
      rcases detect_isRanking tiedLibraries fieldsInUse compared with
        ⟨scored, reported, leftOut, related, detected, isRanking, _⟩
      rw [mapM_eq_ok_iff.mpr related, Except.ok.injEq] at success
      subst success
      have found := isRanking.selected.length_eq.trans evaluated
      have atMostOne := isRanking.limited (by decide)
      rw [found] at atMostOne
      rw [List.length_append] at found
      refine ⟨scored, reported, leftOut, detected, isRanking, atMostOne, ?_⟩
      have one : min tiedLibraries.config.detection.maxResults 2 = 1 := rfl
      omega

end Detector

end Resemblance
