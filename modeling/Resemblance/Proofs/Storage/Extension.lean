import Resemblance.Storage.Path

/-!
# Extensions

A path with an extension set has the stem of its old name, a dot and the extension as its last name,
and that name has the extension. No name has a slash in it, so the names that a path is put together
from are found in it again.
-/

namespace Resemblance

namespace Path

variable {path name extension : String}

/-! ## Names between slashes -/

theorem slash_notMem_splitOn (characters : List Char) :
    ∀ piece ∈ characters.splitOn '/', '/' ∉ piece := by
  induction characters with
  | nil => simp
  | cons character characters ih =>
      rw [List.splitOn_cons_eq_if_modifyHead]
      split
      · intro piece member
        rcases List.mem_cons.mp member with rfl | rest
        · exact List.not_mem_nil
        · exact ih piece rest
      · rename_i notSlash
        cases pieces : characters.splitOn '/' with
        | nil => simp
        | cons first others =>
            rw [pieces] at ih
            intro piece member
            rcases List.mem_cons.mp member with rfl | rest
            · have firstFree := ih first List.mem_cons_self
              simp only [List.mem_cons, not_or]
              exact ⟨fun same => notSlash (beq_iff_eq.mpr same.symm), firstFree⟩
            · exact ih piece (List.mem_cons_of_mem first rest)

theorem slash_notMem_of_mem_parts (member : name ∈ parts path) : '/' ∉ name.toList := by
  rcases List.mem_map.mp member with ⟨piece, pieceMember, rfl⟩
  rw [String.toList_ofList]
  exact slash_notMem_splitOn _ piece pieceMember

theorem parts_intercalate {names : List String} (free : ∀ name ∈ names, '/' ∉ name.toList)
    (notEmpty : names ≠ []) : parts ("/".intercalate names) = names := by
  have pieces : ("/".intercalate names).toList.splitOn '/' = names.map String.toList := by
    rw [String.toList_intercalate]
    apply List.splitOn_intercalate
    · intro piece member
      rcases List.mem_map.mp member with ⟨name, nameMember, rfl⟩
      exact free name nameMember
    · simpa using notEmpty
  rw [parts, pieces, List.map_map]
  simp [Function.comp_def]

theorem parts_append_slash (front rest : String) :
    parts (front ++ "/" ++ rest) = parts front ++ parts rest := by
  have pieces : (front.toList ++ '/' :: rest.toList).splitOn '/' =
      front.toList.splitOn '/' ++ rest.toList.splitOn '/' :=
    List.splitOnP_append_cons _ _ (beq_self_eq_true '/')
  have characters : (front ++ "/" ++ rest).toList = front.toList ++ '/' :: rest.toList := by
    simp
  rw [parts, characters, pieces, List.map_append]
  rfl

/-! ## Stems and extensions -/

theorem stem_ne_empty (notEmpty : name ≠ "") : (splitName name).1 ≠ "" := by
  rw [splitName]
  split
  · exact notEmpty
  · rename_i before
    intro empty
    apply before
    simpa using congrArg String.toList empty

/-- What a stem consists of is part of the name. -/
theorem mem_of_mem_stem {character : Char} (member : character ∈ (splitName name).1.toList) :
    character ∈ name.toList := by
  rw [splitName] at member
  split at member
  · exact member
  · rw [String.toList_ofList, List.mem_reverse] at member
    exact List.mem_reverse.mp (List.mem_of_mem_drop member)

theorem splitName_append {stem : String} (notEmpty : stem ≠ "") (noDot : '.' ∉ extension.toList) :
    splitName (stem ++ "." ++ extension) = (stem, some extension) := by
  have characters : (stem ++ "." ++ extension).toList.reverse =
      extension.toList.reverse ++ '.' :: stem.toList.reverse := by
    simp
  have after : (extension.toList.reverse ++ '.' :: stem.toList.reverse).takeWhile (· ≠ '.') =
      extension.toList.reverse := by
    rw [List.takeWhile_append_of_pos]
    · simp
    · intro character member
      simp only [ne_eq, decide_not, Bool.not_eq_eq_eq_not, Bool.not_true, decide_eq_false_iff_not]
      rintro rfl
      exact noDot (List.mem_reverse.mp member)
  have before : (extension.toList.reverse ++ '.' :: stem.toList.reverse).drop
      (extension.toList.reverse.length + 1) = stem.toList.reverse := by
    simp [List.drop_append]
  have some_before : ¬stem.toList.reverse.isEmpty := by
    simpa using notEmpty
  rw [splitName, characters, after, before, if_neg some_before, List.reverse_reverse,
    List.reverse_reverse, String.ofList_toList, String.ofList_toList]

/-! ## Paths with an extension set -/

theorem getLast?_filter_notIdle (others : List String) (notIdle : ¬isIdle name) :
    ((others ++ [name]).filter fun part => !isIdle part).getLast? = some name := by
  have kept : [name].filter (fun part => !isIdle part) = [name] := by
    simp [notIdle]
  rw [List.filter_append, kept, List.getLast?_concat]

theorem fileName?_mem (found : fileName? path = some name) :
    name ∈ parts path ∧ ¬isIdle name := by
  rw [fileName?, Option.filter_eq_some_iff] at found
  have member := List.mem_filter.mp (List.mem_of_getLast? found.1)
  exact ⟨member.1, by simpa using member.2⟩

/-- The file of a path with an extension set has the same stem. -/
theorem fileName?_setExtension (found : fileName? path = some name)
    (noSlash : '/' ∉ extension.toList) (notEmpty : extension ≠ "") :
    fileName? (setExtension path extension) = some ((splitName name).1 ++ "." ++ extension) := by
  rcases fileName?_mem found with ⟨nameMember, notIdle⟩
  have nameNotEmpty : name ≠ "" := by
    rintro rfl
    exact notIdle (by decide)
  -- So long a name is not idle, and does not lead upwards.
  have long : 3 ≤ ((splitName name).1 ++ "." ++ extension).length := by
    have stemLong := mt String.length_eq_zero_iff.mp (stem_ne_empty nameNotEmpty)
    have extensionLong := mt String.length_eq_zero_iff.mp notEmpty
    have dot : ".".length = 1 := rfl
    rw [String.length_append, String.length_append, dot]
    omega
  have differs {short : String} (less : short.length < 3) :
      (splitName name).1 ++ "." ++ extension ≠ short := by
    rintro rfl
    omega
  have free : '/' ∉ ((splitName name).1 ++ "." ++ extension).toList := by
    have stemFree : '/' ∉ (splitName name).1.toList := fun member =>
      slash_notMem_of_mem_parts nameMember (mem_of_mem_stem member)
    simp [stemFree, noSlash]
  rw [setExtension, found]
  dsimp only
  rw [fileName?, names, parts_intercalate, getLast?_filter_notIdle]
  · rw [Option.filter_some, if_pos]
    simpa using differs (by decide : "..".length < 3)
  · rw [isIdle, decide_eq_true_eq, not_or]
    exact ⟨differs (by decide), differs (by decide)⟩
  · intro part member
    rcases List.mem_append.mp member with others | last
    · have original := (List.dropWhile_sublist _).subset
        (List.mem_of_mem_drop (List.mem_reverse.mp others))
      exact slash_notMem_of_mem_parts (List.mem_reverse.mp original)
    · rw [List.mem_singleton.mp last]
      exact free
  · simp

end Path

end Resemblance
