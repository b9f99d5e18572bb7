import Mathlib
import Resemblance.Matching.Detector
import Resemblance.Proofs.Profile.Reading

/-!
# Loading a directory of libraries

The files of a directory whose names have the extension of profiles are loaded in the order of their
places, each into the profile that is supplied for it. The loading goes on up to the first file that
cannot be loaded, and what was loaded before it stays in the detector. So a detector has changed
also where the loading of a directory fails, unless the first of the files is to blame: loading is
not all or nothing.
-/

namespace Resemblance

/-! ## Files below a directory -/

theorem Path.precedes_iff {left right : List String} :
    precedes left right = true ↔ left ≤ right := by
  rw [le_iff_eq_or_lt]
  change _ ↔ left = right ∨ List.Lex (· < ·) left right
  induction left generalizing right with
  | nil => cases right <;> simp [precedes]
  | cons first left ih =>
      cases right with
      | nil => simp [precedes]
      | cons other right =>
          rw [precedes, List.cons_lex_cons_iff, List.cons.injEq]
          by_cases same : first = other
          · simp only [same, ih, lt_irrefl, if_true, true_and, false_or]
          · simp only [same, if_false, decide_eq_true_eq, false_and, false_or, or_false]

namespace FileTree

variable {tree : FileTree} {base : List String}

/-- The files below a directory whose names have an extension, at their places below it. -/
structure ListsFiles (tree : FileTree) (directory extension : String)
    (places : List (List String)) : Prop where
  /-- Each place occurs once, in the order of places. -/
  increasing : places.Pairwise (· < ·)
  mem_iff : ∀ place, place ∈ places ↔
    Path.extension? (Path.join directory place) = some extension ∧
      ∃ base bytes, tree.resolve? directory = some base ∧
        (base ++ place, FileNode.file bytes) ∈ tree.nodes

theorem filePlaceBelow?_eq_some_iff {entry : List String × FileNode} {place : List String} :
    filePlaceBelow? base entry = some place ↔
      ∃ bytes, entry = (base ++ place, FileNode.file bytes) := by
  rcases entry with ⟨whole, bytes | _⟩
  · simp only [filePlaceBelow?]
    constructor
    · intro found
      split at found
      · rename_i inside
        rcases List.isPrefixOf_iff_prefix.mp inside with ⟨rest, rfl⟩
        rw [List.drop_left, Option.some.injEq] at found
        exact ⟨bytes, by rw [found]⟩
      · cases found
    · rintro ⟨other, equal⟩
      rw [(Prod.mk.inj equal).1, if_pos (List.isPrefixOf_iff_prefix.mpr (List.prefix_append _ _)),
        List.drop_left]
  · simp [filePlaceBelow?]

theorem increasing_filesBelow (distinct : (tree.nodes.map (·.1)).Nodup) (base : List String) :
    ((tree.nodes.filterMap (filePlaceBelow? base)).mergeSort Path.precedes).Pairwise (· < ·) := by
  have once : (tree.nodes.filterMap (filePlaceBelow? base)).Nodup := by
    refine List.pairwise_filterMap.mpr ((List.pairwise_map.mp distinct).imp ?_)
    rintro entry other different place found _ otherFound rfl
    rcases filePlaceBelow?_eq_some_iff.mp found with ⟨bytes, rfl⟩
    rcases filePlaceBelow?_eq_some_iff.mp otherFound with ⟨otherBytes, rfl⟩
    exact different rfl
  have ordered : ((tree.nodes.filterMap (filePlaceBelow? base)).mergeSort
      Path.precedes).Pairwise (· ≤ ·) := by
    have transitive (first second third : List String) : Path.precedes first second = true →
        Path.precedes second third = true → Path.precedes first third = true := by
      simp only [Path.precedes_iff]
      exact le_trans
    have total (first second : List String) :
        (Path.precedes first second || Path.precedes second first) = true := by
      simp only [Bool.or_eq_true, Path.precedes_iff]
      exact le_total first second
    have sorted := List.pairwise_mergeSort transitive total
      (tree.nodes.filterMap (filePlaceBelow? base))
    exact sorted.imp fun {first second} => Path.precedes_iff.mp
  have onceSorted := (List.mergeSort_perm _ Path.precedes).nodup_iff.mpr once
  exact (List.pairwise_and_iff.mpr ⟨ordered, onceSorted⟩).imp fun both =>
    lt_of_le_of_ne both.1 both.2

theorem filesBelow?_eq (distinct : (tree.nodes.map (·.1)).Nodup) {directory : String}
    {found : FileNode} (present : tree.node? directory = some found) :
    ∃ places : List (List String),
      tree.filesBelow? directory = some (places.map (Path.join directory)) ∧
      places.Pairwise (· < ·) ∧ ∀ place, place ∈ places ↔
        ∃ base bytes, tree.resolve? directory = some base ∧
          (base ++ place, FileNode.file bytes) ∈ tree.nodes := by
  have node := present
  rw [node?, Option.bind_eq_some_iff] at node
  rcases node with ⟨base, resolved, _⟩
  have listed : tree.filesBelow? directory = some
      (((tree.nodes.filterMap (filePlaceBelow? base)).mergeSort Path.precedes).map
        (Path.join directory)) := by
    simp only [filesBelow?, resolved, present]
  refine ⟨_, listed, increasing_filesBelow distinct base, ?_⟩
  intro place
  rw [List.mem_mergeSort, List.mem_filterMap, resolved]
  simp only [filePlaceBelow?_eq_some_iff, Option.some.injEq, exists_and_left, exists_eq_left']
  constructor
  · rintro ⟨_, member, bytes, rfl⟩
    exact ⟨bytes, member⟩
  · rintro ⟨bytes, member⟩
    exact ⟨_, member, bytes, rfl⟩

end FileTree

namespace Detector

variable {detector : Detector} {tree : FileTree} {directory : String}

theorem profilePaths_eq (detector : Detector) (distinct : (tree.nodes.map (·.1)).Nodup)
    {found : FileNode} (present : tree.node? directory = some found) :
    ∃ places, tree.ListsFiles directory detector.config.detection.profileExtension places ∧
      detector.profilePaths directory tree = .ok (places.map (Path.join directory)) := by
  rcases FileTree.filesBelow?_eq distinct present with ⟨places, found, increasing, mem_iff⟩
  refine ⟨places.filter fun place => Path.extension? (Path.join directory place) ==
    some detector.config.detection.profileExtension, ⟨increasing.filter _, ?_⟩, ?_⟩
  · intro place
    rw [List.mem_filter, beq_iff_eq, mem_iff]
    exact and_comm
  · simp only [profilePaths, found, List.filter_map]
    rfl

theorem profilePaths_eq_error (detector : Detector) (missing : tree.node? directory = none) :
    detector.profilePaths directory tree = .error (.io (.walkDirectory directory) []) := by
  have nothing : tree.filesBelow? directory = none := by
    rw [FileTree.filesBelow?, missing]
    cases tree.resolve? directory <;> rfl
  simp only [profilePaths, nothing]

/-! ## One library -/

/-- The library is what a file holds, read into the profile that is supplied for it. -/
def HoldsLibrary (tree : FileTree) (path : String) (supplied : Except Failure Profile)
    (library : Profile) : Prop :=
  ∃ profile bytes loaded, supplied = .ok profile ∧ tree.read? path = some bytes ∧
    profile.readFrom (.ofBytes bytes) = .ok loaded ∧
    library = { loaded with source? := some path, isApplication := false }

theorem loadLibrary_eq_ok_iff {path : String} {supplied : Except Failure Profile}
    {library : Profile} :
    loadLibrary tree supplied path = .ok library ↔ HoldsLibrary tree path supplied library := by
  rw [loadLibrary, except_bind_eq_ok]
  simp only [except_bind_eq_ok, Profile.load_eq_ok_iff]
  constructor
  · rintro ⟨profile, rfl, _, ⟨bytes, filled, contents, read, rfl⟩, last⟩
    exact ⟨profile, bytes, filled, rfl, contents, read, (Except.ok.inj last).symm⟩
  · rintro ⟨profile, bytes, filled, rfl, contents, read, rfl⟩
    exact ⟨profile, rfl, _, ⟨bytes, filled, contents, read, rfl⟩, rfl⟩

/-! ## All libraries -/

/-- The libraries are those of the first files, each read into the profile supplied for it. -/
def HoldsFirst (tree : FileTree) (supply : Nat → Except Failure Profile) (paths : List String)
    (libraries : List Profile) : Prop :=
  ∀ index library, libraries[index]? = some library →
    ∃ path, paths[index]? = some path ∧ HoldsLibrary tree path (supply index) library

def addAll (detector : Detector) (libraries : List Profile) : Detector :=
  { detector with libraries := detector.libraries ++ libraries }

/-- A run adds libraries one by one, up to the end or to the first file that holds none. -/
theorem loadAll_outcome (supply : Nat → Except Failure Profile) (detector : Detector)
    (request : Nat) (paths : List String) :
    ∃ libraries, HoldsFirst tree (fun index => supply (request + index)) paths libraries ∧
      ((libraries.length = paths.length ∧
          loadAll tree supply detector request paths = (.ok (), detector.addAll libraries)) ∨
        ∃ path failure, paths[libraries.length]? = some path ∧
          loadLibrary tree (supply (request + libraries.length)) path = .error failure ∧
          loadAll tree supply detector request paths =
            (.error failure, detector.addAll libraries)) := by
  induction paths generalizing detector request with
  | nil => exact ⟨[], by simp [HoldsFirst], .inl ⟨rfl, by simp [loadAll, addAll]⟩⟩
  | cons path paths ih =>
      cases loaded : loadLibrary tree (supply request) path with
      | error failure =>
          refine ⟨[], by simp [HoldsFirst], .inr ⟨path, failure, rfl, loaded, ?_⟩⟩
          simp [loadAll, loaded, addAll]
      | ok library =>
          rcases ih (detector.add library) (request + 1) with ⟨libraries, holds, outcome⟩
          have numbered (index : Nat) : request + 1 + index = request + (index + 1) := by omega
          have added : (detector.add library).addAll libraries =
              detector.addAll (library :: libraries) := by
            simp [add, addAll]
          refine ⟨library :: libraries, ?_, ?_⟩
          · rintro (_ | index) other found
            · rw [List.getElem?_cons_zero, Option.some.injEq] at found
              exact ⟨path, rfl, by rwa [← found, ← loadLibrary_eq_ok_iff]⟩
            · have later := holds index other found
              simpa only [numbered, List.getElem?_cons_succ] using later
          · rw [added] at outcome
            simp only [numbered] at outcome
            simpa [loadAll, loaded] using outcome

/-- Whatever the loading of a directory adds to a detector is what one of its files holds. -/
theorem exists_holdsLibrary_of_mem_drop {after : Detector}
    {supply : Nat → Except Failure Profile} {result : Except Failure Nat} {library : Profile}
    (outcome : detector.loadDirectoryInto directory tree supply = (result, after))
    (member : library ∈ after.libraries.drop detector.libraries.length) :
    ∃ request path, HoldsLibrary tree path (supply request) library := by
  rw [loadDirectoryInto] at outcome
  cases found : detector.profilePaths directory tree with
  | error failure =>
      rw [found] at outcome
      cases outcome
      simp at member
  | ok paths =>
      rcases loadAll_outcome supply detector 0 paths with ⟨libraries, holds, run⟩
      have added : (loadAll tree supply detector 0 paths).2 = detector.addAll libraries := by
        rcases run with ⟨_, run⟩ | ⟨_, _, _, _, run⟩ <;> rw [run]
      simp only [found, Prod.mk.injEq] at outcome
      rw [← outcome.2, added, addAll, List.drop_left] at member
      rcases List.mem_iff_getElem?.mp member with ⟨index, at_index⟩
      rcases holds index library at_index with ⟨path, _, holdsLibrary⟩
      exact ⟨_, path, holdsLibrary⟩

/--
A directory is loaded up to the first of its files that holds no library. Then the detector has the
libraries before that file in addition to those it had, in the order of their places; it has the
libraries of all files if there is no such file, and is unchanged if there is no directory.
-/
theorem loadDirectoryInto_stopsAtFailure (detector : Detector) (directory : String)
    (distinct : (tree.nodes.map (·.1)).Nodup) (supply : Nat → Except Failure Profile) :
    (tree.node? directory = none ∧
      detector.loadDirectoryInto directory tree supply =
        (.error (.io (.walkDirectory directory) []), detector)) ∨
    ∃ places libraries,
      tree.ListsFiles directory detector.config.detection.profileExtension places ∧
      HoldsFirst tree supply (places.map (Path.join directory)) libraries ∧
      ((libraries.length = places.length ∧
          detector.loadDirectoryInto directory tree supply =
            (.ok places.length, detector.addAll libraries)) ∨
        ∃ place failure, places[libraries.length]? = some place ∧
          (¬∃ library, HoldsLibrary tree (Path.join directory place) (supply libraries.length)
            library) ∧
          detector.loadDirectoryInto directory tree supply =
            (.error failure, detector.addAll libraries)) := by
  cases present : tree.node? directory with
  | none =>
      left
      rw [loadDirectoryInto, profilePaths_eq_error detector present]
      exact ⟨rfl, rfl⟩
  | some found =>
      right
      rcases profilePaths_eq detector distinct present with ⟨places, lists, pathsEq⟩
      rcases loadAll_outcome supply detector 0 (places.map (Path.join directory)) with
        ⟨libraries, holds, outcome⟩
      simp only [Nat.zero_add] at holds outcome
      refine ⟨places, libraries, lists, holds, ?_⟩
      rw [loadDirectoryInto, pathsEq]
      rcases outcome with ⟨count, run⟩ | ⟨path, failure, next, failed, run⟩
      · left
        rw [List.length_map] at count
        simp [count, run, Except.map]
      · right
        rw [List.getElem?_map, Option.map_eq_some_iff] at next
        rcases next with ⟨place, placeFound, rfl⟩
        refine ⟨place, failure, placeFound, ?_, by simp [run, Except.map]⟩
        rintro ⟨library, holdsLibrary⟩
        rw [loadLibrary_eq_ok_iff.mpr holdsLibrary] at failed
        cases failed

/-! ## A directory with a file that is no profile -/

/-- A directory with an empty profile and a file that is too short for a profile. -/
def partlyBroken : FileTree :=
  ⟨[(["home", "d"], .directory), (["home", "d", "a.sift"], .file [0, 0, 0, 0]),
    (["home", "d", "b.sift"], .file [])], ["home"]⟩

/-- Every request is answered with a new profile. -/
def blanks : Nat → Except Failure Profile :=
  fun _ => .ok (.new .standard .empty)

theorem profilePaths_partlyBroken :
    (Detector.new .standard).profilePaths "d" partlyBroken = .ok ["d/a.sift", "d/b.sift"] := by
  have resolved : partlyBroken.resolve? "d" = some ["home", "d"] := by decide +kernel
  have present : partlyBroken.node? "d" = some .directory := by decide +kernel
  have sorted :
      (partlyBroken.nodes.filterMap (FileTree.filePlaceBelow? ["home", "d"])).mergeSort
        Path.precedes = [["a.sift"], ["b.sift"]] := by
    have below : partlyBroken.nodes.filterMap (FileTree.filePlaceBelow? ["home", "d"]) =
        [["a.sift"], ["b.sift"]] := by decide +kernel
    rw [below]
    exact List.mergeSort_of_pairwise (by decide +kernel)
  have chosen : ((([["a.sift"], ["b.sift"]] : List (List String)).map (Path.join "d")).filter
      fun path => Path.extension? path == some "sift") = ["d/a.sift", "d/b.sift"] := by
    decide +kernel
  simp only [profilePaths, FileTree.filesBelow?, resolved, present, sorted]
  exact congrArg Except.ok chosen

theorem loadDirectoryInto_partlyBroken_eq :
    ∃ failure library, (Detector.new .standard).loadDirectoryInto "d" partlyBroken blanks =
      (.error failure, (Detector.new .standard).addAll [library]) := by
  have firstLoaded : (loadLibrary partlyBroken (blanks 0) "d/a.sift").isOk = true := by
    decide +kernel
  have secondFailed : (loadLibrary partlyBroken (blanks 1) "d/b.sift").isOk = false := by
    decide +kernel
  cases first : loadLibrary partlyBroken (blanks 0) "d/a.sift" with
  | error failure => simp [first, Except.isOk, Except.toBool] at firstLoaded
  | ok library =>
      cases second : loadLibrary partlyBroken (blanks 1) "d/b.sift" with
      | ok other => simp [second, Except.isOk, Except.toBool] at secondFailed
      | error failure =>
          refine ⟨failure, library, ?_⟩
          simp [loadDirectoryInto, profilePaths_partlyBroken, loadAll, first, second, Except.map,
            addAll, add]

/-- The file that is too short comes second, and the library before it stays. -/
theorem loadDirectoryInto_stopsAtFailure_partlyBroken :
    (partlyBroken.nodes.map (·.1)).Nodup ∧ ∃ places place library failure,
      partlyBroken.ListsFiles "d" "sift" places ∧ places[1]? = some place ∧
      (¬∃ other, HoldsLibrary partlyBroken (Path.join "d" place) (blanks 1) other) ∧
      (Detector.new .standard).loadDirectoryInto "d" partlyBroken blanks =
        (.error failure, ⟨.standard, [library]⟩) := by
  have distinct : (partlyBroken.nodes.map (·.1)).Nodup := by decide +kernel
  rcases loadDirectoryInto_partlyBroken_eq with ⟨failure, library, run⟩
  refine ⟨distinct, ?_⟩
  rcases loadDirectoryInto_stopsAtFailure (Detector.new .standard) "d" distinct blanks with
    ⟨missing, _⟩ | ⟨places, libraries, lists, _, outcome⟩
  · exact absurd missing (by decide +kernel)
  · rcases outcome with ⟨_, completed⟩ | ⟨place, other, next, noLibrary, stopped⟩
    · rw [run] at completed
      cases completed
    · rw [run] at stopped
      simp only [addAll, Detector.new, List.nil_append, Prod.mk.injEq, Except.error.injEq,
        Detector.mk.injEq, true_and] at stopped
      rcases stopped with ⟨rfl, rfl⟩
      exact ⟨places, place, library, failure, lists, next, noLibrary, run⟩

/-- Loading a directory is not all or nothing. -/
theorem loadDirectoryInto_notAtomic :
    ¬∀ (detector after : Detector) (directory : String) (tree : FileTree)
      (supply : Nat → Except Failure Profile) (failure : Failure),
      (tree.nodes.map (·.1)).Nodup →
      detector.loadDirectoryInto directory tree supply = (.error failure, after) →
        after.libraries = detector.libraries := by
  intro atomic
  have distinct : (partlyBroken.nodes.map (·.1)).Nodup := by decide +kernel
  rcases loadDirectoryInto_partlyBroken_eq with ⟨failure, library, run⟩
  exact absurd (atomic _ _ _ _ _ _ distinct run) (List.cons_ne_nil library [])

end Detector

end Resemblance
