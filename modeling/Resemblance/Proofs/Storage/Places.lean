import Resemblance.Proofs.Storage.Extension
import Resemblance.Storage.FileTree

/-!
# Where paths lead

What a path leads to depends only on the directories of a tree, so files can come and go without a
change of the place. A path leads to a file only if its last name is the name of that file: whatever
ends in a slash, a dot or two dots leads to a directory, since all directories on the way to a place
exist, whether it starts from the root or from the working directory. A relative path leads where
the absolute path does that has the working directory in front of it.
-/

namespace Resemblance

namespace FileTree

variable {tree other : FileTree} {place front : List String} {path : String}

/-! ## Nodes after a change -/

/-- The working directory and the directories above it are there in every tree. -/
theorem nodeAt?_above (above : place <+: tree.workingDirectory) :
    tree.nodeAt? place = some .directory :=
  if_pos (List.isPrefixOf_iff_prefix.mpr above)

theorem notAbove_of_notDirectory (notDirectory : tree.nodeAt? place ≠ some .directory) :
    ¬place.isPrefixOf tree.workingDirectory := fun above =>
  notDirectory (nodeAt?_above (List.isPrefixOf_iff_prefix.mp above))

theorem find?_filter_self (nodes : List (List String × FileNode)) :
    (nodes.filter (·.1 != place)).find? (·.1 == place) = none := by
  rw [List.find?_eq_none]
  intro entry member
  have different := (List.mem_filter.mp member).2
  simpa using different

theorem find?_filter_ne (different : front ≠ place) (nodes : List (List String × FileNode)) :
    (nodes.filter (·.1 != place)).find? (·.1 == front) = nodes.find? (·.1 == front) := by
  rw [List.find?_filter]
  congr 1
  funext entry
  by_cases same : entry.1 = front
  · simp [same, different]
  · simp [same]

theorem nodeAt?_setNode (notAbove : ¬place.isPrefixOf tree.workingDirectory) (node : FileNode) :
    (tree.setNode place node).nodeAt? place = some node := by
  rw [nodeAt?, setNode, if_neg notAbove, List.find?_append, find?_filter_self]
  simp

theorem nodeAt?_setNode_ne (different : front ≠ place) (node : FileNode) :
    (tree.setNode place node).nodeAt? front = tree.nodeAt? front := by
  rw [nodeAt?, nodeAt?, setNode, List.find?_append, find?_filter_ne different]
  simp [different.symm]

theorem nodeAt?_removeNode (notAbove : ¬place.isPrefixOf tree.workingDirectory) :
    (tree.removeNode place).nodeAt? place = none := by
  rw [nodeAt?, removeNode, if_neg notAbove, find?_filter_self]
  rfl

theorem nodeAt?_removeNode_ne (different : front ≠ place) :
    (tree.removeNode place).nodeAt? front = tree.nodeAt? front := by
  rw [nodeAt?, nodeAt?, removeNode, find?_filter_ne different]

/-! ## Trees with the same directories -/

/-- Whatever is a directory in one tree is one in the other. -/
structure SameDirectories (tree other : FileTree) : Prop where
  workingDirectory : tree.workingDirectory = other.workingDirectory
  iff : ∀ place, tree.nodeAt? place = some .directory ↔ other.nodeAt? place = some .directory

/-- Paths lead to the same places if the directories are the same. -/
theorem SameDirectories.resolve?_eq (same : tree.SameDirectories other) (path : String) :
    tree.resolve? path = other.resolve? path := by
  have steps : tree.step? = other.step? := by
    funext place name
    rw [step?, step?]
    simp only [same.iff place]
  rw [resolve?, resolve?, steps, start, start, same.workingDirectory]

theorem SameDirectories.filePlace?_eq (same : tree.SameDirectories other) (path : String) :
    tree.filePlace? path = other.filePlace? path := by
  rw [filePlace?, filePlace?, same.resolve?_eq path]
  simp only [ne_eq, same.iff _]

/-- The trees differ at one place only, where neither has a directory. -/
structure DifferAt (place : List String) (tree other : FileTree) : Prop where
  workingDirectory : tree.workingDirectory = other.workingDirectory
  before : tree.nodeAt? place ≠ some .directory
  after : other.nodeAt? place ≠ some .directory
  elsewhere : ∀ front, front ≠ place → other.nodeAt? front = tree.nodeAt? front

theorem DifferAt.sameDirectories (differ : DifferAt place tree other) :
    tree.SameDirectories other := by
  refine ⟨differ.workingDirectory, ?_⟩
  intro front
  by_cases same : front = place
  · rw [same]
    exact iff_of_false differ.before differ.after
  · rw [differ.elsewhere front same]

theorem DifferAt.trans {third : FileTree} (first : DifferAt place tree other)
    (second : DifferAt place other third) : DifferAt place tree third where
  workingDirectory := first.workingDirectory.trans second.workingDirectory
  before := first.before
  after := second.after
  elsewhere := fun front different =>
    (second.elsewhere front different).trans (first.elsewhere front different)

/-- A path that leads elsewhere leads to the same node. -/
theorem DifferAt.node?_eq (differ : DifferAt place tree other)
    (apart : tree.resolve? path ≠ some place) : other.node? path = tree.node? path := by
  rw [node?, node?, ← differ.sameDirectories.resolve?_eq path]
  cases resolved : tree.resolve? path with
  | none => rfl
  | some front =>
      rw [resolved] at apart
      exact differ.elsewhere front fun same => apart (congrArg some same)

theorem differAt_setNode (notDirectory : tree.nodeAt? place ≠ some .directory)
    (bytes : List UInt8) : DifferAt place tree (tree.setNode place (.file bytes)) where
  workingDirectory := rfl
  before := notDirectory
  after := by
    rw [nodeAt?_setNode (notAbove_of_notDirectory notDirectory)]
    simp
  elsewhere := fun _ different => nodeAt?_setNode_ne different _

theorem differAt_remove (notDirectory : tree.nodeAt? place ≠ some .directory)
    (resolved : tree.resolve? path = some place) : DifferAt place tree (tree.remove path) := by
  rw [remove, resolved]
  cases tree.read? path with
  | none => exact ⟨rfl, notDirectory, notDirectory, fun _ _ => rfl⟩
  | some bytes =>
      refine ⟨rfl, notDirectory, ?_, fun _ different => nodeAt?_removeNode_ne different⟩
      rw [nodeAt?_removeNode (notAbove_of_notDirectory notDirectory)]
      simp

/-! ## Created files -/

theorem filePlace?_eq_some (found : tree.filePlace? path = some place) :
    tree.resolve? path = some place ∧ tree.nodeAt? place ≠ some .directory := by
  rw [filePlace?] at found
  cases resolved : tree.resolve? path with
  | none =>
      rw [resolved] at found
      cases found
  | some reached =>
      rw [resolved] at found
      dsimp only at found
      split at found
      · rename_i creatable
        cases found
        exact ⟨rfl, creatable.1⟩
      · cases found

/-- A file that was created or replaced is found at its path. -/
theorem read?_setNode (resolved : tree.resolve? path = some place)
    (notDirectory : tree.nodeAt? place ≠ some .directory) (bytes : List UInt8) :
    (tree.setNode place (.file bytes)).read? path = some bytes := by
  rw [read?, node?, ← (differAt_setNode notDirectory bytes).sameDirectories.resolve?_eq path,
    resolved, Option.bind_some, nodeAt?_setNode (notAbove_of_notDirectory notDirectory)]

/-! ## The last name of a path -/

/-- What is known of a place that names lead to. -/
structure LedBy (tree : FileTree) (parts : List String) (place : List String) : Prop where
  /-- All directories on the way exist. -/
  above : ∀ front, front <+: place → front ≠ place → tree.nodeAt? front = some .directory
  /-- A place that is no directory has the last name. -/
  last : tree.nodeAt? place = some .directory ∨
    ∃ name, name ≠ ".." ∧ (parts.filter fun part => !Path.isIdle part).getLast? = some name ∧
      place.getLast? = some name

theorem ledBy_start (tree : FileTree) (path : String) : tree.LedBy [] (tree.start path) := by
  have above : tree.start path <+: tree.workingDirectory := by
    rw [start]
    split
    · exact List.nil_prefix
    · exact List.prefix_refl _
  exact ⟨fun _ part _ => nodeAt?_above (part.trans above), .inl (nodeAt?_above above)⟩

theorem ledBy_dropLast {parts : List String} {next : String} (led : tree.LedBy parts place)
    (directory : tree.nodeAt? place = some .directory) :
    tree.LedBy (parts ++ [next]) place.dropLast := by
  by_cases root : place = []
  · rw [root, List.dropLast_nil, ← root]
    exact ⟨led.above, .inl directory⟩
  · have shorter {front : List String} (part : front <+: place.dropLast) : front ≠ place := by
      rintro rfl
      have := part.length_le
      have := List.length_pos_iff.mpr root
      rw [List.length_dropLast] at *
      omega
    constructor
    · intro front part _
      exact led.above front (part.trans (List.dropLast_prefix place)) (shorter part)
    · exact .inl (led.above _ (List.dropLast_prefix place) (shorter (List.prefix_refl _)))

theorem ledBy_append {parts : List String} {next : String} (led : tree.LedBy parts place)
    (directory : tree.nodeAt? place = some .directory) (notIdle : ¬Path.isIdle next)
    (notUp : next ≠ "..") : tree.LedBy (parts ++ [next]) (place ++ [next]) := by
  constructor
  · intro front part different
    rcases List.prefix_concat_iff.mp part with same | before
    · exact absurd same different
    · by_cases same : front = place
      · rw [same]
        exact directory
      · exact led.above front before same
  · exact .inr ⟨next, notUp, Path.getLast?_filter_notIdle parts notIdle, List.getLast?_concat⟩

theorem ledBy_step {parts : List String} {next : String} (led : tree.LedBy parts place)
    (reached : tree.step? place next = some front) : tree.LedBy (parts ++ [next]) front := by
  rw [step?] at reached
  split at reached
  case isFalse => cases reached
  case isTrue followed =>
    have directory : tree.nodeAt? place = some .directory := by
      simpa using (Bool.and_eq_true_iff.mp followed).2
    cases reached
    rw [Path.step]
    by_cases idle : Path.isIdle next
    · rw [if_pos idle]
      exact ⟨led.above, .inl directory⟩
    · rw [if_neg idle]
      by_cases up : next = ".."
      · rw [if_pos up]
        exact ledBy_dropLast led directory
      · rw [if_neg up]
        exact ledBy_append led directory idle up

theorem ledBy_foldlM {parts : List String} :
    ∀ {seen place}, tree.LedBy seen place → parts.foldlM tree.step? place = some front →
      tree.LedBy (seen ++ parts) front := by
  induction parts with
  | nil =>
      intro seen place led reached
      cases reached
      rw [List.append_nil]
      exact led
  | cons next parts ih =>
      intro seen place led reached
      rw [List.foldlM_cons, Option.bind_eq_bind, Option.bind_eq_some_iff] at reached
      rcases reached with ⟨middle, stepped, reached⟩
      have rest := ih (ledBy_step led stepped) reached
      rw [List.append_assoc] at rest
      exact rest

/-- A path that leads to no directory ends in the name of its place. -/
theorem exists_fileName? (resolved : tree.resolve? path = some place)
    (notDirectory : tree.nodeAt? place ≠ some .directory) :
    ∃ name, Path.fileName? path = some name ∧ place.getLast? = some name := by
  rw [resolve?] at resolved
  split at resolved
  case isFalse => cases resolved
  case isTrue =>
    rcases (ledBy_foldlM (ledBy_start tree path) resolved).last with
      directory | ⟨name, notUp, last, placeLast⟩
    · exact absurd directory notDirectory
    · refine ⟨name, ?_, placeLast⟩
      rw [Path.fileName?, Path.names]
      rw [List.nil_append] at last
      rw [last, Option.filter_some, if_pos (by simpa using notUp)]

/-! ## Relative and absolute paths -/

/-- True of a name that leads to the file or directory of that name. -/
structure IsPlain (name : String) : Prop where
  noSlash : '/' ∉ name.toList
  notIdle : ¬Path.isIdle name
  notUp : name ≠ ".."
  short : Path.isShort name

/-- The absolute path with the working directory in front of a relative path. -/
def absolutePath (tree : FileTree) (path : String) : String :=
  "/".intercalate ("" :: tree.workingDirectory) ++ "/" ++ path

theorem isAbsolute_absolutePath (tree : FileTree) (path : String) :
    Path.isAbsolute (tree.absolutePath path) := by
  rw [absolutePath, Path.isAbsolute]
  cases tree.workingDirectory with
  | nil => simp
  | cons name names => simp [String.intercalate_cons_cons]

theorem parts_absolutePath (plain : ∀ name ∈ tree.workingDirectory, IsPlain name)
    (path : String) :
    Path.parts (tree.absolutePath path) = "" :: tree.workingDirectory ++ Path.parts path := by
  have front : Path.parts ("/".intercalate ("" :: tree.workingDirectory)) =
      "" :: tree.workingDirectory := by
    apply Path.parts_intercalate
    · intro name member
      rcases List.mem_cons.mp member with rfl | below
      · exact List.not_mem_nil
      · exact (plain name below).noSlash
    · exact List.cons_ne_nil _ _
  rw [absolutePath, Path.parts_append_slash, front]

/-- The names of the working directory lead to it from any directory above it. -/
theorem foldlM_step?_workingDirectory (plain : ∀ name ∈ tree.workingDirectory, IsPlain name) :
    ∀ names above, above ++ names = tree.workingDirectory →
      names.foldlM tree.step? above = some tree.workingDirectory := by
  intro names
  induction names with
  | nil =>
      intro above whole
      rw [← whole, List.append_nil]
      rfl
  | cons name names ih =>
      intro above whole
      have there := nodeAt?_above ⟨name :: names, whole⟩
      have named := plain name (by simp [← whole])
      have stepped : tree.step? above name = some (above ++ [name]) := by
        rw [step?, there, Path.step, if_neg named.notIdle, if_neg named.notUp]
        simp [named.short]
      rw [List.foldlM_cons, stepped, Option.bind_eq_bind, Option.bind_some]
      exact ih (above ++ [name]) (by simp [whole])

/-- A relative path leads where the absolute path to the same file or directory does. -/
theorem resolve?_absolutePath (plain : ∀ name ∈ tree.workingDirectory, IsPlain name)
    (relative : ¬Path.isAbsolute path) (followable : Path.isFollowable path)
    (fromRoot : Path.isFollowable (tree.absolutePath path)) :
    tree.resolve? (tree.absolutePath path) = tree.resolve? path := by
  have root : tree.step? [] "" = some [] := by
    rw [step?, nodeAt?_above List.nil_prefix]
    rfl
  have reached := foldlM_step?_workingDirectory plain tree.workingDirectory [] rfl
  rw [resolve?, resolve?, if_pos followable, if_pos fromRoot, start, start,
    if_pos (isAbsolute_absolutePath tree path), if_neg relative, parts_absolutePath plain,
    List.cons_append, List.foldlM_cons, root, Option.bind_eq_bind, Option.bind_some,
    List.foldlM_append, reached, Option.bind_eq_bind, Option.bind_some]

end FileTree

end Resemblance
