import Mathlib
import Resemblance.Proofs.Storage.Places
import Resemblance.Storage.ProfileFile

/-!
# Saving is atomic

A profile that was saved is in its file completely, and a profile that could not be saved leaves
what was there before: only the temporary file beside the destination has changed until then. This
fails for one extension. The temporary file of a destination with the extension `tmp` is the
destination itself, which is then lost with it.
-/

namespace Resemblance

namespace Profile

open FileTree

variable {profile : Profile} {path : String} {tree created : FileTree} {place : List String}

/-! ## The temporary file -/

/-- A destination that is its own temporary file has the extension of temporary files. -/
theorem extension?_of_sharedPlace (notDirectory : tree.nodeAt? place ≠ some .directory)
    (temporary : tree.resolve? (temporaryPath path) = some place)
    (resolved : tree.resolve? path = some place) : Path.extension? path = some "tmp" := by
  rcases exists_fileName? temporary notDirectory with ⟨temporaryName, temporaryFound, last⟩
  rcases exists_fileName? resolved notDirectory with ⟨name, found, nameLast⟩
  rw [last, Option.some.injEq] at nameLast
  subst nameLast
  rw [temporaryPath, Path.withExtension] at temporaryFound
  cases cut : Path.fileName? (Path.cutExtension path) with
  | none =>
      rw [Path.setExtension, cut] at temporaryFound
      rw [cut] at temporaryFound
      cases temporaryFound
  | some cutName =>
      rw [Path.fileName?_setExtension cut (by decide) (by decide), Option.some.injEq]
        at temporaryFound
      have notEmpty : cutName ≠ "" := by
        rintro rfl
        exact (Path.fileName?_mem cut).2 (by decide)
      rw [Path.extension?, found, Option.bind_some, ← temporaryFound,
        Path.splitName_append (Path.stem_ne_empty notEmpty) (by decide)]

theorem exists_created (wrote : tree.write? path [] = some created) :
    ∃ place, tree.resolve? path = some place ∧ DifferAt place tree created ∧
      ∀ bytes, created.write? path bytes = some (created.setNode place (.file bytes)) := by
  rw [write?, Option.map_eq_some_iff] at wrote
  rcases wrote with ⟨place, found, rfl⟩
  rcases filePlace?_eq_some found with ⟨resolved, notDirectory⟩
  have differ := differAt_setNode notDirectory []
  refine ⟨place, resolved, differ, ?_⟩
  intro bytes
  rw [write?, ← differ.sameDirectories.filePlace?_eq, found, Option.map_some]

/-! ## Outcomes -/

/-- What saving can come to: one of the steps fails, or the file that was written is renamed. -/
theorem save_cases {outcome : Except Failure Unit} {saved : FileTree}
    (ended : profile.save path tree = (outcome, saved)) :
    (saved = tree ∧ ∃ failure, outcome = .error failure) ∨
    ∃ created, tree.write? (temporaryPath path) [] = some created ∧
      ((saved = created.remove (temporaryPath path) ∧
          ∃ failure sink, Writer.profile profile .empty = .error failure sink ∧
            outcome = .error (failure.withPath path)) ∨
        ∃ sink, Writer.profile profile .empty = .ok () sink ∧
          ((saved = (created.write? (temporaryPath path) sink.bytes).getD created ∧
              ∃ failure, outcome = .error failure) ∨
            (outcome = .ok () ∧ ((created.write? (temporaryPath path) sink.bytes).getD
              created).rename? (temporaryPath path) path = some saved))) := by
  unfold save at ended
  dsimp only at ended
  cases wrote : tree.write? (temporaryPath path) [] with
  | none =>
      rw [wrote, Prod.mk.injEq] at ended
      exact .inl ⟨ended.2.symm, _, ended.1.symm⟩
  | some created =>
      rw [wrote] at ended
      dsimp only at ended
      refine .inr ⟨created, rfl, ?_⟩
      cases written : Writer.profile profile .empty with
      | error failure sink =>
          rw [written, Prod.mk.injEq] at ended
          exact .inl ⟨ended.2.symm, failure, sink, rfl, ended.1.symm⟩
      | ok result sink =>
          rw [written] at ended
          dsimp only at ended
          refine .inr ⟨sink, rfl, ?_⟩
          cases moved : ((created.write? (temporaryPath path) sink.bytes).getD created).rename?
              (temporaryPath path) path with
          | none =>
              rw [moved, Prod.mk.injEq] at ended
              exact .inl ⟨ended.2.symm, _, ended.1.symm⟩
          | some renamed =>
              rw [moved, Prod.mk.injEq] at ended
              refine .inr ⟨ended.1.symm, ?_⟩
              rw [← ended.2]

/-- Whatever fails, nothing but the temporary file has changed. -/
theorem differAt_of_save_eq_error {failure : Failure} {saved : FileTree}
    (failed : profile.save path tree = (.error failure, saved)) :
    saved = tree ∨
      ∃ place, tree.resolve? (temporaryPath path) = some place ∧ DifferAt place tree saved := by
  rcases save_cases failed with ⟨same, _⟩ | ⟨created, wrote, rest⟩
  · exact .inl same
  · rcases exists_created wrote with ⟨place, resolved, differ, again⟩
    have reached := (differ.sameDirectories.resolve?_eq (temporaryPath path)).symm.trans resolved
    refine .inr ⟨place, resolved, differ.trans ?_⟩
    rcases rest with ⟨removed, _⟩ | ⟨sink, _, ⟨filled, _⟩ | ⟨ended, _⟩⟩
    · rw [removed]
      exact differAt_remove differ.after reached
    · rw [filled, again, Option.getD_some]
      exact differAt_setNode differ.after sink.bytes
    · cases ended

theorem read?_of_rename?_eq_some {source target : String} {bytes : List UInt8}
    {renamed : FileTree} (resolved : tree.resolve? source = some place)
    (notDirectory : tree.nodeAt? place ≠ some .directory) (found : tree.read? source = some bytes)
    (moved : tree.rename? source target = some renamed) : renamed.read? target = some bytes := by
  rw [rename?, found] at moved
  cases reached : tree.filePlace? target with
  | none =>
      rw [reached] at moved
      cases moved
  | some destination =>
      rw [reached] at moved
      cases moved
      have removed := (differAt_remove notDirectory resolved).sameDirectories
      rw [removed.filePlace?_eq] at reached
      rcases filePlace?_eq_some reached with ⟨destinationResolved, destinationNotDirectory⟩
      exact read?_setNode destinationResolved destinationNotDirectory bytes

/-- A saved profile is in its file completely. -/
theorem read?_of_save_eq_ok {saved : FileTree} (ended : profile.save path tree = (.ok (), saved)) :
    ∃ sink, Writer.profile profile .empty = .ok () sink ∧
      saved.read? path = some sink.bytes := by
  rcases save_cases ended with ⟨_, _, failed⟩ | ⟨created, wrote, rest⟩
  · cases failed
  · rcases exists_created wrote with ⟨place, resolved, differ, again⟩
    have reached := (differ.sameDirectories.resolve?_eq (temporaryPath path)).symm.trans resolved
    rcases rest with ⟨_, _, _, _, failed⟩ | ⟨sink, written, ⟨_, _, failed⟩ | ⟨_, moved⟩⟩
    · cases failed
    · cases failed
    · rw [again, Option.getD_some] at moved
      have filled := differAt_setNode differ.after sink.bytes
      refine ⟨sink, written, ?_⟩
      exact read?_of_rename?_eq_some ((filled.sameDirectories.resolve?_eq _).symm.trans reached)
        filled.after (read?_setNode reached differ.after sink.bytes) moved

/--
Saving a profile either ends with the bytes of the profile in the file, or fails, as it does
whenever the profile cannot be written. Unless the file has the extension of temporary files,
whatever was found at its path before is found there after a failure.
-/
theorem save_isAtomic (profile : Profile) (path : String) (tree : FileTree) :
    (∀ saved, profile.save path tree = (.ok (), saved) →
      ∃ sink, Writer.profile profile .empty = .ok () sink ∧
        saved.read? path = some sink.bytes) ∧
    (∀ failure sink, Writer.profile profile .empty = .error failure sink →
      ∃ reported saved, profile.save path tree = (.error reported, saved)) ∧
    (Path.extension? path ≠ some "tmp" →
      ∀ failure saved, profile.save path tree = (.error failure, saved) →
        saved.node? path = tree.node? path) := by
  refine ⟨fun saved => read?_of_save_eq_ok, ?_, ?_⟩
  · intro failure sink failed
    cases ended : profile.save path tree with
    | mk outcome saved =>
        cases outcome with
        | error reported => exact ⟨reported, saved, rfl⟩
        | ok _ =>
            rcases read?_of_save_eq_ok ended with ⟨_, written, _⟩
            rw [failed] at written
            cases written
  · intro otherExtension failure saved failed
    rcases differAt_of_save_eq_error failed with rfl | ⟨place, temporary, differ⟩
    · rfl
    · apply differ.node?_eq
      intro resolved
      exact otherExtension (extension?_of_sharedPlace differ.before temporary resolved)

/-- A profile of a class without the value that its blueprint declares. -/
def incompleteProfile : Profile :=
  { Profile.new .standard .empty with
    blueprints := ⟨[⟨⟨"class"⟩, [("bloom", .bloom)]⟩]⟩
    sections :=
      [⟨.runtime, .descriptors ⟨[("x", 1)]⟩⟩,
        ⟨.runtime, .elements ⟨⟨"class"⟩, [⟨⟨"class"⟩, 0, [none]⟩]⟩⟩] }

theorem notWritten_incompleteProfile :
    ∃ failure sink, Writer.profile incompleteProfile .empty = .error failure sink := by
  have failed : (Writer.profile incompleteProfile).run' .empty = none := by
    decide +kernel
  cases written : Writer.profile incompleteProfile .empty with
  | error failure sink => exact ⟨failure, sink, rfl⟩
  | ok _ sink =>
      rw [EStateM.run', EStateM.run, written] at failed
      cases failed

/-- A file outside of the working directory. -/
def treeWithData : FileTree :=
  ⟨[(["data"], .directory), (["data", "x"], .file [0xaa])], ["home"]⟩

/--
The profile that cannot be written leaves the file `/data/x` as it is, and an empty profile takes
its place.
-/
theorem save_isAtomic_absolute :
    (∃ failure saved, incompleteProfile.save "/data/x" treeWithData = (.error failure, saved) ∧
      saved.node? "/data/x" = some (.file [0xaa])) ∧
    ∃ saved sink, (Profile.new .standard .empty).save "/data/x" treeWithData = (.ok (), saved) ∧
      saved.read? "/data/x" = some sink.bytes ∧
      Writer.profile (.new .standard .empty) .empty = .ok () sink := by
  have before : treeWithData.node? "/data/x" = some (.file [0xaa]) := by
    decide +kernel
  constructor
  · rcases save_isAtomic incompleteProfile "/data/x" treeWithData with ⟨_, fails, kept⟩
    rcases notWritten_incompleteProfile with ⟨failure, sink, failed⟩
    rcases fails failure sink failed with ⟨reported, saved, ended⟩
    exact ⟨reported, saved, ended, (kept (by decide +kernel) reported saved ended).trans before⟩
  · have succeeds :
        ((Profile.new .standard .empty).save "/data/x" treeWithData).1.isOk = true := by
      decide +kernel
    cases ended : (Profile.new .standard .empty).save "/data/x" treeWithData with
    | mk outcome saved =>
        cases outcome with
        | error failure => simp [ended, Except.isOk, Except.toBool] at succeeds
        | ok _ =>
            rcases (save_isAtomic _ "/data/x" treeWithData).1 saved ended with
              ⟨sink, written, found⟩
            exact ⟨saved, sink, rfl, found, written⟩

/-- A file with the extension of temporary files. -/
def treeWithTemporary : FileTree :=
  ⟨[(["home", "x.tmp"], .file [0xaa])], ["home"]⟩

/-- The temporary file of `x.tmp` is `x.tmp`, which is lost if the profile cannot be written. -/
theorem save_losesTemporary :
    (∃ failure sink, Writer.profile incompleteProfile .empty = .error failure sink) ∧
      treeWithTemporary.node? "x.tmp" = some (.file [0xaa]) ∧
      (incompleteProfile.save "x.tmp" treeWithTemporary).2.node? "x.tmp" = none :=
  ⟨notWritten_incompleteProfile, by decide +kernel, by decide +kernel⟩

end Profile

end Resemblance
