import Resemblance.Profile.Metadata
import Resemblance.Proofs.Value.TypedConstant

/-!
# Metadata in a stream

Metadata survives in a stream if its version is not later than the version that is written, its time
lies within the calendar, and its texts and attributes can be stored; all metadata that is read is
of this form. Of build information only the regularity of its reader is needed, since a stored
profile does not hold it.
-/

namespace Resemblance

namespace Metadata

/-- The metadata survives in a stream. -/
structure Storable (types : TypeTable) (metadata : Metadata) : Prop where
  /-- The format is not a later one. -/
  version_le : metadata.formatVersion ≤ currentVersion
  /-- A reader accepts the name of the artifact. -/
  artifact : TextFits metadata.artifact
  /-- A reader accepts the version of the artifact. -/
  version : TextFits metadata.version
  /-- The time of creation lies within the calendar. -/
  created : earliest ≤ metadata.created.toInt ∧ metadata.created.toInt ≤ latest
  /-- A reader accepts the attributes. -/
  attributes : (Value.map metadata.attributes).Storable types 0

theorem storable_empty (types : TypeTable) : empty.Storable types where
  version_le := by decide
  artifact := by decide
  version := by decide
  created := by decide
  attributes := by
    apply Value.Storable.of_parts (Nat.zero_le Reader.maxNesting)
    · exact List.nodup_nil
    · simp [Value.FitsHere, empty]
    · simp [Value.parts, empty]

end Metadata

namespace Reader

theorem Regular.formatVersion : formatVersion.Regular := by
  apply Regular.index.bind
  intro version
  split
  · exact .fail (.newerVersion version Metadata.currentVersion)
  · exact .pure version

theorem Regular.time : time.Regular := by
  apply Regular.i64.bind
  intro millis
  split
  · exact .pure millis
  · exact .fail (.timestampOutOfRange millis)

theorem Regular.metadata (types : TypeTable) : (metadata types).Regular :=
  Regular.formatVersion.bind fun _ => (Regular.exact 16).bind fun _ => Regular.string.bind fun _ =>
    Regular.string.bind fun _ => Regular.bool.bind fun _ => Regular.time.bind fun _ =>
      (Regular.attributes types).bind fun _ => .pure _

theorem Regular.kindCount : kindCount.Regular :=
  Regular.string.bind fun _ => Regular.length.bind fun _ => .pure _

theorem Regular.buildInfo : buildInfo.Regular :=
  Regular.string.bind fun _ => Regular.string.bind fun _ => Regular.varint.bind fun _ =>
    Regular.length.bind fun kinds => (Regular.kindCount.replicate kinds).bind fun _ =>
      Regular.length.bind fun size => (Regular.string.replicate size).bind fun _ => .pure _

theorem le_of_formatVersion_takes {depth : Nat} {bytes : List UInt8} {version : UInt32}
    (takes : formatVersion.Takes depth bytes version) : version ≤ Metadata.currentVersion := by
  rcases bind_eq_ok.mp (takes 0 [] .endOfBytes) with ⟨read, _, _, checked⟩
  split at checked
  · cases checked
  · rename_i supported
    rcases pure_eq_ok.mp checked with ⟨rfl, _⟩
    exact UInt32.not_lt.mp supported

theorem within_of_time_takes {depth : Nat} {bytes : List UInt8} {millis : Int64}
    (takes : time.Takes depth bytes millis) :
    Metadata.earliest ≤ millis.toInt ∧ millis.toInt ≤ Metadata.latest := by
  rcases bind_eq_ok.mp (takes 0 [] .endOfBytes) with ⟨read, _, _, checked⟩
  split at checked
  · rename_i within
    rcases pure_eq_ok.mp checked with ⟨rfl, _⟩
    exact within
  · cases checked

theorem storable_of_attributes_takes {types : TypeTable} (faithful : types.Faithful)
    {bytes : List UInt8} {entries : Attributes} (takes : (attributes types).Takes 0 bytes entries) :
    (Value.map entries).Storable types 0 := by
  have asPayload : (payload types ValueType.map).Takes 0 bytes (Value.map entries) := by
    rcases Regular.length.takes_bind (fun count => (Regular.typed types).entriesAfter [] count)
      takes with ⟨_, _, count, rfl, countTakes, entriesTake⟩
    exact countTakes.bind (entriesTake.andThen (.pure (Value.map entries)))
  exact storable_of_payload_takes faithful (Nat.zero_le maxNesting) asPayload

theorem storable_of_metadata_takes {types : TypeTable} (faithful : types.Faithful)
    {bytes : List UInt8} {read : Metadata} (takes : (metadata types).Takes 0 bytes read) :
    read.Storable types := by
  rcases Regular.formatVersion.takes_first (takes 0 [] .endOfBytes) with
    ⟨_, formatVersion, _, versionTakes, depth₁, afterVersion⟩
  rcases (Regular.exact 16).takes_first afterVersion with ⟨_, id, _, _, depth₂, afterId⟩
  rcases Regular.string.takes_first afterId with
    ⟨_, artifact, _, artifactTakes, depth₃, afterArtifact⟩
  rcases Regular.string.takes_first afterArtifact with
    ⟨_, version, _, textTakes, depth₄, afterText⟩
  rcases Regular.bool.takes_first afterText with ⟨_, isApplication, _, _, depth₅, afterFlag⟩
  rcases Regular.time.takes_first afterFlag with
    ⟨_, created, _, createdTakes, depth₆, afterCreated⟩
  rcases (Regular.attributes types).takes_first afterCreated with
    ⟨_, attributes, _, attributesTake, _, last⟩
  rw [depth₆, depth₅, depth₄, depth₃, depth₂, depth₁] at attributesTake
  rcases pure_eq_ok.mp last with ⟨rfl, _⟩
  constructor
  · exact le_of_formatVersion_takes versionTakes
  · exact textFits_of_string_takes artifactTakes
  · exact textFits_of_string_takes textTakes
  · exact within_of_time_takes createdTakes
  · exact storable_of_attributes_takes faithful attributesTake

end Reader

namespace Exchange

theorem formatVersion {version : UInt32} (version_le : version ≤ Metadata.currentVersion)
    (depth : Nat) : Exchange (Writer.index version) Reader.formatVersion depth version := by
  apply (index version depth).andThen
  rw [if_neg (UInt32.not_lt.mpr version_le)]
  exact .pure version

theorem time {millis : Int64}
    (within : Metadata.earliest ≤ millis.toInt ∧ millis.toInt ≤ Metadata.latest) (depth : Nat) :
    Exchange (Writer.i64 millis) Reader.time depth millis := by
  apply (i64 millis depth).andThen
  rw [if_pos within]
  exact .pure millis

theorem metadata {types : TypeTable} {stored : Metadata} (storable : stored.Storable types) :
    Exchange (Writer.metadata types stored) (Reader.metadata types) 0 stored := by
  have size : stored.id.toList.length = 16 := by simp
  apply (formatVersion storable.version_le 0).bind
  apply (exact size 0).bind
  apply (string storable.artifact 0).bind
  apply (string storable.version 0).bind
  apply (bool stored.isApplication 0).bind
  apply (time storable.created 0).bind
  exact (Exchange.attributes storable.attributes).andThen (.pure stored)

end Exchange

end Resemblance
