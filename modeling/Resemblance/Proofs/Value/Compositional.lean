import Resemblance.Proofs.Value.TypedConstant
import Resemblance.Proofs.Wire.Compositional

/-!
# Properties of all readers of values

What holds of the steps of readers, and is inherited by sequences, also holds of the readers of
payloads and of typed constants, with every table of types and at every depth of nesting.
-/

namespace Resemblance

namespace Reader

theorem typedWithin_eq_tagged (types : TypeTable) (levels : Nat) :
    typedWithin types levels =
      tagged u32 types.type? .unregisteredType fun type =>
        nested (payloadWithin types levels type) := by
  rw [typedWithin_eq]
  refine bind_congr fun offset => bind_congr fun hash => ?_
  cases types.type? hash with
  | none => rfl
  | some type => rfl

namespace Compositional

variable {property : ∀ {Result : Type}, Reader Result → Prop}

/-! ## Vectors, hash sets, filters and digests -/

theorem component (compositional : Compositional property) : property Reader.component := by
  refine compositional.bind compositional.signed fun number => ?_
  split
  · exact compositional.pure number.toInt32
  · exact compositional.fail (.componentTooLarge number)

theorem laterHashes (compositional : Compositional property) (previous : UInt64) (count : Nat) :
    property (Reader.laterHashes previous count) := by
  induction count generalizing previous with
  | zero => exact compositional.pure []
  | succ count ih =>
      refine compositional.bind compositional.varint fun difference => ?_
      split
      · exact compositional.fail .hashesNotIncreasing
      · split
        · exact compositional.bind (ih _) fun others => compositional.pure _
        · exact compositional.fail .hashOverflow

theorem hashes (compositional : Compositional property) (count : Nat) :
    property (Reader.hashes count) := by
  cases count with
  | zero => exact compositional.pure []
  | succ count =>
      exact compositional.bind compositional.varint fun first =>
        compositional.bind (compositional.laterHashes first count) fun others =>
          compositional.pure _

theorem bloomFilter (compositional : Compositional property) : property Reader.bloomFilter := by
  refine compositional.bind compositional.length fun width =>
    compositional.bind compositional.index fun hashCount =>
      compositional.bind compositional.length fun wordCount => ?_
  split
  · refine compositional.bind (compositional.replicate compositional.u64 wordCount) fun words => ?_
    simp only
    split
    · exact compositional.pure _
    · exact compositional.fail .bloomStrayBits
  · exact compositional.fail (.bloomWordCount width wordCount)

theorem digest (compositional : Compositional property) : property Reader.digest := by
  refine compositional.bind compositional.bool fun present => ?_
  split
  · exact compositional.bind compositional.u8 fun lengthClass =>
      compositional.bind (compositional.exact 32) fun codes => compositional.pure _
  · exact compositional.pure none

/-! ## Payloads and typed constants -/

theorem entriesAfter (compositional : Compositional property) {typed : Reader Value}
    (holds : property typed) (before : Attributes) (count : Nat) :
    property (Reader.entriesAfter typed before count) := by
  rw [entriesAfter_eq_keyedAfter]
  exact compositional.keyedAfter holds before count

theorem payloadWith (compositional : Compositional property) {typed : Reader Value}
    (holds : property typed) (type : ValueType) : property (Reader.payloadWith typed type) := by
  have collection {Content : Type} {make : Content → Value} {content : Nat → Reader Content}
      (each : ∀ count, property (content count)) :
      property (Reader.length >>= fun count => content count >>= fun result =>
        Pure.pure (make result)) :=
    compositional.bind compositional.length fun count =>
      compositional.bind (each count) fun _ => compositional.pure _
  cases type with
  | int => exact compositional.bind compositional.signed fun _ => compositional.pure _
  | float => exact compositional.bind compositional.u64 fun _ => compositional.pure _
  | bool => exact compositional.bind compositional.bool fun _ => compositional.pure _
  | string => exact compositional.bind compositional.string fun _ => compositional.pure _
  | vector => exact collection fun count => compositional.replicate compositional.component count
  | hashes => exact collection fun count => compositional.hashes count
  | list => exact collection fun count => compositional.replicate holds count
  | map => exact collection fun count => compositional.entriesAfter holds [] count
  | bloom => exact compositional.bind compositional.bloomFilter fun _ => compositional.pure _
  | digest => exact compositional.bind compositional.digest fun _ => compositional.pure _

theorem typedWithin (compositional : Compositional property) (types : TypeTable) (levels : Nat) :
    property (Reader.typedWithin types levels) := by
  induction levels with
  | zero =>
      rw [typedWithin_eq_tagged]
      exact compositional.tagged compositional.u32 fun type =>
        compositional.nested (compositional.fail .nestingTooDeep)
  | succ levels ih =>
      rw [typedWithin_eq_tagged]
      exact compositional.tagged compositional.u32 fun type =>
        compositional.nested (compositional.payloadWith ih type)

theorem typed (compositional : Compositional property) (types : TypeTable) :
    property (Reader.typed types) :=
  compositional.typedWithin types maxNesting

theorem payload (compositional : Compositional property) (types : TypeTable) (type : ValueType) :
    property (Reader.payload types type) :=
  compositional.payloadWith (compositional.typed types) type

theorem attributes (compositional : Compositional property) (types : TypeTable) :
    property (Reader.attributes types) :=
  compositional.bind compositional.length fun count =>
    compositional.entriesAfter (compositional.typed types) [] count

end Compositional

end Reader

end Resemblance
