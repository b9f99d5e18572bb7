import Resemblance.Proofs.Wire.Compositional

/-!
# Orderly reading

An orderly reader moves a source forward by the bytes that it takes and leaves everything else about
it as it was, whether it succeeds or fails. So the position counts the bytes before it and never runs
past the end, the depth of nesting is restored behind every constant, and a failure of the format is
located between the place where the reading began and the place that it reached.

Unlike `Reader.Regular`, this says something about the source that a failure leaves, and it holds of
every reader, also of one that fails for other reasons than the format.
-/

namespace Resemblance

/-- Some bytes were taken from the front of a source, and nothing else about it has changed. -/
structure Source.Reaches (source after : Source) : Prop where
  rest_suffix : after.rest <:+ source.rest
  /-- The position has grown by the number of bytes that were taken. -/
  position_eq : after.position + after.rest.length = source.position + source.rest.length
  depth_eq : after.depth = source.depth
  ending_eq : after.ending = source.ending

namespace Source.Reaches

theorem refl (source : Source) : source.Reaches source :=
  ⟨List.suffix_rfl, rfl, rfl, rfl⟩

theorem trans {source between after : Source} (first : source.Reaches between)
    (second : between.Reaches after) : source.Reaches after where
  rest_suffix := second.rest_suffix.trans first.rest_suffix
  position_eq := second.position_eq.trans first.position_eq
  depth_eq := second.depth_eq.trans first.depth_eq
  ending_eq := second.ending_eq.trans first.ending_eq

theorem position_le {source after : Source} (reaches : source.Reaches after) :
    source.position ≤ after.position := by
  have shorter := reaches.rest_suffix.length_le
  have sum := reaches.position_eq
  omega

theorem advance {source : Source} {count : Nat} (enough : count ≤ source.rest.length) :
    source.Reaches (source.advance count) where
  rest_suffix := List.drop_suffix count source.rest
  position_eq := by
    simp only [Source.advance, List.length_drop]
    omega
  depth_eq := rfl
  ending_eq := rfl

end Source.Reaches

/-- A failure of the format names no file, and an offset from `first` to `last` if it names one. -/
def Failure.LocatedWithin (failure : Failure) (first last : Nat) : Prop :=
  ∀ fault path? offset?, failure = .format fault path? offset? →
    path? = none ∧ ∀ offset, offset? = some offset → first ≤ offset ∧ offset ≤ last

namespace Failure.LocatedWithin

theorem format {fault : FormatFault} {offset first last : Nat} (first_le : first ≤ offset)
    (le_last : offset ≤ last) :
    (Failure.format fault none (some offset)).LocatedWithin first last := by
  rintro _ _ _ ⟨⟩
  refine ⟨rfl, ?_⟩
  rintro _ ⟨⟩
  exact ⟨first_le, le_last⟩

theorem extend {failure : Failure} {first between last : Nat}
    (located : failure.LocatedWithin between last) (first_le : first ≤ between) :
    failure.LocatedWithin first last := by
  intro fault path? offset? failureEq
  rcases located fault path? offset? failureEq with ⟨pathEq, bounds⟩
  refine ⟨pathEq, ?_⟩
  intro offset offsetEq
  rcases bounds offset offsetEq with ⟨between_le, le_last⟩
  exact ⟨Nat.le_trans first_le between_le, le_last⟩

theorem shortage {source : Source} {first : Nat} (first_le : first ≤ source.position)
    (fault : FormatFault) : (source.shortage fault).LocatedWithin first source.position := by
  rw [Source.shortage]
  split
  · exact format first_le (Nat.le_refl source.position)
  · rintro _ _ _ ⟨⟩

end Failure.LocatedWithin

namespace Reader

variable {Result Next : Type}

/-- Whatever the outcome is, the reader keeps the books of a source in order. -/
structure Orderly (reader : Reader Result) : Prop where
  reaches : ∀ {source result after}, reader source = .ok result after → source.Reaches after
  /-- A failure leaves the source at a place before which the failure is located. -/
  locates : ∀ {source failure after}, reader source = .error failure after →
    source.Reaches after ∧ failure.LocatedWithin source.position after.position

namespace Orderly

/-! ## Sequences -/

theorem pure (result : Result) : (Pure.pure result : Reader Result).Orderly where
  reaches := by
    intro source outcome after success
    rcases pure_eq_ok.mp success with ⟨_, rfl⟩
    exact .refl source
  locates := by
    intro source failure after impossible
    cases impossible

theorem bind {reader : Reader Result} {next : Result → Reader Next} (first : reader.Orderly)
    (second : ∀ result, (next result).Orderly) : (reader >>= next).Orderly where
  reaches := by
    intro source outcome after success
    rcases bind_eq_ok.mp success with ⟨result, between, firstSuccess, secondSuccess⟩
    exact (first.reaches firstSuccess).trans ((second result).reaches secondSuccess)
  locates := by
    intro source failure after failed
    rcases bind_eq_error.mp failed with firstFailed | ⟨result, between, success, secondFailed⟩
    · exact first.locates firstFailed
    · have moved := first.reaches success
      rcases (second result).locates secondFailed with ⟨further, located⟩
      exact ⟨moved.trans further, located.extend moved.position_le⟩

theorem fail (fault : FormatFault) : (Reader.fail fault : Reader Result).Orderly where
  reaches := by
    intro source result after impossible
    cases impossible
  locates := by
    intro source failure after failed
    simp only [Reader.fail, EStateM.Result.error.injEq] at failed
    rcases failed with ⟨rfl, rfl⟩
    exact ⟨.refl source, .format (Nat.le_refl _) (Nat.le_refl _)⟩

/-- An outcome that is known may be a failure, if no offset belongs to it. -/
theorem ofExcept {outcome : Except Failure Result}
    (located : ∀ failure, outcome = .error failure → ∀ first last,
      failure.LocatedWithin first last) :
    (liftExcept outcome : Reader Result).Orderly := by
  cases outcome with
  | ok result => exact .pure result
  | error known =>
      constructor
      · intro source result after impossible
        cases impossible
      · intro source failure after failed
        have equal : EStateM.Result.error known source = .error failure after := failed
        rw [EStateM.Result.error.injEq] at equal
        rcases equal with ⟨rfl, rfl⟩
        exact ⟨.refl source, located known rfl _ _⟩

theorem nested {inner : Reader Result} (orderly : inner.Orderly) :
    (Reader.nested inner).Orderly where
  reaches := by
    intro source result after success
    rcases nested_eq_ok.mp success with ⟨_, between, innerSuccess, rfl⟩
    have inside := orderly.reaches innerSuccess
    refine ⟨inside.rest_suffix, inside.position_eq, ?_, inside.ending_eq⟩
    rw [inside.depth_eq, Nat.add_sub_cancel]
  locates := by
    intro source failure after failed
    rcases nested_eq_error.mp failed with ⟨_, rfl, rfl⟩ | ⟨_, between, innerFailed, rfl⟩
    · exact ⟨.refl _, .format (Nat.le_refl _) (Nat.le_refl _)⟩
    · rcases orderly.locates innerFailed with ⟨inside, located⟩
      refine ⟨⟨inside.rest_suffix, inside.position_eq, ?_, inside.ending_eq⟩, located⟩
      rw [inside.depth_eq, Nat.add_sub_cancel]

/-! ## Bytes and numbers -/

theorem exact (count : Nat) : (Reader.exact count).Orderly where
  reaches := by
    intro source result after success
    simp only [Reader.exact] at success
    split at success
    · rename_i complete
      simp only [EStateM.Result.ok.injEq] at success
      rcases success with ⟨_, rfl⟩
      rw [List.length_take] at complete
      exact .advance (by omega)
    · cases success
  locates := by
    intro source failure after failed
    simp only [Reader.exact] at failed
    split at failed
    · cases failed
    · simp only [EStateM.Result.error.injEq] at failed
      rcases failed with ⟨rfl, rfl⟩
      exact ⟨.refl source, .shortage (Nat.le_refl _) .truncated⟩

end Orderly

/-- A form that is no number ends within the bytes that there are. -/
theorem consumed_le_of_decodeFrom_eq_error {index sum consumed : Nat} {bytes : List UInt8}
    {reason : Varint.Reason}
    (failed : Varint.decodeFrom index sum bytes = .error ⟨reason, consumed⟩) :
    consumed ≤ index + bytes.length := by
  induction bytes generalizing index sum with
  | nil =>
      simp only [Varint.decodeFrom, Except.error.injEq, Varint.Fault.mk.injEq] at failed
      omega
  | cons byte bytes ih =>
      simp only [Varint.decodeFrom] at failed
      rw [List.length_cons]
      split at failed
      · simp only [Except.error.injEq, Varint.Fault.mk.injEq] at failed
        omega
      · split at failed
        · cases failed
        · split at failed
          · simp only [Except.error.injEq, Varint.Fault.mk.injEq] at failed
            omega
          · have later := ih failed
            omega

namespace Orderly

theorem varint : Reader.varint.Orderly where
  reaches := by
    intro source number after success
    simp only [Reader.varint] at success
    split at success
    · rename_i decoded consumed decodes
      simp only [EStateM.Result.ok.injEq] at success
      rcases success with ⟨_, rfl⟩
      rcases Varint.decodeFrom_delimited decodes with ⟨taken, rest, split, rfl, _⟩
      apply Source.Reaches.advance
      rw [split, List.length_append]
      omega
    · cases success
    · cases success
  locates := by
    intro source failure after failed
    simp only [Reader.varint] at failed
    split at failed
    · cases failed
    · rename_i consumed decodes
      simp only [EStateM.Result.error.injEq] at failed
      rcases failed with ⟨rfl, rfl⟩
      have consumed_le := consumed_le_of_decodeFrom_eq_error decodes
      exact ⟨.advance (by omega), .shortage (Nat.le_add_right _ _) .truncatedVarint⟩
    · rename_i consumed decodes
      simp only [EStateM.Result.error.injEq] at failed
      rcases failed with ⟨rfl, rfl⟩
      have consumed_le := consumed_le_of_decodeFrom_eq_error decodes
      exact ⟨.advance (by omega), .format (Nat.le_add_right _ _) (Nat.le_refl _)⟩

/-- An unknown tag is blamed on the offset where it began, which is before what was read of it. -/
theorem tagged {Tag Kind : Type} {tag : Reader Tag} {kind? : Tag → Option Kind}
    {fault : Tag → FormatFault} {body : Kind → Reader Result} (mark : tag.Orderly)
    (inner : ∀ kind, (body kind).Orderly) : (Reader.tagged tag kind? fault body).Orderly where
  reaches := by
    intro source result after success
    rcases tagged_eq_ok.mp success with ⟨_, between, kind, tagRead, _, bodyRead⟩
    exact (mark.reaches tagRead).trans ((inner kind).reaches bodyRead)
  locates := by
    intro source failure after failed
    rcases tagged_eq_error.mp failed with tagFailed | ⟨_, between, tagRead, outcome⟩
    · exact mark.locates tagFailed
    · have moved := mark.reaches tagRead
      rcases outcome with ⟨_, rfl, rfl⟩ | ⟨kind, _, bodyFailed⟩
      · exact ⟨moved, .format (Nat.le_refl _) moved.position_le⟩
      · rcases (inner kind).locates bodyFailed with ⟨further, located⟩
        exact ⟨moved.trans further, located.extend moved.position_le⟩

theorem compositional : Compositional Orderly where
  pure := pure
  bind := bind
  fail := fail
  exact := exact
  varint := varint
  nested := nested
  tagged := tagged

end Orderly

end Reader

end Resemblance
