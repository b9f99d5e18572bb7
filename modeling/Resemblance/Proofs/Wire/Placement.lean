import Resemblance.Proofs.Wire.Orderly

/-!
# Placed failures

A failure of the format that a reader notices always carries an offset. Bytes that run out are a
failure of the format only where the source ends as it should, and then they are missing at the
position that was reached; everything else is refused at the position behind it, or at the offset
where it began. `Reader.Orderly` says in which range such an offset lies.

Being placed is closed under sequencing, so it follows the definitions of the readers.
-/

namespace Resemblance

/-- If the format is to blame, the failure has an offset. -/
def Failure.IsPlaced (failure : Failure) : Prop :=
  ∀ fault path? offset?, failure = .format fault path? offset? → offset?.isSome

namespace Failure.IsPlaced

theorem format (fault : FormatFault) (path? : Option String) (offset : Nat) :
    (Failure.format fault path? (some offset)).IsPlaced := by
  rintro _ _ _ ⟨⟩
  rfl

theorem shortage (source : Source) (fault : FormatFault) : (source.shortage fault).IsPlaced := by
  rw [Source.shortage]
  split
  · exact format fault none source.position
  · rintro _ _ _ ⟨⟩

end Failure.IsPlaced

namespace Reader

variable {Result Next : Type}

/-- Every failure of the reader is placed. -/
def Places (reader : Reader Result) : Prop :=
  ∀ source failure after, reader source = .error failure after → failure.IsPlaced

namespace Places

theorem pure (result : Result) : (Pure.pure result : Reader Result).Places := by
  intro source failure after impossible
  cases impossible

theorem bind {reader : Reader Result} {next : Result → Reader Next} (first : reader.Places)
    (second : ∀ result, (next result).Places) : (reader >>= next).Places := by
  intro source failure after failed
  rcases bind_eq_error.mp failed with firstFailed | ⟨result, _, _, secondFailed⟩
  · exact first _ _ _ firstFailed
  · exact second result _ _ _ secondFailed

theorem fail (fault : FormatFault) : (Reader.fail fault : Reader Result).Places := by
  intro source failure after failed
  simp only [Reader.fail, EStateM.Result.error.injEq] at failed
  rw [← failed.1]
  exact .format fault none source.position

theorem nested {inner : Reader Result} (places : inner.Places) : (Reader.nested inner).Places := by
  intro source failure after failed
  rcases nested_eq_error.mp failed with ⟨_, rfl, _⟩ | ⟨_, between, innerFailed, _⟩
  · exact .format .nestingTooDeep none source.position
  · exact places _ _ _ innerFailed

theorem exact (count : Nat) : (Reader.exact count).Places := by
  intro source failure after failed
  simp only [Reader.exact] at failed
  split at failed
  · cases failed
  · rw [EStateM.Result.error.injEq] at failed
    rw [← failed.1]
    exact .shortage source .truncated

theorem varint : Reader.varint.Places := by
  intro source failure after failed
  simp only [Reader.varint] at failed
  split at failed
  · cases failed
  · rw [EStateM.Result.error.injEq] at failed
    rw [← failed.1]
    exact .shortage _ .truncatedVarint
  · rw [EStateM.Result.error.injEq] at failed
    rw [← failed.1]
    exact .format .varintOverflow none _

theorem tagged {Tag Kind : Type} {tag : Reader Tag} {kind? : Tag → Option Kind}
    {fault : Tag → FormatFault} {body : Kind → Reader Result} (mark : tag.Places)
    (inner : ∀ kind, (body kind).Places) : (Reader.tagged tag kind? fault body).Places := by
  intro source failure after failed
  rcases tagged_eq_error.mp failed with tagFailed | ⟨_, _, _, ⟨_, rfl, _⟩ | ⟨kind, _, bodyFailed⟩⟩
  · exact mark _ _ _ tagFailed
  · exact .format _ none source.position
  · exact inner kind _ _ _ bodyFailed

theorem compositional : Compositional Places where
  pure := pure
  bind := bind
  fail := fail
  exact := exact
  varint := varint
  nested := nested
  tagged := tagged

end Places

end Reader

end Resemblance
