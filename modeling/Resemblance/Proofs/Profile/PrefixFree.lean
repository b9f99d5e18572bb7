import Resemblance.Proofs.Profile.Reading

/-!
# Accepted streams are prefix-free

No accepted byte string is a proper prefix of another, and what makes the longer or shorter string
unacceptable is always its format. This holds of everything that an assembled profile accepts, also
of streams that no writer of profiles gives.
-/

namespace Resemblance

/-- The front of a byte string that a regular reader takes as a whole is not taken as a whole. -/
theorem Reader.not_takes_front {Result : Type} {reader : Reader Result} {depth : Nat}
    {front back : List UInt8} {result other : Result} (nonempty : back ≠ [])
    (takes : reader.Takes depth (front ++ back) result) : ¬reader.Takes depth front other := by
  intro takesFront
  have whole := takes 0 [] .endOfBytes
  have stopped := takesFront 0 back .endOfBytes
  rw [List.append_nil, stopped] at whole
  simp only [EStateM.Result.ok.injEq, Source.mk.injEq] at whole
  exact nonempty whole.2.1

/-- Cutting an accepted byte string anywhere, or adding to it, makes it malformed. -/
theorem Assembly.prefixFree_of_readFrom_eq_ok {assembly : Assembly} {profile loaded : Profile}
    {bytes : List UInt8} (built : assembly.build = .ok profile)
    (accepted : profile.readFrom (.ofBytes bytes) = .ok loaded) :
    (∀ front back, bytes = front ++ back → back ≠ [] →
      ∃ failure, profile.readFrom (.ofBytes front) = .error failure ∧ failure.IsFormat) ∧
    ∀ more, more ≠ [] →
      ∃ failure, profile.readFrom (.ofBytes (bytes ++ more)) = .error failure ∧
        failure.IsFormat := by
  have regular := (assembled_of_build_eq built).regular
  rcases Profile.takes_of_readFrom_eq_ok regular accepted with ⟨filled, takes, _⟩
  constructor
  · rintro front back rfl nonempty
    cases outcome : profile.readFrom (.ofBytes front) with
    | error failure =>
        exact ⟨failure, rfl, Profile.isFormat_of_readFrom_eq_error regular outcome⟩
    | ok other =>
        rcases Profile.takes_of_readFrom_eq_ok regular outcome with ⟨otherFilled, takesFront, _⟩
        exact absurd takesFront (Reader.not_takes_front nonempty takes)
  · intro more nonempty
    refine ⟨_, Profile.readFrom_append_of_takes takes nonempty, ?_⟩
    exact ⟨.trailingBytes, none, none, rfl⟩

/-- A stream of one section, a table of one descriptor whose size has a longer form than needed. -/
def overlongTable : List UInt8 :=
  [1, 0, 0, 0, 0x4d, 0x55, 0xb2, 0x63, 0x81, 0x00, 0x01, 0x78, 0x01]

/-- The profile of the standard configuration accepts the overlong table. -/
theorem exists_readFrom_overlongTable_eq_ok :
    ∃ profile loaded, (Assembly.ofConfig .standard).build = .ok profile ∧
      profile.readFrom (.ofBytes overlongTable) = .ok loaded ∧
      profile.types = .standard ∧ loaded.stored.length = 6 := by
  have evaluated : (match (Assembly.ofConfig .standard).build with
      | .error _ => false
      | .ok profile =>
          match profile.readFrom (.ofBytes overlongTable) with
          | .error _ => false
          | .ok loaded =>
              decide (profile.types = .standard ∧ loaded.stored.length = 6)) = true := by
    decide +kernel
  cases built : (Assembly.ofConfig .standard).build with
  | error failure => simp [built] at evaluated
  | ok profile =>
      cases outcome : profile.readFrom (.ofBytes overlongTable) with
      | error failure => simp [built, outcome] at evaluated
      | ok loaded =>
          simp only [built, outcome, decide_eq_true_eq] at evaluated
          exact ⟨profile, loaded, rfl, outcome, evaluated⟩

theorem Assembly.prefixFree_overlongTable :
    ∃ profile loaded, (ofConfig .standard).build = .ok profile ∧
      profile.readFrom (.ofBytes overlongTable) = .ok loaded ∧
      ∃ failure, profile.readFrom (.ofBytes (overlongTable ++ [0])) = .error failure ∧
        failure.IsFormat := by
  rcases exists_readFrom_overlongTable_eq_ok with ⟨profile, loaded, built, accepted, _⟩
  refine ⟨profile, loaded, built, accepted, ?_⟩
  exact (prefixFree_of_readFrom_eq_ok built accepted).2 [0] (List.cons_ne_nil 0 [])

end Resemblance
