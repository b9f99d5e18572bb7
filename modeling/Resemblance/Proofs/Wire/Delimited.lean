import Resemblance.Wire.Source

/-!
# Delimited reading

A reader takes bytes from the front of a source. `Reader.Takes` says which bytes it takes for which
result, wherever they stand and whatever follows them; `Reader.Regular` says that this relation is
all there is to the reader's successes, and that only the format of the bytes is to blame for its
failures.

Both are closed under sequencing, so the regularity of a reader follows its definition. The bytes
that a sequence takes split into those that its parts take, in both directions: `Takes.bind` builds
them up and `Regular.takes_bind` takes them apart.
-/

namespace Resemblance

/-- A failure for which the format of a stream is to blame. -/
def Failure.IsFormat (failure : Failure) : Prop :=
  ∃ fault path? offset?, failure = .format fault path? offset?

theorem Source.failure_isFormat (source : Source) (fault : FormatFault) :
    (source.failure fault).IsFormat :=
  ⟨fault, none, some source.position, rfl⟩

theorem Source.shortage_isFormat {source : Source} (complete : source.ending = .endOfBytes)
    (fault : FormatFault) : (source.shortage fault).IsFormat := by
  simp only [shortage, complete]
  exact source.failure_isFormat fault

namespace Reader

variable {Result Next : Type}

/--
At a depth of nesting the reader takes exactly these bytes and gives this result, wherever the bytes
stand and whatever follows them.
-/
def Takes (reader : Reader Result) (depth : Nat) (bytes : List UInt8) (result : Result) : Prop :=
  ∀ position tail ending,
    reader ⟨bytes ++ tail, position, depth, ending⟩ =
      .ok result ⟨tail, position + bytes.length, depth, ending⟩

/-- The successes of the reader depend on nothing but the bytes it takes. -/
structure Regular (reader : Reader Result) : Prop where
  /-- A success takes bytes from the front that have the same success everywhere. -/
  delimited : ∀ {source result after}, reader source = .ok result after →
    ∃ bytes, source.rest = bytes ++ after.rest ∧ reader.Takes source.depth bytes result
  /-- A failure on a complete byte string is a failure of the format. -/
  blamesFormat : ∀ {source failure after}, source.ending = .endOfBytes →
    reader source = .error failure after → failure.IsFormat

/-! ## Sequences -/

theorem bind_eq_ok {reader : Reader Result} {next : Result → Reader Next} {source after : Source}
    {outcome : Next} :
    (reader >>= next) source = .ok outcome after ↔
      ∃ result between, reader source = .ok result between ∧
        next result between = .ok outcome after := by
  simp only [bind, EStateM.bind]
  cases reader source with
  | ok result between =>
      constructor
      · intro success
        exact ⟨result, between, rfl, success⟩
      · rintro ⟨_, _, ⟨rfl, rfl⟩, success⟩
        exact success
  | error failure between => simp

theorem bind_eq_error {reader : Reader Result} {next : Result → Reader Next}
    {source after : Source} {failure : Failure} :
    (reader >>= next) source = .error failure after ↔
      reader source = .error failure after ∨
        ∃ result between, reader source = .ok result between ∧
          next result between = .error failure after := by
  simp only [bind, EStateM.bind]
  cases reader source with
  | ok result between =>
      constructor
      · intro failed
        exact Or.inr ⟨result, between, rfl, failed⟩
      · rintro (impossible | ⟨_, _, ⟨rfl, rfl⟩, failed⟩)
        · cases impossible
        · exact failed
  | error failure between => simp

theorem pure_eq_ok {source after : Source} {result outcome : Result} :
    (pure result : Reader Result) source = .ok outcome after ↔
      result = outcome ∧ source = after := by
  simp [pure, EStateM.pure]

theorem Takes.pure {depth : Nat} (result : Result) :
    (Pure.pure result : Reader Result).Takes depth [] result := by
  intro position tail ending
  rfl

/-- A sequence whose first step takes the front of a source goes on behind it. -/
theorem Takes.bind_eq {reader : Reader Result} {next : Result → Reader Next} {depth : Nat}
    {front : List UInt8} {result : Result} (takes : reader.Takes depth front result)
    (position : Nat) (rest : List UInt8) (ending : Ending) :
    (reader >>= next) ⟨front ++ rest, position, depth, ending⟩ =
      next result ⟨rest, position + front.length, depth, ending⟩ := by
  simp only [Bind.bind, EStateM.bind, takes position rest ending]

theorem Takes.bind {reader : Reader Result} {next : Result → Reader Next} {depth : Nat}
    {front back : List UInt8} {result : Result} {outcome : Next}
    (first : reader.Takes depth front result) (second : (next result).Takes depth back outcome) :
    (reader >>= next).Takes depth (front ++ back) outcome := by
  intro position tail ending
  rw [bind_eq_ok]
  refine ⟨result, ⟨back ++ tail, position + front.length, depth, ending⟩, ?_, ?_⟩
  · rw [List.append_assoc]
    exact first position (back ++ tail) ending
  · rw [List.length_append, ← Nat.add_assoc]
    exact second (position + front.length) tail ending

/-- The last step of a reader may process what was read, as long as it takes nothing. -/
theorem Takes.andThen {reader : Reader Result} {next : Result → Reader Next} {depth : Nat}
    {bytes : List UInt8} {result : Result} {outcome : Next}
    (first : reader.Takes depth bytes result) (last : (next result).Takes depth [] outcome) :
    (reader >>= next).Takes depth bytes outcome := by
  have both := first.bind last
  rwa [List.append_nil] at both

namespace Regular

/-- What a regular reader leaves behind, in terms of the bytes it took. -/
theorem takes_of_ok {reader : Reader Result} (regular : reader.Regular) {source after : Source}
    {result : Result} (success : reader source = .ok result after) :
    ∃ bytes, reader.Takes source.depth bytes result ∧ source.rest = bytes ++ after.rest ∧
      after = ⟨after.rest, source.position + bytes.length, source.depth, source.ending⟩ := by
  rcases regular.delimited success with ⟨bytes, split, takes⟩
  refine ⟨bytes, takes, split, ?_⟩
  have again := takes source.position after.rest source.ending
  rw [← split] at again
  have equal := success.symm.trans again
  simp only [EStateM.Result.ok.injEq, true_and] at equal
  exact equal

theorem takes_of_eq_ok {reader : Reader Result} (regular : reader.Regular)
    {bytes rest : List UInt8} {position after depth : Nat} {ending : Ending} {result : Result}
    (success : reader ⟨bytes ++ rest, position, depth, ending⟩ =
      .ok result ⟨rest, after, depth, ending⟩) :
    reader.Takes depth bytes result := by
  rcases regular.delimited success with ⟨taken, split, takes⟩
  have equal : bytes = taken := List.append_cancel_right split
  rwa [equal]

theorem pure (result : Result) : (Pure.pure result : Reader Result).Regular where
  delimited := by
    intro source outcome after success
    rw [pure_eq_ok] at success
    rcases success with ⟨rfl, rfl⟩
    exact ⟨[], rfl, .pure result⟩
  blamesFormat := by
    intro source failure after complete impossible
    cases impossible

/-- The second step has to be regular only after results that the first step can give. -/
theorem bind_of {reader : Reader Result} {next : Result → Reader Next} (first : reader.Regular)
    (second : ∀ {depth bytes result}, reader.Takes depth bytes result → (next result).Regular) :
    (reader >>= next).Regular where
  delimited := by
    intro source outcome after success
    rcases bind_eq_ok.mp success with ⟨result, between, firstSuccess, secondSuccess⟩
    rcases first.takes_of_ok firstSuccess with ⟨front, firstTakes, firstSplit, betweenEq⟩
    rcases (second firstTakes).delimited secondSuccess with ⟨back, secondSplit, secondTakes⟩
    have depthEq : between.depth = source.depth := by rw [betweenEq]
    rw [depthEq] at secondTakes
    refine ⟨front ++ back, ?_, firstTakes.bind secondTakes⟩
    rw [firstSplit, secondSplit, List.append_assoc]
  blamesFormat := by
    intro source failure after complete failed
    rcases bind_eq_error.mp failed with firstFailed | ⟨result, between, success, secondFailed⟩
    · exact first.blamesFormat complete firstFailed
    · rcases first.takes_of_ok success with ⟨front, firstTakes, _, betweenEq⟩
      refine (second firstTakes).blamesFormat ?_ secondFailed
      rw [betweenEq]
      exact complete

theorem bind {reader : Reader Result} {next : Result → Reader Next} (first : reader.Regular)
    (second : ∀ result, (next result).Regular) : (reader >>= next).Regular :=
  first.bind_of fun _ => second _

/-- The bytes that a sequence takes are those that its parts take. -/
theorem takes_bind {reader : Reader Result} {next : Result → Reader Next} (first : reader.Regular)
    (second : ∀ result, (next result).Regular) {depth : Nat} {bytes : List UInt8} {outcome : Next}
    (takes : (reader >>= next).Takes depth bytes outcome) :
    ∃ front back result, bytes = front ++ back ∧ reader.Takes depth front result ∧
      (next result).Takes depth back outcome := by
  have success := takes 0 [] .endOfBytes
  rw [List.append_nil] at success
  rcases bind_eq_ok.mp success with ⟨result, between, firstSuccess, secondSuccess⟩
  rcases first.takes_of_ok firstSuccess with ⟨front, firstTakes, firstSplit, betweenEq⟩
  rw [betweenEq] at secondSuccess
  refine ⟨front, between.rest, result, firstSplit, firstTakes, ?_⟩
  apply (second result).takes_of_eq_ok
  rw [List.append_nil]
  exact secondSuccess

/-- A sequence takes exactly what its parts take, one behind the other. -/
theorem takes_bind_iff {reader : Reader Result} {next : Result → Reader Next}
    (first : reader.Regular) (second : ∀ result, (next result).Regular) {depth : Nat}
    {bytes : List UInt8} {outcome : Next} :
    (reader >>= next).Takes depth bytes outcome ↔
      ∃ front back result, bytes = front ++ back ∧ reader.Takes depth front result ∧
        (next result).Takes depth back outcome := by
  constructor
  · exact first.takes_bind second
  · rintro ⟨front, back, result, rfl, firstTakes, secondTakes⟩
    exact firstTakes.bind secondTakes

/-- The first step of a sequence that succeeds takes bytes and stays at its depth. -/
theorem takes_first {reader : Reader Result} {next : Result → Reader Next}
    (first : reader.Regular) {source after : Source} {outcome : Next}
    (success : (reader >>= next) source = .ok outcome after) :
    ∃ bytes result between, reader.Takes source.depth bytes result ∧
      between.depth = source.depth ∧ next result between = .ok outcome after := by
  rcases bind_eq_ok.mp success with ⟨result, between, firstSuccess, secondSuccess⟩
  rcases first.takes_of_ok firstSuccess with ⟨bytes, takes, _, betweenEq⟩
  refine ⟨bytes, result, between, takes, ?_, secondSuccess⟩
  rw [betweenEq]

end Regular

/-! ## Failing -/

theorem Regular.fail (fault : FormatFault) : (fail fault : Reader Result).Regular where
  delimited := by
    intro source result after impossible
    cases impossible
  blamesFormat := by
    intro source failure after _ failed
    simp only [Reader.fail, EStateM.Result.error.injEq] at failed
    rw [← failed.1]
    exact source.failure_isFormat fault

theorem Regular.failAt (offset : Nat) (fault : FormatFault) :
    (failAt offset fault : Reader Result).Regular where
  delimited := by
    intro source result after impossible
    cases impossible
  blamesFormat := by
    intro source failure after _ failed
    simp only [Reader.failAt, EStateM.Result.error.injEq] at failed
    exact ⟨fault, none, some offset, failed.1.symm⟩

theorem not_takes_fail {fault : FormatFault} {depth : Nat} {bytes : List UInt8}
    {result : Result} : ¬(fail fault : Reader Result).Takes depth bytes result := by
  intro takes
  cases takes 0 [] .endOfBytes

theorem takes_pure_iff {depth : Nat} {bytes : List UInt8} {result outcome : Result} :
    (pure result : Reader Result).Takes depth bytes outcome ↔ bytes = [] ∧ result = outcome := by
  constructor
  · intro takes
    have success := takes 0 [] .endOfBytes
    rw [pure_eq_ok] at success
    simp only [List.append_nil, Source.mk.injEq] at success
    exact ⟨success.2.1, success.1⟩
  · rintro ⟨rfl, rfl⟩
    exact .pure result

/-- The bytes that a reader takes are those that it takes before its result is changed. -/
theorem Regular.takes_map {reader : Reader Result} (regular : reader.Regular)
    {change : Result → Next} {depth : Nat} {bytes : List UInt8} {outcome : Next}
    (takes : (reader >>= fun result => Pure.pure (change result)).Takes depth bytes outcome) :
    ∃ result, reader.Takes depth bytes result ∧ change result = outcome := by
  rcases regular.takes_bind (fun result => .pure (change result)) takes with
    ⟨front, back, result, rfl, first, last⟩
  rcases takes_pure_iff.mp last with ⟨rfl, rfl⟩
  rw [List.append_nil]
  exact ⟨result, first, rfl⟩

/-! ## Outcomes that are known -/

theorem Regular.liftExcept {outcome : Except Failure Result}
    (format : ∀ failure, outcome = .error failure → failure.IsFormat) :
    (liftExcept outcome : Reader Result).Regular := by
  cases outcome with
  | ok result => exact .pure result
  | error failure =>
      constructor
      · intro source result after impossible
        cases impossible
      · intro source other after _ failed
        have equal : EStateM.Result.error failure source = .error other after := failed
        rw [EStateM.Result.error.injEq] at equal
        rw [← equal.1]
        exact format failure rfl

theorem liftExcept_eq_ok_iff {outcome : Except Failure Result} {source after : Source}
    {result : Result} :
    (liftExcept outcome : Reader Result) source = .ok result after ↔
      outcome = .ok result ∧ source = after := by
  cases outcome with
  | ok known =>
      rw [Except.ok.injEq]
      exact pure_eq_ok
  | error failure =>
      constructor
      · intro impossible
        cases impossible
      · rintro ⟨impossible, _⟩
        cases impossible

theorem takes_liftExcept_iff {outcome : Except Failure Result} {depth : Nat} {bytes : List UInt8}
    {result : Result} :
    (liftExcept outcome : Reader Result).Takes depth bytes result ↔
      bytes = [] ∧ outcome = .ok result := by
  cases outcome with
  | ok known =>
      rw [Except.ok.injEq]
      exact takes_pure_iff
  | error failure =>
      constructor
      · intro takes
        cases takes 0 [] .endOfBytes
      · rintro ⟨_, impossible⟩
        cases impossible

/-! ## Offsets -/

/-- A reader that knows an offset uses it for failures only. -/
def OffsetFree (next : Nat → Reader Result) : Prop :=
  ∀ offset other source result after,
    next offset source = .ok result after → next other source = .ok result after

theorem takes_position_iff {next : Nat → Reader Result} (offsetFree : OffsetFree next)
    (offset : Nat) {depth : Nat} {bytes : List UInt8} {result : Result} :
    (position >>= next).Takes depth bytes result ↔ (next offset).Takes depth bytes result := by
  constructor
  · intro takes position tail ending
    exact offsetFree position offset _ _ _ (takes position tail ending)
  · intro takes position tail ending
    exact offsetFree offset position _ _ _ (takes position tail ending)

theorem Regular.position {next : Nat → Reader Result} (offsetFree : OffsetFree next)
    (regular : ∀ offset, (next offset).Regular) : (position >>= next).Regular where
  delimited := by
    intro source result after success
    rcases (regular source.position).delimited success with ⟨bytes, split, takes⟩
    exact ⟨bytes, split, (takes_position_iff offsetFree source.position).mpr takes⟩
  blamesFormat := by
    intro source failure after complete failed
    exact (regular source.position).blamesFormat complete failed

/-! ## Nesting -/

theorem nested_eq_ok {inner : Reader Result} {source after : Source} {result : Result} :
    nested inner source = .ok result after ↔
      source.depth < maxNesting ∧
        ∃ between, inner { source with depth := source.depth + 1 } = .ok result between ∧
          after = { between with depth := between.depth - 1 } := by
  simp only [nested, bind, EStateM.bind, enter]
  by_cases tooDeep : maxNesting ≤ source.depth
  · simp [tooDeep, Nat.not_lt.mpr tooDeep]
  · rw [if_neg tooDeep]
    simp only [Nat.not_le.mp tooDeep, true_and]
    cases inner { source with depth := source.depth + 1 } with
    | ok result between =>
        simp only [EStateM.Result.ok.injEq]
        constructor
        · rintro ⟨rfl, rfl⟩
          exact ⟨between, ⟨rfl, rfl⟩, rfl⟩
        · rintro ⟨_, ⟨rfl, rfl⟩, rfl⟩
          exact ⟨rfl, rfl⟩
    | error failure between => simp

theorem nested_eq_error {inner : Reader Result} {source after : Source} {failure : Failure} :
    nested inner source = .error failure after ↔
      maxNesting ≤ source.depth ∧ failure = source.failure .nestingTooDeep ∧ after = source ∨
        source.depth < maxNesting ∧
          ∃ between, inner { source with depth := source.depth + 1 } = .error failure between ∧
            after = { between with depth := between.depth - 1 } := by
  simp only [nested, bind, EStateM.bind, enter]
  by_cases tooDeep : maxNesting ≤ source.depth
  · simp [tooDeep, Nat.not_lt.mpr tooDeep, eq_comm]
  · rw [if_neg tooDeep]
    simp only [tooDeep, Nat.not_le.mp tooDeep, false_and, true_and, false_or]
    cases inner { source with depth := source.depth + 1 } with
    | ok result between => simp
    | error innerFailure between =>
        simp only [EStateM.Result.error.injEq]
        constructor
        · rintro ⟨rfl, rfl⟩
          exact ⟨between, ⟨rfl, rfl⟩, rfl⟩
        · rintro ⟨_, ⟨rfl, rfl⟩, rfl⟩
          exact ⟨rfl, rfl⟩

theorem nested_takes_iff {inner : Reader Result} (regular : inner.Regular) {depth : Nat}
    {bytes : List UInt8} {result : Result} :
    (nested inner).Takes depth bytes result ↔
      depth < maxNesting ∧ inner.Takes (depth + 1) bytes result := by
  constructor
  · intro takes
    rcases nested_eq_ok.mp (takes 0 [] .endOfBytes) with ⟨shallow, between, success, afterEq⟩
    refine ⟨shallow, ?_⟩
    rcases regular.takes_of_ok success with ⟨taken, takesTaken, split, _⟩
    have restEq : between.rest = [] := (congrArg Source.rest afterEq).symm
    simp only [List.append_nil, restEq] at split
    rwa [split]
  · rintro ⟨shallow, takes⟩
    intro position tail ending
    rw [nested_eq_ok]
    exact ⟨shallow, _, takes position tail ending, rfl⟩

theorem Regular.nested {inner : Reader Result} (regular : inner.Regular) :
    (nested inner).Regular where
  delimited := by
    intro source result after success
    rcases nested_eq_ok.mp success with ⟨shallow, between, innerSuccess, rfl⟩
    rcases regular.delimited innerSuccess with ⟨bytes, split, takes⟩
    exact ⟨bytes, split, (nested_takes_iff regular).mpr ⟨shallow, takes⟩⟩
  blamesFormat := by
    intro source failure after complete failed
    rcases nested_eq_error.mp failed with ⟨_, rfl, _⟩ | ⟨_, between, innerFailed, _⟩
    · exact source.failure_isFormat .nestingTooDeep
    · have completeInside :
          ({ source with depth := source.depth + 1 } : Source).ending = .endOfBytes := complete
      exact regular.blamesFormat completeInside innerFailed

/-! ## Exact numbers of bytes and of values -/

theorem exact_takes {bytes : List UInt8} {count : Nat} (size : bytes.length = count)
    (depth : Nat) : (exact count).Takes depth bytes ⟨bytes, size⟩ := by
  subst size
  intro position tail ending
  simp [exact, Source.advance]

theorem exact_takes_iff {count depth : Nat} {bytes : List UInt8}
    {result : { bytes : List UInt8 // bytes.length = count }} :
    (exact count).Takes depth bytes result ↔ bytes = result.val := by
  constructor
  · intro takes
    have success := takes 0 [] .endOfBytes
    simp only [Reader.exact, List.append_nil] at success
    split at success
    · simp only [EStateM.Result.ok.injEq, Source.advance, Source.mk.injEq] at success
      rcases success with ⟨rfl, nothingLeft, _⟩
      simpa [nothingLeft] using (List.take_append_drop count bytes).symm
    · cases success
  · rintro rfl
    exact exact_takes result.property depth

theorem Regular.exact (count : Nat) : (exact count).Regular where
  delimited := by
    intro source result after success
    simp only [Reader.exact] at success
    split at success
    · rename_i complete
      simp only [EStateM.Result.ok.injEq] at success
      rcases success with ⟨rfl, rfl⟩
      exact ⟨source.rest.take count, (List.take_append_drop count source.rest).symm,
        exact_takes complete source.depth⟩
    · cases success
  blamesFormat := by
    intro source failure after complete failed
    simp only [Reader.exact] at failed
    split at failed
    · cases failed
    · simp only [EStateM.Result.error.injEq] at failed
      rw [← failed.1]
      exact Source.shortage_isFormat complete .truncated

theorem Regular.replicate {item : Reader Result} (regular : item.Regular) (count : Nat) :
    (replicate count item).Regular := by
  induction count with
  | zero => exact .pure []
  | succ count ih =>
      exact regular.bind fun first => ih.bind fun others => .pure (first :: others)

/-- Whatever holds of each value that a reader gives holds of all values of a replicated reader. -/
theorem forall_of_replicate_takes {item : Reader Result} (regular : item.Regular)
    (property : Result → Prop) {depth : Nat}
    (each : ∀ {bytes result}, item.Takes depth bytes result → property result)
    {count : Nat} {bytes : List UInt8} {results : List Result}
    (takes : (replicate count item).Takes depth bytes results) :
    results.length = count ∧ ∀ result ∈ results, property result := by
  induction count generalizing bytes results with
  | zero =>
      rcases takes_pure_iff.mp takes with ⟨_, rfl⟩
      simp
  | succ count ih =>
      rcases regular.takes_bind (fun first =>
        (regular.replicate count).bind fun others => .pure (first :: others)) takes with
        ⟨_, _, first, _, firstTakes, laterTakes⟩
      rcases (regular.replicate count).takes_map laterTakes with ⟨others, othersTake, rfl⟩
      rcases ih othersTake with ⟨lengthEq, holds⟩
      refine ⟨by simp [lengthEq], ?_⟩
      intro result member
      rcases List.mem_cons.mp member with rfl | later
      · exact each firstTakes
      · exact holds result later

end Reader

end Resemblance
