import Resemblance.Proofs.Wire.Keyed

/-!
# Exchange under conditions

An `Exchange` says that a writer and a reader succeed. Here both sides also say when they do not: a
writer emits its bytes if a condition holds and fails otherwise, and a reader takes these bytes if
another condition holds and otherwise fails on every stream that begins with them. The conditions of
a sequence are the conjunctions of those of its steps, so the exact limits of a reader are collected
along its definition.
-/

namespace Resemblance

/-- On sinks without a limit the writer succeeds exactly under the condition, with these bytes. -/
structure Writer.EmitsIf (writer : Writer Unit) (condition : Prop) (bytes : List UInt8) : Prop where
  emits : condition → writer.Emits bytes
  fails : ¬condition → ∀ sink : Sink, sink.room? = none →
    ∃ failure after, writer sink = .error failure after

/-- On streams that begin with the bytes the reader succeeds exactly under the condition. -/
structure Reader.TakesIf {Result : Type} (reader : Reader Result) (condition : Prop) (depth : Nat)
    (bytes : List UInt8) (result : Result) : Prop where
  takes : condition → reader.Takes depth bytes result
  fails : ¬condition → ∀ position tail ending,
    ∃ failure after, reader ⟨bytes ++ tail, position, depth, ending⟩ = .error failure after

theorem Writer.EmitsIf.bind {first second : Writer Unit} {condition further : Prop}
    {front back : List UInt8} (firstEmits : first.EmitsIf condition front)
    (secondEmits : second.EmitsIf further back) :
    (first >>= fun _ => second).EmitsIf (condition ∧ further) (front ++ back) where
  emits := by
    rintro ⟨holds, holdsFurther⟩
    exact (firstEmits.emits holds).bind (secondEmits.emits holdsFurther)
  fails := by
    intro notBoth sink unlimited
    by_cases holds : condition
    · have middle := firstEmits.emits holds sink unlimited
      rcases secondEmits.fails (fun holdsFurther => notBoth ⟨holds, holdsFurther⟩)
        (sink.append front) unlimited with ⟨failure, after, failed⟩
      refine ⟨failure, after, ?_⟩
      simp only [Bind.bind, EStateM.bind, middle, failed]
    · rcases firstEmits.fails holds sink unlimited with ⟨failure, after, failed⟩
      refine ⟨failure, after, ?_⟩
      simp only [Bind.bind, EStateM.bind, failed]

theorem Writer.EmitsIf.of_emits {writer : Writer Unit} {bytes : List UInt8}
    (emits : writer.Emits bytes) : writer.EmitsIf True bytes :=
  ⟨fun _ => emits, fun impossible => absurd trivial impossible⟩

theorem Writer.EmitsIf.eq_ok_iff {writer : Writer Unit} {condition : Prop} {bytes : List UInt8}
    (emitsIf : writer.EmitsIf condition bytes) {sink after : Sink} (unlimited : sink.room? = none) :
    writer sink = .ok () after ↔ condition ∧ after = sink.append bytes := by
  constructor
  · intro success
    by_cases holds : condition
    · have equal := success.symm.trans (emitsIf.emits holds sink unlimited)
      rw [EStateM.Result.ok.injEq] at equal
      exact ⟨holds, equal.2⟩
    · rcases emitsIf.fails holds sink unlimited with ⟨failure, left, failed⟩
      rw [failed] at success
      cases success
  · rintro ⟨holds, rfl⟩
    exact emitsIf.emits holds sink unlimited

namespace Reader.TakesIf

variable {Result Next : Type} {reader : Reader Result} {depth : Nat}

theorem bind {next : Result → Reader Next} {condition further : Prop} {front back : List UInt8}
    {result : Result} {outcome : Next} (first : reader.TakesIf condition depth front result)
    (second : (next result).TakesIf further depth back outcome) :
    (reader >>= next).TakesIf (condition ∧ further) depth (front ++ back) outcome where
  takes := by
    rintro ⟨holds, holdsFurther⟩
    exact (first.takes holds).bind (second.takes holdsFurther)
  fails := by
    intro notBoth position tail ending
    rw [List.append_assoc]
    by_cases holds : condition
    · rw [(first.takes holds).bind_eq]
      exact second.fails (fun holdsFurther => notBoth ⟨holds, holdsFurther⟩) _ tail ending
    · rcases first.fails holds position (back ++ tail) ending with ⟨failure, after, failed⟩
      exact ⟨failure, after, bind_eq_error.mpr (Or.inl failed)⟩

/-- A success on the bytes shows the condition, and no other result is possible. -/
theorem of_eq_ok {condition : Prop} {bytes tail : List UInt8} {result outcome : Result}
    (takesIf : reader.TakesIf condition depth bytes result) {position : Nat} {ending : Ending}
    {after : Source}
    (success : reader ⟨bytes ++ tail, position, depth, ending⟩ = .ok outcome after) :
    condition ∧ outcome = result ∧ after = ⟨tail, position + bytes.length, depth, ending⟩ := by
  by_cases holds : condition
  · rw [takesIf.takes holds position tail ending, EStateM.Result.ok.injEq] at success
    exact ⟨holds, success.1.symm, success.2.symm⟩
  · rcases takesIf.fails holds position tail ending with ⟨failure, left, failed⟩
    rw [failed] at success
    cases success

theorem next_of_eq_ok {next : Result → Reader Next} {condition : Prop} {bytes tail : List UInt8}
    {result : Result} (takesIf : reader.TakesIf condition depth bytes result) {position : Nat}
    {ending : Ending} {outcome : Next} {after : Source}
    (success : (reader >>= next) ⟨bytes ++ tail, position, depth, ending⟩ = .ok outcome after) :
    next result ⟨tail, position + bytes.length, depth, ending⟩ = .ok outcome after := by
  rcases bind_eq_ok.mp success with ⟨other, between, first, later⟩
  rcases takesIf.of_eq_ok first with ⟨_, rfl, rfl⟩
  exact later

theorem eq_ok_iff {condition : Prop} {bytes : List UInt8} {result : Result}
    (takesIf : reader.TakesIf condition depth bytes result) {position : Nat} {tail : List UInt8}
    {ending : Ending} :
    reader ⟨bytes ++ tail, position, depth, ending⟩ =
        .ok result ⟨tail, position + bytes.length, depth, ending⟩ ↔
      condition :=
  ⟨fun success => (takesIf.of_eq_ok success).1,
    fun holds => takesIf.takes holds position tail ending⟩

theorem of_takes {bytes : List UInt8} {result : Result}
    (takes : reader.Takes depth bytes result) : reader.TakesIf True depth bytes result :=
  ⟨fun _ => takes, fun impossible => absurd trivial impossible⟩

theorem fail {fault : FormatFault} {condition : Prop} (never : ¬condition) {bytes : List UInt8}
    {result : Result} : (Reader.fail fault : Reader Result).TakesIf condition depth bytes result :=
  ⟨fun holds => absurd holds never, fun _ _ _ _ => ⟨_, _, rfl⟩⟩

theorem congr {condition other : Prop} {bytes : List UInt8} {result : Result}
    (takesIf : reader.TakesIf condition depth bytes result) (same : condition ↔ other) :
    reader.TakesIf other depth bytes result := by
  rwa [← propext same]

end Reader.TakesIf

/--
The writer emits bytes exactly if it `canWrite`, and the reader takes these bytes for the result
exactly if it `canRead`.
-/
def ExchangeIf {Result : Type} (canWrite canRead : Prop) (writer : Writer Unit)
    (reader : Reader Result) (depth : Nat) (result : Result) : Prop :=
  ∃ bytes, writer.EmitsIf canWrite bytes ∧ reader.TakesIf canRead depth bytes result

namespace ExchangeIf

variable {Result Next : Type} {writer : Writer Unit} {reader : Reader Result} {depth : Nat}
  {result : Result} {canWrite canRead : Prop}

theorem of_exchange (exchange : Exchange writer reader depth result) :
    ExchangeIf True True writer reader depth result := by
  rcases exchange with ⟨bytes, emits, takes⟩
  exact ⟨bytes, .of_emits emits, .of_takes takes⟩

theorem congr {otherWrite otherRead : Prop}
    (exchange : ExchangeIf canWrite canRead writer reader depth result)
    (sameWrite : canWrite ↔ otherWrite) (sameRead : canRead ↔ otherRead) :
    ExchangeIf otherWrite otherRead writer reader depth result := by
  rwa [← propext sameWrite, ← propext sameRead]

theorem bind {second : Writer Unit} {next : Result → Reader Next} {outcome : Next}
    {writeNext readNext : Prop} (first : ExchangeIf canWrite canRead writer reader depth result)
    (later : ExchangeIf writeNext readNext second (next result) depth outcome) :
    ExchangeIf (canWrite ∧ writeNext) (canRead ∧ readNext) (writer >>= fun _ => second)
      (reader >>= next) depth outcome := by
  rcases first with ⟨front, firstEmits, firstTakes⟩
  rcases later with ⟨back, laterEmits, laterTakes⟩
  exact ⟨front ++ back, firstEmits.bind laterEmits, firstTakes.bind laterTakes⟩

/-- The last step of the reader may refuse what was read, but takes no further bytes. -/
theorem andThen {next : Result → Reader Next} {outcome : Next} {readNext : Prop}
    (exchange : ExchangeIf canWrite canRead writer reader depth result)
    (last : (next result).TakesIf readNext depth [] outcome) :
    ExchangeIf canWrite (canRead ∧ readNext) writer (reader >>= next) depth outcome := by
  rcases exchange with ⟨bytes, emits, takes⟩
  have both := takes.bind last
  rw [List.append_nil] at both
  exact ⟨bytes, emits, both⟩

theorem map (exchange : ExchangeIf canWrite canRead writer reader depth result)
    (change : Result → Next) :
    ExchangeIf canWrite canRead writer (reader >>= fun result => Pure.pure (change result)) depth
      (change result) :=
  (exchange.andThen (.of_takes (.pure (change result)))).congr Iff.rfl (and_iff_left trivial)

theorem each {write : Result → Writer Unit} {items : List Result}
    {writes reads : Result → Prop}
    (exchanges : ∀ item ∈ items,
      ExchangeIf (writes item) (reads item) (write item) reader depth item) :
    ExchangeIf (∀ item ∈ items, writes item) (∀ item ∈ items, reads item) (Writer.each write items)
      (Reader.replicate items.length reader) depth items := by
  induction items with
  | nil => exact (of_exchange (.pure [])).congr (by simp) (by simp)
  | cons item items ih =>
      have first := exchanges item (by simp)
      have others := ih fun other member => exchanges other (by simp [member])
      exact (first.bind (others.map (item :: ·))).congr (by simp) (by simp)

/-! ## Lengths and texts -/

/-- A length that a word can hold is read if it is within the limit of collections. -/
theorem length {count : Nat} (counted : count < UInt64.size) (depth : Nat) :
    ExchangeIf True (count ≤ Reader.maxCollectionLength) (Writer.length count) Reader.length depth
      count := by
  have word : count.toUInt64.toNat = count := UInt64.toNat_ofNat_of_lt' counted
  have number := of_exchange (Exchange.varint count.toUInt64 depth)
  refine (number.andThen ?_).congr Iff.rfl (and_iff_right trivial)
  rw [word]
  by_cases within : count ≤ Reader.maxCollectionLength
  · rw [if_pos within]
    exact (Reader.TakesIf.of_takes (.pure count)).congr (iff_of_true trivial within)
  · rw [if_neg within]
    exact .fail within

/-- A text whose length a word can hold is read if it is short enough. -/
theorem string {text : String} (counted : (Text.Utf8.encode text).length < UInt64.size)
    (depth : Nat) :
    ExchangeIf True (TextFits text) (Writer.string text) Reader.string depth text := by
  have word : (Text.Utf8.encode text).length.toUInt64.toNat = (Text.Utf8.encode text).length :=
    UInt64.toNat_ofNat_of_lt' counted
  have number := of_exchange (Exchange.varint (Text.Utf8.encode text).length.toUInt64 depth)
  have whole : ExchangeIf (True ∧ True) (True ∧ TextFits text) (Writer.string text) Reader.string
      depth text := by
    refine number.bind ⟨Text.Utf8.encode text, .of_emits (.bytes _), ?_⟩
    rw [word]
    by_cases fits : (Text.Utf8.encode text).length ≤ Reader.maxStringLength
    · have form : (Reader.exact (Text.Utf8.encode text).length).Takes depth
          (Text.Utf8.encode text) ⟨Text.Utf8.encode text, rfl⟩ := Reader.exact_takes rfl depth
      rw [if_pos fits]
      refine ⟨fun _ => form.andThen ?_, fun tooLong => absurd fits tooLong⟩
      simp only [Text.Utf8.decode_encode]
      exact .pure text
    · rw [if_neg fits]
      exact .fail fits
  exact whole.congr (and_iff_right trivial) (and_iff_right trivial)

/-- Entries are read if their keys are new and distinct, and the keys and the values are read. -/
theorem keyedAfter_of_nodup {Item : Type} {repeated : String → FormatFault} {item : Reader Item}
    {write : Item → Writer Unit} {writes reads : Item → Prop}
    {before entries : List (String × Item)} (distinct : (before.map (·.1)).Nodup)
    (counted : ∀ entry ∈ entries, (Text.Utf8.encode entry.1).length < UInt64.size)
    (values : ∀ entry ∈ entries,
      ExchangeIf (writes entry.2) (reads entry.2) (write entry.2) item depth entry.2) :
    ExchangeIf (∀ entry ∈ entries, writes entry.2)
      (((before ++ entries).map (·.1)).Nodup ∧
        ∀ entry ∈ entries, TextFits entry.1 ∧ reads entry.2)
      (Writer.each (fun entry => do Writer.string entry.1; write entry.2) entries)
      (Reader.keyedAfter repeated item before entries.length) depth (before ++ entries) := by
  induction entries generalizing before with
  | nil =>
      rw [List.append_nil]
      exact (of_exchange (.pure before)).congr (by simp) (by simp [distinct])
  | cons entry entries ih =>
      rcases entry with ⟨key, value⟩
      have regroup := List.append_cons before (key, value) entries
      have later {before : List (String × Item)} (distinct : (before.map (·.1)).Nodup) :=
        ih distinct (fun other member => counted other (by simp [member]))
          (fun other member => values other (by simp [member]))
      have rest : ExchangeIf (∀ entry ∈ entries, writes entry.2)
          (((before ++ (key, value) :: entries).map (·.1)).Nodup ∧
            ∀ entry ∈ entries, TextFits entry.1 ∧ reads entry.2)
          (Writer.each (fun entry => do Writer.string entry.1; write entry.2) entries)
          (if key ∈ before.map (·.1) then Reader.fail (repeated key)
            else Reader.keyedAfter repeated item (before ++ [(key, value)]) entries.length)
          depth (before ++ (key, value) :: entries) := by
        by_cases known : key ∈ before.map (·.1)
        · have notDistinct : ¬((before ++ (key, value) :: entries).map (·.1)).Nodup :=
            fun distinctAll => fresh_of_nodup_keys distinctAll known
          -- The entries that follow are written all the same.
          rcases @later [] List.nodup_nil with ⟨bytes, emitsIf, _⟩
          rw [if_pos known]
          exact ⟨bytes, emitsIf, .fail fun both => notDistinct both.1⟩
        · rw [if_neg known, regroup]
          exact later (nodup_keys_concat distinct known)
      simp only [Writer.each, bind_assoc]
      have keyExchange := string (counted (key, value) (by simp)) depth
      have valueExchange := values (key, value) (by simp)
      have whole : ExchangeIf (True ∧ writes value ∧ ∀ entry ∈ entries, writes entry.2)
          (TextFits key ∧ reads value ∧ ((before ++ (key, value) :: entries).map (·.1)).Nodup ∧
            ∀ entry ∈ entries, TextFits entry.1 ∧ reads entry.2)
          (do
            Writer.string key
            write value
            Writer.each (fun entry => do Writer.string entry.1; write entry.2) entries)
          (Reader.keyedAfter repeated item before (entries.length + 1)) depth
          (before ++ (key, value) :: entries) :=
        keyExchange.bind (valueExchange.bind rest)
      refine whole.congr (by simp) ?_
      rw [List.forall_mem_cons]
      tauto

/-- Entries with distinct keys are read if the keys and the values are. -/
theorem keyedAfter {Item : Type} {repeated : String → FormatFault} {item : Reader Item}
    {write : Item → Writer Unit} {writes reads : Item → Prop}
    {before entries : List (String × Item)}
    (distinct : ((before ++ entries).map (·.1)).Nodup)
    (counted : ∀ entry ∈ entries, (Text.Utf8.encode entry.1).length < UInt64.size)
    (values : ∀ entry ∈ entries,
      ExchangeIf (writes entry.2) (reads entry.2) (write entry.2) item depth entry.2) :
    ExchangeIf (∀ entry ∈ entries, writes entry.2)
      (∀ entry ∈ entries, TextFits entry.1 ∧ reads entry.2)
      (Writer.each (fun entry => do Writer.string entry.1; write entry.2) entries)
      (Reader.keyedAfter repeated item before entries.length) depth (before ++ entries) := by
  have distinctBefore : (before.map (·.1)).Nodup := by
    rw [List.map_append, List.nodup_append] at distinct
    exact distinct.1
  exact (keyedAfter_of_nodup distinctBefore counted values).congr Iff.rfl (and_iff_right distinct)

end ExchangeIf

end Resemblance
