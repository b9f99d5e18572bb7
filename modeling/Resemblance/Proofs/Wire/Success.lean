import Resemblance.Proofs.Wire.Conditional

/-!
# When a writer succeeds

What a writer adds to a sink does not depend on what the sink holds already, and a limit of the sink
can only stop it. `Writer.SucceedsIf` says under which condition a writer succeeds as long as there
is room, and leaves the bytes open. From one success, on whatever sink, the bytes follow: the writer
emits them on every sink without a limit.
-/

namespace Resemblance

/-- The sink with room for everything. -/
def Sink.unlimited (sink : Sink) : Sink :=
  { sink with room? := none }

namespace Writer

/-- With enough room the writer emits bytes if the condition holds, and else it fails. -/
structure SucceedsIf (writer : Writer Unit) (condition : Prop) : Prop where
  exists_emitsIf : ∃ bytes, writer.EmitsIf condition bytes
  /-- What succeeds in a limited room does the same without a limit. -/
  roomless : ∀ {sink after}, writer sink = .ok () after →
    writer sink.unlimited = .ok () after.unlimited

namespace SucceedsIf

variable {writer second : Writer Unit} {condition further : Prop}

theorem pure : (Pure.pure () : Writer Unit).SucceedsIf True where
  exists_emitsIf := ⟨[], .of_emits .pure⟩
  roomless := by
    intro sink after success
    cases success
    rfl

theorem bytes (bytes : List UInt8) : (Writer.bytes bytes).SucceedsIf True where
  exists_emitsIf := ⟨bytes, .of_emits (.bytes bytes)⟩
  roomless := by
    intro sink after success
    cases roomEq : sink.room? with
    | none =>
        simp only [Writer.bytes, roomEq] at success
        cases success
        rfl
    | some room =>
        simp only [Writer.bytes, roomEq] at success
        split at success
        · cases success
          rfl
        · cases success

theorem throw (failure : Failure) :
    (MonadExcept.throw failure : Writer Unit).SucceedsIf False where
  exists_emitsIf :=
    ⟨[], fun impossible => absurd impossible not_false, fun _ sink _ => ⟨failure, sink, rfl⟩⟩
  roomless := by
    intro sink after impossible
    cases impossible

theorem congr (succeeds : writer.SucceedsIf condition) (same : condition ↔ further) :
    writer.SucceedsIf further := by
  rwa [← propext same]

theorem bind (first : writer.SucceedsIf condition) (later : second.SucceedsIf further) :
    (writer >>= fun _ => second).SucceedsIf (condition ∧ further) where
  exists_emitsIf := by
    rcases first.exists_emitsIf with ⟨front, firstEmits⟩
    rcases later.exists_emitsIf with ⟨back, laterEmits⟩
    exact ⟨front ++ back, firstEmits.bind laterEmits⟩
  roomless := by
    intro sink after success
    simp only [Bind.bind, EStateM.bind] at success ⊢
    cases middle : writer sink with
    | error failure left => simp [middle] at success
    | ok _ between =>
        simp only [middle] at success
        simp only [first.roomless middle]
        exact later.roomless success

/-- A first step that never fails adds no condition. -/
theorem after (first : writer.SucceedsIf True) (later : second.SucceedsIf further) :
    (writer >>= fun _ => second).SucceedsIf further :=
  (first.bind later).congr (and_iff_right trivial)

theorem guarded {allowed : Prop} [Decidable allowed] (succeeds : writer.SucceedsIf condition)
    (failure : Failure) :
    (if allowed then writer else MonadExcept.throw failure).SucceedsIf (allowed ∧ condition) := by
  by_cases holds : allowed
  · rw [if_pos holds]
    exact succeeds.congr (and_iff_right holds).symm
  · rw [if_neg holds]
    exact (throw failure).congr (iff_of_false not_false fun both => holds both.1)

theorem each {Item : Type} {write : Item → Writer Unit} {condition : Item → Prop}
    {items : List Item} (succeed : ∀ item ∈ items, (write item).SucceedsIf (condition item)) :
    (Writer.each write items).SucceedsIf (∀ item ∈ items, condition item) := by
  induction items with
  | nil => exact pure.congr (by simp)
  | cons item items ih =>
      have first := succeed item (by simp)
      have others := ih fun other member => succeed other (by simp [member])
      exact (first.bind others).congr (by simp)

theorem each_true {Item : Type} {write : Item → Writer Unit} {items : List Item}
    (succeed : ∀ item ∈ items, (write item).SucceedsIf True) :
    (Writer.each write items).SucceedsIf True :=
  (each succeed).congr (by simp)

/-- Where the condition holds, the writer has bytes to emit. -/
theorem exists_emits (succeeds : writer.SucceedsIf condition) (holds : condition) :
    ∃ bytes, writer.Emits bytes := by
  rcases succeeds.exists_emitsIf with ⟨bytes, emitsIf⟩
  exact ⟨bytes, emitsIf.emits holds⟩

/-- What one success shows: the condition, and the bytes that the writer emits everywhere. -/
theorem of_eq_ok (succeeds : writer.SucceedsIf condition) {sink after : Sink}
    (success : writer sink = .ok () after) :
    condition ∧ ∃ bytes, writer.Emits bytes ∧ after.bytes = sink.bytes ++ bytes := by
  rcases succeeds.exists_emitsIf with ⟨bytes, emitsIf⟩
  rcases (emitsIf.eq_ok_iff rfl).mp (succeeds.roomless success) with ⟨holds, appended⟩
  have written := congrArg Sink.bytes appended
  refine ⟨holds, bytes, emitsIf.emits holds, ?_⟩
  simpa [Sink.append, Sink.unlimited, Sink.bytes] using written

theorem string (text : String) : (Writer.string text).SucceedsIf True :=
  after (bytes _) (bytes _)

end SucceedsIf

end Writer

end Resemblance
