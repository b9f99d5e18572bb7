import Resemblance.Wire.Sink
import Resemblance.Proofs.Wire.Delimited

/-!
# Exchange of bytes

A writer emits bytes if it adds exactly them to every sink without a limit. `Exchange` joins a
writer and a reader: the writer emits bytes that the reader takes, at a depth of nesting, for a
given result.

Exchanges are closed under sequencing, so a written form and the way back are compared step by step,
along the definitions of the writer and the reader.
-/

namespace Resemblance

/-- A sink after more bytes were written in writes that all completed. -/
def Sink.append (sink : Sink) (bytes : List UInt8) : Sink :=
  { sink with
    written := sink.written ++ bytes.toArray
    position := sink.position + bytes.length }

namespace Writer

/-- The writer succeeds on every sink without a limit and adds exactly these bytes. -/
def Emits (writer : Writer Unit) (bytes : List UInt8) : Prop :=
  ∀ sink : Sink, sink.room? = none → writer sink = .ok () (sink.append bytes)

theorem Emits.pure : (Pure.pure () : Writer Unit).Emits [] := by
  intro sink _
  simp [Pure.pure, EStateM.pure, Sink.append]

theorem Emits.bind {first second : Writer Unit} {front back : List UInt8}
    (firstEmits : first.Emits front) (secondEmits : second.Emits back) :
    (first >>= fun _ => second).Emits (front ++ back) := by
  intro sink unlimited
  have middle := firstEmits sink unlimited
  have last := secondEmits (sink.append front) unlimited
  simp only [Bind.bind, EStateM.bind, middle, last]
  simp [Sink.append, Nat.add_assoc]

theorem Emits.bytes (bytes : List UInt8) : (Writer.bytes bytes).Emits bytes := by
  intro sink unlimited
  simp [Writer.bytes, unlimited, Sink.append]

/-- A writer emits only one byte string. -/
theorem Emits.unique {writer : Writer Unit} {bytes other : List UInt8}
    (emits : writer.Emits bytes) (emitsOther : writer.Emits other) : bytes = other := by
  have equal := (emits .empty rfl).symm.trans (emitsOther .empty rfl)
  simp only [EStateM.Result.ok.injEq, true_and] at equal
  simpa [Sink.append, Sink.empty, Sink.bytes] using congrArg Sink.bytes equal

end Writer

/--
The writer emits bytes that the reader takes for the result, when as many typed constants as `depth`
says enclose them.
-/
def Exchange {Result : Type} (writer : Writer Unit) (reader : Reader Result) (depth : Nat)
    (result : Result) : Prop :=
  ∃ bytes, writer.Emits bytes ∧ reader.Takes depth bytes result

namespace Exchange

variable {Result Next : Type} {writer : Writer Unit} {reader : Reader Result} {depth : Nat}
  {result : Result}

theorem pure (result : Result) : Exchange (Pure.pure ()) (Pure.pure result) depth result :=
  ⟨[], .pure, .pure result⟩

theorem bind {second : Writer Unit} {next : Result → Reader Next} {outcome : Next}
    (first : Exchange writer reader depth result)
    (later : Exchange second (next result) depth outcome) :
    Exchange (writer >>= fun _ => second) (reader >>= next) depth outcome := by
  rcases first with ⟨front, firstEmits, firstTakes⟩
  rcases later with ⟨back, laterEmits, laterTakes⟩
  exact ⟨front ++ back, firstEmits.bind laterEmits, firstTakes.bind laterTakes⟩

/-- The reader may process the last value, as long as it takes no further bytes. -/
theorem andThen {next : Result → Reader Next} {outcome : Next}
    (exchange : Exchange writer reader depth result)
    (last : (next result).Takes depth [] outcome) :
    Exchange writer (reader >>= next) depth outcome := by
  rcases exchange with ⟨bytes, emits, takes⟩
  exact ⟨bytes, emits, takes.andThen last⟩

theorem map (exchange : Exchange writer reader depth result) (change : Result → Next) :
    Exchange writer (reader >>= fun result => Pure.pure (change result)) depth (change result) :=
  exchange.andThen (.pure (change result))

/-- An exchange of items is one of lists of items. -/
theorem each {write : Result → Writer Unit} {items : List Result}
    (exchanges : ∀ item ∈ items, Exchange (write item) reader depth item) :
    Exchange (Writer.each write items) (Reader.replicate items.length reader) depth items := by
  induction items with
  | nil => exact .pure []
  | cons item items ih =>
      have first := exchanges item (by simp)
      have others := ih fun other member => exchanges other (by simp [member])
      exact first.bind (others.map (item :: ·))

end Exchange

end Resemblance
