import Resemblance.Proofs.Wire.Keyed

/-!
# Properties of all readers

Every reader is put together from few kinds of steps: a number of bytes, a variable-length number, a
refusal, a descent into a typed constant and a tag with what follows it. A property of readers that
these steps have, and that a sequence inherits from its parts, is therefore a property of all
readers of numbers, texts and collections. `Reader.Compositional` collects these local facts, and
each theorem of this file follows the definition of a reader.
-/

namespace Resemblance

namespace Reader

/--
Reads a tag and then what belongs to its kind. A tag of no known kind is refused at the offset where
it began.
-/
def tagged {Tag Kind Result : Type} (tag : Reader Tag) (kind? : Tag → Option Kind)
    (fault : Tag → FormatFault) (body : Kind → Reader Result) : Reader Result := do
  let offset ← position
  let mark ← tag
  match kind? mark with
  | none => failAt offset (fault mark)
  | some kind => body kind

section Tagged

variable {Tag Kind Result : Type} {tag : Reader Tag} {kind? : Tag → Option Kind}
  {fault : Tag → FormatFault} {body : Kind → Reader Result} {source after : Source}

theorem tagged_eq_ok {result : Result} :
    tagged tag kind? fault body source = .ok result after ↔
      ∃ mark between kind, tag source = .ok mark between ∧ kind? mark = some kind ∧
        body kind between = .ok result after := by
  change (tag >>= fun mark => match kind? mark with
    | none => failAt source.position (fault mark)
    | some kind => body kind) source = _ ↔ _
  rw [bind_eq_ok]
  refine exists_congr fun mark => exists_congr fun between => ?_
  cases known : kind? mark with
  | none => simp [failAt]
  | some kind => simp

theorem tagged_eq_error {failure : Failure} :
    tagged tag kind? fault body source = .error failure after ↔
      tag source = .error failure after ∨
        ∃ mark between, tag source = .ok mark between ∧
          (kind? mark = none ∧ failure = .format (fault mark) none (some source.position) ∧
              after = between ∨
            ∃ kind, kind? mark = some kind ∧ body kind between = .error failure after) := by
  change (tag >>= fun mark => match kind? mark with
    | none => failAt source.position (fault mark)
    | some kind => body kind) source = _ ↔ _
  rw [bind_eq_error]
  refine or_congr_right (exists_congr fun mark => exists_congr fun between => ?_)
  cases known : kind? mark with
  | none => simp [failAt, eq_comm]
  | some kind => simp

end Tagged

/-- The steps of readers have the property, and sequences inherit it. -/
structure Compositional (property : ∀ {Result : Type}, Reader Result → Prop) : Prop where
  pure : ∀ {Result : Type} (result : Result), property (Pure.pure result)
  bind : ∀ {Result Next : Type} {reader : Reader Result} {next : Result → Reader Next},
    property reader → (∀ result, property (next result)) → property (reader >>= next)
  fail : ∀ {Result : Type} (fault : FormatFault), property (Reader.fail fault : Reader Result)
  exact : ∀ count, property (Reader.exact count)
  varint : property Reader.varint
  nested : ∀ {Result : Type} {inner : Reader Result}, property inner → property (nested inner)
  tagged : ∀ {Tag Kind Result : Type} {tag : Reader Tag} {kind? : Tag → Option Kind}
    {fault : Tag → FormatFault} {body : Kind → Reader Result},
    property tag → (∀ kind, property (body kind)) →
      property (Reader.tagged tag kind? fault body)

namespace Compositional

variable {property : ∀ {Result : Type}, Reader Result → Prop} {Result : Type}

/-! ## Numbers -/

theorem u8 (compositional : Compositional property) : property Reader.u8 :=
  compositional.bind (compositional.exact 1) fun _ => compositional.pure _

theorem u32 (compositional : Compositional property) : property Reader.u32 :=
  compositional.bind (compositional.exact 4) fun _ => compositional.pure _

theorem i32 (compositional : Compositional property) : property Reader.i32 :=
  compositional.bind compositional.u32 fun _ => compositional.pure _

theorem u64 (compositional : Compositional property) : property Reader.u64 :=
  compositional.bind (compositional.exact 8) fun _ => compositional.pure _

theorem i64 (compositional : Compositional property) : property Reader.i64 :=
  compositional.bind compositional.u64 fun _ => compositional.pure _

theorem bool (compositional : Compositional property) : property Reader.bool := by
  refine compositional.bind compositional.u8 fun byte => ?_
  split
  · exact compositional.pure false
  · split
    · exact compositional.pure true
    · exact compositional.fail (.notBoolean byte)

theorem signed (compositional : Compositional property) : property Reader.signed :=
  compositional.bind compositional.varint fun _ => compositional.pure _

theorem length (compositional : Compositional property) : property Reader.length := by
  refine compositional.bind compositional.varint fun number => ?_
  split
  · exact compositional.pure number.toNat
  · exact compositional.fail (.collectionTooLong number)

theorem index (compositional : Compositional property) : property Reader.index := by
  refine compositional.bind compositional.varint fun number => ?_
  split
  · exact compositional.pure number.toUInt32
  · exact compositional.fail (.indexTooLarge number)

/-! ## Texts and collections -/

theorem string (compositional : Compositional property) : property Reader.string := by
  refine compositional.bind compositional.varint fun length => ?_
  split
  · refine compositional.bind (compositional.exact length.toNat) fun bytes => ?_
    split
    · exact compositional.pure _
    · exact compositional.fail _
  · exact compositional.fail (.stringTooLong length)

theorem replicate (compositional : Compositional property) {item : Reader Result}
    (holds : property item) (count : Nat) : property (Reader.replicate count item) := by
  induction count with
  | zero => exact compositional.pure []
  | succ count ih =>
      exact compositional.bind holds fun first =>
        compositional.bind ih fun others => compositional.pure (first :: others)

theorem keyedAfter (compositional : Compositional property) {repeated : String → FormatFault}
    {item : Reader Result} (holds : property item) (before : List (String × Result))
    (count : Nat) : property (Reader.keyedAfter repeated item before count) := by
  induction count generalizing before with
  | zero => exact compositional.pure before
  | succ count ih =>
      refine compositional.bind compositional.string fun key =>
        compositional.bind holds fun value => ?_
      split
      · exact compositional.fail (repeated key)
      · exact ih _

end Compositional

end Reader

end Resemblance
