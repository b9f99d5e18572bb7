import Mathlib.Logic.Function.Iterate
import Resemblance.Proofs.Value.Compositional
import Resemblance.Proofs.Wire.Orderly

/-!
# The recursion of typed constants

A typed constant is a tag and a payload, and the constants inside the payload are read in the same
way. `Reader.typedStep` is one round of this, with another reader for the constants inside. Each
round descends by one level, and a reader that is `Reader.maxNesting` levels deep refuses to go
deeper. So the recursion ends after a fixed number of rounds, and what stands for the constants
further inside is never asked: reading is the only solution of its recursive equation.

`Reader.AgreesFrom` compares two readers from some depth of nesting on. That depth is kept along a
sequence because orderly readers leave it as it was.
-/

namespace Resemblance

namespace Reader

variable {Result Next : Type}

/-- The readers do the same at this depth of nesting and further inside. -/
def AgreesFrom (depth : Nat) (first second : Reader Result) : Prop :=
  ∀ source, depth ≤ source.depth → first source = second source

namespace AgreesFrom

variable {depth : Nat}

theorem refl (reader : Reader Result) : AgreesFrom depth reader reader :=
  fun _ _ => rfl

theorem mono {first second : Reader Result} {deeper : Nat} (agrees : AgreesFrom depth first second)
    (depth_le : depth ≤ deeper) : AgreesFrom deeper first second :=
  fun source deep => agrees source (Nat.le_trans depth_le deep)

theorem bind {first second : Reader Result} {next other : Result → Reader Next}
    (agrees : AgreesFrom depth first second) (orderly : second.Orderly)
    (later : ∀ result, AgreesFrom depth (next result) (other result)) :
    AgreesFrom depth (first >>= next) (second >>= other) := by
  intro source deep
  change EStateM.bind first next source = EStateM.bind second other source
  simp only [EStateM.bind, agrees source deep]
  cases outcome : second source with
  | ok result between =>
      refine later result between ?_
      rw [(orderly.reaches outcome).depth_eq]
      exact deep
  | error failure after => rfl

theorem tagged {Tag Kind : Type} {tag : Reader Tag} {kind? : Tag → Option Kind}
    {fault : Tag → FormatFault} {body other : Kind → Reader Result} (orderly : tag.Orderly)
    (inner : ∀ kind, AgreesFrom depth (body kind) (other kind)) :
    AgreesFrom depth (Reader.tagged tag kind? fault body) (Reader.tagged tag kind? fault other) := by
  intro source deep
  refine bind (.refl tag) orderly (fun mark => ?_) source deep
  cases kind? mark with
  | none => exact .refl _
  | some kind => exact inner kind

theorem nested {first second : Reader Result} (agrees : AgreesFrom (depth + 1) first second) :
    AgreesFrom depth (Reader.nested first) (Reader.nested second) := by
  intro source deep
  have inside := agrees { source with depth := source.depth + 1 } (Nat.succ_le_succ deep)
  simp only [Reader.nested, Bind.bind, EStateM.bind, enter]
  split
  · rename_i entered
    split at entered
    · cases entered
    · simp only [EStateM.Result.ok.injEq, true_and] at entered
      rw [← entered, inside]
  · rfl

/-- Nothing is read further inside than the greatest depth, so all readers agree there. -/
theorem nested_of_maxNesting (first second : Reader Result) :
    AgreesFrom maxNesting (Reader.nested first) (Reader.nested second) := by
  intro source deep
  simp only [Reader.nested, Bind.bind, EStateM.bind, enter, if_pos deep]

theorem replicate {first second : Reader Result} (agrees : AgreesFrom depth first second)
    (orderly : second.Orderly) (count : Nat) :
    AgreesFrom depth (Reader.replicate count first) (Reader.replicate count second) := by
  induction count with
  | zero => exact .refl _
  | succ count ih =>
      exact agrees.bind orderly fun result =>
        ih.bind (Orderly.compositional.replicate orderly count) fun _ => .refl _

theorem entriesAfter {first second : Reader Value} (agrees : AgreesFrom depth first second)
    (orderly : second.Orderly) (before : Attributes) (count : Nat) :
    AgreesFrom depth (Reader.entriesAfter first before count)
      (Reader.entriesAfter second before count) := by
  induction count generalizing before with
  | zero => exact .refl _
  | succ count ih =>
      refine bind (.refl string) Orderly.compositional.string fun key =>
        agrees.bind orderly fun value => ?_
      split
      · exact .refl _
      · exact ih _

theorem payloadWith {first second : Reader Value} (agrees : AgreesFrom depth first second)
    (orderly : second.Orderly) (type : ValueType) :
    AgreesFrom depth (Reader.payloadWith first type) (Reader.payloadWith second type) := by
  have compositional := Orderly.compositional
  cases type with
  | list =>
      exact bind (.refl length) compositional.length fun count =>
        (agrees.replicate orderly count).bind (compositional.replicate orderly count)
          fun _ => .refl _
  | map =>
      exact bind (.refl length) compositional.length fun count =>
        (agrees.entriesAfter orderly [] count).bind (compositional.entriesAfter orderly [] count)
          fun _ => .refl _
  | _ => exact .refl _

end AgreesFrom

/-- Reads a typed constant, where `inner` reads the typed constants inside it. -/
def typedStep (types : TypeTable) (inner : Reader Value) : Reader Value :=
  tagged u32 types.type? .unregisteredType fun type => nested (payloadWith inner type)

theorem typedWithin_succ (types : TypeTable) (levels : Nat) :
    typedWithin types (levels + 1) = typedStep types (typedWithin types levels) :=
  typedWithin_eq_tagged types (levels + 1)

theorem AgreesFrom.typedStep {types : TypeTable} {depth : Nat} {first second : Reader Value}
    (agrees : AgreesFrom (depth + 1) first second) (orderly : second.Orderly) :
    AgreesFrom depth (typedStep types first) (typedStep types second) :=
  tagged Orderly.compositional.u32 fun type => (agrees.payloadWith orderly type).nested

/-- The reading that goes on for some levels is as many rounds, and all that would come deeper. -/
theorem iterate_typedStep_agreesFrom (types : TypeTable) (deeper : Reader Value) (levels : Nat) :
    AgreesFrom (maxNesting - levels) ((typedStep types)^[levels + 1] deeper)
      (typedWithin types levels) := by
  induction levels with
  | zero =>
      rw [typedWithin_eq_tagged]
      exact .tagged Orderly.compositional.u32 fun type => .nested_of_maxNesting _ _
  | succ levels ih =>
      rw [Function.iterate_succ_apply', typedWithin_succ]
      exact (ih.mono (by omega)).typedStep (Orderly.compositional.typedWithin types levels)

/-- After `maxNesting + 1` rounds nothing is left to ask of the constants further inside. -/
theorem iterate_typedStep (types : TypeTable) (deeper : Reader Value) :
    (typedStep types)^[maxNesting + 1] deeper = typed types := by
  funext source
  refine iterate_typedStep_agreesFrom types deeper maxNesting source ?_
  rw [Nat.sub_self]
  exact Nat.zero_le source.depth

/-- Typed constants are read by the same reader inside one another. -/
theorem typedStep_typed (types : TypeTable) : typedStep types (typed types) = typed types :=
  calc typedStep types (typed types)
      = typedStep types ((typedStep types)^[maxNesting + 1] (typed types)) := by
        rw [iterate_typedStep]
    _ = (typedStep types)^[maxNesting + 1] (typedStep types (typed types)) :=
        (Function.iterate_succ_apply' _ _ _).symm.trans (Function.iterate_succ_apply _ _ _)
    _ = typed types := iterate_typedStep types _

end Reader

end Resemblance
