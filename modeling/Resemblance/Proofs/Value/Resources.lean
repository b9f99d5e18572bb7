import Mathlib.Algebra.BigOperators.Group.List.Lemmas
import Resemblance.Proofs.Value.Recursion
import Resemblance.Proofs.Wire.Demand

/-!
# What a value costs to read

The counts in a stream are not to be trusted, but what they announce has to be read. Each typed
constant takes the four bytes of its tag and at least one byte of payload, each component of a
vector and each member of a hash set takes at least one byte, and so does the key of each entry of a
map. Therefore a value that was read is never larger than the bytes that it was read from allow,
and the reading of it ends, because its recursion does.

`Value.constants` lists the typed constants that make up a value, and `Value.leastSize` is the
number of bytes that they take at least.
-/

namespace Resemblance

namespace Value

/-! ## The size of a value -/

mutual

/-- The value itself and all values inside it, each of which is a typed constant in a stream. -/
def constants : Value → List Value
  | .list items => .list items :: constantsOfItems items
  | .map entries => .map entries :: constantsOfEntries entries
  | value => [value]

def constantsOfItems : List Value → List Value
  | [] => []
  | item :: items => constants item ++ constantsOfItems items

def constantsOfEntries : List (String × Value) → List Value
  | [] => []
  | (_, value) :: entries => constants value ++ constantsOfEntries entries

end

theorem constants_eq (value : Value) :
    value.constants = value :: value.parts.flatMap constants := by
  have items (items : List Value) : constantsOfItems items = items.flatMap constants := by
    induction items with
    | nil => rfl
    | cons item items ih => rw [constantsOfItems, List.flatMap_cons, ih]
  have entries (entries : List (String × Value)) :
      constantsOfEntries entries = (entries.map (·.2)).flatMap constants := by
    induction entries with
    | nil => rfl
    | cons entry entries ih => rw [constantsOfEntries, List.map_cons, List.flatMap_cons, ih]
  cases value with
  | list members => rw [constants, items]; rfl
  | map members => rw [constants, entries]; rfl
  | _ => rfl

/-- The components, members or entries of the value itself that are counted in a stream. -/
def ownEntries : Value → Nat
  | .vector components => components.length
  | .hashes set => set.size
  | .map entries => entries.length
  | _ => 0

/-- The components, members and entries of a value and of everything inside it. -/
def entryCount (value : Value) : Nat :=
  (value.constants.map ownEntries).sum

/-- The bytes that a typed constant of the value takes at least. -/
def leastSize (value : Value) : Nat :=
  (value.constants.map fun constant => 5 + constant.ownEntries).sum

theorem leastSize_eq (value : Value) :
    value.leastSize = 5 + value.ownEntries + (value.parts.map leastSize).sum := by
  rw [leastSize, constants_eq, List.map_cons, List.sum_cons, List.map_flatMap, List.flatMap_def,
    List.sum_flatten, List.map_map]
  rfl

theorem leastSize_eq_add (value : Value) :
    value.leastSize = 5 * value.constants.length + value.entryCount := by
  rw [leastSize, List.sum_map_add, entryCount, List.map_const', List.sum_replicate, smul_eq_mul,
    Nat.mul_comm]

end Value

namespace Reader

namespace Demands

/-! ## Readers of payloads -/

theorem component : Reader.component.Demands fun _ => 1 :=
  ofStarving .component (by rintro _ _ _ ⟨⟩)

theorem laterHashes (previous : UInt64) (count : Nat) :
    (Reader.laterHashes previous count).Demands List.length := by
  induction count generalizing previous with
  | zero => exact .pure [] rfl
  | succ count ih =>
      refine varint.bind fun difference => ?_
      split
      · exact .fail .hashesNotIncreasing _
      · split
        · exact map (ih _)
        · exact .fail .hashOverflow _

theorem hashes (count : Nat) : (Reader.hashes count).Demands List.length := by
  cases count with
  | zero => exact .pure [] rfl
  | succ count => exact varint.bind fun first => map (laterHashes first count)

theorem bloomFilter : Reader.bloomFilter.Demands fun _ => 1 :=
  ofStarving .bloomFilter (by rintro _ _ _ ⟨⟩)

theorem digest : Reader.digest.Demands fun _ => 1 :=
  ofStarving .digest (by rintro _ _ _ ⟨⟩)

/-- The payload takes a byte, and then what is counted in it and what the parts take. -/
theorem payloadWith {typed : Reader Value} (demands : typed.Demands Value.leastSize)
    (type : ValueType) :
    (Reader.payloadWith typed type).Demands fun value =>
      1 + (value.ownEntries + (value.parts.map Value.leastSize).sum) := by
  cases type with
  | int => exact map signed
  | float => exact map u64
  | bool => exact map bool
  | string => exact map string
  | vector =>
      refine length.before fun count => map ((component.replicate count).mono fun components => ?_)
      simp [Value.ownEntries, Value.parts]
  | hashes => exact length.before fun count => map (hashes count)
  | list =>
      refine length.before fun count => map ((demands.replicate count).mono fun items => ?_)
      simp [Value.ownEntries, Value.parts]
  | map =>
      refine length.before fun count => map ?_
      rw [entriesAfter_eq_keyedAfter]
      refine (demands.keyedAfter [] count).mono fun entries => ?_
      simp [Value.ownEntries, Value.parts, List.sum_map_add, Function.comp_def]
  | bloom => exact map bloomFilter
  | digest => exact map digest

/-- The tag takes four bytes, whatever levels are left for the constants inside. -/
theorem typedWithin (types : TypeTable) (levels : Nat) :
    (Reader.typedWithin types levels).Demands Value.leastSize := by
  have total (value : Value) : value.leastSize =
      4 + (1 + (value.ownEntries + (value.parts.map Value.leastSize).sum)) := by
    rw [value.leastSize_eq]
    omega
  rw [funext total]
  induction levels with
  | zero =>
      rw [typedWithin_eq_tagged]
      exact .tagged u32 fun type => .nested (.fail .nestingTooDeep _)
  | succ levels ih =>
      rw [typedWithin_succ]
      exact .tagged u32 fun type => .nested (.payloadWith (by rwa [funext total]) type)

end Demands

/-! ## Reading ends, and its values are small -/

/-- What is certain of the reading of typed constants, whatever the bytes and the types are. -/
structure TypedIsBounded (types : TypeTable) : Prop where
  /-- The constants inside a constant are read as the constant itself is read. -/
  recurs : typedStep types (typed types) = typed types
  /-- The recursion ends before anything is asked of constants inside `maxNesting` others. -/
  ends : ∀ deeper, (typedStep types)^[maxNesting + 1] deeper = typed types
  /-- A value is read, or the bytes are malformed. -/
  answers : ∀ source, source.ending = .endOfBytes →
    (∃ value after, typed types source = .ok value after) ∨
      ∃ failure after, typed types source = .error failure after ∧ failure.IsFormat
  /-- A fifth of the bytes taken bounds the constants, and these bytes bound what is counted. -/
  bounds : ∀ source value after, typed types source = .ok value after →
    ∃ taken, source.rest = taken ++ after.rest ∧
      value.constants.length ≤ taken.length / 5 ∧ value.entryCount ≤ taken.length

/-- No announced length inflates a value that is read, and none keeps the reading from ending. -/
theorem typed_isBounded (types : TypeTable) : TypedIsBounded types where
  recurs := typedStep_typed types
  ends := iterate_typedStep types
  answers := by
    intro source complete
    cases outcome : typed types source with
    | ok value after => exact .inl ⟨value, after, rfl⟩
    | error failure after =>
        exact .inr ⟨failure, after, rfl, (Regular.typed types).blamesFormat complete outcome⟩
  bounds := by
    intro source value after success
    rcases (Regular.typed types).delimited success with ⟨taken, split, _⟩
    have paid := Demands.typedWithin types maxNesting source value after success
    rw [split, List.length_append, value.leastSize_eq_add] at paid
    refine ⟨taken, split, ?_, ?_⟩
    · rw [Nat.le_div_iff_mul_le (by decide)]
      omega
    · omega

/-- Empty lists inside a list take five bytes each, so the bound on constants is reached. -/
example : typed ⟨[⟨7, "list", .list⟩]⟩ (.ofBytes [7, 0, 0, 0, 2, 7, 0, 0, 0, 0, 7, 0, 0, 0, 0]) =
    .ok (.list [.list [], .list []]) ⟨[], 15, 0, .endOfBytes⟩ := by
  cbv

example : (Value.list [.list [], .list []]).constants.length = 15 / 5 := by
  decide

end Reader

end Resemblance
