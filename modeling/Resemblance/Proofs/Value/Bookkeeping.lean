import Resemblance.Proofs.Value.Compositional
import Resemblance.Proofs.Wire.Orderly
import Resemblance.Proofs.Wire.Placement

/-!
# The books of a reader

A reader keeps two figures beside the bytes that are left: its position and the depth of nesting.
Whatever calls are made on it, one after the other and also after failures, the position never
passes the end of the source. So each call that succeeds has moved it by exactly the bytes it took,
each failure of the format is located between the place where its call began and the end of the
source, and no call changes the depth.

A failed call may have lost bytes that it read and did not count. The next call then begins behind
them, at the same position as before.
-/

namespace Resemblance

namespace Reader

/-! ## Calls -/

/-- A call that a user of a reader can make. -/
inductive Call where
  | u8
  | i32
  | u32
  | i64
  | u64
  | float
  | bool
  | varint
  | length
  | index
  | signed
  | string
  | exact (count : Nat)
  /-- A typed constant, of one of the types in a table. -/
  | typed (types : TypeTable)

namespace Call

/-- What a call gives if it succeeds. -/
def Outcome : Call → Type
  | .u8 => UInt8
  | .i32 => Int32
  | .u32 => UInt32
  | .i64 => Int64
  | .u64 => UInt64
  | .float => Binary64
  | .bool => Bool
  | .varint => UInt64
  | .length => Nat
  | .index => UInt32
  | .signed => Int64
  | .string => String
  | .exact count => { bytes : List UInt8 // bytes.length = count }
  | .typed _ => Value

def read : (call : Call) → Reader call.Outcome
  | .u8 => Reader.u8
  | .i32 => Reader.i32
  | .u32 => Reader.u32
  | .i64 => Reader.i64
  | .u64 => Reader.u64
  | .float => do return ⟨← Reader.u64⟩
  | .bool => Reader.bool
  | .varint => Reader.varint
  | .length => Reader.length
  | .index => Reader.index
  | .signed => Reader.signed
  | .string => Reader.string
  | .exact count => Reader.exact count
  | .typed types => Reader.typed types

/-- What holds of the steps of readers, and is inherited by sequences, holds of every call. -/
theorem of_compositional {property : ∀ {Result : Type}, Reader Result → Prop}
    (compositional : Compositional property) (call : Call) : property call.read := by
  cases call with
  | u8 => exact compositional.u8
  | i32 => exact compositional.i32
  | u32 => exact compositional.u32
  | i64 => exact compositional.i64
  | u64 => exact compositional.u64
  | float => exact compositional.bind compositional.u64 fun _ => compositional.pure _
  | bool => exact compositional.bool
  | varint => exact compositional.varint
  | length => exact compositional.length
  | index => exact compositional.index
  | signed => exact compositional.signed
  | string => exact compositional.string
  | exact count => exact compositional.exact count
  | typed types => exact compositional.typed types

theorem orderly (call : Call) : call.read.Orderly :=
  of_compositional Orderly.compositional call

theorem places (call : Call) : call.read.Places :=
  of_compositional Places.compositional call

end Call

/-! ## Sequences of calls -/

/-- The states in which a byte source can be after calls on its reader, whatever their outcomes. -/
inductive Session (bytes : List UInt8) : Source → Prop where
  | opened (depth : Nat) (ending : Ending) : Session bytes ⟨bytes, 0, depth, ending⟩
  | succeeded {source after : Source} {call : Call} {result : call.Outcome}
      (session : Session bytes source) (success : call.read source = .ok result after) :
      Session bytes after
  /-- A failed call may have read bytes that it did not count. -/
  | failed {source after : Source} {call : Call} {failure : Failure} {rest : List UInt8}
      (session : Session bytes source) (failed : call.read source = .error failure after)
      (lost : rest <:+ after.rest) : Session bytes { after with rest := rest }

namespace Session

variable {bytes : List UInt8} {source : Source}

/-- The position and the bytes that are left never exceed the source. -/
theorem position_add_rest_le (session : Session bytes source) :
    source.position + source.rest.length ≤ bytes.length := by
  induction session with
  | opened depth ending => simp
  | @succeeded source after call result _ success ih =>
      have moved := (call.orderly.reaches success).position_eq
      omega
  | @failed source after call failure rest _ failed lost ih =>
      have moved := (call.orderly.locates failed).1.position_eq
      have fewer := lost.length_le
      simp only
      omega

end Session

/-- A call on a source keeps its books, where the source has `length` bytes in all. -/
structure Call.KeepsBooks (call : Call) (length : Nat) (source : Source) : Prop where
  /-- A success takes bytes from the front and counts each of them. -/
  counts : ∀ result after, call.read source = .ok result after →
    ∃ taken, source.rest = taken ++ after.rest ∧ after.position = source.position + taken.length
  /-- A failure of the format lies between the beginning of the call and the end of the source. -/
  locates : ∀ fault path? offset? after,
    call.read source = .error (.format fault path? offset?) after →
      ∃ offset, offset? = some offset ∧ source.position ≤ offset ∧ offset ≤ length
  restores : ∀ result after, call.read source = .ok result after → after.depth = source.depth
  restores_failed : ∀ failure after, call.read source = .error failure after →
    after.depth = source.depth

/-- Every call keeps the books, after whatever calls were made on the same reader. -/
theorem Session.keepsBooks {bytes : List UInt8} {source : Source} (session : Session bytes source)
    (call : Call) : call.KeepsBooks bytes.length source where
  counts := by
    intro result after success
    have reaches := call.orderly.reaches success
    rcases reaches.rest_suffix with ⟨taken, split⟩
    have sum := reaches.position_eq
    rw [← split, List.length_append] at sum
    exact ⟨taken, split.symm, by omega⟩
  locates := by
    intro fault path? offset? after failed
    rcases call.orderly.locates failed with ⟨reaches, located⟩
    rcases Option.isSome_iff_exists.mp (call.places _ _ _ failed _ _ _ rfl) with ⟨offset, offsetEq⟩
    rcases (located _ _ _ rfl).2 offset offsetEq with ⟨first_le, le_last⟩
    have within := session.position_add_rest_le
    have sum := reaches.position_eq
    exact ⟨offset, offsetEq, first_le, by omega⟩
  restores := by
    intro result after success
    exact (call.orderly.reaches success).depth_eq
  restores_failed := by
    intro failure after failed
    exact (call.orderly.locates failed).1.depth_eq

/-! ## A list that ends early -/

def listTypes : TypeTable :=
  ⟨[⟨7, "list", .list⟩]⟩

/-- A list whose only item ends behind its tag. -/
def openList : List UInt8 :=
  [7, 0, 0, 0, 1, 7, 0, 0, 0]

/-- After a call that lost a byte, the reading of a list fails two constants deep. -/
theorem Session.keepsBooks_openList :
    Session (9 :: openList) ⟨openList, 0, 0, .endOfBytes⟩ ∧
      (Call.typed listTypes).read ⟨openList, 0, 0, .endOfBytes⟩ =
        .error (.format .truncatedVarint none (some 9)) ⟨[], 9, 0, .endOfBytes⟩ ∧
      (Call.typed listTypes).KeepsBooks 10 ⟨openList, 0, 0, .endOfBytes⟩ := by
  have refused : (Call.exact 11).read ⟨9 :: openList, 0, 0, .endOfBytes⟩ =
      .error (.format .truncated none (some 0)) ⟨9 :: openList, 0, 0, .endOfBytes⟩ := rfl
  have session : Session (9 :: openList) ⟨openList, 0, 0, .endOfBytes⟩ :=
    .failed (.opened 0 .endOfBytes) refused (List.suffix_cons 9 openList)
  have broken : (Call.typed listTypes).read ⟨openList, 0, 0, .endOfBytes⟩ =
      .error (.format .truncatedVarint none (some 9)) ⟨[], 9, 0, .endOfBytes⟩ := by
    cbv
  exact ⟨session, broken, session.keepsBooks (.typed listTypes)⟩

end Reader

end Resemblance
