import Mathlib.Algebra.BigOperators.Group.List.Basic
import Resemblance.Proofs.Wire.Compositional

/-!
# What results cost

A reader demands bytes for its result: whenever it succeeds, it has taken at least as many bytes as
the result costs, where the cost is any measure of results. A count that is read from a stream says
how many items follow, and buys nothing by itself: it is the items that are paid for, since each of
them takes bytes when it is read. So a collection costs what its items cost together, however long
it claims to be.
-/

namespace Resemblance

namespace Reader

variable {Result Next Item : Type}

/-- A success takes at least as many bytes as its result costs. -/
def Demands (reader : Reader Result) (cost : Result → Nat) : Prop :=
  ∀ source result after, reader source = .ok result after →
    cost result + after.rest.length ≤ source.rest.length

namespace Demands

/-! ## Sequences -/

theorem mono {reader : Reader Result} {cost lower : Result → Nat} (demands : reader.Demands cost)
    (atMost : ∀ result, lower result ≤ cost result) : reader.Demands lower := by
  intro source result after success
  have paid := demands source result after success
  have less := atMost result
  omega

theorem pure (result : Result) {cost : Result → Nat} (free : cost result = 0) :
    (Pure.pure result : Reader Result).Demands cost := by
  intro source outcome after success
  rcases pure_eq_ok.mp success with ⟨rfl, rfl⟩
  rw [free, Nat.zero_add]

theorem fail (fault : FormatFault) (cost : Result → Nat) :
    (Reader.fail fault : Reader Result).Demands cost := by
  intro source result after impossible
  cases impossible

/-- What the first step has paid is no longer owed by the next one. -/
theorem bind {reader : Reader Result} {next : Result → Reader Next} {paid : Result → Nat}
    {cost : Next → Nat} (first : reader.Demands paid)
    (second : ∀ result, (next result).Demands fun outcome => cost outcome - paid result) :
    (reader >>= next).Demands cost := by
  intro source outcome after success
  rcases bind_eq_ok.mp success with ⟨result, between, firstSuccess, secondSuccess⟩
  have front := first source result between firstSuccess
  have back := second result between outcome after secondSuccess
  simp only at back
  omega

theorem map {reader : Reader Result} {change : Result → Next} {cost : Next → Nat}
    (demands : reader.Demands fun result => cost (change result)) :
    (reader >>= fun result => Pure.pure (change result)).Demands cost := by
  intro source outcome after success
  rcases bind_eq_ok.mp success with ⟨result, between, first, last⟩
  rcases pure_eq_ok.mp last with ⟨rfl, rfl⟩
  exact demands source result between first

/-- The first step takes its bytes whatever the result is. -/
theorem before {reader : Reader Result} {next : Result → Reader Next} {least : Nat}
    {cost : Next → Nat} (first : reader.Demands fun _ => least)
    (second : ∀ result, (next result).Demands cost) :
    (reader >>= next).Demands fun outcome => least + cost outcome :=
  first.bind fun result => (second result).mono fun outcome => by omega

theorem nested {inner : Reader Result} {cost : Result → Nat} (demands : inner.Demands cost) :
    (Reader.nested inner).Demands cost := by
  intro source result after success
  rcases nested_eq_ok.mp success with ⟨_, between, innerSuccess, rfl⟩
  exact demands { source with depth := source.depth + 1 } result between innerSuccess

theorem tagged {Tag Kind : Type} {tag : Reader Tag} {kind? : Tag → Option Kind}
    {fault : Tag → FormatFault} {body : Kind → Reader Result} {least : Nat} {cost : Result → Nat}
    (mark : tag.Demands fun _ => least) (inner : ∀ kind, (body kind).Demands cost) :
    (Reader.tagged tag kind? fault body).Demands fun result => least + cost result := by
  intro source result after success
  rcases tagged_eq_ok.mp success with ⟨number, between, kind, tagRead, _, bodyRead⟩
  have front := mark source number between tagRead
  have back := inner kind between result after bodyRead
  simp only at front ⊢
  omega

/-! ## Numbers and texts -/

theorem exact (count : Nat) : (Reader.exact count).Demands fun _ => count := by
  intro source result after success
  simp only [Reader.exact] at success
  split at success
  · rename_i complete
    simp only [EStateM.Result.ok.injEq] at success
    rcases success with ⟨_, rfl⟩
    rw [List.length_take] at complete
    simp only [Source.advance, List.length_drop]
    omega
  · cases success

theorem u32 : Reader.u32.Demands fun _ => 4 :=
  (exact 4).bind fun _ => .pure _ (Nat.sub_self 4)

/-- A reader that gets nothing from no bytes takes at least one byte for what it gives. -/
theorem ofStarving {reader : Reader Result} (regular : reader.Regular)
    (starves : ∀ depth result after, reader ⟨[], 0, depth, .endOfBytes⟩ ≠ .ok result after) :
    reader.Demands fun _ => 1 := by
  intro source result after success
  rcases regular.takes_of_ok success with ⟨form, takes, split, _⟩
  have nonempty : 0 < form.length := by
    rw [List.length_pos_iff]
    rintro rfl
    exact starves source.depth _ _ (takes 0 [] .endOfBytes)
  rw [split, List.length_append]
  exact Nat.add_le_add_right nonempty after.rest.length

theorem u64 : Reader.u64.Demands fun _ => 1 :=
  ofStarving .u64 (by rintro _ _ _ ⟨⟩)

theorem bool : Reader.bool.Demands fun _ => 1 :=
  ofStarving .bool (by rintro _ _ _ ⟨⟩)

theorem varint : Reader.varint.Demands fun _ => 1 :=
  ofStarving .varint (by rintro _ _ _ ⟨⟩)

theorem signed : Reader.signed.Demands fun _ => 1 :=
  ofStarving .signed (by rintro _ _ _ ⟨⟩)

theorem length : Reader.length.Demands fun _ => 1 :=
  ofStarving .length (by rintro _ _ _ ⟨⟩)

theorem string : Reader.string.Demands fun _ => 1 :=
  ofStarving .string (by rintro _ _ _ ⟨⟩)

/-! ## Collections -/

/-- Each item is paid for, whatever number of them was announced. -/
theorem replicate {item : Reader Item} {cost : Item → Nat} (demands : item.Demands cost)
    (count : Nat) :
    (Reader.replicate count item).Demands fun items => (items.map cost).sum := by
  induction count with
  | zero => exact .pure [] rfl
  | succ count ih =>
      refine demands.bind fun first => map (ih.mono fun others => ?_)
      rw [List.map_cons, List.sum_cons, Nat.add_sub_cancel_left]

/-- Entries are paid for with their keys. What they cost is added to the cost of earlier entries. -/
theorem keyedAfter {repeated : String → FormatFault} {item : Reader Item} {cost : Item → Nat}
    (demands : item.Demands cost) (before : List (String × Item)) (count : Nat) :
    (Reader.keyedAfter repeated item before count).Demands fun entries =>
      (entries.map fun entry => 1 + cost entry.2).sum -
        (before.map fun entry => 1 + cost entry.2).sum := by
  induction count generalizing before with
  | zero => exact .pure before (Nat.sub_self _)
  | succ count ih =>
      refine string.bind fun key => demands.bind fun value => ?_
      split
      · exact .fail (repeated key) _
      · refine (ih _).mono fun entries => ?_
        simp only [List.map_append, List.sum_append, List.map_singleton, List.sum_singleton]
        omega

end Demands

end Reader

end Resemblance
