import Resemblance.Proofs.Value.Collections

/-!
# Typed constants in a stream

A storable value is read back from its payload, and a typed constant from its tag and payload, by
every reader with the same types; what is read from a payload is storable. Both follow the nesting
of values: the first by induction over parts, the second by induction over the levels that a reader
of typed constants still descends.
-/

namespace Resemblance

namespace Attributes

theorem isSome_get?_iff {key : String} {entries : Attributes} :
    (get? key entries).isSome ↔ key ∈ entries.map (·.1) := by
  induction entries with
  | nil => simp [get?]
  | cons entry entries ih =>
      rcases entry with ⟨other, value⟩
      by_cases equal : other = key
      · simp [get?, equal]
      · simp [get?, equal, ih, Ne.symm equal]

end Attributes

namespace Writer

theorem typedItems_eq_each (types : TypeTable) (items : List Value) :
    typedItems types items = each (typed types) items := by
  induction items with
  | nil => rfl
  | cons item items ih =>
      simp only [typedItems, each, typed, bind_assoc, ih]

theorem typedEntries_eq_each (types : TypeTable) (entries : List (String × Value)) :
    typedEntries types entries =
      each (fun entry => do string entry.1; typed types entry.2) entries := by
  induction entries with
  | nil => rfl
  | cons entry entries ih =>
      simp only [typedEntries, each, typed, bind_assoc, ih]

theorem Emits.typeTag {types : TypeTable} {type : ValueType} (knows : types.Knows type)
    {bytes : List UInt8} (tag : (u32 (Hash.nameHash type.name)).Emits bytes) :
    (typeTag types type).Emits bytes := by
  simp only [Writer.typeTag, knows.contains, if_true]
  exact tag

end Writer

namespace Reader

/-! ## Entries -/

theorem entriesAfter_eq_keyedAfter (typed : Reader Value) (before : Attributes) (count : Nat) :
    entriesAfter typed before count =
      keyedAfter (fun _ => .repeatedAttribute) typed before count := by
  induction count generalizing before with
  | zero => rfl
  | succ count ih => simp only [entriesAfter, keyedAfter, Attributes.isSome_get?_iff, ih]

theorem Regular.entriesAfter {typed : Reader Value} (regular : typed.Regular)
    (before : Attributes) (count : Nat) : (entriesAfter typed before count).Regular := by
  rw [entriesAfter_eq_keyedAfter]
  exact regular.keyedAfter before count

/-! ## Payloads and typed constants -/

theorem Regular.payloadWith {typed : Reader Value} (regular : typed.Regular) (type : ValueType) :
    (payloadWith typed type).Regular := by
  cases type with
  | int => exact Regular.signed.bind fun _ => .pure _
  | float => exact Regular.u64.bind fun _ => .pure _
  | bool => exact Regular.bool.bind fun _ => .pure _
  | string => exact Regular.string.bind fun _ => .pure _
  | vector =>
      exact Regular.length.bind fun count =>
        (Regular.component.replicate count).bind fun _ => .pure _
  | hashes => exact Regular.length.bind fun count => (Regular.hashes count).bind fun _ => .pure _
  | list => exact Regular.length.bind fun count => (regular.replicate count).bind fun _ => .pure _
  | map =>
      exact Regular.length.bind fun count => (regular.entriesAfter [] count).bind fun _ => .pure _
  | bloom => exact Regular.bloomFilter.bind fun _ => .pure _
  | digest => exact Regular.digest.bind fun _ => .pure _

/-- The reading of a payload inside a typed constant, with the levels that are left for it. -/
def payloadWithin (types : TypeTable) : (levels : Nat) → ValueType → Reader Value
  | 0, _ => fail .nestingTooDeep
  | levels + 1, type => payloadWith (typedWithin types levels) type

/-- The reading of a typed constant, with the offset that is reported for an unknown type. -/
def typedFrom (types : TypeTable) (levels offset : Nat) : Reader Value := do
  let hash ← u32
  match types.type? hash with
  | none => failAt offset (.unregisteredType hash)
  | some type => nested (payloadWithin types levels type)

theorem typedWithin_eq (types : TypeTable) (levels : Nat) :
    typedWithin types levels = position >>= typedFrom types levels := by
  cases levels with
  | zero => rw [typedWithin]; rfl
  | succ levels => rw [typedWithin]; rfl

theorem typedFrom_eq_ok {types : TypeTable} {levels offset : Nat} {source after : Source}
    {value : Value} :
    typedFrom types levels offset source = .ok value after ↔
      ∃ hash between, u32 source = .ok hash between ∧ ∃ type, types.type? hash = some type ∧
        nested (payloadWithin types levels type) between = .ok value after := by
  rw [typedFrom, bind_eq_ok]
  refine exists_congr fun hash => exists_congr fun between => and_congr_right fun _ => ?_
  cases found : types.type? hash with
  | none => simp [failAt]
  | some type => simp

theorem typedFrom_offsetFree (types : TypeTable) (levels : Nat) :
    OffsetFree (typedFrom types levels) := by
  intro offset other source value after success
  exact typedFrom_eq_ok.mpr (typedFrom_eq_ok.mp success)

theorem Regular.typedFrom {types : TypeTable} {levels : Nat}
    (inner : ∀ type, (payloadWithin types levels type).Regular) (offset : Nat) :
    (typedFrom types levels offset).Regular := by
  refine Regular.u32.bind fun hash => ?_
  split
  · exact .failAt offset (.unregisteredType hash)
  · exact (inner _).nested

theorem Regular.payloadWithin (types : TypeTable) (levels : Nat) (type : ValueType) :
    (payloadWithin types levels type).Regular := by
  induction levels generalizing type with
  | zero => exact .fail .nestingTooDeep
  | succ levels ih =>
      refine Regular.payloadWith ?_ type
      rw [typedWithin_eq]
      exact .position (typedFrom_offsetFree types levels) (.typedFrom ih)

theorem Regular.typedWithin (types : TypeTable) (levels : Nat) :
    (typedWithin types levels).Regular := by
  rw [typedWithin_eq]
  exact .position (typedFrom_offsetFree types levels) (.typedFrom (.payloadWithin types levels))

theorem Regular.typed (types : TypeTable) : (typed types).Regular :=
  .typedWithin types maxNesting

theorem Regular.payload (types : TypeTable) (type : ValueType) : (payload types type).Regular :=
  (Regular.typed types).payloadWith type

theorem Regular.attributes (types : TypeTable) : (attributes types).Regular :=
  Regular.length.bind fun count => (Regular.typed types).entriesAfter [] count

/-- A typed constant is the hash of a known type and a payload one level further inside. -/
theorem typedWithin_takes_iff {types : TypeTable} {levels depth : Nat} {bytes : List UInt8}
    {value : Value} :
    (typedWithin types levels).Takes depth bytes value ↔
      ∃ front back hash type, bytes = front ++ back ∧ u32.Takes depth front hash ∧
        types.type? hash = some type ∧ depth < maxNesting ∧
        (payloadWithin types levels type).Takes (depth + 1) back value := by
  rw [typedWithin_eq, takes_position_iff (typedFrom_offsetFree types levels) 0]
  constructor
  · intro takes
    have regular (hash : UInt32) :
        (match types.type? hash with
          | none => failAt 0 (.unregisteredType hash)
          | some type => nested (payloadWithin types levels type)).Regular := by
      split
      · exact .failAt 0 (.unregisteredType hash)
      · exact (Regular.payloadWithin types levels _).nested
    rcases Regular.u32.takes_bind regular takes with ⟨front, back, hash, rfl, tag, payload⟩
    cases found : types.type? hash with
    | none =>
        simp only [found] at payload
        cases payload 0 [] .endOfBytes
    | some type =>
        simp only [found] at payload
        rcases (nested_takes_iff (.payloadWithin types levels type)).mp payload with
          ⟨shallow, inner⟩
        exact ⟨front, back, hash, type, rfl, tag, found, shallow, inner⟩
  · rintro ⟨front, back, hash, type, rfl, tag, found, shallow, inner⟩
    refine tag.bind ?_
    simp only [found]
    exact (nested_takes_iff (.payloadWithin types levels type)).mpr ⟨shallow, inner⟩

/--
What is read from a payload has the type that was asked for and is itself in order, and its parts
are what the inner reader gives.
-/
theorem of_payloadWith_takes {typed : Reader Value} (regular : typed.Regular)
    {property : Value → Prop} {depth : Nat}
    (inner : ∀ {bytes part}, typed.Takes depth bytes part → property part) {type : ValueType}
    {bytes : List UInt8} {value : Value}
    (takes : (payloadWith typed type).Takes depth bytes value) :
    value.type = type ∧ value.CanonicalHere ∧ value.FitsHere ∧
      ∀ part ∈ value.parts, property part := by
  have noParts {part : Value} (member : part ∈ ([] : List Value)) : property part :=
    absurd member List.not_mem_nil
  cases type with
  | int =>
      rcases Regular.signed.takes_map takes with ⟨number, _, rfl⟩
      exact ⟨rfl, trivial, trivial, fun _ => noParts⟩
  | float =>
      rcases Regular.u64.takes_map takes with ⟨word, _, rfl⟩
      exact ⟨rfl, trivial, trivial, fun _ => noParts⟩
  | bool =>
      rcases Regular.bool.takes_map takes with ⟨truth, _, rfl⟩
      exact ⟨rfl, trivial, trivial, fun _ => noParts⟩
  | string =>
      rcases Regular.string.takes_map takes with ⟨text, textTakes, rfl⟩
      exact ⟨rfl, trivial, textFits_of_string_takes textTakes, fun _ => noParts⟩
  | vector =>
      rcases Regular.length.takes_bind (fun count =>
        (Regular.component.replicate count).bind fun _ => .pure _) takes with
        ⟨_, _, count, _, countTakes, rest⟩
      rcases (Regular.component.replicate count).takes_map rest with ⟨components, taken, rfl⟩
      have lengthEq := (forall_of_replicate_takes Regular.component (fun _ => True)
        (fun _ => trivial) taken).1
      refine ⟨rfl, trivial, ?_, fun _ => noParts⟩
      rw [Value.FitsHere, lengthEq]
      exact le_of_length_takes countTakes
  | hashes =>
      rcases Regular.length.takes_bind (fun count =>
        (Regular.hashes count).bind fun _ => .pure _) takes with ⟨_, _, count, _, countTakes, rest⟩
      rcases (Regular.hashes count).takes_map rest with ⟨members, taken, rfl⟩
      rcases of_hashes_takes taken with ⟨lengthEq, increasing⟩
      refine ⟨rfl, increasing, ?_, fun _ => noParts⟩
      rw [Value.FitsHere, HashSet.size, lengthEq]
      exact le_of_length_takes countTakes
  | list =>
      rcases Regular.length.takes_bind (fun count =>
        (regular.replicate count).bind fun _ => .pure _) takes with
        ⟨_, _, count, _, countTakes, rest⟩
      rcases (regular.replicate count).takes_map rest with ⟨items, taken, rfl⟩
      rcases forall_of_replicate_takes regular property inner taken with ⟨lengthEq, holds⟩
      refine ⟨rfl, trivial, ?_, holds⟩
      rw [Value.FitsHere, lengthEq]
      exact le_of_length_takes countTakes
  | map =>
      rcases Regular.length.takes_bind (fun count =>
        (regular.entriesAfter [] count).bind fun _ => .pure _) takes with
        ⟨_, _, count, _, countTakes, rest⟩
      rcases (regular.entriesAfter [] count).takes_map rest with ⟨entries, taken, rfl⟩
      rw [entriesAfter_eq_keyedAfter] at taken
      rcases of_keyedAfter_takes regular property inner (by simp) taken with
        ⟨distinct, added, addedEq, lengthEq, holds⟩
      rw [List.nil_append] at addedEq
      subst addedEq
      refine ⟨rfl, distinct, ⟨?_, fun entry member => (holds entry member).1⟩, ?_⟩
      · rw [lengthEq]
        exact le_of_length_takes countTakes
      · intro part member
        rcases List.mem_map.mp member with ⟨entry, entryMember, rfl⟩
        exact (holds entry entryMember).2
  | bloom =>
      rcases Regular.bloomFilter.takes_map takes with ⟨filter, filterTakes, rfl⟩
      rcases of_bloomFilter_takes filterTakes with ⟨canonical, fits⟩
      exact ⟨rfl, canonical, fits, fun _ => noParts⟩
  | digest =>
      rcases Regular.digest.takes_map takes with ⟨digest?, _, rfl⟩
      exact ⟨rfl, trivial, trivial, fun _ => noParts⟩

theorem type_of_payload_takes {types : TypeTable} {type : ValueType} {depth : Nat}
    {bytes : List UInt8} {value : Value} (takes : (payload types type).Takes depth bytes value) :
    value.type = type :=
  (@of_payloadWith_takes _ (.typed types) (fun _ => True) _ (fun _ => trivial) _ _ _ takes).1

/-- Typed constants that are read with a faithful table are storable one level further inside. -/
theorem storable_of_typedWithin_takes {types : TypeTable} (faithful : types.Faithful)
    {levels depth : Nat} {bytes : List UInt8} {value : Value}
    (takes : (typedWithin types levels).Takes depth bytes value) :
    types.Knows value.type ∧ value.Storable types (depth + 1) := by
  induction levels generalizing depth bytes value with
  | zero =>
      rcases typedWithin_takes_iff.mp takes with ⟨_, _, _, _, _, _, _, _, payload⟩
      exact absurd payload not_takes_fail
  | succ levels ih =>
      rcases typedWithin_takes_iff.mp takes with ⟨_, _, hash, type, _, _, found, shallow, payload⟩
      rcases of_payloadWith_takes (Regular.typedWithin types levels) ih payload with
        ⟨typeEq, canonical, fits, parts⟩
      rw [typeEq]
      exact ⟨faithful hash type found, .of_parts shallow canonical fits parts⟩

theorem storable_of_payload_takes {types : TypeTable} (faithful : types.Faithful)
    {type : ValueType} {depth : Nat} (depth_le : depth ≤ maxNesting) {bytes : List UInt8}
    {value : Value} (takes : (payload types type).Takes depth bytes value) :
    value.Storable types depth := by
  rcases of_payloadWith_takes (.typed types) (storable_of_typedWithin_takes faithful) takes with
    ⟨_, canonical, fits, parts⟩
  exact .of_parts depth_le canonical fits parts

end Reader

/-! ## Exchanges -/

namespace Exchange

open Reader

theorem typedWithin {writerTypes types : TypeTable} {levels depth : Nat} {value : Value}
    (writerKnows : writerTypes.Knows value.type) (knows : types.Knows value.type)
    (shallow : depth < maxNesting)
    (payload : Exchange (Writer.payload writerTypes value)
      (payloadWithin types levels value.type) (depth + 1) value) :
    Exchange (Writer.typed writerTypes value) (Reader.typedWithin types levels) depth value := by
  rcases u32 (Hash.nameHash value.type.name) depth with ⟨front, tagEmits, tagTakes⟩
  rcases payload with ⟨back, payloadEmits, payloadTakes⟩
  refine ⟨front ++ back, (Writer.Emits.typeTag writerKnows tagEmits).bind payloadEmits, ?_⟩
  rw [typedWithin_takes_iff]
  exact ⟨front, back, _, value.type, rfl, tagTakes, knows, shallow, payloadTakes⟩

/-- Payloads of storable values are read back with as many levels as the value nests. -/
theorem payloadWith {writerTypes types : TypeTable} {levels depth : Nat} {value : Value}
    (writerKnows : ∀ part ∈ value.parts, part.KnownTo writerTypes)
    (storable : value.Storable types depth) (enough : value.nesting ≤ levels) :
    Exchange (Writer.payload writerTypes value)
      (Reader.payloadWith (Reader.typedWithin types levels) value.type) depth value := by
  induction value using Value.induction_parts generalizing levels depth with
  | step value ih =>
      have canonical := storable.canonical.here
      have fits := storable.fits.here
      have constants : ∀ part ∈ value.parts, Exchange (Writer.typed writerTypes part)
          (Reader.typedWithin types levels) depth part := by
        intro part member
        have deeper := Value.nesting_le_iff.mp enough part member
        have shallow := (storable.part member).shallow
        rcases levels with _ | levels
        · omega
        · refine typedWithin (writerKnows part member).here (storable.known part member).here
            (by omega) ?_
          exact ih part member (fun inner => (writerKnows part member).inside)
            (storable.part member) (by omega)
      cases value with
      | int number => exact (signed number depth).map Value.int
      | float number => exact (u64 number.bits depth).map fun bits => Value.float ⟨bits⟩
      | bool truth => exact (bool truth depth).map Value.bool
      | string text => exact (string fits depth).map Value.string
      | vector components =>
          have items := each fun item (_ : item ∈ components) => component item depth
          exact (length fits depth).bind (items.map Value.vector)
      | hashes set =>
          exact (length fits depth).bind
            ((hashes canonical depth).map fun members => Value.hashes ⟨members⟩)
      | list items =>
          have typedItems := each constants
          rw [Value.parts] at typedItems
          rw [Writer.payload, Writer.typedItems_eq_each]
          exact (length fits depth).bind (typedItems.map Value.list)
      | map entries =>
          have typedEntries : Exchange
              (Writer.each (fun entry => do Writer.string entry.1; Writer.typed writerTypes entry.2)
                entries)
              (Reader.entriesAfter (Reader.typedWithin types levels) [] entries.length) depth
              ([] ++ entries) := by
            have distinct : (([] ++ entries : Attributes).map (·.1)).Nodup := canonical
            rw [entriesAfter_eq_keyedAfter]
            apply keyedAfter distinct fits.2
            intro entry member
            exact constants entry.2 (List.mem_map_of_mem member)
          rw [Writer.payload, Writer.typedEntries_eq_each]
          exact (length fits.1 depth).bind (typedEntries.map Value.map)
      | bloom filter => exact (bloomFilter canonical fits depth).map Value.bloom
      | digest digest? => exact (digest digest? depth).map Value.digest

theorem payload {types : TypeTable} {depth : Nat} {value : Value}
    (storable : value.Storable types depth) :
    Exchange (Writer.payload types value) (Reader.payload types value.type) depth value := by
  have shallow := storable.shallow
  exact payloadWith storable.known storable (by omega)

theorem attributes {types : TypeTable} {depth : Nat} {entries : Attributes}
    (storable : (Value.map entries).Storable types depth) :
    Exchange (Writer.attributes types entries) (Reader.attributes types) depth entries := by
  rcases payload storable with ⟨bytes, emits, takes⟩
  refine ⟨bytes, emits, ?_⟩
  have regular (count : Nat) := (Regular.typed types).entriesAfter [] count
  rcases Regular.length.takes_bind (fun count => (regular count).bind fun _ => .pure _) takes with
    ⟨front, back, count, rfl, countTakes, rest⟩
  rcases (regular count).takes_map rest with ⟨read, entriesTake, readEq⟩
  rw [Value.map.injEq] at readEq
  subst readEq
  exact countTakes.bind entriesTake

end Exchange

end Resemblance
