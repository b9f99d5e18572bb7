import Resemblance.Proofs.Value.Representation
import Resemblance.Proofs.Value.TypedConstant
import Resemblance.Proofs.Wire.Conditional

/-!
# The limits of typed constants

A writer of typed constants enforces no limit: it succeeds if the types of a value and of everything
inside it are in its table. A reader takes what was written if these types are in its own table, the
texts and collections keep within their limits, and the constants are not nested too deeply. These
conditions are exact. A value that fails one of them is refused as malformed, and it is never read as
another value.
-/

namespace Resemblance

/-! ## Legible constants -/

namespace Value

/-- A typed constant that is read at a depth of nesting, with `levels` of nesting still supported. -/
structure Legible (table : TypeTable) (levels depth : Nat) (value : Value) : Prop where
  known : value.KnownTo table
  fits : value.Fits
  shallow : depth + value.nesting < Reader.maxNesting
  supported : value.nesting < levels

theorem not_legible_zero {table : TypeTable} {depth : Nat} {value : Value} :
    ¬value.Legible table 0 depth :=
  fun legible => Nat.not_lt_zero _ legible.supported

/-- A constant is legible if its own payload is in order and its parts are legible inside. -/
theorem legible_succ_iff {table : TypeTable} {levels depth : Nat} {value : Value} :
    value.Legible table (levels + 1) depth ↔
      table.Knows value.type ∧ depth < Reader.maxNesting ∧ value.FitsHere ∧
        ∀ part ∈ value.parts, part.Legible table levels (depth + 1) := by
  constructor
  · intro legible
    have shallow := legible.shallow
    have supported := legible.supported
    refine ⟨legible.known.here, by omega, legible.fits.here, ?_⟩
    intro part member
    have deeper := nesting_le_iff.mp (Nat.le_refl value.nesting) part member
    exact ⟨legible.known.inside member, legible.fits.inside member, by omega, by omega⟩
  · rintro ⟨knows, shallow, fits, parts⟩
    have nesting_le : value.nesting ≤ Reader.maxNesting - depth - 1 := by
      rw [nesting_le_iff]
      intro part member
      have partShallow := (parts part member).shallow
      omega
    have nesting_le_levels : value.nesting ≤ levels := by
      rw [nesting_le_iff]
      intro part member
      exact (parts part member).supported
    refine ⟨.intro knows fun part member => (parts part member).known,
      .intro fits fun part member => (parts part member).fits, ?_, ?_⟩ <;> omega

end Value

/-! ## Exchanges -/

theorem Writer.EmitsIf.typeTag {types : TypeTable} (registered : types.Registered)
    (type : ValueType) :
    (typeTag types type).EmitsIf (types.Knows type)
      (toLittleEndian 4 (Hash.nameHash type.name).toNat) where
  emits := by
    intro knows
    exact .typeTag knows (.bytes _)
  fails := by
    intro unknown sink _
    have missing : types.contains (Hash.nameHash type.name) = false := by
      rw [Bool.eq_false_iff, ne_eq, registered.contains_iff]
      exact unknown
    refine ⟨.notRegistered (.valueType type.name), sink, ?_⟩
    simp only [Writer.typeTag, missing]
    rfl

theorem Reader.position_bind {Result : Type} (next : Nat → Reader Result) (source : Source) :
    (position >>= next) source = next source.position source :=
  rfl

namespace Reader.TakesIf

theorem nested {Result : Type} {inner : Reader Result} (regular : inner.Regular) {condition : Prop}
    {depth : Nat} {bytes : List UInt8} {result : Result}
    (inside : inner.TakesIf condition (depth + 1) bytes result) :
    (Reader.nested inner).TakesIf (depth < maxNesting ∧ condition) depth bytes result where
  takes := by
    rintro ⟨shallow, holds⟩
    exact (nested_takes_iff regular).mpr ⟨shallow, inside.takes holds⟩
  fails := by
    intro notBoth position tail ending
    rcases Nat.lt_or_ge depth maxNesting with shallow | tooDeep
    · rcases inside.fails (fun holds => notBoth ⟨shallow, holds⟩) position tail ending with
        ⟨failure, after, failed⟩
      exact ⟨failure, _, nested_eq_error.mpr (.inr ⟨shallow, after, failed, rfl⟩)⟩
    · exact ⟨_, _, nested_eq_error.mpr (.inl ⟨tooDeep, rfl, rfl⟩)⟩

/-- A typed constant is read if its type is known and its payload is read one level further inside. -/
theorem typedWithin {types : TypeTable} (registered : types.Registered) {type : ValueType}
    {levels depth : Nat} {condition : Prop} {bytes : List UInt8} {value : Value}
    (payload : (payloadWithin types levels type).TakesIf condition (depth + 1) bytes value) :
    (Reader.typedWithin types levels).TakesIf
      (types.Knows type ∧ depth < maxNesting ∧ condition) depth
      (toLittleEndian 4 (Hash.nameHash type.name).toNat ++ bytes) value := by
  have tag : u32.Takes depth (toLittleEndian 4 (Hash.nameHash type.name).toNat)
      (Hash.nameHash type.name) := u32_takes_iff.mpr rfl
  have inside := nested (.payloadWithin types levels type) payload
  constructor
  · rintro ⟨knows, shallow, holds⟩
    rw [typedWithin_takes_iff]
    exact ⟨_, bytes, _, type, rfl, tag, knows, shallow, payload.takes holds⟩
  · intro notAll position tail ending
    rw [typedWithin_eq, position_bind, typedFrom, List.append_assoc, tag.bind_eq]
    cases found : types.type? (Hash.nameHash type.name) with
    | none => exact ⟨_, _, rfl⟩
    | some other =>
        have knows : types.Knows type := by
          rw [← registered.contains_iff, Registry.contains]
          rw [Registry.type?, Option.map_eq_some_iff] at found
          rcases found with ⟨entry, entryFound, _⟩
          rw [entryFound]
          rfl
        have otherEq : other = type := Option.some.inj (found.symm.trans knows)
        rw [otherEq]
        exact inside.fails (fun both => notAll ⟨knows, both⟩) _ tail ending

end Reader.TakesIf

namespace ExchangeIf

theorem bloomFilter {filter : BloomFilter} (canonical : filter.WithinWidth)
    (counted : filter.width < UInt64.size) (depth : Nat) :
    ExchangeIf True (filter.width ≤ Reader.maxCollectionLength) (Writer.bloomFilter filter)
      Reader.bloomFilter depth filter := by
  have lengthEq : filter.words.length = BloomFilter.wordCount filter.width :=
    BloomFilter.length_toWords _ _
  have countedWords : filter.words.length < UInt64.size := by
    rw [lengthEq, BloomFilter.wordCount]
    omega
  have words : Exchange (Writer.each Writer.u64 filter.words)
      (Reader.replicate filter.words.length Reader.u64) depth filter.words :=
    .each fun word _ => .u64 word depth
  have bits : BloomFilter.ofWords filter.words = filter.bits :=
    BloomFilter.ofWords_toWords canonical.bits_lt
  have whole : ExchangeIf (True ∧ True ∧ True ∧ True)
      (filter.width ≤ Reader.maxCollectionLength ∧ True ∧
        filter.words.length ≤ Reader.maxCollectionLength ∧ True)
      (Writer.bloomFilter filter) Reader.bloomFilter depth filter := by
    refine (length counted depth).bind ((of_exchange (.index filter.hashCount depth)).bind ?_)
    refine (length countedWords depth).bind ?_
    rw [if_pos lengthEq]
    refine of_exchange (words.andThen ?_)
    simp only [bits]
    rw [if_pos canonical]
    exact .pure filter
  refine whole.congr (by simp) ?_
  rw [lengthEq]
  constructor
  · rintro ⟨within, _⟩
    exact within
  · intro within
    exact ⟨within, trivial, BloomFilter.wordCount_le within, trivial⟩

section Constants

variable {writerTypes types : TypeTable} (writerRegistered : writerTypes.Registered)
  (registered : types.Registered)

include writerRegistered registered

/-- The exact limits of a typed constant follow from those of its payload. -/
theorem typedWithin_of_payloadWith {value : Value}
    (payload : ∀ levels depth,
      ExchangeIf (∀ part ∈ value.parts, part.KnownTo writerTypes)
        (value.FitsHere ∧ ∀ part ∈ value.parts, part.Legible types levels depth)
        (Writer.payload writerTypes value)
        (Reader.payloadWith (Reader.typedWithin types levels) value.type) depth value)
    (levels depth : Nat) :
    ExchangeIf (value.KnownTo writerTypes) (value.Legible types levels depth)
      (Writer.typed writerTypes value) (Reader.typedWithin types levels) depth value := by
  have tag := Writer.EmitsIf.typeTag writerRegistered value.type
  have known : writerTypes.Knows value.type ∧ (∀ part ∈ value.parts, part.KnownTo writerTypes) ↔
      value.KnownTo writerTypes := Value.knownTo_iff.symm
  cases levels with
  | zero =>
      rcases payload 0 (depth + 1) with ⟨bytes, emits, _⟩
      have refused : (Reader.payloadWithin types 0 value.type).TakesIf False (depth + 1) bytes
          value := .fail not_false
      refine congr ⟨_, tag.bind emits, .typedWithin registered refused⟩ known ?_
      simp [Value.not_legible_zero]
  | succ levels =>
      rcases payload levels (depth + 1) with ⟨bytes, emits, takes⟩
      have inside : (Reader.payloadWithin types (levels + 1) value.type).TakesIf _ (depth + 1) bytes
          value := takes
      exact congr ⟨_, tag.bind emits, .typedWithin registered inside⟩ known
        Value.legible_succ_iff.symm

omit writerRegistered registered in
theorem withoutParts {value : Value} (noParts : value.parts = []) {canWrite canRead : Prop}
    {writer : Writer Unit} {reader : Reader Value} {depth : Nat} {writes reads : Value → Prop}
    (exchange : ExchangeIf canWrite canRead writer reader depth value) (writable : canWrite)
    (limits : canRead ↔ value.FitsHere) :
    ExchangeIf (∀ part ∈ value.parts, writes part)
      (value.FitsHere ∧ ∀ part ∈ value.parts, reads part) writer reader depth value := by
  rw [noParts]
  apply exchange.congr
  · exact iff_of_true writable fun _ member => absurd member List.not_mem_nil
  · rw [limits]
    exact (and_iff_left fun _ member => absurd member List.not_mem_nil).symm

/-- The exact limits of a payload, by induction over the parts of the value. -/
theorem payloadWith {value : Value} (representable : value.Representable) (levels depth : Nat) :
    ExchangeIf (∀ part ∈ value.parts, part.KnownTo writerTypes)
      (value.FitsHere ∧ ∀ part ∈ value.parts, part.Legible types levels depth)
      (Writer.payload writerTypes value)
      (Reader.payloadWith (Reader.typedWithin types levels) value.type) depth value := by
  induction value using Value.induction_parts generalizing levels depth with
  | step value ih =>
      rcases representable.here with ⟨canonical, counted⟩
      have constants : ∀ part ∈ value.parts,
          ExchangeIf (part.KnownTo writerTypes) (part.Legible types levels depth)
            (Writer.typed writerTypes part) (Reader.typedWithin types levels) depth part := by
        intro part member
        apply typedWithin_of_payloadWith writerRegistered registered
        intro innerLevels innerDepth
        exact ih part member (representable.inside member) innerLevels innerDepth
      cases value with
      | int number =>
          exact withoutParts rfl ((of_exchange (.signed number depth)).map Value.int) trivial Iff.rfl
      | float number =>
          exact withoutParts rfl
            ((of_exchange (.u64 number.bits depth)).map fun bits => Value.float ⟨bits⟩) trivial
            Iff.rfl
      | bool truth =>
          exact withoutParts rfl ((of_exchange (.bool truth depth)).map Value.bool) trivial Iff.rfl
      | string text =>
          exact withoutParts rfl ((string counted depth).map Value.string) trivial Iff.rfl
      | vector components =>
          have items := of_exchange (.each fun item (_ : item ∈ components) =>
            .component item depth)
          exact withoutParts rfl ((length counted depth).bind (items.map Value.vector))
            ⟨trivial, trivial⟩ (and_iff_left trivial)
      | hashes set =>
          have members := of_exchange (.hashes canonical depth)
          exact withoutParts rfl
            ((length counted depth).bind (members.map fun members => Value.hashes ⟨members⟩))
            ⟨trivial, trivial⟩ (and_iff_left trivial)
      | list items =>
          have typedItems := each constants
          rw [Writer.payload, Writer.typedItems_eq_each]
          exact ((length counted depth).bind (typedItems.map Value.list)).congr
            (and_iff_right trivial) Iff.rfl
      | map entries =>
          have distinct : (([] ++ entries : Attributes).map (·.1)).Nodup := canonical
          have typedEntries : ExchangeIf (∀ entry ∈ entries, entry.2.KnownTo writerTypes)
              (∀ entry ∈ entries, TextFits entry.1 ∧ entry.2.Legible types levels depth)
              (Writer.each (fun entry => do Writer.string entry.1; Writer.typed writerTypes entry.2)
                entries)
              (Reader.entriesAfter (Reader.typedWithin types levels) [] entries.length) depth
              ([] ++ entries) := by
            rw [Reader.entriesAfter_eq_keyedAfter]
            apply keyedAfter distinct counted.2
            intro entry member
            exact constants entry.2 (List.mem_map_of_mem member)
          rw [Writer.payload, Writer.typedEntries_eq_each]
          apply ((length counted.1 depth).bind (typedEntries.map Value.map)).congr
          · rw [Value.parts, List.forall_mem_map, and_iff_right trivial]
          · rw [Value.parts, List.forall_mem_map, Value.FitsHere, and_assoc, ← forall₂_and]
      | bloom filter =>
          exact withoutParts rfl ((bloomFilter canonical counted depth).map Value.bloom) trivial
            Iff.rfl
      | digest digest? =>
          exact withoutParts rfl ((of_exchange (.digest digest? depth)).map Value.digest) trivial
            Iff.rfl

/-- The exact limits of a typed constant. -/
theorem typed {value : Value} (representable : value.Representable) (depth : Nat) :
    ExchangeIf (value.KnownTo writerTypes) (value.Legible types Reader.maxNesting depth)
      (Writer.typed writerTypes value) (Reader.typed types) depth value :=
  typedWithin_of_payloadWith writerRegistered registered
    (payloadWith writerRegistered registered representable) Reader.maxNesting depth

end Constants

end ExchangeIf

namespace Value

/-- A reader with the table accepts the constant when `depth` constants enclose it. -/
structure Acceptable (table : TypeTable) (depth : Nat) (value : Value) : Prop where
  /-- The types of the value and of everything inside it are registered. -/
  registered : value.types.map (·.name) ⊆ table.names
  /-- The constant and those inside it are not nested too deeply. -/
  shallow : depth + (value.nesting + 1) ≤ Reader.maxNesting
  /-- Texts and collections keep within their limits. -/
  fits : value.Fits

theorem acceptable_iff {table : TypeTable} (registered : table.Registered) {depth : Nat}
    {value : Value} : value.Acceptable table depth ↔ value.Legible table Reader.maxNesting depth := by
  constructor
  · intro acceptable
    have shallow := acceptable.shallow
    exact ⟨(names_subset_iff registered).mp acceptable.registered, acceptable.fits, by omega,
      by omega⟩
  · intro legible
    have shallow := legible.shallow
    exact ⟨(names_subset_iff registered).mpr legible.known, by omega, legible.fits⟩

/--
A typed constant is written exactly if the types inside it are registered for the writer. What was
written is read back, whatever follows it, exactly if the value is acceptable to the reader at its
depth of nesting; in all other cases it is refused as malformed.
-/
theorem typed_isExact {writer reader : TypeTable} (writerRegistered : writer.Registered)
    (readerRegistered : reader.Registered) {value : Value} (representable : value.Representable)
    {sink : Sink} (unlimited : sink.room? = none) :
    ((∃ after, Writer.typed writer value sink = .ok () after) ↔
      value.types.map (·.name) ⊆ writer.names) ∧
    ∀ after, Writer.typed writer value sink = .ok () after →
      ∃ bytes, after = sink.append bytes ∧ ∀ depth position suffix,
        (Reader.typed reader ⟨bytes ++ suffix, position, depth, .endOfBytes⟩ =
            .ok value ⟨suffix, position + bytes.length, depth, .endOfBytes⟩ ↔
          value.Acceptable reader depth) ∧
        (¬value.Acceptable reader depth →
          ∃ failure left,
            Reader.typed reader ⟨bytes ++ suffix, position, depth, .endOfBytes⟩ =
              .error failure left ∧ failure.IsFormat) := by
  have exchange := ExchangeIf.typed writerRegistered readerRegistered representable
  have writable : value.types.map (·.name) ⊆ writer.names ↔ value.KnownTo writer :=
    names_subset_iff writerRegistered
  rcases exchange 0 with ⟨bytes, emitsIf, _⟩
  constructor
  · rw [writable]
    constructor
    · rintro ⟨after, success⟩
      exact ((emitsIf.eq_ok_iff unlimited).mp success).1
    · intro known
      exact ⟨_, (emitsIf.eq_ok_iff unlimited).mpr ⟨known, rfl⟩⟩
  · intro after success
    rcases (emitsIf.eq_ok_iff unlimited).mp success with ⟨known, appended⟩
    refine ⟨bytes, appended, ?_⟩
    intro depth position suffix
    -- What is written does not depend on the depth at which it is read.
    rcases exchange depth with ⟨again, againEmits, takesIf⟩
    rw [(againEmits.emits known).unique (emitsIf.emits known)] at takesIf
    rw [acceptable_iff readerRegistered]
    refine ⟨takesIf.eq_ok_iff, ?_⟩
    intro notLegible
    rcases takesIf.fails notLegible position suffix .endOfBytes with ⟨failure, left, failed⟩
    exact ⟨failure, left, failed, (Reader.Regular.typed reader).blamesFormat rfl failed⟩

/-! ## A value at the limit of nesting -/

/-- A list of a number and a map, whose deepest constant is inside two others. -/
def nestedSample : Value :=
  .list [.int 5, .map [("k", .bool true)]]

theorem everywhere_nestedSample {property : Value → Prop} (list : property nestedSample)
    (number : property (.int 5)) (map : property (.map [("k", .bool true)]))
    (truth : property (.bool true)) : nestedSample.Everywhere property := by
  have leaf {value : Value} (noParts : value.parts = []) (here : property value) :
      value.Everywhere property := by
    refine .intro here fun part member => ?_
    rw [noParts] at member
    cases member
  refine .intro list fun part member => ?_
  rcases List.mem_cons.mp member with rfl | later
  · exact leaf rfl number
  · rw [List.mem_singleton.mp later]
    refine .intro map fun inner innerMember => ?_
    rw [List.mem_singleton.mp innerMember]
    exact leaf rfl truth

theorem representable_nestedSample : nestedSample.Representable := by
  have key : (Text.Utf8.encode "k").length < UInt64.size := by
    decide +kernel
  have two : 2 < UInt64.size := by decide
  have one : 1 < UInt64.size := by decide
  refine everywhere_nestedSample ⟨trivial, two⟩ ⟨trivial, trivial⟩ ⟨?_, one, ?_⟩ ⟨trivial, trivial⟩
  · exact List.nodup_cons.mpr ⟨List.not_mem_nil, List.nodup_nil⟩
  · intro entry member
    rwa [List.mem_singleton.mp member]

theorem fits_nestedSample : nestedSample.Fits := by
  have two : 2 ≤ Reader.maxCollectionLength := by decide
  have one : 1 ≤ Reader.maxCollectionLength := by decide
  refine everywhere_nestedSample two trivial ⟨one, ?_⟩ trivial
  intro entry member
  rw [List.mem_singleton.mp member]
  decide +kernel

/-- The sample is read inside 61 constants and refused inside 62. -/
theorem typed_isExact_nestedSample :
    ∃ bytes, Writer.typed .standard nestedSample .empty = .ok () (Sink.empty.append bytes) ∧
      Reader.typed .standard ⟨bytes ++ [7], 0, 61, .endOfBytes⟩ =
        .ok nestedSample ⟨[7], bytes.length, 61, .endOfBytes⟩ ∧
      ∃ failure left, Reader.typed .standard ⟨bytes ++ [7], 0, 62, .endOfBytes⟩ =
        .error failure left ∧ failure.IsFormat := by
  have names : nestedSample.types.map (·.name) ⊆ TypeTable.standard.names := by
    simp [nestedSample, types, typesOfItems, typesOfEntries, type, TypeTable.names,
      TypeTable.standard, ValueType.all]
  have exact := @typed_isExact _ _ .standard .standard _ representable_nestedSample .empty rfl
  rcases exact.1.mpr names with ⟨after, success⟩
  rcases exact.2 after success with ⟨bytes, rfl, reads⟩
  refine ⟨bytes, success, ?_, ?_⟩
  · have read := (reads 61 0 [7]).1.mpr ⟨names, by decide, fits_nestedSample⟩
    rwa [Nat.zero_add] at read
  · apply (reads 62 0 [7]).2
    intro acceptable
    have shallow := acceptable.shallow
    exact absurd shallow (by decide)

end Value

end Resemblance
