import Resemblance.Proofs.Value.Representation
import Resemblance.Proofs.Value.TypedConstant
import Resemblance.Proofs.Wire.Condensed

/-!
# Written forms of values that were read

A reader of typed constants accepts several forms of a value, since the numbers inside it may be
longer than needed: its counts, the differences of its hashes, its components, and those of the
constants inside it. The value that is read has none of this left. Written with the same table it
takes no more bytes, and as many only if it was read from its written form.

The comparison follows the nesting of constants, by induction over the levels that the reader still
descends. The tag of a type is what it was, because a registered table finds a type under the hash
of its own name only.
-/

namespace Resemblance

/-! ## Tags and words -/

theorem TypeTable.Registered.hash_eq_of_type?_eq {types : TypeTable} (registered : types.Registered)
    {hash : UInt32} {type : ValueType} (found : types.type? hash = some type) :
    hash = Hash.nameHash type.name := by
  rw [Registry.type?, Option.map_eq_some_iff] at found
  rcases found with ⟨entry, entryFound, rfl⟩
  rcases registered.exists_entryOf entry (List.mem_of_find?_eq_some entryFound) with ⟨type, rfl⟩
  have sameHash : (entryOf type).hash = hash := by
    simpa using List.find?_some entryFound
  exact sameHash.symm

theorem TypeTable.Registered.faithful {types : TypeTable} (registered : types.Registered) :
    types.Faithful := by
  intro hash type found
  rw [Knows, ← registered.hash_eq_of_type?_eq found]
  exact found

theorem BloomFilter.toWords_ofWords (words : List UInt64) :
    toWords words.length (ofWords words) = words := by
  induction words with
  | nil => rfl
  | cons word words ih =>
      have number : ofWords (word :: words) = word.toNat + UInt64.size * ofWords words := rfl
      have below : word.toNat < UInt64.size := word.toNat_lt
      have low : (word.toNat + UInt64.size * ofWords words) % UInt64.size = word.toNat := by
        rw [Nat.add_mul_mod_self_left, Nat.mod_eq_of_lt below]
      have high : (word.toNat + UInt64.size * ofWords words) / UInt64.size = ofWords words := by
        rw [Nat.add_mul_div_left _ _ (by decide), Nat.div_eq_of_lt below, Nat.zero_add]
      rw [number, List.length_cons, toWords, low, high, ih]
      exact congrArg (· :: words) UInt64.ofNat_toNat

namespace Writer.Condenses

open Reader

variable {depth : Nat} {bytes : List UInt8}

/-! ## Vectors, hash sets, filters and digests -/

theorem component {number : Int32} (takes : Reader.component.Takes depth bytes number) :
    (Writer.signed number.toInt64).Condenses bytes := by
  rcases Regular.signed.takes_bind (fun number => by
      split
      · exact .pure number.toInt32
      · exact .fail (.componentTooLarge number)) takes with ⟨front, _, wide, rfl, wideTakes, last⟩
  split at last
  · rename_i within
    rcases takes_pure_iff.mp last with ⟨rfl, rfl⟩
    have widened : wide.toInt32.toInt64 = wide := by
      rw [← Int64.toInt_inj, Int32.toInt_toInt64, Int64.toInt_toInt32]
      exact Int.bmod_eq_of_le within.1 (Int.lt_add_one_of_le within.2)
    rw [List.append_nil, widened]
    exact signed wideTakes
  · exact absurd last not_takes_fail

theorem laterHashes {previous : UInt64} {count : Nat} {members : List UInt64}
    (takes : (Reader.laterHashes previous count).Takes depth bytes members) :
    (Writer.each Writer.varint (HashSet.differences previous members)).Condenses bytes := by
  induction count generalizing previous bytes members with
  | zero =>
      rcases takes_pure_iff.mp takes with ⟨rfl, rfl⟩
      exact pure
  | succ count ih =>
      have later (hash : UInt64) : (do
          let others ← Reader.laterHashes hash count
          return hash :: others : Reader (List UInt64)).Regular :=
        (Regular.laterHashes hash count).bind fun others => .pure (hash :: others)
      rcases Regular.varint.takes_bind (fun difference => by
          split
          · exact .fail .hashesNotIncreasing
          · split
            · exact later _
            · exact .fail .hashOverflow) takes with
        ⟨front, back, difference, rfl, differenceTakes, last⟩
      split at last
      · exact absurd last not_takes_fail
      · split at last
        · rcases (Regular.laterHashes _ count).takes_map last with ⟨others, othersTake, rfl⟩
          have step : previous + difference - previous = difference := by
            rw [UInt64.add_comm, UInt64.add_sub_cancel]
          rw [HashSet.differences, step]
          exact bind (varint differenceTakes) (ih othersTake)
        · exact absurd last not_takes_fail

theorem hashes {count : Nat} {members : List UInt64}
    (takes : (Reader.hashes count).Takes depth bytes members) :
    (Writer.each Writer.varint (HashSet.differences 0 members)).Condenses bytes := by
  cases count with
  | zero =>
      rcases takes_pure_iff.mp takes with ⟨rfl, rfl⟩
      exact pure
  | succ count =>
      rcases Regular.varint.takes_bind (fun first =>
        (Regular.laterHashes first count).bind fun others => .pure (first :: others)) takes with
        ⟨front, back, first, rfl, firstTakes, later⟩
      rcases (Regular.laterHashes first count).takes_map later with ⟨others, othersTake, rfl⟩
      rw [HashSet.differences, UInt64.sub_zero]
      exact bind (varint firstTakes) (laterHashes othersTake)

theorem bloomFilter {filter : BloomFilter}
    (takes : Reader.bloomFilter.Takes depth bytes filter) :
    (Writer.bloomFilter filter).Condenses bytes := by
  have checked (width : Nat) (hashCount : UInt32) (words : List UInt64) :
      (if (⟨width, hashCount, BloomFilter.ofWords words⟩ : BloomFilter).WithinWidth then
          Pure.pure ⟨width, hashCount, BloomFilter.ofWords words⟩
        else Reader.fail .bloomStrayBits : Reader BloomFilter).Regular := by
    split
    · exact .pure _
    · exact .fail _
  have body (width : Nat) (hashCount : UInt32) (wordCount : Nat) :
      (if wordCount = BloomFilter.wordCount width then
          Reader.replicate wordCount Reader.u64 >>= fun words =>
            if (⟨width, hashCount, BloomFilter.ofWords words⟩ : BloomFilter).WithinWidth then
              Pure.pure ⟨width, hashCount, BloomFilter.ofWords words⟩
            else Reader.fail .bloomStrayBits
        else Reader.fail (.bloomWordCount width wordCount) : Reader BloomFilter).Regular := by
    split
    · exact (Regular.u64.replicate wordCount).bind (checked width hashCount)
    · exact .fail _
  rcases Regular.length.takes_bind (fun width => Regular.index.bind fun hashCount =>
    Regular.length.bind fun wordCount => body width hashCount wordCount) takes with
    ⟨widthBytes, _, width, rfl, widthTakes, afterWidth⟩
  rcases Regular.index.takes_bind (fun hashCount => Regular.length.bind (body width hashCount))
    afterWidth with ⟨hashCountBytes, _, hashCount, rfl, hashCountTakes, afterHashCount⟩
  rcases Regular.length.takes_bind (body width hashCount) afterHashCount with
    ⟨wordCountBytes, _, wordCount, rfl, wordCountTakes, afterWordCount⟩
  split at afterWordCount
  · rename_i enough
    rcases (Regular.u64.replicate wordCount).takes_bind (checked width hashCount)
      afterWordCount with ⟨wordBytes, _, words, rfl, wordsTake, last⟩
    have size : words.length = wordCount :=
      (forall_of_replicate_takes Regular.u64 (fun _ => True) (fun _ => trivial) wordsTake).1
    split at last
    · rcases takes_pure_iff.mp last with ⟨rfl, rfl⟩
      have wordsEq : BloomFilter.words ⟨width, hashCount, BloomFilter.ofWords words⟩ = words := by
        rw [BloomFilter.words, ← enough, ← size]
        exact BloomFilter.toWords_ofWords words
      rw [List.append_nil, Writer.bloomFilter]
      simp only [wordsEq, size]
      exact bind (length widthTakes) (bind (index hashCountTakes)
        (bind (length wordCountTakes) (each Regular.u64 u64 wordsTake)))
    · exact absurd last not_takes_fail
  · exact absurd afterWordCount not_takes_fail

theorem digest {digest? : Option Digest} (takes : Reader.digest.Takes depth bytes digest?) :
    (Writer.digest digest?).Condenses bytes := by
  rcases Regular.bool.takes_bind (fun truth => by
      split
      · exact Regular.u8.bind fun lengthClass => (Regular.exact 32).bind fun codes => .pure _
      · exact .pure none) takes with ⟨front, back, truth, rfl, truthTakes, last⟩
  split at last
  · rename_i here
    rcases Regular.u8.takes_bind (fun lengthClass => (Regular.exact 32).bind fun codes => .pure _)
      last with ⟨classBytes, codeBytes, lengthClass, rfl, classTakes, afterClass⟩
    rcases (Regular.exact 32).takes_map afterClass with ⟨⟨codes, size⟩, codesTake, rfl⟩
    rw [here] at truthTakes
    rw [exact_takes_iff.mp codesTake, Writer.digest]
    exact bind (bool truthTakes) (bind (u8 classTakes) (of_emits (.bytes codes)))
  · rename_i absent
    rcases takes_pure_iff.mp last with ⟨rfl, rfl⟩
    rw [Bool.not_eq_true] at absent
    rw [absent] at truthTakes
    rw [List.append_nil, Writer.digest]
    exact bool truthTakes

/-! ## Payloads and typed constants -/

theorem payloadWith {types : TypeTable} {typed : Reader Value} (regular : typed.Regular)
    (inner : ∀ {bytes part}, typed.Takes depth bytes part →
      (Writer.typed types part).Condenses bytes) {type : ValueType} {value : Value}
    (takes : (Reader.payloadWith typed type).Takes depth bytes value) :
    (Writer.payload types value).Condenses bytes := by
  cases type with
  | int =>
      rcases Regular.signed.takes_map takes with ⟨number, numberTakes, rfl⟩
      exact signed numberTakes
  | float =>
      rcases Regular.u64.takes_map takes with ⟨word, wordTakes, rfl⟩
      exact u64 wordTakes
  | bool =>
      rcases Regular.bool.takes_map takes with ⟨truth, truthTakes, rfl⟩
      exact bool truthTakes
  | string =>
      rcases Regular.string.takes_map takes with ⟨text, textTakes, rfl⟩
      exact string textTakes
  | vector =>
      rcases Regular.length.takes_bind (fun count =>
        (Regular.component.replicate count).bind fun _ => .pure _) takes with
        ⟨front, back, count, rfl, countTakes, rest⟩
      rcases (Regular.component.replicate count).takes_map rest with ⟨components, taken, rfl⟩
      have size := (forall_of_replicate_takes Regular.component (fun _ => True)
        (fun _ => trivial) taken).1
      rw [Writer.payload, size]
      exact bind (length countTakes) (each Regular.component component taken)
  | hashes =>
      rcases Regular.length.takes_bind (fun count =>
        (Regular.hashes count).bind fun _ => .pure _) takes with
        ⟨front, back, count, rfl, countTakes, rest⟩
      rcases (Regular.hashes count).takes_map rest with ⟨members, taken, rfl⟩
      rw [Writer.payload, HashSet.size, (of_hashes_takes taken).1]
      exact bind (length countTakes) (hashes taken)
  | list =>
      rcases Regular.length.takes_bind (fun count =>
        (regular.replicate count).bind fun _ => .pure _) takes with
        ⟨front, back, count, rfl, countTakes, rest⟩
      rcases (regular.replicate count).takes_map rest with ⟨items, taken, rfl⟩
      have size := (forall_of_replicate_takes regular (fun _ => True) (fun _ => trivial) taken).1
      rw [Writer.payload, Writer.typedItems_eq_each, size]
      exact bind (length countTakes) (each regular inner taken)
  | map =>
      rcases Regular.length.takes_bind (fun count =>
        (regular.entriesAfter [] count).bind fun _ => .pure _) takes with
        ⟨front, back, count, rfl, countTakes, rest⟩
      rcases (regular.entriesAfter [] count).takes_map rest with ⟨entries, taken, rfl⟩
      rw [entriesAfter_eq_keyedAfter] at taken
      rcases keyedAfter regular inner taken with ⟨added, addedEq, size, addedCondenses⟩
      rw [List.nil_append] at addedEq
      subst addedEq
      rw [Writer.payload, Writer.typedEntries_eq_each, size]
      exact bind (length countTakes) addedCondenses
  | bloom =>
      rcases Regular.bloomFilter.takes_map takes with ⟨filter, filterTakes, rfl⟩
      exact bloomFilter filterTakes
  | digest =>
      rcases Regular.digest.takes_map takes with ⟨digest?, digestTakes, rfl⟩
      exact digest digestTakes

/-- Typed constants are condensed level by level, each behind the tag that it was read with. -/
theorem typedWithin {types : TypeTable} (registered : types.Registered) {levels : Nat}
    {value : Value} (takes : (Reader.typedWithin types levels).Takes depth bytes value) :
    (Writer.typed types value).Condenses bytes := by
  induction levels generalizing depth bytes value with
  | zero =>
      rcases typedWithin_takes_iff.mp takes with ⟨_, _, _, _, _, _, _, _, payload⟩
      exact absurd payload not_takes_fail
  | succ levels ih =>
      rcases typedWithin_takes_iff.mp takes with
        ⟨front, back, hash, type, rfl, tag, found, _, payload⟩
      have typeEq : value.type = type :=
        (@of_payloadWith_takes _ (.typedWithin types levels) (fun _ => True) _ (fun _ => trivial)
          _ _ _ payload).1
      have hashEq := registered.hash_eq_of_type?_eq found
      rw [hashEq] at tag
      rcases u32 tag with ⟨form, formEmits, short⟩
      have knows : types.Knows type := registered.faithful hash type found
      rw [Writer.typed, typeEq]
      exact bind ⟨form, .typeTag knows formEmits, short⟩
        (payloadWith (.typedWithin types levels) ih payload)

end Writer.Condenses

namespace Value

/--
A value that was read is canonical and not nested too deeply. Written with the same table it takes
no more bytes than were read, exactly as many only if these bytes were its written form, and it is
read back from them with nothing left.
-/
theorem condensed_of_typed_eq_ok {types : TypeTable} (registered : types.Registered)
    {source after : Source} {value : Value}
    (success : Reader.typed types source = .ok value after) :
    value.Canonical ∧ source.depth + (value.nesting + 1) ≤ Reader.maxNesting ∧
      ∃ taken form, source.rest = taken ++ after.rest ∧
        after.position = source.position + taken.length ∧
        (Writer.typed types value).Emits form ∧ form.length ≤ taken.length ∧
        (form.length = taken.length ↔ form = taken) ∧
        ∀ depth, depth ≤ source.depth → ∀ position ending,
          Reader.typed types ⟨form, position, depth, ending⟩ =
            .ok value ⟨[], position + form.length, depth, ending⟩ := by
  rcases (Reader.Regular.typed types).takes_of_ok success with ⟨taken, takes, split, afterEq⟩
  rcases Reader.storable_of_typedWithin_takes registered.faithful takes with ⟨knows, storable⟩
  have shallow : source.depth + (value.nesting + 1) ≤ Reader.maxNesting := by
    have inside := storable.shallow
    omega
  rcases (Writer.Condenses.typedWithin registered takes).exists_form with
    ⟨form, emits, atMost, same⟩
  refine ⟨storable.canonical, shallow, taken, form, split, by rw [afterEq], emits, atMost, same, ?_⟩
  intro depth depth_le position ending
  have bounded : Reader.maxNesting = 63 + 1 := rfl
  have storableHere : value.Storable types (depth + 1) :=
    ⟨storable.canonical, storable.fits, storable.known, by omega⟩
  have payload : Exchange (Writer.payload types value)
      (Reader.payloadWith (Reader.typedWithin types 63) value.type) (depth + 1) value :=
    .payloadWith storable.known storableHere (by omega)
  have constant : Exchange (Writer.typed types value) (Reader.typedWithin types (63 + 1)) depth
      value :=
    .typedWithin knows knows (by omega) payload
  rcases constant with ⟨other, otherEmits, otherTakes⟩
  rw [otherEmits.unique emits] at otherTakes
  have read := otherTakes position [] ending
  rwa [List.append_nil] at read

/-! ## A list in a longer form -/

/-- A list of one number, where the count and the number end in an empty group each. -/
def longSample : List UInt8 :=
  toLittleEndian 4 (Hash.nameHash ValueType.list.name).toNat ++ ([0x81, 0x00] ++
    (toLittleEndian 4 (Hash.nameHash ValueType.int.name).toNat ++ [0x80, 0x00]))

theorem typed_longSample :
    (Reader.typed .standard).Takes 0 longSample (.list [.int 0]) := by
  have count (depth : Nat) : Reader.length.Takes depth [0x81, 0x00] 1 := by
    intro position tail ending
    rfl
  have number (depth : Nat) : Reader.signed.Takes depth [0x80, 0x00] 0 := by
    intro position tail ending
    rfl
  have tag (type : ValueType) (depth : Nat) : Reader.u32.Takes depth
      (toLittleEndian 4 (Hash.nameHash type.name).toNat) (Hash.nameHash type.name) :=
    Reader.u32_takes_iff.mpr rfl
  have item : (Reader.typedWithin .standard (62 + 1)).Takes 1
      (toLittleEndian 4 (Hash.nameHash ValueType.int.name).toNat ++ [0x80, 0x00]) (.int 0) := by
    refine Reader.typedWithin_takes_iff.mpr ⟨_, _, _, .int, rfl, tag .int 1,
      TypeTable.knows_standard .int, by decide, ?_⟩
    exact (number 2).andThen (.pure _)
  have items : (Reader.replicate 1 (Reader.typedWithin .standard 63)).Takes 1
      (toLittleEndian 4 (Hash.nameHash ValueType.int.name).toNat ++ [0x80, 0x00]) [.int 0] :=
    item.andThen (.pure _)
  refine Reader.typedWithin_takes_iff.mpr ⟨_, _, _, .list, rfl, tag .list 0,
    TypeTable.knows_standard .list, by decide, ?_⟩
  exact (count 1).bind (items.andThen (.pure _))

theorem emits_shortSample :
    (Writer.typed .standard (.list [.int 0])).Emits
      (toLittleEndian 4 (Hash.nameHash ValueType.list.name).toNat ++ ([0x01] ++
        (toLittleEndian 4 (Hash.nameHash ValueType.int.name).toNat ++ ([0x00] ++ [])))) := by
  have tag (type : ValueType) : (Writer.typeTag .standard type).Emits
      (toLittleEndian 4 (Hash.nameHash type.name).toNat) :=
    .typeTag (TypeTable.knows_standard type) (.bytes _)
  have count : (Writer.length 1).Emits [0x01] := .varint_of_lt (by decide)
  have number : (Writer.signed 0).Emits [0x00] := .varint_of_lt (by decide)
  have items : (Writer.typedItems .standard [.int 0]).Emits
      (toLittleEndian 4 (Hash.nameHash ValueType.int.name).toNat ++ ([0x00] ++ [])) :=
    (tag .int).bind (number.bind .pure)
  exact (tag .list).bind (count.bind items)

/-- A list in a longer form of twelve bytes is written in ten. -/
theorem condensed_of_typed_eq_ok_longSample :
    Reader.typed .standard ⟨longSample ++ [7], 3, 0, .endOfBytes⟩ =
        .ok (.list [.int 0]) ⟨[7], 15, 0, .endOfBytes⟩ ∧
      ∃ form, (Writer.typed .standard (.list [.int 0])).Emits form ∧ form.length = 10 ∧
        form ≠ longSample ∧
        Reader.typed .standard ⟨form, 0, 0, .endOfBytes⟩ =
          .ok (.list [.int 0]) ⟨[], 10, 0, .endOfBytes⟩ := by
  have read := typed_longSample 3 [7] .endOfBytes
  rcases condensed_of_typed_eq_ok .standard read with
    ⟨_, _, taken, form, split, _, emits, _, same, back⟩
  have takenEq : longSample = taken := List.append_cancel_right split
  have formEq := emits_shortSample.unique emits
  have again := back 0 (Nat.le_refl 0) 0 .endOfBytes
  rw [← formEq] at same again emits
  rw [← takenEq] at same
  exact ⟨read, _, emits, rfl, fun equal => absurd (same.mpr equal) (by decide), again⟩

end Value

end Resemblance
