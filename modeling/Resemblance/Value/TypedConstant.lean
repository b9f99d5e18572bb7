import Resemblance.Value.TypeTable
import Resemblance.Wire.Sink
import Resemblance.Wire.Source

/-!
# Values in a stream

The payload of a value says nothing about its type; a typed constant is the hash of the type's name
and then the payload. Items of lists and values of maps are typed constants, so they nest, and a
reader refuses constants that are nested too deeply. A type that is not in the table of types is
refused by the writer as well as by the reader.
-/

namespace Resemblance

namespace Writer

/-- Writes the hash of a type that must be in the table. -/
def typeTag (types : TypeTable) (type : ValueType) : Writer Unit := do
  let hash := Hash.nameHash type.name
  if types.contains hash then u32 hash
  else throw (.notRegistered (.valueType type.name))

def bloomFilter (filter : BloomFilter) : Writer Unit := do
  length filter.width
  index filter.hashCount
  let words := filter.words
  length words.length
  each u64 words

/-- Writes a digest: whether it is present, then its length class and codes. -/
def digest (digest? : Option Digest) : Writer Unit :=
  match digest? with
  | none => bool false
  | some digest => do
      bool true
      u8 digest.lengthClass
      bytes digest.codes.toList

mutual

def payload (types : TypeTable) : Value → Writer Unit
  | .int number => signed number
  | .float number => u64 number.bits
  | .bool truth => bool truth
  | .string text => string text
  | .vector components => do
      length components.length
      each (fun component => signed component.toInt64) components
  | .hashes set => do
      length set.size
      each varint (HashSet.differences 0 set.hashes)
  | .list items => do
      length items.length
      typedItems types items
  | .map entries => do
      length entries.length
      typedEntries types entries
  | .bloom filter => bloomFilter filter
  | .digest digest? => digest digest?

def typedItems (types : TypeTable) : List Value → Writer Unit
  | [] => return ()
  | item :: items => do
      typeTag types item.type
      payload types item
      typedItems types items

/-- Writes keys with their typed constants, one after the other. -/
def typedEntries (types : TypeTable) : List (String × Value) → Writer Unit
  | [] => return ()
  | (key, value) :: entries => do
      string key
      typeTag types value.type
      payload types value
      typedEntries types entries

end

def typed (types : TypeTable) (value : Value) : Writer Unit := do
  typeTag types value.type
  payload types value

def attributes (types : TypeTable) (entries : Attributes) : Writer Unit :=
  payload types (.map entries)

end Writer

namespace Reader

def component : Reader Int32 := do
  let number ← signed
  if Int32.minValue.toInt ≤ number.toInt ∧ number.toInt ≤ Int32.maxValue.toInt then
    return number.toInt32
  else fail (.componentTooLarge number)

/-- Reads the members of a set of hashes after `previous`, from their differences. -/
def laterHashes (previous : UInt64) : (count : Nat) → Reader (List UInt64)
  | 0 => return []
  | count + 1 => do
      let difference ← varint
      if difference = 0 then fail .hashesNotIncreasing
      else if previous.toNat + difference.toNat < UInt64.size then
        let hash := previous + difference
        let others ← laterHashes hash count
        return hash :: others
      else fail .hashOverflow

def hashes : (count : Nat) → Reader (List UInt64)
  | 0 => return []
  | count + 1 => do
      let first ← varint
      let others ← laterHashes first count
      return first :: others

def bloomFilter : Reader BloomFilter := do
  let width ← length
  let hashCount ← index
  let wordCount ← length
  if wordCount = BloomFilter.wordCount width then
    let words ← replicate wordCount u64
    let filter : BloomFilter := ⟨width, hashCount, BloomFilter.ofWords words⟩
    if filter.WithinWidth then return filter
    else fail .bloomStrayBits
  else fail (.bloomWordCount width wordCount)

def digest : Reader (Option Digest) := do
  let present ← bool
  if present then
    let lengthClass ← u8
    let ⟨codes, size⟩ ← exact 32
    return some ⟨lengthClass, ⟨codes.toArray, by simp [size]⟩⟩
  else return none

/-- Reads `count` entries after the entries `before`, which must not have their keys. -/
def entriesAfter (typed : Reader Value) (before : Attributes) :
    (count : Nat) → Reader Attributes
  | 0 => return before
  | count + 1 => do
      let key ← string
      let value ← typed
      if (Attributes.get? key before).isSome then fail .repeatedAttribute
      else entriesAfter typed (before ++ [(key, value)]) count

/-- Reads the payload of a value, where `typed` reads the typed constants inside it. -/
def payloadWith (typed : Reader Value) : ValueType → Reader Value
  | .int => return .int (← signed)
  | .float => return .float ⟨← u64⟩
  | .bool => return .bool (← bool)
  | .string => return .string (← string)
  | .vector => do
      let count ← length
      return .vector (← replicate count component)
  | .hashes => do
      let count ← length
      return .hashes ⟨← hashes count⟩
  | .list => do
      let count ← length
      return .list (← replicate count typed)
  | .map => do
      let count ← length
      return .map (← entriesAfter typed [] count)
  | .bloom => return .bloom (← bloomFilter)
  | .digest => return .digest (← digest)

/-- Reads a typed constant that may hold `levels - 1` further levels of constants. -/
def typedWithin (types : TypeTable) (levels : Nat) : Reader Value := do
  let offset ← position
  let hash ← u32
  match types.type? hash with
  | none => failAt offset (.unregisteredType hash)
  | some type =>
      nested
        (match levels with
          | 0 => fail .nestingTooDeep
          | levels + 1 => payloadWith (typedWithin types levels) type)

def typed (types : TypeTable) : Reader Value :=
  typedWithin types maxNesting

def payload (types : TypeTable) (type : ValueType) : Reader Value :=
  payloadWith (typed types) type

def attributes (types : TypeTable) : Reader Attributes := do
  let count ← length
  entriesAfter (typed types) [] count

end Reader

end Resemblance
