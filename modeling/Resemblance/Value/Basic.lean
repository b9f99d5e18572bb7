import Resemblance.Feature.BloomFilter
import Resemblance.Feature.Digest
import Resemblance.Feature.HashSet
import Resemblance.Number.Binary64

/-!
# Values

The values that fields of elements and attributes of profiles hold, and their types. Lists and maps
hold values of any type, so values nest. The entries of a map keep the order in which their keys
were first inserted, and its keys are distinct.

`Value.same` is equality of content: maps are equal when they have equal values under the same keys,
in whatever order, and floating-point numbers are compared as numbers.
-/

namespace Resemblance

inductive Value where
  | int (number : Int64)
  | float (number : Binary64)
  | bool (truth : Bool)
  | string (text : String)
  | vector (components : List Int32)
  | hashes (set : HashSet)
  | list (items : List Value)
  | map (entries : List (String × Value))
  | bloom (filter : BloomFilter)
  /-- A digest, which may be absent. -/
  | digest (digest? : Option Digest)

inductive ValueType where
  | int
  | float
  | bool
  | string
  | vector
  | hashes
  | list
  | map
  | bloom
  | digest
  deriving DecidableEq, Repr

namespace ValueType

/-- The types of values, in the order in which a registry lists them. -/
def all : List ValueType :=
  [.int, .float, .bool, .string, .vector, .hashes, .list, .map, .bloom, .digest]

/-- The stable name of a type, whose hash stands for the type in a stream. -/
def name : ValueType → String
  | .int => "libsift.int"
  | .float => "libsift.float"
  | .bool => "libsift.bool"
  | .string => "libsift.string"
  | .vector => "libsift.int_vector"
  | .hashes => "libsift.hash_set"
  | .list => "libsift.list"
  | .map => "libsift.map"
  | .bloom => "libsift.bloom_filter"
  | .digest => "libsift.lsh_digest"

def fresh : ValueType → Value
  | .int => .int 0
  | .float => .float .zero
  | .bool => .bool false
  | .string => .string ""
  | .vector => .vector []
  | .hashes => .hashes .empty
  | .list => .list []
  | .map => .map []
  | .bloom => .bloom (.empty 0 0)
  | .digest => .digest none

end ValueType

/-- Values under distinct keys, in the order in which the keys were first inserted. -/
abbrev Attributes := List (String × Value)

namespace Attributes

def get? (key : String) : Attributes → Option Value
  | [] => none
  | (other, value) :: rest => if other = key then some value else get? key rest

/-- Sets the value under a key; a key that is already there keeps its place. -/
def insert (key : String) (value : Value) : Attributes → Attributes
  | [] => [(key, value)]
  | (other, old) :: rest =>
      if other = key then (key, value) :: rest else (other, old) :: insert key value rest

end Attributes

namespace Value

def type : Value → ValueType
  | .int _ => .int
  | .float _ => .float
  | .bool _ => .bool
  | .string _ => .string
  | .vector _ => .vector
  | .hashes _ => .hashes
  | .list _ => .list
  | .map _ => .map
  | .bloom _ => .bloom
  | .digest _ => .digest

mutual

/-- Equality of content. -/
def same : Value → Value → Bool
  | .int left, .int right => left == right
  | .float left, .float right => left.equal right
  | .bool left, .bool right => left == right
  | .string left, .string right => left == right
  | .vector left, .vector right => left == right
  | .hashes left, .hashes right => left == right
  | .list left, .list right => sameItems left right
  | .map left, .map right => left.length == right.length && sameEntries left right
  | .bloom left, .bloom right => left == right
  | .digest left, .digest right => left == right
  | _, _ => false

/-- Equality of corresponding items. -/
def sameItems : List Value → List Value → Bool
  | [], [] => true
  | left :: lefts, right :: rights => same left right && sameItems lefts rights
  | _, _ => false

/-- Equality of each entry with the entry under the same key of a map. -/
def sameEntries : List (String × Value) → Attributes → Bool
  | [], _ => true
  | (key, value) :: rest, entries =>
      (match Attributes.get? key entries with
        | some other => same value other
        | none => false) && sameEntries rest entries

end

end Value

end Resemblance
