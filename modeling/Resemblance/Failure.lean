import Resemblance.Text.Hex
import Resemblance.Text.Utf8

/-!
# Failures

Every way in which an operation of the library can fail, as a cause with its data. The family of a
failure says who is to blame: the environment, the configuration, a look-up of something that was
never registered, a malformed stream, an invalid setting, a text that is no configuration, or the
library itself. `Failure.message` is the only place that words a failure.
-/

namespace Resemblance

/-- An input or output operation that did not complete. -/
inductive IoFault where
  | writeProfile
  | readProfile
  | openProfile (path : String)
  | createProfile (path : String)
  | renameProfile (path : String)
  | readConfig (path : String)
  | writeConfig (path : String)
  | walkDirectory (path : String)
  | operation
  | stated (text : String)
  deriving DecidableEq, Repr

def IoFault.message : IoFault → String
  | .writeProfile => "Failed to write profile data"
  | .readProfile => "Failed to read profile data"
  | .openProfile path => s!"Failed to open profile: {path}"
  | .createProfile path => s!"Failed to create profile file: {path}"
  | .renameProfile path => s!"Failed to rename profile file: {path}"
  | .readConfig path => s!"Failed to read config file: {path}"
  | .writeConfig path => s!"Failed to write config file: {path}"
  | .walkDirectory path => s!"Failed to walk library directory: {path}"
  | .operation => "I/O operation failed"
  | .stated text => text

/-- A use of the library that its configuration does not allow. -/
inductive ConfigFault where
  | typeHashCollision (registered added : String) (hash : UInt32)
  | repeatedField (key kind : String)
  | repeatedBlueprint (kind : String)
  | slotOutOfRange (slot : Nat) (kind : String) (slots : Nat)
  | foreignBlueprint (blueprint element : String)
  | slotCount (kind : String) (slots declared : Nat)
  | missingField (kind key : String)
  | foreignElement (element list : String)
  | emptyProfileExtension
  | stated (text : String) (field? : Option String)
  deriving DecidableEq, Repr

def ConfigFault.message : ConfigFault → String
  | .typeHashCollision registered added hash =>
      let digits := Text.lowerHex 8 hash.toNat
      s!"type hash collision between '{registered}' and '{added}' (0x{digits})"
  | .repeatedField key kind => s!"field '{key}' already declared for {kind}"
  | .repeatedBlueprint kind => s!"a blueprint for {kind} is already registered"
  | .slotOutOfRange slot kind slots =>
      s!"field index {slot} out of range for {kind} element with {slots} fields"
  | .foreignBlueprint blueprint element =>
      s!"blueprint for {blueprint} cannot write a {element} element"
  | .slotCount kind slots declared =>
      s!"{kind} element has {slots} slots but its blueprint declares {declared}"
  | .missingField kind key => s!"{kind} element is missing field '{key}'"
  | .foreignElement element list => s!"cannot add a {element} element to the {list} list"
  | .emptyProfileExtension => "profile extension must not be empty"
  | .stated text _ => text

def ConfigFault.field? : ConfigFault → Option String
  | .repeatedField key _ => some key
  | .missingField _ key => some key
  | .emptyProfileExtension => some "detection.profile_extension"
  | .stated _ field? => field?
  | _ => none

/-- Something that was looked up and never registered. -/
inductive Missing where
  | valueType (name : String)
  | blueprint (kind : String)
  | blueprintField (kind key : String)
  | elementKind (kind : String)
  | section (name : String)
  | strategy (kind : String)
  | stated (thing name : String)
  deriving DecidableEq, Repr

def Missing.message : Missing → String
  | .valueType name => s!"value type not registered: {name}"
  | .blueprint kind => s!"blueprint not registered: {kind}"
  | .blueprintField kind key => s!"blueprint field not registered: {kind}.{key}"
  | .elementKind kind => s!"element kind not registered: {kind}"
  | .section name => s!"extension not registered: {name}"
  | .strategy kind => s!"strategy not registered: {kind}"
  | .stated thing name => s!"{thing} not registered: {name}"

/-- What is wrong with a stream of bytes. -/
inductive FormatFault where
  | truncated
  /-- The stream ends inside a value, in the words of its source. -/
  | truncatedAs (text : String)
  | notBoolean (byte : UInt8)
  | truncatedVarint
  | varintOverflow
  | collectionTooLong (length : UInt64)
  | stringTooLong (length : UInt64)
  | indexTooLarge (index : UInt64)
  | notUtf8 (fault : Text.Utf8Fault)
  | nestingTooDeep
  /-- A component of a vector needs more than 32 bits. -/
  | componentTooLarge (component : Int64)
  | hashesNotIncreasing
  | hashOverflow
  | repeatedAttribute
  /-- A Bloom filter has too few or too many words for its width. -/
  | bloomWordCount (width words : Nat)
  /-- A Bloom filter has a bit set past its width. -/
  | bloomStrayBits
  | unregisteredType (hash : UInt32)
  | repeatedDescriptor (descriptor : String)
  | newerVersion (version supported : UInt32)
  /-- A creation time is outside the calendar. -/
  | timestampOutOfRange (millis : Int64)
  | negativeSectionCount (count : Int32)
  | tooManySections (count : Int32) (registered : Nat)
  | repeatedSection (tag : UInt32)
  | unknownSection (tag : UInt32)
  | danglingDescriptor (kind : String) (position : Nat) (descriptor : UInt32) (entries : Nat)
  | trailingBytes
  | stated (text : String)
  deriving DecidableEq, Repr

def FormatFault.message : FormatFault → String
  | .truncated => "truncated stream"
  | .truncatedAs text => s!"truncated stream: {text}"
  | .notBoolean byte =>
      let digits := Text.lowerHex 2 byte.toNat
      s!"invalid boolean byte 0x{digits}"
  | .truncatedVarint => "truncated varint"
  | .varintOverflow => "varint overflows 64 bits"
  | .collectionTooLong length => s!"collection length {length} exceeds limit"
  | .stringTooLong length => s!"string length {length} exceeds limit"
  | .indexTooLarge index => s!"index {index} exceeds u32"
  | .notUtf8 fault =>
      let reason := fault.message
      s!"invalid UTF-8 string: {reason}"
  | .nestingTooDeep => "typed value nesting exceeds limit"
  | .componentTooLarge component => s!"vector component {component} exceeds i32"
  | .hashesNotIncreasing => "hash set is not strictly increasing"
  | .hashOverflow => "hash set delta overflows"
  | .repeatedAttribute => "attribute map repeats a key"
  | .bloomWordCount width words => s!"bloom filter of {width} bits cannot span {words} words"
  | .bloomStrayBits => "bloom filter has bits set past its length"
  | .unregisteredType hash =>
      let digits := Text.lowerHex 8 hash.toNat
      s!"unregistered value type hash 0x{digits}"
  | .repeatedDescriptor descriptor => s!"duplicate descriptor '{descriptor}'"
  | .newerVersion version supported =>
      s!"profile format version {version} is newer than supported version {supported}"
  | .timestampOutOfRange millis => s!"timestamp {millis} out of range"
  | .negativeSectionCount count => s!"negative extension count {count}"
  | .tooManySections count registered =>
      s!"extension count {count} exceeds the {registered} registered extensions"
  | .repeatedSection tag =>
      let digits := Text.lowerHex 8 tag.toNat
      s!"extension tag 0x{digits} appears twice"
  | .unknownSection tag =>
      let digits := Text.lowerHex 8 tag.toNat
      s!"unknown extension tag 0x{digits}"
  | .danglingDescriptor kind position descriptor entries =>
      s!"{kind} element {position} references descriptor {descriptor}" ++
        s!" but the table has {entries} entries"
  | .trailingBytes => "trailing bytes after the last extension"
  | .stated text => text

inductive InvalidSetting where
  | notPositive (setting : String)
  | outsideUnit (setting : String)
  | stated (text : String) (setting? : Option String)
  deriving DecidableEq, Repr

def InvalidSetting.message : InvalidSetting → String
  | .notPositive setting => s!"{setting} must be greater than 0"
  | .outsideUnit setting => s!"{setting} must be between 0.0 and 1.0"
  | .stated text _ => text

def InvalidSetting.setting? : InvalidSetting → Option String
  | .notPositive setting => some setting
  | .outsideUnit setting => some setting
  | .stated _ setting? => setting?

inductive TextFormat where
  | json
  | yaml
  deriving DecidableEq, Repr

/-- A fault of the library or of a caller that broke its rules. -/
inductive InternalFault where
  | rowLength (row columns expected : Nat)
  /-- A profile has more sections than the number in front of them can say. -/
  | sectionCount
  | stated (text : String)
  deriving DecidableEq, Repr

def InternalFault.message : InternalFault → String
  | .rowLength row columns expected =>
      s!"weight row {row} has {columns} columns, expected {expected}"
  | .sectionCount => "extension count exceeds i32 range"
  | .stated text => text

/-- Why an operation of the library failed. -/
inductive Failure where
  /-- Input or output did not complete; `places` are the paths that callers added. -/
  | io (fault : IoFault) (places : List String)
  | config (fault : ConfigFault)
  | notRegistered (missing : Missing)
  /-- A stream is malformed, in the file at `path?` and at the byte `offset?`, where known. -/
  | format (fault : FormatFault) (path? : Option String) (offset? : Option Nat)
  | validation (fault : InvalidSetting)
  | serialization (format : TextFormat)
  /-- The library or its caller broke a rule, in a `context?` that callers added. -/
  | internal (fault : InternalFault) (context? : Option String)
  deriving DecidableEq, Repr

namespace Failure

def message : Failure → String
  | io fault places =>
      places.foldl (fun text place => s!"{text} ({place})") ("I/O error: " ++ fault.message)
  | config fault => "Configuration error: " ++ fault.message
  | notRegistered missing => missing.message
  | format fault none _ => "Format error: " ++ fault.message
  | format fault (some path) _ => s!"Format error in {path}: " ++ fault.message
  | validation fault => "Validation error: " ++ fault.message
  | serialization .json => "Serialization error: not a JSON configuration"
  | serialization .yaml => "Serialization error: not a YAML configuration"
  | internal fault _ => "Internal error: " ++ fault.message

/-- Names the file that a failure is about; only format and input failures keep it. -/
def withPath (path : String) : Failure → Failure
  | format fault _ offset? => format fault (some path) offset?
  | io fault places => io fault (places ++ [path])
  | failure => failure

/-- Says in which context a failure arose; only internal failures keep it. -/
def withContext (context : String) : Failure → Failure
  | internal fault _ => internal fault (some context)
  | failure => failure

/-- A failure of the environment: an early end of input is a malformed stream. -/
def ofEnvironment (endOfInput : Bool) (text : String) : Failure :=
  if endOfInput then format (.truncatedAs text) none none else io .operation []

end Failure

end Resemblance
