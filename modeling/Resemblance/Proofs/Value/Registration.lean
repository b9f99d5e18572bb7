import Mathlib.Data.Finset.Dedup
import Mathlib.Data.Set.Card
import Resemblance.Value.TypeTable

/-!
# Registering types

A registry is keyed by the hashes of names, and two names may have the same hash. Whatever hashes
the names and whatever calls were made, the entry under a hash is that of the first call whose name
has the hash: this call finds the hash free, and no later call takes it away. So a name is
registered if the first call for its hash is a call for the name itself, and it keeps the type of
that call; all other names with the hash are refused.

`Registry.find?_after` states this for the calls on an empty registry, and the rest is read off from
it. That there are as many entries as names is due to their hashes, which are distinct.
-/

namespace Resemblance

/-- A call that registers a type under a name. -/
structure Registration (Factory : Type) where
  name : String
  type : Factory

variable {Factory : Type}

/-- The entry of a registration that finds its hash free. -/
def Registration.entry (hash : String → UInt32) (call : Registration Factory) :
    RegistryEntry Factory :=
  ⟨hash call.name, call.name, call.type⟩

namespace Registry

variable {hash : String → UInt32} {types extended : Registry Factory} {name : String}
  {type : Factory} {entry : RegistryEntry Factory} {call : Registration Factory}
  {calls : List (Registration Factory)}

/-! ## One registration -/

theorem registerWith_of_free (free : types.find? (hash name) = none) :
    types.registerWith hash name type = .ok ⟨types.entries ++ [⟨hash name, name, type⟩]⟩ := by
  rw [registerWith, free]

theorem registerWith_of_found (found : types.find? (hash name) = some entry) :
    types.registerWith hash name type =
      if entry.name = name then .ok types
      else .error (.config (.typeHashCollision entry.name name (hash name))) := by
  rw [registerWith, found]

/-- A successful registration finds its own name, or finds the hash free and appends an entry. -/
theorem registerWith_eq_ok_iff :
    types.registerWith hash name type = .ok extended ↔
      types.name? (hash name) = some name ∧ extended = types ∨
        types.find? (hash name) = none ∧
          extended = ⟨types.entries ++ [⟨hash name, name, type⟩]⟩ := by
  rw [name?]
  cases found : types.find? (hash name) with
  | none => simp [registerWith_of_free found, eq_comm]
  | some entry =>
      rw [registerWith_of_found found]
      by_cases same : entry.name = name
      · simp [same, eq_comm]
      · simp [same]

/-- No entry comes behind one that has its hash. -/
theorem find?_eq_or_of_found {key : UInt32} (found : types.find? key = some entry)
    (wanted : UInt32) (later : RegistryEntry Factory) :
    types.find? wanted = (types.find? wanted).or (if key = wanted then some later else none) := by
  split
  · rename_i same
    rw [← same, found, Option.some_or]
  · rw [Option.or_none]

/-- Only a hash that was free can get another entry, and this is the one of the registration. -/
theorem find?_of_registerWith (registered : types.registerWith hash name type = .ok extended)
    (wanted : UInt32) :
    extended.find? wanted =
      (types.find? wanted).or
        (if hash name = wanted then some ⟨hash name, name, type⟩ else none) := by
  rcases registerWith_eq_ok_iff.mp registered with ⟨known, rfl⟩ | ⟨free, rfl⟩
  · rw [name?, Option.map_eq_some_iff] at known
    rcases known with ⟨entry, found, _⟩
    exact find?_eq_or_of_found found wanted _
  · rw [find?, List.find?_append, List.find?_singleton]
    by_cases same : hash name = wanted <;> simp [same, find?]

/-- The registration is successful. -/
def Accepts (hash : String → UInt32) (types : Registry Factory) (call : Registration Factory) :
    Prop :=
  ∃ extended, types.registerWith hash call.name call.type = .ok extended

theorem accepts_iff :
    types.Accepts hash call ↔ types.contains (hash call.name) = false ∨
      types.name? (hash call.name) = some call.name := by
  rw [Accepts, contains, Option.isSome_eq_false_iff, Option.isNone_iff_eq_none, or_comm]
  simp only [registerWith_eq_ok_iff, exists_or, exists_and_left, exists_eq, and_true]

/-- The registry after a registration, which leaves it as it was if it is refused. -/
def add (hash : String → UInt32) (types : Registry Factory) (call : Registration Factory) :
    Registry Factory :=
  match types.registerWith hash call.name call.type with
  | .ok extended => extended
  | .error _ => types

theorem add_of_free (free : types.find? (hash call.name) = none) :
    types.add hash call = ⟨types.entries ++ [call.entry hash]⟩ := by
  rw [add, registerWith_of_free free]
  rfl

theorem add_of_found (found : types.find? (hash call.name) = some entry) :
    types.add hash call = types := by
  rw [add, registerWith_of_found found]
  split
  · rename_i registered
    split at registered
    · exact (Except.ok.inj registered).symm
    · cases registered
  · rfl

theorem find?_add (wanted : UInt32) :
    (types.add hash call).find? wanted =
      (types.find? wanted).or
        (if hash call.name = wanted then some (call.entry hash) else none) := by
  cases found : types.find? (hash call.name) with
  | none =>
      rw [add_of_free found]
      exact find?_of_registerWith (registerWith_of_free found) wanted
  | some entry =>
      rw [add_of_found found]
      exact find?_eq_or_of_found found wanted _

theorem entries_add : types.entries <+: (types.add hash call).entries := by
  cases found : types.find? (hash call.name) with
  | none =>
      rw [add_of_free found]
      exact List.prefix_append _ _
  | some entry => rw [add_of_found found]

/-- Every entry has the hash of its name, and no other entry has it. -/
structure Keyed (hash : String → UInt32) (types : Registry Factory) : Prop where
  hash_eq : ∀ entry ∈ types.entries, entry.hash = hash entry.name
  nodup : (types.entries.map (·.hash)).Nodup

namespace Keyed

theorem empty : (empty : Registry Factory).Keyed hash where
  hash_eq := by simp [Registry.empty]
  nodup := List.nodup_nil

theorem add (keyed : types.Keyed hash) (call : Registration Factory) :
    (types.add hash call).Keyed hash := by
  cases found : types.find? (hash call.name) with
  | some entry => rwa [add_of_found found]
  | none =>
      rw [add_of_free found]
      constructor
      · intro entry member
        rcases List.mem_append.mp member with old | new
        · exact keyed.hash_eq entry old
        · rw [List.mem_singleton.mp new]
          rfl
      · rw [List.map_append, List.map_singleton, ← List.concat_eq_append]
        refine List.Nodup.concat ?_ keyed.nodup
        intro known
        rcases List.mem_map.mp known with ⟨entry, member, hashEq⟩
        exact absurd (beq_iff_eq.mpr hashEq) (List.find?_eq_none.mp found entry member)

theorem find?_eq_some_iff (keyed : types.Keyed hash) :
    types.find? (hash entry.name) = some entry ↔ entry ∈ types.entries := by
  constructor
  · exact List.mem_of_find?_eq_some
  · intro member
    cases found : types.find? (hash entry.name) with
    | none =>
        have other := List.find?_eq_none.mp found entry member
        simp [keyed.hash_eq entry member] at other
    | some other =>
        have sameHash : other.hash = entry.hash := by
          rw [keyed.hash_eq entry member]
          simpa using List.find?_some found
        rw [List.inj_on_of_nodup_map keyed.nodup (List.mem_of_find?_eq_some found) member sameHash]

/-- The names of the entries are those that are found under their own hashes. -/
theorem mem_names_iff (keyed : types.Keyed hash) :
    name ∈ types.entries.map (·.name) ↔ types.name? (hash name) = some name := by
  rw [List.mem_map, name?, Option.map_eq_some_iff]
  constructor
  · rintro ⟨entry, member, rfl⟩
    exact ⟨entry, keyed.find?_eq_some_iff.mpr member, rfl⟩
  · rintro ⟨entry, found, nameEq⟩
    exact ⟨entry, List.mem_of_find?_eq_some found, nameEq⟩

theorem nodup_names (keyed : types.Keyed hash) : (types.entries.map (·.name)).Nodup := by
  have hashes : types.entries.map (·.hash) = (types.entries.map (·.name)).map hash := by
    rw [List.map_map]
    exact List.map_congr_left keyed.hash_eq
  exact List.Nodup.of_map hash (hashes ▸ keyed.nodup)

end Keyed

/-! ## Calls on an empty registry -/

/-- The registry after some calls, of which those that are refused change nothing. -/
def after (hash : String → UInt32) (calls : List (Registration Factory)) : Registry Factory :=
  calls.foldl (add hash) empty

theorem after_concat (calls : List (Registration Factory)) (call : Registration Factory) :
    after hash (calls ++ [call]) = (after hash calls).add hash call := by
  rw [after, List.foldl_append]
  rfl

theorem keyed_after (calls : List (Registration Factory)) : (after hash calls).Keyed hash := by
  induction calls using List.reverseRecOn with
  | nil => exact .empty
  | append_singleton calls call ih =>
      rw [after_concat]
      exact ih.add call

theorem entries_after (calls more : List (Registration Factory)) :
    (after hash calls).entries <+: (after hash (calls ++ more)).entries := by
  induction more using List.reverseRecOn with
  | nil => rw [List.append_nil]
  | append_singleton more call ih =>
      rw [← List.append_assoc, after_concat]
      exact ih.trans entries_add

/-- The first call for a hash has its entry. -/
theorem find?_after (calls : List (Registration Factory)) (wanted : UInt32) :
    (after hash calls).find? wanted =
      (calls.find? (hash ·.name == wanted)).map (·.entry hash) := by
  induction calls using List.reverseRecOn with
  | nil => rfl
  | append_singleton calls call ih =>
      rw [after_concat, find?_add, ih, List.find?_append, Option.map_or, List.find?_singleton]
      by_cases same : hash call.name = wanted <;> simp [same]

/-- The call came behind some earlier ones, and was successful. -/
structure Succeeds (hash : String → UInt32) (calls earlier : List (Registration Factory))
    (call : Registration Factory) : Prop where
  called : earlier ++ [call] <+: calls
  accepted : (after hash earlier).Accepts hash call

/-- The names under which a call was successful. -/
def registered (hash : String → UInt32) (calls : List (Registration Factory)) : Set String :=
  { name | ∃ earlier call, Succeeds hash calls earlier call ∧ call.name = name }

theorem name?_of_succeeds {earlier : List (Registration Factory)}
    (succeeds : Succeeds hash calls earlier call) :
    (after hash calls).name? (hash call.name) = some call.name := by
  rcases succeeds with ⟨⟨later, rfl⟩, accepted⟩
  rw [accepts_iff, contains, name?, find?_after] at accepted
  rw [name?, find?_after, List.append_assoc, List.find?_append]
  -- Either the call is the first for its hash, or the first one is for the same name.
  cases first : earlier.find? (hash ·.name == hash call.name) with
  | none => simp [Registration.entry]
  | some other => simpa [first] using accepted

/-- A name that is found is that of the first call for its hash, which found the hash free. -/
theorem exists_first_of_name? (found : (after hash calls).name? (hash name) = some name) :
    ∃ earlier call, Succeeds hash calls earlier call ∧ call.name = name ∧
      (∀ other ∈ earlier, other.name ≠ name) ∧
      (after hash calls).type? (hash name) = some call.type := by
  rw [name?, find?_after, Option.map_map, Option.map_eq_some_iff] at found
  rcases found with ⟨call, first, rfl⟩
  rcases List.find?_eq_some_iff_append.mp first with ⟨_, earlier, later, rfl, others⟩
  have free : (after hash earlier).find? (hash call.name) = none := by
    rw [find?_after, Option.map_eq_none_iff, List.find?_eq_none]
    intro other member
    simpa [Registration.entry] using others other member
  refine ⟨earlier, call, ⟨⟨later, (List.append_cons _ _ _).symm⟩, _, registerWith_of_free free⟩,
    rfl, ?_, ?_⟩
  · intro other member sameName
    have differs := others other member
    simp [sameName, Registration.entry] at differs
  · rw [type?, find?_after, Option.map_map]
    exact congrArg _ first

theorem mem_registered_iff :
    name ∈ registered hash calls ↔ (after hash calls).name? (hash name) = some name := by
  constructor
  · rintro ⟨earlier, call, succeeds, rfl⟩
    exact name?_of_succeeds succeeds
  · intro found
    rcases exists_first_of_name? found with ⟨earlier, call, succeeds, nameEq, _⟩
    exact ⟨earlier, call, succeeds, nameEq⟩

theorem size_after (calls : List (Registration Factory)) :
    (after hash calls).size = (registered hash calls).ncard := by
  have keyed : (after hash calls).Keyed hash := keyed_after calls
  have names : registered hash calls = ((after hash calls).entries.map (·.name)).toFinset := by
    ext name
    rw [mem_registered_iff, List.coe_toFinset, ← keyed.mem_names_iff]
    rfl
  rw [names, Set.ncard_coe_finset, List.toFinset_card_of_nodup keyed.nodup_names, List.length_map,
    size]

theorem contains_after_iff {wanted : UInt32} :
    (after hash calls).contains wanted = true ↔
      ∃ name ∈ registered hash calls, hash name = wanted := by
  rw [contains, Option.isSome_iff_exists]
  constructor
  · rintro ⟨entry, found⟩
    have hashEq : entry.hash = wanted := by simpa using List.find?_some found
    rw [(keyed_after calls).hash_eq entry (List.mem_of_find?_eq_some found)] at hashEq
    refine ⟨entry.name, ?_, hashEq⟩
    rw [mem_registered_iff, hashEq, name?, found, Option.map_some]
  · rintro ⟨name, member, rfl⟩
    rw [mem_registered_iff, name?, Option.map_eq_some_iff] at member
    rcases member with ⟨entry, found, _⟩
    exact ⟨entry, found⟩

/-! ## First come, first served -/

/-- What calls on an empty registry come to, whatever hashes the names. -/
structure IsFirstCome (hash : String → UInt32) (calls : List (Registration Factory)) : Prop where
  /-- A call succeeds if the hash of its name is free or belongs to this name, and only then. -/
  succeeds_iff : ∀ call : Registration Factory,
    (∃ extended, (after hash calls).registerWith hash call.name call.type = .ok extended) ↔
      (after hash calls).contains (hash call.name) = false ∨
        (after hash calls).name? (hash call.name) = some call.name
  /-- Any other call collides with a registered name, and changes nothing. -/
  collides : ∀ (call : Registration Factory) failure,
    (after hash calls).registerWith hash call.name call.type = .error failure →
      (∃ owner ∈ registered hash calls, owner ≠ call.name ∧ hash owner = hash call.name ∧
        failure = .config (.typeHashCollision owner call.name (hash call.name))) ∧
      after hash (calls ++ [call]) = after hash calls
  /-- A repeated call changes nothing, whatever its type is. -/
  repeats : ∀ call : Registration Factory, call.name ∈ registered hash calls →
    (after hash calls).registerWith hash call.name call.type = .ok (after hash calls)
  /-- A registered name is found under its hash, with the type of the first call for the name. -/
  keeps : ∀ name ∈ registered hash calls,
    (after hash calls).name? (hash name) = some name ∧
      ∃ earlier call, Succeeds hash calls earlier call ∧ call.name = name ∧
        (∀ other ∈ earlier, other.name ≠ name) ∧
        (after hash calls).type? (hash name) = some call.type
  /-- Later calls only append entries. -/
  grows : ∀ more, (after hash calls).entries <+: (after hash (calls ++ more)).entries
  size_eq : (after hash calls).size = (registered hash calls).ncard
  /-- The hashes that are known are those of the registered names. -/
  knows_iff : ∀ wanted, (after hash calls).contains wanted = true ↔
    ∃ name ∈ registered hash calls, hash name = wanted
  /-- A name, a type and new values of the type are found for the hashes that are known. -/
  agrees : ∀ wanted, ((after hash calls).name? wanted).isSome = (after hash calls).contains wanted ∧
    ((after hash calls).type? wanted).isSome = (after hash calls).contains wanted ∧
    ∀ (Made : Type) (make : Factory → Made),
      ((after hash calls).make? make wanted).isSome = (after hash calls).contains wanted

/-- Types are registered first come, first served, and collisions of hashes lose no name. -/
theorem after_isFirstCome (hash : String → UInt32) (calls : List (Registration Factory)) :
    IsFirstCome hash calls where
  succeeds_iff call := accepts_iff
  collides call failure refused := by
    cases found : (after hash calls).find? (hash call.name) with
    | none =>
        rw [registerWith_of_free found] at refused
        cases refused
    | some entry =>
        rw [registerWith_of_found found] at refused
        split at refused
        · cases refused
        · rename_i differs
          have hashEq : hash entry.name = hash call.name := by
            rw [← (keyed_after calls).hash_eq entry (List.mem_of_find?_eq_some found)]
            simpa using List.find?_some found
          have owner : entry.name ∈ registered hash calls := by
            rw [mem_registered_iff, hashEq, name?, found, Option.map_some]
          refine ⟨⟨entry.name, owner, differs, hashEq, (Except.error.inj refused).symm⟩, ?_⟩
          rw [after_concat, add_of_found found]
  repeats call member := by
    rw [mem_registered_iff, name?, Option.map_eq_some_iff] at member
    rcases member with ⟨entry, found, nameEq⟩
    rw [registerWith_of_found found, if_pos nameEq]
  keeps name member := ⟨mem_registered_iff.mp member,
    exists_first_of_name? (mem_registered_iff.mp member)⟩
  grows := entries_after calls
  size_eq := size_after calls
  knows_iff wanted := contains_after_iff
  agrees wanted := by simp [name?, type?, make?, contains]

/-- A name whose hash belongs to another name stays out, and a second type comes too late. -/
example : after (fun _ => 7) [⟨"a", .int⟩, ⟨"b", .float⟩, ⟨"a", .bool⟩] =
    ⟨[⟨7, "a", ValueType.int⟩]⟩ := by
  decide

end Registry

end Resemblance
