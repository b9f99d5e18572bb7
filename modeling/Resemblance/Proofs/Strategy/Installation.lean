import Mathlib.Data.List.Induction
import Resemblance.Strategy.Basic

/-!
# Installed algorithms

A strategy that is made from a configuration compares each of its kinds with the algorithm that
computes the values of the kind, however often the configuration replaces one algorithm by another.
-/

namespace Resemblance

namespace NameMap

variable {Item : Type}

theorem get?_insert (map : NameMap Item) (name other : String) (item : Item) :
    (map.insert name item).get? other = if name = other then some item else map.get? other := by
  rcases map with ⟨entries⟩
  simp only [get?, insert]
  induction entries with
  | nil => by_cases same : name = other <;> simp [insertEntry, same]
  | cons entry entries ih =>
      rcases entry with ⟨first, old⟩
      rw [insertEntry]
      split
      · by_cases same : name = other <;> simp [same]
      · split
        · rename_i replaced
          by_cases same : name = other
          · simp [same]
          · have different : first ≠ other := replaced ▸ same
            simp [same, different]
        · rename_i kept
          by_cases same : first = other
          · have different : name ≠ other := fun again => kept (again.trans same.symm)
            simp [same, different]
          · simpa [same] using ih

/-- A map of a list has the last item under each name. -/
theorem get?_ofList (entries : List (String × Item)) (name : String) :
    (ofList entries).get? name =
      (entries.reverse.find? (·.1 == name)).map (·.2) := by
  rw [ofList]
  induction entries using List.reverseRecOn with
  | nil => rfl
  | append_singleton entries entry ih =>
      rw [List.foldl_append, List.foldl_cons, List.foldl_nil, get?_insert,
        List.reverse_append, List.reverse_singleton, List.singleton_append, List.find?_cons]
      by_cases here : entry.1 = name
      · simp [here]
      · have elsewhere : (entry.1 == name) = false := beq_eq_false_iff_ne.mpr here
        rw [if_neg here, elsewhere]
        exact ih

theorem exists_get?_eq {map : NameMap Item} {name : String} (known : name ∈ map.names) :
    ∃ item, map.get? name = some item := by
  rcases List.mem_map.mp known with ⟨entry, member, rfl⟩
  have found : (map.entries.find? (·.1 == entry.1)).isSome := by
    rw [List.find?_isSome]
    exact ⟨entry, member, beq_self_eq_true entry.1⟩
  rcases Option.isSome_iff_exists.mp found with ⟨first, firstFound⟩
  exact ⟨first.2, by rw [get?, firstFound, Option.map_some]⟩

end NameMap

/-- The algorithm that a configuration names for a kind, the last one if it names several. -/
def Config.algorithm? (config : Config) (kind : Kind) : Option Algorithm :=
  (config.algorithms.entries.reverse.find? (·.1 == kind.name)).map (·.2)

namespace Strategy

/-- An algorithm computes the values of a kind and compares them. -/
structure Runs (config : Config) (strategy : Strategy) (kind : Kind) (algorithm : Algorithm) :
    Prop where
  similarity_eq : strategy.similarities.get? kind.name = some (algorithmSimilarity config algorithm)
  step_eq : strategy.step? kind = some (algorithmStep config algorithm)

/-- Each kind that can be compared is compared by the algorithm that computes its values. -/
def Consistent (config : Config) (strategy : Strategy) : Prop :=
  ∀ kind similarity, strategy.similarities.get? kind.name = some similarity →
    ∃ algorithm, Runs config strategy kind algorithm

variable {config : Config} {strategy : Strategy}

/-- The build step of an algorithm fills the slot of the algorithm. -/
theorem exists_algorithmStep_eq (config : Config) (algorithm : Algorithm) :
    ∃ name, algorithmStep config algorithm = .computing name (algorithmSlot config algorithm) := by
  cases algorithm <;> exact ⟨_, rfl⟩

theorem runs_install (config : Config) (strategy : Strategy) (kind : Kind)
    (algorithm : Algorithm) : Runs config (strategy.install config kind algorithm) kind algorithm where
  similarity_eq := by
    rw [install, withSimilarity, withStep, NameMap.get?_insert, if_pos rfl]
  step_eq := by
    rw [install, withSimilarity, withStep, step?, NameMap.get?_insert, if_pos rfl]

theorem step?_install (config : Config) (strategy : Strategy) (kind other : Kind)
    (algorithm : Algorithm) : (strategy.install config kind algorithm).step? other =
      if kind.name = other.name then some (algorithmStep config algorithm)
      else strategy.step? other :=
  NameMap.get?_insert strategy.steps kind.name other.name (algorithmStep config algorithm)

/-- The build step of a kind is the one of its algorithm. -/
theorem step?_ofConfig (config : Config) (kind : Kind) :
    (ofConfig config).step? kind =
      (config.algorithm? kind).map (algorithmStep config) := by
  rw [ofConfig, Config.algorithm?]
  induction config.algorithms.entries using List.reverseRecOn with
  | nil => rfl
  | append_singleton entries entry ih =>
      rw [List.foldl_append, List.foldl_cons, List.foldl_nil, step?_install, List.reverse_append,
        List.reverse_singleton, List.singleton_append, List.find?_cons]
      by_cases here : entry.1 = kind.name
      · simp [here]
      · have elsewhere : (entry.1 == kind.name) = false := beq_eq_false_iff_ne.mpr here
        rw [if_neg here, elsewhere]
        exact ih

theorem Consistent.install (consistent : Consistent config strategy) (kind : Kind)
    (algorithm : Algorithm) : Consistent config (strategy.install config kind algorithm) := by
  intro other similarity found
  by_cases same : kind.name = other.name
  · have kind_eq : kind = other := by
      cases kind
      cases other
      exact congrArg Kind.mk same
    exact ⟨algorithm, kind_eq ▸ runs_install config strategy kind algorithm⟩
  · rw [Strategy.install, withSimilarity, withStep, NameMap.get?_insert, if_neg same] at found
    rcases consistent other similarity found with ⟨old, runs⟩
    refine ⟨old, ?_, ?_⟩
    · rw [Strategy.install, withSimilarity, withStep, NameMap.get?_insert, if_neg same]
      exact runs.similarity_eq
    · rw [Strategy.install, withSimilarity, withStep, step?, NameMap.get?_insert, if_neg same]
      exact runs.step_eq

theorem Consistent.installAll (consistent : Consistent config strategy)
    (algorithms : List (String × Algorithm)) :
    Consistent config (algorithms.foldl
      (fun strategy (kind, algorithm) => strategy.install config ⟨kind⟩ algorithm) strategy) := by
  induction algorithms generalizing strategy with
  | nil => exact consistent
  | cons entry algorithms ih => exact ih (consistent.install ⟨entry.1⟩ entry.2)

theorem consistent_ofConfig (config : Config) : Consistent config (ofConfig config) := by
  apply Consistent.installAll
  intro kind similarity found
  cases found

/-- Whatever kind a configured strategy can compare, it also computes values for. -/
theorem exists_runs_of_mem_kinds {kind : Kind} (known : kind ∈ (ofConfig config).kinds) :
    ∃ algorithm, Runs config (ofConfig config) kind algorithm := by
  rcases List.mem_map.mp known with ⟨name, member, rfl⟩
  rcases NameMap.exists_get?_eq member with ⟨similarity, found⟩
  exact consistent_ofConfig config ⟨name⟩ similarity found

theorem Runs.similarity_ok {kind : Kind} {algorithm : Algorithm}
    (runs : Runs config strategy kind algorithm) :
    strategy.similarity kind = .ok (algorithmSimilarity config algorithm) := by
  rw [similarity, runs.similarity_eq]

end Strategy

end Resemblance
