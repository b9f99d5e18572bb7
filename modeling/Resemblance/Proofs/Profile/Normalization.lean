import Resemblance.Profile.TokenNormalizer

/-!
# What normalizers leave of tokens

A token normalizer goes through a stream token by token: each one is kept as the normalizer writes
it, unless that is a stop token. `TokenNormalizer.Cleans` states this as a relation between two
streams, which relates each stream to exactly one other, the one that is computed. So all that
matters about stop tokens is which ones there are: neither their order does, nor how many calls it
took to add them.
-/

namespace Resemblance

namespace TokenNormalizer

variable {normalizer other : TokenNormalizer} {token : String} {tokens before after : List String}

/-- A token in lower case, if the normalizer asks for it. -/
def written (normalizer : TokenNormalizer) (token : String) : String :=
  if normalizer.lowercase then Text.lowerCase token else token

/-- A normalizer leaves the second stream of the first. -/
inductive Cleans (normalizer : TokenNormalizer) : List String → List String → Prop where
  | nil : Cleans normalizer [] []
  | kept {token : String} {before after : List String}
      (wanted : normalizer.written token ∉ normalizer.stopTokens)
      (others : Cleans normalizer before after) :
      Cleans normalizer (token :: before) (normalizer.written token :: after)
  | dropped {token : String} {before after : List String}
      (stopped : normalizer.written token ∈ normalizer.stopTokens)
      (others : Cleans normalizer before after) : Cleans normalizer (token :: before) after

theorem tokens_eq (normalizer : TokenNormalizer) (tokens : List String) :
    normalizer.tokens tokens =
      (tokens.map normalizer.written).filter fun token => token ∉ normalizer.stopTokens := by
  have lowered : (if normalizer.lowercase then tokens.map Text.lowerCase else tokens) =
      tokens.map normalizer.written := by
    have writtenEq : normalizer.written =
        if normalizer.lowercase then Text.lowerCase else id := by
      funext token
      rw [written]
      split <;> rfl
    rw [writtenEq]
    split
    · rfl
    · exact (List.map_id tokens).symm
  rw [TokenNormalizer.tokens, lowered]
  apply List.filter_congr
  intro token _
  simp

@[simp]
theorem tokens_nil (normalizer : TokenNormalizer) : normalizer.tokens [] = [] := by
  rw [tokens_eq, List.map_nil, List.filter_nil]

theorem tokens_cons (normalizer : TokenNormalizer) (token : String) (tokens : List String) :
    normalizer.tokens (token :: tokens) =
      if normalizer.written token ∈ normalizer.stopTokens then normalizer.tokens tokens
      else normalizer.written token :: normalizer.tokens tokens := by
  rw [tokens_eq, tokens_eq, List.map_cons, List.filter_cons]
  by_cases stopped : normalizer.written token ∈ normalizer.stopTokens <;> simp [stopped]

theorem cleans_tokens (normalizer : TokenNormalizer) (before : List String) :
    normalizer.Cleans before (normalizer.tokens before) := by
  induction before with
  | nil =>
      rw [tokens_nil]
      exact .nil
  | cons token before ih =>
      rw [tokens_cons]
      split
      · rename_i stopped
        exact .dropped stopped ih
      · rename_i wanted
        exact .kept wanted ih

/-- What is left of a stream is what the normalizer computes. -/
theorem cleans_iff : normalizer.Cleans before after ↔ after = normalizer.tokens before := by
  constructor
  · intro cleans
    induction cleans with
    | nil => exact normalizer.tokens_nil.symm
    | kept wanted _ ih => rw [tokens_cons, if_neg wanted, ih]
    | dropped stopped _ ih => rw [tokens_cons, if_pos stopped, ih]
  · rintro rfl
    exact normalizer.cleans_tokens before

/-- Normalization changes the tokens of an element, and nothing else of it. -/
theorem normalize_eq_iff {extracted : Extracted} :
    normalizer.normalize extracted = { extracted with tokens } ↔
      normalizer.Cleans extracted.tokens tokens := by
  rw [cleans_iff, normalize, Extracted.mk.injEq]
  simp [eq_comm]

/-! ## Stop tokens -/

/-- No stop token is left, and whatever else is left is the way in which a token is written. -/
theorem mem_tokens_iff : token ∈ normalizer.tokens tokens ↔
    token ∉ normalizer.stopTokens ∧ ∃ original ∈ tokens, normalizer.written original = token := by
  rw [tokens_eq, List.mem_filter, List.mem_map, decide_eq_true_eq, and_comm]

theorem tokens_congr (lowercaseEq : normalizer.lowercase = other.lowercase)
    (same : ∀ token, token ∈ normalizer.stopTokens ↔ token ∈ other.stopTokens)
    (tokens : List String) : normalizer.tokens tokens = other.tokens tokens := by
  have writtenEq : normalizer.written = other.written := by
    funext token
    rw [written, written, lowercaseEq]
  rw [tokens_eq, tokens_eq, writtenEq]
  apply List.filter_congr
  intro token _
  simp only [same token]

/-- Further stop tokens drop from what was left without them. -/
theorem tokens_addStopTokens (normalizer : TokenNormalizer) (stopTokens tokens : List String) :
    (normalizer.addStopTokens stopTokens).tokens tokens =
      (normalizer.tokens tokens).filter fun token => token ∉ stopTokens := by
  have writtenEq : (normalizer.addStopTokens stopTokens).written = normalizer.written := rfl
  rw [tokens_eq, tokens_eq, List.filter_filter, writtenEq]
  apply List.filter_congr
  intro token _
  simp [addStopTokens, and_comm]

end TokenNormalizer

end Resemblance
