import Resemblance.Strategy.Basic
import Resemblance.Text.Quoted

/-!
# Describing strategies

A strategy in one line: the similarity of each kind, the number of build steps, and whether
descriptors have to match.
-/

namespace Resemblance

namespace Strategy

def describeSimilarity (kind : String) (similarity : Similarity) : String :=
  "(" ++ Text.quoted kind ++ ", " ++ Text.quoted similarity.name ++ ")"

def describe (strategy : Strategy) : String :=
  let similarities := strategy.similarities.entries.map fun (kind, similarity) =>
    describeSimilarity kind similarity
  let required := if strategy.requireDescriptorMatch then "true" else "false"
  "Strategy \x7b similarities: [" ++ ", ".intercalate similarities ++ "], build_steps: " ++
    toString strategy.steps.size ++ ", require_descriptor_match: " ++ required ++ " \x7d"

end Strategy

end Resemblance
