import Resemblance.Profile.Element

/-!
# Extracted elements

What an extractor found out about a program element: its kind, its descriptor, and the raw material
of its values, which is a stream of tokens and a vector of numbers. A token normalizer changes the
tokens before values are computed from them.
-/

namespace Resemblance

structure Extracted where
  kind : Kind
  descriptor : String
  tokens : List String
  vector : List Int32
  deriving DecidableEq, Repr

end Resemblance
