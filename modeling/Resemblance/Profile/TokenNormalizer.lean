import Resemblance.Profile.Extracted
import Resemblance.Text.LowerCase

/-!
# Normalizing tokens

A token normalizer writes tokens in lower case, if it is asked to, and then drops the tokens that
carry no information.
-/

namespace Resemblance

/-- A way to normalize tokens. -/
structure TokenNormalizer where
  lowercase : Bool
  stopTokens : List String
  deriving DecidableEq, Repr

namespace TokenNormalizer

/-- The name under which a profile records that it was built with a token normalizer. -/
def name : String := "tokens"

def identity : TokenNormalizer := ⟨false, []⟩

def addStopTokens (normalizer : TokenNormalizer) (tokens : List String) : TokenNormalizer :=
  { normalizer with stopTokens := normalizer.stopTokens ++ tokens }

def tokens (normalizer : TokenNormalizer) (tokens : List String) : List String :=
  (if normalizer.lowercase then tokens.map Text.lowerCase else tokens).filter
    fun token => !normalizer.stopTokens.contains token

def normalize (normalizer : TokenNormalizer) (extracted : Extracted) : Extracted :=
  { extracted with tokens := normalizer.tokens extracted.tokens }

end TokenNormalizer

end Resemblance
