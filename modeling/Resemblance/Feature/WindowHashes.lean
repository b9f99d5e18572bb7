import Resemblance.Feature.HashSet
import Resemblance.Hash.Xxh3

/-!
# Window hashes

The set of the hashes of all windows of consecutive tokens. The hash of a window is the polynomial
in `WindowHashes.base` whose coefficients are the hashes of its tokens, the first token with the
highest power; `WindowHashes.ofHashes` computes each hash from the one before it by dropping the
token that leaves the window and adding the one that enters. Arithmetic is on words that wrap.
-/

namespace Resemblance

namespace WindowHashes

def base : UInt64 := 0x100000001B3

/-- The value of the polynomial whose coefficients are given, highest power first. -/
def polynomial (coefficients : List UInt64) : UInt64 :=
  coefficients.foldl (fun value coefficient => value * base + coefficient) 0

/--
The hashes of the windows after a window with hash `rolling`: the tokens in `leaving` drop out while
those in `entering` come in, and `weight` is the power of the base at the first token of a window.
-/
def rollOn (weight rolling : UInt64) : (leaving entering : List UInt64) → List UInt64
  | out :: leaving, next :: entering =>
      let rolling := (rolling - out * weight) * base + next
      rolling :: rollOn weight rolling leaving entering
  | _, _ => []

/-- The hashes of all windows of `window` token hashes, where `1 ≤ window ≤ hashes.length`. -/
def ofHashes (hashes : List UInt64) (window : Nat) : List UInt64 :=
  let first := polynomial (hashes.take window)
  let weight := base ^ (window - 1)
  first :: rollOn weight first hashes (hashes.drop window)

/-- The window length in use: at least one token, and at most all of them. -/
def windowLength (tokenCount window : Nat) : Nat :=
  min (max window 1) tokenCount

end WindowHashes

/--
The window hashes of a token list, for the hash of tokens that is given. A list shorter than the
window counts as one window, and an empty list has none.
-/
def windowHashes (hash : String → UInt64) (tokens : List String) (window : Nat) : HashSet :=
  if tokens.isEmpty then HashSet.empty
  else
    HashSet.ofList
      (WindowHashes.ofHashes (tokens.map hash)
        (WindowHashes.windowLength tokens.length window))

end Resemblance
