import Mathlib
import Resemblance.Proofs.Feature.HashSet

/-!
# Window hashes are sums

The hash of a window is the sum of its token hashes, each times the power of the base that counts the
tokens behind it, as far as a machine word holds it. The set of window hashes is computed by rolling:
the hash of a window gives the hash of the next one. Since words wrap, the words form a ring, and
taking away the token that leaves and shifting the others is exact, whatever the size of the powers;
so each hash that rolling yields is the value of the polynomial on its own window.
-/

namespace Resemblance

namespace WindowHashes

variable {hashes : List UInt64} {window : Nat}

/-! ## Rolling -/

theorem polynomial_concat (coefficients : List UInt64) (last : UInt64) :
    polynomial (coefficients ++ [last]) = polynomial coefficients * base + last := by
  rw [polynomial, List.foldl_append]
  rfl

/-- A coefficient in front has the power that counts the coefficients behind it. -/
theorem polynomial_cons (first : UInt64) (coefficients : List UInt64) :
    polynomial (first :: coefficients) =
      first * base ^ coefficients.length + polynomial coefficients := by
  induction coefficients using List.reverseRecOn with
  | nil =>
      have nothing : polynomial [] = 0 := rfl
      have alone : polynomial [first] = 0 * base + first := rfl
      rw [nothing, alone, List.length_nil]
      grind
  | append_singleton coefficients last ih =>
      rw [← List.cons_append, polynomial_concat, ih, polynomial_concat, List.length_append,
        List.length_singleton]
      grind

/-- One step of rolling leads from a window to the next one. -/
theorem polynomial_roll (out next : UInt64) (kept : List UInt64) :
    (polynomial (out :: kept) - out * base ^ kept.length) * base + next =
      polynomial (kept ++ [next]) := by
  rw [polynomial_cons, polynomial_concat]
  grind

/-- The window of the given length from a place on. -/
def windowAt (hashes : List UInt64) (window start : Nat) : List UInt64 :=
  (hashes.drop start).take window

theorem windowAt_cons_succ (out : UInt64) (hashes : List UInt64) (window start : Nat) :
    windowAt (out :: hashes) window (start + 1) = windowAt hashes window start := by
  rw [windowAt, List.drop_succ_cons, windowAt]

/-- Rolling over a list visits all its windows but the first one. -/
theorem rollOn_eq (hashes : List UInt64) (width : Nat) :
    rollOn (base ^ width) (polynomial (hashes.take (width + 1))) hashes (hashes.drop (width + 1)) =
      (List.range (hashes.length - (width + 1))).map fun start =>
        polynomial (windowAt hashes (width + 1) (start + 1)) := by
  induction hashes with
  | nil => simp [rollOn]
  | cons out hashes ih =>
      rw [List.take_succ_cons, List.drop_succ_cons, List.length_cons, Nat.add_sub_add_right]
      simp only [windowAt_cons_succ]
      rcases Nat.lt_or_ge width hashes.length with within | short
      · -- Another token enters, and rolling goes on behind the token that leaves.
        have kept : (hashes.take width).length = width := List.length_take_of_le within.le
        have step := polynomial_roll out hashes[width] (hashes.take width)
        have more : hashes.length - width = hashes.length - (width + 1) + 1 := by omega
        rw [kept, List.take_append_getElem within] at step
        rw [List.drop_eq_getElem_cons within, rollOn, step, ih, more, List.range_succ_eq_map,
          List.map_cons, List.map_map]
        rfl
      · rw [List.drop_of_length_le short, Nat.sub_eq_zero_of_le short, rollOn]
        · rfl
        · simp

/-- The hashes of all windows, in the order of the windows. -/
theorem ofHashes_eq (hashes : List UInt64) {window : Nat} (positive : 0 < window) :
    ofHashes hashes window =
      (List.range (hashes.length - window + 1)).map fun start =>
        polynomial (windowAt hashes window start) := by
  rcases Nat.exists_eq_add_one.mpr positive with ⟨width, rfl⟩
  rw [ofHashes, Nat.add_sub_cancel, rollOn_eq, List.range_succ_eq_map, List.map_cons, List.map_map]
  rfl

/-! ## Sums -/

/--
The hash of a window of tokens as a sum: the power of the base at each token counts the tokens of
the window behind it.
-/
def windowSum (hash : String → UInt64) (tokens : List String) (window start : Nat) : Nat :=
  (∑ offset ∈ Finset.range window,
    (hash (tokens.getD (start + offset) "")).toNat * base.toNat ^ (window - 1 - offset)) %
    UInt64.size

/-- The value of a polynomial, without wrapping. -/
def amount (coefficients : List UInt64) : Nat :=
  ∑ offset ∈ Finset.range coefficients.length,
    (coefficients.getD offset 0).toNat * base.toNat ^ (coefficients.length - 1 - offset)

theorem amount_concat (coefficients : List UInt64) (last : UInt64) :
    amount (coefficients ++ [last]) = amount coefficients * base.toNat + last.toNat := by
  rw [amount, List.length_append, List.length_singleton, Finset.sum_range_succ, amount,
    Finset.sum_mul]
  congr 1
  · apply Finset.sum_congr rfl
    intro offset member
    have within : offset < coefficients.length := Finset.mem_range.mp member
    have power : coefficients.length + 1 - 1 - offset = coefficients.length - 1 - offset + 1 := by
      omega
    rw [List.getD_append _ _ _ _ within, power, Nat.pow_succ, Nat.mul_assoc]
  · have power : coefficients.length + 1 - 1 - coefficients.length = 0 := by omega
    rw [List.getD_append_right _ _ _ _ le_rfl, power, Nat.sub_self, List.getD_cons_zero,
      Nat.pow_zero, Nat.mul_one]

/-- What the words lose by wrapping is a multiple of their number. -/
theorem toNat_polynomial (coefficients : List UInt64) :
    (polynomial coefficients).toNat = amount coefficients % UInt64.size := by
  induction coefficients using List.reverseRecOn with
  | nil => rfl
  | append_singleton coefficients last ih =>
      change _ = _ % 2 ^ 64 at ih
      change _ = _ % 2 ^ 64
      rw [polynomial_concat, UInt64.toNat_add, UInt64.toNat_mul, ih, amount_concat, Nat.mod_mul_mod,
        Nat.mod_add_mod]

theorem toNat_polynomial_windowAt {hash : String → UInt64} {tokens : List String}
    {window start : Nat} (within : start + window ≤ tokens.length) :
    (polynomial (windowAt (tokens.map hash) window start)).toNat =
      windowSum hash tokens window start := by
  have size : (windowAt (tokens.map hash) window start).length = window := by
    rw [windowAt, List.length_take_of_le]
    rw [List.length_drop, List.length_map]
    omega
  rw [toNat_polynomial, amount, size, windowSum]
  congr 1
  apply Finset.sum_congr rfl
  intro offset member
  have inside : offset < window := Finset.mem_range.mp member
  have found : (windowAt (tokens.map hash) window start).getD offset 0 =
      hash (tokens.getD (start + offset) "") := by
    have bounded : start + offset < tokens.length := by omega
    simp [windowAt, List.getD_eq_getElem?_getD, List.getElem?_drop, inside,
      bounded]
  rw [found]

end WindowHashes

theorem mem_map_toNat_windowHashes_iff {hash : String → UInt64} {tokens : List String}
    {window value : Nat} (nonempty : tokens ≠ []) :
    value ∈ (windowHashes hash tokens window).hashes.map UInt64.toNat ↔
      ∃ start < tokens.length - WindowHashes.windowLength tokens.length window + 1,
        WindowHashes.windowSum hash tokens
          (WindowHashes.windowLength tokens.length window) start = value := by
  have tokens_pos : 0 < tokens.length := List.length_pos_iff.mpr nonempty
  have window_pos : 0 < WindowHashes.windowLength tokens.length window := by
    rw [WindowHashes.windowLength]
    omega
  have window_le : WindowHashes.windowLength tokens.length window ≤ tokens.length :=
    Nat.min_le_right _ _
  rw [windowHashes, if_neg (by simpa using nonempty), List.mem_map]
  simp only [HashSet.mem_ofList_iff, WindowHashes.ofHashes_eq _ window_pos, List.mem_map,
    List.length_map, List.mem_range]
  constructor
  · rintro ⟨_, ⟨start, start_lt, rfl⟩, rfl⟩
    exact ⟨start, start_lt, (WindowHashes.toNat_polynomial_windowAt (by omega)).symm⟩
  · rintro ⟨start, start_lt, rfl⟩
    exact ⟨_, ⟨start, start_lt, rfl⟩, WindowHashes.toNat_polynomial_windowAt (by omega)⟩

/--
The window hashes of some tokens are, in increasing order and each of them once, the sums of the
windows from each start on, where a window has at least one token and at most all of them.
-/
theorem windowHashes_areSums (hash : String → UInt64) (window : Nat) :
    windowHashes hash [] window = .empty ∧
      ∀ tokens, tokens ≠ [] → (windowHashes hash tokens window).hashes.map UInt64.toNat =
        ((Finset.range (tokens.length - min (max window 1) tokens.length + 1)).image
          (WindowHashes.windowSum hash tokens (min (max window 1) tokens.length))).sort := by
  refine ⟨rfl, ?_⟩
  intro tokens nonempty
  have increasing : ((windowHashes hash tokens window).hashes.map UInt64.toNat).Pairwise (· < ·) :=
    List.pairwise_map.mpr ((increasing_windowHashes hash tokens window).imp UInt64.lt_iff_toNat_lt.mp)
  have members : ((windowHashes hash tokens window).hashes.map UInt64.toNat).toFinset =
      (Finset.range (tokens.length - min (max window 1) tokens.length + 1)).image
        (WindowHashes.windowSum hash tokens (min (max window 1) tokens.length)) := by
    ext value
    rw [List.mem_toFinset, mem_map_toNat_windowHashes_iff nonempty, Finset.mem_image]
    simp only [Finset.mem_range, WindowHashes.windowLength]
  rw [← members]
  exact ((List.toFinset_sort (· ≤ ·) (increasing.imp Nat.ne_of_lt)).mpr
    (increasing.imp Nat.le_of_lt)).symm

/-- The greatest hash for one token, and a small one for the others. -/
def extremeHash (token : String) : UInt64 :=
  if token = "a" then 0xFFFFFFFFFFFFFFFF else 5

/-- Four windows with two different hashes, where the sums are beyond the machine words. -/
theorem windowHashes_areSums_alternating :
    ["a", "b", "a", "b", "a"] ≠ [] ∧
      (windowHashes extremeHash ["a", "b", "a", "b", "a"] 2).hashes =
        [5497558141054, 18446742974197923410] ∧
      (windowHashes extremeHash ["a", "b", "a", "b", "a"] 2).hashes.map UInt64.toNat =
        ((Finset.range 4).image
          (WindowHashes.windowSum extremeHash ["a", "b", "a", "b", "a"] 2)).sort := by
  have nonempty : ["a", "b", "a", "b", "a"] ≠ [] := List.cons_ne_nil _ _
  refine ⟨nonempty, ?_, (windowHashes_areSums extremeHash 2).2 _ nonempty⟩
  cbv

end Resemblance
