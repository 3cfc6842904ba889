/-
# Theory.Chunks -- cutting a length into chunks

`chunkCount n size` chunks of at most `size` cover `[0, n)`: chunk `i` starts at `i * size`,
and exactly the `i < chunkCount n size` start inside (`lt_chunkCount`).  `Tiles` says that a
list of intervals covers a range in order, without a gap and without overlap, and
`tiles_chunks` that the chunks do.

A program that computes the count with a rounded quotient gets the same number as long as the
length is below the precision: `ceil_divide`.
-/
import Mathlib.Data.Rat.Floor
import Mathlib.Tactic.Linarith
import Mathlib.Tactic.FieldSimp

namespace MediaBooster.Theory.Chunks

set_option autoImplicit false

variable {n size : Nat}

/-- The number of chunks of at most `size` in a length of `n`. -/
def chunkCount (n size : Nat) : Nat := n / size + if n % size = 0 then 0 else 1

/-- Start and end of a chunk. -/
def chunk (n size i : Nat) : Nat × Nat := (i * size, min n (i * size + size))

/-- **Chunk `i` starts inside the length exactly for the first `chunkCount` of them.** -/
theorem lt_chunkCount (positive : 0 < size) {i : Nat} : i < chunkCount n size ↔ i * size < n := by
  have parts := Nat.div_add_mod n size
  have small := Nat.mod_lt n positive
  unfold chunkCount
  constructor
  · intro inside
    split at inside
    · have room : (i + 1) * size ≤ n / size * size := Nat.mul_le_mul_right size inside
      rw [Nat.add_mul, one_mul] at room
      rw [mul_comm size] at parts
      omega
    · have room : i * size ≤ n / size * size := Nat.mul_le_mul_right size (by omega)
      rw [mul_comm size] at parts
      omega
  · intro starts
    by_contra outside
    rw [not_lt] at outside
    have room := Nat.mul_le_mul_right size outside
    split at room
    · rw [add_zero, mul_comm (n / size)] at room
      omega
    · rw [Nat.add_mul, one_mul, mul_comm (n / size)] at room
      omega

theorem chunkCount_pos (positive : 0 < size) (nonempty : 0 < n) : 0 < chunkCount n size := by
  rw [lt_chunkCount positive, zero_mul]
  exact nonempty

/-- The chunks reach the end. -/
theorem le_chunkCount_mul (positive : 0 < size) : n ≤ chunkCount n size * size :=
  Nat.le_of_not_lt fun short => lt_irrefl _ ((lt_chunkCount positive).2 short)

/-- A chunk is not empty and at most `size` long. -/
theorem chunk_length (positive : 0 < size) {i : Nat} (inside : i * size < n) :
    (chunk n size i).1 < (chunk n size i).2 ∧
      (chunk n size i).2 - (chunk n size i).1 = min (n - i * size) size := by
  unfold chunk
  constructor
  · show i * size < min n (i * size + size)
    omega
  · show min n (i * size + size) - i * size = min (n - i * size) size
    omega

/-! ## Tilings -/

/-- The intervals cover `[first, last)` in order, without a gap and without overlap. -/
def Tiles : Nat → List (Nat × Nat) → Nat → Prop
  | first, [], last => first = last
  | first, interval :: intervals, last =>
      interval.1 = first ∧ interval.1 < interval.2 ∧ Tiles interval.2 intervals last

theorem Tiles.append {first middle last : Nat} {front back : List (Nat × Nat)}
    (fronts : Tiles first front middle) (backs : Tiles middle back last) :
    Tiles first (front ++ back) last := by
  induction front generalizing first with
  | nil =>
      rw [show first = middle from fronts]
      exact backs
  | cons interval intervals ih => exact ⟨fronts.1, fronts.2.1, ih fronts.2.2⟩

/-- **The chunks tile the length.** -/
theorem tiles_chunks (positive : 0 < size) :
    Tiles 0 ((List.range (chunkCount n size)).map (chunk n size)) n := by
  have upTo : ∀ k ≤ chunkCount n size,
      Tiles 0 ((List.range k).map (chunk n size)) (min n (k * size)) := by
    intro k
    induction k with
    | zero =>
        intro _
        show 0 = min n (0 * size)
        omega
    | succ k ih =>
        intro within
        have inside : k * size < n := (lt_chunkCount positive).1 within
        have start : min n (k * size) = k * size := by omega
        have stop : min n ((k + 1) * size) = min n (k * size + size) := by
          rw [Nat.add_mul, one_mul]
        rw [List.range_succ, List.map_append, List.map_singleton]
        apply (ih (by omega)).append
        rw [start, stop]
        exact ⟨rfl, (chunk_length positive inside).1, rfl⟩
  have whole := upTo (chunkCount n size) le_rfl
  rwa [min_eq_left (le_chunkCount_mul positive)] at whole

/-! ## Rounded quotients -/

/-- A division of naturals to a floating-point number of 53 bits: a quotient that is an
integer in its range comes out exactly, any other with a relative error of at most `2⁻⁵³`. -/
structure RoundsToDouble (divide : Nat → Nat → ℚ) : Prop where
  exact : ∀ a b k : Nat, 0 < b → a = k * b → a < 2 ^ 53 → divide a b = k
  close : ∀ a b : Nat, 0 < b → |divide a b - (a : ℚ) / b| ≤ (a : ℚ) / b / 2 ^ 53

/-- The exact division is one. -/
theorem roundsToDouble_exact : RoundsToDouble fun a b => (a : ℚ) / b where
  exact := fun a b k positive product _ => by
    have nonzero : (b : ℚ) ≠ 0 := Nat.cast_ne_zero.2 positive.ne'
    rw [product, Nat.cast_mul]
    field_simp
  close := fun a b _ => by
    rw [sub_self, abs_zero]
    positivity

/-- **Rounding up a rounded quotient gives the number of chunks.** -/
theorem ceil_divide {divide : Nat → Nat → ℚ} (rounds : RoundsToDouble divide) (positive : 0 < size)
    (safe : n < 2 ^ 53) : ⌈divide n size⌉₊ = chunkCount n size := by
  have parts := Nat.div_add_mod n size
  unfold chunkCount
  by_cases whole : n % size = 0
  · rw [if_pos whole, add_zero, rounds.exact n size (n / size) positive (by
      rw [mul_comm]; omega) safe, Nat.ceil_natCast]
  · -- Between two integers the distance to both is more than the rounding error.
    rw [if_neg whole, Nat.ceil_eq_iff (Nat.succ_ne_zero _)]
    have positiveQ : (0 : ℚ) < size := Nat.cast_pos.2 positive
    have small := Nat.mod_lt n positive
    have partsQ : (n : ℚ) = size * (n / size : Nat) + (n % size : Nat) := by
      exact_mod_cast parts.symm
    have remainder : (1 : ℚ) ≤ (n % size : Nat) := by
      exact_mod_cast Nat.one_le_iff_ne_zero.2 whole
    have below : ((n % size : Nat) : ℚ) + 1 ≤ size := by exact_mod_cast small
    have safeQ : (n : ℚ) / 2 ^ 53 < 1 := by
      rw [div_lt_one (by positivity)]
      exact_mod_cast safe
    have close := abs_le.1 (rounds.close n size positive)
    have error : (n : ℚ) / size / 2 ^ 53 * size < 1 := by
      calc (n : ℚ) / size / 2 ^ 53 * size = n / 2 ^ 53 := by field_simp
        _ < 1 := safeQ
    have quotient : (n : ℚ) / size * size = n := div_mul_cancel₀ _ positiveQ.ne'
    have low : (n : ℚ) / size * size - (n : ℚ) / size / 2 ^ 53 * size ≤ divide n size * size := by
      rw [← sub_mul]
      exact mul_le_mul_of_nonneg_right (by linarith [close.1]) positiveQ.le
    have high : divide n size * size ≤ (n : ℚ) / size * size + (n : ℚ) / size / 2 ^ 53 * size := by
      rw [← add_mul]
      exact mul_le_mul_of_nonneg_right (by linarith [close.2]) positiveQ.le
    constructor
    · apply lt_of_mul_lt_mul_right _ positiveQ.le
      rw [Nat.succ_sub_one]
      linarith
    · apply le_of_mul_le_mul_right _ positiveQ
      push_cast
      linarith

end MediaBooster.Theory.Chunks
