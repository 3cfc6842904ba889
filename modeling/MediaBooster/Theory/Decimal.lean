/-
# Theory.Decimal -- digits as a fraction, and its value rounded up

`fraction digits` is what digits behind a decimal point stand for.  To get it rounded up to `k`
places, a program need not look at all of them: the first `k` digits, scaled, and one more if
a digit other than zero follows (`ceil_fraction`).  There is no limit to how many follow.

Numerals of one length are in the order of their values (`append_lt_append`).
-/
import Mathlib.Algebra.Order.Floor.Semiring
import Mathlib.Data.Rat.Floor
import Mathlib.Tactic.FieldSimp
import Mathlib.Tactic.Linarith
import Mathlib.Tactic.Positivity
import Mathlib.Tactic.Ring

namespace MediaBooster.Theory.Decimal

set_option autoImplicit false

/-- The number that digits stand for. -/
def value (digits : List Char) : Nat := Nat.ofDigitChars 10 digits 0

/-- The number that digits behind the point stand for. -/
def fraction (digits : List Char) : ℚ := value digits / 10 ^ digits.length

theorem value_nil : value [] = 0 := rfl

theorem value_append (front back : List Char) :
    value (front ++ back) = 10 ^ back.length * value front + value back := by
  unfold value
  rw [Nat.ofDigitChars_append, Nat.ofDigitChars_eq_ofDigitChars_zero]

theorem value_cons (c : Char) (rest : List Char) :
    value (c :: rest) = 10 ^ rest.length * (c.toNat - '0'.toNat) + value rest := by
  have one : value [c] = c.toNat - '0'.toNat := by
    show 10 * 0 + (c.toNat - '0'.toNat) = _
    omega
  rw [← List.singleton_append, value_append, one]

theorem digit_bounds {c : Char} (digit : c.isDigit = true) :
    '0'.toNat ≤ c.toNat ∧ c.toNat ≤ '9'.toNat := by
  simp only [Char.isDigit, Bool.and_eq_true, decide_eq_true_eq] at digit
  exact ⟨digit.1, digit.2⟩

/-- A digit stands for zero only where it is the digit zero. -/
theorem digit_eq_zero {c : Char} (digit : c.isDigit = true) :
    c.toNat - '0'.toNat = 0 ↔ c = '0' := by
  have bounds := digit_bounds digit
  constructor
  · intro zero
    have same : c.toNat = '0'.toNat := by omega
    exact Char.toNat_inj.1 same
  · rintro rfl
    rfl

theorem value_lt {digits : List Char} (all : ∀ c ∈ digits, c.isDigit = true) :
    value digits < 10 ^ digits.length := by
  induction digits with
  | nil => decide
  | cons c rest ih =>
      have bounds := digit_bounds (all c List.mem_cons_self)
      have later := ih fun d member => all d (List.mem_cons_of_mem c member)
      have most : c.toNat - '0'.toNat ≤ 9 := by
        have top : '9'.toNat = '0'.toNat + 9 := rfl
        omega
      have scaled := Nat.mul_le_mul_left (10 ^ rest.length) most
      rw [value_cons, List.length_cons, pow_succ]
      omega

/-- Digits stand for zero only where all of them are zero. -/
theorem value_eq_zero {digits : List Char} (all : ∀ c ∈ digits, c.isDigit = true) :
    value digits = 0 ↔ ∀ c ∈ digits, c = '0' := by
  induction digits with
  | nil => simp [value_nil]
  | cons c rest ih =>
      have later := ih fun d member => all d (List.mem_cons_of_mem c member)
      have scale : 0 < 10 ^ rest.length := Nat.pow_pos (by decide)
      rw [value_cons, Nat.add_eq_zero_iff, Nat.mul_eq_zero, later,
        digit_eq_zero (all c List.mem_cons_self), List.forall_mem_cons]
      simp only [Nat.ne_of_gt scale, false_or]

/-- **Numerals of one length are ordered like their values**, whatever stands behind them. -/
theorem append_lt_append {a b : List Char} (end_ end_' : List Char)
    (all : ∀ c ∈ a, c.isDigit = true) (all' : ∀ c ∈ b, c.isDigit = true)
    (long : a.length = b.length) (less : value a < value b) : a ++ end_ < b ++ end_' := by
  induction a generalizing b with
  | nil =>
      obtain rfl := List.length_eq_zero_iff.1 long.symm
      exact absurd less (Nat.lt_irrefl _)
  | cons c rest ih =>
      cases b with
      | nil => cases long
      | cons d rest' =>
          have same : rest.length = rest'.length := Nat.succ.inj long
          have bounds := digit_bounds (all c List.mem_cons_self)
          have bounds' := digit_bounds (all' d List.mem_cons_self)
          have small := value_lt fun e member => all' e (List.mem_cons_of_mem d member)
          rw [value_cons, value_cons, same] at less
          rw [List.cons_append, List.cons_append, List.cons_lt_cons_iff]
          obtain before | same' | after := Nat.lt_trichotomy c.toNat d.toNat
          · exact .inl before
          · obtain rfl := Char.toNat_inj.1 same'
            refine .inr ⟨rfl, ih ?_ ?_ same (by omega)⟩
            · exact fun e member => all e (List.mem_cons_of_mem c member)
            · exact fun e member => all' e (List.mem_cons_of_mem c member)
          · have larger : d.toNat - '0'.toNat + 1 ≤ c.toNat - '0'.toNat := by omega
            have scaled := Nat.mul_le_mul_left (10 ^ rest'.length) larger
            rw [Nat.mul_add] at scaled
            omega

theorem fraction_nonneg (digits : List Char) : 0 ≤ fraction digits := by
  unfold fraction
  positivity

/-- The first `k` digits scaled to `k` places, and one more if anything but zeros follows. -/
def roundedUp (k : Nat) (digits : List Char) : Nat :=
  value (digits.take k) * 10 ^ (k - digits.length) + if (digits.drop k).any (· != '0') then 1 else 0

/-- **Rounding a decimal fraction up takes `k` digits and one look at the rest.** -/
theorem ceil_fraction (k : Nat) {digits : List Char} (all : ∀ c ∈ digits, c.isDigit = true) :
    ⌈fraction digits * 10 ^ k⌉₊ = roundedUp k digits := by
  by_cases short : digits.length ≤ k
  · have exactly :
        fraction digits * 10 ^ k = ((value digits * 10 ^ (k - digits.length) : Nat) : ℚ) := by
      have split : (10 : ℚ) ^ k = 10 ^ digits.length * 10 ^ (k - digits.length) := by
        rw [← pow_add]
        congr 1
        omega
      unfold fraction
      rw [split]
      push_cast
      field_simp
    rw [exactly, Nat.ceil_natCast]
    unfold roundedUp
    rw [List.take_of_length_le short, List.drop_of_length_le short]
    rfl
  · rw [not_le] at short
    have parts : digits.take k ++ digits.drop k = digits := List.take_append_drop k digits
    have front : (digits.take k).length = k := by
      rw [List.length_take]
      omega
    have back : (digits.drop k).length = digits.length - k := List.length_drop
    have behind : ∀ c ∈ digits.drop k, c.isDigit = true :=
      fun c member => all c (List.mem_of_mem_drop member)
    have whole : value digits =
        10 ^ (digits.length - k) * value (digits.take k) + value (digits.drop k) := by
      rw [← back, ← value_append, parts]
    have split : (10 : ℚ) ^ digits.length = 10 ^ (digits.length - k) * 10 ^ k := by
      rw [← pow_add]
      congr 1
      omega
    have sum : fraction digits * 10 ^ k =
        (value (digits.take k) : ℚ) + value (digits.drop k) / 10 ^ (digits.length - k) := by
      unfold fraction
      rw [split, whole]
      push_cast
      field_simp
    have small : value (digits.drop k) < 10 ^ (digits.length - k) := by
      rw [← back]
      exact value_lt behind
    have noScale : k - digits.length = 0 := by omega
    have scale : (0 : ℚ) < 10 ^ (digits.length - k) := by positivity
    unfold roundedUp
    rw [sum, noScale, pow_zero, mul_one]
    by_cases zeros : ∀ c ∈ digits.drop k, c = '0'
    · have none : (digits.drop k).any (· != '0') = false := by
        rw [List.any_eq_false]
        intro c member
        simp [zeros c member]
      rw [(value_eq_zero behind).2 zeros, none]
      simp
    · have some : (digits.drop k).any (· != '0') = true := by
        rw [List.any_eq_true]
        simpa using zeros
      have positive : 0 < value (digits.drop k) :=
        Nat.pos_of_ne_zero fun zero => zeros ((value_eq_zero behind).1 zero)
      rw [some, if_pos rfl]
      have above : (0 : ℚ) < value (digits.drop k) / 10 ^ (digits.length - k) := by
        have cast : (0 : ℚ) < value (digits.drop k) := by exact_mod_cast positive
        positivity
      have below : (value (digits.drop k) : ℚ) / 10 ^ (digits.length - k) < 1 := by
        rw [div_lt_one scale]
        exact_mod_cast small
      rw [Nat.ceil_eq_iff (by omega)]
      push_cast
      constructor <;> linarith

/-! ## A whole number and a fraction -/

/-- A decimal numeral: digits, and maybe a point with more digits. -/
structure Numeral where
  whole : List Char
  point : Option (List Char)
  nonempty : whole ≠ []
  wholeDigits : ∀ c ∈ whole, c.isDigit = true
  pointDigits : ∀ digits ∈ point, ∀ c ∈ digits, c.isDigit = true

namespace Numeral

/-- The characters of the numeral. -/
def chars (numeral : Numeral) : List Char :=
  numeral.whole ++
    match numeral.point with
    | none => []
    | some digits => '.' :: digits

/-- The digits behind the point. -/
def behind (numeral : Numeral) : List Char := numeral.point.getD []

/-- The number it denotes. -/
def denotes (numeral : Numeral) : ℚ := value numeral.whole + fraction numeral.behind

theorem behind_digits (numeral : Numeral) : ∀ c ∈ numeral.behind, c.isDigit = true := by
  unfold behind
  cases point : numeral.point with
  | none => simp
  | some digits => exact numeral.pointDigits digits point

/-- **The number, rounded up to `k` places.** -/
theorem ceil_denotes (numeral : Numeral) (k : Nat) :
    ⌈numeral.denotes * 10 ^ k⌉₊ = value numeral.whole * 10 ^ k + roundedUp k numeral.behind := by
  have sum : numeral.denotes * 10 ^ k =
      fraction numeral.behind * 10 ^ k + ((value numeral.whole * 10 ^ k : Nat) : ℚ) := by
    unfold denotes
    push_cast
    ring
  have nonneg : 0 ≤ fraction numeral.behind * 10 ^ k :=
    mul_nonneg (fraction_nonneg numeral.behind) (by positivity)
  rw [sum, Nat.ceil_add_natCast nonneg, ceil_fraction k numeral.behind_digits, Nat.add_comm]

/-- It denotes a positive number exactly where something is left after rounding up. -/
theorem denotes_pos_iff (numeral : Numeral) (k : Nat) :
    0 < numeral.denotes ↔ 0 < ⌈numeral.denotes * 10 ^ k⌉₊ := by
  have scale : (0 : ℚ) < 10 ^ k := by positivity
  rw [Nat.ceil_pos]
  exact (mul_pos_iff_of_pos_right scale).symm

end Numeral

end MediaBooster.Theory.Decimal
