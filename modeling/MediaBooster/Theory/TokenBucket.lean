/-
# Theory.TokenBucket -- the bucket that fills continuously

A bucket holds at most `capacity`, fills by `rate` with every tick and pays `unit` for each call
it admits.  `Level` is what it holds after a call; nothing in it is rounded.

Calls that are paid for (`Paid`) cannot come too fast: in a window of `length` ticks no more are
admitted than a full bucket and what flows in meanwhile pay for (`window_bound`).  `Fair` is the
other direction: no call is refused that could be paid for.
-/
import Mathlib.Algebra.Order.Ring.Int
import Mathlib.Data.Int.Basic
import Mathlib.Tactic.Linarith
import Mathlib.Tactic.Ring

namespace MediaBooster.Theory.TokenBucket

set_option autoImplicit false

/-- The numbers of a bucket. -/
structure Bucket where
  unit : Nat
  capacity : Nat
  rate : Nat

/-- A call at an instant, admitted or refused. -/
structure Call where
  instant : Nat
  admitted : Bool
deriving DecidableEq

/-- What the bucket held at an instant. -/
structure Level where
  amount : Int
  instant : Nat
deriving DecidableEq

variable (bucket : Bucket)

/-- What it holds later on, if nothing is taken. -/
def Level.laterAmount (level : Level) (instant : Nat) : Int :=
  min bucket.capacity (level.amount + bucket.rate * (instant - level.instant : Nat))

/-- What it holds after a call. -/
def Level.after (level : Level) (call : Call) : Level :=
  ⟨level.laterAmount bucket call.instant - if call.admitted then bucket.unit else 0, call.instant⟩

/-- Every admitted call is paid for. -/
def Paid (level : Level) : List Call → Prop
  | [] => True
  | call :: rest =>
      (call.admitted = true → (bucket.unit : Int) ≤ level.laterAmount bucket call.instant) ∧
        Paid (level.after bucket call) rest

/-- No call is refused that could be paid for. -/
def Fair (level : Level) : List Call → Prop
  | [] => True
  | call :: rest =>
      (call.admitted = false → level.laterAmount bucket call.instant < bucket.unit) ∧
        Fair (level.after bucket call) rest

instance decidableFair (level : Level) : (calls : List Call) → Decidable (Fair bucket level calls)
  | [] => inferInstanceAs (Decidable True)
  | call :: rest =>
      have := decidableFair (level.after bucket call) rest
      inferInstanceAs (Decidable (_ ∧ _))

/-- The calls come one after the other. -/
def Ordered (instant : Nat) : List Call → Prop
  | [] => True
  | call :: rest => instant ≤ call.instant ∧ Ordered call.instant rest

/-- The calls admitted between two instants. -/
def admittedBetween (start stop : Nat) (calls : List Call) : Nat :=
  calls.countP fun call => call.admitted && decide (start ≤ call.instant ∧ call.instant ≤ stop)

variable {bucket}

theorem Ordered.le {instant : Nat} {calls : List Call} (ordered : Ordered instant calls) :
    ∀ call ∈ calls, instant ≤ call.instant := by
  induction calls generalizing instant with
  | nil => simp
  | cons call rest ih =>
      intro later member
      rcases List.mem_cons.1 member with rfl | member
      · exact ordered.1
      · exact le_trans ordered.1 (ih ordered.2 later member)

/-- Calls after the window do not count. -/
theorem admittedBetween_after {start stop : Nat} {calls : List Call}
    (after : ∀ call ∈ calls, stop < call.instant) : admittedBetween start stop calls = 0 := by
  unfold admittedBetween
  rw [List.countP_eq_zero]
  intro call member
  have late := after call member
  simp only [Bool.and_eq_true, decide_eq_true_eq, not_and, not_le]
  exact fun _ _ => late

theorem admittedBetween_cons {start stop : Nat} {call : Call} {rest : List Call}
    (begun : start ≤ call.instant) (open_ : call.instant ≤ stop) :
    admittedBetween start stop (call :: rest) =
      admittedBetween start stop rest + if call.admitted then 1 else 0 := by
  unfold admittedBetween
  rw [List.countP_cons]
  simp [begun, open_]

theorem admittedBetween_before {start stop : Nat} {call : Call} {rest : List Call}
    (before : call.instant < start) :
    admittedBetween start stop (call :: rest) = admittedBetween start stop rest := by
  unfold admittedBetween
  rw [List.countP_cons]
  simp [Nat.not_le.2 before]

/-- What can still be paid for in a window, from where the bucket stands. -/
def payable (bucket : Bucket) (level : Level) (start stop : Nat) : Int :=
  if level.instant < start then bucket.capacity + bucket.rate * (stop - start : Nat)
  else if level.instant ≤ stop then level.amount + bucket.rate * (stop - level.instant : Nat)
  else 0

theorem payable_nonneg {level : Level} (nonneg : 0 ≤ level.amount) (start stop : Nat) :
    0 ≤ payable bucket level start stop := by
  unfold payable
  split
  · positivity
  · split
    · positivity
    · exact le_refl 0

/-- What flows in over two stretches of time. -/
theorem rate_add {first second third : Nat} (early : first ≤ second) (late : second ≤ third) :
    (bucket.rate : Int) * (second - first : Nat) + bucket.rate * (third - second : Nat) =
      bucket.rate * (third - first : Nat) := by
  have sum : third - first = (second - first) + (third - second) := by omega
  rw [sum]
  push_cast
  ring

/-- The calls of a run are paid out of what is payable. -/
theorem admitted_le_payable {start stop : Nat} (calls : List Call) :
    ∀ level : Level, 0 ≤ level.amount → Ordered level.instant calls → Paid bucket level calls →
      (bucket.unit : Int) * admittedBetween start stop calls ≤ payable bucket level start stop := by
  induction calls with
  | nil =>
      intro level nonneg _ _
      show (bucket.unit : Int) * 0 ≤ _
      rw [mul_zero]
      exact payable_nonneg nonneg start stop
  | cons call rest ih =>
      intro level nonneg ordered paid
      have flows : (0 : Int) ≤ bucket.rate * (call.instant - level.instant : Nat) := by positivity
      have nonnegLater : 0 ≤ level.laterAmount bucket call.instant := by
        unfold Level.laterAmount
        exact le_min (by positivity) (by linarith)
      have nonnegAfter : 0 ≤ (level.after bucket call).amount := by
        show 0 ≤ level.laterAmount bucket call.instant - _
        by_cases admitted : call.admitted = true
        · rw [if_pos admitted]
          have price := paid.1 admitted
          linarith
        · rw [if_neg admitted]
          simpa using nonnegLater
      have later := ih (level.after bucket call) nonnegAfter ordered.2 paid.2
      by_cases before : call.instant < start
      · have early : level.instant < start := lt_of_le_of_lt ordered.1 before
        have stillEarly : (level.after bucket call).instant < start := before
        rw [admittedBetween_before before]
        unfold payable at later ⊢
        rw [if_pos stillEarly] at later
        rw [if_pos early]
        exact later
      by_cases after : stop < call.instant
      · have none : admittedBetween start stop (call :: rest) = 0 := by
          refine admittedBetween_after fun other member => ?_
          rcases List.mem_cons.1 member with rfl | member
          · exact after
          · exact lt_of_lt_of_le after (ordered.2.le other member)
        rw [none, Nat.cast_zero, mul_zero]
        exact payable_nonneg nonneg start stop
      rw [not_lt] at before after
      rw [admittedBetween_cons before after]
      have notEarly : ¬ (level.after bucket call).instant < start := Nat.not_lt.2 before
      have inside : (level.after bucket call).instant ≤ stop := after
      unfold payable at later
      rw [if_neg notEarly, if_pos inside] at later
      have price : (bucket.unit : Int) * ((if call.admitted then 1 else 0 : Nat) : Int) =
          ((if call.admitted then bucket.unit else 0 : Nat) : Int) := by
        split <;> simp
      have spent : (bucket.unit : Int) * (admittedBetween start stop rest +
          (if call.admitted then 1 else 0 : Nat) : Nat) ≤
          level.laterAmount bucket call.instant + bucket.rate * (stop - call.instant : Nat) := by
        rw [Nat.cast_add, mul_add, price]
        have amount : (level.after bucket call).amount = level.laterAmount bucket call.instant -
            ((if call.admitted then bucket.unit else 0 : Nat) : Int) := rfl
        have instant : (level.after bucket call).instant = call.instant := rfl
        rw [amount, instant] at later
        linarith
      refine le_trans spent ?_
      unfold payable
      by_cases early : level.instant < start
      · rw [if_pos early]
        have full : level.laterAmount bucket call.instant ≤ bucket.capacity := min_le_left _ _
        have shorter : (bucket.rate : Int) * (stop - call.instant : Nat) ≤
            bucket.rate * (stop - start : Nat) := by
          refine mul_le_mul_of_nonneg_left ?_ (by positivity)
          exact_mod_cast Nat.sub_le_sub_left before stop
        linarith
      · have reached : level.instant ≤ stop := le_trans ordered.1 after
        rw [if_neg early, if_pos reached]
        have filled : level.laterAmount bucket call.instant ≤
            level.amount + bucket.rate * (call.instant - level.instant : Nat) := min_le_right _ _
        have sum := @rate_add bucket _ _ _ ordered.1 after
        linarith

/-- **Calls that are paid for do not come too fast**: a window admits what a full bucket and the
inflow of the window pay for. -/
theorem window_bound {level : Level} {calls : List Call} (nonneg : 0 ≤ level.amount)
    (within : level.amount ≤ bucket.capacity) (ordered : Ordered level.instant calls)
    (paid : Paid bucket level calls) (start length : Nat) :
    bucket.unit * admittedBetween start (start + length) calls ≤
      bucket.capacity + bucket.rate * length := by
  have bound : (bucket.unit : Int) * admittedBetween start (start + length) calls ≤
      payable bucket level start (start + length) := admitted_le_payable calls level nonneg ordered paid
  have most : payable bucket level start (start + length) ≤
      bucket.capacity + bucket.rate * length := by
    unfold payable
    have whole : start + length - start = length := by omega
    rw [whole]
    split
    · exact le_refl _
    · split
      · rename_i late _
        have shorter : (bucket.rate : Int) * (start + length - level.instant : Nat) ≤
            bucket.rate * length := by
          refine mul_le_mul_of_nonneg_left ?_ (by positivity)
          exact_mod_cast (by omega : start + length - level.instant ≤ length)
        linarith
      · positivity
  exact_mod_cast le_trans bound most

end MediaBooster.Theory.TokenBucket
