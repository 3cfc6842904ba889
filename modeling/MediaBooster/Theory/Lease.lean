/-
# Theory.Lease -- leases that expire, and what their parties know of them

A register holds at most one lease: an owner and an expiry.  It can be acquired when it
is free or its lease has expired, extended by its owner before it expires, and released
by its owner.  The parties do not see the register; each knows the expiry it was last
told of, which may be out of date.

`Known` says that what a party knows is either expired or what the register holds.
Every move keeps it (`Known.step`), so that at any instant at most one party knows of a
lease that has not expired (`Known.exclusive`).
-/
import Mathlib.Order.Lattice

namespace MediaBooster.Theory.Lease

set_option autoImplicit false

universe u v

variable {ω : Type u} {τ : Type v}

/-- A register and the last reading of the clock. -/
structure Register (ω : Type u) (τ : Type v) where
  holder : Option (ω × τ)
  clock : τ

/-- What happens to a register; an acquisition may go unreported. -/
inductive Move (ω : Type u) (τ : Type v)
  | acquire (owner : ω) (expiry : τ) (reported : Bool)
  | extend (owner : ω) (expiry : τ)
  | release (owner : ω)
  | idle

/-- One move, at a reading of the clock that is no earlier than the last one. -/
inductive Step [LinearOrder τ] : Register ω τ → Move ω τ → Register ω τ → Prop
  | acquire {s : Register ω τ} {now : τ} (later : s.clock ≤ now)
      (free : ∀ owner expiry, s.holder = some (owner, expiry) → expiry ≤ now)
      (owner : ω) (expiry : τ) (reported : Bool) :
      Step s (.acquire owner expiry reported) ⟨some (owner, expiry), now⟩
  | extend {s : Register ω τ} {now stored : τ} {owner : ω} (later : s.clock ≤ now)
      (held : s.holder = some (owner, stored)) (unexpired : now < stored) (expiry : τ) :
      Step s (.extend owner expiry) ⟨some (owner, expiry), now⟩
  | release {s : Register ω τ} {now stored : τ} {owner : ω} (later : s.clock ≤ now)
      (held : s.holder = some (owner, stored)) : Step s (.release owner) ⟨none, now⟩
  | idle {s : Register ω τ} {now : τ} (later : s.clock ≤ now) : Step s .idle ⟨s.holder, now⟩

/-- What `party` knows after a move. -/
def learn [DecidableEq ω] (party : ω) (known : Option τ) : Move ω τ → Option τ
  | .acquire owner expiry reported => if reported ∧ owner = party then some expiry else known
  | .extend owner expiry => if owner = party then some expiry else known
  | .release owner => if owner = party then none else known
  | .idle => known

variable [LinearOrder τ] {s t : Register ω τ} {known : ω → Option τ}

/-- What is known is expired or true. -/
def Known (known : ω → Option τ) (s : Register ω τ) : Prop :=
  ∀ party expiry, known party = some expiry → expiry ≤ s.clock ∨ s.holder = some (party, expiry)

theorem Known.step [DecidableEq ω] {move : Move ω τ} (before : Known known s)
    (step : Step s move t) : Known (fun party => learn party (known party) move) t := by
  intro party expiry knows
  cases step with
  | @acquire now later free owner granted reported =>
      simp only [learn] at knows
      split at knows
      · rename_i told
        cases knows
        exact .inr (by rw [told.2])
      · rcases before party expiry knows with expired | held
        · exact .inl (le_trans expired later)
        · exact .inl (free party expiry held)
  | @extend now stored owner later held unexpired granted =>
      simp only [learn] at knows
      split at knows
      · rename_i told
        cases knows
        exact .inr (by rw [told])
      · rename_i other
        rcases before party expiry knows with expired | held'
        · exact .inl (le_trans expired later)
        · rw [held, Option.some.injEq, Prod.mk.injEq] at held'
          exact absurd held'.1 other
  | @release now stored owner later held =>
      simp only [learn] at knows
      split at knows
      · cases knows
      · rename_i other
        rcases before party expiry knows with expired | held'
        · exact .inl (le_trans expired later)
        · rw [held, Option.some.injEq, Prod.mk.injEq] at held'
          exact absurd held'.1 other
  | idle later =>
      rcases before party expiry knows with expired | held
      · exact .inl (le_trans expired later)
      · exact .inr held

/-- An unexpired lease somebody knows of is the one the register holds. -/
theorem Known.held {party : ω} {instant expiry : τ} (holds : Known known s)
    (later : s.clock ≤ instant) (knows : known party = some expiry) (unexpired : instant < expiry) :
    s.holder = some (party, expiry) := by
  rcases holds party expiry knows with expired | held
  · exact absurd (lt_of_le_of_lt later unexpired) (not_lt.2 expired)
  · exact held

/-- **Leases are exclusive.**  Two parties that know of unexpired leases are the same. -/
theorem Known.exclusive {first second : ω} {instant expiry expiry' : τ} (holds : Known known s)
    (later : s.clock ≤ instant) (knows : known first = some expiry) (unexpired : instant < expiry)
    (knows' : known second = some expiry') (unexpired' : instant < expiry') : first = second := by
  have held := holds.held later knows unexpired
  have held' := holds.held later knows' unexpired'
  rw [held, Option.some.injEq, Prod.mk.injEq] at held'
  exact held'.1

end MediaBooster.Theory.Lease
