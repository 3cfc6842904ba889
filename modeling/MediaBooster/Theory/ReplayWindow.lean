/-
# Theory.ReplayWindow -- remembering keys until they expire

The purpose of a nonce store, apart from how it is stored: a memory of keys with
an expiry each.  An attempt at time `now` first forgets the keys whose expiry has
come; it is admitted when its key is then unknown, and from there on the key is
remembered until the attempt's expiry.  A refused attempt changes nothing.

`readmitted_after_expiry` is the whole guarantee: in a run whose clock never goes
back, a key is admitted a second time only once its expiry has come.  `readmits`
says the guarantee is no stronger than that: at the expiry itself the same key is
admitted again.
-/
import Mathlib.Data.Option.Basic
import Mathlib.Logic.Function.Basic
import Mathlib.Order.Lattice
import MediaBooster.Theory.Run

namespace MediaBooster.Theory.ReplayWindow

set_option autoImplicit false

open MediaBooster.Theory.Run

universe u v

variable {κ : Type u} {τ : Type v} [DecidableEq κ] [LinearOrder τ]

/-- The keys remembered, each with its expiry. -/
abbrev Memory (κ : Type u) (τ : Type v) := κ → Option τ

/-- Forget the keys whose expiry has come. -/
def forget (now : τ) (memory : Memory κ τ) : Memory κ τ :=
  fun key => (memory key).filter fun expiry => decide (now < expiry)

structure Attempt (κ : Type u) (τ : Type v) where
  key : κ
  now : τ
  expiry : τ

/-- One attempt, admitted or refused. -/
inductive Step : Memory κ τ → Attempt κ τ × Bool → Memory κ τ → Prop
  | admitted {memory : Memory κ τ} {attempt : Attempt κ τ}
      (unknown : forget attempt.now memory attempt.key = none) :
      Step memory (attempt, true)
        (Function.update (forget attempt.now memory) attempt.key (some attempt.expiry))
  | refused (memory : Memory κ τ) (attempt : Attempt κ τ) : Step memory (attempt, false) memory

/-- The clock of a run never goes back. -/
def Chronological (labels : List (Attempt κ τ × Bool)) : Prop :=
  labels.Pairwise fun earlier later => earlier.1.now ≤ later.1.now

omit [DecidableEq κ] in
theorem forget_of_lt {memory : Memory κ τ} {key : κ} {now expiry : τ}
    (known : memory key = some expiry) (early : now < expiry) :
    forget now memory key = some expiry := by
  simp [forget, known, Option.filter, early]

omit [DecidableEq κ] in
theorem forget_of_le {memory : Memory κ τ} {key : κ} {now expiry : τ}
    (known : memory key = some expiry) (late : expiry ≤ now) : forget now memory key = none := by
  simp [forget, known, Option.filter, not_lt.2 late]

/-- Before its expiry a remembered key stays remembered and is not admitted. -/
theorem Step.remembers {memory memory' : Memory κ τ} {label : Attempt κ τ × Bool} {key : κ}
    {expiry : τ} (step : Step memory label memory') (known : memory key = some expiry)
    (early : label.1.now < expiry) :
    memory' key = some expiry ∧ (label.2 = true → label.1.key ≠ key) := by
  cases step with
  | @admitted attempt unknown =>
      have kept : forget attempt.now memory key = some expiry := forget_of_lt known early
      have apart : attempt.key ≠ key := by
        rintro rfl
        rw [unknown] at kept
        cases kept
      refine ⟨?_, fun _ => apart⟩
      rw [Function.update_of_ne apart.symm, kept]
  | refused => exact ⟨known, fun admitted => by cases admitted⟩

/-- An admitted key is remembered until its expiry. -/
theorem Step.stores {memory memory' : Memory κ τ} {attempt : Attempt κ τ}
    (step : Step memory (attempt, true) memory') : memory' attempt.key = some attempt.expiry := by
  cases step
  exact Function.update_self ..

/-- From the moment a key is remembered, it is not admitted before its expiry. -/
theorem refused_until_expiry {memory memory' : Memory κ τ} {labels : List (Attempt κ τ × Bool)}
    {key : κ} {expiry : τ} (run : Trace Step memory labels memory')
    (chronological : Chronological labels) (known : memory key = some expiry) :
    ∀ label ∈ labels, label.2 = true → label.1.key = key → expiry ≤ label.1.now := by
  induction run with
  | nil =>
      intro label member
      cases member
  | @cons _ _ _ head rest step _ ih =>
      obtain ⟨headFirst, chronologicalRest⟩ := List.pairwise_cons.1 chronological
      intro label member admitted same
      by_cases early : head.1.now < expiry
      · obtain ⟨kept, apart⟩ := step.remembers known early
        rcases List.mem_cons.1 member with rfl | later
        · exact absurd same (apart admitted)
        · exact ih chronologicalRest kept label later admitted same
      · have late : expiry ≤ head.1.now := not_lt.1 early
        rcases List.mem_cons.1 member with rfl | later
        · exact late
        · exact le_trans late (headFirst label later)

/-- **A key is admitted again only once its expiry has come.** -/
theorem readmitted_after_expiry {memory memory' : Memory κ τ}
    {labels : List (Attempt κ τ × Bool)} (run : Trace Step memory labels memory')
    (chronological : Chronological labels) :
    labels.Pairwise fun first second => first.2 = true → second.2 = true →
      first.1.key = second.1.key → first.1.expiry ≤ second.1.now := by
  induction run with
  | nil => exact List.Pairwise.nil
  | @cons _ _ _ head rest step run ih =>
      obtain ⟨_, chronologicalRest⟩ := List.pairwise_cons.1 chronological
      refine List.pairwise_cons.2 ⟨?_, ih chronologicalRest⟩
      intro second member firstAdmitted secondAdmitted same
      obtain ⟨attempt, admitted⟩ := head
      subst firstAdmitted
      exact refused_until_expiry run chronologicalRest step.stores second member secondAdmitted
        same.symm

/-- At its expiry a remembered key is admitted again. -/
theorem readmits {memory : Memory κ τ} {attempt : Attempt κ τ} {expiry : τ}
    (known : memory attempt.key = some expiry) (late : expiry ≤ attempt.now) :
    Step memory (attempt, true)
      (Function.update (forget attempt.now memory) attempt.key (some attempt.expiry)) :=
  .admitted (forget_of_le known late)

end MediaBooster.Theory.ReplayWindow
