/-
# Theory.Loops -- a loop that may fail, and why it ends

`run test body fuel` goes round a `while` loop at most `fuel` times and gives `none` where that
was not enough.  A body that takes some measure down on every round needs no more fuel than the
measure (`exists_run`), and more changes nothing (`run_mono`).  What one round preserves the
whole loop preserves (`run_ok`).
-/
import Mathlib.Order.Basic

namespace MediaBooster.Theory.Loops

set_option autoImplicit false

variable {σ ε : Type} {test : σ → Bool} {body : σ → Except ε σ}

/-- `while test { body }`, with an error leaving the loop. -/
def run (test : σ → Bool) (body : σ → Except ε σ) : Nat → σ → Option (Except ε σ)
  | 0, _ => none
  | fuel + 1, s =>
      if test s then
        match body s with
        | .error error => some (.error error)
        | .ok next => run test body fuel next
      else some (.ok s)

theorem run_stop {s : σ} (ends : test s = false) (fuel : Nat) :
    run test body (fuel + 1) s = some (.ok s) := by
  simp [run, ends]

theorem run_error {s : σ} {error : ε} (goes : test s = true) (fails : body s = .error error)
    (fuel : Nat) : run test body (fuel + 1) s = some (.error error) := by
  simp [run, goes, fails]

theorem run_next {s next : σ} (goes : test s = true) (turns : body s = .ok next) (fuel : Nat) :
    run test body (fuel + 1) s = run test body fuel next := by
  simp [run, goes, turns]

/-- More fuel changes nothing where some was enough. -/
theorem run_mono {outcome : Except ε σ} (extra : Nat) : ∀ fuel s,
    run test body fuel s = some outcome → run test body (fuel + extra) s = some outcome := by
  intro fuel
  induction fuel with
  | zero =>
      intro s ran
      cases ran
  | succ fuel ih =>
      intro s ran
      rw [Nat.succ_add]
      by_cases goes : test s = true
      · cases result : body s with
        | error error =>
            rw [run_error goes result] at ran ⊢
            exact ran
        | ok next =>
            rw [run_next goes result] at ran ⊢
            exact ih next ran
      · rw [run_stop (by simpa using goes)] at ran ⊢
        exact ran

/-- **A loop whose rounds take a measure down ends**, with no more rounds than the measure. -/
theorem exists_run {Keeps : σ → Prop} (measure : σ → Nat)
    (keeps : ∀ s next, Keeps s → test s = true → body s = .ok next → Keeps next)
    (falls : ∀ s next, Keeps s → test s = true → body s = .ok next → measure next < measure s) :
    ∀ fuel s, Keeps s → measure s < fuel → ∃ outcome, run test body fuel s = some outcome := by
  intro fuel
  induction fuel with
  | zero =>
      intro s _ enough
      omega
  | succ fuel ih =>
      intro s kept enough
      by_cases goes : test s = true
      · cases result : body s with
        | error error => exact ⟨_, run_error goes result fuel⟩
        | ok next =>
            have lower := falls s next kept goes result
            rw [run_next goes result]
            exact ih next (keeps s next kept goes result) (by omega)
      · exact ⟨_, run_stop (by simpa using goes) fuel⟩

/-- **What every round keeps holds at the end**, where the test fails. -/
theorem run_ok {Keeps : σ → Prop}
    (keeps : ∀ s next, Keeps s → test s = true → body s = .ok next → Keeps next) :
    ∀ fuel s last, Keeps s → run test body fuel s = some (.ok last) →
      Keeps last ∧ test last = false := by
  intro fuel
  induction fuel with
  | zero =>
      intro s last _ ran
      cases ran
  | succ fuel ih =>
      intro s last kept ran
      by_cases goes : test s = true
      · cases result : body s with
        | error error =>
            rw [run_error goes result] at ran
            cases ran
        | ok next =>
            rw [run_next goes result] at ran
            exact ih next last (keeps s next kept goes result) ran
      · have ends : test s = false := by simpa using goes
        rw [run_stop ends] at ran
        cases ran
        exact ⟨kept, ends⟩

/-- An error of the loop is the error of one of its rounds. -/
theorem run_error_of {Keeps : σ → Prop}
    (keeps : ∀ s next, Keeps s → test s = true → body s = .ok next → Keeps next) {error : ε} :
    ∀ fuel s, Keeps s → run test body fuel s = some (.error error) →
      ∃ at_, Keeps at_ ∧ test at_ = true ∧ body at_ = .error error := by
  intro fuel
  induction fuel with
  | zero =>
      intro s _ ran
      cases ran
  | succ fuel ih =>
      intro s kept ran
      by_cases goes : test s = true
      · cases result : body s with
        | error found =>
            rw [run_error goes result] at ran
            cases ran
            exact ⟨s, kept, goes, result⟩
        | ok next =>
            rw [run_next goes result] at ran
            exact ih next (keeps s next kept goes result) ran
      · rw [run_stop (by simpa using goes)] at ran
        cases ran

end MediaBooster.Theory.Loops
