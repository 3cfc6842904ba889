/-
# Theory.Run -- runs of a labelled transition system

A `Trace Step` is a finite run: the labels of its steps in order, from one state
to another.  `Trace.keeps` is the induction every invariant of a run uses;
`Trace.split` and `Trace.append` cut and join runs, so that a fact about two
events of a run is a fact about the run between them.

A condition on the steps of a run is a smaller step relation (`Guarded`): a run
of `Guarded Step guard` is a run whose every step is taken where `guard` holds.
`runAll` plays a step that can be executed, and `Trace.of_runAll` makes a run of it.
-/
import Mathlib.Order.Defs.Unbundled

namespace MediaBooster.Theory.Run

set_option autoImplicit false

universe u v

variable {σ : Type u} {ι : Type v}

/-- A run from one state to another, with the labels of its steps in order. -/
inductive Trace (Step : σ → ι → σ → Prop) : σ → List ι → σ → Prop
  | nil (s : σ) : Trace Step s [] s
  | cons {s t w : σ} {label : ι} {labels : List ι} (step : Step s label t)
      (rest : Trace Step t labels w) : Trace Step s (label :: labels) w

/-- The steps taken where `guard` holds. -/
def Guarded (Step : σ → ι → σ → Prop) (guard : σ → ι → Prop) (s : σ) (label : ι) (t : σ) : Prop :=
  Step s label t ∧ guard s label

/-- Run an executable step over a list of labels. -/
def runAll (step : σ → ι → Option σ) : σ → List ι → Option σ
  | s, [] => some s
  | s, label :: labels =>
      match step s label with
      | some t => runAll step t labels
      | none => none

namespace Trace

variable {Step Other : σ → ι → σ → Prop}

theorem single {s t : σ} {label : ι} (step : Step s label t) : Trace Step s [label] t :=
  .cons step (.nil t)

theorem append {s t w : σ} {labels labels' : List ι} (first : Trace Step s labels t)
    (second : Trace Step t labels' w) : Trace Step s (labels ++ labels') w := by
  induction first with
  | nil => exact second
  | cons step _ ih => exact .cons step (ih second)

theorem split {s w : σ} {labels labels' : List ι} (run : Trace Step s (labels ++ labels') w) :
    ∃ t, Trace Step s labels t ∧ Trace Step t labels' w := by
  induction labels generalizing s with
  | nil => exact ⟨s, .nil s, run⟩
  | cons label labels ih =>
      cases run with
      | cons step rest =>
          obtain ⟨t, first, second⟩ := ih rest
          exact ⟨t, .cons step first, second⟩

/-- Cut a run at one of its steps. -/
theorem split_cons {s w : σ} {labels labels' : List ι} {label : ι}
    (run : Trace Step s (labels ++ label :: labels') w) :
    ∃ t t', Trace Step s labels t ∧ Step t label t' ∧ Trace Step t' labels' w := by
  obtain ⟨t, first, second⟩ := run.split
  cases second with
  | cons step rest => exact ⟨t, _, first, step, rest⟩

/-- Every label of a run is the label of one of its steps. -/
theorem step_of_mem {s t : σ} {labels : List ι} (run : Trace Step s labels t) {label : ι}
    (member : label ∈ labels) : ∃ before after, Step before label after := by
  induction run with
  | nil => cases member
  | @cons before after _ _ _ step _ ih =>
      rcases List.mem_cons.1 member with rfl | later
      · exact ⟨before, after, step⟩
      · exact ih later

theorem mono {s t : σ} {labels : List ι} (run : Trace Step s labels t)
    (weaker : ∀ s label t, Step s label t → Other s label t) : Trace Other s labels t := by
  induction run with
  | nil => exact .nil _
  | cons step _ ih => exact .cons (weaker _ _ _ step) ih

/-- **Invariants of runs.**  What every step keeps, every run keeps. -/
theorem keeps {P : σ → Prop} (step : ∀ s label t, Step s label t → P s → P t)
    {s t : σ} {labels : List ι} (run : Trace Step s labels t) (holds : P s) : P t := by
  induction run with
  | nil => exact holds
  | cons taken _ ih => exact ih (step _ _ _ taken holds)

/-- **Histories of runs.**  What every step keeps about the labels so far, every run keeps. -/
theorem accrues {P : List ι → σ → Prop}
    (step : ∀ past s label t, Step s label t → P past s → P (past ++ [label]) t)
    {s t : σ} {labels past : List ι} (run : Trace Step s labels t) (holds : P past s) :
    P (past ++ labels) t := by
  induction run generalizing past with
  | nil =>
      rw [List.append_nil]
      exact holds
  | cons taken _ ih =>
      rw [List.append_cons]
      exact ih (step _ _ _ _ taken holds)

/-- **Simulation.**  Where every step is a step of another system, under an invariant, every
run is a run of that system. -/
theorem map {τ : Type u} {κ : Type v} {Abstract : τ → κ → τ → Prop} {P : σ → Prop} (state : σ → τ)
    (rename : ι → κ) (step : ∀ s label t, Step s label t → P s → P t)
    (simulates : ∀ s label t, P s → Step s label t → Abstract (state s) (rename label) (state t))
    {s t : σ} {labels : List ι} (run : Trace Step s labels t) (holds : P s) :
    Trace Abstract (state s) (labels.map rename) (state t) := by
  induction run with
  | nil => exact .nil _
  | cons taken _ ih => exact .cons (simulates _ _ _ holds taken) (ih (step _ _ _ taken holds))

/-- What every step relates, every run relates, for a preorder. -/
theorem relates {Rel : σ → σ → Prop} [Std.Refl Rel] [IsTrans σ Rel]
    (step : ∀ s label t, Step s label t → Rel s t)
    {s t : σ} {labels : List ι} (run : Trace Step s labels t) : Rel s t := by
  induction run with
  | nil => exact Std.Refl.refl (r := Rel) _
  | cons taken _ ih => exact IsTrans.trans _ _ _ (step _ _ _ taken) ih

theorem unguarded {guard : σ → ι → Prop} {s t : σ} {labels : List ι}
    (run : Trace (Guarded Step guard) s labels t) : Trace Step s labels t :=
  run.mono fun _ _ _ step => step.1

/-- Where an executable step only does what the steps do, what it plays is a run. -/
theorem of_runAll {step : σ → ι → Option σ}
    (leads : ∀ s label t, step s label = some t → Step s label t) {s t : σ} {labels : List ι}
    (ran : runAll step s labels = some t) : Trace Step s labels t := by
  induction labels generalizing s with
  | nil =>
      cases ran
      exact .nil _
  | cons label labels ih =>
      simp only [runAll] at ran
      split at ran
      · rename_i middle taken
        exact .cons (leads _ _ _ taken) (ih ran)
      · cases ran

end Trace

end MediaBooster.Theory.Run
