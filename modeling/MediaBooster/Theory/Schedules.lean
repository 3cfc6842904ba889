/-
# Theory.Schedules -- runs of a machine, computed

A `Responder` answers requests and takes outside events by computing, where it can; what it
answers the machine allows.  A schedule is a list of commands: start a call, let a thread have
so many exchanges, cut one off, let an event happen.  `play` computes where a schedule leads,
and `play_runs` turns the computation into a run of the machine.

A thread's program is kept beside its thread (`Stage`), so that nothing has to be replayed.
-/
import MediaBooster.Theory.Threads

namespace MediaBooster.Theory.Threads

set_option autoImplicit false

open MediaBooster.Theory.Run

variable {Ask : Type} {Answer : Ask → Type} {ν κ σ : Type}

/-- Answers to requests and moves of the shared state, computed. -/
structure Responder (M : Machine Answer ν κ σ) where
  respond : σ → (request : Ask) → Option (Answer request × σ)
  allowed : ∀ s request answer t, respond s request = some (answer, t) → M.answers s request answer t
  occur : σ → κ → Option σ
  moves : ∀ s event t, occur s event = some t → M.moves s event t

/-- One command of a schedule. -/
inductive Command (ν κ : Type)
  | start (call : ν)
  | run (thread exchanges : Nat)
  | crash (thread : Nat)
  | happen (event : κ)

/-- A state with the program every thread stands at. -/
structure Stage (Answer : Ask → Type) (ν σ : Type) where
  state : State Answer ν σ
  programs : List (Program Answer Unit)

/-- Every thread stands where the stage says. -/
structure Stage.Stands (M : Machine Answer ν κ σ) (stage : Stage Answer ν σ) : Prop where
  lengths : stage.programs.length = stage.state.threads.length
  stood : ∀ (i : Nat) (thread : Thread Answer ν) (program : Program Answer Unit),
    stage.state.threads[i]? = some thread → stage.programs[i]? = some program →
      At (M.program thread.call) thread.past program

/-- Nothing is left to ask. -/
def Program.isDone {α : Type} : Program Answer α → Bool
  | .done _ => true
  | .ask _ _ => false

/-- Where every program is done, no thread runs. -/
theorem Stage.Stands.idle {M : Machine Answer ν κ σ} {stage : Stage Answer ν σ}
    (stands : stage.Stands M) (done : stage.programs.all Program.isDone = true) (i : Nat) :
    ¬ stage.state.Running M i := by
  rintro ⟨thread, request, next, there, -, asks⟩
  have inside : i < stage.programs.length := by
    rw [stands.lengths]
    exact (List.getElem?_eq_some_iff.1 there).1
  have standing := List.getElem?_eq_getElem inside
  have ended := List.all_eq_true.1 done _ (List.getElem_mem inside)
  rw [← At.unique asks (stands.stood i thread _ there standing)] at ended
  cases ended

namespace Responder

variable {M : Machine Answer ν κ σ} (responder : Responder M)
variable (meets : State Answer ν σ → Label Answer ν κ → Bool)

/-- Thread `i` has its next exchange. -/
def exchange (i : Nat) (stage : Stage Answer ν σ) : Option (Stage Answer ν σ) :=
  match stage.state.threads[i]?, stage.programs[i]? with
  | some thread, some (.ask request next) =>
      match responder.respond stage.state.shared request with
      | none => none
      | some (answer, shared) =>
          if !thread.crashed && meets stage.state (.asked i ⟨request, answer⟩) then
            some ⟨stage.state.answered i ⟨request, answer⟩ shared, stage.programs.set i (next answer)⟩
          else none
  | _, _ => none

/-- Thread `i` has so many exchanges. -/
def exchanges (i : Nat) : Nat → Stage Answer ν σ → Option (Stage Answer ν σ)
  | 0, stage => some stage
  | count + 1, stage =>
      match responder.exchange meets i stage with
      | none => none
      | some next => exchanges i count next

/-- Carry a command out. -/
def perform (stage : Stage Answer ν σ) : Command ν κ → Option (Stage Answer ν σ)
  | .start call =>
      if meets stage.state (.started call) then
        some ⟨stage.state.started call, stage.programs ++ [M.program call]⟩
      else none
  | .run i count => responder.exchanges meets i count stage
  | .crash i =>
      if meets stage.state (.crashed i) then some ⟨stage.state.cutOff i, stage.programs⟩ else none
  | .happen event =>
      match responder.occur stage.state.shared event with
      | none => none
      | some shared =>
          if meets stage.state (.moved event) then
            some ⟨stage.state.moved shared, stage.programs⟩
          else none

/-- Carry the commands of a schedule out. -/
def performAll : List (Command ν κ) → Stage Answer ν σ → Option (Stage Answer ν σ)
  | [], stage => some stage
  | command :: commands, stage =>
      match responder.perform meets stage command with
      | none => none
      | some next => performAll commands next

/-- The state a schedule leads to from `shared`, before any call. -/
def play (shared : σ) (commands : List (Command ν κ)) : Option (State Answer ν σ) :=
  (responder.performAll meets commands ⟨.initial shared, []⟩).map Stage.state

section Soundness

variable {responder} {meets} {stage next : Stage Answer ν σ} {i : Nat}

/-- The steps a schedule takes. -/
abbrev MeetingStep (M : Machine Answer ν κ σ) (meets : State Answer ν σ → Label Answer ν κ → Bool) :=
  Guarded M.Step fun s label => meets s label = true

theorem exchange_runs (stands : stage.Stands M)
    (led : responder.exchange meets i stage = some next) :
    next.Stands M ∧ ∃ label, MeetingStep M meets stage.state label next.state := by
  unfold exchange at led
  split at led
  · rename_i thread request following there standing
    split at led
    · cases led
    rename_i answer shared responded
    split at led
    · rename_i allowed
      cases led
      rw [Bool.and_eq_true, Bool.not_eq_true'] at allowed
      have stood := stands.stood i thread _ there standing
      refine ⟨⟨by simpa [State.answered] using stands.lengths, ?_⟩,
        _, .asked there allowed.1 stood (responder.allowed _ _ _ _ responded), allowed.2⟩
      intro j other program there' standing'
      by_cases mine : i = j
      · subst mine
        rw [State.answered_threads_self there] at there'
        cases there'
        obtain ⟨inside, -⟩ := List.getElem?_eq_some_iff.1 standing
        rw [List.getElem?_set_self inside] at standing'
        cases standing'
        exact stood.heard answer
      · rw [State.answered_threads_of_ne mine] at there'
        rw [List.getElem?_set_ne mine] at standing'
        exact stands.stood j other program there' standing'
    · cases led
  · cases led

theorem exchanges_runs {count : Nat} (stands : stage.Stands M)
    (led : responder.exchanges meets i count stage = some next) :
    next.Stands M ∧ ∃ labels, Trace (MeetingStep M meets) stage.state labels next.state := by
  induction count generalizing stage with
  | zero =>
      cases led
      exact ⟨stands, [], .nil _⟩
  | succ count ih =>
      unfold exchanges at led
      split at led
      · cases led
      · rename_i middle first
        obtain ⟨stands, label, step⟩ := exchange_runs stands first
        obtain ⟨stands, labels, run⟩ := ih stands led
        exact ⟨stands, label :: labels, .cons step run⟩

theorem perform_runs {command : Command ν κ} (stands : stage.Stands M)
    (led : responder.perform meets stage command = some next) :
    next.Stands M ∧ ∃ labels, Trace (MeetingStep M meets) stage.state labels next.state := by
  cases command with
  | start call =>
      rw [perform] at led
      split at led
      · rename_i allowed
        cases led
        refine ⟨⟨by simpa [State.started] using stands.lengths, ?_⟩,
          _, Trace.single ⟨.started call, allowed⟩⟩
        intro i thread program there standing
        rw [List.getElem?_append] at standing
        obtain old | ⟨last, rfl⟩ := State.started_threads_cases there
        · obtain ⟨inside, -⟩ := List.getElem?_eq_some_iff.1 old
          rw [if_pos (stands.lengths ▸ inside)] at standing
          exact stands.stood i thread program old standing
        · rw [if_neg (by have := stands.lengths; omega), last, stands.lengths, Nat.sub_self] at standing
          cases standing
          exact .start
      · cases led
  | run i count => exact exchanges_runs stands led
  | crash i =>
      rw [perform] at led
      split at led
      · rename_i allowed
        cases led
        refine ⟨⟨by simpa [State.cutOff] using stands.lengths, ?_⟩,
          _, Trace.single ⟨.crashed i, allowed⟩⟩
        intro j thread program there standing
        by_cases mine : i = j
        · subst mine
          rw [State.cutOff, List.getElem?_modify_eq] at there
          obtain ⟨before, old, rfl⟩ := Option.map_eq_some_iff.1 there
          exact stands.stood i before program old standing
        · rw [State.cutOff_threads_of_ne mine] at there
          exact stands.stood j thread program there standing
      · cases led
  | happen event =>
      rw [perform] at led
      split at led
      · cases led
      · rename_i shared occurred
        split at led
        · rename_i allowed
          cases led
          exact ⟨⟨stands.lengths, stands.stood⟩,
            _, Trace.single ⟨.moved (responder.moves _ _ _ occurred), allowed⟩⟩
        · cases led

theorem performAll_runs {commands : List (Command ν κ)} (stands : stage.Stands M)
    (led : responder.performAll meets commands stage = some next) :
    next.Stands M ∧ ∃ labels, Trace (MeetingStep M meets) stage.state labels next.state := by
  induction commands generalizing stage with
  | nil =>
      cases led
      exact ⟨stands, [], .nil _⟩
  | cons command commands ih =>
      unfold performAll at led
      split at led
      · cases led
      · rename_i middle first
        obtain ⟨stands, labels, run⟩ := perform_runs stands first
        obtain ⟨stands, labels', run'⟩ := ih stands led
        exact ⟨stands, labels ++ labels', run.append run'⟩

/-- **What a schedule computes is a run.** -/
theorem play_runs {shared : σ} {commands : List (Command ν κ)} {s : State Answer ν σ}
    (played : responder.play meets shared commands = some s) :
    ∃ labels, Trace (MeetingStep M meets) (.initial shared) labels s := by
  obtain ⟨stage, led, rfl⟩ := Option.map_eq_some_iff.1 played
  exact (performAll_runs ⟨rfl, fun _ _ _ there => by simp [State.initial] at there⟩ led).2

end Soundness

end Responder

end MediaBooster.Theory.Threads
