/-
# Theory.Threads -- programs that ask, and the runs of many of them

A `Program` asks for one thing after another and goes on with the answers; what an
answer may be, and what asking does to the shared state, is not its business.  A
`Machine` gives the meaning: which answers a request can get in a shared state, and
what else can happen there.

A state of a machine is the shared state and its threads.  A thread is a call with the
exchanges it has had so far (`At` says where its program stands then), and it may
crash between any two of them.  Threads stay in the state when they have ended.

`Follows` is what a proof about threads is made of: every request of a program stands in
a relation to the exchanges before it, whatever the answers were.  It is about the
program alone and follows its syntax (`follows_bind`, `follows_only`); `Machine.Step.obeys`
carries it to every step of every run, where the exchanges before a request are the past
of its thread (`Machine.Step.past`).
-/
import Mathlib.Logic.Relation
import MediaBooster.Theory.Run

namespace MediaBooster.Theory.Threads

set_option autoImplicit false

open MediaBooster.Theory.Run

variable {Ask : Type} {Answer : Ask → Type} {α β ε δ : Type}

/-! ## Programs -/

/-- A program that asks, and goes on with the answer. -/
inductive Program (Answer : Ask → Type) (α : Type)
  | done (result : α)
  | ask (request : Ask) (next : Answer request → Program Answer α)

namespace Program

/-- Go on with the result. -/
def bind : Program Answer α → (α → Program Answer β) → Program Answer β
  | .done result, next => next result
  | .ask request rest, next => .ask request fun answer => (rest answer).bind next

instance : Monad (Program Answer) where
  pure := .done
  bind := bind

/-- Ask once. -/
def request (request : Ask) : Program Answer (Answer request) := .ask request .done

@[simp] theorem done_bind (result : α) (next : α → Program Answer β) :
    (Program.done result).bind next = next result := rfl

@[simp] theorem ask_bind (request : Ask) (rest : Answer request → Program Answer α)
    (next : α → Program Answer β) :
    (Program.ask request rest).bind next = .ask request fun answer => (rest answer).bind next := rfl

@[simp] theorem pure_eq (result : α) : (pure result : Program Answer α) = .done result := rfl

@[simp] theorem bind_eq (program : Program Answer α) (next : α → Program Answer β) :
    program >>= next = program.bind next := rfl

/-- The program without its result. -/
def discard (program : Program Answer α) : Program Answer Unit := program.bind fun _ => .done ()

/-- Every request the program can come to is `allowed`. -/
def Only (allowed : Ask → Prop) : Program Answer α → Prop
  | .done _ => True
  | .ask request next => allowed request ∧ ∀ answer, (next answer).Only allowed

theorem Only.bind {allowed : Ask → Prop} {program : Program Answer α}
    {next : α → Program Answer β} (first : program.Only allowed)
    (rest : ∀ result, (next result).Only allowed) : (program.bind next).Only allowed := by
  induction program with
  | done result => exact rest result
  | ask request following ih => exact ⟨first.1, fun answer => ih answer (first.2 answer)⟩

theorem Only.mono {allowed wider : Ask → Prop} {program : Program Answer α}
    (only : program.Only allowed) (implies : ∀ request, allowed request → wider request) :
    program.Only wider := by
  induction program with
  | done => trivial
  | ask request next ih =>
      exact ⟨implies request only.1, fun answer => ih answer (only.2 answer)⟩

end Program

/-! ## Programs that may fail -/

/-- A program that ends with an `α` or with an error. -/
def Attempt (Answer : Ask → Type) (ε α : Type) := Program Answer (Except ε α)

namespace Attempt

/-- The program of the attempt, which ends with the outcome. -/
def attempt (attempt : Attempt Answer ε α) : Program Answer (Except ε α) := attempt

/-- A program that ends with an outcome. -/
def ofProgram (program : Program Answer (Except ε α)) : Attempt Answer ε α := program

/-- Go on with the value, or stop at the error. -/
def settle (next : α → Attempt Answer ε β) : Except ε α → Program Answer (Except ε β)
  | .ok value => (next value).attempt
  | .error e => .done (.error e)

instance : Monad (Attempt Answer ε) where
  pure value := ofProgram (.done (.ok value))
  bind attempt next := ofProgram (attempt.attempt.bind (settle next))

/-- Stop with an error. -/
def fail (error : ε) : Attempt Answer ε α := ofProgram (.done (.error error))

/-- Stop with `error` unless `condition` holds. -/
def ensure (condition : Bool) (error : ε) : Attempt Answer ε Unit :=
  if condition then pure () else fail error

/-- The value of an option, or stop with `error`. -/
def okOr (value : Option α) (error : ε) : Attempt Answer ε α :=
  match value with
  | some a => pure a
  | none => fail error

/-- A checked value, or stop with its error. -/
def ofExcept (checked : Except ε α) : Attempt Answer ε α := ofProgram (.done checked)

/-- A program that cannot fail. -/
def lift (program : Program Answer α) : Attempt Answer ε α :=
  ofProgram (program.bind fun a => .done (.ok a))

/-- The same attempt with its errors mapped. -/
def mapError (f : δ → ε) (attempt : Attempt Answer δ α) : Attempt Answer ε α :=
  ofProgram (attempt.attempt.bind fun result => .done (result.mapError f))

@[simp] theorem attempt_ofProgram (program : Program Answer (Except ε α)) :
    (ofProgram program).attempt = program := rfl

@[simp] theorem attempt_pure (value : α) :
    (pure value : Attempt Answer ε α).attempt = .done (.ok value) := rfl

@[simp] theorem attempt_bind (first : Attempt Answer ε α) (next : α → Attempt Answer ε β) :
    (first >>= next).attempt = first.attempt.bind (settle next) := rfl

@[simp] theorem settle_ok (next : α → Attempt Answer ε β) (value : α) :
    settle next (.ok value) = (next value).attempt := rfl

@[simp] theorem settle_error (next : α → Attempt Answer ε β) (error : ε) :
    settle next (.error error) = .done (.error error) := rfl

@[simp] theorem attempt_fail (error : ε) :
    (fail error : Attempt Answer ε α).attempt = .done (.error error) := rfl

@[simp] theorem attempt_ensure (condition : Bool) (error : ε) :
    (ensure condition error : Attempt Answer ε Unit).attempt =
      .done (if condition then .ok () else .error error) := by
  cases condition <;> rfl

@[simp] theorem attempt_okOr (value : Option α) (error : ε) :
    (okOr value error : Attempt Answer ε α).attempt = .done (value.elim (.error error) .ok) := by
  cases value <;> rfl

@[simp] theorem attempt_ofExcept (checked : Except ε α) :
    (ofExcept checked : Attempt Answer ε α).attempt = .done checked := rfl

@[simp] theorem attempt_lift (program : Program Answer α) :
    (lift program : Attempt Answer ε α).attempt = program.bind fun a => .done (.ok a) := rfl

@[simp] theorem attempt_mapError (f : δ → ε) (first : Attempt Answer δ α) :
    (mapError f first).attempt = first.attempt.bind fun result => .done (result.mapError f) := rfl

/-- Every request the attempt can come to is `allowed`. -/
def Only (allowed : Ask → Prop) (attempt : Attempt Answer ε α) : Prop :=
  attempt.attempt.Only allowed

section Only

variable {allowed : Ask → Prop}

theorem only_pure (value : α) : (pure value : Attempt Answer ε α).Only allowed := trivial

theorem only_fail (error : ε) : (fail error : Attempt Answer ε α).Only allowed := trivial

theorem only_ensure (condition : Bool) (error : ε) :
    (ensure condition error : Attempt Answer ε Unit).Only allowed := by
  unfold Only
  rw [attempt_ensure]
  trivial

theorem only_okOr (value : Option α) (error : ε) :
    (okOr value error : Attempt Answer ε α).Only allowed := by
  unfold Only
  rw [attempt_okOr]
  trivial

theorem only_ofExcept (checked : Except ε α) :
    (ofExcept checked : Attempt Answer ε α).Only allowed := trivial

theorem only_bind {first : Attempt Answer ε α} {next : α → Attempt Answer ε β}
    (before : first.Only allowed) (rest : ∀ value, (next value).Only allowed) :
    (first >>= next).Only allowed := by
  refine Program.Only.bind before fun result => ?_
  cases result with
  | ok value => exact rest value
  | error => trivial

theorem only_mapError {f : δ → ε} {first : Attempt Answer δ α} (only : first.Only allowed) :
    (mapError f first).Only allowed := Program.Only.bind only fun _ => trivial

theorem only_lift {program : Program Answer α} (only : program.Only allowed) :
    (lift program : Attempt Answer ε α).Only allowed := Program.Only.bind only fun _ => trivial

theorem Only.mono {wider : Ask → Prop} {first : Attempt Answer ε α} (only : first.Only allowed)
    (implies : ∀ request, allowed request → wider request) : first.Only wider :=
  Program.Only.mono only implies

end Only

end Attempt

/-! ## Fixed answers -/

/-- The result of a program whose requests are answered from a table. -/
def Program.replay (reply : (request : Ask) → Answer request) : Program Answer α → α
  | .done result => result
  | .ask request next => (next (reply request)).replay reply

section Replay

variable {reply : (request : Ask) → Answer request}

@[simp] theorem Program.replay_done (result : α) :
    (Program.done result : Program Answer α).replay reply = result := rfl

@[simp] theorem Program.replay_request (request : Ask) :
    (Program.request request).replay reply = reply request := rfl

@[simp] theorem Program.replay_bind (program : Program Answer α) (next : α → Program Answer β) :
    (program.bind next).replay reply = (next (program.replay reply)).replay reply := by
  induction program with
  | done => rfl
  | ask request rest ih => exact ih (reply request)

end Replay

/-! ## Runs of one program -/

/-- A request with its answer. -/
abbrev Exchange (Answer : Ask → Type) := (request : Ask) × Answer request

/-- After the exchanges `past`, `program` stands at `rest`. -/
inductive At (program : Program Answer α) : List (Exchange Answer) → Program Answer α → Prop
  | start : At program [] program
  | heard {past : List (Exchange Answer)} {request : Ask}
      {next : Answer request → Program Answer α} (before : At program past (.ask request next))
      (answer : Answer request) : At program (past ++ [⟨request, answer⟩]) (next answer)

/-- What stood before the last exchange. -/
theorem At.of_heard {program rest : Program Answer α} {past : List (Exchange Answer)}
    {exchange : Exchange Answer} (heard : At program (past ++ [exchange]) rest) :
    ∃ next, At program past (.ask exchange.1 next) ∧ rest = next exchange.2 := by
  generalize shape : past ++ [exchange] = whole at heard
  cases heard with
  | start => exact absurd shape (List.append_ne_nil_of_right_ne_nil past (List.cons_ne_nil _ _))
  | @heard before request next stood answer =>
      obtain ⟨rfl, same⟩ := List.append_inj' shape rfl
      cases same
      exact ⟨next, stood, rfl⟩

/-- The exchanges so far say where a program stands. -/
theorem At.unique {program a b : Program Answer α} {past : List (Exchange Answer)}
    (stands : At program past a) (stands' : At program past b) : a = b := by
  induction stands generalizing b with
  | start =>
      generalize shape : ([] : List (Exchange Answer)) = past at stands'
      cases stands' with
      | start => rfl
      | heard before answer => exact absurd shape.symm (List.append_ne_nil_of_right_ne_nil _ (by simp))
  | heard before answer ih =>
      obtain ⟨next, stood, rfl⟩ := stands'.of_heard
      cases ih stood
      rfl

/-- A program that has ended stands where it ended. -/
theorem at_done {result : α} {past : List (Exchange Answer)} {rest : Program Answer α} :
    At (.done result) past rest ↔ past = [] ∧ rest = .done result := by
  constructor
  · intro stands
    induction stands with
    | start => exact ⟨rfl, rfl⟩
    | heard before answer ih => cases ih.2
  · rintro ⟨rfl, rfl⟩
    exact .start

/-- Where a program that asks stands: at its request, or where what follows the answer does. -/
theorem at_ask {request : Ask} {next : Answer request → Program Answer α}
    {past : List (Exchange Answer)} {rest : Program Answer α} :
    At (.ask request next) past rest ↔ (past = [] ∧ rest = .ask request next) ∨
      ∃ answer more, past = ⟨request, answer⟩ :: more ∧ At (next answer) more rest := by
  constructor
  · intro stands
    induction stands with
    | start => exact .inl ⟨rfl, rfl⟩
    | heard before answer ih =>
        obtain ⟨rfl, same⟩ | ⟨first, more, rfl, later⟩ := ih
        · cases same
          exact .inr ⟨answer, [], rfl, .start⟩
        · exact .inr ⟨first, more ++ [⟨_, answer⟩], rfl, .heard later answer⟩
  · rintro (⟨rfl, rfl⟩ | ⟨answer, more, rfl, later⟩)
    · exact .start
    · induction later with
      | start => exact .heard .start answer
      | heard before following ih => exact .heard ih following

/-- Where a program without its result stands, the program stands. -/
theorem At.of_discard {program : Program Answer α} {past : List (Exchange Answer)}
    {rest : Program Answer Unit} (stands : At program.discard past rest) :
    ∃ before, At program past before ∧ rest = before.discard := by
  induction stands with
  | start => exact ⟨program, .start, rfl⟩
  | heard before answer ih =>
      obtain ⟨standing, reached, same⟩ := ih
      cases standing with
      | done result => cases same
      | ask request following =>
          cases same
          exact ⟨following answer, .heard reached answer, rfl⟩

variable {σ : Type}

/-- An undisturbed run of a program: only its own exchanges move the shared state. -/
inductive Ran (answers : σ → (request : Ask) → Answer request → σ → Prop) :
    Program Answer α → σ → α → σ → Prop
  | done {result : α} {s : σ} : Ran answers (.done result) s result s
  | ask {request : Ask} {next : Answer request → Program Answer α} {answer : Answer request}
      {s t u : σ} {result : α} (answered : answers s request answer t)
      (rest : Ran answers (next answer) t result u) : Ran answers (.ask request next) s result u

section Ran

variable {answers : σ → (request : Ask) → Answer request → σ → Prop}

theorem ran_done {result outcome : α} {s t : σ} :
    Ran answers (.done result) s outcome t ↔ outcome = result ∧ t = s := by
  constructor
  · rintro ⟨⟩
    exact ⟨rfl, rfl⟩
  · rintro ⟨rfl, rfl⟩
    exact .done

theorem ran_ask {request : Ask} {next : Answer request → Program Answer α} {outcome : α} {s u : σ} :
    Ran answers (.ask request next) s outcome u ↔
      ∃ answer t, answers s request answer t ∧ Ran answers (next answer) t outcome u := by
  constructor
  · rintro ⟨⟩
    exact ⟨_, _, ‹_›, ‹_›⟩
  · rintro ⟨answer, t, answered, rest⟩
    exact .ask answered rest

theorem ran_bind {program : Program Answer α} {next : α → Program Answer β} {outcome : β} {s u : σ} :
    Ran answers (program.bind next) s outcome u ↔
      ∃ result t, Ran answers program s result t ∧ Ran answers (next result) t outcome u := by
  induction program generalizing s with
  | done result =>
      simp only [Program.done_bind, ran_done]
      constructor
      · exact fun ran => ⟨result, s, ⟨rfl, rfl⟩, ran⟩
      · rintro ⟨_, _, ⟨rfl, rfl⟩, ran⟩
        exact ran
  | ask request rest ih =>
      simp only [Program.ask_bind, ran_ask, ih]
      constructor
      · rintro ⟨answer, t, answered, result, u', first, second⟩
        exact ⟨result, u', ⟨answer, t, answered, first⟩, second⟩
      · rintro ⟨result, u', ⟨answer, t, answered, first⟩, second⟩
        exact ⟨answer, t, answered, result, u', first, second⟩

end Ran

/-! ## Machines -/

/-- A call with the exchanges it has had, and whether it was cut off. -/
structure Thread (Answer : Ask → Type) (ν : Type) where
  call : ν
  past : List (Exchange Answer)
  crashed : Bool

/-- The shared state and every thread there has been. -/
structure State (Answer : Ask → Type) (ν σ : Type) where
  shared : σ
  threads : List (Thread Answer ν)

/-- What happens: a call comes in, a thread is answered, a thread is cut off, or
something outside the threads moves the shared state. -/
inductive Label (Answer : Ask → Type) (ν κ : Type)
  | started (call : ν)
  | asked (thread : Nat) (exchange : Exchange Answer)
  | crashed (thread : Nat)
  | moved (event : κ)

/-- The meaning of requests, calls and outside events over a shared state. -/
structure Machine (Answer : Ask → Type) (ν κ σ : Type) where
  program : ν → Program Answer Unit
  answers : σ → (request : Ask) → Answer request → σ → Prop
  moves : σ → κ → σ → Prop

variable {ν κ : Type}

namespace Label

/-- The thread a label is about. -/
def actor : Label Answer ν κ → Option Nat
  | .asked thread _ | .crashed thread => some thread
  | .started _ | .moved _ => none

end Label

namespace State

/-- Thread `i` has heard one more answer, which left `shared`. -/
def answered (s : State Answer ν σ) (i : Nat) (exchange : Exchange Answer) (shared : σ) :
    State Answer ν σ where
  shared := shared
  threads := s.threads.modify i fun thread =>
    { thread with past := thread.past ++ [exchange] }

/-- Thread `i` is cut off. -/
def cutOff (s : State Answer ν σ) (i : Nat) : State Answer ν σ where
  shared := s.shared
  threads := s.threads.modify i fun thread => { thread with crashed := true }

/-- A call comes in. -/
def started (s : State Answer ν σ) (call : ν) : State Answer ν σ where
  shared := s.shared
  threads := s.threads ++ [⟨call, [], false⟩]

/-- Something else leaves `shared`. -/
def moved (s : State Answer ν σ) (shared : σ) : State Answer ν σ := { s with shared := shared }

end State

section Machines

variable (M : Machine Answer ν κ σ)

/-- One step of the machine. -/
inductive Machine.Step : State Answer ν σ → Label Answer ν κ → State Answer ν σ → Prop
  | started {s : State Answer ν σ} (call : ν) : Step s (.started call) (s.started call)
  | asked {s : State Answer ν σ} {i : Nat} {thread : Thread Answer ν} {request : Ask}
      {next : Answer request → Program Answer Unit} {answer : Answer request} {shared : σ}
      (there : s.threads[i]? = some thread) (alive : thread.crashed = false)
      (stands : At (M.program thread.call) thread.past (.ask request next))
      (answered : M.answers s.shared request answer shared) :
      Step s (.asked i ⟨request, answer⟩) (s.answered i ⟨request, answer⟩ shared)
  | crashed {s : State Answer ν σ} (i : Nat) : Step s (.crashed i) (s.cutOff i)
  | moved {s : State Answer ν σ} {event : κ} {shared : σ}
      (moves : M.moves s.shared event shared) : Step s (.moved event) (s.moved shared)

/-- The state before any call. -/
def State.initial (shared : σ) : State Answer ν σ := ⟨shared, []⟩

end Machines

/-! ## Threads of a step -/

section Threads

variable {s t : State Answer ν σ} {i j : Nat}

theorem State.answered_threads_of_ne {exchange : Exchange Answer} {shared : σ} (other : j ≠ i) :
    (s.answered j exchange shared).threads[i]? = s.threads[i]? := by
  simp [State.answered, other]

theorem State.answered_threads_self {thread : Thread Answer ν} {exchange : Exchange Answer}
    {shared : σ} (there : s.threads[i]? = some thread) :
    (s.answered i exchange shared).threads[i]? =
      some { thread with past := thread.past ++ [exchange] } := by
  simp [State.answered, there]

theorem State.cutOff_threads_of_ne (other : j ≠ i) :
    (s.cutOff j).threads[i]? = s.threads[i]? := by
  simp [State.cutOff, other]

theorem State.started_threads {call : ν} {thread : Thread Answer ν}
    (there : s.threads[i]? = some thread) : (s.started call).threads[i]? = some thread := by
  obtain ⟨inside, -⟩ := List.getElem?_eq_some_iff.1 there
  rw [State.started, List.getElem?_append_left inside]
  exact there

/-- The threads of a state after one call more came in. -/
theorem State.started_threads_cases {call : ν} {thread : Thread Answer ν}
    (there : (s.started call).threads[i]? = some thread) :
    s.threads[i]? = some thread ∨ (i = s.threads.length ∧ thread = ⟨call, [], false⟩) := by
  rw [State.started, List.getElem?_append] at there
  split at there
  · exact .inl there
  · rename_i outside
    right
    rw [List.getElem?_singleton] at there
    split at there
    · rename_i last
      refine ⟨by omega, ?_⟩
      cases there
      rfl
    · cases there

/-- A thread moves with its own steps only. -/
theorem Machine.Step.others {M : Machine Answer ν κ σ} {label : Label Answer ν κ}
    {thread : Thread Answer ν} (step : M.Step s label t) (other : label.actor ≠ some i)
    (there : s.threads[i]? = some thread) : t.threads[i]? = some thread := by
  cases step with
  | started call => exact State.started_threads there
  | asked =>
      rw [State.answered_threads_of_ne fun same => other (congrArg some same)]
      exact there
  | crashed j =>
      rw [State.cutOff_threads_of_ne fun same => other (congrArg some same)]
      exact there
  | moved => exact there

end Threads

/-! ## Histories -/

section Histories

namespace State

/-- The exchanges thread `i` has had. -/
def past (s : State Answer ν σ) (i : Nat) : List (Exchange Answer) :=
  (s.threads[i]?).elim [] Thread.past

/-- The call of thread `i`. -/
def call (s : State Answer ν σ) (i : Nat) : Option ν := (s.threads[i]?).map Thread.call

/-- Thread `i` is there, is not cut off, and has something left to ask. -/
def Running (M : Machine Answer ν κ σ) (s : State Answer ν σ) (i : Nat) : Prop :=
  ∃ thread request next, s.threads[i]? = some thread ∧ thread.crashed = false ∧
    At (M.program thread.call) thread.past (.ask request next)

/-- Thread `i` is not cut off, and `request` is what it asks for next. -/
def Next (M : Machine Answer ν κ σ) (s : State Answer ν σ) (i : Nat) (request : Ask) : Prop :=
  ∃ thread next, s.threads[i]? = some thread ∧ thread.crashed = false ∧
    At (M.program thread.call) thread.past (.ask request next)

/-- Thread `i` is not cut off, and may still come to ask for `request`. -/
def May (M : Machine Answer ν κ σ) (s : State Answer ν σ) (i : Nat) (request : Ask) : Prop :=
  ∃ thread rest, s.threads[i]? = some thread ∧ thread.crashed = false ∧
    At (M.program thread.call) thread.past rest ∧ ¬ rest.Only fun asked => asked ≠ request

end State

/-- What thread `i` hears in a step. -/
def Label.heard : Label Answer ν κ → Nat → List (Exchange Answer)
  | .asked j exchange, i => if j = i then [exchange] else []
  | _, _ => []

/-- A thread hears nothing or one exchange of its own. -/
theorem Label.heard_eq (label : Label Answer ν κ) (i : Nat) :
    label.heard i = [] ∨ ∃ exchange, label = .asked i exchange := by
  cases label with
  | asked j exchange =>
      by_cases same : j = i
      · subst same
        exact .inr ⟨exchange, rfl⟩
      · exact .inl (if_neg same)
  | started => exact .inl rfl
  | crashed => exact .inl rfl
  | moved => exact .inl rfl

variable {M : Machine Answer ν κ σ} {s t : State Answer ν σ} {label : Label Answer ν κ} {i : Nat}

@[simp] theorem State.past_initial (shared : σ) :
    (State.initial shared : State Answer ν σ).past i = [] := rfl

@[simp] theorem State.call_initial (shared : σ) :
    (State.initial shared : State Answer ν σ).call i = none := rfl

/-- **Pasts grow by what is heard.** -/
theorem Machine.Step.past (step : M.Step s label t) (i : Nat) :
    t.past i = s.past i ++ label.heard i := by
  cases step with
  | started call =>
      show (State.started s call).past i = _
      unfold State.past State.started Label.heard
      rw [List.append_nil, List.getElem?_append]
      split
      · rfl
      · rename_i outside
        rw [List.getElem?_eq_none (Nat.le_of_not_lt outside), List.getElem?_singleton]
        split <;> rfl
  | @asked j thread request next answer shared there alive stands answered =>
      by_cases same : j = i
      · subst same
        show (State.answered s j _ shared).past j = _
        unfold State.past
        rw [State.answered_threads_self there, there]
        simp [Label.heard]
      · show (State.answered s j _ shared).past i = _
        unfold State.past
        rw [State.answered_threads_of_ne same]
        simp [Label.heard, same]
  | crashed j =>
      show (State.cutOff s j).past i = _
      unfold State.past State.cutOff Label.heard
      rw [List.append_nil, List.getElem?_modify]
      cases s.threads[i]? with
      | none => rfl
      | some thread =>
          by_cases same : j = i
          · simp [same]
          · simp [same]
  | moved => exact (List.append_nil _).symm

/-- A thread keeps its call. -/
theorem Machine.Step.call (step : M.Step s label t) {call : ν} (called : s.call i = some call) :
    t.call i = some call := by
  obtain ⟨thread, there, rfl⟩ := Option.map_eq_some_iff.1 called
  cases step with
  | started call =>
      show Option.map _ ((State.started s call).threads[i]?) = _
      rw [State.started_threads there]
      rfl
  | @asked j _ _ _ _ shared moverThere =>
      show Option.map _ ((State.answered s j _ shared).threads[i]?) = _
      by_cases same : j = i
      · subst same
        rw [State.answered_threads_self there]
        rfl
      · rw [State.answered_threads_of_ne same, there]
        rfl
  | crashed j =>
      show Option.map _ ((State.cutOff s j).threads[i]?) = _
      by_cases same : j = i
      · subst same
        simp [State.cutOff, there]
      · rw [State.cutOff_threads_of_ne same, there]
        rfl
  | moved => exact called

/-- A call is there after a step if it was before, or has just come in. -/
theorem Machine.Step.call_cases (step : M.Step s label t) {call : ν}
    (called : t.call i = some call) :
    s.call i = some call ∨ (label = .started call ∧ s.past i = []) := by
  obtain ⟨thread, there, rfl⟩ := Option.map_eq_some_iff.1 called
  unfold State.call
  cases step with
  | started call =>
      obtain old | ⟨last, rfl⟩ := State.started_threads_cases there
      · exact .inl (congrArg (Option.map Thread.call) old)
      · refine .inr ⟨rfl, ?_⟩
        unfold State.past
        rw [List.getElem?_eq_none (Nat.le_of_eq last.symm)]
        rfl
  | @asked j mover _ _ _ _ moverThere =>
      left
      by_cases same : j = i
      · subst same
        rw [State.answered_threads_self moverThere] at there
        cases there
        rw [moverThere]
        rfl
      · rw [State.answered_threads_of_ne same] at there
        rw [there]
        rfl
  | crashed j =>
      left
      by_cases same : j = i
      · subst same
        rw [State.cutOff, List.getElem?_modify_eq] at there
        obtain ⟨before, known, rfl⟩ := Option.map_eq_some_iff.1 there
        rw [known]
        rfl
      · rw [State.cutOff_threads_of_ne same] at there
        rw [there]
        rfl
  | moved => exact .inl (congrArg (Option.map Thread.call) there)

/-- What stands behind an exchange of a step. -/
structure Asked (M : Machine Answer ν κ σ) (s : State Answer ν σ) (i : Nat)
    (exchange : Exchange Answer) (calls : ν) (next : Answer exchange.1 → Program Answer Unit)
    (t : State Answer ν σ) : Prop where
  call : s.call i = some calls
  stands : At (M.program calls) (s.past i) (.ask exchange.1 next)
  running : s.Running M i
  answered : M.answers s.shared exchange.1 exchange.2 t.shared

theorem Machine.Step.asked_cases {exchange : Exchange Answer}
    (step : M.Step s (.asked i exchange) t) : ∃ call next, Asked M s i exchange call next t := by
  cases step with
  | @asked _ thread request next answer shared there alive stands answered =>
      have past : s.past i = thread.past := by
        unfold State.past
        rw [there]
        rfl
      refine ⟨thread.call, next, ⟨?_, ?_, ⟨thread, request, next, there, alive, stands⟩, answered⟩⟩
      · unfold State.call
        rw [there]
        rfl
      · rw [past]
        exact stands

/-- Only exchanges and outside events move the shared state. -/
theorem Machine.Step.shared_cases (step : M.Step s label t) :
    (∃ i exchange, label = .asked i exchange ∧
        M.answers s.shared exchange.1 exchange.2 t.shared) ∨
      (∃ event, label = .moved event ∧ M.moves s.shared event t.shared) ∨
      (t.shared = s.shared ∧ ∀ i, label.heard i = []) := by
  cases step with
  | started call => exact .inr (.inr ⟨rfl, fun _ => rfl⟩)
  | asked there alive stands answered => exact .inl ⟨_, _, rfl, answered⟩
  | crashed j => exact .inr (.inr ⟨rfl, fun _ => rfl⟩)
  | moved moves => exact .inr (.inl ⟨_, rfl, moves⟩)

/-- What a thread has heard, it has heard for good. -/
theorem Machine.Step.heard (step : M.Step s label t) {exchange : Exchange Answer}
    (heard : exchange ∈ s.past i) : exchange ∈ t.past i := by
  rw [step.past]
  exact List.mem_append_left _ heard

/-- What a thread has heard after a step, it had heard before or heard in it. -/
theorem Machine.Step.heard_cases (step : M.Step s label t) {exchange : Exchange Answer}
    (heard : exchange ∈ t.past i) : exchange ∈ s.past i ∨ label = .asked i exchange := by
  rw [step.past, List.mem_append] at heard
  refine heard.imp_right fun new => ?_
  obtain quiet | ⟨other, rfl⟩ := label.heard_eq i
  · rw [quiet] at new
    cases new
  · rw [Label.heard, if_pos rfl, List.mem_singleton] at new
    rw [new]

/-- **What a thread has heard in a run, it heard at a step of it**, or had heard before. -/
theorem heard_in_run {labels : List (Label Answer ν κ)} (run : Trace M.Step s labels t)
    {exchange : Exchange Answer} (heard : exchange ∈ t.past i) :
    exchange ∈ s.past i ∨ ∃ earlier later before after,
      labels = earlier ++ .asked i exchange :: later ∧ Trace M.Step s earlier before ∧
        M.Step before (.asked i exchange) after ∧ Trace M.Step after later t := by
  induction run with
  | nil => exact .inl heard
  | @cons s middle t label labels step rest ih =>
      obtain known | ⟨earlier, later, before, after, rfl, first, asked, last⟩ := ih heard
      · obtain old | rfl := step.heard_cases known
        · exact .inl old
        · exact .inr ⟨[], labels, s, middle, rfl, .nil s, step, rest⟩
      · exact .inr ⟨label :: earlier, later, before, after, rfl, .cons step first, asked, last⟩

/-- **What threads have heard stays true** when steps keep it and what is heard is true. -/
theorem Machine.Step.learns {P : State Answer ν σ → Exchange Answer → Prop}
    (step : M.Step s label t) (known : ∀ i exchange, exchange ∈ s.past i → P s exchange)
    (keeps : ∀ exchange, P s exchange → P t exchange)
    (learned : ∀ i exchange, label = .asked i exchange → P t exchange) :
    ∀ i exchange, exchange ∈ t.past i → P t exchange := by
  intro i exchange heard
  obtain old | new := step.heard_cases heard
  · exact keeps exchange (known i exchange old)
  · exact learned i exchange new

/-- A thread that is running after a step was running before it, or has just started. -/
theorem Machine.Step.running (step : M.Step s label t) (running : t.Running M i) :
    s.Running M i ∨ ∃ call, label = .started call ∧ i = s.threads.length ∧ s.past i = [] := by
  obtain ⟨thread, request, next, there, alive, stands⟩ := running
  cases step with
  | started call =>
      obtain old | ⟨last, -⟩ := State.started_threads_cases there
      · exact .inl ⟨thread, request, next, old, alive, stands⟩
      · refine .inr ⟨call, rfl, last, ?_⟩
        unfold State.past
        rw [List.getElem?_eq_none (Nat.le_of_eq last.symm)]
        rfl
  | @asked j mover asked following answer shared moverThere moverAlive moverStands answered =>
      left
      by_cases same : j = i
      · subst same
        exact ⟨mover, asked, following, moverThere, moverAlive, moverStands⟩
      · rw [State.answered_threads_of_ne same] at there
        exact ⟨thread, request, next, there, alive, stands⟩
  | crashed j =>
      left
      by_cases same : j = i
      · subst same
        rw [State.cutOff, List.getElem?_modify_eq] at there
        obtain ⟨before, -, rfl⟩ := Option.map_eq_some_iff.1 there
        cases alive
      · rw [State.cutOff_threads_of_ne same] at there
        exact ⟨thread, request, next, there, alive, stands⟩
  | moved moves => exact .inl ⟨thread, request, next, there, alive, stands⟩

/-- What a thread is about to ask for, it may ask for. -/
theorem State.Next.may {request : Ask} (next : s.Next M i request) : s.May M i request := by
  obtain ⟨thread, following, there, alive, stands⟩ := next
  exact ⟨thread, _, there, alive, stands, fun only => only.1 rfl⟩

/-- A thread asks for one thing at a time. -/
theorem State.Next.unique {a b : Ask} (next : s.Next M i a) (other : s.Next M i b) : a = b := by
  obtain ⟨thread, following, there, -, stands⟩ := next
  obtain ⟨thread', following', there', -, stands'⟩ := other
  rw [there] at there'
  cases there'
  cases At.unique stands stands'
  rfl

/-- What a thread is answered, it was about to ask for. -/
theorem Machine.Step.next {exchange : Exchange Answer} (step : M.Step s (.asked i exchange) t) :
    s.Next M i exchange.1 := by
  cases step with
  | asked there alive stands answered => exact ⟨_, _, there, alive, stands⟩

/-- What a thread is about to ask for does not change with the steps of others. -/
theorem State.Next.kept {request : Ask} (next : s.Next M i request) (step : M.Step s label t)
    (other : label.actor ≠ some i) : t.Next M i request := by
  obtain ⟨thread, following, there, alive, stands⟩ := next
  exact ⟨thread, following, step.others other there, alive, stands⟩

/-- A thread that is there and not cut off after a step was so before it, and what has it asked
since; or it has just started. -/
theorem Machine.Step.alive_cases (step : M.Step s label t) {thread : Thread Answer ν}
    (there : t.threads[i]? = some thread) (alive : thread.crashed = false) :
    s.threads[i]? = some thread ∨
      (∃ mover request next answer, label = .asked i ⟨request, answer⟩ ∧
        s.threads[i]? = some mover ∧ mover.crashed = false ∧
        At (M.program mover.call) mover.past (.ask request next) ∧
        thread = { mover with past := mover.past ++ [⟨request, answer⟩] }) ∨
      ∃ call, label = .started call ∧ thread = ⟨call, [], false⟩ := by
  cases step with
  | started call =>
      obtain old | ⟨-, rfl⟩ := State.started_threads_cases there
      · exact .inl old
      · exact .inr (.inr ⟨call, rfl, rfl⟩)
  | @asked j mover asked following answer shared moverThere moverAlive moverStands answered =>
      by_cases same : j = i
      · subst same
        rw [State.answered_threads_self moverThere] at there
        exact .inr (.inl ⟨mover, asked, following, answer, rfl, moverThere, moverAlive, moverStands,
          (Option.some.inj there).symm⟩)
      · rw [State.answered_threads_of_ne same] at there
        exact .inl there
  | crashed j =>
      by_cases same : j = i
      · subst same
        rw [State.cutOff, List.getElem?_modify_eq] at there
        obtain ⟨before, -, rfl⟩ := Option.map_eq_some_iff.1 there
        cases alive
      · rw [State.cutOff_threads_of_ne same] at there
        exact .inl there
  | moved moves => exact .inl there

theorem State.past_of_thread {thread : Thread Answer ν} (there : s.threads[i]? = some thread) :
    s.past i = thread.past := by
  unfold State.past
  rw [there]
  rfl

/-- What a thread is about to ask for after a step, it was about to ask for before it, unless it
has just been answered or has just started. -/
theorem Machine.Step.next_cases (step : M.Step s label t) {request : Ask}
    (next : t.Next M i request) : s.Next M i request ∨ (∃ exchange, label = .asked i exchange) ∨
      t.past i = [] := by
  obtain ⟨thread, following, there, alive, stands⟩ := next
  obtain old | ⟨mover, asked, _, answer, rfl, -⟩ | ⟨call, -, rfl⟩ := step.alive_cases there alive
  · exact .inl ⟨thread, following, old, alive, stands⟩
  · exact .inr (.inl ⟨_, rfl⟩)
  · exact .inr (.inr (State.past_of_thread there))

/-- What a thread may ask for after a step, it might before it, unless it has just started. -/
theorem Machine.Step.may_cases (step : M.Step s label t) {request : Ask}
    (may : t.May M i request) : s.May M i request ∨ t.past i = [] := by
  obtain ⟨thread, rest, there, alive, stands, comes⟩ := may
  obtain old | ⟨mover, asked, next, answer, rfl, moverThere, moverAlive, moverStands, rfl⟩ |
    ⟨call, -, rfl⟩ := step.alive_cases there alive
  · exact .inl ⟨thread, rest, old, alive, stands, comes⟩
  · refine .inl ⟨mover, _, moverThere, moverAlive, moverStands, fun only => comes ?_⟩
    obtain rfl := At.unique stands (moverStands.heard answer)
    exact only.2 answer
  · exact .inr (State.past_of_thread there)

/-- Every thread stands somewhere in its program. -/
def State.Stands (M : Machine Answer ν κ σ) (s : State Answer ν σ) : Prop :=
  ∀ i call, s.call i = some call → ∃ rest, At (M.program call) (s.past i) rest

/-- The thread was cut off. -/
def State.Crashed (s : State Answer ν σ) (i : Nat) : Prop :=
  ∃ thread, s.threads[i]? = some thread ∧ thread.crashed = true

theorem Machine.Step.stands (step : M.Step s label t) (stands : s.Stands M) : t.Stands M := by
  intro i call called
  rw [step.past]
  obtain old | ⟨rfl, fresh⟩ := step.call_cases called
  · obtain quiet | ⟨exchange, rfl⟩ := label.heard_eq i
    · rw [quiet, List.append_nil]
      exact stands i call old
    · obtain ⟨other, next, asked⟩ := step.asked_cases
      obtain rfl := Option.some.inj (old.symm.trans asked.call)
      rw [Label.heard, if_pos rfl]
      exact ⟨next exchange.2, .heard asked.stands exchange.2⟩
  · rw [fresh]
    exact ⟨_, .start⟩

theorem Machine.Step.crashed_cases (step : M.Step s label t) (crashed : t.Crashed i) :
    s.Crashed i ∨ label = .crashed i := by
  obtain ⟨thread, there, cut⟩ := crashed
  cases step with
  | started call =>
      obtain old | ⟨-, rfl⟩ := State.started_threads_cases there
      · exact .inl ⟨thread, old, cut⟩
      · cases cut
  | @asked j _ _ _ _ shared moverThere alive =>
      left
      by_cases same : j = i
      · subst same
        rw [State.answered_threads_self moverThere] at there
        cases there
        exact absurd cut (by simp [alive])
      · rw [State.answered_threads_of_ne same] at there
        exact ⟨thread, there, cut⟩
  | crashed j =>
      by_cases same : j = i
      · exact .inr (same ▸ rfl)
      · rw [State.cutOff_threads_of_ne same] at there
        exact .inl ⟨thread, there, cut⟩
  | moved => exact .inl ⟨thread, there, cut⟩

/-- A thread that neither runs nor was cut off has ended. -/
theorem State.Stands.ended (stands : s.Stands M) {call : ν} (called : s.call i = some call)
    (whole : ¬ s.Crashed i) (idle : ¬ s.Running M i) :
    At (M.program call) (s.past i) (.done ()) := by
  obtain ⟨rest, stood⟩ := stands i call called
  cases rest with
  | done => exact stood
  | ask request next =>
      obtain ⟨thread, there, rfl⟩ := Option.map_eq_some_iff.1 called
      have past : s.past i = thread.past := by
        unfold State.past
        rw [there]
        rfl
      rw [past] at stood
      cases alive : thread.crashed with
      | true => exact absurd ⟨thread, there, alive⟩ whole
      | false => exact absurd ⟨thread, request, next, there, alive, stood⟩ idle

/-- A thread that has ended does not run. -/
theorem State.not_running {call : ν} (called : s.call i = some call)
    (ended : At (M.program call) (s.past i) (.done ())) : ¬ s.Running M i := by
  rintro ⟨thread, request, next, there, -, stands⟩
  have known : s.call i = some thread.call := by
    unfold State.call
    rw [there]
    rfl
  have past : s.past i = thread.past := by
    unfold State.past
    rw [there]
    rfl
  obtain rfl := Option.some.inj (called.symm.trans known)
  rw [past] at ended
  cases At.unique ended stands

end Histories

/-! ## What a past keeps to -/

section Keeping

variable {allowed : List (Exchange Answer) → Exchange Answer → Prop}
variable {past : List (Exchange Answer)}

/-- Every exchange of the past is allowed after those before it. -/
def Kept (allowed : List (Exchange Answer) → Exchange Answer → Prop)
    (past : List (Exchange Answer)) : Prop :=
  ∀ before exchange after, past = before ++ exchange :: after → allowed before exchange

theorem kept_nil : Kept allowed [] := by
  intro before exchange after same
  cases before <;> cases same

theorem Kept.of_append {more : List (Exchange Answer)} (kept : Kept allowed (past ++ more)) :
    Kept allowed past := by
  rintro before exchange after rfl
  exact kept before exchange (after ++ more) (by simp)

theorem Kept.last {exchange : Exchange Answer} (kept : Kept allowed (past ++ [exchange])) :
    allowed past exchange := kept past exchange [] rfl

theorem Kept.append {exchange : Exchange Answer} (kept : Kept allowed past)
    (next : allowed past exchange) : Kept allowed (past ++ [exchange]) := by
  intro before other after same
  obtain rfl | ⟨last, rest, rfl⟩ := after.eq_nil_or_concat
  · obtain ⟨rfl, one⟩ := List.append_inj' same rfl
    rw [← List.singleton_inj.1 one]
    exact next
  · refine kept before other last ?_
    have split : past ++ [exchange] = (before ++ other :: last) ++ [rest] := by
      rw [same]
      simp
    exact (List.append_inj' split rfl).1

/-- **Threads keep to what every step of theirs is allowed.** -/
theorem Machine.Step.kept {M : Machine Answer ν κ σ} {s t : State Answer ν σ}
    {label : Label Answer ν κ} {allowed : ν → List (Exchange Answer) → Exchange Answer → Prop}
    (step : M.Step s label t)
    (kept : ∀ i call, s.call i = some call → Kept (allowed call) (s.past i))
    (next : ∀ i exchange call, label = .asked i exchange → s.call i = some call →
      allowed call (s.past i) exchange) :
    ∀ i call, t.call i = some call → Kept (allowed call) (t.past i) := by
  intro i call called
  rw [step.past]
  obtain old | ⟨rfl, fresh⟩ := step.call_cases called
  · obtain quiet | ⟨exchange, rfl⟩ := label.heard_eq i
    · rw [quiet, List.append_nil]
      exact kept i call old
    · rw [Label.heard, if_pos rfl]
      exact (kept i call old).append (next i exchange call rfl old)
  · rw [fresh]
    exact kept_nil

end Keeping

/-! ## Counting exchanges -/

section Tallies

/-- The exchange of a step. -/
def Label.exchange : Label Answer ν κ → Option (Exchange Answer)
  | .asked _ exchange => some exchange
  | _ => none

/-- How many exchanges of the threads are `counted`. -/
def State.tally (counted : Exchange Answer → Bool) (s : State Answer ν σ) : Nat :=
  (s.threads.flatMap Thread.past).countP counted

variable {counted : Exchange Answer → Bool}

@[simp] theorem State.tally_initial (shared : σ) :
    (State.initial shared : State Answer ν σ).tally counted = 0 := rfl

theorem tally_heard {threads : List (Thread Answer ν)} {i : Nat} {thread : Thread Answer ν}
    (there : threads[i]? = some thread) (exchange : Exchange Answer) :
    ((threads.modify i fun thread => { thread with past := thread.past ++ [exchange] }).flatMap
        Thread.past).countP counted =
      (threads.flatMap Thread.past).countP counted + (counted exchange).toNat := by
  induction threads generalizing i with
  | nil => cases there
  | cons first rest ih =>
      cases i with
      | zero =>
          rw [List.modify_zero_cons, List.flatMap_cons, List.flatMap_cons, List.countP_append,
            List.countP_append, List.countP_append, List.countP_singleton]
          cases counted exchange <;> simp
          omega
      | succ i =>
          rw [List.modify_succ_cons, List.flatMap_cons, List.flatMap_cons, List.countP_append,
            List.countP_append, ih there, Nat.add_assoc]

/-- **A step adds its own exchange to a tally.** -/
theorem Machine.Step.tally {M : Machine Answer ν κ σ} {s t : State Answer ν σ}
    {label : Label Answer ν κ} (step : M.Step s label t) :
    t.tally counted = s.tally counted + (label.exchange.any counted).toNat := by
  cases step with
  | started call =>
      show ((s.started call).threads.flatMap Thread.past).countP counted = _
      rw [State.started, List.flatMap_append, List.countP_append]
      rfl
  | asked there => exact tally_heard there _
  | crashed i =>
      show ((s.threads.modify i _).flatMap Thread.past).countP counted = _
      have same : ∀ threads : List (Thread Answer ν), ∀ i,
          (threads.modify i fun thread => { thread with crashed := true }).flatMap Thread.past =
            threads.flatMap Thread.past := by
        intro threads
        induction threads with
        | nil => exact fun _ => by simp
        | cons first rest ih =>
            intro i
            cases i with
            | zero => rfl
            | succ i => rw [List.modify_succ_cons, List.flatMap_cons, List.flatMap_cons, ih]
      rw [same]
      rfl
  | moved => rfl

end Tallies

/-! ## What a program has done before it asks -/

/-- After the exchanges `past`, every request of the program is as the `rule` asks of
the exchanges before it, and `post` holds of the exchanges and the result at its end. -/
def Follows (rule : List (Exchange Answer) → Ask → Prop)
    (post : List (Exchange Answer) → α → Prop) : List (Exchange Answer) → Program Answer α → Prop
  | past, .done result => post past result
  | past, .ask request next =>
      rule past request ∧ ∀ answer, Follows rule post (past ++ [⟨request, answer⟩]) (next answer)

section Follows

variable {rule : List (Exchange Answer) → Ask → Prop}
variable {post : List (Exchange Answer) → α → Prop} {past : List (Exchange Answer)}

theorem follows_bind {post : List (Exchange Answer) → β → Prop} {program : Program Answer α}
    {next : α → Program Answer β} :
    Follows rule post past (program.bind next) ↔
      Follows rule (fun past result => Follows rule post past (next result)) past program := by
  induction program generalizing past with
  | done result => rfl
  | ask request rest ih =>
      show _ ∧ _ ↔ _ ∧ _
      refine and_congr_right fun _ => forall_congr' fun answer => ?_
      exact ih answer

theorem Follows.weaken {post' : List (Exchange Answer) → α → Prop} {program : Program Answer α}
    (follows : Follows rule post past program)
    (weaker : ∀ past result, post past result → post' past result) :
    Follows rule post' past program := by
  induction program generalizing past with
  | done result => exact weaker past result follows
  | ask request next ih => exact ⟨follows.1, fun answer => ih answer (follows.2 answer)⟩

theorem Follows.relax {rule' : List (Exchange Answer) → Ask → Prop} {program : Program Answer α}
    (follows : Follows rule post past program)
    (weaker : ∀ past request, rule past request → rule' past request) :
    Follows rule' post past program := by
  induction program generalizing past with
  | done result => exact follows
  | ask request next ih =>
      exact ⟨weaker past request follows.1, fun answer => ih answer (follows.2 answer)⟩

/-- A program keeps its rule and its bounds. -/
theorem Follows.restrict {allowed : Ask → Prop} {program : Program Answer α}
    (follows : Follows rule post past program) (only : program.Only allowed) :
    Follows (fun past request => rule past request ∧ allowed request) post past program := by
  induction program generalizing past with
  | done result => exact follows
  | ask request next ih =>
      exact ⟨⟨follows.1, only.1⟩, fun answer => ih answer (follows.2 answer) (only.2 answer)⟩

/-- A past only grows. -/
theorem Follows.adds {program : Program Answer α} (follows : Follows rule post past program) :
    Follows rule (fun past' result => post past' result ∧ ∃ more, past' = past ++ more) past
      program := by
  induction program generalizing past with
  | done result => exact ⟨follows, [], (List.append_nil _).symm⟩
  | ask request next ih =>
      refine ⟨follows.1, fun answer => (ih answer (follows.2 answer)).weaken ?_⟩
      rintro past' result ⟨holds, more, rfl⟩
      exact ⟨holds, _, List.append_assoc ..⟩

/-- What a past grows by is `allowed`. -/
theorem Follows.adds_only {allowed : Ask → Prop} {program : Program Answer α}
    (follows : Follows rule post past program) (only : program.Only allowed) :
    Follows rule (fun past' result => post past' result ∧ ∃ more, past' = past ++ more ∧
      ∀ exchange ∈ more, allowed exchange.1) past program := by
  induction program generalizing past with
  | done result => exact ⟨follows, [], (List.append_nil _).symm, fun _ member => by cases member⟩
  | ask request next ih =>
      refine ⟨follows.1, fun answer => (ih answer (follows.2 answer) (only.2 answer)).weaken ?_⟩
      rintro past' result ⟨holds, more, rfl, within⟩
      refine ⟨holds, _, List.append_assoc .., fun exchange member => ?_⟩
      obtain rfl | later := List.mem_cons.1 member
      · exact only.1
      · exact within exchange later

/-- What a program adds to the past is a course of it. -/
theorem follows_traced (program : Program Answer α) (past : List (Exchange Answer)) :
    Follows (fun _ _ => True)
      (fun past' result => ∃ more, past' = past ++ more ∧ At program more (.done result)) past
      program := by
  induction program generalizing past with
  | done result => exact ⟨[], (List.append_nil _).symm, .start⟩
  | ask request next ih =>
      refine ⟨trivial, fun answer => (ih answer (past ++ [⟨request, answer⟩])).weaken ?_⟩
      rintro _ result ⟨more, rfl, course⟩
      exact ⟨⟨request, answer⟩ :: more, List.append_assoc ..,
        at_ask.2 (.inr ⟨answer, more, rfl, course⟩)⟩

theorem follows_discard {program : Program Answer α}
    (follows : Follows rule (fun _ _ => True) past program) :
    Follows rule (fun _ _ => True) past program.discard :=
  follows_bind.2 follows

/-- A program whose requests are all `allowed` keeps what allowed exchanges keep. -/
theorem follows_only {allowed : Ask → Prop} {K : List (Exchange Answer) → Prop}
    {program : Program Answer α} (only : program.Only allowed)
    (step : ∀ past request answer, K past → allowed request →
      K (past ++ [⟨request, answer⟩]))
    (sound : ∀ past request, K past → allowed request → rule past request)
    (start : K past) : Follows rule (fun past _ => K past) past program := by
  induction program generalizing past with
  | done result => exact start
  | ask request next ih =>
      refine ⟨sound past request start only.1, fun answer => ?_⟩
      exact ih answer (only.2 answer) (step past request answer start only.1)

/-- A program goes on following its rule. -/
theorem Follows.at {first rest : Program Answer α} {exchanges : List (Exchange Answer)}
    (follows : Follows rule post [] first) (stands : At first exchanges rest) :
    Follows rule post exchanges rest := by
  induction stands with
  | start => exact follows
  | heard before answer ih => exact ih.2 answer

/-- Every request of a step obeys the rule of its thread's call. -/
theorem Machine.Step.obeys {M : Machine Answer ν κ σ} {s t : State Answer ν σ} {i : Nat}
    {exchange : Exchange Answer} {rule : ν → List (Exchange Answer) → Ask → Prop}
    {post : ν → List (Exchange Answer) → Unit → Prop}
    (follows : ∀ call, Follows (rule call) (post call) [] (M.program call))
    (step : M.Step s (.asked i exchange) t) :
    ∃ call, s.call i = some call ∧ rule call (s.past i) exchange.1 := by
  obtain ⟨call, next, asked⟩ := step.asked_cases
  exact ⟨call, asked.call, ((follows call).at asked.stands).1⟩

/-- What a thread is about to ask for obeys the rule of its call. -/
theorem State.Next.obeys {M : Machine Answer ν κ σ} {s : State Answer ν σ} {i : Nat} {request : Ask}
    {rule : ν → List (Exchange Answer) → Ask → Prop}
    {post : ν → List (Exchange Answer) → Unit → Prop}
    (follows : ∀ call, Follows (rule call) (post call) [] (M.program call))
    (next : s.Next M i request) : ∃ call, s.call i = some call ∧ rule call (s.past i) request := by
  obtain ⟨thread, following, there, -, stands⟩ := next
  refine ⟨thread.call, ?_, ?_⟩
  · unfold State.call
    rw [there]
    rfl
  · rw [State.past_of_thread there]
    exact ((follows thread.call).at stands).1

end Follows

namespace Attempt

/-- `Follows` of an attempt. -/
def Follows (rule : List (Exchange Answer) → Ask → Prop)
    (post : List (Exchange Answer) → Except ε α → Prop) (past : List (Exchange Answer))
    (attempt : Attempt Answer ε α) : Prop :=
  Threads.Follows rule post past attempt.attempt

section Follows

variable {rule : List (Exchange Answer) → Ask → Prop}
variable {post : List (Exchange Answer) → Except ε α → Prop} {past : List (Exchange Answer)}

theorem follows_pure {value : α} (holds : post past (.ok value)) :
    (pure value : Attempt Answer ε α).Follows rule post past := holds

theorem Follows.weaken {post' : List (Exchange Answer) → Except ε α → Prop}
    {first : Attempt Answer ε α} (follows : first.Follows rule post past)
    (weaker : ∀ past result, post past result → post' past result) :
    first.Follows rule post' past := Threads.Follows.weaken follows weaker

theorem Follows.adds {first : Attempt Answer ε α} (follows : first.Follows rule post past) :
    first.Follows rule (fun past' result => post past' result ∧ ∃ more, past' = past ++ more) past :=
  Threads.Follows.adds follows

theorem Follows.adds_only {allowed : Ask → Prop} {first : Attempt Answer ε α}
    (follows : first.Follows rule post past) (only : first.Only allowed) :
    first.Follows rule (fun past' result => post past' result ∧ ∃ more, past' = past ++ more ∧
      ∀ exchange ∈ more, allowed exchange.1) past :=
  Threads.Follows.adds_only follows only

theorem follows_bind {Q : List (Exchange Answer) → Except ε β → Prop}
    {first : Attempt Answer ε β} {next : β → Attempt Answer ε α}
    (before : first.Follows rule Q past)
    (rest : ∀ past value, Q past (.ok value) → (next value).Follows rule post past)
    (fails : ∀ past error, Q past (.error error) → post past (.error error)) :
    (first >>= next).Follows rule post past := by
  refine Threads.follows_bind.2 (Threads.Follows.weaken before fun past result holds => ?_)
  cases result with
  | ok value => exact rest past value holds
  | error error => exact fails past error holds

theorem follows_ensure {condition : Bool} {error : ε} {next : Unit → Attempt Answer ε α}
    (rest : condition = true → (next ()).Follows rule post past)
    (fails : condition = false → post past (.error error)) :
    (ensure condition error >>= next).Follows rule post past := by
  cases condition with
  | true => exact rest rfl
  | false => exact fails rfl

theorem follows_okOr {value : Option β} {error : ε} {next : β → Attempt Answer ε α}
    (rest : ∀ b, value = some b → (next b).Follows rule post past)
    (fails : value = none → post past (.error error)) :
    (okOr value error >>= next).Follows rule post past := by
  cases value with
  | some b => exact rest b rfl
  | none => exact fails rfl

theorem follows_ofExcept {checked : Except ε β} {next : β → Attempt Answer ε α}
    (rest : ∀ b, checked = .ok b → (next b).Follows rule post past)
    (fails : ∀ error, checked = .error error → post past (.error error)) :
    (ofExcept checked >>= next).Follows rule post past := by
  cases checked with
  | ok b => exact rest b rfl
  | error error => exact fails error rfl

theorem follows_mapError {f : δ → ε} {first : Attempt Answer δ α}
    (follows : first.Follows rule (fun past result => post past (result.mapError f)) past) :
    (mapError f first).Follows rule post past := Threads.follows_bind.2 follows

theorem follows_only {allowed : Ask → Prop} {K : List (Exchange Answer) → Prop}
    {first : Attempt Answer ε α} (only : first.Only allowed)
    (step : ∀ past request answer, K past → allowed request →
      K (past ++ [⟨request, answer⟩]))
    (sound : ∀ past request, K past → allowed request → rule past request)
    (start : K past) : first.Follows rule (fun past _ => K past) past :=
  Threads.follows_only only step sound start

/-- Go on after a program that does not fail. -/
theorem follows_lifted {Q : List (Exchange Answer) → β → Prop} {program : Program Answer β}
    {next : β → Attempt Answer ε α} (before : Threads.Follows rule Q past program)
    (rest : ∀ past value, Q past value → (next value).Follows rule post past) :
    (lift program >>= next).Follows rule post past :=
  Threads.follows_bind.2 (Threads.follows_bind.2 (Threads.Follows.weaken before rest))

/-- An attempt whose requests are all `allowed` only adds allowed exchanges. -/
theorem follows_adds {allowed : Ask → Prop} {first : Attempt Answer ε α}
    (only : first.Only allowed) (sound : ∀ past request, allowed request → rule past request) :
    first.Follows rule (fun past' _ => ∃ more, past' = past ++ more ∧
      ∀ exchange ∈ more, allowed exchange.1) past := by
  refine follows_only only ?_ (fun past request _ => sound past request) ⟨[], by simp⟩
  rintro _ request answer ⟨more, rfl, quiet⟩ permitted
  refine ⟨more ++ [⟨request, answer⟩], List.append_assoc .., fun exchange member => ?_⟩
  obtain old | new := List.mem_append.1 member
  · exact quiet exchange old
  · rw [List.mem_singleton.1 new]
    exact permitted

/-- Go on after an attempt whose requests are all `allowed`. -/
theorem follows_quiet {allowed : Ask → Prop} {first : Attempt Answer ε β}
    {next : β → Attempt Answer ε α} (only : first.Only allowed)
    (sound : ∀ past request, allowed request → rule past request)
    (rest : ∀ more value, (∀ exchange ∈ more, allowed exchange.1) →
      (next value).Follows rule post (past ++ more))
    (fails : ∀ more error, (∀ exchange ∈ more, allowed exchange.1) →
      post (past ++ more) (.error error)) : (first >>= next).Follows rule post past := by
  refine follows_bind (follows_adds only sound) ?_ ?_
  · rintro _ value ⟨more, rfl, quiet⟩
    exact rest more value quiet
  · rintro _ error ⟨more, rfl, quiet⟩
    exact fails more error quiet

end Follows

end Attempt

end MediaBooster.Theory.Threads
