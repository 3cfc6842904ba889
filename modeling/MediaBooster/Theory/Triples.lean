/-
# Theory.Triples -- pre- and postconditions of programs that ask

`Ends` is about one program by itself: every run of it, from a state, ends with a result and in a
state that satisfy the postcondition.  `Attempt.Ends` has one postcondition for a value and one for
an error.  There is one rule for each way a program is put together (`ends_bind`, `ends_ask`, ..).

`runWith` computes the run of a program whose requests are answered by a function.
-/
import MediaBooster.Theory.Threads

namespace MediaBooster.Theory.Threads

set_option autoImplicit false

variable {Ask : Type} {Answer : Ask → Type} {σ α β ε δ : Type}
  {answers : σ → (request : Ask) → Answer request → σ → Prop}

/-! ## Programs -/

/-- Every run of the program from `s` ends as `post` says. -/
def Program.Ends (answers : σ → (request : Ask) → Answer request → σ → Prop)
    (program : Program Answer α) (s : σ) (post : α → σ → Prop) : Prop :=
  ∀ result t, Ran answers program s result t → post result t

namespace Program

variable {s : σ} {post weaker : α → σ → Prop}

theorem Ends.mono {program : Program Answer α} (ends : program.Ends answers s post)
    (implies : ∀ result t, post result t → weaker result t) : program.Ends answers s weaker :=
  fun result t ran => implies result t (ends result t ran)

theorem ends_done {value : α} (holds : post value s) :
    (Program.done value : Program Answer α).Ends answers s post := by
  intro result t ran
  obtain ⟨rfl, rfl⟩ := ran_done.1 ran
  exact holds

theorem ends_ask {request : Ask} {next : Answer request → Program Answer α}
    (rest : ∀ answer t, answers s request answer t → (next answer).Ends answers t post) :
    (Program.ask request next).Ends answers s post := by
  intro result u ran
  obtain ⟨answer, t, answered, further⟩ := ran_ask.1 ran
  exact rest answer t answered result u further

theorem ends_bind {program : Program Answer β} {next : β → Program Answer α}
    {middle : β → σ → Prop} (first : program.Ends answers s middle)
    (rest : ∀ value t, middle value t → (next value).Ends answers t post) :
    (program.bind next).Ends answers s post := by
  intro result u ran
  obtain ⟨value, t, before, after⟩ := ran_bind.1 ran
  exact rest value t (first value t before) result u after

end Program

/-! ## Programs that may fail -/

/-- A postcondition for a value and one for an error. -/
def settled (done : α → σ → Prop) (failed : ε → σ → Prop) : Except ε α → σ → Prop
  | .ok value => done value
  | .error error => failed error

namespace Attempt

/-- Every run of the attempt from `s` ends with a value as `done` says or with an error as `failed`
says. -/
def Ends (answers : σ → (request : Ask) → Answer request → σ → Prop) (attempt : Attempt Answer ε α)
    (s : σ) (done : α → σ → Prop) (failed : ε → σ → Prop) : Prop :=
  attempt.attempt.Ends answers s (settled done failed)

variable {s : σ} {done : α → σ → Prop} {failed : ε → σ → Prop}

theorem Ends.mono {attempt : Attempt Answer ε α} {wider : α → σ → Prop} {worse : ε → σ → Prop}
    (ends : attempt.Ends answers s done failed) (holds : ∀ value t, done value t → wider value t)
    (fails : ∀ error t, failed error t → worse error t) : attempt.Ends answers s wider worse := by
  refine Program.Ends.mono ends fun result t kept => ?_
  cases result with
  | ok value => exact holds value t kept
  | error error => exact fails error t kept

theorem ends_pure {value : α} (holds : done value s) :
    (pure value : Attempt Answer ε α).Ends answers s done failed := Program.ends_done holds

theorem ends_fail {error : ε} (holds : failed error s) :
    (fail error : Attempt Answer ε α).Ends answers s done failed := Program.ends_done holds

theorem ends_ofExcept {checked : Except ε α} (holds : settled done failed checked s) :
    (ofExcept checked : Attempt Answer ε α).Ends answers s done failed := Program.ends_done holds

theorem ends_ensure {condition : Bool} {error : ε} {done : Unit → σ → Prop}
    (holds : condition = true → done () s) (fails : condition = false → failed error s) :
    (ensure condition error : Attempt Answer ε Unit).Ends answers s done failed := by
  cases condition with
  | true => exact Program.ends_done (holds rfl)
  | false => exact Program.ends_done (fails rfl)

theorem ends_okOr {value : Option α} {error : ε} (holds : ∀ a, value = some a → done a s)
    (fails : value = none → failed error s) :
    (okOr value error : Attempt Answer ε α).Ends answers s done failed := by
  cases value with
  | some a => exact Program.ends_done (holds a rfl)
  | none => exact Program.ends_done (fails rfl)

theorem ends_bind {first : Attempt Answer ε β} {next : β → Attempt Answer ε α}
    {middle : β → σ → Prop} (before : first.Ends answers s middle failed)
    (rest : ∀ value t, middle value t → (next value).Ends answers t done failed) :
    (first >>= next).Ends answers s done failed := by
  refine Program.ends_bind before fun result t holds => ?_
  cases result with
  | ok value => exact rest value t holds
  | error error => exact Program.ends_done holds

theorem ends_mapError {f : δ → ε} {first : Attempt Answer δ α}
    (before : first.Ends answers s done fun error => failed (f error)) :
    (mapError f first).Ends answers s done failed := by
  refine Program.ends_bind before fun result t holds => ?_
  cases result with
  | ok value => exact Program.ends_done holds
  | error error => exact Program.ends_done holds

theorem ends_lift {program : Program Answer α} (before : program.Ends answers s done) :
    (lift program : Attempt Answer ε α).Ends answers s done failed :=
  Program.ends_bind before fun _ _ holds => Program.ends_done holds

end Attempt

/-! ## Computed runs -/

/-- The run of a program whose requests a function answers, if it answers all of them. -/
def Program.runWith (respond : σ → (request : Ask) → Option (Answer request × σ)) :
    Program Answer α → σ → Option (α × σ)
  | .done result, s => some (result, s)
  | .ask request next, s =>
      (respond s request).bind fun responded => (next responded.1).runWith respond responded.2

theorem ran_runWith {respond : σ → (request : Ask) → Option (Answer request × σ)}
    (allowed : ∀ s request answer t, respond s request = some (answer, t) →
      answers s request answer t)
    {program : Program Answer α} {s t : σ} {result : α}
    (led : program.runWith respond s = some (result, t)) : Ran answers program s result t := by
  induction program generalizing s with
  | done value =>
      cases led
      exact .done
  | ask request next ih =>
      obtain ⟨⟨answer, middle⟩, responded, rest⟩ := Option.bind_eq_some_iff.1 led
      exact .ask (allowed s request answer middle responded) (ih answer rest)

end MediaBooster.Theory.Threads
