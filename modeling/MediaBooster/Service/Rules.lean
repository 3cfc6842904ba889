/-
# Service.Rules -- what every thread of the system has done before it asks

`Deployment.Rule` puts the rules of the services together: a thread of the system asks for
what its call may ask for, after what its service does first (`Deployment.obeys`).

Uploads and jobs are recorded under identifiers that are drawn once and used once
(`Deployment.tokens`), so an identifier in the store was used by some thread
(`run_recorded`) and the one a request records is new, whatever has been purged since
(`Recorded.fresh`).
-/
import MediaBooster.Service.Histories.Inventory
import MediaBooster.Service.Histories.Lifecycle
import MediaBooster.Service.Histories.Policies
import MediaBooster.Service.Histories.Uploads
import MediaBooster.Service.Histories.Worker
import MediaBooster.Service.System

namespace MediaBooster.Service

set_option autoImplicit false

open MediaBooster.Domain MediaBooster.Storage MediaBooster.Store MediaBooster.Theory.Run
open MediaBooster.Theory.Table MediaBooster.Theory.Threads MediaBooster.Theory.Transaction

namespace Deployment

variable (d : Deployment)

/-! ## Rules -/

/-- What a thread has done before it asks. -/
def Rule : ServiceCall → History → Ask → Prop
  | .createBatch .. | .presignPart .. | .completeMultipart .. | .confirmSingleUpload ..
  | .abortMultipart .. => d.uploads.Obeys
  | .publishPolicy .. => SitePolicyService.Rule
  | .cleanup _ => d.lifecycle.Rule
  | .inventory _ => d.inventory.Rule
  | .work configuration _ => (d.worker configuration).RunRule

/-- **Every call keeps the rule of its service, and asks for nothing else.** -/
theorem follows_program (call : ServiceCall) :
    Follows (fun past request => d.Rule call past request ∧ d.Asks call request)
      (fun _ _ => True) [] (d.program call) := by
  have discards : ∀ {ε α : Type} {rule : History → Ask → Prop} {action : Action ε α},
      action.Follows rule (fun _ _ => True) [] →
        Follows rule (fun _ _ => True) [] action.attempt.discard := fun follows =>
    follows_discard follows
  refine Follows.restrict ?_ (only_program call)
  cases call with
  | createBatch request => exact discards (d.uploads.follows_createBatch request)
  | presignPart => exact discards (d.uploads.follows_presignPart _ _)
  | completeMultipart => exact discards (d.uploads.follows_completeMultipart _)
  | confirmSingleUpload => exact discards d.uploads.follows_confirmSingleUpload
  | abortMultipart => exact discards d.uploads.follows_abortMultipart
  | publishPolicy request readAt => exact discards (d.policies.follows_publish request readAt)
  | cleanup owner => exact discards (d.lifecycle.follows_runOnce owner)
  | inventory mode => exact discards (d.inventory.follows_runOnce mode)
  | work configuration workerId => exact discards ((d.worker configuration).follows_runOne workerId)

variable {d} {s t : SystemState} {label : SystemLabel}

/-- **Every request of a step keeps the rule of its thread's call.** -/
theorem obeys {i : Nat} {exchange : Exchange Answer}
    (step : d.machine.Step s (.asked i exchange) t) :
    ∃ call, s.call i = some call ∧ d.Rule call (s.past i) exchange.1 ∧ d.Asks call exchange.1 :=
  step.obeys d.follows_program

/-- A store call of a step is a request of its own, or one a thread asks for by its rule. -/
theorem called_by {op : Op} {ok : Bool} (step : d.machine.Step s label t)
    (calls : Calls label op ok) :
    Op.isRequest op = true ∨ ∃ i answer call, label = .asked i ⟨.store op, answer⟩ ∧
      answer.toBool = ok ∧ s.call i = some call ∧ d.Rule call (s.past i) (.store op) ∧
        d.Asks call (.store op) := by
  cases calls with
  | @asked i op answer =>
      obtain ⟨call, called, rule, asks⟩ := obeys step
      exact .inr ⟨i, answer, call, rfl, rfl, called, rule, asks⟩
  | called request => exact .inl request

/-! ## Identifiers -/

theorem rule_owns {call : ServiceCall} {past : History} {request : Ask}
    (rule : d.Rule call past request) (asks : d.Asks call request)
    (distinct : identifiers.Distinct past) : identifiers.Owns past request := by
  have none : RecordsNone request → identifiers.Owns past request := by
    intro recordless token names
    rw [recordless] at names
    cases names
  have uploads : d.uploads.Rule past request → identifiers.Owns past request := by
    intro rule
    cases request with
    | store op =>
        cases op with
        | saveBatch batch capacity =>
            obtain ⟨recordless, -, reserved⟩ := rule
            intro token names
            obtain ⟨upload, member, rfl⟩ := List.mem_map.1 names
            exact ⟨(reserved upload member).drawn, recordless.unused _⟩
        | markQuarantinedAndEnqueue jobId tenantId uploadId actualSizeBytes presetId now =>
            obtain ⟨recordless, drawn, -⟩ := rule
            intro token names
            obtain rfl := List.mem_singleton.1 names
            exact ⟨drawn, recordless.unused _⟩
        | _ => exact none rfl
    | _ => exact none rfl
  cases call with
  | createBatch | presignPart | completeMultipart | confirmSingleUpload | abortMultipart =>
      exact uploads (rule distinct)
  | publishPolicy | cleanup | inventory | work =>
      apply none
      cases request with
      | store op => cases op <;> first | rfl | exact asks.elim
      | _ => rfl

variable (d) in
/-- Identifiers are drawn once and used once. -/
def tokens : Tokens d.machine Uuid where
  toTokenUse := identifiers
  taken := fun w uuid => uuid ∈ w.drawn
  fresh := by
    intro w request answer w' token answered drawn
    change w.Answers request answer w' at answered
    cases request with
    | drawId =>
        cases drawn
        obtain ⟨fresh, rfl⟩ := answered
        exact ⟨fresh, List.mem_cons_self⟩
    | _ => cases drawn
  grows := by
    intro w request answer w' token answered taken
    change w.Answers request answer w' at answered
    cases request with
    | drawId =>
        obtain ⟨-, rfl⟩ := answered
        exact List.mem_cons_of_mem _ taken
    | store op =>
        obtain ⟨store', -, rfl⟩ := answered
        exact taken
    | provider request =>
        obtain ⟨provider', -, rfl⟩ := answered
        exact taken
    | presignPut bucket key contentLength =>
        cases answer with
        | ok url =>
            obtain rfl : w' = _ := answered
            exact taken
        | error message =>
            obtain rfl : w' = _ := answered
            exact taken
    | now | presignPart | host =>
        obtain rfl : w' = _ := answered
        exact taken
  stays := by
    intro w event w' token moved taken
    change Moves w event w' at moved
    cases event with
    | called op =>
        obtain ⟨-, answer, store', -, rfl⟩ := moved
        exact taken
    | put bucket key contentLength =>
        obtain ⟨-, rfl⟩ := moved
        exact taken
  owns := fun call => Follows.relax (d.follows_program call) fun past request both =>
    rule_owns both.1 both.2

/-! ## What is recorded -/

variable (d) in
/-- Every identifier in the store was recorded by a thread. -/
structure Recorded (s : SystemState) : Prop where
  integrity : s.shared.store.Integrity
  sound : d.tokens.Sound s
  uploads : ∀ row ∈ s.shared.store.uploads, d.tokens.Spent s row.id.uuid
  jobs : ∀ job ∈ s.shared.store.jobs, d.tokens.Spent s job.id.uuid

theorem recorded_initial (clock : OffsetDateTime) : d.Recorded (.initial (.fresh clock)) where
  integrity := migrated_integrity
  sound := Tokens.sound_initial _
  uploads := fun _ member => nomatch member
  jobs := fun _ member => nomatch member

/-- What a request records is recorded. -/
theorem spent_asked {i : Nat} {exchange : Exchange Answer} {uuid : Uuid}
    (step : d.machine.Step s (.asked i exchange) t) (names : uuid ∈ identifiers.used exchange.1) :
    d.tokens.Spent t uuid := by
  refine ⟨i, exchange, ?_, names⟩
  rw [step.past, Label.heard, if_pos rfl]
  exact List.mem_append_right _ (List.mem_singleton_self _)

theorem Recorded.step (recorded : d.Recorded s) (step : d.machine.Step s label t) :
    d.Recorded t := by
  have sound := recorded.sound.step step
  obtain same | ⟨op, ok, calls, answers⟩ := store_cases step
  · refine ⟨by rw [same]; exact recorded.integrity, sound, fun row member => ?_, fun job member => ?_⟩
    · rw [same] at member
      exact (recorded.uploads row member).step step
    · rw [same] at member
      exact (recorded.jobs job member).step step
  refine ⟨answers.integrity recorded.integrity, sound, fun row member => ?_, fun job member => ?_⟩
  · obtain ⟨before, there, same⟩ | ⟨batch, capacity, rfl, named⟩ :=
      answers.uploads_from recorded.integrity row member
    · rw [← same]
      exact (recorded.uploads before there).step step
    · cases calls with
      | asked =>
          refine spent_asked step ?_
          obtain ⟨upload, listed, same⟩ := List.mem_map.1 named
          rw [← same]
          exact List.mem_map.2 ⟨upload, listed, rfl⟩
      | called request => cases request
  · obtain ⟨before, there, same⟩ | enqueued := answers.jobs_from recorded.integrity job member
    · rw [← show before.id = job.id from congrArg JobIdentity.id same]
      exact (recorded.jobs before there).step step
    · cases calls with
      | called request => cases enqueued <;> cases request
      | @asked i op answer =>
          cases enqueued with
          | confirmed => exact spent_asked step (List.mem_singleton_self _)
          | direct =>
              obtain ⟨call, -, -, asks⟩ := obeys step
              cases call <;> exact asks.elim

theorem run_recorded {labels : List SystemLabel} (run : d.Runs labels s) : d.Recorded s := by
  obtain ⟨clock, run⟩ := run
  exact run.keeps (fun _ _ _ step recorded => recorded.step step) (recorded_initial clock)

/-- **What a request records is new.** -/
theorem Recorded.fresh {i : Nat} {exchange : Exchange Answer} {uuid : Uuid}
    (recorded : d.Recorded s) (step : d.machine.Step s (.asked i exchange) t)
    (names : uuid ∈ identifiers.used exchange.1) : ¬ d.tokens.Spent s uuid :=
  recorded.sound.unused step names

/-- A job a step adds: the confirmation of a reservation adds it, under a new identifier. -/
structure Enqueues (d : Deployment) (s : SystemState) (job : JobRow) : Prop where
  fresh : ¬ d.tokens.Spent s job.id.uuid
  preset : job.presetId = initialProcessingPreset
  queued : job.state = .queued
  unclaimed : job.attempts = 0
  reserved : ∃ upload ∈ s.shared.store.uploads, upload.id = job.uploadId ∧ upload.state = .created

/-- **Every job of the system comes from a confirmation.** -/
theorem Recorded.enqueues {op : Op} {ok : Bool} {job : JobRow} (recorded : d.Recorded s)
    (step : d.machine.Step s label t) (calls : Calls label op ok)
    (enqueued : Enqueued s.shared.store op job) : Enqueues d s job := by
  cases calls with
  | called request => cases enqueued <;> cases request
  | @asked i op answer =>
      obtain ⟨call, -, -, asks⟩ := obeys step
      cases enqueued with
      | direct => cases call <;> exact asks.elim
      | confirmed member owned created =>
          refine ⟨recorded.fresh step (List.mem_singleton_self _), ?_, rfl, rfl, _, member, rfl,
            created⟩
          cases call <;> first | exact asks | exact asks.elim

end Deployment

end MediaBooster.Service
