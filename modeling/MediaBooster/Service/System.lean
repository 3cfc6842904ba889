/-
# Service.System -- all services over one world

A `Deployment` is what the operator configures, and its services are built of it; a worker
process brings a configuration of its own.  The machine of a deployment runs any number of
their calls at once, each a thread of its own, and each cut off at any point; besides them,
requests that are a single store call come in, and browsers `PUT` what was signed for them.
-/
import MediaBooster.Service.Asks

namespace MediaBooster.Service

set_option autoImplicit false

open MediaBooster.Domain MediaBooster.Lifecycle MediaBooster.Storage MediaBooster.Store
open MediaBooster.Theory.Run MediaBooster.Theory.Threads MediaBooster.Theory.Transaction

/-- What one worker process is started with.  Every process loads its own file, so that two of one
deployment may differ in it. -/
structure WorkerConfiguration where
  policy : WorkerPolicy
  valid : policy.isValid = true

/-- The configuration of one deployment, without that of its worker processes. -/
structure Deployment where
  rawStore : S3CompatibleStore
  derivativeStore : S3CompatibleStore
  batchPolicy : UploadBatchPolicy
  capacity : UploadCapacityPolicy
  lifecyclePolicy : LifecyclePolicy
  lifecycleValid : lifecyclePolicy.isValid = true
  inventoryPolicy : InventoryPolicy
  inventoryValid : inventoryPolicy.isValid = true
  policies : SitePolicyService

/-- A call of a service. -/
inductive ServiceCall
  | createBatch (request : CreateUploadBatch)
  | presignPart (tenantId : String) (uploadId : UploadId) (partNumber contentLength : Nat)
  | completeMultipart (tenantId : String) (uploadId : UploadId) (parts : List CompletedPart)
  | confirmSingleUpload (tenantId : String) (uploadId : UploadId)
  | abortMultipart (tenantId : String) (uploadId : UploadId)
  | publishPolicy (request : PublishSitePolicy) (readAt : OffsetDateTime)
  | cleanup (owner : String)
  | inventory (mode : InventoryMode)
  | work (configuration : WorkerConfiguration) (workerId : String)

/-- What happens outside the services' threads: a request that is one store call, or a browser
that uses a signed `PUT`. -/
inductive Event
  | called (op : Op)
  | put (bucket key : String) (contentLength : Nat)

/-- The store calls that are requests of their own: accepting a deletion, checking a nonce,
and reads. -/
def Op.isRequest : Op → Bool
  | .requestDeletion .. | .consume .. | .isDeliveryAllowed .. | .findActiveSitePolicy .. => true
  | _ => false

namespace Deployment

variable (d : Deployment)

def uploads : UploadIntentService := ⟨d.rawStore, d.batchPolicy, d.capacity⟩

def lifecycle : LifecycleService := ⟨d.rawStore, d.derivativeStore, d.lifecyclePolicy, d.lifecycleValid⟩

def inventory : InventoryService := ⟨d.rawStore, d.derivativeStore, d.inventoryPolicy, d.inventoryValid⟩

def worker (configuration : WorkerConfiguration) : SourceValidationWorker :=
  ⟨d.rawStore, d.derivativeStore, configuration.policy, configuration.valid⟩

/-- The program of a call. -/
def program : ServiceCall → Program Answer Unit
  | .createBatch request => (d.uploads.createBatch request).attempt.discard
  | .presignPart tenantId uploadId partNumber contentLength =>
      (d.uploads.presignPart tenantId uploadId partNumber contentLength).attempt.discard
  | .completeMultipart tenantId uploadId parts =>
      (d.uploads.completeMultipart tenantId uploadId parts).attempt.discard
  | .confirmSingleUpload tenantId uploadId =>
      (d.uploads.confirmSingleUpload tenantId uploadId).attempt.discard
  | .abortMultipart tenantId uploadId =>
      (d.uploads.abortMultipart tenantId uploadId).attempt.discard
  | .publishPolicy request readAt => (d.policies.publish request readAt).attempt.discard
  | .cleanup owner => (d.lifecycle.runOnce owner).attempt.discard
  | .inventory mode => (d.inventory.runOnce mode).attempt.discard
  | .work configuration workerId => ((d.worker configuration).runOne workerId).attempt.discard

/-- What a call asks for. -/
def Asks : ServiceCall → Ask → Prop
  | .createBatch .. | .presignPart .. | .completeMultipart .. | .confirmSingleUpload ..
  | .abortMultipart .. => d.uploads.Asks
  | .publishPolicy .. => SitePolicyService.Asks
  | .cleanup owner => d.lifecycle.Asks owner
  | .inventory _ => d.inventory.Asks
  | .work configuration workerId => (d.worker configuration).Asks workerId

/-- What moves the world outside the threads. -/
def Moves (w : World) : Event → World → Prop
  | .called op, w' => Op.isRequest op = true ∧
      ∃ answer store', Replies op.call w.store answer store' ∧ w' = { w with store := store' }
  | .put bucket key contentLength, w' => (bucket, key) ∈ w.signed ∧
      w' = { w with provider := w.provider.store bucket key (some contentLength) }

/-- The system of a deployment. -/
def machine : Machine Answer ServiceCall Event World where
  program := d.program
  answers := World.Answers
  moves := Moves

end Deployment

/-- A state of the system. -/
abbrev SystemState := State Answer ServiceCall World

/-- What happens in a step of the system. -/
abbrev SystemLabel := Label Answer ServiceCall Event

/-- The world of a new deployment: a migrated database and empty buckets. -/
def World.fresh (clock : OffsetDateTime) : World where
  store := .migrated
  provider := .empty
  drawn := []
  signed := []
  clock := clock

/-- A run of a new deployment. -/
abbrev Deployment.Runs (d : Deployment) (labels : List SystemLabel) (s : SystemState) : Prop :=
  ∃ clock, Trace d.machine.Step (.initial (.fresh clock)) labels s

/-- A run of a new deployment every step of which meets `guard`. -/
abbrev Deployment.RunsGuarded (d : Deployment) (guard : SystemState → SystemLabel → Prop)
    (labels : List SystemLabel) (s : SystemState) : Prop :=
  ∃ clock, Trace (Guarded d.machine.Step guard) (.initial (.fresh clock)) labels s

theorem Deployment.RunsGuarded.unguarded {d : Deployment}
    {guard : SystemState → SystemLabel → Prop} {labels : List SystemLabel} {s : SystemState}
    (run : d.RunsGuarded guard labels s) : d.Runs labels s := by
  obtain ⟨clock, run⟩ := run
  exact ⟨clock, run.unguarded⟩

namespace Deployment

variable {d : Deployment}

/-- Every call asks only for what its service asks for. -/
theorem only_program (call : ServiceCall) : (d.program call).Only (d.Asks call) := by
  have discards : ∀ {ε α : Type} {allowed : Ask → Prop} {action : Action ε α},
      action.Only allowed → action.attempt.discard.Only allowed :=
    fun only => Program.Only.bind only fun _ => trivial
  have controls : ∀ {ε α : Type} {action : Action ε α},
      action.Only d.uploads.Controls → action.Only d.uploads.Asks :=
    fun only => only.mono fun _ controls => controls.asks
  cases call with
  | createBatch request => exact discards (d.uploads.only_createBatch request)
  | presignPart => exact discards (controls (d.uploads.only_presignPart _ _ _ _))
  | completeMultipart => exact discards (controls (d.uploads.only_completeMultipart _ _ _))
  | confirmSingleUpload => exact discards (controls (d.uploads.only_confirmSingleUpload _ _))
  | abortMultipart => exact discards (controls (d.uploads.only_abortMultipart _ _))
  | publishPolicy => exact discards (d.policies.only_publish _ _)
  | cleanup owner => exact discards (d.lifecycle.only_runOnce owner)
  | inventory mode => exact discards (d.inventory.only_runOnce mode)
  | work configuration workerId => exact discards ((d.worker configuration).only_runOne workerId)

/-- Every request of a step is one its thread's call asks for. -/
theorem asks {s t : SystemState} {i : Nat} {exchange : Exchange Answer}
    (step : d.machine.Step s (.asked i exchange) t) :
    ∃ call, s.call i = some call ∧ d.Asks call exchange.1 := by
  have follows : ∀ call, Follows (fun _ request => d.Asks call request) (fun _ _ => True) []
      (d.program call) := fun call =>
    follows_only (K := fun _ => True) (d.only_program call) (fun _ _ _ _ _ => trivial)
      (fun _ _ _ asked => asked) trivial
  exact step.obeys follows

/-! ## The store in a run -/

section Store

variable {s t : SystemState} {label : SystemLabel}

/-- The store call of a label, with whether it succeeded. -/
inductive Calls : SystemLabel → Op → Bool → Prop
  | asked {i : Nat} {op : Op} {answer : Answer (.store op)} :
      Calls (.asked i ⟨.store op, answer⟩) op answer.toBool
  | called {op : Op} {ok : Bool} (request : Op.isRequest op = true) : Calls (.moved (.called op)) op ok

/-- **A step leaves the store alone or is a call of it.** -/
theorem store_cases (step : d.machine.Step s label t) :
    t.shared.store = s.shared.store ∨
      ∃ op ok, Calls label op ok ∧ Answers op s.shared.store ok t.shared.store := by
  obtain ⟨i, ⟨request, answer⟩, rfl, answered⟩ | ⟨event, rfl, moved⟩ | ⟨same, -⟩ :=
    step.shared_cases
  · change s.shared.Answers request answer t.shared at answered
    cases request with
    | store op =>
        obtain ⟨store', replies, moved⟩ := answered
        refine .inr ⟨op, _, .asked, ?_⟩
        rw [moved]
        exact Answers.ofCall replies
    | now => exact .inl (by rw [show t.shared = _ from answered])
    | drawId => exact .inl (by rw [answered.2])
    | provider request =>
        obtain ⟨provider', -, moved⟩ := answered
        exact .inl (by rw [moved])
    | presignPut bucket key contentLength =>
        cases answer with
        | ok url => exact .inl (by rw [show t.shared = _ from answered])
        | error message => exact .inl (by rw [show t.shared = _ from answered])
    | presignPart => exact .inl (by rw [show t.shared = _ from answered])
    | host => exact .inl (by rw [show t.shared = _ from answered])
  · change Moves s.shared event t.shared at moved
    cases event with
    | called op =>
        obtain ⟨request, answer, store', replies, moved⟩ := moved
        refine .inr ⟨op, answer.toBool, .called request, ?_⟩
        rw [moved]
        exact Answers.ofCall replies
    | put bucket key contentLength => exact .inl (by rw [moved.2])
  · exact .inl (by rw [same])

/-- **Invariants of the store.**  What every store call of a guarded run keeps holds of the
store of every state of it. -/
theorem run_store {guard : SystemState → SystemLabel → Prop} {P : SqliteStore → Prop}
    {labels : List SystemLabel} (run : d.RunsGuarded guard labels s) (migrated : P .migrated)
    (keeps : ∀ (s : SystemState) (label : SystemLabel) (t : SystemState) (op : Op) (ok : Bool),
      guard s label → s.shared.store.Integrity → P s.shared.store →
        Calls label op ok → Answers op s.shared.store ok t.shared.store → P t.shared.store) :
    s.shared.store.Integrity ∧ P s.shared.store := by
  obtain ⟨clock, run⟩ := run
  refine run.keeps (P := fun s => s.shared.store.Integrity ∧ P s.shared.store) ?_
    ⟨migrated_integrity, migrated⟩
  rintro s label t ⟨step, allowed⟩ ⟨integrity, holds⟩
  obtain same | ⟨op, ok, calls, answers⟩ := store_cases step
  · rw [same]
    exact ⟨integrity, holds⟩
  · exact ⟨answers.integrity integrity, keeps s label t op ok allowed integrity holds calls answers⟩

end Store

end Deployment

end MediaBooster.Service
