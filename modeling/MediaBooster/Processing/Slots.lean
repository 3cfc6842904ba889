/-
# Processing.Slots -- a worker whose sandbox refuses

The worker runs here with nothing going wrong but the sandbox (`Surroundings.Answers`): its clock,
store, provider and machine answer as they should, and the sandbox may refuse what it is asked.
A slot runs the worker until it is told to stop or a run fails, and a slot that fails ends the
process.  The world keeps a log of the jobs that are claimed, refused and settled.

* `works_validateSource`: the work on a job ends well, or with a failure the job settles, or at a
  refusal, with the failure the refusal has to come to.
* `logs_runOne`: one run goes on after a refusal blamed on the source, whose job is rejected or
  given back.
* `slot_stopped`: a slot stops at the first refusal blamed on the renderer and at no other.
-/
import MediaBooster.Processing.Sandbox
import MediaBooster.Processing.TempDisk
import MediaBooster.Service.Rehearsal
import MediaBooster.Theory.Triples

namespace MediaBooster.Processing

set_option autoImplicit false

open MediaBooster.Domain MediaBooster.Media MediaBooster.Service MediaBooster.Storage
open MediaBooster.Store MediaBooster.Theory.Threads

/-! ## Surroundings in which nothing else goes wrong -/

/-- What happens to jobs: one is claimed, the sandbox refuses, the upload is rejected, and the job
is completed or has failed. -/
inductive Record
  | claimed (leased : LeasedProcessingJob)
  | refused (request : HostRequest)
  | rejected (uploadId : UploadId)
  | completed (jobId : JobId)
  | failed (jobId : JobId) (disposition : JobFailureDisposition)

/-- What a call of the store records. -/
def recorded : (op : Op) → Except op.Error op.Result → List Record
  | .claimNext _ _ _, .ok (some leased) => [.claimed leased]
  | .markRejected uploadId _ _, .ok _ => [.rejected uploadId]
  | .complete jobId _ _, .ok _ => [.completed jobId]
  | .fail jobId _ _ _ _ _, .ok disposition => [.failed jobId disposition]
  | _, _ => []

/-- What has happened, the object that was opened last, and the digest of the watermark that was
fetched last. -/
structure World where
  log : List Record
  opened : String
  fetched : String

namespace World

/-- More has happened. -/
def record (world : World) (records : List Record) : World :=
  { world with log := world.log ++ records }

/-- A request to the provider may open an object. -/
def sent (world : World) : ProviderRequest → World
  | .getObject _ key => { world with opened := key }
  | _ => world

end World

/-- What is stored and configured around a worker: the lengths and the digests of the objects, and
the digest of the file of the configured watermark. -/
structure Surroundings where
  probe : ProcessSandboxProbe
  lengths : String → Nat
  digests : String → String
  asset : String

namespace Surroundings

variable (around : Surroundings) (worker : SourceValidationWorker)

/-- A request to the host machine may fetch a watermark: the object that was opened, or the
configured file. -/
def hosted (world : World) : HostRequest → World
  | .saveDownload .watermark => { world with fetched := around.digests world.opened }
  | .copyWatermarkAsset => { world with fetched := around.asset }
  | _ => world

/-- The watermark of a site policy is stored as it says. -/
def HasAsset (stored : StoredWatermarkPolicy) : Prop :=
  stored.assetSha256 = around.digests stored.objectKey.asStr ∧
    stored.byteLen = around.lengths stored.objectKey.asStr ∧
    0 < stored.byteLen ∧ stored.byteLen ≤ maxWatermarkBytes

/-- The file of the configured watermark is as the configuration says. -/
def HasConfigured : Prop :=
  ∀ configured, worker.policy.watermark = some configured → configured.assetSha256 = around.asset

/-- An answer of the store that says nothing is wrong. -/
def FineCall : (op : Op) → Except op.Error op.Result → Prop
  | .findProcessingSource _, answer => ∃ found, answer = .ok found ∧ ∀ source, found = some source →
      source.expectedSizeBytes = around.lengths source.objectKey.asStr
  | .findSitePolicyRevision tenantId revision, answer => ∃ snapshot, answer = .ok (some snapshot) ∧
      snapshot.revision = revision ∧ snapshot.tenantId = tenantId ∧
        ∀ stored, snapshot.watermark = some stored → around.HasAsset stored
  | _, answer => ∃ result, answer = .ok result

/-- An answer of the provider that says nothing is wrong. -/
def FineRequest : (request : ProviderRequest) → Except ProviderError request.Output → Prop
  | .getObject _ key, answer => answer = .ok (some (around.lengths key : Int)) ∧
      around.lengths key < 2 ^ 64
  | _, answer => ∃ output, answer = .ok output

/-- An answer of the host machine that says nothing is wrong; the sandbox is apart. -/
def FineHost (world : World) : (request : HostRequest) → request.Output → Prop
  | .heartbeats, _ => True
  | .acquire _, granted => granted = true
  | .createJobDirectory, created => created = true
  | .saveDownload _, saved => saved = .ok ()
  | .detectFile _, _ => True
  | .sha256File .watermark, digest => digest = some world.fetched
  | .sha256File _, digest => ∃ found, digest = some found
  | .fileLength _, length => ∃ found, length = some found
  | .copyWatermarkAsset, length => (∃ copied, length = some copied ∧ 0 < copied ∧
      copied ≤ maxWatermarkBytes) ∧ around.HasConfigured worker
  | .inspect _, _ | .imageMaster _, _ | .renderThumbnail _ _, _ => False

/-- An exchange in which nothing goes wrong but a refusal of the sandbox. -/
inductive Answers : World → (ask : Ask) → Answer ask → World → Prop
  | clock {world : World} {reading : OffsetDateTime}
      (inside : (reading.plus worker.policy.retryDelay).isSome) : Answers world .now reading world
  | drew {world : World} {uuid : Uuid} : Answers world .drawId uuid world
  | called {world : World} {op : Op} {answer : Answer (.store op)} (fine : around.FineCall op answer) :
      Answers world (.store op) answer (world.record (recorded op answer))
  | sent {world : World} {request : ProviderRequest} {answer : Answer (.provider request)}
      (fine : around.FineRequest request answer) :
      Answers world (.provider request) answer (world.sent request)
  | hosted {world : World} {request : HostRequest} {answer : Answer (.host request)}
      (fine : around.FineHost worker world request answer) :
      Answers world (.host request) answer (around.hosted world request)
  | accepted {world : World} {request : HostRequest} {answer : Answer (.host request)}
      (answers : around.probe.Answers request answer false) :
      Answers world (.host request) answer world
  | refused {world : World} {request : HostRequest} {answer : Answer (.host request)}
      (answers : around.probe.Answers request answer true) :
      Answers world (.host request) answer (world.record [.refused request])

/-- The action ends with a value as `post` says or with an error as `bad` says, and leaves a view
of the world as it is. -/
def Calm {τ ε α : Type} (view : World → τ) (post : α → Prop) (bad : ε → Prop)
    (action : Action ε α) : Prop :=
  ∀ world, action.Ends (around.Answers worker) world
    (fun value after => view after = view world ∧ post value)
    (fun error after => view after = view world ∧ bad error)

/-- The action ends with a value as `post` says or with an error as `bad` says of it and of what
was recorded on the way. -/
def Logs {ε α : Type} (post : α → List Record → Prop) (bad : ε → List Record → Prop)
    (action : Action ε α) : Prop :=
  ∀ world, action.Ends (around.Answers worker) world
    (fun value after => ∃ added, after.log = world.log ++ added ∧ post value added)
    (fun error after => ∃ added, after.log = world.log ++ added ∧ bad error added)

/-- What a failure of the work has recorded: nothing if it spares the worker, or the refusal it
ended at, and it is what the refusal has to come to. -/
def FailedAt (failure : ProcessingFailure) (added : List Record) : Prop :=
  (added = [] ∧ Spares failure) ∨ ∃ request, added = [.refused request] ∧ BlamedFor request failure

/-- The work ends with a value as `post` says and no refusal, or with a failure that spares the
worker, or with what the refusal it ended at has to come to. -/
def Works {α : Type} (post : α → Prop) (work : Action ProcessingFailure α) : Prop :=
  around.Logs worker (fun value added => added = [] ∧ post value) FailedAt work

/-- How a request to the sandbox may be answered: as it should be, or by a refusal. -/
def Asks {α : Type} (request : HostRequest)
    (asked : Action ProcessingFailure (Except SandboxProbeError α)) : Prop :=
  around.Logs worker (fun answer added => (added = [] ∧ ∃ value, answer = .ok value) ∨
    ∃ error, answer = .error error ∧ added = [.refused request] ∧
      BlamedFor request (classifySandboxError error)) (fun _ _ => False) asked

end Surroundings

/-! ## Rules -/

section Rules

open Surroundings

variable {around : Surroundings} {worker : SourceValidationWorker} {τ ε δ α β : Type}
  {view : World → τ} {post : α → Prop} {bad : ε → Prop}

theorem calm_pure {value : α} (holds : post value) :
    Calm around worker view post bad (pure value : Action ε α) :=
  fun _ => Attempt.ends_pure ⟨rfl, holds⟩

theorem calm_ensure {condition : Bool} {error : ε} (fails : condition = false → bad error) :
    Calm around worker view (fun _ => condition = true) bad (Attempt.ensure condition error) :=
  fun _ => Attempt.ends_ensure (fun holds => ⟨rfl, holds⟩) fun refused => ⟨rfl, fails refused⟩

theorem calm_okOr {value : Option α} {error : ε} (fails : value = none → bad error) :
    Calm around worker view (fun found => value = some found) bad (Attempt.okOr value error) :=
  fun _ => Attempt.ends_okOr (fun _ found => ⟨rfl, found⟩) fun missing => ⟨rfl, fails missing⟩

theorem calm_mapError {f : δ → ε} {action : Action δ α}
    (calm : Calm around worker view post (fun error => bad (f error)) action) :
    Calm around worker view post bad (Attempt.mapError f action) :=
  fun world => Attempt.ends_mapError (calm world)

theorem calm_bind {first : Action ε β} {next : β → Action ε α} {middle : β → Prop}
    (before : Calm around worker view middle bad first)
    (rest : ∀ value, middle value → Calm around worker view post bad (next value)) :
    Calm around worker view post bad (first >>= next) := by
  intro world
  refine Attempt.ends_bind (before world) ?_
  rintro value after ⟨same, holds⟩
  rw [← same]
  exact rest value holds after

theorem Surroundings.Calm.mono {wider : α → Prop} {worse : ε → Prop} {action : Action ε α}
    (calm : Calm around worker view post bad action) (holds : ∀ value, post value → wider value)
    (fails : ∀ error, bad error → worse error) : Calm around worker view wider worse action := by
  intro world
  apply (calm world).mono
  · exact fun value _ kept => ⟨kept.1, holds value kept.2⟩
  · exact fun error _ kept => ⟨kept.1, fails error kept.2⟩

/-- A reading of the clock. -/
theorem calm_now : Calm around worker view (fun reading : OffsetDateTime =>
    (reading.plus worker.policy.retryDelay).isSome = true) bad now := by
  intro world
  refine Attempt.ends_lift (Program.ends_ask fun reading after answered => Program.ends_done ?_)
  cases answered with
  | clock inside => exact ⟨rfl, inside⟩

theorem fineCall_ok {op : Op} {answer : Except op.Error op.Result}
    (fine : around.FineCall op answer) : ∃ result, answer = .ok result := by
  cases op with
  | findProcessingSource => exact ⟨_, fine.choose_spec.1⟩
  | findSitePolicyRevision => exact ⟨_, fine.choose_spec.1⟩
  | _ => exact fine

/-- A call of the store that records nothing. -/
theorem calm_call (op : Op) (silent : ∀ answer, recorded op answer = []) : Calm around worker view
    (fun result => around.FineCall op (.ok result)) (fun _ => False) (call op) := by
  intro world
  refine Program.ends_ask fun answer after answered => Program.ends_done ?_
  cases answered with
  | called fine =>
      obtain ⟨result, rfl⟩ := fineCall_ok fine
      refine ⟨congrArg view ?_, fine⟩
      rw [silent, World.record, List.append_nil]

/-- A call of the store, with what it records. -/
theorem logs_call (op : Op) : Logs around worker
    (fun result added => added = recorded op (.ok result)) (fun _ _ => False) (call op) := by
  intro world
  refine Program.ends_ask fun answer after answered => Program.ends_done ?_
  cases answered with
  | called fine =>
      obtain ⟨result, rfl⟩ := fineCall_ok fine
      exact ⟨_, rfl, rfl⟩

/-- A request to the host machine that is not one to the sandbox. -/
theorem ends_host (request : HostRequest)
    (apart : ∀ answer refused, ¬ around.probe.Answers request answer refused) (world : World)
    {failed : ε → World → Prop} : (host request : Action ε _).Ends (around.Answers worker) world
      (fun answer after => around.FineHost worker world request answer ∧
        after = around.hosted world request) failed := by
  refine Attempt.ends_lift (Program.ends_ask fun answer after answered => Program.ends_done ?_)
  cases answered with
  | hosted fine => exact ⟨fine, rfl⟩
  | accepted answers => exact absurd answers (apart _ _)
  | refused answers => exact absurd answers (apart _ _)

/-- No request to the host machine but one to the sandbox records anything. -/
theorem hosted_log (request : HostRequest) (world : World) :
    (around.hosted world request).log = world.log := by
  unfold Surroundings.hosted
  split <;> rfl

theorem calm_host (request : HostRequest)
    (apart : ∀ answer refused, ¬ around.probe.Answers request answer refused) :
    Calm around worker World.log
      (fun answer => ∃ world, around.FineHost worker world request answer) bad (host request) := by
  intro world
  apply (ends_host request apart world).mono
  · exact fun answer after kept => ⟨kept.2 ▸ hosted_log request world, world, kept.1⟩
  · exact fun error after kept => kept

/-- The heartbeats that are due. -/
theorem calm_heartbeats : Calm around worker view (fun _ => True) bad (host .heartbeats) := by
  intro world
  apply (ends_host .heartbeats nofun world).mono
  · exact fun answer after kept => ⟨congrArg view kept.2, trivial⟩
  · exact fun error after kept => kept

theorem logs_bind {posts : α → List Record → Prop} {bads : ε → List Record → Prop}
    {first : Action ε β} {next : β → Action ε α} {middle : β → List Record → Prop}
    (before : Logs around worker middle bads first)
    (rest : ∀ value added, middle value added → Logs around worker
      (fun value more => posts value (added ++ more)) (fun error more => bads error (added ++ more))
      (next value)) :
    Logs around worker posts bads (first >>= next) := by
  intro world
  refine Attempt.ends_bind (before world) ?_
  rintro value after ⟨added, log, holds⟩
  apply (rest value added holds after).mono
  · rintro value last ⟨more, log', kept⟩
    exact ⟨added ++ more, by rw [log', log, List.append_assoc], kept⟩
  · rintro error last ⟨more, log', kept⟩
    exact ⟨added ++ more, by rw [log', log, List.append_assoc], kept⟩

theorem logs_pure {posts : α → List Record → Prop} {bads : ε → List Record → Prop} {value : α}
    (holds : posts value []) : Logs around worker posts bads (pure value : Action ε α) :=
  fun _ => Attempt.ends_pure ⟨[], (List.append_nil _).symm, holds⟩

theorem Surroundings.Logs.mono {posts posts' : α → List Record → Prop}
    {bads bads' : ε → List Record → Prop} {action : Action ε α}
    (logs : Logs around worker posts bads action)
    (holds : ∀ value added, posts value added → posts' value added)
    (fails : ∀ error added, bads error added → bads' error added) :
    Logs around worker posts' bads' action := by
  intro world
  apply (logs world).mono
  · rintro value after ⟨added, log, kept⟩
    exact ⟨added, log, holds value added kept⟩
  · rintro error after ⟨added, log, kept⟩
    exact ⟨added, log, fails error added kept⟩

theorem logs_mapError {posts : α → List Record → Prop} {bads : ε → List Record → Prop} {f : δ → ε}
    {action : Action δ α}
    (logs : Logs around worker posts (fun error added => bads (f error) added) action) :
    Logs around worker posts bads (Attempt.mapError f action) :=
  fun world => Attempt.ends_mapError (logs world)

/-- What leaves the log records nothing. -/
theorem logs_of_calm {action : Action ε α} (calm : Calm around worker World.log post bad action) :
    Logs around worker (fun value added => added = [] ∧ post value)
      (fun error added => added = [] ∧ bad error) action := by
  intro world
  apply (calm world).mono
  · exact fun value after kept => ⟨[], by rw [kept.1, List.append_nil], rfl, kept.2⟩
  · exact fun error after kept => ⟨[], by rw [kept.1, List.append_nil], rfl, kept.2⟩

/-- Go on after what records nothing and cannot fail. -/
theorem logs_after {posts : α → List Record → Prop} {bads : ε → List Record → Prop}
    {first : Action ε β} {next : β → Action ε α} {middle : β → Prop}
    (before : Calm around worker World.log middle (fun _ => False) first)
    (rest : ∀ value, middle value → Logs around worker posts bads (next value)) :
    Logs around worker posts bads (first >>= next) := by
  refine logs_bind ((logs_of_calm before).mono (fun _ _ kept => kept) fun _ _ kept => kept.2.elim) ?_
  rintro value _ ⟨rfl, holds⟩
  exact rest value holds

theorem works_of_calm {work : Action ProcessingFailure α}
    (calm : Calm around worker World.log post Spares work) : Works around worker post work :=
  (logs_of_calm calm).mono (fun _ _ kept => kept) fun _ _ kept => .inl kept

theorem works_bind {first : Action ProcessingFailure β} {next : β → Action ProcessingFailure α}
    {middle : β → Prop} (before : Works around worker middle first)
    (rest : ∀ value, middle value → Works around worker post (next value)) :
    Works around worker post (first >>= next) := by
  refine logs_bind before ?_
  rintro value _ ⟨rfl, holds⟩
  exact rest value holds

/-- The work goes on with what the sandbox answered, or ends at its refusal. -/
theorem works_sandbox {request : HostRequest}
    {asked : Action ProcessingFailure (Except SandboxProbeError β)}
    {next : β → Action ProcessingFailure α}
    (asks : Asks around worker request asked)
    (rest : ∀ value, Works around worker post (next value)) :
    Works around worker post (asked >>= fun answer =>
      Attempt.ofExcept (answer.mapError classifySandboxError) >>= next) := by
  refine logs_bind (asks.mono (fun _ _ answered => answered) nofun) ?_
  rintro answer added (⟨rfl, value, rfl⟩ | ⟨error, rfl, rfl, blamed⟩)
  · exact rest value
  · exact fun world => Program.ends_done ⟨[], (List.append_nil _).symm, .inr ⟨request, rfl, blamed⟩⟩

theorem asks_inspect (kind : MediaKind) :
    Asks around worker (.inspect kind) (host (.inspect kind)) := by
  intro world
  refine Attempt.ends_lift (Program.ends_ask fun answer after answered => Program.ends_done ?_)
  cases answered with
  | hosted fine => exact fine.elim
  | accepted answers =>
      cases answers with
      | inspected inspection => exact ⟨[], (List.append_nil _).symm, .inl ⟨rfl, inspection, rfl⟩⟩
  | refused answers =>
      cases answers with
      | uninspected refuses =>
          obtain ⟨error, refused, blamed⟩ := inspect_refused refuses
          exact ⟨_, rfl, .inr ⟨error, refused, rfl, blamed⟩⟩

theorem asks_imageMaster (watermark : Option WatermarkPolicy) :
    Asks around worker (.imageMaster watermark) (host (.imageMaster watermark)) := by
  intro world
  refine Attempt.ends_lift (Program.ends_ask fun answer after answered => Program.ends_done ?_)
  cases answered with
  | hosted fine => exact fine.elim
  | accepted answers =>
      cases answers with
      | mastered => exact ⟨[], (List.append_nil _).symm, .inl ⟨rfl, (), rfl⟩⟩
  | refused answers =>
      cases answers with
      | unmastered refuses =>
          have blames : blamesRenderer (.imageMaster watermark) = watermark.isSome := rfl
          obtain ⟨error, refused, blamed⟩ := image_refused refuses blames
          exact ⟨_, rfl, .inr ⟨error, refused, rfl, blamed⟩⟩

theorem asks_thumbnail (inspection : MediaInspection) (watermark : Option WatermarkPolicy) :
    Asks around worker (.renderThumbnail inspection watermark)
      (host (.renderThumbnail inspection watermark)) := by
  intro world
  refine Attempt.ends_lift (Program.ends_ask fun answer after answered => Program.ends_done ?_)
  cases answered with
  | hosted fine => exact fine.elim
  | accepted answers =>
      cases answers with
      | pictured => exact ⟨[], (List.append_nil _).symm, .inl ⟨rfl, (), rfl⟩⟩
  | refused answers =>
      cases answers with
      | unpictured refuses =>
          obtain ⟨error, refused, blamed⟩ := thumbnail_refused refuses
          exact ⟨_, rfl, .inr ⟨error, refused, rfl, blamed⟩⟩

end Rules

/-! ## The worker's functions -/

section Functions

open Surroundings

variable {around : Surroundings} {worker : SourceValidationWorker} {source : ProcessingSource}

theorem sent_log (request : ProviderRequest) (world : World) :
    (world.sent request).log = world.log := by
  unfold World.sent
  split <;> rfl

theorem fineRequest_ok {request : ProviderRequest} {answer : Except ProviderError request.Output}
    (fine : around.FineRequest request answer) : ∃ output, answer = .ok output := by
  cases request with
  | getObject bucket key => exact ⟨_, fine.1⟩
  | _ => exact fine

/-- A request to the provider, with its answer as it comes. -/
theorem ends_answer {ε : Type} (request : ProviderRequest) (world : World)
    {failed : ε → World → Prop} :
    (Attempt.lift (Program.request (Ask.provider request)) : Action ε _).Ends (around.Answers worker)
      world (fun answer after => around.FineRequest request answer ∧ after = world.sent request)
      failed := by
  refine Attempt.ends_lift (Program.ends_ask fun answer after answered => Program.ends_done ?_)
  cases answered with
  | sent fine => exact ⟨fine, rfl⟩

/-- A request to the provider through the adapter. -/
theorem calm_sent {bad : ObjectStoreError → Prop} (request : ProviderRequest) :
    Calm around worker World.log (fun _ => True) bad (sent request) := by
  intro world
  refine Attempt.ends_mapError (Program.ends_ask fun answer after answered => Program.ends_done ?_)
  cases answered with
  | sent fine =>
      obtain ⟨output, rfl⟩ := fineRequest_ok fine
      exact ⟨sent_log request world, trivial⟩

/-- A response of the recorded length is taken. -/
theorem downloadOutcome_ok {length : Nat} (fits : length < 2 ^ 64) :
    S3CompatibleStore.downloadOutcome length (.ok (some (length : Int))) = .ok () := by
  have converted : (some (length : Int)).bind u64TryFrom = some length := by
    rw [Option.bind_some]
    exact u64TryFrom_eq_some.2 ⟨rfl, fits⟩
  rw [S3CompatibleStore.downloadOutcome]
  exact if_pos converted

/-- A download of an object of the recorded length arrives; a watermark has its digest then. -/
theorem ends_downloadTo {bad : ObjectStoreError → Prop} {s3 : S3CompatibleStore} {key : ObjectKey}
    {file : JobFile} {expectedLength maxLength : Nat}
    (recorded : expectedLength = around.lengths key.asStr)
    (invalid : (expectedLength != 0 && decide (expectedLength ≤ maxLength)) = false →
      bad (.invalidRequest "download length violates the worker byte cap")) (world : World) :
    (s3.downloadTo key file expectedLength maxLength).Ends (around.Answers worker) world
      (fun _ after => after.log = world.log ∧
        (file = .watermark → after.fetched = around.digests key.asStr))
      (fun error after => after.log = world.log ∧ bad error) := by
  have checked : Calm around worker (fun world => world) (fun _ => True) bad
      (Attempt.ensure (expectedLength != 0 && decide (expectedLength ≤ maxLength))
        (.invalidRequest "download length violates the worker byte cap")) :=
    (calm_ensure invalid).mono (fun _ _ => trivial) fun _ kept => kept
  refine Attempt.ends_bind ((checked world).mono (fun _ _ kept => kept) ?_) ?_
  · exact fun _ _ kept => ⟨congrArg World.log kept.1, kept.2⟩
  rintro _ opening ⟨rfl, -⟩
  refine Attempt.ends_bind (ends_answer (.getObject s3.bucket key.asStr) opening) ?_
  rintro answer _ ⟨⟨rfl, fits⟩, rfl⟩
  rw [recorded, downloadOutcome_ok fits]
  have fetched : (Attempt.ofExcept (.ok ()) : Action ObjectStoreError Unit).Ends
      (around.Answers worker) (opening.sent (.getObject s3.bucket key.asStr))
      (fun _ after => after = opening.sent (.getObject s3.bucket key.asStr))
      (fun error after => after.log = opening.log ∧ bad error) := Attempt.ends_ofExcept rfl
  refine Attempt.ends_bind fetched ?_
  rintro _ _ rfl
  refine Attempt.ends_bind (ends_host (.saveDownload file) nofun _) ?_
  rintro saved _ ⟨rfl, rfl⟩
  refine Attempt.ends_ofExcept ⟨hosted_log _ _, ?_⟩
  rintro rfl
  rfl

theorem calm_downloadTo {bad : ObjectStoreError → Prop} {s3 : S3CompatibleStore} {key : ObjectKey}
    {file : JobFile} {expectedLength maxLength : Nat}
    (recorded : expectedLength = around.lengths key.asStr)
    (invalid : (expectedLength != 0 && decide (expectedLength ≤ maxLength)) = false →
      bad (.invalidRequest "download length violates the worker byte cap")) :
    Calm around worker World.log (fun _ => True) bad
      (s3.downloadTo key file expectedLength maxLength) :=
  fun world => (ends_downloadTo recorded invalid world).mono
    (fun _ _ kept => ⟨kept.1, trivial⟩) fun _ _ kept => kept

theorem spares_storage (error : ObjectStoreError) : Spares (classifyStorageError error) := by
  cases error <;> trivial

/-- A file other than the watermark has some digest. -/
theorem calm_sha256File {file : JobFile} {failure : ProcessingFailure} (other : file ≠ .watermark) :
    Calm around worker World.log (fun _ => True) Spares
      (SourceValidationWorker.sha256File file failure) := by
  refine calm_bind (calm_host (.sha256File file) nofun) fun digest ⟨_, fine⟩ => ?_
  have found : ∃ found, digest = some found := by
    cases file with
    | watermark => exact absurd rfl other
    | source | master | thumbnail => exact fine
  obtain ⟨found, rfl⟩ := found
  exact (calm_okOr nofun).mono (fun _ _ => trivial) fun _ none => none

/-- The watermark has the digest it was fetched with. -/
theorem ends_watermarkDigest {α : Type} {failure mismatch : ProcessingFailure} {digest : String}
    {value : α} {world : World} (fetched : world.fetched = digest) :
    (do let found ← SourceValidationWorker.sha256File .watermark failure
        Attempt.ensure (found == digest) mismatch
        pure value : Action ProcessingFailure α).Ends (around.Answers worker) world
      (fun _ after => after = world) (fun _ _ => False) := by
  have hashed : (SourceValidationWorker.sha256File .watermark failure).Ends (around.Answers worker)
      world (fun found after => found = digest ∧ after = world) (fun _ _ => False) := by
    refine Attempt.ends_bind (ends_host (.sha256File .watermark) nofun world) ?_
    rintro found _ ⟨rfl, rfl⟩
    exact Attempt.ends_okOr (fun _ same => ⟨(Option.some.inj same).symm.trans fetched, rfl⟩) nofun
  refine Attempt.ends_bind hashed ?_
  rintro found _ ⟨rfl, rfl⟩
  rw [beq_self_eq_true]
  exact Attempt.ends_pure rfl

theorem calm_prepareObjectWatermark {revision : Nat} {stored : StoredWatermarkPolicy}
    (has : around.HasAsset stored) : Calm around worker World.log (fun _ => True) Spares
      (worker.prepareObjectWatermark revision stored) := by
  obtain ⟨digest, length, positive, bounded⟩ := has
  intro world
  have downloads : (worker.rawStore.downloadTo stored.objectKey .watermark stored.byteLen
      maxWatermarkBytes).Ends (around.Answers worker) world
        (fun _ after => after.log = world.log ∧
          (JobFile.watermark = .watermark → after.fetched = around.digests stored.objectKey.asStr))
        (fun _ after => after.log = world.log ∧ False) := by
    refine ends_downloadTo length (fun invalid => ?_) world
    have accepted : (stored.byteLen != 0 && decide (stored.byteLen ≤ maxWatermarkBytes)) = true := by
      simp [Nat.pos_iff_ne_zero.1 positive, bounded]
    rw [accepted] at invalid
    cases invalid
  refine Attempt.ends_bind (Attempt.ends_mapError (downloads.mono (fun _ _ kept => kept)
    fun _ _ none => none.2.elim)) ?_
  rintro _ after ⟨log, fetched⟩
  apply (ends_watermarkDigest ((fetched rfl).trans digest.symm)).mono
  · rintro _ _ rfl
    exact ⟨log, trivial⟩
  · exact fun _ _ none => none.elim

theorem calm_prepareConfiguredWatermark {configured : WatermarkPolicy}
    (has : worker.policy.watermark = some configured) : Calm around worker World.log (fun _ => True)
      Spares (SourceValidationWorker.prepareConfiguredWatermark configured) := by
  intro world
  refine Attempt.ends_bind (ends_host .copyWatermarkAsset nofun world) ?_
  rintro _ _ ⟨⟨⟨copied, rfl, positive, bounded⟩, digest⟩, rfl⟩
  have accepted : (copied != 0 && decide (copied ≤ maxWatermarkBytes)) = true := by
    simp [Nat.pos_iff_ne_zero.1 positive, bounded]
  have counted : (Attempt.okOr (some copied)
      (.operational "WATERMARK_ASSET_UNAVAILABLE") : Action ProcessingFailure Nat).Ends
      (around.Answers worker) (around.hosted world .copyWatermarkAsset)
      (fun length after => length = copied ∧ after = around.hosted world .copyWatermarkAsset)
      (fun error after => after.log = world.log ∧ Spares error) :=
    Attempt.ends_okOr (fun _ found => ⟨(Option.some.inj found).symm, rfl⟩) nofun
  refine Attempt.ends_bind counted ?_
  rintro _ _ ⟨rfl, rfl⟩
  rw [accepted]
  apply (ends_watermarkDigest (digest configured has).symm).mono
  · rintro _ _ rfl
    exact ⟨rfl, trivial⟩
  · exact fun _ _ none => none.elim

/-- The watermark of the job is there. -/
theorem calm_prepareWatermark {tenantId : String} {revision : Option Nat} :
    Calm around worker World.log (fun _ => True) Spares (worker.prepareWatermark tenantId revision) := by
  cases revision with
  | none =>
      unfold SourceValidationWorker.prepareWatermark
      cases watermark : worker.policy.watermark with
      | none => exact calm_pure trivial
      | some policy =>
          exact calm_bind (calm_prepareConfiguredWatermark watermark) fun _ _ => calm_pure trivial
  | some revision =>
      refine calm_bind (calm_mapError ((calm_call _ fun _ => rfl).mono (fun _ fine => fine)
        fun _ none => none.elim)) fun found fine => ?_
      obtain ⟨snapshot, same, numbered, owned, stored⟩ := fine
      obtain rfl := Except.ok.inj same
      refine calm_bind (calm_okOr nofun) fun _ found => ?_
      obtain rfl := Option.some.inj found
      have valid : (snapshot.revision == revision && snapshot.tenantId == tenantId) = true := by
        rw [numbered, owned, beq_self_eq_true, beq_self_eq_true]
        rfl
      rw [valid]
      refine calm_bind (calm_ensure nofun) fun _ _ => ?_
      cases watermark : snapshot.watermark with
      | none => exact calm_pure trivial
      | some policy =>
          exact calm_bind (calm_prepareObjectWatermark (stored policy watermark))
            fun _ _ => calm_pure trivial

theorem calm_derivativeKey {digest presetId name : String} : Calm around worker World.log (fun _ => True)
    Spares (SourceValidationWorker.derivativeKey source digest presetId name) :=
  (calm_okOr fun _ => trivial).mono (fun _ _ => trivial) fun _ spared => spared

theorem calm_putFile {bad : ObjectStoreError → Prop} {s3 : S3CompatibleStore} {key : ObjectKey}
    {file : JobFile} {contentType : String} (bads : ∀ error, bad error) :
    Calm around worker World.log (fun _ => True) bad (s3.putFile key file contentType) := by
  refine calm_bind (calm_ensure fun _ => bads _) fun _ _ => ?_
  refine calm_bind (calm_host (.fileLength file) nofun) fun length ⟨_, fine⟩ => ?_
  refine calm_bind (calm_okOr fun _ => bads _) fun _ _ => ?_
  refine calm_bind (calm_ensure fun _ => bads _) fun _ _ => ?_
  refine calm_bind (calm_ensure fun _ => bads _) fun _ _ => ?_
  exact calm_bind (calm_sent _) fun _ _ => calm_pure trivial

theorem calm_uploadGeneratedDerivative {file : JobFile} {key : ObjectKey}
    {presetId variant contentType : String} (other : file ≠ .watermark) :
    Calm around worker World.log (fun _ => True) Spares
      (worker.uploadGeneratedDerivative file key presetId variant contentType) := by
  refine calm_bind (calm_host (.fileLength file) nofun) fun length ⟨_, fine⟩ => ?_
  refine calm_bind (calm_okOr fun _ => trivial) fun _ _ => ?_
  refine calm_bind (calm_ensure fun _ => trivial) fun _ _ => ?_
  refine calm_bind (calm_sha256File other) fun _ _ => ?_
  refine calm_bind (calm_mapError (calm_putFile spares_storage)) fun _ _ => ?_
  exact calm_bind (calm_ensure fun _ => trivial) fun _ _ => calm_pure trivial

/-- A master is stored, or the sandbox refuses to render it. -/
theorem works_storeMaster {digest presetId : String} {watermark : Option WatermarkPolicy}
    (inspection : MediaInspection) : Works around worker (fun _ => True)
      (worker.storeMaster source digest presetId watermark inspection) := by
  cases inspection with
  | image contentType heavy =>
      refine works_sandbox (asks_imageMaster watermark) fun _ => ?_
      refine works_of_calm (calm_bind calm_derivativeKey fun _ _ => ?_)
      exact calm_uploadGeneratedDerivative (by decide)
  | video format contentType =>
      refine works_of_calm (calm_bind (calm_okOr fun _ => trivial) fun _ _ => ?_)
      refine calm_bind calm_derivativeKey fun _ _ => ?_
      refine calm_bind (calm_mapError (calm_putFile spares_storage)) fun _ _ => ?_
      exact calm_bind (calm_ensure fun _ => trivial) fun _ _ => calm_pure trivial

theorem works_storeThumbnail {digest presetId : String} {watermark : Option WatermarkPolicy}
    {inspection : MediaInspection} : Works around worker (fun _ => True)
      (worker.storeThumbnail source digest presetId inspection watermark) := by
  refine works_sandbox (asks_thumbnail inspection watermark) fun _ => ?_
  refine works_of_calm (calm_bind calm_derivativeKey fun _ _ => ?_)
  exact calm_uploadGeneratedDerivative (by decide)

theorem calm_acquire {gate : ResourceGate} {failure : ProcessingFailure} :
    Calm around worker World.log (fun _ => True) Spares (do
      let acquired ← host (.acquire gate)
      Attempt.ensure acquired failure : Action ProcessingFailure Unit) := by
  refine calm_bind (calm_host (.acquire gate) nofun) fun acquired ⟨_, fine⟩ => ?_
  obtain rfl : acquired = true := fine
  exact (calm_ensure nofun).mono (fun _ _ => trivial) fun _ none => none

theorem calm_acquireTransformPermit (inspection : MediaInspection) :
    Calm around worker World.log (fun _ => True) Spares
      (SourceValidationWorker.acquireTransformPermit inspection) := by
  cases inspection with
  | image contentType heavy =>
      cases heavy with
      | false => exact calm_pure trivial
      | true => exact calm_acquire
  | video format contentType => exact calm_acquire

/-- A source is downloaded and looked at, or the sandbox refuses to look at it. -/
theorem works_inspectSource
    (recorded : source.expectedSizeBytes = around.lengths source.objectKey.asStr) :
    Works around worker (fun _ => True) (worker.inspectSource source) := by
  refine works_bind (works_of_calm (calm_ensure fun _ => trivial)) fun _ small => ?_
  have admitted : source.expectedSizeBytes ≤ worker.maxLength source.declaredKind :=
    of_decide_eq_true small
  have permits := reservedPermits_eq (⟨source.declaredKind, _, admitted⟩ : AdmittedJob worker)
  have acquires : Calm around worker World.log (fun _ => True) Spares
      (worker.acquireTempDiskPermit source.expectedSizeBytes) := by
    unfold SourceValidationWorker.acquireTempDiskPermit
    rw [permits]
    exact calm_bind (calm_okOr nofun) fun _ _ => calm_acquire
  refine works_bind (works_of_calm acquires) fun _ _ => ?_
  refine works_bind (works_of_calm (calm_host .createJobDirectory nofun)) fun created ⟨_, fine⟩ => ?_
  refine works_bind (works_of_calm (calm_ensure fun _ => trivial)) fun _ _ => ?_
  refine works_bind (works_of_calm (calm_mapError (calm_downloadTo recorded fun _ => trivial)))
    fun _ _ => ?_
  refine works_bind (works_of_calm (calm_host (.detectFile source.declaredKind) nofun))
    fun detected _ => ?_
  refine works_bind (works_of_calm (calm_ensure fun _ => trivial)) fun _ _ => ?_
  refine works_bind (works_of_calm (calm_sha256File (by decide))) fun digest _ => ?_
  refine works_sandbox (asks_inspect source.declaredKind) fun inspection => ?_
  exact works_of_calm (calm_pure trivial)

theorem calm_recordStart {digest contentType : String} : Calm around worker World.log (fun _ => True) Spares
    (SourceValidationWorker.recordStart source digest contentType) := by
  unfold SourceValidationWorker.recordStart
  split
  · refine calm_bind calm_now fun startedAt _ => ?_
    exact calm_mapError ((calm_call _ fun _ => rfl).mono (fun _ _ => trivial) fun _ none => none.elim)
  · exact (calm_ensure fun _ => trivial).mono (fun _ _ => trivial) fun _ spared => spared

theorem works_validateDownloadedSource {revision : Option Nat}
    (recorded : source.expectedSizeBytes = around.lengths source.objectKey.asStr) :
    Works around worker (fun _ => True) (worker.validateDownloadedSource source revision) := by
  refine works_bind (works_inspectSource recorded) fun (digest, inspection) _ => ?_
  refine works_bind (works_of_calm (calm_acquireTransformPermit inspection)) fun _ _ => ?_
  refine works_bind (works_of_calm calm_recordStart) fun _ _ => ?_
  refine works_bind (works_of_calm calm_prepareWatermark) fun watermark _ => ?_
  refine works_bind (works_storeMaster inspection) fun master _ => ?_
  refine works_bind works_storeThumbnail fun thumbnail _ => ?_
  refine works_bind (works_of_calm calm_now) fun publishedAt _ => works_of_calm ?_
  exact calm_mapError ((calm_call _ fun _ => rfl).mono (fun _ _ => trivial) fun _ none => none.elim)

/-- **The work on a job ends well, spares the worker, or ends at a refusal.** -/
theorem works_validateSource {uploadId : UploadId} {revision : Option Nat} :
    Works around worker (fun _ => True) (worker.validateSource uploadId revision) := by
  refine works_bind (works_of_calm (calm_mapError ((calm_call _ fun _ => rfl).mono (fun _ fine => fine)
    fun _ none => none.elim))) fun found fine => ?_
  obtain ⟨read, same, recorded⟩ := fine
  obtain rfl := Except.ok.inj same
  refine works_bind (works_of_calm (calm_okOr fun _ => trivial)) fun source there => ?_
  split
  · exact works_of_calm (calm_pure trivial)
  · refine works_bind (works_of_calm (calm_ensure fun _ => trivial)) fun _ _ => ?_
    exact works_validateDownloadedSource (recorded source there)

/-! ## One run of the worker -/

/-- The work beside its heartbeats ends as it does alone. -/
theorem ends_interleaved {beat : Action WorkerError Unit} {α : Type} {post : α → World → Prop}
    (beats : Calm around worker (fun world => world) (fun _ => True) (fun _ => False) beat)
    {work : Program Answer α} {world : World} (ends : work.Ends (around.Answers worker) world post) :
    (interleaved beat work).Ends (around.Answers worker) world post fun _ _ => False := by
  have many : ∀ due, Calm around worker (fun world => world) (fun _ => True) (fun _ => False)
      (Service.beats beat due) := by
    intro due
    induction due with
    | zero => exact calm_pure trivial
    | succ due ih => exact calm_bind beats fun _ _ => ih
  have due : ∀ world, (dueBeats beat).Ends (around.Answers worker) world
      (fun _ after => after = world) fun _ _ => False := by
    intro world
    have calm : Calm around worker (fun world => world) (fun _ => True) (fun _ => False)
        (dueBeats beat) := calm_bind calm_heartbeats fun due _ => many due
    exact (calm world).mono (fun _ _ kept => kept.1) fun _ _ none => none.2
  induction work generalizing world with
  | done result =>
      refine Attempt.ends_bind (due world) ?_
      rintro _ after rfl
      exact Attempt.ends_pure (ends result after .done)
  | ask request next ih =>
      refine Attempt.ends_bind (due world) ?_
      rintro _ after rfl
      have asks : (Attempt.lift (Program.request request) : Action WorkerError _).Ends
          (around.Answers worker) after (around.Answers worker after request) fun _ _ => False :=
        Attempt.ends_lift (Program.ends_ask fun answer middle answered => Program.ends_done answered)
      refine Attempt.ends_bind asks fun answer middle answered => ?_
      exact ih answer fun result final ran => ends result final (.ask answered ran)

theorem calm_renewLease {jobId : JobId} {workerId : String} :
    Calm around worker (fun world => world) (fun _ => True) (fun _ => False)
      (worker.renewLease jobId workerId) := by
  refine calm_bind calm_now fun _ _ => ?_
  exact calm_bind (calm_mapError (calm_call _ fun _ => rfl)) fun _ _ => calm_pure trivial

/-- How a job ends that was refused: its upload is rejected and the job completed, or the job is
given back, to be retried or dead, with its upload rejected if it was the last attempt. -/
inductive Ending (leased : LeasedProcessingJob) : List Record → RunOutcome → Prop
  | rejected : Ending leased [.rejected leased.job.uploadId, .completed leased.jobId] .rejected
  | given (disposition : JobFailureDisposition) :
      Ending leased [.failed leased.jobId disposition] (runOutcome disposition)
  | last (disposition : JobFailureDisposition) :
      Ending leased [.rejected leased.job.uploadId, .failed leased.jobId disposition]
        (runOutcome disposition)

/-- A run after which the slot goes on: there was no job, or one of which nothing was refused, or
one that has ended after a refusal that is not the renderer's. -/
inductive Goes : List Record → RunOutcome → Prop
  | idle : Goes [] .idle
  | unrefused {leased : LeasedProcessingJob} {records : List Record} {outcome : RunOutcome}
      (ends : Ending leased records outcome ∨
        (records = [.completed leased.jobId] ∧ outcome = .completed)) :
      Goes (.claimed leased :: records) outcome
  | spared {leased : LeasedProcessingJob} {request : HostRequest} {records : List Record}
      {outcome : RunOutcome} (spares : blamesRenderer request = false)
      (ends : Ending leased records outcome) :
      Goes (.claimed leased :: .refused request :: records) outcome

/-- A run whose refusal is the renderer's. -/
def Halts (error : WorkerError) (records : List Record) : Prop :=
  ∃ leased request, records = [.claimed leased, .refused request] ∧ blamesRenderer request = true ∧
    error = .operational "MEDIA_RENDERER_UNAVAILABLE"

section Settling

variable {leased : LeasedProcessingJob} {workerId code : String}

theorem logs_rejectUpload {uploadId : UploadId} :
    Logs around worker (fun _ added => added = [.rejected uploadId]) (fun _ _ => False)
      (SourceValidationWorker.rejectUpload uploadId code) := by
  refine logs_after calm_now fun _ _ => logs_mapError ?_
  exact (logs_call _).mono (fun _ _ same => same) fun _ _ none => none

theorem logs_completeJob {jobId : JobId} :
    Logs around worker (fun _ added => added = [.completed jobId]) (fun _ _ => False)
      (SourceValidationWorker.completeJob jobId workerId) := by
  refine logs_after calm_now fun _ _ => logs_mapError ?_
  exact (logs_call _).mono (fun _ _ same => same) fun _ _ none => none

theorem logs_failJob : Logs around worker
    (fun outcome added => ∃ disposition, added = [.failed leased.jobId disposition] ∧
      outcome = runOutcome disposition) (fun _ _ => False) (worker.failJob leased workerId code) := by
  refine logs_after calm_now fun failedAt inside => ?_
  obtain ⟨retryAt, shifted⟩ := Option.isSome_iff_exists.1 inside
  rw [shifted]
  refine logs_after (calm_okOr nofun) fun _ _ => ?_
  refine logs_bind (logs_mapError ((logs_call _).mono (fun _ _ same => same) fun _ _ none => none)) ?_
  rintro disposition _ rfl
  exact logs_pure ⟨disposition, rfl, rfl⟩

theorem logs_refuseJob : Logs around worker
    (fun outcome added => ∃ disposition, added = [.failed leased.jobId disposition] ∧
      outcome = runOutcome disposition) (fun _ _ => False)
      (SourceValidationWorker.refuseJob leased workerId) := by
  refine logs_after calm_now fun _ _ => logs_after calm_now fun _ _ => ?_
  refine logs_bind (logs_mapError ((logs_call _).mono (fun _ _ same => same) fun _ _ none => none)) ?_
  rintro disposition _ rfl
  exact logs_pure ⟨disposition, rfl, rfl⟩

/-- A failure that spares the worker rejects the upload or gives the job back. -/
theorem logs_settleJob {failure : ProcessingFailure} (spared : Spares failure) :
    Logs around worker (fun outcome added => Ending leased added outcome) (fun _ _ => False)
      (worker.settleJob leased workerId (.error failure)) := by
  cases failure with
  | operational code => exact spared.elim
  | permanent code =>
      refine logs_bind logs_rejectUpload ?_
      rintro _ _ rfl
      refine logs_bind logs_completeJob ?_
      rintro _ _ rfl
      exact logs_pure .rejected
  | transient code =>
      show Logs around worker _ _ (if worker.policy.maxAttempts ≤ leased.attempts then do
          SourceValidationWorker.rejectUpload leased.job.uploadId code
          worker.failJob leased workerId code
        else worker.failJob leased workerId code)
      split
      · refine logs_bind logs_rejectUpload ?_
        rintro _ _ rfl
        apply logs_failJob.mono
        · rintro _ _ ⟨disposition, rfl, rfl⟩
          exact .last disposition
        · exact fun _ _ none => none
      · apply logs_failJob.mono
        · rintro _ _ ⟨disposition, rfl, rfl⟩
          exact .given disposition
        · exact fun _ _ none => none

/-- The work beside its heartbeats, and the settling of its job: the run halts at a refusal of the
renderer's, and the job is settled otherwise. -/
theorem logs_settled {uploadId : UploadId} {revision : Option Nat} :
    Logs around worker (fun outcome records => Goes (.claimed leased :: records) outcome)
      (fun error records => Halts error (.claimed leased :: records)) (do
        let result ← interleaved (worker.renewLease leased.jobId workerId)
          (worker.validateSource uploadId revision).attempt
        worker.settleJob leased workerId result) := by
  have works : Works around worker (fun _ => True) (worker.validateSource uploadId revision) :=
    works_validateSource
  intro world
  refine Attempt.ends_bind ((ends_interleaved calm_renewLease (works world)).mono
    (fun _ _ worked => worked) nofun) ?_
  intro result after worked
  cases result with
  | ok value =>
      obtain ⟨_, log, rfl, -⟩ := worked
      rw [List.append_nil] at log
      have completes : Logs around worker (fun outcome records => Goes (.claimed leased :: records) outcome)
          (fun error records => Halts error (.claimed leased :: records))
          (worker.settleJob leased workerId (.ok value)) := by
        refine logs_bind (logs_completeJob.mono (fun _ _ same => same) fun _ _ none => none.elim) ?_
        rintro _ _ rfl
        exact logs_pure (.unrefused (.inr ⟨rfl, rfl⟩))
      rw [← log]
      exact completes after
  | error failure =>
      obtain ⟨_, log, ⟨rfl, spared⟩ | ⟨request, rfl, blamed⟩⟩ := worked
      · rw [List.append_nil] at log
        rw [← log]
        apply (logs_settleJob spared after).mono
        · rintro outcome last ⟨added, log, ends⟩
          exact ⟨added, log, .unrefused (.inl ends)⟩
        · exact fun _ _ ⟨_, _, impossible⟩ => impossible.elim
      · unfold BlamedFor at blamed
        split at blamed
        · rename_i renderers
          subst blamed
          exact Attempt.ends_fail ⟨_, log, leased, request, rfl, renderers, rfl⟩
        · rename_i spares
          apply (logs_settleJob blamed after).mono
          · rintro outcome last ⟨added, log', ends⟩
            refine ⟨.refused request :: added, ?_, .spared (Bool.eq_false_iff.2 spares) ends⟩
            rw [log', log, List.append_assoc]
            rfl
          · exact fun _ _ ⟨_, _, impossible⟩ => impossible.elim

end Settling

/-- **A run of the worker goes on after a refusal unless it is the renderer's.** -/
theorem logs_runOne (workerId : String) :
    Logs around worker (fun outcome records => Goes records outcome) Halts
      (worker.runOne workerId) := by
  refine logs_after calm_now fun claimedAt _ => ?_
  refine logs_bind (logs_mapError ((logs_call _).mono (fun _ _ same => same)
    fun _ _ none => none.elim)) ?_
  rintro claimed _ rfl
  cases claimed with
  | none => exact logs_pure .idle
  | some leased =>
      show Logs around worker (fun outcome records => Goes (.claimed leased :: records) outcome)
        (fun error records => Halts error (.claimed leased :: records)) (worker.processJob leased workerId)
      unfold SourceValidationWorker.processJob
      split
      · apply logs_refuseJob.mono
        · rintro _ _ ⟨disposition, rfl, rfl⟩
          exact .unrefused (.inl (.given disposition))
        · exact fun _ _ none => none.elim
      · exact logs_settled

/-! ## A slot -/

/-- `run_slot`: so many runs before it is told to stop, unless one of them fails. -/
def runSlot (worker : SourceValidationWorker) (workerId : String) : Nat → Action WorkerError Unit
  | 0 => pure ()
  | runs + 1 => do
      let _ ← worker.runOne workerId
      runSlot worker workerId runs

/-- How a slot of so many runs comes to its end: it goes on from run to run until it is told to
stop, or to the first refusal that is the renderer's. -/
inductive Stopped : Nat → List Record → Except WorkerError Unit → Prop
  | told : Stopped 0 [] (.ok ())
  | went {runs : Nat} {records later : List Record} {outcome : RunOutcome}
      {result : Except WorkerError Unit} (run : Goes records outcome)
      (rest : Stopped runs later result) : Stopped (runs + 1) (records ++ later) result
  | broken {runs : Nat} {leased : LeasedProcessingJob} {request : HostRequest}
      (renderers : blamesRenderer request = true) :
      Stopped (runs + 1) [.claimed leased, .refused request]
        (.error (.operational "MEDIA_RENDERER_UNAVAILABLE"))

theorem logs_runSlot (workerId : String) (runs : Nat) :
    Logs around worker (fun _ records => Stopped runs records (.ok ()))
      (fun error records => Stopped runs records (.error error))
      (runSlot worker workerId runs) := by
  induction runs with
  | zero => exact logs_pure .told
  | succ runs ih =>
      refine logs_bind ((logs_runOne workerId).mono (fun _ _ goes => goes) ?_) ?_
      · rintro error _ ⟨leased, request, rfl, renderers, rfl⟩
        exact .broken renderers
      · intro outcome records goes
        exact ih.mono (fun _ _ rest => .went goes rest) fun _ _ rest => .went goes rest

/-- **A slot goes on until the sandbox refuses what the client blames on the renderer.** -/
theorem slot_stopped (around : Surroundings) (worker : SourceValidationWorker) (workerId : String)
    (runs : Nat) (opened fetched : String) {result : Except WorkerError Unit} {world : World}
    (ran : Ran (around.Answers worker) (runSlot worker workerId runs).attempt ⟨[], opened, fetched⟩
      result world) : Stopped runs world.log result := by
  have logs := logs_runSlot workerId runs ⟨[], opened, fetched⟩ result world ran
  cases result with
  | ok =>
      obtain ⟨_, log, stopped⟩ := logs
      rw [log]
      exact stopped
  | error error =>
      obtain ⟨_, log, stopped⟩ := logs
      rw [log]
      exact stopped

end Functions

/-! ## A sample slot -/

/-- A watermark the worker is configured with. -/
def sampleWatermark : WatermarkPolicy where
  assetPath := "watermark.png"
  assetSha256 := "0000000000000000000000000000000000000000000000000000000000000000"
  presetRevision := "1"
  position := .center
  marginPx := 0
  maxWidthPercent := 10
  opacityPercent := 50

/-- The sample worker with a watermark. -/
def watermarkedPolicy : WorkerPolicy := { sampleWorkerPolicy with watermark := some sampleWatermark }

theorem watermarkedPolicy_valid : watermarkedPolicy.isValid = true := by decide +kernel

def watermarkedWorker : SourceValidationWorker where
  rawStore := ⟨"raw"⟩
  derivativeStore := ⟨"media"⟩
  policy := watermarkedPolicy
  valid := watermarkedPolicy_valid

/-- Every raw object here has 100 bytes. -/
def sampleSurroundings : Surroundings where
  probe := ⟨1000⟩
  lengths := fun _ => 100
  digests := fun _ => ""
  asset := sampleWatermark.assetSha256

/-- A job on the sample upload. -/
def sampleLease : LeasedProcessingJob where
  jobId := sampleJobId
  job := ⟨sampleUploadId, sourceValidationPreset, none⟩
  attempts := 1
  leaseUntil := sampleTime 60
  enqueuedAt := sampleTime 0

theorem sampleKey_valid : validateObjectKey "raw/g5/1/source" = .ok () := by decide

/-- The quarantined upload. -/
def sampleSource : ProcessingSource where
  uploadId := sampleUploadId
  tenantId := "g5"
  objectKey := ⟨"raw/g5/1/source", sampleKey_valid⟩
  declaredKind := .image
  expectedSizeBytes := 100
  state := .quarantined
  detectedContentType := none
  sourceSha256 := none

/-- Answers of a world in which the sandbox refuses to look at the source of the first job, and
decodes the second one's and cannot render it. -/
def refuseTwice (world : World) : (ask : Ask) → Option (Answer ask × World)
  | .now => some (sampleTime 0, world)
  | .store (.claimNext ..) => some (.ok (some sampleLease), world.record [.claimed sampleLease])
  | .store (.findProcessingSource _) => some (.ok (some sampleSource), world.record [])
  | .store (.startProcessing ..) => some (.ok (), world.record [])
  | .store (.markRejected uploadId ..) => some (.ok (), world.record [.rejected uploadId])
  | .store (.complete jobId ..) => some (.ok (), world.record [.completed jobId])
  | .provider (.getObject _ key) => some (.ok (some 100), { world with opened := key })
  | .host (.inspect kind) =>
      if world.log.length = 1 then
        some (sampleSurroundings.probe.inspect (.exited false 0 0) none,
          world.record [.refused (.inspect kind)])
      else some (hostAnswer (.inspect kind), world)
  | .host (.imageMaster watermark) =>
      some (sampleSurroundings.probe.renderImage watermark (.exited false 0 0) none,
        world.record [.refused (.imageMaster watermark)])
  | .host .copyWatermarkAsset =>
      some (some 100, { world with fetched := sampleSurroundings.asset })
  | .host (.sha256File .watermark) => some (some world.fetched, world)
  | .host (.saveDownload file) => some (.ok (), sampleSurroundings.hosted world (.saveDownload file))
  | .host request => some (hostAnswer request, world)
  | _ => none

theorem sampleLength_fits : 100 < 2 ^ 64 := by decide

theorem refuseTwice_answers (world : World) (ask : Ask) (answer : Answer ask) (after : World)
    (responded : refuseTwice world ask = some (answer, after)) :
    sampleSurroundings.Answers watermarkedWorker world ask answer after := by
  cases ask with
  | now =>
      cases responded
      exact .clock (by decide +kernel)
  | drawId | presignPut | presignPart => cases responded
  | provider request =>
      cases request with
      | getObject bucket key =>
          cases responded
          exact .sent ⟨rfl, sampleLength_fits⟩
      | _ => cases responded
  | store op =>
      cases op with
      | claimNext =>
          cases responded
          exact .called ⟨_, rfl⟩
      | findProcessingSource id =>
          cases responded
          refine .called ⟨_, rfl, ?_⟩
          intro source found
          cases found
          rfl
      | startProcessing =>
          cases responded
          exact .called ⟨(), rfl⟩
      | markRejected =>
          cases responded
          exact .called ⟨(), rfl⟩
      | complete =>
          cases responded
          exact .called ⟨(), rfl⟩
      | _ => cases responded
  | host request =>
      cases request with
      | imageMaster watermark =>
          cases responded
          exact .refused (.unmastered .exited)
      | inspect kind =>
          rw [refuseTwice] at responded
          split at responded
          · cases responded
            exact .refused (.uninspected .exited)
          · cases responded
            exact .accepted (.inspected _)
      | renderThumbnail inspection watermark =>
          cases responded
          exact .accepted .pictured
      | sha256File file =>
          cases file with
          | watermark =>
              cases responded
              exact .hosted rfl
          | source | master | thumbnail =>
              cases responded
              exact .hosted ⟨_, rfl⟩
      | fileLength file =>
          cases responded
          exact .hosted ⟨_, rfl⟩
      | copyWatermarkAsset =>
          cases responded
          refine .hosted ⟨⟨100, rfl, by decide, by decide⟩, ?_⟩
          rintro configured watermark
          cases watermark
          rfl
      | heartbeats =>
          cases responded
          exact .hosted trivial
      | detectFile kind =>
          cases responded
          exact .hosted trivial
      | acquire gate =>
          cases responded
          exact .hosted rfl
      | createJobDirectory =>
          cases responded
          exact .hosted rfl
      | saveDownload file =>
          cases responded
          exact .hosted rfl

/-- A source the sandbox does not look at is rejected, and an image it cannot render with its
watermark ends the slot in the next run. -/
theorem slot_stopped_watermarked : ∃ world,
    Ran (sampleSurroundings.Answers watermarkedWorker) (runSlot watermarkedWorker "w" 3).attempt
      ⟨[], "", ""⟩ (.error (.operational "MEDIA_RENDERER_UNAVAILABLE")) world ∧
    world.log.length = 6 ∧
    Stopped 3 world.log (.error (.operational "MEDIA_RENDERER_UNAVAILABLE")) := by
  have led : (Program.runWith refuseTwice (runSlot watermarkedWorker "w" 3).attempt ⟨[], "", ""⟩).any
      (fun ended => ended.1 == .error (.operational "MEDIA_RENDERER_UNAVAILABLE") &&
        ended.2.log.length == 6) = true := by
    decide +kernel
  obtain ⟨⟨result, world⟩, ended, same⟩ := (Option.any_eq_true _ _).1 led
  obtain ⟨failed, six⟩ := Bool.and_eq_true_iff.1 same
  obtain rfl := eq_of_beq failed
  have ran := ran_runWith refuseTwice_answers ended
  exact ⟨world, ran, eq_of_beq six, slot_stopped sampleSurroundings watermarkedWorker "w" 3 "" "" ran⟩

end MediaBooster.Processing
