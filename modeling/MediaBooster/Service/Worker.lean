/-
# Service.Worker -- the source-validation worker

`runOne` claims at most one job and works on it: the source is downloaded, looked at, recorded
as started, rendered, stored and published.  Beside the work runs the heartbeat, which renews
the lease; a renewal that fails ends the run.  How the work ended decides what the queue is
told: a success completes the job, a permanent failure rejects the upload and completes the
job, a transient one rejects the upload on the last attempt and fails the job, and an
operational one tells the queue nothing and leaves the lease to expire.

The heartbeat is `interleaved` with the work: before every exchange of the work, and before
its end, the host says how many beats were due.  Clock readings are free, so a beat that fires
while an exchange is under way is one that comes before or after it.
-/
import MediaBooster.Domain.Keys
import MediaBooster.Service.ObjectStore

namespace MediaBooster.Service

set_option autoImplicit false

open MediaBooster.Domain MediaBooster.Media MediaBooster.Storage MediaBooster.Store
open MediaBooster.Theory.Threads

/-! ## Policy -/

/-- `SOURCE_VALIDATION_PRESET`. -/
def sourceValidationPreset : String := "source-validation-v1"

/-- `DEFAULT_DERIVATIVE_PRESET`. -/
def defaultDerivativePreset : String := "board-default-v1"

/-- `MAX_WATERMARK_BYTES`. -/
def maxWatermarkBytes : Nat := 16 * 1024 * 1024

/-- `TEMP_DISK_PERMIT_BYTES`. -/
def tempDiskPermitBytes : Nat := 1024 * 1024

/-- `MAX_TEMP_DISK_BYTES`. -/
def maxTempDiskTotal : Nat := 1024 * 1024 * 1024 * 1024

namespace WatermarkPolicy

/-- `WatermarkPolicy::is_valid`. -/
def isValid (watermark : WatermarkPolicy) : Bool :=
  !watermark.assetPath.isEmpty && sha256Token watermark.assetSha256 &&
    narrowToken watermark.presetRevision 32 && decide (watermark.marginPx ≤ 1024) &&
    decide (1 ≤ watermark.maxWidthPercent ∧ watermark.maxWidthPercent ≤ 50) &&
    decide (1 ≤ watermark.opacityPercent ∧ watermark.opacityPercent ≤ 100)

/-- `WatermarkPolicy::preset_id`. -/
def presetId (watermark : WatermarkPolicy) : String :=
  defaultDerivativePreset ++ "-wm-" ++ watermark.presetRevision ++ "-" ++ watermark.assetSha256

end WatermarkPolicy

/-- Worker resource and retry policy. -/
structure WorkerPolicy where
  leaseFor : Duration
  heartbeatEvery : Duration
  retryDelay : Duration
  maxAttempts : Nat
  maxConcurrentHeavyImages : Nat
  maxConcurrentVideos : Nat
  maxImageBytes : Nat
  maxVideoBytes : Nat
  maxTempDiskBytes : Nat
  tempDirectory : String
  watermark : Option WatermarkPolicy
deriving DecidableEq

/-- `required_temp_disk_bytes`. -/
def requiredTempDiskBytes (maxImageBytes maxVideoBytes : Nat) : Option Nat := do
  let images ← u64CheckedMul maxImageBytes 2
  let sources ← u64CheckedAdd images (max maxImageBytes maxVideoBytes)
  u64CheckedAdd sources maxWatermarkBytes

/-- `temp_disk_permits`. -/
def tempDiskPermits (bytes : Nat) : Option Nat :=
  u32TryFrom
    (bytes / tempDiskPermitBytes + if bytes % tempDiskPermitBytes = 0 then 0 else 1 : Nat)

/-- `WorkerPolicy::validate`. -/
def WorkerPolicy.isValid (policy : WorkerPolicy) : Bool :=
  !policy.leaseFor.isZero && !policy.heartbeatEvery.isZero &&
    decide (min (policy.heartbeatEvery.nanos * 2) (2 ^ 64 * 1000000000 - 1) <
      policy.leaseFor.nanos) &&
    !policy.retryDelay.isZero && policy.maxAttempts != 0 &&
    decide (1 ≤ policy.maxConcurrentHeavyImages ∧ policy.maxConcurrentHeavyImages ≤ 32) &&
    decide (1 ≤ policy.maxConcurrentVideos ∧ policy.maxConcurrentVideos ≤ 32) &&
    policy.maxImageBytes != 0 && policy.maxVideoBytes != 0 &&
    (requiredTempDiskBytes policy.maxImageBytes policy.maxVideoBytes).any
      (fun required => decide (required ≤ policy.maxTempDiskBytes)) &&
    decide (policy.maxTempDiskBytes ≤ maxTempDiskTotal) &&
    (tempDiskPermits policy.maxTempDiskBytes).isSome && !policy.tempDirectory.isEmpty &&
    policy.watermark.all WatermarkPolicy.isValid

/-! ## Outcomes -/

/-- Stable result of attempting one queue claim. -/
inductive RunOutcome
  | idle
  | completed
  | rejected
  | retryScheduled
  | deadLetter
deriving DecidableEq

inductive WorkerError
  | invalidPolicy
  | queue (error : JobQueueError)
  | repository (error : ProcessingRepositoryError)
  | operational (code : String)
deriving DecidableEq

inductive ProcessingFailure
  | permanent (code : String)
  | transient (code : String)
  | operational (code : String)
deriving DecidableEq

/-- `impl From<JobFailureDisposition> for RunOutcome`. -/
def runOutcome : JobFailureDisposition → RunOutcome
  | .retryScheduled => .retryScheduled
  | .deadLetter => .deadLetter

/-- `classify_storage_error`. -/
def classifyStorageError : ObjectStoreError → ProcessingFailure
  | .contentLengthMismatch | .invalidRequest _ => .permanent "SOURCE_LENGTH_REJECTED"
  | .notFound => .transient "SOURCE_NOT_FOUND"
  | .backend _ => .transient "STORAGE_UNAVAILABLE"

/-- `classify_sandbox_error`. -/
def classifySandboxError : SandboxProbeError → ProcessingFailure
  | .operational => .operational "MEDIA_RENDERER_UNAVAILABLE"
  | .rejected => .permanent "MEDIA_DECODER_REJECTED"
  | .timeout => .transient "MEDIA_PROBE_TIMEOUT"
  | .invalidConfiguration | .spawn | .outputTooLarge | .invalidJson | .output =>
      .transient "SANDBOX_UNAVAILABLE"
  | .invalidOutput => .permanent "THUMBNAIL_REJECTED"

/-- `video_master_extension`. -/
def videoMasterExtension : MediaFormat → Option String
  | .mp4 => some "mp4"
  | .quickTime => some "mov"
  | .webm => some "webm"
  | .jpeg | .png | .gif | .webp | .avif | .heif => none

/-- The content type the sandbox detected. -/
def MediaInspection.contentType : MediaInspection → String
  | .image contentType _ | .video _ contentType => contentType

/-! ## The heartbeat -/

/-- So many beats, one after the other. -/
def beats {ε : Type} (beat : Action ε Unit) : Nat → Action ε Unit
  | 0 => pure ()
  | due + 1 => do
      beat
      beats beat due

/-- The beats that are due. -/
def dueBeats {ε : Type} (beat : Action ε Unit) : Action ε Unit := do
  let due ← host .heartbeats
  beats beat due

/-- The work, with the beats that are due before each of its exchanges and before its end. -/
def interleaved {ε α : Type} (beat : Action ε Unit) : Program Answer α → Action ε α
  | .done result => do
      dueBeats beat
      return result
  | .ask request next => do
      dueBeats beat
      let answer ← Attempt.lift (Program.request request)
      interleaved beat (next answer)

/-! ## The worker -/

/-- Durable single-job worker. -/
structure SourceValidationWorker where
  rawStore : S3CompatibleStore
  derivativeStore : S3CompatibleStore
  policy : WorkerPolicy
  valid : policy.isValid = true

namespace SourceValidationWorker

variable (worker : SourceValidationWorker)

/-- The permits a source is reserved temporary disk with. -/
def reservedPermits (sourceBytes : Nat) : Option Nat := do
  let images ← u64CheckedMul worker.policy.maxImageBytes 2
  let bytes ← u64CheckedAdd sourceBytes images
  let reservation ← u64CheckedAdd bytes maxWatermarkBytes
  tempDiskPermits reservation

/-- `acquire_temp_disk_permit`. -/
def acquireTempDiskPermit (sourceBytes : Nat) : Action ProcessingFailure Unit := do
  let permits ← Attempt.okOr (worker.reservedPermits sourceBytes)
    (.operational "TEMP_DISK_RESERVATION_INVALID")
  let acquired ← host (.acquire (.tempDisk permits))
  Attempt.ensure acquired (.operational "RESOURCE_GATE_CLOSED")

/-- `acquire_transform_permit`. -/
def acquireTransformPermit : MediaInspection → Action ProcessingFailure Unit
  | .image _ false => pure ()
  | .image _ true => do
      let acquired ← host (.acquire .heavyImage)
      Attempt.ensure acquired (.operational "RESOURCE_GATE_CLOSED")
  | .video _ _ => do
      let acquired ← host (.acquire .video)
      Attempt.ensure acquired (.operational "RESOURCE_GATE_CLOSED")

/-- `sha256_file`. -/
def sha256File (file : JobFile) (failure : ProcessingFailure) : Action ProcessingFailure String := do
  let digest ← host (.sha256File file)
  Attempt.okOr digest failure

/-- `prepare_object_watermark`. -/
def prepareObjectWatermark (revision : Nat) (stored : StoredWatermarkPolicy) :
    Action ProcessingFailure WatermarkPolicy := do
  Attempt.mapError (fun _ => .operational "WATERMARK_ASSET_UNAVAILABLE")
    (worker.rawStore.downloadTo stored.objectKey .watermark stored.byteLen maxWatermarkBytes)
  let digest ← sha256File .watermark (.operational "WATERMARK_ASSET_UNAVAILABLE")
  Attempt.ensure (digest == stored.assetSha256) (.operational "WATERMARK_DIGEST_MISMATCH")
  return ⟨"registered-watermark", stored.assetSha256, "g7-r" ++ toString revision,
    stored.position, stored.marginPx, stored.maxWidthPercent, stored.opacityPercent⟩

/-- The configured watermark, copied into the directory of the job. -/
def prepareConfiguredWatermark (configured : WatermarkPolicy) :
    Action ProcessingFailure WatermarkPolicy := do
  let length ← host .copyWatermarkAsset
  let copied ← Attempt.okOr length (.operational "WATERMARK_ASSET_UNAVAILABLE")
  Attempt.ensure (copied != 0 && decide (copied ≤ maxWatermarkBytes))
    (.operational "WATERMARK_ASSET_INVALID")
  let digest ← sha256File .watermark (.operational "WATERMARK_ASSET_UNAVAILABLE")
  Attempt.ensure (digest == configured.assetSha256) (.operational "WATERMARK_DIGEST_MISMATCH")
  return { configured with assetPath := "registered-watermark" }

/-- `prepare_watermark`. -/
def prepareWatermark (tenantId : String) :
    Option Nat → Action ProcessingFailure (Option WatermarkPolicy)
  | some revision => do
      let found ← Attempt.mapError (fun _ => .operational "SITE_POLICY_UNAVAILABLE")
        (call (.findSitePolicyRevision tenantId revision))
      let snapshot ← Attempt.okOr found (.operational "SITE_POLICY_UNAVAILABLE")
      Attempt.ensure (snapshot.revision == revision && snapshot.tenantId == tenantId)
        (.operational "SITE_POLICY_INVALID")
      match snapshot.watermark with
      | none => pure none
      | some stored => do
          let watermark ← worker.prepareObjectWatermark revision stored
          return some watermark
  | none =>
      match worker.policy.watermark with
      | none => pure none
      | some configured => do
          let watermark ← prepareConfiguredWatermark configured
          return some watermark

/-- The key of a derivative. -/
def derivativeKey (source : ProcessingSource) (digest presetId name : String) :
    Action ProcessingFailure ObjectKey :=
  Attempt.okOr
    (ObjectKey.new (mediaKeyText source.tenantId source.uploadId digest presetId name)).toOption
    (.transient "DERIVATIVE_KEY_INVALID")

/-- `upload_generated_derivative`. -/
def uploadGeneratedDerivative (file : JobFile) (objectKey : ObjectKey)
    (presetId variant contentType : String) : Action ProcessingFailure PublishedDerivative := do
  let length ← host (.fileLength file)
  let byteLen ← Attempt.okOr length (.transient "TEMP_STORAGE_UNAVAILABLE")
  Attempt.ensure (byteLen != 0 && decide (byteLen ≤ worker.policy.maxImageBytes))
    (.permanent "DERIVATIVE_SIZE_EXCEEDED")
  let sha256 ← sha256File file (.transient "TEMP_STORAGE_UNAVAILABLE")
  let stored ← Attempt.mapError classifyStorageError
    (worker.derivativeStore.putFile objectKey file contentType)
  Attempt.ensure (stored == byteLen) (.transient "DERIVATIVE_LENGTH_MISMATCH")
  return ⟨objectKey, presetId, variant, contentType, byteLen, sha256⟩

/-- The master of a source: rendered anew for an image, the source itself for a video. -/
def storeMaster (source : ProcessingSource) (digest presetId : String)
    (watermark : Option WatermarkPolicy) :
    MediaInspection → Action ProcessingFailure PublishedDerivative
  | .image _ _ => do
      let rendered ← host (.imageMaster watermark)
      Attempt.ofExcept (rendered.mapError classifySandboxError)
      let masterKey ← derivativeKey source digest presetId "master.jpg"
      worker.uploadGeneratedDerivative .master masterKey presetId "master" "image/jpeg"
  | .video format contentType => do
      let extension ← Attempt.okOr (videoMasterExtension format)
        (.permanent "VIDEO_CONTAINER_UNSUPPORTED")
      let masterKey ← derivativeKey source digest presetId ("master." ++ extension)
      let stored ← Attempt.mapError classifyStorageError
        (worker.derivativeStore.putFile masterKey .source contentType)
      Attempt.ensure (stored == source.expectedSizeBytes)
        (.transient "DERIVATIVE_LENGTH_MISMATCH")
      return ⟨masterKey, presetId, "master", contentType, source.expectedSizeBytes, digest⟩

/-- The thumbnail of a source. -/
def storeThumbnail (source : ProcessingSource) (digest presetId : String)
    (inspection : MediaInspection) (watermark : Option WatermarkPolicy) :
    Action ProcessingFailure PublishedDerivative := do
  let rendered ← host (.renderThumbnail inspection watermark)
  Attempt.ofExcept (rendered.mapError classifySandboxError)
  let thumbnailKey ← derivativeKey source digest presetId "thumbnail.jpg"
  worker.uploadGeneratedDerivative .thumbnail thumbnailKey presetId "thumbnail" "image/jpeg"

/-- The largest source of a kind. -/
def maxLength : MediaKind → Nat
  | .image => worker.policy.maxImageBytes
  | .video => worker.policy.maxVideoBytes

/-- Download the source and look at it: its digest and what the sandbox found. -/
def inspectSource (source : ProcessingSource) :
    Action ProcessingFailure (String × MediaInspection) := do
  Attempt.ensure (decide (source.expectedSizeBytes ≤ worker.maxLength source.declaredKind))
    (.permanent "MEDIA_SIZE_EXCEEDED")
  worker.acquireTempDiskPermit source.expectedSizeBytes
  let created ← host .createJobDirectory
  Attempt.ensure created (.transient "TEMP_STORAGE_UNAVAILABLE")
  Attempt.mapError classifyStorageError (worker.rawStore.downloadTo source.objectKey .source
    source.expectedSizeBytes (worker.maxLength source.declaredKind))
  let detected ← host (.detectFile source.declaredKind)
  Attempt.ensure detected (.permanent "MEDIA_SIGNATURE_REJECTED")
  let digest ← sha256File .source (.transient "TEMP_STORAGE_UNAVAILABLE")
  let inspected ← host (.inspect source.declaredKind)
  let inspection ← Attempt.ofExcept (inspected.mapError classifySandboxError)
  return (digest, inspection)

/-- Record the facts of a quarantined source, or compare them with those recorded. -/
def recordStart (source : ProcessingSource) (digest contentType : String) :
    Action ProcessingFailure Unit :=
  if source.state = .quarantined then do
    let startedAt ← now
    Attempt.mapError (fun _ => .transient "DATABASE_UNAVAILABLE")
      (call (.startProcessing source.uploadId contentType digest startedAt))
  else
    Attempt.ensure
      (source.sourceSha256 == some digest && source.detectedContentType == some contentType)
      (.permanent "SOURCE_DIGEST_CHANGED")

/-- `validate_downloaded_source`. -/
def validateDownloadedSource (source : ProcessingSource) (sitePolicyRevision : Option Nat) :
    Action ProcessingFailure Unit := do
  let (digest, inspection) ← worker.inspectSource source
  acquireTransformPermit inspection
  recordStart source digest inspection.contentType
  let watermark ← worker.prepareWatermark source.tenantId sitePolicyRevision
  let presetId := watermark.elim defaultDerivativePreset WatermarkPolicy.presetId
  let master ← worker.storeMaster source digest presetId watermark inspection
  let thumbnail ← worker.storeThumbnail source digest presetId inspection watermark
  let publishedAt ← now
  Attempt.mapError (fun _ => .transient "DATABASE_UNAVAILABLE")
    (call (.publishDerivatives source.uploadId [master, thumbnail] publishedAt))

/-- `validate_source`. -/
def validateSource (uploadId : UploadId) (sitePolicyRevision : Option Nat) :
    Action ProcessingFailure Unit := do
  let found ← Attempt.mapError (fun _ => .transient "DATABASE_UNAVAILABLE")
    (call (.findProcessingSource uploadId))
  let source ← Attempt.okOr found (.transient "SOURCE_NOT_FOUND")
  if source.state = .rejected ∨ source.state = .ready then pure ()
  else do
    Attempt.ensure (source.state == .quarantined || source.state == .processing)
      (.transient "SOURCE_STATE_CONFLICT")
    worker.validateDownloadedSource source sitePolicyRevision

/-- One beat: renew the lease. -/
def renewLease (jobId : JobId) (workerId : String) : Action WorkerError Unit := do
  let renewedAt ← now
  let _ ← Attempt.mapError .queue (call (.renew jobId workerId renewedAt worker.policy.leaseFor))

/-- Complete the job. -/
def completeJob (jobId : JobId) (workerId : String) : Action WorkerError Unit := do
  let completedAt ← now
  Attempt.mapError .queue (call (.complete jobId workerId completedAt))

/-- Reject the upload. -/
def rejectUpload (uploadId : UploadId) (code : String) : Action WorkerError Unit := do
  let rejectedAt ← now
  Attempt.mapError .repository (call (.markRejected uploadId code rejectedAt))

/-- Give a job back after a transient failure. -/
def failJob (leased : LeasedProcessingJob) (workerId code : String) :
    Action WorkerError RunOutcome := do
  let failedAt ← now
  let retryAt ← Attempt.okOr (failedAt.plus worker.policy.retryDelay) .invalidPolicy
  let disposition ← Attempt.mapError .queue (call (.fail leased.jobId workerId failedAt retryAt
    worker.policy.maxAttempts code))
  return runOutcome disposition

/-- Tell the queue how the work ended. -/
def settleJob (leased : LeasedProcessingJob) (workerId : String) :
    Except ProcessingFailure Unit → Action WorkerError RunOutcome
  | .ok () => do
      completeJob leased.jobId workerId
      return .completed
  | .error (.permanent code) => do
      rejectUpload leased.job.uploadId code
      completeJob leased.jobId workerId
      return .rejected
  | .error (.transient code) =>
      if worker.policy.maxAttempts ≤ leased.attempts then do
        rejectUpload leased.job.uploadId code
        worker.failJob leased workerId code
      else worker.failJob leased workerId code
  | .error (.operational code) => Attempt.fail (.operational code)

/-- A job of another preset goes to the dead letters. -/
def refuseJob (leased : LeasedProcessingJob) (workerId : String) :
    Action WorkerError RunOutcome := do
  let failedAt ← now
  let retryAt ← now
  let disposition ← Attempt.mapError .queue
    (call (.fail leased.jobId workerId failedAt retryAt 1 "UNSUPPORTED_PRESET"))
  return runOutcome disposition

/-- Work on a claimed job. -/
def processJob (leased : LeasedProcessingJob) (workerId : String) :
    Action WorkerError RunOutcome :=
  if leased.job.presetId ≠ sourceValidationPreset then refuseJob leased workerId
  else do
    let result ← interleaved (worker.renewLease leased.jobId workerId)
      (worker.validateSource leased.job.uploadId leased.job.sitePolicyRevision).attempt
    worker.settleJob leased workerId result

/-- `run_one`. -/
def runOne (workerId : String) : Action WorkerError RunOutcome := do
  let claimedAt ← now
  let claimed ← Attempt.mapError .queue (call (.claimNext workerId claimedAt worker.policy.leaseFor))
  match claimed with
  | none => return .idle
  | some leased => worker.processJob leased workerId

end SourceValidationWorker

end MediaBooster.Service
