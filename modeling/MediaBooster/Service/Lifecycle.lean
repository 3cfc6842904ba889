/-
# Service.Lifecycle -- the lifecycle service

One maintenance run leases a batch of uploads, removes what each of them stored, and
tombstones it, one upload after the other.  The session of an incomplete multipart upload is
aborted first, then the derivatives go, then the raw source; the tombstone is written only
when all of that succeeded.
-/
import MediaBooster.Lifecycle.Cleanup
import MediaBooster.Service.ObjectStore

namespace MediaBooster.Service

set_option autoImplicit false

open MediaBooster.Domain MediaBooster.Lifecycle MediaBooster.Storage MediaBooster.Store
open MediaBooster.Theory.Threads

inductive LifecycleRunError
  | invalidOwner
  | invalidDuration
  | repository (error : LifecycleRepositoryError)
deriving DecidableEq

/-- Bounded maintenance result. -/
structure LifecycleRunSummary where
  claimed : Nat
  completed : Nat
  failed : Nat
  deadLettered : Nat
  tombstonesPurged : Nat
deriving DecidableEq

/-- `LifecycleService`; it is built of a valid policy only. -/
structure LifecycleService where
  rawStore : S3CompatibleStore
  derivativeStore : S3CompatibleStore
  policy : LifecyclePolicy
  valid : policy.isValid = true

/-- `valid_identifier`. -/
def validIdentifier (value : String) (maxLength : Nat) : Bool := narrowToken value maxLength

namespace LifecycleService

variable (service : LifecycleService)

/-- Abort the session of a multipart upload that was never confirmed. -/
def abortSession (candidate : CleanupCandidate) : Action String Unit :=
  match candidate.state, candidate.transfer with
  | .created, .multipart _ => do
      let session ← Attempt.okOr candidate.multipartUploadId "CLEANUP_STATE_INVALID"
      Attempt.mapError (fun _ => "MULTIPART_ABORT_FAILED")
        (service.rawStore.abortMultipart candidate.rawObjectKey session)
  | _, _ => pure ()

/-- Delete the derivatives one after the other. -/
def deleteDerivatives : List ObjectKey → Action String Unit
  | [] => pure ()
  | key :: keys => do
      Attempt.mapError (fun _ => "DERIVATIVE_DELETE_FAILED") (service.derivativeStore.delete key)
      deleteDerivatives keys

/-- `cleanup_storage`; it fails with a stable error code. -/
def cleanupStorage (candidate : CleanupCandidate) : Action String Unit := do
  service.abortSession candidate
  service.deleteDerivatives candidate.derivativeKeys
  Attempt.mapError (fun _ => "RAW_DELETE_FAILED") (service.rawStore.delete candidate.rawObjectKey)

/-- Record that one candidate is cleaned up. -/
def recordCleanup (owner : String) (candidate : CleanupCandidate) :
    Action LifecycleRunError Unit := do
  let completedAt ← now
  Attempt.mapError .repository (call (.completeCleanup candidate.uploadId owner completedAt))

/-- Record why one candidate is not, and when to try again. -/
def recordFailure (owner : String) (candidate : CleanupCandidate) (errorCode : String) :
    Action LifecycleRunError Unit := do
  let failedAt ← now
  let retryAt ← Attempt.okOr (failedAt.plus service.policy.retryDelay) .invalidDuration
  Attempt.mapError .repository
    (call (.failCleanup candidate.uploadId owner failedAt retryAt errorCode))

/-- The summary of a run after one more candidate. -/
def counted (candidate : CleanupCandidate) (summary : LifecycleRunSummary) :
    Except String Unit → LifecycleRunSummary
  | .ok () => { summary with completed := summary.completed + 1 }
  | .error _ =>
      { summary with
        failed := summary.failed + 1
        deadLettered := summary.deadLettered +
          if service.policy.maxAttempts ≤ candidate.attempts then 1 else 0 }

/-- Record how the cleanup of one candidate went. -/
def settleCandidate (owner : String) (candidate : CleanupCandidate) :
    Except String Unit → Action LifecycleRunError Unit
  | .ok () => recordCleanup owner candidate
  | .error errorCode => service.recordFailure owner candidate errorCode

/-- The loop over the candidates of `run_once`. -/
def cleanCandidates (owner : String) :
    List CleanupCandidate → LifecycleRunSummary → Action LifecycleRunError LifecycleRunSummary
  | [], summary => pure summary
  | candidate :: candidates, summary => do
      let cleaned ← Attempt.lift (service.cleanupStorage candidate).attempt
      service.settleCandidate owner candidate cleaned
      cleanCandidates owner candidates (service.counted candidate summary cleaned)

/-- `run_once`. -/
def runOnce (owner : String) : Action LifecycleRunError LifecycleRunSummary := do
  Attempt.ensure (validIdentifier owner 128) .invalidOwner
  let startedAt ← now
  let createdBefore ← Attempt.okOr (startedAt.minus service.policy.createdReservationTtl)
    .invalidDuration
  let rejectedBefore ← Attempt.okOr (startedAt.minus service.policy.rejectedSourceRetention)
    .invalidDuration
  let candidates ← Attempt.mapError .repository (call (.claimCleanupBatch owner startedAt
    createdBefore rejectedBefore service.policy.leaseFor service.policy.batchSize
    service.policy.maxAttempts))
  let summary ← service.cleanCandidates owner candidates ⟨candidates.length, 0, 0, 0, 0⟩
  let cleanedAt ← now
  let deletedBefore ← Attempt.okOr (cleanedAt.minus service.policy.tombstoneRetention)
    .invalidDuration
  let purged ← Attempt.mapError .repository
    (call (.purgeTombstones deletedBefore service.policy.tombstonePurgeBatchSize))
  return { summary with tombstonesPurged := purged }

end LifecycleService

end MediaBooster.Service
