/-
# Store.Calls -- the typed call of each operation

An `Op` names a repository call with its arguments.  A service that makes the call gets a
typed answer: `Op.Result` or `Op.Error`.  `Op.call` is that call, and a typed reply of it is
an answer of the operation (`Answers.ofCall`), so what the store's modules prove of
operations holds of everything a service asks for.
-/
import MediaBooster.Store.Rows

namespace MediaBooster.Store

set_option autoImplicit false

open MediaBooster.Domain MediaBooster.Theory.Transaction

namespace Op

/-- What a call fails with. -/
@[reducible] def Error : Op → Type
  | findPolicyAsset .. | insertSnapshot .. | compareSnapshot .. | findActiveSitePolicy ..
  | findSitePolicyRevision .. => SitePolicyRepositoryError
  | inventoryCursor .. | reconcileInventoryPage .. | isInventoryKeyKnown .. | forgetOrphan ..
  | completeOrphanDeletion .. | failOrphanDeletion .. | saveInventoryCursor .. =>
      InventoryRepositoryError
  | enqueue .. | claimNext .. | renew .. | complete .. | fail .. => JobQueueError
  | hasCapacity .. | saveBatch .. | findUpload .. | isDeliveryAllowed ..
  | markQuarantinedAndEnqueue .. | markDeleted .. => UploadRepositoryError
  | requestDeletion .. => DeletionRequestError
  | claimCleanupBatch .. | completeCleanup .. | failCleanup .. | purgeTombstones .. =>
      LifecycleRepositoryError
  | findProcessingSource .. | startProcessing .. | publishDerivatives .. | markRejected .. =>
      ProcessingRepositoryError
  | consume .. => NonceStoreError

/-- What a call returns. -/
@[reducible] def Result : Op → Type
  | findPolicyAsset .. => Option PolicyAssetCandidate
  | insertSnapshot .. => Nat
  | compareSnapshot .. => PublishPolicyOutcome
  | findActiveSitePolicy .. | findSitePolicyRevision .. => Option SitePolicySnapshot
  | inventoryCursor .. => Option String
  | reconcileInventoryPage .. => InventoryReconcileResult
  | isInventoryKeyKnown .. | hasCapacity .. => Bool
  | claimNext .. => Option LeasedProcessingJob
  | renew .. => OffsetDateTime
  | fail .. => JobFailureDisposition
  | findUpload .. => Option StoredUploadReservation
  | isDeliveryAllowed .. => Option Bool
  | requestDeletion .. => DeletionRequestOutcome
  | claimCleanupBatch .. => List CleanupCandidate
  | purgeTombstones .. => Nat
  | findProcessingSource .. => Option ProcessingSource
  | forgetOrphan .. | completeOrphanDeletion .. | failOrphanDeletion .. | saveInventoryCursor ..
  | enqueue .. | complete .. | saveBatch .. | markQuarantinedAndEnqueue .. | markDeleted ..
  | completeCleanup .. | failCleanup .. | startProcessing .. | publishDerivatives ..
  | markRejected .. | consume .. => Unit

/-- The call an operation names. -/
def call : (op : Op) → Call SqliteStore op.Error op.Result
  | findPolicyAsset tenantId uploadId => Store.findPolicyAsset tenantId uploadId
  | insertSnapshot snapshot createdAt => Store.insertSnapshot snapshot createdAt
  | compareSnapshot snapshot => Store.compareSnapshot snapshot
  | findActiveSitePolicy tenantId => Store.findActiveSitePolicy tenantId
  | findSitePolicyRevision tenantId revision => Store.findSitePolicyRevision tenantId revision
  | inventoryCursor storageNamespace => Store.inventoryCursor storageNamespace
  | reconcileInventoryPage storageNamespace objects observedAt eligibleBefore =>
      Store.reconcileInventoryPage storageNamespace objects observedAt eligibleBefore
  | isInventoryKeyKnown storageNamespace key => Store.isInventoryKeyKnown storageNamespace key
  | forgetOrphan storageNamespace key => Store.forgetOrphan storageNamespace key
  | completeOrphanDeletion storageNamespace key deletedAt =>
      Store.completeOrphanDeletion storageNamespace key deletedAt
  | failOrphanDeletion storageNamespace key errorCode failedAt =>
      Store.failOrphanDeletion storageNamespace key errorCode failedAt
  | saveInventoryCursor storageNamespace startAfter updatedAt =>
      Store.saveInventoryCursor storageNamespace startAfter updatedAt
  | enqueue id now job => Store.enqueue id now job
  | claimNext workerId now leaseFor => Store.claimNext workerId now leaseFor
  | renew jobId workerId now leaseFor => Store.renew jobId workerId now leaseFor
  | complete jobId workerId now => Store.complete jobId workerId now
  | fail jobId workerId now retryAt maxAttempts errorCode =>
      Store.fail jobId workerId now retryAt maxAttempts errorCode
  | hasCapacity tenantId additionalUploads additionalBytes capacity =>
      Store.hasCapacity tenantId additionalUploads additionalBytes capacity
  | saveBatch batch capacity => Store.saveBatch batch capacity
  | findUpload tenantId uploadId => Store.findUpload tenantId uploadId
  | isDeliveryAllowed tenantId uploadId => Store.isDeliveryAllowed tenantId uploadId
  | markQuarantinedAndEnqueue jobId tenantId uploadId actualSizeBytes presetId now =>
      Store.markQuarantinedAndEnqueue jobId tenantId uploadId actualSizeBytes presetId now
  | markDeleted tenantId uploadId now => Store.markDeleted tenantId uploadId now
  | requestDeletion tenantId uploadId now => Store.requestDeletion tenantId uploadId now
  | claimCleanupBatch owner now createdBefore rejectedBefore leaseFor limit maxAttempts =>
      Store.claimCleanupBatch owner now createdBefore rejectedBefore leaseFor limit maxAttempts
  | completeCleanup uploadId owner now => Store.completeCleanup uploadId owner now
  | failCleanup uploadId owner now retryAt errorCode =>
      Store.failCleanup uploadId owner now retryAt errorCode
  | purgeTombstones deletedBefore limit => Store.purgeTombstones deletedBefore limit
  | findProcessingSource uploadId => Store.findProcessingSource uploadId
  | startProcessing uploadId detectedContentType sourceSha256 now =>
      Store.startProcessing uploadId detectedContentType sourceSha256 now
  | publishDerivatives uploadId derivatives now =>
      Store.publishDerivatives uploadId derivatives now
  | markRejected uploadId errorCode now => Store.markRejected uploadId errorCode now
  | consume keyId nonce now expiresAt => Store.consume keyId nonce now expiresAt

theorem run_eq_settle (op : Op) (store : SqliteStore) : op.run store = settle op.call store := by
  cases op <;> rfl

end Op

/-- A typed reply of an operation's call is an answer of the operation. -/
theorem Answers.ofCall {op : Op} {s t : SqliteStore} {result : Except op.Error op.Result}
    (replies : Replies op.call s result t) : Answers op s result.toBool t :=
  Answers.ofReplies op.run_eq_settle replies

end MediaBooster.Store
