/-
# Service.Uploads -- the upload service

`UploadIntentService` reserves a batch, presigns parts, publishes a finished multipart
upload, confirms a single `PUT`, and aborts.  Each method is a program over the ports; the
checks it makes without asking anybody are functions of their own.

`createBatch` opens provider sessions before the reservation is durable, so every way out of
it after the first session goes through `cleanup`, except that of a key that fails its
checks.
-/
import MediaBooster.Domain.Batch
import MediaBooster.Domain.Keys
import MediaBooster.Service.ObjectStore

namespace MediaBooster.Service

set_option autoImplicit false

open MediaBooster.Domain MediaBooster.Storage MediaBooster.Store MediaBooster.Theory.Threads

/-! ## Requests and errors -/

/-- One untrusted file reservation request. -/
structure UploadFileIntent where
  clientRef : String
  declaredKind : MediaKind
  contentLength : Nat
  contentTypeHint : String
deriving DecidableEq

/-- Batch creation input. -/
structure CreateUploadBatch where
  tenantId : String
  files : List UploadFileIntent
deriving DecidableEq

/-- One client-facing result. -/
structure CreatedUploadIntent where
  clientRef : String
  uploadId : UploadId
  transfer : UploadTransfer
  presignedPut : Option PresignedUpload
deriving DecidableEq

/-- Successful bounded batch result. -/
structure CreatedUploadBatch where
  batchId : UploadBatchId
  uploads : List CreatedUploadIntent
deriving DecidableEq

inductive CreateUploadBatchError
  | invalidTenant
  | invalidClientRef
  | invalidContentType
  | policy (error : UploadBatchPolicyError)
  | backpressure
  | objectStore (error : ObjectStoreError)
  | repository (error : UploadRepositoryError)
  | cleanupRequired
  | generatedObjectKey
deriving DecidableEq

inductive MultipartControlError
  | invalidTenant
  | notFound
  | invalidState
  | invalidPart
  | invalidCompletion
  | storedSizeMismatch
  | objectStore (error : ObjectStoreError)
  | repository (error : UploadRepositoryError)
deriving DecidableEq

/-! ## Checks -/

/-- The preset a confirmed upload is processed with first. -/
def initialProcessingPreset : String := "source-validation-v1"

/-- `tenant_is_valid`. -/
def tenantIsValid (tenantId : String) : Bool := narrowToken tenantId 64

/-- `upload_bytes_are_confirmed`. -/
def uploadBytesAreConfirmed : UploadState → Bool
  | .uploaded | .quarantined | .processing | .ready => true
  | .created | .rejected | .failed | .deleted => false

/-- `multipart_layout`. -/
def multipartLayout (stored : StoredUploadReservation) :
    Except MultipartControlError (Nat × String) :=
  match stored.transfer with
  | .singlePut => .error .invalidState
  | .multipart partSizeBytes =>
      match stored.multipartUploadId with
      | none => .error .invalidState
      | some uploadId => .ok (partSizeBytes, uploadId)

/-- `expected_part_length`. -/
def expectedPartLength (totalSize partSize partNumber : Nat) : Option Nat :=
  if totalSize = 0 ∨ partSize = 0 ∨ partNumber = 0 ∨ 10000 < partNumber then none
  else
    match u64CheckedMul (partNumber - 1) partSize with
    | none => none
    | some start => if totalSize ≤ start then none else some (min (totalSize - start) partSize)

/-- `total_size.div_ceil(part_size)`. -/
def divCeil (totalSize partSize : Nat) : Nat :=
  totalSize / partSize + if totalSize % partSize = 0 then 0 else 1

/-- Whether the completed part at `index` carries the number and an entity tag it must. -/
def completionPart (index : Nat) (part : CompletedPart) : Bool :=
  decide (u16TryFrom ((index : Int) + 1) = some part.partNumber) && !part.etag.isEmpty &&
    decide (part.etag.utf8ByteSize ≤ 1024) && allChars isAsciiGraphic part.etag

/-- `validate_completion`. -/
def validateCompletion (totalSize partSize : Nat) (parts : List CompletedPart) :
    Except MultipartControlError Unit :=
  if totalSize = 0 ∨ partSize = 0 then .error .invalidCompletion
  else if 10000 < divCeil totalSize partSize ∨ parts.length ≠ divCeil totalSize partSize ∨
      ¬ (parts.zipIdx.all fun (part, index) => completionPart index part) then
    .error .invalidCompletion
  else .ok ()

/-- A client reference of at most 128 letters, digits, `-` and `_`. -/
def validClientRef (clientRef : String) : Bool := narrowToken clientRef 128

/-- `validate_file_metadata`, with the references seen so far. -/
def validateFileMetadata : List String → List UploadFileIntent → Except CreateUploadBatchError Unit
  | _, [] => .ok ()
  | seen, file :: files =>
      if !validClientRef file.clientRef || seen.contains file.clientRef then
        .error .invalidClientRef
      else if !contentTypeToken file.contentTypeHint then .error .invalidContentType
      else validateFileMetadata (file.clientRef :: seen) files

/-- The lengths of the files added up with `checked_add`. -/
def additionalBytes (files : List UploadFileIntent) : Option Nat :=
  files.foldlM (fun total file => u64CheckedAdd total file.contentLength) 0

/-! ## The service -/

/-- Bounded application service over its ports. -/
structure UploadIntentService where
  objectStore : S3CompatibleStore
  policy : UploadBatchPolicy
  capacity : UploadCapacityPolicy

namespace UploadIntentService

variable (service : UploadIntentService)

/-- `find_upload`, where the upload must exist. -/
def findStored (tenantId : String) (uploadId : UploadId) :
    Action MultipartControlError StoredUploadReservation := do
  let found ← Attempt.mapError .repository (call (.findUpload tenantId uploadId))
  Attempt.okOr found .notFound

/-- `cleanup`: abort every session, and whether all of them are. -/
def cleanup : List UploadReservation → Program Answer Bool
  | [] => pure true
  | reservation :: reservations => do
      let aborted ← match reservation.multipartUploadId with
        | none => pure (.ok ())
        | some uploadId =>
            Attempt.attempt (service.objectStore.abortMultipart reservation.objectKey uploadId)
      let others ← cleanup reservations
      return aborted.toBool && others

/-- `cleanup_or_error`. -/
def cleanupOrError {α : Type} (reservations : List UploadReservation) (original : ObjectStoreError) :
    Action CreateUploadBatchError α := do
  let cleaned ← Attempt.lift (service.cleanup reservations)
  Attempt.fail (if cleaned then .objectStore original else .cleanupRequired)

/-- The provider session or the signed `PUT` of one file. -/
def openTransfer (objectKey : ObjectKey) (file : UploadFileIntent) :
    UploadTransfer → Action ObjectStoreError (Option String × Option PresignedUpload)
  | .singlePut => do
      let signed ← service.objectStore.presignPut objectKey file.contentLength
      return (none, some signed)
  | .multipart _ => do
      let session ← service.objectStore.createMultipart objectKey
      return (some session, none)

/-- The loop over the files of `create_batch`, with the reservations made so far. -/
def reserveFiles (tenantId : String) :
    List (UploadFileIntent × UploadTransfer) → List UploadReservation → List CreatedUploadIntent →
      Action CreateUploadBatchError (List UploadReservation × List CreatedUploadIntent)
  | [], reservations, outputs => pure (reservations, outputs)
  | (file, transfer) :: files, reservations, outputs => do
      let uuid ← drawId
      let objectKey ← Attempt.okOr (ObjectKey.new (rawKeyText tenantId ⟨uuid⟩)).toOption
        .generatedObjectKey
      let opened ← Attempt.lift (service.openTransfer objectKey file transfer).attempt
      match opened with
      | .error error => service.cleanupOrError reservations error
      | .ok (session, signed) =>
          reserveFiles tenantId files
            (reservations ++ [⟨⟨uuid⟩, objectKey, file.declaredKind, file.contentLength,
              file.contentTypeHint, transfer, session⟩])
            (outputs ++ [⟨file.clientRef, ⟨uuid⟩, transfer, signed⟩])

/-- What a failed `save_batch` becomes once every session is aborted. -/
def saveError : UploadRepositoryError → CreateUploadBatchError
  | .capacityExhausted => .backpressure
  | .backend fault => .repository (.backend fault)

/-- `create_batch`. -/
def createBatch (request : CreateUploadBatch) :
    Action CreateUploadBatchError CreatedUploadBatch := do
  Attempt.ensure (tenantIsValid request.tenantId) .invalidTenant
  Attempt.ofExcept (validateFileMetadata [] request.files)
  let transfers ← Attempt.ofExcept ((service.policy.plan (request.files.map fun file =>
    ⟨file.declaredKind, file.contentLength⟩)).mapError .policy)
  let additional ← Attempt.okOr (additionalBytes request.files) .backpressure
  Attempt.ensure service.capacity.isValid .backpressure
  let allowed ← Attempt.mapError .repository
    (call (.hasCapacity request.tenantId request.files.length additional service.capacity))
  Attempt.ensure allowed .backpressure
  let batchId ← drawId
  let createdAt ← now
  let (reservations, outputs) ←
    service.reserveFiles request.tenantId (request.files.zip transfers) [] []
  let saved ← Attempt.lift (Attempt.attempt (call (.saveBatch
    ⟨⟨batchId⟩, request.tenantId, createdAt, reservations⟩ service.capacity)))
  match saved with
  | .ok () => return ⟨⟨batchId⟩, outputs⟩
  | .error error =>
      let cleaned ← Attempt.lift (service.cleanup reservations)
      Attempt.fail (if cleaned then saveError error else .cleanupRequired)

/-- `presign_part`. -/
def presignPart (tenantId : String) (uploadId : UploadId) (partNumber contentLength : Nat) :
    Action MultipartControlError PresignedUpload := do
  Attempt.ensure (tenantIsValid tenantId) .invalidTenant
  let stored ← findStored tenantId uploadId
  let (partSizeBytes, session) ← Attempt.ofExcept (multipartLayout stored)
  Attempt.ensure (stored.state == .created) .invalidState
  Attempt.ensure (expectedPartLength stored.expectedSizeBytes partSizeBytes partNumber ==
    some contentLength) .invalidPart
  Attempt.mapError .objectStore
    (service.objectStore.presignPart stored.objectKey session partNumber contentLength)

/-- `verify_stored_size`. -/
def verifyStoredSize (stored : StoredUploadReservation) : Action MultipartControlError Unit := do
  let contentLength ← Attempt.mapError .objectStore (service.objectStore.head stored.objectKey)
  Attempt.ensure (contentLength == stored.expectedSizeBytes) .storedSizeMismatch

/-- Verify what is stored, then record the confirmation and its job. -/
def confirmStored (tenantId : String) (uploadId : UploadId) (stored : StoredUploadReservation) :
    Action MultipartControlError Unit := do
  service.verifyStoredSize stored
  let jobId ← drawId
  let confirmedAt ← now
  Attempt.mapError .repository (call (.markQuarantinedAndEnqueue ⟨jobId⟩ tenantId uploadId
    stored.expectedSizeBytes initialProcessingPreset confirmedAt))

/-- `complete_multipart`. -/
def completeMultipart (tenantId : String) (uploadId : UploadId) (parts : List CompletedPart) :
    Action MultipartControlError Unit := do
  Attempt.ensure (tenantIsValid tenantId) .invalidTenant
  let stored ← findStored tenantId uploadId
  let (partSizeBytes, session) ← Attempt.ofExcept (multipartLayout stored)
  if uploadBytesAreConfirmed stored.state then service.verifyStoredSize stored
  else do
    Attempt.ensure (stored.state == .created) .invalidState
    Attempt.ofExcept (validateCompletion stored.expectedSizeBytes partSizeBytes parts)
    Attempt.mapError .objectStore
      (service.objectStore.completeMultipart stored.objectKey session parts)
    service.confirmStored tenantId uploadId stored

/-- `confirm_single_upload`. -/
def confirmSingleUpload (tenantId : String) (uploadId : UploadId) :
    Action MultipartControlError Unit := do
  Attempt.ensure (tenantIsValid tenantId) .invalidTenant
  let stored ← findStored tenantId uploadId
  Attempt.ensure (stored.transfer == .singlePut) .invalidState
  if uploadBytesAreConfirmed stored.state then service.verifyStoredSize stored
  else do
    Attempt.ensure (stored.state == .created) .invalidState
    service.confirmStored tenantId uploadId stored

/-- `abort_multipart`. -/
def abortMultipart (tenantId : String) (uploadId : UploadId) :
    Action MultipartControlError Unit := do
  Attempt.ensure (tenantIsValid tenantId) .invalidTenant
  let stored ← findStored tenantId uploadId
  let (_, session) ← Attempt.ofExcept (multipartLayout stored)
  if stored.state == .deleted then pure ()
  else do
    Attempt.ensure (stored.state == .created) .invalidState
    Attempt.mapError .objectStore (service.objectStore.abortMultipart stored.objectKey session)
    let abortedAt ← now
    Attempt.mapError .repository (call (.markDeleted tenantId uploadId abortedAt))

end UploadIntentService

end MediaBooster.Service
