/-
# Store.Schema -- the tables of the store and their checks

One record type for each table of the migrations, and `Store`, the database they
make up.  The columns of `uploads` and `jobs` that no `UPDATE` of the store ever
sets are records of their own (`UploadReserved`, `JobIdentity`): a statement is
given the other half only, so that no statement can change an upload's tenant,
key or size, or move a job to another upload.

Columns whose values come from a closed set are typed by it, and so are the keys
and identifiers, which are written from values that carry their checks.  The
remaining `CHECK` constraints are the `…Checks` predicates; the statements of
`Store.Statements` evaluate them on every row they write.
-/
import MediaBooster.Domain.Upload

namespace MediaBooster.Store

set_option autoImplicit false

open MediaBooster.Domain

/-- SQLite's `length` of a text: characters before the first NUL. -/
def sqliteLength (text : String) : Nat := (text.toList.takeWhile (· != '\x00')).length

/-- Why a statement fails on the rows it is given. -/
inductive SqlError
  | uniqueViolation
  | checkViolation
  | foreignKeyViolation
  | rowNotFound
  | columnDecode
  | unavailable
deriving DecidableEq

/-- The text of a repository error: one of the source's own, an error as the
driver renders it, `SQLite backend: {error}` around such a rendering, or a text
put in front of another one's. -/
inductive Fault
  | text (message : String)
  | driver (error : SqlError)
  | sqliteBackend (error : SqlError)
  | within (context : String) (fault : Fault)
deriving DecidableEq

/-! ## uploads -/

inductive TransferKind
  | singlePut
  | multipart
deriving DecidableEq

/-- The columns of `uploads` fixed by the reservation. -/
structure UploadReserved where
  id : UploadId
  tenantId : String
  objectKey : ObjectKey
  declaredKind : MediaKind
  expectedSizeBytes : Int
  contentTypeHint : String
  batchId : Option UploadBatchId
  transferKind : TransferKind
  multipartPartSizeBytes : Option Int
  multipartUploadId : Option String
  createdAt : Int
deriving DecidableEq

/-- The columns of `uploads` that change over an upload's life. -/
structure UploadProgress where
  state : UploadState
  actualSizeBytes : Option Int
  detectedContentType : Option String
  sourceSha256 : Option String
  errorCode : Option String
  updatedAt : Int
  deleteRequestedAt : Option Int
  deletedAt : Option Int
  cleanupLeaseOwner : Option String
  cleanupLeaseUntil : Option Int
  cleanupRetryAt : Option Int
  cleanupAttempts : Int
  cleanupErrorCode : Option String
deriving DecidableEq

structure UploadRow extends UploadReserved, UploadProgress
deriving DecidableEq

/-- Set the changing columns of one row. -/
def UploadRow.assign (set : UploadProgress → UploadProgress) (row : UploadRow) : UploadRow :=
  { row with toUploadProgress := set row.toUploadProgress }

@[simp] theorem UploadRow.assign_reserved (set : UploadProgress → UploadProgress)
    (row : UploadRow) : (row.assign set).toUploadReserved = row.toUploadReserved := rfl

@[simp] theorem UploadRow.assign_progress (set : UploadProgress → UploadProgress)
    (row : UploadRow) : (row.assign set).toUploadProgress = set row.toUploadProgress := rfl

def uploadChecks (row : UploadRow) : Bool :=
  decide (0 ≤ row.expectedSizeBytes) && row.actualSizeBytes.all (fun n => decide (0 ≤ n)) &&
    row.multipartPartSizeBytes.all (fun n => decide (5242880 ≤ n)) &&
    decide (0 ≤ row.cleanupAttempts)

/-! ## jobs -/

inductive JobState
  | queued
  | leased
  | completed
  | deadLetter
deriving DecidableEq

/-- The columns of `jobs` fixed when the job is enqueued. -/
structure JobIdentity where
  id : JobId
  uploadId : UploadId
  presetId : String
  sitePolicyRevision : Option Int
  createdAt : Int
deriving DecidableEq

/-- The columns of `jobs` the queue moves. -/
structure JobProgress where
  state : JobState
  attempts : Int
  availableAt : Int
  leaseOwner : Option String
  leaseUntil : Option Int
  lastErrorCode : Option String
  updatedAt : Int
deriving DecidableEq

structure JobRow extends JobIdentity, JobProgress
deriving DecidableEq

/-- Set the moving columns of one row. -/
def JobRow.assign (set : JobProgress → JobProgress) (row : JobRow) : JobRow :=
  { row with toJobProgress := set row.toJobProgress }

@[simp] theorem JobRow.assign_identity (set : JobProgress → JobProgress) (row : JobRow) :
    (row.assign set).toJobIdentity = row.toJobIdentity := rfl

@[simp] theorem JobRow.assign_progress (set : JobProgress → JobProgress) (row : JobRow) :
    (row.assign set).toJobProgress = set row.toJobProgress := rfl

def jobChecks (row : JobRow) : Bool := decide (0 ≤ row.attempts)

/-! ## The other tables -/

inductive BatchState
  | created
  | uploading
  | completed
  | aborted
  | expired
deriving DecidableEq

structure UploadBatchRow where
  id : UploadBatchId
  tenantId : String
  state : BatchState
  fileCount : Int
  expectedSizeBytes : Int
  createdAt : Int
  updatedAt : Int
deriving DecidableEq

def uploadBatchChecks (row : UploadBatchRow) : Bool :=
  decide (1 ≤ row.fileCount ∧ row.fileCount ≤ 100) && decide (0 < row.expectedSizeBytes)

structure DerivativeRow where
  uploadId : UploadId
  presetId : String
  variant : String
  objectKey : ObjectKey
  contentType : String
  byteLen : Int
  sha256 : String
  createdAt : Int
deriving DecidableEq

/-- The `PRIMARY KEY` of `derivatives`. -/
def DerivativeRow.identity (row : DerivativeRow) : UploadId × String × String :=
  (row.uploadId, row.presetId, row.variant)

def derivativeChecks (row : DerivativeRow) : Bool :=
  decide (1 ≤ sqliteLength row.presetId ∧ sqliteLength row.presetId ≤ 128) &&
    decide (1 ≤ sqliteLength row.variant ∧ sqliteLength row.variant ≤ 64) &&
    decide (0 < row.byteLen) && sqliteLength row.sha256 == 64

inductive WatermarkPosition
  | center
  | topLeft
  | topRight
  | bottomLeft
  | bottomRight
deriving DecidableEq

/-- The watermark columns of a snapshot; all of them are NULL when
`watermark_enabled` is 0 and none is when it is 1. -/
structure WatermarkColumns where
  uploadId : UploadId
  objectKey : ObjectKey
  byteLen : Int
  sha256 : String
  position : WatermarkPosition
  marginPx : Int
  maxWidthPercent : Int
  opacityPercent : Int
deriving DecidableEq

structure SitePolicyRow where
  tenantId : String
  revision : Int
  schemaVersion : Int
  issuedAt : Int
  settingsSha256 : String
  watermark : Option WatermarkColumns
  createdAt : Int
deriving DecidableEq

def sitePolicyChecks (row : SitePolicyRow) : Bool :=
  decide (1 ≤ sqliteLength row.tenantId ∧ sqliteLength row.tenantId ≤ 64) &&
    decide (0 < row.revision) && decide (row.schemaVersion = 1) &&
    sqliteLength row.settingsSha256 == 64 &&
    row.watermark.all fun mark =>
      decide (1 ≤ mark.byteLen ∧ mark.byteLen ≤ 16777216) && sqliteLength mark.sha256 == 64 &&
        decide (0 ≤ mark.marginPx ∧ mark.marginPx ≤ 1024) &&
        decide (1 ≤ mark.maxWidthPercent ∧ mark.maxWidthPercent ≤ 50) &&
        decide (1 ≤ mark.opacityPercent ∧ mark.opacityPercent ≤ 100)

structure RequestNonceRow where
  keyId : String
  nonce : String
  expiresAt : Int
deriving DecidableEq

structure TenantQueueRow where
  tenantId : String
  lastClaimSequence : Int
deriving DecidableEq

def tenantQueueChecks (row : TenantQueueRow) : Bool :=
  decide (1 ≤ sqliteLength row.tenantId ∧ sqliteLength row.tenantId ≤ 64) &&
    decide (0 < row.lastClaimSequence)

inductive StorageNamespace
  | raw
  | derivative
deriving DecidableEq

inductive OrphanState
  | suspected
  | deleted
deriving DecidableEq

structure OrphanRow where
  storageNamespace : StorageNamespace
  objectKey : ObjectKey
  contentLength : Int
  firstSeenAt : Int
  lastSeenAt : Int
  state : OrphanState
  deleteAttempts : Int
  lastErrorCode : Option String
  deletedAt : Option Int
deriving DecidableEq

/-- The `PRIMARY KEY` of `orphan_objects`. -/
def OrphanRow.identity (row : OrphanRow) : StorageNamespace × ObjectKey :=
  (row.storageNamespace, row.objectKey)

def orphanChecks (row : OrphanRow) : Bool :=
  (match row.storageNamespace with
    | .raw => row.objectKey.asStr.toList.take 4 == ['r', 'a', 'w', '/']
    | .derivative => row.objectKey.asStr.toList.take 6 == ['m', 'e', 'd', 'i', 'a', '/']) &&
    decide (0 ≤ row.contentLength) && decide (row.firstSeenAt ≤ row.lastSeenAt) &&
    decide (0 ≤ row.deleteAttempts) &&
    row.lastErrorCode.all (fun code => decide (1 ≤ sqliteLength code ∧ sqliteLength code ≤ 64)) &&
    (match row.state with
      | .suspected => row.deletedAt.isNone
      | .deleted => row.deletedAt.isSome)

structure InventoryCursorRow where
  storageNamespace : StorageNamespace
  startAfter : Option String
  updatedAt : Int
deriving DecidableEq

def inventoryCursorChecks (row : InventoryCursorRow) : Bool :=
  row.startAfter.all fun cursor =>
    decide (1 ≤ sqliteLength cursor ∧ sqliteLength cursor ≤ 1024)

end MediaBooster.Store
