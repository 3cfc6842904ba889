/-
# Store.Uploads -- the upload repository

`UploadRepository` of the SQLite store: the capacity preflight, the atomic
reservation of a batch, the tenant-scoped reads, the confirmation that quarantines
an upload and enqueues its first job, and the tombstone of an aborted upload.

`saveBatch_cases`, `markQuarantinedAndEnqueue_cases` and `markDeleted_cases` say all
that the three writing operations can do.  `has_capacity` makes four reads outside a
transaction, so each is an operation of its own and `hasCapacity` is their sequence
on a store that does not change in between.
-/
import MediaBooster.Store.Queue

namespace MediaBooster.Store

set_option autoImplicit false

open MediaBooster.Domain MediaBooster.Theory.Table MediaBooster.Theory.Transaction

/-- Repository failure without SQL or secret details. -/
inductive UploadRepositoryError
  | capacityExhausted
  | backend (fault : Fault)
deriving DecidableEq

/-- `upload_backend`. -/
def uploadBackend (error : SqlError) : UploadRepositoryError := .backend (.sqliteBackend error)

/-! ## Capacity -/

/-- Active reservation limits. -/
structure UploadCapacityPolicy where
  maxActiveGlobal : Nat
  maxActivePerTenant : Nat
  maxReservedBytesGlobal : Nat
  maxReservedBytesPerTenant : Nat
deriving DecidableEq

/-- `UploadCapacityPolicy::is_valid`. -/
def UploadCapacityPolicy.isValid (capacity : UploadCapacityPolicy) : Bool :=
  decide (0 < capacity.maxActiveGlobal) && decide (0 < capacity.maxActivePerTenant) &&
    decide (capacity.maxActivePerTenant ≤ capacity.maxActiveGlobal) &&
    decide (0 < capacity.maxReservedBytesGlobal) &&
    decide (0 < capacity.maxReservedBytesPerTenant) &&
    decide (capacity.maxReservedBytesPerTenant ≤ capacity.maxReservedBytesGlobal) &&
    decide ((capacity.maxReservedBytesGlobal : Int) ≤ i64Max)

/-- `state IN ('created', 'uploaded', 'quarantined', 'processing')`. -/
def activeState : UploadState → Bool
  | .created | .uploaded | .quarantined | .processing => true
  | .ready | .rejected | .failed | .deleted => false

/-- `COUNT(*)` of the active uploads. -/
def SqliteStore.activeUploads (store : SqliteStore) : Int :=
  (store.uploads.filter fun row => activeState row.state).length

/-- `COUNT(*)` of a tenant's active uploads. -/
def SqliteStore.tenantActiveUploads (tenantId : String) (store : SqliteStore) : Int :=
  (store.uploads.filter fun row =>
    decide (row.tenantId = tenantId) && activeState row.state).length

/-- `checked_add(additional).is_some_and(|next| next <= cap)`. -/
def fitsWithin (stored additional cap : Nat) : Bool :=
  (u64CheckedAdd stored additional).any fun next => decide (next ≤ cap)

/-- `capacity_allows`. -/
def capacityAllows (global tenant globalBytes tenantBytes : Int)
    (additionalUploads additionalBytes : Nat) (capacity : UploadCapacityPolicy) :
    Except UploadRepositoryError Bool :=
  match u64TryFrom global with
  | none => .error (.backend (.text "global active upload count is invalid"))
  | some global =>
      match u64TryFrom tenant with
      | none => .error (.backend (.text "tenant active upload count is invalid"))
      | some tenant =>
          match u64TryFrom globalBytes with
          | none => .error (.backend (.text "global reserved byte count is invalid"))
          | some globalBytes =>
              match u64TryFrom tenantBytes with
              | none => .error (.backend (.text "tenant reserved byte count is invalid"))
              | some tenantBytes =>
                  if additionalUploads = 0 ∨ additionalBytes = 0 ∨
                      capacity.maxActiveGlobal = 0 ∨ capacity.maxActivePerTenant = 0 ∨
                      capacity.maxActiveGlobal < capacity.maxActivePerTenant ∨
                      capacity.maxReservedBytesGlobal = 0 ∨
                      capacity.maxReservedBytesPerTenant = 0 ∨
                      capacity.maxReservedBytesGlobal < capacity.maxReservedBytesPerTenant ∨
                      i64Max < (capacity.maxReservedBytesGlobal : Int) then
                    .error (.backend (.text "upload capacity policy is invalid"))
                  else
                    .ok (fitsWithin global additionalUploads capacity.maxActiveGlobal &&
                      fitsWithin tenant additionalUploads capacity.maxActivePerTenant &&
                      fitsWithin globalBytes additionalBytes capacity.maxReservedBytesGlobal &&
                      fitsWithin tenantBytes additionalBytes capacity.maxReservedBytesPerTenant)

/-- `UploadRepository::has_capacity`. -/
def hasCapacity (tenantId : String) (additionalUploads additionalBytes : Nat)
    (capacity : UploadCapacityPolicy) : Call SqliteStore UploadRepositoryError Bool := do
  Call.ensure (!tenantId.isEmpty && additionalUploads != 0 && additionalBytes != 0)
    (.backend (.text "capacity preflight input is invalid"))
  let global ← Call.read SqliteStore.activeUploads
  let tenant ← Call.read (SqliteStore.tenantActiveUploads tenantId)
  let globalBytes ← Call.read fun store => store.usage.globalReservedBytes
  let tenantBytes ← Call.read fun store => store.usage.reservedFor tenantId
  Call.readOr fun _ =>
    capacityAllows global tenant globalBytes tenantBytes additionalUploads additionalBytes capacity

/-! ## Reserving a batch -/

/-- One durable upload reservation. -/
structure UploadReservation where
  uploadId : UploadId
  objectKey : ObjectKey
  declaredKind : MediaKind
  expectedSizeBytes : Nat
  contentTypeHint : String
  transfer : UploadTransfer
  multipartUploadId : Option String
deriving DecidableEq

/-- Atomic durable batch. -/
structure UploadBatchReservation where
  batchId : UploadBatchId
  tenantId : String
  createdAt : OffsetDateTime
  uploads : List UploadReservation
deriving DecidableEq

/-- The expected sizes added up with `checked_add`. -/
def totalSize (uploads : List UploadReservation) : Option Nat :=
  uploads.foldlM (fun total upload => u64CheckedAdd total upload.expectedSizeBytes) 0

/-- A row as `INSERT INTO uploads` writes it. -/
def createdRow (batch : UploadBatchReservation) (upload : UploadReservation) (expectedSize : Int)
    (transferKind : TransferKind) (partSize : Option Int) (session : Option String) :
    UploadRow where
  id := upload.uploadId
  tenantId := batch.tenantId
  objectKey := upload.objectKey
  declaredKind := upload.declaredKind
  expectedSizeBytes := expectedSize
  contentTypeHint := upload.contentTypeHint
  batchId := some batch.batchId
  transferKind := transferKind
  multipartPartSizeBytes := partSize
  multipartUploadId := session
  createdAt := batch.createdAt.unixTimestamp
  state := .created
  actualSizeBytes := none
  detectedContentType := none
  sourceSha256 := none
  errorCode := none
  updatedAt := batch.createdAt.unixTimestamp
  deleteRequestedAt := none
  deletedAt := none
  cleanupLeaseOwner := none
  cleanupLeaseUntil := none
  cleanupRetryAt := none
  cleanupAttempts := 0
  cleanupErrorCode := none

/-- The values bound for one upload of the batch. -/
def reservationRow (batch : UploadBatchReservation) (upload : UploadReservation) :
    Except UploadRepositoryError UploadRow :=
  match i64TryFrom upload.expectedSizeBytes with
  | none => .error (.backend (.text "upload byte length exceeds SQLite range"))
  | some expectedSize =>
      match upload.transfer with
      | .singlePut => .ok (createdRow batch upload expectedSize .singlePut none none)
      | .multipart partSizeBytes =>
          match i64TryFrom partSizeBytes with
          | none => .error (.backend (.text "multipart part size exceeds SQLite range"))
          | some partSize =>
              match upload.multipartUploadId with
              | none => .error (.backend (.text "multipart reservation has no provider session"))
              | some session =>
                  .ok (createdRow batch upload expectedSize .multipart (some partSize)
                    (some session))

/-- Insert one upload of the batch. -/
def saveReservation (batch : UploadBatchReservation) (upload : UploadReservation) :
    Tx SqliteStore UploadRepositoryError Unit := do
  let row ← Tx.selectOr fun _ => reservationRow batch upload
  let _ ← Tx.execute uploadBackend (SqliteStore.insertUpload row)
  return ()

/-- The row of `INSERT INTO upload_batches`. -/
def batchRow (batch : UploadBatchReservation) (fileCount totalSizeSql : Int) : UploadBatchRow where
  id := batch.batchId
  tenantId := batch.tenantId
  state := .created
  fileCount := fileCount
  expectedSizeBytes := totalSizeSql
  createdAt := batch.createdAt.unixTimestamp
  updatedAt := batch.createdAt.unixTimestamp

/-- The capacity check of `save_batch`, inside its transaction. -/
def batchAllowed (batch : UploadBatchReservation) (capacity : UploadCapacityPolicy)
    (totalSize : Nat) (store : SqliteStore) : Except UploadRepositoryError Bool :=
  capacityAllows store.activeUploads (store.tenantActiveUploads batch.tenantId)
    store.usage.globalReservedBytes (store.usage.reservedFor batch.tenantId)
    batch.uploads.length totalSize capacity

/-- The transaction of `save_batch`. -/
def saveBatchTransaction (batch : UploadBatchReservation) (capacity : UploadCapacityPolicy)
    (totalSize : Nat) (fileCount totalSizeSql : Int) :
    Tx SqliteStore UploadRepositoryError Unit := do
  let allowed ← Tx.selectOr (batchAllowed batch capacity totalSize)
  Tx.ensure allowed .capacityExhausted
  let _ ← Tx.execute uploadBackend
    (SqliteStore.insertUploadBatch (batchRow batch fileCount totalSizeSql))
  batch.uploads.forM (saveReservation batch)

/-- `UploadRepository::save_batch`. -/
def saveBatch (batch : UploadBatchReservation) (capacity : UploadCapacityPolicy) :
    Call SqliteStore UploadRepositoryError Unit := do
  Call.ensure (!batch.uploads.isEmpty && decide (batch.uploads.length ≤ 100))
    (.backend (.text "batch file count is outside 1..=100"))
  let totalSize ← Call.okOr (totalSize batch.uploads)
    (.backend (.text "batch byte total exceeds integer range"))
  let fileCount ← Call.okOr (i64TryFrom batch.uploads.length)
    (.backend (.text "batch file count exceeds SQLite range"))
  let totalSizeSql ← Call.okOr (i64TryFrom totalSize)
    (.backend (.text "batch byte total exceeds SQLite range"))
  commit (saveBatchTransaction batch capacity totalSize fileCount totalSizeSql)

/-! ## Reads -/

/-- Tenant-scoped reservation loaded from durable state. -/
structure StoredUploadReservation where
  uploadId : UploadId
  objectKey : ObjectKey
  expectedSizeBytes : Nat
  state : UploadState
  transfer : UploadTransfer
  multipartUploadId : Option String
deriving DecidableEq

/-- The transfer columns of a row. -/
def storedTransfer (row : UploadRow) : Except UploadRepositoryError UploadTransfer :=
  match row.transferKind with
  | .singlePut => .ok .singlePut
  | .multipart =>
      match row.multipartPartSizeBytes with
      | none => .error (.backend (.text "multipart upload has no part size"))
      | some stored =>
          match u64TryFrom stored with
          | none => .error (.backend (.text "stored multipart part size is invalid"))
          | some partSizeBytes => .ok (.multipart partSizeBytes)

/-- `stored_upload_from_row`. -/
def storedUploadFromRow (row : UploadRow) :
    Except UploadRepositoryError StoredUploadReservation := do
  match u64TryFrom row.expectedSizeBytes with
  | none => .error (.backend (.text "stored upload size is invalid"))
  | some expectedSizeBytes =>
      let transfer ← storedTransfer row
      if row.transferKind = .multipart ∧ row.multipartUploadId = none then
        .error (.backend (.text "multipart upload has no provider session"))
      else
        .ok ⟨row.id, row.objectKey, expectedSizeBytes, row.state, transfer, row.multipartUploadId⟩

/-- `WHERE tenant_id = ? AND id = ?`. -/
def ownedUpload (tenantId : String) (uploadId : UploadId) (row : UploadRow) : Bool :=
  row.tenantId == tenantId && row.id == uploadId

/-- `UploadRepository::find_upload`. -/
def findUpload (tenantId : String) (uploadId : UploadId) :
    Call SqliteStore UploadRepositoryError (Option StoredUploadReservation) :=
  Call.readOr fun store =>
    match store.uploads.find? (ownedUpload tenantId uploadId) with
    | none => .ok none
    | some row => (storedUploadFromRow row).map some

/-- `UploadRepository::is_delivery_allowed`. -/
def isDeliveryAllowed (tenantId : String) (uploadId : UploadId) :
    Call SqliteStore UploadRepositoryError (Option Bool) :=
  Call.read fun store =>
    (store.uploads.find? (ownedUpload tenantId uploadId)).map fun row =>
      row.state == .ready && !row.deleteRequestedAt.isSome

/-! ## Confirming and aborting -/

/-- The columns of the first update of a confirmation. -/
def uploadedColumns (actualSize now : Int) (upload : UploadProgress) : UploadProgress :=
  { upload with state := .uploaded, actualSizeBytes := some actualSize, updatedAt := now }

/-- The columns of the second update of a confirmation. -/
def quarantinedColumns (now : Int) (upload : UploadProgress) : UploadProgress :=
  { upload with state := .quarantined, updatedAt := now }

/-- The transaction of `mark_quarantined_and_enqueue`; the job's id is drawn by the caller. -/
def quarantineTransaction (jobId : JobId) (tenantId : String) (uploadId : UploadId)
    (actualSize : Int) (presetId : String) (now : Int) :
    Tx SqliteStore UploadRepositoryError Unit := do
  let uploaded ← Tx.execute uploadBackend (SqliteStore.updateUploads
    (fun row => ownedUpload tenantId uploadId row && row.state == .created)
    (uploadedColumns actualSize now))
  Tx.ensure (uploaded == 1) (.backend (.text "upload is not in the created state"))
  let quarantined ← Tx.execute uploadBackend (SqliteStore.updateUploads
    (fun row => ownedUpload tenantId uploadId row && row.state == .uploaded)
    (quarantinedColumns now))
  Tx.ensure (quarantined == 1) (.backend (.text "upload could not enter quarantine"))
  let revision ← Tx.select (SqliteStore.maxRevision tenantId)
  let _ ← Tx.execute uploadBackend
    (SqliteStore.insertJob (queuedRow jobId uploadId presetId revision now))
  return ()

/-- `UploadRepository::mark_quarantined_and_enqueue`. -/
def markQuarantinedAndEnqueue (jobId : JobId) (tenantId : String) (uploadId : UploadId)
    (actualSizeBytes : Nat) (presetId : String) (now : OffsetDateTime) :
    Call SqliteStore UploadRepositoryError Unit := do
  Call.ensure (validPreset presetId) (.backend (.text "initial processing preset is invalid"))
  let actualSize ← Call.okOr (i64TryFrom actualSizeBytes)
    (.backend (.text "actual upload size exceeds SQLite range"))
  commit (quarantineTransaction jobId tenantId uploadId actualSize presetId now.unixTimestamp)

/-- The columns `mark_deleted` sets. -/
def deletedColumns (now : Int) (upload : UploadProgress) : UploadProgress :=
  { upload with state := .deleted, deletedAt := some now, updatedAt := now }

/-- `UploadRepository::mark_deleted`. -/
def markDeleted (tenantId : String) (uploadId : UploadId) (now : OffsetDateTime) :
    Call SqliteStore UploadRepositoryError Unit := do
  let deleted ← autocommit uploadBackend (SqliteStore.updateUploads
    (fun row => ownedUpload tenantId uploadId row && row.state == .created)
    (deletedColumns now.unixTimestamp))
  reachedOne deleted fun store =>
    if (store.uploads.find? (ownedUpload tenantId uploadId)).map (fun row : UploadRow =>
        row.state) = some .deleted then .ok ()
    else .error (.backend (.text "upload is not abortable from its current state"))

/-! ## What the capacity check has checked -/

theorem fitsWithin_le {stored additional cap : Nat} (fits : fitsWithin stored additional cap = true) :
    stored + additional ≤ cap := by
  simp only [fitsWithin, Option.any_eq_true, decide_eq_true_eq, u64CheckedAdd_eq_some] at fits
  obtain ⟨next, ⟨rfl, -⟩, fits⟩ := fits
  exact fits

/-- A capacity check that allowed: nothing is negative, and with the addition everything
stays within its cap. -/
theorem capacityAllows_true {global tenant globalBytes tenantBytes : Int}
    {additionalUploads additionalBytes : Nat} {capacity : UploadCapacityPolicy}
    (allowed : capacityAllows global tenant globalBytes tenantBytes additionalUploads
      additionalBytes capacity = .ok true) :
    global + additionalUploads ≤ capacity.maxActiveGlobal ∧
      tenant + additionalUploads ≤ capacity.maxActivePerTenant ∧
      globalBytes + additionalBytes ≤ capacity.maxReservedBytesGlobal ∧
      tenantBytes + additionalBytes ≤ capacity.maxReservedBytesPerTenant ∧
      capacity.maxReservedBytesPerTenant ≤ capacity.maxReservedBytesGlobal ∧
      (capacity.maxReservedBytesGlobal : Int) ≤ i64Max := by
  rw [capacityAllows] at allowed
  split at allowed
  · cases allowed
  rename_i g gCount
  split at allowed
  · cases allowed
  rename_i n nCount
  split at allowed
  · cases allowed
  rename_i gb gBytes
  split at allowed
  · cases allowed
  rename_i nb nBytes
  split at allowed
  · cases allowed
  rename_i sound
  simp only [Except.ok.injEq, Bool.and_eq_true] at allowed
  obtain ⟨⟨⟨first, second⟩, third⟩, fourth⟩ := allowed
  have first := fitsWithin_le first
  have second := fitsWithin_le second
  have third := fitsWithin_le third
  have fourth := fitsWithin_le fourth
  have gIs := (u64TryFrom_eq_some.1 gCount).1
  have nIs := (u64TryFrom_eq_some.1 nCount).1
  have gbIs := (u64TryFrom_eq_some.1 gBytes).1
  have nbIs := (u64TryFrom_eq_some.1 nBytes).1
  simp only [not_or, not_lt] at sound
  refine ⟨?_, ?_, ?_, ?_, ?_, ?_⟩ <;> omega

theorem totalSize_from {uploads : List UploadReservation} {start size : Nat}
    (added : uploads.foldlM (fun total upload => u64CheckedAdd total upload.expectedSizeBytes)
      start = some size) :
    size = start + (uploads.map UploadReservation.expectedSizeBytes).sum := by
  induction uploads generalizing start with
  | nil =>
      cases added
      rfl
  | cons upload uploads ih =>
      rw [List.foldlM_cons] at added
      obtain ⟨next, first, rest⟩ := Option.bind_eq_some_iff.1 added
      obtain ⟨rfl, -⟩ := u64CheckedAdd_eq_some.1 first
      rw [ih rest, List.map_cons, List.sum_cons, Nat.add_assoc]

/-- The checked total is the sum of the expected sizes. -/
theorem totalSize_eq_some {uploads : List UploadReservation} {size : Nat}
    (added : totalSize uploads = some size) :
    size = (uploads.map UploadReservation.expectedSizeBytes).sum := by
  rw [totalSize_from added, Nat.zero_add]

/-! ## What saving a batch does -/

section Specification

variable {store store' : SqliteStore}

/-- A bound row is a fresh reservation of the batch's tenant. -/
theorem reservationRow_ok {batch : UploadBatchReservation} {upload : UploadReservation}
    {row : UploadRow} (bound : reservationRow batch upload = .ok row) :
    isReservation row ∧ row.id = upload.uploadId ∧ row.tenantId = batch.tenantId ∧
      row.expectedSizeBytes = upload.expectedSizeBytes := by
  rw [reservationRow] at bound
  split at bound
  · cases bound
  · rename_i expectedSize sized
    obtain ⟨rfl, -⟩ := i64TryFrom_eq_some.1 sized
    split at bound
    · cases bound
      exact ⟨⟨rfl, rfl, rfl, rfl, rfl, rfl, rfl⟩, rfl, rfl, rfl⟩
    · split at bound
      · cases bound
      · split at bound
        · cases bound
        · cases bound
          exact ⟨⟨rfl, rfl, rfl, rfl, rfl, rfl, rfl⟩, rfl, rfl, rfl⟩

theorem saveReservations_ok {batch : UploadBatchReservation} {uploads : List UploadReservation}
    {u : Unit} (ran : uploads.forM (saveReservation batch) store = .ok (u, store')) :
    ∃ rows, List.Forall₂ (fun upload row => reservationRow batch upload = .ok row) uploads rows ∧
      store'.uploads = store.uploads ++ rows ∧ Effect [.insertUpload, .aside] store store' := by
  induction uploads generalizing store with
  | nil =>
      obtain ⟨-, rfl⟩ := pure_eq_ok.1 ran
      exact ⟨[], .nil, (List.append_nil _).symm, .refl⟩
  | cons upload uploads ih =>
      obtain ⟨_, middle, first, rest⟩ := bind_eq_ok.1 ran
      simp only [saveReservation, bind_eq_ok, selectOr_eq_ok, execute_eq_ok, pure_eq_ok] at first
      obtain ⟨row, _, ⟨bound, rfl⟩, n, inserted, insert, -, rfl⟩ := first
      obtain ⟨rows, bounds, appended, effect⟩ := ih rest
      obtain ⟨-, -, -, -, usage, counters, -, -, insertedEq⟩ := SqliteStore.insertUpload_ok insert
      have wrote : Wrote [.insertUpload, .aside] store inserted :=
        .insertUpload (by simp) (reservationRow_ok bound).1 insert
      refine ⟨row :: rows, .cons bound bounds, ?_, .head wrote effect⟩
      rw [appended, insertedEq]
      exact List.append_assoc store.uploads [row] rows

/-- The store after `batch`, of `size` bytes, was saved as `rows`. -/
structure BatchSaved (batch : UploadBatchReservation) (capacity : UploadCapacityPolicy)
    (size : Nat) (rows : List UploadRow) (s t : SqliteStore) : Prop where
  sized : totalSize batch.uploads = some size
  allowed : batchAllowed batch capacity size s = .ok true
  bound : List.Forall₂ (fun upload row => reservationRow batch upload = .ok row) batch.uploads rows
  uploads : t.uploads = s.uploads ++ rows
  effect : Effect [.insertUpload, .aside] s t

/-- `save_batch` saves the whole batch within the capacity, or changes nothing. -/
theorem saveBatch_cases {batch : UploadBatchReservation} {capacity : UploadCapacityPolicy}
    {result : Except UploadRepositoryError Unit}
    (ran : saveBatch batch capacity store = (result, store')) :
    (store' = store ∧ ∃ error, result = .error error) ∨
      (result = .ok () ∧ ∃ size rows, BatchSaved batch capacity size rows store store') := by
  cases result with
  | error e =>
      refine .inl ⟨?_, e, rfl⟩
      refine atomic_bind (moves_ensure _ _) (fun _ => ?_) store e store' ran
      refine atomic_bind (moves_okOr _ _) fun _ => ?_
      refine atomic_bind (moves_okOr _ _) fun _ => ?_
      exact atomic_bind (moves_okOr _ _) fun _ => atomic_commit _
  | ok u =>
      simp only [saveBatch, call_bind_eq_ok, call_ensure_eq_ok, call_okOr_eq_ok, commit_eq_ok,
        saveBatchTransaction, bind_eq_ok, selectOr_eq_ok, ensure_eq_ok, execute_eq_ok] at ran
      obtain ⟨_, _, ⟨-, rfl⟩, size, _, ⟨sized, rfl⟩, fileCount, _, ⟨-, rfl⟩, sizeSql, _, ⟨-, rfl⟩,
        _, _, ⟨allowed, rfl⟩, _, _, ⟨rfl, rfl⟩, n, batched, insertedBatch, saved⟩ := ran
      obtain ⟨-, batchedEq⟩ := SqliteStore.insertUploadBatch_ok insertedBatch
      obtain ⟨rows, bound, uploads, effect⟩ := saveReservations_ok saved
      have aside : Wrote [.insertUpload, .aside] store batched := by
        refine .aside (by simp) ?_
        rw [batchedEq]
        exact ⟨rfl, rfl, rfl, rfl, rfl, rfl, rfl, id, rfl⟩
      refine .inr ⟨rfl, size, rows, sized, allowed, bound, ?_, .head aside effect⟩
      rw [uploads, batchedEq]

/-! ## What confirming and aborting do -/

theorem ownedUpload_iff {tenantId : String} {uploadId : UploadId} {row : UploadRow} :
    ownedUpload tenantId uploadId row = true ↔ row.tenantId = tenantId ∧ row.id = uploadId := by
  simp [ownedUpload]

/-- The highest revision of a tenant is the revision of a stored policy. -/
theorem maxRevision_mem {tenantId : String} {revision : Int}
    (highest : store.maxRevision tenantId = some revision) :
    ∃ policy ∈ store.sitePolicySnapshots, policy.revision = revision := by
  obtain ⟨policy, member, same⟩ := List.mem_map.1 (List.max?_mem highest)
  exact ⟨policy, (List.mem_filter.1 member).1, same⟩

/-- The columns of an upload after its confirmation. -/
def confirmedColumns (actualSize now : Int) (upload : UploadProgress) : UploadProgress :=
  quarantinedColumns now (uploadedColumns actualSize now upload)

/-- The store after an upload was confirmed and its job enqueued. -/
structure Confirmed (jobId : JobId) (upload : UploadRow) (actualSize : Int) (presetId : String)
    (now : Int) (s t : SqliteStore) : Prop where
  created : upload.state = .created
  confirmed : ∃ middle, UploadMoved upload (confirmedColumns actualSize now) s middle ∧
    ∃ revision, SqliteStore.insertJob (queuedRow jobId upload.id presetId revision now) middle =
      .ok (1, t)
  effect : Effect [.updateUploads, .insertJob] s t

/-- `mark_quarantined_and_enqueue` confirms a created upload, or changes nothing. -/
theorem markQuarantinedAndEnqueue_cases {jobId : JobId} {tenantId : String} {uploadId : UploadId}
    {actualSizeBytes : Nat} {presetId : String} {now : OffsetDateTime}
    {result : Except UploadRepositoryError Unit} (integrity : store.Integrity)
    (ran : markQuarantinedAndEnqueue jobId tenantId uploadId actualSizeBytes presetId now store =
      (result, store')) :
    (store' = store ∧ ∃ error, result = .error error) ∨
      (result = .ok () ∧ ∃ upload, ownedUpload tenantId uploadId upload = true ∧
        Confirmed jobId upload actualSizeBytes presetId now.unixTimestamp store store') := by
  cases result with
  | error e =>
      refine .inl ⟨?_, e, rfl⟩
      refine atomic_bind (moves_ensure _ _) (fun _ => ?_) store e store' ran
      exact atomic_bind (moves_okOr _ _) fun _ => atomic_commit _
  | ok u =>
      simp only [markQuarantinedAndEnqueue, call_bind_eq_ok, call_ensure_eq_ok, call_okOr_eq_ok,
        commit_eq_ok, quarantineTransaction, bind_eq_ok, execute_eq_ok, ensure_eq_ok,
        select_eq_ok, pure_eq_ok] at ran
      obtain ⟨_, _, ⟨-, rfl⟩, actualSize, _, ⟨sized, rfl⟩, n, uploaded, firstRan, _, _,
        ⟨one, rfl⟩, m, quarantined, secondRan, _, _, ⟨two, rfl⟩, revision, _, ⟨latest, rfl⟩, k, final,
        insert, -, rfl⟩ := ran
      obtain ⟨rfl, -⟩ := i64TryFrom_eq_some.1 sized
      have pinned : ∀ (state : UploadState) row,
          (ownedUpload tenantId uploadId row && row.state == state) = true → row.id = uploadId := by
        intro state row hits
        simp only [Bool.and_eq_true, ownedUpload_iff] at hits
        exact hits.1.2
      obtain ⟨rfl, -⟩ | ⟨-, upload, hits, first⟩ :=
        updateUploads_moves integrity (pinned .created) firstRan
      · simp at one
      simp only [Bool.and_eq_true, beq_iff_eq] at hits
      obtain ⟨owned, created⟩ := hits
      have firstWrote : Wrote [.updateUploads, .insertJob] store uploaded := by
        refine .updateUploads (by simp) (fun row _ hit => ?_) firstRan
        simp only [Bool.and_eq_true, beq_iff_eq] at hit
        refine ⟨rfl, ?_, fun _ => rfl⟩
        rw [hit.2]
        exact UploadState.Chain.step rfl
      have integrity' := firstWrote.integrity integrity
      obtain ⟨rfl, -⟩ | ⟨-, upload', hits', second⟩ :=
        updateUploads_moves integrity' (pinned .uploaded) secondRan
      · simp at two
      have secondWrote : Wrote [.updateUploads, .insertJob] uploaded quarantined := by
        refine .updateUploads (by simp) (fun row _ hit => ?_) secondRan
        simp only [Bool.and_eq_true, beq_iff_eq] at hit
        refine ⟨rfl, ?_, fun _ => rfl⟩
        rw [hit.2]
        exact UploadState.Chain.step rfl
      -- the row of the second update is the row the first one left
      have same : upload' = upload.assign (uploadedColumns actualSizeBytes now.unixTimestamp) := by
        refine integrity'.uploadIds.eq_of_key second.member first.moved_mem ?_
        exact (pinned .uploaded upload' hits').trans (ownedUpload_iff.1 owned).2.symm
      have sameId : upload.id = uploadId := (ownedUpload_iff.1 owned).2
      obtain ⟨rfl, -⟩ := SqliteStore.insertJob_ok insert
      refine .inr ⟨rfl, upload, owned, created, ⟨quarantined, ?_, revision, ?_⟩, ?_⟩
      · subst same
        exact first.trans second
      · rw [sameId]
        exact insert
      · refine .tail (.tail (.single firstWrote) secondWrote) (.insertJob (by simp) ?_ insert)
        refine ⟨rfl, rfl, ⟨now, rfl⟩, fun stored named => .inr ?_⟩
        exact maxRevision_mem (latest.trans named)

/-- `mark_deleted` deletes a created upload, or changes nothing. -/
theorem markDeleted_cases {tenantId : String} {uploadId : UploadId} {now : OffsetDateTime}
    {result : Except UploadRepositoryError Unit} (integrity : store.Integrity)
    (ran : markDeleted tenantId uploadId now store = (result, store')) :
    (result = .ok () ∧ ∃ upload, ownedUpload tenantId uploadId upload = true ∧
        upload.state = .created ∧
        UploadMoved upload (deletedColumns now.unixTimestamp) store store') ∨
      store' = store := by
  have pinned : ∀ row, (ownedUpload tenantId uploadId row && row.state == .created) = true →
      row.id = uploadId := by
    intro row hits
    simp only [Bool.and_eq_true, ownedUpload_iff] at hits
    exact hits.1.2
  obtain ⟨succeeded, upload, hits, moved⟩ | ⟨same, -⟩ :=
    updateUploads_reachedOne integrity pinned ran
  · simp only [Bool.and_eq_true, beq_iff_eq] at hits
    exact .inl ⟨succeeded, upload, hits.1, hits.2, moved⟩
  · exact .inr same

/-! ## Kinds -/

theorem moves_saveBatch (batch : UploadBatchReservation) (capacity : UploadCapacityPolicy) :
    Moves (Effect [.insertUpload, .aside]) (saveBatch batch capacity) := by
  refine moves_of_cases fun s result t ran => ?_
  obtain ⟨rfl, -⟩ | ⟨-, size, rows, saved⟩ := saveBatch_cases ran
  · exact .refl
  · exact saved.effect

theorem markQuarantinedAndEnqueue_effect {jobId : JobId} {tenantId : String} {uploadId : UploadId}
    {actualSizeBytes : Nat} {presetId : String} {now : OffsetDateTime}
    {result : Except UploadRepositoryError Unit} (integrity : store.Integrity)
    (ran : markQuarantinedAndEnqueue jobId tenantId uploadId actualSizeBytes presetId now store =
      (result, store')) : Effect [.updateUploads, .insertJob] store store' := by
  obtain ⟨rfl, -⟩ | ⟨-, upload, -, confirmed⟩ := markQuarantinedAndEnqueue_cases integrity ran
  · exact .refl
  · exact confirmed.effect

theorem moves_markDeleted (tenantId : String) (uploadId : UploadId) (now : OffsetDateTime) :
    Moves (Effect [.updateUploads]) (markDeleted tenantId uploadId now) := by
  refine moves_bind (moves_autocommit fun s n t ran => ?_) fun _ => moves_reachedOne _ _
  refine (Wrote.updateUploads (by simp) (fun row _ _ => ?_) ran).effect
  exact ⟨rfl, UploadState.Chain.to_deleted _, fun _ => rfl⟩

end Specification

end MediaBooster.Store
