/-
# Store.Statements -- the store and the statements that write it

`SqliteStore` is the migrated database.  A statement is a function of it that answers
the number of rows it reached and the next store, or fails: it evaluates the
`CHECK`, `UNIQUE` and foreign-key constraints of the rows it writes, carries the
cascades out, and fires the storage-usage and operational-counter triggers for
every row.

Each statement has one inversion lemma (`insertUpload_ok`, `updateUploads_ok`,
...), which says which tables it changes and how.  The two aggregates kept by
triggers are left open there; what happens to them is said once for each
statement in `Quota.Usage`.
-/
import MediaBooster.Store.Usage

namespace MediaBooster.Store

set_option autoImplicit false

open MediaBooster.Domain MediaBooster.Theory.Table MediaBooster.Theory.Transaction

/-! ## Operational counters -/

/-- The columns of `operational_counters`. -/
inductive Counter
  | queuedJobs
  | leasedJobs
  | deadLetterJobs
  | processingUploads
  | cleanupPendingUploads
  | uploadTombstones
  | orphanSuspects
  | orphanDeleteFailures
deriving DecidableEq

abbrev OperationalCounters := Counter → Int

/-- A comparison in an arithmetic expression of SQL: 1 or 0. -/
def sqlBool (holds : Bool) : Int := if holds then 1 else 0

/-- What the triggers on `jobs` count of one row. -/
def tallyJob (row : JobRow) : OperationalCounters
  | .queuedJobs => sqlBool (row.state == .queued)
  | .leasedJobs => sqlBool (row.state == .leased)
  | .deadLetterJobs => sqlBool (row.state == .deadLetter)
  | _ => 0

/-- What the triggers on `uploads` count of one row. -/
def tallyUpload (row : UploadRow) : OperationalCounters
  | .processingUploads => sqlBool (row.state == .processing)
  | .cleanupPendingUploads => sqlBool (row.state != .deleted && row.deleteRequestedAt.isSome)
  | .uploadTombstones => sqlBool (row.state == .deleted)
  | _ => 0

/-- What the triggers on `orphan_objects` count of one row. -/
def tallyOrphan (row : OrphanRow) : OperationalCounters
  | .orphanSuspects => sqlBool (row.state == .suspected)
  | .orphanDeleteFailures => sqlBool (row.state == .suspected && row.lastErrorCode.isSome)
  | _ => 0

/-- `UPDATE operational_counters` by one trigger, with the table's checks. -/
def adjust (counters delta : OperationalCounters) : Except SqlError OperationalCounters :=
  if 0 ≤ counters .queuedJobs + delta .queuedJobs ∧
      0 ≤ counters .leasedJobs + delta .leasedJobs ∧
      0 ≤ counters .deadLetterJobs + delta .deadLetterJobs ∧
      0 ≤ counters .processingUploads + delta .processingUploads ∧
      0 ≤ counters .cleanupPendingUploads + delta .cleanupPendingUploads ∧
      0 ≤ counters .uploadTombstones + delta .uploadTombstones ∧
      0 ≤ counters .orphanSuspects + delta .orphanSuspects ∧
      0 ≤ counters .orphanDeleteFailures + delta .orphanDeleteFailures then
    .ok (counters + delta)
  else .error .checkViolation

theorem adjust_ok {counters delta : OperationalCounters}
    (nonneg : ∀ counter, 0 ≤ counters counter + delta counter) :
    adjust counters delta = .ok (counters + delta) := by
  rw [adjust, if_pos]
  exact ⟨nonneg _, nonneg _, nonneg _, nonneg _, nonneg _, nonneg _, nonneg _, nonneg _⟩

/-- The checks of `operational_counters` hold. -/
def Counted (counters : OperationalCounters) : Prop := ∀ counter, 0 ≤ counters counter

theorem adjust_eq {counters delta counters' : OperationalCounters}
    (adjusted : adjust counters delta = .ok counters') : counters' = counters + delta := by
  rw [adjust] at adjusted
  split at adjusted
  · cases adjusted
    rfl
  · cases adjusted

theorem adjust_counted {counters delta counters' : OperationalCounters}
    (adjusted : adjust counters delta = .ok counters') : Counted counters' := by
  rw [adjust] at adjusted
  split at adjusted
  · rename_i checked
    cases adjusted
    intro counter
    simp only [Pi.add_apply]
    cases counter <;> simp only [checked]
  · cases adjusted

/-- Triggers that fire row by row keep the checks. -/
theorem counted_foldlM {β : Type} {delta : β → OperationalCounters} {rows : List β}
    {counters counters' : OperationalCounters} (counted : Counted counters)
    (fired : rows.foldlM (fun counters row => adjust counters (delta row)) counters =
      .ok counters') : Counted counters' :=
  foldlM_preserves (fun _ _ _ _ adjusted _ => adjust_counted adjusted) fired counted

/-- Triggers that fire row by row add their deltas to the counters. -/
theorem adjust_total {β : Type} {delta : β → OperationalCounters} {rows : List β}
    {counters counters' : OperationalCounters}
    (fired : rows.foldlM (fun counters row => adjust counters (delta row)) counters =
      .ok counters') : counters' = counters + total delta rows := by
  refine (foldlM_reading id delta (fun _ _ => True) (fun _ _ _ _ _ adjusted => ?_) trivial fired).1
  exact ⟨adjust_eq adjusted, trivial⟩

theorem tallyJob_nonneg (job : JobRow) (counter : Counter) : 0 ≤ tallyJob job counter := by
  cases counter <;> simp only [tallyJob, sqlBool, le_refl] <;> split <;> decide

/-! ## The store -/

/-- The migrated database. -/
structure SqliteStore where
  uploadBatches : List UploadBatchRow
  uploads : List UploadRow
  jobs : List JobRow
  derivatives : List DerivativeRow
  sitePolicySnapshots : List SitePolicyRow
  requestNonces : List RequestNonceRow
  nextClaimSequence : Int
  tenantQueueState : List TenantQueueRow
  usage : StorageUsage
  operationalCounters : OperationalCounters
  orphanObjects : List OrphanRow
  inventoryCursors : List InventoryCursorRow

/-- The database the migrations leave behind. -/
def SqliteStore.migrated : SqliteStore where
  uploadBatches := []
  uploads := []
  jobs := []
  derivatives := []
  sitePolicySnapshots := []
  requestNonces := []
  nextClaimSequence := 1
  tenantQueueState := []
  usage := { globalReservedBytes := 0, tenants := [] }
  operationalCounters := 0
  orphanObjects := []
  inventoryCursors := []

/-- A statement answers how many rows it reached. -/
abbrev Statement := SqliteStore → Except SqlError (Nat × SqliteStore)

/-- Fail with `error` unless `condition` holds. -/
def require (condition : Bool) (error : SqlError) : Except SqlError Unit :=
  if condition then .ok () else .error error

@[simp] theorem require_eq_ok {condition : Bool} {error : SqlError} {u : Unit} :
    require condition error = .ok u ↔ condition = true := by
  simp [require]

namespace SqliteStore

/-! ## Statements on uploads -/

/-- `INSERT INTO upload_batches`. -/
def insertUploadBatch (row : UploadBatchRow) : Statement := fun store => do
  require (store.uploadBatches.all fun other => other.id != row.id) .uniqueViolation
  require (uploadBatchChecks row) .checkViolation
  return (1, { store with uploadBatches := store.uploadBatches ++ [row] })

/-- `INSERT INTO uploads`. -/
def insertUpload (row : UploadRow) : Statement := fun store => do
  require (store.uploads.all fun other => other.id != row.id) .uniqueViolation
  require (store.uploads.all fun other => other.objectKey != row.objectKey) .uniqueViolation
  require (uploadChecks row) .checkViolation
  require (row.batchId.all fun batch => store.uploadBatches.any fun other => other.id == batch)
    .foreignKeyViolation
  let usage ← store.usage.afterInsert row
  let counters ← adjust store.operationalCounters (tallyUpload row)
  return (1, { store with
    uploads := store.uploads ++ [row], usage := usage, operationalCounters := counters })

/-- `UPDATE uploads SET set WHERE hit`. -/
def updateUploads (hit : UploadRow → Bool) (set : UploadProgress → UploadProgress) :
    Statement := fun store => do
  let reached := touched hit (UploadRow.assign set) store.uploads
  require (reached.all fun pair => uploadChecks pair.2) .checkViolation
  let usage ← reached.foldlM (fun usage pair => usage.afterUpdate pair.1 pair.2) store.usage
  let counters ← reached.foldlM
    (fun counters pair => adjust counters (tallyUpload pair.2 - tallyUpload pair.1))
    store.operationalCounters
  return (reached.length, { store with
    uploads := updateWhere hit (UploadRow.assign set) store.uploads
    usage := usage, operationalCounters := counters })

/-- `DELETE FROM uploads WHERE hit`, with `ON DELETE CASCADE` into jobs and
derivatives and `ON DELETE RESTRICT` from site policies. -/
def deleteUploads (hit : UploadRow → Bool) : Statement := fun store => do
  let removed := store.uploads.filter hit
  let gone (id : UploadId) : Bool := removed.any fun row => row.id == id
  require (store.sitePolicySnapshots.all fun policy =>
    policy.watermark.all fun mark => !gone mark.uploadId) .foreignKeyViolation
  let usage ← removed.foldlM StorageUsage.afterDelete store.usage
  let counters ← removed.foldlM (fun counters row => adjust counters (-tallyUpload row))
    store.operationalCounters
  let counters ← (store.jobs.filter fun job => gone job.uploadId).foldlM
    (fun counters job => adjust counters (-tallyJob job)) counters
  return (removed.length, { store with
    uploads := deleteWhere hit store.uploads
    jobs := deleteWhere (fun job => gone job.uploadId) store.jobs
    derivatives := deleteWhere (fun row => gone row.uploadId) store.derivatives
    usage := usage, operationalCounters := counters })

/-! ## Statements on jobs -/

/-- The `UNIQUE` constraints of `jobs`, for a row to be inserted. -/
def jobIsNew (row : JobRow) (store : SqliteStore) : Bool :=
  store.jobs.all fun other =>
    other.id != row.id && !(other.uploadId == row.uploadId && other.presetId == row.presetId)

/-- `INSERT INTO jobs`. -/
def insertJob (row : JobRow) : Statement := fun store => do
  require (store.jobIsNew row) .uniqueViolation
  require (jobChecks row) .checkViolation
  require (store.uploads.any fun upload => upload.id == row.uploadId) .foreignKeyViolation
  let counters ← adjust store.operationalCounters (tallyJob row)
  return (1, { store with jobs := store.jobs ++ [row], operationalCounters := counters })

/-- `INSERT OR IGNORE INTO jobs`: a row that breaks a uniqueness or check
constraint is skipped; a missing upload still fails the statement. -/
def insertJobOrIgnore (row : JobRow) : Statement := fun store =>
  if store.jobIsNew row && jobChecks row then store.insertJob row else .ok (0, store)

/-- `UPDATE jobs SET set WHERE hit`. -/
def updateJobs (hit : JobRow → Bool) (set : JobProgress → JobProgress) : Statement :=
  fun store => do
    let reached := touched hit (JobRow.assign set) store.jobs
    require (reached.all fun pair => jobChecks pair.2) .checkViolation
    let counters ← reached.foldlM
      (fun counters pair => adjust counters (tallyJob pair.2 - tallyJob pair.1))
      store.operationalCounters
    return (reached.length, { store with
      jobs := updateWhere hit (JobRow.assign set) store.jobs, operationalCounters := counters })

/-! ## Statements on the other tables -/

/-- `INSERT INTO derivatives … ON CONFLICT(upload_id, preset_id, variant) DO UPDATE SET … WHERE`
the stored row has the same key, type, length and digest: an identical row counts as
reached and keeps its columns, a different one is left alone and not counted. -/
def upsertDerivative (row : DerivativeRow) : Statement := fun store => do
  require (derivativeChecks row) .checkViolation
  match store.derivatives.find? fun other => other.identity == row.identity with
  | some other =>
      if other.objectKey = row.objectKey ∧ other.contentType = row.contentType ∧
          other.byteLen = row.byteLen ∧ other.sha256 = row.sha256 then
        return (1, store)
      else return (0, store)
  | none =>
      require (store.derivatives.all fun other => other.objectKey != row.objectKey)
        .uniqueViolation
      require (store.uploads.any fun upload => upload.id == row.uploadId) .foreignKeyViolation
      return (1, { store with derivatives := store.derivatives ++ [row] })

/-- The highest stored revision of a tenant, `SELECT MAX(revision)`. -/
def maxRevision (tenantId : String) (store : SqliteStore) : Option Int :=
  ((store.sitePolicySnapshots.filter fun row => row.tenantId == tenantId).map
    SitePolicyRow.revision).max?

/-- `INSERT INTO site_policy_snapshots … SELECT … WHERE revision = COALESCE(MAX(revision) + 1, 1)
ON CONFLICT(tenant_id, revision) DO NOTHING`. -/
def insertSitePolicy (row : SitePolicyRow) : Statement := fun store =>
  if row.revision = ((store.maxRevision row.tenantId).map (· + 1)).getD 1 then do
    require (sitePolicyChecks row) .checkViolation
    if store.sitePolicySnapshots.any fun other =>
        other.tenantId == row.tenantId && other.revision == row.revision then
      return (0, store)
    else do
      require (row.watermark.all fun mark => store.uploads.any fun upload =>
        upload.id == mark.uploadId) .foreignKeyViolation
      return (1, { store with sitePolicySnapshots := store.sitePolicySnapshots ++ [row] })
  else .ok (0, store)

/-- `DELETE FROM request_nonces WHERE expires_at <= now`. -/
def deleteExpiredNonces (now : Int) : Statement := fun store =>
  let hit (row : RequestNonceRow) : Bool := decide (row.expiresAt ≤ now)
  .ok ((store.requestNonces.filter hit).length,
    { store with requestNonces := deleteWhere hit store.requestNonces })

/-- `INSERT OR IGNORE INTO request_nonces`. -/
def insertNonceOrIgnore (row : RequestNonceRow) : Statement := fun store =>
  if store.requestNonces.any fun other => other.keyId == row.keyId && other.nonce == row.nonce then
    .ok (0, store)
  else .ok (1, { store with requestNonces := store.requestNonces ++ [row] })

/-- `UPDATE queue_sequence SET next_claim_sequence = next_claim_sequence + 1
RETURNING next_claim_sequence - 1`.  Past `i64::MAX` the sum is no longer an
integer and the column does not decode. -/
def nextClaim (store : SqliteStore) : Except SqlError (Int × SqliteStore) :=
  if store.nextClaimSequence + 1 ≤ i64Max then
    .ok (store.nextClaimSequence, { store with nextClaimSequence := store.nextClaimSequence + 1 })
  else .error .columnDecode

/-- `INSERT INTO tenant_queue_state … ON CONFLICT(tenant_id) DO UPDATE SET
last_claim_sequence = excluded.last_claim_sequence`. -/
def upsertTenantQueue (row : TenantQueueRow) : Statement := fun store => do
  require (tenantQueueChecks row) .checkViolation
  if store.tenantQueueState.any fun other => other.tenantId == row.tenantId then
    return (1, { store with
      tenantQueueState := updateWhere (fun other => other.tenantId == row.tenantId)
        (fun _ => row) store.tenantQueueState })
  else return (1, { store with tenantQueueState := store.tenantQueueState ++ [row] })

/-- Replace the row of one orphan, with the triggers of an update. -/
def updateOrphans (hit : OrphanRow → Bool) (change : OrphanRow → OrphanRow) : Statement :=
  fun store => do
    let reached := touched hit change store.orphanObjects
    require (reached.all fun pair => orphanChecks pair.2) .checkViolation
    let counters ← reached.foldlM
      (fun counters pair => adjust counters (tallyOrphan pair.2 - tallyOrphan pair.1))
      store.operationalCounters
    return (reached.length, { store with
      orphanObjects := updateWhere hit change store.orphanObjects
      operationalCounters := counters })

/-- `INSERT INTO orphan_objects`. -/
def insertOrphan (row : OrphanRow) : Statement := fun store => do
  require (orphanChecks row) .checkViolation
  let counters ← adjust store.operationalCounters (tallyOrphan row)
  return (1, { store with
    orphanObjects := store.orphanObjects ++ [row], operationalCounters := counters })

/-- `DELETE FROM orphan_objects WHERE hit`. -/
def deleteOrphans (hit : OrphanRow → Bool) : Statement := fun store => do
  let removed := store.orphanObjects.filter hit
  let counters ← removed.foldlM (fun counters row => adjust counters (-tallyOrphan row))
    store.operationalCounters
  return (removed.length, { store with
    orphanObjects := deleteWhere hit store.orphanObjects, operationalCounters := counters })

/-- `INSERT INTO inventory_cursors … ON CONFLICT(namespace) DO UPDATE`. -/
def upsertInventoryCursor (row : InventoryCursorRow) : Statement := fun store => do
  require (inventoryCursorChecks row) .checkViolation
  let same (other : InventoryCursorRow) : Bool := other.storageNamespace == row.storageNamespace
  if store.inventoryCursors.any same then
    return (1, { store with
      inventoryCursors := updateWhere same (fun _ => row) store.inventoryCursors })
  else return (1, { store with inventoryCursors := store.inventoryCursors ++ [row] })

/-! ## What a statement that succeeds has done -/

variable {n : Nat} {store store' : SqliteStore}

theorem insertUploadBatch_ok {row : UploadBatchRow}
    (ran : insertUploadBatch row store = .ok (n, store')) :
    n = 1 ∧ store' = { store with uploadBatches := store.uploadBatches ++ [row] } := by
  simp only [insertUploadBatch, except_bind_eq_ok, require_eq_ok] at ran
  obtain ⟨-, -, -, -, result⟩ := ran
  cases result
  exact ⟨rfl, rfl⟩

theorem insertUpload_ok {row : UploadRow} (ran : insertUpload row store = .ok (n, store')) :
    n = 1 ∧ (∀ other ∈ store.uploads, other.id ≠ row.id) ∧
      (∀ other ∈ store.uploads, other.objectKey ≠ row.objectKey) ∧ uploadChecks row = true ∧
      ∃ usage counters, store.usage.afterInsert row = .ok usage ∧
        adjust store.operationalCounters (tallyUpload row) = .ok counters ∧
        store' = { store with
          uploads := store.uploads ++ [row], usage := usage, operationalCounters := counters } := by
  simp only [insertUpload, except_bind_eq_ok, require_eq_ok] at ran
  obtain ⟨-, freshId, -, freshKey, -, checked, -, -, usage, fired, counters, counted, result⟩ := ran
  cases result
  refine ⟨rfl, ?_, ?_, checked, usage, counters, fired, counted, rfl⟩
  · simpa using freshId
  · simpa using freshKey

theorem updateUploads_ok {hit : UploadRow → Bool} {set : UploadProgress → UploadProgress}
    (ran : updateUploads hit set store = .ok (n, store')) :
    n = (touched hit (UploadRow.assign set) store.uploads).length ∧
      ∃ usage counters,
        (touched hit (UploadRow.assign set) store.uploads).foldlM
          (fun usage pair => usage.afterUpdate pair.1 pair.2) store.usage = .ok usage ∧
        (touched hit (UploadRow.assign set) store.uploads).foldlM
          (fun counters pair => adjust counters (tallyUpload pair.2 - tallyUpload pair.1))
          store.operationalCounters = .ok counters ∧
        store' = { store with
          uploads := updateWhere hit (UploadRow.assign set) store.uploads
          usage := usage, operationalCounters := counters } := by
  simp only [updateUploads, except_bind_eq_ok, require_eq_ok] at ran
  obtain ⟨-, -, usage, fired, counters, counted, result⟩ := ran
  cases result
  exact ⟨rfl, usage, counters, fired, counted, rfl⟩

theorem deleteUploads_ok {hit : UploadRow → Bool} (ran : deleteUploads hit store = .ok (n, store')) :
    n = (store.uploads.filter hit).length ∧
      ∃ usage counters,
        (store.uploads.filter hit).foldlM StorageUsage.afterDelete store.usage = .ok usage ∧
        store' = { store with
          uploads := deleteWhere hit store.uploads
          jobs := deleteWhere (fun job =>
            (store.uploads.filter hit).any fun row => row.id == job.uploadId) store.jobs
          derivatives := deleteWhere (fun derivative =>
            (store.uploads.filter hit).any fun row => row.id == derivative.uploadId)
            store.derivatives
          usage := usage, operationalCounters := counters } := by
  simp only [deleteUploads, except_bind_eq_ok, require_eq_ok] at ran
  obtain ⟨-, -, usage, fired, middle, -, counters, -, result⟩ := ran
  cases result
  exact ⟨rfl, usage, counters, fired, rfl⟩

theorem insertJob_ok {row : JobRow} (ran : insertJob row store = .ok (n, store')) :
    n = 1 ∧ store.jobIsNew row = true ∧ (∃ upload ∈ store.uploads, upload.id = row.uploadId) ∧
      ∃ counters, adjust store.operationalCounters (tallyJob row) = .ok counters ∧
        store' = { store with jobs := store.jobs ++ [row], operationalCounters := counters } := by
  simp only [insertJob, except_bind_eq_ok, require_eq_ok] at ran
  obtain ⟨-, fresh, -, -, -, owned, counters, counted, result⟩ := ran
  cases result
  refine ⟨rfl, fresh, ?_, counters, counted, rfl⟩
  simpa using owned

theorem insertJobOrIgnore_ok {row : JobRow} (ran : insertJobOrIgnore row store = .ok (n, store')) :
    (n = 0 ∧ store' = store) ∨ insertJob row store = .ok (n, store') := by
  simp only [insertJobOrIgnore] at ran
  split at ran
  · exact .inr ran
  · cases ran
    exact .inl ⟨rfl, rfl⟩

theorem updateJobs_ok {hit : JobRow → Bool} {set : JobProgress → JobProgress}
    (ran : updateJobs hit set store = .ok (n, store')) :
    n = (touched hit (JobRow.assign set) store.jobs).length ∧
      ∃ counters, (touched hit (JobRow.assign set) store.jobs).foldlM
          (fun counters pair => adjust counters (tallyJob pair.2 - tallyJob pair.1))
          store.operationalCounters = .ok counters ∧
        store' = { store with
          jobs := updateWhere hit (JobRow.assign set) store.jobs
          operationalCounters := counters } := by
  simp only [updateJobs, except_bind_eq_ok, require_eq_ok] at ran
  obtain ⟨-, -, counters, counted, result⟩ := ran
  cases result
  exact ⟨rfl, counters, counted, rfl⟩

/-- Publishing a derivative adds a row for a new identity, or finds the very same row. -/
theorem upsertDerivative_ok {row : DerivativeRow}
    (ran : upsertDerivative row store = .ok (n, store')) :
    store' = store ∨
      (n = 1 ∧ (∀ other ∈ store.derivatives, other.identity ≠ row.identity) ∧
        store' = { store with derivatives := store.derivatives ++ [row] }) := by
  simp only [upsertDerivative, except_bind_eq_ok, require_eq_ok] at ran
  obtain ⟨-, -, ran⟩ := ran
  split at ran
  · split at ran
    · cases ran
      exact .inl rfl
    · cases ran
      exact .inl rfl
  · rename_i absent
    simp only [except_bind_eq_ok, require_eq_ok] at ran
    obtain ⟨-, -, -, -, result⟩ := ran
    cases result
    refine .inr ⟨rfl, ?_, rfl⟩
    simpa using absent

theorem upsertDerivative_checked {row : DerivativeRow}
    (ran : upsertDerivative row store = .ok (n, store')) : derivativeChecks row = true := by
  simp only [upsertDerivative, except_bind_eq_ok, require_eq_ok] at ran
  obtain ⟨-, checked, -⟩ := ran
  exact checked

theorem insertSitePolicy_ok {row : SitePolicyRow}
    (ran : insertSitePolicy row store = .ok (n, store')) :
    (n = 0 ∧ store' = store) ∨
      (n = 1 ∧ sitePolicyChecks row = true ∧
        store' = { store with sitePolicySnapshots := store.sitePolicySnapshots ++ [row] }) := by
  simp only [insertSitePolicy] at ran
  split at ran
  · simp only [except_bind_eq_ok, require_eq_ok] at ran
    obtain ⟨-, checked, ran⟩ := ran
    split at ran
    · cases ran
      exact .inl ⟨rfl, rfl⟩
    · simp only [except_bind_eq_ok, require_eq_ok] at ran
      obtain ⟨-, -, result⟩ := ran
      cases result
      exact .inr ⟨rfl, checked, rfl⟩
  · cases ran
    exact .inl ⟨rfl, rfl⟩

theorem nextClaim_ok {sequence : Int} (ran : nextClaim store = .ok (sequence, store')) :
    sequence = store.nextClaimSequence ∧ store.nextClaimSequence + 1 ≤ i64Max ∧
      store' = { store with nextClaimSequence := store.nextClaimSequence + 1 } := by
  simp only [nextClaim] at ran
  split at ran
  · rename_i fits
    cases ran
    exact ⟨rfl, fits, rfl⟩
  · cases ran

theorem upsertTenantQueue_ok {row : TenantQueueRow}
    (ran : upsertTenantQueue row store = .ok (n, store')) :
    tenantQueueChecks row = true ∧
      store' = { store with
        tenantQueueState :=
          if store.tenantQueueState.any fun other => other.tenantId == row.tenantId then
            updateWhere (fun other => other.tenantId == row.tenantId) (fun _ => row)
              store.tenantQueueState
          else store.tenantQueueState ++ [row] } := by
  simp only [upsertTenantQueue, except_bind_eq_ok, require_eq_ok] at ran
  obtain ⟨-, checked, ran⟩ := ran
  refine ⟨checked, ?_⟩
  split at ran
  · rename_i there
    cases ran
    rw [if_pos there]
  · rename_i there
    cases ran
    rw [if_neg there]

/-- The statements on orphans touch the inventory and its counters only. -/
theorem updateOrphans_ok {hit : OrphanRow → Bool} {change : OrphanRow → OrphanRow}
    (ran : updateOrphans hit change store = .ok (n, store')) :
    n = (touched hit change store.orphanObjects).length ∧
      ∃ counters, (Counted store.operationalCounters → Counted counters) ∧
        counters = store.operationalCounters + total (fun pair => tallyOrphan pair.2 -
          tallyOrphan pair.1) (touched hit change store.orphanObjects) ∧
        store' = { store with
          orphanObjects := updateWhere hit change store.orphanObjects
          operationalCounters := counters } := by
  simp only [updateOrphans, except_bind_eq_ok, require_eq_ok] at ran
  obtain ⟨-, -, counters, fired, result⟩ := ran
  cases result
  exact ⟨rfl, counters, fun counted => counted_foldlM counted fired, adjust_total fired, rfl⟩

theorem insertOrphan_ok {row : OrphanRow} (ran : insertOrphan row store = .ok (n, store')) :
    ∃ counters, Counted counters ∧ counters = store.operationalCounters + tallyOrphan row ∧
      store' = { store with
        orphanObjects := store.orphanObjects ++ [row], operationalCounters := counters } := by
  simp only [insertOrphan, except_bind_eq_ok, require_eq_ok] at ran
  obtain ⟨-, -, counters, adjusted, result⟩ := ran
  cases result
  exact ⟨counters, adjust_counted adjusted, adjust_eq adjusted, rfl⟩

theorem deleteOrphans_ok {hit : OrphanRow → Bool}
    (ran : deleteOrphans hit store = .ok (n, store')) :
    n = (store.orphanObjects.filter hit).length ∧
      ∃ counters, (Counted store.operationalCounters → Counted counters) ∧
        counters = store.operationalCounters +
          total (fun row => -tallyOrphan row) (store.orphanObjects.filter hit) ∧
        store' = { store with
          orphanObjects := deleteWhere hit store.orphanObjects
          operationalCounters := counters } := by
  simp only [deleteOrphans, except_bind_eq_ok] at ran
  obtain ⟨counters, fired, result⟩ := ran
  cases result
  exact ⟨rfl, counters, fun counted => counted_foldlM counted fired, adjust_total fired, rfl⟩

theorem upsertInventoryCursor_ok {row : InventoryCursorRow}
    (ran : upsertInventoryCursor row store = .ok (n, store')) :
    ∃ cursors, store' = { store with inventoryCursors := cursors } := by
  simp only [upsertInventoryCursor, except_bind_eq_ok, require_eq_ok] at ran
  obtain ⟨-, -, ran⟩ := ran
  split at ran
  · cases ran
    exact ⟨_, rfl⟩
  · cases ran
    exact ⟨_, rfl⟩

end SqliteStore

end MediaBooster.Store
