/-
# Quota.Counters -- the operational counters are exact

`operational_snapshot` never scans a table for its gauges: it reads the counters row
that the triggers on jobs, uploads and orphan objects keep up.  `recount` is the same
row computed from the tables, with the queries the migration filled it with.

`Tallied` says that the counters are the totals of what the triggers count of each row.
`wrote_tallied` keeps it over every statement: an insert adds the new row, an update the
difference of each row it reaches, a delete takes away the rows it removes and the jobs
that go with them.  So it holds in every run (`run_tallied`), whatever was rolled back in
it, and the snapshot is the one the full scans give (`operational_counters_exact`).
-/
import MediaBooster.Quota.Usage

namespace MediaBooster.Quota

set_option autoImplicit false

open MediaBooster.Domain MediaBooster.Store MediaBooster.Theory.Run MediaBooster.Theory.Table
open MediaBooster.Theory.Transaction

/-! ## The snapshot -/

/-- Low-cardinality state read at scrape time. -/
structure OperationalSnapshot where
  queuedJobs : Nat
  leasedJobs : Nat
  deadLetterJobs : Nat
  oldestQueuedAgeSeconds : Nat
  processingUploads : Nat
  cleanupPendingUploads : Nat
  uploadTombstones : Nat
  orphanSuspects : Nat
  orphanDeleteFailures : Nat
  reservedSourceBytes : Nat
deriving DecidableEq

/-- `operational snapshot failed: {fault}`. -/
structure OperationalSnapshotError where
  fault : Fault
deriving DecidableEq

/-- `operational_u64`. -/
def operationalU64 (value : Int) : Except OperationalSnapshotError Nat :=
  match u64TryFrom value with
  | some n => .ok n
  | none => .error ⟨.text "stored operational counter is invalid"⟩

/-- `SELECT MIN(created_at) FROM jobs WHERE state = 'queued'`. -/
def oldestQueuedAt (store : SqliteStore) : Option Int :=
  ((store.jobs.filter fun job => job.state == .queued).map fun job => job.createdAt).min?

/-- `i64::saturating_sub`. -/
def saturatingSub (a b : Int) : Int := max i64Min (min i64Max (a - b))

/-- How long the oldest queued job waits, not below zero. -/
def oldestQueuedAge (now : OffsetDateTime) (oldest : Option Int) : Int :=
  max ((oldest.map fun createdAt => saturatingSub now.unixTimestamp createdAt).getD 0) 0

/-- The snapshot that the columns read make up. -/
def snapshotFromColumns (now : OffsetDateTime) (counters : OperationalCounters)
    (oldest : Option Int) (reservedSourceBytes : Int) :
    Except OperationalSnapshotError OperationalSnapshot := do
  let queuedJobs ← operationalU64 (counters .queuedJobs)
  let leasedJobs ← operationalU64 (counters .leasedJobs)
  let deadLetterJobs ← operationalU64 (counters .deadLetterJobs)
  let oldestQueuedAgeSeconds ← operationalU64 (oldestQueuedAge now oldest)
  let processingUploads ← operationalU64 (counters .processingUploads)
  let cleanupPendingUploads ← operationalU64 (counters .cleanupPendingUploads)
  let uploadTombstones ← operationalU64 (counters .uploadTombstones)
  let orphanSuspects ← operationalU64 (counters .orphanSuspects)
  let orphanDeleteFailures ← operationalU64 (counters .orphanDeleteFailures)
  let reservedSourceBytes ← operationalU64 reservedSourceBytes
  return {
    queuedJobs, leasedJobs, deadLetterJobs, oldestQueuedAgeSeconds, processingUploads,
    cleanupPendingUploads, uploadTombstones, orphanSuspects, orphanDeleteFailures,
    reservedSourceBytes }

/-- `OperationalObserver::operational_snapshot`: one transaction of three reads. -/
def operationalSnapshot (now : OffsetDateTime) :
    Call SqliteStore OperationalSnapshotError OperationalSnapshot := do
  let (counters, oldest, reservedSourceBytes) ← commit do
    let counters ← Tx.select fun store => store.operationalCounters
    let oldest ← Tx.select oldestQueuedAt
    let reservedSourceBytes ← Tx.select fun store => store.usage.globalReservedBytes
    return (counters, oldest, reservedSourceBytes)
  Call.readOr fun _ => snapshotFromColumns now counters oldest reservedSourceBytes

/-! ## The same by full scans -/

/-- `SELECT COUNT(*) … WHERE hit`. -/
def countWhere {α : Type} (hit : α → Bool) (rows : List α) : Int := (rows.filter hit).length

/-- The counters recomputed from the tables. -/
def recount (store : SqliteStore) : OperationalCounters
  | .queuedJobs => countWhere (fun job => job.state == .queued) store.jobs
  | .leasedJobs => countWhere (fun job => job.state == .leased) store.jobs
  | .deadLetterJobs => countWhere (fun job => job.state == .deadLetter) store.jobs
  | .processingUploads => countWhere (fun row => row.state == .processing) store.uploads
  | .cleanupPendingUploads =>
      countWhere (fun row => row.state != .deleted && row.deleteRequestedAt.isSome) store.uploads
  | .uploadTombstones => countWhere (fun row => row.state == .deleted) store.uploads
  | .orphanSuspects => countWhere (fun row => row.state == .suspected) store.orphanObjects
  | .orphanDeleteFailures =>
      countWhere (fun row => row.state == .suspected && row.lastErrorCode.isSome)
        store.orphanObjects

/-- The snapshot that full scans of the tables give. -/
def scannedSnapshot (now : OffsetDateTime) (store : SqliteStore) :
    Except OperationalSnapshotError OperationalSnapshot :=
  snapshotFromColumns now (recount store) (oldestQueuedAt store) (reservedBytes store.uploads)

/-! ## What the triggers count -/

theorem total_apply {β : Type} (weight : β → OperationalCounters) (rows : List β)
    (counter : Counter) :
    total weight rows counter = total (fun row => weight row counter) rows := by
  induction rows with
  | nil => rfl
  | cons row rows ih => rw [total_cons, total_cons, Pi.add_apply, ih]

theorem total_sqlBool {β : Type} (hit : β → Bool) (rows : List β) :
    total (fun row => sqlBool (hit row)) rows = countWhere hit rows := by
  induction rows with
  | nil => rfl
  | cons row rows ih =>
      rw [total_cons, ih]
      by_cases reached : hit row = true
      · simp [sqlBool, countWhere, reached, add_comm]
      · simp [sqlBool, countWhere, reached]

theorem total_zero {β : Type} (rows : List β) : total (fun _ => (0 : Int)) rows = 0 := by
  induction rows with
  | nil => rfl
  | cons row rows ih => rw [total_cons, ih, add_zero]

/-- What the triggers count of all rows of a store. -/
def tallies (store : SqliteStore) : OperationalCounters :=
  total tallyUpload store.uploads + total tallyJob store.jobs +
    total tallyOrphan store.orphanObjects

/-- Each counter counts the rows of one table. -/
theorem tallies_eq_recount (store : SqliteStore) : tallies store = recount store := by
  funext counter
  show total tallyUpload store.uploads counter + total tallyJob store.jobs counter +
    total tallyOrphan store.orphanObjects counter = recount store counter
  rw [total_apply, total_apply, total_apply]
  cases counter with
  | queuedJobs | leasedJobs | deadLetterJobs =>
      simp only [tallyUpload, tallyJob, tallyOrphan, total_zero, total_sqlBool, recount, zero_add,
        add_zero]
  | processingUploads | cleanupPendingUploads | uploadTombstones =>
      simp only [tallyUpload, tallyJob, tallyOrphan, total_zero, total_sqlBool, recount, add_zero]
  | orphanSuspects | orphanDeleteFailures =>
      simp only [tallyUpload, tallyJob, tallyOrphan, total_zero, total_sqlBool, recount, zero_add]

theorem recount_nonneg (store : SqliteStore) (counter : Counter) : 0 ≤ recount store counter := by
  cases counter <;> exact Int.natCast_nonneg _

/-! ## Statements keep the counters exact -/

/-- The counters are the totals of what the triggers count. -/
def Tallied (store : SqliteStore) : Prop := store.operationalCounters = tallies store

theorem tallyUpload_nonneg (row : UploadRow) (counter : Counter) : 0 ≤ tallyUpload row counter := by
  cases counter <;> simp only [tallyUpload, sqlBool, le_refl] <;> split <;> decide

theorem tallyOrphan_nonneg (row : OrphanRow) (counter : Counter) : 0 ≤ tallyOrphan row counter := by
  cases counter <;> simp only [tallyOrphan, sqlBool, le_refl] <;> split <;> decide

theorem total_tally_nonneg {β : Type} {weight : β → OperationalCounters}
    (nonneg : ∀ row counter, 0 ≤ weight row counter) (rows : List β) : 0 ≤ total weight rows := by
  induction rows with
  | nil => exact le_refl _
  | cons row rows ih => exact add_nonneg (nonneg row) ih

/-- The rows a statement reaches are counted for no more than their table is. -/
theorem total_tally_filter_le {β : Type} {weight : β → OperationalCounters}
    (nonneg : ∀ row counter, 0 ≤ weight row counter) (hit : β → Bool) (rows : List β) :
    total weight (rows.filter hit) ≤ total weight rows := by
  have rest := total_tally_nonneg nonneg (deleteWhere hit rows)
  rw [total_deleteWhere] at rest
  exact sub_nonneg.1 rest

/-- **Triggers that take away no more than the counters hold do not fail**, whatever they add. -/
theorem adjust_runs {β : Type} (add remove : β → OperationalCounters)
    (adds : ∀ row counter, 0 ≤ add row counter) (removes : ∀ row counter, 0 ≤ remove row counter)
    {rows : List β} {counters : OperationalCounters} (held : total remove rows ≤ counters) :
    rows.foldlM (fun counters row => adjust counters (add row - remove row)) counters =
      .ok (counters + (total add rows - total remove rows)) := by
  induction rows generalizing counters with
  | nil => rw [List.foldlM_nil, total_nil, total_nil, sub_zero, add_zero]; rfl
  | cons row rows ih =>
      rw [total_cons] at held
      have rest : total remove rows ≤ counters + (add row - remove row) := by
        intro counter
        have most := held counter
        have more := adds row counter
        simp only [Pi.add_apply, Pi.sub_apply] at most ⊢
        omega
      have first : adjust counters (add row - remove row) =
          .ok (counters + (add row - remove row)) :=
        adjust_ok fun counter => (total_tally_nonneg removes rows counter).trans (rest counter)
      rw [List.foldlM_cons, first]
      show List.foldlM _ _ rows = _
      rw [ih rest, total_cons, total_cons]
      congr 1
      funext counter
      simp only [Pi.add_apply, Pi.sub_apply]
      omega

/-- Triggers that only take away. -/
theorem adjust_removes {β : Type} {remove : β → OperationalCounters}
    (removes : ∀ row counter, 0 ≤ remove row counter) {rows : List β}
    {counters : OperationalCounters} (held : total remove rows ≤ counters) :
    rows.foldlM (fun counters row => adjust counters (-remove row)) counters =
      .ok (counters - total remove rows) := by
  have runs := adjust_runs (fun _ => 0) remove (fun _ _ => le_refl 0) removes held
  have none : total (fun _ : β => (0 : OperationalCounters)) rows = 0 := by
    funext counter
    rw [total_apply]
    exact total_zero rows
  simpa only [zero_sub, none, ← sub_eq_add_neg] using runs

/-- **A delete of uploads runs** where its foreign key and its triggers let it. -/
theorem deleteUploads_runs {store : SqliteStore} {hit : UploadRow → Bool} {gone : UploadId → Bool}
    {usage : StorageUsage} {middle counters : OperationalCounters}
    (goneIs : ∀ id, (store.uploads.filter hit).any (fun row => row.id == id) = gone id)
    (unreferenced : (store.sitePolicySnapshots.all fun policy => policy.watermark.all fun mark =>
      !gone mark.uploadId) = true)
    (refunded : (store.uploads.filter hit).foldlM StorageUsage.afterDelete store.usage = .ok usage)
    (uncounted : (store.uploads.filter hit).foldlM
      (fun counters row => adjust counters (-tallyUpload row)) store.operationalCounters =
        .ok middle)
    (cascaded : (store.jobs.filter fun job => gone job.uploadId).foldlM
      (fun counters job => adjust counters (-tallyJob job)) middle = .ok counters) :
    SqliteStore.deleteUploads hit store = .ok ((store.uploads.filter hit).length,
      { store with
        uploads := deleteWhere hit store.uploads
        jobs := deleteWhere (fun job => gone job.uploadId) store.jobs
        derivatives := deleteWhere (fun row => gone row.uploadId) store.derivatives
        usage := usage, operationalCounters := counters }) := by
  simp only [SqliteStore.deleteUploads, goneIs, except_bind_eq_ok, require_eq_ok]
  exact ⟨(), unreferenced, usage, refunded, middle, uncounted, counters, cascaded, rfl⟩

/-- No counter is negative. -/
theorem Tallied.nonneg {store : SqliteStore} (tallied : Tallied store) :
    0 ≤ store.operationalCounters := by
  have uploads := total_tally_nonneg tallyUpload_nonneg store.uploads
  have jobs := total_tally_nonneg tallyJob_nonneg store.jobs
  have orphans := total_tally_nonneg tallyOrphan_nonneg store.orphanObjects
  rw [tallied]
  exact add_nonneg (add_nonneg uploads jobs) orphans

theorem migrated_tallied : Tallied SqliteStore.migrated := rfl

section Statements

variable {s t : SqliteStore} {n : Nat}

theorem insertUpload_tallied {row : UploadRow} (tallied : Tallied s)
    (ran : SqliteStore.insertUpload row s = .ok (n, t)) : Tallied t := by
  obtain ⟨-, -, -, -, usage, counters, -, adjusted, rfl⟩ := SqliteStore.insertUpload_ok ran
  show counters = total tallyUpload (s.uploads ++ [row]) + total tallyJob s.jobs +
    total tallyOrphan s.orphanObjects
  rw [adjust_eq adjusted, tallied, tallies, total_append, total_cons, total_nil]
  abel

theorem updateUploads_tallied {hit : UploadRow → Bool} {set : UploadProgress → UploadProgress}
    (tallied : Tallied s) (ran : SqliteStore.updateUploads hit set s = .ok (n, t)) :
    Tallied t := by
  obtain ⟨-, usage, counters, -, fired, rfl⟩ := SqliteStore.updateUploads_ok ran
  show counters = total tallyUpload (updateWhere hit (UploadRow.assign set) s.uploads) +
    total tallyJob s.jobs + total tallyOrphan s.orphanObjects
  rw [adjust_total fired, tallied, tallies, total_updateWhere]
  abel

/-- A deleted upload takes its jobs with it, and each of them fires the trigger on jobs. -/
theorem deleteUploads_tallied {hit : UploadRow → Bool} (tallied : Tallied s)
    (ran : SqliteStore.deleteUploads hit s = .ok (n, t)) : Tallied t := by
  simp only [SqliteStore.deleteUploads, except_bind_eq_ok, require_eq_ok] at ran
  obtain ⟨-, -, usage, -, middle, uploads, counters, jobs, result⟩ := ran
  cases result
  show counters = total tallyUpload (deleteWhere hit s.uploads) +
    total tallyJob (deleteWhere _ s.jobs) + total tallyOrphan s.orphanObjects
  rw [adjust_total jobs, adjust_total uploads, tallied, tallies, total_neg, total_neg,
    total_deleteWhere, total_deleteWhere]
  abel

theorem insertJob_tallied {row : JobRow} (tallied : Tallied s)
    (ran : SqliteStore.insertJob row s = .ok (n, t)) : Tallied t := by
  obtain ⟨-, -, -, counters, adjusted, rfl⟩ := SqliteStore.insertJob_ok ran
  show counters = total tallyUpload s.uploads + total tallyJob (s.jobs ++ [row]) +
    total tallyOrphan s.orphanObjects
  rw [adjust_eq adjusted, tallied, tallies, total_append, total_cons, total_nil]
  abel

theorem updateJobs_tallied {hit : JobRow → Bool} {set : JobProgress → JobProgress}
    (tallied : Tallied s) (ran : SqliteStore.updateJobs hit set s = .ok (n, t)) : Tallied t := by
  obtain ⟨-, counters, fired, rfl⟩ := SqliteStore.updateJobs_ok ran
  show counters = total tallyUpload s.uploads +
    total tallyJob (updateWhere hit (JobRow.assign set) s.jobs) + total tallyOrphan s.orphanObjects
  rw [adjust_total fired, tallied, tallies, total_updateWhere]
  abel

theorem sameTables_tallied (tallied : Tallied s) (same : SameTables s t) : Tallied t := by
  have moved := same.tallied
  rw [tallied, tallies] at moved
  rw [Tallied, tallies, same.uploads, same.jobs]
  rw [add_right_comm] at moved
  exact add_right_cancel moved

/-- **Every statement keeps the counters exact.** -/
theorem wrote_tallied {K : List Kind} (wrote : Wrote K s t) (tallied : Tallied s) :
    Tallied t := by
  cases wrote with
  | insertUpload kind fresh ran => exact insertUpload_tallied tallied ran
  | updateUploads kind evolves ran => exact updateUploads_tallied tallied ran
  | deleteUploads kind tombstones ran => exact deleteUploads_tallied tallied ran
  | insertJob kind queued ran => exact insertJob_tallied tallied ran
  | updateJobs kind ran => exact updateJobs_tallied tallied ran
  | upsertDerivative kind ran =>
      obtain rfl | ⟨-, -, rfl⟩ := SqliteStore.upsertDerivative_ok ran
      · exact tallied
      · exact tallied
  | insertSitePolicy kind bounded ran =>
      obtain ⟨-, rfl⟩ | ⟨-, -, rfl⟩ := SqliteStore.insertSitePolicy_ok ran
      · exact tallied
      · exact tallied
  | nextClaim kind ran =>
      obtain ⟨-, -, rfl⟩ := SqliteStore.nextClaim_ok ran
      exact tallied
  | upsertTenantQueue kind ran =>
      obtain ⟨-, rfl⟩ := SqliteStore.upsertTenantQueue_ok ran
      exact tallied
  | aside kind same => exact sameTables_tallied tallied same

end Statements

theorem run_tallied {calls : List (Op × Bool)} {store : SqliteStore} (run : StoreRun calls store) :
    Tallied store := by
  have both : store.Integrity ∧ Tallied store :=
    Trace.keeps (P := fun store => store.Integrity ∧ Tallied store)
      (fun _ _ _ step kept =>
        ⟨step.integrity kept.1,
          (step.effect kept.1).keeps (fun _ _ wrote => wrote_tallied wrote) kept.2⟩)
      run ⟨migrated_integrity, migrated_tallied⟩
  exact both.2

/-! ## Exactness -/

theorem operationalSnapshot_reads (now : OffsetDateTime) (store : SqliteStore) :
    operationalSnapshot now store =
      (snapshotFromColumns now store.operationalCounters (oldestQueuedAt store)
        store.usage.globalReservedBytes, store) := rfl

/-- **Exact operational counters.**  After every run, each counter is what a full scan
counts and none is negative, and the snapshot is the one the scans give. -/
theorem operational_counters_exact {calls : List (Op × Bool)} {store : SqliteStore}
    (run : StoreRun calls store) :
    (∀ counter, store.operationalCounters counter = recount store counter ∧
      0 ≤ store.operationalCounters counter) ∧
      ∀ now, operationalSnapshot now store = (scannedSnapshot now store, store) := by
  have same : store.operationalCounters = recount store :=
    (run_tallied run).trans (tallies_eq_recount store)
  constructor
  · intro counter
    rw [same]
    exact ⟨rfl, recount_nonneg store counter⟩
  · intro now
    have sound := run_sound run
    have usage := usageExact_of_metered sound.metered sound.bounded
    rw [operationalSnapshot_reads, scannedSnapshot, same, usage.global]

/-- The sample reservation counts nowhere but in the reserved bytes. -/
theorem operational_counters_sample :
    operationalSnapshot (sampleTime 60) reservedSample =
      (scannedSnapshot (sampleTime 60) reservedSample, reservedSample) ∧
      reservedBytes reservedSample.uploads = 100 :=
  ⟨(operational_counters_exact reservedSample_run).2 (sampleTime 60), rfl⟩

end MediaBooster.Quota
