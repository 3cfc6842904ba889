/-
# Store.Lifecycle -- the lifecycle repository

`LifecycleRepository` of the SQLite store: deletion requests, the leases of cleanup
runs, their completion and failure, and the purge of old tombstones.

A cleanup lease is a set of columns on the upload's row: `claimCleanupBatch` sets
them on every row it selects, and `completeCleanup` and `failCleanup` ask for the
owner and for a state other than `deleted`, and for nothing else.
`requestDeletion_cases`, `claimCleanupBatch_cases`, `completeCleanup_cases` and
`failCleanup_cases` say all that each can do, and `purgeTombstones_effect` what a purge deletes.
-/
import Mathlib.Data.List.Sort
import Mathlib.Data.String.Basic
import MediaBooster.Store.Uploads

namespace MediaBooster.Store

set_option autoImplicit false

open MediaBooster.Domain MediaBooster.Theory.Table MediaBooster.Theory.Transaction

/-! ## Deletion requests -/

inductive DeletionRequestOutcome
  | accepted
  | alreadyPending
  | alreadyDeleted
deriving DecidableEq

inductive DeletionRequestError
  | invalidTenant
  | notFound
  | stateConflict
  | referencedByPolicy
  | backend (fault : Fault)
deriving DecidableEq

/-- `deletion_backend`. -/
def deletionBackend (error : SqlError) : DeletionRequestError := .backend (.sqliteBackend error)

/-- `state IN ('created', 'ready', 'rejected', 'failed')`. -/
def deletableState : UploadState → Bool
  | .created | .ready | .rejected | .failed => true
  | .uploaded | .quarantined | .processing | .deleted => false

/-- `COUNT(*)` of the policy snapshots whose watermark is the upload. -/
def SqliteStore.policyReferences (uploadId : UploadId) (store : SqliteStore) : Nat :=
  (store.sitePolicySnapshots.filter fun policy =>
    policy.watermark.any fun mark => mark.uploadId == uploadId).length

/-- The columns `request_deletion` sets. -/
def requestedColumns (now : Int) (upload : UploadProgress) : UploadProgress :=
  { upload with
    deleteRequestedAt := some now
    cleanupRetryAt := some now
    cleanupErrorCode := none
    updatedAt := now }

/-- The rest of `request_deletion` for an upload without a request. -/
def recordDeletion (tenantId : String) (uploadId : UploadId) (now : Int) (state : UploadState) :
    Tx SqliteStore DeletionRequestError DeletionRequestOutcome := do
  Tx.ensure (deletableState state) .stateConflict
  let references ← Tx.select (SqliteStore.policyReferences uploadId)
  Tx.ensure (references == 0) .referencedByPolicy
  let updated ← Tx.execute deletionBackend (SqliteStore.updateUploads
    (fun row => ownedUpload tenantId uploadId row && row.deleteRequestedAt.isNone &&
      deletableState row.state)
    (requestedColumns now))
  Tx.ensure (updated == 1) .stateConflict
  return .accepted

/-- The transaction of `request_deletion`. -/
def deletionTransaction (tenantId : String) (uploadId : UploadId) (now : Int) :
    Tx SqliteStore DeletionRequestError DeletionRequestOutcome := do
  let stored ← Tx.select fun store => store.uploads.find? (ownedUpload tenantId uploadId)
  let row ← Tx.okOr stored .notFound
  if row.state = .deleted then return .alreadyDeleted
  else if row.deleteRequestedAt.isSome then return .alreadyPending
  else recordDeletion tenantId uploadId now row.state

/-- `LifecycleRepository::request_deletion`. -/
def requestDeletion (tenantId : String) (uploadId : UploadId) (now : OffsetDateTime) :
    Call SqliteStore DeletionRequestError DeletionRequestOutcome :=
  commit (deletionTransaction tenantId uploadId now.unixTimestamp)

/-! ## Cleanup leases -/

/-- `LifecycleRepositoryError(String)`. -/
abbrev LifecycleRepositoryError := Fault

/-- `lifecycle_backend`. -/
def lifecycleBackend (error : SqlError) : LifecycleRepositoryError := .sqliteBackend error

/-- Why an upload is cleaned up. -/
inductive CleanupReason
  | userRequested
  | expiredReservation
  | retentionExpired
deriving DecidableEq

/-- One cleanup item leased to a maintenance run. -/
structure CleanupCandidate where
  tenantId : String
  uploadId : UploadId
  rawObjectKey : ObjectKey
  state : UploadState
  transfer : UploadTransfer
  multipartUploadId : Option String
  derivativeKeys : List ObjectKey
  reason : CleanupReason
  attempts : Nat
deriving DecidableEq

/-- The `WHERE` of a cleanup claim. -/
def cleanupEligible (maxAttempts : Nat) (now createdBefore rejectedBefore : Int)
    (row : UploadRow) : Bool :=
  row.state != .deleted && decide (row.cleanupAttempts < maxAttempts) &&
    row.cleanupRetryAt.all (fun retryAt => decide (retryAt ≤ now)) &&
    row.cleanupLeaseUntil.all (fun leaseUntil => decide (leaseUntil ≤ now)) &&
    (row.deleteRequestedAt.isSome ||
      (row.state == .created && decide (row.createdAt ≤ createdBefore)) ||
      ((row.state == .rejected || row.state == .failed) &&
        decide (row.updatedAt ≤ rejectedBefore)))

/-- The `ORDER BY` of a cleanup claim. -/
def cleanupOrder (row : UploadRow) : Int ×ₗ Int ×ₗ Uuid :=
  toLex (if row.deleteRequestedAt.isSome then 0 else 1,
    toLex (row.deleteRequestedAt.getD row.updatedAt, row.id.uuid))

/-- The rows a cleanup claim selects. -/
def SqliteStore.cleanupRows (limit maxAttempts : Nat) (now createdBefore rejectedBefore : Int)
    (store : SqliteStore) : List UploadRow :=
  ((store.uploads.filter (cleanupEligible maxAttempts now createdBefore
    rejectedBefore)).insertionSort fun a b => cleanupOrder a ≤ cleanupOrder b).take limit

/-- `SELECT object_key FROM derivatives WHERE upload_id = ? ORDER BY object_key`. -/
def SqliteStore.derivativeKeys (uploadId : UploadId) (store : SqliteStore) : List ObjectKey :=
  ((store.derivatives.filter fun row => row.uploadId == uploadId).map
    DerivativeRow.objectKey).insertionSort fun a b => a.asStr ≤ b.asStr

/-- The reason a stored upload is cleaned up for. -/
def cleanupReason (deleteRequested : Bool) (state : UploadState) : CleanupReason :=
  if deleteRequested then .userRequested
  else if state = .created then .expiredReservation
  else .retentionExpired

/-- The rendering of an upload repository error. -/
def UploadRepositoryError.fault : UploadRepositoryError → Fault
  | .capacityExhausted => .text "active upload capacity is exhausted"
  | .backend fault => .within "upload repository operation failed: " fault

/-- `cleanup upload row is invalid: {error}`. -/
def cleanupRowInvalid (error : UploadRepositoryError) : LifecycleRepositoryError :=
  .within "cleanup upload row is invalid: " error.fault

/-- The columns a cleanup claim sets. -/
def leaseColumns (owner : String) (leaseUntil : Int) (upload : UploadProgress) : UploadProgress :=
  { upload with
    cleanupLeaseOwner := some owner
    cleanupLeaseUntil := some leaseUntil
    cleanupAttempts := upload.cleanupAttempts + 1
    cleanupErrorCode := none }

/-- The attempt number of a claim: `checked_add(1)`, then `u32::try_from`. -/
def nextCleanupAttempt (previous : Int) : Option Nat :=
  (i64CheckedAdd previous 1).bind u32TryFrom

/-- Lease one selected row. -/
def leaseCandidate (owner : String) (leaseUntil : Int) (row : UploadRow) :
    Tx SqliteStore LifecycleRepositoryError CleanupCandidate := do
  let attempts ← Tx.okOr (nextCleanupAttempt row.cleanupAttempts)
    (.text "cleanup attempts are invalid")
  let stored ← Tx.selectOr fun _ => (storedUploadFromRow row).mapError cleanupRowInvalid
  let leased ← Tx.execute lifecycleBackend (SqliteStore.updateUploads
    (fun other => other.id == stored.uploadId) (leaseColumns owner leaseUntil))
  Tx.ensure (leased == 1) (.text "cleanup candidate could not be leased")
  let keys ← Tx.select (SqliteStore.derivativeKeys stored.uploadId)
  return { tenantId := row.tenantId, uploadId := stored.uploadId, rawObjectKey := stored.objectKey,
           state := stored.state, transfer := stored.transfer,
           multipartUploadId := stored.multipartUploadId, derivativeKeys := keys,
           reason := cleanupReason row.deleteRequestedAt.isSome stored.state,
           attempts := attempts }

/-- The transaction of `claim_cleanup_batch`. -/
def cleanupTransaction (owner : String) (now createdBefore rejectedBefore leaseUntil : Int)
    (limit maxAttempts : Nat) : Tx SqliteStore LifecycleRepositoryError (List CleanupCandidate) := do
  let rows ← Tx.select
    (SqliteStore.cleanupRows limit maxAttempts now createdBefore rejectedBefore)
  rows.mapM (leaseCandidate owner leaseUntil)

/-- `LifecycleRepository::claim_cleanup_batch`. -/
def claimCleanupBatch (owner : String) (now createdBefore rejectedBefore : OffsetDateTime)
    (leaseFor : Duration) (limit maxAttempts : Nat) :
    Call SqliteStore LifecycleRepositoryError (List CleanupCandidate) := do
  Call.ensure
    (narrowToken owner 128 && !leaseFor.isZero &&
      !decide (Duration.fromSecs 3600 (by decide) < leaseFor) &&
      decide (1 ≤ limit ∧ limit ≤ 100) && decide (1 ≤ maxAttempts ∧ maxAttempts ≤ 100))
    (.text "cleanup claim policy is invalid")
  let leaseSeconds ← Call.okOr (i64TryFrom leaseFor.asSecs) (.text "cleanup lease is invalid")
  let leaseUntil ← Call.okOr (i64CheckedAdd now.unixTimestamp leaseSeconds)
    (.text "cleanup lease overflow")
  commit (cleanupTransaction owner now.unixTimestamp createdBefore.unixTimestamp
    rejectedBefore.unixTimestamp leaseUntil limit maxAttempts)

/-- `WHERE id = ? AND state != 'deleted' AND cleanup_lease_owner = ?`. -/
def cleanupLeasedBy (uploadId : UploadId) (owner : String) (row : UploadRow) : Bool :=
  row.id == uploadId && row.state != .deleted && row.cleanupLeaseOwner == some owner

/-- The columns `complete_cleanup` sets. -/
def tombstoneColumns (now : Int) (upload : UploadProgress) : UploadProgress :=
  { upload with
    state := .deleted
    deletedAt := some now
    updatedAt := now
    cleanupLeaseOwner := none
    cleanupLeaseUntil := none
    cleanupRetryAt := none
    cleanupErrorCode := none }

/-- `LifecycleRepository::complete_cleanup`. -/
def completeCleanup (uploadId : UploadId) (owner : String) (now : OffsetDateTime) :
    Call SqliteStore LifecycleRepositoryError Unit := do
  let updated ← autocommit lifecycleBackend (SqliteStore.updateUploads
    (cleanupLeasedBy uploadId owner) (tombstoneColumns now.unixTimestamp))
  reachedOne updated fun _ => .error (.text "cleanup lease is not owned by this worker")

/-- The columns `fail_cleanup` sets. -/
def retryColumns (now retryAt : Int) (errorCode : String) (upload : UploadProgress) :
    UploadProgress :=
  { upload with
    cleanupLeaseOwner := none
    cleanupLeaseUntil := none
    cleanupRetryAt := some retryAt
    cleanupErrorCode := some errorCode
    updatedAt := now }

/-- `LifecycleRepository::fail_cleanup`. -/
def failCleanup (uploadId : UploadId) (owner : String) (now retryAt : OffsetDateTime)
    (errorCode : String) : Call SqliteStore LifecycleRepositoryError Unit := do
  Call.ensure (!decide (retryAt ≤ now) && errorCodeToken errorCode)
    (.text "cleanup failure policy is invalid")
  let updated ← autocommit lifecycleBackend (SqliteStore.updateUploads
    (cleanupLeasedBy uploadId owner)
    (retryColumns now.unixTimestamp retryAt.unixTimestamp errorCode))
  reachedOne updated fun _ => .error (.text "failed cleanup lease is not owned by this worker")

/-! ## Purging tombstones -/

/-- The tombstones a purge may delete. -/
def SqliteStore.purgeable (deletedBefore : Int) (store : SqliteStore) (row : UploadRow) : Bool :=
  row.state == .deleted && row.deletedAt.any (fun deletedAt => decide (deletedAt ≤ deletedBefore)) &&
    store.sitePolicySnapshots.all fun policy =>
      policy.watermark.all fun mark => mark.uploadId != row.id

/-- `ORDER BY deleted_at, id`. -/
def tombstoneOrder (row : UploadRow) : Int ×ₗ Uuid := toLex (row.deletedAt.getD 0, row.id.uuid)

/-- The ids a purge selects, oldest tombstones first. -/
def SqliteStore.purgeIds (deletedBefore : Int) (limit : Nat) (store : SqliteStore) :
    List UploadId :=
  (((store.uploads.filter (store.purgeable deletedBefore)).insertionSort fun a b =>
    tombstoneOrder a ≤ tombstoneOrder b).take limit).map fun row => row.id

/-- The orphan tombstones a purge may delete. -/
def purgeableOrphan (deletedBefore : Int) (row : OrphanRow) : Bool :=
  row.state == .deleted && row.deletedAt.any fun deletedAt => decide (deletedAt ≤ deletedBefore)

/-- `'derivative'` before `'raw'`. -/
def StorageNamespace.rank : StorageNamespace → Nat
  | .derivative => 0
  | .raw => 1

/-- `ORDER BY deleted_at, namespace, object_key`. -/
def orphanTombstoneOrder (row : OrphanRow) : Int ×ₗ Nat ×ₗ String :=
  toLex (row.deletedAt.getD 0, toLex (row.storageNamespace.rank, row.objectKey.asStr))

/-- The orphan tombstones a purge selects. -/
def SqliteStore.purgeOrphans (deletedBefore : Int) (limit : Nat) (store : SqliteStore) :
    List (StorageNamespace × ObjectKey) :=
  (((store.orphanObjects.filter (purgeableOrphan deletedBefore)).insertionSort fun a b =>
    orphanTombstoneOrder a ≤ orphanTombstoneOrder b).take limit).map OrphanRow.identity

/-- Purge orphan tombstones with what is left of the limit. -/
def purgeRemaining (deletedBefore : Int) (limit uploads : Nat) :
    Tx SqliteStore LifecycleRepositoryError Nat := do
  let selected ← Tx.select (SqliteStore.purgeOrphans deletedBefore (limit - uploads))
  let orphans ← Tx.execute lifecycleBackend
    (SqliteStore.deleteOrphans fun row => selected.contains row.identity)
  return uploads + orphans

/-- The transaction of `purge_tombstones`. -/
def purgeTransaction (deletedBefore : Int) (limit : Nat) :
    Tx SqliteStore LifecycleRepositoryError Nat := do
  let selected ← Tx.select (SqliteStore.purgeIds deletedBefore limit)
  let uploads ← Tx.execute lifecycleBackend
    (SqliteStore.deleteUploads fun row => selected.contains row.id)
  if 0 < limit - uploads then purgeRemaining deletedBefore limit uploads
  else return uploads

/-- `LifecycleRepository::purge_tombstones`. -/
def purgeTombstones (deletedBefore : OffsetDateTime) (limit : Nat) :
    Call SqliteStore LifecycleRepositoryError Nat := do
  Call.ensure (limit != 0 && decide (limit ≤ 1000)) (.text "tombstone purge limit is invalid")
  commit (purgeTransaction deletedBefore.unixTimestamp limit)

/-! ## What a deletion request does -/

section Specification

variable {store store' : SqliteStore}

/-- `request_deletion` requests the deletion of one upload, or changes nothing. -/
theorem requestDeletion_cases {tenantId : String} {uploadId : UploadId} {now : OffsetDateTime}
    {result : Except DeletionRequestError DeletionRequestOutcome} (integrity : store.Integrity)
    (ran : requestDeletion tenantId uploadId now store = (result, store')) :
    (store' = store ∧ result ≠ .ok .accepted) ∨
      (result = .ok .accepted ∧ ∃ upload, ownedUpload tenantId uploadId upload = true ∧
        upload.deleteRequestedAt = none ∧ deletableState upload.state = true ∧
        store.policyReferences uploadId = 0 ∧
        UploadMoved upload (requestedColumns now.unixTimestamp) store store') := by
  cases result with
  | error e => exact .inl ⟨commit_error ran, by simp⟩
  | ok outcome =>
      rw [requestDeletion, commit_eq_ok] at ran
      simp only [deletionTransaction, bind_eq_ok, select_eq_ok, okOr_eq_ok] at ran
      obtain ⟨_, _, ⟨-, rfl⟩, row, _, ⟨-, rfl⟩, ran⟩ := ran
      split at ran
      · obtain ⟨rfl, rfl⟩ := pure_eq_ok.1 ran
        exact .inl ⟨rfl, by simp⟩
      split at ran
      · obtain ⟨rfl, rfl⟩ := pure_eq_ok.1 ran
        exact .inl ⟨rfl, by simp⟩
      simp only [recordDeletion, bind_eq_ok, ensure_eq_ok, select_eq_ok, execute_eq_ok,
        pure_eq_ok] at ran
      obtain ⟨_, _, ⟨-, rfl⟩, references, _, ⟨counted, rfl⟩, _, _, ⟨unreferenced, rfl⟩, n, final,
        updated, _, _, ⟨one, rfl⟩, rfl, rfl⟩ := ran
      rw [beq_iff_eq] at unreferenced
      have pinned : ∀ row, (ownedUpload tenantId uploadId row && row.deleteRequestedAt.isNone &&
          deletableState row.state) = true → row.id = uploadId := by
        intro row hits
        simp only [Bool.and_eq_true, ownedUpload_iff] at hits
        exact hits.1.1.2
      obtain ⟨rfl, -⟩ | ⟨-, upload, hits, moved⟩ := updateUploads_moves integrity pinned updated
      · simp at one
      · simp only [Bool.and_eq_true, Option.isNone_iff_eq_none] at hits
        exact .inr ⟨rfl, upload, hits.1.1, hits.1.2, hits.2, counted.trans unreferenced, moved⟩

/-! ## What a cleanup claim does -/

theorem cleanupRows_mem {limit maxAttempts : Nat} {now createdBefore rejectedBefore : Int}
    {row : UploadRow}
    (member : row ∈ store.cleanupRows limit maxAttempts now createdBefore rejectedBefore) :
    row ∈ store.uploads ∧ cleanupEligible maxAttempts now createdBefore rejectedBefore row = true := by
  have sorted := List.mem_of_mem_take member
  rw [List.mem_insertionSort] at sorted
  exact List.mem_filter.1 sorted

theorem cleanupRows_keyed {limit maxAttempts : Nat} {now createdBefore rejectedBefore : Int}
    (keyed : KeyedBy (fun row : UploadRow => row.id) store.uploads) :
    KeyedBy (fun row : UploadRow => row.id)
      (store.cleanupRows limit maxAttempts now createdBefore rejectedBefore) := by
  have sorted : KeyedBy (fun row : UploadRow => row.id)
      ((store.uploads.filter (cleanupEligible maxAttempts now createdBefore
        rejectedBefore)).insertionSort fun a b => cleanupOrder a ≤ cleanupOrder b) := by
    refine List.Perm.nodup ((List.perm_insertionSort _ _).map _).symm ?_
    exact keyed.filter _
  exact sorted.sublist ((List.take_sublist _ _).map _)

theorem storedUploadFromRow_ok {row : UploadRow} {stored : StoredUploadReservation}
    (decoded : storedUploadFromRow row = .ok stored) :
    stored.uploadId = row.id ∧ stored.objectKey = row.objectKey ∧ stored.state = row.state ∧
      (stored.expectedSizeBytes : Int) = row.expectedSizeBytes ∧
      storedTransfer row = .ok stored.transfer ∧
      stored.multipartUploadId = row.multipartUploadId := by
  rw [storedUploadFromRow] at decoded
  split at decoded
  · cases decoded
  · rename_i size sized
    obtain ⟨transfer, read, decoded⟩ := except_bind_eq_ok.1 decoded
    split at decoded
    · cases decoded
    · cases decoded
      exact ⟨rfl, rfl, rfl, (u64TryFrom_eq_some.1 sized).1.symm, read, rfl⟩

/-- `candidate` is the cleanup item for `row`, read from `store`. -/
structure CandidateOf (store : SqliteStore) (row : UploadRow) (candidate : CleanupCandidate) :
    Prop where
  uploadId : candidate.uploadId = row.id
  rawObjectKey : candidate.rawObjectKey = row.objectKey
  state : candidate.state = row.state
  transfer : storedTransfer row = .ok candidate.transfer
  derivativeKeys : candidate.derivativeKeys = store.derivativeKeys row.id
  reason : candidate.reason = cleanupReason row.deleteRequestedAt.isSome row.state
  attempts : (candidate.attempts : Int) = row.cleanupAttempts + 1

theorem nextCleanupAttempt_eq_some {previous : Int} {attempts : Nat}
    (next : nextCleanupAttempt previous = some attempts) : (attempts : Int) = previous + 1 := by
  obtain ⟨sum, added, converted⟩ := Option.bind_eq_some_iff.1 next
  obtain ⟨rfl, -⟩ := i64CheckedAdd_eq_some.1 added
  exact (u32TryFrom_eq_some.1 converted).1.symm

theorem leaseCandidate_ok {owner : String} {leaseUntil : Int} {row : UploadRow}
    {candidate : CleanupCandidate}
    (ran : leaseCandidate owner leaseUntil row store = .ok (candidate, store')) :
    CandidateOf store row candidate ∧
      store'.uploads = updateWhere (fun other => other.id == row.id)
        (UploadRow.assign (leaseColumns owner leaseUntil)) store.uploads ∧
      Effect [.updateUploads] store store' := by
  simp only [leaseCandidate, bind_eq_ok, okOr_eq_ok, selectOr_eq_ok, execute_eq_ok, ensure_eq_ok,
    select_eq_ok, pure_eq_ok] at ran
  obtain ⟨attempts, _, ⟨counted, rfl⟩, stored, _, ⟨decoded, rfl⟩, n, leased, updated, _, _, ⟨-, rfl⟩,
    keys, _, ⟨rfl, rfl⟩, rfl, rfl⟩ := ran
  have read : storedUploadFromRow row = .ok stored := by
    cases result : storedUploadFromRow row with
    | error e => simp [result] at decoded
    | ok value => simpa [result] using decoded
  obtain ⟨id, key, state, -, transfer, -⟩ := storedUploadFromRow_ok read
  have wrote : Wrote [.updateUploads] store leased :=
    .updateUploads (by simp) (fun _ _ _ => ⟨rfl, UploadState.Chain.refl _, fun _ => rfl⟩) updated
  obtain ⟨-, usage, counters, -, -, leasedEq⟩ := SqliteStore.updateUploads_ok updated
  refine ⟨⟨id, key, state, transfer, ?_, ?_, nextCleanupAttempt_eq_some counted⟩, ?_, wrote.effect⟩
  · rw [id, leasedEq, SqliteStore.derivativeKeys, SqliteStore.derivativeKeys]
  · rw [state]
  · rw [leasedEq, id]

/-- The store after the selected `rows` were leased as `candidates`. -/
structure CleanupLeased (owner : String) (leaseUntil : Int) (rows : List UploadRow)
    (candidates : List CleanupCandidate) (s t : SqliteStore) : Prop where
  candidates : List.Forall₂ (CandidateOf s) rows candidates
  uploads : t.uploads = updateWhere (fun row => rows.any fun other => row.id == other.id)
    (UploadRow.assign (leaseColumns owner leaseUntil)) s.uploads
  effect : Effect [.updateUploads] s t

theorem leaseCandidates_ok {owner : String} {leaseUntil : Int} {rows : List UploadRow}
    {candidates : List CleanupCandidate} (keyed : KeyedBy (fun row : UploadRow => row.id) rows)
    (ran : rows.mapM (leaseCandidate owner leaseUntil) store = .ok (candidates, store')) :
    CleanupLeased owner leaseUntil rows candidates store store' := by
  induction rows generalizing store candidates with
  | nil =>
      obtain ⟨rfl, rfl⟩ := pure_eq_ok.1 ran
      refine ⟨.nil, ?_, .refl⟩
      exact (updateWhere_of_untouched fun _ _ => rfl).symm
  | cons row rows ih =>
      rw [List.mapM_cons] at ran
      obtain ⟨candidate, middle, first, ran⟩ := bind_eq_ok.1 ran
      obtain ⟨others, final, rest, done⟩ := bind_eq_ok.1 ran
      obtain ⟨rfl, rfl⟩ := pure_eq_ok.1 done
      obtain ⟨fresh, keyedRest⟩ := List.nodup_cons.1 keyed
      obtain ⟨candidateOf, uploads, effect⟩ := leaseCandidate_ok first
      have leased := ih keyedRest rest
      have sameKeys : ∀ id, middle.derivativeKeys id = store.derivativeKeys id := by
        intro id
        rw [SqliteStore.derivativeKeys, SqliteStore.derivativeKeys,
          effect.derivatives_same (by decide) (by decide)]
      refine ⟨.cons candidateOf ?_, ?_, effect.trans leased.effect⟩
      · refine leased.candidates.imp fun row candidate of => ?_
        exact { of with derivativeKeys := of.derivativeKeys.trans (sameKeys _) }
      · rw [leased.uploads, uploads]
        refine updateWhere_or (fun _ => rfl) fun other _ same => ?_
        rw [List.any_eq_false]
        intro later member matched
        apply fresh
        rw [beq_iff_eq] at same matched
        exact List.mem_map.2 ⟨later, member, matched.symm.trans same⟩

/-- A claim that answers has leased the rows its query selects, until the seconds of its
lease are over. -/
theorem claimCleanupBatch_ok {owner : String} {now createdBefore rejectedBefore : OffsetDateTime}
    {leaseFor : Duration} {limit maxAttempts : Nat} {candidates : List CleanupCandidate}
    (integrity : store.Integrity)
    (ran : claimCleanupBatch owner now createdBefore rejectedBefore leaseFor limit maxAttempts store =
      (.ok candidates, store')) :
    CleanupLeased owner (now.unixTimestamp + leaseFor.asSecs)
      (store.cleanupRows limit maxAttempts now.unixTimestamp createdBefore.unixTimestamp
        rejectedBefore.unixTimestamp) candidates store store' := by
  simp only [claimCleanupBatch, call_bind_eq_ok, call_ensure_eq_ok, call_okOr_eq_ok,
    commit_eq_ok, cleanupTransaction, bind_eq_ok, select_eq_ok] at ran
  obtain ⟨_, _, ⟨-, rfl⟩, leaseSeconds, _, ⟨seconds, rfl⟩, leaseUntil, _, ⟨expires, rfl⟩, rows, _,
    ⟨rfl, rfl⟩, leased⟩ := ran
  obtain ⟨rfl, -⟩ := i64TryFrom_eq_some.1 seconds
  obtain ⟨rfl, -⟩ := i64CheckedAdd_eq_some.1 expires
  exact leaseCandidates_ok (cleanupRows_keyed integrity.uploadIds) leased

/-- `claim_cleanup_batch` leases the eligible uploads it selects, or changes nothing. -/
theorem claimCleanupBatch_cases {owner : String} {now createdBefore rejectedBefore : OffsetDateTime}
    {leaseFor : Duration} {limit maxAttempts : Nat}
    {result : Except LifecycleRepositoryError (List CleanupCandidate)} (integrity : store.Integrity)
    (ran : claimCleanupBatch owner now createdBefore rejectedBefore leaseFor limit maxAttempts store =
      (result, store')) :
    (store' = store ∧ ∃ error, result = .error error) ∨
      ∃ leaseUntil rows candidates, result = .ok candidates ∧
        (∀ row ∈ rows, row ∈ store.uploads ∧
          cleanupEligible maxAttempts now.unixTimestamp createdBefore.unixTimestamp
            rejectedBefore.unixTimestamp row = true) ∧
        CleanupLeased owner leaseUntil rows candidates store store' := by
  cases result with
  | error e =>
      refine .inl ⟨?_, e, rfl⟩
      refine atomic_bind (moves_ensure _ _) (fun _ => ?_) store e store' ran
      refine atomic_bind (moves_okOr _ _) fun _ => ?_
      exact atomic_bind (moves_okOr _ _) fun _ => atomic_commit _
  | ok candidates =>
      exact .inr ⟨_, _, candidates, rfl, fun row member => cleanupRows_mem member,
        claimCleanupBatch_ok integrity ran⟩

/-! ## What completing and failing a cleanup do -/

theorem cleanupLeasedBy_iff {uploadId : UploadId} {owner : String} {row : UploadRow} :
    cleanupLeasedBy uploadId owner row = true ↔
      row.id = uploadId ∧ row.state ≠ .deleted ∧ row.cleanupLeaseOwner = some owner := by
  simp [cleanupLeasedBy, and_assoc]

/-- `complete_cleanup` tombstones an upload its caller leases, or changes nothing. -/
theorem completeCleanup_cases {uploadId : UploadId} {owner : String} {now : OffsetDateTime}
    {result : Except LifecycleRepositoryError Unit} (integrity : store.Integrity)
    (ran : completeCleanup uploadId owner now store = (result, store')) :
    (result = .ok () ∧ ∃ upload, cleanupLeasedBy uploadId owner upload = true ∧
        UploadMoved upload (tombstoneColumns now.unixTimestamp) store store') ∨
      (store' = store ∧ ∃ error, result = .error error) := by
  obtain moved | ⟨same, failed | ⟨-, failed⟩⟩ := updateUploads_reachedOne integrity
    (fun row hits => (cleanupLeasedBy_iff.1 hits).1) ran
  · exact .inl moved
  · exact .inr ⟨same, failed⟩
  · exact .inr ⟨same, _, failed⟩

/-- `fail_cleanup` releases an upload its caller leases, or changes nothing. -/
theorem failCleanup_cases {uploadId : UploadId} {owner : String} {now retryAt : OffsetDateTime}
    {errorCode : String} {result : Except LifecycleRepositoryError Unit}
    (integrity : store.Integrity)
    (ran : failCleanup uploadId owner now retryAt errorCode store = (result, store')) :
    (result = .ok () ∧ ∃ upload, cleanupLeasedBy uploadId owner upload = true ∧
        UploadMoved upload (retryColumns now.unixTimestamp retryAt.unixTimestamp errorCode)
          store store') ∨
      (store' = store ∧ ∃ error, result = .error error) := by
  obtain ⟨refused, same⟩ | ⟨-, rest⟩ := call_checked_cases ran
  · exact .inr ⟨same, _, refused⟩
  obtain moved | ⟨same, failed | ⟨-, failed⟩⟩ := updateUploads_reachedOne integrity
    (fun row hits => (cleanupLeasedBy_iff.1 hits).1) rest
  · exact .inl moved
  · exact .inr ⟨same, failed⟩
  · exact .inr ⟨same, _, failed⟩

/-! ## Kinds -/

theorem moves_requestDeletion (tenantId : String) (uploadId : UploadId) (now : OffsetDateTime) :
    Moves (Effect [.updateUploads]) (requestDeletion tenantId uploadId now) := by
  refine moves_commit (along_bind (along_select _) fun stored => ?_)
  refine along_bind (along_okOr _ _) fun row => ?_
  refine along_ite (fun _ => along_pure _) fun _ => ?_
  refine along_ite (fun _ => along_pure _) fun _ => ?_
  refine along_bind (along_ensure _ _) fun _ => ?_
  refine along_bind (along_select _) fun references => ?_
  refine along_bind (along_ensure _ _) fun _ => ?_
  refine along_bind (along_execute fun s n t ran => ?_) fun _ => ?_
  · refine (Wrote.updateUploads (by simp) (fun row _ hit => ?_) ran).effect
    simp only [Bool.and_eq_true, Option.isNone_iff_eq_none] at hit
    refine ⟨rfl, UploadState.Chain.refl _, fun asked => ?_⟩
    simp [hit.1.2] at asked
  · exact along_bind (along_ensure _ _) fun _ => along_pure _

theorem moves_claimCleanupBatch (owner : String)
    (now createdBefore rejectedBefore : OffsetDateTime) (leaseFor : Duration)
    (limit maxAttempts : Nat) :
    Moves (Effect [.updateUploads])
      (claimCleanupBatch owner now createdBefore rejectedBefore leaseFor limit maxAttempts) := by
  refine moves_bind (moves_ensure _ _) fun _ => ?_
  refine moves_bind (moves_okOr _ _) fun leaseSeconds => ?_
  refine moves_bind (moves_okOr _ _) fun leaseUntil => ?_
  refine moves_commit (along_bind (along_select _) fun rows => ?_)
  refine along_mapM (fun row => ?_) rows
  refine along_bind (along_okOr _ _) fun attempts => ?_
  refine along_bind (along_selectOr _) fun stored => ?_
  refine along_bind (along_execute fun s n t ran => ?_) fun _ => ?_
  · refine (Wrote.updateUploads (by simp) (fun row _ _ => ?_) ran).effect
    exact ⟨rfl, UploadState.Chain.refl _, fun _ => rfl⟩
  · refine along_bind (along_ensure _ _) fun _ => ?_
    exact along_bind (along_select _) fun keys => along_pure _

theorem moves_completeCleanup (uploadId : UploadId) (owner : String) (now : OffsetDateTime) :
    Moves (Effect [.updateUploads]) (completeCleanup uploadId owner now) := by
  refine moves_bind (moves_autocommit fun s n t ran => ?_) fun _ => moves_reachedOne _ _
  refine (Wrote.updateUploads (by simp) (fun row _ _ => ?_) ran).effect
  exact ⟨rfl, UploadState.Chain.to_deleted _, fun _ => rfl⟩

theorem moves_failCleanup (uploadId : UploadId) (owner : String) (now retryAt : OffsetDateTime)
    (errorCode : String) :
    Moves (Effect [.updateUploads]) (failCleanup uploadId owner now retryAt errorCode) := by
  refine moves_bind (moves_ensure _ _) fun _ => ?_
  refine moves_bind (moves_autocommit fun s n t ran => ?_) fun _ => moves_reachedOne _ _
  refine (Wrote.updateUploads (by simp) (fun row _ _ => ?_) ran).effect
  exact ⟨rfl, UploadState.Chain.refl _, fun _ => rfl⟩

theorem purgeIds_tombstones {deletedBefore : Int} {limit : Nat} {row : UploadRow}
    (keyed : KeyedBy (fun row : UploadRow => row.id) store.uploads) (member : row ∈ store.uploads)
    (selected : (store.purgeIds deletedBefore limit).contains row.id = true) :
    row.state = .deleted := by
  rw [List.contains_iff_mem] at selected
  obtain ⟨found, taken, same⟩ := List.mem_map.1 selected
  have sorted := List.mem_of_mem_take taken
  rw [List.mem_insertionSort, List.mem_filter] at sorted
  obtain ⟨there, purgeable⟩ := sorted
  have is : found = row := keyed.eq_of_key there member same
  subst is
  simp only [SqliteStore.purgeable, Bool.and_eq_true, beq_iff_eq] at purgeable
  exact purgeable.1.1

/-- `purge_tombstones` deletes tombstones only. -/
theorem purgeTombstones_effect {deletedBefore : OffsetDateTime} {limit : Nat}
    {result : Except LifecycleRepositoryError Nat} (integrity : store.Integrity)
    (ran : purgeTombstones deletedBefore limit store = (result, store')) :
    Effect [.deleteUploads, .aside] store store' := by
  cases result with
  | error e =>
      have same := atomic_bind (moves_ensure _ _) (fun _ => atomic_commit _) store e store' ran
      rw [same]
      exact .refl
  | ok count =>
      simp only [purgeTombstones, call_bind_eq_ok, call_ensure_eq_ok, commit_eq_ok,
        purgeTransaction, bind_eq_ok, select_eq_ok, execute_eq_ok] at ran
      obtain ⟨_, _, ⟨-, rfl⟩, selected, _, ⟨rfl, rfl⟩, uploads, purged, deleted, rest⟩ := ran
      have wrote : Wrote [.deleteUploads, .aside] store purged :=
        .deleteUploads (by simp)
          (fun row member hit => purgeIds_tombstones integrity.uploadIds member hit) deleted
      split at rest
      · simp only [purgeRemaining, bind_eq_ok, select_eq_ok, execute_eq_ok, pure_eq_ok] at rest
        obtain ⟨orphanIds, _, ⟨-, rfl⟩, orphans, final, removed, -, rfl⟩ := rest
        exact .tail wrote.effect (.aside (by simp) (deleteOrphans_same removed))
      · obtain ⟨-, rfl⟩ := pure_eq_ok.1 rest
        exact wrote.effect

end Specification

end MediaBooster.Store
