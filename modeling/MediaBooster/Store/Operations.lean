/-
# Store.Operations -- every operation of the store, and its runs

`Op` is a call of one of the repository traits the SQLite store implements, with its
arguments; identifiers and clock readings the source draws inside a call are
arguments here.  `Answers op s ok t` is one such call: it ran, or the database
refused it (a busy writer, a lost connection, an I/O error) and nothing changed.

The operations that read again after their own `UPDATE` reached no row
(`start_processing`, `mark_rejected`, `mark_deleted`) are single steps here.  A write
of somebody else between the two statements adds nothing: where the second one
succeeds, the call is the step at that moment, and where it fails, nothing changed.
The two statements of `publish_site_policy` are operations of their own
(`insertSnapshot`, `compareSnapshot`): what the second one answers is about a row that
others may have stored in between.

`Op.kinds` is where an operation writes; `Answers.effect` proves it.  From it follow,
for every operation at once, that the keys of the store are kept
(`Answers.integrity`) and how uploads move, come and go (`Answers.advances`).
-/
import MediaBooster.Store.Inventory
import MediaBooster.Store.Nonces
import MediaBooster.Store.Processing
import MediaBooster.Store.SitePolicy
import MediaBooster.Theory.Run

namespace MediaBooster.Store

set_option autoImplicit false

open MediaBooster.Domain MediaBooster.Theory.Run MediaBooster.Theory.Table
open MediaBooster.Theory.Transaction

/-! ## Operations -/

/-- A call of the store. -/
inductive Op
  | findPolicyAsset (tenantId : String) (uploadId : UploadId)
  | insertSnapshot (snapshot : SitePolicySnapshot) (createdAt : OffsetDateTime)
  | compareSnapshot (snapshot : SitePolicySnapshot)
  | findActiveSitePolicy (tenantId : String)
  | findSitePolicyRevision (tenantId : String) (revision : Nat)
  | inventoryCursor (storageNamespace : StorageNamespace)
  | reconcileInventoryPage (storageNamespace : StorageNamespace) (objects : List InventoryObject)
      (observedAt eligibleBefore : OffsetDateTime)
  | isInventoryKeyKnown (storageNamespace : StorageNamespace) (key : ObjectKey)
  | forgetOrphan (storageNamespace : StorageNamespace) (key : ObjectKey)
  | completeOrphanDeletion (storageNamespace : StorageNamespace) (key : ObjectKey)
      (deletedAt : OffsetDateTime)
  | failOrphanDeletion (storageNamespace : StorageNamespace) (key : ObjectKey)
      (errorCode : String) (failedAt : OffsetDateTime)
  | saveInventoryCursor (storageNamespace : StorageNamespace) (startAfter : Option String)
      (updatedAt : OffsetDateTime)
  | enqueue (id : JobId) (now : OffsetDateTime) (job : ProcessingJob)
  | claimNext (workerId : String) (now : OffsetDateTime) (leaseFor : Duration)
  | renew (jobId : JobId) (workerId : String) (now : OffsetDateTime) (leaseFor : Duration)
  | complete (jobId : JobId) (workerId : String) (now : OffsetDateTime)
  | fail (jobId : JobId) (workerId : String) (now retryAt : OffsetDateTime) (maxAttempts : Nat)
      (errorCode : String)
  | hasCapacity (tenantId : String) (additionalUploads additionalBytes : Nat)
      (capacity : UploadCapacityPolicy)
  | saveBatch (batch : UploadBatchReservation) (capacity : UploadCapacityPolicy)
  | findUpload (tenantId : String) (uploadId : UploadId)
  | isDeliveryAllowed (tenantId : String) (uploadId : UploadId)
  | markQuarantinedAndEnqueue (jobId : JobId) (tenantId : String) (uploadId : UploadId)
      (actualSizeBytes : Nat) (presetId : String) (now : OffsetDateTime)
  | markDeleted (tenantId : String) (uploadId : UploadId) (now : OffsetDateTime)
  | requestDeletion (tenantId : String) (uploadId : UploadId) (now : OffsetDateTime)
  | claimCleanupBatch (owner : String) (now createdBefore rejectedBefore : OffsetDateTime)
      (leaseFor : Duration) (limit maxAttempts : Nat)
  | completeCleanup (uploadId : UploadId) (owner : String) (now : OffsetDateTime)
  | failCleanup (uploadId : UploadId) (owner : String) (now retryAt : OffsetDateTime)
      (errorCode : String)
  | purgeTombstones (deletedBefore : OffsetDateTime) (limit : Nat)
  | findProcessingSource (uploadId : UploadId)
  | startProcessing (uploadId : UploadId) (detectedContentType sourceSha256 : String)
      (now : OffsetDateTime)
  | publishDerivatives (uploadId : UploadId) (derivatives : List PublishedDerivative)
      (now : OffsetDateTime)
  | markRejected (uploadId : UploadId) (errorCode : String) (now : OffsetDateTime)
  | consume (keyId nonce : String) (now expiresAt : OffsetDateTime)

/-- The trait an operation belongs to. -/
inductive Repository
  | sitePolicy
  | inventory
  | jobQueue
  | upload
  | lifecycle
  | processing
  | nonce
deriving DecidableEq

namespace Op

def repository : Op → Repository
  | findPolicyAsset .. | insertSnapshot .. | compareSnapshot .. | findActiveSitePolicy ..
  | findSitePolicyRevision .. => .sitePolicy
  | inventoryCursor .. | reconcileInventoryPage .. | isInventoryKeyKnown .. | forgetOrphan ..
  | completeOrphanDeletion .. | failOrphanDeletion .. | saveInventoryCursor .. => .inventory
  | enqueue .. | claimNext .. | renew .. | complete .. | fail .. => .jobQueue
  | hasCapacity .. | saveBatch .. | findUpload .. | isDeliveryAllowed ..
  | markQuarantinedAndEnqueue .. | markDeleted .. => .upload
  | requestDeletion .. | claimCleanupBatch .. | completeCleanup .. | failCleanup ..
  | purgeTombstones .. => .lifecycle
  | findProcessingSource .. | startProcessing .. | publishDerivatives .. | markRejected .. =>
      .processing
  | consume .. => .nonce

/-- Whether a call succeeded, and the store it left. -/
def settle {ε α : Type} (call : Call SqliteStore ε α) (store : SqliteStore) : Bool × SqliteStore :=
  ((call store).1.toBool, (call store).2)

/-- Run one call. -/
def run : Op → SqliteStore → Bool × SqliteStore
  | findPolicyAsset tenantId uploadId => settle (Store.findPolicyAsset tenantId uploadId)
  | insertSnapshot snapshot createdAt => settle (Store.insertSnapshot snapshot createdAt)
  | compareSnapshot snapshot => settle (Store.compareSnapshot snapshot)
  | findActiveSitePolicy tenantId => settle (Store.findActiveSitePolicy tenantId)
  | findSitePolicyRevision tenantId revision =>
      settle (Store.findSitePolicyRevision tenantId revision)
  | inventoryCursor storageNamespace => settle (Store.inventoryCursor storageNamespace)
  | reconcileInventoryPage storageNamespace objects observedAt eligibleBefore =>
      settle (Store.reconcileInventoryPage storageNamespace objects observedAt eligibleBefore)
  | isInventoryKeyKnown storageNamespace key =>
      settle (Store.isInventoryKeyKnown storageNamespace key)
  | forgetOrphan storageNamespace key => settle (Store.forgetOrphan storageNamespace key)
  | completeOrphanDeletion storageNamespace key deletedAt =>
      settle (Store.completeOrphanDeletion storageNamespace key deletedAt)
  | failOrphanDeletion storageNamespace key errorCode failedAt =>
      settle (Store.failOrphanDeletion storageNamespace key errorCode failedAt)
  | saveInventoryCursor storageNamespace startAfter updatedAt =>
      settle (Store.saveInventoryCursor storageNamespace startAfter updatedAt)
  | enqueue id now job => settle (Store.enqueue id now job)
  | claimNext workerId now leaseFor => settle (Store.claimNext workerId now leaseFor)
  | renew jobId workerId now leaseFor => settle (Store.renew jobId workerId now leaseFor)
  | complete jobId workerId now => settle (Store.complete jobId workerId now)
  | fail jobId workerId now retryAt maxAttempts errorCode =>
      settle (Store.fail jobId workerId now retryAt maxAttempts errorCode)
  | hasCapacity tenantId additionalUploads additionalBytes capacity =>
      settle (Store.hasCapacity tenantId additionalUploads additionalBytes capacity)
  | saveBatch batch capacity => settle (Store.saveBatch batch capacity)
  | findUpload tenantId uploadId => settle (Store.findUpload tenantId uploadId)
  | isDeliveryAllowed tenantId uploadId => settle (Store.isDeliveryAllowed tenantId uploadId)
  | markQuarantinedAndEnqueue jobId tenantId uploadId actualSizeBytes presetId now =>
      settle (Store.markQuarantinedAndEnqueue jobId tenantId uploadId actualSizeBytes presetId now)
  | markDeleted tenantId uploadId now => settle (Store.markDeleted tenantId uploadId now)
  | requestDeletion tenantId uploadId now => settle (Store.requestDeletion tenantId uploadId now)
  | claimCleanupBatch owner now createdBefore rejectedBefore leaseFor limit maxAttempts =>
      settle (Store.claimCleanupBatch owner now createdBefore rejectedBefore leaseFor limit
        maxAttempts)
  | completeCleanup uploadId owner now => settle (Store.completeCleanup uploadId owner now)
  | failCleanup uploadId owner now retryAt errorCode =>
      settle (Store.failCleanup uploadId owner now retryAt errorCode)
  | purgeTombstones deletedBefore limit => settle (Store.purgeTombstones deletedBefore limit)
  | findProcessingSource uploadId => settle (Store.findProcessingSource uploadId)
  | startProcessing uploadId detectedContentType sourceSha256 now =>
      settle (Store.startProcessing uploadId detectedContentType sourceSha256 now)
  | publishDerivatives uploadId derivatives now =>
      settle (Store.publishDerivatives uploadId derivatives now)
  | markRejected uploadId errorCode now => settle (Store.markRejected uploadId errorCode now)
  | consume keyId nonce now expiresAt => settle (Store.consume keyId nonce now expiresAt)

/-- Where an operation writes. -/
def kinds : Op → List Kind
  | findPolicyAsset .. | compareSnapshot .. | findActiveSitePolicy .. | findSitePolicyRevision ..
  | inventoryCursor .. | isInventoryKeyKnown .. | hasCapacity .. | findUpload ..
  | isDeliveryAllowed .. | findProcessingSource .. => []
  | insertSnapshot .. => [.policies]
  | reconcileInventoryPage .. | forgetOrphan .. | completeOrphanDeletion ..
  | failOrphanDeletion .. | saveInventoryCursor .. | consume .. => [.aside]
  | enqueue .. => [.insertJob]
  | claimNext .. => [.updateJobs, .turns]
  | renew .. | complete .. | fail .. => [.updateJobs]
  | saveBatch .. => [.insertUpload, .aside]
  | markQuarantinedAndEnqueue .. => [.updateUploads, .insertJob]
  | markDeleted .. | requestDeletion .. | claimCleanupBatch .. | completeCleanup ..
  | failCleanup .. | startProcessing .. | markRejected .. => [.updateUploads]
  | publishDerivatives .. => [.updateUploads, .derivatives]
  | purgeTombstones .. => [.deleteUploads, .aside]

end Op

/-- A call of `op` on `s` that succeeded or not and left `t`. -/
inductive Answers (op : Op) : SqliteStore → Bool → SqliteStore → Prop
  | ran {s : SqliteStore} : Answers op s (op.run s).1 (op.run s).2
  | refused {s : SqliteStore} : Answers op s false s

/-- One step of a run of the store: a call and whether it succeeded. -/
def StoreStep (s : SqliteStore) (call : Op × Bool) (t : SqliteStore) : Prop :=
  Answers call.1 s call.2 t

/-- A run of calls that starts with the migrated database. -/
abbrev StoreRun (calls : List (Op × Bool)) (store : SqliteStore) : Prop :=
  Trace StoreStep SqliteStore.migrated calls store

/-! ## What one operation does -/

section Operations

variable {s t : SqliteStore}

theorem moves_consume (keyId nonce : String) (now expiresAt : OffsetDateTime) :
    Moves (Effect [.aside]) (consume keyId nonce now expiresAt) := by
  refine moves_bind (moves_ensure _ _) fun _ => moves_commit ?_
  refine along_bind (along_execute fun s n t ran => ?_) fun _ => ?_
  · cases ran
    refine (Wrote.aside (by simp) ?_).effect
    exact ⟨rfl, rfl, rfl, rfl, rfl, rfl, rfl, id, rfl⟩
  refine along_bind (along_execute fun s n t ran => ?_) fun _ => along_ensure _ _
  rw [SqliteStore.insertNonceOrIgnore] at ran
  split at ran
  · cases ran
    exact .refl
  · cases ran
    refine (Wrote.aside (by simp) ?_).effect
    exact ⟨rfl, rfl, rfl, rfl, rfl, rfl, rfl, id, rfl⟩

theorem moves_hasCapacity {Step : SqliteStore → SqliteStore → Prop} [Std.Refl Step]
    [IsTrans SqliteStore Step] (tenantId : String) (additionalUploads additionalBytes : Nat)
    (capacity : UploadCapacityPolicy) :
    Moves Step (hasCapacity tenantId additionalUploads additionalBytes capacity) := by
  refine moves_bind (moves_ensure _ _) fun _ => ?_
  refine moves_bind (moves_read _) fun global => ?_
  refine moves_bind (moves_read _) fun tenant => ?_
  refine moves_bind (moves_read _) fun globalBytes => ?_
  exact moves_bind (moves_read _) fun tenantBytes => moves_readOr _

/-- **Every operation writes where its kinds say.** -/
theorem Op.effect (op : Op) (integrity : s.Integrity) : Effect op.kinds s (op.run s).2 := by
  cases op with
  | findPolicyAsset tenantId uploadId =>
      have reads : Moves (Effect []) (Store.findPolicyAsset tenantId uploadId) := moves_readOr _
      exact reads s
  | insertSnapshot => exact moves_insertSnapshot _ _ s
  | compareSnapshot snapshot =>
      have reads : Moves (Effect []) (Store.compareSnapshot snapshot) :=
        moves_bind (moves_okOr _ _) fun _ => moves_readOr _
      exact reads s
  | findActiveSitePolicy tenantId =>
      have reads : Moves (Effect []) (Store.findActiveSitePolicy tenantId) := moves_readOr _
      exact reads s
  | findSitePolicyRevision tenantId revision =>
      have reads : Moves (Effect []) (Store.findSitePolicyRevision tenantId revision) :=
        moves_bind (moves_okOr _ _) fun _ => moves_readOr _
      exact reads s
  | inventoryCursor storageNamespace =>
      have reads : Moves (Effect []) (Store.inventoryCursor storageNamespace) := moves_read _
      exact reads s
  | reconcileInventoryPage => exact moves_reconcileInventoryPage _ _ _ _ s
  | isInventoryKeyKnown storageNamespace key =>
      have reads : Moves (Effect []) (Store.isInventoryKeyKnown storageNamespace key) := moves_read _
      exact reads s
  | forgetOrphan => exact moves_forgetOrphan _ _ s
  | completeOrphanDeletion => exact moves_completeOrphanDeletion _ _ _ s
  | failOrphanDeletion => exact moves_failOrphanDeletion _ _ _ _ s
  | saveInventoryCursor => exact moves_saveInventoryCursor _ _ _ s
  | enqueue => exact moves_enqueue _ _ _ s
  | claimNext => exact moves_claimNext _ _ _ s
  | renew => exact moves_renew _ _ _ _ s
  | complete => exact moves_complete _ _ _ s
  | fail => exact moves_fail _ _ _ _ _ _ s
  | hasCapacity => exact moves_hasCapacity _ _ _ _ s
  | saveBatch => exact moves_saveBatch _ _ s
  | findUpload tenantId uploadId =>
      have reads : Moves (Effect []) (Store.findUpload tenantId uploadId) := moves_readOr _
      exact reads s
  | isDeliveryAllowed tenantId uploadId =>
      have reads : Moves (Effect []) (Store.isDeliveryAllowed tenantId uploadId) := moves_read _
      exact reads s
  | markQuarantinedAndEnqueue => exact markQuarantinedAndEnqueue_effect integrity rfl
  | markDeleted => exact moves_markDeleted _ _ _ s
  | requestDeletion => exact moves_requestDeletion _ _ _ s
  | claimCleanupBatch => exact moves_claimCleanupBatch _ _ _ _ _ _ _ s
  | completeCleanup => exact moves_completeCleanup _ _ _ s
  | failCleanup => exact moves_failCleanup _ _ _ _ _ s
  | purgeTombstones => exact purgeTombstones_effect integrity rfl
  | findProcessingSource uploadId =>
      have reads : Moves (Effect []) (Store.findProcessingSource uploadId) := moves_readOr _
      exact reads s
  | startProcessing => exact moves_startProcessing _ _ _ _ s
  | publishDerivatives => exact moves_publishDerivatives _ _ _ s
  | markRejected => exact moves_markRejected _ _ _ s
  | consume => exact moves_consume _ _ _ _ s

theorem Answers.effect {op : Op} {ok : Bool} (answers : Answers op s ok t)
    (integrity : s.Integrity) : Effect op.kinds s t := by
  cases answers with
  | ran => exact op.effect integrity
  | refused => exact .refl

theorem Answers.integrity {op : Op} {ok : Bool} (answers : Answers op s ok t)
    (integrity : s.Integrity) : t.Integrity :=
  (answers.effect integrity).integrity integrity

/-- A typed answer of a call is an answer of its operation. -/
theorem Answers.ofReplies {ε α : Type} {call : Call SqliteStore ε α} {result : Except ε α} {op : Op}
    (runs : ∀ store, op.run store = Op.settle call store) (replies : Replies call s result t) :
    Answers op s result.toBool t := by
  cases replies with
  | ran answer =>
      have ran : op.run s = (result.toBool, t) := by rw [runs, Op.settle, answer]
      have answers : Answers op s (op.run s).1 (op.run s).2 := .ran
      rwa [ran] at answers
  | refused error => exact .refused

/-- The keys and references of the store hold in every run. -/
theorem StoreRun.integrity {calls : List (Op × Bool)} {store : SqliteStore}
    (run : StoreRun calls store) : store.Integrity :=
  Trace.keeps (fun _ _ _ step => step.integrity) run migrated_integrity

/-! ## How uploads advance -/

/-- Uploads move along the automaton, leave as tombstones and come as reservations. -/
structure Advances (s t : SqliteStore) : Prop where
  moved : ∀ before ∈ s.uploads, ∀ after ∈ t.uploads, after.id = before.id → Evolves before after
  removed : ∀ before ∈ s.uploads, (∀ after ∈ t.uploads, after.id ≠ before.id) →
    before.state = .deleted
  added : ∀ after ∈ t.uploads, (∀ before ∈ s.uploads, before.id ≠ after.id) → isReservation after

theorem Advances.of_evolves (integrity : t.Integrity)
    (evolves : List.Forall₂ Evolves s.uploads t.uploads) : Advances s t where
  moved := fun before there after there' same => by
    obtain ⟨other, member, moved⟩ := forall₂_mem_left evolves there
    rw [← integrity.uploadIds.eq_of_key member there' (moved.id.trans same.symm)]
    exact moved
  removed := fun before there gone => by
    obtain ⟨other, member, moved⟩ := forall₂_mem_left evolves there
    exact absurd moved.id (gone other member)
  added := fun after there fresh => by
    obtain ⟨other, member, moved⟩ := forall₂_mem_right evolves there
    exact absurd moved.id.symm (fresh other member)

theorem Advances.of_inserts {K : List Kind} (effect : Effect K s t) (integrity : s.Integrity)
    (updates : .updateUploads ∉ K) (deletes : .deleteUploads ∉ K) : Advances s t := by
  have kept : (∀ row ∈ s.uploads, row ∈ t.uploads) ∧
      ∀ row ∈ t.uploads, row ∈ s.uploads ∨ isReservation row := by
    induction effect with
    | refl => exact ⟨fun _ member => member, fun _ member => .inl member⟩
    | @tail m u _ wrote ih =>
        obtain same | ⟨-, row, fresh, -, added⟩ | ⟨kind, -⟩ | ⟨kind, -⟩ := wrote.uploads_cases
        · rw [same]
          exact ih
        · rw [added]
          refine ⟨fun row member => List.mem_append_left _ (ih.1 row member), fun other member => ?_⟩
          rcases List.mem_append.1 member with old | new
          · exact ih.2 other old
          · rw [List.mem_singleton.1 new]
            exact .inr fresh
        · exact absurd kind updates
        · exact absurd kind deletes
  have integrity' := effect.integrity integrity
  exact
    { moved := fun before there after there' same => by
        rw [integrity'.uploadIds.eq_of_key there' (kept.1 before there) same]
        exact Evolves.refl before
      removed := fun before there gone => absurd rfl (gone before (kept.1 before there))
      added := fun after there' fresh => by
        rcases kept.2 after there' with old | new
        · exact absurd rfl (fresh after old)
        · exact new }

theorem Advances.of_deletes {K : List Kind} (effect : Effect K s t) (integrity : s.Integrity)
    (updates : .updateUploads ∉ K) (inserts : .insertUpload ∉ K) : Advances s t := by
  have kept : (∀ row ∈ t.uploads, row ∈ s.uploads) ∧
      ∀ row ∈ s.uploads, row ∈ t.uploads ∨ row.state = .deleted := by
    induction effect with
    | refl => exact ⟨fun _ member => member, fun _ member => .inl member⟩
    | @tail m u _ wrote ih =>
        obtain same | ⟨kind, -⟩ | ⟨kind, -⟩ | ⟨-, hit, tombstones, removed⟩ := wrote.uploads_cases
        · rw [same]
          exact ih
        · exact absurd kind inserts
        · exact absurd kind updates
        · rw [removed]
          refine ⟨fun row member => ih.1 row (mem_deleteWhere.1 member).1, fun row member => ?_⟩
          rcases ih.2 row member with there | tombstone
          · by_cases hits : hit row = true
            · exact .inr (tombstones row there hits)
            · exact .inl (mem_deleteWhere.2 ⟨there, by simpa using hits⟩)
          · exact .inr tombstone
  exact
    { moved := fun before there after there' same => by
        rw [integrity.uploadIds.eq_of_key (kept.1 after there') there same]
        exact Evolves.refl before
      removed := fun before there gone => by
        rcases kept.2 before there with stays | tombstone
        · exact absurd rfl (gone before stays)
        · exact tombstone
      added := fun after there' fresh => absurd rfl (fresh after (kept.1 after there')) }

/-- **Every operation advances uploads.** -/
theorem Answers.advances {op : Op} {ok : Bool} (answers : Answers op s ok t)
    (integrity : s.Integrity) : Advances s t := by
  have effect := answers.effect integrity
  by_cases inserts : Kind.insertUpload ∈ op.kinds
  · refine Advances.of_inserts effect integrity ?_ ?_
    all_goals cases op <;> simp [Op.kinds] at inserts ⊢
  by_cases deletes : Kind.deleteUploads ∈ op.kinds
  · refine Advances.of_deletes effect integrity ?_ inserts
    cases op <;> simp [Op.kinds] at deletes ⊢
  · exact Advances.of_evolves (answers.integrity integrity) (effect.evolves inserts deletes)

end Operations

/-! ## Executing calls -/

/-- The calls with how they end, when the database refuses none of them. -/
def played (s : SqliteStore) : List Op → List (Op × Bool)
  | [] => []
  | op :: ops => (op, (op.run s).1) :: played (op.run s).2 ops

/-- The store such calls leave. -/
def playAll (s : SqliteStore) : List Op → SqliteStore
  | [] => s
  | op :: ops => playAll (op.run s).2 ops

theorem playAll_trace (s : SqliteStore) (ops : List Op) :
    Trace StoreStep s (played s ops) (playAll s ops) := by
  induction ops generalizing s with
  | nil => exact .nil s
  | cons op ops ih =>
      have answers : Answers op s (op.run s).1 (op.run s).2 := .ran
      exact .cons answers (ih (op.run s).2)

/-- Every one of the calls is made where `guard` holds. -/
def Meets (guard : SqliteStore → Op × Bool → Prop) : SqliteStore → List Op → Prop
  | _, [] => True
  | s, op :: ops => guard s (op, (op.run s).1) ∧ Meets guard (op.run s).2 ops

theorem playAll_guarded {guard : SqliteStore → Op × Bool → Prop} {s : SqliteStore} {ops : List Op}
    (meets : Meets guard s ops) :
    Trace (Guarded StoreStep guard) s (played s ops) (playAll s ops) := by
  induction ops generalizing s with
  | nil => exact .nil s
  | cons op ops ih =>
      have answers : Answers op s (op.run s).1 (op.run s).2 := .ran
      exact .cons ⟨answers, meets.1⟩ (ih meets.2)

/-! ## A sample store -/

theorem sampleTime_within (seconds : Nat) :
    minUnixTimestamp * 1000000000 ≤ (1700000000 + min (seconds : Int) 100000) * 1000000000 ∧
      (1700000000 + min (seconds : Int) 100000) * 1000000000 <
        (maxUnixTimestamp + 1) * 1000000000 := by
  simp only [minUnixTimestamp, maxUnixTimestamp]
  omega

/-- `seconds` after the first instant of the samples. -/
def sampleTime (seconds : Nat) : OffsetDateTime where
  unixNanos := (1700000000 + min (seconds : Int) 100000) * 1000000000
  lower := (sampleTime_within seconds).1
  upper := (sampleTime_within seconds).2

/-- An identifier by its number. -/
def numbered (number : Nat) : Uuid := ⟨number % 2 ^ 128, Nat.mod_lt number (Nat.two_pow_pos 128)⟩

def sampleUploadId : UploadId := ⟨1⟩

def sampleJobId : JobId := ⟨7⟩

/-- One reservation of 100 bytes by the tenant `g5`. -/
def sampleBatch : UploadBatchReservation where
  batchId := ⟨1⟩
  tenantId := "g5"
  createdAt := sampleTime 0
  uploads :=
    [{ uploadId := ⟨1⟩, objectKey := ⟨"raw/g5/1/source", by decide⟩, declaredKind := .image
       expectedSizeBytes := 100, contentTypeHint := "image/png", transfer := .singlePut
       multipartUploadId := none }]

/-- The row of the sample reservation. -/
def sampleRow : UploadRow where
  id := sampleUploadId
  tenantId := "g5"
  objectKey := ⟨"raw/g5/1/source", by decide⟩
  declaredKind := .image
  expectedSizeBytes := 100
  contentTypeHint := "image/png"
  batchId := some ⟨1⟩
  transferKind := .singlePut
  multipartPartSizeBytes := none
  multipartUploadId := none
  createdAt := 1700000000
  state := .created
  actualSizeBytes := none
  detectedContentType := none
  sourceSha256 := none
  errorCode := none
  updatedAt := 1700000000
  deleteRequestedAt := none
  deletedAt := none
  cleanupLeaseOwner := none
  cleanupLeaseUntil := none
  cleanupRetryAt := none
  cleanupAttempts := 0
  cleanupErrorCode := none

def sampleCapacity : UploadCapacityPolicy := ⟨10, 5, 1000, 500⟩

/-- The store that holds the sample reservation. -/
def reservedSample : SqliteStore := ((Op.saveBatch sampleBatch sampleCapacity).run .migrated).2

theorem reservedSample_run :
    StoreRun [(.saveBatch sampleBatch sampleCapacity, true)] reservedSample := by
  have saved : Answers (.saveBatch sampleBatch sampleCapacity) .migrated true reservedSample := .ran
  exact Trace.single saved

/-- The confirmation of the sample reservation. -/
def sampleConfirmation : Op :=
  .markQuarantinedAndEnqueue ⟨7⟩ "g5" ⟨1⟩ 100 "source-validation-v1" (sampleTime 1)

/-- The store that holds the confirmed sample and its job. -/
def confirmedSample : SqliteStore := (sampleConfirmation.run reservedSample).2

theorem confirmedSample_answers : Answers sampleConfirmation reservedSample true confirmedSample :=
  .ran

end MediaBooster.Store
