/-
# Store.Inventory -- the orphan inventory repository

`InventoryRepository` of the SQLite store.  One page of provider objects is
reconciled in one transaction: an object some undeleted upload owns is forgotten as
an orphan, any other is recorded as suspected, and it is eligible for deletion when
it was first seen early enough.  None of it touches uploads, jobs or derivatives.
-/
import MediaBooster.Store.Lifecycle

namespace MediaBooster.Store

set_option autoImplicit false

open MediaBooster.Domain MediaBooster.Theory.Table MediaBooster.Theory.Transaction

/-- `InventoryRepositoryError(String)`. -/
abbrev InventoryRepositoryError := Fault

/-- `inventory_backend`. -/
def inventoryBackend (error : SqlError) : InventoryRepositoryError := .sqliteBackend error

/-- `StorageNamespace::prefix`. -/
def StorageNamespace.keyPrefix : StorageNamespace → String
  | .raw => "raw/"
  | .derivative => "media/"

/-- A validated provider object. -/
structure InventoryObject where
  key : ObjectKey
  contentLength : Nat
deriving DecidableEq

/-- An orphan old enough to delete. -/
structure OrphanCandidate where
  key : ObjectKey
  contentLength : Nat
deriving DecidableEq

/-- Durable classification of one provider page. -/
structure InventoryReconcileResult where
  known : Nat := 0
  suspected : Nat := 0
  eligible : List OrphanCandidate := []
deriving DecidableEq

/-! ## Reconciling a page -/

/-- `SELECT EXISTS(…)`: an undeleted upload owns the key. -/
def SqliteStore.inventoryKeyKnown (store : SqliteStore) (key : ObjectKey) :
    StorageNamespace → Bool
  | .raw => store.uploads.any fun row => row.objectKey == key && row.state != .deleted
  | .derivative => store.derivatives.any fun derivative =>
      derivative.objectKey == key && store.uploads.any fun row =>
        row.id == derivative.uploadId && row.state != .deleted

/-- `WHERE namespace = ? AND object_key = ?`. -/
def orphanAt (storageNamespace : StorageNamespace) (key : ObjectKey) (row : OrphanRow) : Bool :=
  row.storageNamespace == storageNamespace && row.objectKey == key

/-- A new observation of an orphan. -/
def suspectedRow (storageNamespace : StorageNamespace) (key : ObjectKey)
    (contentLength observedAt : Int) : OrphanRow where
  storageNamespace := storageNamespace
  objectKey := key
  contentLength := contentLength
  firstSeenAt := observedAt
  lastSeenAt := observedAt
  state := .suspected
  deleteAttempts := 0
  lastErrorCode := none
  deletedAt := none

/-- The `DO UPDATE` of another observation. -/
def observeAgain (contentLength observedAt : Int) (row : OrphanRow) : OrphanRow :=
  { row with
    contentLength := contentLength
    firstSeenAt := if row.state = .deleted then observedAt else row.firstSeenAt
    lastSeenAt := observedAt
    state := .suspected
    deleteAttempts := if row.state = .deleted then 0 else row.deleteAttempts
    lastErrorCode := none
    deletedAt := none }

/-- `INSERT INTO orphan_objects … ON CONFLICT(namespace, object_key) DO UPDATE`. -/
def SqliteStore.upsertOrphan (storageNamespace : StorageNamespace) (key : ObjectKey)
    (contentLength observedAt : Int) : Statement := fun store =>
  if store.orphanObjects.any (orphanAt storageNamespace key) then
    store.updateOrphans (orphanAt storageNamespace key) (observeAgain contentLength observedAt)
  else store.insertOrphan (suspectedRow storageNamespace key contentLength observedAt)

/-- `SELECT first_seen_at … AND state = 'suspected'`, with `fetch_one`. -/
def SqliteStore.firstSeenAt (storageNamespace : StorageNamespace) (key : ObjectKey)
    (store : SqliteStore) : Except InventoryRepositoryError Int :=
  match store.orphanObjects.find? fun row =>
      orphanAt storageNamespace key row && row.state == .suspected with
  | none => .error (inventoryBackend .rowNotFound)
  | some row => .ok row.firstSeenAt

/-- An object that is still owned. -/
def reconcileKnown (storageNamespace : StorageNamespace) (object : InventoryObject)
    (result : InventoryReconcileResult) :
    Tx SqliteStore InventoryRepositoryError InventoryReconcileResult := do
  let _ ← Tx.execute inventoryBackend
    (SqliteStore.deleteOrphans (orphanAt storageNamespace object.key))
  return { result with known := result.known + 1 }

/-- An object that nothing owns. -/
def reconcileOrphan (storageNamespace : StorageNamespace) (observedAt eligibleBefore : Int)
    (object : InventoryObject) (result : InventoryReconcileResult) :
    Tx SqliteStore InventoryRepositoryError InventoryReconcileResult := do
  let contentLength ← Tx.okOr (i64TryFrom object.contentLength)
    (.text "inventory object length exceeds SQLite range")
  let _ ← Tx.execute inventoryBackend
    (SqliteStore.upsertOrphan storageNamespace object.key contentLength observedAt)
  let firstSeenAt ← Tx.selectOr (SqliteStore.firstSeenAt storageNamespace object.key)
  if firstSeenAt ≤ eligibleBefore then
    return { result with eligible := result.eligible ++ [⟨object.key, object.contentLength⟩] }
  else return { result with suspected := result.suspected + 1 }

/-- Reconcile one object of the page. -/
def reconcileObject (storageNamespace : StorageNamespace) (observedAt eligibleBefore : Int)
    (result : InventoryReconcileResult) (object : InventoryObject) :
    Tx SqliteStore InventoryRepositoryError InventoryReconcileResult := do
  let known ← Tx.select fun store => store.inventoryKeyKnown object.key storageNamespace
  if known then reconcileKnown storageNamespace object result
  else reconcileOrphan storageNamespace observedAt eligibleBefore object result

/-- `InventoryRepository::reconcile_inventory_page`. -/
def reconcileInventoryPage (storageNamespace : StorageNamespace) (objects : List InventoryObject)
    (observedAt eligibleBefore : OffsetDateTime) :
    Call SqliteStore InventoryRepositoryError InventoryReconcileResult := do
  Call.ensure (decide (objects.length ≤ 1000)) (.text "inventory page exceeds the repository bound")
  commit (objects.foldlM (reconcileObject storageNamespace observedAt.unixTimestamp
    eligibleBefore.unixTimestamp) {})

/-- `InventoryRepository::is_inventory_key_known`. -/
def isInventoryKeyKnown (storageNamespace : StorageNamespace) (key : ObjectKey) :
    Call SqliteStore InventoryRepositoryError Bool :=
  Call.read fun store => store.inventoryKeyKnown key storageNamespace

/-! ## Deleting orphans -/

/-- `InventoryRepository::forget_orphan`. -/
def forgetOrphan (storageNamespace : StorageNamespace) (key : ObjectKey) :
    Call SqliteStore InventoryRepositoryError Unit := do
  let _ ← autocommit inventoryBackend (SqliteStore.deleteOrphans (orphanAt storageNamespace key))
  return ()

/-- `InventoryRepository::complete_orphan_deletion`. -/
def completeOrphanDeletion (storageNamespace : StorageNamespace) (key : ObjectKey)
    (deletedAt : OffsetDateTime) : Call SqliteStore InventoryRepositoryError Unit := do
  let completed ← autocommit inventoryBackend (SqliteStore.updateOrphans
    (orphanAt storageNamespace key) fun row =>
      { row with
        state := .deleted, deletedAt := some deletedAt.unixTimestamp, lastErrorCode := none })
  Call.ensure (completed == 1) (.text "orphan deletion has no durable observation")

/-- `InventoryRepository::fail_orphan_deletion`. -/
def failOrphanDeletion (storageNamespace : StorageNamespace) (key : ObjectKey) (errorCode : String)
    (failedAt : OffsetDateTime) : Call SqliteStore InventoryRepositoryError Unit := do
  Call.ensure (!errorCode.isEmpty && decide (errorCode.utf8ByteSize ≤ 64))
    (.text "orphan deletion error code is invalid")
  let failed ← autocommit inventoryBackend (SqliteStore.updateOrphans
    (fun row => orphanAt storageNamespace key row && row.state == .suspected) fun row =>
      { row with
        deleteAttempts := row.deleteAttempts + 1
        lastErrorCode := some errorCode
        lastSeenAt := failedAt.unixTimestamp })
  Call.ensure (failed == 1) (.text "orphan deletion failure has no active observation")

/-! ## The cursor -/

/-- `InventoryRepository::inventory_cursor`. -/
def inventoryCursor (storageNamespace : StorageNamespace) :
    Call SqliteStore InventoryRepositoryError (Option String) :=
  Call.read fun store =>
    (store.inventoryCursors.find? fun row =>
      row.storageNamespace == storageNamespace).bind InventoryCursorRow.startAfter

/-- A cursor of at most 1024 bytes that starts with the namespace's prefix. -/
def validCursor (storageNamespace : StorageNamespace) (cursor : String) : Bool :=
  decide (cursor.utf8ByteSize ≤ 1024) &&
    storageNamespace.keyPrefix.toList.isPrefixOf cursor.toList

/-- `InventoryRepository::save_inventory_cursor`. -/
def saveInventoryCursor (storageNamespace : StorageNamespace) (startAfter : Option String)
    (updatedAt : OffsetDateTime) : Call SqliteStore InventoryRepositoryError Unit := do
  Call.ensure (startAfter.all (validCursor storageNamespace)) (.text "inventory cursor is invalid")
  let _ ← autocommit inventoryBackend (SqliteStore.upsertInventoryCursor
    ⟨storageNamespace, startAfter, updatedAt.unixTimestamp⟩)
  return ()

/-! ## Kinds -/

section Kinds

variable {n : Nat} {s t : SqliteStore}

theorem deleteOrphans_aside {hit : OrphanRow → Bool}
    (ran : SqliteStore.deleteOrphans hit s = .ok (n, t)) : Effect [.aside] s t := by
  exact (Wrote.aside (by simp) (deleteOrphans_same ran)).effect

theorem updateOrphans_aside {hit : OrphanRow → Bool} {change : OrphanRow → OrphanRow}
    (ran : SqliteStore.updateOrphans hit change s = .ok (n, t)) : Effect [.aside] s t := by
  exact (Wrote.aside (by simp) (updateOrphans_same ran)).effect

theorem upsertOrphan_aside {storageNamespace : StorageNamespace} {key : ObjectKey}
    {contentLength observedAt : Int}
    (ran : SqliteStore.upsertOrphan storageNamespace key contentLength observedAt s = .ok (n, t)) :
    Effect [.aside] s t := by
  rw [SqliteStore.upsertOrphan] at ran
  split at ran
  · exact updateOrphans_aside ran
  · exact (Wrote.aside (by simp) (insertOrphan_same ran)).effect

theorem along_reconcileObject (storageNamespace : StorageNamespace)
    (observedAt eligibleBefore : Int) (result : InventoryReconcileResult)
    (object : InventoryObject) :
    Along (Effect [.aside])
      (reconcileObject storageNamespace observedAt eligibleBefore result object) := by
  refine along_bind (along_select _) fun known => ?_
  refine along_ite (fun _ => ?_) fun _ => ?_
  · exact along_bind (along_execute fun _ _ _ ran => deleteOrphans_aside ran) fun _ => along_pure _
  · refine along_bind (along_okOr _ _) fun contentLength => ?_
    refine along_bind (along_execute fun _ _ _ ran => upsertOrphan_aside ran) fun _ => ?_
    refine along_bind (along_selectOr _) fun firstSeenAt => ?_
    exact along_ite (fun _ => along_pure _) fun _ => along_pure _

theorem moves_reconcileInventoryPage (storageNamespace : StorageNamespace)
    (objects : List InventoryObject) (observedAt eligibleBefore : OffsetDateTime) :
    Moves (Effect [.aside])
      (reconcileInventoryPage storageNamespace objects observedAt eligibleBefore) := by
  refine moves_bind (moves_ensure _ _) fun _ => moves_commit ?_
  exact along_foldlM (fun result object => along_reconcileObject _ _ _ result object) objects {}

theorem moves_forgetOrphan (storageNamespace : StorageNamespace) (key : ObjectKey) :
    Moves (Effect [.aside]) (forgetOrphan storageNamespace key) :=
  moves_bind (moves_autocommit fun _ _ _ ran => deleteOrphans_aside ran) fun _ => moves_pure _

theorem moves_completeOrphanDeletion (storageNamespace : StorageNamespace) (key : ObjectKey)
    (deletedAt : OffsetDateTime) :
    Moves (Effect [.aside]) (completeOrphanDeletion storageNamespace key deletedAt) :=
  moves_bind (moves_autocommit fun _ _ _ ran => updateOrphans_aside ran) fun _ => moves_ensure _ _

theorem moves_failOrphanDeletion (storageNamespace : StorageNamespace) (key : ObjectKey)
    (errorCode : String) (failedAt : OffsetDateTime) :
    Moves (Effect [.aside]) (failOrphanDeletion storageNamespace key errorCode failedAt) := by
  refine moves_bind (moves_ensure _ _) fun _ => ?_
  exact moves_bind (moves_autocommit fun _ _ _ ran => updateOrphans_aside ran) fun _ =>
    moves_ensure _ _

theorem moves_saveInventoryCursor (storageNamespace : StorageNamespace)
    (startAfter : Option String) (updatedAt : OffsetDateTime) :
    Moves (Effect [.aside]) (saveInventoryCursor storageNamespace startAfter updatedAt) := by
  refine moves_bind (moves_ensure _ _) fun _ => ?_
  refine moves_bind (moves_autocommit fun s n t ran => ?_) fun _ => moves_pure _
  obtain ⟨cursors, moved⟩ := SqliteStore.upsertInventoryCursor_ok ran
  refine (Wrote.aside (by simp) ?_).effect
  rw [moved]
  exact ⟨rfl, rfl, rfl, rfl, rfl, rfl, rfl, id, rfl⟩

end Kinds

end MediaBooster.Store
