/-
# Store.Orphans -- what operations do to the inventory's tables

A suspicion (`Suspects`) is the row of an orphan that is not deleted, with the instant it was first
seen.  Only a reconciled page raises one, and only about an object that nothing owns; every other
operation leaves suspicions as they are or drops them (`run_settles`).  A page says that an object
is eligible when it is suspected of having been there early enough (`reconcileInventoryPage_ok`).

Only `save_inventory_cursor` moves the saved cursors.
-/
import MediaBooster.Store.Calls

namespace MediaBooster.Store

set_option autoImplicit false

open MediaBooster.Domain MediaBooster.Theory.Table MediaBooster.Theory.Transaction

/-! ## Suspicions -/

/-- The object is suspected, and was first seen at that instant. -/
def SqliteStore.Suspects (store : SqliteStore) (storageNamespace : StorageNamespace)
    (key : ObjectKey) (firstSeenAt : Int) : Prop :=
  ∃ row ∈ store.orphanObjects, row.storageNamespace = storageNamespace ∧ row.objectKey = key ∧
    row.state = .suspected ∧ row.firstSeenAt = firstSeenAt

/-- The cursor that is saved for a namespace. -/
def SqliteStore.savedCursor (store : SqliteStore) (storageNamespace : StorageNamespace) :
    Option String :=
  (store.inventoryCursors.find? fun row => row.storageNamespace == storageNamespace).bind
    InventoryCursorRow.startAfter

/-- No suspicion is new. -/
def Settles (s t : SqliteStore) : Prop :=
  ∀ storageNamespace key firstSeenAt, t.Suspects storageNamespace key firstSeenAt →
    s.Suspects storageNamespace key firstSeenAt

instance : Std.Refl Settles := ⟨fun _ _ _ _ suspects => suspects⟩

instance : IsTrans SqliteStore Settles :=
  ⟨fun _ _ _ first second storageNamespace key firstSeenAt suspects =>
    first storageNamespace key firstSeenAt (second storageNamespace key firstSeenAt suspects)⟩

/-- The saved cursors are the same. -/
def KeepsCursors (s t : SqliteStore) : Prop := t.inventoryCursors = s.inventoryCursors

instance : Std.Refl KeepsCursors := ⟨fun _ => rfl⟩

instance : IsTrans SqliteStore KeepsCursors := ⟨fun _ _ _ first second => second.trans first⟩

theorem KeepsCursors.savedCursor {s t : SqliteStore} (keeps : KeepsCursors s t)
    (storageNamespace : StorageNamespace) :
    t.savedCursor storageNamespace = s.savedCursor storageNamespace := by
  unfold SqliteStore.savedCursor
  rw [show t.inventoryCursors = s.inventoryCursors from keeps]

/-! ## Statements -/

section Statements

variable {n : Nat} {s t : SqliteStore} {storageNamespace : StorageNamespace} {key : ObjectKey}

theorem settles_of_same (same : t.orphanObjects = s.orphanObjects) : Settles s t := by
  intro storageNamespace key firstSeenAt suspects
  unfold SqliteStore.Suspects at *
  rw [← same]
  exact suspects

theorem deleteOrphans_settles {hit : OrphanRow → Bool}
    (ran : SqliteStore.deleteOrphans hit s = .ok (n, t)) : Settles s t ∧ KeepsCursors s t := by
  obtain ⟨-, counters, -, -, rfl⟩ := SqliteStore.deleteOrphans_ok ran
  refine ⟨?_, rfl⟩
  rintro storageNamespace key firstSeenAt ⟨row, member, suspected⟩
  exact ⟨row, (mem_deleteWhere.1 member).1, suspected⟩

/-- An update that leaves what it suspects as it was settles. -/
theorem updateOrphans_settles {hit : OrphanRow → Bool} {change : OrphanRow → OrphanRow}
    (kept : ∀ row, hit row = true → (change row).state = .suspected →
      row.state = .suspected ∧ (change row).identity = row.identity ∧
        (change row).firstSeenAt = row.firstSeenAt)
    (ran : SqliteStore.updateOrphans hit change s = .ok (n, t)) :
    Settles s t ∧ KeepsCursors s t := by
  obtain ⟨-, counters, -, -, rfl⟩ := SqliteStore.updateOrphans_ok ran
  refine ⟨?_, rfl⟩
  rintro storageNamespace key firstSeenAt ⟨row, member, here, named, suspected, seen⟩
  obtain ⟨before, there, moved⟩ := mem_updateWhere.1 member
  subst moved
  by_cases reached : hit before = true
  · rw [if_pos reached] at here named suspected seen
    obtain ⟨state, identity, first⟩ := kept before reached suspected
    obtain ⟨sameNamespace, sameKey⟩ := Prod.mk.inj identity
    exact ⟨before, there, sameNamespace.symm.trans here, sameKey.symm.trans named, state,
      first.symm.trans seen⟩
  · rw [if_neg reached] at here named suspected seen
    exact ⟨before, there, here, named, suspected, seen⟩

/-- Another observation of an object suspects it from now on, or from when it was suspected. -/
theorem upsertOrphan_suspects {contentLength observedAt : Int}
    (ran : SqliteStore.upsertOrphan storageNamespace key contentLength observedAt s = .ok (n, t))
    {otherNamespace : StorageNamespace} {other : ObjectKey} {firstSeenAt : Int}
    (suspects : t.Suspects otherNamespace other firstSeenAt) :
    s.Suspects otherNamespace other firstSeenAt ∨
      (otherNamespace = storageNamespace ∧ other = key ∧ firstSeenAt = observedAt) := by
  rw [SqliteStore.upsertOrphan] at ran
  obtain ⟨row, member, here, named, suspected, seen⟩ := suspects
  split at ran
  · obtain ⟨-, counters, -, -, rfl⟩ := SqliteStore.updateOrphans_ok ran
    obtain ⟨before, there, moved⟩ := mem_updateWhere.1 member
    subst moved
    by_cases reached : orphanAt storageNamespace key before = true
    · rw [if_pos reached] at here named seen
      by_cases dead : before.state = .deleted
      · have parts : before.storageNamespace = storageNamespace ∧ before.objectKey = key := by
          simpa [orphanAt] using reached
        refine .inr ⟨here.symm.trans parts.1, named.symm.trans parts.2, ?_⟩
        rw [← seen, observeAgain, if_pos dead]
      · refine .inl ⟨before, there, here, named, ?_, ?_⟩
        · cases state : before.state with
          | suspected => rfl
          | deleted => exact absurd state dead
        · rw [← seen, observeAgain, if_neg dead]
    · rw [if_neg reached] at here named suspected seen
      exact .inl ⟨before, there, here, named, suspected, seen⟩
  · obtain ⟨counters, -, -, rfl⟩ := SqliteStore.insertOrphan_ok ran
    obtain old | new := List.mem_append.1 member
    · exact .inl ⟨row, old, here, named, suspected, seen⟩
    · rw [List.mem_singleton.1 new] at here named seen
      exact .inr ⟨here.symm, named.symm, seen.symm⟩

/-- What was suspected before another observation is suspected after it. -/
theorem upsertOrphan_keeps {contentLength observedAt : Int}
    (ran : SqliteStore.upsertOrphan storageNamespace key contentLength observedAt s = .ok (n, t))
    {otherNamespace : StorageNamespace} {other : ObjectKey} {firstSeenAt : Int}
    (suspects : s.Suspects otherNamespace other firstSeenAt) :
    t.Suspects otherNamespace other firstSeenAt := by
  rw [SqliteStore.upsertOrphan] at ran
  obtain ⟨row, member, here, named, suspected, seen⟩ := suspects
  have alive : row.state ≠ .deleted := by
    rw [suspected]
    decide
  split at ran
  · obtain ⟨-, counters, -, -, rfl⟩ := SqliteStore.updateOrphans_ok ran
    by_cases reached : orphanAt storageNamespace key row = true
    · refine ⟨observeAgain contentLength observedAt row,
        mem_updateWhere.2 ⟨row, member, ?_⟩, here, named, rfl, ?_⟩
      · rw [if_pos reached]
      · rw [observeAgain, if_neg alive]
        exact seen
    · refine ⟨row, mem_updateWhere.2 ⟨row, member, ?_⟩, here, named, suspected, seen⟩
      rw [if_neg reached]
  · obtain ⟨counters, -, -, rfl⟩ := SqliteStore.insertOrphan_ok ran
    exact ⟨row, List.mem_append_left _ member, here, named, suspected, seen⟩

theorem upsertOrphan_cursors {contentLength observedAt : Int}
    (ran : SqliteStore.upsertOrphan storageNamespace key contentLength observedAt s = .ok (n, t)) :
    KeepsCursors s t := by
  rw [SqliteStore.upsertOrphan] at ran
  split at ran
  · obtain ⟨-, counters, -, -, rfl⟩ := SqliteStore.updateOrphans_ok ran
    rfl
  · obtain ⟨counters, -, -, rfl⟩ := SqliteStore.insertOrphan_ok ran
    rfl

theorem firstSeenAt_ok {firstSeenAt : Int}
    (read : s.firstSeenAt storageNamespace key = .ok firstSeenAt) :
    s.Suspects storageNamespace key firstSeenAt := by
  unfold SqliteStore.firstSeenAt at read
  split at read
  · cases read
  · rename_i row found
    cases read
    have parts : (row.storageNamespace = storageNamespace ∧ row.objectKey = key) ∧
        row.state = .suspected := by
      simpa [orphanAt] using List.find?_some found
    exact ⟨row, List.mem_of_find?_eq_some found, parts.1.1, parts.1.2, parts.2, rfl⟩

end Statements

/-! ## A page -/

section Pages

variable {storageNamespace : StorageNamespace} {observedAt eligibleBefore : Int}
variable {s t middle : SqliteStore} {result after : InventoryReconcileResult}

/-- What reconciling some objects has come to: who owns what is as before; what is suspected was,
or is one of the objects; those of the objects that are suspected are owned by nothing; and what is
eligible is suspected from early enough on. -/
structure Reconciling (s : SqliteStore) (storageNamespace : StorageNamespace)
    (observedAt eligibleBefore : Int) (keys : List ObjectKey) (t : SqliteStore)
    (result : InventoryReconcileResult) : Prop where
  cursors : KeepsCursors s t
  known : ∀ key storageNamespace,
    t.inventoryKeyKnown key storageNamespace = s.inventoryKeyKnown key storageNamespace
  suspects : ∀ otherNamespace key firstSeenAt, t.Suspects otherNamespace key firstSeenAt →
    s.Suspects otherNamespace key firstSeenAt ∨
      (otherNamespace = storageNamespace ∧ key ∈ keys ∧ firstSeenAt = observedAt)
  unknown : ∀ key firstSeenAt, key ∈ keys → t.Suspects storageNamespace key firstSeenAt →
    s.inventoryKeyKnown key storageNamespace = false
  eligible : ∀ candidate ∈ result.eligible, candidate.key ∈ keys ∧
    s.inventoryKeyKnown candidate.key storageNamespace = false ∧
    ∃ firstSeenAt, firstSeenAt ≤ eligibleBefore ∧
      t.Suspects storageNamespace candidate.key firstSeenAt

theorem Reconciling.start : Reconciling s storageNamespace observedAt eligibleBefore [] s {} where
  cursors := rfl
  known := fun _ _ => rfl
  suspects := fun _ _ _ suspects => .inl suspects
  unknown := fun _ _ member => by cases member
  eligible := fun _ member => by cases member

theorem inventoryKeyKnown_same (same : SameTables s t) (key : ObjectKey)
    (storageNamespace : StorageNamespace) :
    t.inventoryKeyKnown key storageNamespace = s.inventoryKeyKnown key storageNamespace := by
  cases storageNamespace <;> simp [SqliteStore.inventoryKeyKnown, same.uploads, same.derivatives]

theorem upsertOrphan_same {n : Nat} {key : ObjectKey} {contentLength : Int}
    (ran : SqliteStore.upsertOrphan storageNamespace key contentLength observedAt s = .ok (n, t)) :
    SameTables s t := by
  rw [SqliteStore.upsertOrphan] at ran
  split at ran
  · exact updateOrphans_same ran
  · exact insertOrphan_same ran

/-- Deleting the suspicions of an object that is owned. -/
theorem Reconciling.owned {n : Nat} {keys : List ObjectKey} {object : InventoryObject}
    (before : Reconciling s storageNamespace observedAt eligibleBefore keys middle result)
    (owned : middle.inventoryKeyKnown object.key storageNamespace = true)
    (ran : SqliteStore.deleteOrphans (orphanAt storageNamespace object.key) middle = .ok (n, t)) :
    Reconciling s storageNamespace observedAt eligibleBefore (keys ++ [object.key]) t
      { result with known := result.known + 1 } where
  cursors := (deleteOrphans_settles ran).2.trans before.cursors
  known := fun key ns => (inventoryKeyKnown_same (deleteOrphans_same ran) key ns).trans
    (before.known key ns)
  suspects := fun ns key firstSeenAt suspects => by
    have old := (deleteOrphans_settles ran).1 ns key firstSeenAt suspects
    refine (before.suspects ns key firstSeenAt old).imp_right fun new => ?_
    exact ⟨new.1, List.mem_append_left _ new.2.1, new.2.2⟩
  unknown := fun key firstSeenAt member suspects => by
    obtain earlier | this := List.mem_append.1 member
    · exact before.unknown key firstSeenAt earlier
        ((deleteOrphans_settles ran).1 _ _ _ suspects)
    · -- no row of the object is left
      obtain rfl := List.mem_singleton.1 this
      obtain ⟨-, counters, -, -, rfl⟩ := SqliteStore.deleteOrphans_ok ran
      obtain ⟨row, there, here, named, -⟩ := suspects
      have spared := (mem_deleteWhere.1 there).2
      simp [orphanAt, here, named] at spared
  eligible := fun candidate member => by
    obtain ⟨listed, unowned, firstSeenAt, early, row, there, here, named, rest⟩ :=
      before.eligible candidate member
    refine ⟨List.mem_append_left _ listed, unowned, firstSeenAt, early, row, ?_, here, named, rest⟩
    obtain ⟨-, counters, -, -, rfl⟩ := SqliteStore.deleteOrphans_ok ran
    refine mem_deleteWhere.2 ⟨there, ?_⟩
    have other : row.objectKey ≠ object.key := by
      intro same
      rw [before.known, ← same, named, unowned] at owned
      cases owned
    simp [orphanAt, other]

/-- Suspecting an object nothing owns. -/
theorem Reconciling.unowned {n : Nat} {keys : List ObjectKey} {object : InventoryObject}
    {contentLength : Int}
    (before : Reconciling s storageNamespace observedAt eligibleBefore keys middle result)
    (unowned : middle.inventoryKeyKnown object.key storageNamespace = false)
    (ran : SqliteStore.upsertOrphan storageNamespace object.key contentLength observedAt middle =
      .ok (n, t))
    (candidates : ∀ candidate ∈ after.eligible, candidate ∈ result.eligible ∨
      (candidate.key = object.key ∧ ∃ firstSeenAt, firstSeenAt ≤ eligibleBefore ∧
        t.Suspects storageNamespace object.key firstSeenAt)) :
    Reconciling s storageNamespace observedAt eligibleBefore (keys ++ [object.key]) t after where
  cursors := (upsertOrphan_cursors ran).trans before.cursors
  known := fun key ns => (inventoryKeyKnown_same (upsertOrphan_same ran) key ns).trans
    (before.known key ns)
  suspects := fun ns key firstSeenAt suspects => by
    obtain old | ⟨rfl, rfl, rfl⟩ := upsertOrphan_suspects ran suspects
    · refine (before.suspects ns key firstSeenAt old).imp_right fun new => ?_
      exact ⟨new.1, List.mem_append_left _ new.2.1, new.2.2⟩
    · exact .inr ⟨rfl, List.mem_append_right _ (List.mem_singleton_self _), rfl⟩
  unknown := fun key firstSeenAt member suspects => by
    obtain earlier | this := List.mem_append.1 member
    · obtain old | ⟨-, rfl, -⟩ := upsertOrphan_suspects ran suspects
      · exact before.unknown key firstSeenAt earlier old
      · rw [← before.known]
        exact unowned
    · rw [List.mem_singleton.1 this, ← before.known]
      exact unowned
  eligible := fun candidate member => by
    obtain old | ⟨named, firstSeenAt, early, suspects⟩ := candidates candidate member
    · obtain ⟨listed, free, firstSeenAt, early, suspects⟩ := before.eligible candidate old
      exact ⟨List.mem_append_left _ listed, free, firstSeenAt, early,
        upsertOrphan_keeps ran suspects⟩
    · rw [named]
      refine ⟨List.mem_append_right _ (List.mem_singleton_self _), ?_, firstSeenAt, early, suspects⟩
      rw [← before.known]
      exact unowned

/-- One object of the page. -/
theorem Reconciling.object {keys : List ObjectKey} {object : InventoryObject}
    (before : Reconciling s storageNamespace observedAt eligibleBefore keys middle result)
    (ran : reconcileObject storageNamespace observedAt eligibleBefore result object middle =
      .ok (after, t)) :
    Reconciling s storageNamespace observedAt eligibleBefore (keys ++ [object.key]) t after := by
  obtain ⟨known, _, read, rest⟩ := bind_eq_ok.1 ran
  obtain ⟨rfl, rfl⟩ := select_eq_ok.1 read
  split at rest
  · rename_i owned
    obtain ⟨n, _, deleted, done⟩ := bind_eq_ok.1 rest
    obtain ⟨rfl, rfl⟩ := pure_eq_ok.1 done
    exact before.owned owned (execute_eq_ok.1 deleted)
  · rename_i unowned
    obtain ⟨contentLength, _, fits, rest⟩ := bind_eq_ok.1 rest
    obtain ⟨-, rfl⟩ := okOr_eq_ok.1 fits
    obtain ⟨n, seen, upserted, rest⟩ := bind_eq_ok.1 rest
    obtain ⟨firstSeenAt, _, read, rest⟩ := bind_eq_ok.1 rest
    obtain ⟨first, rfl⟩ := selectOr_eq_ok.1 read
    have free := Bool.eq_false_iff.2 unowned
    split at rest
    · rename_i early
      obtain ⟨rfl, rfl⟩ := pure_eq_ok.1 rest
      refine before.unowned free (execute_eq_ok.1 upserted) fun candidate member => ?_
      obtain old | new := List.mem_append.1 member
      · exact .inl old
      · rw [List.mem_singleton.1 new]
        exact .inr ⟨rfl, firstSeenAt, early, firstSeenAt_ok first⟩
    · obtain ⟨rfl, rfl⟩ := pure_eq_ok.1 rest
      exact before.unowned free (execute_eq_ok.1 upserted) fun candidate member => .inl member

theorem Reconciling.objects {objects : List InventoryObject} {keys : List ObjectKey}
    (before : Reconciling s storageNamespace observedAt eligibleBefore keys middle result)
    (ran : objects.foldlM (reconcileObject storageNamespace observedAt eligibleBefore) result middle =
      .ok (after, t)) :
    Reconciling s storageNamespace observedAt eligibleBefore
      (keys ++ objects.map InventoryObject.key) t after := by
  induction objects generalizing keys middle result with
  | nil =>
      obtain ⟨rfl, rfl⟩ := pure_eq_ok.1 ran
      rw [List.map_nil, List.append_nil]
      exact before
  | cons object objects ih =>
      rw [List.foldlM_cons] at ran
      obtain ⟨next, _, first, rest⟩ := bind_eq_ok.1 ran
      have both := ih (before.object first) rest
      rw [List.append_assoc] at both
      exact both

/-- **What a page that was reconciled has come to.** -/
theorem reconcileInventoryPage_ok {objects : List InventoryObject}
    {observedAt eligibleBefore : OffsetDateTime}
    (ran : reconcileInventoryPage storageNamespace objects observedAt eligibleBefore s =
      (.ok result, t)) :
    Reconciling s storageNamespace observedAt.unixTimestamp eligibleBefore.unixTimestamp
      (objects.map InventoryObject.key) t result := by
  obtain ⟨_, _, checked, rest⟩ := call_bind_eq_ok.1 ran
  obtain ⟨-, rfl⟩ := call_ensure_eq_ok.1 checked
  exact Reconciling.start.objects (commit_eq_ok.1 rest)

end Pages

/-! ## Operations -/

section Operations

variable {s t : SqliteStore}

/-- Nothing is newly suspected and no cursor moves. -/
def LeavesInventory (s t : SqliteStore) : Prop := Settles s t ∧ KeepsCursors s t

instance : Std.Refl LeavesInventory := ⟨fun s => ⟨Std.Refl.refl s, rfl⟩⟩

instance : IsTrans SqliteStore LeavesInventory :=
  ⟨fun s m t first second => ⟨IsTrans.trans s m t first.1 second.1, second.2.trans first.2⟩⟩

theorem leaves_of_same (orphans : t.orphanObjects = s.orphanObjects)
    (cursors : t.inventoryCursors = s.inventoryCursors) : LeavesInventory s t :=
  ⟨settles_of_same orphans, cursors⟩

/-- Only the inventory, the batches and the nonces are written aside of the lifecycle. -/
theorem Wrote.leavesInventory {K : List Kind} (wrote : Wrote K s t) (noAside : Kind.aside ∉ K) :
    LeavesInventory s t := by
  cases wrote with
  | insertUpload kind fresh ran =>
      obtain ⟨-, -, -, -, usage, counters, -, -, rfl⟩ := SqliteStore.insertUpload_ok ran
      exact leaves_of_same rfl rfl
  | updateUploads kind evolves ran =>
      obtain ⟨-, usage, counters, -, -, rfl⟩ := SqliteStore.updateUploads_ok ran
      exact leaves_of_same rfl rfl
  | deleteUploads kind tombstones ran =>
      obtain ⟨-, usage, counters, -, rfl⟩ := SqliteStore.deleteUploads_ok ran
      exact leaves_of_same rfl rfl
  | insertJob kind queued ran =>
      obtain ⟨-, -, -, counters, -, rfl⟩ := SqliteStore.insertJob_ok ran
      exact leaves_of_same rfl rfl
  | updateJobs kind ran =>
      obtain ⟨-, counters, -, rfl⟩ := SqliteStore.updateJobs_ok ran
      exact leaves_of_same rfl rfl
  | upsertDerivative kind ran =>
      obtain rfl | ⟨-, -, rfl⟩ := SqliteStore.upsertDerivative_ok ran
      · exact Std.Refl.refl _
      · exact leaves_of_same rfl rfl
  | insertSitePolicy kind bounded ran =>
      obtain ⟨-, rfl⟩ | ⟨-, -, rfl⟩ := SqliteStore.insertSitePolicy_ok ran
      · exact Std.Refl.refl _
      · exact leaves_of_same rfl rfl
  | nextClaim kind ran =>
      obtain ⟨-, -, rfl⟩ := SqliteStore.nextClaim_ok ran
      exact leaves_of_same rfl rfl
  | upsertTenantQueue kind ran =>
      obtain ⟨-, rfl⟩ := SqliteStore.upsertTenantQueue_ok ran
      exact leaves_of_same rfl rfl
  | aside kind same => exact absurd kind noAside

theorem moves_saveBatch_leaves (batch : UploadBatchReservation) (capacity : UploadCapacityPolicy) :
    Moves LeavesInventory (saveBatch batch capacity) := by
  refine moves_bind (moves_ensure _ _) fun _ => moves_bind (moves_okOr _ _) fun size => ?_
  refine moves_bind (moves_okOr _ _) fun count => moves_bind (moves_okOr _ _) fun sizeSql => ?_
  refine moves_commit (along_bind (along_selectOr _) fun allowed => ?_)
  refine along_bind (along_ensure _ _) fun _ => ?_
  refine along_bind (along_execute fun s n t ran => ?_) fun _ => along_forM (fun upload => ?_) _
  · obtain ⟨-, rfl⟩ := SqliteStore.insertUploadBatch_ok ran
    exact leaves_of_same rfl rfl
  · refine along_bind (along_selectOr _) fun row => ?_
    refine along_bind (along_execute fun s n t ran => ?_) fun _ => along_pure _
    obtain ⟨-, -, -, -, usage, counters, -, -, rfl⟩ := SqliteStore.insertUpload_ok ran
    exact leaves_of_same rfl rfl

theorem moves_consume_leaves (keyId nonce : String) (now expiresAt : OffsetDateTime) :
    Moves LeavesInventory (consume keyId nonce now expiresAt) := by
  refine moves_bind (moves_ensure _ _) fun _ => moves_commit ?_
  refine along_bind (along_execute fun s n t ran => ?_) fun _ => ?_
  · cases ran
    exact leaves_of_same rfl rfl
  refine along_bind (along_execute fun s n t ran => ?_) fun _ => along_ensure _ _
  rw [SqliteStore.insertNonceOrIgnore] at ran
  split at ran
  · cases ran
    exact Std.Refl.refl _
  · cases ran
    exact leaves_of_same rfl rfl

theorem moves_purgeTombstones_leaves (deletedBefore : OffsetDateTime) (limit : Nat) :
    Moves LeavesInventory (purgeTombstones deletedBefore limit) := by
  refine moves_bind (moves_ensure _ _) fun _ => moves_commit ?_
  refine along_bind (along_select _) fun selected => ?_
  refine along_bind (along_execute fun s n t ran => ?_) fun uploads => ?_
  · obtain ⟨-, usage, counters, -, rfl⟩ := SqliteStore.deleteUploads_ok ran
    exact leaves_of_same rfl rfl
  refine along_ite (fun _ => ?_) fun _ => along_pure _
  refine along_bind (along_select _) fun orphans => ?_
  exact along_bind (along_execute fun _ _ _ ran => deleteOrphans_settles ran) fun _ => along_pure _

/-- A failed deletion leaves what is suspected. -/
theorem failed_kept {hit : OrphanRow → Bool} (errorCode : String) (failedAt : OffsetDateTime) :
    ∀ row : OrphanRow, hit row = true →
      OrphanRow.state { row with
        deleteAttempts := row.deleteAttempts + 1
        lastErrorCode := some errorCode
        lastSeenAt := failedAt.unixTimestamp } = .suspected →
      row.state = .suspected ∧ OrphanRow.identity { row with
        deleteAttempts := row.deleteAttempts + 1
        lastErrorCode := some errorCode
        lastSeenAt := failedAt.unixTimestamp } = row.identity ∧
      OrphanRow.firstSeenAt { row with
        deleteAttempts := row.deleteAttempts + 1
        lastErrorCode := some errorCode
        lastSeenAt := failedAt.unixTimestamp } = row.firstSeenAt :=
  fun _ _ suspected => ⟨suspected, rfl, rfl⟩

/-- A call that moves the inventory is one of the two that do. -/
def Op.movesInventory : Op → Bool
  | .reconcileInventoryPage .. | .saveInventoryCursor .. => true
  | _ => false

/-- **Every other operation leaves the inventory.** -/
theorem run_settles (op : Op) (integrity : s.Integrity) (other : op.movesInventory = false) :
    LeavesInventory s (op.run s).2 := by
  by_cases aside : Kind.aside ∈ op.kinds
  · cases op with
    | reconcileInventoryPage | saveInventoryCursor => cases other
    | forgetOrphan storageNamespace key =>
        have moves : Moves LeavesInventory (forgetOrphan storageNamespace key) :=
          moves_bind (moves_autocommit fun _ _ _ ran => deleteOrphans_settles ran) fun _ =>
            moves_pure _
        exact moves s
    | completeOrphanDeletion storageNamespace key deletedAt =>
        have moves : Moves LeavesInventory (completeOrphanDeletion storageNamespace key deletedAt) :=
          moves_bind (moves_autocommit fun _ _ _ ran => updateOrphans_settles
            (fun _ _ suspected => by cases suspected) ran) fun _ => moves_ensure _ _
        exact moves s
    | failOrphanDeletion storageNamespace key errorCode failedAt =>
        have moves : Moves LeavesInventory
            (failOrphanDeletion storageNamespace key errorCode failedAt) :=
          moves_bind (moves_ensure _ _) fun _ => moves_bind (moves_autocommit fun _ _ _ ran =>
            updateOrphans_settles (failed_kept errorCode failedAt) ran) fun _ =>
              moves_ensure _ _
        exact moves s
    | saveBatch => exact moves_saveBatch_leaves _ _ s
    | consume => exact moves_consume_leaves _ _ _ _ s
    | purgeTombstones => exact moves_purgeTombstones_leaves _ _ s
    | _ => simp [Op.kinds] at aside
  · have effect : Effect op.kinds s (op.run s).2 := op.effect integrity
    generalize (op.run s).2 = t at effect ⊢
    induction effect with
    | refl => exact Std.Refl.refl _
    | tail _ wrote ih => exact IsTrans.trans _ _ _ ih (wrote.leavesInventory aside)

theorem answers_settles {op : Op} {ok : Bool} (answers : Answers op s ok t)
    (integrity : s.Integrity) (other : op.movesInventory = false) : LeavesInventory s t := by
  cases answers with
  | ran => exact run_settles op integrity other
  | refused => exact Std.Refl.refl _

/-- The cursor of a namespace is the one that was saved last. -/
theorem upsertInventoryCursor_saved {n : Nat} {row : InventoryCursorRow}
    (ran : SqliteStore.upsertInventoryCursor row s = .ok (n, t)) :
    t.orphanObjects = s.orphanObjects ∧ t.savedCursor row.storageNamespace = row.startAfter ∧
      ∀ other, other ≠ row.storageNamespace → t.savedCursor other = s.savedCursor other := by
  simp only [SqliteStore.upsertInventoryCursor, except_bind_eq_ok, require_eq_ok] at ran
  obtain ⟨-, -, written⟩ := ran
  split at written <;> rename_i present <;> cases written
  · -- the namespace has a row
    obtain ⟨old, member, same⟩ := List.any_eq_true.1 present
    have found : (s.inventoryCursors.find? fun other =>
        other.storageNamespace == row.storageNamespace).isSome = true :=
      List.find?_isSome.2 ⟨old, member, same⟩
    obtain ⟨first, here⟩ := Option.isSome_iff_exists.1 found
    refine ⟨rfl, ?_, fun other apart => ?_⟩
    · unfold SqliteStore.savedCursor
      rw [find?_updateWhere fun other hit => by rw [hit, beq_self_eq_true], here]
      have named : first.storageNamespace = row.storageNamespace := by simpa using List.find?_some here
      simp [named]
    · unfold SqliteStore.savedCursor
      rw [find?_updateWhere fun old hit => by rw [beq_iff_eq.1 hit]]
      cases look : s.inventoryCursors.find? fun old => old.storageNamespace == other with
      | none => rfl
      | some old =>
          have named : old.storageNamespace = other := by simpa using List.find?_some look
          simp [named, apart]
  · -- it is the namespace's first
    have absent : (s.inventoryCursors.find? fun other =>
        other.storageNamespace == row.storageNamespace) = none := by
      refine List.find?_eq_none.2 fun old member same => present ?_
      exact List.any_eq_true.2 ⟨old, member, same⟩
    refine ⟨rfl, ?_, fun other apart => ?_⟩
    · simp [SqliteStore.savedCursor, List.find?_append, absent]
    · simp [SqliteStore.savedCursor, List.find?_append, apart.symm]

/-- Saving a cursor saves it for its namespace and suspects nothing. -/
theorem saveInventoryCursor_ok {storageNamespace : StorageNamespace} {startAfter : Option String}
    {updatedAt : OffsetDateTime}
    (ran : saveInventoryCursor storageNamespace startAfter updatedAt s = (.ok (), t)) :
    (∀ cursor, startAfter = some cursor → validCursor storageNamespace cursor = true) ∧
      t.savedCursor storageNamespace = startAfter ∧
      (∀ other, other ≠ storageNamespace → t.savedCursor other = s.savedCursor other) ∧
      Settles s t := by
  obtain ⟨_, _, checked, rest⟩ := call_bind_eq_ok.1 ran
  obtain ⟨valid, rfl⟩ := call_ensure_eq_ok.1 checked
  obtain ⟨n, _, saved, done⟩ := call_bind_eq_ok.1 rest
  obtain ⟨-, rfl⟩ := Prod.mk.inj done
  obtain ⟨orphans, here, others⟩ := upsertInventoryCursor_saved (autocommit_eq_ok.1 saved)
  refine ⟨?_, here, others, settles_of_same orphans⟩
  rintro cursor rfl
  exact valid

/-- A cursor that is not saved leaves the store. -/
theorem saveInventoryCursor_atomic (storageNamespace : StorageNamespace)
    (startAfter : Option String) (updatedAt : OffsetDateTime) :
    Atomic (saveInventoryCursor storageNamespace startAfter updatedAt) :=
  atomic_bind (moves_ensure _ _) fun _ s e t failed => by
    obtain failed | ⟨n, m, -, done⟩ := call_bind_eq_error.1 failed
    · exact autocommit_error failed
    · cases done

/-- No call that saves a cursor suspects anything. -/
theorem saveInventoryCursor_settles {storageNamespace : StorageNamespace}
    {startAfter : Option String} {updatedAt : OffsetDateTime} {ok : Bool}
    (answers : Answers (.saveInventoryCursor storageNamespace startAfter updatedAt) s ok t) :
    Settles s t := by
  cases answers with
  | refused => exact Std.Refl.refl _
  | ran =>
      show Settles s (saveInventoryCursor storageNamespace startAfter updatedAt s).2
      cases ran : saveInventoryCursor storageNamespace startAfter updatedAt s with
      | mk reply t =>
          cases reply with
          | ok => exact (saveInventoryCursor_ok ran).2.2.2
          | error =>
              obtain rfl := saveInventoryCursor_atomic _ _ _ _ _ _ ran
              exact Std.Refl.refl _

/-- A page that is not reconciled leaves the store. -/
theorem reconcileInventoryPage_atomic (storageNamespace : StorageNamespace)
    (objects : List InventoryObject) (observedAt eligibleBefore : OffsetDateTime) :
    Atomic (reconcileInventoryPage storageNamespace objects observedAt eligibleBefore) :=
  atomic_bind (moves_ensure _ _) fun _ => atomic_commit _

/-- **Every operation but saving a cursor leaves the cursors.** -/
theorem answers_cursors {op : Op} {ok : Bool} (answers : Answers op s ok t)
    (integrity : s.Integrity)
    (other : ∀ storageNamespace startAfter updatedAt,
      op ≠ .saveInventoryCursor storageNamespace startAfter updatedAt) : KeepsCursors s t := by
  cases answers with
  | refused => rfl
  | ran =>
      cases moves : op.movesInventory with
      | false => exact (run_settles op integrity moves).2
      | true =>
          cases op with
          | saveInventoryCursor => exact absurd rfl (other _ _ _)
          | reconcileInventoryPage storageNamespace objects observedAt eligibleBefore =>
              show KeepsCursors s
                (reconcileInventoryPage storageNamespace objects observedAt eligibleBefore s).2
              cases ran : reconcileInventoryPage storageNamespace objects observedAt eligibleBefore s
                with
              | mk reply t =>
                  cases reply with
                  | ok => exact (reconcileInventoryPage_ok ran).cursors
                  | error =>
                      obtain rfl := reconcileInventoryPage_atomic _ _ _ _ _ _ _ ran
                      rfl
          | _ => cases moves

end Operations

end MediaBooster.Store
