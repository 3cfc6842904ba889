/-
# Lifecycle.Purge -- purging tombstones removes what it should and nothing else

A purge deletes upload tombstones that have been kept long enough, and orphan tombstones
with what is left of its limit.  `Purged` is the specification of one call: the first eligible
rows of each table go (`First`), jobs and derivatives go with their uploads, and the store that
is left is the old one without them (`SqliteStore.without`): the same usage, policies, batches,
nonces and cursors, and the operational counters of the rows that remain.

A call cannot fail on a store that is reached: no tombstone it picks has a policy's watermark
(`Eligible`), and the counters are what the tables hold, so that none of the triggers takes one
below zero.  That it takes no more orphans than it counts needs one row for each orphan, which
`run_orphansKeyed` proves of every run.

Calls until one returns zero are `PurgedUntilZero`: there is such a sequence for every limit, as
each call with rows left takes at least one, and it leaves the store without all eligible rows.
-/
import MediaBooster.Lifecycle.Cleanup
import MediaBooster.Quota.Counters
import MediaBooster.Theory.Selection

namespace MediaBooster.Lifecycle

set_option autoImplicit false

open MediaBooster.Domain MediaBooster.Store MediaBooster.Quota MediaBooster.Theory.Run
open MediaBooster.Theory.Table MediaBooster.Theory.Transaction MediaBooster.Theory.Selection

/-! ## One row for each orphan -/

/-- The primary key of `orphan_objects`. -/
def OrphansKeyed (store : SqliteStore) : Prop :=
  KeyedBy OrphanRow.identity store.orphanObjects

section Orphans

variable {n : Nat} {s t : SqliteStore}

theorem deleteOrphans_keyed {hit : OrphanRow → Bool}
    (ran : SqliteStore.deleteOrphans hit s = .ok (n, t)) : Keeps OrphansKeyed s t := by
  intro keyed
  obtain ⟨-, counters, -, -, rfl⟩ := SqliteStore.deleteOrphans_ok ran
  exact KeyedBy.deleteWhere keyed hit

theorem updateOrphans_keyed {hit : OrphanRow → Bool} {change : OrphanRow → OrphanRow}
    (ran : SqliteStore.updateOrphans hit change s = .ok (n, t))
    (kept : ∀ row, (change row).identity = row.identity) : Keeps OrphansKeyed s t := by
  intro keyed
  obtain ⟨-, counters, -, -, rfl⟩ := SqliteStore.updateOrphans_ok ran
  exact KeyedBy.updateWhere keyed kept

theorem deleteUploads_keyed {hit : UploadRow → Bool}
    (ran : SqliteStore.deleteUploads hit s = .ok (n, t)) : Keeps OrphansKeyed s t := by
  intro keyed
  obtain ⟨-, usage, counters, -, rfl⟩ := SqliteStore.deleteUploads_ok ran
  exact keyed

/-- An orphan is inserted only where no row has its key. -/
theorem upsertOrphan_keyed {storageNamespace : StorageNamespace} {key : ObjectKey}
    {contentLength observedAt : Int}
    (ran : SqliteStore.upsertOrphan storageNamespace key contentLength observedAt s = .ok (n, t)) :
    Keeps OrphansKeyed s t := by
  rw [SqliteStore.upsertOrphan] at ran
  split at ran
  · exact updateOrphans_keyed ran fun _ => rfl
  · rename_i missing
    intro keyed
    obtain ⟨counters, -, -, rfl⟩ := SqliteStore.insertOrphan_ok ran
    refine KeyedBy.concat keyed fun other there same => missing ?_
    rw [List.any_eq_true]
    refine ⟨other, there, ?_⟩
    have parts : other.storageNamespace = storageNamespace ∧ other.objectKey = key := by
      simpa [OrphanRow.identity, suspectedRow] using same
    simp [orphanAt, parts]

theorem along_reconcileObject_keyed (storageNamespace : StorageNamespace)
    (observedAt eligibleBefore : Int) (result : InventoryReconcileResult)
    (object : InventoryObject) :
    Along (Keeps OrphansKeyed)
      (reconcileObject storageNamespace observedAt eligibleBefore result object) := by
  refine along_bind (along_select _) fun known => ?_
  refine along_ite (fun _ => ?_) fun _ => ?_
  · exact along_bind (along_execute fun _ _ _ ran => deleteOrphans_keyed ran) fun _ => along_pure _
  · refine along_bind (along_okOr _ _) fun contentLength => ?_
    refine along_bind (along_execute fun _ _ _ ran => upsertOrphan_keyed ran) fun _ => ?_
    refine along_bind (along_selectOr _) fun firstSeenAt => ?_
    exact along_ite (fun _ => along_pure _) fun _ => along_pure _

/-- A statement that leaves the orphans alone. -/
theorem keeps_of_sameOrphans (same : t.orphanObjects = s.orphanObjects) :
    Keeps OrphansKeyed s t := by
  intro keyed
  rw [OrphansKeyed, same]
  exact keyed

/-- Only the inventory, the batches and the nonces are written aside of the lifecycle. -/
theorem wrote_sameOrphans {K : List Kind} (wrote : Wrote K s t) (noAside : Kind.aside ∉ K) :
    t.orphanObjects = s.orphanObjects := by
  cases wrote with
  | insertUpload kind fresh ran =>
      obtain ⟨-, -, -, -, usage, counters, -, -, rfl⟩ := SqliteStore.insertUpload_ok ran
      rfl
  | updateUploads kind evolves ran =>
      obtain ⟨-, usage, counters, -, -, rfl⟩ := SqliteStore.updateUploads_ok ran
      rfl
  | deleteUploads kind tombstones ran =>
      obtain ⟨-, usage, counters, -, rfl⟩ := SqliteStore.deleteUploads_ok ran
      rfl
  | insertJob kind queued ran =>
      obtain ⟨-, -, -, counters, -, rfl⟩ := SqliteStore.insertJob_ok ran
      rfl
  | updateJobs kind ran =>
      obtain ⟨-, counters, -, rfl⟩ := SqliteStore.updateJobs_ok ran
      rfl
  | upsertDerivative kind ran =>
      obtain rfl | ⟨-, -, rfl⟩ := SqliteStore.upsertDerivative_ok ran
      · rfl
      · rfl
  | insertSitePolicy kind bounded ran =>
      obtain ⟨-, rfl⟩ | ⟨-, -, rfl⟩ := SqliteStore.insertSitePolicy_ok ran
      · rfl
      · rfl
  | nextClaim kind ran =>
      obtain ⟨-, -, rfl⟩ := SqliteStore.nextClaim_ok ran
      rfl
  | upsertTenantQueue kind ran =>
      obtain ⟨-, rfl⟩ := SqliteStore.upsertTenantQueue_ok ran
      rfl
  | aside kind same => exact absurd kind noAside

theorem moves_saveBatch_keyed (batch : UploadBatchReservation) (capacity : UploadCapacityPolicy) :
    Moves (Keeps OrphansKeyed) (saveBatch batch capacity) := by
  refine moves_bind (moves_ensure _ _) fun _ => moves_bind (moves_okOr _ _) fun size => ?_
  refine moves_bind (moves_okOr _ _) fun count => moves_bind (moves_okOr _ _) fun sizeSql => ?_
  refine moves_commit (along_bind (along_selectOr _) fun allowed => ?_)
  refine along_bind (along_ensure _ _) fun _ => ?_
  refine along_bind (along_execute fun s n t ran => ?_) fun _ => along_forM (fun upload => ?_) _
  · obtain ⟨-, rfl⟩ := SqliteStore.insertUploadBatch_ok ran
    exact keeps_of_sameOrphans rfl
  · refine along_bind (along_selectOr _) fun row => ?_
    refine along_bind (along_execute fun s n t ran => ?_) fun _ => along_pure _
    obtain ⟨-, -, -, -, usage, counters, -, -, rfl⟩ := SqliteStore.insertUpload_ok ran
    exact keeps_of_sameOrphans rfl

theorem moves_consume_keyed (keyId nonce : String) (now expiresAt : OffsetDateTime) :
    Moves (Keeps OrphansKeyed) (consume keyId nonce now expiresAt) := by
  refine moves_bind (moves_ensure _ _) fun _ => moves_commit ?_
  refine along_bind (along_execute fun s n t ran => ?_) fun _ => ?_
  · cases ran
    exact keeps_of_sameOrphans rfl
  refine along_bind (along_execute fun s n t ran => ?_) fun _ => along_ensure _ _
  rw [SqliteStore.insertNonceOrIgnore] at ran
  split at ran
  · cases ran
    exact keeps_of_sameOrphans rfl
  · cases ran
    exact keeps_of_sameOrphans rfl

theorem moves_purgeTombstones_keyed (deletedBefore : OffsetDateTime) (limit : Nat) :
    Moves (Keeps OrphansKeyed) (purgeTombstones deletedBefore limit) := by
  refine moves_bind (moves_ensure _ _) fun _ => moves_commit ?_
  refine along_bind (along_select _) fun selected => ?_
  refine along_bind (along_execute fun _ _ _ ran => deleteUploads_keyed ran) fun uploads => ?_
  refine along_ite (fun _ => ?_) fun _ => along_pure _
  refine along_bind (along_select _) fun orphans => ?_
  exact along_bind (along_execute fun _ _ _ ran => deleteOrphans_keyed ran) fun _ => along_pure _

/-- **Every operation keeps the key of the orphans.** -/
theorem run_keeps_orphans (op : Op) (integrity : s.Integrity) :
    Keeps OrphansKeyed s (op.run s).2 := by
  by_cases aside : Kind.aside ∈ op.kinds
  · cases op with
    | reconcileInventoryPage storageNamespace objects observedAt eligibleBefore =>
        have moves : Moves (Keeps OrphansKeyed)
            (reconcileInventoryPage storageNamespace objects observedAt eligibleBefore) :=
          moves_bind (moves_ensure _ _) fun _ => moves_commit
            (along_foldlM (fun result object => along_reconcileObject_keyed _ _ _ result object) _ _)
        exact moves s
    | forgetOrphan storageNamespace key =>
        have moves : Moves (Keeps OrphansKeyed) (forgetOrphan storageNamespace key) :=
          moves_bind (moves_autocommit fun _ _ _ ran => deleteOrphans_keyed ran) fun _ =>
            moves_pure _
        exact moves s
    | completeOrphanDeletion storageNamespace key deletedAt =>
        have moves : Moves (Keeps OrphansKeyed)
            (completeOrphanDeletion storageNamespace key deletedAt) :=
          moves_bind (moves_autocommit fun _ _ _ ran =>
            updateOrphans_keyed ran fun _ => rfl) fun _ => moves_ensure _ _
        exact moves s
    | failOrphanDeletion storageNamespace key errorCode failedAt =>
        have moves : Moves (Keeps OrphansKeyed)
            (failOrphanDeletion storageNamespace key errorCode failedAt) :=
          moves_bind (moves_ensure _ _) fun _ => moves_bind (moves_autocommit fun _ _ _ ran =>
            updateOrphans_keyed ran fun _ => rfl) fun _ => moves_ensure _ _
        exact moves s
    | saveInventoryCursor storageNamespace startAfter updatedAt =>
        have moves : Moves (Keeps OrphansKeyed)
            (saveInventoryCursor storageNamespace startAfter updatedAt) := by
          refine moves_bind (moves_ensure _ _) fun _ => ?_
          refine moves_bind (moves_autocommit fun s n t ran => ?_) fun _ => moves_pure _
          obtain ⟨cursors, rfl⟩ := SqliteStore.upsertInventoryCursor_ok ran
          exact keeps_of_sameOrphans rfl
        exact moves s
    | saveBatch => exact moves_saveBatch_keyed _ _ s
    | consume => exact moves_consume_keyed _ _ _ _ s
    | purgeTombstones => exact moves_purgeTombstones_keyed _ _ s
    | _ => simp [Op.kinds] at aside
  · refine keeps_of_sameOrphans ?_
    have same : ∀ t, Effect op.kinds s t → t.orphanObjects = s.orphanObjects := by
      intro t effect
      induction effect with
      | refl => rfl
      | tail _ wrote ih => exact (wrote_sameOrphans wrote aside).trans ih
    exact same _ (op.effect integrity)

theorem answers_keeps_orphans {op : Op} {ok : Bool} (answers : Answers op s ok t)
    (integrity : s.Integrity) : Keeps OrphansKeyed s t := by
  cases answers with
  | ran => exact run_keeps_orphans op integrity
  | refused => exact fun keyed => keyed

theorem run_orphansKeyed {calls : List (Op × Bool)} {store : SqliteStore}
    (run : StoreRun calls store) : OrphansKeyed store := by
  have both : store.Integrity ∧ OrphansKeyed store :=
    Trace.keeps (P := fun store => store.Integrity ∧ OrphansKeyed store)
      (fun _ _ _ step kept =>
        ⟨step.integrity kept.1, answers_keeps_orphans step kept.1 kept.2⟩)
      run ⟨migrated_integrity, List.nodup_nil⟩
  exact both.2

end Orphans

/-! ## What a purge is for -/

/-- An upload tombstone whose retention has passed and that no policy refers to. -/
def Eligible (deletedBefore : Int) (store : SqliteStore) (row : UploadRow) : Prop :=
  row.state = .deleted ∧
    (∃ deletedAt, row.deletedAt = some deletedAt ∧ deletedAt ≤ deletedBefore) ∧
    ∀ policy ∈ store.sitePolicySnapshots, ∀ mark, policy.watermark = some mark →
      mark.uploadId ≠ row.id

/-- An orphan tombstone whose retention has passed. -/
def EligibleOrphan (deletedBefore : Int) (row : OrphanRow) : Prop :=
  row.state = .deleted ∧ ∃ deletedAt, row.deletedAt = some deletedAt ∧ deletedAt ≤ deletedBefore

/-- The store without some uploads, what hangs on them, and some orphans. -/
def SqliteStore.without (uploads : List UploadId) (orphans : List (StorageNamespace × ObjectKey))
    (store : SqliteStore) : SqliteStore :=
  let left : SqliteStore :=
    { store with
      uploads := deleteWhere (fun row => uploads.contains row.id) store.uploads
      jobs := deleteWhere (fun job => uploads.contains job.uploadId) store.jobs
      derivatives := deleteWhere (fun row => uploads.contains row.uploadId) store.derivatives
      orphanObjects := deleteWhere (fun row => orphans.contains row.identity) store.orphanObjects }
  { left with operationalCounters := recount left }

/-- What one purge does: the first eligible uploads go, and the first eligible orphans with
what they leave of the limit. -/
structure Purged (deletedBefore : Int) (limit count : Nat) (gone : List UploadRow)
    (goneOrphans : List OrphanRow) (before after : SqliteStore) : Prop where
  uploads : First tombstoneOrder limit (Eligible deletedBefore before) before.uploads gone
  orphans : First orphanTombstoneOrder (limit - gone.length) (EligibleOrphan deletedBefore)
    before.orphanObjects goneOrphans
  count : count = gone.length + goneOrphans.length
  left : after = SqliteStore.without (gone.map fun row => row.id)
    (goneOrphans.map OrphanRow.identity) before

/-- Purges of one cutoff that go on until one of them returns zero. -/
inductive PurgedUntilZero (deletedBefore : OffsetDateTime) : List Nat → SqliteStore → SqliteStore →
    Prop
  | zero {limit : Nat} {before after : SqliteStore}
      (ran : purgeTombstones deletedBefore limit before = (.ok 0, after)) :
      PurgedUntilZero deletedBefore [limit] before after
  | more {limit count : Nat} {limits : List Nat} {before middle after : SqliteStore}
      (ran : purgeTombstones deletedBefore limit before = (.ok (count + 1), middle))
      (rest : PurgedUntilZero deletedBefore limits middle after) :
      PurgedUntilZero deletedBefore (limit :: limits) before after

theorem purgeable_iff {deletedBefore : Int} {store : SqliteStore} (row : UploadRow) :
    store.purgeable deletedBefore row = true ↔ Eligible deletedBefore store row := by
  simp [SqliteStore.purgeable, Eligible, Option.any_eq_true, Option.all_eq_true, and_assoc]

theorem purgeableOrphan_iff {deletedBefore : Int} (row : OrphanRow) :
    purgeableOrphan deletedBefore row = true ↔ EligibleOrphan deletedBefore row := by
  simp [purgeableOrphan, EligibleOrphan, Option.any_eq_true]

/-! ## Leaving rows out -/

section Without

variable {store : SqliteStore}

/-- Leaving out more is leaving out both. -/
theorem without_without (uploads uploads' : List UploadId)
    (orphans orphans' : List (StorageNamespace × ObjectKey)) :
    SqliteStore.without uploads' orphans' (SqliteStore.without uploads orphans store) =
      SqliteStore.without (uploads' ++ uploads) (orphans' ++ orphans) store := by
  have twice : ∀ {β γ : Type} [BEq γ] (key : β → γ) (keys keys' : List γ)
      (rows : List β), deleteWhere (fun row => keys'.contains (key row))
        (deleteWhere (fun row => keys.contains (key row)) rows) =
      deleteWhere (fun row => (keys' ++ keys).contains (key row)) rows := by
    intro β γ _ key keys keys' rows
    rw [deleteWhere, deleteWhere, deleteWhere, List.filter_filter]
    refine List.filter_congr fun row _ => ?_
    rw [List.contains_append, Bool.not_or, Bool.and_comm]
  simp only [SqliteStore.without, twice]
  congr 1

end Without

/-! ## The statements of a purge cannot fail -/

section Statements

variable {store : SqliteStore}

/-- A tombstone is charged nowhere, so that deleting it refunds nothing. -/
theorem afterDelete_tombstones (rows : List UploadRow) (usage : StorageUsage)
    (tombstones : ∀ row ∈ rows, row.state = .deleted) :
    rows.foldlM StorageUsage.afterDelete usage = .ok usage := by
  induction rows with
  | nil => rfl
  | cons row rows ih =>
      have first : usage.afterDelete row = .ok usage := by
        rw [StorageUsage.afterDelete, if_neg (by simp [tombstones row List.mem_cons_self])]
      rw [List.foldlM_cons, first]
      exact ih fun other member => tombstones other (List.mem_cons_of_mem _ member)

/-- **Eligible uploads can be deleted**, with what hangs on them and nothing else. -/
theorem deleteUploads_eligible {deletedBefore : Int} {gone : List UploadRow}
    (tallied : Tallied store) (keyed : KeyedBy (fun row : UploadRow => row.id) store.uploads)
    (distinct : gone.Nodup)
    (among : ∀ row ∈ gone, row ∈ store.uploads ∧ Eligible deletedBefore store row) :
    SqliteStore.deleteUploads (fun row => (gone.map fun row => row.id).contains row.id) store =
      .ok (gone.length, SqliteStore.without (gone.map fun row => row.id) [] store) := by
  have there : ∀ row ∈ gone, row ∈ store.uploads := fun row member => (among row member).1
  have unreferenced : (store.sitePolicySnapshots.all fun policy => policy.watermark.all fun mark =>
      !(gone.map fun row => row.id).contains mark.uploadId) = true := by
    rw [List.all_eq_true]
    intro policy member
    rw [Option.all_eq_true]
    intro mark marked
    rw [Bool.not_eq_true', ← Bool.not_eq_true, List.contains_iff_mem]
    intro referenced
    obtain ⟨row, chosen, same⟩ := List.mem_map.1 referenced
    exact (among row chosen).2.2.2 policy member mark marked same.symm
  have refunded := afterDelete_tombstones (store.uploads.filter fun row =>
    (gone.map fun row => row.id).contains row.id) store.usage fun row member => by
      obtain ⟨stored, picked⟩ := List.mem_filter.1 member
      exact (among row ((picked_iff keyed there stored).1 picked)).2.1
  have counters : store.operationalCounters = total tallyUpload store.uploads +
    total tallyJob store.jobs + total tallyOrphan store.orphanObjects := tallied
  have orphans := total_tally_nonneg tallyOrphan_nonneg store.orphanObjects
  have jobs := total_tally_nonneg tallyJob_nonneg store.jobs
  have heldUploads := total_tally_filter_le tallyUpload_nonneg
    (fun row => (gone.map fun row => row.id).contains row.id) store.uploads
  have heldJobs := total_tally_filter_le tallyJob_nonneg
    (fun job => (gone.map fun row => row.id).contains job.uploadId) store.jobs
  have ran := deleteUploads_runs (any_picked there) unreferenced refunded
    (adjust_removes tallyUpload_nonneg (by
      rw [counters]
      exact (heldUploads.trans (le_add_of_nonneg_right jobs)).trans
        (le_add_of_nonneg_right orphans)))
    (adjust_removes tallyJob_nonneg (by
      rw [counters, le_sub_iff_add_le']
      exact (add_le_add heldUploads heldJobs).trans (le_add_of_nonneg_right orphans)))
  have recounted := (deleteUploads_tallied tallied ran).trans (tallies_eq_recount _)
  have noOrphans : deleteWhere (fun row => ([] : List (StorageNamespace × ObjectKey)).contains
      row.identity) store.orphanObjects = store.orphanObjects :=
    deleteWhere_of_untouched fun _ _ => rfl
  rw [ran, length_picked keyed distinct there]
  simp only [SqliteStore.without, noOrphans]
  rw [show store.operationalCounters - _ - _ = recount _ from recounted]
  rfl

/-- **Eligible orphans can be deleted**, and nothing else with them. -/
theorem deleteOrphans_eligible {gone : List OrphanRow} (tallied : Tallied store)
    (keyed : OrphansKeyed store) (distinct : gone.Nodup)
    (there : ∀ row ∈ gone, row ∈ store.orphanObjects) :
    SqliteStore.deleteOrphans
      (fun row => (gone.map OrphanRow.identity).contains row.identity) store =
        .ok (gone.length, SqliteStore.without [] (gone.map OrphanRow.identity) store) := by
  have counters : store.operationalCounters = total tallyUpload store.uploads +
    total tallyJob store.jobs + total tallyOrphan store.orphanObjects := tallied
  have held := total_tally_filter_le tallyOrphan_nonneg
    (fun row => (gone.map OrphanRow.identity).contains row.identity) store.orphanObjects
  have uploads := total_tally_nonneg tallyUpload_nonneg store.uploads
  have jobs := total_tally_nonneg tallyJob_nonneg store.jobs
  have fired := adjust_removes tallyOrphan_nonneg (show _ ≤ store.operationalCounters by
    rw [counters]
    exact held.trans (le_add_of_nonneg_left (add_nonneg uploads jobs)))
  have ran : SqliteStore.deleteOrphans
      (fun row => (gone.map OrphanRow.identity).contains row.identity) store =
      .ok (gone.length, { store with
        orphanObjects := deleteWhere
          (fun row => (gone.map OrphanRow.identity).contains row.identity) store.orphanObjects
        operationalCounters := store.operationalCounters - total tallyOrphan
          (store.orphanObjects.filter fun row =>
            (gone.map OrphanRow.identity).contains row.identity) }) := by
    simp only [SqliteStore.deleteOrphans, except_bind_eq_ok]
    refine ⟨_, fired, ?_⟩
    rw [length_picked keyed distinct there]
    rfl
  have recounted := (sameTables_tallied tallied (deleteOrphans_same ran)).trans
    (tallies_eq_recount _)
  have all : ∀ {β : Type} (rows : List β), deleteWhere (fun _ => false) rows = rows :=
    fun rows => deleteWhere_of_untouched fun _ _ => rfl
  rw [ran]
  simp only [SqliteStore.without, List.contains_nil, all]
  rw [show store.operationalCounters - _ = recount _ from recounted]
  rfl

end Statements

/-! ## One call -/

/-- What a purge needs of the store, and leaves of it. -/
structure Orderly (store : SqliteStore) : Prop where
  integrity : store.Integrity
  tallied : Tallied store
  keyed : OrphansKeyed store

theorem run_orderly {calls : List (Op × Bool)} {store : SqliteStore} (run : StoreRun calls store) :
    Orderly store :=
  ⟨StoreRun.integrity run, run_tallied run, run_orphansKeyed run⟩

section Calls

variable {deletedBefore : OffsetDateTime} {store store' : SqliteStore} {limit : Nat}

theorem purge_orderly {result : Except LifecycleRepositoryError Nat} (orderly : Orderly store)
    (ran : purgeTombstones deletedBefore limit store = (result, store')) : Orderly store' := by
  have effect := purgeTombstones_effect orderly.integrity ran
  refine ⟨effect.integrity orderly.integrity, ?_, ?_⟩
  · exact effect.keeps (fun _ _ wrote => wrote_tallied wrote) orderly.tallied
  · have kept := moves_purgeTombstones_keyed deletedBefore limit store orderly.keyed
    rw [ran] at kept
    exact kept

/-- A limit out of bounds is refused. -/
theorem purge_refused (invalid : ¬ (0 < limit ∧ limit ≤ 1000)) (store : SqliteStore) :
    purgeTombstones deletedBefore limit store =
      (.error (.text "tombstone purge limit is invalid"), store) := by
  have refused : (limit != 0 && decide (limit ≤ 1000)) = false := by
    rw [Bool.and_eq_false_iff]
    by_cases zero : limit = 0
    · exact .inl (by simp [zero])
    · exact .inr (by simp only [decide_eq_false_iff_not]; omega)
  rw [purgeTombstones, refused]
  rfl

/-- **A purge runs**: within its bounds a call succeeds and does what it is for. -/
theorem purge_runs (deletedBefore : OffsetDateTime) (orderly : Orderly store) (positive : 0 < limit) (bounded : limit ≤ 1000) :
    ∃ count gone goneOrphans after,
      purgeTombstones deletedBefore limit store = (.ok count, after) ∧
        Purged deletedBefore.unixTimestamp limit count gone goneOrphans store after := by
  set gone := firstOf tombstoneOrder limit (store.purgeable deletedBefore.unixTimestamp)
    store.uploads with goneIs
  set goneOrphans := firstOf orphanTombstoneOrder (limit - gone.length)
    (purgeableOrphan deletedBefore.unixTimestamp) store.orphanObjects with goneOrphansIs
  have uploads : First tombstoneOrder limit (Eligible deletedBefore.unixTimestamp store)
      store.uploads gone :=
    firstOf_first purgeable_iff (List.Nodup.of_map _ orderly.integrity.uploadIds)
  have orphans : First orphanTombstoneOrder (limit - gone.length)
      (EligibleOrphan deletedBefore.unixTimestamp) store.orphanObjects goneOrphans :=
    firstOf_first purgeableOrphan_iff (List.Nodup.of_map _ orderly.keyed)
  have deleted := deleteUploads_eligible orderly.tallied orderly.integrity.uploadIds
    uploads.distinct uploads.among
  have noOrphans : (SqliteStore.without (gone.map fun row => row.id) [] store).orphanObjects =
      store.orphanObjects := deleteWhere_of_untouched fun _ _ => rfl
  refine ⟨gone.length + goneOrphans.length, gone, goneOrphans, _, ?_, uploads, orphans, rfl, rfl⟩
  have valid : (limit != 0 && decide (limit ≤ 1000)) = true := by
    rw [Bool.and_eq_true, bne_iff_ne, decide_eq_true_iff]
    omega
  simp only [purgeTombstones, call_bind_eq_ok, call_ensure_eq_ok, commit_eq_ok, purgeTransaction,
    bind_eq_ok, select_eq_ok, execute_eq_ok]
  refine ⟨(), store, ⟨valid, rfl⟩, _, store, ⟨rfl, rfl⟩, gone.length, _, deleted, ?_⟩
  by_cases room : 0 < limit - gone.length
  · rw [if_pos room]
    simp only [purgeRemaining, bind_eq_ok, select_eq_ok, execute_eq_ok, pure_eq_ok]
    have removed := deleteOrphans_eligible (deleteUploads_tallied orderly.tallied deleted)
      (deleteUploads_keyed deleted orderly.keyed) orphans.distinct
      (fun row member => noOrphans.symm ▸ (orphans.among row member).1)
    rw [without_without, List.nil_append, List.append_nil] at removed
    refine ⟨_, _, ⟨?_, rfl⟩, _, _, removed, rfl, rfl⟩
    rw [SqliteStore.purgeOrphans, noOrphans, goneOrphansIs]
    rfl
  · rw [if_neg room, pure_eq_ok]
    have none_ : goneOrphans = [] := by
      rw [goneOrphansIs, firstOf, Nat.eq_zero_of_not_pos room, List.take_zero]
    rw [none_]
    exact ⟨rfl, rfl⟩

/-- A call that returns ran within its bounds. -/
theorem purge_valid {count : Nat}
    (ran : purgeTombstones deletedBefore limit store = (.ok count, store')) :
    0 < limit ∧ limit ≤ 1000 := by
  by_contra invalid
  rw [purge_refused invalid store] at ran
  cases ran

theorem purge_purged {count : Nat} (orderly : Orderly store)
    (ran : purgeTombstones deletedBefore limit store = (.ok count, store')) :
    ∃ gone goneOrphans,
      Purged deletedBefore.unixTimestamp limit count gone goneOrphans store store' := by
  obtain ⟨positive, bounded⟩ := purge_valid ran
  obtain ⟨count', gone, goneOrphans, after, ran', purged⟩ := purge_runs deletedBefore orderly positive bounded
  rw [ran] at ran'
  cases ran'
  exact ⟨gone, goneOrphans, purged⟩

/-! ## Calls until zero -/

/-- How many rows of a store are eligible. -/
def pending (deletedBefore : Int) (store : SqliteStore) : Nat :=
  (store.uploads.filter (store.purgeable deletedBefore)).length +
    (store.orphanObjects.filter (purgeableOrphan deletedBefore)).length

theorem Purged.goneId_iff {cutoff : Int} {count : Nat} {gone : List UploadRow}
    {goneOrphans : List OrphanRow} (orderly : Orderly store)
    (purged : Purged cutoff limit count gone goneOrphans store store') {row : UploadRow}
    (there : row ∈ store.uploads) :
    (gone.map fun row => row.id).contains row.id = true ↔ row ∈ gone :=
  picked_iff orderly.integrity.uploadIds (fun other member => (purged.uploads.among other member).1)
    there

theorem Purged.goneOrphan_iff {cutoff : Int} {count : Nat} {gone : List UploadRow}
    {goneOrphans : List OrphanRow} (orderly : Orderly store)
    (purged : Purged cutoff limit count gone goneOrphans store store') {row : OrphanRow}
    (there : row ∈ store.orphanObjects) :
    (goneOrphans.map OrphanRow.identity).contains row.identity = true ↔ row ∈ goneOrphans :=
  picked_iff orderly.keyed (fun other member => (purged.orphans.among other member).1) there

/-- Each call takes its count off what is pending. -/
theorem Purged.pending_eq {cutoff : Int} {count : Nat} {gone : List UploadRow}
    {goneOrphans : List OrphanRow} (orderly : Orderly store)
    (purged : Purged cutoff limit count gone goneOrphans store store') :
    pending cutoff store' + count = pending cutoff store := by
  have uploads := purged.uploads.pending purgeable_iff
    (List.Nodup.of_map _ orderly.integrity.uploadIds) fun row there =>
      purged.goneId_iff orderly there
  have orphans := purged.orphans.pending purgeableOrphan_iff
    (List.Nodup.of_map _ orderly.keyed) fun row there => purged.goneOrphan_iff orderly there
  rw [purged.count, purged.left, pending, pending, ← uploads, ← orphans]
  exact Nat.add_add_add_comm _ _ _ _

/-- **A call that removes nothing had nothing to remove.** -/
theorem Purged.none_eligible {cutoff : Int} {gone : List UploadRow}
    {goneOrphans : List OrphanRow} (positive : 0 < limit)
    (purged : Purged cutoff limit 0 gone goneOrphans store store') :
    gone = [] ∧ goneOrphans = [] ∧ (∀ row ∈ store.uploads, ¬ Eligible cutoff store row) ∧
      ∀ row ∈ store.orphanObjects, ¬ EligibleOrphan cutoff row := by
  have count := purged.count
  have noGone : gone = [] := List.eq_nil_of_length_eq_zero (by omega)
  have noOrphans : goneOrphans = [] := List.eq_nil_of_length_eq_zero (by omega)
  have uploads := purged.uploads
  have orphans := purged.orphans
  rw [noGone] at uploads
  rw [noGone, noOrphans, List.length_nil, Nat.sub_zero] at orphans
  exact ⟨noGone, noOrphans, uploads.eq_nil positive, orphans.eq_nil positive⟩

/-- Calls of one limit come to an end. -/
theorem purged_until_zero_exists (positive : 0 < limit) (bounded : limit ≤ 1000) :
    ∀ left (store : SqliteStore), Orderly store →
      pending deletedBefore.unixTimestamp store = left →
        ∃ calls after, PurgedUntilZero deletedBefore (List.replicate calls limit) store after := by
  intro left
  induction left using Nat.strong_induction_on with
  | _ left ih =>
      intro store orderly pendingIs
      obtain ⟨count, gone, goneOrphans, after, ran, purged⟩ :=
        purge_runs deletedBefore orderly positive bounded
      have fewer := purged.pending_eq orderly
      cases count with
      | zero => exact ⟨1, after, .zero ran⟩
      | succ count =>
          obtain ⟨calls, last, rest⟩ := ih (pending deletedBefore.unixTimestamp after) (by omega)
            after (purge_orderly orderly ran) rfl
          exact ⟨calls + 1, last, .more ran rest⟩

/-- **Calls until zero remove the eligible rows, and nothing but them.** -/
theorem purged_until_zero_left {limits : List Nat}
    (purges : PurgedUntilZero deletedBefore limits store store') (orderly : Orderly store) :
    ∃ (gone : List UploadRow) (goneOrphans : List OrphanRow),
      (∀ row, row ∈ gone ↔ row ∈ store.uploads ∧ Eligible deletedBefore.unixTimestamp store row) ∧
      (∀ row, row ∈ goneOrphans ↔
        row ∈ store.orphanObjects ∧ EligibleOrphan deletedBefore.unixTimestamp row) ∧
      store' = SqliteStore.without (gone.map fun row => row.id)
        (goneOrphans.map OrphanRow.identity) store := by
  induction purges with
  | zero ran =>
      obtain ⟨gone, goneOrphans, purged⟩ := purge_purged orderly ran
      obtain ⟨rfl, rfl, uploads, orphans⟩ := purged.none_eligible (purge_valid ran).1
      refine ⟨[], [], fun row => ?_, fun row => ?_, purged.left⟩
      · simpa using uploads row
      · simpa using orphans row
  | @more limit count limits before middle after ran rest ih =>
      obtain ⟨first, firstOrphans, purged⟩ := purge_purged orderly ran
      obtain ⟨gone, goneOrphans, uploads, orphans, left⟩ := ih (purge_orderly orderly ran)
      refine ⟨gone ++ first, goneOrphans ++ firstOrphans, fun row => ?_, fun row => ?_, ?_⟩
      · have middleIs : row ∈ middle.uploads ↔ row ∈ before.uploads ∧ row ∉ first := by
          rw [purged.left]
          show row ∈ deleteWhere _ before.uploads ↔ _
          rw [mem_deleteWhere]
          refine and_congr_right fun there => ?_
          rw [← Bool.not_eq_true, purged.goneId_iff orderly there]
        have same : Eligible deletedBefore.unixTimestamp middle row ↔
            Eligible deletedBefore.unixTimestamp before row := by
          rw [purged.left]
          rfl
        rw [List.mem_append, uploads, middleIs, same]
        constructor
        · rintro (⟨⟨there, -⟩, eligible⟩ | chosen)
          · exact ⟨there, eligible⟩
          · exact purged.uploads.among row chosen
        · rintro ⟨there, eligible⟩
          by_cases chosen : row ∈ first
          · exact .inr chosen
          · exact .inl ⟨⟨there, chosen⟩, eligible⟩
      · have middleIs : row ∈ middle.orphanObjects ↔
            row ∈ before.orphanObjects ∧ row ∉ firstOrphans := by
          rw [purged.left]
          show row ∈ deleteWhere _ before.orphanObjects ↔ _
          rw [mem_deleteWhere]
          refine and_congr_right fun there => ?_
          rw [← Bool.not_eq_true, purged.goneOrphan_iff orderly there]
        rw [List.mem_append, orphans, middleIs]
        constructor
        · rintro (⟨⟨there, -⟩, eligible⟩ | chosen)
          · exact ⟨there, eligible⟩
          · exact purged.orphans.among row chosen
        · rintro ⟨there, eligible⟩
          by_cases chosen : row ∈ firstOrphans
          · exact .inr chosen
          · exact .inl ⟨⟨there, chosen⟩, eligible⟩
      · rw [left, purged.left, without_without, List.map_append, List.map_append]

end Calls

/-! ## Exactness -/

/-- **Purges are exact.**  Whatever the cutoff and the limit, a call that answers removes at most
`limit` rows, and these are the first eligible ones; what it leaves is the store without them and
the operational counters of what is left; a call that fails, as one with a limit out of bounds
does, changes nothing.  Calls until zero end, and they remove all eligible rows and no other. -/
theorem purge_exact {calls : List (Op × Bool)} {store : SqliteStore} (run : StoreRun calls store)
    (deletedBefore : OffsetDateTime) :
    (∀ limit result after, Replies (purgeTombstones deletedBefore limit) store result after →
      (∃ error, result = .error error ∧ after = store) ∨
        ∃ count gone goneOrphans, result = .ok count ∧ count ≤ limit ∧
          Purged deletedBefore.unixTimestamp limit count gone goneOrphans store after) ∧
    (∀ limit, (∃ count after, purgeTombstones deletedBefore limit store = (.ok count, after)) ↔
      0 < limit ∧ limit ≤ 1000) ∧
    (∀ limit, 0 < limit → limit ≤ 1000 → ∃ repeats after,
      PurgedUntilZero deletedBefore (List.replicate repeats limit) store after) ∧
    ∀ limits after, PurgedUntilZero deletedBefore limits store after →
      ∃ (gone : List UploadRow) (goneOrphans : List OrphanRow),
        (∀ row, row ∈ gone ↔
          row ∈ store.uploads ∧ Eligible deletedBefore.unixTimestamp store row) ∧
        (∀ row, row ∈ goneOrphans ↔
          row ∈ store.orphanObjects ∧ EligibleOrphan deletedBefore.unixTimestamp row) ∧
        after = SqliteStore.without (gone.map fun row => row.id)
          (goneOrphans.map OrphanRow.identity) store := by
  have orderly := run_orderly run
  refine ⟨?_, ?_, ?_, fun limits after purges => purged_until_zero_left purges orderly⟩
  · intro limit result after replies
    cases replies with
    | refused => exact .inl ⟨_, rfl, rfl⟩
    | ran ran =>
        cases result with
        | error error =>
            exact .inl ⟨error, rfl, atomic_bind (moves_ensure _ _) (fun _ => atomic_commit _) store
              error after ran⟩
        | ok count =>
            obtain ⟨gone, goneOrphans, purged⟩ := purge_purged orderly ran
            refine .inr ⟨count, gone, goneOrphans, rfl, ?_, purged⟩
            have uploads := purged.uploads.bounded
            have orphans := purged.orphans.bounded
            rw [purged.count]
            omega
  · intro limit
    constructor
    · rintro ⟨count, after, ran⟩
      exact purge_valid ran
    · rintro ⟨positive, bounded⟩
      obtain ⟨count, gone, goneOrphans, after, ran, -⟩ := purge_runs deletedBefore orderly positive bounded
      exact ⟨count, after, ran⟩
  · intro limit positive bounded
    exact purged_until_zero_exists positive bounded _ store orderly rfl

/-- The sample reservation is deleted on request. -/
def deletion : List Op :=
  [.saveBatch sampleBatch sampleCapacity,
   .requestDeletion "g5" sampleUploadId (sampleTime 10),
   .claimCleanupBatch "sweeper" (sampleTime 20) (sampleTime 10) (sampleTime 10)
     oneAttempt.leaseFor oneAttempt.batchSize oneAttempt.maxAttempts,
   .completeCleanup sampleUploadId "sweeper" (sampleTime 30)]

/-- The store that holds its tombstone. -/
def tombstoneSample : SqliteStore := playAll .migrated deletion

theorem tombstoneSample_run : StoreRun (played .migrated deletion) tombstoneSample :=
  playAll_trace .migrated deletion

/-- **A purge writes one more row**: the counters row, which holds one tombstone before the call
and none after it. -/
theorem purge_moves_counters :
    StoreRun (played .migrated deletion) tombstoneSample ∧
      (purgeTombstones (sampleTime 40) 1 tombstoneSample).1 = .ok 1 ∧
      tombstoneSample.operationalCounters .uploadTombstones = 1 ∧
      (purgeTombstones (sampleTime 40) 1 tombstoneSample).2.operationalCounters
        .uploadTombstones = 0 :=
  ⟨tombstoneSample_run, by decide, by decide, by decide⟩

theorem purge_exact_sample :
    ∃ repeats after, PurgedUntilZero (sampleTime 40) (List.replicate repeats 1) tombstoneSample after :=
  (purge_exact tombstoneSample_run (sampleTime 40)).2.2.1 1 (by decide) (by decide)

end MediaBooster.Lifecycle
