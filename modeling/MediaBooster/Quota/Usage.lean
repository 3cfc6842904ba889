/-
# Quota.Usage -- the storage usage is exact

The usage rows are written by triggers only.  `Metered` says that they read exactly
what the stored uploads ought to be charged, and that no upload has a negative size.

* `wrote_metered`: every statement the repositories execute keeps it, so every
  operation and every run does (`run_metered`).
* `chargedOnce_of_advances`: a charge moves once, from the upload's size to zero.
* `usage_exact`: in every run, the counters are the sums of the expected sizes of the
  undeleted uploads, and at every statement of every operation they stay between zero
  and `i64::MAX`; so the sums of the triggers neither fail nor leave the integers.
-/
import Mathlib.Algebra.Order.BigOperators.Group.List
import Mathlib.Algebra.Order.Group.Int
import Mathlib.Algebra.Order.Pi
import MediaBooster.Store.Operations

namespace MediaBooster.Quota

set_option autoImplicit false

open MediaBooster.Domain MediaBooster.Store MediaBooster.Theory.Run MediaBooster.Theory.Table
open MediaBooster.Theory.Transaction

/-! ## Charges -/

/-- No upload has a negative size. -/
def Sized (rows : List UploadRow) : Prop := ∀ row ∈ rows, 0 ≤ row.expectedSizeBytes

theorem total_charge_nonneg {rows : List UploadRow} (sized : Sized rows) :
    0 ≤ total charge rows := by
  refine List.sum_nonneg fun weight member => ?_
  obtain ⟨row, there, rfl⟩ := List.mem_map.1 member
  exact fun scope => charge_nonneg (sized row there) scope

/-- Some of the rows are charged no more than all of them. -/
theorem total_charge_filter_le {rows : List UploadRow} (sized : Sized rows)
    (hit : UploadRow → Bool) : total charge (rows.filter hit) ≤ total charge rows := by
  have rest : Sized (deleteWhere hit rows) := fun row member => sized row (mem_deleteWhere.1 member).1
  have nonneg := total_charge_nonneg rest
  rw [total_deleteWhere] at nonneg
  exact sub_nonneg.1 nonneg

/-- An upload's charge only ever goes from its size to zero. -/
theorem charge_evolves {before after : UploadRow} (evolves : Evolves before after) :
    charge after = charge before ∨ (before.state ≠ .deleted ∧ after.state = .deleted) := by
  by_cases deleted : after.state = .deleted
  · by_cases already : before.state = .deleted
    · exact .inl (by rw [charge_of_deleted deleted, charge_of_deleted already])
    · exact .inr ⟨already, deleted⟩
  · have live : before.state ≠ .deleted := by
      intro gone
      have chain := evolves.chain
      rw [gone] at chain
      exact deleted chain.from_deleted
    have size : after.expectedSizeBytes = before.expectedSizeBytes :=
      congrArg UploadReserved.expectedSizeBytes evolves.reserved
    have tenantId : after.tenantId = before.tenantId :=
      congrArg UploadReserved.tenantId evolves.reserved
    exact .inl (by rw [charge_of_live deleted, charge_of_live live, size, tenantId])

theorem charge_evolves_le {before after : UploadRow} (evolves : Evolves before after)
    (sized : 0 ≤ before.expectedSizeBytes) : charge after ≤ charge before := by
  obtain same | ⟨-, deleted⟩ := charge_evolves evolves
  · exact le_of_eq same
  · rw [charge_of_deleted deleted]
    exact fun scope => charge_nonneg sized scope

/-! ## Statements keep the counters exact -/

/-- The usage rows read what the uploads are charged. -/
structure Metered (store : SqliteStore) : Prop where
  exact : store.usage.Exact store.uploads
  sized : Sized store.uploads

theorem migrated_metered : Metered SqliteStore.migrated where
  exact :=
    { keyed := List.nodup_nil
      reading := by
        funext scope
        cases scope <;> rfl }
  sized := fun _ member => nomatch member

section Statements

variable {s t : SqliteStore} {n : Nat}

theorem insertUpload_metered {row : UploadRow} (metered : Metered s)
    (ran : SqliteStore.insertUpload row s = .ok (n, t)) : Metered t := by
  obtain ⟨-, -, -, checked, usage, counters, fired, -, stored⟩ := SqliteStore.insertUpload_ok ran
  obtain ⟨reading, keyed⟩ := StorageUsage.afterInsert_reading metered.exact.keyed fired
  have nonneg : 0 ≤ row.expectedSizeBytes := by
    simp only [uploadChecks, Bool.and_eq_true, decide_eq_true_eq] at checked
    exact checked.1.1.1
  subst stored
  refine ⟨⟨keyed, ?_⟩, ?_⟩
  · change usage.reading = total charge (s.uploads ++ [row])
    rw [reading, metered.exact.reading, total_append, total_cons, total_nil, add_zero]
  · intro other member
    rcases List.mem_append.1 member with old | new
    · exact metered.sized other old
    · rw [List.mem_singleton.1 new]
      exact nonneg

/-- What the update trigger needs of the rows it is still to be fired for. -/
def Refundable (usage : StorageUsage) (pairs : List (UploadRow × UploadRow)) : Prop :=
  usage.Keyed ∧
    (∀ pair ∈ pairs, 0 ≤ pair.1.expectedSizeBytes ∧ 0 ≤ pair.2.expectedSizeBytes) ∧
    total (fun pair => charge pair.1) pairs ≤ usage.reading

theorem total_pairs_nonneg {pairs : List (UploadRow × UploadRow)}
    (sized : ∀ pair ∈ pairs, 0 ≤ pair.1.expectedSizeBytes) :
    0 ≤ total (fun pair => charge pair.1) pairs := by
  refine List.sum_nonneg fun weight member => ?_
  obtain ⟨pair, there, rfl⟩ := List.mem_map.1 member
  exact fun scope => charge_nonneg (sized pair there) scope

theorem afterUpdate_refundable {usage usage' : StorageUsage} {pair : UploadRow × UploadRow}
    {rest : List (UploadRow × UploadRow)} (refundable : Refundable usage (pair :: rest))
    (ran : usage.afterUpdate pair.1 pair.2 = .ok usage') :
    usage'.reading = usage.reading + (charge pair.2 - charge pair.1) ∧ Refundable usage' rest := by
  obtain ⟨keyed, sized, held⟩ := refundable
  have sizedRest : ∀ other ∈ rest, 0 ≤ other.1.expectedSizeBytes ∧ 0 ≤ other.2.expectedSizeBytes :=
    fun other member => sized other (List.mem_cons_of_mem _ member)
  have restNonneg := total_pairs_nonneg fun other member => (sizedRest other member).1
  rw [total_cons] at held
  have heldPair : charge pair.1 ≤ usage.reading := (le_add_of_nonneg_right restNonneg).trans held
  obtain ⟨reading, keyed'⟩ := StorageUsage.afterUpdate_reading keyed
    (sized pair List.mem_cons_self).1 heldPair ran
  refine ⟨reading, keyed', sizedRest, ?_⟩
  have newNonneg : 0 ≤ charge pair.2 :=
    fun scope => charge_nonneg (sized pair List.mem_cons_self).2 scope
  calc total (fun pair => charge pair.1) rest
      ≤ usage.reading - charge pair.1 := le_sub_iff_add_le'.2 held
    _ ≤ usage.reading - charge pair.1 + charge pair.2 := le_add_of_nonneg_right newNonneg
    _ = usage'.reading := by
        rw [reading]
        abel

theorem updateUploads_metered {hit : UploadRow → Bool} {set : UploadProgress → UploadProgress}
    (metered : Metered s) (ran : SqliteStore.updateUploads hit set s = .ok (n, t)) :
    Metered t := by
  obtain ⟨-, usage, counters, fired, -, stored⟩ := SqliteStore.updateUploads_ok ran
  have old : total (fun pair : UploadRow × UploadRow => charge pair.1)
      (touched hit (UploadRow.assign set) s.uploads) = total charge (s.uploads.filter hit) := by
    rw [total, total, touched, List.map_map]
    rfl
  have refundable : Refundable s.usage (touched hit (UploadRow.assign set) s.uploads) := by
    refine ⟨metered.exact.keyed, fun pair member => ?_, ?_⟩
    · obtain ⟨row, there, -, rfl⟩ := mem_touched.1 member
      exact ⟨metered.sized row there, metered.sized row there⟩
    · rw [old, metered.exact.reading]
      exact total_charge_filter_le metered.sized hit
  obtain ⟨reading, keyed, -⟩ := foldlM_reading StorageUsage.reading
    (fun pair : UploadRow × UploadRow => charge pair.2 - charge pair.1) Refundable
    (fun _ _ _ _ sound ran => afterUpdate_refundable sound ran) refundable fired
  subst stored
  refine ⟨⟨keyed, ?_⟩, ?_⟩
  · change usage.reading = total charge (updateWhere hit (UploadRow.assign set) s.uploads)
    rw [reading, metered.exact.reading, total_updateWhere]
  · intro row member
    obtain ⟨before, there, result⟩ := mem_updateWhere.1 member
    have nonneg := metered.sized before there
    rw [result]
    split
    · exact nonneg
    · exact nonneg

/-- What the delete trigger needs of the rows it is still to be fired for. -/
def Held (usage : StorageUsage) (rows : List UploadRow) : Prop :=
  usage.Keyed ∧ Sized rows ∧ total charge rows ≤ usage.reading

theorem deleteUploads_metered {hit : UploadRow → Bool} (metered : Metered s)
    (ran : SqliteStore.deleteUploads hit s = .ok (n, t)) : Metered t := by
  obtain ⟨-, usage, counters, fired, stored⟩ := SqliteStore.deleteUploads_ok ran
  have held : Held s.usage (s.uploads.filter hit) := by
    refine ⟨metered.exact.keyed, fun row member => metered.sized row (List.mem_filter.1 member).1, ?_⟩
    rw [metered.exact.reading]
    exact total_charge_filter_le metered.sized hit
  obtain ⟨reading, keyed, -⟩ := foldlM_reading StorageUsage.reading (fun row => -charge row) Held
    (fun usage row rest usage' sound ran => by
      obtain ⟨keyed, sized, held⟩ := sound
      have sizedRest : Sized rest := fun other member => sized other (List.mem_cons_of_mem _ member)
      rw [total_cons] at held
      have heldRow := (le_add_of_nonneg_right (total_charge_nonneg sizedRest)).trans held
      obtain ⟨reading, keyed'⟩ := StorageUsage.afterDelete_reading keyed
        (sized row List.mem_cons_self) heldRow ran
      refine ⟨reading, keyed', sizedRest, ?_⟩
      rw [reading, ← sub_eq_add_neg]
      exact le_sub_iff_add_le'.2 held) held fired
  subst stored
  refine ⟨⟨keyed, ?_⟩, fun row member => metered.sized row (mem_deleteWhere.1 member).1⟩
  change usage.reading = total charge (deleteWhere hit s.uploads)
  rw [reading, metered.exact.reading, total_deleteWhere, total_neg, sub_eq_add_neg]

/-- **Every statement keeps the counters exact.** -/
theorem wrote_metered {K : List Kind} (wrote : Wrote K s t) (metered : Metered s) : Metered t := by
  have same : t.usage = s.usage → t.uploads = s.uploads → Metered t := by
    intro usage uploads
    refine ⟨?_, ?_⟩
    · rw [usage, uploads]
      exact metered.exact
    · rw [uploads]
      exact metered.sized
  cases wrote with
  | insertUpload kind fresh ran => exact insertUpload_metered metered ran
  | updateUploads kind evolves ran => exact updateUploads_metered metered ran
  | deleteUploads kind tombstones ran => exact deleteUploads_metered metered ran
  | insertJob kind queued ran =>
      obtain ⟨-, -, -, counters, -, stored⟩ := SqliteStore.insertJob_ok ran
      exact same (by rw [stored]) (by rw [stored])
  | updateJobs kind ran =>
      obtain ⟨-, counters, -, stored⟩ := SqliteStore.updateJobs_ok ran
      exact same (by rw [stored]) (by rw [stored])
  | upsertDerivative kind ran =>
      obtain stored | ⟨-, -, stored⟩ := SqliteStore.upsertDerivative_ok ran
      · exact same (by rw [stored]) (by rw [stored])
      · exact same (by rw [stored]) (by rw [stored])
  | insertSitePolicy kind bounded ran =>
      obtain ⟨-, stored⟩ | ⟨-, -, stored⟩ := SqliteStore.insertSitePolicy_ok ran
      · exact same (by rw [stored]) (by rw [stored])
      · exact same (by rw [stored]) (by rw [stored])
  | nextClaim kind ran =>
      obtain ⟨-, -, stored⟩ := SqliteStore.nextClaim_ok ran
      exact same (by rw [stored]) (by rw [stored])
  | upsertTenantQueue kind ran =>
      obtain ⟨-, stored⟩ := SqliteStore.upsertTenantQueue_ok ran
      exact same (by rw [stored]) (by rw [stored])
  | aside kind unchanged => exact same unchanged.usage unchanged.uploads

end Statements

theorem effect_metered {K : List Kind} {s t : SqliteStore} (effect : Effect K s t)
    (metered : Metered s) : Metered t :=
  effect.keeps (fun _ _ wrote => wrote_metered wrote) metered

/-- The counters are exact in every run. -/
theorem run_metered {calls : List (Op × Bool)} {store : SqliteStore} (run : StoreRun calls store) :
    Metered store := by
  have both : store.Integrity ∧ Metered store :=
    Trace.keeps (P := fun store => store.Integrity ∧ Metered store)
      (fun _ _ _ step kept =>
        ⟨step.integrity kept.1, effect_metered (step.effect kept.1) kept.2⟩)
      run ⟨migrated_integrity, migrated_metered⟩
  exact both.2

/-! ## The counters as sums -/

/-- The expected sizes of the undeleted uploads, added up. -/
def reservedBytes (rows : List UploadRow) : Int :=
  ((rows.filter fun row => row.state != .deleted).map fun row => row.expectedSizeBytes).sum

/-- The expected sizes of a tenant's undeleted uploads, added up. -/
def tenantReservedBytes (tenantId : String) (rows : List UploadRow) : Int :=
  reservedBytes (rows.filter fun row => decide (row.tenantId = tenantId))

theorem total_charge_none (rows : List UploadRow) : total charge rows none = reservedBytes rows := by
  induction rows with
  | nil => rfl
  | cons row rows ih =>
      rw [total_cons, Pi.add_apply, ih, reservedBytes, reservedBytes]
      by_cases live : row.state = .deleted
      · simp [charge, live]
      · simp [charge, live]

theorem total_charge_some (tenantId : String) (rows : List UploadRow) :
    total charge rows (some tenantId) = tenantReservedBytes tenantId rows := by
  induction rows with
  | nil => rfl
  | cons row rows ih =>
      rw [total_cons, Pi.add_apply, ih, tenantReservedBytes, tenantReservedBytes]
      by_cases owner : row.tenantId = tenantId
      · by_cases live : row.state = .deleted
        · simp [charge, live, owner, reservedBytes]
        · simp [charge, live, owner, reservedBytes]
      · simp [charge, owner]

/-- The counters are the sums of the uploads, and integers of the database. -/
structure UsageExact (store : SqliteStore) : Prop where
  global : store.usage.globalReservedBytes = reservedBytes store.uploads
  tenant : ∀ tenantId, store.usage.reservedFor tenantId = tenantReservedBytes tenantId store.uploads
  rows : ∀ row ∈ store.usage.tenants,
    row.reservedBytes = tenantReservedBytes row.tenantId store.uploads
  globalRange : 0 ≤ store.usage.globalReservedBytes ∧ store.usage.globalReservedBytes ≤ i64Max
  tenantRange : ∀ row ∈ store.usage.tenants, 0 ≤ row.reservedBytes ∧ row.reservedBytes ≤ i64Max

/-- No counter exceeds `i64::MAX`. -/
def Bounded (store : SqliteStore) : Prop := ∀ scope, store.usage.reading scope ≤ i64Max

theorem usageExact_of_metered {store : SqliteStore} (metered : Metered store)
    (bounded : Bounded store) : UsageExact store := by
  have readings := metered.exact.reading
  have nonneg := total_charge_nonneg metered.sized
  have tenant : ∀ tenantId, store.usage.reservedFor tenantId =
      tenantReservedBytes tenantId store.uploads := by
    intro tenantId
    rw [← total_charge_some]
    exact congrFun readings (some tenantId)
  have row : ∀ row ∈ store.usage.tenants, row.reservedBytes = store.usage.reservedFor row.tenantId := by
    intro row member
    have found : (store.usage.tenants.find? fun other => decide (other.tenantId = row.tenantId)) =
        some row := find?_eq_some_of_key metered.exact.keyed member
    rw [StorageUsage.reservedFor, found]
    rfl
  refine ⟨?_, tenant, fun other member => (row other member).trans (tenant _), ?_, ?_⟩
  · rw [← total_charge_none]
    exact congrFun readings none
  · refine ⟨?_, bounded none⟩
    have := nonneg none
    rw [← readings] at this
    exact this
  · intro other member
    rw [row other member]
    refine ⟨?_, bounded (some other.tenantId)⟩
    have := nonneg (some other.tenantId)
    rw [← readings] at this
    exact this

/-! ## The counters stay in range -/

theorem total_charge_evolves_le {rows rows' : List UploadRow}
    (evolves : List.Forall₂ Evolves rows rows') (sized : Sized rows) :
    total charge rows' ≤ total charge rows := by
  induction evolves with
  | nil => exact le_rfl
  | @cons before after rows rows' moved _ ih =>
      rw [total_cons, total_cons]
      exact add_le_add (charge_evolves_le moved (sized before List.mem_cons_self))
        (ih fun row member => sized row (List.mem_cons_of_mem _ member))

/-- Only inserts add to the charges. -/
theorem effect_charge_le {K : List Kind} {s t : SqliteStore} (effect : Effect K s t)
    (metered : Metered s) (inserts : .insertUpload ∉ K) :
    total charge t.uploads ≤ total charge s.uploads := by
  induction effect with
  | refl => exact le_rfl
  | @tail m u before wrote ih =>
      have sized := (effect_metered before metered).sized
      refine le_trans ?_ ih
      obtain same | ⟨kind, -⟩ | ⟨-, moved⟩ | ⟨-, hit, -, removed⟩ := wrote.uploads_cases
      · rw [same]
      · exact absurd kind inserts
      · exact total_charge_evolves_le moved sized
      · rw [removed]
        exact total_charge_filter_le sized _

/-- Only updates and deletes take from the charges. -/
theorem effect_charge_ge {K : List Kind} {s t : SqliteStore} (effect : Effect K s t)
    (metered : Metered s) (updates : .updateUploads ∉ K) (deletes : .deleteUploads ∉ K) :
    total charge s.uploads ≤ total charge t.uploads := by
  induction effect with
  | refl => exact le_rfl
  | @tail m u before wrote ih =>
      refine le_trans ih ?_
      obtain same | ⟨-, row, fresh, -, added⟩ | ⟨kind, -⟩ | ⟨kind, -⟩ := wrote.uploads_cases
      · rw [same]
      · have sized := (wrote_metered wrote (effect_metered before metered)).sized
        rw [added, total_append, total_cons, total_nil, add_zero]
        refine le_add_of_nonneg_right fun scope => charge_nonneg (sized row ?_) scope
        rw [added]
        exact List.mem_append_right _ (List.mem_singleton.2 rfl)
      · exact absurd kind updates
      · exact absurd kind deletes

/-- The rows of a batch are charged the batch's size. -/
theorem total_charge_batch {batch : UploadBatchReservation} {uploads : List UploadReservation}
    {rows : List UploadRow}
    (bound : List.Forall₂ (fun upload row => reservationRow batch upload = .ok row) uploads rows) :
    total charge rows =
      StorageUsage.globalBytes (uploads.map UploadReservation.expectedSizeBytes).sum +
        StorageUsage.tenantBytes batch.tenantId
          (uploads.map UploadReservation.expectedSizeBytes).sum := by
  induction bound with
  | nil =>
      funext scope
      cases scope <;> simp [StorageUsage.globalBytes, StorageUsage.tenantBytes]
  | @cons upload row uploads rows first _ ih =>
      obtain ⟨⟨created, -⟩, -, tenantId, size⟩ := reservationRow_ok first
      have live : row.state ≠ .deleted := by
        rw [created]
        decide
      rw [total_cons, ih, charge_of_live live, tenantId, size]
      funext scope
      cases scope with
      | none => simp [StorageUsage.globalBytes, StorageUsage.tenantBytes]
      | some other =>
          by_cases owner : other = batch.tenantId
          · simp [StorageUsage.globalBytes, StorageUsage.tenantBytes, owner]
          · simp [StorageUsage.globalBytes, StorageUsage.tenantBytes, owner]

/-- What a saved batch does to the readings, and the caps it respects. -/
theorem batchSaved_reading {batch : UploadBatchReservation} {capacity : UploadCapacityPolicy}
    {size : Nat} {rows : List UploadRow} {s t : SqliteStore} (metered : Metered s)
    (saved : BatchSaved batch capacity size rows s t) :
    t.usage.globalReservedBytes = s.usage.globalReservedBytes + size ∧
      (∀ tenantId, t.usage.reservedFor tenantId =
        s.usage.reservedFor tenantId + if tenantId = batch.tenantId then (size : Int) else 0) := by
  have metered' := effect_metered saved.effect metered
  have charged : t.usage.reading = s.usage.reading + total charge rows := by
    rw [metered'.exact.reading, metered.exact.reading, saved.uploads, total_append]
  rw [total_charge_batch saved.bound, ← totalSize_eq_some saved.sized] at charged
  constructor
  · have := congrFun charged none
    simpa [StorageUsage.reading, StorageUsage.globalBytes, StorageUsage.tenantBytes] using this
  · intro tenantId
    have := congrFun charged (some tenantId)
    simpa [StorageUsage.reading, StorageUsage.globalBytes, StorageUsage.tenantBytes] using this

theorem batchSaved_bounded {batch : UploadBatchReservation} {capacity : UploadCapacityPolicy}
    {size : Nat} {rows : List UploadRow} {s t : SqliteStore} (metered : Metered s)
    (bounded : Bounded s) (saved : BatchSaved batch capacity size rows s t) : Bounded t := by
  obtain ⟨global, tenant⟩ := batchSaved_reading metered saved
  obtain ⟨-, -, globalFits, tenantFits, nested, small⟩ := capacityAllows_true saved.allowed
  intro scope
  cases scope with
  | none =>
      change t.usage.globalReservedBytes ≤ i64Max
      omega
  | some tenantId =>
      change t.usage.reservedFor tenantId ≤ i64Max
      rw [tenant]
      split
      · rename_i owner
        rw [owner]
        omega
      · have := bounded (some tenantId)
        rw [StorageUsage.reading] at this
        omega

/-- Every statement of an operation leaves the counters in range, and so does the
operation. -/
theorem answers_bounded {op : Op} {ok : Bool} {s t : SqliteStore} (integrity : s.Integrity)
    (metered : Metered s) (bounded : Bounded s) (answers : Answers op s ok t) :
    Bounded t ∧ ∀ middle, Effect op.kinds s middle → Effect op.kinds middle t → Bounded middle := by
  have effect := answers.effect integrity
  by_cases inserts : Kind.insertUpload ∈ op.kinds
  · have after : Bounded t := by
      cases op with
      | saveBatch batch capacity =>
          cases answers with
          | refused => exact bounded
          | ran =>
              have ran : saveBatch batch capacity s =
                ((saveBatch batch capacity s).1, (Op.run (.saveBatch batch capacity) s).2) := rfl
              obtain ⟨same, -⟩ | ⟨-, size, rows, saved⟩ := saveBatch_cases ran
              · rw [same]
                exact bounded
              · exact batchSaved_bounded metered bounded saved
      | _ => simp [Op.kinds] at inserts
    have appends : Kind.updateUploads ∉ op.kinds ∧ Kind.deleteUploads ∉ op.kinds := by
      cases op <;> simp [Op.kinds] at inserts ⊢
    refine ⟨after, fun middle first second scope => le_trans ?_ (after scope)⟩
    have meteredMiddle := effect_metered first metered
    have grows := effect_charge_ge second meteredMiddle appends.1 appends.2
    rw [meteredMiddle.exact.reading, (effect_metered effect metered).exact.reading]
    exact grows scope
  · have shrinks : ∀ middle, Effect op.kinds s middle → Bounded middle := by
      intro middle first scope
      have less := effect_charge_le first metered inserts
      have before := bounded scope
      rw [metered.exact.reading] at before
      rw [(effect_metered first metered).exact.reading]
      exact (less scope).trans before
    exact ⟨shrinks t effect, fun middle first _ => shrinks middle first⟩

/-- What a run keeps of the usage. -/
structure Sound (store : SqliteStore) : Prop where
  integrity : store.Integrity
  metered : Metered store
  bounded : Bounded store

theorem answers_sound {op : Op} {ok : Bool} {s t : SqliteStore} (sound : Sound s)
    (answers : Answers op s ok t) : Sound t where
  integrity := answers.integrity sound.integrity
  metered := effect_metered (answers.effect sound.integrity) sound.metered
  bounded := (answers_bounded sound.integrity sound.metered sound.bounded answers).1

theorem run_sound {calls : List (Op × Bool)} {store : SqliteStore} (run : StoreRun calls store) :
    Sound store := by
  refine Trace.keeps (P := Sound) (fun _ _ _ step sound => answers_sound sound step) run ?_
  refine ⟨migrated_integrity, migrated_metered, fun scope => ?_⟩
  cases scope with
  | none => decide
  | some tenantId =>
      change (0 : Int) ≤ i64Max
      decide

/-! ## Exactness -/

/-- Quota is charged once, when the upload comes, and returned once, when it is deleted. -/
structure ChargedOnce (s t : SqliteStore) : Prop where
  moved : ∀ before ∈ s.uploads, ∀ after ∈ t.uploads, after.id = before.id →
    charge after = charge before ∨ (before.state ≠ .deleted ∧ after.state = .deleted)
  returned : ∀ before ∈ s.uploads, ∀ after ∈ t.uploads, after.id = before.id →
    before.state = .deleted → after.state = .deleted ∧ charge before = 0 ∧ charge after = 0
  removed : ∀ before ∈ s.uploads, (∀ after ∈ t.uploads, after.id ≠ before.id) → charge before = 0
  added : ∀ after ∈ t.uploads, (∀ before ∈ s.uploads, before.id ≠ after.id) →
    after.state ≠ .deleted

theorem chargedOnce_of_advances {s t : SqliteStore} (advances : Advances s t) :
    ChargedOnce s t where
  moved := fun before there after there' same =>
    charge_evolves (advances.moved before there after there' same)
  returned := fun before there after there' same deleted => by
    have chain := (advances.moved before there after there' same).chain
    rw [deleted] at chain
    have gone := chain.from_deleted
    exact ⟨gone, charge_of_deleted deleted, charge_of_deleted gone⟩
  removed := fun before there gone => charge_of_deleted (advances.removed before there gone)
  added := fun after there fresh => by
    rw [(advances.added after there fresh).1]
    decide

/-- **Exact storage quota.**  After every run the counters are exact and in range.  After
every further operation, however it ends, and after each of its statements, they still
are, and the operation has charged and returned each upload at most once. -/
theorem usage_exact {calls : List (Op × Bool)} {store : SqliteStore} (run : StoreRun calls store) :
    UsageExact store ∧
      ∀ op ok store', Answers op store ok store' →
        UsageExact store' ∧ ChargedOnce store store' ∧
          ∀ middle, Effect op.kinds store middle → Effect op.kinds middle store' →
            UsageExact middle := by
  have sound := run_sound run
  refine ⟨usageExact_of_metered sound.metered sound.bounded, fun op ok store' answers => ?_⟩
  have sound' := answers_sound sound answers
  refine ⟨usageExact_of_metered sound'.metered sound'.bounded,
    chargedOnce_of_advances (answers.advances sound.integrity), fun middle first second => ?_⟩
  have between := (answers_bounded sound.integrity sound.metered sound.bounded answers).2
  exact usageExact_of_metered (effect_metered first sound.metered) (between middle first second)

/-- The sample reservation is charged its 100 bytes. -/
theorem usage_exact_sample :
    UsageExact reservedSample ∧ reservedSample.usage.globalReservedBytes = 100 :=
  ⟨(usage_exact reservedSample_run).1, rfl⟩

end MediaBooster.Quota
