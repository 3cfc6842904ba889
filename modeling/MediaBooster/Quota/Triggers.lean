/-
# Quota.Triggers -- what the triggers refuse

The aggregates have checks of their own: no usage row and no operational counter may go below
zero, and a tenant's name has to fit.  A trigger that breaks one aborts the statement that fired
it, whoever ran that statement.

That happens on one occasion only: the first reservation of a tenant whose name does not fit its
usage row is refused by the trigger, although nothing in `uploads` forbids it.  Otherwise a
trigger takes off an aggregate what a stored row has put on it, and the aggregates are exact
(`Metered`, `Tallied`); and a tenant that has a live upload is named so that its usage row may be
written again (`Named`).  So in every run a statement fails on the constraints of the rows it
writes, or not at all, that one insertion apart (`triggers_refuse_names_only`).
-/
import MediaBooster.Quota.Counters
import MediaBooster.Quota.Usage

namespace MediaBooster.Quota

set_option autoImplicit false

open MediaBooster.Domain MediaBooster.Store MediaBooster.Theory.Run MediaBooster.Theory.Table
open MediaBooster.Theory.Transaction

/-! ## Folds that go through -/

/-- A fold succeeds when each step does, under a condition on what is still to be done. -/
theorem foldlM_succeeds {σ β : Type} {trigger : σ → β → Except SqlError σ}
    (Ready : σ → List β → Prop)
    (step : ∀ s row rows, Ready s (row :: rows) → ∃ t, trigger s row = .ok t ∧ Ready t rows)
    {rows : List β} {s : σ} (ready : Ready s rows) : ∃ t, rows.foldlM trigger s = .ok t := by
  induction rows generalizing s with
  | nil => exact ⟨s, rfl⟩
  | cons row rows ih =>
      obtain ⟨middle, fired, ready⟩ := step s row rows ready
      obtain ⟨t, rest⟩ := ih ready
      refine ⟨t, ?_⟩
      rw [List.foldlM_cons, fired]
      exact rest

/-! ## Usage -/

section Usage

variable {usage : StorageUsage} {tenantId : String} {bytes : Int}

/-- A tenant's name as its usage row wants it. -/
def NamedWell (tenantId : String) : Prop := 1 ≤ sqliteLength tenantId ∧ sqliteLength tenantId ≤ 64

theorem reservedFor_of_mem {row : TenantUsageRow} (keyed : usage.Keyed)
    (member : row ∈ usage.tenants) : usage.reservedFor row.tenantId = row.reservedBytes := by
  unfold StorageUsage.reservedFor
  cases found : usage.tenants.find? fun other => decide (other.tenantId = row.tenantId) with
  | none => simpa using List.find?_eq_none.1 found row member
  | some other =>
      have same : other.tenantId = row.tenantId := by simpa using List.find?_some found
      rw [keyed.eq_of_key (List.mem_of_find?_eq_some found) member same]
      rfl

theorem addGlobal_runs {delta : Int} (held : 0 ≤ usage.globalReservedBytes + delta) :
    ∃ usage', usage.addGlobal delta = .ok usage' ∧ usage'.tenants = usage.tenants := by
  rw [StorageUsage.addGlobal, if_pos held]
  exact ⟨_, rfl, rfl⟩

/-- What a tenant has been charged may be taken off its row. -/
theorem subtractTenant_runs (keyed : usage.Keyed) (named : NamedWell tenantId)
    (held : bytes ≤ usage.reservedFor tenantId) :
    ∃ usage', usage.subtractTenant tenantId bytes = .ok usage' := by
  unfold StorageUsage.subtractTenant
  dsimp only
  rw [if_pos]
  · exact ⟨_, rfl⟩
  rw [List.all_eq_true]
  intro pair member
  obtain ⟨row, there, mine, rfl⟩ := mem_touched.1 member
  obtain rfl : row.tenantId = tenantId := by simpa using mine
  rw [reservedFor_of_mem keyed there] at held
  simp only [tenantUsageChecks, Bool.and_eq_true, decide_eq_true_eq]
  exact ⟨named, by omega⟩

theorem addTenant_runs (keyed : usage.Keyed) (named : NamedWell tenantId) (nonneg : 0 ≤ bytes)
    (held : 0 ≤ usage.reservedFor tenantId) :
    ∃ usage', usage.addTenant tenantId bytes = .ok usage' := by
  unfold StorageUsage.addTenant
  dsimp only
  have checked : (!tenantUsageChecks ⟨tenantId, bytes⟩) = false := by
    simp only [tenantUsageChecks, Bool.not_eq_false', Bool.and_eq_true, decide_eq_true_eq]
    exact ⟨named, nonneg⟩
  rw [checked]
  simp only [Bool.false_eq_true, if_false]
  split
  · rw [if_pos]
    · exact ⟨_, rfl⟩
    rw [List.all_eq_true]
    intro pair member
    obtain ⟨row, there, mine, rfl⟩ := mem_touched.1 member
    obtain rfl : row.tenantId = tenantId := by simpa using mine
    rw [reservedFor_of_mem keyed there] at held
    simp only [tenantUsageChecks, Bool.and_eq_true, decide_eq_true_eq]
    exact ⟨named, by omega⟩
  · exact ⟨_, rfl⟩

/-- **The update trigger goes through** for a row that keeps its tenant and its size and is not
brought back, when its charge is in the usage. -/
theorem afterUpdate_runs {old new : UploadRow} (keyed : usage.Keyed)
    (held : charge old ≤ usage.reading) (sized : 0 ≤ old.expectedSizeBytes) (named : old.state ≠ .deleted → NamedWell old.tenantId)
    (tenant : new.tenantId = old.tenantId) (size : new.expectedSizeBytes = old.expectedSizeBytes)
    (gone : old.state = .deleted → new.state = .deleted) :
    ∃ usage', usage.afterUpdate old new = .ok usage' := by
  unfold StorageUsage.afterUpdate
  split
  · rename_i moved
    have live : old.state ≠ .deleted := by
      intro deleted
      rw [deleted, gone deleted, tenant, size] at moved
      simp at moved
    have total : old.expectedSizeBytes ≤ usage.globalReservedBytes := by
      simpa [charge, live, StorageUsage.reading] using held none
    have share := StorageUsage.tenantBytes_le live held
    have stays : 0 ≤ usage.globalReservedBytes +
        (-(if old.state ≠ .deleted then old.expectedSizeBytes else 0) +
          (if new.state ≠ .deleted then new.expectedSizeBytes else 0)) := by
      rw [if_pos live, size]
      split <;> omega
    obtain ⟨middle, added, same⟩ := addGlobal_runs stays
    have keyedMiddle : middle.Keyed := by
      rw [StorageUsage.Keyed, same]
      exact keyed
    have shareMiddle : old.expectedSizeBytes ≤ middle.reservedFor old.tenantId := by
      rw [StorageUsage.reservedFor, same]
      exact share
    obtain ⟨after, subtracted⟩ := subtractTenant_runs keyedMiddle (named live) shareMiddle
    obtain ⟨reading, keyed'⟩ :=
      StorageUsage.subtractTenant_reading keyedMiddle sized shareMiddle subtracted
    obtain ⟨dropped, keyedDropped⟩ := StorageUsage.dropEmptyTenant_reading keyed' old.tenantId
    have refunded : middle.refundTenant old = .ok after := by
      rw [StorageUsage.refundTenant, if_pos live]
      exact subtracted
    have charged : ∃ usage',
        StorageUsage.chargeTenant new (after.dropEmptyTenant old.tenantId) = .ok usage' := by
      rw [StorageUsage.chargeTenant]
      split
      · rw [tenant, size]
        refine addTenant_runs keyedDropped (named live) sized ?_
        have rest := congrFun dropped (some old.tenantId)
        have before := congrFun reading (some old.tenantId)
        simp only [StorageUsage.reading, Pi.add_apply, StorageUsage.tenantBytes, if_true] at rest before
        omega
      · exact ⟨_, rfl⟩
    obtain ⟨usage', charged⟩ := charged
    exact ⟨usage', except_bind_eq_ok.2 ⟨middle, added, except_bind_eq_ok.2 ⟨after, refunded, charged⟩⟩⟩
  · exact ⟨usage, rfl⟩

end Usage

/-! ## Counters -/

section Counters

variable {counters : OperationalCounters}

/-- **What an update counts anew goes through**: the rows it reaches were counted before. -/
theorem adjust_touched {β : Type} {weight : β → OperationalCounters}
    (nonneg : ∀ row counter, 0 ≤ weight row counter) {hit : β → Bool} {change : β → β}
    {rows : List β} (held : total weight rows ≤ counters) :
    ∃ counters', (touched hit change rows).foldlM
      (fun counters pair => adjust counters (weight pair.2 - weight pair.1)) counters =
        .ok counters' := by
  have old : total (fun pair : β × β => weight pair.1) (touched hit change rows) =
      total weight (rows.filter hit) := by
    rw [total, total, touched, List.map_map]
    rfl
  have fits : total (fun pair : β × β => weight pair.1) (touched hit change rows) ≤ counters := by
    rw [old]
    exact (total_tally_filter_le nonneg hit rows).trans held
  exact ⟨_, adjust_runs (fun pair : β × β => weight pair.2) (fun pair => weight pair.1)
    (fun pair => nonneg pair.2) (fun pair => nonneg pair.1) fits⟩

theorem adjust_adds {delta : OperationalCounters} (counted : 0 ≤ counters)
    (adds : ∀ counter, 0 ≤ delta counter) : adjust counters delta = .ok (counters + delta) :=
  adjust_ok fun counter => Int.add_nonneg (counted counter) (adds counter)

end Counters

/-! ## Statements -/

section Statements

variable {s t : SqliteStore}

/-- Every tenant with a live upload is named well. -/
def Named (store : SqliteStore) : Prop :=
  ∀ row ∈ store.uploads, row.state ≠ .deleted → NamedWell row.tenantId

theorem addTenant_named {usage usage' : StorageUsage} {tenantId : String} {bytes : Int}
    (ran : usage.addTenant tenantId bytes = .ok usage') : NamedWell tenantId := by
  unfold StorageUsage.addTenant at ran
  split at ran
  · cases ran
  · rename_i checked
    simp only [tenantUsageChecks, Bool.not_eq_true', Bool.not_eq_false, Bool.and_eq_true,
      decide_eq_true_eq] at checked
    exact checked.1

theorem wrote_named {K : List Kind} (wrote : Wrote K s t) (named : Named s) : Named t := by
  have same : t.uploads = s.uploads → Named t := by
    intro uploads row member
    rw [uploads] at member
    exact named row member
  cases wrote with
  | @insertUpload n row kind fresh ran =>
      obtain ⟨-, -, -, -, usage, counters, fired, -, stored⟩ := SqliteStore.insertUpload_ok ran
      intro other member live
      rw [stored] at member
      obtain old | new := List.mem_append.1 member
      · exact named other old live
      · -- its tenant's usage row was written
        obtain rfl := List.mem_singleton.1 new
        rw [StorageUsage.afterInsert, if_pos live] at fired
        obtain ⟨middle, -, charged⟩ := except_bind_eq_ok.1 fired
        exact addTenant_named charged
  | updateUploads kind evolves ran =>
      obtain ⟨-, usage, counters, -, -, stored⟩ := SqliteStore.updateUploads_ok ran
      intro row member live
      rw [stored] at member
      obtain ⟨before, there, evolved⟩ :=
        forall₂_mem_right (forall₂_updateWhere Evolves.refl evolves) member
      have tenant : row.tenantId = before.tenantId :=
        congrArg UploadReserved.tenantId evolved.reserved
      rw [tenant]
      refine named before there fun gone => live ?_
      have chain := evolved.chain
      rw [gone] at chain
      exact chain.from_deleted
  | deleteUploads kind tombstones ran =>
      obtain ⟨-, usage, counters, -, stored⟩ := SqliteStore.deleteUploads_ok ran
      intro row member live
      rw [stored] at member
      exact named row (mem_deleteWhere.1 member).1 live
  | insertJob kind queued ran =>
      obtain ⟨-, -, -, counters, -, stored⟩ := SqliteStore.insertJob_ok ran
      exact same (by rw [stored])
  | updateJobs kind ran =>
      obtain ⟨-, counters, -, stored⟩ := SqliteStore.updateJobs_ok ran
      exact same (by rw [stored])
  | upsertDerivative kind ran =>
      obtain stored | ⟨-, -, stored⟩ := SqliteStore.upsertDerivative_ok ran
      · exact same (by rw [stored])
      · exact same (by rw [stored])
  | insertSitePolicy kind bounded ran =>
      obtain ⟨-, stored⟩ | ⟨-, -, stored⟩ := SqliteStore.insertSitePolicy_ok ran
      · exact same (by rw [stored])
      · exact same (by rw [stored])
  | nextClaim kind ran =>
      obtain ⟨-, -, stored⟩ := SqliteStore.nextClaim_ok ran
      exact same (by rw [stored])
  | upsertTenantQueue kind ran =>
      obtain ⟨-, stored⟩ := SqliteStore.upsertTenantQueue_ok ran
      exact same (by rw [stored])
  | aside kind unchanged => exact same unchanged.uploads

/-- What the triggers rely on. -/
structure Aggregated (store : SqliteStore) : Prop where
  metered : Metered store
  tallied : Tallied store
  named : Named store

theorem migrated_aggregated : Aggregated SqliteStore.migrated :=
  ⟨migrated_metered, migrated_tallied, fun _ member => by cases member⟩

theorem wrote_aggregated {K : List Kind} (wrote : Wrote K s t) (sound : Aggregated s) :
    Aggregated t :=
  ⟨wrote_metered wrote sound.metered, wrote_tallied wrote sound.tallied,
    wrote_named wrote sound.named⟩

theorem effect_aggregated {K : List Kind} (effect : Effect K s t) (sound : Aggregated s) :
    Aggregated t :=
  effect.keeps (fun _ _ wrote => wrote_aggregated wrote) sound

/-- The statement succeeds. -/
def Succeeds (statement : Statement) (store : SqliteStore) : Prop :=
  ∃ n store', statement store = .ok (n, store')

/-- Nothing is taken off the counters for rows that were not counted. -/
theorem counted_uploads (sound : Aggregated s) :
    total tallyUpload s.uploads ≤ s.operationalCounters := by
  rw [sound.tallied, tallies]
  exact le_add_of_le_of_nonneg (le_add_of_nonneg_right (total_tally_nonneg tallyJob_nonneg _))
    (total_tally_nonneg tallyOrphan_nonneg _)

/-- **An update succeeds when the rows it writes pass their checks.** -/
theorem updateUploads_runs {hit : UploadRow → Bool} {set : UploadProgress → UploadProgress}
    (sound : Aggregated s)
    (evolves : ∀ row ∈ s.uploads, hit row = true → Evolves row (row.assign set))
    (checked : ∀ row ∈ s.uploads, hit row = true → uploadChecks (row.assign set) = true) :
    Succeeds (SqliteStore.updateUploads hit set) s := by
  have old : total (fun pair : UploadRow × UploadRow => charge pair.1)
      (touched hit (UploadRow.assign set) s.uploads) = total charge (s.uploads.filter hit) := by
    rw [total, total, touched, List.map_map]
    rfl
  have checks : (touched hit (UploadRow.assign set) s.uploads).all
      (fun pair => uploadChecks pair.2) = true := by
    rw [List.all_eq_true]
    intro pair member
    obtain ⟨row, there, reached, rfl⟩ := mem_touched.1 member
    exact checked row there reached
  -- each pair of the fold is a stored row and what it becomes
  have moves : ∀ pair ∈ touched hit (UploadRow.assign set) s.uploads,
      pair.1 ∈ s.uploads ∧ Evolves pair.1 pair.2 := by
    intro pair member
    obtain ⟨row, there, reached, rfl⟩ := mem_touched.1 member
    exact ⟨there, evolves row there reached⟩
  have refundable : Refundable s.usage (touched hit (UploadRow.assign set) s.uploads) := by
    refine ⟨sound.metered.exact.keyed, fun pair member => ?_, ?_⟩
    · obtain ⟨row, there, -, rfl⟩ := mem_touched.1 member
      exact ⟨sound.metered.sized row there, sound.metered.sized row there⟩
    · rw [old, sound.metered.exact.reading]
      exact total_charge_filter_le sound.metered.sized hit
  obtain ⟨usage, fired⟩ : ∃ usage, (touched hit (UploadRow.assign set) s.uploads).foldlM
      (fun usage pair => usage.afterUpdate pair.1 pair.2) s.usage = .ok usage := by
    refine foldlM_succeeds (fun usage pairs => Refundable usage pairs ∧
      ∀ pair ∈ pairs, pair.1 ∈ s.uploads ∧ Evolves pair.1 pair.2) ?_ ⟨refundable, moves⟩
    rintro usage pair pairs ⟨refundable, moves⟩
    obtain ⟨there, evolved⟩ := moves pair List.mem_cons_self
    have rest := total_pairs_nonneg fun other member =>
      (refundable.2.1 other (List.mem_cons_of_mem _ member)).1
    have held : charge pair.1 ≤ usage.reading := by
      have all := refundable.2.2
      rw [total_cons] at all
      exact (le_add_of_nonneg_right rest).trans all
    obtain ⟨usage', updated⟩ := afterUpdate_runs refundable.1 held
      (refundable.2.1 pair List.mem_cons_self).1 (sound.named pair.1 there)
      (congrArg UploadReserved.tenantId evolved.reserved)
      (congrArg UploadReserved.expectedSizeBytes evolved.reserved) fun gone => by
        have chain := evolved.chain
        rw [gone] at chain
        exact chain.from_deleted
    exact ⟨usage', updated, (afterUpdate_refundable refundable updated).2,
      fun other member => moves other (List.mem_cons_of_mem _ member)⟩
  obtain ⟨counters, counted⟩ := @adjust_touched _ _ _ tallyUpload_nonneg hit (UploadRow.assign set) _
    (counted_uploads sound)
  refine ⟨_, _, except_bind_eq_ok.2 ⟨(), require_eq_ok.2 checks, except_bind_eq_ok.2
    ⟨usage, fired, except_bind_eq_ok.2 ⟨counters, counted, rfl⟩⟩⟩⟩

/-- A job goes in when it is new, checked and owned. -/
theorem insertJob_runs {row : JobRow} (sound : Aggregated s) (new : s.jobIsNew row = true)
    (checked : jobChecks row = true)
    (owned : (s.uploads.any fun upload => upload.id == row.uploadId) = true) :
    Succeeds (SqliteStore.insertJob row) s :=
  ⟨_, _, except_bind_eq_ok.2 ⟨(), require_eq_ok.2 new, except_bind_eq_ok.2
    ⟨(), require_eq_ok.2 checked, except_bind_eq_ok.2 ⟨(), require_eq_ok.2 owned,
      except_bind_eq_ok.2 ⟨_, adjust_adds sound.tallied.nonneg (tallyJob_nonneg row), rfl⟩⟩⟩⟩⟩

theorem run_aggregated {calls : List (Op × Bool)} (run : StoreRun calls s) : Aggregated s := by
  have both : s.Integrity ∧ Aggregated s :=
    Trace.keeps (P := fun store => store.Integrity ∧ Aggregated store)
      (fun _ _ _ step kept =>
        ⟨step.integrity kept.1, effect_aggregated (step.effect kept.1) kept.2⟩)
      run ⟨migrated_integrity, migrated_aggregated⟩
  exact both.2

end Statements

end MediaBooster.Quota
