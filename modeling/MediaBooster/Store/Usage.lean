/-
# Store.Usage -- the storage usage rows and their triggers

`storage_usage_global` and `tenant_storage_usage` with the three triggers on
`uploads` that keep them.  A trigger reads the old and the new version of one
row; the statements of `Store.Statements` fire it for every row they write.

`StorageUsage.reading` is what the store answers when it is asked for the usage
of the whole service (`none`) or of a tenant (`some tenant`), where a missing
row counts as zero.  `charge` is what one upload ought to contribute to it.
One firing moves the reading by the difference of the row's charges
(`afterInsert_reading`, `afterUpdate_reading`, `afterDelete_reading`), provided
that the old charge was in the reading in the first place: a tenant without a
row cannot be refunded.
-/
import MediaBooster.Store.Schema
import MediaBooster.Theory.Table
import MediaBooster.Theory.Transaction

namespace MediaBooster.Store

set_option autoImplicit false

open MediaBooster.Domain MediaBooster.Theory.Table MediaBooster.Theory.Transaction

structure TenantUsageRow where
  tenantId : String
  reservedBytes : Int
deriving DecidableEq

def tenantUsageChecks (row : TenantUsageRow) : Bool :=
  decide (1 ≤ sqliteLength row.tenantId ∧ sqliteLength row.tenantId ≤ 64) &&
    decide (0 ≤ row.reservedBytes)

/-- `storage_usage_global`, which has one row, and `tenant_storage_usage`. -/
structure StorageUsage where
  globalReservedBytes : Int
  tenants : List TenantUsageRow
deriving DecidableEq

namespace StorageUsage

/-! ## Statements of the triggers -/

/-- `UPDATE storage_usage_global SET reserved_bytes = reserved_bytes + delta`. -/
def addGlobal (delta : Int) (usage : StorageUsage) : Except SqlError StorageUsage :=
  if 0 ≤ usage.globalReservedBytes + delta then
    .ok { usage with globalReservedBytes := usage.globalReservedBytes + delta }
  else .error .checkViolation

/-- `INSERT INTO tenant_storage_usage … ON CONFLICT (tenant_id) DO UPDATE SET
reserved_bytes = reserved_bytes + excluded.reserved_bytes`. -/
def addTenant (tenantId : String) (bytes : Int) (usage : StorageUsage) :
    Except SqlError StorageUsage :=
  if !tenantUsageChecks ⟨tenantId, bytes⟩ then .error .checkViolation
  else if usage.tenants.any fun row => decide (row.tenantId = tenantId) then
    let add row : TenantUsageRow := { row with reservedBytes := row.reservedBytes + bytes }
    let hit row : Bool := decide (TenantUsageRow.tenantId row = tenantId)
    if (touched hit add usage.tenants).all fun pair => tenantUsageChecks pair.2 then
      .ok { usage with tenants := updateWhere hit add usage.tenants }
    else .error .checkViolation
  else .ok { usage with tenants := usage.tenants ++ [⟨tenantId, bytes⟩] }

/-- `UPDATE tenant_storage_usage SET reserved_bytes = reserved_bytes - bytes
WHERE tenant_id = tenantId`. -/
def subtractTenant (tenantId : String) (bytes : Int) (usage : StorageUsage) :
    Except SqlError StorageUsage :=
  let subtract row : TenantUsageRow := { row with reservedBytes := row.reservedBytes - bytes }
  let hit row : Bool := decide (TenantUsageRow.tenantId row = tenantId)
  if (touched hit subtract usage.tenants).all fun pair => tenantUsageChecks pair.2 then
    .ok { usage with tenants := updateWhere hit subtract usage.tenants }
  else .error .checkViolation

/-- `DELETE FROM tenant_storage_usage WHERE tenant_id = tenantId AND reserved_bytes = 0`. -/
def dropEmptyTenant (tenantId : String) (usage : StorageUsage) : StorageUsage :=
  { usage with
    tenants := deleteWhere
      (fun row => decide (row.tenantId = tenantId) && decide (row.reservedBytes = 0))
      usage.tenants }

/-! ## Triggers -/

/-- `uploads_storage_usage_after_insert`. -/
def afterInsert (usage : StorageUsage) (new : UploadRow) : Except SqlError StorageUsage :=
  if new.state ≠ .deleted then do
    let usage ← usage.addGlobal new.expectedSizeBytes
    usage.addTenant new.tenantId new.expectedSizeBytes
  else .ok usage

/-- The refund of the update trigger, `WHERE … AND OLD.state <> 'deleted'`. -/
def refundTenant (old : UploadRow) (usage : StorageUsage) : Except SqlError StorageUsage :=
  if old.state ≠ .deleted then usage.subtractTenant old.tenantId old.expectedSizeBytes
  else .ok usage

/-- The charge of the update trigger, `SELECT … WHERE NEW.state <> 'deleted'`. -/
def chargeTenant (new : UploadRow) (usage : StorageUsage) : Except SqlError StorageUsage :=
  if new.state ≠ .deleted then usage.addTenant new.tenantId new.expectedSizeBytes else .ok usage

/-- `uploads_storage_usage_after_update`. -/
def afterUpdate (usage : StorageUsage) (old new : UploadRow) : Except SqlError StorageUsage :=
  if old.tenantId ≠ new.tenantId ∨ old.state ≠ new.state ∨
      old.expectedSizeBytes ≠ new.expectedSizeBytes then do
    let usage ← usage.addGlobal
      (-(if old.state ≠ .deleted then old.expectedSizeBytes else 0) +
        (if new.state ≠ .deleted then new.expectedSizeBytes else 0))
    let usage ← usage.refundTenant old
    chargeTenant new (usage.dropEmptyTenant old.tenantId)
  else .ok usage

/-- `uploads_storage_usage_after_delete`. -/
def afterDelete (usage : StorageUsage) (old : UploadRow) : Except SqlError StorageUsage :=
  if old.state ≠ .deleted then do
    let usage ← usage.addGlobal (-old.expectedSizeBytes)
    let usage ← usage.subtractTenant old.tenantId old.expectedSizeBytes
    return usage.dropEmptyTenant old.tenantId
  else .ok usage

/-! ## Readings -/

/-- `COALESCE((SELECT reserved_bytes FROM tenant_storage_usage WHERE tenant_id = ?), 0)`. -/
def reservedFor (usage : StorageUsage) (tenantId : String) : Int :=
  ((usage.tenants.find? fun row => decide (row.tenantId = tenantId)).map
    TenantUsageRow.reservedBytes).getD 0

/-- The usage of the whole service, or of one tenant. -/
def reading (usage : StorageUsage) : Option String → Int
  | none => usage.globalReservedBytes
  | some tenantId => usage.reservedFor tenantId

/-- `bytes` in the total of the service. -/
def globalBytes (bytes : Int) : Option String → Int
  | none => bytes
  | some _ => 0

/-- `bytes` in the total of one tenant. -/
def tenantBytes (tenantId : String) (bytes : Int) : Option String → Int
  | none => 0
  | some other => if other = tenantId then bytes else 0

end StorageUsage

/-- What an upload contributes to the usage of the service and of its tenant. -/
def charge (row : UploadRow) : Option String → Int
  | none => if row.state ≠ .deleted then row.expectedSizeBytes else 0
  | some tenantId =>
      if row.state ≠ .deleted ∧ row.tenantId = tenantId then row.expectedSizeBytes else 0

theorem charge_nonneg {row : UploadRow} (sized : 0 ≤ row.expectedSizeBytes)
    (scope : Option String) : 0 ≤ charge row scope := by
  cases scope with
  | none =>
      simp only [charge]
      split <;> omega
  | some tenantId =>
      simp only [charge]
      split <;> omega

/-! ## What one statement does to the readings -/

namespace StorageUsage

/-- Each tenant has at most one row. -/
def Keyed (usage : StorageUsage) : Prop := KeyedBy TenantUsageRow.tenantId usage.tenants

theorem addGlobal_reading {usage usage' : StorageUsage} {delta : Int}
    (ran : usage.addGlobal delta = .ok usage') :
    usage'.reading = usage.reading + globalBytes delta ∧ usage'.tenants = usage.tenants := by
  simp only [addGlobal] at ran
  split at ran
  · cases ran
    refine ⟨?_, rfl⟩
    funext scope
    cases scope with
    | none => rfl
    | some tenantId => simp [reading, reservedFor, globalBytes]
  · cases ran

/-- Moving one tenant's row moves that tenant's reading, if the row exists. -/
theorem reservedFor_updateWhere (usage : StorageUsage) (tenantId other : String) (delta : Int) :
    reservedFor { usage with
        tenants := updateWhere (fun row => decide (row.tenantId = tenantId))
          (fun row => { row with reservedBytes := row.reservedBytes + delta }) usage.tenants }
      other =
      usage.reservedFor other +
        (if other = tenantId ∧ ∃ row ∈ usage.tenants, row.tenantId = tenantId then delta
          else 0) := by
  simp only [reservedFor]
  rw [find?_updateWhere (by intro row _; rfl)]
  cases found : usage.tenants.find? fun row => decide (row.tenantId = other) with
  | none =>
      have absent : ∀ row ∈ usage.tenants, row.tenantId ≠ other := by
        simpa using found
      have no : ¬(other = tenantId ∧ ∃ row ∈ usage.tenants, row.tenantId = tenantId) := by
        rintro ⟨rfl, row, member, same⟩
        exact absent row member same
      simp [no]
  | some row =>
      have member : row ∈ usage.tenants := List.mem_of_find?_eq_some found
      have owner : row.tenantId = other := by simpa using List.find?_some found
      by_cases same : other = tenantId
      · subst same
        have exist : ∃ row ∈ usage.tenants, row.tenantId = other := ⟨row, member, owner⟩
        simp [owner, exist]
      · have apart : row.tenantId ≠ tenantId := by rw [owner]; exact same
        simp [apart, same]

theorem addTenant_reading {usage usage' : StorageUsage} {tenantId : String} {bytes : Int}
    (keyed : usage.Keyed) (ran : usage.addTenant tenantId bytes = .ok usage') :
    usage'.reading = usage.reading + tenantBytes tenantId bytes ∧ usage'.Keyed := by
  simp only [addTenant] at ran
  split at ran
  · cases ran
  split at ran
  · rename_i there
    have exist : ∃ row ∈ usage.tenants, row.tenantId = tenantId := by simpa using there
    split at ran
    · cases ran
      refine ⟨?_, keyed.updateWhere fun row => rfl⟩
      funext scope
      cases scope with
      | none => simp [reading, tenantBytes]
      | some other =>
          simp only [reading, Pi.add_apply, tenantBytes]
          rw [reservedFor_updateWhere usage tenantId other bytes]
          simp [exist]
    · cases ran
  · rename_i there
    have absent : ∀ row ∈ usage.tenants, row.tenantId ≠ tenantId := by simpa using there
    cases ran
    refine ⟨?_, KeyedBy.concat keyed absent⟩
    funext scope
    cases scope with
    | none => simp [reading, tenantBytes]
    | some other =>
        simp only [reading, Pi.add_apply, tenantBytes, reservedFor, List.find?_append]
        by_cases same : other = tenantId
        · subst same
          have missing : (usage.tenants.find? fun row => decide (row.tenantId = other)) = none := by
            simpa using absent
          simp [missing]
        · have apart : tenantId ≠ other := fun eq => same eq.symm
          cases usage.tenants.find? fun row => decide (row.tenantId = other) with
          | none => simp [apart, same]
          | some row => simp [same]

theorem subtractTenant_reading {usage usage' : StorageUsage} {tenantId : String} {bytes : Int}
    (keyed : usage.Keyed) (nonneg : 0 ≤ bytes) (held : bytes ≤ usage.reservedFor tenantId)
    (ran : usage.subtractTenant tenantId bytes = .ok usage') :
    usage'.reading = usage.reading + tenantBytes tenantId (-bytes) ∧ usage'.Keyed := by
  simp only [subtractTenant] at ran
  split at ran
  · cases ran
    refine ⟨?_, keyed.updateWhere fun row => rfl⟩
    funext scope
    cases scope with
    | none => simp [reading, tenantBytes]
    | some other =>
        simp only [reading, Pi.add_apply, tenantBytes, sub_eq_add_neg]
        rw [reservedFor_updateWhere usage tenantId other (-bytes)]
        by_cases exist : ∃ row ∈ usage.tenants, row.tenantId = tenantId
        · simp [exist]
        · -- a tenant without a row reads zero, so there was nothing to subtract
          have missing :
              (usage.tenants.find? fun row => decide (row.tenantId = tenantId)) = none := by
            simpa using exist
          have zero : bytes = 0 := by
            have : usage.reservedFor tenantId = 0 := by simp [reservedFor, missing]
            omega
          simp [zero]
  · cases ran

/-- Dropping a tenant's empty row does not show in the readings. -/
theorem dropEmptyTenant_reading {usage : StorageUsage} (keyed : usage.Keyed) (tenantId : String) :
    (usage.dropEmptyTenant tenantId).reading = usage.reading ∧
      (usage.dropEmptyTenant tenantId).Keyed := by
  refine ⟨?_, keyed.deleteWhere _⟩
  funext scope
  cases scope with
  | none => rfl
  | some other =>
      simp only [reading, reservedFor, dropEmptyTenant]
      rw [keyed.find?_deleteWhere]
      cases found : usage.tenants.find? fun row => decide (row.tenantId = other) with
      | none => rfl
      | some row =>
          by_cases empty : row.tenantId = tenantId ∧ row.reservedBytes = 0
          · simp [Option.filter, empty]
          · simp [Option.filter, ← Bool.decide_and, empty]

/-! ## What one firing does to the readings -/

theorem globalBytes_add (a b : Int) : globalBytes (a + b) = globalBytes a + globalBytes b := by
  funext scope
  cases scope <;> simp [globalBytes]

theorem globalBytes_neg (a : Int) : globalBytes (-a) = -globalBytes a := by
  funext scope
  cases scope <;> simp [globalBytes]

theorem tenantBytes_neg (tenantId : String) (a : Int) :
    tenantBytes tenantId (-a) = -tenantBytes tenantId a := by
  funext scope
  cases scope with
  | none => simp [tenantBytes]
  | some other =>
      simp only [tenantBytes, Pi.neg_apply]
      split <;> simp

theorem tenantBytes_le {usage : StorageUsage} {row : UploadRow} (live : row.state ≠ .deleted)
    (held : charge row ≤ usage.reading) : row.expectedSizeBytes ≤ usage.reservedFor row.tenantId := by
  have := held (some row.tenantId)
  simpa [charge, live, reading] using this

end StorageUsage

open StorageUsage

theorem charge_of_live {row : UploadRow} (live : row.state ≠ .deleted) :
    charge row =
      globalBytes row.expectedSizeBytes + tenantBytes row.tenantId row.expectedSizeBytes := by
  funext scope
  cases scope with
  | none => simp [charge, live, globalBytes, tenantBytes]
  | some tenantId => simp [charge, live, globalBytes, tenantBytes, eq_comm]

theorem charge_of_deleted {row : UploadRow} (deleted : row.state = .deleted) : charge row = 0 := by
  funext scope
  cases scope <;> simp [charge, deleted]

theorem charge_eq (row : UploadRow) :
    charge row =
      globalBytes (if row.state ≠ .deleted then row.expectedSizeBytes else 0) +
        (if row.state ≠ .deleted then tenantBytes row.tenantId row.expectedSizeBytes else 0) := by
  by_cases live : row.state ≠ .deleted
  · rw [if_pos live, if_pos live, charge_of_live live]
  · rw [if_neg live, if_neg live, charge_of_deleted (not_not.1 live)]
    funext scope
    cases scope <;> rfl

namespace StorageUsage

theorem afterInsert_reading {usage usage' : StorageUsage} {new : UploadRow}
    (keyed : usage.Keyed) (ran : usage.afterInsert new = .ok usage') :
    usage'.reading = usage.reading + charge new ∧ usage'.Keyed := by
  rw [afterInsert] at ran
  split at ran
  · rename_i live
    obtain ⟨middle, global, tenant⟩ := except_bind_eq_ok.1 ran
    obtain ⟨globalReading, sameTenants⟩ := addGlobal_reading global
    have keyedMiddle : middle.Keyed := by rw [Keyed, sameTenants]; exact keyed
    obtain ⟨tenantReading, keyed'⟩ := addTenant_reading keyedMiddle tenant
    refine ⟨?_, keyed'⟩
    rw [tenantReading, globalReading, charge_of_live live, add_assoc]
  · rename_i deleted
    cases ran
    rw [charge_of_deleted (not_not.1 deleted)]
    exact ⟨(add_zero _).symm, keyed⟩

theorem afterDelete_reading {usage usage' : StorageUsage} {old : UploadRow}
    (keyed : usage.Keyed) (sized : 0 ≤ old.expectedSizeBytes) (held : charge old ≤ usage.reading)
    (ran : usage.afterDelete old = .ok usage') :
    usage'.reading = usage.reading + -charge old ∧ usage'.Keyed := by
  rw [afterDelete] at ran
  split at ran
  · rename_i live
    obtain ⟨middle, global, rest⟩ := except_bind_eq_ok.1 ran
    obtain ⟨after, tenant, dropped⟩ := except_bind_eq_ok.1 rest
    cases dropped
    obtain ⟨globalReading, sameTenants⟩ := addGlobal_reading global
    have keyedMiddle : middle.Keyed := by rw [Keyed, sameTenants]; exact keyed
    have heldMiddle : old.expectedSizeBytes ≤ middle.reservedFor old.tenantId := by
      have := tenantBytes_le live held
      simpa [reservedFor, sameTenants] using this
    obtain ⟨tenantReading, keyedAfter⟩ :=
      subtractTenant_reading keyedMiddle sized heldMiddle tenant
    obtain ⟨dropReading, keyed'⟩ := dropEmptyTenant_reading keyedAfter old.tenantId
    refine ⟨?_, keyed'⟩
    rw [dropReading, tenantReading, globalReading, charge_of_live live, globalBytes_neg,
      tenantBytes_neg]
    abel
  · rename_i deleted
    cases ran
    rw [charge_of_deleted (not_not.1 deleted)]
    exact ⟨by simp, keyed⟩

theorem afterUpdate_reading {usage usage' : StorageUsage} {old new : UploadRow}
    (keyed : usage.Keyed) (sized : 0 ≤ old.expectedSizeBytes) (held : charge old ≤ usage.reading)
    (ran : usage.afterUpdate old new = .ok usage') :
    usage'.reading = usage.reading + (charge new - charge old) ∧ usage'.Keyed := by
  rw [afterUpdate] at ran
  split at ran
  · obtain ⟨middle, global, rest⟩ := except_bind_eq_ok.1 ran
    obtain ⟨after, tenant, last⟩ := except_bind_eq_ok.1 rest
    obtain ⟨globalReading, sameTenants⟩ := addGlobal_reading global
    have keyedMiddle : middle.Keyed := by rw [Keyed, sameTenants]; exact keyed
    have refunded : after.reading = middle.reading +
        (if old.state ≠ .deleted then tenantBytes old.tenantId (-old.expectedSizeBytes) else 0) ∧
        after.Keyed := by
      rw [refundTenant] at tenant
      split at tenant
      · rename_i live
        have heldMiddle : old.expectedSizeBytes ≤ middle.reservedFor old.tenantId := by
          have := tenantBytes_le live held
          simpa [reservedFor, sameTenants] using this
        rw [if_pos live]
        exact subtractTenant_reading keyedMiddle sized heldMiddle tenant
      · rename_i deleted
        cases tenant
        rw [if_neg deleted]
        exact ⟨(add_zero _).symm, keyedMiddle⟩
    obtain ⟨dropReading, keyedDropped⟩ := dropEmptyTenant_reading refunded.2 old.tenantId
    have charged : usage'.reading = (after.dropEmptyTenant old.tenantId).reading +
        (if new.state ≠ .deleted then tenantBytes new.tenantId new.expectedSizeBytes else 0) ∧
        usage'.Keyed := by
      rw [chargeTenant] at last
      split at last
      · rename_i live
        rw [if_pos live]
        exact addTenant_reading keyedDropped last
      · rename_i deleted
        cases last
        rw [if_neg deleted]
        exact ⟨(add_zero _).symm, keyedDropped⟩
    refine ⟨?_, charged.2⟩
    rw [charged.1, dropReading, refunded.1, globalReading]
    have negated :
        (if old.state ≠ .deleted then tenantBytes old.tenantId (-old.expectedSizeBytes) else 0) =
          -(if old.state ≠ .deleted then tenantBytes old.tenantId old.expectedSizeBytes else 0) := by
      split
      · exact tenantBytes_neg _ _
      · exact neg_zero.symm
    rw [charge_eq old, charge_eq new, globalBytes_add, globalBytes_neg, negated]
    abel
  · rename_i unchanged
    cases ran
    simp only [ne_eq, not_or, not_not] at unchanged
    obtain ⟨tenantId, state, size⟩ := unchanged
    have same : charge new = charge old := by
      funext scope
      cases scope <;> simp [charge, tenantId, state, size]
    rw [same, sub_self]
    exact ⟨(add_zero _).symm, keyed⟩

end StorageUsage

/-! ## What a statement's firings do -/

/-- The usage rows read exactly what the uploads ought to be charged. -/
structure StorageUsage.Exact (usage : StorageUsage) (uploads : List UploadRow) : Prop where
  keyed : usage.Keyed
  reading : usage.reading = total charge uploads

end MediaBooster.Store
