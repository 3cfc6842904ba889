/-
# Quota.Backup -- verifying a database snapshot

`verify_pool` is what a live database, a snapshot and a restore candidate are checked with: the
pragmas, the migration history, and the usage and counter rows against the tables they count.
It compares the tenants' rows with the sums in one compound query, whose operators associate to
the left, so the comparison goes one way only (`Theory.Compound`).

* `verifyPool_iff`: an intact database is accepted exactly when its totals are `Covered`.
* `verify_exact_iff`: that is exactness unless a tenant's row is left over that counts nothing.
* `stray_row_verifies`: a database with such a row is accepted.
-/
import MediaBooster.Quota.Counters
import MediaBooster.Theory.Compound

namespace MediaBooster.Quota

set_option autoImplicit false

open MediaBooster.Domain MediaBooster.Store MediaBooster.Theory.Compound MediaBooster.Theory.Table
open MediaBooster.Theory.Transaction

/-! ## A database -/

/-- A row of `_sqlx_migrations`. -/
structure MigrationRow where
  version : Int
  success : Bool
deriving DecidableEq

/-- The content of a database file, with what the pragmas answer about it.  The usage row and the
counters row may be missing. -/
structure DatabaseContent where
  quickCheck : List String
  foreignKeyCheck : List String
  migrations : List MigrationRow
  hasGlobalUsage : Bool
  hasOperationalCounters : Bool
  tables : SqliteStore

namespace DatabaseContent

variable (db : DatabaseContent)

/-- `SELECT reserved_bytes FROM storage_usage_global WHERE singleton = 1`. -/
def globalUsage : Option Int :=
  if db.hasGlobalUsage then some db.tables.usage.globalReservedBytes else none

/-- The row of `operational_counters`. -/
def operationalCounters : Option OperationalCounters :=
  if db.hasOperationalCounters then some db.tables.operationalCounters else none

/-- `SELECT tenant_id, reserved_bytes FROM tenant_storage_usage`. -/
def tenantUsage : List (String × Int) :=
  db.tables.usage.tenants.map fun row => (row.tenantId, row.reservedBytes)

/-- `SELECT MAX(version) FROM _sqlx_migrations WHERE success = 1`. -/
def schemaVersion : Option Int := ((db.migrations.filter MigrationRow.success).map
  MigrationRow.version).max?

/-- `SELECT COUNT(*) FROM _sqlx_migrations WHERE success <> 1`. -/
def failedMigrations : Int := countWhere (fun row => !row.success) db.migrations

end DatabaseContent

/-! ## Sums -/

/-- How a query of the verification fails. -/
inductive QueryError
  | rowNotFound
  | integerOverflow
deriving DecidableEq

/-- `SUM` over integers, which fails where a partial sum is no 64-bit integer; of no rows it is
`NULL`, here 0. -/
def sqliteSum (values : List Int) (start : Int) : Except QueryError Int :=
  match values with
  | [] => .ok start
  | value :: rest =>
      match i64CheckedAdd start value with
      | none => .error .integerOverflow
      | some sum => sqliteSum rest sum

/-- The sizes of the uploads that are not deleted. -/
def liveSizes (rows : List UploadRow) : List Int :=
  (rows.filter fun row => row.state != .deleted).map fun row => row.expectedSizeBytes

/-- The tenants with uploads that are not deleted. -/
def liveTenants (rows : List UploadRow) : List String :=
  ((rows.filter fun row => row.state != .deleted).map fun row => row.tenantId).dedup

/-- `SELECT tenant_id, SUM(expected_size_bytes) FROM uploads WHERE state <> 'deleted'
GROUP BY tenant_id`. -/
def tenantSums (rows : List UploadRow) : List String → Except QueryError (List (String × Int))
  | [] => .ok []
  | tenantId :: rest =>
      match sqliteSum (liveSizes (rows.filter fun row => decide (row.tenantId = tenantId))) 0 with
      | .error error => .error error
      | .ok sum =>
          match tenantSums rows rest with
          | .error error => .error error
          | .ok sums => .ok ((tenantId, sum) :: sums)

/-! ## Verification -/

/-- `DatabaseBackupError`. -/
inductive DatabaseBackupError
  | invalidPath
  | sqlite (error : QueryError)
  | integrity (message : String)
deriving DecidableEq

/-- Integrity and application invariants proven for one database snapshot. -/
structure DatabaseVerification where
  schemaVersion : Nat
  uploads : Nat
  derivatives : Nat
  jobs : Nat
  orphanSuspects : Nat
  reservedSourceBytes : Nat
deriving DecidableEq

/-- `LATEST_SCHEMA_VERSION`. -/
def latestSchemaVersion : Int := 11

/-- Refuse the database unless the condition holds. -/
def accept (condition : Bool) (message : String) : Except DatabaseBackupError Unit :=
  if condition then .ok () else .error (.integrity message)

/-- The one row of a query. -/
def fetchOne {α : Type} : Option α → Except DatabaseBackupError α
  | some row => .ok row
  | none => .error (.sqlite .rowNotFound)

/-- `nonnegative`: `u64::try_from` of a 64-bit integer. -/
def nonnegative (value : Int) (message : String) : Except DatabaseBackupError Nat :=
  if 0 ≤ value then .ok value.toNat else .error (.integrity message)

/-- The pragmas and the migration history; the schema version. -/
def verifySchema (db : DatabaseContent) : Except DatabaseBackupError Int := do
  accept (db.quickCheck == ["ok"]) "SQLite quick_check failed"
  accept db.foreignKeyCheck.isEmpty "SQLite foreign_key_check failed"
  let version ← match db.schemaVersion with
    | some version => .ok version
    | none => .error (.integrity "schema migration history is empty")
  accept (version == latestSchemaVersion && db.failedMigrations == 0)
    "schema migration history does not match this binary"
  return version

/-- The usage rows against the uploads; the reserved bytes. -/
def verifyUsage (db : DatabaseContent) : Except DatabaseBackupError Int := do
  let stored ← fetchOne db.globalUsage
  let calculated ← (sqliteSum (liveSizes db.tables.uploads) 0).mapError .sqlite
  accept (stored == calculated) "global reserved byte counter disagrees with uploads"
  let sums ← (tenantSums db.tables.uploads (liveTenants db.tables.uploads)).mapError .sqlite
  let mismatches := compound db.tenantUsage
    [(.except, sums), (.unionAll, sums), (.except, db.tenantUsage)]
  accept (mismatches.length == 0) "tenant reserved byte counters disagree with uploads"
  return stored

/-- Every counter against the rows it counts. -/
def countersMatch (counters recounted : OperationalCounters) : Bool :=
  counters .queuedJobs == recounted .queuedJobs && counters .leasedJobs == recounted .leasedJobs &&
    counters .deadLetterJobs == recounted .deadLetterJobs &&
    counters .processingUploads == recounted .processingUploads &&
    counters .cleanupPendingUploads == recounted .cleanupPendingUploads &&
    counters .uploadTombstones == recounted .uploadTombstones &&
    counters .orphanSuspects == recounted .orphanSuspects &&
    counters .orphanDeleteFailures == recounted .orphanDeleteFailures

/-- The operational counters against the tables. -/
def verifyCounters (db : DatabaseContent) : Except DatabaseBackupError Unit := do
  let counters ← fetchOne db.operationalCounters
  accept (countersMatch counters (recount db.tables))
    "operational counters disagree with durable rows"

/-- `verify_pool`. -/
def verifyPool (db : DatabaseContent) : Except DatabaseBackupError DatabaseVerification := do
  let version ← verifySchema db
  let stored ← verifyUsage db
  verifyCounters db
  let schemaVersion ← nonnegative version "schema version is invalid"
  let uploads ← nonnegative db.tables.uploads.length "database row count is invalid"
  let derivatives ← nonnegative db.tables.derivatives.length "database row count is invalid"
  let jobs ← nonnegative db.tables.jobs.length "database row count is invalid"
  let orphanSuspects ← nonnegative
    (countWhere (fun row => row.state == .suspected) db.tables.orphanObjects)
    "database row count is invalid"
  let reservedSourceBytes ← nonnegative stored "reserved source byte count is invalid"
  return { schemaVersion, uploads, derivatives, jobs, orphanSuspects, reservedSourceBytes }

/-- A database whose schema and foreign keys are intact: the pragmas and the migration history
are in order, and the rows satisfy the checks and the key of their tables. -/
structure IntactDatabase extends DatabaseContent where
  quickChecked : quickCheck = ["ok"]
  foreignKeys : foreignKeyCheck = []
  migrated : toDatabaseContent.schemaVersion = some latestSchemaVersion
  unfailed : toDatabaseContent.failedMigrations = 0
  sizes : ∀ row ∈ tables.uploads, 0 ≤ row.expectedSizeBytes
  globalRange : 0 ≤ tables.usage.globalReservedBytes ∧ tables.usage.globalReservedBytes ≤ i64Max
  tenantRange : ∀ row ∈ tables.usage.tenants, row.reservedBytes ≤ i64Max
  tenantKey : KeyedBy TenantUsageRow.tenantId tables.usage.tenants

/-! ## What the queries say -/

theorem sqliteSum_eq_ok {values : List Int} {start sum : Int} (nonneg : ∀ value ∈ values, 0 ≤ value)
    (lower : 0 ≤ start) (upper : start ≤ i64Max) :
    sqliteSum values start = .ok sum ↔ sum = start + values.sum ∧ start + values.sum ≤ i64Max := by
  induction values generalizing start with
  | nil =>
      simp only [sqliteSum, List.sum_nil, Except.ok.injEq]
      omega
  | cons value rest ih =>
      have first := nonneg value List.mem_cons_self
      have others : ∀ value ∈ rest, 0 ≤ value :=
        fun value member => nonneg value (List.mem_cons_of_mem _ member)
      have tail : 0 ≤ rest.sum := List.sum_nonneg others
      rw [List.sum_cons, sqliteSum]
      cases added : i64CheckedAdd start value with
      | none =>
          simp only [reduceCtorEq, false_iff, not_and, not_le]
          intro _
          by_contra fits
          have some : i64CheckedAdd start value = some (start + value) :=
            i64CheckedAdd_eq_some.2 ⟨rfl, by unfold i64Min; omega, by omega⟩
          rw [added] at some
          cases some
      | some next =>
          obtain ⟨rfl, bounds⟩ := i64CheckedAdd_eq_some.1 added
          show sqliteSum rest (start + value) = .ok sum ↔ _
          rw [ih others (by omega) (by omega)]
          omega

theorem liveSizes_nonneg {rows : List UploadRow} (sized : Sized rows) :
    ∀ value ∈ liveSizes rows, 0 ≤ value := by
  intro value member
  obtain ⟨row, live, rfl⟩ := List.mem_map.1 member
  exact sized row (List.mem_of_mem_filter live)

theorem liveSum_eq_ok {rows : List UploadRow} {sum : Int} (sized : Sized rows) :
    sqliteSum (liveSizes rows) 0 = .ok sum ↔
      sum = reservedBytes rows ∧ reservedBytes rows ≤ i64Max := by
  rw [sqliteSum_eq_ok (liveSizes_nonneg sized) (le_refl 0) (by decide), zero_add]
  rfl

theorem tenantSums_eq_ok {rows : List UploadRow} {tenants : List String}
    {sums : List (String × Int)} (sized : Sized rows) :
    tenantSums rows tenants = .ok sums ↔
      (∀ tenantId ∈ tenants, tenantReservedBytes tenantId rows ≤ i64Max) ∧
        sums = tenants.map fun tenantId => (tenantId, tenantReservedBytes tenantId rows) := by
  induction tenants generalizing sums with
  | nil => simp [tenantSums, eq_comm]
  | cons tenantId rest ih =>
      have own : Sized (rows.filter fun row => decide (row.tenantId = tenantId)) :=
        fun row member => sized row (List.mem_of_mem_filter member)
      rw [tenantSums]
      cases summed : sqliteSum
          (liveSizes (rows.filter fun row => decide (row.tenantId = tenantId))) 0 with
      | error error =>
          constructor
          · intro impossible
            cases impossible
          · rintro ⟨bounded, -⟩
            have ok := (liveSum_eq_ok own).2 ⟨rfl, bounded tenantId List.mem_cons_self⟩
            rw [summed] at ok
            cases ok
      | ok sum =>
          obtain ⟨rfl, bounded⟩ := (liveSum_eq_ok own).1 summed
          cases more : tenantSums rows rest with
          | error error =>
              constructor
              · intro impossible
                cases impossible
              · rintro ⟨all, -⟩
                have ok := ih.2 ⟨fun other member => all other (List.mem_cons_of_mem _ member), rfl⟩
                rw [more] at ok
                cases ok
          | ok others =>
              obtain ⟨all, rfl⟩ := ih.1 more
              constructor
              · rintro ⟨⟩
                refine ⟨fun other member => ?_, rfl⟩
                obtain rfl | later := List.mem_cons.1 member
                · exact bounded
                · exact all other later
              · rintro ⟨-, rfl⟩
                rfl

theorem countersMatch_iff {counters recounted : OperationalCounters} :
    countersMatch counters recounted = true ↔ counters = recounted := by
  constructor
  · intro same
    simp only [countersMatch, Bool.and_eq_true, beq_iff_eq] at same
    obtain ⟨⟨⟨⟨⟨⟨⟨queued, leased⟩, dead⟩, processing⟩, pending⟩, tombstones⟩, suspects⟩, failures⟩ :=
      same
    funext counter
    cases counter <;> assumption
  · rintro rfl
    simp [countersMatch]

theorem accept_eq_ok {condition : Bool} {message : String} {done : Unit} :
    accept condition message = .ok done ↔ condition = true := by
  cases condition <;> simp [accept]

theorem fetchOne_eq_ok {α : Type} {row : Option α} {value : α} :
    fetchOne row = .ok value ↔ row = some value := by
  cases row <;> simp [fetchOne]

theorem nonnegative_of {value : Int} {message : String} (nonneg : 0 ≤ value) :
    nonnegative value message = .ok value.toNat := if_pos nonneg

/-! ## What is accepted -/

/-- What the verification asks of the totals: the global row and the counters agree with the
tables, and every tenant with uploads has its sum among the rows. -/
structure Covered (db : DatabaseContent) : Prop where
  global : db.globalUsage = some (reservedBytes db.tables.uploads)
  tenants : ∀ tenantId ∈ liveTenants db.tables.uploads,
    (tenantId, tenantReservedBytes tenantId db.tables.uploads) ∈ db.tenantUsage
  counters : db.operationalCounters = some (recount db.tables)

/-- The totals are exact: the rows of the tenants are the sums, no more and no fewer. -/
structure Exact (db : DatabaseContent) : Prop where
  global : db.globalUsage = some (reservedBytes db.tables.uploads)
  tenants : ∀ tenantId bytes, (tenantId, bytes) ∈ db.tenantUsage ↔
    tenantId ∈ liveTenants db.tables.uploads ∧
      bytes = tenantReservedBytes tenantId db.tables.uploads
  counters : db.operationalCounters = some (recount db.tables)

/-- Every row of a tenant is for a tenant with uploads that are not deleted. -/
def NoStrayRow (db : DatabaseContent) : Prop :=
  ∀ row ∈ db.tables.usage.tenants, row.tenantId ∈ liveTenants db.tables.uploads

/-- A live tenant's row is among the rows only if its sum is a 64-bit integer. -/
theorem IntactDatabase.sum_le (db : IntactDatabase) {tenantId : String} {bytes : Int}
    (member : (tenantId, bytes) ∈ db.tenantUsage) : bytes ≤ i64Max := by
  obtain ⟨row, there, same⟩ := List.mem_map.1 member
  have range := db.tenantRange row there
  cases same
  exact range

/-- The stored total is what a 64-bit integer that is not negative can be. -/
theorem IntactDatabase.global_range (db : IntactDatabase) {bytes : Int}
    (stored : db.globalUsage = some bytes) : 0 ≤ bytes ∧ bytes ≤ i64Max := by
  unfold DatabaseContent.globalUsage at stored
  split at stored
  · rw [← Option.some.inj stored]
    exact db.globalRange
  · cases stored

theorem verifyUsage_eq_ok (db : IntactDatabase) {stored : Int} :
    verifyUsage db.toDatabaseContent = .ok stored ↔
      db.globalUsage = some (reservedBytes db.tables.uploads) ∧
      (∀ tenantId ∈ liveTenants db.tables.uploads,
        (tenantId, tenantReservedBytes tenantId db.tables.uploads) ∈ db.tenantUsage) ∧
      stored = reservedBytes db.tables.uploads := by
  have sized : Sized db.tables.uploads := db.sizes
  simp only [verifyUsage, except_bind_eq_ok, fetchOne_eq_ok, except_mapError_eq_ok, accept_eq_ok,
    liveSum_eq_ok sized, tenantSums_eq_ok sized, beq_iff_eq, List.length_eq_zero_iff,
    differences_eq_nil]
  constructor
  · rintro ⟨found, row, _, ⟨rfl, -⟩, -, rfl, _, ⟨-, rfl⟩, -, covered, same⟩
    cases same
    refine ⟨row, fun tenantId member => ?_, rfl⟩
    exact covered _ (List.mem_map_of_mem member)
  · rintro ⟨row, covered, rfl⟩
    refine ⟨_, row, _, ⟨rfl, (db.global_range row).2⟩, (), rfl, _, ⟨fun tenantId member => ?_, rfl⟩, (), ?_, rfl⟩
    · exact db.sum_le (covered tenantId member)
    · rintro pair member
      obtain ⟨tenantId, live, rfl⟩ := List.mem_map.1 member
      exact covered tenantId live

theorem verifySchema_ok (db : IntactDatabase) :
    verifySchema db.toDatabaseContent = .ok latestSchemaVersion := by
  unfold verifySchema
  rw [db.migrated, db.quickChecked, db.foreignKeys, db.unfailed]
  rfl

theorem verifyCounters_eq_ok {db : DatabaseContent} {done : Unit} :
    verifyCounters db = .ok done ↔ db.operationalCounters = some (recount db.tables) := by
  simp only [verifyCounters, except_bind_eq_ok, fetchOne_eq_ok, accept_eq_ok, countersMatch_iff]
  constructor
  · rintro ⟨counters, row, rfl⟩
    exact row
  · intro row
    exact ⟨_, row, rfl⟩

/-- **An intact database is accepted exactly when its totals are covered.** -/
theorem verifyPool_iff (db : IntactDatabase) :
    (verifyPool db.toDatabaseContent).isOk = true ↔ Covered db.toDatabaseContent := by
  constructor
  · intro accepted
    cases verified : verifyPool db.toDatabaseContent with
    | error error =>
        rw [verified] at accepted
        cases accepted
    | ok verification =>
        simp only [verifyPool, except_bind_eq_ok] at verified
        obtain ⟨version, -, stored, usage, done, counters, -⟩ := verified
        obtain ⟨global, tenants, -⟩ := (verifyUsage_eq_ok db).1 usage
        exact ⟨global, tenants, verifyCounters_eq_ok.1 counters⟩
  · rintro ⟨global, tenants, counters⟩
    have usage := (verifyUsage_eq_ok db).2 ⟨global, tenants, rfl⟩
    have matched : verifyCounters db.toDatabaseContent = .ok () := verifyCounters_eq_ok.2 counters
    have stored : 0 ≤ reservedBytes db.tables.uploads := (db.global_range global).1
    have suspects : 0 ≤ countWhere (fun row => row.state == .suspected) db.tables.orphanObjects :=
      Int.natCast_nonneg _
    unfold verifyPool
    rw [verifySchema_ok, usage, matched]
    simp only [bind, Except.bind]
    rw [nonnegative_of (by decide), nonnegative_of (Int.natCast_nonneg _),
      nonnegative_of (Int.natCast_nonneg _), nonnegative_of (Int.natCast_nonneg _),
      nonnegative_of suspects, nonnegative_of stored]
    rfl

/-- Exact totals are covered totals without a stray row. -/
theorem exact_iff (db : IntactDatabase) :
    Exact db.toDatabaseContent ↔ Covered db.toDatabaseContent ∧ NoStrayRow db.toDatabaseContent := by
  constructor
  · rintro ⟨global, tenants, counters⟩
    refine ⟨⟨global, fun tenantId live => (tenants _ _).2 ⟨live, rfl⟩, counters⟩, ?_⟩
    intro row member
    exact ((tenants row.tenantId row.reservedBytes).1 (List.mem_map_of_mem member)).1
  · rintro ⟨⟨global, tenants, counters⟩, none⟩
    refine ⟨global, fun tenantId bytes => ⟨fun member => ?_, ?_⟩, counters⟩
    · obtain ⟨row, there, same⟩ := List.mem_map.1 member
      cases same
      have live := none row there
      obtain ⟨other, found, same⟩ := List.mem_map.1 (tenants _ live)
      obtain ⟨owner, sum⟩ := Prod.mk.inj same
      have one : other = row := db.tenantKey.eq_of_key found there owner
      subst one
      exact ⟨live, sum⟩
    · rintro ⟨live, rfl⟩
      exact tenants tenantId live

/-- **Verification is exact up to stray rows.**  An intact database is accepted if and only if its
totals are exact, unless its totals are covered and a tenant's row is left over that counts no
upload. -/
theorem verify_exact_iff (db : IntactDatabase) :
    ((verifyPool db.toDatabaseContent).isOk = true ↔ Exact db.toDatabaseContent) ↔
      (NoStrayRow db.toDatabaseContent ∨ ¬ Covered db.toDatabaseContent) := by
  rw [verifyPool_iff, exact_iff]
  constructor
  · intro both
    by_cases covered : Covered db.toDatabaseContent
    · exact .inl (both.1 covered).2
    · exact .inr covered
  · rintro (none | uncovered)
    · exact ⟨fun covered => ⟨covered, none⟩, fun both => both.1⟩
    · exact ⟨fun covered => absurd covered uncovered, fun both => both.1⟩

/-! ## A stray row -/

/-- A freshly migrated database with a usage row of a tenant that has no uploads. -/
def strayTables : SqliteStore := { SqliteStore.migrated with usage := ⟨0, [⟨"g5", 1024⟩]⟩ }

theorem strayTables_sizes : ∀ row ∈ strayTables.uploads, 0 ≤ row.expectedSizeBytes :=
  fun _ member => nomatch member

theorem strayTables_globalRange : 0 ≤ strayTables.usage.globalReservedBytes ∧
    strayTables.usage.globalReservedBytes ≤ i64Max := by
  decide

theorem strayTables_tenantRange : ∀ row ∈ strayTables.usage.tenants, row.reservedBytes ≤ i64Max := by
  decide

theorem strayTables_tenantKey : KeyedBy TenantUsageRow.tenantId strayTables.usage.tenants :=
  List.nodup_singleton _

def strayDatabase : IntactDatabase where
  quickCheck := ["ok"]
  foreignKeyCheck := []
  migrations := [⟨latestSchemaVersion, true⟩]
  hasGlobalUsage := true
  hasOperationalCounters := true
  tables := strayTables
  quickChecked := rfl
  foreignKeys := rfl
  migrated := rfl
  unfailed := rfl
  sizes := strayTables_sizes
  globalRange := strayTables_globalRange
  tenantRange := strayTables_tenantRange
  tenantKey := strayTables_tenantKey

/-- **A stray row is accepted**: the tenant has no uploads, and a row of 1024 bytes. -/
theorem stray_row_verifies : ¬ ∀ db : IntactDatabase,
    (verifyPool db.toDatabaseContent).isOk = true ↔ Exact db.toDatabaseContent := by
  intro exact
  have accepted : (verifyPool strayDatabase.toDatabaseContent).isOk = true := by decide +kernel
  obtain ⟨-, tenants, -⟩ := (exact strayDatabase).1 accepted
  have listed : ("g5", (1024 : Int)) ∈ strayDatabase.tenantUsage := List.mem_singleton_self _
  obtain ⟨live, -⟩ := (tenants "g5" 1024).1 listed
  cases live

end MediaBooster.Quota
