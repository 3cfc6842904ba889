/-
# Tenancy.Rows -- what the store holds of one tenant

`tenantRows` cuts one tenant out of the tables: its uploads, the jobs and derivatives of them, its
batches and policies, its turn in the queue and what it is charged.  Jobs and derivatives carry no
tenant; they belong to the one their upload belongs to.

The statements of the calls made for a tenant are given as they act on the cut
(`updateUploads_rows`, `insertJob_rows`, `insertSitePolicy_rows`): what they answer and what they
leave of the tenant depends on its rows alone, and every other tenant's rows stay.  `Tenanted`
collects what that rests on.  Triggers do not get in the way (`Quota.Triggers`), an identifier
belongs to one tenant, and a policy's asset is an upload of the policy's own tenant.
-/
import MediaBooster.Delivery.Manifest
import MediaBooster.Quota.Triggers

namespace MediaBooster.Tenancy

set_option autoImplicit false

open MediaBooster.Delivery MediaBooster.Domain MediaBooster.Quota MediaBooster.Store
open MediaBooster.Theory.Table MediaBooster.Theory.Transaction

/-! ## Tables, cut down -/

section Tables

variable {α : Type} {hit wanted : α → Bool} {change : α → α} {rows : List α}

/-- An update that keeps a condition may be made after the rows were picked by it. -/
theorem filter_updateWhere (keeps : ∀ row, wanted (change row) = wanted row) :
    (updateWhere hit change rows).filter wanted = updateWhere hit change (rows.filter wanted) := by
  induction rows with
  | nil => rfl
  | cons row rows ih =>
      have head : wanted (if hit row then change row else row) = wanted row := by
        split
        · exact keeps row
        · rfl
      simp only [updateWhere, List.map_cons, List.filter_cons, head] at ih ⊢
      rw [ih]
      split <;> simp

/-- Rows an update does not reach stay, picked by any condition it keeps. -/
theorem filter_updateWhere_of_apart (keeps : ∀ row, wanted (change row) = wanted row)
    (apart : ∀ row, hit row = true → wanted row = false) :
    (updateWhere hit change rows).filter wanted = rows.filter wanted := by
  rw [filter_updateWhere keeps]
  refine updateWhere_of_untouched fun row member => ?_
  by_contra reached
  have dropped := apart row (by simpa using reached)
  rw [(List.mem_filter.1 member).2] at dropped
  cases dropped

theorem length_touched : (touched hit change rows).length = (rows.filter hit).length := by
  simp [touched]

/-- A condition that implies another may be looked for after the rows were picked by that one. -/
theorem filter_of_implies (implies : ∀ row, hit row = true → wanted row = true) :
    rows.filter hit = (rows.filter wanted).filter hit := by
  rw [List.filter_filter]
  refine List.filter_congr fun row _ => ?_
  cases reached : hit row with
  | true => simp [implies row reached]
  | false => simp

end Tables

/-! ## The rows of a tenant -/

/-- The tenant has this upload. -/
def ownsUpload (tenantId : String) (store : SqliteStore) (uploadId : UploadId) : Bool :=
  store.uploads.any (ownedUpload tenantId uploadId)

/-- What the store holds of one tenant. -/
structure TenantRows where
  batches : List UploadBatchRow
  uploads : List UploadRow
  jobs : List JobRow
  derivatives : List DerivativeRow
  policies : List SitePolicyRow
  turns : List TenantQueueRow
  reservedBytes : Int
deriving DecidableEq

def tenantRows (tenantId : String) (store : SqliteStore) : TenantRows where
  batches := store.uploadBatches.filter fun row => row.tenantId == tenantId
  uploads := store.uploads.filter fun row => row.tenantId == tenantId
  jobs := store.jobs.filter fun job => ownsUpload tenantId store job.uploadId
  derivatives := store.derivatives.filter fun row => ownsUpload tenantId store row.uploadId
  policies := store.sitePolicySnapshots.filter fun row => row.tenantId == tenantId
  turns := store.tenantQueueState.filter fun row => row.tenantId == tenantId
  reservedBytes := store.usage.reservedFor tenantId

/-- Every policy's asset is an upload of the policy's own tenant. -/
def AssetsOwned (store : SqliteStore) : Prop :=
  ∀ policy ∈ store.sitePolicySnapshots, ∀ mark, policy.watermark = some mark →
    ownsUpload policy.tenantId store mark.uploadId = true

/-- What holds of a store that serves tenants. -/
structure Tenanted (store : SqliteStore) : Prop where
  integrity : store.Integrity
  kept : Kept store
  aggregated : Aggregated store
  assets : AssetsOwned store

section Owners

variable {s t : SqliteStore} {tenantId other : String} {uploadId : UploadId}

theorem ownsUpload_iff : ownsUpload tenantId s uploadId = true ↔
    ∃ row ∈ s.uploads, row.tenantId = tenantId ∧ row.id = uploadId := by
  simp only [ownsUpload, List.any_eq_true, ownedUpload_iff]

/-- An upload has one owner. -/
theorem owner_unique (integrity : s.Integrity) (owns : ownsUpload tenantId s uploadId = true)
    (owns' : ownsUpload other s uploadId = true) : other = tenantId := by
  obtain ⟨row, member, rfl, named⟩ := ownsUpload_iff.1 owns
  obtain ⟨row', member', rfl, named'⟩ := ownsUpload_iff.1 owns'
  rw [integrity.uploadIds.eq_of_key member member' (named.trans named'.symm)]

theorem ownsUpload_other (integrity : s.Integrity) (owns : ownsUpload tenantId s uploadId = true)
    (apart : other ≠ tenantId) : ownsUpload other s uploadId = false := by
  by_contra owned
  exact apart (owner_unique integrity owns (by simpa using owned))

/-- Whether a tenant has an upload is read off its own rows. -/
theorem ownsUpload_eq : ownsUpload tenantId s uploadId =
    (tenantRows tenantId s).uploads.any fun row => row.id == uploadId := by
  rw [Bool.eq_iff_iff, ownsUpload_iff]
  simp [tenantRows]

/-- The one row of an upload is read off its owner's rows. -/
theorem find?_owned : s.uploads.find? (ownedUpload tenantId uploadId) =
    (tenantRows tenantId s).uploads.find? fun row => row.id == uploadId := by
  simp only [tenantRows, List.find?_filter, ← Bool.and_eq_true, Bool.decide_eq_true]
  rfl

theorem ownsUpload_of_evolves (evolved : List.Forall₂ Evolves s.uploads t.uploads) :
    ownsUpload tenantId t uploadId = ownsUpload tenantId s uploadId := by
  have names : ∀ {before after : UploadRow}, Evolves before after →
      ownedUpload tenantId uploadId after = ownedUpload tenantId uploadId before := by
    intro before after evolves
    simp only [ownedUpload, evolves.id,
      show after.tenantId = before.tenantId from congrArg UploadReserved.tenantId evolves.reserved]
  unfold ownsUpload
  generalize s.uploads = rows at evolved
  generalize t.uploads = rows' at evolved
  induction evolved with
  | nil => rfl
  | cons evolves _ ih => simp only [List.any_cons, names evolves, ih]

/-- What a tenant is charged is read off its uploads. -/
theorem reservedFor_eq (metered : Metered s) :
    s.usage.reservedFor tenantId = reservedBytes (tenantRows tenantId s).uploads := by
  have readings := congrFun metered.exact.reading (some tenantId)
  rw [total_charge_some, tenantReservedBytes] at readings
  refine readings.trans (congrArg reservedBytes ?_)
  exact List.filter_congr fun row _ => (Bool.beq_eq_decide_eq row.tenantId tenantId).symm

/-- The rows of a tenant stay when its part of every table does. -/
theorem tenantRows_congr {tenantId : String} (metered : Metered s) (metered' : Metered t)
    (batches : t.uploadBatches = s.uploadBatches) (turns : t.tenantQueueState = s.tenantQueueState)
    (uploads : (tenantRows tenantId t).uploads = (tenantRows tenantId s).uploads)
    (jobs : (tenantRows tenantId t).jobs = (tenantRows tenantId s).jobs)
    (derivatives : t.derivatives = s.derivatives)
    (policies : (tenantRows tenantId t).policies = (tenantRows tenantId s).policies) :
    tenantRows tenantId t = tenantRows tenantId s := by
  have owners : ∀ id, ownsUpload tenantId t id = ownsUpload tenantId s id := by
    intro id
    rw [ownsUpload_eq, ownsUpload_eq, uploads]
  have usage : t.usage.reservedFor tenantId = s.usage.reservedFor tenantId := by
    rw [reservedFor_eq metered, reservedFor_eq metered', uploads]
  simp only [tenantRows, TenantRows.mk.injEq, owners] at uploads jobs policies ⊢
  exact ⟨by rw [batches], uploads, jobs, by rw [derivatives], policies, by rw [turns], usage⟩

end Owners

/-! ## What a tenanted store stays -/

section Kept

variable {K : List Kind} {s t : SqliteStore}

/-- **An upload that a policy refers to stays**, through every statement. -/
theorem wrote_referenced (wrote : Wrote K s t) {policy : SitePolicyRow} {mark : WatermarkColumns}
    (member : policy ∈ s.sitePolicySnapshots) (marked : policy.watermark = some mark)
    {row : UploadRow} (stored : row ∈ s.uploads) (named : row.id = mark.uploadId) :
    ∃ after ∈ t.uploads, Evolves row after := by
  have same : t.uploads = s.uploads → ∃ after ∈ t.uploads, Evolves row after := by
    intro uploads
    rw [uploads]
    exact ⟨row, stored, .refl row⟩
  cases wrote with
  | insertUpload kind fresh ran =>
      obtain ⟨-, -, -, -, usage, counters, -, -, rfl⟩ := SqliteStore.insertUpload_ok ran
      exact ⟨row, List.mem_append_left _ stored, .refl row⟩
  | updateUploads kind evolves ran =>
      obtain ⟨-, usage, counters, -, -, rfl⟩ := SqliteStore.updateUploads_ok ran
      exact forall₂_mem_left (forall₂_updateWhere Evolves.refl evolves) stored
  | @deleteUploads n hit kind tombstones ran =>
      -- the foreign key of the policy restricts the deletion
      simp only [SqliteStore.deleteUploads, except_bind_eq_ok, require_eq_ok] at ran
      obtain ⟨-, unreferenced, usage, -, middle, -, counters, -, result⟩ := ran
      cases result
      refine ⟨row, mem_deleteWhere.2 ⟨stored, ?_⟩, .refl row⟩
      by_contra reached
      have free := List.all_eq_true.1 unreferenced policy member
      rw [marked, Option.all_some, Bool.not_eq_true', List.any_eq_false] at free
      exact free row (List.mem_filter.2 ⟨stored, by simpa using reached⟩) (by simpa using named)
  | insertJob kind queued ran =>
      obtain ⟨-, -, -, counters, -, rfl⟩ := SqliteStore.insertJob_ok ran
      exact same rfl
  | updateJobs kind ran =>
      obtain ⟨-, counters, -, rfl⟩ := SqliteStore.updateJobs_ok ran
      exact same rfl
  | upsertDerivative kind ran =>
      obtain rfl | ⟨-, -, rfl⟩ := SqliteStore.upsertDerivative_ok ran <;> exact same rfl
  | insertSitePolicy kind bounded ran =>
      obtain ⟨-, rfl⟩ | ⟨-, -, rfl⟩ := SqliteStore.insertSitePolicy_ok ran <;> exact same rfl
  | nextClaim kind ran =>
      obtain ⟨-, -, rfl⟩ := SqliteStore.nextClaim_ok ran
      exact same rfl
  | upsertTenantQueue kind ran =>
      obtain ⟨-, rfl⟩ := SqliteStore.upsertTenantQueue_ok ran
      exact same rfl
  | aside kind tables => exact same tables.uploads

/-- The assets of the old policies stay where they belong. -/
theorem wrote_owned (wrote : Wrote K s t) (assets : AssetsOwned s) {policy : SitePolicyRow}
    (member : policy ∈ s.sitePolicySnapshots) {mark : WatermarkColumns}
    (marked : policy.watermark = some mark) :
    ownsUpload policy.tenantId t mark.uploadId = true := by
  obtain ⟨row, stored, owner, named⟩ := ownsUpload_iff.1 (assets policy member mark marked)
  obtain ⟨after, there, evolves⟩ := wrote_referenced wrote member marked stored named
  refine ownsUpload_iff.2 ⟨after, there, ?_, evolves.id.trans named⟩
  exact (congrArg UploadReserved.tenantId evolves.reserved).trans owner

theorem wrote_assets (wrote : Wrote K s t) (assets : AssetsOwned s) (quiet : .policies ∉ K) :
    AssetsOwned t := by
  intro policy member mark marked
  obtain same | ⟨publishes, -⟩ := wrote.policies_cases
  · rw [same] at member
    exact wrote_owned wrote assets member marked
  · exact absurd publishes quiet

theorem effect_assets (effect : Effect K s t) (assets : AssetsOwned s) (quiet : .policies ∉ K) :
    AssetsOwned t :=
  effect.keeps (fun _ _ wrote kept => wrote_assets wrote kept quiet) assets

/-- Statements that publish no policy keep a store tenanted. -/
theorem Tenanted.wrote (tenanted : Tenanted s) (wrote : Wrote K s t) (quiet : .policies ∉ K) :
    Tenanted t :=
  ⟨wrote.integrity tenanted.integrity, wrote.kept tenanted.kept,
    wrote_aggregated wrote tenanted.aggregated, wrote_assets wrote tenanted.assets quiet⟩

end Kept

/-! ## Statements on the rows of a tenant -/

namespace TenantRows

/-- `UPDATE uploads`, where only the tenant's are reached. -/
def updateUploads (hit : UploadRow → Bool) (set : UploadProgress → UploadProgress)
    (rows : TenantRows) : Except SqlError (Nat × TenantRows) :=
  let uploads := updateWhere hit (UploadRow.assign set) rows.uploads
  .ok ((rows.uploads.filter hit).length,
    { rows with uploads := uploads, reservedBytes := Quota.reservedBytes uploads })

/-- `INSERT INTO jobs`, for an upload of the tenant and under a new identifier. -/
def insertJob (row : JobRow) (rows : TenantRows) : Except SqlError (Nat × TenantRows) := do
  require (rows.jobs.all fun other =>
    !(other.uploadId == row.uploadId && other.presetId == row.presetId)) .uniqueViolation
  require (jobChecks row) .checkViolation
  return (1, { rows with jobs := rows.jobs ++ [row] })

/-- The tenant's highest revision. -/
def maxRevision (rows : TenantRows) : Option Int := (rows.policies.map SitePolicyRow.revision).max?

/-- `INSERT INTO site_policy_snapshots`, of the tenant. -/
def insertSitePolicy (row : SitePolicyRow) (rows : TenantRows) : Except SqlError (Nat × TenantRows) :=
  if row.revision = (rows.maxRevision.map (· + 1)).getD 1 then do
    require (sitePolicyChecks row) .checkViolation
    if rows.policies.any fun other => other.revision == row.revision then
      return (0, rows)
    else do
      require (row.watermark.all fun mark => rows.uploads.any fun upload =>
        upload.id == mark.uploadId) .foreignKeyViolation
      return (1, { rows with policies := rows.policies ++ [row] })
  else .ok (0, rows)

end TenantRows

/-- What a statement does to the store is what it does to the tenant's rows, and the rows of the
other tenants stay. -/
inductive Mirrors (tenantId : String) (s : SqliteStore) :
    Except SqlError (Nat × SqliteStore) → Except SqlError (Nat × TenantRows) → Prop
  | done {n : Nat} {t : SqliteStore} {rows : TenantRows} (tenanted : Tenanted t)
      (mine : tenantRows tenantId t = rows)
      (others : ∀ other, other ≠ tenantId → tenantRows other t = tenantRows other s) :
      Mirrors tenantId s (.ok (n, t)) (.ok (n, rows))
  | failed (error : SqlError) : Mirrors tenantId s (.error error) (.error error)

section Statements

variable {s : SqliteStore} {tenantId : String}

/-- **An update of the tenant's uploads is an update of its rows.** -/
theorem updateUploads_rows {hit : UploadRow → Bool} {set : UploadProgress → UploadProgress}
    (tenanted : Tenanted s) (mine : ∀ row, hit row = true → row.tenantId = tenantId)
    (evolves : ∀ row, hit row = true → Evolves row (row.assign set))
    (checked : ∀ row, hit row = true → uploadChecks row = true →
      uploadChecks (row.assign set) = true) :
    Mirrors tenantId s (SqliteStore.updateUploads hit set s)
      ((tenantRows tenantId s).updateUploads hit set) := by
  obtain ⟨n, t, ran⟩ := updateUploads_runs tenanted.aggregated (fun row _ => evolves row)
    fun row member reached => checked row reached (tenanted.kept.checked row member)
  have wrote : Wrote [.updateUploads] s t :=
    .updateUploads (by simp) (fun row _ => evolves row) ran
  have after := tenanted.wrote wrote (by simp)
  have evolved : List.Forall₂ Evolves s.uploads t.uploads := by
    obtain ⟨-, usage, counters, -, -, rfl⟩ := SqliteStore.updateUploads_ok ran
    exact forall₂_updateWhere Evolves.refl fun row _ => evolves row
  have owners : ∀ other id, ownsUpload other t id = ownsUpload other s id :=
    fun _ _ => ownsUpload_of_evolves evolved
  obtain ⟨rfl, usage, counters, -, -, result⟩ := SqliteStore.updateUploads_ok ran
  have reached : (touched hit (UploadRow.assign set) s.uploads).length =
      ((tenantRows tenantId s).uploads.filter hit).length := by
    rw [length_touched]
    exact congrArg List.length (filter_of_implies fun row hits => beq_iff_eq.2 (mine row hits))
  have uploads : (tenantRows tenantId t).uploads =
      updateWhere hit (UploadRow.assign set) (tenantRows tenantId s).uploads := by
    rw [result]
    exact filter_updateWhere fun row => rfl
  rw [ran, reached]
  refine .done after ?_ fun other apart => ?_
  · have charged : t.usage.reservedFor tenantId = reservedBytes (tenantRows tenantId t).uploads :=
      reservedFor_eq after.aggregated.metered
    rw [uploads] at charged
    simp only [tenantRows] at uploads charged ⊢
    simp only [owners, uploads, charged]
    rw [result]
  · refine tenantRows_congr tenanted.aggregated.metered after.aggregated.metered ?_ ?_ ?_ ?_ ?_ ?_
    · rw [result]
    · rw [result]
    · rw [result]
      exact filter_updateWhere_of_apart (fun row => rfl) fun row hits => by
        simpa [mine row hits] using apart.symm
    · simp only [tenantRows, owners]
      rw [result]
    · rw [result]
    · rw [result]
      rfl

/-- A job for an upload of the tenant is a row of the tenant. -/
theorem insertJob_rows {row : JobRow} (tenanted : Tenanted s)
    (owned : ownsUpload tenantId s row.uploadId = true)
    (fresh : ∀ job ∈ s.jobs, job.id ≠ row.id) (queued : IsQueued s row) :
    Mirrors tenantId s (SqliteStore.insertJob row s) ((tenantRows tenantId s).insertJob row) := by
  have new : s.jobIsNew row = (tenantRows tenantId s).jobs.all fun other =>
      !(other.uploadId == row.uploadId && other.presetId == row.presetId) := by
    rw [Bool.eq_iff_iff, SqliteStore.jobIsNew, List.all_eq_true, List.all_eq_true]
    constructor
    · intro all other member
      exact (Bool.and_eq_true_iff.1 (all other (List.mem_filter.1 member).1)).2
    · intro all other member
      refine Bool.and_eq_true_iff.2 ⟨by simpa using fresh other member, ?_⟩
      by_cases same : other.uploadId = row.uploadId
      · refine all other (List.mem_filter.2 ⟨member, ?_⟩)
        rw [same]
        exact owned
      · simp [same]
  obtain ⟨upload, stored, -, named⟩ := ownsUpload_iff.1 owned
  have referred : (s.uploads.any fun upload => upload.id == row.uploadId) = true :=
    List.any_eq_true.2 ⟨upload, stored, by simpa using named⟩
  unfold SqliteStore.insertJob TenantRows.insertJob
  rw [new]
  cases isNew : (tenantRows tenantId s).jobs.all fun other =>
      !(other.uploadId == row.uploadId && other.presetId == row.presetId) with
  | false => exact .failed _
  | true =>
      cases checked : jobChecks row with
      | false => exact .failed _
      | true =>
          obtain ⟨n, t, ran⟩ :=
            insertJob_runs tenanted.aggregated (new.trans isNew) checked referred
          have after := tenanted.wrote (.insertJob (List.mem_singleton_self _) queued ran) (by simp)
          have stays := ran
          unfold SqliteStore.insertJob at stays
          rw [new, isNew, checked] at stays
          rw [stays]
          obtain ⟨rfl, -, -, counters, -, rfl⟩ := SqliteStore.insertJob_ok ran
          refine .done after ?_ fun other apart => ?_
          · have mine : [row].filter (fun job => ownsUpload tenantId s job.uploadId) = [row] := by
              simp [owned]
            have split := List.filter_append (p := fun job : JobRow => ownsUpload tenantId s job.uploadId)
              s.jobs [row]
            rw [mine] at split
            exact congrArg (fun jobs => { tenantRows tenantId s with jobs := jobs }) split
          · have foreign : [row].filter (fun job => ownsUpload other s job.uploadId) = [] := by
              simp [ownsUpload_other tenanted.integrity owned apart]
            have split := List.filter_append (p := fun job : JobRow => ownsUpload other s job.uploadId)
              s.jobs [row]
            rw [foreign, List.append_nil] at split
            exact congrArg (fun jobs => { tenantRows other s with jobs := jobs }) split

/-- **A policy of the tenant is a row of the tenant**, whatever upload it names, as long as no
other tenant has that upload. -/
theorem insertSitePolicy_rows {row : SitePolicyRow} (tenanted : Tenanted s)
    (mine : row.tenantId = tenantId) (bounded : row.revision ≤ i64Max)
    (asset : ∀ mark, row.watermark = some mark → ∀ upload ∈ s.uploads,
      upload.id = mark.uploadId → upload.tenantId = tenantId) :
    Mirrors tenantId s (SqliteStore.insertSitePolicy row s)
      ((tenantRows tenantId s).insertSitePolicy row) := by
  subst mine
  have highest : s.maxRevision row.tenantId = (tenantRows row.tenantId s).maxRevision := rfl
  have repeated : (s.sitePolicySnapshots.any fun other =>
      other.tenantId == row.tenantId && other.revision == row.revision) =
      (tenantRows row.tenantId s).policies.any fun other => other.revision == row.revision :=
    List.any_filter.symm
  have referred : (row.watermark.all fun mark => s.uploads.any fun upload =>
      upload.id == mark.uploadId) = row.watermark.all fun mark =>
        (tenantRows row.tenantId s).uploads.any fun upload => upload.id == mark.uploadId := by
    cases marked : row.watermark with
    | none => rfl
    | some mark =>
        rw [Option.all_some, Option.all_some, ← ownsUpload_eq, Bool.eq_iff_iff, ownsUpload_iff,
          List.any_eq_true]
        constructor
        · rintro ⟨upload, stored, named⟩
          have named : upload.id = mark.uploadId := by simpa using named
          exact ⟨upload, stored, asset mark marked upload stored named, named⟩
        · rintro ⟨upload, stored, -, named⟩
          exact ⟨upload, stored, by simpa using named⟩
  have ran : ∀ {n t}, SqliteStore.insertSitePolicy row s = .ok (n, t) →
      Wrote [.policies] s t := fun ran => .insertSitePolicy (List.mem_singleton_self _) bounded ran
  have stays : Mirrors row.tenantId s (.ok (0, s)) (.ok (0, tenantRows row.tenantId s)) :=
    .done tenanted rfl fun _ _ => rfl
  unfold SqliteStore.insertSitePolicy TenantRows.insertSitePolicy
  unfold SqliteStore.insertSitePolicy at ran
  rw [highest, repeated, referred] at ran ⊢
  split
  · rename_i next
    rw [if_pos next] at ran
    cases checked : sitePolicyChecks row with
    | false => exact .failed _
    | true =>
        rw [checked] at ran
        cases again : (tenantRows row.tenantId s).policies.any fun other =>
            other.revision == row.revision with
        | true => exact stays
        | false =>
            rw [again] at ran
            cases owned : row.watermark.all fun mark =>
                (tenantRows row.tenantId s).uploads.any fun upload => upload.id == mark.uploadId with
            | false => exact .failed _
            | true =>
                rw [owned] at ran
                have wrote := ran rfl
                have assets : AssetsOwned
                    { s with sitePolicySnapshots := s.sitePolicySnapshots ++ [row] } := by
                  intro policy member mark marked
                  obtain old | new := List.mem_append.1 member
                  · exact wrote_owned wrote tenanted.assets old marked
                  · obtain rfl := List.mem_singleton.1 new
                    rw [marked, Option.all_some, ← ownsUpload_eq] at owned
                    exact owned
                have after : Tenanted { s with sitePolicySnapshots := s.sitePolicySnapshots ++ [row] } :=
                  ⟨wrote.integrity tenanted.integrity, wrote.kept tenanted.kept,
                    wrote_aggregated wrote tenanted.aggregated, assets⟩
                refine .done after ?_ fun other apart => ?_
                · have split := List.filter_append
                    (p := fun policy : SitePolicyRow => policy.tenantId == row.tenantId)
                    s.sitePolicySnapshots [row]
                  rw [List.filter_cons_of_pos (by simp), List.filter_nil] at split
                  exact congrArg (fun policies =>
                    { tenantRows row.tenantId s with policies := policies }) split
                · have split := List.filter_append
                    (p := fun policy : SitePolicyRow => policy.tenantId == other)
                    s.sitePolicySnapshots [row]
                  rw [List.filter_cons_of_neg (by simpa using apart.symm), List.filter_nil,
                    List.append_nil] at split
                  exact congrArg (fun policies => { tenantRows other s with policies := policies }) split
  · exact stays

end Statements

end MediaBooster.Tenancy
