/-
# Store.Effects -- what a sequence of statements can do

`Wrote K s t` is one successful statement whose kind is in `K`, with the facts the
repository's statements of that kind all have: uploads are inserted as fresh
reservations, an `UPDATE uploads` moves every row it reaches along `Evolves`, only
tombstones are deleted, and jobs are inserted queued.  `Effect K` is any sequence
of them.  A repository call is proved once to be such a sequence (in the modules
of the repositories), and every fact about its tables then follows from the kinds
alone: what is outside `K` is unchanged (`Effect.jobs_same`, ...), uploads move in
place (`Effect.evolves`), and the keys of the tables are kept (`Effect.integrity`).
-/
import Mathlib.Logic.Relation
import MediaBooster.Store.Statements

namespace MediaBooster.Store

set_option autoImplicit false

open MediaBooster.Domain MediaBooster.Theory.Table MediaBooster.Theory.Transaction

/-! ## Keys and references -/

/-- The `UNIQUE (upload_id, preset_id)` key of `jobs`. -/
def JobRow.target (row : JobRow) : UploadId × String := (row.uploadId, row.presetId)

/-- The keys and the references of the tables hold. -/
structure SqliteStore.Integrity (store : SqliteStore) : Prop where
  uploadIds : KeyedBy (fun row : UploadRow => row.id) store.uploads
  jobIds : KeyedBy (fun row : JobRow => row.id) store.jobs
  jobTargets : KeyedBy JobRow.target store.jobs
  jobUploads : ∀ job ∈ store.jobs, ∃ upload ∈ store.uploads, upload.id = job.uploadId
  derivativeIds : KeyedBy DerivativeRow.identity store.derivatives
  queueTenants : KeyedBy TenantQueueRow.tenantId store.tenantQueueState

theorem migrated_integrity : SqliteStore.migrated.Integrity where
  uploadIds := List.nodup_nil
  jobIds := List.nodup_nil
  jobTargets := List.nodup_nil
  jobUploads := fun _ member => nomatch member
  derivativeIds := List.nodup_nil
  queueTenants := List.nodup_nil

/-! ## Statements pinned to one row -/

section Pinned

variable {n : Nat} {store store' : SqliteStore}

/-- An `UPDATE uploads` pinned to one id reaches that row or changes nothing. -/
theorem updateUploads_pinned {hit : UploadRow → Bool} {set : UploadProgress → UploadProgress}
    {id : UploadId} (keyed : KeyedBy (fun row : UploadRow => row.id) store.uploads)
    (pinned : ∀ row, hit row = true → row.id = id)
    (ran : SqliteStore.updateUploads hit set store = .ok (n, store')) :
    (n = 0 ∧ store' = store ∧ ∀ row ∈ store.uploads, hit row = false) ∨
      (n = 1 ∧ ∃ row ∈ store.uploads, hit row = true) := by
  obtain ⟨count, usage, counters, fired, counted, result⟩ := SqliteStore.updateUploads_ok ran
  obtain ⟨none, untouched⟩ | ⟨one, reached⟩ := keyed.touched_pinned (UploadRow.assign set) pinned
  · rw [none] at fired counted count
    cases fired
    cases counted
    rw [updateWhere_of_untouched untouched] at result
    exact .inl ⟨count, result, untouched⟩
  · exact .inr ⟨count.trans one, reached⟩

/-- An `UPDATE jobs` pinned to one id reaches that row or changes nothing. -/
theorem updateJobs_pinned {hit : JobRow → Bool} {set : JobProgress → JobProgress}
    {id : JobId} (keyed : KeyedBy (fun row : JobRow => row.id) store.jobs)
    (pinned : ∀ row, hit row = true → row.id = id)
    (ran : SqliteStore.updateJobs hit set store = .ok (n, store')) :
    (n = 0 ∧ store' = store ∧ ∀ row ∈ store.jobs, hit row = false) ∨
      (n = 1 ∧ ∃ row ∈ store.jobs, hit row = true) := by
  obtain ⟨count, counters, counted, result⟩ := SqliteStore.updateJobs_ok ran
  obtain ⟨none, untouched⟩ | ⟨one, reached⟩ := keyed.touched_pinned (JobRow.assign set) pinned
  · rw [none] at counted count
    cases counted
    rw [updateWhere_of_untouched untouched] at result
    exact .inl ⟨count, result, untouched⟩
  · exact .inr ⟨count.trans one, reached⟩

end Pinned

/-! ## Kinds of statements -/

/-- Where a statement writes; `aside` is every table of no concern to the
lifecycle and the queue. -/
inductive Kind
  | insertUpload
  | updateUploads
  | deleteUploads
  | insertJob
  | updateJobs
  | derivatives
  | policies
  | turns
  | aside
deriving DecidableEq

/-- How the repository's updates move one upload. -/
structure Evolves (row row' : UploadRow) : Prop where
  reserved : row'.toUploadReserved = row.toUploadReserved
  chain : UploadState.Chain row.state row'.state
  requested : row.deleteRequestedAt.isSome = true → row'.deleteRequestedAt = row.deleteRequestedAt

theorem Evolves.refl (row : UploadRow) : Evolves row row :=
  ⟨rfl, UploadState.Chain.refl _, fun _ => rfl⟩

theorem Evolves.trans {a b c : UploadRow} (first : Evolves a b) (second : Evolves b c) :
    Evolves a c where
  reserved := second.reserved.trans first.reserved
  chain := first.chain.trans second.chain
  requested := fun asked => by
    have kept := first.requested asked
    rw [second.requested (by rw [kept]; exact asked), kept]

theorem Evolves.id {row row' : UploadRow} (evolves : Evolves row row') : row'.id = row.id :=
  congrArg UploadReserved.id evolves.reserved

/-- An upload as `save_batch` inserts it. -/
def isReservation (row : UploadRow) : Prop :=
  row.state = .created ∧ row.actualSizeBytes = none ∧ row.deleteRequestedAt = none ∧
    row.cleanupLeaseOwner = none ∧ row.cleanupLeaseUntil = none ∧ row.cleanupRetryAt = none ∧
    row.cleanupAttempts = 0

/-- A job as the repositories insert it: its revision is one the caller named, or the
revision of a stored policy. -/
structure IsQueued (store : SqliteStore) (row : JobRow) : Prop where
  state : row.state = .queued
  attempts : row.attempts = 0
  created : ∃ now : OffsetDateTime, row.createdAt = now.unixTimestamp
  revision : ∀ revision, row.sitePolicyRevision = some revision →
    (0 ≤ revision ∧ revision ≤ i64Max) ∨
      ∃ policy ∈ store.sitePolicySnapshots, policy.revision = revision

/-- The tables the lifecycle and the queue live in are the same. -/
structure SameTables (s t : SqliteStore) : Prop where
  uploads : t.uploads = s.uploads
  jobs : t.jobs = s.jobs
  derivatives : t.derivatives = s.derivatives
  policies : t.sitePolicySnapshots = s.sitePolicySnapshots
  nextClaim : t.nextClaimSequence = s.nextClaimSequence
  turns : t.tenantQueueState = s.tenantQueueState
  usage : t.usage = s.usage
  counted : Counted s.operationalCounters → Counted t.operationalCounters
  tallied : t.operationalCounters + total tallyOrphan s.orphanObjects =
    s.operationalCounters + total tallyOrphan t.orphanObjects

/-! Statements on the orphans leave the tables alone and count what they move. -/

theorem updateOrphans_same {n : Nat} {hit : OrphanRow → Bool} {change : OrphanRow → OrphanRow}
    {s t : SqliteStore} (ran : SqliteStore.updateOrphans hit change s = .ok (n, t)) :
    SameTables s t := by
  obtain ⟨-, counters, counted, sum, rfl⟩ := SqliteStore.updateOrphans_ok ran
  refine ⟨rfl, rfl, rfl, rfl, rfl, rfl, rfl, counted, ?_⟩
  show counters + total tallyOrphan s.orphanObjects =
    s.operationalCounters + total tallyOrphan (updateWhere hit change s.orphanObjects)
  rw [sum, total_updateWhere]
  abel

theorem insertOrphan_same {n : Nat} {row : OrphanRow} {s t : SqliteStore}
    (ran : SqliteStore.insertOrphan row s = .ok (n, t)) : SameTables s t := by
  obtain ⟨counters, counted, sum, rfl⟩ := SqliteStore.insertOrphan_ok ran
  refine ⟨rfl, rfl, rfl, rfl, rfl, rfl, rfl, fun _ => counted, ?_⟩
  show counters + total tallyOrphan s.orphanObjects =
    s.operationalCounters + total tallyOrphan (s.orphanObjects ++ [row])
  rw [sum, total_append, total_cons, total_nil]
  abel

theorem deleteOrphans_same {n : Nat} {hit : OrphanRow → Bool} {s t : SqliteStore}
    (ran : SqliteStore.deleteOrphans hit s = .ok (n, t)) : SameTables s t := by
  obtain ⟨-, counters, counted, sum, rfl⟩ := SqliteStore.deleteOrphans_ok ran
  refine ⟨rfl, rfl, rfl, rfl, rfl, rfl, rfl, counted, ?_⟩
  show counters + total tallyOrphan s.orphanObjects =
    s.operationalCounters + total tallyOrphan (deleteWhere hit s.orphanObjects)
  rw [sum, total_deleteWhere, total_neg]
  abel

/-- One successful statement of a kind in `K`. -/
inductive Wrote (K : List Kind) : SqliteStore → SqliteStore → Prop
  | insertUpload {s t : SqliteStore} {n : Nat} {row : UploadRow} (kind : .insertUpload ∈ K)
      (fresh : isReservation row) (ran : SqliteStore.insertUpload row s = .ok (n, t)) : Wrote K s t
  | updateUploads {s t : SqliteStore} {n : Nat} {hit : UploadRow → Bool}
      {set : UploadProgress → UploadProgress} (kind : .updateUploads ∈ K)
      (evolves : ∀ row ∈ s.uploads, hit row = true → Evolves row (row.assign set))
      (ran : SqliteStore.updateUploads hit set s = .ok (n, t)) : Wrote K s t
  | deleteUploads {s t : SqliteStore} {n : Nat} {hit : UploadRow → Bool}
      (kind : .deleteUploads ∈ K)
      (tombstones : ∀ row ∈ s.uploads, hit row = true → row.state = .deleted)
      (ran : SqliteStore.deleteUploads hit s = .ok (n, t)) : Wrote K s t
  | insertJob {s t : SqliteStore} {n : Nat} {row : JobRow} (kind : .insertJob ∈ K)
      (queued : IsQueued s row) (ran : SqliteStore.insertJob row s = .ok (n, t)) : Wrote K s t
  | updateJobs {s t : SqliteStore} {n : Nat} {hit : JobRow → Bool}
      {set : JobProgress → JobProgress} (kind : .updateJobs ∈ K)
      (ran : SqliteStore.updateJobs hit set s = .ok (n, t)) : Wrote K s t
  | upsertDerivative {s t : SqliteStore} {n : Nat} {row : DerivativeRow} (kind : .derivatives ∈ K)
      (ran : SqliteStore.upsertDerivative row s = .ok (n, t)) : Wrote K s t
  | insertSitePolicy {s t : SqliteStore} {n : Nat} {row : SitePolicyRow} (kind : .policies ∈ K)
      (bounded : row.revision ≤ i64Max) (ran : SqliteStore.insertSitePolicy row s = .ok (n, t)) :
      Wrote K s t
  | nextClaim {s t : SqliteStore} {sequence : Int} (kind : .turns ∈ K)
      (ran : SqliteStore.nextClaim s = .ok (sequence, t)) : Wrote K s t
  | upsertTenantQueue {s t : SqliteStore} {n : Nat} {row : TenantQueueRow} (kind : .turns ∈ K)
      (ran : SqliteStore.upsertTenantQueue row s = .ok (n, t)) : Wrote K s t
  | aside {s t : SqliteStore} (kind : .aside ∈ K) (same : SameTables s t) : Wrote K s t

/-- Any sequence of statements of kinds in `K`. -/
def Effect (K : List Kind) : SqliteStore → SqliteStore → Prop := Relation.ReflTransGen (Wrote K)

instance (K : List Kind) : Std.Refl (Effect K) := ⟨fun _ => Relation.ReflTransGen.refl⟩

instance (K : List Kind) : IsTrans SqliteStore (Effect K) :=
  ⟨fun _ _ _ first second => Relation.ReflTransGen.trans first second⟩

theorem Wrote.effect {K : List Kind} {s t : SqliteStore} (wrote : Wrote K s t) : Effect K s t :=
  Relation.ReflTransGen.single wrote

/-! ## What one statement does to each table -/

section Tables

variable {K : List Kind} {s t : SqliteStore}

theorem Wrote.uploads_cases (wrote : Wrote K s t) :
    t.uploads = s.uploads ∨
      (.insertUpload ∈ K ∧ ∃ row, isReservation row ∧ (∀ other ∈ s.uploads, other.id ≠ row.id) ∧
        t.uploads = s.uploads ++ [row]) ∨
      (.updateUploads ∈ K ∧ List.Forall₂ Evolves s.uploads t.uploads) ∨
      (.deleteUploads ∈ K ∧ ∃ hit, (∀ row ∈ s.uploads, hit row = true → row.state = .deleted) ∧
        t.uploads = deleteWhere hit s.uploads) := by
  cases wrote with
  | @insertUpload n row kind fresh ran =>
      obtain ⟨-, freshId, -, -, usage, counters, -, -, rfl⟩ := SqliteStore.insertUpload_ok ran
      exact .inr (.inl ⟨kind, row, fresh, freshId, rfl⟩)
  | updateUploads kind evolves ran =>
      obtain ⟨-, usage, counters, -, -, rfl⟩ := SqliteStore.updateUploads_ok ran
      exact .inr (.inr (.inl ⟨kind, forall₂_updateWhere Evolves.refl evolves⟩))
  | @deleteUploads n hit kind tombstones ran =>
      obtain ⟨-, usage, counters, -, rfl⟩ := SqliteStore.deleteUploads_ok ran
      exact .inr (.inr (.inr ⟨kind, hit, tombstones, rfl⟩))
  | insertJob kind queued ran =>
      obtain ⟨-, -, -, counters, -, rfl⟩ := SqliteStore.insertJob_ok ran
      exact .inl rfl
  | updateJobs kind ran =>
      obtain ⟨-, counters, -, rfl⟩ := SqliteStore.updateJobs_ok ran
      exact .inl rfl
  | upsertDerivative kind ran =>
      obtain rfl | ⟨-, -, rfl⟩ := SqliteStore.upsertDerivative_ok ran
      · exact .inl rfl
      · exact .inl rfl
  | insertSitePolicy kind bounded ran =>
      obtain ⟨-, rfl⟩ | ⟨-, -, rfl⟩ := SqliteStore.insertSitePolicy_ok ran
      · exact .inl rfl
      · exact .inl rfl
  | nextClaim kind ran =>
      obtain ⟨-, -, rfl⟩ := SqliteStore.nextClaim_ok ran
      exact .inl rfl
  | upsertTenantQueue kind ran =>
      obtain ⟨-, rfl⟩ := SqliteStore.upsertTenantQueue_ok ran
      exact .inl rfl
  | aside kind same => exact .inl same.uploads

theorem Wrote.jobs_cases (wrote : Wrote K s t) :
    (t.jobs = s.jobs ∧ ∀ upload ∈ s.uploads, ∃ upload' ∈ t.uploads, upload'.id = upload.id) ∨
      (.insertJob ∈ K ∧ ∃ row, IsQueued s row ∧ s.jobIsNew row = true ∧
        (∃ upload ∈ s.uploads, upload.id = row.uploadId) ∧ t.jobs = s.jobs ++ [row] ∧
        t.uploads = s.uploads) ∨
      (.updateJobs ∈ K ∧ ∃ hit set, t.jobs = updateWhere hit (JobRow.assign set) s.jobs ∧
        t.uploads = s.uploads) ∨
      (.deleteUploads ∈ K ∧ ∃ hit, (∀ row ∈ s.uploads, hit row = true → row.state = .deleted) ∧
        t.uploads = deleteWhere hit s.uploads ∧
        t.jobs = deleteWhere (fun job =>
          (s.uploads.filter hit).any fun row => row.id == job.uploadId) s.jobs) := by
  cases wrote with
  | insertUpload kind fresh ran =>
      obtain ⟨-, -, -, -, usage, counters, -, -, rfl⟩ := SqliteStore.insertUpload_ok ran
      exact .inl ⟨rfl, fun upload member => ⟨upload, List.mem_append_left _ member, rfl⟩⟩
  | updateUploads kind evolves ran =>
      obtain ⟨-, usage, counters, -, -, rfl⟩ := SqliteStore.updateUploads_ok ran
      refine .inl ⟨rfl, fun upload member => ?_⟩
      obtain ⟨upload', member', moved⟩ :=
        forall₂_mem_left (forall₂_updateWhere Evolves.refl evolves) member
      exact ⟨upload', member', moved.id⟩
  | @deleteUploads n hit kind tombstones ran =>
      obtain ⟨-, usage, counters, -, rfl⟩ := SqliteStore.deleteUploads_ok ran
      exact .inr (.inr (.inr ⟨kind, hit, tombstones, rfl, rfl⟩))
  | @insertJob n row kind queued ran =>
      obtain ⟨-, new, owned, counters, -, rfl⟩ := SqliteStore.insertJob_ok ran
      exact .inr (.inl ⟨kind, row, queued, new, owned, rfl, rfl⟩)
  | @updateJobs n hit set kind ran =>
      obtain ⟨-, counters, -, rfl⟩ := SqliteStore.updateJobs_ok ran
      exact .inr (.inr (.inl ⟨kind, hit, set, rfl, rfl⟩))
  | upsertDerivative kind ran =>
      obtain rfl | ⟨-, -, rfl⟩ := SqliteStore.upsertDerivative_ok ran
      · exact .inl ⟨rfl, fun upload member => ⟨upload, member, rfl⟩⟩
      · exact .inl ⟨rfl, fun upload member => ⟨upload, member, rfl⟩⟩
  | insertSitePolicy kind bounded ran =>
      obtain ⟨-, rfl⟩ | ⟨-, -, rfl⟩ := SqliteStore.insertSitePolicy_ok ran
      · exact .inl ⟨rfl, fun upload member => ⟨upload, member, rfl⟩⟩
      · exact .inl ⟨rfl, fun upload member => ⟨upload, member, rfl⟩⟩
  | nextClaim kind ran =>
      obtain ⟨-, -, rfl⟩ := SqliteStore.nextClaim_ok ran
      exact .inl ⟨rfl, fun upload member => ⟨upload, member, rfl⟩⟩
  | upsertTenantQueue kind ran =>
      obtain ⟨-, rfl⟩ := SqliteStore.upsertTenantQueue_ok ran
      exact .inl ⟨rfl, fun upload member => ⟨upload, member, rfl⟩⟩
  | aside kind same =>
      rw [same.uploads]
      exact .inl ⟨same.jobs, fun upload member => ⟨upload, member, rfl⟩⟩

theorem Wrote.derivatives_cases (wrote : Wrote K s t) :
    t.derivatives = s.derivatives ∨
      (.derivatives ∈ K ∧ ∃ row, (∀ other ∈ s.derivatives, other.identity ≠ row.identity) ∧
        t.derivatives = s.derivatives ++ [row]) ∨
      (.deleteUploads ∈ K ∧ ∃ hit, t.derivatives = deleteWhere hit s.derivatives) := by
  cases wrote with
  | insertUpload kind fresh ran =>
      obtain ⟨-, -, -, -, usage, counters, -, -, rfl⟩ := SqliteStore.insertUpload_ok ran
      exact .inl rfl
  | updateUploads kind evolves ran =>
      obtain ⟨-, usage, counters, -, -, rfl⟩ := SqliteStore.updateUploads_ok ran
      exact .inl rfl
  | deleteUploads kind tombstones ran =>
      obtain ⟨-, usage, counters, -, rfl⟩ := SqliteStore.deleteUploads_ok ran
      exact .inr (.inr ⟨kind, _, rfl⟩)
  | insertJob kind queued ran =>
      obtain ⟨-, -, -, counters, -, rfl⟩ := SqliteStore.insertJob_ok ran
      exact .inl rfl
  | updateJobs kind ran =>
      obtain ⟨-, counters, -, rfl⟩ := SqliteStore.updateJobs_ok ran
      exact .inl rfl
  | @upsertDerivative n row kind ran =>
      obtain rfl | ⟨-, fresh, rfl⟩ := SqliteStore.upsertDerivative_ok ran
      · exact .inl rfl
      · exact .inr (.inl ⟨kind, row, fresh, rfl⟩)
  | insertSitePolicy kind bounded ran =>
      obtain ⟨-, rfl⟩ | ⟨-, -, rfl⟩ := SqliteStore.insertSitePolicy_ok ran
      · exact .inl rfl
      · exact .inl rfl
  | nextClaim kind ran =>
      obtain ⟨-, -, rfl⟩ := SqliteStore.nextClaim_ok ran
      exact .inl rfl
  | upsertTenantQueue kind ran =>
      obtain ⟨-, rfl⟩ := SqliteStore.upsertTenantQueue_ok ran
      exact .inl rfl
  | aside kind same => exact .inl same.derivatives

theorem Wrote.policies_cases (wrote : Wrote K s t) :
    t.sitePolicySnapshots = s.sitePolicySnapshots ∨
      (.policies ∈ K ∧ ∃ row, sitePolicyChecks row = true ∧ row.revision ≤ i64Max ∧
        t.sitePolicySnapshots = s.sitePolicySnapshots ++ [row]) := by
  cases wrote with
  | insertUpload kind fresh ran =>
      obtain ⟨-, -, -, -, usage, counters, -, -, rfl⟩ := SqliteStore.insertUpload_ok ran
      exact .inl rfl
  | updateUploads kind evolves ran =>
      obtain ⟨-, usage, counters, -, -, rfl⟩ := SqliteStore.updateUploads_ok ran
      exact .inl rfl
  | deleteUploads kind tombstones ran =>
      obtain ⟨-, usage, counters, -, rfl⟩ := SqliteStore.deleteUploads_ok ran
      exact .inl rfl
  | insertJob kind queued ran =>
      obtain ⟨-, -, -, counters, -, rfl⟩ := SqliteStore.insertJob_ok ran
      exact .inl rfl
  | updateJobs kind ran =>
      obtain ⟨-, counters, -, rfl⟩ := SqliteStore.updateJobs_ok ran
      exact .inl rfl
  | upsertDerivative kind ran =>
      obtain rfl | ⟨-, -, rfl⟩ := SqliteStore.upsertDerivative_ok ran
      · exact .inl rfl
      · exact .inl rfl
  | @insertSitePolicy n row kind bounded ran =>
      obtain ⟨-, rfl⟩ | ⟨-, checked, rfl⟩ := SqliteStore.insertSitePolicy_ok ran
      · exact .inl rfl
      · exact .inr ⟨kind, row, checked, bounded, rfl⟩
  | nextClaim kind ran =>
      obtain ⟨-, -, rfl⟩ := SqliteStore.nextClaim_ok ran
      exact .inl rfl
  | upsertTenantQueue kind ran =>
      obtain ⟨-, rfl⟩ := SqliteStore.upsertTenantQueue_ok ran
      exact .inl rfl
  | aside kind same => exact .inl same.policies

/-- The table of turns after `row` was upserted. -/
def upserted (row : TenantQueueRow) (turns : List TenantQueueRow) : List TenantQueueRow :=
  if turns.any fun other => other.tenantId == row.tenantId then
    updateWhere (fun other => other.tenantId == row.tenantId) (fun _ => row) turns
  else turns ++ [row]

theorem upserted_keyed {row : TenantQueueRow} {turns : List TenantQueueRow}
    (keyed : KeyedBy TenantQueueRow.tenantId turns) :
    KeyedBy TenantQueueRow.tenantId (upserted row turns) := by
  rw [upserted]
  split
  · have moved : List.Forall₂ (fun a b : TenantQueueRow => b.tenantId = a.tenantId) turns
        (updateWhere (fun other => other.tenantId == row.tenantId) (fun _ => row) turns) :=
      forall₂_updateWhere (fun _ => rfl) fun other _ same => (beq_iff_eq.1 same).symm
    exact KeyedBy.of_forall₂ moved (fun _ _ same => same) keyed
  · rename_i absent
    refine keyed.concat fun other member same => absent ?_
    exact List.any_eq_true.2 ⟨other, member, by simp [same]⟩

theorem mem_upserted (row : TenantQueueRow) (turns : List TenantQueueRow) :
    row ∈ upserted row turns := by
  rw [upserted]
  split
  · rename_i present
    obtain ⟨other, member, same⟩ := List.any_eq_true.1 present
    exact mem_updateWhere.2 ⟨other, member, by rw [if_pos same]⟩
  · exact List.mem_append_right _ (List.mem_singleton_self row)

/-- The rows of the other tenants are found as before. -/
theorem find?_upserted_of_ne {row : TenantQueueRow} {turns : List TenantQueueRow}
    {tenantId : String} (other : tenantId ≠ row.tenantId) :
    (upserted row turns).find? (fun stored => decide (stored.tenantId = tenantId)) =
      turns.find? fun stored => decide (stored.tenantId = tenantId) := by
  have missed : decide (row.tenantId = tenantId) = false := by simp [Ne.symm other]
  rw [upserted]
  split
  · rw [find?_updateWhere fun stored hit => ?_]
    · cases found : turns.find? fun stored => decide (stored.tenantId = tenantId) with
      | none => rfl
      | some stored =>
          have owner : stored.tenantId = tenantId := by simpa using List.find?_some found
          rw [Option.map_some, if_neg (by rw [owner]; simpa using other)]
    · rw [beq_iff_eq] at hit
      rw [missed, hit, missed]
  · rw [List.find?_append]
    simp [missed]

/-- Only the statements of a claim move the turns of the tenants. -/
theorem Wrote.turns_cases (wrote : Wrote K s t) :
    (t.nextClaimSequence = s.nextClaimSequence ∧ t.tenantQueueState = s.tenantQueueState) ∨
      (.turns ∈ K ∧ t.tenantQueueState = s.tenantQueueState) ∨
      (.turns ∈ K ∧ ∃ row, t.tenantQueueState = upserted row s.tenantQueueState) := by
  cases wrote with
  | insertUpload kind fresh ran =>
      obtain ⟨-, -, -, -, usage, counters, -, -, rfl⟩ := SqliteStore.insertUpload_ok ran
      exact .inl ⟨rfl, rfl⟩
  | updateUploads kind evolves ran =>
      obtain ⟨-, usage, counters, -, -, rfl⟩ := SqliteStore.updateUploads_ok ran
      exact .inl ⟨rfl, rfl⟩
  | deleteUploads kind tombstones ran =>
      obtain ⟨-, usage, counters, -, rfl⟩ := SqliteStore.deleteUploads_ok ran
      exact .inl ⟨rfl, rfl⟩
  | insertJob kind queued ran =>
      obtain ⟨-, -, -, counters, -, rfl⟩ := SqliteStore.insertJob_ok ran
      exact .inl ⟨rfl, rfl⟩
  | updateJobs kind ran =>
      obtain ⟨-, counters, -, rfl⟩ := SqliteStore.updateJobs_ok ran
      exact .inl ⟨rfl, rfl⟩
  | upsertDerivative kind ran =>
      obtain rfl | ⟨-, fresh, rfl⟩ := SqliteStore.upsertDerivative_ok ran
      · exact .inl ⟨rfl, rfl⟩
      · exact .inl ⟨rfl, rfl⟩
  | insertSitePolicy kind bounded ran =>
      obtain ⟨-, rfl⟩ | ⟨-, -, rfl⟩ := SqliteStore.insertSitePolicy_ok ran
      · exact .inl ⟨rfl, rfl⟩
      · exact .inl ⟨rfl, rfl⟩
  | nextClaim kind ran =>
      obtain ⟨-, -, rfl⟩ := SqliteStore.nextClaim_ok ran
      exact .inr (.inl ⟨kind, rfl⟩)
  | @upsertTenantQueue n row kind ran =>
      obtain ⟨-, rfl⟩ := SqliteStore.upsertTenantQueue_ok ran
      exact .inr (.inr ⟨kind, row, rfl⟩)
  | aside kind same => exact .inl ⟨same.nextClaim, same.turns⟩

/-- A new job's id is nobody else's. -/
theorem jobIsNew_apart {row other : JobRow} (new : s.jobIsNew row = true)
    (member : other ∈ s.jobs) : other.id ≠ row.id := by
  intro same
  have apart := List.all_eq_true.1 new other member
  simp [same] at apart

/-- The keys and references survive every statement. -/
theorem Wrote.integrity (wrote : Wrote K s t) (integrity : s.Integrity) : t.Integrity where
  uploadIds := by
    obtain same | ⟨-, row, -, fresh, added⟩ | ⟨-, moved⟩ | ⟨-, hit, -, removed⟩ := wrote.uploads_cases
    · rw [same]
      exact integrity.uploadIds
    · rw [added]
      exact integrity.uploadIds.concat fresh
    · exact KeyedBy.of_forall₂ moved (fun _ _ evolves => evolves.id) integrity.uploadIds
    · rw [removed]
      exact integrity.uploadIds.deleteWhere hit
  jobIds := by
    obtain ⟨same, -⟩ | ⟨-, row, -, new, -, added, -⟩ | ⟨-, hit, set, moved, -⟩ |
      ⟨-, hit, -, -, removed⟩ := wrote.jobs_cases
    · rw [same]
      exact integrity.jobIds
    · rw [added]
      exact integrity.jobIds.concat fun other member => jobIsNew_apart new member
    · rw [moved]
      exact integrity.jobIds.updateWhere fun row => rfl
    · rw [removed]
      exact integrity.jobIds.deleteWhere _
  jobTargets := by
    obtain ⟨same, -⟩ | ⟨-, row, -, new, -, added, -⟩ | ⟨-, hit, set, moved, -⟩ |
      ⟨-, hit, -, -, removed⟩ := wrote.jobs_cases
    · rw [same]
      exact integrity.jobTargets
    · rw [added]
      refine integrity.jobTargets.concat fun other member same => ?_
      have := List.all_eq_true.1 new other member
      simp only [JobRow.target, Prod.mk.injEq] at same
      simp [same] at this
    · rw [moved]
      exact integrity.jobTargets.updateWhere fun row => rfl
    · rw [removed]
      exact integrity.jobTargets.deleteWhere _
  jobUploads := by
    intro job member
    obtain ⟨same, kept⟩ | ⟨-, row, -, -, owned, added, uploads⟩ | ⟨-, hit, set, moved, uploads⟩ |
      ⟨-, hit, -, uploads, removed⟩ := wrote.jobs_cases
    · rw [same] at member
      obtain ⟨upload, there, owner⟩ := integrity.jobUploads job member
      obtain ⟨upload', there', sameId⟩ := kept upload there
      exact ⟨upload', there', sameId.trans owner⟩
    · rw [uploads]
      rw [added] at member
      rcases List.mem_append.1 member with old | new
      · exact integrity.jobUploads job old
      · rw [List.mem_singleton.1 new]
        exact owned
    · rw [uploads]
      rw [moved] at member
      obtain ⟨before, there, result⟩ := mem_updateWhere.1 member
      have sameUpload : job.uploadId = before.uploadId := by
        rw [result]
        split <;> rfl
      rw [sameUpload]
      exact integrity.jobUploads before there
    · rw [removed] at member
      obtain ⟨there, kept⟩ := mem_deleteWhere.1 member
      obtain ⟨upload, owner, sameId⟩ := integrity.jobUploads job there
      refine ⟨upload, ?_, sameId⟩
      rw [uploads]
      refine mem_deleteWhere.2 ⟨owner, ?_⟩
      by_contra gone
      rw [List.any_eq_false] at kept
      refine kept upload (List.mem_filter.2 ⟨owner, by simpa using gone⟩) ?_
      simp [sameId]
  derivativeIds := by
    obtain same | ⟨-, row, fresh, added⟩ | ⟨-, hit, removed⟩ := wrote.derivatives_cases
    · rw [same]
      exact integrity.derivativeIds
    · rw [added]
      exact integrity.derivativeIds.concat fresh
    · rw [removed]
      exact integrity.derivativeIds.deleteWhere hit
  queueTenants := by
    obtain ⟨-, same⟩ | ⟨-, same⟩ | ⟨-, row, moved⟩ := wrote.turns_cases
    · rw [same]
      exact integrity.queueTenants
    · rw [same]
      exact integrity.queueTenants
    · rw [moved]
      exact upserted_keyed integrity.queueTenants

end Tables

/-! ## What a sequence of statements does -/

section Sequences

variable {K : List Kind} {s t : SqliteStore}

/-- What every statement relates, a sequence relates, for a preorder. -/
theorem Effect.relates {R : SqliteStore → SqliteStore → Prop} [Std.Refl R] [IsTrans SqliteStore R]
    (step : ∀ s t, Wrote K s t → R s t) (effect : Effect K s t) : R s t := by
  induction effect with
  | refl => exact Std.Refl.refl (r := R) _
  | tail _ wrote ih => exact IsTrans.trans _ _ _ ih (step _ _ wrote)

/-- What every statement keeps, a sequence keeps. -/
theorem Effect.keeps {P : SqliteStore → Prop} (step : ∀ s t, Wrote K s t → P s → P t)
    (effect : Effect K s t) (holds : P s) : P t := by
  induction effect with
  | refl => exact holds
  | tail _ wrote ih => exact step _ _ wrote ih

theorem Effect.mono {L : List Kind} (effect : Effect K s t) (sub : K ⊆ L) : Effect L s t := by
  induction effect with
  | refl => exact Relation.ReflTransGen.refl
  | tail _ wrote ih =>
      refine Relation.ReflTransGen.tail ih ?_
      cases wrote with
      | insertUpload kind fresh ran => exact .insertUpload (sub kind) fresh ran
      | updateUploads kind evolves ran => exact .updateUploads (sub kind) evolves ran
      | deleteUploads kind tombstones ran => exact .deleteUploads (sub kind) tombstones ran
      | insertJob kind queued ran => exact .insertJob (sub kind) queued ran
      | updateJobs kind ran => exact .updateJobs (sub kind) ran
      | upsertDerivative kind ran => exact .upsertDerivative (sub kind) ran
      | insertSitePolicy kind bounded ran => exact .insertSitePolicy (sub kind) bounded ran
      | nextClaim kind ran => exact .nextClaim (sub kind) ran
      | upsertTenantQueue kind ran => exact .upsertTenantQueue (sub kind) ran
      | aside kind same => exact .aside (sub kind) same

theorem Effect.turns_same (effect : Effect K s t) (quiet : .turns ∉ K) :
    t.nextClaimSequence = s.nextClaimSequence ∧ t.tenantQueueState = s.tenantQueueState := by
  induction effect with
  | refl => exact ⟨rfl, rfl⟩
  | tail _ wrote ih =>
      obtain ⟨sequence, turns⟩ | ⟨kind, -⟩ | ⟨kind, -⟩ := wrote.turns_cases
      · exact ⟨sequence.trans ih.1, turns.trans ih.2⟩
      · exact absurd kind quiet
      · exact absurd kind quiet

theorem Effect.jobs_same (effect : Effect K s t) (inserts : .insertJob ∉ K)
    (updates : .updateJobs ∉ K) (deletes : .deleteUploads ∉ K) : t.jobs = s.jobs := by
  induction effect with
  | refl => rfl
  | tail _ wrote ih =>
      obtain ⟨same, -⟩ | ⟨kind, -⟩ | ⟨kind, -⟩ | ⟨kind, -⟩ := wrote.jobs_cases
      · exact same.trans ih
      · exact absurd kind inserts
      · exact absurd kind updates
      · exact absurd kind deletes

/-- Jobs are kept as they are, and new ones are queued. -/
structure JobsAdded (s t : SqliteStore) : Prop where
  kept : ∀ row ∈ s.jobs, row ∈ t.jobs
  fresh : ∀ row ∈ t.jobs, row ∈ s.jobs ∨
    (row.state = .queued ∧ row.attempts = 0 ∧ ∀ other ∈ s.jobs, other.id ≠ row.id)

theorem JobsAdded.refl (s : SqliteStore) : JobsAdded s s :=
  ⟨fun _ member => member, fun _ member => .inl member⟩

theorem JobsAdded.trans {m : SqliteStore} (first : JobsAdded s m) (second : JobsAdded m t) :
    JobsAdded s t where
  kept := fun row member => second.kept row (first.kept row member)
  fresh := fun row member => by
    rcases second.fresh row member with old | ⟨queued, unclaimed, apart⟩
    · exact first.fresh row old
    · exact .inr ⟨queued, unclaimed, fun other there => apart other (first.kept other there)⟩

instance : Std.Refl JobsAdded := ⟨JobsAdded.refl⟩

instance : IsTrans SqliteStore JobsAdded := ⟨fun _ _ _ => JobsAdded.trans⟩

/-- Without updates of jobs and purges, jobs are only added. -/
theorem Effect.jobs_added (effect : Effect K s t) (updates : .updateJobs ∉ K)
    (deletes : .deleteUploads ∉ K) : JobsAdded s t := by
  refine effect.relates fun s t wrote => ?_
  obtain ⟨same, -⟩ | ⟨-, row, queued, new, -, added, -⟩ | ⟨kind, -⟩ | ⟨kind, -⟩ := wrote.jobs_cases
  · refine ⟨?_, ?_⟩ <;> rw [same]
    · exact fun _ member => member
    · exact fun _ member => .inl member
  · refine ⟨?_, ?_⟩ <;> rw [added]
    · exact fun _ member => List.mem_append_left _ member
    · intro other member
      rcases List.mem_append.1 member with old | fresh
      · exact .inl old
      · rw [List.mem_singleton.1 fresh]
        exact .inr ⟨queued.state, queued.attempts, fun old there => jobIsNew_apart new there⟩
  · exact absurd kind updates
  · exact absurd kind deletes

theorem Effect.uploads_same (effect : Effect K s t) (inserts : .insertUpload ∉ K)
    (updates : .updateUploads ∉ K) (deletes : .deleteUploads ∉ K) : t.uploads = s.uploads := by
  induction effect with
  | refl => rfl
  | tail _ wrote ih =>
      obtain same | ⟨kind, -⟩ | ⟨kind, -⟩ | ⟨kind, -⟩ := wrote.uploads_cases
      · exact same.trans ih
      · exact absurd kind inserts
      · exact absurd kind updates
      · exact absurd kind deletes

theorem Effect.derivatives_same (effect : Effect K s t) (publishes : .derivatives ∉ K)
    (deletes : .deleteUploads ∉ K) : t.derivatives = s.derivatives := by
  induction effect with
  | refl => rfl
  | tail _ wrote ih =>
      obtain same | ⟨kind, -⟩ | ⟨kind, -⟩ := wrote.derivatives_cases
      · exact same.trans ih
      · exact absurd kind publishes
      · exact absurd kind deletes

theorem Effect.policies_same (effect : Effect K s t) (publishes : .policies ∉ K) :
    t.sitePolicySnapshots = s.sitePolicySnapshots := by
  induction effect with
  | refl => rfl
  | tail _ wrote ih =>
      obtain same | ⟨kind, -⟩ := wrote.policies_cases
      · exact same.trans ih
      · exact absurd kind publishes

theorem Effect.integrity (effect : Effect K s t) (integrity : s.Integrity) : t.Integrity :=
  effect.keeps (fun _ _ wrote => wrote.integrity) integrity

/-- Without inserts and purges, the uploads move in place. -/
theorem Effect.evolves (effect : Effect K s t) (inserts : .insertUpload ∉ K)
    (deletes : .deleteUploads ∉ K) : List.Forall₂ Evolves s.uploads t.uploads := by
  induction effect with
  | refl => exact List.forall₂_same.2 fun row _ => Evolves.refl row
  | tail _ wrote ih =>
      obtain same | ⟨kind, -⟩ | ⟨-, moved⟩ | ⟨kind, -⟩ := wrote.uploads_cases
      · rw [same]
        exact ih
      · exact absurd kind inserts
      · exact forall₂_trans (fun _ _ _ first second => first.trans second) ih moved
      · exact absurd kind deletes

/-- Without inserts, every upload was there before and moved in place. -/
theorem Effect.evolved_from (effect : Effect K s t) (inserts : .insertUpload ∉ K) :
    ∀ after ∈ t.uploads, ∃ before ∈ s.uploads, Evolves before after := by
  induction effect with
  | refl => exact fun row member => ⟨row, member, Evolves.refl row⟩
  | tail _ wrote ih =>
      intro after member
      obtain same | ⟨kind, -⟩ | ⟨-, moved⟩ | ⟨-, hit, -, removed⟩ := wrote.uploads_cases
      · rw [same] at member
        exact ih after member
      · exact absurd kind inserts
      · obtain ⟨middle, there, second⟩ := forall₂_mem_right moved member
        obtain ⟨before, start, first⟩ := ih middle there
        exact ⟨before, start, first.trans second⟩
      · rw [removed] at member
        exact ih after (mem_deleteWhere.1 member).1

/-- Without purges, every upload stays and moves in place. -/
theorem Effect.evolved_to (effect : Effect K s t) (deletes : .deleteUploads ∉ K) :
    ∀ before ∈ s.uploads, ∃ after ∈ t.uploads, Evolves before after := by
  induction effect with
  | refl => exact fun row member => ⟨row, member, Evolves.refl row⟩
  | tail _ wrote ih =>
      intro before member
      obtain ⟨middle, there, first⟩ := ih before member
      obtain same | ⟨-, row, -, -, added⟩ | ⟨-, moved⟩ | ⟨kind, -⟩ := wrote.uploads_cases
      · rw [same]
        exact ⟨middle, there, first⟩
      · rw [added]
        exact ⟨middle, List.mem_append_left _ there, first⟩
      · obtain ⟨after, final, second⟩ := forall₂_mem_left moved there
        exact ⟨after, final, first.trans second⟩
      · exact absurd kind deletes

/-- Without new jobs, every job was there before under the same identity. -/
theorem Effect.jobs_from (effect : Effect K s t) (inserts : .insertJob ∉ K) :
    ∀ job ∈ t.jobs, ∃ before ∈ s.jobs, before.toJobIdentity = job.toJobIdentity := by
  induction effect with
  | refl => exact fun job member => ⟨job, member, rfl⟩
  | tail _ wrote ih =>
      intro job member
      obtain ⟨same, -⟩ | ⟨kind, -⟩ | ⟨-, hit, set, moved, -⟩ | ⟨-, hit, -, -, removed⟩ :=
        wrote.jobs_cases
      · rw [same] at member
        exact ih job member
      · exact absurd kind inserts
      · rw [moved] at member
        obtain ⟨middle, there, rfl⟩ := mem_updateWhere.1 member
        obtain ⟨before, start, same⟩ := ih middle there
        refine ⟨before, start, same.trans ?_⟩
        split <;> rfl
      · rw [removed] at member
        exact ih job (mem_deleteWhere.1 member).1

end Sequences

/-! ## Moving one row -/

/-- One job was moved by `set`, and no other row of `jobs` or `uploads` changed. -/
structure JobMoved (job : JobRow) (set : JobProgress → JobProgress) (s t : SqliteStore) :
    Prop where
  member : job ∈ s.jobs
  jobs : t.jobs = updateWhere (fun row => row.id == job.id) (JobRow.assign set) s.jobs
  uploads : t.uploads = s.uploads
  derivatives : t.derivatives = s.derivatives

theorem JobMoved.moved_mem {job : JobRow} {set : JobProgress → JobProgress} {s t : SqliteStore}
    (moved : JobMoved job set s t) : job.assign set ∈ t.jobs := by
  rw [moved.jobs]
  exact mem_updateWhere.2 ⟨job, moved.member, by simp⟩

theorem JobMoved.other_mem {job : JobRow} {set : JobProgress → JobProgress} {s t : SqliteStore}
    (moved : JobMoved job set s t) {row : JobRow} (member : row ∈ s.jobs) (apart : row.id ≠ job.id) :
    row ∈ t.jobs := by
  rw [moved.jobs]
  exact mem_updateWhere.2 ⟨row, member, by simp [apart]⟩

/-- The rows after the move: the moved row, and the rows of the other jobs. -/
theorem JobMoved.mem_cases {job : JobRow} {set : JobProgress → JobProgress} {s t : SqliteStore}
    (moved : JobMoved job set s t) (integrity : s.Integrity) {row : JobRow}
    (member : row ∈ t.jobs) : row = job.assign set ∨ (row ∈ s.jobs ∧ row.id ≠ job.id) := by
  rw [moved.jobs] at member
  obtain ⟨before, there, result⟩ := mem_updateWhere.1 member
  by_cases same : before.id = job.id
  · have found : before = job := integrity.jobIds.eq_of_key there moved.member same
    rw [if_pos (by simp [same]), found] at result
    exact .inl result
  · rw [if_neg (by simp [same])] at result
    rw [result]
    exact .inr ⟨there, same⟩

/-- An id that is absent after the move was absent before. -/
theorem JobMoved.absent {job : JobRow} {set : JobProgress → JobProgress} {s t : SqliteStore}
    (moved : JobMoved job set s t) {id : JobId} (absent : ∀ row ∈ t.jobs, row.id ≠ id) :
    ∀ row ∈ s.jobs, row.id ≠ id := by
  intro row member same
  by_cases apart : row.id = job.id
  · exact absent _ moved.moved_mem (apart.symm.trans same)
  · exact absent row (moved.other_mem member apart) same

/-- An `UPDATE jobs` pinned to one id changes nothing, or moves that job. -/
theorem updateJobs_moves {n : Nat} {s t : SqliteStore} {hit : JobRow → Bool}
    {set : JobProgress → JobProgress} {id : JobId} (integrity : s.Integrity)
    (pinned : ∀ row, hit row = true → row.id = id)
    (ran : SqliteStore.updateJobs hit set s = .ok (n, t)) :
    (n = 0 ∧ t = s ∧ ∀ row ∈ s.jobs, hit row = false) ∨
      (n = 1 ∧ ∃ job, hit job = true ∧ JobMoved job set s t) := by
  obtain untouched | ⟨one, job, member, reached⟩ := updateJobs_pinned integrity.jobIds pinned ran
  · exact .inl untouched
  · obtain ⟨-, counters, -, result⟩ := SqliteStore.updateJobs_ok ran
    have same : ∀ row ∈ s.jobs, hit row = (row.id == job.id) := by
      intro row there
      by_cases key : row.id = job.id
      · rw [integrity.jobIds.eq_of_key there member key, reached]
        simp
      · have missed : hit row = false := by
          by_contra hits
          apply key
          rw [pinned row (by simpa using hits), pinned job reached]
        simp [missed, key]
    refine .inr ⟨one, job, reached, member, ?_, ?_, ?_⟩
    · rw [result]
      exact updateWhere_congr same
    · rw [result]
    · rw [result]

/-- One upload was moved by `set`, and no other row of `uploads` or `jobs` changed. -/
structure UploadMoved (upload : UploadRow) (set : UploadProgress → UploadProgress)
    (s t : SqliteStore) : Prop where
  member : upload ∈ s.uploads
  uploads : t.uploads = updateWhere (fun row => row.id == upload.id) (UploadRow.assign set) s.uploads
  jobs : t.jobs = s.jobs
  derivatives : t.derivatives = s.derivatives

theorem UploadMoved.moved_mem {upload : UploadRow} {set : UploadProgress → UploadProgress}
    {s t : SqliteStore} (moved : UploadMoved upload set s t) : upload.assign set ∈ t.uploads := by
  rw [moved.uploads]
  exact mem_updateWhere.2 ⟨upload, moved.member, by simp⟩

theorem UploadMoved.other_mem {upload : UploadRow} {set : UploadProgress → UploadProgress}
    {s t : SqliteStore} (moved : UploadMoved upload set s t) {row : UploadRow}
    (member : row ∈ s.uploads) (apart : row.id ≠ upload.id) : row ∈ t.uploads := by
  rw [moved.uploads]
  exact mem_updateWhere.2 ⟨row, member, by simp [apart]⟩

/-- The rows after the move: the moved row, and the rows of the other uploads. -/
theorem UploadMoved.mem_cases {upload : UploadRow} {set : UploadProgress → UploadProgress}
    {s t : SqliteStore} (moved : UploadMoved upload set s t) (integrity : s.Integrity)
    {row : UploadRow} (member : row ∈ t.uploads) :
    row = upload.assign set ∨ (row ∈ s.uploads ∧ row.id ≠ upload.id) := by
  rw [moved.uploads] at member
  obtain ⟨before, there, result⟩ := mem_updateWhere.1 member
  by_cases same : before.id = upload.id
  · have found : before = upload := integrity.uploadIds.eq_of_key there moved.member same
    rw [if_pos (by simp [same]), found] at result
    exact .inl result
  · rw [if_neg (by simp [same])] at result
    rw [result]
    exact .inr ⟨there, same⟩

/-- Two moves of one upload are one. -/
theorem UploadMoved.trans {upload : UploadRow} {set set' : UploadProgress → UploadProgress}
    {s m t : SqliteStore} (first : UploadMoved upload set s m)
    (second : UploadMoved (upload.assign set) set' m t) :
    UploadMoved upload (fun progress => set' (set progress)) s t where
  member := first.member
  uploads := by
    rw [second.uploads, first.uploads]
    exact updateWhere_updateWhere fun row => rfl
  jobs := second.jobs.trans first.jobs
  derivatives := second.derivatives.trans first.derivatives

/-- An `UPDATE uploads` pinned to one id changes nothing, or moves that upload. -/
theorem updateUploads_moves {n : Nat} {s t : SqliteStore} {hit : UploadRow → Bool}
    {set : UploadProgress → UploadProgress} {id : UploadId} (integrity : s.Integrity)
    (pinned : ∀ row, hit row = true → row.id = id)
    (ran : SqliteStore.updateUploads hit set s = .ok (n, t)) :
    (n = 0 ∧ t = s ∧ ∀ row ∈ s.uploads, hit row = false) ∨
      (n = 1 ∧ ∃ upload, hit upload = true ∧ UploadMoved upload set s t) := by
  obtain untouched | ⟨one, upload, member, reached⟩ :=
    updateUploads_pinned integrity.uploadIds pinned ran
  · exact .inl untouched
  · obtain ⟨-, usage, counters, -, -, result⟩ := SqliteStore.updateUploads_ok ran
    have same : ∀ row ∈ s.uploads, hit row = (row.id == upload.id) := by
      intro row there
      by_cases key : row.id = upload.id
      · rw [integrity.uploadIds.eq_of_key there member key, reached]
        simp
      · have missed : hit row = false := by
          by_contra hits
          apply key
          rw [pinned row (by simpa using hits), pinned upload reached]
        simp [missed, key]
    refine .inr ⟨one, upload, reached, member, ?_, ?_, ?_⟩
    · rw [result]
      exact updateWhere_congr same
    · rw [result]
    · rw [result]

/-! ## Updates that report whether they reached their row -/

/-- The end of a call whose `UPDATE` reached `n` rows: it succeeded if it reached one,
and otherwise what is stored decides. -/
def reachedOne {ε : Type} (n : Nat) (otherwise : SqliteStore → Except ε Unit) :
    Call SqliteStore ε Unit :=
  if n = 1 then pure () else Call.readOr otherwise

theorem moves_reachedOne {ε : Type} {Step : SqliteStore → SqliteStore → Prop} [Std.Refl Step]
    (n : Nat) (otherwise : SqliteStore → Except ε Unit) : Moves Step (reachedOne n otherwise) := by
  rw [reachedOne]
  split
  · exact moves_pure ()
  · exact moves_readOr _

/-- A call that is an `UPDATE uploads` pinned to one id: it moves that upload, or it
changes nothing and what is stored decides its answer. -/
theorem updateUploads_reachedOne {ε : Type} {refuse : SqlError → ε} {hit : UploadRow → Bool}
    {set : UploadProgress → UploadProgress} {otherwise : SqliteStore → Except ε Unit}
    {id : UploadId} {s t : SqliteStore} {result : Except ε Unit} (integrity : s.Integrity)
    (pinned : ∀ row, hit row = true → row.id = id)
    (ran : (autocommit refuse (SqliteStore.updateUploads hit set) >>= fun n =>
      reachedOne n otherwise) s = (result, t)) :
    (result = .ok () ∧ ∃ upload, hit upload = true ∧ UploadMoved upload set s t) ∨
      (t = s ∧ ((∃ error, result = .error error) ∨
        ((∀ row ∈ s.uploads, hit row = false) ∧ result = otherwise s))) := by
  have reached : ∀ n middle, SqliteStore.updateUploads hit set s = .ok (n, middle) →
      reachedOne n otherwise middle = (result, t) →
      (result = .ok () ∧ ∃ upload, hit upload = true ∧ UploadMoved upload set s t) ∨
        (t = s ∧ ((∀ row ∈ s.uploads, hit row = false) ∧ result = otherwise s)) := by
    intro n middle updated decided
    obtain ⟨rfl, rfl, untouched⟩ | ⟨rfl, upload, hits, moved⟩ :=
      updateUploads_moves integrity pinned updated
    · rw [reachedOne, if_neg (by decide), call_readOr_eq] at decided
      cases decided
      exact .inr ⟨rfl, untouched, rfl⟩
    · rw [reachedOne, if_pos rfl, call_pure_eq] at decided
      cases decided
      exact .inl ⟨rfl, upload, hits, moved⟩
  cases result with
  | error e =>
      obtain failed | ⟨n, middle, updated, decided⟩ := call_bind_eq_error.1 ran
      · exact .inr ⟨autocommit_error failed, .inl ⟨e, rfl⟩⟩
      · obtain moved | ⟨same, untouched, verdict⟩ :=
          reached n middle (autocommit_eq_ok.1 updated) decided
        · exact .inl moved
        · exact .inr ⟨same, .inr ⟨untouched, verdict⟩⟩
  | ok u =>
      obtain ⟨n, middle, updated, decided⟩ := call_bind_eq_ok.1 ran
      obtain moved | ⟨same, untouched, verdict⟩ :=
        reached n middle (autocommit_eq_ok.1 updated) decided
      · exact .inl moved
      · exact .inr ⟨same, .inr ⟨untouched, verdict⟩⟩

end MediaBooster.Store
