/-
# Store.Queue -- the durable job queue

`JobQueue` of the SQLite store.  `claimNext` picks, among the queued jobs that are
due and the leased jobs whose lease has expired, the first one of the tenant that
was served longest ago; it takes the job, draws the next claim number and enters it
for the tenant, all in one transaction, and decodes the job only after it committed.
`renew`, `complete` and `fail` are single updates that reach the job only while the
caller owns its lease.

Each operation on a lease has one specification lemma under the keys of the store
(`claimNext_cases`, `renew_cases`, `complete_cases`, `fail_cases`): all that it can do, with its
answer.  `moves_enqueue` is where `enqueue` writes.
-/
import Mathlib.Data.List.MinMax
import Mathlib.Data.Prod.Lex
import Mathlib.Data.Fin.Basic
import Mathlib.Order.Fin.Basic
import MediaBooster.Store.Effects

namespace MediaBooster.Store

set_option autoImplicit false

open MediaBooster.Domain MediaBooster.Theory.Table MediaBooster.Theory.Transaction

/-- `JobQueueError(String)`. -/
abbrev JobQueueError := Fault

/-- `queue_backend`. -/
def queueBackend (error : SqlError) : JobQueueError := .sqliteBackend error

/-- Durable media work item. -/
structure ProcessingJob where
  uploadId : UploadId
  presetId : String
  sitePolicyRevision : Option Nat
deriving DecidableEq

/-- A durable job owned by one worker for a bounded interval. -/
structure LeasedProcessingJob where
  jobId : JobId
  job : ProcessingJob
  attempts : Nat
  leaseUntil : OffsetDateTime
  enqueuedAt : OffsetDateTime
deriving DecidableEq

inductive JobFailureDisposition
  | retryScheduled
  | deadLetter
deriving DecidableEq

/-- `preset_id.is_empty() || preset_id.len() > 128`, negated. -/
def validPreset (presetId : String) : Bool :=
  !presetId.isEmpty && decide (presetId.utf8ByteSize ≤ 128)

/-- `i64::try_from` of an optional unsigned value. -/
def i64TryFromOption : Option Nat → Option (Option Int)
  | none => some none
  | some value => (i64TryFrom value).map some

theorem i64TryFromOption_bounds {value : Option Nat} {stored : Int}
    (converted : i64TryFromOption value = some (some stored)) : 0 ≤ stored ∧ stored ≤ i64Max := by
  cases value with
  | none => cases converted
  | some value =>
      obtain ⟨bound, converts, same⟩ := Option.map_eq_some_iff.1 converted
      cases same
      obtain ⟨rfl, fits⟩ := i64TryFrom_eq_some.1 converts
      exact ⟨Int.natCast_nonneg value, fits⟩

/-- A job row as it is first inserted. -/
def queuedRow (id : JobId) (uploadId : UploadId) (presetId : String)
    (sitePolicyRevision : Option Int) (now : Int) : JobRow where
  id := id
  uploadId := uploadId
  presetId := presetId
  sitePolicyRevision := sitePolicyRevision
  createdAt := now
  state := .queued
  attempts := 0
  availableAt := now
  leaseOwner := none
  leaseUntil := none
  lastErrorCode := none
  updatedAt := now

/-- `JobQueue::enqueue`; the drawn id and the clock are parameters. -/
def enqueue (id : JobId) (now : OffsetDateTime) (job : ProcessingJob) :
    Call SqliteStore JobQueueError Unit := do
  Call.ensure (validPreset job.presetId) (.text "preset_id is invalid")
  let revision ← Call.okOr (i64TryFromOption job.sitePolicyRevision)
    (.text "site policy revision exceeds SQLite range")
  let _ ← autocommit queueBackend
    (SqliteStore.insertJobOrIgnore
      (queuedRow id job.uploadId job.presetId revision now.unixTimestamp))
  return ()

/-! ## Claiming -/

/-- `lease_for` after `now`, in seconds, for `claim_next` and `renew`. -/
def leaseExpiration (now : OffsetDateTime) (leaseFor : Duration) : Except JobQueueError Int :=
  match i64TryFrom leaseFor.asSecs with
  | none => .error (.text "lease duration exceeds SQLite range")
  | some leaseSeconds =>
      if leaseSeconds = 0 then .error (.text "lease duration must be positive")
      else
        match i64CheckedAdd now.unixTimestamp leaseSeconds with
        | none => .error (.text "lease expiration overflow")
        | some leaseUntil => .ok leaseUntil

theorem leaseExpiration_ok {now : OffsetDateTime} {leaseFor : Duration} {leaseUntil : Int}
    (expires : leaseExpiration now leaseFor = .ok leaseUntil) :
    leaseUntil = now.unixTimestamp + leaseFor.asSecs ∧ 0 < leaseFor.asSecs := by
  rw [leaseExpiration] at expires
  split at expires
  · cases expires
  rename_i seconds converted
  obtain ⟨rfl, -⟩ := i64TryFrom_eq_some.1 converted
  split at expires
  · cases expires
  rename_i positive
  split at expires
  · cases expires
  rename_i sum added
  cases expires
  obtain ⟨rfl, -⟩ := i64CheckedAdd_eq_some.1 added
  exact ⟨rfl, by omega⟩

/-- The `WHERE` of a claim. -/
def claimable (now : Int) (job : JobRow) : Bool :=
  (job.state == .queued && decide (job.availableAt ≤ now)) ||
    (job.state == .leased && job.leaseUntil.any fun leaseUntil => decide (leaseUntil ≤ now))

/-- The keys a claim orders its candidates by, compared one after the other. -/
def ClaimKey := Int ×ₗ Int ×ₗ Int ×ₗ Uuid

instance : LinearOrder ClaimKey :=
  @Prod.Lex.instLinearOrder _ _ Int.instLinearOrder
    (@Prod.Lex.instLinearOrder _ _ Int.instLinearOrder
      (@Prod.Lex.instLinearOrder _ _ Int.instLinearOrder Fin.instLinearOrder))

namespace SqliteStore

/-- `COALESCE(tenant_queue_state.last_claim_sequence, 0)`. -/
def lastClaim (store : SqliteStore) (tenantId : String) : Int :=
  ((store.tenantQueueState.find? fun row => decide (row.tenantId = tenantId)).map
    TenantQueueRow.lastClaimSequence).getD 0

/-- The claimable jobs, joined with the tenants of their uploads. -/
def claimCandidates (now : Int) (store : SqliteStore) : List (JobRow × String) :=
  (store.jobs.filter (claimable now)).flatMap fun job =>
    (store.uploads.filter fun upload => upload.id == job.uploadId).map fun upload =>
      (job, upload.tenantId)

/-- The `ORDER BY` of a claim. -/
def claimOrder (store : SqliteStore) (candidate : JobRow × String) : ClaimKey :=
  toLex (store.lastClaim candidate.2, toLex (candidate.1.availableAt,
    toLex (candidate.1.createdAt, candidate.1.id.uuid)))

/-- The job a claim takes, with its tenant. -/
def claimCandidate (now : Int) (store : SqliteStore) : Option (JobRow × String) :=
  (store.claimCandidates now).argmin store.claimOrder

end SqliteStore

/-- The columns a claim sets. -/
def claimColumns (workerId : String) (now leaseUntil : Int) (job : JobProgress) : JobProgress :=
  { job with
    state := .leased
    attempts := job.attempts + 1
    leaseOwner := some workerId
    leaseUntil := some leaseUntil
    updatedAt := now }

/-- Take the job, draw the next claim number and enter it for the tenant. -/
def claimJob (workerId : String) (now leaseUntil : Int) (job : JobRow) (tenantId : String) :
    Tx SqliteStore JobQueueError (Option JobRow) := do
  let _ ← Tx.execute queueBackend
    (SqliteStore.updateJobs (fun row => row.id == job.id) (claimColumns workerId now leaseUntil))
  let returned ← Tx.select fun store => store.jobs.find? fun row => decide (row.id = job.id)
  let row ← Tx.okOr returned (queueBackend .rowNotFound)
  let claimSequence ← Tx.execute queueBackend SqliteStore.nextClaim
  let _ ← Tx.execute queueBackend (SqliteStore.upsertTenantQueue ⟨tenantId, claimSequence⟩)
  return some row

/-- The transaction of `claim_next`. -/
def claimTransaction (workerId : String) (now leaseUntil : Int) :
    Tx SqliteStore JobQueueError (Option JobRow) := do
  let candidate ← Tx.select (SqliteStore.claimCandidate now)
  match candidate with
  | none => return none
  | some (job, tenantId) => claimJob workerId now leaseUntil job tenantId

/-- Decoding of the claimed row, after the commit. -/
def leasedFromRow (row : JobRow) : Except JobQueueError LeasedProcessingJob :=
  match u32TryFrom row.attempts with
  | none => .error (.text "stored attempt count is invalid")
  | some attempts =>
      match row.leaseUntil.bind OffsetDateTime.fromUnixTimestamp with
      | none => .error (.text "stored lease expiration is invalid")
      | some leaseUntil =>
          match OffsetDateTime.fromUnixTimestamp row.createdAt with
          | none => .error (.text "stored job creation time is invalid")
          | some enqueuedAt =>
              match row.sitePolicyRevision with
              | none => .ok ⟨row.id, ⟨row.uploadId, row.presetId, none⟩, attempts, leaseUntil,
                  enqueuedAt⟩
              | some stored =>
                  match u64TryFrom stored with
                  | none => .error (.text "stored site policy revision is invalid")
                  | some revision => .ok ⟨row.id, ⟨row.uploadId, row.presetId, some revision⟩,
                      attempts, leaseUntil, enqueuedAt⟩

/-- `JobQueue::claim_next`. -/
def claimNext (workerId : String) (now : OffsetDateTime) (leaseFor : Duration) :
    Call SqliteStore JobQueueError (Option LeasedProcessingJob) := do
  Call.ensure (narrowToken workerId 128) (.text "worker_id is invalid")
  let leaseUntil ← Call.readOr fun _ => leaseExpiration now leaseFor
  let claimed ← commit (claimTransaction workerId now.unixTimestamp leaseUntil)
  match claimed with
  | none => return none
  | some row => Call.readOr fun _ => (leasedFromRow row).map some

/-! ## The owner's operations -/

/-- `JobQueue::renew`. -/
def renew (jobId : JobId) (workerId : String) (now : OffsetDateTime) (leaseFor : Duration) :
    Call SqliteStore JobQueueError OffsetDateTime := do
  Call.ensure (narrowToken workerId 128) (.text "worker_id is invalid")
  let leaseUntil ← Call.readOr fun _ => leaseExpiration now leaseFor
  let renewed ← autocommit queueBackend
    (SqliteStore.updateJobs
      (fun row => row.id == jobId && row.state == .leased && row.leaseOwner == some workerId &&
        row.leaseUntil.any fun stored => decide (now.unixTimestamp < stored))
      fun job => { job with leaseUntil := some leaseUntil, updatedAt := now.unixTimestamp })
  Call.ensure (renewed != 0) (.text "job lease is not renewable by this worker")
  Call.okOr (OffsetDateTime.fromUnixTimestamp leaseUntil)
    (.text "renewed lease expiration is invalid")

/-- The `WHERE` of `complete` and `fail`. -/
def leasedBy (jobId : JobId) (workerId : String) (row : JobRow) : Bool :=
  row.id == jobId && row.state == .leased && row.leaseOwner == some workerId

/-- The columns `complete` sets. -/
def completeColumns (now : Int) (job : JobProgress) : JobProgress :=
  { job with state := .completed, leaseOwner := none, leaseUntil := none, updatedAt := now }

/-- `JobQueue::complete`. -/
def complete (jobId : JobId) (workerId : String) (now : OffsetDateTime) :
    Call SqliteStore JobQueueError Unit := do
  Call.ensure (narrowToken workerId 128) (.text "worker_id is invalid")
  let completed ← autocommit queueBackend
    (SqliteStore.updateJobs (leasedBy jobId workerId) (completeColumns now.unixTimestamp))
  Call.ensure (completed == 1) (.text "job is not leased by the requesting worker")

/-- The columns `fail` sets. -/
def failColumns (now retryAt : Int) (maxAttempts : Nat) (errorCode : String) (job : JobProgress) :
    JobProgress :=
  { job with
    state := if (maxAttempts : Int) ≤ job.attempts then .deadLetter else .queued
    availableAt := retryAt
    leaseOwner := none
    leaseUntil := none
    lastErrorCode := some errorCode
    updatedAt := now }

/-- Decoding of the state `fail` returns. -/
def dispositionOf : Option JobState → Except JobQueueError JobFailureDisposition
  | some .queued => .ok .retryScheduled
  | some .deadLetter => .ok .deadLetter
  | _ => .error (.text "stored job state is invalid")

/-- `JobQueue::fail`. -/
def fail (jobId : JobId) (workerId : String) (now retryAt : OffsetDateTime) (maxAttempts : Nat)
    (errorCode : String) : Call SqliteStore JobQueueError JobFailureDisposition := do
  Call.ensure (narrowToken workerId 128) (.text "worker_id is invalid")
  Call.ensure (maxAttempts != 0 && !errorCode.isEmpty && decide (errorCode.utf8ByteSize ≤ 64))
    (.text "failure policy is invalid")
  let failed ← autocommit queueBackend
    (SqliteStore.updateJobs (leasedBy jobId workerId)
      (failColumns now.unixTimestamp retryAt.unixTimestamp maxAttempts errorCode))
  Call.ensure (failed != 0) (.text "job is not leased by the requesting worker")
  Call.readOr fun store =>
    dispositionOf ((store.jobs.find? fun row => decide (row.id = jobId)).map fun row : JobRow =>
      row.state)

/-! ## What a claim does -/

section Specification

variable {store store' : SqliteStore}

theorem claimCandidates_mem {now : Int} {job : JobRow} {tenantId : String} :
    (job, tenantId) ∈ store.claimCandidates now ↔
      job ∈ store.jobs ∧ claimable now job = true ∧
        ∃ upload ∈ store.uploads, upload.id = job.uploadId ∧ upload.tenantId = tenantId := by
  simp only [SqliteStore.claimCandidates, List.mem_flatMap, List.mem_filter, List.mem_map,
    beq_iff_eq, Prod.mk.injEq]
  constructor
  · rintro ⟨found, ⟨member, due⟩, upload, ⟨owner, sameId⟩, rfl, rfl⟩
    exact ⟨member, due, upload, owner, sameId, rfl⟩
  · rintro ⟨member, due, upload, owner, sameId, tenant⟩
    exact ⟨job, ⟨member, due⟩, upload, ⟨owner, sameId⟩, rfl, tenant⟩

theorem claimCandidate_mem {now : Int} {job : JobRow} {tenantId : String}
    (candidate : store.claimCandidate now = some (job, tenantId)) :
    (job, tenantId) ∈ store.claimCandidates now :=
  List.argmin_mem candidate

/-- Nothing claimable is ordered before the claimed job. -/
theorem claimCandidate_le {now : Int} {picked other : JobRow × String}
    (candidate : store.claimCandidate now = some picked)
    (member : other ∈ store.claimCandidates now) :
    store.claimOrder picked ≤ store.claimOrder other :=
  List.le_of_mem_argmin member candidate

/-- The store after `workerId` claimed `job` for `tenantId`. -/
structure Claims (workerId : String) (now leaseUntil : Int) (job : JobRow) (tenantId : String)
    (s t : SqliteStore) : Prop where
  candidate : s.claimCandidate now = some (job, tenantId)
  moved : JobMoved job (claimColumns workerId now leaseUntil) s t
  sequence : t.nextClaimSequence = s.nextClaimSequence + 1
  turns : t.tenantQueueState = upserted ⟨tenantId, s.nextClaimSequence⟩ s.tenantQueueState
  turnChecked : tenantQueueChecks ⟨tenantId, s.nextClaimSequence⟩ = true
  effect : Effect [.updateJobs, .turns] s t

theorem Claims.due {workerId : String} {now leaseUntil : Int} {job : JobRow} {tenantId : String}
    {s t : SqliteStore} (claims : Claims workerId now leaseUntil job tenantId s t) :
    claimable now job = true :=
  (claimCandidates_mem.1 (claimCandidate_mem claims.candidate)).2.1

theorem claimTransaction_ok {workerId : String} {now leaseUntil : Int} {result : Option JobRow}
    (integrity : store.Integrity)
    (ran : claimTransaction workerId now leaseUntil store = .ok (result, store')) :
    (result = none ∧ store' = store ∧ store.claimCandidate now = none) ∨
      ∃ job tenantId, Claims workerId now leaseUntil job tenantId store store' ∧
        result = some (job.assign (claimColumns workerId now leaseUntil)) := by
  simp only [claimTransaction, bind_eq_ok, select_eq_ok] at ran
  obtain ⟨candidate, _, ⟨chosen, rfl⟩, ran⟩ := ran
  cases candidate with
  | none =>
      obtain ⟨rfl, rfl⟩ := pure_eq_ok.1 ran
      exact .inl ⟨rfl, rfl, chosen⟩
  | some pair =>
      obtain ⟨job, tenantId⟩ := pair
      simp only [claimJob, bind_eq_ok, execute_eq_ok, select_eq_ok, okOr_eq_ok, pure_eq_ok] at ran
      obtain ⟨n, leased, updated, returned, _, ⟨looked, rfl⟩, row, _, ⟨found, rfl⟩, sequence, drawn,
        drew, m, final, entered, rfl, rfl⟩ := ran
      have updateWrote : Wrote [.updateJobs, .turns] store leased :=
        .updateJobs (by simp) updated
      have drawWrote : Wrote [.updateJobs, .turns] leased drawn := .nextClaim (by simp) drew
      have enterWrote : Wrote [.updateJobs, .turns] drawn final :=
        .upsertTenantQueue (by simp) entered
      have effect : Effect [.updateJobs, .turns] store final :=
        .tail (.tail (.single updateWrote) drawWrote) enterWrote
      obtain ⟨-, counters, -, leasedEq⟩ := SqliteStore.updateJobs_ok updated
      obtain ⟨rfl, -, drawnEq⟩ := SqliteStore.nextClaim_ok drew
      obtain ⟨checked, finalEq⟩ := SqliteStore.upsertTenantQueue_ok entered
      have sequence : leased.nextClaimSequence = store.nextClaimSequence := by rw [leasedEq]
      have claims : Claims workerId now leaseUntil job tenantId store final :=
        { candidate := chosen
          moved :=
            { member := (claimCandidates_mem.1 (claimCandidate_mem chosen)).1
              jobs := by rw [finalEq, drawnEq, leasedEq]
              uploads := by rw [finalEq, drawnEq, leasedEq]
              derivatives := by rw [finalEq, drawnEq, leasedEq] }
          sequence := by rw [finalEq, drawnEq, leasedEq]
          turns := by rw [finalEq, drawnEq, leasedEq, upserted]
          turnChecked := by rw [← sequence]; exact checked
          effect := effect }
      refine .inr ⟨job, tenantId, claims, ?_⟩
      have keyed' := (updateWrote.integrity integrity).jobIds
      have there : job.assign (claimColumns workerId now leaseUntil) ∈ leased.jobs := by
        rw [leasedEq, ← claims.moved.jobs]
        exact claims.moved.moved_mem
      rw [← looked] at found
      exact found.symm.trans (find?_eq_some_of_key keyed' there)

/-- The statements of a claim that succeed are a claim. -/
theorem claimTransaction_of_statements {workerId : String} {now leaseUntil sequence : Int}
    {job row : JobRow} {tenantId : String} {n m : Nat} {leased drawn : SqliteStore}
    (candidate : store.claimCandidate now = some (job, tenantId))
    (updated : SqliteStore.updateJobs (fun row => row.id == job.id)
      (claimColumns workerId now leaseUntil) store = .ok (n, leased))
    (returned : (leased.jobs.find? fun row => decide (row.id = job.id)) = some row)
    (drew : leased.nextClaim = .ok (sequence, drawn))
    (entered : SqliteStore.upsertTenantQueue ⟨tenantId, sequence⟩ drawn = .ok (m, store')) :
    claimTransaction workerId now leaseUntil store = .ok (some row, store') := by
  simp only [claimTransaction, bind_eq_ok, select_eq_ok]
  refine ⟨_, _, ⟨candidate, rfl⟩, ?_⟩
  simp only [claimJob, bind_eq_ok, execute_eq_ok, select_eq_ok, okOr_eq_ok, pure_eq_ok]
  exact ⟨n, leased, updated, _, _, ⟨rfl, rfl⟩, row, _, ⟨returned, rfl⟩, sequence, drawn, drew, m,
    store', entered, rfl, rfl⟩

/-- A claim that committed answers with its decoded row. -/
theorem claimNext_of_claimed {workerId : String} {now : OffsetDateTime} {leaseFor : Duration}
    {leaseUntil : Int} {row : JobRow} (valid : narrowToken workerId 128 = true)
    (expires : leaseExpiration now leaseFor = .ok leaseUntil)
    (ran : claimTransaction workerId now.unixTimestamp leaseUntil store = .ok (some row, store')) :
    claimNext workerId now leaseFor store = ((leasedFromRow row).map some, store') := by
  have checked : (Call.ensure (narrowToken workerId 128) (.text "worker_id is invalid") :
      Call SqliteStore JobQueueError Unit) store = (.ok (), store) :=
    call_ensure_eq_ok.2 ⟨valid, rfl⟩
  rw [claimNext, call_bind_of_ok checked]
  have read : Call.readOr (fun _ => leaseExpiration now leaseFor) store = (.ok leaseUntil, store) :=
    congrArg (fun result => (result, store)) expires
  rw [call_bind_of_ok read, call_bind_of_ok (commit_eq_ok.2 ran)]
  rfl

/-- All that `claim_next` can do: change nothing, or claim one job and answer with
the decoding of its row. -/
theorem claimNext_cases {workerId : String} {now : OffsetDateTime} {leaseFor : Duration}
    {result : Except JobQueueError (Option LeasedProcessingJob)} (integrity : store.Integrity)
    (ran : claimNext workerId now leaseFor store = (result, store')) :
    (store' = store ∧ (∀ leased, result ≠ .ok (some leased)) ∧
        (result = .ok none → store.claimCandidate now.unixTimestamp = none)) ∨
      ∃ leaseUntil job tenantId, leaseExpiration now leaseFor = .ok leaseUntil ∧
        Claims workerId now.unixTimestamp leaseUntil job tenantId store store' ∧
        result = (leasedFromRow
          (job.assign (claimColumns workerId now.unixTimestamp leaseUntil))).map some := by
  cases result with
  | error e =>
      simp only [claimNext, call_bind_eq_error, call_ensure_eq_ok, call_ensure_eq_error,
        call_readOr_eq, Prod.mk.injEq, commit_eq_ok] at ran
      obtain ⟨-, -, rfl⟩ | ⟨_, _, ⟨-, rfl⟩, ⟨-, rfl⟩ |
        ⟨leaseUntil, _, ⟨expires, rfl⟩, failed | ⟨claimed, after, committed, decoded⟩⟩⟩ := ran
      · exact .inl ⟨rfl, by simp, by simp⟩
      · exact .inl ⟨rfl, by simp, by simp⟩
      · rw [commit_error failed]
        exact .inl ⟨rfl, by simp, by simp⟩
      · obtain ⟨rfl, -, -⟩ | ⟨job, tenantId, claims, rfl⟩ :=
          claimTransaction_ok integrity committed
        · simp at decoded
        · simp only [call_readOr_eq, Prod.mk.injEq] at decoded
          obtain ⟨answer, rfl⟩ := decoded
          exact .inr ⟨leaseUntil, job, tenantId, expires, claims, answer.symm⟩
  | ok answer =>
      simp only [claimNext, call_bind_eq_ok, call_ensure_eq_ok, call_readOr_eq, Prod.mk.injEq,
        commit_eq_ok] at ran
      obtain ⟨_, _, ⟨-, rfl⟩, leaseUntil, _, ⟨expires, rfl⟩, claimed, after, committed, decoded⟩ :=
        ran
      obtain ⟨rfl, rfl, empty⟩ | ⟨job, tenantId, claims, rfl⟩ :=
        claimTransaction_ok integrity committed
      · simp only [call_pure_eq, Prod.mk.injEq, Except.ok.injEq] at decoded
        obtain ⟨rfl, rfl⟩ := decoded
        exact .inl ⟨rfl, by simp, fun _ => empty⟩
      · simp only [call_readOr_eq, Prod.mk.injEq] at decoded
        obtain ⟨decoded, rfl⟩ := decoded
        exact .inr ⟨leaseUntil, job, tenantId, expires, claims, decoded.symm⟩

/-- What decoding a claimed row answers. -/
theorem leasedFromRow_ok {row : JobRow} {leased : LeasedProcessingJob}
    (decoded : leasedFromRow row = .ok leased) :
    leased.jobId = row.id ∧ leased.job.uploadId = row.uploadId ∧
      leased.job.presetId = row.presetId ∧ (leased.attempts : Int) = row.attempts ∧
      ∃ leaseUntil, row.leaseUntil = some leaseUntil ∧
        OffsetDateTime.fromUnixTimestamp leaseUntil = some leased.leaseUntil := by
  rw [leasedFromRow] at decoded
  split at decoded
  · cases decoded
  rename_i attempts counted
  split at decoded
  · cases decoded
  rename_i leaseUntil expires
  split at decoded
  · cases decoded
  have attemptsEq := (u32TryFrom_eq_some.1 counted).1
  obtain ⟨stored, held, parsed⟩ := Option.bind_eq_some_iff.1 expires
  split at decoded
  · cases decoded
    exact ⟨rfl, rfl, rfl, attemptsEq.symm, stored, held, parsed⟩
  · split at decoded
    · cases decoded
    · cases decoded
      exact ⟨rfl, rfl, rfl, attemptsEq.symm, stored, held, parsed⟩

/-! ## What the owner's operations do -/

/-- `renew` moves the lease of a job its caller holds unexpired, or changes nothing. -/
theorem renew_cases {jobId : JobId} {workerId : String} {now : OffsetDateTime}
    {leaseFor : Duration} {result : Except JobQueueError OffsetDateTime}
    (integrity : store.Integrity)
    (ran : renew jobId workerId now leaseFor store = (result, store')) :
    (store' = store ∧ ∃ error, result = .error error) ∨
      ∃ leaseUntil job, leaseExpiration now leaseFor = .ok leaseUntil ∧ job.id = jobId ∧
        job.state = .leased ∧ job.leaseOwner = some workerId ∧
        (∃ stored, job.leaseUntil = some stored ∧ now.unixTimestamp < stored) ∧
        JobMoved job (fun progress =>
          { progress with leaseUntil := some leaseUntil, updatedAt := now.unixTimestamp })
          store store' ∧
        (∀ renewed, result = .ok renewed ↔
          OffsetDateTime.fromUnixTimestamp leaseUntil = some renewed) := by
  have pinned : ∀ row : JobRow, (row.id == jobId && row.state == .leased &&
      row.leaseOwner == some workerId && row.leaseUntil.any fun stored =>
        decide (now.unixTimestamp < stored)) = true → row.id = jobId := by
    intro row hits
    simp only [Bool.and_eq_true, beq_iff_eq] at hits
    exact hits.1.1.1
  obtain ⟨checked, early⟩ | ⟨leaseUntil, n, middle, expires, updated, late⟩ :
      (store' = store ∧ ∃ error, result = .error error) ∨
        ∃ leaseUntil n middle, leaseExpiration now leaseFor = .ok leaseUntil ∧
          SqliteStore.updateJobs
            (fun row => row.id == jobId && row.state == .leased &&
              row.leaseOwner == some workerId && row.leaseUntil.any fun stored =>
                decide (now.unixTimestamp < stored))
            (fun job => { job with leaseUntil := some leaseUntil, updatedAt := now.unixTimestamp })
            store = .ok (n, middle) ∧ store' = middle ∧
          ((n = 0 ∧ ∃ error, result = .error error) ∨
            (n ≠ 0 ∧ ∀ renewed, result = .ok renewed ↔
              OffsetDateTime.fromUnixTimestamp leaseUntil = some renewed)) := by
    cases result with
    | error e =>
        simp only [renew, call_bind_eq_error, call_ensure_eq_ok, call_ensure_eq_error,
          call_readOr_eq, Prod.mk.injEq, autocommit_eq_ok, call_okOr_eq_error] at ran
        obtain ⟨-, -, rfl⟩ | ⟨_, _, ⟨-, rfl⟩, ⟨-, rfl⟩ | ⟨leaseUntil, _, ⟨expires, rfl⟩, failed |
          ⟨n, middle, updated, ⟨none, -, rfl⟩ | ⟨_, _, ⟨some, rfl⟩, invalid, -, rfl⟩⟩⟩⟩ := ran
        · exact .inl ⟨rfl, e, rfl⟩
        · exact .inl ⟨rfl, e, rfl⟩
        · exact .inl ⟨autocommit_error failed, e, rfl⟩
        · exact .inr ⟨leaseUntil, n, middle, expires, updated, rfl,
            .inl ⟨by simpa using none, e, rfl⟩⟩
        · exact .inr ⟨leaseUntil, n, middle, expires, updated, rfl,
            .inr ⟨by simpa using some, by simp [invalid]⟩⟩
    | ok renewed =>
        simp only [renew, call_bind_eq_ok, call_ensure_eq_ok, call_readOr_eq, Prod.mk.injEq,
          autocommit_eq_ok, call_okOr_eq_ok] at ran
        obtain ⟨_, _, ⟨-, rfl⟩, leaseUntil, _, ⟨expires, rfl⟩, n, middle, updated, _, _,
          ⟨some, rfl⟩, decoded, rfl⟩ := ran
        refine .inr ⟨leaseUntil, n, _, expires, updated, rfl, .inr ⟨by simpa using some, ?_⟩⟩
        intro other
        rw [decoded, Except.ok.injEq, Option.some.injEq]
  · exact .inl ⟨checked, early⟩
  · obtain ⟨rfl, answered⟩ := late
    obtain ⟨rfl, same, -⟩ | ⟨rfl, job, hits, moved⟩ := updateJobs_moves integrity pinned updated
    · obtain ⟨-, failed⟩ | ⟨some, -⟩ := answered
      · exact .inl ⟨same, failed⟩
      · exact absurd rfl some
    · obtain ⟨none, -⟩ | ⟨-, decoded⟩ := answered
      · cases none
      · simp only [Bool.and_eq_true, beq_iff_eq, Option.any_eq_true, decide_eq_true_eq] at hits
        obtain ⟨⟨⟨sameId, leased⟩, owner⟩, stored, until_, unexpired⟩ := hits
        exact .inr ⟨leaseUntil, job, expires, sameId, leased, owner,
          ⟨stored, until_, unexpired⟩, moved, decoded⟩

theorem leasedBy_iff {jobId : JobId} {workerId : String} {row : JobRow} :
    leasedBy jobId workerId row = true ↔
      row.id = jobId ∧ row.state = .leased ∧ row.leaseOwner = some workerId := by
  simp [leasedBy, and_assoc]

/-- `complete` completes a job its caller leases, or changes nothing. -/
theorem complete_cases {jobId : JobId} {workerId : String} {now : OffsetDateTime}
    {result : Except JobQueueError Unit} (integrity : store.Integrity)
    (ran : complete jobId workerId now store = (result, store')) :
    (store' = store ∧ ∃ error, result = .error error) ∨
      (result = .ok () ∧ ∃ job, leasedBy jobId workerId job = true ∧
        JobMoved job (completeColumns now.unixTimestamp) store store') := by
  have pinned : ∀ row, leasedBy jobId workerId row = true → row.id = jobId :=
    fun row hits => (leasedBy_iff.1 hits).1
  cases result with
  | error e =>
      simp only [complete, call_bind_eq_error, call_ensure_eq_ok, call_ensure_eq_error,
        autocommit_eq_ok] at ran
      obtain ⟨-, -, rfl⟩ | ⟨_, _, ⟨-, rfl⟩, failed | ⟨n, middle, updated, few, -, rfl⟩⟩ := ran
      · exact .inl ⟨rfl, e, rfl⟩
      · exact .inl ⟨autocommit_error failed, e, rfl⟩
      · obtain ⟨-, same, -⟩ | ⟨rfl, -⟩ := updateJobs_moves integrity pinned updated
        · exact .inl ⟨same, e, rfl⟩
        · simp at few
  | ok u =>
      simp only [complete, call_bind_eq_ok, call_ensure_eq_ok, autocommit_eq_ok] at ran
      obtain ⟨_, _, ⟨-, rfl⟩, n, _, updated, one, rfl⟩ := ran
      obtain ⟨rfl, -⟩ | ⟨-, job, hits, moved⟩ := updateJobs_moves integrity pinned updated
      · simp at one
      · exact .inr ⟨rfl, job, hits, moved⟩

/-- What `fail` answers for a job with these columns. -/
def failDisposition (maxAttempts : Nat) (job : JobRow) : JobFailureDisposition :=
  if (maxAttempts : Int) ≤ job.attempts then .deadLetter else .retryScheduled

/-- `fail` settles the attempt of a job its caller leases, or changes nothing. -/
theorem fail_cases {jobId : JobId} {workerId : String} {now retryAt : OffsetDateTime}
    {maxAttempts : Nat} {errorCode : String} {result : Except JobQueueError JobFailureDisposition}
    (integrity : store.Integrity)
    (ran : fail jobId workerId now retryAt maxAttempts errorCode store = (result, store')) :
    (store' = store ∧ ∃ error, result = .error error) ∨
      ∃ job, leasedBy jobId workerId job = true ∧
        JobMoved job
          (failColumns now.unixTimestamp retryAt.unixTimestamp maxAttempts errorCode) store store' ∧
        result = .ok (failDisposition maxAttempts job) := by
  have pinned : ∀ row, leasedBy jobId workerId row = true → row.id = jobId :=
    fun row hits => (leasedBy_iff.1 hits).1
  -- what the statement returns is the moved row
  have answer : ∀ n after, SqliteStore.updateJobs (leasedBy jobId workerId)
      (failColumns now.unixTimestamp retryAt.unixTimestamp maxAttempts errorCode) store =
        .ok (n, after) → n ≠ 0 →
      result = dispositionOf ((after.jobs.find? fun row => decide (row.id = jobId)).map
        fun row : JobRow => row.state) →
      ∃ job, leasedBy jobId workerId job = true ∧
        JobMoved job (failColumns now.unixTimestamp retryAt.unixTimestamp maxAttempts errorCode)
          store after ∧ result = .ok (failDisposition maxAttempts job) := by
    intro n after updated some decoded
    obtain ⟨rfl, -⟩ | ⟨-, job, hits, moved⟩ := updateJobs_moves integrity pinned updated
    · exact absurd rfl some
    · refine ⟨job, hits, moved, ?_⟩
      have keyed := ((Wrote.updateJobs (K := [.updateJobs]) (by simp) updated).integrity
        integrity).jobIds
      have found := find?_eq_some_of_key keyed moved.moved_mem
      have state : (after.jobs.find? fun row => decide (row.id = jobId)).map
          (fun row : JobRow => row.state) =
            Option.some (if (maxAttempts : Int) ≤ job.attempts then .deadLetter else .queued) := by
        rw [← (leasedBy_iff.1 hits).1]
        exact congrArg (Option.map fun row : JobRow => row.state) found
      rw [decoded, state, failDisposition]
      split <;> rfl
  cases result with
  | error e =>
      simp only [fail, call_bind_eq_error, call_ensure_eq_ok, call_ensure_eq_error,
        autocommit_eq_ok, call_readOr_eq, Prod.mk.injEq] at ran
      obtain ⟨-, -, rfl⟩ | ⟨_, _, ⟨-, rfl⟩, ⟨-, -, rfl⟩ | ⟨_, _, ⟨-, rfl⟩, failed |
        ⟨n, middle, updated, ⟨few, -, rfl⟩ | ⟨_, _, ⟨some, rfl⟩, decoded, rfl⟩⟩⟩⟩ := ran
      · exact .inl ⟨rfl, e, rfl⟩
      · exact .inl ⟨rfl, e, rfl⟩
      · exact .inl ⟨autocommit_error failed, e, rfl⟩
      · obtain ⟨-, same, -⟩ | ⟨rfl, -⟩ := updateJobs_moves integrity pinned updated
        · exact .inl ⟨same, e, rfl⟩
        · simp at few
      · exact .inr (answer n _ updated (by simpa using some) decoded.symm)
  | ok disposition =>
      simp only [fail, call_bind_eq_ok, call_ensure_eq_ok, autocommit_eq_ok, call_readOr_eq,
        Prod.mk.injEq] at ran
      obtain ⟨_, _, ⟨-, rfl⟩, _, _, ⟨-, rfl⟩, n, middle, updated, _, _, ⟨some, rfl⟩, decoded, rfl⟩ :=
        ran
      exact .inr (answer n _ updated (by simpa using some) decoded.symm)

/-! ## Kinds -/

theorem moves_enqueue (id : JobId) (now : OffsetDateTime) (job : ProcessingJob) :
    Moves (Effect [.insertJob]) (enqueue id now job) := by
  refine moves_bind (moves_ensure _ _) fun _ => ?_
  refine moves_okOr_bind fun revision converted => ?_
  refine moves_bind (moves_autocommit fun s n t ran => ?_) fun _ => moves_pure _
  obtain ⟨-, rfl⟩ | inserted := SqliteStore.insertJobOrIgnore_ok ran
  · exact Relation.ReflTransGen.refl
  · refine (Wrote.insertJob (by simp) ?_ inserted).effect
    refine ⟨rfl, rfl, ⟨now, rfl⟩, fun stored named => .inl ?_⟩
    exact i64TryFromOption_bounds (converted.trans (congrArg some named))

theorem moves_claimNext (workerId : String) (now : OffsetDateTime) (leaseFor : Duration) :
    Moves (Effect [.updateJobs, .turns]) (claimNext workerId now leaseFor) := by
  refine moves_bind (moves_ensure _ _) fun _ => ?_
  refine moves_bind (moves_readOr _) fun leaseUntil => ?_
  refine moves_bind (moves_commit ?_) fun claimed => ?_
  · refine along_bind (along_select _) fun candidate => ?_
    cases candidate with
    | none => exact along_pure _
    | some pair =>
        refine along_bind (along_execute fun s n t ran => ?_) fun _ => ?_
        · exact (Wrote.updateJobs (by simp) ran).effect
        refine along_bind (along_select _) fun returned => ?_
        refine along_bind (along_okOr _ _) fun row => ?_
        refine along_bind (along_execute fun s n t ran => ?_) fun sequence => ?_
        · exact (Wrote.nextClaim (by simp) ran).effect
        refine along_bind (along_execute fun s n t ran => ?_) fun _ => along_pure _
        exact (Wrote.upsertTenantQueue (by simp) ran).effect
  · cases claimed with
    | none => exact moves_pure _
    | some row => exact moves_readOr _

theorem moves_renew (jobId : JobId) (workerId : String) (now : OffsetDateTime)
    (leaseFor : Duration) : Moves (Effect [.updateJobs]) (renew jobId workerId now leaseFor) := by
  refine moves_bind (moves_ensure _ _) fun _ => ?_
  refine moves_bind (moves_readOr _) fun leaseUntil => ?_
  refine moves_bind (moves_autocommit fun s n t ran => ?_) fun _ => ?_
  · exact (Wrote.updateJobs (by simp) ran).effect
  · exact moves_bind (moves_ensure _ _) fun _ => moves_okOr _ _

theorem moves_complete (jobId : JobId) (workerId : String) (now : OffsetDateTime) :
    Moves (Effect [.updateJobs]) (complete jobId workerId now) := by
  refine moves_bind (moves_ensure _ _) fun _ => ?_
  refine moves_bind (moves_autocommit fun s n t ran => ?_) fun _ => moves_ensure _ _
  exact (Wrote.updateJobs (by simp) ran).effect

theorem moves_fail (jobId : JobId) (workerId : String) (now retryAt : OffsetDateTime)
    (maxAttempts : Nat) (errorCode : String) :
    Moves (Effect [.updateJobs]) (fail jobId workerId now retryAt maxAttempts errorCode) := by
  refine moves_bind (moves_ensure _ _) fun _ => ?_
  refine moves_bind (moves_ensure _ _) fun _ => ?_
  refine moves_bind (moves_autocommit fun s n t ran => ?_) fun _ => ?_
  · exact (Wrote.updateJobs (by simp) ran).effect
  · exact moves_bind (moves_ensure _ _) fun _ => moves_readOr _

end Specification

end MediaBooster.Store
