/-
# Queue.Run -- runs of the job queue, with the answers its callers get

An event is a call of the queue with its clock reading and its answer, or a call of
another repository.  `QueueEvent.report` is what its caller learns about a lease, and
`QueueStep.cases` all that an event can do to the jobs:

* nothing but insert queued jobs, without a report,
* claim one job, which is reported unless its row does not decode,
* extend the lease of a job for its owner, or settle the attempt of its owner.

A lost answer or a busy database is an error that changed nothing (`Replies.refused`).
-/
import MediaBooster.Store.Operations

namespace MediaBooster.Queue

set_option autoImplicit false

open MediaBooster.Domain MediaBooster.Store MediaBooster.Theory.Run MediaBooster.Theory.Table
open MediaBooster.Theory.Transaction

/-! ## Events -/

/-- A call of the queue and its answer, or a call of another repository. -/
inductive QueueEvent
  | enqueue (id : JobId) (now : OffsetDateTime) (job : ProcessingJob)
      (result : Except JobQueueError Unit)
  | claimNext (workerId : String) (now : OffsetDateTime) (leaseFor : Duration)
      (result : Except JobQueueError (Option LeasedProcessingJob))
  | renew (jobId : JobId) (workerId : String) (now : OffsetDateTime) (leaseFor : Duration)
      (result : Except JobQueueError OffsetDateTime)
  | complete (jobId : JobId) (workerId : String) (now : OffsetDateTime)
      (result : Except JobQueueError Unit)
  | fail (jobId : JobId) (workerId : String) (now retryAt : OffsetDateTime) (maxAttempts : Nat)
      (errorCode : String) (result : Except JobQueueError JobFailureDisposition)
  | other (op : Op) (ok : Bool)

/-- One event. -/
inductive QueueStep : SqliteStore → QueueEvent → SqliteStore → Prop
  | enqueue {s t : SqliteStore} {id : JobId} {now : OffsetDateTime} {job : ProcessingJob}
      {result : Except JobQueueError Unit} (replies : Replies (enqueue id now job) s result t) :
      QueueStep s (.enqueue id now job result) t
  | claimNext {s t : SqliteStore} {workerId : String} {now : OffsetDateTime} {leaseFor : Duration}
      {result : Except JobQueueError (Option LeasedProcessingJob)}
      (replies : Replies (claimNext workerId now leaseFor) s result t) :
      QueueStep s (.claimNext workerId now leaseFor result) t
  | renew {s t : SqliteStore} {jobId : JobId} {workerId : String} {now : OffsetDateTime}
      {leaseFor : Duration} {result : Except JobQueueError OffsetDateTime}
      (replies : Replies (renew jobId workerId now leaseFor) s result t) :
      QueueStep s (.renew jobId workerId now leaseFor result) t
  | complete {s t : SqliteStore} {jobId : JobId} {workerId : String} {now : OffsetDateTime}
      {result : Except JobQueueError Unit} (replies : Replies (complete jobId workerId now) s result t) :
      QueueStep s (.complete jobId workerId now result) t
  | fail {s t : SqliteStore} {jobId : JobId} {workerId : String} {now retryAt : OffsetDateTime}
      {maxAttempts : Nat} {errorCode : String} {result : Except JobQueueError JobFailureDisposition}
      (replies : Replies (fail jobId workerId now retryAt maxAttempts errorCode) s result t) :
      QueueStep s (.fail jobId workerId now retryAt maxAttempts errorCode result) t
  | other {s t : SqliteStore} {op : Op} {ok : Bool} (elsewhere : op.repository ≠ .jobQueue)
      (answers : Answers op s ok t) : QueueStep s (.other op ok) t

/-- What an event tells its caller about a lease. -/
inductive Report
  | claimed (workerId : String) (leased : LeasedProcessingJob)
  | renewed (workerId : String) (jobId : JobId) (leaseUntil : OffsetDateTime)
  | settled (workerId : String) (jobId : JobId)
deriving DecidableEq

namespace QueueEvent

def report : QueueEvent → Option Report
  | claimNext workerId _ _ (.ok (some leased)) => some (.claimed workerId leased)
  | renew jobId workerId _ _ (.ok leaseUntil) => some (.renewed workerId jobId leaseUntil)
  | complete jobId workerId _ (.ok ()) => some (.settled workerId jobId)
  | fail jobId workerId _ _ _ _ (.ok _) => some (.settled workerId jobId)
  | _ => none

/-- The clock reading of a call of the queue. -/
def now : QueueEvent → Option OffsetDateTime
  | enqueue _ now _ _ | claimNext _ now _ _ | renew _ _ now _ _ | complete _ _ now _
  | fail _ _ now _ _ _ _ => some now
  | other _ _ => none

/-- The lease a call of the queue asks for. -/
def leaseFor : QueueEvent → Option Duration
  | claimNext _ _ leaseFor _ | renew _ _ _ leaseFor _ => some leaseFor
  | _ => none

/-- Whether an event deletes the jobs of tombstones. -/
def purges : QueueEvent → Bool
  | other op _ => op.kinds.contains .deleteUploads
  | _ => false

end QueueEvent

/-- Every event is a call of the store. -/
theorem QueueStep.answers {s t : SqliteStore} {event : QueueEvent} (step : QueueStep s event t) :
    ∃ op ok, Answers op s ok t := by
  cases step with
  | @enqueue _ id now job result replies =>
      exact ⟨.enqueue id now job, _, .ofReplies (fun _ => rfl) replies⟩
  | @claimNext _ workerId now leaseFor result replies =>
      exact ⟨.claimNext workerId now leaseFor, _, .ofReplies (fun _ => rfl) replies⟩
  | @renew _ jobId workerId now leaseFor result replies =>
      exact ⟨.renew jobId workerId now leaseFor, _, .ofReplies (fun _ => rfl) replies⟩
  | @complete _ jobId workerId now result replies =>
      exact ⟨.complete jobId workerId now, _, .ofReplies (fun _ => rfl) replies⟩
  | @fail _ jobId workerId now retryAt maxAttempts errorCode result replies =>
      exact ⟨.fail jobId workerId now retryAt maxAttempts errorCode, _,
        .ofReplies (fun _ => rfl) replies⟩
  | @other _ op ok elsewhere answers => exact ⟨op, ok, answers⟩

theorem QueueStep.integrity {s t : SqliteStore} {event : QueueEvent} (step : QueueStep s event t)
    (integrity : s.Integrity) : t.Integrity := by
  obtain ⟨op, ok, answers⟩ := step.answers
  exact answers.integrity integrity

/-! ## What an event can do -/

/-- Operations outside the queue leave the jobs as they are, but for new ones. -/
theorem jobs_added_elsewhere {s t : SqliteStore} {op : Op} {ok : Bool} (integrity : s.Integrity)
    (elsewhere : op.repository ≠ .jobQueue) (stays : .deleteUploads ∉ op.kinds)
    (answers : Answers op s ok t) : JobsAdded s t := by
  refine (answers.effect integrity).jobs_added ?_ stays
  cases op <;> simp [Op.repository, Op.kinds] at elsewhere ⊢

/-- The columns `renew` sets. -/
def renewColumns (now leaseUntil : Int) (job : JobProgress) : JobProgress :=
  { job with leaseUntil := some leaseUntil, updatedAt := now }

/-- A change that gives the lease up and keeps the attempts. -/
def Settles (set : JobProgress → JobProgress) : Prop :=
  ∀ progress, (set progress).state ≠ .leased ∧ (set progress).attempts = progress.attempts

theorem settles_complete (now : Int) : Settles (completeColumns now) := fun progress =>
  ⟨by simp [completeColumns], rfl⟩

theorem settles_fail (now retryAt : Int) (maxAttempts : Nat) (errorCode : String) :
    Settles (failColumns now retryAt maxAttempts errorCode) := fun progress => by
  refine ⟨?_, rfl⟩
  rw [failColumns]
  split <;> simp

/-- The claim of one job. -/
structure ClaimStep (s : SqliteStore) (event : QueueEvent) (t : SqliteStore) (job : JobRow)
    (tenantId workerId : String) (now : OffsetDateTime) (leaseFor : Duration) (leaseUntil : Int) :
    Prop where
  event : event = .claimNext workerId now leaseFor
    ((leasedFromRow (job.assign (claimColumns workerId now.unixTimestamp leaseUntil))).map some)
  expires : leaseExpiration now leaseFor = .ok leaseUntil
  claims : Claims workerId now.unixTimestamp leaseUntil job tenantId s t

/-- The renewal of one lease. -/
structure RenewStep (s : SqliteStore) (event : QueueEvent) (t : SqliteStore) (job : JobRow)
    (workerId : String) (now : OffsetDateTime) (leaseFor : Duration) (leaseUntil : Int)
    (result : Except JobQueueError OffsetDateTime) : Prop where
  event : event = .renew job.id workerId now leaseFor result
  expires : leaseExpiration now leaseFor = .ok leaseUntil
  leased : job.state = .leased
  owner : job.leaseOwner = some workerId
  unexpired : ∃ stored, job.leaseUntil = some stored ∧ now.unixTimestamp < stored
  moved : JobMoved job (renewColumns now.unixTimestamp leaseUntil) s t
  result : ∀ renewed, result = .ok renewed ↔
    OffsetDateTime.fromUnixTimestamp leaseUntil = some renewed

/-- The end of one attempt. -/
structure SettleStep (s : SqliteStore) (event : QueueEvent) (t : SqliteStore) (job : JobRow)
    (workerId : String) (set : JobProgress → JobProgress) : Prop where
  report : event.report = some (.settled workerId job.id)
  leased : leasedBy job.id workerId job = true
  settles : Settles set
  moved : JobMoved job set s t

/-- **All that an event can do to the jobs.** -/
theorem QueueStep.cases {s t : SqliteStore} {event : QueueEvent} (integrity : s.Integrity)
    (stays : event.purges = false) (step : QueueStep s event t) :
    (event.report = none ∧ JobsAdded s t) ∨
      (∃ job tenantId workerId now leaseFor leaseUntil,
        ClaimStep s event t job tenantId workerId now leaseFor leaseUntil) ∨
      (∃ job workerId now leaseFor leaseUntil result,
        RenewStep s event t job workerId now leaseFor leaseUntil result) ∨
      (∃ job workerId set, SettleStep s event t job workerId set) := by
  cases step with
  | @enqueue _ id now job result replies =>
      have answers : Answers (.enqueue id now job) s _ t := .ofReplies (fun _ => rfl) replies
      exact .inl ⟨rfl, (answers.effect integrity).jobs_added (by simp [Op.kinds])
        (by simp [Op.kinds])⟩
  | @claimNext _ workerId now leaseFor result replies =>
      cases replies with
      | refused error => exact .inl ⟨rfl, .refl s⟩
      | ran answer =>
          obtain ⟨rfl, none, -⟩ | ⟨leaseUntil, job, tenantId, expires, claims, rfl⟩ :=
            claimNext_cases integrity answer
          · refine .inl ⟨?_, .refl t⟩
            rw [QueueEvent.report.eq_def]
            split
            · rename_i same
              cases same
              exact absurd rfl (none _)
            all_goals simp_all
          · exact .inr (.inl ⟨job, tenantId, workerId, now, leaseFor, leaseUntil, rfl, expires,
              claims⟩)
  | @renew _ jobId workerId now leaseFor result replies =>
      cases replies with
      | refused error => exact .inl ⟨rfl, .refl s⟩
      | ran answer =>
          obtain ⟨rfl, error, rfl⟩ | ⟨leaseUntil, job, expires, rfl, leased, owner, unexpired, moved,
            decoded⟩ := renew_cases integrity answer
          · exact .inl ⟨rfl, .refl t⟩
          · exact .inr (.inr (.inl ⟨job, workerId, now, leaseFor, leaseUntil, result, rfl, expires,
              leased, owner, unexpired, moved, decoded⟩))
  | @complete _ jobId workerId now result replies =>
      cases replies with
      | refused error => exact .inl ⟨rfl, .refl s⟩
      | ran answer =>
          obtain ⟨rfl, error, rfl⟩ | ⟨rfl, job, leased, moved⟩ := complete_cases integrity answer
          · exact .inl ⟨rfl, .refl t⟩
          · obtain ⟨rfl, -⟩ := leasedBy_iff.1 leased
            exact .inr (.inr (.inr ⟨job, workerId, _, rfl, leased, settles_complete _, moved⟩))
  | @fail _ jobId workerId now retryAt maxAttempts errorCode result replies =>
      cases replies with
      | refused error => exact .inl ⟨rfl, .refl s⟩
      | ran answer =>
          obtain ⟨rfl, error, rfl⟩ | ⟨job, leased, moved, rfl⟩ := fail_cases integrity answer
          · exact .inl ⟨rfl, .refl t⟩
          · obtain ⟨rfl, -⟩ := leasedBy_iff.1 leased
            exact .inr (.inr (.inr ⟨job, workerId, _, rfl, leased, settles_fail _ _ _ _, moved⟩))
  | @other _ op ok elsewhere answers =>
      refine .inl ⟨rfl, jobs_added_elsewhere integrity elsewhere ?_ answers⟩
      simpa [QueueEvent.purges] using stays

/-! ## What is stored reads back -/

/-- The columns a claim decodes are in the ranges they are decoded into. -/
structure Readable (store : SqliteStore) : Prop where
  policies : ∀ policy ∈ store.sitePolicySnapshots, 0 ≤ policy.revision ∧ policy.revision ≤ i64Max
  created : ∀ job ∈ store.jobs, ∃ now : OffsetDateTime, job.createdAt = now.unixTimestamp
  revision : ∀ job ∈ store.jobs, ∀ revision, job.sitePolicyRevision = some revision →
    0 ≤ revision ∧ revision ≤ i64Max

theorem readable_migrated : Readable .migrated where
  policies := fun _ member => nomatch member
  created := fun _ member => nomatch member
  revision := fun _ member => nomatch member

/-- Every statement keeps what is stored readable. -/
theorem readable_wrote {K : List Kind} {s t : SqliteStore} (wrote : Wrote K s t)
    (readable : Readable s) : Readable t := by
  have policies : ∀ policy ∈ t.sitePolicySnapshots, 0 ≤ policy.revision ∧
      policy.revision ≤ i64Max := by
    intro policy member
    obtain same | ⟨-, row, checked, bounded, added⟩ := wrote.policies_cases
    · rw [same] at member
      exact readable.policies policy member
    · rw [added] at member
      rcases List.mem_append.1 member with old | new
      · exact readable.policies policy old
      · rw [List.mem_singleton.1 new]
        simp only [sitePolicyChecks, Bool.and_eq_true, decide_eq_true_eq] at checked
        exact ⟨by omega, bounded⟩
  -- a job's identity is that of an old job, or of a newly queued one
  have identity : ∀ job ∈ t.jobs, (∃ old ∈ s.jobs, job.toJobIdentity = old.toJobIdentity) ∨
      IsQueued s job := by
    intro job member
    obtain ⟨same, -⟩ | ⟨-, row, queued, -, -, added, -⟩ | ⟨-, hit, set, moved, -⟩ |
      ⟨-, hit, -, -, removed⟩ := wrote.jobs_cases
    · rw [same] at member
      exact .inl ⟨job, member, rfl⟩
    · rw [added] at member
      rcases List.mem_append.1 member with old | new
      · exact .inl ⟨job, old, rfl⟩
      · rw [List.mem_singleton.1 new]
        exact .inr queued
    · rw [moved] at member
      obtain ⟨old, there, result⟩ := mem_updateWhere.1 member
      refine .inl ⟨old, there, ?_⟩
      rw [result]
      split <;> rfl
    · rw [removed] at member
      exact .inl ⟨job, (mem_deleteWhere.1 member).1, rfl⟩
  refine ⟨policies, fun job member => ?_, fun job member revision named => ?_⟩
  · obtain ⟨old, there, same⟩ | queued := identity job member
    · rw [congrArg JobIdentity.createdAt same]
      exact readable.created old there
    · exact queued.created
  · obtain ⟨old, there, same⟩ | queued := identity job member
    · rw [congrArg JobIdentity.sitePolicyRevision same] at named
      exact readable.revision old there revision named
    · obtain bounds | ⟨policy, there, rfl⟩ := queued.revision revision named
      · exact bounds
      · exact readable.policies policy there

theorem QueueStep.readable {s t : SqliteStore} {event : QueueEvent} (step : QueueStep s event t)
    (integrity : s.Integrity) (readable : Readable s) : Readable t := by
  obtain ⟨op, ok, answers⟩ := step.answers
  exact (answers.effect integrity).keeps (fun _ _ wrote => readable_wrote wrote) readable

/-- The most attempts a claim can report. -/
def u32Max : Int := 4294967295

/-- **A claim is reported** exactly while its attempts fit the type of the report. -/
theorem leasedFromRow_isOk {row : JobRow} {leaseUntil : Int}
    (created : ∃ now : OffsetDateTime, row.createdAt = now.unixTimestamp)
    (revision : ∀ revision, row.sitePolicyRevision = some revision →
      0 ≤ revision ∧ revision ≤ i64Max)
    (held : row.leaseUntil = some leaseUntil) (lower : minUnixTimestamp ≤ leaseUntil)
    (upper : leaseUntil ≤ maxUnixTimestamp) (counted : 0 ≤ row.attempts) :
    (∃ leased, leasedFromRow row = .ok leased) ↔ row.attempts ≤ u32Max := by
  constructor
  · rintro ⟨leased, decoded⟩
    rw [leasedFromRow] at decoded
    split at decoded
    · cases decoded
    · rename_i attempts fits
      obtain ⟨same, small⟩ := u32TryFrom_eq_some.1 fits
      rw [same, u32Max]
      omega
  · intro fits
    rw [u32Max] at fits
    obtain ⟨now, createdAt⟩ := created
    have attempts : u32TryFrom row.attempts = some row.attempts.toNat := by
      rw [u32TryFrom_eq_some]
      omega
    obtain ⟨expiry, parsed, -⟩ := OffsetDateTime.fromUnixTimestamp_of_within lower upper
    obtain ⟨enqueuedAt, parsed', -⟩ := OffsetDateTime.fromUnixTimestamp_of_within
      now.unixTimestamp_bounds.1 now.unixTimestamp_bounds.2
    rw [leasedFromRow, attempts, held, createdAt]
    simp only [Option.bind_some, parsed, parsed']
    cases named : row.sitePolicyRevision with
    | none => exact ⟨_, rfl⟩
    | some stored =>
        obtain ⟨nonneg, bounded⟩ := revision stored named
        have unsigned : u64TryFrom stored = some stored.toNat := by
          rw [u64TryFrom_eq_some]
          simp only [i64Max] at bounded
          omega
        simp only [unsigned]
        exact ⟨_, rfl⟩

/-! ## Runs computed call by call -/

/-- A call that runs, as an event, and the store after it. -/
def perform (op : Op) (s : SqliteStore) : QueueEvent × SqliteStore :=
  match op with
  | .enqueue id now job =>
      (.enqueue id now job (enqueue id now job s).1, (enqueue id now job s).2)
  | .claimNext workerId now leaseFor =>
      (.claimNext workerId now leaseFor (claimNext workerId now leaseFor s).1,
        (claimNext workerId now leaseFor s).2)
  | .renew jobId workerId now leaseFor =>
      (.renew jobId workerId now leaseFor (renew jobId workerId now leaseFor s).1,
        (renew jobId workerId now leaseFor s).2)
  | .complete jobId workerId now =>
      (.complete jobId workerId now (complete jobId workerId now s).1,
        (complete jobId workerId now s).2)
  | .fail jobId workerId now retryAt maxAttempts errorCode =>
      (.fail jobId workerId now retryAt maxAttempts errorCode
          (fail jobId workerId now retryAt maxAttempts errorCode s).1,
        (fail jobId workerId now retryAt maxAttempts errorCode s).2)
  | op => (.other op (op.run s).1, (op.run s).2)

theorem perform_step (op : Op) (s : SqliteStore) : QueueStep s (perform op s).1 (perform op s).2 := by
  cases op with
  | enqueue id now job => exact .enqueue (.ran rfl)
  | claimNext workerId now leaseFor => exact .claimNext (.ran rfl)
  | renew jobId workerId now leaseFor => exact .renew (.ran rfl)
  | complete jobId workerId now => exact .complete (.ran rfl)
  | fail jobId workerId now retryAt maxAttempts errorCode => exact .fail (.ran rfl)
  | _ => exact .other (by simp [Op.repository]) .ran

/-- Calls that run one after the other: their events. -/
def performed : SqliteStore → List Op → List QueueEvent
  | _, [] => []
  | s, op :: ops => (perform op s).1 :: performed (perform op s).2 ops

/-- The store after them. -/
def afterAll : SqliteStore → List Op → SqliteStore
  | s, [] => s
  | s, op :: ops => afterAll (perform op s).2 ops

theorem performed_run (s : SqliteStore) (ops : List Op) :
    Trace QueueStep s (performed s ops) (afterAll s ops) := by
  induction ops generalizing s with
  | nil => exact .nil s
  | cons op ops ih => exact .cons (perform_step op s) (ih _)

/-! ## A sample run -/

theorem leaseOf_fits (seconds : Nat) : min seconds 100000 * 1000000000 < 2 ^ 64 * 1000000000 := by
  omega

/-- A lease of `seconds`. -/
def leaseOf (seconds : Nat) : Duration := ⟨min seconds 100000 * 1000000000, leaseOf_fits seconds⟩

/-- The sample upload is reserved and confirmed. -/
def sampleSetup : List QueueEvent :=
  [.other (.saveBatch sampleBatch sampleCapacity) true, .other sampleConfirmation true]

theorem sampleSetup_run : Trace QueueStep .migrated sampleSetup confirmedSample := by
  have saved : Answers (.saveBatch sampleBatch sampleCapacity) .migrated true reservedSample := .ran
  exact .cons (.other (by decide) saved)
    (Trace.single (.other (by decide) confirmedSample_answers))

end MediaBooster.Queue
