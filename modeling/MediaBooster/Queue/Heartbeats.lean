/-
# Queue.Heartbeats -- renewals that keep a lease

A worker that has claimed a job renews its lease on it, no two renewals further apart than two
heartbeats.  Instants are kept to the nanosecond; a lease ends at a second, is renewed before that
second and taken over from that second on.  Two heartbeats are shorter than a lease, in seconds, so
the second of an instant within two heartbeats is before the end of the lease (`Held.unexpired`).

* `heartbeats_keep_lease`: at every instant up to two heartbeats after the last renewal the owner's
  renewal is entered, and answered with the new end of the lease where that is an instant at all,
  and no claim returns the job.
* `renewal_past_the_calendar`: a lease whose renewed end is past the last instant is renewed with an
  error.
-/
import MediaBooster.Queue.Run
import MediaBooster.Quota.Counters
import MediaBooster.Service.Worker

namespace MediaBooster.Queue

set_option autoImplicit false

open MediaBooster.Domain MediaBooster.Store MediaBooster.Theory.Run MediaBooster.Theory.Table
open MediaBooster.Theory.Transaction
open MediaBooster.Quota (Tallied wrote_tallied migrated_tallied)
open MediaBooster.Service (WorkerPolicy)

/-! ## Workers with a heartbeat -/

/-- A worker whose lease and heartbeat are whole seconds, the lease longer than two heartbeats. -/
structure Beating where
  workerId : String
  lease : Nat
  heartbeat : Nat
  longer : 2 * heartbeat < lease
  fits : lease < 2 ^ 64

namespace Beating

/-- The lease, as it is asked for. -/
def leaseFor (b : Beating) : Duration := .fromSecs b.lease b.fits

/-- Two heartbeats, in nanoseconds. -/
def twoBeats (b : Beating) : Int := 2 * b.heartbeat * 1000000000

/-- A worker of a valid policy with whole seconds. -/
def ofPolicy (policy : WorkerPolicy) (valid : policy.isValid = true) (workerId : String)
    {lease heartbeat : Nat} (fits : lease < 2 ^ 64) (fits' : heartbeat < 2 ^ 64)
    (leases : policy.leaseFor = .fromSecs lease fits)
    (beats : policy.heartbeatEvery = .fromSecs heartbeat fits') : Beating where
  workerId := workerId
  lease := lease
  heartbeat := heartbeat
  fits := fits
  longer := by
    simp only [WorkerPolicy.isValid, Bool.and_eq_true, decide_eq_true_eq] at valid
    have longer := valid.1.1.1.1.1.1.1.1.1.1.1.2
    simp only [leases, beats, Duration.fromSecs] at longer
    omega

theorem leaseFor_asSecs (b : Beating) : b.leaseFor.asSecs = b.lease := by
  show b.lease * 1000000000 / 1000000000 = b.lease
  omega

/-- When the event renewed the worker's lease on the job. -/
def renewal (b : Beating) (jobId : JobId) : QueueEvent → Option OffsetDateTime
  | .renew job workerId now _ (.ok _) =>
      if job = jobId ∧ workerId = b.workerId then some now else none
  | _ => none

end Beating

/-! ## Runs -/

/-- The store, and the instant of the last renewal. -/
structure Beats where
  store : SqliteStore
  beat : OffsetDateTime

/-- An event within two heartbeats of the last renewal.  The worker asks for its own lease and does
not end its attempt, and its job is not deleted with its upload. -/
structure BeatStep (b : Beating) (jobId : JobId) (s : Beats) (event : QueueEvent) (t : Beats) :
    Prop where
  step : QueueStep s.store event t.store
  beat : t.beat = (b.renewal jobId event).getD s.beat
  within : ∀ now, event.now = some now → now.unixNanos ≤ s.beat.unixNanos + b.twoBeats
  asks : ∀ now leaseFor result, event = .renew jobId b.workerId now leaseFor result →
    leaseFor = b.leaseFor
  unsettled : event.report ≠ some (.settled b.workerId jobId)
  stays : event.purges = true → ∃ row ∈ t.store.jobs, row.id = jobId

/-! ## What is stored -/


/-- The attempts of every job pass the table's check. -/
def Attempted (store : SqliteStore) : Prop := ∀ job ∈ store.jobs, 0 ≤ job.attempts

section Stored

variable {s t : SqliteStore}

theorem wrote_attempted {K : List Kind} (wrote : Wrote K s t) (attempted : Attempted s) :
    Attempted t := by
  cases wrote with
  | insertUpload kind fresh ran =>
      obtain ⟨-, -, -, -, usage, counters, -, -, rfl⟩ := SqliteStore.insertUpload_ok ran
      exact attempted
  | updateUploads kind evolves ran =>
      obtain ⟨-, usage, counters, -, -, rfl⟩ := SqliteStore.updateUploads_ok ran
      exact attempted
  | deleteUploads kind tombstones ran =>
      obtain ⟨-, usage, counters, -, rfl⟩ := SqliteStore.deleteUploads_ok ran
      exact fun job member => attempted job (mem_deleteWhere.1 member).1
  | insertJob kind queued ran =>
      obtain ⟨-, -, -, counters, -, rfl⟩ := SqliteStore.insertJob_ok ran
      intro job member
      rcases List.mem_append.1 member with old | new
      · exact attempted job old
      · rw [List.mem_singleton.1 new, queued.attempts]
  | @updateJobs n hit set kind ran =>
      obtain ⟨-, counters, -, rfl⟩ := SqliteStore.updateJobs_ok ran
      intro job member
      obtain ⟨before, there, result⟩ := mem_updateWhere.1 member
      by_cases reached : hit before = true
      · rw [if_pos reached] at result
        simp only [SqliteStore.updateJobs, except_bind_eq_ok, require_eq_ok] at ran
        obtain ⟨-, passed, -⟩ := ran
        have checked := List.all_eq_true.1 passed (before, job)
          (mem_touched.2 ⟨before, there, reached, by rw [result]⟩)
        exact of_decide_eq_true checked
      · rw [if_neg reached] at result
        rw [result]
        exact attempted before there
  | upsertDerivative kind ran =>
      obtain rfl | ⟨-, -, rfl⟩ := SqliteStore.upsertDerivative_ok ran
      · exact attempted
      · exact attempted
  | insertSitePolicy kind bounded ran =>
      obtain ⟨-, rfl⟩ | ⟨-, -, rfl⟩ := SqliteStore.insertSitePolicy_ok ran
      · exact attempted
      · exact attempted
  | nextClaim kind ran =>
      obtain ⟨-, -, rfl⟩ := SqliteStore.nextClaim_ok ran
      exact attempted
  | upsertTenantQueue kind ran =>
      obtain ⟨-, rfl⟩ := SqliteStore.upsertTenantQueue_ok ran
      exact attempted
  | aside kind same =>
      rw [Attempted, same.jobs]
      exact attempted

/-- What is known of every state of the queue. -/
structure Kept (store : SqliteStore) : Prop where
  integrity : store.Integrity
  tallied : Tallied store
  attempted : Attempted store

theorem kept_migrated : Kept .migrated where
  integrity := migrated_integrity
  tallied := migrated_tallied
  attempted := fun _ member => nomatch member

theorem Kept.step {event : QueueEvent} (kept : Kept s) (step : QueueStep s event t) : Kept t := by
  obtain ⟨op, ok, answers⟩ := step.answers
  have effect := answers.effect kept.integrity
  exact ⟨answers.integrity kept.integrity, effect.keeps (fun _ _ wrote => wrote_tallied wrote)
    kept.tallied, effect.keeps (fun _ _ wrote => wrote_attempted wrote) kept.attempted⟩

/-- An update of one job that leaves its state goes through. -/
theorem Kept.updates (kept : Kept s) {job : JobRow} {hit : JobRow → Bool}
    {set : JobProgress → JobProgress} (member : job ∈ s.jobs) (hits : hit job = true)
    (pinned : ∀ row, hit row = true → row.id = job.id)
    (attempts : 0 ≤ (job.assign set).attempts) (state : (job.assign set).state = job.state) :
    ∃ after, SqliteStore.updateJobs hit set s = .ok (1, after) := by
  have reached : touched hit (JobRow.assign set) s.jobs = [(job, job.assign set)] := by
    have there : (job, job.assign set) ∈ touched hit (JobRow.assign set) s.jobs :=
      mem_touched.2 ⟨job, member, hits, rfl⟩
    obtain ⟨-, untouched⟩ | ⟨one, -⟩ :=
      kept.integrity.jobIds.touched_pinned (JobRow.assign set) pinned
    · rw [untouched job member] at hits
      cases hits
    · obtain ⟨pair, is⟩ := List.length_eq_one_iff.1 one
      rw [is, List.mem_singleton] at there
      rw [is, there]
  have checked : jobChecks (job.assign set) = true := decide_eq_true attempts
  have tally : tallyJob (job.assign set) = tallyJob job := by
    funext counter
    cases counter <;> simp only [tallyJob, state]
  have adjusted : adjust s.operationalCounters (tallyJob (job.assign set) - tallyJob job) =
      .ok (s.operationalCounters + (tallyJob (job.assign set) - tallyJob job)) := by
    refine adjust_ok fun counter => ?_
    rw [tally, sub_self, Pi.zero_apply, add_zero]
    exact kept.tallied.nonneg counter
  refine ⟨{ s with
    jobs := updateWhere hit (JobRow.assign set) s.jobs
    operationalCounters := s.operationalCounters + (tallyJob (job.assign set) - tallyJob job) }, ?_⟩
  simp only [SqliteStore.updateJobs, reached, List.all_cons, List.all_nil, checked, Bool.and_true,
    require, if_true, List.foldlM_cons, List.foldlM_nil, adjusted]
  rfl

/-- Where no job is inserted or updated, the jobs that are left are as they were. -/
theorem jobs_left {K : List Kind} (effect : Effect K s t) (inserts : .insertJob ∉ K)
    (updates : .updateJobs ∉ K) : ∀ job ∈ t.jobs, job ∈ s.jobs := by
  induction effect with
  | refl => exact fun job member => member
  | tail _ wrote ih =>
      intro job member
      obtain ⟨same, -⟩ | ⟨kind, -⟩ | ⟨kind, -⟩ | ⟨-, hit, -, -, removed⟩ := wrote.jobs_cases
      · rw [same] at member
        exact ih job member
      · exact absurd kind inserts
      · exact absurd kind updates
      · rw [removed] at member
        exact ih job (mem_deleteWhere.1 member).1

end Stored

/-! ## The lease -/

/-- The worker's lease on the job, as it was last renewed. -/
structure Held (b : Beating) (jobId : JobId) (s : Beats) : Prop where
  row : ∃ row ∈ s.store.jobs, row.id = jobId ∧ row.state = .leased ∧
    row.leaseOwner = some b.workerId ∧ ∃ leaseUntil, row.leaseUntil = some leaseUntil ∧
      s.beat.unixTimestamp + b.lease ≤ leaseUntil
  last : s.beat.unixTimestamp + b.lease ≤ maxUnixTimestamp

section Lease

variable {b : Beating} {jobId : JobId} {s t : Beats} {now : OffsetDateTime}

/-- **The margin**: the second of an instant within two heartbeats is before the end of a lease that
was counted from the second of the last renewal. -/
theorem unexpired (within : now.unixNanos ≤ s.beat.unixNanos + b.twoBeats) :
    now.unixTimestamp < s.beat.unixTimestamp + b.lease := by
  have longer := b.longer
  simp only [OffsetDateTime.unixTimestamp, Beating.twoBeats] at *
  omega

/-- A claim of the worker that is answered with the job gives it the lease. -/
theorem claimed_held {before after : SqliteStore} {leased : LeasedProcessingJob}
    (integrity : before.Integrity)
    (claims : QueueStep before (.claimNext b.workerId now b.leaseFor (.ok (some leased))) after) :
    narrowToken b.workerId 128 = true ∧ Held b leased.jobId ⟨after, now⟩ := by
  cases claims with
  | claimNext replies =>
      cases replies with
      | ran answer =>
          refine ⟨?_, ?_⟩
          · simp only [claimNext, call_bind_eq_ok, call_ensure_eq_ok] at answer
            obtain ⟨-, -, ⟨valid, -⟩, -⟩ := answer
            exact valid
          · obtain ⟨-, none, -⟩ | ⟨leaseUntil, job, tenantId, expires, claims, answered⟩ :=
              claimNext_cases integrity answer
            · exact absurd rfl (none leased)
            · obtain ⟨ends, -⟩ := leaseExpiration_ok expires
              rw [b.leaseFor_asSecs] at ends
              cases decoded : leasedFromRow
                  (job.assign (claimColumns b.workerId now.unixTimestamp leaseUntil)) with
              | error e =>
                  rw [decoded] at answered
                  cases answered
              | ok other =>
                  rw [decoded] at answered
                  cases answered
                  obtain ⟨named, -, -, -, stored, holds, parsed⟩ := leasedFromRow_ok decoded
                  obtain rfl : leaseUntil = stored := Option.some.inj holds
                  refine ⟨⟨_, claims.moved.moved_mem, named.symm, rfl, rfl, leaseUntil, rfl, ?_⟩,
                    ?_⟩
                  · exact ends.ge
                  · show now.unixTimestamp + b.lease ≤ maxUnixTimestamp
                    rw [← ends, ← OffsetDateTime.fromUnixTimestamp_eq_some parsed]
                    exact leased.leaseUntil.unixTimestamp_bounds.2

/-- The lease stands through every event within two heartbeats of the last renewal. -/
theorem Held.step {event : QueueEvent} (held : Held b jobId s) (integrity : s.store.Integrity)
    (step : BeatStep b jobId s event t) : Held b jobId t := by
  obtain ⟨⟨row, member, named, leased, owner, leaseUntil, ends, later⟩, last⟩ := held
  -- an event that does not move the row and is no renewal keeps the lease
  have kept (there : row ∈ t.store.jobs) (none : b.renewal jobId event = none) :
      Held b jobId t := by
    have beat : t.beat = s.beat := by rw [step.beat, none, Option.getD_none]
    refine ⟨⟨row, there, named, leased, owner, leaseUntil, ends, ?_⟩, ?_⟩
    · rw [beat]
      exact later
    · rw [beat]
      exact last
  by_cases purges : event.purges = true
  · cases event with
    | other op ok =>
        obtain ⟨after, there, same⟩ := step.stays purges
        cases step.step with
        | other elsewhere answers =>
            have effect := answers.effect integrity
            have before := jobs_left effect
              (by cases op <;> simp [QueueEvent.purges, Op.kinds] at purges ⊢)
              (by cases op <;> simp [QueueEvent.purges, Op.kinds] at purges ⊢) after there
            have found := integrity.jobIds.eq_of_key before member (same.trans named.symm)
            exact kept (found ▸ there) rfl
    | _ => cases purges
  · obtain ⟨silent, added⟩ | ⟨job, tenantId, workerId, now, leaseFor, until_, claim⟩ |
      ⟨job, workerId, now, leaseFor, until_, result, renews⟩ | ⟨job, workerId, set, settles⟩ :=
        step.step.cases integrity (Bool.not_eq_true _ ▸ purges)
    · refine kept (added.kept row member) ?_
      cases event with
      | renew job workerId now leaseFor result =>
          cases result with
          | ok renewed => cases silent
          | error e => rfl
      | _ => rfl
    · -- the job is not claimable, so another one was claimed
      have within := step.within now (by rw [claim.event]; rfl)
      have due := claim.claims.due
      have apart : row.id ≠ job.id := by
        intro same
        have found := integrity.jobIds.eq_of_key member claim.claims.moved.member same
        rw [← found, claimable, leased, ends] at due
        simp at due
        have before := unexpired within
        omega
      refine kept (claim.claims.moved.other_mem member apart) ?_
      rw [claim.event]
      rfl
    · by_cases same : row.id = job.id
      · have found := integrity.jobIds.eq_of_key member renews.moved.member same
        subst found
        have mine : workerId = b.workerId := Option.some.inj (renews.owner.symm.trans owner)
        subst mine
        have asks := step.asks now leaseFor result (by rw [renews.event, named])
        obtain ⟨counted, -⟩ := leaseExpiration_ok renews.expires
        rw [asks, b.leaseFor_asSecs] at counted
        have there := renews.moved.moved_mem
        cases result with
        | ok renewed =>
            have beat : t.beat = now := by
              rw [step.beat, renews.event]
              simp only [Beating.renewal, named, and_self, if_true, Option.getD_some]
            have parsed := (renews.result renewed).1 rfl
            refine ⟨⟨_, there, named, leased, owner, until_, rfl, ?_⟩, ?_⟩
            · rw [beat]
              exact counted.ge
            · rw [beat, ← counted, ← OffsetDateTime.fromUnixTimestamp_eq_some parsed]
              exact renewed.unixTimestamp_bounds.2
        | error e =>
            -- the new end is past the last instant, and so past the old one
            have beat : t.beat = s.beat := by rw [step.beat, renews.event]; rfl
            have past : ¬ until_ ≤ maxUnixTimestamp := by
              intro small
              have large := now.unixTimestamp_bounds.1
              obtain ⟨renewed, parsed, -⟩ :=
                OffsetDateTime.fromUnixTimestamp_of_within (by omega) small
              cases (renews.result renewed).2 parsed
            refine ⟨⟨_, there, named, leased, owner, until_, rfl, ?_⟩, ?_⟩
            · rw [beat]
              omega
            · rw [beat]
              exact last
      · refine kept (renews.moved.other_mem member same) ?_
        rw [renews.event]
        cases result with
        | ok renewed =>
            have apart : job.id ≠ jobId := fun is => same (named.trans is.symm)
            simp only [Beating.renewal, apart, false_and, if_false]
        | error e => rfl
    · have apart : row.id ≠ job.id := by
        intro same
        have found := integrity.jobIds.eq_of_key member settles.moved.member same
        subst found
        obtain ⟨-, -, by_⟩ := leasedBy_iff.1 settles.leased
        have mine : workerId = b.workerId := Option.some.inj (by_.symm.trans owner)
        exact step.unsettled (by rw [settles.report, mine, named])
      refine kept (settles.moved.other_mem member apart) ?_
      have report := settles.report
      cases event with
      | renew job workerId now leaseFor result =>
          cases result with
          | ok renewed => cases report
          | error e => rfl
      | _ => rfl

/-- The last instant a run of the worker has come to is one of a state that is `Kept`. -/
theorem run_held {events : List QueueEvent} (run : Trace (BeatStep b jobId) s events t)
    (kept : Kept s.store) (held : Held b jobId s) : Kept t.store ∧ Held b jobId t :=
  run.keeps (P := fun s => Kept s.store ∧ Held b jobId s)
    (fun _ _ _ step now => ⟨now.1.step step.step, now.2.step now.1.integrity step⟩) ⟨kept, held⟩

/-- A lease that ended before the last instant once is in the range of the store. -/
theorem Beating.leaseExpiration_within (b : Beating) (now : OffsetDateTime)
    (short : minUnixTimestamp + b.lease ≤ maxUnixTimestamp) :
    leaseExpiration now b.leaseFor = .ok (now.unixTimestamp + b.lease) := by
  have bounds := now.unixTimestamp_bounds
  have longer := b.longer
  have fits : (b.lease : Int) ≤ i64Max := by
    simp only [minUnixTimestamp, maxUnixTimestamp, i64Max] at *
    omega
  have sum : i64Min ≤ now.unixTimestamp + b.lease ∧ now.unixTimestamp + b.lease ≤ i64Max := by
    simp only [minUnixTimestamp, maxUnixTimestamp, i64Min, i64Max] at *
    omega
  have converted : i64TryFrom b.leaseFor.asSecs = some (b.lease : Int) := by
    rw [b.leaseFor_asSecs, i64TryFrom_eq_some]
    exact ⟨rfl, fits⟩
  have added : i64CheckedAdd now.unixTimestamp (b.lease : Int) =
      some (now.unixTimestamp + b.lease) := by
    rw [i64CheckedAdd_eq_some]
    exact ⟨rfl, sum⟩
  have positive : ¬ (b.lease : Int) = 0 := by omega
  rw [leaseExpiration, converted]
  dsimp only
  rw [if_neg positive, added]

/-- The end of a renewed lease, as `renew` answers it. -/
def renewedEnd (leaseUntil : Int) : Except JobQueueError OffsetDateTime :=
  (OffsetDateTime.fromUnixTimestamp leaseUntil).elim
    (.error (.text "renewed lease expiration is invalid")) .ok

/-- A renewal that reached its row answers with the new end. -/
theorem renew_of_updated {store after : SqliteStore} {workerId : String} {leaseFor : Duration}
    {leaseUntil : Int} (worker : narrowToken workerId 128 = true)
    (expires : leaseExpiration now leaseFor = .ok leaseUntil)
    (updated : SqliteStore.updateJobs
      (fun row => row.id == jobId && row.state == .leased && row.leaseOwner == some workerId &&
        row.leaseUntil.any fun stored => decide (now.unixTimestamp < stored))
      (fun job => { job with leaseUntil := some leaseUntil, updatedAt := now.unixTimestamp })
      store = .ok (1, after)) :
    renew jobId workerId now leaseFor store = (renewedEnd leaseUntil, after) := by
  have checked : (Call.ensure (narrowToken workerId 128) (.text "worker_id is invalid") :
      Call SqliteStore JobQueueError Unit) store = (.ok (), store) :=
    call_ensure_eq_ok.2 ⟨worker, rfl⟩
  have read : Call.readOr (fun _ => leaseExpiration now leaseFor) store = (.ok leaseUntil, store) :=
    congrArg (fun result => (result, store)) expires
  have entered : (Call.ensure ((1 : Nat) != 0) (.text "job lease is not renewable by this worker") :
      Call SqliteStore JobQueueError Unit) after = (.ok (), after) :=
    call_ensure_eq_ok.2 ⟨rfl, rfl⟩
  rw [renew, call_bind_of_ok checked, call_bind_of_ok read,
    call_bind_of_ok (autocommit_eq_ok.2 updated), call_bind_of_ok entered, renewedEnd]
  cases OffsetDateTime.fromUnixTimestamp leaseUntil <;> rfl

/-- The owner's renewal is entered, and answers with the new end. -/
theorem Held.renews (held : Held b jobId s) (kept : Kept s.store)
    (worker : narrowToken b.workerId 128 = true)
    (within : now.unixNanos ≤ s.beat.unixNanos + b.twoBeats) :
    ∃ after, renew jobId b.workerId now b.leaseFor s.store =
        (renewedEnd (now.unixTimestamp + b.lease), after) ∧
      ∃ row ∈ after.jobs, row.id = jobId ∧ row.leaseUntil = some (now.unixTimestamp + b.lease) := by
  obtain ⟨⟨row, member, named, leased, owner, leaseUntil, ends, later⟩, last⟩ := held
  have before := unexpired within
  have expires : leaseExpiration now b.leaseFor = .ok (now.unixTimestamp + b.lease) :=
    b.leaseExpiration_within now (by
      have lower := s.beat.unixTimestamp_bounds.1
      omega)
  obtain ⟨after, updated⟩ : ∃ after, SqliteStore.updateJobs
      (fun row => row.id == jobId && row.state == .leased &&
        row.leaseOwner == some b.workerId && row.leaseUntil.any fun stored =>
          decide (now.unixTimestamp < stored))
      (fun job => { job with
        leaseUntil := some (now.unixTimestamp + b.lease), updatedAt := now.unixTimestamp })
      s.store = .ok (1, after) := by
    apply kept.updates member
    · simp only [named, leased, owner, ends, beq_self_eq_true, Bool.and_self, Option.any_some,
        Bool.true_and, decide_eq_true_eq]
      omega
    · intro other hits
      simp only [Bool.and_eq_true, beq_iff_eq] at hits
      exact hits.1.1.1.trans named.symm
    · exact kept.attempted row member
    · rfl
  refine ⟨after, ?_, ?_⟩
  · exact renew_of_updated worker expires updated
  · obtain ⟨-, counters, -, rfl⟩ := SqliteStore.updateJobs_ok updated
    refine ⟨_, mem_updateWhere.2 ⟨row, member, rfl⟩, ?_⟩
    rw [if_pos]
    · exact ⟨named, rfl⟩
    · simp only [named, leased, owner, ends, beq_self_eq_true, Bool.and_self, Option.any_some,
        Bool.true_and, decide_eq_true_eq]
      omega

/-- No claim returns the job. -/
theorem Held.unclaimed (held : Held b jobId s) (integrity : s.store.Integrity)
    (within : now.unixNanos ≤ s.beat.unixNanos + b.twoBeats) {workerId : String}
    {leaseFor : Duration} {leased : LeasedProcessingJob}
    (claims : (claimNext workerId now leaseFor s.store).1 = .ok (some leased)) :
    leased.jobId ≠ jobId := by
  obtain ⟨⟨row, member, named, isLeased, owner, leaseUntil, ends, later⟩, last⟩ := held
  obtain ⟨-, none, -⟩ | ⟨until_, job, tenantId, -, claimed, answered⟩ :=
    claimNext_cases integrity (Prod.eta (claimNext workerId now leaseFor s.store)).symm
  · exact absurd claims (none leased)
  · rw [claims] at answered
    cases decoded : leasedFromRow (job.assign (claimColumns workerId now.unixTimestamp until_)) with
    | error e =>
        rw [decoded] at answered
        cases answered
    | ok other =>
        rw [decoded] at answered
        cases answered
        intro same
        have is := (leasedFromRow_ok decoded).1
        have found := integrity.jobIds.eq_of_key member claimed.moved.member
          (named.trans (same.symm.trans is))
        have due := claimed.due
        rw [← found, claimable, isLeased, ends] at due
        simp at due
        have before := unexpired within
        omega

end Lease

/-! ## The sample job -/

/-- A worker whose lease is renewed every 20 seconds. -/
def sampleBeating (lease : Nat) (longer : 2 * 20 < lease) (fits : lease < 2 ^ 64) : Beating :=
  ⟨"worker-a", lease, 20, longer, fits⟩

theorem minute_longer : 2 * 20 < 60 := by decide

theorem minute_inside : 60 < 2 ^ 64 := by decide

/-- A lease of a minute. -/
def minuteBeating : Beating := sampleBeating 60 minute_longer minute_inside

/-- A lease from the claim of the sample job to the last instant. -/
def longBeating : Beating :=
  sampleBeating (maxUnixTimestamp - (sampleTime 2).unixTimestamp).toNat (by decide) (by decide)

/-- The claim of the sample job. -/
def Beating.claim (b : Beating) :
    Except JobQueueError (Option LeasedProcessingJob) × SqliteStore :=
  claimNext b.workerId (sampleTime 2) b.leaseFor confirmedSample

/-- The sample job, leased from its claim on. -/
def Beating.leased (b : Beating) : LeasedProcessingJob :=
  ⟨sampleJobId, ⟨sampleUploadId, "source-validation-v1", none⟩, 1,
    (OffsetDateTime.fromUnixTimestamp ((sampleTime 2).unixTimestamp + b.lease)).getD (sampleTime 2),
    sampleTime 1⟩

theorem claim_step {b : Beating} (claimed : b.claim.1 = .ok (some b.leased)) :
    QueueStep confirmedSample
      (.claimNext b.workerId (sampleTime 2) b.leaseFor (.ok (some b.leased))) b.claim.2 :=
  .claimNext (.ran (Prod.ext claimed rfl))

theorem minute_claimed : minuteBeating.claim.1 = .ok (some minuteBeating.leased) := by
  decide +kernel

theorem long_claimed : longBeating.claim.1 = .ok (some longBeating.leased) := by decide +kernel

/-- The minute's renewal, 40 seconds after the claim. -/
def minuteRenewal : Except JobQueueError OffsetDateTime × SqliteStore :=
  renew sampleJobId "worker-a" (sampleTime 42) minuteBeating.leaseFor minuteBeating.claim.2

theorem minute_renewed : minuteRenewal.1 = .ok (sampleTime 102) := by decide +kernel

theorem minuteRenewal_step : BeatStep minuteBeating sampleJobId ⟨minuteBeating.claim.2, sampleTime 2⟩
    (.renew sampleJobId "worker-a" (sampleTime 42) minuteBeating.leaseFor (.ok (sampleTime 102)))
    ⟨minuteRenewal.2, sampleTime 42⟩ where
  step := .renew (.ran (Prod.ext minute_renewed rfl))
  beat := rfl
  within := by
    rintro now ⟨⟩
    decide
  asks := by
    rintro now leaseFor result ⟨⟩
    rfl
  unsettled := by decide
  stays := nofun

/-! ## The theorem -/

/-- **Heartbeats keep the lease.**  After a claim of the worker, in every run whose renewals are no
two further apart than two heartbeats: at every instant up to two heartbeats after the last renewal
the owner's renewal is entered and answered with the new end of the lease, where that is an instant
at all; and no claim of anybody returns the job, then or in the run. -/
theorem heartbeats_keep_lease {b : Beating} {events later : List QueueEvent} {s t : SqliteStore}
    {u : Beats} {now : OffsetDateTime} {leased : LeasedProcessingJob}
    (run : Trace QueueStep .migrated events s)
    (claims : QueueStep s (.claimNext b.workerId now b.leaseFor (.ok (some leased))) t)
    (beating : Trace (BeatStep b leased.jobId) ⟨t, now⟩ later u) :
    (∀ instant : OffsetDateTime, instant.unixNanos ≤ u.beat.unixNanos + b.twoBeats →
      (∃ after, renew leased.jobId b.workerId instant b.leaseFor u.store =
          (renewedEnd (instant.unixTimestamp + b.lease), after) ∧
        ∃ row ∈ after.jobs, row.id = leased.jobId ∧
          row.leaseUntil = some (instant.unixTimestamp + b.lease)) ∧
      ∀ workerId leaseFor other,
        (claimNext workerId instant leaseFor u.store).1 = .ok (some other) →
          other.jobId ≠ leased.jobId) ∧
    ∀ workerId instant leaseFor other,
      QueueEvent.claimNext workerId instant leaseFor (.ok (some other)) ∈ later →
        other.jobId ≠ leased.jobId := by
  have kept : Kept s := run.keeps (fun _ _ _ step kept => kept.step step) kept_migrated
  obtain ⟨worker, held⟩ := claimed_held kept.integrity claims
  have start : Kept t := kept.step claims
  refine ⟨fun instant within => ?_, fun workerId instant leaseFor other member => ?_⟩
  · obtain ⟨kept', held'⟩ := run_held beating start held
    exact ⟨held'.renews kept' worker within, fun workerId leaseFor other claimed =>
      held'.unclaimed kept'.integrity within claimed⟩
  · obtain ⟨past, rest, rfl⟩ := List.append_of_mem member
    obtain ⟨before, after, reached, step, -⟩ := beating.split_cons
    obtain ⟨kept', held'⟩ := run_held reached start held
    have within := step.within instant rfl
    cases step.step with
    | claimNext replies =>
        cases replies with
        | ran answer => exact held'.unclaimed kept'.integrity within (congrArg Prod.fst answer)

theorem heartbeats_keep_lease_sample :
    (∃ after, renew sampleJobId "worker-a" (sampleTime 82) minuteBeating.leaseFor minuteRenewal.2 =
        (renewedEnd ((sampleTime 82).unixTimestamp + 60), after) ∧
      ∃ row ∈ after.jobs, row.id = sampleJobId ∧
        row.leaseUntil = some ((sampleTime 82).unixTimestamp + 60)) ∧
    ∀ workerId leaseFor other,
      (claimNext workerId (sampleTime 82) leaseFor minuteRenewal.2).1 = .ok (some other) →
        other.jobId ≠ sampleJobId :=
  (heartbeats_keep_lease sampleSetup_run (claim_step minute_claimed)
    (Trace.single minuteRenewal_step)).1 (sampleTime 82) (by decide)

/-- **A lease past the calendar.**  A second after the claim the renewal of a lease that ended with
the last instant is answered with an error. -/
theorem renewal_past_the_calendar :
    ∃ (b : Beating) (events : List QueueEvent) (s t : SqliteStore) (now : OffsetDateTime)
      (leased : LeasedProcessingJob) (instant : OffsetDateTime),
      Trace QueueStep .migrated events s ∧
      QueueStep s (.claimNext b.workerId now b.leaseFor (.ok (some leased))) t ∧
      now ≤ instant ∧ instant.unixNanos ≤ now.unixNanos + b.twoBeats ∧
      (renew leased.jobId b.workerId instant b.leaseFor t).1 =
        .error (.text "renewed lease expiration is invalid") :=
  ⟨longBeating, sampleSetup, confirmedSample, _, sampleTime 2, longBeating.leased, sampleTime 3,
    sampleSetup_run, claim_step long_claimed, by decide, by decide, by decide +kernel⟩

end MediaBooster.Queue
