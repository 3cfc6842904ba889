/-
# Queue.Attempts -- how often a job is claimed

`claim_next` charges an attempt for every claim and knows no ceiling: a job whose lease has
expired is claimable whatever its attempts are.  The ceiling is applied by `fail` alone, so an
attempt that ends without it, in a crash, with an operational error or with a lost lease, is
repeated for as long as workers come.

* `attempts_bounded`: in every run of the system in which each last attempt is seen through
  (`tendsLastAttempts`: its worker is not cut off, hears no answer of `troubles`, and its lease is
  renewed before anyone claims past it), no job is claimed more than `maxAttempts` times.  A job
  whose attempts are used up is never claimed again; it is with a call that is still running, or
  completed, or a dead letter.
* `crashes_outrun_ceiling`: with a ceiling of two, three workers that die after their claims
  are handed the same job.

`Bounded` is the invariant; `UsedUp.move` says what one operation does to a used-up job, and
`runOne_accounts` how the call that holds it ends.
-/
import MediaBooster.Processing.Endings
import MediaBooster.Queue.Run
import MediaBooster.Service.Knowledge
import MediaBooster.Service.Rehearsal

namespace MediaBooster.Queue

set_option autoImplicit false

open MediaBooster.Domain MediaBooster.Processing MediaBooster.Service MediaBooster.Store
open MediaBooster.Theory.Run MediaBooster.Theory.Table MediaBooster.Theory.Threads

/-! ## Claims -/

/-- `claim_next` answered with the job. -/
def claims (jobId : JobId) : Exchange Answer → Bool
  | ⟨.store (.claimNext ..), .ok (some leased)⟩ => leased.jobId == jobId
  | _ => false

/-- How many times a worker was handed the job. -/
def claimsIn (s : SystemState) (jobId : JobId) : Nat := s.tally (claims jobId)

/-- The attempts of the job are used up. -/
def UsedUp (maxAttempts : Nat) (job : JobRow) : Prop := (maxAttempts : Int) ≤ job.attempts

/-! ## Last attempts -/

/-- The last attempt at a job that a worker is at: it was handed the job with its attempts used
up, and has not settled it. -/
def lastAttempt (maxAttempts : Nat) (past : History) : Option LeasedProcessingJob :=
  (handed past).filter fun leased =>
    decide (maxAttempts ≤ leased.attempts) && !settledIn leased.jobId past

/-- The lease of the job has run out. -/
def leaseRanOut (s : SystemState) (now : Int) (jobId : JobId) : Bool :=
  s.shared.store.jobs.any fun job =>
    job.id == jobId && job.leaseUntil.any fun leaseUntil => decide (leaseUntil ≤ now)

/-- A claim comes while the leases of the last attempts workers are at have not run out, and its
own lease ends before the calendar does. -/
def claimsInTime (maxAttempts : Nat) (s : SystemState) : Exchange Answer → Bool
  | ⟨.store (.claimNext _ now leaseFor), _⟩ =>
      decide (now.unixTimestamp + leaseFor.asSecs ≤ maxUnixTimestamp) &&
        s.threads.all fun thread => (lastAttempt maxAttempts thread.past).all fun leased =>
          !leaseRanOut s now.unixTimestamp leased.jobId
  | _ => true

/-- The thread is not at a last attempt after the exchanges, or nothing in them troubles it. -/
def keepsAtIt (maxAttempts : Nat) (past : History) : ServiceCall → Bool
  | .work configuration _ => (lastAttempt maxAttempts past).isNone ||
      decide (¬ Troubled configuration.policy past)
  | _ => true

/-- Workers are started with at most `maxAttempts`, and every last attempt is seen through: a
worker at one is not cut off and hears nothing that troubles it, and no claim comes after its
lease has run out. -/
def tendsLastAttempts (maxAttempts : Nat) (s : SystemState) : SystemLabel → Bool
  | .started (.work configuration _) => decide (configuration.policy.maxAttempts ≤ maxAttempts)
  | .started _ => true
  | .crashed i => (lastAttempt maxAttempts (s.past i)).isNone
  | .asked i exchange => claimsInTime maxAttempts s exchange &&
      (s.call i).all (keepsAtIt maxAttempts (s.past i ++ [exchange]))
  | .moved _ => true

section LastAttempts

variable {maxAttempts : Nat} {past more : History} {leased : LeasedProcessingJob}

theorem lastAttempt_eq_some : lastAttempt maxAttempts past = some leased ↔
    handed past = some leased ∧ maxAttempts ≤ leased.attempts ∧
      settledIn leased.jobId past = false := by
  simp [lastAttempt, Option.filter_eq_some_iff]

/-- A last attempt goes on until the job is settled. -/
theorem lastAttempt_append (at_it : lastAttempt maxAttempts past = some leased) :
    lastAttempt maxAttempts (past ++ more) = some leased ∨
      more.any (settles leased.jobId) = true := by
  obtain ⟨given, last, unsettled⟩ := lastAttempt_eq_some.1 at_it
  cases settled : more.any (settles leased.jobId) with
  | true => exact .inr rfl
  | false =>
      refine .inl (lastAttempt_eq_some.2 ⟨handed_append given, last, ?_⟩)
      unfold settledIn at *
      rw [List.any_append, unsettled, settled]
      rfl

/-- A worker that is handed a job after nothing but readings of the clock. -/
theorem lastAttempt_claimed {workerId : String} {now : OffsetDateTime} {leaseFor : Duration}
    (fresh : ∀ exchange ∈ past, exchange.1 = .now) (last : maxAttempts ≤ leased.attempts) :
    lastAttempt maxAttempts
      (past ++ [⟨.store (.claimNext workerId now leaseFor), .ok (some leased)⟩]) =
        some leased := by
  have none : handed past = none := by
    refine List.findSome?_eq_none_iff.2 fun exchange member => ?_
    obtain ⟨request, answer⟩ := exchange
    cases fresh _ member
    rfl
  have unsettled : settledIn leased.jobId past = false := by
    refine List.any_eq_false.2 fun exchange member => ?_
    obtain ⟨request, answer⟩ := exchange
    cases fresh _ member
    exact nofun
  refine lastAttempt_eq_some.2 ⟨?_, last, ?_⟩
  · unfold handed at *
    rw [List.findSome?_append, none]
    rfl
  · unfold settledIn at *
    rw [List.any_append, unsettled]
    rfl

end LastAttempts

/-! ## One operation -/

section Moves

variable {s t : SqliteStore} {op : Op} {before after : JobRow} {maxAttempts : Nat}

/-- What a worker's calls say about the ceiling: a claim of a used-up job is no expired lease,
and a failure is given the ceiling or 1. -/
structure RespectsCeiling (maxAttempts : Nat) (s : SqliteStore) (op : Op) : Prop where
  claim : ∀ workerId now leaseFor job tenantId, op = .claimNext workerId now leaseFor →
    s.claimCandidate now.unixTimestamp = some (job, tenantId) → job.state = .leased →
      job.attempts < maxAttempts
  fail : ∀ jobId workerId now retryAt ceiling errorCode,
    op = .fail jobId workerId now retryAt ceiling errorCode → ceiling ≤ maxAttempts

/-- The attempts of a job are within the ceiling, and left when it is queued. -/
structure Within (maxAttempts : Nat) (job : JobRow) : Prop where
  within : job.attempts ≤ maxAttempts
  queued : job.state = .queued → job.attempts < maxAttempts

theorem claimable_state {now : Int} {job : JobRow} (due : claimable now job = true) :
    job.state = .queued ∨ job.state = .leased := by
  simp only [claimable, Bool.or_eq_true, Bool.and_eq_true, beq_iff_eq] at due
  exact due.imp (·.1) (·.1)

theorem Within.move (holds : Within maxAttempts before) (move : JobMove s op before after)
    (respects : RespectsCeiling maxAttempts s op) : Within maxAttempts after := by
  cases move with
  | same => exact holds
  | @claimed workerId now leaseFor leaseUntil _ tenantId candidate =>
      have left : before.attempts < maxAttempts := by
        obtain ⟨-, due, -⟩ := claimCandidates_mem.1 (claimCandidate_mem candidate)
        obtain queued | leased := claimable_state due
        · exact holds.queued queued
        · exact respects.claim _ _ _ _ _ rfl candidate leased
      refine ⟨?_, fun queued => by cases queued⟩
      show before.attempts + 1 ≤ _
      omega
  | renewed leased =>
      refine ⟨holds.within, fun queued => ?_⟩
      exact holds.queued queued
  | completed => exact ⟨holds.within, fun queued => by cases queued⟩
  | @failed jobId workerId now retryAt ceiling errorCode _ leased =>
      refine ⟨holds.within, fun queued => ?_⟩
      have allowed := respects.fail _ _ _ _ _ _ rfl
      change (if (ceiling : Int) ≤ before.attempts then JobState.deadLetter else .queued) = .queued
        at queued
      show before.attempts < _
      by_cases spent : (ceiling : Int) ≤ before.attempts
      · rw [if_pos spent] at queued
        cases queued
      · omega

/-- A used-up job is leased for the last time, or closed. -/
theorem UsedUp.state (used : UsedUp maxAttempts before) (holds : Within maxAttempts before) :
    before.state = .leased ∨ Closed before := by
  cases state : before.state with
  | queued =>
      have left := holds.queued state
      unfold UsedUp at used
      omega
  | leased => exact .inl rfl
  | completed => exact .inr (.inl state)
  | deadLetter => exact .inr (.inr state)

/-- **A used-up job is kept by its holder or closed.** -/
theorem UsedUp.move (used : UsedUp maxAttempts before) (holds : Within maxAttempts before)
    (move : JobMove s op before after) (respects : RespectsCeiling maxAttempts s op) :
    Closed after ∨ (before.state = .leased ∧ after.state = .leased ∧
      after.leaseOwner = before.leaseOwner ∧ after.attempts = before.attempts) := by
  cases move with
  | same =>
      obtain leased | closed := used.state holds
      · exact .inr ⟨leased, leased, rfl, rfl⟩
      · exact .inl closed
  | @claimed workerId now leaseFor leaseUntil _ tenantId candidate =>
      obtain ⟨-, due, -⟩ := claimCandidates_mem.1 (claimCandidate_mem candidate)
      obtain queued | leased := claimable_state due
      · have left := holds.queued queued
        unfold UsedUp at used
        omega
      · have left := respects.claim _ _ _ _ _ rfl candidate leased
        unfold UsedUp at used
        omega
  | renewed leased =>
      obtain ⟨-, state, -⟩ := leasedBy_iff.1 leased
      exact .inr ⟨state, state, rfl, rfl⟩
  | completed => exact .inl (.inl rfl)
  | @failed jobId workerId now retryAt ceiling errorCode _ leased =>
      have allowed := respects.fail _ _ _ _ _ _ rfl
      refine .inl (.inr ?_)
      show (if (ceiling : Int) ≤ before.attempts then JobState.deadLetter else .queued) = _
      unfold UsedUp at used
      rw [if_pos (by omega)]

theorem complete_settles {jobId : JobId} {workerId : String} {now : OffsetDateTime}
    {result : Except JobQueueError Unit} (integrity : s.Integrity)
    (ran : Store.complete jobId workerId now s = (result, t)) (succeeded : result.toBool = true) :
    ∃ after ∈ t.jobs, after.id = jobId ∧ after.state ≠ .leased := by
  obtain ⟨-, error, rfl⟩ | ⟨-, job, leased, moved⟩ := complete_cases integrity ran
  · cases succeeded
  · exact ⟨_, moved.moved_mem, (leasedBy_iff.1 leased).1, (settles_complete _ _).1⟩

theorem fail_settles {jobId : JobId} {workerId : String} {now retryAt : OffsetDateTime}
    {ceiling : Nat} {errorCode : String} {result : Except JobQueueError JobFailureDisposition}
    (integrity : s.Integrity)
    (ran : Store.fail jobId workerId now retryAt ceiling errorCode s = (result, t))
    (succeeded : result.toBool = true) :
    ∃ after ∈ t.jobs, after.id = jobId ∧ after.state ≠ .leased := by
  obtain ⟨-, error, rfl⟩ | ⟨job, leased, moved, -⟩ := fail_cases integrity ran
  · cases succeeded
  · exact ⟨_, moved.moved_mem, (leasedBy_iff.1 leased).1, (settles_fail _ _ _ _ _).1⟩

end Moves

/-! ## The system -/

section Runs

variable {d : Deployment} {s t : SystemState} {label : SystemLabel} {maxAttempts : Nat}

/-- The steps of a deployment whose workers see their last attempts through. -/
abbrev TendingStep (d : Deployment) (maxAttempts : Nat) :=
  Guarded d.machine.Step fun s label => tendsLastAttempts maxAttempts s label = true

/-- A worker is at its last attempt at the job, holds its lease, and nothing has troubled it. -/
structure Tends (maxAttempts : Nat) (s : SystemState) (job : JobRow) (i : Nat)
    (configuration : WorkerConfiguration) (workerId : String) (leased : LeasedProcessingJob) :
    Prop where
  call : s.call i = some (.work configuration workerId)
  at_it : lastAttempt maxAttempts (s.past i) = some leased
  named : leased.jobId = job.id
  owner : job.leaseOwner = some workerId
  whole : ¬ s.Crashed i
  untroubled : ¬ Troubled configuration.policy (s.past i)

/-- The ceiling holds so far: claims are charged to the attempts, no job is past it, and a used-up
job that is leased is being worked on. -/
structure Bounded (d : Deployment) (maxAttempts : Nat) (s : SystemState) : Prop where
  recorded : d.Recorded s
  stands : s.Stands d.machine
  readable : Readable s.shared.store
  started : ∀ i configuration workerId, s.call i = some (.work configuration workerId) →
    configuration.policy.maxAttempts ≤ maxAttempts
  known : ∀ jobId, 0 < claimsIn s jobId → d.tokens.Spent s jobId.uuid
  charged : ∀ job ∈ s.shared.store.jobs, (claimsIn s job.id : Int) ≤ job.attempts
  within : ∀ job ∈ s.shared.store.jobs, Within maxAttempts job
  ceiling : ∀ jobId, claimsIn s jobId ≤ maxAttempts
  tended : ∀ job ∈ s.shared.store.jobs, UsedUp maxAttempts job → job.state = .leased →
    ∃ i configuration workerId leased, Tends maxAttempts s job i configuration workerId leased

theorem bounded_initial (clock : OffsetDateTime) :
    Bounded d maxAttempts (.initial (.fresh clock)) where
  recorded := Deployment.recorded_initial clock
  stands := fun _ _ called => by cases called
  readable := readable_migrated
  started := fun _ _ _ called => by cases called
  known := fun _ positive => absurd positive (Nat.lt_irrefl 0)
  charged := fun _ member => nomatch member
  within := fun _ member => nomatch member
  ceiling := fun _ => Nat.zero_le _
  tended := fun _ member => nomatch member

theorem maxAttempts_pos (configuration : WorkerConfiguration) :
    1 ≤ configuration.policy.maxAttempts := by
  have valid := configuration.valid
  simp only [WorkerPolicy.isValid, Bool.and_eq_true, bne_iff_ne] at valid
  omega

/-- What is asked in a step was asked in time. -/
theorem TendingStep.inTime {i : Nat} {exchange : Exchange Answer}
    (step : TendingStep d maxAttempts s (.asked i exchange) t) :
    claimsInTime maxAttempts s exchange = true :=
  (Bool.and_eq_true_iff.1 step.2).1

/-- A worker is still at its last attempt, or settles its job. -/
theorem Tends.step {job : JobRow} {i : Nat} {configuration : WorkerConfiguration}
    {workerId : String} {leased : LeasedProcessingJob}
    (tends : Tends maxAttempts s job i configuration workerId leased)
    (step : TendingStep d maxAttempts s label t) :
    (∀ after : JobRow, after.id = job.id → after.leaseOwner = job.leaseOwner →
        Tends maxAttempts t after i configuration workerId leased) ∨
      ∃ exchange, label = .asked i exchange ∧ settles job.id exchange = true := by
  have call := step.1.call tends.call
  have past := step.1.past i
  have whole : ¬ t.Crashed i := by
    intro crashed
    obtain old | rfl := step.1.crashed_cases crashed
    · exact tends.whole old
    · have idle : (lastAttempt maxAttempts (s.past i)).isNone = true := step.2
      rw [tends.at_it] at idle
      cases idle
  obtain quiet | ⟨exchange, rfl⟩ := label.heard_eq i
  · rw [quiet, List.append_nil] at past
    refine .inl fun after same owner => ⟨call, ?_, tends.named.trans same.symm,
      owner.trans tends.owner, whole, ?_⟩
    · rw [past]
      exact tends.at_it
    · rw [past]
      exact tends.untroubled
  · have heard : t.past i = s.past i ++ [exchange] := by rw [past, Label.heard, if_pos rfl]
    obtain still | settled : lastAttempt maxAttempts (s.past i ++ [exchange]) = some leased ∨
        [exchange].any (settles leased.jobId) = true := lastAttempt_append tends.at_it
    · have keeps : (s.call i).all (keepsAtIt maxAttempts (s.past i ++ [exchange])) = true :=
        (Bool.and_eq_true_iff.1 step.2).2
      rw [tends.call] at keeps
      have untroubled : ¬ Troubled configuration.policy (s.past i ++ [exchange]) := by
        simpa [keepsAtIt, still] using keeps
      refine .inl fun after same owner => ⟨call, ?_, tends.named.trans same.symm,
        owner.trans tends.owner, whole, ?_⟩
      · rw [heard]
        exact still
      · rw [heard]
        exact untroubled
    · refine .inr ⟨exchange, rfl, ?_⟩
      rw [← tends.named]
      simpa using settled

/-- The worker that tends a job has its call still running. -/
theorem Tends.running {job : JobRow} {i : Nat} {configuration : WorkerConfiguration}
    {workerId : String} {leased : LeasedProcessingJob} (stands : s.Stands d.machine)
    (tends : Tends maxAttempts s job i configuration workerId leased) :
    s.Running d.machine i := by
  by_contra idle
  obtain ⟨rest, stood, ended⟩ := (stands.ended tends.call tends.whole idle).of_discard
  obtain ⟨given, -, unsettled⟩ := lastAttempt_eq_some.1 tends.at_it
  cases rest with
  | ask => cases ended
  | done result =>
      have accounts := (@runOne_accounts (d.worker configuration) workerId).at stood
      obtain settled | troubled := accounts leased given
      · rw [unsettled] at settled
        cases settled
      · exact tends.untroubled troubled

/-- The lease of a last attempt has not run out when someone claims. -/
theorem Tends.inTime {job : JobRow} {i : Nat} {configuration : WorkerConfiguration}
    {workerId name : String} {leased : LeasedProcessingJob} {now : OffsetDateTime}
    {leaseFor : Duration} {answer : Answer (.store (.claimNext name now leaseFor))}
    (tends : Tends maxAttempts s job i configuration workerId leased)
    (timely : claimsInTime maxAttempts s ⟨.store (.claimNext name now leaseFor), answer⟩ = true)
    (member : job ∈ s.shared.store.jobs) (leased' : job.state = .leased) :
    claimable now.unixTimestamp job = false := by
  obtain ⟨thread, there, -⟩ := Option.map_eq_some_iff.1 tends.call
  have past : s.past i = thread.past := by
    unfold State.past
    rw [there]
    rfl
  have kept := List.all_eq_true.1 (Bool.and_eq_true_iff.1 timely).2 thread
    (List.mem_of_getElem? there)
  rw [← past, tends.at_it] at kept
  have lasting : leaseRanOut s now.unixTimestamp job.id = false := by
    rw [← tends.named]
    simpa using kept
  have own := List.any_eq_false.1 lasting job member
  simpa [claimable, leased'] using own

/-- What the workers of a deployment ask for respects its ceiling. -/
theorem Bounded.respects {op : Op} {ok : Bool} (bounded : Bounded d maxAttempts s)
    (step : TendingStep d maxAttempts s label t) (calls : Deployment.Calls label op ok) :
    RespectsCeiling maxAttempts s.shared.store op := by
  refine ⟨?_, ?_⟩
  · rintro workerId now leaseFor job tenantId rfl candidate leased
    by_contra used
    obtain ⟨member, due, -⟩ := claimCandidates_mem.1 (claimCandidate_mem candidate)
    obtain ⟨i, configuration, name, given, tends⟩ :=
      bounded.tended job member (not_lt.1 used) leased
    cases calls with
    | called request => cases request
    | asked =>
        rw [tends.inTime (TendingStep.inTime step) member leased] at due
        cases due
  · rintro jobId workerId now retryAt ceiling errorCode rfl
    obtain request | ⟨i, answer, call, -, -, called, -, asks⟩ :=
      Deployment.called_by step.1 calls
    · cases request
    · cases call with
      | work configuration name =>
          have configured := bounded.started i configuration name called
          have positive := maxAttempts_pos configuration
          obtain ⟨-, given⟩ := asks
          obtain given | given := given
          · change ceiling = configuration.policy.maxAttempts at given
            omega
          · omega
      | _ => exact asks.elim

/-- A step that hands out a job charges its attempt. -/
theorem claimed_row {jobId : JobId} (integrity : s.shared.store.Integrity)
    (step : d.machine.Step s label t) (claimed : label.exchange.any (claims jobId) = true) :
    ∃ workerId now leaseUntil job tenantId, job.id = jobId ∧
      Claims workerId now leaseUntil job tenantId s.shared.store t.shared.store := by
  cases label with
  | asked i exchange =>
      obtain ⟨call, next, asked⟩ := step.asked_cases
      obtain ⟨request, answer⟩ := exchange
      have answered : s.shared.Answers request answer t.shared := asked.answered
      change claims jobId ⟨request, answer⟩ = true at claimed
      unfold claims at claimed
      split at claimed
      · rename_i workerId now leaseFor leased same
        cases same
        obtain ⟨store', replies, moved⟩ := answered
        obtain ⟨leaseUntil, job, tenantId, claimed', decoded⟩ := claimNext_claims integrity replies
        refine ⟨workerId, now.unixTimestamp, leaseUntil, job, tenantId, ?_, ?_⟩
        · rw [← beq_iff_eq.1 claimed]
          exact (leasedFromRow_ok decoded).1.symm
        · rw [moved]
          exact claimed'
      · cases claimed
  | started | crashed | moved => cases claimed

/-- Where a job of the next state comes from. -/
theorem Bounded.job_cases (bounded : Bounded d maxAttempts s)
    (step : TendingStep d maxAttempts s label t) {after : JobRow}
    (member : after ∈ t.shared.store.jobs) :
    after ∈ s.shared.store.jobs ∨
      (∃ before ∈ s.shared.store.jobs, ∃ op ok, Deployment.Calls label op ok ∧
        JobMove s.shared.store op before after ∧
          RespectsCeiling maxAttempts s.shared.store op) ∨ Deployment.Enqueues d s after := by
  obtain old | ⟨before, there, op, ok, calls, move⟩ | enqueues :=
    bounded.recorded.job_cases step.1 member
  · exact .inl old
  · exact .inr (.inl ⟨before, there, op, ok, calls, move, bounded.respects step calls⟩)
  · exact .inr (.inr enqueues)

/-- A job that a claim leaves used up is at its last attempt with the worker that claimed it. -/
theorem Bounded.claimed {workerId : String} {now : OffsetDateTime} {leaseFor : Duration} {ok : Bool}
    (bounded : Bounded d maxAttempts s) (small : (maxAttempts : Int) ≤ u32Max)
    (step : TendingStep d maxAttempts s label t)
    (calls : Deployment.Calls label (.claimNext workerId now leaseFor) ok) {after : JobRow}
    (member : after ∈ t.shared.store.jobs) (new : after ∉ s.shared.store.jobs)
    (used : UsedUp maxAttempts after) (fits : after.attempts ≤ maxAttempts) :
    ∃ i configuration name leased, Tends maxAttempts t after i configuration name leased := by
  have integrity := bounded.recorded.integrity
  cases calls with
  | called request => cases request
  | @asked i _ answer =>
  obtain ⟨call, called, rule, asks⟩ := Deployment.obeys step.1
  obtain ⟨other, next, asked⟩ := step.1.asked_cases
  obtain ⟨store', replies, moved⟩ := asked.answered
  have store : t.shared.store = store' := by rw [moved]
  rw [store] at member
  cases replies with
  | refused error => exact absurd member new
  | ran ran =>
  obtain ⟨rfl, -⟩ | ⟨leaseUntil, job, tenantId, expires, claims, rfl⟩ :=
    claimNext_cases integrity ran
  · exact absurd member new
  obtain rfl | ⟨old, -⟩ := claims.moved.mem_cases integrity member
  swap
  · exact absurd old new
  have there := claims.moved.member
  -- the row is reported to the worker
  obtain ⟨lease, positive⟩ := leaseExpiration_ok expires
  have bounds := now.unixTimestamp_bounds
  have timely := (Bool.and_eq_true_iff.1 (TendingStep.inTime step)).1
  obtain ⟨leased, decoded⟩ : ∃ leased, leasedFromRow
      (job.assign (claimColumns workerId now.unixTimestamp leaseUntil)) = .ok leased := by
    have created : ∃ now : OffsetDateTime, job.createdAt = now.unixTimestamp :=
      bounded.readable.created job there
    refine (@leasedFromRow_isOk (job.assign _) leaseUntil created (bounded.readable.revision job there)
      rfl ?_ ?_ ?_).2 (fits.trans small)
    · omega
    · rw [lease]
      exact of_decide_eq_true timely
    · unfold UsedUp at used
      omega
  obtain ⟨named, -, -, attempts, -⟩ := leasedFromRow_ok decoded
  cases call with
  | work configuration name =>
      obtain ⟨rfl, -⟩ : workerId = name ∧ _ := asks
      have at_it : lastAttempt maxAttempts (t.past i) = some leased := by
        rw [step.1.past, Label.heard, if_pos rfl, decoded]
        refine lastAttempt_claimed rule ?_
        unfold UsedUp at used
        omega
      have keeps := (Bool.and_eq_true_iff.1 step.2).2
      rw [called] at keeps
      refine ⟨i, configuration, workerId, leased, step.1.call called, at_it, named, rfl, ?_, ?_⟩
      · intro crashed
        obtain ⟨thread, there, cut⟩ | same := step.1.crashed_cases crashed
        · obtain ⟨thread', request, following, there', alive, -⟩ := asked.running
          obtain rfl := Option.some.inj (there.symm.trans there')
          rw [cut] at alive
          cases alive
        · cases same
      · rw [step.1.past, Label.heard, if_pos rfl] at at_it ⊢
        simpa [keepsAtIt, at_it] using keeps
  | _ => exact asks.elim

theorem claimsIn_step (step : d.machine.Step s label t) (jobId : JobId) :
    claimsIn t jobId = claimsIn s jobId + (label.exchange.any (claims jobId)).toNat := step.tally

/-- A step that settles a job ends its lease. -/
theorem settles_ends {jobId : JobId} {i : Nat} {exchange : Exchange Answer}
    (integrity : s.shared.store.Integrity) (step : d.machine.Step s (.asked i exchange) t)
    (settled : settles jobId exchange = true) :
    ∃ after ∈ t.shared.store.jobs, after.id = jobId ∧ after.state ≠ .leased := by
  obtain ⟨call, next, asked⟩ := step.asked_cases
  have answered := asked.answered
  unfold settles at settled
  split at settled
  · obtain ⟨store', replies, moved⟩ := answered
    rw [Bool.and_eq_true, beq_iff_eq] at settled
    obtain ⟨rfl, succeeded⟩ := settled
    rw [moved]
    cases replies with
    | refused => cases succeeded
    | ran ran => exact complete_settles integrity ran succeeded
  · obtain ⟨store', replies, moved⟩ := answered
    rw [Bool.and_eq_true, beq_iff_eq] at settled
    obtain ⟨rfl, succeeded⟩ := settled
    rw [moved]
    cases replies with
    | refused => cases succeeded
    | ran ran => exact fail_settles integrity ran succeeded
  · cases settled

/-- A used-up job that stays leased stays with the worker that tends it. -/
theorem Bounded.tended_step (bounded : Bounded d maxAttempts s)
    (step : TendingStep d maxAttempts s label t) {before after : JobRow}
    (there : before ∈ s.shared.store.jobs) (used : UsedUp maxAttempts before)
    (leased : before.state = .leased) (member : after ∈ t.shared.store.jobs)
    (same : after.id = before.id) (owner : after.leaseOwner = before.leaseOwner)
    (still : after.state = .leased) :
    ∃ i configuration workerId leased, Tends maxAttempts t after i configuration workerId leased := by
  obtain ⟨i, configuration, workerId, given, tends⟩ := bounded.tended before there used leased
  obtain next | ⟨exchange, rfl, settled⟩ := tends.step step
  · exact ⟨i, configuration, workerId, given, next after same owner⟩
  · have keyed := (bounded.recorded.step step.1).integrity.jobIds
    obtain ⟨other, there', same', ended⟩ :=
      settles_ends bounded.recorded.integrity step.1 settled
    obtain rfl := keyed.eq_of_key there' member (same'.trans same.symm)
    exact absurd still ended

/-- The row a claim charges. -/
theorem Bounded.claimed_counted (bounded : Bounded d maxAttempts s) {jobId : JobId}
    (step : TendingStep d maxAttempts s label t)
    (claimed : label.exchange.any (claims jobId) = true) :
    ∃ before ∈ s.shared.store.jobs, ∃ after ∈ t.shared.store.jobs, before.id = jobId ∧
      after.id = jobId ∧ after.attempts = before.attempts + 1 := by
  obtain ⟨_, _, _, job, _, rfl, claims⟩ := claimed_row bounded.recorded.integrity step.1 claimed
  exact ⟨job, claims.moved.member, _, claims.moved.moved_mem, rfl, rfl, rfl⟩

theorem Bounded.within_step (bounded : Bounded d maxAttempts s) (positive : 0 < maxAttempts)
    (step : TendingStep d maxAttempts s label t) {job : JobRow}
    (member : job ∈ t.shared.store.jobs) : Within maxAttempts job := by
  obtain old | ⟨before, there, op, ok, -, move, respects⟩ | enqueues :=
    bounded.job_cases step member
  · exact bounded.within job old
  · exact (bounded.within before there).move move respects
  · have unclaimed := enqueues.unclaimed
    exact ⟨by omega, fun _ => by omega⟩

/-- A claim counts where it charges. -/
theorem Bounded.charged_step (bounded : Bounded d maxAttempts s)
    (step : TendingStep d maxAttempts s label t) {job : JobRow}
    (member : job ∈ t.shared.store.jobs) : (claimsIn t job.id : Int) ≤ job.attempts := by
  rw [claimsIn_step step.1]
  cases claims : label.exchange.any (claims job.id) with
  | true =>
      obtain ⟨before, there, after, member', same, same', counted⟩ :=
        bounded.claimed_counted step claims
      obtain rfl := (bounded.recorded.step step.1).integrity.jobIds.eq_of_key member' member same'
      have charged := bounded.charged before there
      rw [same] at charged
      simp only [Bool.toNat_true]
      omega
  | false =>
      simp only [Bool.toNat_false, Nat.add_zero]
      obtain old | ⟨before, there, op, ok, -, move, respects⟩ | enqueues :=
        bounded.job_cases step member
      · exact bounded.charged job old
      · rw [move.id]
        exact le_trans (bounded.charged before there) move.attempts_le
      · have unknown : claimsIn s job.id = 0 := by
          by_contra some
          exact enqueues.fresh (bounded.known job.id (Nat.pos_of_ne_zero some))
        have unclaimed := enqueues.unclaimed
        omega

/-- A used-up job that is leased was so before the step, or it is the step that uses it up. -/
theorem Bounded.tended_next (bounded : Bounded d maxAttempts s) (positive : 0 < maxAttempts)
    (small : (maxAttempts : Int) ≤ u32Max) (step : TendingStep d maxAttempts s label t)
    {after : JobRow} (member : after ∈ t.shared.store.jobs) (used : UsedUp maxAttempts after)
    (leased : after.state = .leased) :
    ∃ i configuration workerId given, Tends maxAttempts t after i configuration workerId given := by
  obtain old | ⟨before, there, op, ok, calls, move, respects⟩ | enqueues :=
    bounded.job_cases step member
  · exact bounded.tended_step step old used leased member rfl rfl leased
  · by_cases earlier : UsedUp maxAttempts before
    · obtain closed | ⟨held, -, owner, -⟩ :=
        earlier.move (bounded.within before there) move respects
      · exact absurd leased (by rcases closed with closed | closed <;> simp [closed])
      · exact bounded.tended_step step there earlier held member move.id owner leased
    · by_cases new : after ∈ s.shared.store.jobs
      · exact bounded.tended_step step new used leased member rfl rfl leased
      · -- only a claim uses a job up
        cases move with
        | claimed =>
            exact bounded.claimed small step calls member new used
              (bounded.within_step positive step member).within
        | same | renewed | completed | failed => exact absurd used earlier
  · have unclaimed := enqueues.unclaimed
    unfold UsedUp at used
    omega

/-- **One step keeps the ceiling.** -/
theorem Bounded.step (positive : 0 < maxAttempts) (small : (maxAttempts : Int) ≤ u32Max)
    (bounded : Bounded d maxAttempts s) (step : TendingStep d maxAttempts s label t) :
    Bounded d maxAttempts t := by
  have recorded := bounded.recorded.step step.1
  refine ⟨recorded, step.1.stands bounded.stands, ?_, ?_, fun jobId claimed => ?_,
    fun job => bounded.charged_step step, fun job => bounded.within_step positive step,
    fun jobId => ?_, fun after => bounded.tended_next positive small step⟩
  · obtain same | ⟨op, ok, calls, answers⟩ := Deployment.store_cases step.1
    · rw [same]
      exact bounded.readable
    · exact (answers.effect bounded.recorded.integrity).keeps
        (fun _ _ wrote => readable_wrote wrote) bounded.readable
  · intro i configuration workerId called
    obtain old | ⟨rfl, -⟩ := step.1.call_cases called
    · exact bounded.started i configuration workerId old
    · exact of_decide_eq_true step.2
  · rw [claimsIn_step step.1] at claimed
    cases claims : label.exchange.any (claims jobId) with
    | true =>
        obtain ⟨-, -, after, member, -, rfl, -⟩ := bounded.claimed_counted step claims
        exact recorded.jobs after member
    | false =>
        rw [claims] at claimed
        exact (bounded.known jobId claimed).step step.1
  · cases claims : label.exchange.any (claims jobId) with
    | true =>
        obtain ⟨-, -, after, member, -, rfl, -⟩ := bounded.claimed_counted step claims
        have := bounded.charged_step step member
        have := (bounded.within_step positive step member).within
        omega
    | false =>
        rw [claimsIn_step step.1, claims]
        exact bounded.ceiling jobId

theorem run_bounded {labels : List SystemLabel} (positive : 0 < maxAttempts)
    (small : (maxAttempts : Int) ≤ u32Max)
    (run : d.RunsGuarded (fun s label => tendsLastAttempts maxAttempts s label = true) labels s) :
    Bounded d maxAttempts s := by
  obtain ⟨clock, run⟩ := run
  exact run.keeps (fun _ _ _ step bounded => Bounded.step positive small bounded step)
    (bounded_initial clock)

/-- What a step of the system leaves of a used-up job. -/
theorem UsedUp.next {job after : JobRow} (used : UsedUp maxAttempts job)
    (bounded : Bounded d maxAttempts s) (step : TendingStep d maxAttempts s label t)
    (member : job ∈ s.shared.store.jobs) (there : after ∈ t.shared.store.jobs)
    (same : after.id = job.id) :
    Closed after ∨ (job.state = .leased ∧ after.state = .leased ∧
      after.leaseOwner = job.leaseOwner) := by
  have keyed := bounded.recorded.integrity.jobIds
  obtain old | ⟨before, there', op, ok, -, move, respects⟩ | enqueues :=
    bounded.job_cases step there
  · obtain rfl := keyed.eq_of_key old member same
    obtain leased | closed := used.state (bounded.within after member)
    · exact .inr ⟨leased, leased, rfl⟩
    · exact .inl closed
  · obtain rfl := keyed.eq_of_key there' member (move.id.symm.trans same)
    obtain closed | ⟨leased, leased', owner, -⟩ := used.move (bounded.within _ there') move respects
    · exact .inl closed
    · exact .inr ⟨leased, leased', owner⟩
  · refine absurd ?_ enqueues.fresh
    rw [same]
    exact bounded.recorded.jobs job member

/-- The call of thread `i` holds the job: its worker was handed it, owns the lease, and has
something left to ask. -/
structure HeldBy (d : Deployment) (s : SystemState) (job : JobRow) (i : Nat) : Prop where
  leased : job.state = .leased
  owned : ∃ configuration workerId, s.call i = some (.work configuration workerId) ∧
    job.leaseOwner = some workerId
  given : ∃ leased, handed (s.past i) = some leased ∧ leased.jobId = job.id
  running : s.Running d.machine i

/-- **Attempts are bounded**, in every run whose workers see their last attempts through.  No job
is claimed more than `maxAttempts` times.  A job whose attempts are used up is closed, or held by
a call that is still running, so that it is completed or a dead letter when that call has ended;
no step claims it again, and every step leaves it closed, or with the same owner. -/
theorem attempts_bounded {labels : List SystemLabel} (positive : 0 < maxAttempts)
    (small : (maxAttempts : Int) ≤ u32Max)
    (run : d.RunsGuarded (fun s label => tendsLastAttempts maxAttempts s label = true) labels s) :
    (∀ jobId, claimsIn s jobId ≤ maxAttempts) ∧
      ∀ job ∈ s.shared.store.jobs, UsedUp maxAttempts job →
        (Closed job ∨ ∃ i, HeldBy d s job i) ∧
        ((∀ i, ¬ s.Running d.machine i) → Closed job) ∧
        ∀ label t, TendingStep d maxAttempts s label t →
          label.exchange.any (claims job.id) = false ∧
          ∀ after ∈ t.shared.store.jobs, after.id = job.id →
            Closed after ∨ (job.state = .leased ∧ after.state = .leased ∧
              after.leaseOwner = job.leaseOwner) := by
  have bounded := run_bounded positive small run
  refine ⟨bounded.ceiling, fun job member used => ?_⟩
  have held : Closed job ∨ ∃ i, HeldBy d s job i := by
    obtain leased | closed := used.state (bounded.within job member)
    · obtain ⟨i, configuration, workerId, given, tends⟩ := bounded.tended job member used leased
      have running := tends.running bounded.stands
      exact .inr ⟨i, leased, ⟨configuration, workerId, tends.call, tends.owner⟩,
        ⟨given, (lastAttempt_eq_some.1 tends.at_it).1, tends.named⟩, running⟩
    · exact .inl closed
  refine ⟨held, fun idle => ?_, fun label t step => ⟨?_, fun after there same => ?_⟩⟩
  · obtain closed | ⟨i, holds⟩ := held
    · exact closed
    · exact absurd holds.running (idle i)
  · by_contra some
    obtain ⟨_, _, _, other, _, same, claims⟩ :=
      claimed_row bounded.recorded.integrity step.1 (by simpa using some)
    obtain rfl := bounded.recorded.integrity.jobIds.eq_of_key claims.moved.member member same
    have next := ((bounded.step positive small step).within _ claims.moved.moved_mem).within
    change other.attempts + 1 ≤ _ at next
    unfold UsedUp at used
    omega
  · exact used.next bounded step member there same

end Runs

/-! ## Samples -/

/-- The job of the rehearsed upload. -/
def rehearsedJob : JobId := ⟨numbered 3⟩

/-- A worker claims the job and dies. -/
def claimAndDie (thread : Nat) : List (Command ServiceCall Event) :=
  [.start (.work sampleWorker "w"), .run thread 2, .crash thread]

/-- An upload is confirmed, a worker dies with its job, and another one sees it through. -/
def lastAttemptSchedule : List (Command ServiceCall Event) :=
  reserveImage ++ confirmImage ++ claimAndDie 2 ++ [.start (.work sampleWorker "w"), .run 3 49]

/-- The last attempt at the job of the sample completes it. -/
theorem attempts_bounded_sample :
    ∃ labels, ∃ s : SystemState,
      sampleDeployment.RunsGuarded (fun s label => tendsLastAttempts 2 s label = true) labels s ∧
      claimsIn s rehearsedJob = 2 ∧ (∀ jobId, claimsIn s jobId ≤ 2) ∧
      ∃ job ∈ s.shared.store.jobs, job.id = rehearsedJob ∧ UsedUp 2 job ∧ Closed job := by
  have played : ((sampleDeployment.rehearsal (100 * 1000000000)).play (tendsLastAttempts 2)
      (.fresh (sampleTime 0)) lastAttemptSchedule).any (fun s =>
        claimsIn s rehearsedJob == 2 && s.shared.store.jobs.any fun job =>
          job.id == rehearsedJob && decide (2 ≤ job.attempts) && job.state != .leased) = true := by
    decide +kernel
  obtain ⟨labels, s, run, checked⟩ := Deployment.rehearsed played
  obtain ⟨claimed, there⟩ := Bool.and_eq_true_iff.1 checked
  obtain ⟨job, member, facts⟩ := List.any_eq_true.1 there
  simp only [Bool.and_eq_true, beq_iff_eq, decide_eq_true_eq, bne_iff_ne] at facts
  obtain ⟨⟨named, used⟩, settled⟩ := facts
  have bounded := attempts_bounded (by decide) (by decide) run
  refine ⟨labels, s, run, beq_iff_eq.1 claimed, bounded.1, job, member, named, used, ?_⟩
  obtain closed | ⟨i, held⟩ := (bounded.2 job member used).1
  · exact closed
  · exact absurd held.leased settled

/-- **Crashes outrun the ceiling.**  Every worker process is configured with a ceiling of two, and
the job is claimed a third time. -/
theorem crashes_outrun_ceiling :
    ∃ labels, ∃ s : SystemState, sampleDeployment.Runs labels s ∧
      (∀ i configuration workerId, s.call i = some (.work configuration workerId) →
        configuration.policy.maxAttempts = 2) ∧ claimsIn s rehearsedJob = 3 := by
  have played : ((sampleDeployment.rehearsal (100 * 1000000000)).play (fun _ _ => true)
      (.fresh (sampleTime 0)) (reserveImage ++ confirmImage ++ claimAndDie 2 ++ claimAndDie 3 ++
        claimAndDie 4)).any (fun s => (s.threads.all fun thread =>
          match thread.call with
          | .work configuration _ => configuration.policy.maxAttempts == 2
          | _ => true) && claimsIn s rehearsedJob == 3) = true := by
    decide +kernel
  obtain ⟨labels, s, run, checked⟩ := Deployment.rehearsed played
  obtain ⟨configured, claimed⟩ := Bool.and_eq_true_iff.1 checked
  refine ⟨labels, s, run.unguarded, fun i configuration workerId called => ?_,
    beq_iff_eq.1 claimed⟩
  obtain ⟨thread, there, same⟩ := Option.map_eq_some_iff.1 called
  have own := List.all_eq_true.1 configured thread (List.mem_of_getElem? there)
  rw [same] at own
  exact beq_iff_eq.1 own

end MediaBooster.Queue
