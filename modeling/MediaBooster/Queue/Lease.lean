/-
# Queue.Lease -- job leases are exclusive

The row of a job is a lease register (`Theory.Lease`) and a worker knows of a lease what
the answers of its calls say (`leaseHeld`).  Every event moves every job's register by
one move of that theory and teaches the workers what the move does
(`LeaseStep.refines`); so what the workers know is expired or true.

* `lease_exclusive`: in every run with a clock that does not go back, at most one worker
  knows of an unexpired lease on a job; a claim hands out only jobs that are due and that
  nobody holds; the operations of the owner change nothing for anybody else; and the
  attempts of a job count its reported claims, as far as claims can be reported.
* `attempts_outrun_reports`: the claim that takes the attempts past `u32::MAX` is entered
  but reported as an error.
-/
import MediaBooster.Queue.Run
import MediaBooster.Theory.Lease

namespace MediaBooster.Queue

set_option autoImplicit false

open MediaBooster.Domain MediaBooster.Store MediaBooster.Theory MediaBooster.Theory.Run
open MediaBooster.Theory.Table MediaBooster.Theory.Transaction

/-! ## Clocked runs -/

/-- The store and the last reading of the clock. -/
structure Clocked where
  store : SqliteStore
  clock : OffsetDateTime

/-- An event of a run whose clock does not go back and whose leases end at instants that
can be represented; the purge of jobs with their tombstones is left out. -/
structure LeaseStep (s : Clocked) (event : QueueEvent) (t : Clocked) : Prop where
  step : QueueStep s.store event t.store
  clock : t.clock = event.now.getD s.clock
  monotone : s.clock ≤ t.clock
  representable : ∀ leaseFor, event.leaseFor = some leaseFor →
    t.clock.unixNanos + leaseFor.nanos < (maxUnixTimestamp + 1) * 1000000000
  stays : event.purges = false

/-- A run of the queue from the migrated database. -/
abbrev LeaseRun (start : OffsetDateTime) (events : List QueueEvent) (s : Clocked) : Prop :=
  Trace LeaseStep ⟨.migrated, start⟩ events s

/-! ## What the answers say -/

/-- What `workerId` knows of its lease on `jobId` after one more event. -/
def tells (workerId : String) (jobId : JobId) (known : Option OffsetDateTime)
    (event : QueueEvent) : Option OffsetDateTime :=
  match event.report with
  | some (.claimed owner leased) =>
      if owner = workerId ∧ leased.jobId = jobId then some leased.leaseUntil else known
  | some (.renewed owner job leaseUntil) =>
      if owner = workerId ∧ job = jobId then some leaseUntil else known
  | some (.settled owner job) => if owner = workerId ∧ job = jobId then none else known
  | none => known

section Reports

variable {event : QueueEvent} {workerId owner : String} {jobId job : JobId}
  {known : Option OffsetDateTime}

theorem tells_none (silent : event.report = none) : tells workerId jobId known event = known := by
  simp only [tells, silent]

theorem tells_claimed {leased : LeasedProcessingJob}
    (report : event.report = some (.claimed owner leased)) :
    tells workerId jobId known event =
      if owner = workerId ∧ leased.jobId = jobId then some leased.leaseUntil else known := by
  simp only [tells, report]

theorem tells_renewed {leaseUntil : OffsetDateTime}
    (report : event.report = some (.renewed owner job leaseUntil)) :
    tells workerId jobId known event =
      if owner = workerId ∧ job = jobId then some leaseUntil else known := by
  simp only [tells, report]

theorem tells_settled (report : event.report = some (.settled owner job)) :
    tells workerId jobId known event =
      if owner = workerId ∧ job = jobId then none else known := by
  simp only [tells, report]

end Reports

/-- The lease on `jobId` that the answers to `workerId` amount to. -/
def leaseHeld (events : List QueueEvent) (workerId : String) (jobId : JobId) :
    Option OffsetDateTime :=
  events.foldl (tells workerId jobId) none

/-- `workerId` knows of a lease on `jobId` that has not expired at `instant`. -/
def Holds (events : List QueueEvent) (workerId : String) (jobId : JobId)
    (instant : OffsetDateTime) : Prop :=
  ∃ leaseUntil, leaseHeld events workerId jobId = some leaseUntil ∧ instant < leaseUntil

/-- A successful claim of `jobId`: `claim_next` answered with the job. -/
def QueueEvent.claims (jobId : JobId) (event : QueueEvent) : Bool :=
  match event.report with
  | some (.claimed _ leased) => leased.jobId == jobId
  | _ => false

/-- The successful claims of `jobId`. -/
def claimsOf (events : List QueueEvent) (jobId : JobId) : Nat :=
  events.countP (QueueEvent.claims jobId)

/-! ## The row of a job as a register -/

/-- The lease in a row. -/
def lease (row : JobRow) : Option (String × Int) :=
  match row.state, row.leaseOwner, row.leaseUntil with
  | .leased, some owner, some leaseUntil => some (owner, leaseUntil)
  | _, _, _ => none

/-- The lease on a job. -/
def holder (store : SqliteStore) (jobId : JobId) : Option (String × Int) :=
  (store.jobs.find? fun row => decide (row.id = jobId)).bind lease

theorem lease_of_unleased {row : JobRow} (unleased : row.state ≠ .leased) : lease row = none := by
  rw [lease]
  split
  · rename_i leased _ _
    exact absurd leased unleased
  · rfl

theorem lease_eq_some {row : JobRow} {owner : String} {leaseUntil : Int} :
    lease row = some (owner, leaseUntil) ↔
      row.state = .leased ∧ row.leaseOwner = some owner ∧ row.leaseUntil = some leaseUntil := by
  rw [lease]
  split
  · rename_i leased held expires
    simp [leased, held, expires]
  · rename_i other
    constructor
    · intro found
      cases found
    · rintro ⟨leased, held, expires⟩
      exact absurd expires (other owner leaseUntil leased held)

theorem holder_of_mem {store : SqliteStore} (integrity : store.Integrity) {row : JobRow}
    (member : row ∈ store.jobs) : holder store row.id = lease row := by
  rw [holder, find?_eq_some_of_key integrity.jobIds member, Option.bind_some]

theorem holder_of_absent {store : SqliteStore} {jobId : JobId}
    (absent : ∀ row ∈ store.jobs, row.id ≠ jobId) : holder store jobId = none := by
  have missing : (store.jobs.find? fun row => decide (row.id = jobId)) = none :=
    List.find?_eq_none.2 fun row member => by simpa using absent row member
  rw [holder, missing, Option.bind_none]

/-- Adding queued jobs changes no lease. -/
theorem holder_added {s t : SqliteStore} (integrity : s.Integrity) (integrity' : t.Integrity)
    (added : JobsAdded s t) (jobId : JobId) : holder t jobId = holder s jobId := by
  by_cases present : ∃ row ∈ s.jobs, row.id = jobId
  · obtain ⟨row, member, rfl⟩ := present
    rw [holder_of_mem integrity member, holder_of_mem integrity' (added.kept row member)]
  · have absent : ∀ row ∈ s.jobs, row.id ≠ jobId := fun row member same =>
      present ⟨row, member, same⟩
    rw [holder_of_absent absent]
    by_cases new : ∃ row ∈ t.jobs, row.id = jobId
    · obtain ⟨row, member, rfl⟩ := new
      rw [holder_of_mem integrity' member]
      rcases added.fresh row member with old | ⟨queued, -⟩
      · exact absurd rfl (absent row old)
      · exact lease_of_unleased (by simp [queued])
    · exact holder_of_absent fun row member same => new ⟨row, member, same⟩

/-- Moving one job changes its lease only. -/
theorem holder_moved {s t : SqliteStore} {job : JobRow} {set : JobProgress → JobProgress}
    (integrity : s.Integrity) (integrity' : t.Integrity) (moved : JobMoved job set s t)
    (jobId : JobId) :
    holder t jobId = if jobId = job.id then lease (job.assign set) else holder s jobId := by
  split
  · rename_i same
    rw [same]
    exact holder_of_mem integrity' moved.moved_mem
  · rename_i other
    by_cases present : ∃ row ∈ s.jobs, row.id = jobId
    · obtain ⟨row, member, rfl⟩ := present
      rw [holder_of_mem integrity member, holder_of_mem integrity' (moved.other_mem member other)]
    · have absent : ∀ row ∈ s.jobs, row.id ≠ jobId := fun row member same =>
        present ⟨row, member, same⟩
      rw [holder_of_absent absent]
      refine holder_of_absent fun row member => ?_
      rcases moved.mem_cases integrity member with rfl | ⟨old, -⟩
      · exact fun same => other same.symm
      · exact absent row old

/-! ## The invariant -/

/-- What the answers so far say: who knows of which lease, and the claims reported. -/
structure Told where
  held : String → JobId → Option OffsetDateTime
  claims : JobId → Nat

/-- The answers after one more event. -/
def Told.add (told : Told) (event : QueueEvent) : Told where
  held := fun workerId jobId => tells workerId jobId (told.held workerId jobId) event
  claims := fun jobId => told.claims jobId + if event.claims jobId then 1 else 0

/-- The register of a job. -/
def register (s : Clocked) (jobId : JobId) : Lease.Register String Int :=
  ⟨holder s.store jobId, s.clock.unixTimestamp⟩

/-- What the workers know of a job, in whole seconds. -/
def Told.knows (told : Told) (jobId : JobId) (workerId : String) : Option Int :=
  (told.held workerId jobId).map OffsetDateTime.unixTimestamp

/-- The answers agree with the store. -/
structure Agrees (told : Told) (s : Clocked) : Prop where
  integrity : s.store.Integrity
  readable : Readable s.store
  leased : ∀ job ∈ s.store.jobs, job.state = .leased →
    job.availableAt ≤ s.clock.unixTimestamp ∧ ∃ leaseUntil, job.leaseUntil = some leaseUntil
  known : ∀ jobId, Lease.Known (told.knows jobId) (register s jobId)
  whole : ∀ workerId jobId leaseUntil, told.held workerId jobId = some leaseUntil →
    OffsetDateTime.fromUnixTimestamp leaseUntil.unixTimestamp = some leaseUntil
  counted : ∀ job ∈ s.store.jobs, 0 ≤ job.attempts ∧
    (told.claims job.id : Int) = min job.attempts u32Max
  unclaimed : ∀ jobId, (∀ job ∈ s.store.jobs, job.id ≠ jobId) → told.claims jobId = 0

theorem agrees_migrated (start : OffsetDateTime) :
    Agrees ⟨fun _ _ => none, fun _ => 0⟩ ⟨.migrated, start⟩ where
  integrity := migrated_integrity
  readable := readable_migrated
  leased := fun _ member => nomatch member
  known := fun _ _ _ knows => nomatch knows
  whole := fun _ _ _ knows => nomatch knows
  counted := fun _ member => nomatch member
  unclaimed := fun _ _ => rfl

/-! ## The register of a job moves -/

section Moves

variable {told : Told} {s t : Clocked} {event : QueueEvent}

theorem LeaseStep.later (step : LeaseStep s event t) :
    s.clock.unixTimestamp ≤ t.clock.unixTimestamp :=
  OffsetDateTime.unixTimestamp_mono step.monotone

theorem knows_add (jobId : JobId) (workerId : String) :
    (told.add event).knows jobId workerId =
      (tells workerId jobId (told.held workerId jobId) event).map OffsetDateTime.unixTimestamp := rfl

theorem knows_add_none (silent : event.report = none) (jobId : JobId) :
    (told.add event).knows jobId = told.knows jobId := by
  funext workerId
  rw [knows_add, tells_none silent, Told.knows]

/-- A step that moves no lease of `jobId` and tells nothing about it is idle. -/
theorem idle_refines {jobId : JobId} (step : LeaseStep s event t)
    (same : holder t.store jobId = holder s.store jobId)
    (silent : ∀ workerId, (told.add event).knows jobId workerId = told.knows jobId workerId) :
    ∃ move, Lease.Step (register s jobId) move (register t jobId) ∧
      ∀ workerId, (told.add event).knows jobId workerId =
        Lease.learn workerId (told.knows jobId workerId) move := by
  refine ⟨.idle, ?_, silent⟩
  rw [register, register, same]
  exact .idle (s := ⟨holder s.store jobId, _⟩) step.later

theorem knows_add_claimed {owner : String} {leased : LeasedProcessingJob}
    (report : event.report = some (.claimed owner leased)) (jobId : JobId) (workerId : String) :
    (told.add event).knows jobId workerId =
      if owner = workerId ∧ leased.jobId = jobId then some leased.leaseUntil.unixTimestamp
      else told.knows jobId workerId := by
  rw [knows_add, tells_claimed report, Told.knows]
  split <;> rfl

theorem knows_add_renewed {owner : String} {renewedJob : JobId} {leaseUntil : OffsetDateTime}
    (report : event.report = some (.renewed owner renewedJob leaseUntil)) (jobId : JobId)
    (workerId : String) :
    (told.add event).knows jobId workerId =
      if owner = workerId ∧ renewedJob = jobId then some leaseUntil.unixTimestamp
      else told.knows jobId workerId := by
  rw [knows_add, tells_renewed report, Told.knows]
  split <;> rfl

theorem knows_add_settled {owner : String} {settledJob : JobId}
    (report : event.report = some (.settled owner settledJob)) (jobId : JobId)
    (workerId : String) :
    (told.add event).knows jobId workerId =
      if owner = workerId ∧ settledJob = jobId then none else told.knows jobId workerId := by
  rw [knows_add, tells_settled report, Told.knows]
  split <;> rfl

/-- The report of a claim: the job and its expiry, if the row decodes. -/
theorem ClaimStep.report {s t : SqliteStore} {job : JobRow} {tenantId workerId : String}
    {now : OffsetDateTime} {leaseFor : Duration} {leaseUntil : Int}
    (claim : ClaimStep s event t job tenantId workerId now leaseFor leaseUntil) :
    (event.report = none ∧ ∀ leased, leasedFromRow
        (job.assign (claimColumns workerId now.unixTimestamp leaseUntil)) ≠ .ok leased) ∨
      ∃ leased, event.report = some (.claimed workerId leased) ∧ leased.jobId = job.id ∧
        OffsetDateTime.fromUnixTimestamp leaseUntil = some leased.leaseUntil ∧
        leasedFromRow (job.assign (claimColumns workerId now.unixTimestamp leaseUntil)) =
          .ok leased := by
  rw [claim.event]
  cases decoded : leasedFromRow
      (job.assign (claimColumns workerId now.unixTimestamp leaseUntil)) with
  | error error => exact .inl ⟨rfl, fun leased same => nomatch same⟩
  | ok leased =>
      obtain ⟨sameId, -, -, -, stored, held, parsed⟩ := leasedFromRow_ok decoded
      cases held
      exact .inr ⟨leased, rfl, sameId, parsed, rfl⟩

/-- The lease a claim or a renewal asks for ends at an instant. -/
theorem LeaseStep.expiry_within (step : LeaseStep s event t) {now : OffsetDateTime}
    {leaseFor : Duration} {leaseUntil : Int} (reads : event.now = some now)
    (asks : event.leaseFor = some leaseFor)
    (expires : leaseExpiration now leaseFor = .ok leaseUntil) :
    minUnixTimestamp ≤ leaseUntil ∧ leaseUntil ≤ maxUnixTimestamp := by
  obtain ⟨rfl, -⟩ := leaseExpiration_ok expires
  have fits := step.representable leaseFor asks
  rw [step.clock, reads, Option.getD_some] at fits
  have bounds := now.unixTimestamp_bounds
  simp only [OffsetDateTime.unixTimestamp, Duration.asSecs] at bounds ⊢
  omega

/-- **The rows refine the leases.**  Every event moves the register of every job by one
move, and the workers learn what the move teaches. -/
theorem LeaseStep.refines (agrees : Agrees told s) (step : LeaseStep s event t) (jobId : JobId) :
    ∃ move, Lease.Step (register s jobId) move (register t jobId) ∧
      ∀ workerId, (told.add event).knows jobId workerId =
        Lease.learn workerId (told.knows jobId workerId) move := by
  have integrity := agrees.integrity
  have integrity' := step.step.integrity integrity
  obtain ⟨silent, added⟩ | ⟨job, tenantId, workerId, now, leaseFor, leaseUntil, claim⟩ |
    ⟨job, workerId, now, leaseFor, leaseUntil, result, renewal⟩ | ⟨job, workerId, set, settle⟩ :=
    step.step.cases integrity step.stays
  · exact idle_refines step (holder_added integrity integrity' added jobId) fun workerId =>
      congrFun (knows_add_none silent jobId) workerId
  · have moved := claim.claims.moved
    have clock : t.clock = now := by rw [step.clock, claim.event]; rfl
    by_cases same : jobId = job.id
    · -- the claimed job: its lease, if there was one, has expired
      subst same
      have later := step.later
      have holds : holder t.store job.id = some (workerId, leaseUntil) := by
        rw [holder_moved integrity integrity' moved, if_pos rfl]
        exact lease_eq_some.2 ⟨rfl, rfl, rfl⟩
      have free : ∀ owner expiry, (register s job.id).holder = some (owner, expiry) →
          expiry ≤ t.clock.unixTimestamp := by
        intro owner expiry held
        change holder s.store job.id = some (owner, expiry) at held
        rw [holder_of_mem integrity moved.member] at held
        obtain ⟨leased, -, expires⟩ := lease_eq_some.1 held
        have due := claim.claims.due
        rw [clock]
        simpa [claimable, leased, expires] using due
      obtain ⟨silent, -⟩ | ⟨reported, report, sameId, parsed, -⟩ := claim.report
      · refine ⟨.acquire workerId leaseUntil false, ?_, fun other => ?_⟩
        · rw [show register t job.id = ⟨_, _⟩ from rfl, holds]
          exact .acquire later free workerId leaseUntil false
        · rw [knows_add_none silent]
          simp [Lease.learn]
      · refine ⟨.acquire workerId leaseUntil true, ?_, fun other => ?_⟩
        · rw [show register t job.id = ⟨_, _⟩ from rfl, holds]
          exact .acquire later free workerId leaseUntil true
        · rw [knows_add_claimed report, OffsetDateTime.fromUnixTimestamp_eq_some parsed]
          simp [Lease.learn, sameId]
    · refine idle_refines step ?_ fun other => ?_
      · rw [holder_moved integrity integrity' moved, if_neg same]
      · obtain ⟨silent, -⟩ | ⟨reported, report, sameId, -⟩ := claim.report
        · rw [knows_add_none silent]
        · rw [knows_add_claimed report, if_neg fun told => same (told.2.symm.trans sameId)]
  · have moved := renewal.moved
    have clock : t.clock = now := by rw [step.clock, renewal.event]; rfl
    obtain ⟨lower, upper⟩ := step.expiry_within (by rw [renewal.event]; rfl)
      (by rw [renewal.event]; rfl) renewal.expires
    obtain ⟨renewed, parsed, seconds⟩ := OffsetDateTime.fromUnixTimestamp_of_within lower upper
    have report : event.report = some (.renewed workerId job.id renewed) := by
      rw [renewal.event, (renewal.result renewed).2 parsed]
      rfl
    by_cases same : jobId = job.id
    · subst same
      obtain ⟨stored, expires, unexpired⟩ := renewal.unexpired
      have held : (register s job.id).holder = some (workerId, stored) := by
        change holder s.store job.id = _
        rw [holder_of_mem integrity moved.member]
        exact lease_eq_some.2 ⟨renewal.leased, renewal.owner, expires⟩
      have holds : holder t.store job.id = some (workerId, leaseUntil) := by
        rw [holder_moved integrity integrity' moved, if_pos rfl]
        exact lease_eq_some.2 ⟨renewal.leased, renewal.owner, rfl⟩
      refine ⟨.extend workerId leaseUntil, ?_, fun other => ?_⟩
      · rw [show register t job.id = ⟨_, _⟩ from rfl, holds]
        exact .extend step.later held (by rw [clock]; exact unexpired) leaseUntil
      · rw [knows_add_renewed report, seconds]
        simp [Lease.learn]
    · refine idle_refines step ?_ fun other => ?_
      · rw [holder_moved integrity integrity' moved, if_neg same]
      · rw [knows_add_renewed report, if_neg fun told => same told.2.symm]
  · have moved := settle.moved
    by_cases same : jobId = job.id
    · subst same
      have holds : holder t.store job.id = none := by
        rw [holder_moved integrity integrity' moved, if_pos rfl]
        exact lease_of_unleased (settle.settles _).1
      obtain ⟨-, leased, owner⟩ := leasedBy_iff.1 settle.leased
      obtain ⟨-, stored, expires⟩ := agrees.leased job moved.member leased
      have held : (register s job.id).holder = some (workerId, stored) := by
        change holder s.store job.id = _
        rw [holder_of_mem integrity moved.member]
        exact lease_eq_some.2 ⟨leased, owner, expires⟩
      refine ⟨.release workerId, ?_, fun other => ?_⟩
      · rw [show register t job.id = ⟨_, _⟩ from rfl, holds]
        exact .release step.later held
      · rw [knows_add_settled settle.report]
        simp [Lease.learn]
    · refine idle_refines step ?_ fun other => ?_
      · rw [holder_moved integrity integrity' moved, if_neg same]
      · rw [knows_add_settled settle.report, if_neg fun told => same told.2.symm]

/-! ## One event keeps the answers true -/

/-- Whatever a worker is told of is a whole second. -/
theorem LeaseStep.whole (agrees : Agrees told s) (step : LeaseStep s event t)
    (workerId : String) (jobId : JobId) (leaseUntil : OffsetDateTime)
    (held : (told.add event).held workerId jobId = some leaseUntil) :
    OffsetDateTime.fromUnixTimestamp leaseUntil.unixTimestamp = some leaseUntil := by
  have old : told.held workerId jobId = some leaseUntil →
      OffsetDateTime.fromUnixTimestamp leaseUntil.unixTimestamp = some leaseUntil :=
    agrees.whole workerId jobId leaseUntil
  have parsedWhole : ∀ seconds, OffsetDateTime.fromUnixTimestamp seconds = some leaseUntil →
      OffsetDateTime.fromUnixTimestamp leaseUntil.unixTimestamp = some leaseUntil := by
    intro seconds parsed
    rw [OffsetDateTime.fromUnixTimestamp_eq_some parsed]
    exact parsed
  change tells workerId jobId (told.held workerId jobId) event = some leaseUntil at held
  obtain ⟨silent, -⟩ | ⟨job, tenantId, owner, now, leaseFor, expiry, claim⟩ |
    ⟨job, owner, now, leaseFor, expiry, result, renewal⟩ | ⟨job, owner, set, settle⟩ :=
    step.step.cases agrees.integrity step.stays
  · rw [tells_none silent] at held
    exact old held
  · obtain ⟨silent, -⟩ | ⟨leased, report, -, parsed, -⟩ := claim.report
    · rw [tells_none silent] at held
      exact old held
    · rw [tells_claimed report] at held
      split at held
      · cases held
        exact parsedWhole expiry parsed
      · exact old held
  · cases result with
    | error error =>
        rw [tells_none (by rw [renewal.event]; rfl)] at held
        exact old held
    | ok renewed =>
        have report : event.report = some (.renewed owner job.id renewed) := by
          rw [renewal.event]
          rfl
        rw [tells_renewed report] at held
        split at held
        · cases held
          exact parsedWhole expiry ((renewal.result leaseUntil).1 rfl)
        · exact old held
  · rw [tells_settled settle.report] at held
    split at held
    · cases held
    · exact old held

/-- A leased job was due when it was claimed. -/
theorem LeaseStep.leased (agrees : Agrees told s) (step : LeaseStep s event t) (job : JobRow)
    (member : job ∈ t.store.jobs) (leased : job.state = .leased) :
    job.availableAt ≤ t.clock.unixTimestamp ∧ ∃ leaseUntil, job.leaseUntil = some leaseUntil := by
  have old : ∀ row ∈ s.store.jobs, row.state = .leased →
      row.availableAt ≤ t.clock.unixTimestamp ∧ ∃ leaseUntil, row.leaseUntil = some leaseUntil := by
    intro row there leased
    obtain ⟨due, expires⟩ := agrees.leased row there leased
    exact ⟨le_trans due step.later, expires⟩
  obtain ⟨-, added⟩ | ⟨claimed, tenantId, owner, now, leaseFor, expiry, claim⟩ |
    ⟨renewed, owner, now, leaseFor, expiry, result, renewal⟩ | ⟨settled, owner, set, settle⟩ :=
    step.step.cases agrees.integrity step.stays
  · rcases added.fresh job member with there | ⟨queued, -⟩
    · exact old job there leased
    · rw [queued] at leased
      cases leased
  · rcases claim.claims.moved.mem_cases agrees.integrity member with rfl | ⟨there, -⟩
    · have clock : t.clock = now := by rw [step.clock, claim.event]; rfl
      refine ⟨?_, expiry, rfl⟩
      have due := claim.claims.due
      simp only [claimable, Bool.or_eq_true, Bool.and_eq_true, beq_iff_eq,
        decide_eq_true_eq] at due
      rcases due with ⟨-, available⟩ | ⟨wasLeased, -⟩
      · rw [clock]
        exact available
      · exact (old claimed claim.claims.moved.member wasLeased).1
    · exact old job there leased
  · rcases renewal.moved.mem_cases agrees.integrity member with rfl | ⟨there, -⟩
    · exact ⟨(old renewed renewal.moved.member renewal.leased).1, expiry, rfl⟩
    · exact old job there leased
  · rcases settle.moved.mem_cases agrees.integrity member with rfl | ⟨there, -⟩
    · exact absurd leased (settle.settles _).1
    · exact old job there leased

theorem claims_of_report_none (silent : event.report = none) (jobId : JobId) :
    event.claims jobId = false := by
  simp only [QueueEvent.claims, silent]

/-- The attempts count the claims that can be reported. -/
theorem LeaseStep.counted (agrees : Agrees told s) (step : LeaseStep s event t) (job : JobRow)
    (member : job ∈ t.store.jobs) :
    0 ≤ job.attempts ∧ ((told.add event).claims job.id : Int) = min job.attempts u32Max := by
  have old : ∀ row ∈ s.store.jobs, event.claims row.id = false → 0 ≤ row.attempts ∧
      ((told.add event).claims row.id : Int) = min row.attempts u32Max := by
    intro row there silent
    simp only [Told.add, silent, Bool.false_eq_true, if_false, Nat.add_zero]
    exact agrees.counted row there
  obtain ⟨silent, added⟩ | ⟨claimed, tenantId, owner, now, leaseFor, expiry, claim⟩ |
    ⟨renewed, owner, now, leaseFor, expiry, result, renewal⟩ | ⟨settled, owner, set, settle⟩ :=
    step.step.cases agrees.integrity step.stays
  · rcases added.fresh job member with there | ⟨-, unclaimed, apart⟩
    · exact old job there (claims_of_report_none silent _)
    · simp only [Told.add, claims_of_report_none silent, agrees.unclaimed job.id apart, unclaimed]
      decide
  · have moved := claim.claims.moved
    rcases moved.mem_cases agrees.integrity member with rfl | ⟨there, apart⟩
    · obtain ⟨nonneg, counted⟩ := agrees.counted claimed moved.member
      obtain ⟨lower, upper⟩ := step.expiry_within (by rw [claim.event]; rfl)
        (by rw [claim.event]; rfl) claim.expires
      -- the claim is reported exactly while the new count fits
      have reports : (∃ leased, leasedFromRow
          (claimed.assign (claimColumns owner now.unixTimestamp expiry)) = .ok leased) ↔
            claimed.attempts + 1 ≤ u32Max :=
        leasedFromRow_isOk (agrees.readable.created claimed moved.member)
          (agrees.readable.revision claimed moved.member) rfl lower upper
          (Int.le_trans nonneg (Int.le_of_lt (Int.lt_succ claimed.attempts)))
      change 0 ≤ claimed.attempts + 1 ∧
        ((told.add event).claims claimed.id : Int) = min (claimed.attempts + 1) u32Max
      refine ⟨by omega, ?_⟩
      obtain ⟨silent, unreadable⟩ | ⟨leased, report, sameId, -, decoded⟩ := claim.report
      · have full : ¬claimed.attempts + 1 ≤ u32Max := fun fits => by
          obtain ⟨leased, decoded⟩ := reports.2 fits
          exact unreadable leased decoded
        simp only [Told.add, claims_of_report_none silent]
        push_cast
        omega
      · have fits := reports.1 ⟨leased, decoded⟩
        have counts : event.claims claimed.id = true := by
          simp [QueueEvent.claims, report, sameId]
        simp only [Told.add, counts]
        push_cast
        omega
    · refine old job there ?_
      obtain ⟨silent, -⟩ | ⟨leased, report, sameId, -, -⟩ := claim.report
      · exact claims_of_report_none silent _
      · simp only [QueueEvent.claims, report, sameId, beq_eq_false_iff_ne]
        exact Ne.symm apart
  · have silent : ∀ jobId, event.claims jobId = false := by
      intro jobId
      rw [renewal.event]
      cases result <;> rfl
    rcases renewal.moved.mem_cases agrees.integrity member with rfl | ⟨there, -⟩
    · exact old renewed renewal.moved.member (silent _)
    · exact old job there (silent _)
  · have silent : ∀ jobId, event.claims jobId = false := fun jobId => by
      simp only [QueueEvent.claims, settle.report]
    rcases settle.moved.mem_cases agrees.integrity member with rfl | ⟨there, -⟩
    · have kept := (settle.settles settled.toJobProgress).2
      have counted := old settled settle.moved.member (silent _)
      rw [← kept] at counted
      exact counted
    · exact old job there (silent _)

/-- A job that is not stored has not been claimed. -/
theorem LeaseStep.unclaimed (agrees : Agrees told s) (step : LeaseStep s event t) (jobId : JobId)
    (absent : ∀ job ∈ t.store.jobs, job.id ≠ jobId) : (told.add event).claims jobId = 0 := by
  obtain ⟨silent, before⟩ : event.claims jobId = false ∧ ∀ job ∈ s.store.jobs, job.id ≠ jobId := by
    obtain ⟨silent, added⟩ | ⟨claimed, tenantId, owner, now, leaseFor, expiry, claim⟩ |
      ⟨renewed, owner, now, leaseFor, expiry, result, renewal⟩ | ⟨settled, owner, set, settle⟩ :=
      step.step.cases agrees.integrity step.stays
    · exact ⟨claims_of_report_none silent jobId, fun job there => absent job (added.kept job there)⟩
    · refine ⟨?_, claim.claims.moved.absent absent⟩
      obtain ⟨silent, -⟩ | ⟨leased, report, sameId, -, -⟩ := claim.report
      · exact claims_of_report_none silent jobId
      · simp only [QueueEvent.claims, report, sameId, beq_eq_false_iff_ne]
        have moved := absent _ claim.claims.moved.moved_mem
        exact moved
    · refine ⟨?_, renewal.moved.absent absent⟩
      rw [renewal.event]
      cases result <;> rfl
    · refine ⟨?_, settle.moved.absent absent⟩
      simp only [QueueEvent.claims, settle.report]
  simp only [Told.add, silent, agrees.unclaimed jobId before, Bool.false_eq_true, if_false]

/-- **One event keeps the answers true.** -/
theorem Agrees.step (agrees : Agrees told s) (step : LeaseStep s event t) :
    Agrees (told.add event) t where
  integrity := step.step.integrity agrees.integrity
  readable := step.step.readable agrees.integrity agrees.readable
  leased := step.leased agrees
  known := fun jobId => by
    obtain ⟨move, moved, learns⟩ := step.refines agrees jobId
    have known := (agrees.known jobId).step moved
    rwa [← funext learns] at known
  whole := step.whole agrees
  counted := step.counted agrees
  unclaimed := step.unclaimed agrees

end Moves

/-! ## Runs -/

/-- What the answers to a run of events say. -/
def toldBy (events : List QueueEvent) : Told := events.foldl Told.add ⟨fun _ _ => none, fun _ => 0⟩

theorem toldBy_held (events : List QueueEvent) (workerId : String) (jobId : JobId) :
    (toldBy events).held workerId jobId = leaseHeld events workerId jobId := by
  suffices general : ∀ told : Told, (events.foldl Told.add told).held workerId jobId =
      events.foldl (tells workerId jobId) (told.held workerId jobId) from general _
  induction events with
  | nil => exact fun _ => rfl
  | cons event events ih => exact fun told => ih (told.add event)

theorem toldBy_claims (events : List QueueEvent) (jobId : JobId) :
    (toldBy events).claims jobId = claimsOf events jobId := by
  suffices general : ∀ told : Told, (events.foldl Told.add told).claims jobId =
      told.claims jobId + events.countP (QueueEvent.claims jobId) by
    rw [toldBy, general, claimsOf, Nat.zero_add]
  induction events with
  | nil => exact fun _ => rfl
  | cons event events ih =>
      intro told
      have added : (told.add event).claims jobId =
        told.claims jobId + if event.claims jobId then 1 else 0 := rfl
      rw [List.foldl_cons, ih, List.countP_cons, added]
      omega

theorem run_agrees {told : Told} {s t : Clocked} {events : List QueueEvent}
    (run : Trace LeaseStep s events t) (agrees : Agrees told s) :
    Agrees (events.foldl Told.add told) t := by
  induction run generalizing told with
  | nil => exact agrees
  | cons step _ ih => exact ih (agrees.step step)

theorem LeaseRun.agrees {start : OffsetDateTime} {events : List QueueEvent} {s : Clocked}
    (run : LeaseRun start events s) : Agrees (toldBy events) s :=
  run_agrees run (agrees_migrated start)

/-- An unexpired lease, in whole seconds. -/
theorem Holds.knows {events : List QueueEvent} {s : Clocked} {workerId : String} {jobId : JobId}
    {instant : OffsetDateTime} (agrees : Agrees (toldBy events) s)
    (holds : Holds events workerId jobId instant) :
    ∃ expiry, (toldBy events).knows jobId workerId = some expiry ∧
      instant.unixTimestamp < expiry := by
  obtain ⟨leaseUntil, held, unexpired⟩ := holds
  rw [← toldBy_held] at held
  have whole := agrees.whole workerId jobId leaseUntil held
  refine ⟨leaseUntil.unixTimestamp, ?_, (OffsetDateTime.lt_fromUnixTimestamp whole).1 unexpired⟩
  exact congrArg (Option.map OffsetDateTime.unixTimestamp) held

/-! ## Exclusive leases -/

/-- The job is due and nobody knows of an unexpired lease on it. -/
structure HandsOut (events : List QueueEvent) (s : Clocked) (now : OffsetDateTime)
    (jobId : JobId) : Prop where
  due : ∃ job ∈ s.store.jobs, job.id = jobId ∧ job.availableAt ≤ now.unixTimestamp ∧
    (job.state = .queued ∨ (job.state = .leased ∧
      ∃ leaseUntil, job.leaseUntil = some leaseUntil ∧ leaseUntil ≤ now.unixTimestamp))
  free : ∀ workerId, ¬Holds events workerId jobId now

/-- The current owner of the lease on a job. -/
def LeasedTo (store : SqliteStore) (workerId : String) (jobId : JobId) : Prop :=
  ∃ job ∈ store.jobs, leasedBy jobId workerId job = true

namespace QueueEvent

/-- The operations of a lease's owner, with the worker that calls them. -/
def owned : QueueEvent → Option (String × JobId)
  | renew jobId workerId _ _ _ | complete jobId workerId _ _
  | fail jobId workerId _ _ _ _ _ => some (workerId, jobId)
  | _ => none

/-- Whether the call succeeded. -/
def succeeds : QueueEvent → Bool
  | enqueue _ _ _ result => result.toBool
  | claimNext _ _ _ result => result.toBool
  | renew _ _ _ _ result => result.toBool
  | complete _ _ _ result => result.toBool
  | fail _ _ _ _ _ _ result => result.toBool
  | other _ ok => ok

end QueueEvent

theorem handsOut {events : List QueueEvent} {s t : Clocked} {event : QueueEvent}
    {workerId : String} {leased : LeasedProcessingJob} (agrees : Agrees (toldBy events) s)
    (step : LeaseStep s event t) (report : event.report = some (.claimed workerId leased)) :
    HandsOut events s t.clock leased.jobId := by
  obtain ⟨silent, -⟩ | ⟨job, tenantId, owner, now, leaseFor, expiry, claim⟩ |
    ⟨job, owner, now, leaseFor, expiry, result, renewal⟩ | ⟨job, owner, set, settle⟩ :=
    step.step.cases agrees.integrity step.stays
  · rw [silent] at report
    cases report
  · obtain ⟨silent, -⟩ | ⟨leased', report', sameId, -, -⟩ := claim.report
    · rw [silent] at report
      cases report
    rw [report'] at report
    cases report
    have clock : t.clock = now := by rw [step.clock, claim.event]; rfl
    have member := claim.claims.moved.member
    have due := claim.claims.due
    simp only [claimable, Bool.or_eq_true, Bool.and_eq_true, beq_iff_eq, decide_eq_true_eq,
      Option.any_eq_true] at due
    rw [sameId, clock]
    refine ⟨⟨job, member, rfl, ?_, ?_⟩, ?_⟩
    · rcases due with ⟨-, available⟩ | ⟨wasLeased, -⟩
      · exact available
      · have later := step.later
        rw [clock] at later
        exact le_trans (agrees.leased job member wasLeased).1 later
    · rcases due with ⟨queued, -⟩ | expired
      · exact .inl queued
      · exact .inr expired
    · intro other holds
      obtain ⟨expiry, knows, unexpired⟩ := holds.knows agrees
      have later := step.later
      rw [clock] at later
      have held := (agrees.known job.id).held later knows unexpired
      change holder s.store job.id = _ at held
      rw [holder_of_mem agrees.integrity member] at held
      obtain ⟨wasLeased, -, expires⟩ := lease_eq_some.1 held
      rcases due with ⟨queued, -⟩ | ⟨-, stored, expires', expired⟩
      · rw [queued] at wasLeased
        cases wasLeased
      · rw [expires] at expires'
        cases expires'
        omega
  · rw [renewal.event] at report
    cases result <;> cases report
  · rw [settle.report] at report
    cases report

theorem owner_only {s t : SqliteStore} {event : QueueEvent} {workerId : String} {jobId : JobId}
    (integrity : s.Integrity) (step : QueueStep s event t)
    (owned : event.owned = some (workerId, jobId)) (stranger : ¬LeasedTo s workerId jobId) :
    event.succeeds = false ∧ t = s := by
  cases step with
  | enqueue | claimNext | other => cases owned
  | renew replies =>
      cases owned
      cases replies with
      | refused error => exact ⟨rfl, rfl⟩
      | ran answer =>
          obtain ⟨same, error, rfl⟩ | ⟨expiry, job, -, sameId, leased, owner, -, moved, -⟩ :=
            renew_cases integrity answer
          · exact ⟨rfl, same⟩
          · exact absurd ⟨job, moved.member, leasedBy_iff.2 ⟨sameId, leased, owner⟩⟩ stranger
  | complete replies =>
      cases owned
      cases replies with
      | refused error => exact ⟨rfl, rfl⟩
      | ran answer =>
          obtain ⟨same, error, rfl⟩ | ⟨-, job, leased, moved⟩ := complete_cases integrity answer
          · exact ⟨rfl, same⟩
          · exact absurd ⟨job, moved.member, leased⟩ stranger
  | fail replies =>
      cases owned
      cases replies with
      | refused error => exact ⟨rfl, rfl⟩
      | ran answer =>
          obtain ⟨same, error, rfl⟩ | ⟨job, leased, moved, -⟩ := fail_cases integrity answer
          · exact ⟨rfl, same⟩
          · exact absurd ⟨job, moved.member, leased⟩ stranger

/-- The claim of a job is in its row: leased to the worker until `leaseUntil`, and counted. -/
def Entered (job : JobRow) (workerId : String) (now : OffsetDateTime) (leaseUntil : Int)
    (store : SqliteStore) : Prop :=
  ∃ row ∈ store.jobs, row.id = job.id ∧ row.state = .leased ∧ row.leaseOwner = some workerId ∧
    row.leaseUntil = some leaseUntil ∧ row.attempts = job.attempts + 1 ∧
    row.updatedAt = now.unixTimestamp

section Overrun

variable {s t : SqliteStore} {event : QueueEvent} {job : JobRow} {tenantId workerId : String}
  {now : OffsetDateTime} {leaseFor : Duration} {leaseUntil : Int}

theorem ClaimStep.entered
    (claim : ClaimStep s event t job tenantId workerId now leaseFor leaseUntil) :
    Entered job workerId now leaseUntil t :=
  ⟨_, claim.claims.moved.moved_mem, rfl, rfl, rfl, rfl, rfl, rfl⟩

/-- **A claim past `u32::MAX` is answered with an error.** -/
theorem ClaimStep.unreported
    (claim : ClaimStep s event t job tenantId workerId now leaseFor leaseUntil)
    (overrun : u32Max ≤ job.attempts) :
    event = .claimNext workerId now leaseFor
      (.error (.text "stored attempt count is invalid")) := by
  have overflows : u32TryFrom (job.attempts + 1) = none := by
    rw [u32TryFrom, if_neg]
    rw [u32Max] at overrun
    omega
  rw [claim.event]
  simp only [leasedFromRow, claimColumns, JobRow.assign, overflows]
  rfl

end Overrun

/-- **Leases are exclusive.**  After every run, at every instant from the last reading of
the clock on, at most one worker knows of an unexpired lease on a job.  The next claim
hands out a job that is due and that nobody holds; the next renewal, completion or
failure by anybody but the owner of the lease is an error that changes nothing.  The
attempts of a job are its successful claims up to `u32::MAX`, where these stop: every claim
after that is entered in the row and answered with an error. -/
theorem lease_exclusive {start : OffsetDateTime} {events : List QueueEvent} {s : Clocked}
    (run : LeaseRun start events s) :
    (∀ instant, s.clock ≤ instant → ∀ jobId first second, Holds events first jobId instant →
      Holds events second jobId instant → first = second) ∧
    (∀ event t, LeaseStep s event t →
      (∀ workerId leased, event.report = some (.claimed workerId leased) →
        HandsOut events s t.clock leased.jobId) ∧
      (∀ workerId jobId, event.owned = some (workerId, jobId) →
        ¬LeasedTo s.store workerId jobId → event.succeeds = false ∧ t.store = s.store) ∧
      (∀ job tenantId workerId now leaseFor leaseUntil,
        ClaimStep s.store event t.store job tenantId workerId now leaseFor leaseUntil →
          u32Max ≤ job.attempts →
            event = .claimNext workerId now leaseFor
                (.error (.text "stored attempt count is invalid")) ∧
              Entered job workerId now leaseUntil t.store)) ∧
    ∀ job ∈ s.store.jobs, (claimsOf events job.id : Int) = min job.attempts u32Max := by
  have agrees := LeaseRun.agrees run
  refine ⟨?_, fun event t step => ⟨?_, ?_, ?_⟩, fun job member => ?_⟩
  · intro instant later jobId first second holds holds'
    obtain ⟨expiry, knows, unexpired⟩ := holds.knows agrees
    obtain ⟨expiry', knows', unexpired'⟩ := holds'.knows agrees
    have later := OffsetDateTime.unixTimestamp_mono later
    exact (agrees.known jobId).exclusive later knows unexpired knows' unexpired'
  · exact fun workerId leased report => handsOut agrees step report
  · exact fun workerId jobId owned stranger =>
      owner_only agrees.integrity step.step owned stranger
  · exact fun job tenantId workerId now leaseFor leaseUntil claim overrun =>
      ⟨claim.unreported overrun, claim.entered⟩
  · rw [← toldBy_claims]
    exact (agrees.counted job member).2

theorem sampleSetup_leaseRun (start : OffsetDateTime) :
    LeaseRun start sampleSetup ⟨confirmedSample, start⟩ := by
  have saved : Answers (.saveBatch sampleBatch sampleCapacity) .migrated true reservedSample := .ran
  refine .cons (t := ⟨reservedSample, start⟩) ?_ (Trace.single ?_)
  · exact ⟨.other (by decide) saved, rfl, le_refl start.unixNanos,
      (fun _ asks => nomatch asks), rfl⟩
  · exact ⟨.other (by decide) confirmedSample_answers, rfl, le_refl start.unixNanos,
      (fun _ asks => nomatch asks), rfl⟩

/-- Whether events run under a clock that starts at `clock` and does not go back. -/
def leaseChecked : OffsetDateTime → List QueueEvent → Bool
  | _, [] => true
  | clock, event :: rest =>
      decide (clock ≤ event.now.getD clock) && !event.purges &&
        event.leaseFor.all (fun leaseFor => decide
          ((event.now.getD clock).unixNanos + leaseFor.nanos < (maxUnixTimestamp + 1) * 1000000000)) &&
        leaseChecked (event.now.getD clock) rest

/-- The clock after events. -/
def clockAfter : OffsetDateTime → List QueueEvent → OffsetDateTime
  | clock, [] => clock
  | clock, event :: rest => clockAfter (event.now.getD clock) rest

theorem performed_leaseRun {s : SqliteStore} {ops : List Op} {clock : OffsetDateTime}
    (checked : leaseChecked clock (performed s ops) = true) :
    Trace LeaseStep ⟨s, clock⟩ (performed s ops)
      ⟨afterAll s ops, clockAfter clock (performed s ops)⟩ := by
  induction ops generalizing s clock with
  | nil => exact .nil _
  | cons op ops ih =>
      simp only [performed, leaseChecked, Bool.and_eq_true, decide_eq_true_eq,
        Bool.not_eq_true'] at checked
      obtain ⟨⟨⟨monotone, stays⟩, fits⟩, rest⟩ := checked
      refine .cons (t := ⟨(perform op s).2, (perform op s).1.now.getD clock⟩) ?_ (ih rest)
      refine ⟨perform_step op s, rfl, monotone, fun leaseFor asks => ?_, stays⟩
      rw [asks, Option.all_some, decide_eq_true_eq] at fits
      exact fits

/-- The sample job is claimed, renewed, left to expire, claimed by another worker and completed by
that one; the first worker comes too late. -/
def sampleLeases : List Op :=
  [.saveBatch sampleBatch sampleCapacity, sampleConfirmation,
   .claimNext "worker-a" (sampleTime 2) (leaseOf 60),
   .claimNext "worker-b" (sampleTime 3) (leaseOf 60),
   .renew sampleJobId "worker-a" (sampleTime 40) (leaseOf 60),
   .claimNext "worker-b" (sampleTime 120) (leaseOf 60),
   .complete sampleJobId "worker-a" (sampleTime 130),
   .renew sampleJobId "worker-b" (sampleTime 140) (leaseOf 60)]

/-- What its callers are told. -/
def sampleEvents : List QueueEvent := performed .migrated sampleLeases

theorem lease_exclusive_sample :
    sampleEvents.filterMap QueueEvent.report =
        [.claimed "worker-a" ⟨⟨7⟩, ⟨⟨1⟩, "source-validation-v1", none⟩, 1, sampleTime 62, sampleTime 1⟩,
         .renewed "worker-a" ⟨7⟩ (sampleTime 100),
         .claimed "worker-b" ⟨⟨7⟩, ⟨⟨1⟩, "source-validation-v1", none⟩, 2, sampleTime 180, sampleTime 1⟩,
         .renewed "worker-b" ⟨7⟩ (sampleTime 200)] ∧
      (∀ instant, sampleTime 140 ≤ instant → ∀ first second, Holds sampleEvents first ⟨7⟩ instant →
        Holds sampleEvents second ⟨7⟩ instant → first = second) ∧
      ∀ job ∈ (afterAll .migrated sampleLeases).jobs,
        (claimsOf sampleEvents job.id : Int) = min job.attempts u32Max := by
  have run : LeaseRun (sampleTime 0) sampleEvents ⟨afterAll .migrated sampleLeases,
      clockAfter (sampleTime 0) sampleEvents⟩ := performed_leaseRun (by decide +kernel)
  obtain ⟨exclusive, -, counted⟩ := lease_exclusive run
  have ends : clockAfter (sampleTime 0) sampleEvents = sampleTime 140 := by decide +kernel
  refine ⟨by decide +kernel, fun instant later => ?_, counted⟩
  rw [← ends] at later
  exact exclusive instant later ⟨7⟩

/-! ## Claims past `u32::MAX` -/

/-- One second after another. -/
def overrunClock (n : Nat) : OffsetDateTime where
  unixNanos := (1700000001 + min (n : Int) 8589934592) * 1000000000
  lower := by
    simp only [minUnixTimestamp]
    omega
  upper := by
    simp only [maxUnixTimestamp]
    omega

/-- The answer to the `n`-th claim of the sample job, at second `n` for one second. -/
def overrunAnswer (n : Nat) : Except JobQueueError (Option LeasedProcessingJob) :=
  if n < 2 ^ 32 then
    .ok (some ⟨sampleJobId, ⟨sampleUploadId, "source-validation-v1", none⟩, n,
      overrunClock (n + 1), overrunClock 0⟩)
  else .error (.text "stored attempt count is invalid")

/-- The sample job is claimed `n` times, each time when its lease has expired. -/
def overrun : Nat → List QueueEvent
  | 0 => sampleSetup
  | n + 1 => overrun n ++
      [.claimNext "worker-a" (overrunClock (n + 1)) (leaseOf 1) (overrunAnswer (n + 1))]

theorem overrunClock_nanos (n : Nat) :
    (overrunClock n).unixNanos = (1700000001 + min (n : Int) 8589934592) * 1000000000 := rfl

theorem overrunClock_unix {n : Nat} (small : n ≤ 8589934592) :
    (overrunClock n).unixTimestamp = 1700000001 + n := by
  rw [OffsetDateTime.unixTimestamp, overrunClock_nanos]
  omega

theorem overrunClock_parsed {n : Nat} (small : n ≤ 8589934592) :
    OffsetDateTime.fromUnixTimestamp (1700000001 + n) = some (overrunClock n) := by
  rw [OffsetDateTime.fromUnixTimestamp,
    dif_pos ⟨by rw [minUnixTimestamp]; omega, by rw [maxUnixTimestamp]; omega⟩, Option.some.injEq]
  ext
  rw [overrunClock_nanos]
  change (1700000001 + (n : Int)) * 1000000000 = _
  omega

/-- The store between two claims: the sample job alone, due again at the next second. -/
structure Overran (n : Nat) (store : SqliteStore) : Prop where
  integrity : store.Integrity
  tenant : (store.uploads.filter fun upload => upload.id == ⟨1⟩).map (fun upload : UploadRow =>
    upload.tenantId) = ["g5"]
  job : ∃ job, store.jobs = [job] ∧
    job.toJobIdentity = ⟨⟨7⟩, ⟨1⟩, "source-validation-v1", none, 1700000001⟩ ∧
    job.attempts = n ∧ claimable (1700000002 + n) job = true ∧
    ∀ counter, tallyJob job counter ≤ store.operationalCounters counter
  sequence : store.nextClaimSequence = n + 1

theorem overran_confirmed : Overran 0 confirmedSample where
  integrity := (LeaseRun.agrees (sampleSetup_leaseRun (sampleTime 0))).integrity
  tenant := by decide
  job := ⟨_, rfl, rfl, rfl, rfl, by intro counter; cases counter <;> decide⟩
  sequence := rfl

/-- The row of the sample job after its `n + 1`-st claim decodes as long as the count fits. -/
theorem overrun_decoded {n : Nat} (small : n < 4294967296) {job : JobRow}
    (identity : job.toJobIdentity = ⟨⟨7⟩, ⟨1⟩, "source-validation-v1", none, 1700000001⟩)
    (attempts : job.attempts = n) :
    (leasedFromRow (job.assign
      (claimColumns "worker-a" (1700000002 + n) (1700000003 + n)))).map some =
        overrunAnswer (n + 1) := by
  obtain ⟨identityRow, progress⟩ := job
  cases identity
  change progress.attempts = n at attempts
  have expiry : OffsetDateTime.fromUnixTimestamp (1700000003 + n) =
      some (overrunClock (n + 1 + 1)) := by
    rw [← overrunClock_parsed (by omega)]
    congr 1
    push_cast
    omega
  have created : OffsetDateTime.fromUnixTimestamp 1700000001 = some (overrunClock 0) :=
    overrunClock_parsed (n := 0) (by omega)
  by_cases fits : n + 1 < 2 ^ 32
  · have counted : u32TryFrom (progress.attempts + 1) = some (n + 1) := by
      rw [u32TryFrom_eq_some, attempts]
      omega
    rw [overrunAnswer, if_pos fits]
    simp only [leasedFromRow, claimColumns, JobRow.assign, counted, Option.bind_some, expiry,
      created]
    rfl
  · have overflows : u32TryFrom (progress.attempts + 1) = none := by
      rw [u32TryFrom, if_neg]
      rw [attempts]
      omega
    rw [overrunAnswer, if_neg fits]
    simp only [leasedFromRow, claimColumns, JobRow.assign, overflows]
    rfl

/-- **A due job is claimed**, and the store is as before with one claim more. -/
theorem Overran.claim {n : Nat} {store : SqliteStore} (overran : Overran n store)
    (small : n < 4294967296) :
    ∃ store', claimNext "worker-a" (overrunClock (n + 1)) (leaseOf 1) store =
      (overrunAnswer (n + 1), store') ∧ Overran (n + 1) store' := by
  obtain ⟨job, jobs, identity, attempts, due, counted⟩ := overran.job
  have clock : (overrunClock (n + 1)).unixTimestamp = 1700000002 + n := by
    rw [overrunClock_unix (by omega)]
    push_cast
    omega
  have expires : leaseExpiration (overrunClock (n + 1)) (leaseOf 1) = .ok (1700000003 + n) := by
    have second : (leaseOf 1).asSecs = 1 := rfl
    have converted : i64TryFrom 1 = some 1 := rfl
    have added : i64CheckedAdd (1700000002 + n) 1 = some (1700000003 + (n : Int)) := by
      rw [i64CheckedAdd_eq_some, i64Min, i64Max]
      omega
    rw [leaseExpiration, second, clock]
    simp only [converted, added]
    rfl
  have candidates : store.claimCandidates (1700000002 + n) = [(job, "g5")] := by
    have upload : job.uploadId = ⟨1⟩ := congrArg JobIdentity.uploadId identity
    have paired := congrArg (List.map fun tenantId => (job, tenantId)) overran.tenant
    rw [List.map_map] at paired
    rw [SqliteStore.claimCandidates, jobs, List.filter_cons_of_pos due, List.filter_nil,
      List.flatMap_cons, List.flatMap_nil, List.append_nil, upload]
    exact paired
  have candidate : store.claimCandidate (1700000002 + n) = some (job, "g5") := by
    rw [SqliteStore.claimCandidate, candidates, List.argmin_singleton]
  let claimed := job.assign (claimColumns "worker-a" (1700000002 + n) (1700000003 + n))
  let counters := store.operationalCounters + (tallyJob claimed - tallyJob job)
  have enough : ∀ counter, tallyJob claimed counter ≤ counters counter := by
    intro counter
    have bound := counted counter
    simp only [counters, Pi.add_apply, Pi.sub_apply]
    omega
  let leased : SqliteStore := { store with jobs := [claimed], operationalCounters := counters }
  have updated : SqliteStore.updateJobs (fun row => row.id == job.id)
      (claimColumns "worker-a" (1700000002 + n) (1700000003 + n)) store = .ok (1, leased) := by
    have checked : jobChecks claimed = true := by
      change decide (0 ≤ job.attempts + 1) = true
      rw [attempts, decide_eq_true_eq]
      omega
    have tallied : adjust store.operationalCounters (tallyJob claimed - tallyJob job) =
        .ok counters := adjust_ok fun counter =>
      le_trans (tallyJob_nonneg claimed counter) (enough counter)
    have reached : touched (fun row : JobRow => row.id == job.id)
        (JobRow.assign (claimColumns "worker-a" (1700000002 + n) (1700000003 + n))) store.jobs =
          [(job, claimed)] := by
      rw [jobs]
      simp [touched, claimed]
    have moved : updateWhere (fun row : JobRow => row.id == job.id)
        (JobRow.assign (claimColumns "worker-a" (1700000002 + n) (1700000003 + n))) store.jobs =
          [claimed] := by
      rw [jobs]
      simp [updateWhere, claimed]
    simp only [SqliteStore.updateJobs, reached, moved, List.all_cons, List.all_nil, checked,
      Bool.and_true, require, if_true, List.foldlM_cons, List.foldlM_nil, tallied]
    rfl
  have drew : leased.nextClaim =
      .ok ((n : Int) + 1, { leased with nextClaimSequence := n + 1 + 1 }) := by
    have sequence : leased.nextClaimSequence = n + 1 := overran.sequence
    rw [SqliteStore.nextClaim, sequence, if_pos (by rw [i64Max]; omega)]
  obtain ⟨store', entered⟩ : ∃ store', SqliteStore.upsertTenantQueue ⟨"g5", n + 1⟩
      { leased with nextClaimSequence := n + 1 + 1 } = .ok (1, store') := by
    have checked : tenantQueueChecks ⟨"g5", n + 1⟩ = true := by
      rw [tenantQueueChecks, Bool.and_eq_true, decide_eq_true_eq, decide_eq_true_eq]
      exact ⟨(by decide : 1 ≤ sqliteLength "g5" ∧ sqliteLength "g5" ≤ 64),
        (by omega : (0 : Int) < n + 1)⟩
    simp only [SqliteStore.upsertTenantQueue, checked, require, if_true]
    split
    · exact ⟨_, rfl⟩
    · exact ⟨_, rfl⟩
  have ran : claimTransaction "worker-a" (1700000002 + n) (1700000003 + n) store =
      .ok (some claimed, store') :=
    claimTransaction_of_statements candidate updated (by simp [leased, claimed]) drew entered
  refine ⟨store', ?_, ?_⟩
  · rw [claimNext_of_claimed (by decide) expires (by rw [clock]; exact ran)]
    rw [overrun_decoded small identity attempts]
  · obtain ⟨-, stored⟩ := SqliteStore.upsertTenantQueue_ok entered
    have integrity : store'.Integrity := by
      have whole := moves_claimNext "worker-a" (overrunClock (n + 1)) (leaseOf 1) store
      rw [claimNext_of_claimed (by decide) expires (by rw [clock]; exact ran)] at whole
      exact whole.integrity overran.integrity
    refine ⟨integrity, ?_, ⟨claimed, ?_, identity, ?_, ?_, ?_⟩, ?_⟩
    · rw [stored]
      exact overran.tenant
    · rw [stored]
    · change job.attempts + 1 = _
      rw [attempts]
      push_cast
      rfl
    · simp only [claimable, claimed, JobRow.assign, claimColumns, Option.any_some,
        beq_self_eq_true, Bool.true_and, Bool.or_eq_true, decide_eq_true_eq]
      omega
    · rw [stored]
      exact enough
    · rw [stored]
      push_cast
      rfl

theorem overrun_run (n : Nat) (small : n ≤ 4294967296) :
    ∃ store, LeaseRun (overrunClock 0) (overrun n) ⟨store, overrunClock n⟩ ∧ Overran n store := by
  induction n with
  | zero => exact ⟨confirmedSample, sampleSetup_leaseRun _, overran_confirmed⟩
  | succ n ih =>
      obtain ⟨store, run, overran⟩ := ih (by omega)
      obtain ⟨store', ran, overran'⟩ := overran.claim (by omega)
      refine ⟨store', run.append (Trace.single ?_), overran'⟩
      refine ⟨.claimNext (.ran ran), rfl, ?_, ?_, rfl⟩
      · rw [OffsetDateTime.le_def, overrunClock_nanos, overrunClock_nanos]
        omega
      · intro leaseFor asks
        obtain rfl : leaseOf 1 = leaseFor := Option.some.inj asks
        have second : (leaseOf 1).nanos = 1000000000 := rfl
        rw [second, maxUnixTimestamp, overrunClock_nanos]
        omega

/-- **Claims outrun their reports.**  The 4294967296th claim of a job is entered in its
row, but `claim_next` returns an error for it: the attempts exceed the successful claims. -/
theorem attempts_outrun_reports :
    ∃ store, LeaseRun (overrunClock 0) (overrun 4294967296) ⟨store, overrunClock 4294967296⟩ ∧
      ∃ job ∈ store.jobs, job.attempts = 4294967296 ∧
        claimsOf (overrun 4294967296) job.id = 4294967295 := by
  obtain ⟨store, run, overran⟩ := overrun_run 4294967296 (le_refl _)
  obtain ⟨job, jobs, -, attempts, -⟩ := overran.job
  have member : job ∈ store.jobs := by rw [jobs]; exact List.mem_singleton_self job
  refine ⟨store, run, job, member, by rw [attempts]; rfl, ?_⟩
  have counted := (LeaseRun.agrees run).counted job member
  rw [toldBy_claims, attempts, u32Max] at counted
  omega

end MediaBooster.Queue
