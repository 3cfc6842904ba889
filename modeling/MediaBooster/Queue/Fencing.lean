/-
# Queue.Fencing -- what keeps overlapping attempts apart

Leases are on the job, outcomes on the upload.  `renew`, `complete` and `fail` are fenced by
the lease: they name its owner, and `renew` the time as well.  `start_processing`,
`publish_derivatives` and `mark_rejected` name the upload only.  What keeps them apart is the
state of the upload, which each of them compares and sets.

* `outcomes_compare_and_set`: in every run, an upload enters a state of processing, and a
  derivative is recorded, only by a worker that was given the job of that upload, and only
  from the state its call asks for; and a job is moved only by a claim that finds it
  claimable, or by a worker that was given it and whose id holds its lease.
* `stale_attempt_publishes`: the lease of such a worker may have expired and the job been
  claimed by another one.
-/
import MediaBooster.Queue.Run
import MediaBooster.Service.Knowledge
import MediaBooster.Service.Rehearsal

namespace MediaBooster.Queue

set_option autoImplicit false

open MediaBooster.Domain MediaBooster.Service MediaBooster.Service.Deployment
open MediaBooster.Storage MediaBooster.Store MediaBooster.Theory.Run MediaBooster.Theory.Threads

/-- The step is the store call `op` of a worker that was given the job `leased`. -/
structure AttemptOf (s : SystemState) (label : SystemLabel) (op : Op) (workerId : String)
    (leased : LeasedProcessingJob) : Prop where
  asked : ∃ i answer configuration, label = .asked i ⟨.store op, answer⟩ ∧
    s.call i = some (.work configuration workerId) ∧ Holding (s.past i) leased

/-- The state an upload is taken from, and the state it is put in, by a call of an attempt. -/
inductive OutcomeMove : Op → UploadState → UploadState → Prop
  | started {uploadId : UploadId} {contentType sha256 : String} {now : OffsetDateTime} :
      OutcomeMove (.startProcessing uploadId contentType sha256 now) .quarantined .processing
  | published {uploadId : UploadId} {derivatives : List PublishedDerivative}
      {now : OffsetDateTime} : OutcomeMove (.publishDerivatives uploadId derivatives now) .processing .ready
  | rejected {uploadId : UploadId} {errorCode : String} {now : OffsetDateTime}
      {state : UploadState} (working : state = .quarantined ∨ state = .processing) :
      OutcomeMove (.markRejected uploadId errorCode now) state .rejected

/-- The call that may move a job its worker leases. -/
inductive LeaseMove : Op → String → JobRow → Prop
  | renewed {jobId : JobId} {workerId : String} {now : OffsetDateTime} {leaseFor : Duration}
      {job : JobRow} (unexpired : ∃ leaseUntil, job.leaseUntil = some leaseUntil ∧
        now.unixTimestamp < leaseUntil) : LeaseMove (.renew jobId workerId now leaseFor) workerId job
  | completed {jobId : JobId} {workerId : String} {now : OffsetDateTime} {job : JobRow} :
      LeaseMove (.complete jobId workerId now) workerId job
  | failed {jobId : JobId} {workerId : String} {now retryAt : OffsetDateTime} {maxAttempts : Nat}
      {errorCode : String} {job : JobRow} :
      LeaseMove (.fail jobId workerId now retryAt maxAttempts errorCode) workerId job

section Steps

variable {d : Deployment} {s t : SystemState} {label : SystemLabel} {op : Op} {ok : Bool}

/-- A call only workers make is made by a worker, as its rule allows. -/
theorem worker_of_calls (step : d.machine.Step s label t) (calls : Calls label op ok)
    (request : Op.isRequest op = false)
    (worker : ∀ call, d.Asks call (.store op) →
      ∃ configuration workerId, call = .work configuration workerId) :
    ∃ i answer configuration workerId, label = .asked i ⟨.store op, answer⟩ ∧
      s.call i = some (.work configuration workerId) ∧
      (d.worker configuration).RunRule (s.past i) (.store op) ∧
      (d.worker configuration).Asks workerId (.store op) := by
  obtain isRequest | ⟨i, answer, call, rfl, -, known, rule, asks⟩ := called_by step calls
  · rw [request] at isRequest
    cases isRequest
  · obtain ⟨configuration, workerId, rfl⟩ := worker call asks
    exact ⟨i, answer, configuration, workerId, rfl, known, rule, asks⟩

/-- **Uploads enter the states of processing by compare-and-set.** -/
theorem upload_outcome (informed : Informed d s) (step : d.machine.Step s label t)
    {before after : UploadRow} (there : before ∈ s.shared.store.uploads)
    (member : after ∈ t.shared.store.uploads) (same : after.id = before.id)
    (changed : after.state ≠ before.state)
    (enters : after.state = .processing ∨ after.state = .ready ∨ after.state = .rejected) :
    ∃ op workerId leased, AttemptOf s label op workerId leased ∧
      leased.job.uploadId = before.id ∧ OutcomeMove op before.state after.state := by
  have keyed := informed.recorded.integrity.uploadIds
  obtain old | ⟨row, there', op, ok, calls, move⟩ | reserves :=
    informed.recorded.upload_cases step member
  · rw [keyed.eq_of_key old there same] at changed
    exact absurd rfl changed
  · obtain rfl := keyed.eq_of_key there' there (move.evolves.id.symm.trans same)
    cases move with
    | same | requested | leased | retried => exact absurd rfl changed
    | confirmed | aborted | tombstoned =>
        obtain enters | enters | enters := enters <;> cases enters
    | @started uploadId contentType sha256 now _ startable =>
        obtain ⟨named, quarantined⟩ := startable_iff.1 startable
        obtain ⟨i, answer, configuration, workerId, rfl, known, ⟨leased, source, sourced, target⟩, -⟩ :=
          worker_of_calls step calls rfl fun call asks => by
            cases call <;> first | exact ⟨_, _, rfl⟩ | exact asks.elim
        refine ⟨_, workerId, leased, ⟨i, answer, configuration, rfl, known, sourced.holding⟩, ?_, ?_⟩
        · exact (informed.sourced sourced).1.symm.trans (target.trans named.symm)
        · rw [quarantined]
          exact .started
    | @published uploadId derivatives now _ named processing =>
        obtain ⟨i, answer, configuration, workerId, rfl, known, ⟨leased, source, sourced, target, -⟩, -⟩ :=
          worker_of_calls step calls rfl fun call asks => by
            cases call <;> first | exact ⟨_, _, rfl⟩ | exact asks.elim
        refine ⟨_, workerId, leased, ⟨i, answer, configuration, rfl, known, sourced.holding⟩, ?_, ?_⟩
        · exact (informed.sourced sourced).1.symm.trans (target.trans named.symm)
        · rw [processing]
          exact .published
    | @rejected uploadId errorCode now _ rejectable =>
        obtain ⟨named, working⟩ := rejectable_iff.1 rejectable
        obtain ⟨i, answer, configuration, workerId, rfl, known, ⟨leased, holding, target⟩, -⟩ :=
          worker_of_calls step calls rfl fun call asks => by
            cases call <;> first | exact ⟨_, _, rfl⟩ | exact asks.elim
        exact ⟨_, workerId, leased, ⟨i, answer, configuration, rfl, known, holding⟩, target.trans named.symm,
          .rejected working⟩
  · refine absurd ?_ reserves.fresh
    rw [same]
    exact informed.recorded.uploads before there

/-- **Derivatives are recorded by attempts only.** -/
theorem derivative_outcome (informed : Informed d s) (step : d.machine.Step s label t)
    {row : DerivativeRow} (member : row ∈ t.shared.store.derivatives)
    (fresh : row ∉ s.shared.store.derivatives) :
    ∃ derivatives now workerId leased,
      AttemptOf s label (.publishDerivatives row.uploadId derivatives now) workerId leased ∧
      leased.job.uploadId = row.uploadId ∧ ∃ upload ∈ s.shared.store.uploads,
        upload.id = row.uploadId ∧ (upload.state = .processing ∨ upload.state = .ready) := by
  obtain same | ⟨op, ok, calls, answers⟩ := store_cases step
  · rw [same] at member
    exact absurd member fresh
  obtain old | publishes := answers.derivatives_from informed.recorded.integrity row member
  · exact absurd old fresh
  cases publishes with
  | @published uploadId derivatives now upload derivative byteLen there named working listed =>
      obtain ⟨i, answer, configuration, workerId, rfl, known, ⟨leased, source, sourced, target, -⟩, -⟩ :=
        worker_of_calls step calls rfl fun call asks => by
          cases call <;> first | exact ⟨_, _, rfl⟩ | exact asks.elim
      exact ⟨derivatives, now, workerId, leased, ⟨i, answer, configuration, rfl, known, sourced.holding⟩,
        (informed.sourced sourced).1.symm.trans target, upload, there, named, working⟩

/-- **Jobs are fenced by their leases.** -/
theorem job_fenced (informed : Informed d s) (step : d.machine.Step s label t)
    {before after : JobRow} (there : before ∈ s.shared.store.jobs)
    (member : after ∈ t.shared.store.jobs) (same : after.id = before.id) (changed : after ≠ before) :
    (∃ i workerId now leaseFor answer,
        label = .asked i ⟨.store (.claimNext workerId now leaseFor), answer⟩ ∧
          claimable now.unixTimestamp before = true) ∨
      ∃ op workerId leased, AttemptOf s label op workerId leased ∧ leased.jobId = before.id ∧
        before.state = .leased ∧ before.leaseOwner = some workerId ∧
          LeaseMove op workerId before := by
  have keyed := informed.recorded.integrity.jobIds
  obtain old | ⟨row, there', op, ok, calls, move⟩ | enqueues :=
    informed.recorded.job_cases step member
  · exact absurd (keyed.eq_of_key old there same) changed
  · obtain rfl := keyed.eq_of_key there' there (move.id.symm.trans same)
    cases move with
    | same => exact absurd rfl changed
    | @claimed name now leaseFor leaseUntil _ tenantId candidate =>
        obtain ⟨i, answer, configuration, workerId, rfl, -⟩ := worker_of_calls step calls rfl fun call asks => by
          cases call <;> first | exact ⟨_, _, rfl⟩ | exact asks.elim
        exact .inl ⟨i, name, now, leaseFor, answer, rfl,
          (claimCandidates_mem.1 (claimCandidate_mem candidate)).2.1⟩
    | @renewed jobId name now leaseFor leaseUntil _ leases unexpired =>
        obtain ⟨named, state, owner⟩ := leasedBy_iff.1 leases
        obtain ⟨i, answer, configuration, workerId, rfl, known, ⟨leased, holding, target⟩, rfl, -⟩ :=
          worker_of_calls step calls rfl fun call asks => by
            cases call <;> first | exact ⟨_, _, rfl⟩ | exact asks.elim
        exact .inr ⟨_, name, leased, ⟨i, answer, configuration, rfl, known, holding⟩, target.trans named.symm,
          state, owner, .renewed unexpired⟩
    | @completed jobId name now _ leases =>
        obtain ⟨named, state, owner⟩ := leasedBy_iff.1 leases
        obtain ⟨i, answer, configuration, workerId, rfl, known, ⟨leased, holding, target, -⟩, asks⟩ :=
          worker_of_calls step calls rfl fun call asks => by
            cases call <;> first | exact ⟨_, _, rfl⟩ | exact asks.elim
        obtain rfl : name = workerId := asks
        exact .inr ⟨_, name, leased, ⟨i, answer, configuration, rfl, known, holding⟩, target.trans named.symm,
          state, owner, .completed⟩
    | @failed jobId name now retryAt maxAttempts errorCode _ leases =>
        obtain ⟨named, state, owner⟩ := leasedBy_iff.1 leases
        obtain ⟨i, answer, configuration, workerId, rfl, known, ⟨leased, holding, target, -⟩, rfl, -⟩ :=
          worker_of_calls step calls rfl fun call asks => by
            cases call <;> first | exact ⟨_, _, rfl⟩ | exact asks.elim
        exact .inr ⟨_, name, leased, ⟨i, answer, configuration, rfl, known, holding⟩, target.trans named.symm,
          state, owner, .failed⟩
  · refine absurd ?_ enqueues.fresh
    rw [same]
    exact informed.recorded.jobs before there

/-- **Outcomes are compare-and-set, and the queue is fenced by leases.**  In every step of
every run, an upload enters a state of processing, and a derivative is recorded, by a worker
that was given the job of that upload, from the state its call asks for; a job is moved by a
claim that finds it claimable, or by a worker that was given it and whose id holds its lease,
which has not expired when it is renewed. -/
theorem outcomes_compare_and_set {labels : List SystemLabel} (run : d.Runs labels s)
    (step : d.machine.Step s label t) :
    (∀ before ∈ s.shared.store.uploads, ∀ after ∈ t.shared.store.uploads, after.id = before.id →
      after.state ≠ before.state →
      after.state = .processing ∨ after.state = .ready ∨ after.state = .rejected →
        ∃ op workerId leased, AttemptOf s label op workerId leased ∧
          leased.job.uploadId = before.id ∧ OutcomeMove op before.state after.state) ∧
      (∀ row ∈ t.shared.store.derivatives, row ∉ s.shared.store.derivatives →
        ∃ derivatives now workerId leased,
          AttemptOf s label (.publishDerivatives row.uploadId derivatives now) workerId leased ∧
          leased.job.uploadId = row.uploadId ∧ ∃ upload ∈ s.shared.store.uploads,
            upload.id = row.uploadId ∧ (upload.state = .processing ∨ upload.state = .ready)) ∧
      ∀ before ∈ s.shared.store.jobs, ∀ after ∈ t.shared.store.jobs, after.id = before.id →
        after ≠ before →
        (∃ i workerId now leaseFor answer,
          label = .asked i ⟨.store (.claimNext workerId now leaseFor), answer⟩ ∧
            claimable now.unixTimestamp before = true) ∨
        ∃ op workerId leased, AttemptOf s label op workerId leased ∧ leased.jobId = before.id ∧
          before.state = .leased ∧ before.leaseOwner = some workerId ∧
            LeaseMove op workerId before := by
  have informed := run_informed run
  refine ⟨?_, ?_, ?_⟩
  · exact fun _ there _ member same changed enters =>
      upload_outcome informed step there member same changed enters
  · exact fun _ member fresh => derivative_outcome informed step member fresh
  · exact fun _ there _ member same changed => job_fenced informed step there member same changed

end Steps

/-! ## Samples -/

/-- Worker `a` comes to its publication; its lease expires, and worker `b` claims the job. -/
def overtakenSchedule : List (Command ServiceCall Event) :=
  reserveImage ++ confirmImage ++
    [.start (.work sampleWorker "a"), .run 2 45, .start (.work sampleWorker "b"), .run 3 2]

/-- The job is leased to the worker, whose lease has not expired. -/
def leasedNow (workerId : String) (s : SystemState) (job : JobRow) : Bool :=
  job.state == .leased && job.leaseOwner == some workerId &&
    job.leaseUntil.any fun leaseUntil => decide (s.shared.clock.unixTimestamp < leaseUntil)

/-- Between the states a request of thread 2, worker `a`, made the upload ready, while `b` held
the lease on its job. -/
def overtaken (s t : SystemState) : Bool :=
  (match s.call 2 with
    | some (.work _ name) => name == "a"
    | _ => false) &&
  decide ((s.past 2).length < (t.past 2).length) &&
  s.shared.store.jobs.any (leasedNow "b" s) &&
  s.shared.store.uploads.any fun before => before.state == .processing &&
    t.shared.store.uploads.any fun after => after.id == before.id && after.state == .ready

theorem overtaken_reached :
    ∃ labels, ∃ s : SystemState, ∃ label, ∃ t : SystemState, sampleDeployment.Runs labels s ∧
      sampleDeployment.machine.Step s label t ∧ overtaken s t = true := by
  have played : ((sampleDeployment.rehearsal (100 * 1000000000)).performAll (fun _ _ => true)
      overtakenSchedule ⟨.initial (.fresh (sampleTime 0)), []⟩).any (fun stage =>
        ((sampleDeployment.rehearsal (100 * 1000000000)).exchange (fun _ _ => true) 2 stage).any
          fun next => overtaken stage.state next.state) = true := by
    decide +kernel
  exact Deployment.rehearsed_step played

/-- The publication of the sample is one of a worker that was given its job. -/
theorem outcomes_compare_and_set_sample :
    ∃ s : SystemState, ∃ label, ∃ upload ∈ s.shared.store.uploads, ∃ op workerId leased,
      AttemptOf s label op workerId leased ∧ leased.job.uploadId = upload.id ∧
        OutcomeMove op .processing .ready := by
  obtain ⟨labels, s, label, t, run, step, holds⟩ := overtaken_reached
  simp only [overtaken, Bool.and_eq_true, List.any_eq_true, beq_iff_eq] at holds
  obtain ⟨-, before, there, processing, after, member, same, ready⟩ := holds
  obtain ⟨op, workerId, leased, attempt, upload, move⟩ :=
    (outcomes_compare_and_set run step).1 before there after member same
      (by rw [processing, ready]; decide) (.inr (.inl ready))
  rw [processing, ready] at move
  exact ⟨s, label, before, there, op, workerId, leased, attempt, upload, move⟩

/-- **A stale attempt publishes.**  The job is leased to `b`, and a request of `a` makes the
processing upload ready. -/
theorem stale_attempt_publishes :
    ∃ labels, ∃ s : SystemState, ∃ label, ∃ t : SystemState,
      sampleDeployment.Runs labels s ∧ sampleDeployment.machine.Step s label t ∧
      (∃ configuration, s.call 2 = some (.work configuration "a")) ∧ (s.past 2).length < (t.past 2).length ∧
      (∃ job ∈ s.shared.store.jobs, leasedNow "b" s job = true) ∧
      (∃ before ∈ s.shared.store.uploads, before.state = .processing ∧
        ∃ after ∈ t.shared.store.uploads, after.id = before.id ∧ after.state = .ready) := by
  obtain ⟨labels, s, label, t, run, step, holds⟩ := overtaken_reached
  simp only [overtaken, Bool.and_eq_true, decide_eq_true_eq, List.any_eq_true, beq_iff_eq] at holds
  obtain ⟨⟨⟨called, longer⟩, leased⟩, before, there, processing, after, member, same, ready⟩ := holds
  refine ⟨labels, s, label, t, run, step, ?_, longer, leased, before, there, processing, after,
    member, same, ready⟩
  split at called
  · rename_i configuration name known
    exact ⟨configuration, by rw [known, beq_iff_eq.1 called]⟩
  · cases called

end MediaBooster.Queue
