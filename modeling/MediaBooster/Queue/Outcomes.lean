/-
# Queue.Outcomes -- no confirmed upload is left behind

A worker writes the outcome of its work to the upload, and then tells the queue; between the
two it may die, or lose its lease to another worker.  Whatever happens, the job is closed only
after its upload was finished: a success is completed after the publication, a permanent
failure after the rejection, and the last transient failure is given back after the rejection.

* `no_upload_stranded`: in every run whose workers have distinct ids, every upload in process
  has a job that is queued or leased, and the upload of a closed job is finished.

The one comparison that needs the distinct ids is the last attempt: the worker compares the
ceiling with the attempts it was told at its claim, `fail` with those stored now.  They are
the same as long as the job is leased to that worker (`Settling.charged`).
-/
import MediaBooster.Queue.Run
import MediaBooster.Service.Knowledge
import MediaBooster.Service.Rehearsal

namespace MediaBooster.Queue

set_option autoImplicit false

open MediaBooster.Domain MediaBooster.Service MediaBooster.Service.Deployment
open MediaBooster.Storage MediaBooster.Store MediaBooster.Theory.Run MediaBooster.Theory.Threads

/-- A worker starts only where no worker of its id is running. -/
def distinctWorkers (d : Deployment) (s : SystemState) : SystemLabel → Prop
  | .started (.work _ workerId) =>
      ∀ i configuration, s.Running d.machine i → s.call i ≠ some (.work configuration workerId)
  | _ => True

/-- The steps of a deployment whose workers have distinct ids. -/
abbrev WorkersStep (d : Deployment) := Guarded d.machine.Step (distinctWorkers d)

/-- The stored attempts of a job leased to the worker are those of its claim. -/
def Charged (workerId : String) (leased : LeasedProcessingJob) (job : JobRow) : Prop :=
  job.state = .leased → job.leaseOwner = some workerId → job.attempts = leased.attempts

/-- Closed jobs have finished uploads, uploads in process have jobs, and a running worker is
the one that its claim was for. -/
structure Settling (d : Deployment) (s : SystemState) : Prop where
  informed : Informed d s
  closed : ∀ job ∈ s.shared.store.jobs, Closed job → KnownUpload d s job.uploadId IsFinished
  covered : HaveJobs s.shared.store
  distinct : ∀ i j configuration other workerId, s.Running d.machine i → s.Running d.machine j →
    s.call i = some (.work configuration workerId) → s.call j = some (.work other workerId) → i = j
  charged : ∀ i configuration workerId leased, s.Running d.machine i →
    s.call i = some (.work configuration workerId) → Holding (s.past i) leased →
      KnownJob d s leased.jobId (Charged workerId leased)

section Steps

variable {d : Deployment} {s t : SystemState} {label : SystemLabel}

theorem settling_initial (clock : OffsetDateTime) : Settling d (.initial (.fresh clock)) where
  informed := informed_initial clock
  closed := fun _ member => nomatch member
  covered := fun _ member => nomatch member
  distinct := fun _ _ _ _ _ _ _ called => by cases called
  charged := fun _ _ _ _ _ called => by cases called

/-- A worker that runs after a step was running before it, or has just started. -/
theorem running_cases {i : Nat} {configuration : WorkerConfiguration} {workerId : String}
    (step : d.machine.Step s label t) (running : t.Running d.machine i)
    (called : t.call i = some (.work configuration workerId)) :
    (s.Running d.machine i ∧ s.call i = some (.work configuration workerId)) ∨
      (label = .started (.work configuration workerId) ∧ i = s.threads.length ∧ t.past i = []) := by
  obtain before | ⟨call, started, last, nothing⟩ := step.running running
  · have known : ∃ call, s.call i = some call := by
      obtain ⟨thread, -, -, there, -⟩ := before
      exact ⟨thread.call, congrArg (Option.map Thread.call) there⟩
    obtain ⟨call, known⟩ := known
    rw [step.call known] at called
    cases called
    exact .inl ⟨before, known⟩
  · obtain old | ⟨same, -⟩ := step.call_cases called
    · rw [State.call, last, List.getElem?_eq_none (Nat.le_refl _)] at old
      cases old
    · refine .inr ⟨same, last, ?_⟩
      rw [step.past, nothing, started]
      rfl

/-- Two running workers of one id are one thread. -/
theorem Settling.distinct_step (settling : Settling d s) (step : WorkersStep d s label t)
    (i j : Nat) (configuration other : WorkerConfiguration) (workerId : String)
    (first : t.Running d.machine i) (second : t.Running d.machine j)
    (called : t.call i = some (.work configuration workerId))
    (called' : t.call j = some (.work other workerId)) : i = j := by
  obtain ⟨step, distinct⟩ := step
  obtain ⟨old, known⟩ | ⟨started, last, -⟩ := running_cases step first called
  · obtain ⟨old', known'⟩ | ⟨started, -, -⟩ := running_cases step second called'
    · exact settling.distinct i j configuration other workerId old old' known known'
    · rw [started] at distinct
      exact absurd known (distinct i configuration old)
  · obtain ⟨old', known'⟩ | ⟨-, last', -⟩ := running_cases step second called'
    · rw [started] at distinct
      exact absurd known' (distinct j other old')
    · rw [last, last']

/-- What a worker was given, the queue charged it for. -/
theorem charged_asked {i : Nat} {workerId name : String} {now : OffsetDateTime}
    {leaseFor : Duration} {leased : LeasedProcessingJob} (informed : Informed d s)
    (step : d.machine.Step s
      (.asked i ⟨.store (.claimNext name now leaseFor), .ok (some leased)⟩) t) :
    KnownJob d t leased.jobId (Charged workerId leased) := by
  obtain ⟨call, next, asked⟩ := step.asked_cases
  obtain ⟨store', replies, moved⟩ := asked.answered
  obtain ⟨leaseUntil, job, tenantId, claims, decoded⟩ :=
    claimNext_claims informed.recorded.integrity replies
  obtain ⟨named, -, -, attempts, -⟩ := leasedFromRow_ok decoded
  rw [named]
  refine .of_row (informed.recorded.step step) ?_ fun _ _ => attempts.symm
  rw [moved]
  exact claims.moved.moved_mem

/-- A worker that has a job claims no other. -/
theorem holding_claims_nothing {i : Nat} {configuration : WorkerConfiguration}
    {workerId name : String} {now : OffsetDateTime} {leaseFor : Duration}
    {answer : Answer (.store (.claimNext name now leaseFor))} {leased : LeasedProcessingJob}
    (called : s.call i = some (.work configuration workerId))
    (step : d.machine.Step s (.asked i ⟨.store (.claimNext name now leaseFor), answer⟩) t)
    (holding : Holding (s.past i) leased) : False := by
  obtain ⟨call, known, rule, -⟩ := obeys step
  rw [called] at known
  cases known
  obtain ⟨_, _, _, heard⟩ := holding
  cases rule _ heard

/-- The charge of a running worker stays known. -/
theorem Settling.charged_step (settling : Settling d s) (step : WorkersStep d s label t)
    {i : Nat} {configuration : WorkerConfiguration} {workerId : String}
    {leased : LeasedProcessingJob} (running : s.Running d.machine i)
    (called : s.call i = some (.work configuration workerId))
    (holding : Holding (s.past i) leased) :
    KnownJob d t leased.jobId (Charged workerId leased) := by
  have known := settling.charged i configuration workerId leased running called holding
  refine ⟨known.spent.step step.1, fun after member same leases owner => ?_⟩
  obtain old | ⟨before, there, op, ok, calls, move⟩ | enqueues :=
    settling.informed.recorded.job_cases step.1 member
  · exact known.holds after old same leases owner
  · have charged := known.holds before there (move.id.symm.trans same)
    cases move with
    | same => exact charged leases owner
    | @claimed name now leaseFor leaseUntil _ tenantId candidate =>
        -- another worker of this id would be this very thread, which has its job
        cases owner
        obtain request | ⟨j, answer, call, rfl, -, known', -, asks⟩ := called_by step.1 calls
        · cases request
        obtain ⟨other, rfl⟩ : ∃ other, call = .work other workerId := by
          cases call with
          | work other name' => exact ⟨other, by rw [show workerId = name' from asks.1]⟩
          | _ => exact asks.elim
        obtain ⟨_, _, asked⟩ := step.1.asked_cases
        obtain rfl := settling.distinct i j configuration other workerId running asked.running
          called known'
        exact (holding_claims_nothing called step.1 holding).elim
    | renewed =>
        exact charged leases owner
    | completed => cases leases
    | @failed jobId name now retryAt maxAttempts errorCode =>
        exact absurd leases (settles_fail _ _ _ _ _).1
  · rw [← same] at known
    exact absurd known.spent enqueues.fresh

/-- **What closes a job has finished its upload.** -/
theorem Settling.closed_step (settling : Settling d s) (step : WorkersStep d s label t)
    {after : JobRow} (member : after ∈ t.shared.store.jobs) (closed : Closed after) :
    KnownUpload d t after.uploadId IsFinished := by
  obtain ⟨step, -⟩ := step
  have recorded := settling.informed.recorded
  suffices before : KnownUpload d s after.uploadId IsFinished from
    before.step recorded step isFinished_stable
  obtain old | ⟨before, there, op, ok, calls, move⟩ | enqueues := recorded.job_cases step member
  · exact settling.closed after old closed
  · have working : ∀ {op : Op} {ok : Bool}, Calls label op ok → Op.isRequest op = false →
        ∃ i call, s.Running d.machine i ∧ s.call i = some call ∧
          d.Rule call (s.past i) (.store op) ∧ d.Asks call (.store op) := by
      intro op ok calls request
      obtain isRequest | ⟨i, answer, call, rfl, -, known, rule, asks⟩ := called_by step calls
      · rw [request] at isRequest
        cases isRequest
      · obtain ⟨_, _, asked⟩ := step.asked_cases
        exact ⟨i, call, asked.running, known, rule, asks⟩
    cases move with
    | same => exact settling.closed _ there closed
    | claimed => obtain closed | closed := closed <;> cases closed
    | renewed leased =>
        obtain ⟨-, state, -⟩ := leasedBy_iff.1 leased
        obtain closed | closed := closed <;> cases state.symm.trans closed
    | @completed jobId name now _ leased =>
        obtain ⟨i, call, -, known, rule, asks⟩ := working calls rfl
        cases call with
        | work configuration workerId =>
            obtain ⟨given, holding, rfl, -, concluded⟩ := rule
            have upload := ((settling.informed.holding holding).1.holds before there
              (leasedBy_iff.1 leased).1).upload
            show KnownUpload d s before.uploadId IsFinished
            rw [upload]
            exact settling.informed.concluded concluded
        | _ => exact asks.elim
    | @failed jobId name now retryAt maxAttempts errorCode _ leased =>
        obtain ⟨i, call, running, known, rule, asks⟩ := working calls rfl
        obtain ⟨named, state, owner⟩ := leasedBy_iff.1 leased
        cases call with
        | work configuration workerId =>
            obtain ⟨given, holding, rfl, ⟨-, other⟩ | ⟨rfl, -, refused⟩⟩ := rule
            · exact absurd (settling.informed.holding holding).2.2 other
            have upload := ((settling.informed.holding holding).1.holds before there named).upload
            obtain rfl : name = workerId := asks.1
            have charged := (settling.charged i configuration name given running known
              holding).holds before there named state owner
            have last : configuration.policy.maxAttempts ≤ given.attempts := by
              by_contra more
              have queued : (failColumns now.unixTimestamp retryAt.unixTimestamp
                  configuration.policy.maxAttempts errorCode before.toJobProgress).state =
                    .queued := by
                rw [failColumns]
                dsimp only
                rw [if_neg]
                omega
              obtain closed | closed := closed <;> cases queued.symm.trans closed
            show KnownUpload d s before.uploadId IsFinished
            rw [upload]
            exact settling.informed.concluded (.inr (.inr (refused last)))
        | _ => exact asks.elim
  · have queued := enqueues.queued
    obtain closed | closed := closed <;> cases queued.symm.trans closed

/-- **One step keeps jobs and uploads together.** -/
theorem Settling.step (settling : Settling d s) (step : WorkersStep d s label t) :
    Settling d t where
  informed := settling.informed.step step.1
  closed := fun _ member closed => settling.closed_step step member closed
  covered := by
    obtain same | ⟨op, ok, -, answers⟩ := store_cases step.1
    · rw [same]
      exact settling.covered
    · exact answers.haveJobs settling.informed.recorded.integrity settling.covered
  distinct := settling.distinct_step step
  charged := by
    intro i configuration workerId leased running called holding
    obtain ⟨old, known⟩ | ⟨-, -, nothing⟩ := running_cases step.1 running called
    · obtain ⟨name, now, leaseFor, heard⟩ := holding
      obtain before | rfl := step.1.heard_cases heard
      · exact settling.charged_step step old known ⟨name, now, leaseFor, before⟩
      · exact charged_asked settling.informed step.1
    · obtain ⟨_, _, _, heard⟩ := holding
      rw [nothing] at heard
      cases heard

theorem run_settling {labels : List SystemLabel}
    (run : d.RunsGuarded (distinctWorkers d) labels s) : Settling d s := by
  obtain ⟨clock, run⟩ := run
  exact run.keeps (fun _ _ _ step settling => settling.step step) (settling_initial clock)

/-- **No upload is stranded**, in every run whose workers have distinct ids: an upload in
process has a job that is queued or leased, and the upload of a job that is completed or a
dead letter is ready, rejected or deleted. -/
theorem no_upload_stranded {labels : List SystemLabel}
    (run : d.RunsGuarded (distinctWorkers d) labels s) :
    (∀ row ∈ s.shared.store.uploads, row.state = .quarantined ∨ row.state = .processing →
      ∃ job ∈ s.shared.store.jobs, job.uploadId = row.id ∧
        job.presetId = sourceValidationPreset ∧ (job.state = .queued ∨ job.state = .leased)) ∧
      ∀ job ∈ s.shared.store.jobs, job.presetId = sourceValidationPreset →
        job.state = .completed ∨ job.state = .deadLetter →
          ∃ row ∈ s.shared.store.uploads, row.id = job.uploadId ∧
            (row.state = .ready ∨ row.state = .rejected ∨ row.state = .deleted) := by
  have settling := run_settling run
  have integrity := settling.informed.recorded.integrity
  refine ⟨fun row member working => ?_, fun job member _ closed => ?_⟩
  · obtain ⟨job, queued, owner⟩ := settling.covered row member working
    refine ⟨job, queued, owner, settling.informed.presets job queued, ?_⟩
    have opened : ¬ Closed job := fun closed => by
      have finished := (settling.closed job queued closed).holds row member owner.symm
      unfold IsFinished at finished
      obtain state | state := working <;> rw [state] at finished <;> cases finished
    cases state : job.state with
    | queued => exact .inl rfl
    | leased => exact .inr rfl
    | completed => exact absurd (.inl state) opened
    | deadLetter => exact absurd (.inr state) opened
  · obtain ⟨row, there, owner⟩ := integrity.jobUploads job member
    have finished := (settling.closed job member closed).holds row there owner
    refine ⟨row, there, owner, ?_⟩
    unfold IsFinished at finished
    cases state : row.state <;> rw [state] at finished <;>
      simp [UploadState.finished] at finished ⊢

end Steps

/-! ## Samples -/

/-- A worker starts under an id no thread has had. -/
def freshWorkers (s : SystemState) : SystemLabel → Bool
  | .started (.work _ workerId) => s.threads.all fun thread =>
      match thread.call with
      | .work _ other => other != workerId
      | _ => true
  | _ => true

theorem freshWorkers_distinct {d : Deployment} {s : SystemState} {label : SystemLabel}
    (fresh : freshWorkers s label = true) : distinctWorkers d s label := by
  unfold distinctWorkers
  split
  · rename_i workerId
    rintro i configuration ⟨thread, -, -, there, -⟩ called
    have other := List.all_eq_true.1 fresh thread (List.mem_of_getElem? there)
    rw [State.call, there, Option.map_some, Option.some.injEq] at called
    rw [called] at other
    simp at other
  · trivial

/-- The sample upload is processed after one worker died with its job. -/
theorem no_upload_stranded_sample : ∃ s : SystemState,
    s.shared.store.jobs.map (fun job => job.state) = [.completed] ∧
      ∀ job ∈ s.shared.store.jobs, job.presetId = sourceValidationPreset →
        job.state = .completed ∨ job.state = .deadLetter →
          ∃ row ∈ s.shared.store.uploads, row.id = job.uploadId ∧
            (row.state = .ready ∨ row.state = .rejected ∨ row.state = .deleted) := by
  have played : ((sampleDeployment.rehearsal (100 * 1000000000)).play freshWorkers
      (.fresh (sampleTime 0)) (reserveImage ++ confirmImage ++
        [.start (.work sampleWorker "a"), .run 2 2, .crash 2, .start (.work sampleWorker "b"),
          .run 3 49])).any
      (fun s => s.shared.store.jobs.map (fun job => job.state) == [.completed]) = true := by
    decide +kernel
  obtain ⟨labels, s, ⟨clock, run⟩, completed⟩ := Deployment.rehearsed played
  have run : sampleDeployment.RunsGuarded (distinctWorkers sampleDeployment) labels s :=
    ⟨clock, run.mono fun _ _ _ step => ⟨step.1, freshWorkers_distinct step.2⟩⟩
  exact ⟨s, beq_iff_eq.1 completed, (no_upload_stranded run).2⟩

end MediaBooster.Queue
