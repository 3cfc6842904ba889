/-
# Store.Jobs -- what an operation does to one job

`JobMove op` is what an operation does to one stored job, with the condition under which it
does it: a claim takes the first claimable job, and the owner of a lease renews, completes or
fails it.  `Answers.jobMoves` says that every job an operation leaves was there and moved so,
or is a new one.
-/
import MediaBooster.Store.Calls

namespace MediaBooster.Store

set_option autoImplicit false

open MediaBooster.Domain MediaBooster.Theory.Table MediaBooster.Theory.Transaction

/-- The job is completed or a dead letter. -/
def Closed (job : JobRow) : Prop := job.state = .completed ∨ job.state = .deadLetter

/-- One stored job moves as `op` moves it. -/
inductive JobMove (s : SqliteStore) : Op → JobRow → JobRow → Prop
  | same {op : Op} (job : JobRow) : JobMove s op job job
  | claimed {workerId : String} {now : OffsetDateTime} {leaseFor : Duration} {leaseUntil : Int}
      {job : JobRow} {tenantId : String}
      (candidate : s.claimCandidate now.unixTimestamp = some (job, tenantId)) :
      JobMove s (.claimNext workerId now leaseFor) job
        (job.assign (claimColumns workerId now.unixTimestamp leaseUntil))
  | renewed {jobId : JobId} {workerId : String} {now : OffsetDateTime} {leaseFor : Duration}
      {leaseUntil : Int} {job : JobRow} (leased : leasedBy jobId workerId job = true)
      (unexpired : ∃ stored, job.leaseUntil = some stored ∧ now.unixTimestamp < stored) :
      JobMove s (.renew jobId workerId now leaseFor) job
        (job.assign fun progress =>
          { progress with leaseUntil := some leaseUntil, updatedAt := now.unixTimestamp })
  | completed {jobId : JobId} {workerId : String} {now : OffsetDateTime} {job : JobRow}
      (leased : leasedBy jobId workerId job = true) :
      JobMove s (.complete jobId workerId now) job (job.assign (completeColumns now.unixTimestamp))
  | failed {jobId : JobId} {workerId : String} {now retryAt : OffsetDateTime} {maxAttempts : Nat}
      {errorCode : String} {job : JobRow} (leased : leasedBy jobId workerId job = true) :
      JobMove s (.fail jobId workerId now retryAt maxAttempts errorCode) job
        (job.assign (failColumns now.unixTimestamp retryAt.unixTimestamp maxAttempts errorCode))

section Moves

variable {s t : SqliteStore}

theorem JobMove.identity {op : Op} {before after : JobRow} (move : JobMove s op before after) :
    after.toJobIdentity = before.toJobIdentity := by
  cases move <;> rfl

theorem JobMove.id {op : Op} {before after : JobRow} (move : JobMove s op before after) :
    after.id = before.id := congrArg JobIdentity.id move.identity

/-- Attempts are only ever charged. -/
theorem JobMove.attempts_le {op : Op} {before after : JobRow} (move : JobMove s op before after) :
    before.attempts ≤ after.attempts := by
  cases move with
  | claimed =>
      show before.attempts ≤ before.attempts + 1
      omega
  | same | renewed | completed | failed => exact le_refl _

theorem JobMoved.jobMoves {op : Op} {job : JobRow} {set : JobProgress → JobProgress}
    (moved : JobMoved job set s t) (integrity : s.Integrity) (move : JobMove s op job (job.assign set)) :
    ∀ after ∈ t.jobs, ∃ before ∈ s.jobs, JobMove s op before after := by
  intro after member
  obtain rfl | ⟨old, -⟩ := moved.mem_cases integrity member
  · exact ⟨job, moved.member, move⟩
  · exact ⟨after, old, .same after⟩

theorem jobMoves_same {op : Op} (same : t = s) :
    ∀ after ∈ t.jobs, ∃ before ∈ s.jobs, JobMove s op before after := by
  rw [same]
  exact fun job member => ⟨job, member, .same job⟩

theorem Op.jobMoves {op : Op} (integrity : s.Integrity) (inserts : .insertJob ∉ op.kinds) :
    ∀ after ∈ (op.run s).2.jobs, ∃ before ∈ s.jobs, JobMove s op before after := by
  by_cases updates : Kind.updateJobs ∈ op.kinds
  · cases op <;> simp [Op.kinds] at updates
    case claimNext workerId now leaseFor =>
        obtain ⟨same, -⟩ | ⟨leaseUntil, job, tenantId, -, claims, -⟩ := claimNext_cases integrity
          (Eq.refl (Store.claimNext workerId now leaseFor s))
        · exact jobMoves_same same
        · exact claims.moved.jobMoves integrity (.claimed claims.candidate)
    case renew jobId workerId now leaseFor =>
        obtain ⟨same, -⟩ | ⟨leaseUntil, job, -, named, leased, owner, unexpired, moved, -⟩ :=
          renew_cases integrity (Eq.refl (Store.renew jobId workerId now leaseFor s))
        · exact jobMoves_same same
        · exact moved.jobMoves integrity (.renewed (leasedBy_iff.2 ⟨named, leased, owner⟩) unexpired)
    case complete jobId workerId now =>
        obtain ⟨same, -⟩ | ⟨-, job, leased, moved⟩ := complete_cases integrity
          (Eq.refl (Store.complete jobId workerId now s))
        · exact jobMoves_same same
        · exact moved.jobMoves integrity (.completed leased)
    case fail jobId workerId now retryAt maxAttempts errorCode =>
        obtain ⟨same, -⟩ | ⟨job, leased, moved, -⟩ := fail_cases integrity
          (Eq.refl (Store.fail jobId workerId now retryAt maxAttempts errorCode s))
        · exact jobMoves_same same
        · exact moved.jobMoves integrity (.failed leased)
  · refine (op.effect integrity).keeps
      (P := fun m => ∀ after ∈ m.jobs, ∃ before ∈ s.jobs, JobMove s op before after) ?_
      fun job member => ⟨job, member, .same job⟩
    intro m u wrote moves after member
    obtain ⟨same, -⟩ | ⟨kind, -⟩ | ⟨kind, -⟩ | ⟨-, hit, -, -, removed⟩ := wrote.jobs_cases
    · rw [same] at member
      exact moves after member
    · exact absurd kind inserts
    · exact absurd kind updates
    · rw [removed] at member
      exact moves after (mem_deleteWhere.1 member).1

/-- **Every job was there and moved as the operation moves it, or is a new one.** -/
theorem Answers.jobMoves {op : Op} {ok : Bool} (answers : Answers op s ok t)
    (integrity : s.Integrity) :
    ∀ after ∈ t.jobs, (∃ before ∈ s.jobs, JobMove s op before after) ∨
      (Enqueued s op after ∧ ∀ before ∈ s.jobs, before.id ≠ after.id) := by
  intro after member
  cases answers with
  | refused => exact .inl ⟨after, member, .same after⟩
  | ran =>
      by_cases inserts : Kind.insertJob ∈ op.kinds
      · have answers : Answers op s (op.run s).1 (op.run s).2 := .ran
        have added : JobsAdded s (op.run s).2 := by
          refine (op.effect integrity).jobs_added ?_ ?_ <;>
            cases op <;> simp [Op.kinds] at inserts ⊢
        obtain old | ⟨-, -, apart⟩ := added.fresh after member
        · exact .inl ⟨after, old, .same after⟩
        · obtain ⟨before, there, same⟩ | enqueued := answers.jobs_from integrity after member
          · exact absurd (congrArg JobIdentity.id same) (apart before there)
          · exact .inr ⟨enqueued, apart⟩
      · exact .inl (op.jobMoves integrity inserts after member)

/-- A claim that is answered with a job took it. -/
theorem claimNext_claims {workerId : String} {now : OffsetDateTime} {leaseFor : Duration}
    {leased : LeasedProcessingJob} (integrity : s.Integrity)
    (replies : Replies (claimNext workerId now leaseFor) s (.ok (some leased)) t) :
    ∃ leaseUntil job tenantId,
      Claims workerId now.unixTimestamp leaseUntil job tenantId s t ∧
        leasedFromRow (job.assign (claimColumns workerId now.unixTimestamp leaseUntil)) =
          .ok leased := by
  cases replies with
  | ran answer =>
      obtain ⟨-, none, -⟩ | ⟨leaseUntil, job, tenantId, -, claims, decoded⟩ :=
        claimNext_cases integrity answer
      · exact absurd rfl (none leased)
      · refine ⟨leaseUntil, job, tenantId, claims, ?_⟩
        cases read : leasedFromRow (job.assign (claimColumns workerId now.unixTimestamp leaseUntil))
          with
        | ok row =>
            rw [read] at decoded
            cases decoded
            rfl
        | error e =>
            rw [read] at decoded
            cases decoded

/-! ## Jobs of uploads in process -/

/-- Processing has work to do on the upload. -/
def InProcess (row : UploadRow) : Prop := row.state = .quarantined ∨ row.state = .processing

/-- Every upload in process has a job. -/
def HaveJobs (store : SqliteStore) : Prop :=
  ∀ row ∈ store.uploads, InProcess row → ∃ job ∈ store.jobs, job.uploadId = row.id

/-- A job goes with its upload only. -/
theorem Answers.jobs_kept {op : Op} {ok : Bool} (answers : Answers op s ok t)
    (integrity : s.Integrity) {job : JobRow} (member : job ∈ s.jobs) {upload : UploadRow}
    (there : upload ∈ t.uploads) (owner : upload.id = job.uploadId) :
    ∃ job' ∈ t.jobs, job'.uploadId = job.uploadId := by
  have effect := answers.effect integrity
  by_cases inserts : Kind.insertUpload ∈ op.kinds
  · have same : t.jobs = s.jobs := by
      refine effect.jobs_same ?_ ?_ ?_ <;> cases op <;> simp [Op.kinds] at inserts ⊢
    rw [same]
    exact ⟨job, member, rfl⟩
  have kept : t.Integrity ∧ ((∃ job' ∈ t.jobs, job'.uploadId = job.uploadId) ∨
      ∀ upload ∈ t.uploads, upload.id ≠ job.uploadId) := by
    refine effect.keeps (P := fun m => m.Integrity ∧
      ((∃ job' ∈ m.jobs, job'.uploadId = job.uploadId) ∨
        ∀ upload ∈ m.uploads, upload.id ≠ job.uploadId)) ?_ ⟨integrity, .inl ⟨job, member, rfl⟩⟩
    rintro m u wrote ⟨integrity, ⟨job', member', same⟩ | gone⟩
    · refine ⟨wrote.integrity integrity, ?_⟩
      obtain ⟨unchanged, -⟩ | ⟨-, row, -, -, -, added, -⟩ | ⟨-, hit, set, moved, -⟩ |
        ⟨-, hit, -, uploads, removed⟩ := wrote.jobs_cases
      · exact .inl ⟨job', by rw [unchanged]; exact member', same⟩
      · exact .inl ⟨job', by rw [added]; exact List.mem_append_left _ member', same⟩
      · rw [moved]
        refine .inl ⟨_, mem_updateWhere.2 ⟨job', member', rfl⟩, ?_⟩
        split <;> exact same
      · by_cases purged : ((m.uploads.filter hit).any fun row => row.id == job'.uploadId) = true
        · right
          obtain ⟨tombstone, listed, named⟩ := List.any_eq_true.1 purged
          obtain ⟨there, hits⟩ := List.mem_filter.1 listed
          intro upload spared owner
          rw [uploads] at spared
          obtain ⟨there', missed⟩ := mem_deleteWhere.1 spared
          have is := integrity.uploadIds.eq_of_key there there'
            ((beq_iff_eq.1 named).trans (same.trans owner.symm))
          rw [← is, hits] at missed
          cases missed
        · rw [removed]
          exact .inl ⟨job', mem_deleteWhere.2 ⟨member', by simpa using purged⟩, same⟩
    · refine ⟨wrote.integrity integrity, .inr fun upload there => ?_⟩
      obtain same | ⟨kind, -⟩ | ⟨-, evolves⟩ | ⟨-, hit, -, removed⟩ := wrote.uploads_cases
      · rw [same] at there
        exact gone upload there
      · exact absurd kind inserts
      · obtain ⟨row, there, evolved⟩ := forall₂_mem_right evolves there
        rw [evolved.id]
        exact gone row there
      · rw [removed] at there
        exact gone upload (mem_deleteWhere.1 there).1
  exact kept.2.resolve_right fun gone => gone upload there owner

/-- A confirmation leaves the upload with a job. -/
theorem markQuarantinedAndEnqueue_job {jobId : JobId} {tenantId : String} {uploadId : UploadId}
    {actualSizeBytes : Nat} {presetId : String} {now : OffsetDateTime}
    {result : Except UploadRepositoryError Unit} (integrity : s.Integrity)
    (ran : markQuarantinedAndEnqueue jobId tenantId uploadId actualSizeBytes presetId now s =
      (result, t)) : t = s ∨ ∃ job ∈ t.jobs, job.uploadId = uploadId := by
  obtain ⟨same, -⟩ | ⟨-, upload, owned, confirmed⟩ := markQuarantinedAndEnqueue_cases integrity ran
  · exact .inl same
  · obtain ⟨middle, moved, revision, inserted⟩ := confirmed.confirmed
    obtain ⟨-, -, -, counters, -, rfl⟩ := SqliteStore.insertJob_ok inserted
    refine .inr ⟨_, List.mem_append_right _ (List.mem_singleton_self _), ?_⟩
    simp only [ownedUpload, Bool.and_eq_true, beq_iff_eq] at owned
    exact owned.2

/-- States an upload enters by its confirmation only, and what it is covered by then: the job is
enqueued with it, and goes with its row. -/
theorem Answers.covers {P : UploadState → Prop} {op : Op} {ok : Bool} (created : ¬ P .created)
    (deleted : ¬ P .deleted) (rejected : ¬ P .rejected) (processing : P .processing → P .quarantined)
    (ready : P .ready → P .processing) (answers : Answers op s ok t) (integrity : s.Integrity)
    (covered : ∀ row ∈ s.uploads, P row.state → ∃ job ∈ s.jobs, job.uploadId = row.id) :
    ∀ row ∈ t.uploads, P row.state → ∃ job ∈ t.jobs, job.uploadId = row.id := by
  have kept : ∀ row ∈ t.uploads, ∀ before ∈ s.uploads, before.id = row.id → P before.state →
      ∃ job ∈ t.jobs, job.uploadId = row.id := by
    intro row member before there same working
    obtain ⟨job, queued, owner⟩ := covered before there working
    obtain ⟨job', queued', same'⟩ :=
      answers.jobs_kept integrity queued member (same.symm.trans owner.symm)
    exact ⟨job', queued', same'.trans (owner.trans same)⟩
  intro row member working
  obtain ⟨before, there, move⟩ | ⟨reservation, -⟩ := answers.rowMoves integrity row member
  · have same := move.evolves.id.symm
    cases move with
    | same | requested | leased | retried => exact kept _ member _ there same working
    | started startable =>
        refine kept _ member before there same ?_
        rw [(startable_iff.1 startable).2]
        exact processing working
    | published named state =>
        refine kept _ member before there same ?_
        rw [state]
        exact ready working
    | @confirmed jobId tenantId uploadId actualSizeBytes presetId now _ owned state =>
        have named : before.id = uploadId := by
          simp only [ownedUpload, Bool.and_eq_true, beq_iff_eq] at owned
          exact owned.2
        have moved : t ≠ s := by
          rintro rfl
          have is := integrity.uploadIds.eq_of_key there member rfl
          rw [is] at state
          cases state
        cases answers with
        | refused => exact absurd rfl moved
        | ran =>
            obtain same' | ⟨job, queued, owner⟩ := markQuarantinedAndEnqueue_job integrity
              (Eq.refl (Store.markQuarantinedAndEnqueue jobId tenantId uploadId actualSizeBytes
                presetId now s))
            · exact absurd same' moved
            · exact ⟨job, queued, owner.trans named.symm⟩
    | aborted | tombstoned => exact absurd working deleted
    | rejected => exact absurd working rejected
  · rw [reservation.1] at working
    exact absurd working created

/-- **Every operation leaves uploads in process with a job.** -/
theorem Answers.haveJobs {op : Op} {ok : Bool} (answers : Answers op s ok t)
    (integrity : s.Integrity) (covered : HaveJobs s) : HaveJobs t :=
  answers.covers (P := fun state => state = .quarantined ∨ state = .processing) (by simp) (by simp)
    (by simp) (fun _ => .inl rfl) (by simp) integrity covered

end Moves

end MediaBooster.Store
