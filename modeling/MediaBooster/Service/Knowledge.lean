/-
# Service.Knowledge -- what workers know of their jobs stays true

Rows are moved by other threads while a worker works.  What it was told of them is still
true when it acts on it, because identifiers are used once (`Recorded.fresh`), columns that
name an upload or a job are never written again, and a finished upload stays finished.

`KnownUpload` and `KnownJob` are facts about a row under its identifier, whether the row is
still there or not; they survive every step that keeps them row by row (`KnownUpload.step`,
`KnownJob.step`).  `Told` says what the answers of the worker's calls amount to, and
`run_informed` that every thread of every run was told the truth.
-/
import MediaBooster.Service.Rules
import MediaBooster.Store.Jobs

namespace MediaBooster.Service

set_option autoImplicit false

open MediaBooster.Domain MediaBooster.Storage MediaBooster.Store MediaBooster.Theory.Run
open MediaBooster.Theory.Table MediaBooster.Theory.Threads MediaBooster.Theory.Transaction

namespace Deployment

variable {d : Deployment} {s t : SystemState} {label : SystemLabel}

/-! ## Rows of a step -/

/-- An upload a step adds: a reservation under a new identifier. -/
structure Reserves (d : Deployment) (s : SystemState) (row : UploadRow) : Prop where
  fresh : ¬ d.tokens.Spent s row.id.uuid
  reservation : isReservation row

/-- **Every upload was there, was moved by a call, or is a new reservation.** -/
theorem Recorded.upload_cases (recorded : d.Recorded s) (step : d.machine.Step s label t)
    {after : UploadRow} (member : after ∈ t.shared.store.uploads) :
    after ∈ s.shared.store.uploads ∨
      (∃ before ∈ s.shared.store.uploads, ∃ op ok, Calls label op ok ∧
        RowMove s.shared.store op before after) ∨ Reserves d s after := by
  obtain same | ⟨op, ok, calls, answers⟩ := store_cases step
  · rw [same] at member
    exact .inl member
  obtain ⟨before, there, move⟩ | ⟨reservation, apart⟩ :=
    answers.rowMoves recorded.integrity after member
  · exact .inr (.inl ⟨before, there, op, ok, calls, move⟩)
  · refine .inr (.inr ⟨?_, reservation⟩)
    obtain ⟨before, there, same⟩ | ⟨batch, capacity, rfl, named⟩ :=
      answers.uploads_from recorded.integrity after member
    · exact absurd same (apart before there)
    · cases calls with
      | called request => cases request
      | asked =>
          obtain ⟨upload, listed, same⟩ := List.mem_map.1 named
          rw [← same]
          exact recorded.fresh step (List.mem_map.2 ⟨upload, listed, rfl⟩)

theorem Recorded.upload_evolves (recorded : d.Recorded s) (step : d.machine.Step s label t)
    {after : UploadRow} (member : after ∈ t.shared.store.uploads) :
    (∃ before ∈ s.shared.store.uploads, Evolves before after) ∨ Reserves d s after := by
  obtain old | ⟨before, there, op, ok, -, move⟩ | reserves := recorded.upload_cases step member
  · exact .inl ⟨after, old, .refl after⟩
  · exact .inl ⟨before, there, move.evolves⟩
  · exact .inr reserves

/-- **Every job was there, was moved by a call, or is new.** -/
theorem Recorded.job_cases (recorded : d.Recorded s) (step : d.machine.Step s label t)
    {after : JobRow} (member : after ∈ t.shared.store.jobs) :
    after ∈ s.shared.store.jobs ∨
      (∃ before ∈ s.shared.store.jobs, ∃ op ok, Calls label op ok ∧
        JobMove s.shared.store op before after) ∨ Enqueues d s after := by
  obtain same | ⟨op, ok, calls, answers⟩ := store_cases step
  · rw [same] at member
    exact .inl member
  · obtain ⟨before, there, move⟩ | ⟨enqueued, -⟩ := answers.jobMoves recorded.integrity after member
    · exact .inr (.inl ⟨before, there, op, ok, calls, move⟩)
    · exact .inr (.inr (recorded.enqueues step calls enqueued))

/-! ## Facts about a row -/

/-- The upload is or was recorded, and its row satisfies `P` as long as it is there. -/
structure KnownUpload (d : Deployment) (s : SystemState) (uploadId : UploadId)
    (P : UploadRow → Prop) : Prop where
  spent : d.tokens.Spent s uploadId.uuid
  holds : ∀ row ∈ s.shared.store.uploads, row.id = uploadId → P row

/-- The job is or was recorded, and its row satisfies `P` as long as it is there. -/
structure KnownJob (d : Deployment) (s : SystemState) (jobId : JobId) (P : JobRow → Prop) :
    Prop where
  spent : d.tokens.Spent s jobId.uuid
  holds : ∀ job ∈ s.shared.store.jobs, job.id = jobId → P job

section Known

variable {uploadId : UploadId} {jobId : JobId}

theorem KnownUpload.of_row {P : UploadRow → Prop} (recorded : d.Recorded s) {row : UploadRow}
    (member : row ∈ s.shared.store.uploads) (holds : P row) : KnownUpload d s row.id P where
  spent := recorded.uploads row member
  holds := fun other there same => by
    rw [recorded.integrity.uploadIds.eq_of_key there member same]
    exact holds

theorem KnownJob.of_row {P : JobRow → Prop} (recorded : d.Recorded s) {job : JobRow}
    (member : job ∈ s.shared.store.jobs) (holds : P job) : KnownJob d s job.id P where
  spent := recorded.jobs job member
  holds := fun other there same => by
    rw [recorded.integrity.jobIds.eq_of_key there member same]
    exact holds

theorem KnownUpload.mono {P Q : UploadRow → Prop} (known : KnownUpload d s uploadId P)
    (weaker : ∀ row, P row → Q row) : KnownUpload d s uploadId Q :=
  ⟨known.spent, fun row member same => weaker row (known.holds row member same)⟩

/-- **What every evolution of a row keeps stays known.** -/
theorem KnownUpload.step {P : UploadRow → Prop} (known : KnownUpload d s uploadId P)
    (recorded : d.Recorded s) (step : d.machine.Step s label t)
    (stable : ∀ before after, Evolves before after → P before → P after) :
    KnownUpload d t uploadId P where
  spent := known.spent.step step
  holds := fun after member same => by
    obtain ⟨before, there, evolves⟩ | reserves := recorded.upload_evolves step member
    · exact stable before after evolves (known.holds before there (evolves.id.symm.trans same))
    · rw [← same] at known
      exact absurd known.spent reserves.fresh

/-- **What every move of a job keeps stays known.** -/
theorem KnownJob.step {P : JobRow → Prop} (known : KnownJob d s jobId P)
    (recorded : d.Recorded s) (step : d.machine.Step s label t)
    (stable : ∀ op before after, JobMove s.shared.store op before after → P before → P after) :
    KnownJob d t jobId P where
  spent := known.spent.step step
  holds := fun after member same => by
    obtain old | ⟨before, there, op, ok, -, move⟩ | enqueues := recorded.job_cases step member
    · exact known.holds after old same
    · exact stable op before after move (known.holds before there (move.id.symm.trans same))
    · rw [← same] at known
      exact absurd known.spent enqueues.fresh

end Known

/-! ## What a worker is told -/

/-- The row of a job a worker was given. -/
structure IsLeased (leased : LeasedProcessingJob) (job : JobRow) : Prop where
  upload : job.uploadId = leased.job.uploadId
  preset : job.presetId = leased.job.presetId
  attempts : (leased.attempts : Int) ≤ job.attempts

/-- The row of a source a worker read. -/
structure IsSource (source : ProcessingSource) (row : UploadRow) : Prop where
  upload : row.id = source.uploadId
  tenant : row.tenantId = source.tenantId
  key : row.objectKey = source.objectKey
  finished : source.state.finished = true → row.state.finished = true

/-- The upload is finished. -/
def IsFinished (row : UploadRow) : Prop := row.state.finished = true

/-- What the answer to a worker's call says about the store. -/
def Told (d : Deployment) (s : SystemState) : Exchange Answer → Prop
  | ⟨.store (.claimNext ..), .ok (some leased)⟩ => KnownJob d s leased.jobId (IsLeased leased) ∧
      d.tokens.Spent s leased.job.uploadId.uuid ∧ leased.job.presetId = initialProcessingPreset
  | ⟨.store (.findProcessingSource uploadId), .ok (some source)⟩ => source.uploadId = uploadId ∧
      KnownUpload d s uploadId (IsSource source)
  | ⟨.store (.publishDerivatives uploadId ..), .ok ()⟩
  | ⟨.store (.markRejected uploadId ..), .ok ()⟩ => KnownUpload d s uploadId IsFinished
  | _ => True

/-- Jobs are of the initial preset, and workers were told the truth. -/
structure Informed (d : Deployment) (s : SystemState) : Prop where
  recorded : d.Recorded s
  presets : ∀ job ∈ s.shared.store.jobs, job.presetId = initialProcessingPreset
  told : ∀ i exchange, exchange ∈ s.past i → Told d s exchange

theorem informed_initial (clock : OffsetDateTime) : Informed d (.initial (.fresh clock)) where
  recorded := recorded_initial clock
  presets := fun _ member => nomatch member
  told := fun _ _ heard => by cases heard

section Steps

variable {exchange : Exchange Answer} {i : Nat}

theorem isLeased_stable {leased : LeasedProcessingJob} {store : SqliteStore} (op : Op)
    (before after : JobRow) (move : JobMove store op before after)
    (leases : IsLeased leased before) : IsLeased leased after where
  upload := (congrArg JobIdentity.uploadId move.identity).trans leases.upload
  preset := (congrArg JobIdentity.presetId move.identity).trans leases.preset
  attempts := le_trans leases.attempts move.attempts_le

theorem isSource_stable {source : ProcessingSource} (before after : UploadRow)
    (evolves : Evolves before after) (reads : IsSource source before) : IsSource source after where
  upload := evolves.id.trans reads.upload
  tenant := (congrArg UploadReserved.tenantId evolves.reserved).trans reads.tenant
  key := (congrArg UploadReserved.objectKey evolves.reserved).trans reads.key
  finished := fun done => evolves.chain.from_finished (reads.finished done)

theorem isFinished_stable (before after : UploadRow) (evolves : Evolves before after)
    (finished : IsFinished before) : IsFinished after := evolves.chain.from_finished finished

/-- What was told stays true. -/
theorem Told.step (told : Told d s exchange) (recorded : d.Recorded s)
    (step : d.machine.Step s label t) : Told d t exchange := by
  unfold Told at *
  split at told
  · exact ⟨told.1.step recorded step isLeased_stable, told.2.1.step step, told.2.2⟩
  · exact ⟨told.1, told.2.step recorded step isSource_stable⟩
  · exact told.step recorded step isFinished_stable
  · exact told.step recorded step isFinished_stable
  · trivial

/-- A publication that succeeded left the upload finished. -/
theorem publishDerivatives_finishes {uploadId : UploadId} {derivatives : List PublishedDerivative}
    {now : OffsetDateTime} {store store' : SqliteStore} (integrity : store.Integrity)
    (ran : publishDerivatives uploadId derivatives now store = (.ok (), store')) :
    ∃ row ∈ store'.uploads, row.id = uploadId ∧ IsFinished row := by
  obtain ⟨-, error, failed⟩ | ⟨-, upload, member, named, added, middle, published, outcome⟩ :=
    publishDerivatives_cases integrity ran
  · cases failed
  obtain ⟨-, moved⟩ | ⟨ready, rfl⟩ := outcome
  · exact ⟨_, moved.moved_mem, named, rfl⟩
  · refine ⟨upload, ?_, named, by simp [IsFinished, ready, UploadState.finished]⟩
    rw [published.uploads]
    exact member

/-- A rejection that succeeded left the upload finished. -/
theorem markRejected_finishes {uploadId : UploadId} {errorCode : String} {now : OffsetDateTime}
    {store store' : SqliteStore} (integrity : store.Integrity)
    (ran : markRejected uploadId errorCode now store = (.ok (), store')) :
    ∃ row ∈ store'.uploads, row.id = uploadId ∧ IsFinished row := by
  obtain ⟨-, upload, rejectable, moved⟩ | ⟨rfl, ⟨error, failed⟩ | ⟨row, member, named, rejected⟩⟩ :=
    markRejected_cases integrity ran
  · exact ⟨_, moved.moved_mem, (rejectable_iff.1 rejectable).1, rfl⟩
  · cases failed
  · exact ⟨row, member, named, by simp [IsFinished, rejected, UploadState.finished]⟩

/-- **The answers of a step are true.** -/
theorem told_asked (informed : Informed d s) (step : d.machine.Step s (.asked i exchange) t) :
    Told d t exchange := by
  have recorded := informed.recorded.step step
  obtain ⟨call, next, asked⟩ := step.asked_cases
  obtain ⟨request, answer⟩ := exchange
  have answered : s.shared.Answers request answer t.shared := asked.answered
  unfold Told
  split
  · rename_i workerId now leaseFor leased same
    cases same
    obtain ⟨store', replies, moved⟩ := answered
    obtain ⟨leaseUntil, job, tenantId, claims, decoded⟩ :=
      claimNext_claims informed.recorded.integrity replies
    obtain ⟨named, upload, preset, attempts, -⟩ := leasedFromRow_ok decoded
    have member : job.assign (claimColumns workerId now.unixTimestamp leaseUntil) ∈
        t.shared.store.jobs := by
      rw [moved]
      exact claims.moved.moved_mem
    refine ⟨?_, ?_, preset.trans (informed.presets job claims.moved.member)⟩
    · rw [named]
      exact .of_row recorded member ⟨upload.symm, preset.symm, le_of_eq attempts⟩
    · obtain ⟨row, there, owned⟩ :=
        informed.recorded.integrity.jobUploads job claims.moved.member
      rw [upload, show (job.assign _).uploadId = row.id from owned.symm]
      exact (informed.recorded.uploads row there).step step
  · rename_i uploadId source same
    cases same
    obtain ⟨store', replies, moved⟩ := answered
    cases replies with
    | ran ran =>
        obtain ⟨rfl, row, member, rfl, decoded⟩ := findProcessingSource_ok ran
        obtain ⟨named, tenant, key, state⟩ := processingSourceFromRow_ok decoded
        refine ⟨named, .of_row recorded ?_ ⟨named.symm, tenant.symm, key.symm, fun done => ?_⟩⟩
        · rw [moved]
          exact member
        · rw [← state]
          exact done
  · rename_i uploadId derivatives now same
    cases same
    obtain ⟨store', replies, moved⟩ := answered
    cases replies with
    | ran ran =>
        obtain ⟨row, member, rfl, finished⟩ :=
          publishDerivatives_finishes informed.recorded.integrity ran
        refine .of_row recorded ?_ finished
        rw [moved]
        exact member
  · rename_i uploadId errorCode now same
    cases same
    obtain ⟨store', replies, moved⟩ := answered
    cases replies with
    | ran ran =>
        obtain ⟨row, member, rfl, finished⟩ :=
          markRejected_finishes informed.recorded.integrity ran
        refine .of_row recorded ?_ finished
        rw [moved]
        exact member
  · trivial

theorem Informed.step (informed : Informed d s) (step : d.machine.Step s label t) :
    Informed d t where
  recorded := informed.recorded.step step
  presets := fun job member => by
    obtain old | ⟨before, there, op, ok, -, move⟩ | enqueues :=
      informed.recorded.job_cases step member
    · exact informed.presets job old
    · rw [show job.presetId = before.presetId from congrArg JobIdentity.presetId move.identity]
      exact informed.presets before there
    · exact enqueues.preset
  told := step.learns informed.told (fun _ told => told.step informed.recorded step)
    fun _ _ same => by
      subst same
      exact told_asked informed step

/-- **Workers are told the truth.** -/
theorem run_informed {labels : List SystemLabel} (run : d.Runs labels s) : Informed d s := by
  obtain ⟨clock, run⟩ := run
  exact run.keeps (fun _ _ _ step informed => informed.step step) (informed_initial clock)

/-- A worker that was given a job knows its row. -/
theorem Informed.holding (informed : Informed d s) {leased : LeasedProcessingJob}
    (holding : Holding (s.past i) leased) : KnownJob d s leased.jobId (IsLeased leased) ∧
      d.tokens.Spent s leased.job.uploadId.uuid ∧
        leased.job.presetId = initialProcessingPreset := by
  obtain ⟨workerId, now, leaseFor, heard⟩ := holding
  exact informed.told i _ heard

/-- A worker that read a source knows its row. -/
theorem Informed.sourced (informed : Informed d s) {leased : LeasedProcessingJob}
    {source : ProcessingSource} (sourced : Sourced (s.past i) leased source) :
    source.uploadId = leased.job.uploadId ∧
      KnownUpload d s leased.job.uploadId (IsSource source) := informed.told i _ sourced.found

/-- **What a worker has concluded is finished.** -/
theorem Informed.concluded (informed : Informed d s) {leased : LeasedProcessingJob}
    (concluded : Concluded (s.past i) leased) :
    KnownUpload d s leased.job.uploadId IsFinished := by
  obtain ⟨source, sourced, ended⟩ | ⟨source, derivatives, now, sourced, published⟩ |
    ⟨code, now, rejected⟩ := concluded
  · refine (informed.sourced sourced).2.mono fun row reads => reads.finished ?_
    obtain ended | ended := ended <;> simp [ended, UploadState.finished]
  · rw [← (informed.sourced sourced).1]
    exact informed.told i _ published
  · exact informed.told i _ rejected

end Steps

end Deployment

end MediaBooster.Service
