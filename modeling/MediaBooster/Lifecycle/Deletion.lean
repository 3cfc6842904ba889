/-
# Lifecycle.Deletion -- deletion requests against processing

`request_deletion` refuses an upload that is being processed.  The opposite order is not
checked: `mark_quarantined_and_enqueue` asks for a created upload and not for one whose
deletion was not requested, and a cleanup claim takes a requested upload in any state.

* `deletion_excludes_processing`: in every run in which no upload is confirmed after its
  deletion was accepted, a requested upload is never processed and gets no job, and a
  cleanup claim takes no upload that is processed.
* `confirmed_after_deletion`: one confirmation after the request breaks all three.
-/
import MediaBooster.Lifecycle.Cleanup

namespace MediaBooster.Lifecycle

set_option autoImplicit false

open MediaBooster.Domain MediaBooster.Store MediaBooster.Theory.Run MediaBooster.Theory.Table
open MediaBooster.Theory.Transaction

/-! ## Requested uploads at rest -/

/-- The upload has been confirmed and a worker has still to settle it. -/
def inProcessing : UploadState → Bool
  | .uploaded | .quarantined | .processing => true
  | .created | .ready | .rejected | .failed | .deleted => false

/-- A requested upload is not in processing. -/
def AtRest (row : UploadRow) : Prop :=
  row.deleteRequestedAt.isSome = true → inProcessing row.state = false

/-- The call confirms no upload, and enqueues no job for one, whose deletion was accepted.
(No service enqueues a job but by a confirmation.) -/
def sparesRequested (s : SqliteStore) (call : Op × Bool) : Prop :=
  match call.1 with
  | .markQuarantinedAndEnqueue _ tenantId uploadId _ _ _ => ∀ row ∈ s.uploads,
      ownedUpload tenantId uploadId row = true → row.state = .created → row.deleteRequestedAt = none
  | .enqueue _ _ job => ∀ row ∈ s.uploads, row.id = job.uploadId → row.deleteRequestedAt = none
  | _ => True

section Steps

variable {s t : SqliteStore}

theorem deletable_atRest {state : UploadState} (deletable : deletableState state = true) :
    inProcessing state = false := by
  cases state <;> simp_all [deletableState, inProcessing]

/-- A sparing call leaves every upload at rest. -/
theorem rowMove_atRest {call : Op × Bool} {before after : UploadRow}
    (spares : sparesRequested s call) (member : before ∈ s.uploads) (rest : AtRest before)
    (move : RowMove s call.1 before after) : AtRest after := by
  obtain ⟨op, ok⟩ := call
  intro asked
  cases move with
  | same => exact rest asked
  | confirmed owned created =>
      have unasked : before.deleteRequestedAt = none := spares before member owned created
      have kept : before.deleteRequestedAt.isSome = true := asked
      simp [unasked] at kept
  | aborted | tombstoned | published | rejected => rfl
  | requested owned unasked deletable => exact deletable_atRest deletable
  | leased | retried => exact rest asked
  | started startable =>
      have idle : inProcessing before.state = false := rest asked
      rw [(startable_iff.1 startable).2] at idle
      cases idle

/-- The steps that confirm no requested upload. -/
abbrev SparingStep := Guarded StoreStep sparesRequested

theorem run_atRest {calls : List (Op × Bool)} (run : Trace SparingStep .migrated calls s) :
    s.Integrity ∧ ∀ row ∈ s.uploads, AtRest row := by
  refine run_rows (fun _ _ _ step => step.1) (fun row fresh asked => ?_) ?_ run
  · rw [fresh.2.2.1] at asked
    cases asked
  · intro s call t before after step integrity rows member move
    exact rowMove_atRest step.2 member (rows before member) move

/-- A sparing call inserts no job for a requested upload. -/
theorem enqueued_unasked {call : Op × Bool} {job : JobRow} {upload : UploadRow}
    (integrity : s.Integrity) (spares : sparesRequested s call) (enqueued : Enqueued s call.1 job)
    (member : upload ∈ s.uploads) (same : job.uploadId = upload.id) :
    upload.deleteRequestedAt = none := by
  obtain ⟨op, ok⟩ := call
  cases enqueued with
  | direct => exact spares upload member same.symm
  | @confirmed _ _ _ _ _ _ confirmed _ there owned created =>
      have is : confirmed = upload := integrity.uploadIds.eq_of_key there member same
      exact spares upload member (is ▸ owned) (is ▸ created)

/-- A claim takes no upload in processing, as long as requested uploads are at rest. -/
theorem eligible_atRest {maxAttempts : Nat} {now createdBefore rejectedBefore : Int}
    {row : UploadRow} (rest : AtRest row)
    (eligible : cleanupEligible maxAttempts now createdBefore rejectedBefore row = true) :
    inProcessing row.state = false := by
  obtain ⟨-, -, -, -, asked | ⟨created, -⟩ | ⟨rejected | failed, -⟩⟩ := cleanupEligible_iff.1 eligible
  · exact rest asked
  · rw [created]
    rfl
  · rw [rejected]
    rfl
  · rw [failed]
    rfl

end Steps

/-! ## Exclusion -/

/-- What a step may do to requested uploads, and what a claim may take. -/
structure DeletionExcludes (s t : SqliteStore) : Prop where
  resting : ∀ before ∈ s.uploads, before.deleteRequestedAt.isSome = true →
    ∀ after ∈ t.uploads, after.id = before.id →
      after.deleteRequestedAt = before.deleteRequestedAt ∧ inProcessing after.state = false
  jobless : ∀ upload ∈ s.uploads, upload.deleteRequestedAt.isSome = true →
    ∀ job ∈ t.jobs, job.uploadId = upload.id →
      ∃ before ∈ s.jobs, before.toJobIdentity = job.toJobIdentity
  unclaimed : ∀ owner now createdBefore rejectedBefore leaseFor limit maxAttempts candidates leased,
    claimCleanupBatch owner now createdBefore rejectedBefore leaseFor limit maxAttempts s =
        (.ok candidates, leased) →
      ∀ candidate ∈ candidates, inProcessing candidate.state = false

/-- **Deletion and processing exclude each other**, in every run in which no upload is
confirmed after its deletion was accepted. -/
theorem deletion_excludes_processing {calls : List (Op × Bool)} {call : Op × Bool}
    {s t : SqliteStore} (run : Trace SparingStep .migrated calls s) (step : SparingStep s call t) :
    DeletionExcludes s t := by
  obtain ⟨integrity, rest⟩ := run_atRest run
  obtain ⟨answers, spares⟩ := step
  refine ⟨?_, ?_, ?_⟩
  · intro before there asked after there' same
    have move := Answers.rowMove answers integrity there there' same
    have kept := move.evolves.requested asked
    refine ⟨kept, rowMove_atRest spares there (rest before there) move ?_⟩
    rw [kept]
    exact asked
  · intro upload there asked job member same
    obtain old | enqueued := Answers.jobs_from answers integrity job member
    · exact old
    · have unasked := enqueued_unasked integrity spares enqueued there same
      simp [unasked] at asked
  · intro owner now createdBefore rejectedBefore leaseFor limit maxAttempts candidates leased ran
      candidate member
    obtain ⟨-, error, failed⟩ | ⟨leaseUntil, rows, claimed, answered, selected, batch⟩ :=
      claimCleanupBatch_cases integrity ran
    · cases failed
    · cases answered
      obtain ⟨row, listed, of⟩ := forall₂_mem_right batch.candidates member
      obtain ⟨stored, eligible⟩ := selected row listed
      rw [of.state]
      exact eligible_atRest (rest row stored) eligible

/-- The sample reservation, its deletion requested. -/
def requestedSample : SqliteStore :=
  (Op.run (.requestDeletion "g5" sampleUploadId (sampleTime 10)) reservedSample).2

theorem requestedSample_answers :
    Answers (.requestDeletion "g5" sampleUploadId (sampleTime 10)) reservedSample true
      requestedSample := .ran

/-- The sample is claimed for cleanup; before that its deletion keeps it at rest. -/
theorem deletion_excludes_processing_sample :
    DeletionExcludes requestedSample
      ((Op.claimCleanupBatch "sweeper" (sampleTime 20) (sampleTime 10) (sampleTime 10)
        oneAttempt.leaseFor 100 1).run requestedSample).2 := by
  have saved : Answers (.saveBatch sampleBatch sampleCapacity) .migrated true reservedSample := .ran
  have run : Trace SparingStep .migrated
      [(.saveBatch sampleBatch sampleCapacity, true),
        (.requestDeletion "g5" sampleUploadId (sampleTime 10), true)] requestedSample :=
    .cons ⟨saved, trivial⟩ (Trace.single ⟨requestedSample_answers, trivial⟩)
  have claimed : SparingStep requestedSample
      (.claimCleanupBatch "sweeper" (sampleTime 20) (sampleTime 10) (sampleTime 10)
        oneAttempt.leaseFor 100 1, true)
      ((Op.claimCleanupBatch "sweeper" (sampleTime 20) (sampleTime 10) (sampleTime 10)
        oneAttempt.leaseFor 100 1).run requestedSample).2 := ⟨.ran, trivial⟩
  exact deletion_excludes_processing run claimed

/-- The sample after a confirmation that follows the request. -/
def confirmedLateSample : SqliteStore :=
  (markQuarantinedAndEnqueue sampleJobId "g5" sampleUploadId 100 "source-validation-v1"
    (sampleTime 11) requestedSample).2

/-- **A confirmation after the request.**  The upload enters quarantine with its deletion
accepted, it gets a job, and the next claim takes it in that state. -/
theorem confirmed_after_deletion :
    StoreRun [(.saveBatch sampleBatch sampleCapacity, true),
        (.requestDeletion "g5" sampleUploadId (sampleTime 10), true)] requestedSample ∧
      (requestDeletion "g5" sampleUploadId (sampleTime 10) reservedSample).1 = .ok .accepted ∧
      (markQuarantinedAndEnqueue sampleJobId "g5" sampleUploadId 100 "source-validation-v1"
        (sampleTime 11) requestedSample).1 = .ok () ∧
      (requestedSample.jobs = [] ∧ confirmedLateSample.jobs.map (·.uploadId) = [sampleUploadId]) ∧
      confirmedLateSample.uploads.map (fun row => (row.state, row.deleteRequestedAt.isSome)) =
        [(.quarantined, true)] ∧
      ((claimCleanupBatch "sweeper" (sampleTime 20) (sampleTime 10) (sampleTime 10)
          oneAttempt.leaseFor 100 1 confirmedLateSample).1.toOption.map fun candidates =>
        candidates.map (·.state)) = some [.quarantined] := by
  have saved : Answers (.saveBatch sampleBatch sampleCapacity) .migrated true reservedSample := .ran
  refine ⟨.cons saved (Trace.single requestedSample_answers), ?_, ?_, ?_, ?_, ?_⟩
  all_goals decide

end MediaBooster.Lifecycle
