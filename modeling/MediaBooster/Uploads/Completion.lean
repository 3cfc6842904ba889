/-
# Uploads.Completion -- a completed upload that is not confirmed

`complete_multipart` has the provider assemble the object, reads its size back, and records the
confirmation.  A call that is cut off in between leaves a session that is completed and a row that
is still `created`.

* `World.Undisturbed`: the runs of one program in which nothing else happens and nothing fails
  outside the service.
* `completion_retried`: a retry succeeds exactly where the confirmation is already recorded.  The
  provider turns a completed session down, and the service takes that for an error.
* `completion_stranded`: a call that is cut off after the provider's answer leaves an upload that
  no retry completes.
-/
import MediaBooster.Service.Knowledge
import MediaBooster.Service.Rehearsal

namespace MediaBooster.Storage.Provider

set_option autoImplicit false

open MediaBooster.Theory.Table

/-! ## Sessions -/

/-- A session is found by its identifier. -/
def Numbered (p : Provider) : Prop := KeyedBy MultipartSession.uploadId p.sessions

variable {p q : Provider} {request : ProviderRequest}

theorem Numbered.settle (numbered : p.Numbered) (uploadId : String) (status : SessionStatus) :
    (p.settle uploadId status).Numbered := by
  have same : (p.settle uploadId status).sessions.map MultipartSession.uploadId =
      p.sessions.map MultipartSession.uploadId := by
    simp only [Provider.settle, List.map_map]
    apply List.map_congr_left
    intro session _
    simp only [Function.comp_apply]
    split <;> rfl
  unfold Numbered KeyedBy
  rw [same]
  exact numbered

theorem Performs.numbered {output : request.Output} (performs : Performs p request output q)
    (numbered : p.Numbered) : q.Numbered := by
  cases performs with
  | put | got | headed | deleted | listed => exact numbered
  | created fresh => exact numbered.concat fresh
  | completed length active => exact numbered.settle _ _
  | aborted active => exact numbered.settle _ _

theorem Answers.numbered {answer : Except ProviderError request.Output}
    (answers : Answers p request answer q) (numbered : p.Numbered) : q.Numbered := by
  obtain rfl | ⟨output, performs⟩ := answers.cases
  · exact numbered
  · exact performs.numbered numbered

/-- A completed session takes no parts. -/
theorem Numbered.inactive (numbered : p.Numbered) {bucket key uploadId : String}
    (completed : ⟨bucket, key, uploadId, .completed⟩ ∈ p.sessions) :
    ¬ p.Active bucket key uploadId := by
  intro active
  have same := numbered.eq_of_key completed active rfl
  cases same

end MediaBooster.Storage.Provider

namespace MediaBooster.Service

set_option autoImplicit false

open MediaBooster.Domain MediaBooster.Storage MediaBooster.Store MediaBooster.Theory.Run
open MediaBooster.Theory.Table MediaBooster.Theory.Threads MediaBooster.Theory.Transaction

/-! ## Undisturbed runs -/

/-- A run of one program in which nothing else happens, and nothing fails but what the program is
turned down for. -/
abbrev World.Undisturbed {α : Type} (w : World) (program : Program Answer α) (result : α)
    (after : World) : Prop :=
  Ran World.Serves program w result after

section Undisturbed

variable {α : Type} {w after : World} {result : α}

/-- A call of the store runs. -/
theorem undisturbed_store {op : Op} {next : Answer (.store op) → Program Answer α} :
    w.Undisturbed (.ask (.store op) next) result after ↔
      { w with store := (op.call w.store).2 }.Undisturbed (next (op.call w.store).1) result after := by
  refine ran_ask.trans ⟨?_, ?_⟩
  · rintro ⟨answer, middle, ⟨store', ran, rfl⟩, rest⟩
    rw [ran]
    exact rest
  · intro rest
    exact ⟨_, _, ⟨_, rfl, rfl⟩, rest⟩

/-- A `HEAD` of a stored object reports its length. -/
theorem undisturbed_head {bucket key : String} {length : Nat}
    {next : Answer (.provider (.headObject bucket key)) → Program Answer α}
    (stored : w.provider.objects bucket key = some length) :
    w.Undisturbed (.ask (.provider (.headObject bucket key)) next) result after ↔
      w.Undisturbed (next (.ok (some (length : Int)))) result after := by
  refine ran_ask.trans ⟨?_, ?_⟩
  · rintro ⟨answer, middle, serves, rest⟩
    cases answer with
    | ok output =>
        obtain ⟨provider', performs, rfl⟩ := serves
        cases performs with
        | headed there =>
            rw [stored] at there
            cases there
            exact rest
    | error error =>
        obtain ⟨refuses, rfl⟩ := serves
        cases refuses with
        | unheaded missing =>
            rw [stored] at missing
            cases missing
  · intro rest
    exact ⟨.ok (some (length : Int)), w, ⟨w.provider, .headed stored, rfl⟩, rest⟩

/-- A session that takes no parts is not completed. -/
theorem undisturbed_completion {bucket key session : String} {parts : List CompletedPart}
    {next : Answer (.provider (.completeMultipartUpload bucket key session parts)) →
      Program Answer α} (gone : ¬ w.provider.Active bucket key session) :
    w.Undisturbed (.ask (.provider (.completeMultipartUpload bucket key session parts)) next) result
        after ↔ w.Undisturbed (next (.error .noSuchUpload)) result after := by
  refine ran_ask.trans ⟨?_, ?_⟩
  · rintro ⟨answer, middle, serves, rest⟩
    cases answer with
    | ok output =>
        obtain ⟨provider', performs, rfl⟩ := serves
        cases performs with
        | completed length active => exact absurd active gone
    | error error =>
        obtain ⟨refuses, rfl⟩ := serves
        cases refuses with
        | uncompletable => exact rest
  · intro rest
    exact ⟨.error .noSuchUpload, w, ⟨.uncompletable gone, rfl⟩, rest⟩

end Undisturbed

/-! ## Retries -/

/-- A multipart upload whose session the provider has completed: the row as `find_upload` reads it,
and the object, of the size declared, under its key. -/
structure Completed (service : UploadIntentService) (w : World) (tenantId : String)
    (uploadId : UploadId) (stored : StoredUploadReservation) (partSize : Nat) (session : String) :
    Prop where
  found : (findUpload tenantId uploadId w.store).1 = .ok (some stored)
  layout : multipartLayout stored = .ok (partSize, session)
  completed : ⟨service.objectStore.bucket, stored.objectKey.asStr, session, .completed⟩ ∈
    w.provider.sessions
  assembled : w.provider.objects service.objectStore.bucket stored.objectKey.asStr =
    some stored.expectedSizeBytes

section Retries

variable {service : UploadIntentService} {w after : World} {tenantId : String}
  {uploadId : UploadId} {stored : StoredUploadReservation} {partSize : Nat} {session : String}
  {parts : List CompletedPart} {result : Except MultipartControlError Unit}

/-- The upload is read, whoever asks. -/
theorem Completed.reads (completed : Completed service w tenantId uploadId stored partSize session)
    {α : Type} {next : StoredUploadReservation → Action MultipartControlError α}
    {result : Except MultipartControlError α} :
    w.Undisturbed (UploadIntentService.findStored tenantId uploadId >>= next).attempt result after ↔
      w.Undisturbed (next stored).attempt result after := by
  have same : (findUpload tenantId uploadId w.store).2 = w.store := rfl
  show w.Undisturbed (.ask (.store (.findUpload tenantId uploadId)) _) result after ↔ _
  rw [undisturbed_store]
  simp only [Op.call, completed.found, same]
  rfl

/-- The row `find_upload` read. -/
theorem findUpload_ok {store : SqliteStore}
    (found : (findUpload tenantId uploadId store).1 = .ok (some stored)) :
    ∃ row ∈ store.uploads, ownedUpload tenantId uploadId row = true ∧
      storedUploadFromRow row = .ok stored := by
  unfold findUpload Call.readOr at found
  dsimp only at found
  split at found
  · cases found
  · rename_i row there
    refine ⟨row, List.mem_of_find?_eq_some there, List.find?_some there, ?_⟩
    cases decoded : storedUploadFromRow row with
    | error error =>
        rw [decoded] at found
        cases found
    | ok read =>
        rw [decoded] at found
        cases found
        rfl

theorem expectedSize_fits {row : UploadRow} (decoded : storedUploadFromRow row = .ok stored) :
    stored.expectedSizeBytes < 2 ^ 64 := by
  rw [storedUploadFromRow] at decoded
  split at decoded
  · cases decoded
  · rename_i size sized
    obtain ⟨transfer, -, decoded⟩ := except_bind_eq_ok.1 decoded
    split at decoded
    · cases decoded
    · cases decoded
      exact (u64TryFrom_eq_some.1 sized).2

/-- The size that was declared is the size that is stored. -/
theorem Completed.verifies (completed : Completed service w tenantId uploadId stored partSize session) :
    w.Undisturbed (service.verifyStoredSize stored).attempt result after ↔
      result = .ok () ∧ after = w := by
  obtain ⟨row, -, -, decoded⟩ := findUpload_ok completed.found
  have reported : reportedLength (some (stored.expectedSizeBytes : Int)) =
      some stored.expectedSizeBytes :=
    u64TryFrom_eq_some.2 ⟨rfl, expectedSize_fits decoded⟩
  have outcome : S3CompatibleStore.headOutcome (.ok (some (stored.expectedSizeBytes : Int))) =
      .ok stored.expectedSizeBytes := by
    rw [S3CompatibleStore.headOutcome, reported]
  have shape : (service.verifyStoredSize stored).attempt =
      .ask (.provider (.headObject service.objectStore.bucket stored.objectKey.asStr)) fun answer =>
        Attempt.settle (fun contentLength =>
          Attempt.ensure (contentLength == stored.expectedSizeBytes) .storedSizeMismatch)
          ((S3CompatibleStore.headOutcome answer).mapError .objectStore) := rfl
  rw [shape, undisturbed_head completed.assembled, outcome, mapError_ok, Attempt.settle_ok,
    Attempt.attempt_ensure, beq_self_eq_true]
  exact ran_done

/-- **Where the confirmation is recorded, a retry succeeds.** -/
theorem Completed.confirmed (completed : Completed service w tenantId uploadId stored partSize session)
    (named : tenantIsValid tenantId = true) (confirmed : uploadBytesAreConfirmed stored.state = true) :
    w.Undisturbed (service.completeMultipart tenantId uploadId parts).attempt result after ↔
      result = .ok () ∧ after = w := by
  rw [UploadIntentService.completeMultipart, named]
  show w.Undisturbed (UploadIntentService.findStored tenantId uploadId >>= _).attempt result after ↔ _
  rw [completed.reads, completed.layout]
  show w.Undisturbed (Attempt.attempt (if uploadBytesAreConfirmed stored.state then _ else _)) _ _ ↔ _
  rw [if_pos confirmed]
  exact completed.verifies

/-- **Where it is not, a retry fails.** -/
theorem Completed.stranded (completed : Completed service w tenantId uploadId stored partSize session)
    (numbered : w.provider.Numbered) (named : tenantIsValid tenantId = true)
    (valid : validateCompletion stored.expectedSizeBytes partSize parts = .ok ())
    (unconfirmed : uploadBytesAreConfirmed stored.state = false) :
    ∃ error, ∀ result after,
      w.Undisturbed (service.completeMultipart tenantId uploadId parts).attempt result after ↔
        result = .error error ∧ after = w := by
  have shape : ∀ result after,
      w.Undisturbed (service.completeMultipart tenantId uploadId parts).attempt result after ↔
        w.Undisturbed (Attempt.attempt (do
          Attempt.ensure (stored.state == .created) .invalidState
          Attempt.ofExcept (validateCompletion stored.expectedSizeBytes partSize parts)
          Attempt.mapError .objectStore
            (service.objectStore.completeMultipart stored.objectKey session parts)
          service.confirmStored tenantId uploadId stored)) result after := by
    intro result after
    rw [UploadIntentService.completeMultipart, named]
    show w.Undisturbed (UploadIntentService.findStored tenantId uploadId >>= _).attempt result after ↔ _
    rw [completed.reads, completed.layout]
    show w.Undisturbed (Attempt.attempt (if uploadBytesAreConfirmed stored.state then _ else _)) _ _ ↔ _
    rw [if_neg (by rw [unconfirmed]; exact Bool.false_ne_true)]
  simp only [shape]
  cases created : stored.state == .created with
  | false =>
      refine ⟨.invalidState, fun result after => ?_⟩
      exact ran_done
  | true =>
      rw [valid]
      cases checked : validateCompletedParts parts with
      | error error =>
          refine ⟨.objectStore error, fun result after => ?_⟩
          rw [UploadIntentService.confirmStored, S3CompatibleStore.completeMultipart, checked]
          exact ran_done
      | ok _ =>
          refine ⟨.objectStore (.backend "NoSuchUpload"), fun result after => ?_⟩
          rw [S3CompatibleStore.completeMultipart, checked]
          show w.Undisturbed (.ask (.provider (.completeMultipartUpload _ _ _ _)) _) result after ↔ _
          rw [undisturbed_completion (numbered.inactive completed.completed)]
          exact ran_done

end Retries

/-! ## Retries in a run -/

/-- The upload is confirmed, with exactly one job. -/
def ConfirmedOnce (store : SqliteStore) (tenantId : String) (uploadId : UploadId) : Prop :=
  (∃ row ∈ store.uploads, ownedUpload tenantId uploadId row = true ∧
    uploadBytesAreConfirmed row.state = true) ∧
  ∃ job ∈ store.jobs, job.uploadId = uploadId ∧
    ∀ other ∈ store.jobs, other.uploadId = uploadId → other = job

/-- `complete_multipart` can be called undisturbed, and whenever it is, it succeeds and leaves the
upload confirmed with exactly one job. -/
def RetrySucceeds (service : UploadIntentService) (w : World) (tenantId : String)
    (uploadId : UploadId) (parts : List CompletedPart) : Prop :=
  (∃ result after,
    w.Undisturbed (service.completeMultipart tenantId uploadId parts).attempt result after) ∧
  ∀ result after,
    w.Undisturbed (service.completeMultipart tenantId uploadId parts).attempt result after →
      result = .ok () ∧ ConfirmedOnce after.store tenantId uploadId

/-- What every state of a run has for a retry. -/
structure Steady (s : SystemState) : Prop where
  integrity : s.shared.store.Integrity
  covered : ∀ row ∈ s.shared.store.uploads, uploadBytesAreConfirmed row.state = true →
    ∃ job ∈ s.shared.store.jobs, job.uploadId = row.id
  numbered : s.shared.provider.Numbered

section Runs

variable {d : Deployment} {s t : SystemState} {label : SystemLabel} {labels : List SystemLabel}
  {tenantId : String} {uploadId : UploadId} {stored : StoredUploadReservation} {partSize : Nat}
  {session : String} {parts : List CompletedPart}

theorem numbered_step (step : d.machine.Step s label t) (numbered : s.shared.provider.Numbered) :
    t.shared.provider.Numbered := by
  obtain ⟨i, ⟨request, answer⟩, rfl, answered⟩ | ⟨event, rfl, moved⟩ | ⟨same, -⟩ :=
    step.shared_cases
  · change s.shared.Answers request answer t.shared at answered
    cases request with
    | provider request =>
        obtain ⟨provider', answers, moved⟩ := answered
        rw [moved]
        exact answers.numbered numbered
    | store op =>
        obtain ⟨store', -, moved⟩ := answered
        rw [moved]
        exact numbered
    | drawId =>
        rw [answered.2]
        exact numbered
    | presignPut bucket key contentLength =>
        cases answer <;> (rw [show t.shared = _ from answered]; exact numbered)
    | now | presignPart | host =>
        rw [show t.shared = _ from answered]
        exact numbered
  · change Deployment.Moves s.shared event t.shared at moved
    cases event with
    | called op =>
        obtain ⟨-, answer, store', -, moved⟩ := moved
        rw [moved]
        exact numbered
    | put bucket key contentLength =>
        rw [moved.2]
        exact numbered
  · rw [same]
    exact numbered

theorem Steady.step (steady : Steady s) (step : d.machine.Step s label t) : Steady t := by
  have numbered := numbered_step step steady.numbered
  obtain same | ⟨op, ok, -, answers⟩ := Deployment.store_cases step
  · refine ⟨?_, ?_, numbered⟩
    · rw [same]
      exact steady.integrity
    · rw [same]
      exact steady.covered
  · exact ⟨answers.integrity steady.integrity,
      answers.covers (P := fun state => uploadBytesAreConfirmed state = true) (by decide)
        (by decide) (by decide) (fun _ => rfl) (fun _ => rfl) steady.integrity steady.covered,
      numbered⟩

theorem run_steady (run : d.Runs labels s) : Steady s := by
  obtain ⟨clock, run⟩ := run
  refine run.keeps (fun _ _ _ step steady => Steady.step steady step)
    ⟨migrated_integrity, ?_, List.nodup_nil⟩
  intro row member
  cases member

/-- A confirmed upload has one job: jobs are of one preset, and an upload has one job of it. -/
theorem confirmedOnce_of_run (run : d.Runs labels s)
    (found : (findUpload tenantId uploadId s.shared.store).1 = .ok (some stored))
    (confirmed : uploadBytesAreConfirmed stored.state = true) :
    ConfirmedOnce s.shared.store tenantId uploadId := by
  have steady := run_steady run
  obtain ⟨row, member, owned, decoded⟩ := findUpload_ok found
  obtain ⟨-, -, state, -⟩ := storedUploadFromRow_ok decoded
  rw [state] at confirmed
  have named : row.id = uploadId := by
    simp only [ownedUpload, Bool.and_eq_true, beq_iff_eq] at owned
    exact owned.2
  obtain ⟨job, queued, owner⟩ := steady.covered row member confirmed
  refine ⟨⟨row, member, owned, confirmed⟩, job, queued, owner.trans named, ?_⟩
  intro other there other_owner
  have presets := (Deployment.run_informed run).presets
  apply steady.integrity.jobTargets.eq_of_key there queued
  rw [JobRow.target, JobRow.target, other_owner, owner.trans named, presets other there,
    presets job queued]

/-- **A completed upload is completed again exactly where it is confirmed.**  Once the provider has
completed the session, a call of `complete_multipart` with the same list succeeds, and finds the
upload confirmed with one job, if and only if an earlier call had recorded the confirmation. -/
theorem completion_retried (run : d.Runs labels s) (named : tenantIsValid tenantId = true)
    (completed : Completed d.uploads s.shared tenantId uploadId stored partSize session)
    (valid : validateCompletion stored.expectedSizeBytes partSize parts = .ok ()) :
    RetrySucceeds d.uploads s.shared tenantId uploadId parts ↔
      uploadBytesAreConfirmed stored.state = true := by
  constructor
  · rintro ⟨⟨result, after, undisturbed⟩, succeeds⟩
    by_contra unconfirmed
    obtain ⟨error, fails⟩ := completed.stranded (run_steady run).numbered named valid
      (Bool.eq_false_iff.2 unconfirmed)
    have failed := ((fails result after).1 undisturbed).1
    rw [(succeeds result after undisturbed).1] at failed
    cases failed
  · intro confirmed
    refine ⟨⟨.ok (), s.shared, (completed.confirmed named confirmed).2 ⟨rfl, rfl⟩⟩, ?_⟩
    intro result after undisturbed
    obtain ⟨rfl, rfl⟩ := (completed.confirmed named confirmed).1 undisturbed
    exact ⟨rfl, confirmedOnce_of_run run completed.found confirmed⟩

end Runs

/-! ## A call that is cut off -/

/-- A deployment that takes small files in parts. -/
def multipartDeployment : Deployment :=
  { sampleDeployment with
    batchPolicy := { sampleDeployment.batchPolicy with multipartThresholdBytes := 50 } }

def samplePart : CompletedPart := ⟨1, "e"⟩

/-- Reserve one image, and complete it as far as `exchanges`. -/
def completeImage (exchanges : Nat) : List (Command ServiceCall Event) :=
  reserveImage ++
    [.start (.completeMultipart "g5" rehearsedUpload [samplePart]), .run 1 exchanges, .crash 1]

theorem rehearsedKey_valid : validateObjectKey rehearsedKey = .ok () := by decide +kernel

/-- The reservation as it is read back. -/
def rehearsedReservation (state : UploadState) : StoredUploadReservation where
  uploadId := rehearsedUpload
  objectKey := ⟨rehearsedKey, rehearsedKey_valid⟩
  expectedSizeBytes := 100
  state := state
  transfer := .multipart (5 * 1024 * 1024)
  multipartUploadId := some rehearsedKey

/-- The provider has completed the session of the reservation, which is in that state. -/
def completedIn (state : UploadState) (s : SystemState) : Bool :=
  decide ((findUpload "g5" rehearsedUpload s.shared.store).1 =
    .ok (some (rehearsedReservation state))) &&
  decide (⟨"raw", rehearsedKey, rehearsedKey, .completed⟩ ∈ s.shared.provider.sessions) &&
  decide (s.shared.provider.objects "raw" rehearsedKey = some 100)

theorem completed_of_completedIn {state : UploadState} {s : SystemState}
    (holds : completedIn state s = true) :
    Completed multipartDeployment.uploads s.shared "g5" rehearsedUpload
      (rehearsedReservation state) (5 * 1024 * 1024) rehearsedKey := by
  simp only [completedIn, Bool.and_eq_true, decide_eq_true_eq] at holds
  obtain ⟨⟨found, completed⟩, assembled⟩ := holds
  exact ⟨found, rfl, completed, assembled⟩

theorem samplePart_completes :
    validateCompletion 100 (5 * 1024 * 1024) [samplePart] = .ok () := by
  decide +kernel

/-- **A call that is cut off strands its upload.**  Between the provider's answer and the
confirmation the call is cut off; every later call with the same list fails. -/
theorem completion_stranded : ∃ labels, ∃ s : SystemState, multipartDeployment.Runs labels s ∧
    Completed multipartDeployment.uploads s.shared "g5" rehearsedUpload
      (rehearsedReservation .created) (5 * 1024 * 1024) rehearsedKey ∧
    validateCompletion 100 (5 * 1024 * 1024) [samplePart] = .ok () ∧
    ∃ error, ∀ result after,
      s.shared.Undisturbed (multipartDeployment.uploads.completeMultipart "g5" rehearsedUpload
        [samplePart]).attempt result after ↔ result = .error error ∧ after = s.shared := by
  have played : ((multipartDeployment.rehearsal 1000000000).play (fun _ _ => true)
      (.fresh (sampleTime 0)) (completeImage 2)).any (completedIn .created) = true := by
    decide +kernel
  obtain ⟨labels, s, run, holds⟩ := Deployment.rehearsed played
  have completed := completed_of_completedIn holds
  exact ⟨labels, s, run.unguarded, completed, samplePart_completes,
    completed.stranded (run_steady run.unguarded).numbered (by decide) samplePart_completes rfl⟩

/-- A call that is not cut off can be repeated. -/
theorem completion_retried_sample : ∃ s : SystemState,
    RetrySucceeds multipartDeployment.uploads s.shared "g5" rehearsedUpload [samplePart] := by
  have played : ((multipartDeployment.rehearsal 1000000000).play (fun _ _ => true)
      (.fresh (sampleTime 0)) (completeImage 6)).any (completedIn .quarantined) = true := by
    decide +kernel
  obtain ⟨labels, s, run, holds⟩ := Deployment.rehearsed played
  exact ⟨s, (completion_retried run.unguarded (by decide) (completed_of_completedIn holds)
    samplePart_completes).2 rfl⟩

end MediaBooster.Service
