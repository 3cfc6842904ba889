/-
# Uploads.Batch -- a batch is created as a whole or not at all

`create_batch` opens the transfer of one file after the other and saves the reservations
last.  What an exchange of it does is one of four things: it saves a batch (`savedBatch`), opens
a provider session (`reportedSession`), aborts one (`abortedSession`) or fails to
(`abortFailed`).  `Progress` is what the loop over the files keeps of them: nothing is
saved or aborted yet, and the sessions the provider reported are those of the reservations
made so far.  So the cleanup aborts what was opened, session by session (`Cleaned`), and an
error leaves nothing behind (`Unwound`).

`Persists` is what a thread of a run writes to `uploads`.
-/
import MediaBooster.Service.Rehearsal
import MediaBooster.Service.Rules

namespace MediaBooster.Uploads

set_option autoImplicit false

open MediaBooster.Domain MediaBooster.Service MediaBooster.Storage MediaBooster.Store
open MediaBooster.Theory.Run MediaBooster.Theory.Threads MediaBooster.Theory.Transaction

/-! ## What an exchange does -/

/-- The batch an exchange saves. -/
def savedBatch : Exchange Answer → Option UploadBatchReservation
  | ⟨.store (.saveBatch batch _), .ok _⟩ => some batch
  | _ => none

/-- A provider session: its bucket, its key and its identifier. -/
abbrev Session := String × String × String

/-- The session whose creation the provider reports. -/
def reportedSession : Exchange Answer → Option Session
  | ⟨.provider (.createMultipartUpload bucket key), .ok (some session)⟩ =>
      some (bucket, key, session)
  | _ => none

/-- The session an exchange aborts. -/
def abortedSession : Exchange Answer → Option Session
  | ⟨.provider (.abortMultipartUpload bucket key session), answer⟩ =>
      if (S3CompatibleStore.abortOutcome answer).toBool then some (bucket, key, session) else none
  | _ => none

/-- Whether an exchange is an abort that fails. -/
def abortFailed : Exchange Answer → Bool
  | ⟨.provider (.abortMultipartUpload ..), answer⟩ =>
      !(S3CompatibleStore.abortOutcome answer).toBool
  | _ => false

/-- An exchange that saves nothing and aborts nothing. -/
structure Forward (exchange : Exchange Answer) : Prop where
  unsaved : savedBatch exchange = none
  unaborted : abortedSession exchange = none
  unfailed : abortFailed exchange = false

/-- What `create_batch` asks for. -/
def BatchAsks : Ask → Prop
  | .now | .drawId | .presignPut .. | .store (.hasCapacity ..) | .store (.saveBatch ..)
  | .provider (.createMultipartUpload ..) | .provider (.abortMultipartUpload ..) => True
  | _ => False

/-! ## The loop over the files -/

section Loop

variable (service : UploadIntentService)

/-- The session of a reservation. -/
def sessionOf (upload : UploadReservation) : Option Session :=
  upload.multipartUploadId.map fun session =>
    (service.objectStore.bucket, upload.objectKey.asStr, session)

/-- The reservation a file and its transfer are made into. -/
structure ReservedFor (tenantId : String) (file : UploadFileIntent × UploadTransfer)
    (upload : UploadReservation) : Prop where
  kind : upload.declaredKind = file.1.declaredKind
  size : upload.expectedSizeBytes = file.1.contentLength
  hint : upload.contentTypeHint = file.1.contentTypeHint
  transfer : upload.transfer = file.2
  key : upload.objectKey.asStr = rawKeyText tenantId upload.uploadId

/-- Where the loop stands after the files `made`. -/
structure Progress (tenantId : String) (past : History)
    (made : List (UploadFileIntent × UploadTransfer)) (reservations : List UploadReservation)
    (outputs : List CreatedUploadIntent) : Prop where
  forward : ∀ exchange ∈ past, Forward exchange
  reported : past.filterMap reportedSession = reservations.filterMap (sessionOf service)
  drawn : ∀ upload ∈ reservations, identifiers.Drew past upload.uploadId.uuid
  distinct : identifiers.Distinct past → (reservations.map UploadReservation.uploadId).Nodup
  reserved : List.Forall₂ (ReservedFor tenantId) made reservations
  named : outputs.map CreatedUploadIntent.uploadId = reservations.map UploadReservation.uploadId

/-- What the cleanup of `reservations` added. -/
structure Cleaned (reservations : List UploadReservation) (more : History) (cleaned : Bool) :
    Prop where
  unsaved : more.filterMap savedBatch = []
  unreported : more.filterMap reportedSession = []
  aborted : cleaned = true →
    more.filterMap abortedSession = reservations.filterMap (sessionOf service)
  failed : cleaned = false ↔ ∃ exchange ∈ more, abortFailed exchange = true

/-- A call that failed: nothing is saved, and every session it opened is aborted, unless an
abort failed and the error is the one that says so. -/
structure Unwound (past : History) (error : CreateUploadBatchError) : Prop where
  unsaved : past.filterMap savedBatch = []
  required : error = .cleanupRequired ↔ ∃ exchange ∈ past, abortFailed exchange = true
  aborted : error ≠ .cleanupRequired →
    past.filterMap abortedSession = past.filterMap reportedSession
  keyed : error ≠ .generatedObjectKey

variable {service}
variable {tenantId : String} {past : History} {made : List (UploadFileIntent × UploadTransfer)}
variable {reservations : List UploadReservation} {outputs : List CreatedUploadIntent}

theorem forward_none {past : History} {α : Type} {f : Exchange Answer → Option α}
    (none : ∀ exchange ∈ past, f exchange = none) : past.filterMap f = [] :=
  List.filterMap_eq_nil_iff.2 none

/-- Before the first file. -/
theorem Progress.start (forward : ∀ exchange ∈ past, Forward exchange)
    (unreported : ∀ exchange ∈ past, reportedSession exchange = none) :
    Progress service tenantId past [] [] [] where
  forward := forward
  reported := forward_none unreported
  drawn := fun _ member => nomatch member
  distinct := fun _ => List.nodup_nil
  reserved := .nil
  named := rfl

/-- An exchange that opens nothing. -/
theorem Progress.wait (progress : Progress service tenantId past made reservations outputs)
    {exchange : Exchange Answer} (forward : Forward exchange)
    (unreported : reportedSession exchange = none) :
    Progress service tenantId (past ++ [exchange]) made reservations outputs where
  forward := by
    intro other member
    obtain old | new := List.mem_append.1 member
    · exact progress.forward other old
    · rw [List.mem_singleton.1 new]
      exact forward
  reported := by
    rw [List.filterMap_append, List.filterMap_cons_none unreported, List.filterMap_nil,
      List.append_nil]
    exact progress.reported
  drawn := fun upload member => (progress.drawn upload member).append
  distinct := fun distinct => progress.distinct distinct.of_append
  reserved := progress.reserved
  named := progress.named

/-- The transfer of one more file is opened. -/
theorem Progress.open (progress : Progress service tenantId past made reservations outputs)
    {exchange : Exchange Answer} {file : UploadFileIntent × UploadTransfer}
    {upload : UploadReservation} {output : CreatedUploadIntent} (forward : Forward exchange)
    (reported : reportedSession exchange = sessionOf service upload)
    (drawn : identifiers.Drew past upload.uploadId.uuid)
    (fresh : identifiers.Distinct past →
      upload.uploadId ∉ reservations.map UploadReservation.uploadId)
    (reserved : ReservedFor tenantId file upload) (named : output.uploadId = upload.uploadId) :
    Progress service tenantId (past ++ [exchange]) (made ++ [file]) (reservations ++ [upload])
      (outputs ++ [output]) where
  forward := by
    intro other member
    obtain old | new := List.mem_append.1 member
    · exact progress.forward other old
    · rw [List.mem_singleton.1 new]
      exact forward
  reported := by
    simp only [List.filterMap_append, progress.reported, List.filterMap_cons, reported,
      List.filterMap_nil]
  drawn := by
    intro other member
    obtain old | new := List.mem_append.1 member
    · exact (progress.drawn other old).append
    · rw [List.mem_singleton.1 new]
      exact drawn.append
  distinct := by
    intro distinct
    have before := distinct.of_append
    rw [List.map_append, List.map_singleton, List.nodup_append]
    refine ⟨progress.distinct before, List.nodup_singleton _, ?_⟩
    rintro id member _ new rfl
    rw [List.mem_singleton.1 new] at member
    exact fresh before member
  reserved := List.rel_append progress.reserved (.cons reserved .nil)
  named := by
    rw [List.map_append, List.map_append, progress.named, List.map_singleton, List.map_singleton,
      named]

/-- A new identifier is none of those reserved. -/
theorem Progress.fresh (progress : Progress service tenantId past made reservations outputs)
    {uuid : Uuid} (distinct : identifiers.Distinct (past ++ [⟨.drawId, uuid⟩])) :
    (⟨uuid⟩ : UploadId) ∉ reservations.map UploadReservation.uploadId := by
  intro member
  obtain ⟨-, new⟩ := TokenUse.distinct_append.1 distinct
  obtain ⟨upload, there, same⟩ := List.mem_map.1 member
  have drawn := progress.drawn upload there
  rw [same] at drawn
  exact new uuid rfl drawn

/-- **The cleanup unwinds what was opened.** -/
theorem Progress.unwound (progress : Progress service tenantId past made reservations outputs)
    {more : History} {cleaned : Bool} (cleans : Cleaned service reservations more cleaned)
    {error : CreateUploadBatchError} (plain : error ≠ .cleanupRequired)
    (keyed : error ≠ .generatedObjectKey) :
    Unwound (past ++ more) (if cleaned then error else .cleanupRequired) where
  unsaved := by
    rw [List.filterMap_append, cleans.unsaved, List.append_nil]
    exact forward_none fun exchange member => (progress.forward exchange member).unsaved
  required := by
    have failing : (∃ exchange ∈ past ++ more, abortFailed exchange = true) ↔ cleaned = false := by
      rw [cleans.failed]
      constructor
      · rintro ⟨exchange, member, failed⟩
        obtain old | new := List.mem_append.1 member
        · rw [(progress.forward exchange old).unfailed] at failed
          cases failed
        · exact ⟨exchange, new, failed⟩
      · rintro ⟨exchange, member, failed⟩
        exact ⟨exchange, List.mem_append_right _ member, failed⟩
    rw [failing]
    cases cleaned <;> simp [plain]
  aborted := by
    intro plainly
    cases cleaned with
    | false => exact absurd rfl plainly
    | true =>
        rw [List.filterMap_append, List.filterMap_append, cleans.aborted rfl, cleans.unreported,
          progress.reported, List.append_nil,
          forward_none fun exchange member => (progress.forward exchange member).unaborted,
          List.nil_append]
  keyed := by
    cases cleaned with
    | false => simp
    | true => exact keyed

/-- An error before the first session. -/
theorem Progress.refused (progress : Progress service tenantId past [] [] [])
    {error : CreateUploadBatchError} (plain : error ≠ .cleanupRequired)
    (keyed : error ≠ .generatedObjectKey) : Unwound past error := by
  have nothing : Cleaned service [] [] true := ⟨rfl, rfl, fun _ => rfl, by simp⟩
  have unwound := progress.unwound nothing plain keyed
  rwa [List.append_nil] at unwound

/-! ## The service -/

/-- One reservation more is cleaned. -/
theorem Cleaned.cons {upload : UploadReservation} {first more : History} {aborted cleaned : Bool}
    (head : Cleaned service [upload] first aborted)
    (rest : Cleaned service reservations more cleaned) :
    Cleaned service (upload :: reservations) (first ++ more) (aborted && cleaned) where
  unsaved := by rw [List.filterMap_append, head.unsaved, rest.unsaved, List.nil_append]
  unreported := by rw [List.filterMap_append, head.unreported, rest.unreported, List.nil_append]
  aborted := by
    intro both
    obtain ⟨first, others⟩ := Bool.and_eq_true_iff.1 both
    rw [List.filterMap_append, head.aborted first, rest.aborted others, ← List.filterMap_append]
    rfl
  failed := by
    rw [Bool.and_eq_false_iff, head.failed, rest.failed]
    simp only [List.mem_append]
    constructor
    · rintro (⟨exchange, member, failed⟩ | ⟨exchange, member, failed⟩)
      · exact ⟨exchange, .inl member, failed⟩
      · exact ⟨exchange, .inr member, failed⟩
    · rintro ⟨exchange, member | member, failed⟩
      · exact .inl ⟨exchange, member, failed⟩
      · exact .inr ⟨exchange, member, failed⟩

/-- **The cleanup aborts the session of every reservation.** -/
theorem cleanup_cleans (reservations : List UploadReservation) (past : History) :
    Follows (fun _ request => BatchAsks request)
      (fun past' cleaned => ∃ more, past' = past ++ more ∧
        Cleaned service reservations more cleaned) past (service.cleanup reservations) := by
  induction reservations generalizing past with
  | nil => exact ⟨[], (List.append_nil _).symm, rfl, rfl, fun _ => rfl, by simp⟩
  | cons upload reservations ih =>
      have others : ∀ (first : History) (aborted : Bool), Cleaned service [upload] first aborted →
          Follows (fun _ request => BatchAsks request)
            (fun past' cleaned => ∃ more, past' = past ++ more ∧
              Cleaned service (upload :: reservations) more cleaned) (past ++ first)
            ((service.cleanup reservations).bind fun cleaned => .done (aborted && cleaned)) := by
        intro first aborted head
        refine follows_bind.2 ((ih (past ++ first)).weaken ?_)
        rintro _ cleaned ⟨more, rfl, rest⟩
        exact ⟨first ++ more, List.append_assoc .., head.cons rest⟩
      unfold UploadIntentService.cleanup
      cases session : upload.multipartUploadId with
      | none =>
          have rest := others [] true ⟨rfl, rfl, fun _ => by simp [sessionOf, session], by simp⟩
          rw [List.append_nil] at rest
          exact rest
      | some uploadId =>
          refine ⟨trivial, fun answer => ?_⟩
          refine others [_] (S3CompatibleStore.abortOutcome answer).toBool ⟨rfl, rfl, ?_, ?_⟩
          · intro aborted
            simp [abortedSession, sessionOf, session, aborted]
          · simp [abortFailed]

/-- The transfer of a file is opened by one exchange, or nothing is opened. -/
theorem openTransfer_opens (objectKey : ObjectKey) (file : UploadFileIntent)
    (transfer : UploadTransfer) (past : History) :
    (service.openTransfer objectKey file transfer).Follows (fun _ request => BatchAsks request)
      (fun past' result => match result with
        | .ok (session, _) => ∃ exchange, past' = past ++ [exchange] ∧ Forward exchange ∧
            reportedSession exchange = session.map fun session =>
              (service.objectStore.bucket, objectKey.asStr, session)
        | .error _ => past' = past ∨ ∃ exchange, past' = past ++ [exchange] ∧ Forward exchange ∧
            reportedSession exchange = none) past := by
  cases transfer with
  | singlePut =>
      refine Attempt.follows_bind (Q := fun past' result => match result with
        | .ok _ => ∃ exchange, past' = past ++ [exchange] ∧ Forward exchange ∧
            reportedSession exchange = none
        | .error _ => past' = past ∨ ∃ exchange, past' = past ++ [exchange] ∧ Forward exchange ∧
            reportedSession exchange = none) ?_ (fun past' url opened => opened)
        fun past' error failed => failed
      refine Attempt.follows_ensure (fun _ => ?_) fun _ => .inl rfl
      refine Attempt.follows_mapError ⟨trivial, fun answer => ?_⟩
      cases answer with
      | ok url => exact ⟨_, rfl, ⟨rfl, rfl, rfl⟩, rfl⟩
      | error message => exact .inr ⟨_, rfl, ⟨rfl, rfl, rfl⟩, rfl⟩
  | multipart partSizeBytes =>
      refine Attempt.follows_bind (Q := fun past' result => match result with
        | .ok session => ∃ exchange, past' = past ++ [exchange] ∧ Forward exchange ∧
            reportedSession exchange =
              some (service.objectStore.bucket, objectKey.asStr, session)
        | .error _ => past' = past ∨ ∃ exchange, past' = past ++ [exchange] ∧ Forward exchange ∧
            reportedSession exchange = none) ?_ (fun past' session opened => opened)
        fun past' error failed => failed
      refine follows_sent trivial (fun output => ?_) fun error =>
        .inr ⟨_, rfl, ⟨rfl, rfl, rfl⟩, rfl⟩
      cases output with
      | none => exact .inr ⟨_, rfl, ⟨rfl, rfl, rfl⟩, rfl⟩
      | some session => exact ⟨_, rfl, ⟨rfl, rfl, rfl⟩, rfl⟩

/-- **The loop reserves every file, or unwinds what it opened.** -/
theorem reserveFiles_progress (valid : tenantIsValid tenantId = true)
    (files : List (UploadFileIntent × UploadTransfer))
    (progress : Progress service tenantId past made reservations outputs) :
    (service.reserveFiles tenantId files reservations outputs).Follows
      (fun _ request => BatchAsks request)
      (fun past' result => match result with
        | .ok (all, given) => Progress service tenantId past' (made ++ files) all given
        | .error error => Unwound past' error) past := by
  induction files generalizing past made reservations outputs with
  | nil =>
      show Progress service tenantId past (made ++ []) reservations outputs
      rwa [List.append_nil]
  | cons intent files ih =>
      obtain ⟨file, transfer⟩ := intent
      unfold UploadIntentService.reserveFiles
      refine follows_drawId trivial fun uuid => ?_
      have drawn : Progress service tenantId (past ++ [⟨.drawId, uuid⟩]) made reservations outputs :=
        progress.wait ⟨rfl, rfl, rfl⟩ rfl
      have fresh : identifiers.Distinct (past ++ [⟨.drawId, uuid⟩]) →
          (⟨uuid⟩ : UploadId) ∉ reservations.map UploadReservation.uploadId := progress.fresh
      have drew := drew_drawn past uuid
      generalize past ++ [(⟨.drawId, uuid⟩ : Exchange Answer)] = past' at drawn fresh drew ⊢
      refine Attempt.follows_okOr (fun objectKey formed => ?_) fun none => ?_
      · have named := ObjectKey.new_asStr formed
        refine Attempt.follows_lifted (openTransfer_opens objectKey file transfer past') ?_
        rintro opened (error | ⟨session, signed⟩) holds
        · refine Attempt.follows_lifted (cleanup_cleans reservations opened) ?_
          rintro _ cleaned ⟨more, rfl, cleans⟩
          have waited : Progress service tenantId opened made reservations outputs := by
            obtain rfl | ⟨exchange, rfl, forward, unreported⟩ := holds
            · exact drawn
            · exact drawn.wait forward unreported
          exact waited.unwound cleans (by simp) (by simp)
        · obtain ⟨exchange, rfl, forward, reported⟩ := holds
          have next : Progress service tenantId (past' ++ [exchange])
              (made ++ [(file, transfer)])
              (reservations ++ [⟨⟨uuid⟩, objectKey, file.declaredKind, file.contentLength,
                file.contentTypeHint, transfer, session⟩])
              (outputs ++ [⟨file.clientRef, ⟨uuid⟩, transfer, signed⟩]) :=
            drawn.open forward reported drew fresh ⟨rfl, rfl, rfl, rfl, named⟩ rfl
          have rest := ih next
          rwa [List.append_assoc] at rest
      · obtain ⟨key, formed⟩ := rawKeyText_made valid ⟨uuid⟩
        rw [formed] at none
        cases none

/-- A call that succeeded: it saved one batch, with a reservation for every file. -/
structure Saved (service : UploadIntentService) (request : CreateUploadBatch) (past : History)
    (created : CreatedUploadBatch) (transfers : List UploadTransfer)
    (batch : UploadBatchReservation) : Prop where
  planned : service.policy.plan (request.files.map fun file =>
    ⟨file.declaredKind, file.contentLength⟩) = .ok transfers
  saved : past.filterMap savedBatch = [batch]
  id : batch.batchId = created.batchId
  tenant : batch.tenantId = request.tenantId
  reserved : List.Forall₂ (ReservedFor request.tenantId) (request.files.zip transfers) batch.uploads
  distinct : identifiers.Distinct past → (batch.uploads.map UploadReservation.uploadId).Nodup
  named : created.uploads.map CreatedUploadIntent.uploadId =
    batch.uploads.map UploadReservation.uploadId

/-- How a call of `create_batch` ends. -/
def Settled (service : UploadIntentService) (request : CreateUploadBatch) (past : History) :
    Except CreateUploadBatchError CreatedUploadBatch → Prop
  | .ok created => ∃ transfers batch, Saved service request past created transfers batch
  | .error error => Unwound past error

/-- What is checked without opening a session. -/
theorem Progress.settled (progress : Progress service tenantId past [] [] [])
    {request : CreateUploadBatch} {error : CreateUploadBatchError}
    (plain : error ≠ .cleanupRequired) (keyed : error ≠ .generatedObjectKey) :
    Settled service request past (.error error) := progress.refused plain keyed

theorem validateFileMetadata_plain {seen : List String} {files : List UploadFileIntent}
    {error : CreateUploadBatchError} (refused : validateFileMetadata seen files = .error error) :
    error ≠ .cleanupRequired ∧ error ≠ .generatedObjectKey := by
  induction files generalizing seen with
  | nil => cases refused
  | cons file files ih =>
      rw [validateFileMetadata] at refused
      split at refused
      · cases refused
        simp
      split at refused
      · cases refused
        simp
      · exact ih refused

/-- The batch is saved. -/
theorem Progress.saved {request : CreateUploadBatch} {transfers : List UploadTransfer}
    (progress : Progress service request.tenantId past (request.files.zip transfers) reservations
      outputs) (batchId : UploadBatchId) (createdAt : OffsetDateTime)
    (planned : (service.policy.plan (request.files.map fun file =>
      ⟨file.declaredKind, file.contentLength⟩)).mapError CreateUploadBatchError.policy =
        .ok transfers) :
    Settled service request (past ++ [⟨.store (.saveBatch ⟨batchId, request.tenantId, createdAt,
      reservations⟩ service.capacity), .ok ()⟩]) (.ok ⟨batchId, outputs⟩) := by
  refine ⟨transfers, ⟨batchId, request.tenantId, createdAt, reservations⟩, ?_, ?_, rfl, rfl,
    progress.reserved, fun distinct => progress.distinct distinct.of_append, progress.named⟩
  · cases same : service.policy.plan (request.files.map fun file =>
      ⟨file.declaredKind, file.contentLength⟩) with
    | ok issued =>
        rw [same] at planned
        cases planned
        rfl
    | error error =>
        rw [same] at planned
        cases planned
  · rw [List.filterMap_append,
      forward_none fun exchange member => (progress.forward exchange member).unsaved]
    rfl

theorem saveError_plain (error : UploadRepositoryError) :
    UploadIntentService.saveError error ≠ .cleanupRequired ∧
      UploadIntentService.saveError error ≠ .generatedObjectKey := by
  cases error <;> simp [UploadIntentService.saveError]

/-- **`create_batch` saves the whole batch or unwinds all of it.** -/
theorem createBatch_settles (request : CreateUploadBatch) :
    (service.createBatch request).Follows (fun _ request => BatchAsks request)
      (Settled service request) [] := by
  have start : Progress service request.tenantId [] [] [] [] :=
    .start (fun _ member => nomatch member) fun _ member => nomatch member
  unfold UploadIntentService.createBatch
  refine Attempt.follows_ensure (fun valid => ?_) fun _ => start.settled (by simp) (by simp)
  refine Attempt.follows_ofExcept (fun _ _ => ?_) fun error refused => ?_
  · refine Attempt.follows_ofExcept (fun transfers planned => ?_) fun error refused => ?_
    · refine Attempt.follows_okOr (fun additional _ => ?_) fun _ => start.settled (by simp) (by simp)
      refine Attempt.follows_ensure (fun _ => ?_) fun _ => start.settled (by simp) (by simp)
      refine follows_call trivial (fun allowed => ?_) fun error =>
        (start.wait ⟨rfl, rfl, rfl⟩ rfl).settled (by simp) (by simp)
      have counted : Progress service request.tenantId ([] ++ [⟨.store (.hasCapacity
          request.tenantId request.files.length additional service.capacity), .ok allowed⟩])
          [] [] [] := start.wait ⟨rfl, rfl, rfl⟩ rfl
      refine Attempt.follows_ensure (fun _ => ?_) fun _ => counted.settled (by simp) (by simp)
      refine follows_drawId trivial fun batchId => follows_now trivial fun createdAt => ?_
      have begun : Progress service request.tenantId ([] ++ [⟨.store (.hasCapacity
          request.tenantId request.files.length additional service.capacity), .ok allowed⟩] ++
          [⟨.drawId, batchId⟩] ++ [⟨.now, createdAt⟩]) [] [] [] :=
        Progress.wait (Progress.wait counted ⟨rfl, rfl, rfl⟩ rfl) ⟨rfl, rfl, rfl⟩ rfl
      refine Attempt.follows_bind (reserveFiles_progress valid _ begun) ?_ fun _ _ unwound => unwound
      rintro past ⟨reservations, outputs⟩ progress
      refine Attempt.follows_lifted (Q := fun past' (saved : Except UploadRepositoryError Unit) =>
        past' = past ++ [(⟨.store (.saveBatch ⟨⟨batchId⟩, request.tenantId, createdAt,
          reservations⟩ service.capacity), saved⟩ : Exchange Answer)])
        ⟨trivial, fun _ => rfl⟩ ?_
      rintro _ (error | ⟨⟩) rfl
      · refine Attempt.follows_lifted (cleanup_cleans reservations _) ?_
        rintro _ cleaned ⟨more, rfl, cleans⟩
        obtain ⟨plain, keyed⟩ := saveError_plain error
        exact (progress.wait ⟨rfl, rfl, rfl⟩ rfl).unwound cleans plain keyed
      · exact progress.saved ⟨batchId⟩ createdAt planned
    · cases planned : service.policy.plan (request.files.map fun file =>
        ⟨file.declaredKind, file.contentLength⟩) with
      | ok transfers =>
          rw [planned] at refused
          cases refused
      | error error =>
          rw [planned] at refused
          cases refused
          exact start.settled (by simp) (by simp)
  · obtain ⟨plain, keyed⟩ := validateFileMetadata_plain refused
    exact start.settled plain keyed

end Loop

/-! ## What a thread persists -/

section Runs

variable {d : Deployment} {i : Nat} {s t : SystemState} {request : CreateUploadBatch}

/-- The rows thread `i` adds to `uploads` in the steps of a run that are its own. -/
inductive Persists (d : Deployment) (i : Nat) :
    SystemState → List SystemLabel → SystemState → List UploadRow → Prop
  | nil (s : SystemState) : Persists d i s [] s []
  | own {s t w : SystemState} {exchange : Exchange Answer} {labels : List SystemLabel}
      {added rows : List UploadRow} (step : d.machine.Step s (.asked i exchange) t)
      (adds : t.shared.store.uploads = s.shared.store.uploads ++ added)
      (rest : Persists d i t labels w rows) :
      Persists d i s (.asked i exchange :: labels) w (added ++ rows)
  | other {s t w : SystemState} {label : SystemLabel} {labels : List SystemLabel}
      {rows : List UploadRow} (step : d.machine.Step s label t)
      (apart : ∀ exchange, label ≠ .asked i exchange) (rest : Persists d i t labels w rows) :
      Persists d i s (label :: labels) w rows

/-- The rows of batches, reservation by reservation. -/
def Binds (batches : List UploadBatchReservation) (rows : List UploadRow) : Prop :=
  List.Forall₂ (fun reservation row => reservationRow reservation.1 reservation.2 = .ok row)
    (batches.flatMap fun batch => batch.uploads.map (Prod.mk batch)) rows

/-- **A step of the call adds the rows of the batch it saves, and nothing else.** -/
theorem batch_step {exchange : Exchange Answer} (step : d.machine.Step s (.asked i exchange) t)
    (called : s.call i = some (.createBatch request)) :
    ∃ added, t.shared.store.uploads = s.shared.store.uploads ++ added ∧
      Binds (savedBatch exchange).toList added := by
  obtain ⟨call, next, asked⟩ := step.asked_cases
  obtain rfl : call = .createBatch request := Option.some.inj (asked.call.symm.trans called)
  have follows : Follows (fun _ request => BatchAsks request) (fun _ _ => True) []
      (d.program (.createBatch request)) :=
    follows_discard ((createBatch_settles request).weaken fun _ _ _ => trivial)
  have asks := (follows.at asked.stands).1
  have answered := asked.answered
  obtain ⟨request, answer⟩ := exchange
  have quiet : savedBatch ⟨request, answer⟩ = none →
      t.shared.store.uploads = s.shared.store.uploads →
        ∃ added, t.shared.store.uploads = s.shared.store.uploads ++ added ∧
          Binds (savedBatch ⟨request, answer⟩).toList added := by
    intro unsaved same
    refine ⟨[], by rw [same, List.append_nil], ?_⟩
    rw [unsaved]
    exact .nil
  change s.shared.Answers request answer t.shared at answered
  cases request with
  | now => exact quiet rfl (by rw [show t.shared = _ from answered])
  | drawId => exact quiet rfl (by rw [answered.2])
  | store op =>
      obtain ⟨store', replies, moved⟩ := answered
      cases op with
      | hasCapacity tenantId additionalUploads additionalBytes capacity =>
          refine quiet (by cases answer <;> rfl) ?_
          rw [moved]
          cases replies with
          | refused => rfl
          | ran answer =>
              have reads : s.shared.store = (Store.hasCapacity tenantId additionalUploads
                  additionalBytes capacity s.shared.store).2 := moves_hasCapacity _ _ _ _ _
              rw [show Store.hasCapacity _ _ _ _ _ = _ from answer] at reads
              exact congrArg SqliteStore.uploads reads.symm
      | saveBatch batch capacity =>
          rw [moved]
          cases replies with
          | refused error => exact ⟨[], (List.append_nil _).symm, .nil⟩
          | ran answer =>
              obtain ⟨rfl, error, rfl⟩ | ⟨rfl, size, rows, saved⟩ := saveBatch_cases answer
              · exact ⟨[], (List.append_nil _).symm, .nil⟩
              · refine ⟨rows, saved.uploads, ?_⟩
                show List.Forall₂ _ ([batch].flatMap _) rows
                rw [List.flatMap_singleton, List.forall₂_map_left_iff]
                exact saved.bound
      | _ => exact asks.elim
  | provider request =>
      obtain ⟨provider', -, moved⟩ := answered
      exact quiet (by cases request <;> rfl) (by rw [moved])
  | presignPut bucket key contentLength =>
      cases answer with
      | ok url => exact quiet rfl (by rw [show t.shared = _ from answered])
      | error message => exact quiet rfl (by rw [show t.shared = _ from answered])
  | presignPart | host => exact asks.elim

/-- **What a call persists are the rows of the batches it saved.** -/
theorem persists_of_trace {labels : List SystemLabel} {w : SystemState}
    (run : Trace d.machine.Step s labels w) (called : w.call i = some (.createBatch request)) :
    ∃ more rows, w.past i = s.past i ++ more ∧ Persists d i s labels w rows ∧
      Binds (more.filterMap savedBatch) rows := by
  induction run with
  | nil s => exact ⟨[], [], (List.append_nil _).symm, .nil s, .nil⟩
  | @cons s t w label labels step rest ih =>
      obtain ⟨more, rows, heard, persists, binds⟩ := ih called
      rw [step.past, List.append_assoc] at heard
      by_cases own : ∃ exchange, label = .asked i exchange
      · obtain ⟨exchange, rfl⟩ := own
        obtain ⟨call, next, asked⟩ := step.asked_cases
        have later : w.call i = some call :=
          rest.keeps (P := fun u => u.call i = some call) (fun _ _ _ step called => step.call called)
            (step.call asked.call)
        have same : call = .createBatch request := Option.some.inj (later.symm.trans called)
        obtain ⟨added, adds, bound⟩ := batch_step step (same ▸ asked.call)
        refine ⟨_, added ++ rows, heard, .own step adds persists, ?_⟩
        unfold Binds
        rw [Label.heard, if_pos rfl, List.filterMap_append, List.flatMap_append]
        refine List.rel_append ?_ binds
        have one : [exchange].filterMap savedBatch = (savedBatch exchange).toList := by
          cases saved : savedBatch exchange <;> simp [saved]
        rw [one]
        exact bound
      · have apart : ∀ exchange, label ≠ .asked i exchange := fun exchange same => own ⟨exchange, same⟩
        have quiet : label.heard i = [] := by
          obtain quiet | ⟨exchange, same⟩ := label.heard_eq i
          · exact quiet
          · exact absurd same (apart exchange)
        rw [quiet] at heard
        exact ⟨more, rows, heard, .other step apart persists, binds⟩

/-- The transfer columns of a row. -/
def rowTransfer : UploadTransfer → TransferKind × Option Int
  | .singlePut => (.singlePut, none)
  | .multipart partSizeBytes => (.multipart, some partSizeBytes)

/-- The row a file and its transfer are persisted as. -/
structure PersistedFor (tenantId : String) (file : UploadFileIntent × UploadTransfer)
    (row : UploadRow) : Prop where
  tenant : row.tenantId = tenantId
  kind : row.declaredKind = file.1.declaredKind
  size : row.expectedSizeBytes = file.1.contentLength
  hint : row.contentTypeHint = file.1.contentTypeHint
  transfer : (row.transferKind, row.multipartPartSizeBytes) = rowTransfer file.2
  key : row.objectKey.asStr = rawKeyText tenantId row.id
  state : row.state = .created

theorem reservationRow_persistedFor {batch : UploadBatchReservation} {upload : UploadReservation}
    {row : UploadRow} {file : UploadFileIntent × UploadTransfer}
    (reserved : ReservedFor batch.tenantId file upload)
    (bound : reservationRow batch upload = .ok row) :
    PersistedFor batch.tenantId file row ∧ row.id = upload.uploadId := by
  obtain ⟨kind, size, hint, transfer, key⟩ := reserved
  rw [reservationRow] at bound
  split at bound
  · cases bound
  rename_i expectedSize sized
  obtain ⟨rfl, -⟩ := i64TryFrom_eq_some.1 sized
  split at bound
  · rename_i single
    cases bound
    refine ⟨⟨rfl, kind, by rw [← size]; rfl, hint, ?_, key, rfl⟩, rfl⟩
    rw [← transfer, single]
    rfl
  · rename_i partSizeBytes multipart
    split at bound
    · cases bound
    rename_i partSize fits
    obtain ⟨rfl, -⟩ := i64TryFrom_eq_some.1 fits
    split at bound
    · cases bound
    cases bound
    refine ⟨⟨rfl, kind, by rw [← size]; rfl, hint, ?_, key, rfl⟩, rfl⟩
    rw [← transfer, multipart]
    rfl

/-- The rows of the reservations of one batch. -/
theorem binds_persistedFor {tenantId : String} {batch : UploadBatchReservation}
    {rows : List UploadRow} {files : List (UploadFileIntent × UploadTransfer)}
    (same : batch.tenantId = tenantId) (binds : Binds [batch] rows)
    (reserved : List.Forall₂ (ReservedFor tenantId) files batch.uploads) :
    List.Forall₂ (PersistedFor tenantId) files rows ∧
      rows.map (fun row => row.id) = batch.uploads.map UploadReservation.uploadId := by
  subst same
  unfold Binds at binds
  rw [List.flatMap_singleton, List.forall₂_map_left_iff] at binds
  generalize batch.uploads = uploads at binds reserved
  induction reserved generalizing rows with
  | nil =>
      cases binds
      exact ⟨.nil, rfl⟩
  | cons first _ ih =>
      cases binds with
      | cons bound others =>
          obtain ⟨persisted, id⟩ := reservationRow_persistedFor first bound
          obtain ⟨rest, ids⟩ := ih others
          exact ⟨.cons persisted rest, by rw [List.map_cons, List.map_cons, ids, id]⟩

theorem raw_keys_nodup {tenantId : String} {files : List (UploadFileIntent × UploadTransfer)}
    {rows : List UploadRow} (persisted : List.Forall₂ (PersistedFor tenantId) files rows)
    (ids : (rows.map fun row => row.id).Nodup) :
    (rows.map fun row => row.objectKey.asStr).Nodup := by
  have texts : rows.map (fun row => row.objectKey.asStr) =
      (rows.map fun row => row.id).map (rawKeyText tenantId) := by
    clear ids
    induction persisted with
    | nil => rfl
    | cons first _ ih => rw [List.map_cons, List.map_cons, List.map_cons, ih, first.key]
  rw [texts]
  exact ids.map fun _ _ same => rawKeyText_uploadId same

/-- The outcome of a call that persisted `rows`: one row for every file, or none at all and
every session aborted, with an error of its own where an abort failed. -/
def AllOrNothing (service : UploadIntentService) (request : CreateUploadBatch) (past : History)
    (rows : List UploadRow) : Except CreateUploadBatchError CreatedUploadBatch → Prop
  | .ok created => ∃ transfers,
      service.policy.plan (request.files.map fun file =>
        ⟨file.declaredKind, file.contentLength⟩) = .ok transfers ∧
      transfers.length = request.files.length ∧
      List.Forall₂ (PersistedFor request.tenantId) (request.files.zip transfers) rows ∧
      (rows.map fun row => row.id).Nodup ∧ (rows.map fun row => row.objectKey.asStr).Nodup ∧
      created.uploads.map CreatedUploadIntent.uploadId = rows.map fun row => row.id
  | .error error => rows = [] ∧
      (error = .cleanupRequired ↔ ∃ exchange ∈ past, abortFailed exchange = true) ∧
      (error ≠ .cleanupRequired →
        past.filterMap abortedSession = past.filterMap reportedSession) ∧
      error ≠ .generatedObjectKey

/-- **A batch is created as a whole or not at all.**  However a call of `create_batch` ends,
whatever the provider and the store answered it and whatever ran beside it: if it succeeds, it
has persisted one row for every file, in their order, under identifiers and keys of their own
and with the transfers of the plan; if it fails, it has persisted nothing, and has aborted just
the sessions it was told of unless an abort failed, which is when it says so. -/
theorem createBatch_all_or_nothing {clock : OffsetDateTime} {labels : List SystemLabel}
    {result : Except CreateUploadBatchError CreatedUploadBatch}
    (run : Trace d.machine.Step (.initial (.fresh clock)) labels s)
    (called : s.call i = some (.createBatch request))
    (ended : At (d.uploads.createBatch request).attempt (s.past i) (.done result)) :
    ∃ rows, Persists d i (.initial (.fresh clock)) labels s rows ∧
      AllOrNothing d.uploads request (s.past i) rows result := by
  obtain ⟨more, rows, heard, persists, binds⟩ := persists_of_trace run called
  rw [State.past_initial, List.nil_append] at heard
  refine ⟨rows, persists, ?_⟩
  have settled : Settled d.uploads request (s.past i) result :=
    Follows.at (createBatch_settles request) ended
  have distinct := (Deployment.run_recorded ⟨clock, run⟩).sound.distinct i
  cases result with
  | ok created =>
      obtain ⟨transfers, batch, saved⟩ := settled
      rw [← heard, saved.saved] at binds
      obtain ⟨persisted, ids⟩ := binds_persistedFor saved.tenant binds saved.reserved
      have nodup := saved.distinct distinct
      rw [← ids] at nodup
      have length : transfers.length = request.files.length := by
        rw [(UploadBatchPolicy.plan_ok saved.planned).1, List.length_map, List.length_map]
      exact ⟨transfers, saved.planned, length, persisted, nodup, raw_keys_nodup persisted nodup,
        saved.named.trans ids.symm⟩
  | error error =>
      obtain ⟨unsaved, required, aborted, keyed⟩ := settled
      rw [← heard, unsaved] at binds
      cases binds
      exact ⟨rfl, required, aborted, keyed⟩

/-- Two calls that both find room for their files, where there is room for one of them: the
first saves its three files, and the second aborts its two sessions. -/
def overlappingBatches : List (Command ServiceCall Event) :=
  [.start (.createBatch ⟨"g5", [⟨"a", .image, 100, "image/png"⟩, ⟨"b", .video, 300, "video/mp4"⟩,
      ⟨"c", .image, 400, "image/png"⟩]⟩),
    .start (.createBatch ⟨"g5", [⟨"d", .video, 500, "video/mp4"⟩, ⟨"e", .image, 250, "image/png"⟩]⟩),
    .run 0 9, .run 1 7, .run 0 1, .run 1 3]

/-- The request thread `i` called `create_batch` with. -/
def batchRequest (s : SystemState) (i : Nat) : Option CreateUploadBatch :=
  match s.call i with
  | some (.createBatch request) => some request
  | _ => none

theorem batchRequest_isSome (creates : (batchRequest s i).isSome = true) :
    ∃ request, s.call i = some (.createBatch request) := by
  unfold batchRequest at creates
  split at creates
  · rename_i request called
    exact ⟨request, called⟩
  · cases creates

/-- Whether the first call has saved its batch, and the second has aborted its sessions. -/
def batchesSettled (s : SystemState) : Bool :=
  (batchRequest s 0).isSome && (batchRequest s 1).isSome && s.shared.store.uploads.length == 3 &&
    ((s.past 0).filterMap savedBatch).length == 1 &&
    ((s.past 1).filterMap savedBatch).length == 0 &&
    ((s.past 1).filterMap abortedSession).length == 2

/-- How a call has ended shows in whether it has saved a batch. -/
theorem createBatch_ended (called : s.call i = some (.createBatch request))
    (ended : ∃ call, s.call i = some call ∧ At (d.program call) (s.past i) (.done ())) :
    (∃ created, At (d.uploads.createBatch request).attempt (s.past i) (.done (.ok created)) ∧
      (s.past i).filterMap savedBatch ≠ []) ∨
    ∃ error, At (d.uploads.createBatch request).attempt (s.past i) (.done (.error error)) ∧
      (s.past i).filterMap savedBatch = [] := by
  obtain ⟨call, same, ended⟩ := ended
  obtain rfl : call = .createBatch request := Option.some.inj (same.symm.trans called)
  obtain ⟨before, stands, same⟩ := At.of_discard ended
  cases before with
  | ask => cases same
  | done result =>
      have settled : Settled d.uploads request (s.past i) result :=
        Follows.at (createBatch_settles request) stands
      cases result with
      | ok created =>
          obtain ⟨transfers, batch, saved⟩ := settled
          refine .inl ⟨created, stands, ?_⟩
          rw [saved.saved]
          exact List.cons_ne_nil _ _
      | error error => exact .inr ⟨error, stands, settled.1⟩

/-- Of two overlapping calls the first stores its three files, one by a single PUT and two by
sessions, and the second stores nothing and aborts the two sessions it had opened. -/
theorem createBatch_all_or_nothing_sample :
    ∃ labels, ∃ s : SystemState, ∃ first second rows created error,
      s.call 0 = some (.createBatch first) ∧ s.call 1 = some (.createBatch second) ∧
      Persists sampleDeployment 0 (.initial (.fresh (sampleTime 0))) labels s rows ∧
      Persists sampleDeployment 1 (.initial (.fresh (sampleTime 0))) labels s [] ∧
      s.shared.store.uploads.length = 3 ∧ ((s.past 1).filterMap abortedSession).length = 2 ∧
      AllOrNothing sampleDeployment.uploads first (s.past 0) rows (.ok created) ∧
      AllOrNothing sampleDeployment.uploads second (s.past 1) [] (.error error) := by
  have played : ((sampleDeployment.rehearsal 1000000000).performAll (fun _ _ => true)
      overlappingBatches ⟨.initial (.fresh (sampleTime 0)), []⟩).any (fun stage =>
        [0, 1].all (fun i => ended stage.programs[i]?) && batchesSettled stage.state) = true := by
    decide +kernel
  obtain ⟨labels, s, run, finished, settled⟩ := Deployment.rehearsed_ends played
  simp only [batchesSettled, Bool.and_eq_true, beq_iff_eq] at settled
  obtain ⟨⟨⟨⟨⟨creates, creates'⟩, stored⟩, saves⟩, unsaved⟩, aborts⟩ := settled
  obtain ⟨first, called⟩ := batchRequest_isSome creates
  obtain ⟨second, called'⟩ := batchRequest_isSome creates'
  obtain ⟨created, stands, -⟩ | ⟨-, -, none⟩ :=
    createBatch_ended (d := sampleDeployment) called (finished 0 (by simp))
  · obtain ⟨-, -, some⟩ | ⟨error, stands', -⟩ :=
      createBatch_ended (d := sampleDeployment) called' (finished 1 (by simp))
    · exact absurd (List.length_eq_zero_iff.1 unsaved) some
    · obtain ⟨rows, persists, outcome⟩ := createBatch_all_or_nothing run called stands
      obtain ⟨others, persists', outcome'⟩ := createBatch_all_or_nothing run called' stands'
      obtain rfl : others = [] := outcome'.1
      exact ⟨labels, s, first, second, rows, created, error, called, called', persists, persists',
        stored, aborts, outcome, outcome'⟩
  · rw [none] at saves
    cases saves

end Runs

end MediaBooster.Uploads
