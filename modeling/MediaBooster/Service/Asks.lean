/-
# Service.Asks -- what each service asks for

For each service the requests its programs can come to, with what the service fixes of their
arguments: its buckets, its limits, the name it goes by.  Anything a service cannot ask for
is something its threads never do, whatever they are told.
-/
import MediaBooster.Service.Inventory
import MediaBooster.Service.Lifecycle
import MediaBooster.Service.Policies
import MediaBooster.Service.Uploads
import MediaBooster.Service.Worker

namespace MediaBooster.Service

set_option autoImplicit false

open MediaBooster.Domain MediaBooster.Storage MediaBooster.Store MediaBooster.Theory.Threads

section Requests

variable {ε : Type} {allowed : Ask → Prop}

theorem only_now (permitted : allowed .now) : (now : Action ε OffsetDateTime).Only allowed :=
  Attempt.only_lift ⟨permitted, fun _ => trivial⟩

theorem only_drawId (permitted : allowed .drawId) : (drawId : Action ε Uuid).Only allowed :=
  Attempt.only_lift ⟨permitted, fun _ => trivial⟩

theorem only_call {op : Op} (permitted : allowed (.store op)) : (call op).Only allowed :=
  ⟨permitted, fun _ => trivial⟩

theorem only_host {request : HostRequest} (permitted : allowed (.host request)) :
    (host request : Action ε request.Output).Only allowed :=
  Attempt.only_lift ⟨permitted, fun _ => trivial⟩

theorem only_sent {request : ProviderRequest} (permitted : allowed (.provider request)) :
    (sent request).Only allowed :=
  Attempt.only_mapError ⟨permitted, fun _ => trivial⟩

end Requests

/-! ## The adapter -/

namespace S3CompatibleStore

variable {s3 : S3CompatibleStore} {allowed : Ask → Prop}

theorem only_presignPut {key : ObjectKey} {contentLength : Nat}
    (permitted : allowed (.presignPut s3.bucket key.asStr contentLength)) :
    (s3.presignPut key contentLength).Only allowed := by
  apply Attempt.only_bind (Attempt.only_ensure _ _)
  intro _
  exact Attempt.only_mapError ⟨permitted, fun _ => trivial⟩

theorem only_presignPart {key : ObjectKey} {uploadId : String} {partNumber contentLength : Nat}
    (permitted : allowed (.presignPart s3.bucket key.asStr uploadId partNumber contentLength)) :
    (s3.presignPart key uploadId partNumber contentLength).Only allowed := by
  apply Attempt.only_bind (Attempt.only_ofExcept _)
  intro _
  exact Attempt.only_mapError ⟨permitted, fun _ => trivial⟩

theorem only_createMultipart {key : ObjectKey}
    (permitted : allowed (.provider (.createMultipartUpload s3.bucket key.asStr))) :
    (s3.createMultipart key).Only allowed :=
  Attempt.only_bind (only_sent permitted) fun _ => Attempt.only_okOr _ _

theorem only_completeMultipart {key : ObjectKey} {uploadId : String} {parts : List CompletedPart}
    (permitted : allowed (.provider (.completeMultipartUpload s3.bucket key.asStr uploadId parts))) :
    (s3.completeMultipart key uploadId parts).Only allowed :=
  Attempt.only_bind (Attempt.only_ofExcept _) fun _ => only_sent permitted

theorem only_abortMultipart {key : ObjectKey} {uploadId : String}
    (permitted : allowed (.provider (.abortMultipartUpload s3.bucket key.asStr uploadId))) :
    (s3.abortMultipart key uploadId).Only allowed :=
  ⟨permitted, fun _ => trivial⟩

theorem only_head {key : ObjectKey}
    (permitted : allowed (.provider (.headObject s3.bucket key.asStr))) :
    (s3.head key).Only allowed :=
  ⟨permitted, fun _ => trivial⟩

theorem only_delete {key : ObjectKey}
    (permitted : allowed (.provider (.deleteObject s3.bucket key.asStr))) :
    (s3.delete key).Only allowed := only_sent permitted

theorem only_downloadTo {key : ObjectKey} {file : JobFile} {expectedLength maxLength : Nat}
    (fetches : allowed (.provider (.getObject s3.bucket key.asStr)))
    (saves : allowed (.host (.saveDownload file))) :
    (s3.downloadTo key file expectedLength maxLength).Only allowed := by
  apply Attempt.only_bind (Attempt.only_ensure _ _)
  intro _
  have fetched : (Program.request (Ask.provider (.getObject s3.bucket key.asStr)) :
      Program Answer _).Only allowed := ⟨fetches, fun _ => trivial⟩
  apply Attempt.only_bind (Attempt.only_lift fetched)
  intro answer
  apply Attempt.only_bind (Attempt.only_ofExcept _)
  intro _
  exact Attempt.only_bind (only_host saves) fun _ => Attempt.only_ofExcept _

theorem only_putFile {key : ObjectKey} {file : JobFile} {contentType : String}
    (measures : allowed (.host (.fileLength file)))
    (puts : ∀ length, allowed (.provider (.putObject s3.bucket key.asStr length))) :
    (s3.putFile key file contentType).Only allowed := by
  apply Attempt.only_bind (Attempt.only_ensure _ _)
  intro _
  apply Attempt.only_bind (only_host measures)
  intro length
  apply Attempt.only_bind (Attempt.only_okOr _ _)
  intro contentLength
  apply Attempt.only_bind (Attempt.only_ensure _ _)
  intro _
  apply Attempt.only_bind (Attempt.only_ensure _ _)
  intro _
  exact Attempt.only_bind (only_sent (puts _)) fun _ => Attempt.only_pure _

theorem only_listObjects {keyPrefix : String} {startAfter : Option String} {maxKeys : Nat}
    (lists : allowed (.provider (.listObjectsV2 s3.bucket keyPrefix startAfter maxKeys))) :
    (s3.listObjects keyPrefix startAfter maxKeys).Only allowed := by
  apply Attempt.only_bind (Attempt.only_ensure _ _)
  intro _
  exact Attempt.only_bind (only_sent lists) fun _ => Attempt.only_ofExcept _

end S3CompatibleStore

/-! ## Uploads -/

namespace UploadIntentService

/-- What the upload service asks for. -/
def Asks (service : UploadIntentService) : Ask → Prop
  | .now | .drawId => True
  | .store (.hasCapacity ..) | .store (.saveBatch ..) | .store (.findUpload ..)
  | .store (.markDeleted ..) => True
  | .store (.markQuarantinedAndEnqueue _ _ _ _ presetId _) => presetId = initialProcessingPreset
  | .provider (.createMultipartUpload bucket _) => bucket = service.objectStore.bucket
  | .provider (.completeMultipartUpload bucket _ _ _) => bucket = service.objectStore.bucket
  | .provider (.abortMultipartUpload bucket _ _) => bucket = service.objectStore.bucket
  | .provider (.headObject bucket _) => bucket = service.objectStore.bucket
  | .presignPut bucket _ _ => bucket = service.objectStore.bucket
  | .presignPart bucket _ _ _ _ => bucket = service.objectStore.bucket
  | _ => False

/-- What the loop over the files of a batch asks for. -/
def Opens (service : UploadIntentService) : Ask → Prop
  | .drawId => True
  | .provider (.createMultipartUpload bucket _) => bucket = service.objectStore.bucket
  | .provider (.abortMultipartUpload bucket _ _) => bucket = service.objectStore.bucket
  | .presignPut bucket _ _ => bucket = service.objectStore.bucket
  | _ => False

/-- What the service asks for once an upload is reserved. -/
def Controls (service : UploadIntentService) : Ask → Prop
  | .store (.saveBatch ..) => False
  | request => service.Asks request

variable (service : UploadIntentService)

variable {service} in
theorem Controls.asks {request : Ask} (controls : service.Controls request) :
    service.Asks request := by
  unfold Controls at controls
  split at controls
  · exact controls.elim
  · exact controls

variable {service} in
theorem Opens.asks {request : Ask} (opens : service.Opens request) : service.Asks request := by
  cases request with
  | drawId => trivial
  | provider request => cases request <;> first | exact opens | exact opens.elim
  | presignPut => exact opens
  | now | store | presignPart | host => exact opens.elim

theorem only_cleanup {allowed : Ask → Prop} (aborts : ∀ key uploadId,
      allowed (.provider (.abortMultipartUpload service.objectStore.bucket key uploadId)))
    (reservations : List UploadReservation) : (service.cleanup reservations).Only allowed := by
  induction reservations with
  | nil => trivial
  | cons reservation reservations ih =>
      unfold cleanup
      have rest : ∀ aborted : Except ObjectStoreError Unit, Program.Only allowed (do
          let others ← service.cleanup reservations
          return aborted.toBool && others) := fun _ => Program.Only.bind ih fun _ => trivial
      cases reservation.multipartUploadId with
      | none => exact rest (.ok ())
      | some uploadId =>
          exact Program.Only.bind (S3CompatibleStore.only_abortMultipart (aborts _ _)) rest

theorem only_findStored (tenantId : String) (uploadId : UploadId) :
    (findStored tenantId uploadId).Only service.Controls :=
  Attempt.only_bind (Attempt.only_mapError (only_call trivial)) fun _ => Attempt.only_okOr _ _

theorem only_reserveFiles (tenantId : String) (files : List (UploadFileIntent × UploadTransfer))
    (reservations : List UploadReservation) (outputs : List CreatedUploadIntent) :
    (service.reserveFiles tenantId files reservations outputs).Only service.Opens := by
  induction files generalizing reservations outputs with
  | nil => trivial
  | cons intent files ih =>
      obtain ⟨file, transfer⟩ := intent
      unfold reserveFiles
      apply Attempt.only_bind (only_drawId trivial)
      intro uuid
      apply Attempt.only_bind (Attempt.only_okOr _ _)
      intro objectKey
      have opens : (service.openTransfer objectKey file transfer).Only service.Opens := by
        cases transfer with
        | singlePut =>
            exact Attempt.only_bind (S3CompatibleStore.only_presignPut rfl)
              fun _ => Attempt.only_pure _
        | multipart =>
            exact Attempt.only_bind (S3CompatibleStore.only_createMultipart rfl)
              fun _ => Attempt.only_pure _
      apply Attempt.only_bind (Attempt.only_lift opens)
      intro opened
      cases opened with
      | error error =>
          exact Attempt.only_bind (Attempt.only_lift (service.only_cleanup (fun _ _ => rfl) _))
            fun _ => Attempt.only_fail _
      | ok transfer => exact ih _ _

theorem only_createBatch (request : CreateUploadBatch) :
    (service.createBatch request).Only service.Asks := by
  unfold createBatch
  apply Attempt.only_bind (Attempt.only_ensure _ _)
  intro _
  apply Attempt.only_bind (Attempt.only_ofExcept _)
  intro _
  apply Attempt.only_bind (Attempt.only_ofExcept _)
  intro transfers
  apply Attempt.only_bind (Attempt.only_okOr _ _)
  intro additional
  apply Attempt.only_bind (Attempt.only_ensure _ _)
  intro _
  apply Attempt.only_bind (Attempt.only_mapError (only_call trivial))
  intro allowed
  apply Attempt.only_bind (Attempt.only_ensure _ _)
  intro _
  apply Attempt.only_bind (only_drawId trivial)
  intro batchId
  apply Attempt.only_bind (only_now trivial)
  intro createdAt
  apply Attempt.only_bind ((service.only_reserveFiles _ _ _ _).mono fun _ opens => opens.asks)
  rintro ⟨reservations, outputs⟩
  apply Attempt.only_bind (Attempt.only_lift (only_call trivial))
  intro saved
  cases saved with
  | ok => exact Attempt.only_pure _
  | error error =>
      exact Attempt.only_bind (Attempt.only_lift (service.only_cleanup (fun _ _ => rfl) _))
        fun _ => Attempt.only_fail _

theorem only_presignPart (tenantId : String) (uploadId : UploadId)
    (partNumber contentLength : Nat) :
    (service.presignPart tenantId uploadId partNumber contentLength).Only service.Controls := by
  apply Attempt.only_bind (Attempt.only_ensure _ _)
  intro _
  apply Attempt.only_bind (service.only_findStored _ _)
  intro stored
  apply Attempt.only_bind (Attempt.only_ofExcept _)
  rintro ⟨partSizeBytes, session⟩
  apply Attempt.only_bind (Attempt.only_ensure _ _)
  intro _
  apply Attempt.only_bind (Attempt.only_ensure _ _)
  intro _
  exact Attempt.only_mapError (S3CompatibleStore.only_presignPart rfl)

theorem only_verifyStoredSize (stored : StoredUploadReservation) :
    (service.verifyStoredSize stored).Only service.Controls :=
  Attempt.only_bind (Attempt.only_mapError (S3CompatibleStore.only_head rfl))
    fun _ => Attempt.only_ensure _ _

theorem only_confirmStored (tenantId : String) (uploadId : UploadId)
    (stored : StoredUploadReservation) :
    (service.confirmStored tenantId uploadId stored).Only service.Controls := by
  apply Attempt.only_bind (service.only_verifyStoredSize _)
  intro _
  apply Attempt.only_bind (only_drawId trivial)
  intro jobId
  apply Attempt.only_bind (only_now trivial)
  intro confirmedAt
  exact Attempt.only_mapError (only_call rfl)

theorem only_completeMultipart (tenantId : String) (uploadId : UploadId)
    (parts : List CompletedPart) :
    (service.completeMultipart tenantId uploadId parts).Only service.Controls := by
  apply Attempt.only_bind (Attempt.only_ensure _ _)
  intro _
  apply Attempt.only_bind (service.only_findStored _ _)
  intro stored
  apply Attempt.only_bind (Attempt.only_ofExcept _)
  rintro ⟨partSizeBytes, session⟩
  show Attempt.Only _ (ite _ _ _)
  split
  · exact service.only_verifyStoredSize _
  apply Attempt.only_bind (Attempt.only_ensure _ _)
  intro _
  apply Attempt.only_bind (Attempt.only_ofExcept _)
  intro _
  refine Attempt.only_bind
    (Attempt.only_mapError (S3CompatibleStore.only_completeMultipart rfl)) fun _ => ?_
  exact service.only_confirmStored _ _ _

theorem only_confirmSingleUpload (tenantId : String) (uploadId : UploadId) :
    (service.confirmSingleUpload tenantId uploadId).Only service.Controls := by
  apply Attempt.only_bind (Attempt.only_ensure _ _)
  intro _
  apply Attempt.only_bind (service.only_findStored _ _)
  intro stored
  apply Attempt.only_bind (Attempt.only_ensure _ _)
  intro _
  split
  · exact service.only_verifyStoredSize _
  · exact Attempt.only_bind (Attempt.only_ensure _ _) fun _ => service.only_confirmStored _ _ _

theorem only_abortMultipart (tenantId : String) (uploadId : UploadId) :
    (service.abortMultipart tenantId uploadId).Only service.Controls := by
  apply Attempt.only_bind (Attempt.only_ensure _ _)
  intro _
  apply Attempt.only_bind (service.only_findStored _ _)
  intro stored
  apply Attempt.only_bind (Attempt.only_ofExcept _)
  rintro ⟨partSizeBytes, session⟩
  show Attempt.Only _ (ite _ _ _)
  split
  · exact Attempt.only_pure _
  apply Attempt.only_bind (Attempt.only_ensure _ _)
  intro _
  refine Attempt.only_bind
    (Attempt.only_mapError (S3CompatibleStore.only_abortMultipart rfl)) fun _ => ?_
  exact Attempt.only_bind (only_now trivial) fun _ => Attempt.only_mapError (only_call trivial)

end UploadIntentService

/-! ## Lifecycle -/

namespace LifecycleService

/-- What the cleanup of one candidate asks for. -/
def StorageAsks (service : LifecycleService) : Ask → Prop
  | .provider (.abortMultipartUpload bucket _ _) => bucket = service.rawStore.bucket
  | .provider (.deleteObject bucket _) =>
      bucket = service.rawStore.bucket ∨ bucket = service.derivativeStore.bucket
  | _ => False

/-- What a maintenance run of `owner` asks for. -/
def Asks (service : LifecycleService) (owner : String) : Ask → Prop
  | .now => True
  | .store (.claimCleanupBatch name _ _ _ leaseFor limit maxAttempts) =>
      name = owner ∧ leaseFor = service.policy.leaseFor ∧ limit = service.policy.batchSize ∧
        maxAttempts = service.policy.maxAttempts
  | .store (.completeCleanup _ name _) => name = owner
  | .store (.failCleanup _ name _ _ _) => name = owner
  | .store (.purgeTombstones ..) => True
  | .provider (.abortMultipartUpload bucket _ _) => bucket = service.rawStore.bucket
  | .provider (.deleteObject bucket _) =>
      bucket = service.rawStore.bucket ∨ bucket = service.derivativeStore.bucket
  | _ => False

variable (service : LifecycleService) (owner : String)

theorem only_abortSession (candidate : CleanupCandidate) :
    (service.abortSession candidate).Only service.StorageAsks := by
  unfold abortSession
  split
  · apply Attempt.only_bind (Attempt.only_okOr _ _)
    intro session
    exact Attempt.only_mapError (S3CompatibleStore.only_abortMultipart rfl)
  · exact Attempt.only_pure _

theorem only_deleteDerivatives (keys : List ObjectKey) :
    (service.deleteDerivatives keys).Only service.StorageAsks := by
  induction keys with
  | nil => trivial
  | cons key keys ih =>
      exact Attempt.only_bind (Attempt.only_mapError (S3CompatibleStore.only_delete (.inr rfl)))
        fun _ => ih

theorem only_cleanupStorage (candidate : CleanupCandidate) :
    (service.cleanupStorage candidate).Only service.StorageAsks := by
  apply Attempt.only_bind (service.only_abortSession candidate)
  intro _
  apply Attempt.only_bind (service.only_deleteDerivatives _)
  intro _
  exact Attempt.only_mapError (S3CompatibleStore.only_delete (.inl rfl))

theorem only_settleCandidate (candidate : CleanupCandidate) (cleaned : Except String Unit) :
    (service.settleCandidate owner candidate cleaned).Only (service.Asks owner) := by
  cases cleaned with
  | ok =>
      exact Attempt.only_bind (only_now trivial) fun _ => Attempt.only_mapError (only_call rfl)
  | error errorCode =>
      apply Attempt.only_bind (only_now trivial)
      intro failedAt
      exact Attempt.only_bind (Attempt.only_okOr _ _) fun _ => Attempt.only_mapError (only_call rfl)

theorem only_cleanCandidates (candidates : List CleanupCandidate) (summary : LifecycleRunSummary) :
    (service.cleanCandidates owner candidates summary).Only (service.Asks owner) := by
  induction candidates generalizing summary with
  | nil => trivial
  | cons candidate candidates ih =>
      have storage : ∀ request, service.StorageAsks request → service.Asks owner request := by
        intro request asks
        cases request with
        | provider request => cases request <;> exact asks
        | _ => exact asks.elim
      apply Attempt.only_bind
        (Attempt.only_lift ((service.only_cleanupStorage candidate).mono storage))
      intro cleaned
      exact Attempt.only_bind (service.only_settleCandidate owner _ _) fun _ => ih _

theorem only_runOnce : (service.runOnce owner).Only (service.Asks owner) := by
  apply Attempt.only_bind (Attempt.only_ensure _ _)
  intro _
  apply Attempt.only_bind (only_now trivial)
  intro startedAt
  apply Attempt.only_bind (Attempt.only_okOr _ _)
  intro createdBefore
  apply Attempt.only_bind (Attempt.only_okOr _ _)
  intro rejectedBefore
  apply Attempt.only_bind (Attempt.only_mapError (only_call ⟨rfl, rfl, rfl, rfl⟩))
  intro candidates
  apply Attempt.only_bind (service.only_cleanCandidates owner _ _)
  intro summary
  apply Attempt.only_bind (only_now trivial)
  intro cleanedAt
  apply Attempt.only_bind (Attempt.only_okOr _ _)
  intro deletedBefore
  exact Attempt.only_bind (Attempt.only_mapError (only_call trivial)) fun _ => Attempt.only_pure _

end LifecycleService

/-! ## Policies -/

namespace SitePolicyService

/-- What the site policy service asks for. -/
def Asks : Ask → Prop
  | .now => True
  | .store (.findPolicyAsset ..) | .store (.insertSnapshot ..) | .store (.compareSnapshot ..) => True
  | _ => False

variable (service : SitePolicyService)

theorem only_pinWatermark (tenantId : String) (requested : Option RequestedWatermarkPolicy) :
    (pinWatermark tenantId requested).Only Asks := by
  cases requested with
  | none => exact Attempt.only_pure _
  | some requested =>
      apply Attempt.only_bind (Attempt.only_ofExcept _)
      intro _
      apply Attempt.only_bind (Attempt.only_mapError (only_call trivial))
      intro found
      apply Attempt.only_bind (Attempt.only_okOr _ _)
      intro candidate
      exact Attempt.only_bind (Attempt.only_ofExcept _) fun _ => Attempt.only_pure _

theorem only_publishSitePolicy (snapshot : SitePolicySnapshot) :
    (publishSitePolicy snapshot).Only Asks := by
  apply Attempt.only_bind (only_now trivial)
  intro createdAt
  apply Attempt.only_bind (only_call trivial)
  intro inserted
  split
  · exact Attempt.only_pure _
  · exact only_call trivial

theorem only_publish (request : PublishSitePolicy) (readAt : OffsetDateTime) :
    (service.publish request readAt).Only Asks := by
  apply Attempt.only_bind (Attempt.only_ofExcept _)
  intro _
  apply Attempt.only_bind (only_pinWatermark _ _)
  intro watermark
  exact Attempt.only_bind (Attempt.only_mapError (only_publishSitePolicy _)) fun _ =>
    Attempt.only_pure _

end SitePolicyService

/-! ## Inventory -/

namespace InventoryService

/-- What an inventory pass asks for. -/
def Asks (service : InventoryService) : Ask → Prop
  | .now => True
  | .store (.inventoryCursor ..) | .store (.reconcileInventoryPage ..)
  | .store (.isInventoryKeyKnown ..) | .store (.forgetOrphan ..)
  | .store (.completeOrphanDeletion ..) | .store (.failOrphanDeletion ..)
  | .store (.saveInventoryCursor ..) => True
  | .provider (.listObjectsV2 bucket keyPrefix _ _) =>
      ∃ storageNamespace, bucket = (service.storeOf storageNamespace).bucket ∧
        keyPrefix = storageNamespace.keyPrefix
  | .provider (.deleteObject bucket _) =>
      ∃ storageNamespace, bucket = (service.storeOf storageNamespace).bucket
  | _ => False

/-- What pruning asks for. -/
def Prunes (service : InventoryService) : Ask → Prop
  | .now => True
  | .store (.isInventoryKeyKnown ..) | .store (.forgetOrphan ..)
  | .store (.completeOrphanDeletion ..) | .store (.failOrphanDeletion ..) => True
  | .provider (.deleteObject bucket _) =>
      ∃ storageNamespace, bucket = (service.storeOf storageNamespace).bucket
  | _ => False

variable (service : InventoryService)

theorem only_pruneCandidate (storageNamespace : StorageNamespace) (candidate : OrphanCandidate)
    (summary : InventoryRunSummary) :
    (service.pruneCandidate storageNamespace candidate summary).Only service.Prunes := by
  apply Attempt.only_bind (Attempt.only_mapError (only_call trivial))
  intro known
  split
  · exact Attempt.only_bind (Attempt.only_mapError (only_call trivial)) fun _ => Attempt.only_pure _
  apply Attempt.only_bind
    (Attempt.only_lift (S3CompatibleStore.only_delete ⟨storageNamespace, rfl⟩))
  intro deleted
  cases deleted with
  | ok =>
      apply Attempt.only_bind (only_now trivial)
      intro deletedAt
      exact Attempt.only_bind (Attempt.only_mapError (only_call trivial))
        fun _ => Attempt.only_pure _
  | error =>
      apply Attempt.only_bind (only_now trivial)
      intro failedAt
      exact Attempt.only_bind (Attempt.only_mapError (only_call trivial))
        fun _ => Attempt.only_pure _

theorem only_pruneCandidates (storageNamespace : StorageNamespace)
    (candidates : List OrphanCandidate) (summary : InventoryRunSummary) :
    (service.pruneCandidates storageNamespace candidates summary).Only service.Prunes := by
  induction candidates generalizing summary with
  | nil => trivial
  | cons candidate candidates ih =>
      exact Attempt.only_bind (service.only_pruneCandidate _ _ _) fun _ => ih _

variable {service} in
theorem Prunes.asks {request : Ask} (prunes : service.Prunes request) : service.Asks request := by
  cases request with
  | store op => cases op <;> trivial
  | provider request => cases request <;> trivial
  | _ => trivial

theorem only_scanPage (mode : InventoryMode) (startedAt eligibleBefore : OffsetDateTime)
    (storageNamespace : StorageNamespace) (cursor : Option String)
    (summary : InventoryRunSummary) :
    (service.scanPage mode startedAt eligibleBefore storageNamespace cursor summary).Only
      service.Asks := by
  apply Attempt.only_bind
    (Attempt.only_mapError (S3CompatibleStore.only_listObjects ⟨storageNamespace, rfl, rfl⟩))
  intro page
  apply Attempt.only_bind (Attempt.only_ofExcept _)
  intro _
  apply Attempt.only_bind (Attempt.only_mapError (only_call trivial))
  intro reconciled
  have saves : ∀ summary : InventoryRunSummary, Attempt.Only service.Asks (do
      let savedAt ← now
      Attempt.mapError .repository
        (call (.saveInventoryCursor storageNamespace page.nextStartAfter savedAt))
      return (page.nextStartAfter, summary) : Action InventoryRunError _) := by
    intro summary
    apply Attempt.only_bind (only_now trivial)
    intro savedAt
    exact Attempt.only_bind (Attempt.only_mapError (only_call trivial)) fun _ => Attempt.only_pure _
  cases mode with
  | audit => exact saves _
  | prune =>
      have prunes : (service.pruneCandidates storageNamespace reconciled.eligible
          (counted storageNamespace page reconciled summary)).Only service.Asks :=
        Program.Only.mono (service.only_pruneCandidates _ _ _) fun _ asked => asked.asks
      exact Attempt.only_bind prunes saves

theorem only_scanPages (mode : InventoryMode) (startedAt eligibleBefore : OffsetDateTime)
    (storageNamespace : StorageNamespace) (pages : Nat) (cursor : Option String)
    (summary : InventoryRunSummary) :
    (service.scanPages mode startedAt eligibleBefore storageNamespace pages cursor summary).Only
      service.Asks := by
  induction pages generalizing cursor summary with
  | zero => exact Attempt.only_pure _
  | succ pages ih =>
      apply Attempt.only_bind (service.only_scanPage _ _ _ _ _ _)
      rintro ⟨next, summary⟩
      cases next with
      | none => exact Attempt.only_pure _
      | some cursor => exact ih _ _

theorem only_scanNamespace (mode : InventoryMode) (startedAt eligibleBefore : OffsetDateTime)
    (storageNamespace : StorageNamespace) (summary : InventoryRunSummary) :
    (service.scanNamespace mode startedAt eligibleBefore storageNamespace summary).Only
      service.Asks := by
  apply Attempt.only_bind (Attempt.only_mapError (only_call trivial))
  intro cursor
  exact Attempt.only_bind (Attempt.only_ofExcept _) fun _ => service.only_scanPages _ _ _ _ _ _ _

theorem only_runOnce (mode : InventoryMode) : (service.runOnce mode).Only service.Asks := by
  apply Attempt.only_bind (only_now trivial)
  intro startedAt
  apply Attempt.only_bind (Attempt.only_okOr _ _)
  intro eligibleBefore
  exact Attempt.only_bind (service.only_scanNamespace _ _ _ _ _)
    fun _ => service.only_scanNamespace _ _ _ _ _

end InventoryService

/-! ## Worker -/

section Heartbeat

variable {ε α : Type} {allowed : Ask → Prop} {beat : Action ε Unit}

theorem only_beats (beating : beat.Only allowed) (due : Nat) : (beats beat due).Only allowed := by
  induction due with
  | zero => exact Attempt.only_pure _
  | succ due ih => exact Attempt.only_bind beating fun _ => ih

theorem only_dueBeats (due : allowed (.host .heartbeats)) (beating : beat.Only allowed) :
    (dueBeats beat).Only allowed :=
  Attempt.only_bind (only_host due) fun _ => only_beats beating _

theorem only_interleaved {program : Program Answer α} (due : allowed (.host .heartbeats))
    (beating : beat.Only allowed) (only : program.Only allowed) :
    (interleaved beat program).Only allowed := by
  induction program with
  | done result => exact Attempt.only_bind (only_dueBeats due beating) fun _ => Attempt.only_pure _
  | ask request next ih =>
      apply Attempt.only_bind (only_dueBeats due beating)
      intro _
      have asks : (Program.request request : Program Answer _).Only allowed :=
        ⟨only.1, fun _ => trivial⟩
      exact Attempt.only_bind (Attempt.only_lift asks) fun answer => ih answer (only.2 answer)

end Heartbeat

namespace SourceValidationWorker

/-- What the worker looks at a source with. -/
def Looks (worker : SourceValidationWorker) : Ask → Prop
  | .now | .host _ | .store (.findSitePolicyRevision ..) => True
  | .provider (.getObject bucket _) => bucket = worker.rawStore.bucket
  | _ => False

/-- What the worker looks at a source, or at the asset of a watermark, with. -/
def Inspects (worker : SourceValidationWorker) : Ask → Prop
  | .host (.imageMaster _) | .host (.renderThumbnail ..) => False
  | .host _ => True
  | .provider (.getObject bucket _) => bucket = worker.rawStore.bucket
  | _ => False

/-- What the worker `workerId` keeps and ends its lease with. -/
def Settles (worker : SourceValidationWorker) (workerId : String) : Ask → Prop
  | .now | .host .heartbeats | .store (.markRejected ..) => True
  | .store (.renew _ name _ leaseFor) => name = workerId ∧ leaseFor = worker.policy.leaseFor
  | .store (.complete _ name _) => name = workerId
  | .store (.fail _ name _ _ maxAttempts _) =>
      name = workerId ∧ (maxAttempts = worker.policy.maxAttempts ∨ maxAttempts = 1)
  | _ => False

/-- What the worker `workerId` asks for once it has a job. -/
def Works (worker : SourceValidationWorker) (workerId : String) : Ask → Prop
  | .now | .host _ => True
  | .store (.renew _ name _ leaseFor) => name = workerId ∧ leaseFor = worker.policy.leaseFor
  | .store (.complete _ name _) => name = workerId
  | .store (.fail _ name _ _ maxAttempts _) =>
      name = workerId ∧ (maxAttempts = worker.policy.maxAttempts ∨ maxAttempts = 1)
  | .store (.findProcessingSource ..) | .store (.startProcessing ..)
  | .store (.publishDerivatives ..) | .store (.markRejected ..)
  | .store (.findSitePolicyRevision ..) => True
  | .provider (.getObject bucket _) => bucket = worker.rawStore.bucket
  | .provider (.putObject bucket key _) =>
      bucket = worker.derivativeStore.bucket ∧
        ∃ tenantId uploadId digest presetId name,
          key = mediaKeyText tenantId uploadId digest presetId name
  | _ => False

/-- What a run of the worker `workerId` asks for. -/
def Asks (worker : SourceValidationWorker) (workerId : String) : Ask → Prop
  | .store (.claimNext name _ leaseFor) => name = workerId ∧ leaseFor = worker.policy.leaseFor
  | request => worker.Works workerId request

variable (worker : SourceValidationWorker) (workerId : String)

variable {worker} in
theorem Inspects.looks {request : Ask} (inspects : worker.Inspects request) :
    worker.Looks request := by
  cases request with
  | host => trivial
  | provider request => cases request <;> exact inspects
  | now | drawId | store | presignPut | presignPart => exact inspects.elim

/-- What only inspects looks. -/
theorem only_looks {ε α : Type} {action : Action ε α} (only : action.Only worker.Inspects) :
    action.Only worker.Looks := Program.Only.mono only fun _ inspects => inspects.looks

theorem only_sha256File (file : JobFile) (failure : ProcessingFailure) :
    (sha256File file failure).Only worker.Inspects :=
  Attempt.only_bind (only_host trivial) fun _ => Attempt.only_okOr _ _

theorem only_acquireTempDiskPermit (sourceBytes : Nat) :
    (worker.acquireTempDiskPermit sourceBytes).Only worker.Inspects := by
  refine Attempt.only_bind (Attempt.only_okOr _ _) fun permits => ?_
  exact Attempt.only_bind (only_host trivial) fun _ => Attempt.only_ensure _ _

theorem only_acquireTransformPermit (inspection : MediaInspection) :
    (acquireTransformPermit inspection).Only worker.Inspects := by
  unfold acquireTransformPermit
  split
  · exact Attempt.only_pure _
  · exact Attempt.only_bind (only_host trivial) fun _ => Attempt.only_ensure _ _
  · exact Attempt.only_bind (only_host trivial) fun _ => Attempt.only_ensure _ _

theorem only_prepareConfiguredWatermark (configured : WatermarkPolicy) :
    (prepareConfiguredWatermark configured).Only worker.Inspects := by
  apply Attempt.only_bind (only_host trivial)
  intro length
  apply Attempt.only_bind (Attempt.only_okOr _ _)
  intro copied
  apply Attempt.only_bind (Attempt.only_ensure _ _)
  intro _
  apply Attempt.only_bind (worker.only_sha256File _ _)
  intro digest
  exact Attempt.only_bind (Attempt.only_ensure _ _) fun _ => Attempt.only_pure _

theorem only_prepareObjectWatermark (revision : Nat) (stored : StoredWatermarkPolicy) :
    (worker.prepareObjectWatermark revision stored).Only worker.Inspects := by
  refine Attempt.only_bind
    (Attempt.only_mapError (S3CompatibleStore.only_downloadTo rfl trivial)) fun _ => ?_
  apply Attempt.only_bind (worker.only_sha256File _ _)
  intro digest
  exact Attempt.only_bind (Attempt.only_ensure _ _) fun _ => Attempt.only_pure _

theorem only_prepareWatermark (tenantId : String) (sitePolicyRevision : Option Nat) :
    (worker.prepareWatermark tenantId sitePolicyRevision).Only worker.Looks := by
  cases sitePolicyRevision with
  | none =>
      unfold prepareWatermark
      dsimp only
      split
      · exact Attempt.only_pure _
      · exact Attempt.only_bind (worker.only_looks (worker.only_prepareConfiguredWatermark _))
          fun _ => Attempt.only_pure _
  | some revision =>
      apply Attempt.only_bind (Attempt.only_mapError (only_call trivial))
      intro found
      apply Attempt.only_bind (Attempt.only_okOr _ _)
      intro snapshot
      apply Attempt.only_bind (Attempt.only_ensure _ _)
      intro _
      split
      · exact Attempt.only_pure _
      · exact Attempt.only_bind (worker.only_looks (worker.only_prepareObjectWatermark _ _))
          fun _ => Attempt.only_pure _

theorem only_inspectSource (source : ProcessingSource) :
    (worker.inspectSource source).Only worker.Inspects := by
  unfold inspectSource
  refine Attempt.only_bind (Attempt.only_ensure _ _) fun _ => ?_
  refine Attempt.only_bind (worker.only_acquireTempDiskPermit _) fun _ => ?_
  refine Attempt.only_bind (only_host trivial) fun created => ?_
  refine Attempt.only_bind (Attempt.only_ensure _ _) fun _ => ?_
  refine Attempt.only_bind
    (Attempt.only_mapError (S3CompatibleStore.only_downloadTo rfl trivial)) fun _ => ?_
  refine Attempt.only_bind (only_host trivial) fun detected => ?_
  refine Attempt.only_bind (Attempt.only_ensure _ _) fun _ => ?_
  refine Attempt.only_bind (worker.only_sha256File _ _) fun digest => ?_
  refine Attempt.only_bind (only_host trivial) fun inspected => ?_
  exact Attempt.only_bind (Attempt.only_ofExcept _) fun _ => Attempt.only_pure _

variable {worker} in
theorem Looks.works {request : Ask} (looks : worker.Looks request) : worker.Works workerId request := by
  cases request with
  | now => trivial
  | host => trivial
  | store op => cases op <;> first | exact looks | exact looks.elim
  | provider request => cases request <;> first | exact looks | exact looks.elim
  | drawId => exact looks.elim
  | presignPut => exact looks.elim
  | presignPart => exact looks.elim

/-- What only looks works. -/
theorem only_works {ε α : Type} {action : Action ε α} (only : action.Only worker.Looks) :
    action.Only (worker.Works workerId) :=
  Program.Only.mono only fun _ looks => looks.works workerId

theorem only_recordStart (source : ProcessingSource) (digest contentType : String) :
    (recordStart source digest contentType).Only (worker.Works workerId) := by
  unfold recordStart
  split
  · exact Attempt.only_bind (only_now trivial)
      fun _ => Attempt.only_mapError (only_call trivial)
  · exact Attempt.only_ensure _ _

theorem only_uploadGeneratedDerivative (file : JobFile) {objectKey : ObjectKey}
    (presetId variant contentType : String)
    (media : ∃ tenantId uploadId digest presetId name,
      objectKey.asStr = mediaKeyText tenantId uploadId digest presetId name) :
    (worker.uploadGeneratedDerivative file objectKey presetId variant contentType).Only
      (worker.Works workerId) := by
  unfold uploadGeneratedDerivative
  refine Attempt.only_bind (only_host trivial) fun length => ?_
  refine Attempt.only_bind (Attempt.only_okOr _ _) fun byteLen => ?_
  refine Attempt.only_bind (Attempt.only_ensure _ _) fun _ => ?_
  refine Attempt.only_bind (worker.only_works workerId (worker.only_looks (worker.only_sha256File _ _)))
    fun sha256 => ?_
  refine Attempt.only_bind (Attempt.only_mapError
    (S3CompatibleStore.only_putFile trivial fun _ => ⟨rfl, media⟩)) fun stored => ?_
  exact Attempt.only_bind (Attempt.only_ensure _ _) fun _ => Attempt.only_pure _

/-- What follows a key a derivative can be stored under. -/
theorem only_derivativeKey {α : Type} (source : ProcessingSource) (digest presetId name : String)
    {next : ObjectKey → Action ProcessingFailure α}
    (rest : ∀ key : ObjectKey, key.asStr =
      mediaKeyText source.tenantId source.uploadId digest presetId name →
        (next key).Only (worker.Works workerId)) :
    (derivativeKey source digest presetId name >>= next).Only (worker.Works workerId) := by
  unfold derivativeKey
  cases made : (ObjectKey.new
      (mediaKeyText source.tenantId source.uploadId digest presetId name)).toOption with
  | none => exact Attempt.only_fail _
  | some key => exact rest key (ObjectKey.new_asStr made)

theorem only_storeMaster (source : ProcessingSource) (digest presetId : String)
    (watermark : Option WatermarkPolicy) (inspection : MediaInspection) :
    (worker.storeMaster source digest presetId watermark inspection).Only (worker.Works workerId) := by
  cases inspection with
  | image contentType heavy =>
      refine Attempt.only_bind (only_host trivial) fun rendered => ?_
      refine Attempt.only_bind (Attempt.only_ofExcept _) fun _ => ?_
      apply worker.only_derivativeKey workerId
      intro masterKey media
      exact worker.only_uploadGeneratedDerivative workerId _ _ _ _ ⟨_, _, _, _, _, media⟩
  | video format contentType =>
      refine Attempt.only_bind (Attempt.only_okOr _ _) fun extension => ?_
      apply worker.only_derivativeKey workerId
      intro masterKey media
      refine Attempt.only_bind (Attempt.only_mapError
        (S3CompatibleStore.only_putFile trivial fun _ => ⟨rfl, _, _, _, _, _, media⟩)) fun stored => ?_
      exact Attempt.only_bind (Attempt.only_ensure _ _) fun _ => Attempt.only_pure _

theorem only_storeThumbnail (source : ProcessingSource) (digest presetId : String)
    (inspection : MediaInspection) (watermark : Option WatermarkPolicy) :
    (worker.storeThumbnail source digest presetId inspection watermark).Only
      (worker.Works workerId) := by
  refine Attempt.only_bind (only_host trivial) fun rendered => ?_
  refine Attempt.only_bind (Attempt.only_ofExcept _) fun _ => ?_
  apply worker.only_derivativeKey workerId
  intro thumbnailKey media
  exact worker.only_uploadGeneratedDerivative workerId _ _ _ _ ⟨_, _, _, _, _, media⟩

theorem only_validateDownloadedSource (source : ProcessingSource) (sitePolicyRevision : Option Nat) :
    (worker.validateDownloadedSource source sitePolicyRevision).Only (worker.Works workerId) := by
  apply Attempt.only_bind (worker.only_works workerId (worker.only_looks (worker.only_inspectSource source)))
  rintro ⟨digest, inspection⟩
  refine Attempt.only_bind (worker.only_works workerId
    (worker.only_looks (worker.only_acquireTransformPermit _))) fun _ => ?_
  refine Attempt.only_bind (worker.only_recordStart workerId _ _ _) fun _ => ?_
  refine Attempt.only_bind (worker.only_works workerId (worker.only_prepareWatermark _ _)) fun watermark => ?_
  refine Attempt.only_bind (worker.only_storeMaster workerId _ _ _ _ _) fun master => ?_
  refine Attempt.only_bind (worker.only_storeThumbnail workerId _ _ _ _ _) fun thumbnail => ?_
  exact Attempt.only_bind (only_now trivial) fun _ => Attempt.only_mapError (only_call trivial)

theorem only_validateSource (uploadId : UploadId) (sitePolicyRevision : Option Nat) :
    (worker.validateSource uploadId sitePolicyRevision).Only (worker.Works workerId) := by
  refine Attempt.only_bind (Attempt.only_mapError (only_call trivial)) fun found => ?_
  refine Attempt.only_bind (Attempt.only_okOr _ _) fun source => ?_
  split
  · exact Attempt.only_pure _
  · exact Attempt.only_bind (Attempt.only_ensure _ _)
      fun _ => worker.only_validateDownloadedSource workerId _ _

theorem Settles.works {worker : SourceValidationWorker} {workerId : String} {request : Ask}
    (settles : worker.Settles workerId request) : worker.Works workerId request := by
  cases request with
  | now | host => trivial
  | store op => cases op <;> first | exact settles | exact settles.elim
  | drawId | provider | presignPut | presignPart => exact settles.elim

/-- What only settles works. -/
theorem only_settled {ε α : Type} {action : Action ε α} (only : action.Only (worker.Settles workerId)) :
    action.Only (worker.Works workerId) :=
  Program.Only.mono only fun _ settles => settles.works

theorem only_renewLease (jobId : JobId) :
    (worker.renewLease jobId workerId).Only (worker.Settles workerId) := by
  refine Attempt.only_bind (only_now trivial) fun renewedAt => ?_
  exact Attempt.only_bind (Attempt.only_mapError (only_call ⟨rfl, rfl⟩)) fun _ => Attempt.only_pure _

theorem only_completeJob (jobId : JobId) :
    (completeJob jobId workerId).Only (worker.Settles workerId) :=
  Attempt.only_bind (only_now trivial) fun _ => Attempt.only_mapError (only_call rfl)

theorem only_rejectUpload (uploadId : UploadId) (code : String) :
    (rejectUpload uploadId code).Only (worker.Settles workerId) :=
  Attempt.only_bind (only_now trivial) fun _ => Attempt.only_mapError (only_call trivial)

theorem only_failJob (leased : LeasedProcessingJob) (code : String) :
    (worker.failJob leased workerId code).Only (worker.Settles workerId) := by
  refine Attempt.only_bind (only_now trivial) fun failedAt => ?_
  refine Attempt.only_bind (Attempt.only_okOr _ _) fun retryAt => ?_
  exact Attempt.only_bind (Attempt.only_mapError (only_call ⟨rfl, .inl rfl⟩))
    fun _ => Attempt.only_pure _

theorem only_settleJob (leased : LeasedProcessingJob) (result : Except ProcessingFailure Unit) :
    (worker.settleJob leased workerId result).Only (worker.Settles workerId) := by
  rcases result with (⟨code⟩ | ⟨code⟩ | ⟨code⟩) | _
  · refine Attempt.only_bind (worker.only_rejectUpload workerId _ _) fun _ => ?_
    exact Attempt.only_bind (worker.only_completeJob workerId _) fun _ => Attempt.only_pure _
  · show Attempt.Only _ (if _ then _ else _)
    split
    · exact Attempt.only_bind (worker.only_rejectUpload workerId _ _)
        fun _ => worker.only_failJob workerId _ _
    · exact worker.only_failJob workerId _ _
  · exact Attempt.only_fail _
  · exact Attempt.only_bind (worker.only_completeJob workerId _) fun _ => Attempt.only_pure _

theorem only_refuseJob (leased : LeasedProcessingJob) :
    (refuseJob leased workerId).Only (worker.Settles workerId) := by
  refine Attempt.only_bind (only_now trivial) fun failedAt => ?_
  refine Attempt.only_bind (only_now trivial) fun retryAt => ?_
  exact Attempt.only_bind (Attempt.only_mapError (only_call ⟨rfl, .inr rfl⟩))
    fun _ => Attempt.only_pure _

theorem only_processJob (leased : LeasedProcessingJob) :
    (worker.processJob leased workerId).Only (worker.Works workerId) := by
  unfold processJob
  split
  · exact worker.only_settled workerId (worker.only_refuseJob workerId _)
  refine Attempt.only_bind ?_
    fun _ => worker.only_settled workerId (worker.only_settleJob workerId _ _)
  exact only_interleaved trivial (worker.only_settled workerId (worker.only_renewLease workerId _))
    (worker.only_validateSource workerId _ _)

theorem Works.asks {worker : SourceValidationWorker} {workerId : String} {request : Ask}
    (works : worker.Works workerId request) : worker.Asks workerId request := by
  cases request with
  | store op => cases op <;> first | exact works | exact works.elim
  | _ => exact works

theorem only_runOne : (worker.runOne workerId).Only (worker.Asks workerId) := by
  refine Attempt.only_bind (only_now trivial) fun claimedAt => ?_
  refine Attempt.only_bind (Attempt.only_mapError (only_call ⟨rfl, rfl⟩)) fun claimed => ?_
  cases claimed with
  | none => exact Attempt.only_pure _
  | some leased =>
      exact Program.Only.mono (worker.only_processJob workerId leased) fun _ works => works.asks

end SourceValidationWorker

end MediaBooster.Service
