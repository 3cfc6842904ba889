/-
# Delivery.Manifest -- what an upload has to deliver

`find_status` reads an upload of a tenant with its derivatives; `DerivativeManifest::from_status`
takes it as a manifest where it is the status of a whole ready asset: one master and one thumbnail
of one preset, of the content types that are delivered.  A manifest names the objects that may be
delivered until the cache lets go of it.
-/
import MediaBooster.Config.Redirects
import MediaBooster.Store.Rows

namespace MediaBooster.Delivery

set_option autoImplicit false

open MediaBooster.Domain MediaBooster.Store MediaBooster.Theory.Transaction

/-! ## The status of an upload -/

/-- `StoredDerivative`. -/
structure StoredDerivative where
  presetId : String
  variant : String
  objectKey : ObjectKey
  contentType : String
  byteLen : Nat
deriving DecidableEq

/-- `UploadStatusSnapshot`. -/
structure UploadStatusSnapshot where
  uploadId : UploadId
  state : UploadState
  detectedContentType : Option String
  errorCode : Option String
  deletionPending : Bool
  derivatives : List StoredDerivative
deriving DecidableEq

/-- `ORDER BY preset_id, variant`. -/
def derivativeOrder (row : DerivativeRow) : String ×ₗ String := toLex (row.presetId, row.variant)

/-- The derivatives of an upload, in that order. -/
def derivativeRows (uploadId : UploadId) (store : SqliteStore) : List DerivativeRow :=
  (store.derivatives.filter fun row => row.uploadId == uploadId).insertionSort
    fun a b => derivativeOrder a ≤ derivativeOrder b

/-- One row of them. -/
def storedDerivative (row : DerivativeRow) : Except UploadRepositoryError StoredDerivative :=
  match u64TryFrom row.byteLen with
  | none => .error (.backend (.text "stored derivative length is invalid"))
  | some byteLen => .ok ⟨row.presetId, row.variant, row.objectKey, row.contentType, byteLen⟩

/-- What `find_status` answers for a stored upload. -/
def statusOf (row : UploadRow) (derivatives : List StoredDerivative) : UploadStatusSnapshot :=
  let deletionPending := row.deleteRequestedAt.isSome && row.state != .deleted
  { uploadId := row.id
    state := row.state
    detectedContentType := row.detectedContentType
    errorCode := row.errorCode
    deletionPending := deletionPending
    derivatives := if deletionPending || row.state == .deleted then [] else derivatives }

/-- `UploadRepository::find_status`. -/
def findStatus (tenantId : String) (uploadId : UploadId) :
    Call SqliteStore UploadRepositoryError (Option UploadStatusSnapshot) :=
  Call.readOr fun store =>
    match store.uploads.find? (ownedUpload tenantId uploadId) with
    | none => .ok none
    | some row => do
        let derivatives ← (derivativeRows uploadId store).mapM storedDerivative
        return some (statusOf row derivatives)

/-! ## Manifests -/

/-- `ManifestLoadError`. -/
inductive ManifestLoadError
  | notFound
  | notReady
  | repository
deriving DecidableEq

/-- `ManifestKey`. -/
structure ManifestKey where
  tenantId : String
  uploadId : UploadId
deriving DecidableEq

/-- `DerivativeManifest`. -/
structure DerivativeManifest where
  derivatives : List StoredDerivative
deriving DecidableEq

/-- The content types a master is delivered as. -/
def masterContentTypes : List String := ["image/jpeg", "video/mp4", "video/quicktime"]

/-- What `from_status` asks of each derivative; `preset` is that of the first. -/
def isDeliverable (preset : Option String) (derivative : StoredDerivative) : Bool :=
  decide (0 < derivative.byteLen) && narrowToken derivative.presetId 128 &&
    preset == some derivative.presetId &&
    match derivative.variant with
    | "master" => masterContentTypes.contains derivative.contentType
    | "thumbnail" => derivative.contentType == "image/jpeg"
    | _ => false

/-- `DerivativeManifest::from_status`. -/
def fromStatus (status : UploadStatusSnapshot) : Except ManifestLoadError DerivativeManifest :=
  if status.state ≠ .ready ∨ status.deletionPending = true ∨ status.derivatives.length ≠ 2 then
    .error .notReady
  else
    let masterCount := (status.derivatives.filter fun derivative =>
      derivative.variant == "master").length
    let thumbnailCount := (status.derivatives.filter fun derivative =>
      derivative.variant == "thumbnail").length
    let preset := status.derivatives.head?.map StoredDerivative.presetId
    if masterCount = 1 ∧ thumbnailCount = 1 ∧ status.derivatives.all (isDeliverable preset) = true
    then .ok ⟨status.derivatives⟩
    else .error .notReady

/-- `load_manifest`, once the repository has answered. -/
def loadManifest (key : ManifestKey) :
    Except UploadRepositoryError (Option UploadStatusSnapshot) →
      Except ManifestLoadError DerivativeManifest
  | .error _ => .error .repository
  | .ok none => .error .notFound
  | .ok (some status) =>
      if status.uploadId ≠ key.uploadId then .error .notReady else fromStatus status

/-- `DerivativeManifest::derivative`. -/
def DerivativeManifest.derivative (manifest : DerivativeManifest) (variant : String) :
    Option StoredDerivative :=
  manifest.derivatives.find? fun derivative => derivative.variant == variant

/-! ## What a manifest says -/

/-- The upload has that derivative. -/
def Recorded (store : SqliteStore) (uploadId : UploadId) (derivative : StoredDerivative) : Prop :=
  ∃ row ∈ store.derivatives, row.uploadId = uploadId ∧ row.presetId = derivative.presetId ∧
    row.variant = derivative.variant ∧ row.objectKey = derivative.objectKey ∧
    row.contentType = derivative.contentType ∧ row.byteLen = derivative.byteLen

section Reading

variable {store after : SqliteStore} {uploadId : UploadId}

theorem mem_derivativeRows {row : DerivativeRow} :
    row ∈ derivativeRows uploadId store ↔ row ∈ store.derivatives ∧ row.uploadId = uploadId := by
  simp [derivativeRows, List.mem_insertionSort]

theorem u64TryFrom_eq_some {value : Int} {n : Nat} (converted : u64TryFrom value = some n) :
    value = n := by
  unfold u64TryFrom at converted
  split at converted
  · rename_i fits
    cases converted
    omega
  · cases converted

/-- Every derivative that was read is a row of the upload. -/
theorem recorded_of_mapM {rows : List DerivativeRow} {derivatives : List StoredDerivative}
    (there : ∀ row ∈ rows, row ∈ store.derivatives ∧ row.uploadId = uploadId)
    (read : rows.mapM storedDerivative = .ok derivatives) :
    ∀ derivative ∈ derivatives, Recorded store uploadId derivative := by
  induction rows generalizing derivatives with
  | nil =>
      cases read
      intro derivative member
      cases member
  | cons row rows ih =>
      rw [List.mapM_cons, except_bind_eq_ok] at read
      obtain ⟨first, converted, read⟩ := read
      rw [except_bind_eq_ok] at read
      obtain ⟨rest, others, read⟩ := read
      cases read
      intro derivative member
      rcases List.mem_cons.1 member with rfl | later
      · obtain ⟨here, owned⟩ := there row List.mem_cons_self
        unfold storedDerivative at converted
        split at converted
        · cases converted
        · rename_i byteLen fits
          cases converted
          exact ⟨row, here, owned, rfl, rfl, rfl, rfl, u64TryFrom_eq_some fits⟩
      · exact ih (fun other member => there other (List.mem_cons_of_mem _ member)) others derivative
          later

/-- The status of an upload is that of a row of the tenant, with rows of the upload. -/
theorem findStatus_ok {tenantId : String} {status : UploadStatusSnapshot}
    (found : findStatus tenantId uploadId store = (.ok (some status), after)) :
    after = store ∧ ∃ row ∈ store.uploads, row.tenantId = tenantId ∧ row.id = uploadId ∧
      ∃ derivatives, status = statusOf row derivatives ∧
        ∀ derivative ∈ derivatives, Recorded store uploadId derivative := by
  unfold findStatus at found
  rw [call_readOr_eq] at found
  obtain ⟨answer, rfl⟩ := Prod.mk.inj found
  refine ⟨rfl, ?_⟩
  split at answer
  · cases answer
  · rename_i row there
    rw [except_bind_eq_ok] at answer
    obtain ⟨derivatives, read, answer⟩ := answer
    cases answer
    have owned := List.find?_some there
    simp only [ownedUpload, Bool.and_eq_true, beq_iff_eq] at owned
    refine ⟨row, List.mem_of_find?_eq_some there, owned.1, owned.2, derivatives, rfl, ?_⟩
    exact recorded_of_mapM (fun other member => mem_derivativeRows.1 member) read

/-- A manifest is that of a ready upload whose deletion is not asked for. -/
theorem fromStatus_ok {status : UploadStatusSnapshot} {manifest : DerivativeManifest}
    (built : fromStatus status = .ok manifest) :
    status.state = .ready ∧ status.deletionPending = false ∧
      manifest.derivatives = status.derivatives := by
  unfold fromStatus at built
  split at built
  · cases built
  · rename_i passes
    simp only [ne_eq, not_or, Classical.not_not, Bool.not_eq_true] at passes
    obtain ⟨ready, kept, -⟩ := passes
    dsimp only at built
    split at built
    · cases built
      exact ⟨ready, kept, rfl⟩
    · cases built

/-- **A manifest names objects the store has for that upload of that tenant.** -/
theorem loadManifest_ok {key : ManifestKey} {manifest : DerivativeManifest}
    {answer : Except UploadRepositoryError (Option UploadStatusSnapshot)}
    (replies : Replies (findStatus key.tenantId key.uploadId) store answer after)
    (loaded : loadManifest key answer = .ok manifest) :
    after = store ∧ ∃ row ∈ store.uploads, row.tenantId = key.tenantId ∧ row.id = key.uploadId ∧
      ∀ derivative ∈ manifest.derivatives, Recorded store key.uploadId derivative := by
  cases replies with
  | refused error => cases loaded
  | ran answered =>
      cases answer with
      | error error => cases loaded
      | ok found =>
          cases found with
          | none => cases loaded
          | some status =>
              simp only [loadManifest] at loaded
              split at loaded
              · cases loaded
              · obtain ⟨same, row, member, tenant, named, derivatives, rfl, recorded⟩ :=
                  findStatus_ok answered
                obtain ⟨-, -, listed⟩ := fromStatus_ok loaded
                refine ⟨same, row, member, tenant, named, fun derivative there => ?_⟩
                rw [listed] at there
                unfold statusOf at there
                dsimp only at there
                split at there
                · cases there
                · exact recorded derivative there

end Reading

end MediaBooster.Delivery
