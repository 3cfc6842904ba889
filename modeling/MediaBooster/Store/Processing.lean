/-
# Store.Processing -- the processing repository

`ProcessingRepository` of the SQLite store: the source a worker loads, the start of
its processing, the publication of its derivatives and its rejection.  None of them
is told which worker calls: they ask for the state of the upload and for nothing
else.

`startProcessing_cases`, `publishDerivatives_cases` and `markRejected_cases` say all
that the three writing operations can do.
-/
import MediaBooster.Store.Lifecycle

namespace MediaBooster.Store

set_option autoImplicit false

open MediaBooster.Domain MediaBooster.Theory.Table MediaBooster.Theory.Transaction

/-- `ProcessingRepositoryError(String)`. -/
abbrev ProcessingRepositoryError := Fault

/-- `processing_backend`. -/
def processingBackend (error : SqlError) : ProcessingRepositoryError := .sqliteBackend error

/-! ## The source of a job -/

/-- Source facts loaded for a claimed processing job. -/
structure ProcessingSource where
  uploadId : UploadId
  tenantId : String
  objectKey : ObjectKey
  declaredKind : MediaKind
  expectedSizeBytes : Nat
  state : UploadState
  detectedContentType : Option String
  sourceSha256 : Option String
deriving DecidableEq

/-- `processing_source_from_row`. -/
def processingSourceFromRow (row : UploadRow) : Except ProcessingRepositoryError ProcessingSource :=
  match u64TryFrom row.expectedSizeBytes with
  | none => .error (.text "stored source size is invalid")
  | some expectedSizeBytes =>
      .ok ⟨row.id, row.tenantId, row.objectKey, row.declaredKind, expectedSizeBytes, row.state,
        row.detectedContentType, row.sourceSha256⟩

/-- `ProcessingRepository::find_processing_source`. -/
def findProcessingSource (uploadId : UploadId) :
    Call SqliteStore ProcessingRepositoryError (Option ProcessingSource) :=
  Call.readOr fun store =>
    match store.uploads.find? fun row => decide (row.id = uploadId) with
    | none => .ok none
    | some row => (processingSourceFromRow row).map some

/-! ## Starting -/

/-- `WHERE id = ? AND state = 'quarantined'`. -/
def startable (uploadId : UploadId) (row : UploadRow) : Bool :=
  row.id == uploadId && row.state == .quarantined

/-- The columns `start_processing` sets. -/
def processingColumns (detectedContentType sourceSha256 : String) (now : Int)
    (upload : UploadProgress) : UploadProgress :=
  { upload with
    state := .processing
    detectedContentType := some detectedContentType
    sourceSha256 := some sourceSha256
    errorCode := none
    updatedAt := now }

/-- The upload is already processing with these very facts. -/
def alreadyProcessing (detectedContentType sourceSha256 : String) (row : UploadRow) : Bool :=
  row.state == .processing && row.detectedContentType == some detectedContentType &&
    row.sourceSha256 == some sourceSha256

/-- `ProcessingRepository::start_processing`. -/
def startProcessing (uploadId : UploadId) (detectedContentType sourceSha256 : String)
    (now : OffsetDateTime) : Call SqliteStore ProcessingRepositoryError Unit := do
  Call.ensure (contentTypeToken detectedContentType && sha256Token sourceSha256)
    (.text "detected source facts are invalid")
  let started ← autocommit processingBackend (SqliteStore.updateUploads (startable uploadId)
    (processingColumns detectedContentType sourceSha256 now.unixTimestamp))
  reachedOne started fun store =>
    if (store.uploads.find? fun row => decide (row.id = uploadId)).any
        (alreadyProcessing detectedContentType sourceSha256) then .ok ()
    else .error (.text "source is not startable from its current state")

/-! ## Publishing -/

/-- Immutable derivative facts published by a worker. -/
structure PublishedDerivative where
  objectKey : ObjectKey
  presetId : String
  variant : String
  contentType : String
  byteLen : Nat
  sha256 : String
deriving DecidableEq

/-- `validate_derivative`. -/
def validDerivative (derivative : PublishedDerivative) : Bool :=
  narrowToken derivative.presetId 128 && narrowToken derivative.variant 64 &&
    contentTypeToken derivative.contentType && derivative.byteLen != 0 &&
    sha256Token derivative.sha256

/-- The loop that validates the derivatives and collects their identities. -/
def validateDerivatives (identities : List (String × String)) :
    List PublishedDerivative → Except ProcessingRepositoryError Unit
  | [] => .ok ()
  | derivative :: derivatives =>
      if !validDerivative derivative then .error (.text "published derivative facts are invalid")
      else if identities.contains (derivative.presetId, derivative.variant) then
        .error (.text "published derivative set contains a duplicate identity")
      else validateDerivatives ((derivative.presetId, derivative.variant) :: identities) derivatives

/-- The row bound for one derivative. -/
def derivativeRow (uploadId : UploadId) (derivative : PublishedDerivative) (byteLen now : Int) :
    DerivativeRow where
  uploadId := uploadId
  presetId := derivative.presetId
  variant := derivative.variant
  objectKey := derivative.objectKey
  contentType := derivative.contentType
  byteLen := byteLen
  sha256 := derivative.sha256
  createdAt := now

/-- Publish one derivative. -/
def publishDerivative (uploadId : UploadId) (now : Int) (derivative : PublishedDerivative) :
    Tx SqliteStore ProcessingRepositoryError Unit := do
  let byteLen ← Tx.okOr (i64TryFrom derivative.byteLen)
    (.text "derivative byte length exceeds SQLite range")
  let published ← Tx.execute processingBackend
    (SqliteStore.upsertDerivative (derivativeRow uploadId derivative byteLen now))
  Tx.ensure (published == 1) (.text "published derivative conflicts with immutable state")

/-- The columns of an upload whose derivatives are published. -/
def readyColumns (now : Int) (upload : UploadProgress) : UploadProgress :=
  { upload with state := .ready, updatedAt := now }

/-- Make a processing upload ready. -/
def enterReady (uploadId : UploadId) (now : Int) : Tx SqliteStore ProcessingRepositoryError Unit := do
  let updated ← Tx.execute processingBackend (SqliteStore.updateUploads
    (fun row => row.id == uploadId && row.state == .processing) (readyColumns now))
  Tx.ensure (updated == 1) (.text "source could not enter ready state")

/-- The transaction of `publish_derivatives`. -/
def publishTransaction (uploadId : UploadId) (derivatives : List PublishedDerivative) (now : Int) :
    Tx SqliteStore ProcessingRepositoryError Unit := do
  let stored ← Tx.select fun store => store.uploads.find? fun row => decide (row.id = uploadId)
  let row ← Tx.okOr stored (.text "upload was not found")
  Tx.ensure (row.state == .processing || row.state == .ready)
    (.text "source is not publishing from its current state")
  derivatives.forM (publishDerivative uploadId now)
  if row.state = .processing then enterReady uploadId now else pure ()

/-- `ProcessingRepository::publish_derivatives`. -/
def publishDerivatives (uploadId : UploadId) (derivatives : List PublishedDerivative)
    (now : OffsetDateTime) : Call SqliteStore ProcessingRepositoryError Unit := do
  Call.ensure (!derivatives.isEmpty && decide (derivatives.length ≤ 16))
    (.text "published derivative set size is invalid")
  let _ ← Call.readOr fun _ => validateDerivatives [] derivatives
  commit (publishTransaction uploadId derivatives now.unixTimestamp)

/-! ## Rejecting -/

/-- `WHERE id = ? AND state IN ('quarantined', 'processing')`. -/
def rejectable (uploadId : UploadId) (row : UploadRow) : Bool :=
  row.id == uploadId && (row.state == .quarantined || row.state == .processing)

/-- The columns `mark_rejected` sets. -/
def rejectedColumns (errorCode : String) (now : Int) (upload : UploadProgress) : UploadProgress :=
  { upload with state := .rejected, errorCode := some errorCode, updatedAt := now }

/-- The upload is already rejected with this very code. -/
def alreadyRejected (errorCode : String) (row : UploadRow) : Bool :=
  row.state == .rejected && row.errorCode == some errorCode

/-- `ProcessingRepository::mark_rejected`. -/
def markRejected (uploadId : UploadId) (errorCode : String) (now : OffsetDateTime) :
    Call SqliteStore ProcessingRepositoryError Unit := do
  Call.ensure (errorCodeToken errorCode) (.text "source rejection code is invalid")
  let rejected ← autocommit processingBackend (SqliteStore.updateUploads (rejectable uploadId)
    (rejectedColumns errorCode now.unixTimestamp))
  reachedOne rejected fun store =>
    if (store.uploads.find? fun row => decide (row.id = uploadId)).any (alreadyRejected errorCode)
    then .ok ()
    else .error (.text "source is not rejectable from its current state")

/-! ## What the operations do -/

section Specification

variable {store store' : SqliteStore}

theorem startable_iff {uploadId : UploadId} {row : UploadRow} :
    startable uploadId row = true ↔ row.id = uploadId ∧ row.state = .quarantined := by
  simp [startable]

theorem rejectable_iff {uploadId : UploadId} {row : UploadRow} :
    rejectable uploadId row = true ↔
      row.id = uploadId ∧ (row.state = .quarantined ∨ row.state = .processing) := by
  simp [rejectable]

/-- `find_processing_source` answers with the columns of the stored upload. -/
theorem findProcessingSource_ok {uploadId : UploadId} {source : ProcessingSource}
    (ran : findProcessingSource uploadId store = (.ok (some source), store')) :
    store' = store ∧ ∃ row ∈ store.uploads, row.id = uploadId ∧
      processingSourceFromRow row = .ok source := by
  rw [findProcessingSource, call_readOr_eq] at ran
  obtain ⟨found, rfl⟩ := Prod.mk.inj ran
  refine ⟨rfl, ?_⟩
  split at found
  · cases found
  · rename_i row stored
    refine ⟨row, List.mem_of_find?_eq_some stored, by simpa using List.find?_some stored, ?_⟩
    cases read : processingSourceFromRow row with
    | ok value =>
        rw [read] at found
        cases found
        rfl
    | error e =>
        rw [read] at found
        cases found

/-- What decoding a source answers. -/
theorem processingSourceFromRow_ok {row : UploadRow} {source : ProcessingSource}
    (decoded : processingSourceFromRow row = .ok source) :
    source.uploadId = row.id ∧ source.tenantId = row.tenantId ∧
      source.objectKey = row.objectKey ∧ source.state = row.state := by
  rw [processingSourceFromRow] at decoded
  split at decoded
  · cases decoded
  · cases decoded
    exact ⟨rfl, rfl, rfl, rfl⟩

/-- `start_processing` starts a quarantined upload; otherwise it changes nothing, and it
succeeds only when the upload is processing already. -/
theorem startProcessing_cases {uploadId : UploadId} {detectedContentType sourceSha256 : String}
    {now : OffsetDateTime} {result : Except ProcessingRepositoryError Unit}
    (integrity : store.Integrity)
    (ran : startProcessing uploadId detectedContentType sourceSha256 now store =
      (result, store')) :
    (result = .ok () ∧ ∃ upload, startable uploadId upload = true ∧
        UploadMoved upload (processingColumns detectedContentType sourceSha256 now.unixTimestamp)
          store store') ∨
      (store' = store ∧ ((∃ error, result = .error error) ∨
        ∃ upload ∈ store.uploads, upload.id = uploadId ∧ upload.state = .processing)) := by
  obtain ⟨failed, same⟩ | ⟨-, rest⟩ := call_checked_cases ran
  · exact .inr ⟨same, .inl ⟨_, failed⟩⟩
  obtain moved | ⟨same, failed | ⟨-, verdict⟩⟩ := updateUploads_reachedOne integrity
    (fun row hits => (startable_iff.1 hits).1) rest
  · exact .inl moved
  · exact .inr ⟨same, .inl failed⟩
  · split at verdict
    · rename_i found
      obtain ⟨row, stored, already⟩ := (Option.any_eq_true _ _).1 found
      have id : row.id = uploadId := by simpa using List.find?_some stored
      simp only [alreadyProcessing, Bool.and_eq_true, beq_iff_eq] at already
      exact .inr ⟨same, .inr ⟨row, List.mem_of_find?_eq_some stored, id, already.1.1⟩⟩
    · exact .inr ⟨same, .inl ⟨_, verdict⟩⟩

/-- `mark_rejected` rejects a quarantined or processing upload; otherwise it changes
nothing, and it succeeds only when the upload is rejected already. -/
theorem markRejected_cases {uploadId : UploadId} {errorCode : String} {now : OffsetDateTime}
    {result : Except ProcessingRepositoryError Unit} (integrity : store.Integrity)
    (ran : markRejected uploadId errorCode now store = (result, store')) :
    (result = .ok () ∧ ∃ upload, rejectable uploadId upload = true ∧
        UploadMoved upload (rejectedColumns errorCode now.unixTimestamp) store store') ∨
      (store' = store ∧ ((∃ error, result = .error error) ∨
        ∃ upload ∈ store.uploads, upload.id = uploadId ∧ upload.state = .rejected)) := by
  obtain ⟨failed, same⟩ | ⟨-, rest⟩ := call_checked_cases ran
  · exact .inr ⟨same, .inl ⟨_, failed⟩⟩
  obtain moved | ⟨same, failed | ⟨-, verdict⟩⟩ := updateUploads_reachedOne integrity
    (fun row hits => (rejectable_iff.1 hits).1) rest
  · exact .inl moved
  · exact .inr ⟨same, .inl failed⟩
  · split at verdict
    · rename_i found
      obtain ⟨row, stored, already⟩ := (Option.any_eq_true _ _).1 found
      have id : row.id = uploadId := by simpa using List.find?_some stored
      simp only [alreadyRejected, Bool.and_eq_true, beq_iff_eq] at already
      exact .inr ⟨same, .inr ⟨row, List.mem_of_find?_eq_some stored, id, already.1⟩⟩
    · exact .inr ⟨same, .inl ⟨_, verdict⟩⟩

/-- Derivatives of one upload were published, and nothing else changed. -/
structure Published (uploadId : UploadId) (added : List DerivativeRow) (s t : SqliteStore) :
    Prop where
  derivatives : t.derivatives = s.derivatives ++ added
  owned : ∀ row ∈ added, row.uploadId = uploadId
  uploads : t.uploads = s.uploads
  jobs : t.jobs = s.jobs
  effect : Effect [.updateUploads, .derivatives] s t

theorem publishAll_ok {uploadId : UploadId} {now : Int} {derivatives : List PublishedDerivative}
    {u : Unit} (ran : derivatives.forM (publishDerivative uploadId now) store = .ok (u, store')) :
    ∃ added, Published uploadId added store store' := by
  induction derivatives generalizing store with
  | nil =>
      obtain ⟨-, rfl⟩ := pure_eq_ok.1 ran
      exact ⟨[], (List.append_nil _).symm, by simp, rfl, rfl, .refl⟩
  | cons derivative derivatives ih =>
      obtain ⟨_, middle, first, rest⟩ := bind_eq_ok.1 ran
      simp only [publishDerivative, bind_eq_ok, okOr_eq_ok, execute_eq_ok, ensure_eq_ok] at first
      obtain ⟨byteLen, _, ⟨-, rfl⟩, n, after, upserted, -, rfl⟩ := first
      obtain ⟨added, published⟩ := ih rest
      have wrote : Wrote [.updateUploads, .derivatives] store after :=
        .upsertDerivative (by simp) upserted
      obtain rfl | ⟨-, -, afterEq⟩ := SqliteStore.upsertDerivative_ok upserted
      · exact ⟨added, published⟩
      · refine ⟨derivativeRow uploadId derivative byteLen now :: added, ?_, ?_, ?_, ?_,
          .head wrote published.effect⟩
        · rw [published.derivatives, afterEq]
          exact List.append_assoc store.derivatives [_] added
        · intro row member
          rcases List.mem_cons.1 member with rfl | later
          · rfl
          · exact published.owned row later
        · rw [published.uploads, afterEq]
        · rw [published.jobs, afterEq]

/-- What a publication adds are the rows of its derivatives. -/
theorem publishAll_bound {uploadId : UploadId} {now : Int} {derivatives : List PublishedDerivative}
    {u : Unit} (ran : derivatives.forM (publishDerivative uploadId now) store = .ok (u, store')) :
    ∀ row ∈ store'.derivatives, row ∈ store.derivatives ∨
      ∃ derivative ∈ derivatives, ∃ byteLen, row = derivativeRow uploadId derivative byteLen now := by
  induction derivatives generalizing store with
  | nil =>
      obtain ⟨-, rfl⟩ := pure_eq_ok.1 ran
      exact fun _ member => .inl member
  | cons derivative derivatives ih =>
      obtain ⟨_, middle, first, rest⟩ := bind_eq_ok.1 ran
      simp only [publishDerivative, bind_eq_ok, okOr_eq_ok, execute_eq_ok, ensure_eq_ok] at first
      obtain ⟨byteLen, _, ⟨-, rfl⟩, n, after, upserted, -, rfl⟩ := first
      intro row member
      obtain before | ⟨other, listed, bound⟩ := ih rest row member
      · obtain rfl | ⟨-, -, rfl⟩ := SqliteStore.upsertDerivative_ok upserted
        · exact .inl before
        · refine (List.mem_append.1 before).imp_right fun new => ?_
          exact ⟨derivative, List.mem_cons_self, byteLen, List.mem_singleton.1 new⟩
      · exact .inr ⟨other, List.mem_cons_of_mem _ listed, bound⟩

/-- What `publish_derivatives` adds are the rows of its derivatives. -/
theorem publishDerivatives_bound {uploadId : UploadId} {derivatives : List PublishedDerivative}
    {now : OffsetDateTime} {u : Unit}
    (ran : publishDerivatives uploadId derivatives now store = (.ok u, store')) :
    ∀ row ∈ store'.derivatives, row ∈ store.derivatives ∨ ∃ derivative ∈ derivatives,
      ∃ byteLen, row = derivativeRow uploadId derivative byteLen now.unixTimestamp := by
  simp only [publishDerivatives, call_bind_eq_ok, call_ensure_eq_ok, call_readOr_eq, Prod.mk.injEq,
    commit_eq_ok, publishTransaction, bind_eq_ok, select_eq_ok, okOr_eq_ok, ensure_eq_ok] at ran
  obtain ⟨_, _, ⟨-, rfl⟩, _, _, ⟨-, rfl⟩, _, _, ⟨-, rfl⟩, upload, _, ⟨-, rfl⟩, _, _,
    ⟨-, rfl⟩, _, middle, all, last⟩ := ran
  have bound := publishAll_bound all
  split at last
  · simp only [enterReady, bind_eq_ok, execute_eq_ok, ensure_eq_ok] at last
    obtain ⟨n, final, updated, -, rfl⟩ := last
    obtain ⟨-, usage, counters, -, -, rfl⟩ := SqliteStore.updateUploads_ok updated
    exact bound
  · obtain ⟨-, rfl⟩ := pure_eq_ok.1 last
    exact bound

/-- `publish_derivatives` adds derivatives of a processing upload and makes it ready, or
adds derivatives of a ready upload, or changes nothing. -/
theorem publishDerivatives_cases {uploadId : UploadId} {derivatives : List PublishedDerivative}
    {now : OffsetDateTime} {result : Except ProcessingRepositoryError Unit}
    (integrity : store.Integrity)
    (ran : publishDerivatives uploadId derivatives now store = (result, store')) :
    (store' = store ∧ ∃ error, result = .error error) ∨
      (result = .ok () ∧ ∃ upload ∈ store.uploads, upload.id = uploadId ∧
        ∃ added middle, Published uploadId added store middle ∧
          ((upload.state = .processing ∧
              UploadMoved upload (readyColumns now.unixTimestamp) middle store') ∨
            (upload.state = .ready ∧ store' = middle))) := by
  cases result with
  | error e =>
      refine .inl ⟨?_, e, rfl⟩
      refine atomic_bind (moves_ensure _ _) (fun _ => ?_) store e store' ran
      exact atomic_bind (moves_readOr _) fun _ => atomic_commit _
  | ok u =>
      simp only [publishDerivatives, call_bind_eq_ok, call_ensure_eq_ok, call_readOr_eq,
        Prod.mk.injEq, commit_eq_ok, publishTransaction, bind_eq_ok, select_eq_ok, okOr_eq_ok,
        ensure_eq_ok] at ran
      obtain ⟨_, _, ⟨-, rfl⟩, _, _, ⟨-, rfl⟩, _, _, ⟨found, rfl⟩, upload, _, ⟨stored, rfl⟩, _, _,
        ⟨publishing, rfl⟩, _, middle, all, last⟩ := ran
      rw [← found] at stored
      have member : upload ∈ store.uploads := List.mem_of_find?_eq_some stored
      have id : upload.id = uploadId := by simpa using List.find?_some stored
      obtain ⟨added, published⟩ := publishAll_ok all
      refine .inr ⟨rfl, upload, member, id, added, middle, published, ?_⟩
      split at last
      · rename_i processing
        simp only [enterReady, bind_eq_ok, execute_eq_ok, ensure_eq_ok] at last
        obtain ⟨n, final, updated, one, rfl⟩ := last
        have pinned : ∀ row : UploadRow, (row.id == uploadId && row.state == .processing) = true →
            row.id = uploadId := by
          intro row hits
          simp only [Bool.and_eq_true, beq_iff_eq] at hits
          exact hits.1
        have integrity' := published.effect.integrity integrity
        obtain ⟨rfl, -⟩ | ⟨-, reached, hits, moved⟩ := updateUploads_moves integrity' pinned updated
        · simp at one
        · have same : reached = upload := by
            refine integrity'.uploadIds.eq_of_key moved.member ?_
              ((pinned reached hits).trans id.symm)
            rw [published.uploads]
            exact member
          rw [same] at moved
          exact .inl ⟨processing, moved⟩
      · rename_i notProcessing
        obtain ⟨-, rfl⟩ := pure_eq_ok.1 last
        simp only [Bool.or_eq_true, beq_iff_eq, notProcessing, false_or] at publishing
        exact .inr ⟨publishing, rfl⟩

/-! ## Kinds -/

theorem moves_startProcessing (uploadId : UploadId) (detectedContentType sourceSha256 : String)
    (now : OffsetDateTime) :
    Moves (Effect [.updateUploads])
      (startProcessing uploadId detectedContentType sourceSha256 now) := by
  refine moves_bind (moves_ensure _ _) fun _ => ?_
  refine moves_bind (moves_autocommit fun s n t ran => ?_) fun _ => moves_reachedOne _ _
  refine (Wrote.updateUploads (by simp) (fun row _ hit => ?_) ran).effect
  refine ⟨rfl, ?_, fun _ => rfl⟩
  rw [(startable_iff.1 hit).2]
  exact UploadState.Chain.step rfl

theorem moves_markRejected (uploadId : UploadId) (errorCode : String) (now : OffsetDateTime) :
    Moves (Effect [.updateUploads]) (markRejected uploadId errorCode now) := by
  refine moves_bind (moves_ensure _ _) fun _ => ?_
  refine moves_bind (moves_autocommit fun s n t ran => ?_) fun _ => moves_reachedOne _ _
  refine (Wrote.updateUploads (by simp) (fun row _ hit => ?_) ran).effect
  refine ⟨rfl, ?_, fun _ => rfl⟩
  obtain quarantined | processing := (rejectable_iff.1 hit).2
  · rw [quarantined]
    exact UploadState.Chain.step rfl
  · rw [processing]
    exact UploadState.Chain.step rfl

theorem moves_publishDerivatives (uploadId : UploadId) (derivatives : List PublishedDerivative)
    (now : OffsetDateTime) :
    Moves (Effect [.updateUploads, .derivatives])
      (publishDerivatives uploadId derivatives now) := by
  refine moves_bind (moves_ensure _ _) fun _ => ?_
  refine moves_bind (moves_readOr _) fun _ => moves_commit ?_
  refine along_bind (along_select _) fun stored => ?_
  refine along_bind (along_okOr _ _) fun row => ?_
  refine along_bind (along_ensure _ _) fun _ => ?_
  refine along_bind (along_forM (fun derivative => ?_) derivatives) fun _ => ?_
  · refine along_bind (along_okOr _ _) fun byteLen => ?_
    refine along_bind (along_execute fun s n t ran => ?_) fun _ => along_ensure _ _
    exact (Wrote.upsertDerivative (by simp) ran).effect
  refine along_ite (fun _ => ?_) fun _ => along_pure _
  refine along_bind (along_execute fun s n t ran => ?_) fun _ => along_ensure _ _
  refine (Wrote.updateUploads (by simp) (fun row _ hit => ?_) ran).effect
  simp only [Bool.and_eq_true, beq_iff_eq] at hit
  refine ⟨rfl, ?_, fun _ => rfl⟩
  rw [hit.2]
  exact UploadState.Chain.step rfl

end Specification

end MediaBooster.Store
