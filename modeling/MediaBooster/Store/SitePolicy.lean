/-
# Store.SitePolicy -- the site policy repository

`SitePolicyRepository` of the SQLite store: the candidate for a watermark asset, the
compare-and-swap publication of the next revision, and the reads of one revision or
of the newest.  A snapshot is inserted once and never updated.
-/
import MediaBooster.Store.Uploads

namespace MediaBooster.Store

set_option autoImplicit false

open MediaBooster.Domain MediaBooster.Theory.Table MediaBooster.Theory.Transaction

inductive SitePolicyRepositoryError
  | revisionConflict
  | backend (fault : Fault)
deriving DecidableEq

/-- `policy_backend`. -/
def policyBackend (error : SqlError) : SitePolicyRepositoryError := .backend (.sqliteBackend error)

/-- `policy_backend` of a text. -/
def policyText (message : String) : SitePolicyRepositoryError :=
  .backend (.within "SQLite backend: " (.text message))

/-- Upload facts inspected before it may become policy input. -/
structure PolicyAssetCandidate where
  uploadId : UploadId
  objectKey : ObjectKey
  declaredKind : MediaKind
  state : UploadState
  byteLen : Nat
  detectedContentType : Option String
  sourceSha256 : Option String
deriving DecidableEq

/-- Validated watermark settings stored inside one snapshot revision. -/
structure StoredWatermarkPolicy where
  assetUploadId : UploadId
  objectKey : ObjectKey
  byteLen : Nat
  assetSha256 : String
  position : WatermarkPosition
  marginPx : Nat
  maxWidthPercent : Nat
  opacityPercent : Nat
deriving DecidableEq

/-- Durable tenant policy revision. -/
structure SitePolicySnapshot where
  tenantId : String
  schemaVersion : Nat
  revision : Nat
  issuedAt : OffsetDateTime
  settingsSha256 : String
  watermark : Option StoredWatermarkPolicy
deriving DecidableEq

inductive PublishPolicyOutcome
  | published
  | unchanged
deriving DecidableEq

/-! ## Assets -/

/-- `policy_asset_from_row`. -/
def policyAssetFromRow (row : UploadRow) : Except SitePolicyRepositoryError PolicyAssetCandidate :=
  match row.actualSizeBytes with
  | none => .error (policyText "stored policy asset has no confirmed length")
  | some stored =>
      match u64TryFrom stored with
      | none => .error (policyText "stored policy asset length is invalid")
      | some byteLen =>
          .ok ⟨row.id, row.objectKey, row.declaredKind, row.state, byteLen,
            row.detectedContentType, row.sourceSha256⟩

/-- `SitePolicyRepository::find_policy_asset`. -/
def findPolicyAsset (tenantId : String) (uploadId : UploadId) :
    Call SqliteStore SitePolicyRepositoryError (Option PolicyAssetCandidate) :=
  Call.readOr fun store =>
    match store.uploads.find? (ownedUpload tenantId uploadId) with
    | none => .ok none
    | some row => (policyAssetFromRow row).map some

/-! ## Publishing -/

/-- The watermark columns bound for a snapshot. -/
def watermarkColumns (watermark : StoredWatermarkPolicy) (byteLen : Int) : WatermarkColumns where
  uploadId := watermark.assetUploadId
  objectKey := watermark.objectKey
  byteLen := byteLen
  sha256 := watermark.assetSha256
  position := watermark.position
  marginPx := watermark.marginPx
  maxWidthPercent := watermark.maxWidthPercent
  opacityPercent := watermark.opacityPercent

/-- The watermark of a snapshot, with its length converted. -/
def boundWatermark : Option StoredWatermarkPolicy →
    Except SitePolicyRepositoryError (Option WatermarkColumns)
  | none => .ok none
  | some watermark =>
      match i64TryFrom watermark.byteLen with
      | none => .error (.backend (.text "watermark length exceeds SQLite range"))
      | some byteLen => .ok (some (watermarkColumns watermark byteLen))

/-- The row bound for a snapshot. -/
def snapshotRow (snapshot : SitePolicySnapshot) (revision createdAt : Int)
    (watermark : Option WatermarkColumns) : SitePolicyRow where
  tenantId := snapshot.tenantId
  revision := revision
  schemaVersion := snapshot.schemaVersion
  issuedAt := snapshot.issuedAt.unixTimestamp
  settingsSha256 := snapshot.settingsSha256
  watermark := watermark
  createdAt := createdAt

/-- The row of one revision, which is the primary key. -/
def SqliteStore.policyRevision (tenantId : String) (revision : Int) (store : SqliteStore) :
    Option SitePolicyRow :=
  store.sitePolicySnapshots.find? fun row => row.tenantId == tenantId && row.revision == revision

/-- The conditional `INSERT` of `publish_site_policy`, with the conversions before it: how many
rows it reached.  The clock is a parameter. -/
def insertSnapshot (snapshot : SitePolicySnapshot) (createdAt : OffsetDateTime) :
    Call SqliteStore SitePolicyRepositoryError Nat := do
  let revision ← Call.okOr (i64TryFrom snapshot.revision) .revisionConflict
  let watermark ← Call.readOr fun _ => boundWatermark snapshot.watermark
  autocommit policyBackend (SqliteStore.insertSitePolicy
    (snapshotRow snapshot revision createdAt.unixTimestamp watermark))

/-- The `SELECT` of `publish_site_policy` after an `INSERT` that reached no row, and what it makes
of the row that is there. -/
def compareSnapshot (snapshot : SitePolicySnapshot) :
    Call SqliteStore SitePolicyRepositoryError PublishPolicyOutcome := do
  let revision ← Call.okOr (i64TryFrom snapshot.revision) .revisionConflict
  Call.readOr fun store =>
    if (store.policyRevision snapshot.tenantId revision).map SitePolicyRow.settingsSha256 =
        some snapshot.settingsSha256 then .ok .unchanged
    else .error .revisionConflict

/-- `SitePolicyRepository::publish_site_policy` with nothing between its two statements.  The
statements of a publication in the system are exchanges of their own. -/
def publishSitePolicy (snapshot : SitePolicySnapshot) (createdAt : OffsetDateTime) :
    Call SqliteStore SitePolicyRepositoryError PublishPolicyOutcome := do
  let inserted ← insertSnapshot snapshot createdAt
  if inserted = 1 then pure .published else compareSnapshot snapshot

/-! ## Reading -/

/-- The watermark columns of a row, converted back. -/
def storedWatermark (mark : WatermarkColumns) :
    Except SitePolicyRepositoryError StoredWatermarkPolicy :=
  match u64TryFrom mark.byteLen with
  | none => .error (policyText "stored watermark length is invalid")
  | some byteLen =>
      match u32TryFrom mark.marginPx with
      | none => .error (policyText "stored watermark margin is invalid")
      | some marginPx =>
          match u8TryFrom mark.maxWidthPercent with
          | none => .error (policyText "stored watermark width is invalid")
          | some maxWidthPercent =>
              match u8TryFrom mark.opacityPercent with
              | none => .error (policyText "stored watermark opacity is invalid")
              | some opacityPercent =>
                  .ok ⟨mark.uploadId, mark.objectKey, byteLen, mark.sha256, mark.position,
                    marginPx, maxWidthPercent, opacityPercent⟩

/-- The watermark of a row; the columns are all NULL when it is disabled. -/
def storedWatermarkOption :
    Option WatermarkColumns → Except SitePolicyRepositoryError (Option StoredWatermarkPolicy)
  | none => .ok none
  | some mark => (storedWatermark mark).map some

/-- `site_policy_from_row`. -/
def sitePolicyFromRow (row : SitePolicyRow) : Except SitePolicyRepositoryError SitePolicySnapshot :=
  match OffsetDateTime.fromUnixTimestamp row.issuedAt with
  | none => .error (policyBackend .columnDecode)
  | some issuedAt => do
      let watermark ← storedWatermarkOption row.watermark
      match u16TryFrom row.schemaVersion with
      | none => .error (policyText "stored policy schema version is invalid")
      | some schemaVersion =>
          match u64TryFrom row.revision with
          | none => .error (policyText "stored policy revision is invalid")
          | some revision =>
              .ok ⟨row.tenantId, schemaVersion, revision, issuedAt, row.settingsSha256, watermark⟩

/-- `SitePolicyRepository::find_active_site_policy`: the row of the highest revision. -/
def findActiveSitePolicy (tenantId : String) :
    Call SqliteStore SitePolicyRepositoryError (Option SitePolicySnapshot) :=
  Call.readOr fun store =>
    match (store.maxRevision tenantId).bind fun revision =>
        store.policyRevision tenantId revision with
    | none => .ok none
    | some row => (sitePolicyFromRow row).map some

/-- `SitePolicyRepository::find_site_policy_revision`. -/
def findSitePolicyRevision (tenantId : String) (revision : Nat) :
    Call SqliteStore SitePolicyRepositoryError (Option SitePolicySnapshot) := do
  let revision ← Call.okOr (i64TryFrom revision) .revisionConflict
  Call.readOr fun store =>
    match store.policyRevision tenantId revision with
    | none => .ok none
    | some row => (sitePolicyFromRow row).map some

/-! ## What a publication does -/

/-- The revision the next snapshot of a tenant has to carry. -/
def SqliteStore.nextRevision (tenantId : String) (store : SqliteStore) : Int :=
  ((store.maxRevision tenantId).map (· + 1)).getD 1

/-- The snapshot goes in as the tenant's next revision. -/
structure SnapshotInserted (snapshot : SitePolicySnapshot) (store store' : SqliteStore) : Prop where
  inserted : ∃ revision createdAt watermark,
    i64TryFrom snapshot.revision = some revision ∧
      revision = store.nextRevision snapshot.tenantId ∧
      boundWatermark snapshot.watermark = .ok watermark ∧
      (∀ mark, watermark = some mark → ∃ upload ∈ store.uploads, upload.id = mark.uploadId) ∧
      store' = { store with sitePolicySnapshots := store.sitePolicySnapshots ++
        [snapshotRow snapshot revision createdAt watermark] }

theorem insertSitePolicy_inserted {n : Nat} {row : SitePolicyRow} {store store' : SqliteStore}
    (ran : SqliteStore.insertSitePolicy row store = .ok (n, store')) :
    store' = store ∨ (row.revision = store.nextRevision row.tenantId ∧
      (∀ mark, row.watermark = some mark → ∃ upload ∈ store.uploads, upload.id = mark.uploadId) ∧
      store' = { store with sitePolicySnapshots := store.sitePolicySnapshots ++ [row] }) := by
  simp only [SqliteStore.insertSitePolicy] at ran
  split at ran
  · rename_i next
    simp only [except_bind_eq_ok, require_eq_ok] at ran
    obtain ⟨-, -, ran⟩ := ran
    split at ran
    · cases ran
      exact .inl rfl
    · simp only [except_bind_eq_ok, require_eq_ok] at ran
      obtain ⟨-, references, result⟩ := ran
      cases result
      refine .inr ⟨next, fun mark marked => ?_, rfl⟩
      rw [marked, Option.all_some, List.any_eq_true] at references
      obtain ⟨upload, member, same⟩ := references
      exact ⟨upload, member, by simpa using same⟩
  · cases ran
    exact .inl rfl

theorem compareSnapshot_same {snapshot : SitePolicySnapshot} {store store' : SqliteStore}
    {result : Except SitePolicyRepositoryError PublishPolicyOutcome}
    (ran : compareSnapshot snapshot store = (result, store')) : store' = store := by
  cases result with
  | error e =>
      obtain refused | ⟨revision, _, converted, compared⟩ := call_bind_eq_error.1 ran
      · exact (call_okOr_eq_error.1 refused).2.2.symm
      · obtain ⟨-, rfl⟩ := call_okOr_eq_ok.1 converted
        exact (congrArg Prod.snd compared).symm
  | ok outcome =>
      obtain ⟨revision, _, converted, compared⟩ := call_bind_eq_ok.1 ran
      obtain ⟨-, rfl⟩ := call_okOr_eq_ok.1 converted
      exact (congrArg Prod.snd compared).symm

/-- A publication inserts its snapshot as the next revision, or changes nothing. -/
theorem insertSnapshot_cases {snapshot : SitePolicySnapshot} {createdAt : OffsetDateTime}
    {store store' : SqliteStore} {result : Except SitePolicyRepositoryError Nat}
    (ran : insertSnapshot snapshot createdAt store = (result, store')) :
    store' = store ∨ SnapshotInserted snapshot store store' := by
  cases result with
  | error e =>
      obtain refused | ⟨revision, _, converted, rest⟩ := call_bind_eq_error.1 ran
      · exact .inl (call_okOr_eq_error.1 refused).2.2.symm
      obtain ⟨-, rfl⟩ := call_okOr_eq_ok.1 converted
      obtain refused | ⟨watermark, _, bound, rest⟩ := call_bind_eq_error.1 rest
      · exact .inl (congrArg Prod.snd refused).symm
      · obtain ⟨-, rfl⟩ := Prod.mk.inj bound
        exact .inl (autocommit_error rest)
  | ok n =>
      simp only [insertSnapshot, call_bind_eq_ok, call_okOr_eq_ok, autocommit_eq_ok,
        call_readOr_eq, Prod.mk.injEq] at ran
      obtain ⟨revision, _, ⟨converted, rfl⟩, watermark, _, ⟨bound, rfl⟩, inserts⟩ := ran
      refine (insertSitePolicy_inserted inserts).imp_right fun facts => ?_
      exact ⟨revision, _, watermark, converted, facts.1, bound, facts.2.1, facts.2.2⟩

/-! ## Kinds -/

theorem moves_insertSnapshot (snapshot : SitePolicySnapshot) (createdAt : OffsetDateTime) :
    Moves (Effect [.policies]) (insertSnapshot snapshot createdAt) := by
  refine moves_okOr_bind fun revision converted => ?_
  refine moves_bind (moves_readOr _) fun watermark => ?_
  refine moves_autocommit fun s n t ran => ?_
  obtain ⟨rfl, bounded⟩ := i64TryFrom_eq_some.1 converted
  exact (Wrote.insertSitePolicy (by simp) bounded ran).effect

end MediaBooster.Store
