/-
# Service.Policies -- the site policy service

A published policy pins the watermark asset it names: the asset is looked up and checked, and
the next revision is written by a statement of its own.  Where that statement stores nothing, a
second one compares the request with the row of its revision.

The digest of the settings is a parameter: SHA-256 over the normalized settings, as text.
-/
import MediaBooster.Service.World

namespace MediaBooster.Service

set_option autoImplicit false

open MediaBooster.Domain MediaBooster.Store MediaBooster.Theory.Threads

/-- Watermark settings of a request. -/
structure RequestedWatermarkPolicy where
  assetUploadId : UploadId
  position : WatermarkPosition
  marginPx : Nat
  maxWidthPercent : Nat
  opacityPercent : Nat
deriving DecidableEq

/-- Signed control request. -/
structure PublishSitePolicy where
  tenantId : String
  schemaVersion : Nat
  revision : Nat
  issuedAt : OffsetDateTime
  watermark : Option RequestedWatermarkPolicy
deriving DecidableEq

inductive PublishSitePolicyError
  | invalidTenant
  | invalidPolicy
  | assetNotFound
  | assetRejected
  | revisionConflict
  | repository
deriving DecidableEq

/-- `impl From<SitePolicyRepositoryError> for PublishSitePolicyError`. -/
def publishError : SitePolicyRepositoryError → PublishSitePolicyError
  | .revisionConflict => .revisionConflict
  | .backend _ => .repository

/-- `SITE_POLICY_SCHEMA_VERSION`. -/
def sitePolicySchemaVersion : Nat := 1

/-- `MAX_WATERMARK_ASSET_BYTES`. -/
def maxWatermarkAssetBytes : Nat := 16 * 1024 * 1024

/-- `validate_snapshot_envelope`. -/
def validateSnapshotEnvelope (request : PublishSitePolicy) (now : OffsetDateTime)
    (maxSkewSeconds : Nat) : Except PublishSitePolicyError Unit :=
  let skew := (now.unixTimestamp - request.issuedAt.unixTimestamp).natAbs
  if !narrowToken request.tenantId 64 then .error .invalidTenant
  else if request.schemaVersion ≠ sitePolicySchemaVersion ∨ request.revision = 0 ∨
      i64Max < (request.revision : Int) ∨ maxSkewSeconds < skew then
    .error .invalidPolicy
  else .ok ()

/-- `validate_watermark_settings`. -/
def validateWatermarkSettings (watermark : RequestedWatermarkPolicy) :
    Except PublishSitePolicyError Unit :=
  if 1024 < watermark.marginPx ∨ watermark.maxWidthPercent < 1 ∨ 50 < watermark.maxWidthPercent ∨
      watermark.opacityPercent < 1 ∨ 100 < watermark.opacityPercent then
    .error .invalidPolicy
  else .ok ()

/-- `validate_asset`. -/
def validateAsset (candidate : PolicyAssetCandidate) (requested : RequestedWatermarkPolicy) :
    Except PublishSitePolicyError StoredWatermarkPolicy :=
  match candidate.sourceSha256.filter sha256Token, candidate.detectedContentType with
  | none, _ => .error .assetRejected
  | some _, none => .error .assetRejected
  | some digest, some contentType =>
      if candidate.uploadId ≠ requested.assetUploadId ∨ candidate.declaredKind ≠ .image ∨
          candidate.state ≠ .ready ∨ candidate.byteLen = 0 ∨
          maxWatermarkAssetBytes < candidate.byteLen ∨
          ¬ (contentType = "image/jpeg" ∨ contentType = "image/png" ∨
            contentType = "image/webp") then
        .error .assetRejected
      else
        .ok ⟨candidate.uploadId, candidate.objectKey, candidate.byteLen, digest,
          requested.position, requested.marginPx, requested.maxWidthPercent,
          requested.opacityPercent⟩

/-- Publishes policy snapshots. -/
structure SitePolicyService where
  maxIssuedAtSkewSeconds : Nat
  normalizedSettingsSha256 : Option StoredWatermarkPolicy → String

namespace SitePolicyService

variable (service : SitePolicyService)

/-- The watermark of a request, looked up and checked. -/
def pinWatermark (tenantId : String) :
    Option RequestedWatermarkPolicy → Action PublishSitePolicyError (Option StoredWatermarkPolicy)
  | none => pure none
  | some requested => do
      Attempt.ofExcept (validateWatermarkSettings requested)
      let found ← Attempt.mapError publishError
        (call (.findPolicyAsset tenantId requested.assetUploadId))
      let candidate ← Attempt.okOr found .assetNotFound
      let stored ← Attempt.ofExcept (validateAsset candidate requested)
      return some stored

/-- `SitePolicyRepository::publish_site_policy`: its `INSERT`, and a `SELECT` of its own where
that one reached no row. -/
def publishSitePolicy (snapshot : SitePolicySnapshot) :
    Action SitePolicyRepositoryError PublishPolicyOutcome := do
  let createdAt ← Service.now
  let inserted ← call (.insertSnapshot snapshot createdAt)
  if inserted = 1 then return .published else call (.compareSnapshot snapshot)

/-- `publish`; `now` is the caller's reading of the clock. -/
def publish (request : PublishSitePolicy) (now : OffsetDateTime) :
    Action PublishSitePolicyError (SitePolicySnapshot × PublishPolicyOutcome) := do
  Attempt.ofExcept (validateSnapshotEnvelope request now service.maxIssuedAtSkewSeconds)
  let watermark ← pinWatermark request.tenantId request.watermark
  let snapshot : SitePolicySnapshot :=
    { tenantId := request.tenantId
      schemaVersion := request.schemaVersion
      revision := request.revision
      issuedAt := request.issuedAt
      settingsSha256 := service.normalizedSettingsSha256 watermark
      watermark := watermark }
  let outcome ← Attempt.mapError publishError (publishSitePolicy snapshot)
  return (snapshot, outcome)

end SitePolicyService

end MediaBooster.Service
