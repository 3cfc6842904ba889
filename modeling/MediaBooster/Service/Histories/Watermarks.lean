/-
# Service.Histories.Watermarks -- what names a derivative, and what is drawn on it

The key of a derivative is made of five texts, and the watermark of an attempt of a policy.
Each comes from a validator of its own: the tenant of `create_batch`, the digest of
`start_processing`, the asset of a published snapshot of `validate_asset`.  `Prepared` says
what an attempt has heard when it goes on to render: the source of its job, the digest under
which the source was recorded, and the watermark that the snapshot of the job's revision
chooses.
-/
import MediaBooster.Service.Histories.Policies
import MediaBooster.Service.Histories.Worker

namespace MediaBooster.Service

set_option autoImplicit false

open MediaBooster.Domain MediaBooster.Media MediaBooster.Storage MediaBooster.Store
open MediaBooster.Theory.Threads

/-! ## Tenants of batches -/

namespace UploadIntentService

variable (service : UploadIntentService)

/-- A batch is saved for a valid tenant. -/
def SavesValid : Ask → Prop
  | .store (.saveBatch batch _) => narrowToken batch.tenantId 64 = true
  | _ => True

theorem Opens.savesValid {service : UploadIntentService} {request : Ask}
    (opens : service.Opens request) : SavesValid request := by
  cases request with
  | store => exact opens.elim
  | _ => trivial

theorem Controls.savesValid {service : UploadIntentService} {request : Ask}
    (controls : service.Controls request) : SavesValid request := by
  cases request with
  | store op => cases op <;> trivial
  | _ => trivial

/-- **The tenant of a batch was checked.** -/
theorem only_createBatch_valid (request : CreateUploadBatch) :
    (service.createBatch request).Only SavesValid := by
  unfold createBatch
  cases tenant : tenantIsValid request.tenantId with
  | false => exact Attempt.only_fail _
  | true =>
      refine Attempt.only_bind (Attempt.only_pure _) fun _ => ?_
      refine Attempt.only_bind (Attempt.only_ofExcept _) fun _ => ?_
      refine Attempt.only_bind (Attempt.only_ofExcept _) fun transfers => ?_
      refine Attempt.only_bind (Attempt.only_okOr _ _) fun additional => ?_
      refine Attempt.only_bind (Attempt.only_ensure _ _) fun _ => ?_
      refine Attempt.only_bind (Attempt.only_mapError (only_call trivial)) fun allowed => ?_
      refine Attempt.only_bind (Attempt.only_ensure _ _) fun _ => ?_
      refine Attempt.only_bind (only_drawId trivial) fun batchId => ?_
      refine Attempt.only_bind (only_now trivial) fun createdAt => ?_
      apply Attempt.only_bind ((service.only_reserveFiles _ _ _ _).mono fun _ opens => opens.savesValid)
      rintro ⟨reservations, outputs⟩
      refine Attempt.only_bind (Attempt.only_lift (only_call tenant)) fun saved => ?_
      cases saved with
      | ok => exact Attempt.only_pure _
      | error error =>
          exact Attempt.only_bind (Attempt.only_lift (service.only_cleanup (fun _ _ => trivial) _))
            fun _ => Attempt.only_fail _

end UploadIntentService

/-! ## Assets of snapshots -/

namespace SitePolicyService

/-- A snapshot is published with the digest of its asset. -/
def PublishesDigest : Ask → Prop
  | .store (.insertSnapshot snapshot _) => ∀ watermark, snapshot.watermark = some watermark →
      sha256Token watermark.assetSha256 = true
  | _ => True

theorem validateAsset_digest {candidate : PolicyAssetCandidate}
    {requested : RequestedWatermarkPolicy} {stored : StoredWatermarkPolicy}
    (valid : validateAsset candidate requested = .ok stored) :
    sha256Token stored.assetSha256 = true := by
  unfold validateAsset at valid
  split at valid
  · cases valid
  · cases valid
  · rename_i digest contentType filtered _
    split at valid
    · cases valid
    · cases valid
      exact (Option.filter_eq_some_iff.1 filtered).2

/-- **The asset of a snapshot was checked.** -/
theorem follows_publish_digest (service : SitePolicyService) (request : PublishSitePolicy)
    (readAt : OffsetDateTime) :
    (service.publish request readAt).Follows (fun _ => PublishesDigest) (fun _ _ => True) [] := by
  unfold publish
  refine Attempt.follows_ofExcept (fun _ _ => ?_) fun _ _ => trivial
  refine Attempt.follows_bind (Q := fun _ result => ∀ watermark, result = .ok (some watermark) →
    sha256Token watermark.assetSha256 = true) ?_ ?_ fun _ _ _ => trivial
  · unfold pinWatermark
    split
    · intro watermark same
      cases same
    · refine Attempt.follows_ofExcept (fun _ _ => ?_) fun _ _ _ failed => by cases failed
      refine follows_call trivial (fun found => ?_) fun _ _ failed => by cases failed
      refine Attempt.follows_okOr (fun candidate _ => ?_) fun _ _ failed => by cases failed
      refine Attempt.follows_ofExcept (fun stored valid => ?_) fun _ _ _ failed => by cases failed
      rintro watermark ⟨⟩
      exact validateAsset_digest valid
  · intro past watermark checked
    refine Attempt.follows_bind (Q := fun _ _ => True) ?_ (fun _ _ _ => trivial) fun _ _ _ => trivial
    refine Attempt.follows_mapError (Attempt.Follows.weaken
      (follows_publishSitePolicy trivial (fun createdAt => ?_) fun _ => trivial) fun _ _ _ => trivial)
    intro pinned named
    exact checked pinned (congrArg Except.ok named)

end SitePolicyService

/-! ## Derivatives of a source -/

namespace SourceValidationWorker

variable (worker : SourceValidationWorker)

/-- The watermark of a stored policy, under the revision it belongs to. -/
def objectWatermark (revision : Nat) (stored : StoredWatermarkPolicy) : WatermarkPolicy :=
  ⟨"registered-watermark", stored.assetSha256, "g7-r" ++ toString revision, stored.position,
    stored.marginPx, stored.maxWidthPercent, stored.opacityPercent⟩

/-- The preset a watermark names. -/
def presetOf (watermark : Option WatermarkPolicy) : String :=
  watermark.elim defaultDerivativePreset WatermarkPolicy.presetId

/-- The source was recorded under the digest, by this attempt or before. -/
def Digested (past : History) (source : ProcessingSource) (digest : String) : Prop :=
  source.sourceSha256 = some digest ∨ ∃ contentType startedAt,
    (⟨.store (.startProcessing source.uploadId contentType digest startedAt), .ok ()⟩ :
      Exchange Answer) ∈ past

/-- The watermark an attempt draws: that of the snapshot of its job's revision, or the
configured one when the job has none. -/
def Chosen (past : History) (leased : LeasedProcessingJob) (source : ProcessingSource)
    (watermark : Option WatermarkPolicy) : Prop :=
  match leased.job.sitePolicyRevision with
  | some revision => ∃ snapshot : SitePolicySnapshot,
      (⟨.store (.findSitePolicyRevision source.tenantId revision), .ok (some snapshot)⟩ :
        Exchange Answer) ∈ past ∧ watermark = snapshot.watermark.map (objectWatermark revision)
  | none => watermark = worker.policy.watermark.map fun configured =>
      { configured with assetPath := "registered-watermark" }

/-- What an attempt has heard when it renders and stores derivatives. -/
structure Prepared (past : History) (leased : LeasedProcessingJob) (source : ProcessingSource)
    (digest : String) (watermark : Option WatermarkPolicy) : Prop where
  sourced : Sourced past leased source
  digested : Digested past source digest
  chosen : worker.Chosen past leased source watermark

/-- The key an attempt builds for a file. -/
def derivativeText (source : ProcessingSource) (digest : String)
    (watermark : Option WatermarkPolicy) (name : String) : String :=
  mediaKeyText source.tenantId source.uploadId digest (presetOf watermark) name

/-- What an attempt has done before it looks a policy up, renders or stores. -/
def RenderRule (past : History) : Ask → Prop
  | .store (.findSitePolicyRevision tenantId revision) => ∃ leased source,
      Sourced past leased source ∧ tenantId = source.tenantId ∧
        leased.job.sitePolicyRevision = some revision
  | .host (.imageMaster watermark) => ∃ leased source digest,
      worker.Prepared past leased source digest watermark
  | .host (.renderThumbnail _ watermark) => ∃ leased source digest,
      worker.Prepared past leased source digest watermark
  | .provider (.putObject _ key _) => ∃ leased source digest watermark,
      worker.Prepared past leased source digest watermark ∧
        ∃ name ∈ derivativeNames, key = derivativeText source digest watermark name
  | _ => True

section Facts

variable {worker} {past past' : History} {leased : LeasedProcessingJob} {source : ProcessingSource}
variable {digest : String} {watermark : Option WatermarkPolicy}

theorem Digested.mono (digested : Digested past source digest) (more : past ⊆ past') :
    Digested past' source digest := by
  obtain recorded | ⟨contentType, startedAt, member⟩ := digested
  · exact .inl recorded
  · exact .inr ⟨contentType, startedAt, more member⟩

theorem Chosen.mono (chosen : worker.Chosen past leased source watermark) (more : past ⊆ past') :
    worker.Chosen past' leased source watermark := by
  unfold Chosen at *
  split at chosen
  · obtain ⟨snapshot, member, same⟩ := chosen
    exact ⟨snapshot, more member, same⟩
  · exact chosen

theorem Prepared.mono (prepared : worker.Prepared past leased source digest watermark)
    (more : past ⊆ past') : worker.Prepared past' leased source digest watermark :=
  ⟨prepared.sourced.mono more, prepared.digested.mono more, prepared.chosen.mono more⟩

theorem Prepared.append {more : History}
    (prepared : worker.Prepared past leased source digest watermark) :
    worker.Prepared (past ++ more) leased source digest watermark :=
  prepared.mono (List.subset_append_left _ _)

theorem RenderRule.mono {request : Ask} (rule : worker.RenderRule past request)
    (more : past ⊆ past') : worker.RenderRule past' request := by
  unfold RenderRule at *
  split at rule
  · obtain ⟨leased, source, sourced, same⟩ := rule
    exact ⟨leased, source, sourced.mono more, same⟩
  · obtain ⟨leased, source, digest, prepared⟩ := rule
    exact ⟨leased, source, digest, prepared.mono more⟩
  · obtain ⟨leased, source, digest, prepared⟩ := rule
    exact ⟨leased, source, digest, prepared.mono more⟩
  · obtain ⟨leased, source, digest, watermark, prepared, named⟩ := rule
    exact ⟨leased, source, digest, watermark, prepared.mono more, named⟩
  · trivial

theorem Inspects.renderRule {request : Ask} (inspects : worker.Inspects request) :
    worker.RenderRule past request := by
  cases request with
  | host request => cases request <;> trivial
  | provider request => cases request <;> trivial
  | store => exact inspects.elim
  | _ => trivial

theorem Settles.renderRule {workerId : String} {request : Ask}
    (settles : worker.Settles workerId request) : worker.RenderRule past request := by
  cases request with
  | host request => cases request <;> trivial
  | store op => cases op <;> trivial
  | provider => exact settles.elim
  | _ => trivial

end Facts

/-! ## Rendering and storing -/

section Storing

variable {worker} {past : History} {leased : LeasedProcessingJob} {source : ProcessingSource}
variable {digest : String} {watermark : Option WatermarkPolicy} {key : ObjectKey} {name : String}

/-- An attempt that ends anyhow. -/
abbrev Renders {α : Type} (worker : SourceValidationWorker) (past : History)
    (action : Action ProcessingFailure α) : Prop :=
  action.Follows worker.RenderRule (fun _ _ => True) past

theorem renders_putFile {file : JobFile} {contentType : String}
    (prepared : worker.Prepared past leased source digest watermark)
    (named : name ∈ derivativeNames) (built : key.asStr = derivativeText source digest watermark name) :
    Renders worker past (Attempt.mapError classifyStorageError
      (worker.derivativeStore.putFile key file contentType)) := by
  refine Attempt.follows_mapError ?_
  unfold S3CompatibleStore.putFile
  refine Attempt.follows_ensure (fun _ => ?_) fun _ => trivial
  refine follows_host trivial fun length => ?_
  refine Attempt.follows_okOr (fun contentLength _ => ?_) fun _ => trivial
  refine Attempt.follows_ensure (fun _ => ?_) fun _ => trivial
  refine Attempt.follows_ensure (fun _ => ?_) fun _ => trivial
  refine follows_sent ?_ (fun _ => trivial) fun _ => trivial
  exact ⟨leased, source, digest, watermark, prepared.append, name, named, built⟩

theorem renders_uploadGeneratedDerivative {file : JobFile} {presetId variant contentType : String}
    (prepared : worker.Prepared past leased source digest watermark)
    (named : name ∈ derivativeNames) (built : key.asStr = derivativeText source digest watermark name) :
    Renders worker past (worker.uploadGeneratedDerivative file key presetId variant contentType) := by
  unfold uploadGeneratedDerivative
  refine follows_host trivial fun length => ?_
  refine Attempt.follows_okOr (fun byteLen _ => ?_) fun _ => trivial
  refine Attempt.follows_ensure (fun _ => ?_) fun _ => trivial
  refine Attempt.follows_quiet (worker.only_sha256File _ _) (fun _ _ inspects => inspects.renderRule)
    (fun more sha256 _ => ?_) fun _ _ _ => trivial
  refine Attempt.follows_bind (renders_putFile prepared.append.append named built) ?_
    fun _ _ _ => trivial
  intro past' stored _
  exact Attempt.follows_ensure (fun _ => trivial) fun _ => trivial

theorem renders_derivativeKey {α : Type} {next : ObjectKey → Action ProcessingFailure α}
    (rest : ∀ key : ObjectKey, key.asStr = derivativeText source digest watermark name →
      Renders worker past (next key)) :
    Renders worker past (derivativeKey source digest (presetOf watermark) name >>= next) :=
  Attempt.follows_okOr (fun key made => rest key (ObjectKey.new_asStr made)) fun _ => trivial

/-- The file name of a video master. -/
theorem videoMaster_named {format : MediaFormat} {extension : String}
    (known : videoMasterExtension format = some extension) :
    "master." ++ extension ∈ derivativeNames := by
  cases format with
  | mp4 | quickTime | webm =>
      cases known
      decide
  | jpeg | png | gif | webp | avif | heif => cases known

theorem renders_storeMaster {inspection : MediaInspection}
    (prepared : worker.Prepared past leased source digest watermark) :
    Renders worker past
      (worker.storeMaster source digest (presetOf watermark) watermark inspection) := by
  cases inspection with
  | image contentType heavy =>
      refine follows_host ⟨leased, source, digest, prepared⟩ fun rendered => ?_
      refine Attempt.follows_ofExcept (fun _ _ => ?_) fun _ _ => trivial
      refine renders_derivativeKey fun key built => ?_
      exact renders_uploadGeneratedDerivative prepared.append (by decide) built
  | video format contentType =>
      refine Attempt.follows_okOr (fun extension known => ?_) fun _ => trivial
      refine renders_derivativeKey fun key built => ?_
      refine Attempt.follows_bind (renders_putFile prepared (videoMaster_named known) built) ?_
        fun _ _ _ => trivial
      intro past' stored _
      exact Attempt.follows_ensure (fun _ => trivial) fun _ => trivial

theorem renders_storeThumbnail {inspection : MediaInspection}
    (prepared : worker.Prepared past leased source digest watermark) :
    Renders worker past
      (worker.storeThumbnail source digest (presetOf watermark) inspection watermark) := by
  refine follows_host ⟨leased, source, digest, prepared⟩ fun rendered => ?_
  refine Attempt.follows_ofExcept (fun _ _ => ?_) fun _ _ => trivial
  refine renders_derivativeKey fun key built => ?_
  exact renders_uploadGeneratedDerivative prepared.append (by decide) built

end Storing

/-! ## The work on a source -/

section Working

variable {worker} {past : History} {leased : LeasedProcessingJob} {source : ProcessingSource}

theorem follows_recordStart_digest {digest contentType : String} :
    (recordStart source digest contentType).Follows worker.RenderRule
      (fun past' result => result.isOk → Digested past' source digest) past := by
  unfold recordStart
  split
  · refine follows_now trivial fun startedAt => ?_
    refine Attempt.follows_mapError ⟨trivial, fun answer started => ?_⟩
    cases answer with
    | ok => exact .inr ⟨contentType, startedAt, List.mem_append_right _ (List.mem_singleton_self _)⟩
    | error => cases started
  · cases recorded : (source.sourceSha256 == some digest &&
        source.detectedContentType == some contentType) with
    | true =>
        intro _
        rw [Bool.and_eq_true, beq_iff_eq] at recorded
        exact .inl recorded.1
    | false => exact fun failed => by cases failed

theorem follows_prepareObjectWatermark {revision : Nat} {stored : StoredWatermarkPolicy} :
    (worker.prepareObjectWatermark revision stored).Follows worker.RenderRule
      (fun _ result => ∀ watermark, result = .ok watermark →
        watermark = objectWatermark revision stored) past := by
  unfold prepareObjectWatermark
  have fetches : (Attempt.mapError (fun _ => ProcessingFailure.operational "WATERMARK_ASSET_UNAVAILABLE")
      (worker.rawStore.downloadTo stored.objectKey .watermark stored.byteLen maxWatermarkBytes)).Only
        worker.Inspects := Attempt.only_mapError (S3CompatibleStore.only_downloadTo rfl trivial)
  refine Attempt.follows_quiet fetches (fun _ _ inspects => inspects.renderRule) (fun _ _ _ => ?_)
    fun _ _ _ _ failed => by cases failed
  refine Attempt.follows_quiet (worker.only_sha256File _ _) (fun _ _ inspects => inspects.renderRule)
    (fun _ digest _ => ?_) fun _ _ _ _ failed => by cases failed
  refine Attempt.follows_ensure (fun _ => ?_) fun _ _ failed => by cases failed
  rintro watermark ⟨⟩
  rfl

theorem follows_prepareConfiguredWatermark {configured : WatermarkPolicy} :
    (prepareConfiguredWatermark configured).Follows worker.RenderRule
      (fun _ result => ∀ watermark, result = .ok watermark →
        watermark = { configured with assetPath := "registered-watermark" }) past := by
  unfold prepareConfiguredWatermark
  refine follows_host trivial fun length => ?_
  refine Attempt.follows_okOr (fun copied _ => ?_) fun _ _ failed => by cases failed
  refine Attempt.follows_ensure (fun _ => ?_) fun _ _ failed => by cases failed
  refine Attempt.follows_quiet (worker.only_sha256File _ _) (fun _ _ inspects => inspects.renderRule)
    (fun _ digest _ => ?_) fun _ _ _ _ failed => by cases failed
  refine Attempt.follows_ensure (fun _ => ?_) fun _ _ failed => by cases failed
  rintro watermark ⟨⟩
  rfl

/-- What an attempt prepares is what its job chooses. -/
theorem follows_prepareWatermark (sourced : Sourced past leased source) :
    (worker.prepareWatermark source.tenantId leased.job.sitePolicyRevision).Follows worker.RenderRule
      (fun past' result => ∀ watermark, result = .ok watermark →
        worker.Chosen past' leased source watermark) past := by
  unfold Chosen
  cases pinned : leased.job.sitePolicyRevision with
  | some revision =>
      refine follows_call ⟨leased, source, sourced, rfl, pinned⟩ (fun found => ?_)
        fun _ _ failed => by cases failed
      refine Attempt.follows_okOr (fun snapshot there => ?_) fun _ _ failed => by cases failed
      refine Attempt.follows_ensure (fun _ => ?_) fun _ _ failed => by cases failed
      rw [there]
      have looked := List.mem_append_right past (List.mem_singleton_self
        (⟨.store (.findSitePolicyRevision source.tenantId revision), .ok (some snapshot)⟩ :
          Exchange Answer))
      cases marked : snapshot.watermark with
      | none =>
          rintro watermark ⟨⟩
          exact ⟨snapshot, looked, by rw [marked]; rfl⟩
      | some stored =>
          refine Attempt.follows_bind follows_prepareObjectWatermark.adds ?_
            fun _ _ _ _ failed => by cases failed
          rintro _ watermark ⟨same, more, rfl⟩ _ ⟨⟩
          exact ⟨snapshot, List.mem_append_left _ looked, by rw [marked, same watermark rfl]; rfl⟩
  | none =>
      unfold prepareWatermark
      cases worker.policy.watermark with
      | none =>
          rintro watermark ⟨⟩
          rfl
      | some configured =>
          refine Attempt.follows_bind follows_prepareConfiguredWatermark ?_
            fun _ _ _ _ failed => by cases failed
          rintro past' watermark same _ ⟨⟩
          rw [same watermark rfl]
          rfl

theorem renders_validateDownloadedSource (sourced : Sourced past leased source) :
    Renders worker past
      (worker.validateDownloadedSource source leased.job.sitePolicyRevision) := by
  unfold validateDownloadedSource
  refine Attempt.follows_quiet (worker.only_inspectSource source)
    (fun _ _ inspects => inspects.renderRule) (fun more inspected _ => ?_) fun _ _ _ => trivial
  obtain ⟨digest, inspection⟩ := inspected
  refine Attempt.follows_quiet (worker.only_acquireTransformPermit _)
    (fun _ _ inspects => inspects.renderRule) (fun more' _ _ => ?_) fun _ _ _ => trivial
  have sourced : Sourced (past ++ more ++ more') leased source := sourced.append.append
  generalize past ++ more ++ more' = past at sourced ⊢
  refine Attempt.follows_bind follows_recordStart_digest.adds ?_ fun _ _ _ => trivial
  rintro _ _ ⟨digested, started, rfl⟩
  refine Attempt.follows_bind (follows_prepareWatermark sourced.append).adds ?_ fun _ _ _ => trivial
  rintro _ watermark ⟨chosen, looked, rfl⟩
  have prepared : worker.Prepared (past ++ started ++ looked) leased source digest watermark :=
    ⟨sourced.append.append, (digested rfl).mono (List.subset_append_left _ _), chosen watermark rfl⟩
  generalize past ++ started ++ looked = past at prepared ⊢
  refine Attempt.follows_bind (renders_storeMaster prepared).adds ?_ fun _ _ _ => trivial
  rintro _ master ⟨-, more, rfl⟩
  refine Attempt.follows_bind (renders_storeThumbnail prepared.append) ?_ fun _ _ _ => trivial
  intro past' thumbnail _
  refine follows_now trivial fun publishedAt => ?_
  exact Attempt.follows_mapError ⟨trivial, fun _ => trivial⟩

theorem renders_validateSource (holding : Holding past leased) :
    Renders worker past
      (worker.validateSource leased.job.uploadId leased.job.sitePolicyRevision) := by
  unfold validateSource
  refine follows_call trivial (fun found => ?_) fun _ => trivial
  refine Attempt.follows_okOr (fun source there => ?_) fun _ => trivial
  have sourced : Sourced (past ++ [⟨.store (.findProcessingSource leased.job.uploadId), .ok found⟩])
      leased source := by
    refine ⟨holding.mono (List.subset_append_left _ _), ?_⟩
    rw [there]
    exact List.mem_append_right _ (List.mem_singleton_self _)
  split
  · trivial
  · refine Attempt.follows_ensure (fun _ => ?_) fun _ => trivial
    exact renders_validateDownloadedSource sourced

/-- An attempt that only settles keeps the rule. -/
theorem settles_follows {ε α : Type} {workerId : String} {action : Action ε α}
    (only : action.Only (worker.Settles workerId)) :
    action.Follows worker.RenderRule (fun _ _ => True) past :=
  (Attempt.follows_adds only fun _ _ settles => settles.renderRule).weaken fun _ _ _ => trivial

/-- **A worker renders and stores what its job chooses.** -/
theorem renders_runOne (workerId : String) :
    (worker.runOne workerId).Follows worker.RenderRule (fun _ _ => True) [] := by
  unfold runOne
  refine follows_now trivial fun claimedAt => ?_
  refine follows_call trivial (fun claimed => ?_) fun _ => trivial
  cases claimed with
  | none => trivial
  | some leased =>
      have holding : Holding ([] ++ [⟨.now, claimedAt⟩] ++ [⟨.store (.claimNext workerId claimedAt
          worker.policy.leaseFor), .ok (some leased)⟩]) leased :=
        ⟨workerId, claimedAt, worker.policy.leaseFor,
          List.mem_append_right _ (List.mem_singleton_self _)⟩
      show Attempt.Follows _ _ _ (worker.processJob leased workerId)
      unfold processJob
      split
      · exact settles_follows (worker.only_refuseJob workerId leased)
      · have grows : ∀ (past past' : History) (request : Ask), worker.RenderRule past request →
            past ⊆ past' → worker.RenderRule past' request := fun _ _ _ rule more => rule.mono more
        have beating : ∀ past : History, (dueBeats (worker.renewLease leased.jobId workerId)).Follows
            worker.RenderRule (fun _ _ => True) past := fun _ =>
          settles_follows (only_dueBeats trivial (worker.only_renewLease workerId _))
        refine Attempt.follows_bind (follows_interleaved (fun _ _ _ _ _ => trivial) grows
          (fun past' _ => (beating past').weaken fun _ _ _ _ _ => trivial) (List.Subset.refl _)
          (renders_validateSource holding)) ?_ fun _ _ _ => trivial
        intro past' result _
        exact settles_follows (worker.only_settleJob workerId leased result)

end Working

end SourceValidationWorker

end MediaBooster.Service
