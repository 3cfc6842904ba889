/-
# Service.Histories.Publications -- what an attempt publishes

An attempt publishes a master and a thumbnail, in this order and in one call.  By then it has
recorded the facts of the source or found them recorded (`Begun`), and the provider has
acknowledged the objects of both under the keys their rows name (`Filed`).
-/
import MediaBooster.Service.Histories.Watermarks

namespace MediaBooster.Service

set_option autoImplicit false

open MediaBooster.Domain MediaBooster.Media MediaBooster.Storage MediaBooster.Store
open MediaBooster.Theory.Threads

namespace SourceValidationWorker

variable (worker : SourceValidationWorker)

/-- The facts of the source were recorded, by this attempt or before. -/
def Begun (past : History) (source : ProcessingSource) (digest contentType : String) : Prop :=
  (source.sourceSha256 = some digest ∧ source.detectedContentType = some contentType) ∨
    ∃ startedAt, (⟨.store (.startProcessing source.uploadId contentType digest startedAt), .ok ()⟩ :
      Exchange Answer) ∈ past

/-- The provider acknowledged an object of that length in the derivative bucket. -/
def Put (past : History) (key : String) (byteLen : Nat) : Prop :=
  (⟨.provider (.putObject worker.derivativeStore.bucket key byteLen), .ok ()⟩ : Exchange Answer) ∈ past

/-- A derivative of a source, under the file name `name`: what names it is what the attempt was
prepared with, and its object is there. -/
structure Filed (past : History) (source : ProcessingSource) (digest : String)
    (watermark : Option WatermarkPolicy) (variant name : String) (derivative : PublishedDerivative) :
    Prop where
  preset : derivative.presetId = presetOf watermark
  variant : derivative.variant = variant
  key : derivative.objectKey.asStr = derivativeText source digest watermark name
  put : worker.Put past derivative.objectKey.asStr derivative.byteLen

/-- A master: a JPEG, or the source itself. -/
structure IsMaster (past : History) (source : ProcessingSource) (digest contentType : String)
    (watermark : Option WatermarkPolicy) (master : PublishedDerivative) : Prop where
  filed : ∃ name ∈ derivativeNames, worker.Filed past source digest watermark "master" name master
  kind : master.contentType = "image/jpeg" ∨ (master.contentType = contentType ∧
    master.sha256 = digest ∧ master.byteLen = source.expectedSizeBytes)

/-- A thumbnail. -/
structure IsThumbnail (past : History) (source : ProcessingSource) (digest : String)
    (watermark : Option WatermarkPolicy) (thumbnail : PublishedDerivative) : Prop where
  filed : worker.Filed past source digest watermark "thumbnail" "thumbnail.jpg" thumbnail
  kind : thumbnail.contentType = "image/jpeg"

/-- What an attempt has done before it publishes. -/
def PublishRule (past : History) : Ask → Prop
  | .store (.publishDerivatives uploadId derivatives _) =>
      ∃ leased source digest contentType watermark master thumbnail,
        worker.Prepared past leased source digest watermark ∧
        Begun past source digest contentType ∧ source.uploadId = uploadId ∧
        derivatives = [master, thumbnail] ∧
        worker.IsMaster past source digest contentType watermark master ∧
        worker.IsThumbnail past source digest watermark thumbnail
  | _ => True

section Facts

variable {worker} {past past' : History} {leased : LeasedProcessingJob} {source : ProcessingSource}
variable {digest contentType variant name : String} {watermark : Option WatermarkPolicy}
variable {derivative : PublishedDerivative}

theorem Begun.mono (begun : Begun past source digest contentType) (more : past ⊆ past') :
    Begun past' source digest contentType := by
  obtain recorded | ⟨startedAt, member⟩ := begun
  · exact .inl recorded
  · exact .inr ⟨startedAt, more member⟩

theorem Filed.mono (filed : worker.Filed past source digest watermark variant name derivative)
    (more : past ⊆ past') :
    worker.Filed past' source digest watermark variant name derivative :=
  ⟨filed.preset, filed.variant, filed.key, more filed.put⟩

theorem IsMaster.mono (master : worker.IsMaster past source digest contentType watermark derivative)
    (more : past ⊆ past') :
    worker.IsMaster past' source digest contentType watermark derivative := by
  obtain ⟨name, named, filed⟩ := master.filed
  exact ⟨⟨name, named, filed.mono more⟩, master.kind⟩

theorem IsThumbnail.mono (thumbnail : worker.IsThumbnail past source digest watermark derivative)
    (more : past ⊆ past') : worker.IsThumbnail past' source digest watermark derivative :=
  ⟨thumbnail.filed.mono more, thumbnail.kind⟩

theorem Begun.append {more : History} (begun : Begun past source digest contentType) :
    Begun (past ++ more) source digest contentType := begun.mono (List.subset_append_left _ _)

theorem IsMaster.append {more : History}
    (master : worker.IsMaster past source digest contentType watermark derivative) :
    worker.IsMaster (past ++ more) source digest contentType watermark derivative :=
  master.mono (List.subset_append_left _ _)

theorem IsThumbnail.append {more : History}
    (thumbnail : worker.IsThumbnail past source digest watermark derivative) :
    worker.IsThumbnail (past ++ more) source digest watermark derivative :=
  thumbnail.mono (List.subset_append_left _ _)

theorem PublishRule.mono {request : Ask} (rule : worker.PublishRule past request)
    (more : past ⊆ past') : worker.PublishRule past' request := by
  unfold PublishRule at *
  split at rule
  · obtain ⟨leased, source, digest, contentType, watermark, master, thumbnail, prepared, begun,
      named, pair, isMaster, isThumbnail⟩ := rule
    exact ⟨leased, source, digest, contentType, watermark, master, thumbnail, prepared.mono more,
      begun.mono more, named, pair, isMaster.mono more, isThumbnail.mono more⟩
  · trivial

theorem Looks.publishRule {request : Ask} (looks : worker.Looks request) :
    worker.PublishRule past request := by
  cases request with
  | store op => cases op <;> trivial
  | _ => trivial

theorem Settles.publishRule {workerId : String} {request : Ask}
    (settles : worker.Settles workerId request) : worker.PublishRule past request := by
  cases request with
  | store op => cases op <;> trivial
  | _ => trivial

/-- What an attempt concludes while it only looks, whatever rule it was concluded under. -/
theorem follows_looking {ε α : Type} {rule : History → Ask → Prop}
    {post : History → Except ε α → Prop} {action : Action ε α}
    (follows : action.Follows rule post past) (only : action.Only worker.Looks) :
    action.Follows worker.PublishRule post past :=
  (Follows.restrict follows only).relax fun _ _ both => both.2.publishRule

end Facts

/-! ## Storing -/

section Storing

variable {worker} {past : History} {source : ProcessingSource} {digest : String}
variable {watermark : Option WatermarkPolicy} {key : ObjectKey}

theorem publishes_putFile {file : JobFile} {contentType : String} :
    (Attempt.mapError classifyStorageError
      (worker.derivativeStore.putFile key file contentType)).Follows worker.PublishRule
        (fun past' result => ∀ stored, result = .ok stored → worker.Put past' key.asStr stored)
        past := by
  refine Attempt.follows_mapError ?_
  unfold S3CompatibleStore.putFile
  refine Attempt.follows_ensure (fun _ => ?_) fun _ _ failed => by cases failed
  refine follows_host trivial fun length => ?_
  refine Attempt.follows_okOr (fun contentLength _ => ?_) fun _ _ failed => by cases failed
  refine Attempt.follows_ensure (fun _ => ?_) fun _ _ failed => by cases failed
  refine Attempt.follows_ensure (fun _ => ?_) fun _ _ failed => by cases failed
  refine follows_sent trivial (fun output => ?_) fun _ _ failed => by cases failed
  rintro stored ⟨⟩
  exact List.mem_append_right _ (List.mem_singleton_self _)

/-- What is generated is stored under its key. -/
theorem publishes_uploadGeneratedDerivative {file : JobFile} {presetId variant contentType : String} :
    (worker.uploadGeneratedDerivative file key presetId variant contentType).Follows
      worker.PublishRule (fun past' result => ∀ derivative, result = .ok derivative →
        derivative.objectKey = key ∧ derivative.presetId = presetId ∧
          derivative.variant = variant ∧ derivative.contentType = contentType ∧
            worker.Put past' key.asStr derivative.byteLen) past := by
  unfold uploadGeneratedDerivative
  refine follows_host trivial fun length => ?_
  refine Attempt.follows_okOr (fun byteLen _ => ?_) fun _ _ failed => by cases failed
  refine Attempt.follows_ensure (fun _ => ?_) fun _ _ failed => by cases failed
  refine Attempt.follows_quiet (worker.only_looks (worker.only_sha256File _ _))
    (fun _ _ looks => looks.publishRule) (fun more sha256 _ => ?_) fun _ _ _ _ failed => by cases failed
  refine Attempt.follows_bind publishes_putFile ?_ fun _ _ _ _ failed => by cases failed
  intro past' stored put
  refine Attempt.follows_ensure (fun same => ?_) fun _ _ failed => by cases failed
  rintro derivative ⟨⟩
  rw [beq_iff_eq] at same
  exact ⟨rfl, rfl, rfl, rfl, same ▸ put stored rfl⟩

theorem publishes_derivativeKey {α : Type} {name : String}
    {post : History → Except ProcessingFailure α → Prop}
    {next : ObjectKey → Action ProcessingFailure α}
    (rest : ∀ key : ObjectKey, key.asStr = derivativeText source digest watermark name →
      (next key).Follows worker.PublishRule post past)
    (fails : ∀ error, post past (.error error)) :
    (derivativeKey source digest (presetOf watermark) name >>= next).Follows worker.PublishRule post
      past :=
  Attempt.follows_okOr (fun key made => rest key (ObjectKey.new_asStr made)) fun _ => fails _

theorem publishes_storeMaster {inspection : MediaInspection} :
    (worker.storeMaster source digest (presetOf watermark) watermark inspection).Follows
      worker.PublishRule (fun past' result => ∀ master, result = .ok master →
        worker.IsMaster past' source digest inspection.contentType watermark master) past := by
  cases inspection with
  | image contentType heavy =>
      refine follows_host trivial fun rendered => ?_
      refine Attempt.follows_ofExcept (fun _ _ => ?_) fun _ _ _ failed => by cases failed
      refine publishes_derivativeKey (fun key built => ?_) fun _ _ failed => by cases failed
      refine Follows.weaken publishes_uploadGeneratedDerivative fun past' result made => ?_
      intro master stored
      obtain ⟨keyed, preset, variant, kind, put⟩ := made master stored
      refine ⟨⟨"master.jpg", by decide, preset, variant, ?_, ?_⟩, .inl kind⟩
      · rw [keyed, built]
      · rwa [keyed]
  | video format contentType =>
      refine Attempt.follows_okOr (fun extension known => ?_) fun _ _ failed => by cases failed
      refine publishes_derivativeKey (fun key built => ?_) fun _ _ failed => by cases failed
      refine Attempt.follows_bind publishes_putFile ?_ fun _ _ _ _ failed => by cases failed
      intro past' stored put
      refine Attempt.follows_ensure (fun same => ?_) fun _ _ failed => by cases failed
      rintro master ⟨⟩
      rw [beq_iff_eq] at same
      exact ⟨⟨_, videoMaster_named known, rfl, rfl, built, same ▸ put stored rfl⟩,
        .inr ⟨rfl, rfl, rfl⟩⟩

theorem publishes_storeThumbnail {inspection : MediaInspection} :
    (worker.storeThumbnail source digest (presetOf watermark) inspection watermark).Follows
      worker.PublishRule (fun past' result => ∀ thumbnail, result = .ok thumbnail →
        worker.IsThumbnail past' source digest watermark thumbnail) past := by
  refine follows_host trivial fun rendered => ?_
  refine Attempt.follows_ofExcept (fun _ _ => ?_) fun _ _ _ failed => by cases failed
  refine publishes_derivativeKey (fun key built => ?_) fun _ _ failed => by cases failed
  refine Follows.weaken publishes_uploadGeneratedDerivative fun past' result made => ?_
  intro thumbnail stored
  obtain ⟨keyed, preset, variant, kind, put⟩ := made thumbnail stored
  refine ⟨⟨preset, variant, ?_, ?_⟩, kind⟩
  · rw [keyed, built]
  · rwa [keyed]

end Storing

/-! ## Publishing -/

section Publishing

variable {worker} {past : History} {leased : LeasedProcessingJob} {source : ProcessingSource}

/-- What was recorded before an attempt goes on. -/
theorem follows_recordStart_begun {digest contentType : String} :
    (recordStart source digest contentType).Follows worker.PublishRule
      (fun past' result => result.isOk → Begun past' source digest contentType) past := by
  unfold recordStart
  split
  · refine follows_now trivial fun startedAt => ?_
    refine Attempt.follows_mapError ⟨trivial, fun answer started => ?_⟩
    cases answer with
    | ok => exact .inr ⟨startedAt, List.mem_append_right _ (List.mem_singleton_self _)⟩
    | error => cases started
  · cases recorded : (source.sourceSha256 == some digest &&
        source.detectedContentType == some contentType) with
    | true =>
        intro _
        rw [Bool.and_eq_true, beq_iff_eq, beq_iff_eq] at recorded
        exact .inl recorded
    | false => exact fun failed => by cases failed

theorem Begun.digested {digest contentType : String} (begun : Begun past source digest contentType) :
    Digested past source digest :=
  begun.imp (·.1) fun ⟨startedAt, member⟩ => ⟨contentType, startedAt, member⟩

theorem publishes_validateDownloadedSource (sourced : Sourced past leased source) :
    (worker.validateDownloadedSource source leased.job.sitePolicyRevision).Follows
      worker.PublishRule (fun _ _ => True) past := by
  unfold validateDownloadedSource
  refine Attempt.follows_quiet (worker.only_looks (worker.only_inspectSource source))
    (fun _ _ looks => looks.publishRule) (fun more inspected _ => ?_) fun _ _ _ => trivial
  obtain ⟨digest, inspection⟩ := inspected
  refine Attempt.follows_quiet (worker.only_looks (worker.only_acquireTransformPermit _))
    (fun _ _ looks => looks.publishRule) (fun more' _ _ => ?_) fun _ _ _ => trivial
  have sourced : Sourced (past ++ more ++ more') leased source := sourced.append.append
  generalize past ++ more ++ more' = past at sourced ⊢
  refine Attempt.follows_bind follows_recordStart_begun.adds ?_ fun _ _ _ => trivial
  rintro _ _ ⟨begun, started, rfl⟩
  have begun := begun rfl
  refine Attempt.follows_bind (follows_looking (follows_prepareWatermark sourced.append)
    (worker.only_prepareWatermark _ _)).adds ?_ fun _ _ _ => trivial
  rintro _ watermark ⟨chosen, looked, rfl⟩
  have begun : Begun (past ++ started ++ looked) source digest inspection.contentType :=
    begun.append
  have prepared : worker.Prepared (past ++ started ++ looked) leased source digest watermark :=
    ⟨sourced.append.append, begun.digested, chosen watermark rfl⟩
  generalize past ++ started ++ looked = past at begun prepared ⊢
  refine Attempt.follows_bind publishes_storeMaster.adds ?_ fun _ _ _ => trivial
  rintro _ master ⟨made, stored, rfl⟩
  refine Attempt.follows_bind publishes_storeThumbnail.adds ?_ fun _ _ _ => trivial
  rintro _ thumbnail ⟨rendered, stored', rfl⟩
  refine follows_now trivial fun publishedAt => ?_
  refine Attempt.follows_mapError ⟨?_, fun _ => trivial⟩
  exact ⟨leased, source, digest, inspection.contentType, watermark, master, thumbnail,
    prepared.append.append.append,
    begun.append.append.append, rfl, rfl, (made master rfl).append.append,
    (rendered thumbnail rfl).append⟩

theorem publishes_validateSource (holding : Holding past leased) :
    (worker.validateSource leased.job.uploadId leased.job.sitePolicyRevision).Follows
      worker.PublishRule (fun _ _ => True) past := by
  unfold validateSource
  refine follows_call trivial (fun found => ?_) fun _ => trivial
  refine Attempt.follows_okOr (fun source there => ?_) fun _ => trivial
  have sourced : Sourced (past ++ [⟨.store (.findProcessingSource leased.job.uploadId), .ok found⟩])
      leased source := by
    refine ⟨holding.mono (List.subset_append_left _ _), ?_⟩
    rw [there]
    exact List.mem_append_right _ (List.mem_singleton_self _)
  split
  · trivial
  · refine Attempt.follows_ensure (fun _ => ?_) fun _ => trivial
    exact publishes_validateDownloadedSource sourced

/-- An attempt that only settles keeps the rule. -/
theorem publishes_settling {ε α : Type} {workerId : String} {action : Action ε α}
    (only : action.Only (worker.Settles workerId)) :
    action.Follows worker.PublishRule (fun _ _ => True) past :=
  (Attempt.follows_adds only fun _ _ settles => settles.publishRule).weaken fun _ _ _ => trivial

/-- **A worker publishes what it was prepared with and what is stored.** -/
theorem publishes_runOne (workerId : String) :
    (worker.runOne workerId).Follows worker.PublishRule (fun _ _ => True) [] := by
  unfold runOne
  refine follows_now trivial fun claimedAt => ?_
  refine follows_call trivial (fun claimed => ?_) fun _ => trivial
  cases claimed with
  | none => trivial
  | some leased =>
      have holding : Holding ([] ++ [⟨.now, claimedAt⟩] ++ [⟨.store (.claimNext workerId claimedAt
          worker.policy.leaseFor), .ok (some leased)⟩]) leased :=
        ⟨workerId, claimedAt, worker.policy.leaseFor,
          List.mem_append_right _ (List.mem_singleton_self _)⟩
      show Attempt.Follows _ _ _ (worker.processJob leased workerId)
      unfold processJob
      split
      · exact publishes_settling (worker.only_refuseJob workerId leased)
      · have grows : ∀ (past past' : History) (request : Ask), worker.PublishRule past request →
            past ⊆ past' → worker.PublishRule past' request := fun _ _ _ rule more => rule.mono more
        have beating : ∀ past : History, (dueBeats (worker.renewLease leased.jobId workerId)).Follows
            worker.PublishRule (fun _ _ => True) past := fun _ =>
          publishes_settling (only_dueBeats trivial (worker.only_renewLease workerId _))
        refine Attempt.follows_bind (follows_interleaved (fun _ _ _ _ _ => trivial) grows
          (fun past' _ => (beating past').weaken fun _ _ _ _ _ => trivial) (List.Subset.refl _)
          (publishes_validateSource holding)) ?_ fun _ _ _ => trivial
        intro past' result _
        exact publishes_settling (worker.only_settleJob workerId leased result)

end Publishing

end SourceValidationWorker

end MediaBooster.Service
