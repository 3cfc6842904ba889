/-
# Service.Histories.Worker -- what a worker has done before it asks

A worker claims one job and works on its upload.  It stores a derivative before it publishes
it, completes the job after the upload was published, rejected, or found finished, and gives
a job of the last attempt back only after it rejected the upload.

Heartbeats come in between at any point, so what the rule asks for are exchanges that have
been, in whatever order (`Rule.mono`).
-/
import MediaBooster.Service.Asks
import MediaBooster.Service.Histories

namespace MediaBooster.Service

set_option autoImplicit false

open MediaBooster.Domain MediaBooster.Storage MediaBooster.Store MediaBooster.Theory.Threads

/-- The worker was given the job. -/
def Holding (past : History) (leased : LeasedProcessingJob) : Prop :=
  ∃ workerId now leaseFor, (⟨.store (.claimNext workerId now leaseFor), .ok (some leased)⟩ :
    Exchange Answer) ∈ past

/-- The worker read the source of its job. -/
structure Sourced (past : History) (leased : LeasedProcessingJob) (source : ProcessingSource) :
    Prop where
  holding : Holding past leased
  found : (⟨.store (.findProcessingSource leased.job.uploadId), .ok (some source)⟩ :
    Exchange Answer) ∈ past

/-- The worker rejected the upload of its job. -/
def Refused (past : History) (leased : LeasedProcessingJob) : Prop :=
  ∃ code now, (⟨.store (.markRejected leased.job.uploadId code now), .ok ()⟩ :
    Exchange Answer) ∈ past

/-- The worker knows that the upload of its job is finished: it found it so, published it or
rejected it. -/
def Concluded (past : History) (leased : LeasedProcessingJob) : Prop :=
  (∃ source, Sourced past leased source ∧ (source.state = .rejected ∨ source.state = .ready)) ∨
    (∃ source derivatives now, Sourced past leased source ∧
      (⟨.store (.publishDerivatives source.uploadId derivatives now), .ok ()⟩ :
        Exchange Answer) ∈ past) ∨
    Refused past leased

/-- A key of a derivative of the source. -/
def IsMediaKey (source : ProcessingSource) (key : String) : Prop :=
  ∃ digest presetId name,
    key = mediaKeyText source.tenantId source.uploadId digest presetId name

section Facts

variable {past past' : History} {leased : LeasedProcessingJob} {source : ProcessingSource}

theorem Holding.mono (holding : Holding past leased) (more : past ⊆ past') :
    Holding past' leased := by
  obtain ⟨workerId, now, leaseFor, member⟩ := holding
  exact ⟨workerId, now, leaseFor, more member⟩

theorem Sourced.mono (sourced : Sourced past leased source) (more : past ⊆ past') :
    Sourced past' leased source :=
  ⟨sourced.holding.mono more, more sourced.found⟩

theorem Sourced.append {more : History} (sourced : Sourced past leased source) :
    Sourced (past ++ more) leased source := sourced.mono (List.subset_append_left _ _)

theorem Refused.mono (refused : Refused past leased) (more : past ⊆ past') :
    Refused past' leased := by
  obtain ⟨code, now, member⟩ := refused
  exact ⟨code, now, more member⟩

theorem Concluded.mono (concluded : Concluded past leased) (more : past ⊆ past') :
    Concluded past' leased := by
  obtain ⟨source, sourced, ended⟩ | ⟨source, derivatives, now, sourced, member⟩ | refused :=
    concluded
  · exact .inl ⟨source, sourced.mono more, ended⟩
  · exact .inr (.inl ⟨source, derivatives, now, sourced.mono more, more member⟩)
  · exact .inr (.inr (refused.mono more))

end Facts

namespace SourceValidationWorker

variable (worker : SourceValidationWorker) (workerId : String)

/-- The derivative was put under its key. -/
def Stored (past : History) (key : ObjectKey) : Prop :=
  ∃ contentLength, (⟨.provider (.putObject worker.derivativeStore.bucket key.asStr contentLength),
    .ok ()⟩ : Exchange Answer) ∈ past

/-- What a worker has done before it asks. -/
def Rule (past : History) : Ask → Prop
  | .store (.claimNext ..) => False
  | .store (.renew jobId _ _ _) => ∃ leased, Holding past leased ∧ leased.jobId = jobId
  | .store (.complete jobId _ _) => ∃ leased, Holding past leased ∧ leased.jobId = jobId ∧
      leased.job.presetId = sourceValidationPreset ∧ Concluded past leased
  | .store (.fail jobId _ _ _ maxAttempts _) => ∃ leased, Holding past leased ∧
      leased.jobId = jobId ∧
      ((maxAttempts = 1 ∧ leased.job.presetId ≠ sourceValidationPreset) ∨
        (maxAttempts = worker.policy.maxAttempts ∧
          leased.job.presetId = sourceValidationPreset ∧
          (worker.policy.maxAttempts ≤ leased.attempts → Refused past leased)))
  | .store (.findProcessingSource uploadId) => ∃ leased, Holding past leased ∧
      leased.job.uploadId = uploadId
  | .store (.startProcessing uploadId ..) => ∃ leased source, Sourced past leased source ∧
      source.uploadId = uploadId
  | .store (.publishDerivatives uploadId derivatives _) => ∃ leased source,
      Sourced past leased source ∧ source.uploadId = uploadId ∧
      ∀ derivative ∈ derivatives, worker.Stored past derivative.objectKey ∧
        IsMediaKey source derivative.objectKey.asStr
  | .store (.markRejected uploadId _ _) => ∃ leased, Holding past leased ∧
      leased.job.uploadId = uploadId
  | .provider (.putObject bucket key _) => bucket = worker.derivativeStore.bucket ∧
      ∃ leased source, Sourced past leased source ∧ IsMediaKey source key
  | _ => True

section Rules

variable {worker} {past past' : History} {leased : LeasedProcessingJob} {source : ProcessingSource}

theorem Stored.mono {key : ObjectKey} (stored : worker.Stored past key) (more : past ⊆ past') :
    worker.Stored past' key := by
  obtain ⟨contentLength, member⟩ := stored
  exact ⟨contentLength, more member⟩

theorem Stored.append {more : History} {key : ObjectKey} (stored : worker.Stored past key) :
    worker.Stored (past ++ more) key := stored.mono (List.subset_append_left _ _)

/-- What allows a request goes on allowing it. -/
theorem Rule.mono {request : Ask} (rule : worker.Rule past request) (more : past ⊆ past') :
    worker.Rule past' request := by
  unfold Rule at *
  split at rule
  · exact rule
  · obtain ⟨leased, holding, same⟩ := rule
    exact ⟨leased, holding.mono more, same⟩
  · obtain ⟨leased, holding, same, preset, concluded⟩ := rule
    exact ⟨leased, holding.mono more, same, preset, concluded.mono more⟩
  · obtain ⟨leased, holding, same, other | ⟨limit, preset, refused⟩⟩ := rule
    · exact ⟨leased, holding.mono more, same, .inl other⟩
    · exact ⟨leased, holding.mono more, same,
        .inr ⟨limit, preset, fun last => (refused last).mono more⟩⟩
  · obtain ⟨leased, holding, same⟩ := rule
    exact ⟨leased, holding.mono more, same⟩
  · obtain ⟨leased, source, sourced, same⟩ := rule
    exact ⟨leased, source, sourced.mono more, same⟩
  · obtain ⟨leased, source, sourced, same, stored⟩ := rule
    exact ⟨leased, source, sourced.mono more, same,
      fun derivative member => ⟨(stored derivative member).1.mono more, (stored derivative member).2⟩⟩
  · obtain ⟨leased, holding, same⟩ := rule
    exact ⟨leased, holding.mono more, same⟩
  · obtain ⟨bucket, leased, source, sourced, media⟩ := rule
    exact ⟨bucket, leased, source, sourced.mono more, media⟩
  · trivial

/-- Looking is always allowed. -/
theorem Looks.rule {request : Ask} (looks : worker.Looks request) : worker.Rule past request := by
  cases request with
  | store op => cases op <;> trivial
  | provider request => cases request <;> trivial
  | _ => trivial

/-! ## Storing derivatives -/

section Storing

variable {key : ObjectKey}

theorem follows_putFile {file : JobFile} {contentType : String}
    (sourced : Sourced past leased source) (media : IsMediaKey source key.asStr) :
    (worker.derivativeStore.putFile key file contentType).Follows worker.Rule
      (fun past' result => result.isOk → worker.Stored past' key) past := by
  unfold S3CompatibleStore.putFile
  refine Attempt.follows_ensure (fun _ => ?_) fun _ failed => by cases failed
  refine follows_host trivial fun length => ?_
  refine Attempt.follows_okOr (fun contentLength _ => ?_) fun _ failed => by cases failed
  refine Attempt.follows_ensure (fun _ => ?_) fun _ failed => by cases failed
  refine Attempt.follows_ensure (fun _ => ?_) fun _ failed => by cases failed
  refine follows_sent ?_ (fun _ _ => ?_) fun _ failed => by cases failed
  · exact ⟨rfl, leased, source, sourced.append, media⟩
  · exact ⟨contentLength, List.mem_append_right _ (List.mem_singleton_self _)⟩

/-- The derivative an attempt ends with is stored, under a key of the source. -/
def Stores (worker : SourceValidationWorker) (source : ProcessingSource) (past : History)
    (result : Except ProcessingFailure PublishedDerivative) : Prop :=
  ∀ derivative, result = .ok derivative → worker.Stored past derivative.objectKey ∧
    IsMediaKey source derivative.objectKey.asStr

theorem follows_uploadGeneratedDerivative {file : JobFile} {presetId variant contentType : String}
    (sourced : Sourced past leased source) (media : IsMediaKey source key.asStr) :
    (worker.uploadGeneratedDerivative file key presetId variant contentType).Follows worker.Rule
      (worker.Stores source) past := by
  unfold uploadGeneratedDerivative
  refine follows_host trivial fun length => ?_
  refine Attempt.follows_okOr (fun byteLen _ => ?_) fun _ _ failed => by cases failed
  refine Attempt.follows_ensure (fun _ => ?_) fun _ _ failed => by cases failed
  refine Attempt.follows_quiet (worker.only_sha256File _ _) (fun _ _ inspects => inspects.looks.rule)
    (fun more sha256 _ => ?_) fun _ _ _ _ failed => by cases failed
  refine Attempt.follows_bind (Q := fun past' result => result.isOk → worker.Stored past' key)
    (Attempt.follows_mapError ((follows_putFile sourced.append.append media).weaken ?_)) ?_ ?_
  · intro past' result put succeeded
    cases result with
    | ok => exact put rfl
    | error => cases succeeded
  · intro past' stored put
    refine Attempt.follows_ensure (fun _ => ?_) fun _ _ failed => by cases failed
    rintro derivative ⟨⟩
    exact ⟨put rfl, media⟩
  · intro past' error _ derivative failed
    cases failed

theorem follows_derivativeKey {α : Type} {digest presetId name : String}
    {next : ObjectKey → Action ProcessingFailure α}
    {post : History → Except ProcessingFailure α → Prop}
    (rest : ∀ key : ObjectKey, IsMediaKey source key.asStr →
      (next key).Follows worker.Rule post past)
    (fails : ∀ error, post past (.error error)) :
    (derivativeKey source digest presetId name >>= next).Follows worker.Rule post past := by
  refine Attempt.follows_okOr (fun key made => ?_) fun _ => fails _
  exact rest key ⟨digest, presetId, name, ObjectKey.new_asStr made⟩

theorem follows_storeMaster {digest presetId : String} {watermark : Option WatermarkPolicy}
    {inspection : MediaInspection} (sourced : Sourced past leased source) :
    (worker.storeMaster source digest presetId watermark inspection).Follows worker.Rule
      (worker.Stores source) past := by
  cases inspection with
  | image contentType heavy =>
      refine follows_host trivial fun rendered => ?_
      refine Attempt.follows_ofExcept (fun _ _ => ?_) fun _ _ _ failed => by cases failed
      refine follows_derivativeKey (fun key media => ?_) fun _ _ failed => by cases failed
      exact follows_uploadGeneratedDerivative (sourced.append) media
  | video format contentType =>
      refine Attempt.follows_okOr (fun extension _ => ?_) fun _ _ failed => by cases failed
      refine follows_derivativeKey (fun key media => ?_) fun _ _ failed => by cases failed
      refine Attempt.follows_bind (Q := fun past' result => result.isOk → worker.Stored past' key)
        (Attempt.follows_mapError ((follows_putFile sourced media).weaken ?_)) ?_ ?_
      · intro past' result put succeeded
        cases result with
        | ok => exact put rfl
        | error => cases succeeded
      · intro past' stored put
        refine Attempt.follows_ensure (fun _ => ?_) fun _ _ failed => by cases failed
        rintro derivative ⟨⟩
        exact ⟨put rfl, media⟩
      · intro past' error _ derivative failed
        cases failed

theorem follows_storeThumbnail {digest presetId : String} {inspection : MediaInspection}
    {watermark : Option WatermarkPolicy} (sourced : Sourced past leased source) :
    (worker.storeThumbnail source digest presetId inspection watermark).Follows worker.Rule
      (worker.Stores source) past := by
  refine follows_host trivial fun rendered => ?_
  refine Attempt.follows_ofExcept (fun _ _ => ?_) fun _ _ _ failed => by cases failed
  refine follows_derivativeKey (fun key media => ?_) fun _ _ failed => by cases failed
  exact follows_uploadGeneratedDerivative (sourced.append) media

end Storing

/-! ## Working -/

theorem follows_recordStart {digest contentType : String} (sourced : Sourced past leased source) :
    (recordStart source digest contentType).Follows worker.Rule (fun _ _ => True) past := by
  unfold recordStart
  split
  · refine follows_now trivial fun startedAt => ?_
    refine Attempt.follows_mapError ⟨?_, fun _ => trivial⟩
    exact ⟨leased, source, sourced.append, rfl⟩
  · cases source.sourceSha256 == some digest && source.detectedContentType == some contentType <;>
      trivial

theorem follows_validateDownloadedSource {sitePolicyRevision : Option Nat}
    (sourced : Sourced past leased source) :
    (worker.validateDownloadedSource source sitePolicyRevision).Follows worker.Rule
      (fun past' result => result = .ok () → Concluded past' leased) past := by
  have look : ∀ (past : History) request, worker.Looks request → worker.Rule past request :=
    fun _ _ looks => looks.rule
  unfold validateDownloadedSource
  refine Attempt.follows_quiet (worker.only_looks (worker.only_inspectSource source)) look (fun more inspected _ => ?_)
    fun _ _ _ failed => by cases failed
  obtain ⟨digest, inspection⟩ := inspected
  refine Attempt.follows_quiet (worker.only_looks (worker.only_acquireTransformPermit _)) look (fun more' _ _ => ?_)
    fun _ _ _ failed => by cases failed
  have sourced : Sourced (past ++ more ++ more') leased source :=
    sourced.append.append
  generalize past ++ more ++ more' = past at sourced ⊢
  refine Attempt.follows_bind (follows_recordStart sourced).adds ?_ fun _ _ _ failed => by
    cases failed
  rintro _ _ ⟨-, started, rfl⟩
  refine Attempt.follows_quiet (worker.only_prepareWatermark _ _) look (fun more'' watermark _ => ?_)
    fun _ _ _ failed => by cases failed
  have sourced : Sourced (past ++ started ++ more'') leased source :=
    sourced.append.append
  generalize past ++ started ++ more'' = past at sourced ⊢
  refine Attempt.follows_bind (follows_storeMaster sourced).adds ?_ fun _ _ _ failed => by
    cases failed
  rintro _ master ⟨masterStored, afterMaster, rfl⟩
  have sourced : Sourced (past ++ afterMaster) leased source :=
    sourced.append
  obtain ⟨masterStored, masterMedia⟩ := masterStored master rfl
  generalize past ++ afterMaster = past at sourced masterStored ⊢
  refine Attempt.follows_bind (follows_storeThumbnail sourced).adds ?_ fun _ _ _ failed => by
    cases failed
  rintro _ thumbnail ⟨thumbnailStored, afterThumbnail, rfl⟩
  refine follows_now trivial fun publishedAt => ?_
  obtain ⟨thumbnailStored, thumbnailMedia⟩ := thumbnailStored thumbnail rfl
  have sourced : Sourced (past ++ afterThumbnail ++ [⟨.now, publishedAt⟩]) leased source :=
    sourced.append.append
  refine Attempt.follows_mapError ⟨⟨leased, source, sourced, rfl, ?_⟩, fun answer published => ?_⟩
  · intro derivative member
    obtain rfl | rfl : derivative = master ∨ derivative = thumbnail := by simpa using member
    · exact ⟨masterStored.append.append, masterMedia⟩
    · exact ⟨thumbnailStored.append, thumbnailMedia⟩
  · refine .inr (.inl ⟨source, [master, thumbnail], publishedAt,
      sourced.append, ?_⟩)
    cases answer with
    | ok => exact List.mem_append_right _ (List.mem_singleton_self _)
    | error => cases published

/-- **The work on a job ends well only when its upload is finished.** -/
theorem follows_validateSource {sitePolicyRevision : Option Nat} (holding : Holding past leased) :
    (worker.validateSource leased.job.uploadId sitePolicyRevision).Follows worker.Rule
      (fun past' result => result = .ok () → Concluded past' leased) past := by
  unfold validateSource
  refine follows_call ⟨leased, holding, rfl⟩ (fun found => ?_) fun _ failed => by cases failed
  refine Attempt.follows_okOr (fun source there => ?_) fun _ failed => by cases failed
  have sourced : Sourced (past ++ [⟨.store (.findProcessingSource leased.job.uploadId), .ok found⟩])
      leased source := by
    refine ⟨holding.mono (List.subset_append_left _ _), ?_⟩
    rw [there]
    exact List.mem_append_right _ (List.mem_singleton_self _)
  split
  · rename_i ended
    exact fun _ => .inl ⟨source, sourced, ended⟩
  · refine Attempt.follows_ensure (fun _ => ?_) fun _ failed => by cases failed
    exact follows_validateDownloadedSource sourced

/-! ## Settling -/

theorem follows_dueBeats (holding : Holding past leased) :
    (dueBeats (worker.renewLease leased.jobId workerId)).Follows worker.Rule
      (fun _ _ => True) past := by
  have beating : ∀ (due : Nat) (past : History), Holding past leased →
      (beats (worker.renewLease leased.jobId workerId) due).Follows worker.Rule
        (fun _ _ => True) past := by
    intro due
    induction due with
    | zero => exact fun _ _ => trivial
    | succ due ih =>
        intro past holding
        have beat : (worker.renewLease leased.jobId workerId).Follows worker.Rule
            (fun _ _ => True) past := by
          refine follows_now trivial fun renewedAt => ?_
          refine follows_call ⟨leased, ?_, rfl⟩ (fun _ => trivial) fun _ => trivial
          exact holding.mono (List.subset_append_left _ _)
        refine Attempt.follows_bind beat.adds ?_ fun _ _ _ => trivial
        rintro _ _ ⟨-, more, rfl⟩
        exact ih _ (holding.mono (List.subset_append_left _ _))
  exact follows_host trivial fun due =>
    beating due _ (holding.mono (List.subset_append_left _ _))

/-- The heartbeats between the exchanges of the work change nothing it has to follow; what a
heartbeat that fails leaves is `broken`. -/
theorem follows_interleaved {α : Type} {rule : History → Ask → Prop} {beat : Action WorkerError Unit}
    {program : Program Answer α} {post : History → α → Prop} {seen : History}
    {broken : History → WorkerError → Prop}
    (kept : ∀ past past' result, post past result → past ⊆ past' → post past' result)
    (grows : ∀ past past' request, rule past request → past ⊆ past' → rule past' request)
    (beating : ∀ past', past ⊆ past' → (dueBeats beat).Follows rule
      (fun past'' result => ∀ error, result = .error error → broken past'' error) past')
    (within : seen ⊆ past) (follows : Follows rule post seen program) :
    (interleaved beat program).Follows rule
      (fun past' result => (∀ value, result = .ok value → post past' value) ∧
        ∀ error, result = .error error → broken past' error) past := by
  induction program generalizing past seen with
  | done result =>
      refine Attempt.follows_bind (beating past (List.Subset.refl past)).adds ?_ ?_
      · rintro _ _ ⟨-, more, rfl⟩
        refine ⟨?_, nofun⟩
        rintro value ⟨⟩
        exact kept _ _ _ follows (List.subset_append_of_subset_left _ within)
      · rintro _ error ⟨fails, -⟩
        refine ⟨nofun, ?_⟩
        rintro _ ⟨⟩
        exact fails error rfl
  | ask request next ih =>
      refine Attempt.follows_bind (beating past (List.Subset.refl past)).adds ?_ ?_
      · rintro _ _ ⟨-, more, rfl⟩
        have seen_past := List.subset_append_of_subset_left more within
        have asked : Follows rule (fun past' answer => past' = past ++ more ++
            [⟨request, answer⟩]) (past ++ more) (Program.request request) :=
          ⟨grows _ _ _ follows.1 seen_past, fun _ => rfl⟩
        refine Attempt.follows_lifted asked ?_
        rintro _ answer rfl
        refine ih answer ?_ ?_ (follows.2 answer)
        · intro past' later
          refine beating past' fun exchange member => later ?_
          exact List.mem_append_left _ (List.mem_append_left _ member)
        · exact List.append_subset.2 ⟨List.subset_append_of_subset_left _ seen_past,
            List.subset_append_right _ _⟩
      · rintro _ error ⟨fails, -⟩
        refine ⟨nofun, ?_⟩
        rintro _ ⟨⟩
        exact fails error rfl

theorem follows_completeJob (holding : Holding past leased)
    (preset : leased.job.presetId = sourceValidationPreset) (concluded : Concluded past leased) :
    (completeJob leased.jobId workerId).Follows worker.Rule (fun _ _ => True) past := by
  refine follows_now trivial fun completedAt => ?_
  refine Attempt.follows_mapError ⟨⟨leased, ?_, rfl, preset, ?_⟩, fun _ => trivial⟩
  · exact holding.mono (List.subset_append_left _ _)
  · exact concluded.mono (List.subset_append_left _ _)

theorem follows_rejectUpload {code : String} (holding : Holding past leased) :
    (rejectUpload leased.job.uploadId code).Follows worker.Rule
      (fun past' result => result = .ok () → Refused past' leased) past := by
  refine follows_now trivial fun rejectedAt => ?_
  refine Attempt.follows_mapError ⟨⟨leased, holding.mono (List.subset_append_left _ _), rfl⟩, ?_⟩
  intro answer rejected
  cases answer with
  | ok => exact ⟨code, rejectedAt, List.mem_append_right _ (List.mem_singleton_self _)⟩
  | error => cases rejected

theorem follows_failJob {code : String} (holding : Holding past leased)
    (preset : leased.job.presetId = sourceValidationPreset)
    (last : worker.policy.maxAttempts ≤ leased.attempts → Refused past leased) :
    (worker.failJob leased workerId code).Follows worker.Rule (fun _ _ => True) past := by
  refine follows_now trivial fun failedAt => ?_
  refine Attempt.follows_okOr (fun retryAt _ => ?_) fun _ => trivial
  refine follows_call ⟨leased, ?_, rfl, .inr ⟨rfl, preset, fun final => ?_⟩⟩ (fun _ => trivial)
    fun _ => trivial
  · exact holding.mono (List.subset_append_left _ _)
  · exact (last final).mono (List.subset_append_left _ _)

theorem follows_settleJob {result : Except ProcessingFailure Unit} (holding : Holding past leased)
    (preset : leased.job.presetId = sourceValidationPreset)
    (concluded : result = .ok () → Concluded past leased) :
    (worker.settleJob leased workerId result).Follows worker.Rule (fun _ _ => True) past := by
  rcases result with (⟨code⟩ | ⟨code⟩ | ⟨code⟩) | _
  · refine Attempt.follows_bind (follows_rejectUpload holding).adds ?_ fun _ _ _ => trivial
    rintro _ _ ⟨refused, more, rfl⟩
    refine Attempt.follows_bind (follows_completeJob workerId
      (holding.mono (List.subset_append_left _ _)) preset (.inr (.inr (refused rfl))))
      (fun _ _ _ => trivial) fun _ _ _ => trivial
  · show Attempt.Follows _ _ _ (if _ then _ else _)
    split
    · refine Attempt.follows_bind (follows_rejectUpload holding).adds ?_ fun _ _ _ => trivial
      rintro _ _ ⟨refused, more, rfl⟩
      exact follows_failJob workerId (holding.mono (List.subset_append_left _ _)) preset
        fun _ => refused rfl
    · rename_i more
      exact follows_failJob workerId holding preset fun last => absurd last more
  · trivial
  · exact Attempt.follows_bind (follows_completeJob workerId holding preset (concluded rfl))
      (fun _ _ _ => trivial) fun _ _ _ => trivial

theorem follows_processJob (holding : Holding past leased) :
    (worker.processJob leased workerId).Follows worker.Rule (fun _ _ => True) past := by
  unfold processJob
  split
  · rename_i other
    refine follows_now trivial fun failedAt => ?_
    refine follows_now trivial fun retryAt => ?_
    refine follows_call ⟨leased, ?_, rfl, .inl ⟨rfl, other⟩⟩ (fun _ => trivial) fun _ => trivial
    exact (holding.mono (List.subset_append_left _ _)).mono (List.subset_append_left _ _)
  · rename_i same
    have preset : leased.job.presetId = sourceValidationPreset := not_not.1 same
    have kept : ∀ (past past' : History) (result : Except ProcessingFailure Unit),
        (result = .ok () → Concluded past leased) → past ⊆ past' →
          result = .ok () → Concluded past' leased :=
      fun _ _ _ concluded more succeeded => (concluded succeeded).mono more
    have grows : ∀ (past past' : History) (request : Ask), worker.Rule past request →
        past ⊆ past' → worker.Rule past' request := fun _ _ _ rule more => rule.mono more
    have beating : ∀ past', past ⊆ past' →
        (dueBeats (worker.renewLease leased.jobId workerId)).Follows worker.Rule
          (fun _ result => ∀ error, result = .error error → True) past' := fun past' more =>
      (follows_dueBeats workerId (holding.mono more)).weaken fun _ _ _ _ _ => trivial
    refine Attempt.follows_bind (follows_interleaved kept grows beating (List.Subset.refl past)
      (follows_validateSource holding)).adds ?_ fun _ _ _ => trivial
    rintro _ result ⟨⟨concluded, -⟩, more, rfl⟩
    exact follows_settleJob workerId (holding.mono (List.subset_append_left _ _)) preset
      (concluded result rfl)

end Rules

/-- What a thread of the worker has done before it asks; it claims a job first. -/
def RunRule (past : History) : Ask → Prop
  | .store (.claimNext ..) => ∀ exchange ∈ past, exchange.1 = .now
  | request => worker.Rule past request

theorem Rule.run {past : History} {request : Ask} (rule : worker.Rule past request) :
    worker.RunRule past request := by
  unfold RunRule
  split
  · exact rule.elim
  · exact rule

/-- **A worker settles its job only when its upload is finished, or attempts are left.** -/
theorem follows_runOne (workerId : String) :
    (worker.runOne workerId).Follows worker.RunRule (fun _ _ => True) [] := by
  refine follows_now (Rule.run worker trivial) fun claimedAt => ?_
  refine follows_call ?_ (fun claimed => ?_) fun _ => trivial
  · intro exchange member
    rw [List.nil_append, List.mem_singleton] at member
    rw [member]
  cases claimed with
  | none => trivial
  | some leased =>
      have holding : Holding ([] ++ [⟨.now, claimedAt⟩] ++ [⟨.store (.claimNext workerId claimedAt
          worker.policy.leaseFor), .ok (some leased)⟩]) leased :=
        ⟨workerId, claimedAt, worker.policy.leaseFor,
          List.mem_append_right _ (List.mem_singleton_self _)⟩
      exact Follows.relax (follows_processJob workerId holding) fun _ _ rule => Rule.run worker rule

end SourceValidationWorker

end MediaBooster.Service
