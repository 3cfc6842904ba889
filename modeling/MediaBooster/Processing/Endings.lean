/-
# Processing.Endings -- how the work on a job can end without the queue being told

`runOne` tells the queue how the work ended, unless the work ended with an operational failure,
a call of the queue or of the repository failed, or a heartbeat did.  Every such end goes back to
an answer the worker heard: `troubles` lists them, and `runOne_accounts` says that a worker that
was handed a job and heard none of them has settled it.
-/
import MediaBooster.Processing.TempDisk
import MediaBooster.Service.Histories.Worker

namespace MediaBooster.Processing

set_option autoImplicit false

open MediaBooster.Domain MediaBooster.Service MediaBooster.Storage MediaBooster.Store
open MediaBooster.Theory.Threads

/-! ## Answers -/

/-- The job a worker was handed. -/
def handed (past : History) : Option LeasedProcessingJob :=
  past.findSome? fun
    | ⟨.store (.claimNext ..), .ok leased⟩ => leased
    | _ => none

/-- The exchange settles the job. -/
def settles (jobId : JobId) : Exchange Answer → Bool
  | ⟨.store (.complete settled ..), answer⟩ => settled == jobId && answer.toBool
  | ⟨.store (.fail settled ..), answer⟩ => settled == jobId && answer.toBool
  | _ => false

/-- The worker has settled the job. -/
def settledIn (jobId : JobId) (past : History) : Bool := past.any (settles jobId)

/-- The watermark assets a worker was told of. -/
def assetsTold (past : History) : List StoredWatermarkPolicy :=
  past.filterMap fun
    | ⟨.store (.findSitePolicyRevision ..), .ok found⟩ => found.bind SitePolicySnapshot.watermark
    | _ => none

/-- A worker copied the watermark it is configured with. -/
def copiedConfigured (past : History) : Bool :=
  past.any fun
    | ⟨.host .copyWatermarkAsset, _⟩ => true
    | _ => false

/-- The snapshot a worker was told is the one it asked for, and its asset can be downloaded. -/
def usableSnapshot (tenantId : String) (revision : Nat) (snapshot : SitePolicySnapshot) : Bool :=
  snapshot.revision == revision && snapshot.tenantId == tenantId &&
    snapshot.watermark.all fun stored =>
      stored.byteLen != 0 && decide (stored.byteLen ≤ maxWatermarkBytes)

/-- The length of a configured watermark that is used. -/
def usableCopy (length : Nat) : Bool := length != 0 && decide (length ≤ maxWatermarkBytes)

/-- The answers after which a worker may end without telling the queue: no retry instant, an
error of the queue, of the rejection or of a renewal, a site policy or a watermark asset that
cannot be had or is not what was recorded, a closed gate, a renderer that is not there. -/
def troubles (policy : WorkerPolicy) (past : History) : Exchange Answer → Bool
  | ⟨.now, reading⟩ => (reading.plus policy.retryDelay).isNone
  | ⟨.store (.renew ..), answer⟩ => !answer.toBool
  | ⟨.store (.complete ..), answer⟩ => !answer.toBool
  | ⟨.store (.fail ..), answer⟩ => !answer.toBool
  | ⟨.store (.markRejected ..), answer⟩ => !answer.toBool
  | ⟨.store (.findSitePolicyRevision tenantId revision), .ok found⟩ =>
      !found.any (usableSnapshot tenantId revision)
  | ⟨.store (.findSitePolicyRevision ..), .error _⟩ => true
  | ⟨.provider (.getObject _ key), answer⟩ => (assetsTold past).any fun stored =>
      stored.objectKey.asStr == key &&
        !(S3CompatibleStore.downloadOutcome stored.byteLen answer).toBool
  | ⟨.host (.saveDownload .watermark), saved⟩ => !saved.toBool
  | ⟨.host .copyWatermarkAsset, length⟩ => !length.any usableCopy
  | ⟨.host (.sha256File .watermark), none⟩ => true
  | ⟨.host (.sha256File .watermark), some digest⟩ =>
      (assetsTold past).any (fun stored => digest != stored.assetSha256) ||
        (copiedConfigured past &&
          policy.watermark.any fun configured => digest != configured.assetSha256)
  | ⟨.host (.acquire _), granted⟩ => !granted
  | ⟨.host (.inspect _), .error .operational⟩ => true
  | ⟨.host (.imageMaster _), .error .operational⟩ => true
  | ⟨.host (.renderThumbnail _ _), .error .operational⟩ => true
  | _ => false

/-- The worker heard an answer after which it may end without telling the queue. -/
def Troubled (policy : WorkerPolicy) (past : History) : Prop :=
  past.any (troubles policy past) = true

instance (policy : WorkerPolicy) (past : History) : Decidable (Troubled policy past) :=
  inferInstanceAs (Decidable (_ = true))

section Facts

variable {policy : WorkerPolicy} {past past' more : History} {exchange : Exchange Answer}

theorem any_subset {α : Type} {first second : List α} {p q : α → Bool} (more : first ⊆ second)
    (weaker : ∀ a, p a = true → q a = true) (some : first.any p = true) : second.any q = true := by
  obtain ⟨a, member, holds⟩ := List.any_eq_true.1 some
  exact List.any_eq_true.2 ⟨a, more member, weaker a holds⟩

theorem assetsTold_mono (more : past ⊆ past') : assetsTold past ⊆ assetsTold past' := by
  intro stored told
  obtain ⟨exchange, member, heard⟩ := List.mem_filterMap.1 told
  exact List.mem_filterMap.2 ⟨exchange, more member, heard⟩

theorem copiedConfigured_mono (more : past ⊆ past') (copied : copiedConfigured past = true) :
    copiedConfigured past' = true := any_subset more (fun _ holds => holds) copied

/-- What troubles a worker goes on troubling it. -/
theorem troubles_mono (more : past ⊆ past') (trouble : troubles policy past exchange = true) :
    troubles policy past' exchange = true := by
  unfold troubles at *
  split at trouble <;> try exact trouble
  · exact any_subset (assetsTold_mono more) (fun _ holds => holds) trouble
  · rw [Bool.or_eq_true, Bool.and_eq_true] at trouble ⊢
    exact trouble.imp (any_subset (assetsTold_mono more) fun _ holds => holds)
      fun ⟨copied, differs⟩ => ⟨copiedConfigured_mono more copied, differs⟩

theorem Troubled.mono (troubled : Troubled policy past) (more : past ⊆ past') :
    Troubled policy past' :=
  any_subset more (fun _ trouble => troubles_mono more trouble) troubled

/-- The last answer troubles the worker. -/
theorem Troubled.last (trouble : troubles policy (past ++ [exchange]) exchange = true) :
    Troubled policy (past ++ [exchange]) :=
  List.any_eq_true.2 ⟨exchange, List.mem_append_right _ (List.mem_singleton_self _), trouble⟩

theorem Troubled.append (troubled : Troubled policy past) : Troubled policy (past ++ more) :=
  troubled.mono (List.subset_append_left _ _)

/-- The first job handed out stays the job of the worker. -/
theorem handed_append {leased : LeasedProcessingJob} (given : handed past = some leased) :
    handed (past ++ more) = some leased := by
  unfold handed at *
  rw [List.findSome?_append, given]
  rfl

end Facts

/-! ## What an operational failure goes back to -/

/-- An attempt that ended with an operational failure was troubled. -/
def Accounts {α : Type} (policy : WorkerPolicy) (past : History)
    (result : Except ProcessingFailure α) : Prop :=
  ∀ code, result = .error (.operational code) → Troubled policy past

/-- Every run of the attempt from `past` accounts for its operational failures. -/
abbrev AccountsFor {α : Type} (policy : WorkerPolicy) (past : History)
    (action : Action ProcessingFailure α) : Prop :=
  action.Follows (fun _ _ => True) (Accounts policy) past

section Accounts

variable {policy : WorkerPolicy} {past : History} {α β : Type}

theorem accounts_ok (value : α) : Accounts policy past (.ok value) := nofun

theorem accounts_permanent (code : String) :
    Accounts policy past (.error (.permanent code) : Except ProcessingFailure α) := nofun

theorem accounts_transient (code : String) :
    Accounts policy past (.error (.transient code) : Except ProcessingFailure α) := nofun

theorem accounts_storage (error : ObjectStoreError) :
    Accounts policy past (.error (classifyStorageError error) : Except ProcessingFailure α) := by
  cases error <;> exact nofun

theorem accounts_troubled (troubled : Troubled policy past) (result : Except ProcessingFailure α) :
    Accounts policy past result := fun _ _ => troubled

/-- Only a renderer that is not there is an operational failure. -/
theorem accounts_sandbox {error : SandboxProbeError}
    (troubled : error = .operational → Troubled policy past) :
    Accounts policy past (.error (classifySandboxError error) : Except ProcessingFailure α) := by
  cases error with
  | operational => exact accounts_troubled (troubled rfl) _
  | _ => exact nofun

/-- Whatever a troubled worker goes on with. -/
theorem accountsFor_troubled (troubled : Troubled policy past)
    (action : Action ProcessingFailure α) : AccountsFor policy past action := by
  refine (follows_traced action.attempt past).weaken ?_
  rintro _ result ⟨more, rfl, -⟩
  exact accounts_troubled troubled.append result

/-- One attempt after the other. -/
theorem accountsFor_bind {first : Action ProcessingFailure β}
    {next : β → Action ProcessingFailure α} (before : AccountsFor policy past first)
    (rest : ∀ more value, AccountsFor policy (past ++ more) (next value)) :
    AccountsFor policy past (first >>= next) := by
  refine Attempt.follows_bind before.adds ?_ ?_
  · rintro _ value ⟨-, more, rfl⟩
    exact rest more value
  · rintro past' error ⟨accounts, -⟩ code failed
    exact accounts code (congrArg _ (Except.error.inj failed))

/-- A host request whose bad answers trouble the worker. -/
theorem accountsFor_host {request : HostRequest} {next : request.Output → Action ProcessingFailure α}
    (rest : ∀ output, AccountsFor policy (past ++ [⟨.host request, output⟩]) (next output)) :
    AccountsFor policy past (host request >>= next) := follows_host trivial rest

/-- A check whose failure is no operational one, or comes after a troubling answer. -/
theorem accountsFor_ensure {condition : Bool} {failure : ProcessingFailure}
    {next : Unit → Action ProcessingFailure α}
    (rest : condition = true → AccountsFor policy past (next ()))
    (fails : condition = false →
      Accounts policy past (.error failure : Except ProcessingFailure α)) :
    AccountsFor policy past (Attempt.ensure condition failure >>= next) :=
  Attempt.follows_ensure rest fails

theorem accountsFor_check {condition : Bool} {failure : ProcessingFailure}
    (fails : condition = false →
      Accounts policy past (.error failure : Except ProcessingFailure Unit)) :
    AccountsFor policy past (Attempt.ensure condition failure) := by
  cases condition with
  | true => exact accounts_ok ()
  | false => exact fails rfl

/-- A store call whose errors are no operational failures. -/
theorem accountsFor_call {op : Op} {failure : op.Error → ProcessingFailure}
    (fails : ∀ error, Accounts policy (past ++ [⟨.store op, .error error⟩])
      (.error (failure error) : Except ProcessingFailure op.Result)) :
    AccountsFor policy past (Attempt.mapError failure (call op)) := by
  refine Attempt.follows_mapError ⟨trivial, fun answer => ?_⟩
  cases answer with
  | ok value => exact accounts_ok value
  | error error => exact fails error

/-- An attempt whose errors are mapped to failures that are not operational. -/
theorem accountsFor_mapError {ε : Type} {failure : ε → ProcessingFailure} {first : Action ε α}
    (fails : ∀ {past : History} error,
      Accounts policy past (.error (failure error) : Except ProcessingFailure α)) :
    AccountsFor policy past (Attempt.mapError failure first) := by
  refine Attempt.follows_mapError ((follows_traced first.attempt past).weaken ?_)
  intro past' result _
  cases result with
  | ok value => exact accounts_ok value
  | error error => exact fails error

/-- What the sandbox answers, classified. -/
theorem accountsFor_sandbox {output : Except SandboxProbeError β}
    {next : β → Action ProcessingFailure α} (rest : ∀ value, AccountsFor policy past (next value))
    (troubled : output = .error .operational → Troubled policy past) :
    AccountsFor policy past
      (Attempt.ofExcept (output.mapError classifySandboxError) >>= next) := by
  cases output with
  | ok value => exact rest value
  | error error => exact accounts_sandbox fun same => troubled (congrArg _ same)

end Accounts

/-! ## The work -/

section Work

variable {worker : SourceValidationWorker} {past : History}

theorem accounts_sha256File {file : JobFile} {failure : ProcessingFailure}
    (fails : Accounts worker.policy (past ++ [⟨.host (.sha256File file), none⟩])
      (.error failure : Except ProcessingFailure String)) :
    AccountsFor worker.policy past (SourceValidationWorker.sha256File file failure) := by
  refine accountsFor_host fun digest => ?_
  cases digest with
  | none => exact fails
  | some digest => exact accounts_ok digest

/-- A gate that is closed troubles the worker. -/
theorem accounts_acquire {gate : ResourceGate} {code : String} :
    AccountsFor worker.policy past
      (host (.acquire gate) >>= fun acquired => Attempt.ensure acquired (.operational code)) := by
  refine accountsFor_host fun acquired => accountsFor_check ?_
  rintro rfl
  exact accounts_troubled (Troubled.last rfl) _

/-- The reservation of a source the worker admits is always one it can ask for. -/
theorem accounts_acquireTempDiskPermit (source : ProcessingSource)
    (fits : source.expectedSizeBytes ≤ worker.maxLength source.declaredKind) :
    AccountsFor worker.policy past (worker.acquireTempDiskPermit source.expectedSizeBytes) := by
  let job : AdmittedJob worker := ⟨source.declaredKind, source.expectedSizeBytes, fits⟩
  refine Attempt.follows_okOr (fun permits _ => accounts_acquire) fun none => ?_
  exact absurd ((reservedPermits_eq job).symm.trans none) nofun

theorem accounts_acquireTransformPermit (inspection : MediaInspection) :
    AccountsFor worker.policy past (SourceValidationWorker.acquireTransformPermit inspection) := by
  cases inspection with
  | image contentType heavy =>
      cases heavy with
      | false => exact accounts_ok ()
      | true => exact accounts_acquire
  | video format contentType => exact accounts_acquire

theorem accounts_inspectSource (source : ProcessingSource) :
    AccountsFor worker.policy past (worker.inspectSource source) := by
  unfold SourceValidationWorker.inspectSource
  refine accountsFor_ensure (fun fits => ?_) fun _ => accounts_permanent _
  refine accountsFor_bind (accounts_acquireTempDiskPermit source (of_decide_eq_true fits))
    fun _ _ => ?_
  refine accountsFor_host fun created => ?_
  refine accountsFor_ensure (fun _ => ?_) fun _ => accounts_transient _
  refine accountsFor_bind (accountsFor_mapError accounts_storage) fun _ _ => ?_
  refine accountsFor_host fun detected => ?_
  refine accountsFor_ensure (fun _ => ?_) fun _ => accounts_permanent _
  refine accountsFor_bind (accounts_sha256File (accounts_transient _)) fun _ digest => ?_
  refine accountsFor_host fun inspected => ?_
  refine accountsFor_sandbox (fun _ => accounts_ok _) ?_
  rintro rfl
  exact Troubled.last rfl

theorem accounts_recordStart (source : ProcessingSource) (digest contentType : String) :
    AccountsFor worker.policy past
      (SourceValidationWorker.recordStart source digest contentType) := by
  unfold SourceValidationWorker.recordStart
  split
  · exact follows_now trivial fun _ => accountsFor_call fun _ => accounts_transient _
  · exact accountsFor_check fun _ => accounts_permanent _

theorem accounts_uploadGeneratedDerivative {file : JobFile} {objectKey : ObjectKey}
    {presetId variant contentType : String} :
    AccountsFor worker.policy past
      (worker.uploadGeneratedDerivative file objectKey presetId variant contentType) := by
  unfold SourceValidationWorker.uploadGeneratedDerivative
  refine accountsFor_host fun length => ?_
  refine Attempt.follows_okOr (fun byteLen _ => ?_) fun _ => accounts_transient _
  refine accountsFor_ensure (fun _ => ?_) fun _ => accounts_permanent _
  refine accountsFor_bind (accounts_sha256File (accounts_transient _)) fun _ sha256 => ?_
  refine accountsFor_bind (accountsFor_mapError accounts_storage) fun _ stored => ?_
  exact accountsFor_ensure (fun _ => accounts_ok _) fun _ => accounts_transient _

theorem accounts_derivativeKey (source : ProcessingSource) (digest presetId name : String) :
    AccountsFor worker.policy past
      (SourceValidationWorker.derivativeKey source digest presetId name) := by
  unfold SourceValidationWorker.derivativeKey
  cases (ObjectKey.new _).toOption with
  | some key => exact accounts_ok key
  | none => exact accounts_transient _

theorem accounts_storeMaster (source : ProcessingSource) (digest presetId : String)
    (watermark : Option WatermarkPolicy) (inspection : MediaInspection) :
    AccountsFor worker.policy past
      (worker.storeMaster source digest presetId watermark inspection) := by
  cases inspection with
  | image contentType heavy =>
      refine accountsFor_host fun rendered => ?_
      refine accountsFor_sandbox (fun _ => ?_) ?_
      · exact accountsFor_bind (accounts_derivativeKey source digest presetId _)
          fun _ _ => accounts_uploadGeneratedDerivative
      · rintro rfl
        exact Troubled.last rfl
  | video format contentType =>
      refine Attempt.follows_okOr (fun extension _ => ?_) fun _ => accounts_permanent _
      refine accountsFor_bind (accounts_derivativeKey source digest presetId _) fun _ key => ?_
      refine accountsFor_bind (accountsFor_mapError accounts_storage) fun _ stored => ?_
      exact accountsFor_ensure (fun _ => accounts_ok _) fun _ => accounts_transient _

theorem accounts_storeThumbnail (source : ProcessingSource) (digest presetId : String)
    (inspection : MediaInspection) (watermark : Option WatermarkPolicy) :
    AccountsFor worker.policy past
      (worker.storeThumbnail source digest presetId inspection watermark) := by
  refine accountsFor_host fun rendered => ?_
  refine accountsFor_sandbox (fun _ => ?_) ?_
  · exact accountsFor_bind (accounts_derivativeKey source digest presetId _)
      fun _ _ => accounts_uploadGeneratedDerivative
  · rintro rfl
    exact Troubled.last rfl

/-! ## The watermark -/

/-- A download of an asset the worker was told of fails only after a troubling answer. -/
theorem accounts_downloadAsset {stored : StoredWatermarkPolicy} {code : String}
    (told : stored ∈ assetsTold past) (nonempty : stored.byteLen ≠ 0)
    (fits : stored.byteLen ≤ maxWatermarkBytes) :
    AccountsFor worker.policy past (Attempt.mapError (fun _ => .operational code)
      (worker.rawStore.downloadTo stored.objectKey .watermark stored.byteLen
        maxWatermarkBytes)) := by
  refine Attempt.follows_mapError ?_
  unfold S3CompatibleStore.downloadTo
  refine Attempt.follows_ensure (fun _ => ?_) fun refused => ?_
  · refine follows_bind.2 ⟨trivial, fun answer => ?_⟩
    refine Attempt.follows_ofExcept (fun _ _ => ?_) fun error failed => ?_
    · refine follows_host trivial fun saved => ?_
      cases saved with
      | ok => exact accounts_ok ()
      | error => exact accounts_troubled (Troubled.last rfl) _
    · refine accounts_troubled (Troubled.last ?_) _
      refine List.any_eq_true.2 ⟨stored, assetsTold_mono (List.subset_append_left _ _) told, ?_⟩
      rw [failed, beq_self_eq_true]
      rfl
  · simp [nonempty, fits] at refused

/-- What a digest of the watermark is compared with. -/
theorem troubles_digest {policy : WorkerPolicy} {digest : String} :
    troubles policy past ⟨.host (.sha256File .watermark), some digest⟩ =
      ((assetsTold past).any (fun stored => digest != stored.assetSha256) ||
        (copiedConfigured past &&
          policy.watermark.any fun configured => digest != configured.assetSha256)) := rfl

/-- A worker that was told of a usable asset and cannot have it is troubled. -/
theorem accounts_prepareObjectWatermark {revision : Nat} {stored : StoredWatermarkPolicy}
    (told : stored ∈ assetsTold past) (nonempty : stored.byteLen ≠ 0)
    (fits : stored.byteLen ≤ maxWatermarkBytes) :
    AccountsFor worker.policy past (worker.prepareObjectWatermark revision stored) := by
  unfold SourceValidationWorker.prepareObjectWatermark
  refine accountsFor_bind (accounts_downloadAsset told nonempty fits) fun more _ => ?_
  have told := assetsTold_mono (List.subset_append_left past more) told
  generalize past ++ more = past at told ⊢
  refine follows_bind.2 ⟨trivial, fun digest => ?_⟩
  cases digest with
  | none => exact accounts_troubled (Troubled.last rfl) _
  | some digest =>
      refine accountsFor_ensure (fun _ => accounts_ok _) fun differs => ?_
      refine accounts_troubled (Troubled.last ?_) _
      rw [troubles_digest, Bool.or_eq_true]
      left
      exact List.any_eq_true.2 ⟨stored, assetsTold_mono (List.subset_append_left _ _) told,
        by simpa using differs⟩

/-- A worker that cannot have the watermark it is configured with is troubled. -/
theorem accounts_prepareConfiguredWatermark {configured : WatermarkPolicy}
    (own : worker.policy.watermark = some configured) :
    AccountsFor worker.policy past
      (SourceValidationWorker.prepareConfiguredWatermark configured) := by
  unfold SourceValidationWorker.prepareConfiguredWatermark
  refine accountsFor_host fun length => ?_
  cases length with
  | none => exact accounts_troubled (Troubled.last rfl) _
  | some copied =>
      refine accountsFor_ensure (fun _ => ?_) fun unusable => ?_
      · refine follows_bind.2 ⟨trivial, fun digest => ?_⟩
        cases digest with
        | none => exact accounts_troubled (Troubled.last rfl) _
        | some digest =>
            refine accountsFor_ensure (fun _ => accounts_ok _) fun differs => ?_
            refine accounts_troubled (Troubled.last ?_) _
            rw [troubles_digest, own, Bool.or_eq_true, Bool.and_eq_true]
            refine .inr ⟨List.any_eq_true.2 ⟨⟨.host .copyWatermarkAsset, some copied⟩, ?_, rfl⟩, ?_⟩
            · simp
            · simpa using differs
      · refine accounts_troubled (Troubled.last ?_) _
        show (!usableCopy copied) = true
        rw [show usableCopy copied = false from unusable]
        rfl

theorem accounts_prepareWatermark (tenantId : String) (sitePolicyRevision : Option Nat) :
    AccountsFor worker.policy past (worker.prepareWatermark tenantId sitePolicyRevision) := by
  cases sitePolicyRevision with
  | some revision =>
      refine follows_call trivial (fun found => ?_) fun _ => ?_
      · cases found with
        | none => exact accounts_troubled (Troubled.last rfl) _
        | some snapshot =>
            cases usable : usableSnapshot tenantId revision snapshot with
            | false =>
                refine accountsFor_troubled (Troubled.last ?_) _
                show (!usableSnapshot tenantId revision snapshot) = true
                rw [usable]
                rfl
            | true =>
                rw [usableSnapshot, Bool.and_eq_true] at usable
                refine accountsFor_ensure (fun _ => ?_) fun other => ?_
                · cases carried : snapshot.watermark with
                  | none => exact accounts_ok none
                  | some stored =>
                      obtain ⟨nonempty, fits⟩ : stored.byteLen ≠ 0 ∧
                          stored.byteLen ≤ maxWatermarkBytes := by
                        simpa [carried] using usable.2
                      refine accountsFor_bind (accounts_prepareObjectWatermark ?_ nonempty fits)
                        fun _ _ => accounts_ok _
                      exact List.mem_filterMap.2 ⟨_,
                        List.mem_append_right _ (List.mem_singleton_self _), carried⟩
                · rw [usable.1] at other
                  cases other
      · exact accounts_troubled (Troubled.last rfl) _
  | none =>
      unfold SourceValidationWorker.prepareWatermark
      cases own : worker.policy.watermark with
      | none => exact accounts_ok none
      | some configured =>
          exact accountsFor_bind (accounts_prepareConfiguredWatermark own) fun _ _ => accounts_ok _

theorem accounts_validateDownloadedSource (source : ProcessingSource)
    (sitePolicyRevision : Option Nat) :
    AccountsFor worker.policy past
      (worker.validateDownloadedSource source sitePolicyRevision) := by
  unfold SourceValidationWorker.validateDownloadedSource
  refine accountsFor_bind (accounts_inspectSource source) fun _ inspected => ?_
  refine accountsFor_bind (accounts_acquireTransformPermit _) fun _ _ => ?_
  refine accountsFor_bind (accounts_recordStart source _ _) fun _ _ => ?_
  refine accountsFor_bind (accounts_prepareWatermark _ _) fun _ watermark => ?_
  refine accountsFor_bind (accounts_storeMaster source _ _ _ _) fun _ master => ?_
  refine accountsFor_bind (accounts_storeThumbnail source _ _ _ _) fun _ thumbnail => ?_
  exact follows_now trivial fun _ => accountsFor_call fun _ => accounts_transient _

/-- **The work ends with an operational failure only after a troubling answer.** -/
theorem accounts_validateSource (uploadId : UploadId) (sitePolicyRevision : Option Nat) :
    AccountsFor worker.policy past (worker.validateSource uploadId sitePolicyRevision) := by
  unfold SourceValidationWorker.validateSource
  refine accountsFor_bind (accountsFor_call fun _ => accounts_transient _) fun _ found => ?_
  refine Attempt.follows_okOr (fun source _ => ?_) fun _ => accounts_transient _
  split
  · exact accounts_ok ()
  · refine accountsFor_ensure (fun _ => ?_) fun _ => accounts_transient _
    exact accounts_validateDownloadedSource source sitePolicyRevision

end Work

/-! ## The run -/

section Run

variable {worker : SourceValidationWorker} {workerId : String} {past : History}
variable {leased : LeasedProcessingJob}

/-- The worker has told the queue of the job, or heard a troubling answer. -/
def Settled (policy : WorkerPolicy) (jobId : JobId) (past : History) : Prop :=
  settledIn jobId past = true ∨ Troubled policy past

/-- A settlement of the job: it is told, or its error troubles the worker. -/
theorem settled_last {jobId : JobId} {exchange : Exchange Answer}
    (settled : settles jobId exchange = true ∨
      troubles worker.policy (past ++ [exchange]) exchange = true) :
    Settled worker.policy jobId (past ++ [exchange]) := by
  refine settled.imp (fun settles => ?_) Troubled.last
  exact List.any_eq_true.2 ⟨exchange, List.mem_append_right _ (List.mem_singleton_self _), settles⟩

theorem settled_completeJob :
    (SourceValidationWorker.completeJob leased.jobId workerId).Follows (fun _ _ => True)
      (fun past' _ => Settled worker.policy leased.jobId past') past := by
  refine follows_now trivial fun completedAt => ?_
  refine Attempt.follows_mapError ⟨trivial, fun answer => settled_last ?_⟩
  cases answer with
  | ok => exact .inl (by simp [settles, Except.toBool])
  | error => exact .inr rfl

theorem settled_failJob {code : String} :
    (worker.failJob leased workerId code).Follows (fun _ _ => True)
      (fun past' _ => Settled worker.policy leased.jobId past') past := by
  refine follows_now trivial fun failedAt => ?_
  refine Attempt.follows_okOr (fun retryAt _ => ?_) fun none => ?_
  · refine follows_call trivial (fun _ => settled_last (.inl ?_))
      fun _ => settled_last (.inr rfl)
    simp [settles, Except.toBool]
  · refine .inr (Troubled.last ?_)
    show (failedAt.plus worker.policy.retryDelay).isNone = true
    rw [none]
    rfl

/-- What comes after a rejection that was recorded. -/
theorem settled_rejected {α : Type} {uploadId : UploadId} {code : String}
    {next : Unit → Action WorkerError α}
    (rest : ∀ past, (next ()).Follows (fun _ _ => True)
      (fun past' _ => Settled worker.policy leased.jobId past') past) :
    (SourceValidationWorker.rejectUpload uploadId code >>= next).Follows (fun _ _ => True)
      (fun past' _ => Settled worker.policy leased.jobId past') past := by
  have rejected : (SourceValidationWorker.rejectUpload uploadId code).Follows (fun _ _ => True)
      (fun past' result => ∀ error, result = .error error → Troubled worker.policy past')
      past := by
    refine follows_now trivial fun rejectedAt => ?_
    refine Attempt.follows_mapError ⟨trivial, fun answer error failed => ?_⟩
    cases answer with
    | ok => cases failed
    | error => exact Troubled.last rfl
  exact Attempt.follows_bind rejected (fun past' _ _ => rest past')
    fun _ error troubled => .inr (troubled error rfl)

theorem settled_settleJob {result : Except ProcessingFailure Unit}
    (accounts : Accounts worker.policy past result) :
    (worker.settleJob leased workerId result).Follows (fun _ _ => True)
      (fun past' _ => Settled worker.policy leased.jobId past') past := by
  have completed : ∀ (outcome : RunOutcome) (past : History),
      (SourceValidationWorker.completeJob leased.jobId workerId >>= fun _ =>
        (pure outcome : Action WorkerError RunOutcome)).Follows (fun _ _ => True)
        (fun past' _ => Settled worker.policy leased.jobId past') past := fun _ _ =>
    Attempt.follows_bind settled_completeJob (fun _ _ settled => settled)
      fun _ _ settled => settled
  rcases result with (⟨code⟩ | ⟨code⟩ | ⟨code⟩) | _
  · exact settled_rejected (completed _)
  · show Attempt.Follows _ _ _ (if _ then _ else _)
    split
    · exact settled_rejected fun _ => settled_failJob
    · exact settled_failJob
  · exact .inr (accounts code rfl)
  · exact completed _ _

theorem settled_refuseJob :
    (SourceValidationWorker.refuseJob leased workerId).Follows (fun _ _ => True)
      (fun past' _ => Settled worker.policy leased.jobId past') past := by
  refine follows_now trivial fun failedAt => ?_
  refine follows_now trivial fun retryAt => ?_
  refine follows_call trivial (fun _ => settled_last (.inl ?_)) fun _ => settled_last (.inr rfl)
  simp [settles, Except.toBool]

/-- A renewal that fails troubles the worker. -/
theorem accounts_dueBeats {jobId : JobId} :
    (dueBeats (worker.renewLease jobId workerId)).Follows (fun _ _ => True)
      (fun past' result => ∀ error, result = .error error → Troubled worker.policy past')
      past := by
  refine follows_host trivial fun due => ?_
  generalize past ++ [_] = past
  induction due generalizing past with
  | zero => exact nofun
  | succ due ih =>
      have beat : (worker.renewLease jobId workerId).Follows (fun _ _ => True)
          (fun past' result => ∀ error, result = .error error → Troubled worker.policy past')
          past := by
        refine follows_now trivial fun renewedAt => ?_
        exact follows_call trivial (fun _ => nofun) fun _ _ _ => Troubled.last rfl
      exact Attempt.follows_bind beat (fun past' _ _ => ih past')
        fun _ error troubled _ _ => troubled error rfl

theorem settled_processJob :
    (worker.processJob leased workerId).Follows (fun _ _ => True)
      (fun past' _ => Settled worker.policy leased.jobId past') past := by
  unfold SourceValidationWorker.processJob
  split
  · exact settled_refuseJob
  · refine Attempt.follows_bind (SourceValidationWorker.follows_interleaved
      (fun _ _ _ accounts more code failed => (accounts code failed).mono more)
      (fun _ _ _ _ _ => trivial) (fun _ _ => accounts_dueBeats) (List.Subset.refl past)
      (accounts_validateSource leased.job.uploadId leased.job.sitePolicyRevision)) ?_ ?_
    · rintro past' result ⟨accounts, -⟩
      exact settled_settleJob (accounts result rfl)
    · rintro past' error ⟨-, troubled⟩
      exact .inr (troubled error rfl)

/-- **A worker that was handed a job has settled it when it ends**, or heard an answer that
troubles it. -/
theorem runOne_accounts (workerId : String) :
    (worker.runOne workerId).Follows (fun _ _ => True)
      (fun past' _ => ∀ leased, handed past' = some leased →
        Settled worker.policy leased.jobId past') [] := by
  refine follows_now trivial fun claimedAt => ?_
  refine follows_call trivial (fun claimed => ?_) fun _ _ none => by cases none
  cases claimed with
  | none => exact fun _ none => by cases none
  | some leased =>
      refine Attempt.Follows.weaken settled_processJob.adds ?_
      rintro _ _ ⟨settled, more, rfl⟩ other given
      rw [handed_append rfl] at given
      obtain rfl := Option.some.inj given
      exact settled

end Run

end MediaBooster.Processing
