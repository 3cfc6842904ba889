/-
# Policies.Pinning -- the policy of an upload, and the keys of its derivatives

The confirmation of an upload pins the revision that is its tenant's highest then: the job it
enqueues carries it (`confirmation_pins`), and no step changes a job's revision.  A run relates
uploads to what they were pinned to (`Pinned`): the relation only grows, by the confirmations
of the run (`pinned_run`), and every attempt of a job has the revision its upload is pinned to.

What an attempt draws follows from the pin alone, for revisions are only appended to the log
(`Pinned.chosen`); what names a derivative was checked where it came in (`rows_step`,
`marks_step`), so that every key of a pinned job is one of `KeyParts` (`Pinned.keyParts`).
-/
import MediaBooster.Policies.Log
import MediaBooster.Service.Histories.Watermarks
import MediaBooster.Service.Knowledge
import MediaBooster.Service.Rehearsal

namespace MediaBooster.Policies

set_option autoImplicit false

open MediaBooster.Domain MediaBooster.Service MediaBooster.Storage MediaBooster.Store
open MediaBooster.Theory.Run MediaBooster.Theory.Table MediaBooster.Theory.Threads
open MediaBooster.Theory.Transaction
open SourceValidationWorker (Prepared Chosen Digested objectWatermark presetOf derivativeText)

/-! ## Calls of the store -/

section Calls

variable {s t : SqliteStore}

theorem reservationRow_facts {batch : UploadBatchReservation} {upload : UploadReservation}
    {row : UploadRow} (bound : reservationRow batch upload = .ok row) :
    row.tenantId = batch.tenantId ∧ row.sourceSha256 = none := by
  unfold reservationRow at bound
  split at bound
  · cases bound
  · split at bound
    · cases bound
      exact ⟨rfl, rfl⟩
    · split at bound
      · cases bound
      · split at bound
        · cases bound
        · cases bound
          exact ⟨rfl, rfl⟩

theorem saveBatch_rows {batch : UploadBatchReservation} {capacity : UploadCapacityPolicy}
    {result : Except UploadRepositoryError Unit} (ran : saveBatch batch capacity s = (result, t)) :
    ∀ row ∈ t.uploads, row ∈ s.uploads ∨
      (row.tenantId = batch.tenantId ∧ row.sourceSha256 = none) := by
  intro row member
  obtain ⟨rfl, -⟩ | ⟨-, size, rows, saved⟩ := saveBatch_cases ran
  · exact .inl member
  · rw [saved.uploads] at member
    refine (List.mem_append.1 member).imp_right fun new => ?_
    obtain ⟨upload, -, bound⟩ := forall₂_mem_right saved.bound new
    exact reservationRow_facts bound

/-- `start_processing` starts nothing under a digest that is none. -/
theorem startProcessing_digest {uploadId : UploadId} {detectedContentType sourceSha256 : String}
    {now : OffsetDateTime} {result : Except ProcessingRepositoryError Unit}
    (ran : startProcessing uploadId detectedContentType sourceSha256 now s = (result, t)) :
    sha256Token sourceSha256 = true ∨ (t = s ∧ result ≠ .ok ()) := by
  obtain ⟨failed, same⟩ | ⟨checked, -⟩ := call_checked_cases ran
  · refine .inr ⟨same, fun started => ?_⟩
    rw [started] at failed
    cases failed
  · rw [Bool.and_eq_true] at checked
    exact .inl checked.2

/-- **A confirmation pins the highest revision.** -/
theorem confirmation_pins {jobId : JobId} {tenantId : String} {uploadId : UploadId}
    {actualSizeBytes : Nat} {presetId : String} {now : OffsetDateTime}
    {result : Except UploadRepositoryError Unit}
    (ran : markQuarantinedAndEnqueue jobId tenantId uploadId actualSizeBytes presetId now s =
      (result, t)) :
    ∀ job ∈ t.jobs, job ∈ s.jobs ∨ job.sitePolicyRevision = s.maxRevision tenantId := by
  cases result with
  | error e =>
      have same : t = s := by
        refine atomic_bind (moves_ensure _ _) (fun _ => ?_) s e t ran
        exact atomic_bind (moves_okOr _ _) fun _ => atomic_commit _
      intro job member
      rw [same] at member
      exact .inl member
  | ok u =>
      simp only [markQuarantinedAndEnqueue, call_bind_eq_ok, call_ensure_eq_ok, call_okOr_eq_ok,
        commit_eq_ok, quarantineTransaction, bind_eq_ok, execute_eq_ok, ensure_eq_ok,
        select_eq_ok, pure_eq_ok] at ran
      obtain ⟨_, _, ⟨-, rfl⟩, actualSize, _, ⟨-, rfl⟩, n, uploaded, first, _, _, ⟨-, rfl⟩, m,
        quarantined, second, _, _, ⟨-, rfl⟩, revision, _, ⟨latest, rfl⟩, k, final, insert, -, rfl⟩ := ran
      obtain ⟨-, usage, counters, -, -, rfl⟩ := SqliteStore.updateUploads_ok first
      obtain ⟨-, usage', counters', -, -, rfl⟩ := SqliteStore.updateUploads_ok second
      obtain ⟨-, -, -, counters'', -, rfl⟩ := SqliteStore.insertJob_ok insert
      intro job member
      obtain old | new := List.mem_append.1 member
      · exact .inl old
      · rw [List.mem_singleton.1 new]
        exact .inr latest.symm

end Calls

/-! ## What the services check -/

namespace Rules

variable (d : Deployment)

/-- What the calls of a deployment check before they write, and hear before they render. -/
def Rule : ServiceCall → History → Ask → Prop
  | .createBatch .. | .presignPart .. | .completeMultipart .. | .confirmSingleUpload ..
  | .abortMultipart .. => fun _ => UploadIntentService.SavesValid
  | .publishPolicy .. => fun _ => SitePolicyService.PublishesDigest
  | .work configuration _ => (d.worker configuration).RenderRule
  | _ => fun _ _ => True

theorem follows_program (call : ServiceCall) :
    Follows (Rule d call) (fun _ _ => True) [] (d.program call) := by
  have free : ∀ program : Program Answer Unit,
      Follows (fun _ _ => True) (fun _ _ => True) [] program := fun program =>
    (follows_traced program []).weaken fun _ _ _ => trivial
  have saves : ∀ {ε α : Type} {action : Action ε α}, action.Only UploadIntentService.SavesValid →
      Follows (fun _ => UploadIntentService.SavesValid) (fun _ _ => True) []
        action.attempt.discard := fun only =>
    follows_discard (follows_only only (fun _ _ _ _ _ => trivial) (fun _ _ _ allowed => allowed) trivial)
  have controls : ∀ {ε α : Type} {action : Action ε α}, action.Only d.uploads.Controls →
      action.Only UploadIntentService.SavesValid := fun only =>
    only.mono fun _ controls => controls.savesValid
  cases call with
  | createBatch request => exact saves (d.uploads.only_createBatch_valid request)
  | presignPart => exact saves (controls (d.uploads.only_presignPart _ _ _ _))
  | completeMultipart => exact saves (controls (d.uploads.only_completeMultipart _ _ _))
  | confirmSingleUpload => exact saves (controls (d.uploads.only_confirmSingleUpload _ _))
  | abortMultipart => exact saves (controls (d.uploads.only_abortMultipart _ _))
  | publishPolicy request readAt =>
      exact follows_discard (d.policies.follows_publish_digest request readAt)
  | work configuration workerId =>
      exact follows_discard (SourceValidationWorker.renders_runOne workerId)
  | cleanup | inventory => exact free _

end Rules

section Steps

variable {d : Deployment} {s t : SystemState} {label : SystemLabel} {i : Nat}
variable {exchange : Exchange Answer}

/-- Every request of a step keeps the rule of its thread's call. -/
theorem obeys (step : d.machine.Step s (.asked i exchange) t) :
    ∃ call, s.call i = some call ∧ Rules.Rule d call (s.past i) exchange.1 ∧
      d.Asks call exchange.1 := by
  have both := fun call => (Rules.follows_program d call).restrict (Deployment.only_program call)
  exact step.obeys both

/-- The rows a publication adds carry the digest of its asset. -/
theorem marks_published {snapshot : SitePolicySnapshot} {createdAt : OffsetDateTime}
    {store store' : SqliteStore} {result : Except SitePolicyRepositoryError Nat}
    (ran : insertSnapshot snapshot createdAt store = (result, store'))
    (checked : ∀ watermark, snapshot.watermark = some watermark →
      sha256Token watermark.assetSha256 = true) :
    ∀ row ∈ store'.sitePolicySnapshots, row ∈ store.sitePolicySnapshots ∨
      ∀ mark, row.watermark = some mark → sha256Token mark.sha256 = true := by
  intro row member
  obtain rfl | ⟨revision, created, columns, -, -, bound, -, rfl⟩ := insertSnapshot_cases ran
  · exact .inl member
  · refine (List.mem_append.1 member).imp_right fun new mark marked => ?_
    rw [List.mem_singleton.1 new, show (snapshotRow snapshot revision created columns).watermark =
      columns from rfl] at marked
    subst marked
    unfold boundWatermark at bound
    split at bound
    · cases bound
    · rename_i watermark named
      split at bound
      · cases bound
      · cases bound
        exact checked watermark named

/-- Every policy of a step was there, or is one a thread checked. -/
theorem marks_step (recorded : d.Recorded s) (step : d.machine.Step s label t) :
    ∀ row ∈ t.shared.store.sitePolicySnapshots, row ∈ s.shared.store.sitePolicySnapshots ∨
      ∀ mark, row.watermark = some mark → sha256Token mark.sha256 = true := by
  intro row member
  obtain same | ⟨op, ok, calls, answers⟩ := Deployment.store_cases step
  · rw [same] at member
    exact .inl member
  by_cases publishes : Kind.policies ∈ op.kinds
  · cases op <;> simp [Op.kinds] at publishes
    case insertSnapshot snapshot createdAt =>
      cases calls with
      | called request => cases request
      | asked =>
          obtain ⟨call, -, rule, asks⟩ := obeys step
          cases call with
          | publishPolicy request readAt =>
              obtain same | ran := answers_ran answers
              · rw [same] at member
                exact .inl member
              · have inserted : insertSnapshot snapshot createdAt s.shared.store =
                    ((insertSnapshot snapshot createdAt s.shared.store).1, t.shared.store) :=
                  Prod.ext rfl ran.symm
                exact marks_published inserted rule row member
          | _ => exact asks.elim
  · rw [(answers.effect recorded.integrity).policies_same publishes] at member
    exact .inl member

/-- An upload is checked. -/
structure RowValid (row : UploadRow) : Prop where
  tenant : narrowToken row.tenantId 64 = true
  digest : ∀ digest, row.sourceSha256 = some digest → sha256Token digest = true

/-- Every upload of a step was there, was started, or is one of a checked batch. -/
theorem rows_step (recorded : d.Recorded s) (step : d.machine.Step s label t)
    (valid : ∀ row ∈ s.shared.store.uploads, RowValid row) :
    ∀ row ∈ t.shared.store.uploads, RowValid row := by
  intro row member
  obtain same | ⟨op, ok, calls, answers⟩ := Deployment.store_cases step
  · rw [same] at member
    exact valid row member
  obtain same | ran := answers_ran answers
  · rw [same] at member
    exact valid row member
  obtain ⟨before, there, move⟩ | ⟨-, apart⟩ := answers.rowMoves recorded.integrity row member
  · have old := valid before there
    cases move with
    | @started uploadId contentType digest now _ startable =>
        obtain token | ⟨unmoved, -⟩ := startProcessing_digest
          (Eq.refl (Store.startProcessing uploadId contentType digest now s.shared.store))
        · exact ⟨old.tenant, fun named same => Option.some.inj same ▸ token⟩
        · rw [ran] at member
          exact valid _ (unmoved ▸ member)
    | _ => exact ⟨old.tenant, old.digest⟩
  · obtain ⟨before, there, same⟩ | ⟨batch, capacity, rfl, -⟩ :=
      answers.uploads_from recorded.integrity row member
    · exact absurd same (apart before there)
    · have saved : saveBatch batch capacity s.shared.store =
          ((saveBatch batch capacity s.shared.store).1, t.shared.store) := Prod.ext rfl ran.symm
      obtain old | ⟨tenant, undigested⟩ := saveBatch_rows saved row member
      · exact valid row old
      · cases calls with
        | called request => cases request
        | asked =>
            obtain ⟨call, -, rule, asks⟩ := obeys step
            have checked : narrowToken batch.tenantId 64 = true := by
              cases call <;> first | exact rule | exact asks.elim
            refine ⟨by rw [tenant]; exact checked, fun digest named => ?_⟩
            rw [undigested] at named
            cases named

/-! ## Pins -/

/-- What the confirmation of an upload pins: the tenant, and the tenant's highest revision. -/
structure Pin where
  tenantId : String
  revision : Option Int

/-- Between the stores the upload was confirmed, and pinned to the highest revision before. -/
structure Quarantines (before after : SqliteStore) (uploadId : UploadId) (pin : Pin) : Prop where
  reserved : ∃ row ∈ before.uploads, row.id = uploadId ∧ row.state = .created ∧
    row.tenantId = pin.tenantId
  confirmed : ∃ row ∈ after.uploads, row.id = uploadId ∧ row.state = .quarantined
  highest : pin.revision = before.maxRevision pin.tenantId

theorem Quarantines.unique {before after : SqliteStore} {uploadId : UploadId} {pin other : Pin}
    (integrity : before.Integrity) (first : Quarantines before after uploadId pin)
    (second : Quarantines before after uploadId other) : pin = other := by
  obtain ⟨row, there, named, -, owner⟩ := first.reserved
  obtain ⟨row', there', named', -, owner'⟩ := second.reserved
  have same := integrity.uploadIds.eq_of_key there there' (named.trans named'.symm)
  have highest := first.highest
  have highest' := second.highest
  obtain ⟨tenantId, revision⟩ := pin
  obtain ⟨tenantId', revision'⟩ := other
  dsimp only at owner owner' highest highest'
  rw [highest, highest', ← owner, ← owner', same]

/-- The answer a worker heard about its job, its source or its policy. -/
def Heard (pins : UploadId → Pin → Prop) (s : SystemState) : Exchange Answer → Prop
  | ⟨.store (.claimNext ..), .ok (some leased)⟩ => ∃ pin, pins leased.job.uploadId pin ∧
      leased.job.sitePolicyRevision.map Int.ofNat = pin.revision
  | ⟨.store (.findProcessingSource uploadId), .ok (some source)⟩ => source.uploadId = uploadId ∧
      (∃ pin, pins uploadId pin ∧ source.tenantId = pin.tenantId) ∧
      narrowToken source.tenantId 64 = true ∧
      ∀ digest, source.sourceSha256 = some digest → sha256Token digest = true
  | ⟨.store (.startProcessing _ _ digest _), .ok ()⟩ => sha256Token digest = true
  | ⟨.store (.findSitePolicyRevision tenantId revision), .ok (some snapshot)⟩ =>
      (revision : Int) ≤ i64Max ∧ ∃ row,
        s.shared.store.policyRevision tenantId revision = some row ∧
          sitePolicyFromRow row = .ok snapshot
  | _ => True

/-- The uploads of the state are pinned, each to one revision, and their jobs carry it. -/
structure Pinned (d : Deployment) (pins : UploadId → Pin → Prop) (s : SystemState) : Prop where
  recorded : d.Recorded s
  valid : ∀ row ∈ s.shared.store.uploads, RowValid row
  marks : ∀ row ∈ s.shared.store.sitePolicySnapshots, ∀ mark, row.watermark = some mark →
    sha256Token mark.sha256 = true
  unique : ∀ uploadId pin other, pins uploadId pin → pins uploadId other → pin = other
  known : ∀ uploadId pin, pins uploadId pin → Deployment.KnownUpload d s uploadId fun row =>
    row.tenantId = pin.tenantId ∧ row.state ≠ .created
  jobs : ∀ job ∈ s.shared.store.jobs, ∃ pin, pins job.uploadId pin ∧
    job.sitePolicyRevision = pin.revision
  heard : ∀ i exchange, exchange ∈ s.past i → Heard pins s exchange

theorem pinned_initial (clock : OffsetDateTime) :
    Pinned d (fun _ _ => False) (.initial (.fresh clock)) where
  recorded := Deployment.recorded_initial clock
  valid := fun _ member => nomatch member
  marks := fun _ member => nomatch member
  unique := fun _ _ _ none => none.elim
  known := fun _ _ none => none.elim
  jobs := fun _ member => nomatch member
  heard := fun _ _ heard => by cases heard

/-- The policies of a tenant only grow at the end. -/
theorem snapshots_grow (recorded : d.Recorded s) (step : d.machine.Step s label t) :
    s.shared.store.sitePolicySnapshots <+: t.shared.store.sitePolicySnapshots := by
  obtain same | ⟨op, ok, calls, answers⟩ := Deployment.store_cases step
  · exact ⟨[], by rw [List.append_nil, same]⟩
  · have effect := answers.effect recorded.integrity
    refine effect.keeps (P := fun m => s.shared.store.sitePolicySnapshots <+: m.sitePolicySnapshots)
      ?_ (List.prefix_refl _)
    intro m u wrote grown
    obtain same | ⟨-, row, -, -, added⟩ := wrote.policies_cases
    · rw [same]
      exact grown
    · rw [added]
      exact grown.trans (List.prefix_append _ _)

/-- The pins after a step. -/
def pinsAfter (pins : UploadId → Pin → Prop) (s t : SystemState) (uploadId : UploadId) (pin : Pin) :
    Prop := pins uploadId pin ∨ Quarantines s.shared.store t.shared.store uploadId pin

/-- **A job a step adds carries the revision its upload is pinned to.** -/
theorem job_pinned (recorded : d.Recorded s) (step : d.machine.Step s label t) {job : JobRow}
    (member : job ∈ t.shared.store.jobs) (fresh : ∀ before ∈ s.shared.store.jobs, before.id ≠ job.id) :
    ∃ pin, Quarantines s.shared.store t.shared.store job.uploadId pin ∧
      job.sitePolicyRevision = pin.revision := by
  obtain same | ⟨op, ok, calls, answers⟩ := Deployment.store_cases step
  · rw [same] at member
    exact absurd rfl (fresh job member)
  obtain same | ran := answers_ran answers
  · rw [same] at member
    exact absurd rfl (fresh job member)
  obtain ⟨before, there, move⟩ | ⟨enqueued, -⟩ := answers.jobMoves recorded.integrity job member
  · exact absurd move.id.symm (fresh before there)
  cases enqueued with
  | direct =>
      cases calls with
      | called request => cases request
      | asked =>
          obtain ⟨call, -, asks⟩ := Deployment.asks step
          cases call <;> exact asks.elim
  | @confirmed jobId tenantId uploadId actualSizeBytes presetId now upload revision there owned created =>
      have confirmed : markQuarantinedAndEnqueue jobId tenantId uploadId actualSizeBytes presetId now
          s.shared.store = ((markQuarantinedAndEnqueue jobId tenantId uploadId actualSizeBytes
            presetId now s.shared.store).1, t.shared.store) := Prod.ext rfl ran.symm
      obtain ⟨owner, named⟩ := ownedUpload_iff.1 owned
      refine ⟨⟨tenantId, s.shared.store.maxRevision tenantId⟩,
        ⟨⟨upload, there, rfl, created, owner⟩, ?_, rfl⟩, ?_⟩
      · obtain ⟨same, -⟩ | ⟨-, moved, owned', confirmed⟩ :=
          markQuarantinedAndEnqueue_cases recorded.integrity confirmed
        · rw [same] at member
          exact absurd rfl (fresh _ member)
        · obtain ⟨middle, moves, revision', inserted⟩ := confirmed.confirmed
          obtain ⟨-, -, -, counters, -, stored⟩ := SqliteStore.insertJob_ok inserted
          rw [stored]
          exact ⟨_, moves.moved_mem, (ownedUpload_iff.1 owned').2.trans named.symm, rfl⟩
      · obtain old | highest := confirmation_pins confirmed _ member
        · exact absurd rfl (fresh _ old)
        · exact highest

/-- Confirmed uploads are not created again. -/
theorem chain_confirmed {state target : UploadState} (chain : UploadState.Chain state target)
    (confirmed : state ≠ .created) : target ≠ .created := by
  refine chain.keeps (P := fun state => state ≠ .created) ?_ confirmed
  intro state target allowed _ same
  subst same
  cases state <;> cases allowed

theorem leasedFromRow_revision {row : JobRow} {leased : LeasedProcessingJob}
    (decoded : leasedFromRow row = .ok leased) :
    leased.job.sitePolicyRevision.map Int.ofNat = row.sitePolicyRevision := by
  rw [leasedFromRow] at decoded
  split at decoded
  · cases decoded
  split at decoded
  · cases decoded
  split at decoded
  · cases decoded
  split at decoded
  · rename_i none
    cases decoded
    exact none.symm
  · rename_i stored named
    split at decoded
    · cases decoded
    · rename_i revision converted
      cases decoded
      obtain ⟨same, -⟩ := u64TryFrom_eq_some.1 converted
      rw [named, same]
      rfl

theorem processingSourceFromRow_digest {row : UploadRow} {source : ProcessingSource}
    (decoded : processingSourceFromRow row = .ok source) :
    source.sourceSha256 = row.sourceSha256 := by
  rw [processingSourceFromRow] at decoded
  split at decoded
  · cases decoded
  · cases decoded
    rfl

theorem findSitePolicyRevision_ok {tenantId : String} {revision : Nat} {store store' : SqliteStore}
    {snapshot : SitePolicySnapshot}
    (ran : findSitePolicyRevision tenantId revision store = (.ok (some snapshot), store')) :
    store' = store ∧ (revision : Int) ≤ i64Max ∧
      ∃ row, store.policyRevision tenantId revision = some row ∧
        sitePolicyFromRow row = .ok snapshot := by
  unfold findSitePolicyRevision at ran
  obtain ⟨stored, middle, converted, rest⟩ := call_bind_eq_ok.1 ran
  obtain ⟨known, rfl⟩ := call_okOr_eq_ok.1 converted
  obtain ⟨rfl, bounded⟩ := i64TryFrom_eq_some.1 known
  rw [call_readOr_eq] at rest
  obtain ⟨found, rfl⟩ := Prod.mk.inj rest
  refine ⟨rfl, bounded, ?_⟩
  cases same : store.policyRevision tenantId revision with
  | none =>
      rw [same] at found
      cases found
  | some row =>
      rw [same] at found
      change (sitePolicyFromRow row).map some = .ok (some snapshot) at found
      refine ⟨row, rfl, ?_⟩
      cases read : sitePolicyFromRow row with
      | error e =>
          rw [read] at found
          cases found
      | ok decoded =>
          rw [read] at found
          cases found
          rfl

/-- What was heard stays true. -/
theorem Heard.step {pins : UploadId → Pin → Prop} (heard : Heard pins s exchange)
    (recorded : d.Recorded s) (step : d.machine.Step s label t) :
    Heard (pinsAfter pins s t) t exchange := by
  unfold Heard at *
  split at heard
  · obtain ⟨pin, pinned, same⟩ := heard
    exact ⟨pin, .inl pinned, same⟩
  · obtain ⟨named, ⟨pin, pinned, owner⟩, valid⟩ := heard
    exact ⟨named, ⟨pin, .inl pinned, owner⟩, valid⟩
  · exact heard
  · obtain ⟨bounded, row, found, read⟩ := heard
    exact ⟨bounded, row, policyRevision_grown (snapshots_grow recorded step) found, read⟩
  · trivial

/-- **The answers of a step are about pinned uploads.** -/
theorem heard_asked {pins : UploadId → Pin → Prop} (pinned : Pinned d pins s)
    (step : d.machine.Step s (.asked i exchange) t) : Heard (pinsAfter pins s t) t exchange := by
  obtain ⟨call, called, rule, asks⟩ := Deployment.obeys step
  obtain ⟨_, next, asked⟩ := step.asked_cases
  obtain ⟨request, answer⟩ := exchange
  have answered : s.shared.Answers request answer t.shared := asked.answered
  unfold Heard
  split
  · rename_i workerId now leaseFor leased same
    cases same
    obtain ⟨store', replies, -⟩ := answered
    obtain ⟨leaseUntil, job, tenantId, claims, decoded⟩ :=
      claimNext_claims pinned.recorded.integrity replies
    obtain ⟨pin, known, revision⟩ := pinned.jobs job claims.moved.member
    obtain ⟨-, upload, -⟩ := leasedFromRow_ok decoded
    refine ⟨pin, .inl ?_, (leasedFromRow_revision decoded).trans revision⟩
    rw [upload]
    exact known
  · rename_i uploadId source same
    cases same
    obtain ⟨store', replies, -⟩ := answered
    cases replies with
    | ran ran =>
        obtain ⟨-, row, member, rfl, decoded⟩ := findProcessingSource_ok ran
        obtain ⟨named, tenant, -⟩ := processingSourceFromRow_ok decoded
        obtain ⟨leased, ⟨workerId, now, leaseFor, heard⟩, target⟩ : ∃ leased,
            Holding (s.past i) leased ∧ leased.job.uploadId = row.id := by
          cases call with
          | work workerId => exact rule
          | _ => exact asks.elim
        obtain ⟨pin, known, -⟩ := pinned.heard i _ heard
        rw [target] at known
        obtain ⟨owner, -⟩ := (pinned.known _ _ known).holds row member rfl
        refine ⟨named, ⟨pin, .inl known, tenant.trans owner⟩, ?_, ?_⟩
        · rw [tenant]
          exact (pinned.valid row member).tenant
        · rw [processingSourceFromRow_digest decoded]
          exact (pinned.valid row member).digest
  · rename_i uploadId contentType digest now same
    cases same
    obtain ⟨store', replies, -⟩ := answered
    cases replies with
    | ran ran => exact (startProcessing_digest ran).resolve_right fun refused => refused.2 rfl
  · rename_i tenantId revision snapshot same
    cases same
    obtain ⟨store', replies, moved⟩ := answered
    cases replies with
    | ran ran =>
        obtain ⟨rfl, bounded, row, found, read⟩ := findSitePolicyRevision_ok ran
        refine ⟨bounded, row, ?_, read⟩
        rw [moved]
        exact found
  · trivial

/-- **A step keeps the pins, and pins what it confirms.** -/
theorem Pinned.step {pins : UploadId → Pin → Prop} (pinned : Pinned d pins s)
    (step : d.machine.Step s label t) : Pinned d (pinsAfter pins s t) t where
  recorded := pinned.recorded.step step
  valid := rows_step pinned.recorded step pinned.valid
  marks := fun row member => by
    obtain old | checked := marks_step pinned.recorded step row member
    · exact pinned.marks row old
    · exact checked
  unique := by
    have apart : ∀ {uploadId pin other}, pins uploadId pin →
        ¬ Quarantines s.shared.store t.shared.store uploadId other := by
      intro uploadId pin other old new
      obtain ⟨row, there, named, created, -⟩ := new.reserved
      exact ((pinned.known uploadId pin old).holds row there named).2 created
    rintro uploadId pin other (old | new) (old' | new')
    · exact pinned.unique uploadId pin other old old'
    · exact absurd new' (apart old)
    · exact absurd new (apart old')
    · exact new.unique pinned.recorded.integrity new'
  known := by
    rintro uploadId pin (old | new)
    · refine (pinned.known uploadId pin old).step pinned.recorded step ?_
      rintro before after evolves ⟨owner, confirmed⟩
      exact ⟨(congrArg UploadReserved.tenantId evolves.reserved).trans owner,
        chain_confirmed evolves.chain confirmed⟩
    · obtain ⟨row, there, rfl, created, owner⟩ := new.reserved
      obtain ⟨after, member, named, quarantined⟩ := new.confirmed
      rw [← named]
      refine .of_row (pinned.recorded.step step) member ⟨?_, by rw [quarantined]; decide⟩
      obtain ⟨before, there', evolves⟩ | reserves :=
        pinned.recorded.upload_evolves step member
      · have same := pinned.recorded.integrity.uploadIds.eq_of_key there' there
          (evolves.id.symm.trans named)
        rw [← owner, ← same]
        exact congrArg UploadReserved.tenantId evolves.reserved
      · refine absurd ?_ reserves.fresh
        rw [named]
        exact pinned.recorded.uploads row there
  jobs := fun job member => by
    obtain old | ⟨before, there, op, ok, -, move⟩ | enqueues :=
      pinned.recorded.job_cases step member
    · obtain ⟨pin, known, revision⟩ := pinned.jobs job old
      exact ⟨pin, .inl known, revision⟩
    · obtain ⟨pin, known, revision⟩ := pinned.jobs before there
      refine ⟨pin, .inl ?_, ?_⟩
      · rw [show job.uploadId = before.uploadId from congrArg JobIdentity.uploadId move.identity]
        exact known
      · rw [← revision]
        exact congrArg JobIdentity.sitePolicyRevision move.identity
    · obtain ⟨pin, quarantines, revision⟩ := job_pinned pinned.recorded step member
        fun before there same => enqueues.fresh (same ▸ pinned.recorded.jobs before there)
      exact ⟨pin, .inr quarantines, revision⟩
  heard := step.learns (P := fun state => Heard (pinsAfter pins s t) t) (fun i exchange there =>
    (pinned.heard i exchange there).step pinned.recorded step) (fun _ heard => heard)
    fun i _ same => by
      subst same
      exact heard_asked pinned step

end Steps

/-! ## Presets -/

/-- The digits of a revision are few. -/
theorem revision_text {revision : Nat} (bounded : (revision : Int) ≤ i64Max) :
    (toString revision).utf8ByteSize ≤ 19 ∧ (toString revision).toList.all isTokenChar = true := by
  have text : (toString revision).toList = Nat.toDigits 10 revision := Nat.toList_repr
  have digits : ∀ c ∈ (toString revision).toList, isAsciiDigit c = true := by
    intro c member
    rw [text] at member
    exact isAsciiDigit_of_isDigit (Nat.isDigit_of_mem_toDigits (by decide) (by decide) member)
  have length : (Nat.toDigits 10 revision).length ≤ 19 := by
    refine (Nat.length_toDigits_le_iff (by decide) (by decide)).2 ?_
    unfold i64Max at bounded
    omega
  constructor
  · rw [← String.ofList_toList (s := toString revision), utf8ByteSize_ofList_digits digits, text]
    exact length
  · refine List.all_eq_true.2 fun c member => ?_
    simp [isTokenChar, isAsciiAlphanumeric, digits c member]

/-- **The preset of a stored watermark is a token.** -/
theorem objectPreset_valid {revision : Nat} {stored : StoredWatermarkPolicy}
    (bounded : (revision : Int) ≤ i64Max) (valid : sha256Token stored.assetSha256 = true) :
    narrowToken (objectWatermark revision stored).presetId 128 = true := by
  obtain ⟨short, digits⟩ := revision_text bounded
  obtain ⟨-, size, clean⟩ := narrowToken_chars (KeyParts.digest_token valid)
  have preset : (objectWatermark revision stored).presetId = "board-default-v1" ++ "-wm-" ++
      ("g7-r" ++ toString revision) ++ "-" ++ stored.assetSha256 := rfl
  have base : "board-default-v1".utf8ByteSize = 16 ∧ "-wm-".utf8ByteSize = 4 ∧
      "g7-r".utf8ByteSize = 4 ∧ "-".utf8ByteSize = 1 := by decide
  have chars : "board-default-v1".toList.all isTokenChar = true ∧ "-wm-".toList.all isTokenChar = true ∧
      "g7-r".toList.all isTokenChar = true ∧ "-".toList.all isTokenChar = true := by decide
  rw [preset]
  generalize toString revision = text at short digits ⊢
  obtain ⟨a, b, c, e⟩ := base
  refine narrowToken_of_chars ?_ ?_ ?_
  · simp
  · simp only [String.utf8ByteSize_append]
    omega
  · simp only [String.toList_append, List.all_append, chars, digits, clean, Bool.and_self]

theorem sitePolicyFromRow_mark {row : SitePolicyRow} {snapshot : SitePolicySnapshot}
    {stored : StoredWatermarkPolicy} (read : sitePolicyFromRow row = .ok snapshot)
    (marked : snapshot.watermark = some stored) :
    ∃ mark, row.watermark = some mark ∧ stored.assetSha256 = mark.sha256 := by
  obtain ⟨-, -, -, -, -, converted⟩ := sitePolicyFromRow_fields read
  rw [marked] at converted
  cases columns : row.watermark with
  | none =>
      rw [columns] at converted
      cases converted
  | some mark =>
      refine ⟨mark, rfl, ?_⟩
      rw [columns] at converted
      cases decoded : storedWatermark mark with
      | error e =>
          rw [storedWatermarkOption, decoded] at converted
          cases converted
      | ok read =>
          rw [storedWatermarkOption, decoded] at converted
          obtain rfl : read = stored := Option.some.inj (Except.ok.inj converted)
          unfold storedWatermark at decoded
          split at decoded
          · cases decoded
          split at decoded
          · cases decoded
          split at decoded
          · cases decoded
          split at decoded
          · cases decoded
          · cases decoded
            rfl

/-! ## Attempts -/

section Attempts

variable {d : Deployment} {s t : SystemState} {label : SystemLabel} {i j : Nat}

/-- The thread is a worker of a process with the configuration. -/
def Works (s : SystemState) (i : Nat) (configuration : WorkerConfiguration) : Prop :=
  ∃ workerId, s.call i = some (.work configuration workerId)

theorem Works.unique {configuration configuration' : WorkerConfiguration}
    (works : Works s i configuration) (works' : Works s i configuration') :
    configuration = configuration' := by
  obtain ⟨workerId, called⟩ := works
  obtain ⟨workerId', called'⟩ := works'
  rw [called] at called'
  cases called'
  rfl

/-- A worker of a process with the configuration has heard what it has to before it renders and
stores derivatives. -/
structure Prepares (d : Deployment) (s : SystemState) (i : Nat) (configuration : WorkerConfiguration)
    (leased : LeasedProcessingJob) (source : ProcessingSource) (digest : String)
    (watermark : Option WatermarkPolicy) : Prop where
  works : Works s i configuration
  prepared : (d.worker configuration).Prepared (s.past i) leased source digest watermark

/-- What every thread of a state has asked for, and the one lease it may have. -/
structure Attempting (d : Deployment) (s : SystemState) : Prop where
  asked : ∀ i exchange, exchange ∈ s.past i → ∃ call, s.call i = some call ∧
    Rules.Rule d call (s.past i) exchange.1 ∧ d.Asks call exchange.1
  once : ∀ i leased leased', Holding (s.past i) leased → Holding (s.past i) leased' → leased = leased'

theorem Rules.Rule.mono {call : ServiceCall} {past past' : History} {request : Ask}
    (rule : Rules.Rule d call past request) (more : past ⊆ past') :
    Rules.Rule d call past' request := by
  cases call with
  | work configuration workerId =>
      have renders : (d.worker configuration).RenderRule past request := rule
      exact renders.mono more
  | _ => exact rule

theorem Holding.of_append {past : History} {exchange : Exchange Answer} {leased : LeasedProcessingJob}
    (holding : Holding (past ++ [exchange]) leased) : Holding past leased ∨
      ∃ workerId now leaseFor, exchange = ⟨.store (.claimNext workerId now leaseFor), .ok (some leased)⟩ := by
  obtain ⟨workerId, now, leaseFor, member⟩ := holding
  obtain old | new := List.mem_append.1 member
  · exact .inl ⟨workerId, now, leaseFor, old⟩
  · exact .inr ⟨workerId, now, leaseFor, (List.mem_singleton.1 new).symm⟩

/-- A thread that claims has heard nothing but the clock. -/
theorem claim_first {workerId : String} {now : OffsetDateTime} {leaseFor : Duration}
    {answer : Answer (.store (.claimNext workerId now leaseFor))} {leased : LeasedProcessingJob}
    (step : d.machine.Step s (.asked i ⟨.store (.claimNext workerId now leaseFor), answer⟩) t) :
    ¬ Holding (s.past i) leased := by
  rintro ⟨name, claimedAt, duration, member⟩
  obtain ⟨call, -, rule, asks⟩ := Deployment.obeys step
  cases call with
  | work => cases rule _ member
  | createBatch | presignPart | completeMultipart | confirmSingleUpload | abortMultipart
  | publishPolicy | cleanup | inventory => exact asks.elim

theorem Attempting.step (attempting : Attempting d s) (step : d.machine.Step s label t) :
    Attempting d t where
  asked := fun i exchange member => by
    have grown : s.past i ⊆ t.past i := by
      rw [step.past]
      exact List.subset_append_left _ _
    obtain ⟨call, called, rule, asks⟩ : ∃ call, s.call i = some call ∧
        Rules.Rule d call (s.past i) exchange.1 ∧ d.Asks call exchange.1 := by
      obtain old | rfl := step.heard_cases member
      · exact attempting.asked i exchange old
      · exact obeys step
    exact ⟨call, step.call called, rule.mono grown, asks⟩
  once := fun i leased leased' holding holding' => by
    rw [step.past] at holding holding'
    obtain quiet | ⟨exchange, rfl⟩ := label.heard_eq i
    · rw [quiet, List.append_nil] at holding holding'
      exact attempting.once i leased leased' holding holding'
    · rw [Label.heard, if_pos rfl] at holding holding'
      obtain old | ⟨workerId, now, leaseFor, rfl⟩ := Holding.of_append holding
      · obtain old' | ⟨workerId', now', leaseFor', rfl⟩ := Holding.of_append holding'
        · exact attempting.once i leased leased' old old'
        · exact absurd old (claim_first step)
      · obtain old' | ⟨workerId', now', leaseFor', same⟩ := Holding.of_append holding'
        · exact absurd old' (claim_first step)
        · cases same
          rfl

theorem run_attempting {clock : OffsetDateTime} {labels : List SystemLabel}
    (run : Trace d.machine.Step (.initial (.fresh clock)) labels s) : Attempting d s := by
  refine run.keeps (fun _ _ _ step attempting => attempting.step step) ⟨?_, ?_⟩
  · intro i exchange member
    cases member
  · rintro i leased leased' ⟨_, _, _, member⟩
    cases member

/-! ## What an attempt draws, and where it stores it -/

section Drawing

variable {pins : UploadId → Pin → Prop} {leased leased' : LeasedProcessingJob}
variable {source source' : ProcessingSource} {digest digest' : String}
variable {watermark watermark' : Option WatermarkPolicy}
variable {configuration configuration' : WorkerConfiguration}

theorem Pinned.holding (pinned : Pinned d pins s) (holding : Holding (s.past i) leased) :
    ∃ pin, pins leased.job.uploadId pin ∧
      leased.job.sitePolicyRevision.map Int.ofNat = pin.revision := by
  obtain ⟨workerId, now, leaseFor, member⟩ := holding
  exact pinned.heard i _ member

/-- The snapshot an attempt looked up, as it is stored. -/
structure Looked (s : SystemState) (tenantId : String) (revision : Nat)
    (snapshot : SitePolicySnapshot) : Prop where
  bounded : (revision : Int) ≤ i64Max
  stored : ∃ row, s.shared.store.policyRevision tenantId revision = some row ∧
    sitePolicyFromRow row = .ok snapshot

theorem Looked.unique {tenantId : String} {revision : Nat} {snapshot snapshot' : SitePolicySnapshot}
    (looked : Looked s tenantId revision snapshot) (looked' : Looked s tenantId revision snapshot') :
    snapshot = snapshot' := by
  obtain ⟨row, found, read⟩ := looked.stored
  obtain ⟨row', found', read'⟩ := looked'.stored
  rw [found] at found'
  obtain rfl := Option.some.inj found'
  rw [read] at read'
  cases read'
  rfl

/-- **What an attempt draws is what the stored revision of its job says**, or what its process was
configured with where the job has none. -/
def UsesPolicy (s : SystemState) (configuration : WorkerConfiguration) (leased : LeasedProcessingJob)
    (source : ProcessingSource) (watermark : Option WatermarkPolicy) : Prop :=
  match leased.job.sitePolicyRevision with
  | some revision => ∃ snapshot, Looked s source.tenantId revision snapshot ∧
      watermark = snapshot.watermark.map (objectWatermark revision)
  | none => watermark = configuration.policy.watermark.map fun configured =>
      { configured with assetPath := "registered-watermark" }

theorem Pinned.usesPolicy (pinned : Pinned d pins s)
    (chosen : (d.worker configuration).Chosen (s.past i) leased source watermark) :
    UsesPolicy s configuration leased source watermark := by
  unfold Chosen at chosen
  unfold UsesPolicy
  split
  · rename_i revision named
    rw [named] at chosen
    obtain ⟨snapshot, member, same⟩ := chosen
    obtain ⟨bounded, stored⟩ := pinned.heard i _ member
    exact ⟨snapshot, ⟨bounded, stored⟩, same⟩
  · rename_i none
    rw [none] at chosen
    exact chosen

/-- **Attempts on one upload draw the same** where its job has a revision, or their processes are
configured with one watermark. -/
theorem Pinned.chosen (pinned : Pinned d pins s)
    (prepares : Prepares d s i configuration leased source digest watermark)
    (prepares' : Prepares d s j configuration' leased' source' digest' watermark')
    (same : leased.job.uploadId = leased'.job.uploadId)
    (settled : leased.job.sitePolicyRevision = none →
      configuration.policy.watermark = configuration'.policy.watermark) :
    watermark = watermark' := by
  have prepared := prepares.prepared
  have prepared' := prepares'.prepared
  obtain ⟨pin, known, revision⟩ := pinned.holding prepared.sourced.holding
  obtain ⟨pin', known', revision'⟩ := pinned.holding prepared'.sourced.holding
  obtain ⟨-, ⟨owner, owned, tenant⟩, -⟩ := pinned.heard i _ prepared.sourced.found
  obtain ⟨-, ⟨owner', owned', tenant'⟩, -⟩ := pinned.heard j _ prepared'.sourced.found
  rw [← same] at known' owned'
  obtain rfl := pinned.unique _ _ _ known known'
  obtain rfl := pinned.unique _ _ _ known owned
  obtain rfl := pinned.unique _ _ _ known owned'
  have tenants : source.tenantId = source'.tenantId := tenant.trans tenant'.symm
  have revisions : leased.job.sitePolicyRevision = leased'.job.sitePolicyRevision :=
    Option.map_injective (fun _ _ => Int.ofNat.inj) (revision.trans revision'.symm)
  have uses := pinned.usesPolicy prepared.chosen
  have uses' := pinned.usesPolicy prepared'.chosen
  unfold UsesPolicy at uses uses'
  rw [← revisions, ← tenants] at uses'
  split at uses
  · rename_i chosen named
    rw [named] at uses'
    obtain ⟨snapshot, looked, rfl⟩ := uses
    obtain ⟨snapshot', looked', rfl⟩ := uses'
    rw [looked.unique looked']
  · rename_i none
    rw [none] at uses'
    rw [uses, uses', settled none]

/-- **The digest under which an attempt stores is one.** -/
theorem Pinned.digested (pinned : Pinned d pins s)
    (sourced : Sourced (s.past i) leased source) (digested : Digested (s.past i) source digest) :
    sha256Token digest = true := by
  obtain recorded | ⟨contentType, startedAt, member⟩ := digested
  · obtain ⟨-, -, -, digests⟩ := pinned.heard i _ sourced.found
    exact digests digest recorded
  · exact pinned.heard i _ member

/-- The preset of a pinned job's watermark is a token. -/
theorem Pinned.preset (pinned : Pinned d pins s) (uses : UsesPolicy s configuration leased source watermark)
    (revised : leased.job.sitePolicyRevision.isSome) : narrowToken (presetOf watermark) 128 = true := by
  obtain ⟨revision, named⟩ := Option.isSome_iff_exists.1 revised
  unfold UsesPolicy at uses
  rw [named] at uses
  obtain ⟨snapshot, looked, rfl⟩ := uses
  cases marked : snapshot.watermark with
  | none =>
      show narrowToken defaultDerivativePreset 128 = true
      decide
  | some stored =>
      refine objectPreset_valid looked.bounded ?_
      obtain ⟨row, found, read⟩ := looked.stored
      obtain ⟨mark, columns, same⟩ := sitePolicyFromRow_mark read marked
      rw [same]
      exact pinned.marks row (List.mem_of_find?_eq_some found) mark columns

/-- **Every key of a pinned job is a key of `KeyParts`.** -/
theorem Pinned.keyParts (pinned : Pinned d pins s)
    (prepared : (d.worker configuration).Prepared (s.past i) leased source digest watermark)
    (revised : leased.job.sitePolicyRevision.isSome) {name : String} (named : name ∈ derivativeNames) :
    ∃ parts : KeyParts, parts.tenantId = source.tenantId ∧ parts.uploadId = source.uploadId ∧
      parts.digest = digest ∧ parts.presetId = presetOf watermark ∧ parts.name = name ∧
        parts.text = derivativeText source digest watermark name := by
  obtain ⟨-, -, tenant, -⟩ := pinned.heard i _ prepared.sourced.found
  exact ⟨⟨source.tenantId, source.uploadId, digest, presetOf watermark, name, tenant,
    pinned.digested prepared.sourced prepared.digested,
    pinned.preset (pinned.usesPolicy prepared.chosen) revised, named⟩, rfl, rfl, rfl, rfl, rfl, rfl⟩

/-- **Attempts that build one key work on one upload.** -/
theorem Pinned.same_upload (pinned : Pinned d pins s)
    (prepared : (d.worker configuration).Prepared (s.past i) leased source digest watermark)
    (prepared' : (d.worker configuration').Prepared (s.past j) leased' source' digest' watermark')
    {name name' : String} (same : derivativeText source digest watermark name =
      derivativeText source' digest' watermark' name') :
    leased.job.uploadId = leased'.job.uploadId := by
  obtain ⟨named, -, tenant, -⟩ := pinned.heard i _ prepared.sourced.found
  obtain ⟨named', -, tenant', -⟩ := pinned.heard j _ prepared'.sourced.found
  obtain ⟨-, -, clean⟩ := narrowToken_chars tenant
  obtain ⟨-, -, clean'⟩ := narrowToken_chars tenant'
  rw [← named, ← named']
  exact mediaKeyText_uploadId (slash_not_mem clean (by decide)) (slash_not_mem clean' (by decide)) same

end Drawing

/-! ## Runs -/

/-- The upload was confirmed by a step of the run, and pinned there. -/
def ConfirmedDuring (d : Deployment) (s : SystemState) (labels : List SystemLabel) (t : SystemState)
    (uploadId : UploadId) (pin : Pin) : Prop :=
  ∃ earlier label later before after, labels = earlier ++ label :: later ∧
    Trace d.machine.Step s earlier before ∧ d.machine.Step before label after ∧
    Trace d.machine.Step after later t ∧
    Quarantines before.shared.store after.shared.store uploadId pin

/-- **Runs keep the pins, and pin what they confirm.** -/
theorem pinned_run {pins : UploadId → Pin → Prop} {labels : List SystemLabel}
    (run : Trace d.machine.Step s labels t) (pinned : Pinned d pins s) :
    ∃ pins' : UploadId → Pin → Prop, Pinned d pins' t ∧
      (∀ uploadId pin, pins uploadId pin → pins' uploadId pin) ∧
      ∀ uploadId pin, pins' uploadId pin → pins uploadId pin ∨
        ConfirmedDuring d s labels t uploadId pin := by
  induction run generalizing pins with
  | nil => exact ⟨pins, pinned, fun _ _ known => known, fun _ _ known => .inl known⟩
  | @cons s middle t label labels step rest ih =>
      obtain ⟨pins', pinned', grown, from_⟩ := ih (pinned.step step)
      refine ⟨pins', pinned', fun uploadId pin known => grown uploadId pin (.inl known), ?_⟩
      intro uploadId pin known
      obtain (old | new) | ⟨earlier, next, later, before, after, rfl, first, taken, last, new⟩ :=
        from_ uploadId pin known
      · exact .inl old
      · exact .inr ⟨[], label, labels, s, middle, rfl, .nil s, step, rest, new⟩
      · exact .inr ⟨label :: earlier, next, later, before, after, rfl, .cons step first, taken, last,
          new⟩

/-- The thread drew the watermark. -/
def Drew (s : SystemState) (i : Nat) (watermark : Option WatermarkPolicy) : Prop :=
  (∃ answer, (⟨.host (.imageMaster watermark), answer⟩ : Exchange Answer) ∈ s.past i) ∨
    ∃ inspection answer,
      (⟨.host (.renderThumbnail inspection watermark), answer⟩ : Exchange Answer) ∈ s.past i

/-- The thread wrote the key. -/
def WroteKey (s : SystemState) (i : Nat) (key : String) : Prop :=
  ∃ bucket contentLength answer,
    (⟨.provider (.putObject bucket key contentLength), answer⟩ : Exchange Answer) ∈ s.past i

theorem Attempting.drew (attempting : Attempting d s) {watermark : Option WatermarkPolicy}
    (drew : Drew s i watermark) : ∃ configuration leased source digest,
      Prepares d s i configuration leased source digest watermark := by
  obtain ⟨answer, member⟩ | ⟨inspection, answer, member⟩ := drew
  all_goals
    obtain ⟨call, called, rule, asks⟩ := attempting.asked i _ member
    cases call with
    | work configuration workerId =>
        obtain ⟨leased, source, digest, prepared⟩ := rule
        exact ⟨configuration, leased, source, digest, ⟨workerId, called⟩, prepared⟩
    | createBatch | presignPart | completeMultipart | confirmSingleUpload | abortMultipart
    | publishPolicy | cleanup | inventory => exact asks.elim

theorem Attempting.wrote (attempting : Attempting d s) {key : String} (wrote : WroteKey s i key) :
    ∃ configuration leased source digest watermark,
      Prepares d s i configuration leased source digest watermark ∧
        ∃ name ∈ derivativeNames, key = derivativeText source digest watermark name := by
  obtain ⟨bucket, contentLength, answer, member⟩ := wrote
  obtain ⟨call, called, rule, asks⟩ := attempting.asked i _ member
  cases call with
  | work configuration workerId =>
      obtain ⟨leased, source, digest, watermark, prepared, named⟩ := rule
      exact ⟨configuration, leased, source, digest, watermark, ⟨⟨workerId, called⟩, prepared⟩, named⟩
  | createBatch | presignPart | completeMultipart | confirmSingleUpload | abortMultipart
  | publishPolicy | cleanup | inventory => exact asks.elim

theorem Attempting.looked (attempting : Attempting d s) {tenantId : String} {revision : Nat}
    {answer : Answer (.store (.findSitePolicyRevision tenantId revision))}
    (member : (⟨.store (.findSitePolicyRevision tenantId revision), answer⟩ : Exchange Answer) ∈
      s.past i) : ∃ leased source, Sourced (s.past i) leased source ∧ tenantId = source.tenantId ∧
        leased.job.sitePolicyRevision = some revision := by
  obtain ⟨call, -, rule, asks⟩ := attempting.asked i _ member
  cases call with
  | work => exact rule
  | createBatch | presignPart | completeMultipart | confirmSingleUpload | abortMultipart
  | publishPolicy | cleanup | inventory => exact asks.elim

/-- The pinned policies of a run, and the keys of its attempts. -/
structure PolicyPinning (d : Deployment) (clock : OffsetDateTime) (labels : List SystemLabel)
    (s : SystemState) : Prop where
  /-- The upload of every attempt was confirmed in the run. -/
  confirmed : ∀ i leased, Holding (s.past i) leased → ∃ pin,
    ConfirmedDuring d (.initial (.fresh clock)) labels s leased.job.uploadId pin
  /-- An attempt has the revision that was its tenant's highest then, or none. -/
  highest : ∀ i leased pin, Holding (s.past i) leased →
    ConfirmedDuring d (.initial (.fresh clock)) labels s leased.job.uploadId pin →
      leased.job.sitePolicyRevision.map Int.ofNat = pin.revision
  /-- It looks up this revision of this tenant only. -/
  looked : ∀ i tenantId revision answer,
    (⟨.store (.findSitePolicyRevision tenantId revision), answer⟩ : Exchange Answer) ∈ s.past i →
      ∃ leased source, Sourced (s.past i) leased source ∧ tenantId = source.tenantId ∧
        leased.job.sitePolicyRevision = some revision
  /-- It draws what the stored revision says. -/
  drawn : ∀ i watermark, Drew s i watermark → ∃ configuration leased source,
    Works s i configuration ∧ Sourced (s.past i) leased source ∧
      UsesPolicy s configuration leased source watermark
  /-- The keys it builds are keys under `media/`. -/
  keys : ∀ i configuration leased source digest watermark,
    Prepares d s i configuration leased source digest watermark →
      leased.job.sitePolicyRevision.isSome → ∀ name ∈ derivativeNames,
        validateObjectKey (derivativeText source digest watermark name) = .ok () ∧
          "media/".toList <+: (derivativeText source digest watermark name).toList ∧
          ∃ parts : KeyParts, parts.tenantId = source.tenantId ∧
            parts.uploadId = source.uploadId ∧ parts.digest = digest ∧
            parts.presetId = presetOf watermark ∧ parts.name = name
  /-- It writes no other keys. -/
  written : ∀ i key, WroteKey s i key → ∃ configuration leased source digest watermark,
    Prepares d s i configuration leased source digest watermark ∧
      ∃ name ∈ derivativeNames, key = derivativeText source digest watermark name
  /-- The key of a derivative determines its components. -/
  injective : Function.Injective KeyParts.text
  /-- Attempts that write one key draw the same watermark, where the job of one has a revision. -/
  agree : ∀ i j key watermark watermark' leased, WroteKey s i key → WroteKey s j key →
    Drew s i watermark → Drew s j watermark' → Holding (s.past i) leased →
      leased.job.sitePolicyRevision.isSome → watermark = watermark'
  /-- So do those whose job has none, where their processes are configured with one watermark. -/
  configured : ∀ i j key watermark watermark' configuration configuration', WroteKey s i key →
    WroteKey s j key → Drew s i watermark → Drew s j watermark' → Works s i configuration →
      Works s j configuration' →
        configuration.policy.watermark = configuration'.policy.watermark → watermark = watermark'

/-- **Policies are pinned when an upload is confirmed, and keys tell derivatives apart.**  In
every run, every attempt of a job has the revision that was its tenant's highest when the upload
was confirmed, or none when there was none, looks up no other, and draws what the stored
revision says.  For a job with a revision every key it builds is an `ObjectKey` under `media/`,
its five components determine the key and the key determines them, and attempts that write one
key draw the same watermark, whatever was published in between and whatever their processes are
configured with. -/
theorem policy_pinning {clock : OffsetDateTime} {labels : List SystemLabel}
    (run : Trace d.machine.Step (.initial (.fresh clock)) labels s) :
    PolicyPinning d clock labels s := by
  obtain ⟨pins, pinned, -, confirmed⟩ := pinned_run run (pinned_initial clock)
  have attempting := run_attempting run
  -- attempts that write one key work on one upload
  have together : ∀ {i j key watermark watermark'}, WroteKey s i key → WroteKey s j key →
      Drew s i watermark → Drew s j watermark' → ∃ configuration configuration' leased source digest
        leased' source' digest', Prepares d s i configuration leased source digest watermark ∧
          Prepares d s j configuration' leased' source' digest' watermark' ∧
          leased.job.uploadId = leased'.job.uploadId := by
    intro i j key watermark watermark' wrote wrote' drew drew'
    obtain ⟨_, leased, source, digest, mark, ⟨-, prepared⟩, name, -, built⟩ := attempting.wrote wrote
    obtain ⟨_, leased', source', digest', mark', ⟨-, prepared'⟩, name', -, built'⟩ :=
      attempting.wrote wrote'
    obtain ⟨configuration, lease, read, digest₁, rendered⟩ := attempting.drew drew
    obtain ⟨configuration', lease', read', digest₂, rendered'⟩ := attempting.drew drew'
    refine ⟨_, _, _, _, _, _, _, _, rendered, rendered', ?_⟩
    rw [attempting.once i _ _ rendered.prepared.sourced.holding prepared.sourced.holding,
      attempting.once j _ _ rendered'.prepared.sourced.holding prepared'.sourced.holding]
    exact pinned.same_upload prepared prepared' (built.symm.trans built')
  refine ⟨?_, ?_, ?_, ?_, ?_, ?_, KeyParts.text_injective, ?_, ?_⟩
  · intro i leased holding
    obtain ⟨pin, known, -⟩ := pinned.holding holding
    exact ⟨pin, (confirmed _ _ known).resolve_left fun none => none.elim⟩
  · rintro i leased pin holding ⟨earlier, label, later, before, after, rfl, first, step, last, new⟩
    -- the pins of the confirmation are still there at the end, where the lease was heard of
    obtain ⟨pins₁, pinned₁, -⟩ := pinned_run first (pinned_initial clock)
    obtain ⟨pins₂, pinned₂, grown, -⟩ := pinned_run last (pinned₁.step step)
    obtain ⟨pin', known, revision⟩ := pinned₂.holding holding
    rw [revision, pinned₂.unique _ _ _ known (grown _ _ (.inr new))]
  · exact fun i tenantId revision answer member => attempting.looked member
  · intro i watermark drew
    obtain ⟨configuration, leased, source, digest, works, prepared⟩ := attempting.drew drew
    exact ⟨configuration, leased, source, works, prepared.sourced, pinned.usesPolicy prepared.chosen⟩
  · intro i configuration leased source digest watermark prepares revised name named
    obtain ⟨parts, tenant, upload, digested, preset, file, text⟩ :=
      pinned.keyParts prepares.prepared revised named
    rw [← text]
    exact ⟨parts.text_valid, parts.text_prefix, parts, tenant, upload, digested, preset, file⟩
  · exact fun i key wrote => attempting.wrote wrote
  · intro i j key watermark watermark' leased wrote wrote' drew drew' holding revised
    obtain ⟨_, _, lease, _, _, _, _, _, rendered, rendered', same⟩ := together wrote wrote' drew drew'
    refine pinned.chosen rendered rendered' same fun none => ?_
    rw [attempting.once i _ _ rendered.prepared.sourced.holding holding] at none
    rw [none] at revised
    cases revised
  · intro i j key watermark watermark' configuration configuration' wrote wrote' drew drew' works
      works' alike
    obtain ⟨_, _, _, _, _, _, _, _, rendered, rendered', same⟩ := together wrote wrote' drew drew'
    refine pinned.chosen rendered rendered' same fun _ => ?_
    rw [rendered.works.unique works, rendered'.works.unique works', alike]

end Attempts

/-! ## A pinned image -/

/-- A first policy, published before the image is confirmed; then a worker processes it. -/
def pinnedSchedule : List (Command ServiceCall Event) :=
  reserveImage ++
    [.start (.publishPolicy ⟨"g5", 1, 1, sampleTime 0, none⟩ (sampleTime 0)), .run 1 2,
      .happen (.put "raw" rehearsedKey 100), .start (.confirmSingleUpload "g5" rehearsedUpload),
      .run 2 5, .start (.work sampleWorker "w"), .run 3 50]

/-- The exchange is a claim of a job with the revision. -/
def claimsRevision (revision : Nat) : Exchange Answer → Bool
  | ⟨.store (.claimNext ..), .ok (some leased)⟩ => leased.job.sitePolicyRevision == some revision
  | _ => false

/-- The exchange puts a derivative. -/
def puts : Exchange Answer → Bool
  | ⟨.provider (.putObject ..), _⟩ => true
  | _ => false

theorem pinnedSchedule_reached : ∃ labels, ∃ s : SystemState,
    Trace sampleDeployment.machine.Step (.initial (.fresh (sampleTime 0))) labels s ∧
      ((s.past 3).any (claimsRevision 1) && (s.past 3).any puts) = true := by
  have played : ((sampleDeployment.rehearsal (100 * 1000000000)).play (fun _ _ => true)
      (.fresh (sampleTime 0)) pinnedSchedule).any (fun s =>
        (s.past 3).any (claimsRevision 1) && (s.past 3).any puts) = true := by
    decide +kernel
  obtain ⟨s, led, holds⟩ := (Option.any_eq_true _ _).1 played
  obtain ⟨labels, run⟩ := Responder.play_runs led
  exact ⟨labels, s, run.unguarded, holds⟩

/-- The worker of the sample has the revision of the policy published before it. -/
theorem policy_pinning_sample : ∃ labels, ∃ s : SystemState, ∃ leased,
    PolicyPinning sampleDeployment (sampleTime 0) labels s ∧ Holding (s.past 3) leased ∧
      leased.job.sitePolicyRevision = some 1 ∧ (s.past 3).any puts = true := by
  obtain ⟨labels, s, run, holds⟩ := pinnedSchedule_reached
  obtain ⟨claimed, stored⟩ := Bool.and_eq_true_iff.1 holds
  obtain ⟨exchange, member, claims⟩ := List.any_eq_true.1 claimed
  unfold claimsRevision at claims
  split at claims
  · rename_i workerId now leaseFor leased
    exact ⟨labels, s, leased, policy_pinning run, ⟨workerId, now, leaseFor, member⟩,
      beq_iff_eq.1 claims, stored⟩
  · cases claims

end MediaBooster.Policies
