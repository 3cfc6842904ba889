/-
# Tenancy.Isolation -- a tenant's calls see and touch that tenant only

The calls made for a tenant look uploads up under its name and write them under it.  Two stores
that hold the same of a tenant, whatever else they hold, give such a call one answer and hold the
same of the tenant afterwards; and neither changes a row of anyone else (`couples_call`).

That rests on two things the services see to.  The identifier of a job is new, so that no job of
another tenant gets in its way (`Recorded.fresh`); and a policy is published with an asset that was
looked up for its tenant, so that no policy refers to another tenant's upload (`Sheltered`).
-/
import MediaBooster.Service.Knowledge
import MediaBooster.Service.Rehearsal
import MediaBooster.Tenancy.Rows
import MediaBooster.Theory.Coupling

namespace MediaBooster.Tenancy

set_option autoImplicit false

open MediaBooster.Delivery MediaBooster.Domain MediaBooster.Quota MediaBooster.Service
open MediaBooster.Store MediaBooster.Theory.Run MediaBooster.Theory.Table
open MediaBooster.Theory.Threads MediaBooster.Theory.Transaction

/-! ## Two stores -/

/-- Two stores that hold the same of the tenant, in the middle of calls that began in `b` and
`b'`: what they hold of the others is still what it was. -/
structure Abreast (tenantId : String) (b b' s s' : SqliteStore) : Prop where
  tenanted : Tenanted s
  tenanted' : Tenanted s'
  same : tenantRows tenantId s = tenantRows tenantId s'
  others : ∀ other, other ≠ tenantId → tenantRows other s = tenantRows other b
  others' : ∀ other, other ≠ tenantId → tenantRows other s' = tenantRows other b'

section Statements

variable {tenantId : String} {b b' s s' : SqliteStore}

/-- Statements that do the same to the tenant's rows end alike. -/
theorem alike_of_mirrors (abreast : Abreast tenantId b b' s s')
    {outcome outcome' : Except SqlError (Nat × SqliteStore)}
    {view : Except SqlError (Nat × TenantRows)} (mirrors : Mirrors tenantId s outcome view)
    (mirrors' : Mirrors tenantId s' outcome' view) :
    Alike (fun _ => Abreast tenantId b b') outcome outcome' := by
  cases mirrors with
  | done tenanted mine others =>
      cases mirrors' with
      | done tenanted' mine' others' =>
          refine .done ⟨tenanted, tenanted', mine.trans mine'.symm, ?_, ?_⟩
          · exact fun other apart => (others other apart).trans (abreast.others other apart)
          · exact fun other apart => (others' other apart).trans (abreast.others' other apart)
  | failed error =>
      cases mirrors' with
      | failed => exact .failed error

/-- An update of the tenant's uploads. -/
theorem alike_updateUploads {hit : UploadRow → Bool} {set : UploadProgress → UploadProgress}
    (abreast : Abreast tenantId b b' s s') (mine : ∀ row, hit row = true → row.tenantId = tenantId)
    (evolves : ∀ row, hit row = true → Evolves row (row.assign set))
    (checked : ∀ row, hit row = true → uploadChecks row = true →
      uploadChecks (row.assign set) = true) :
    Alike (fun _ => Abreast tenantId b b') (SqliteStore.updateUploads hit set s)
      (SqliteStore.updateUploads hit set s') := by
  have mirrors := updateUploads_rows abreast.tenanted mine evolves checked
  have mirrors' := updateUploads_rows abreast.tenanted' mine evolves checked
  rw [abreast.same] at mirrors
  exact alike_of_mirrors abreast mirrors mirrors'

/-- No job is recorded under the identifier. -/
def JobUnused (jobId : JobId) (store : SqliteStore) : Prop := ∀ job ∈ store.jobs, job.id ≠ jobId

/-- Two stores before a job of the tenant is enqueued. -/
structure Enqueuing (tenantId : String) (jobId : JobId) (b b' s s' : SqliteStore) : Prop where
  abreast : Abreast tenantId b b' s s'
  unused : JobUnused jobId s
  unused' : JobUnused jobId s'

theorem Abreast.owns (abreast : Abreast tenantId b b' s s') {uploadId : UploadId} :
    ownsUpload tenantId s' uploadId = ownsUpload tenantId s uploadId := by
  rw [ownsUpload_eq, ownsUpload_eq, abreast.same]

/-- The updates of a confirmation, which also say whether the tenant has the upload. -/
theorem alike_confirming {jobId : JobId} {uploadId : UploadId} {state : UploadState}
    {set : UploadProgress → UploadProgress} (enqueuing : Enqueuing tenantId jobId b b' s s')
    (evolves : ∀ row : UploadRow, row.state = state → Evolves row (row.assign set))
    (checked : ∀ row, uploadChecks row = true → uploadChecks (row.assign set) = true) :
    Alike (fun n t t' => Enqueuing tenantId jobId b b' t t' ∧
        (n = 1 → ownsUpload tenantId t uploadId = true))
      (SqliteStore.updateUploads
        (fun row => ownedUpload tenantId uploadId row && row.state == state) set s)
      (SqliteStore.updateUploads
        (fun row => ownedUpload tenantId uploadId row && row.state == state) set s') := by
  have reached : ∀ row, (ownedUpload tenantId uploadId row && row.state == state) = true →
      row.tenantId = tenantId ∧ row.id = uploadId ∧ row.state = state := by
    intro row hits
    simp only [Bool.and_eq_true, ownedUpload_iff, beq_iff_eq] at hits
    exact ⟨hits.1.1, hits.1.2, hits.2⟩
  refine (alike_updateUploads enqueuing.abreast (fun row hits => (reached row hits).1)
    (fun row hits => evolves row (reached row hits).2.2) fun row _ => checked row).mono ?_
  intro n t t' ran ran' abreast
  obtain ⟨count, usage, counters, -, -, rfl⟩ := SqliteStore.updateUploads_ok ran
  obtain ⟨-, usage', counters', -, -, rfl⟩ := SqliteStore.updateUploads_ok ran'
  refine ⟨⟨abreast, enqueuing.unused, enqueuing.unused'⟩, fun one => ?_⟩
  rw [one, length_touched] at count
  obtain ⟨row, member⟩ := List.exists_mem_of_length_pos (count ▸ Nat.one_pos)
  obtain ⟨stored, hits⟩ := List.mem_filter.1 member
  obtain ⟨owner, named, -⟩ := reached row hits
  exact ownsUpload_iff.2 ⟨row.assign set, mem_updateWhere.2 ⟨row, stored, by rw [if_pos hits]⟩,
    owner, named⟩

end Statements

/-! ## Calls -/

section Calls

variable {tenantId : String} {b b' : SqliteStore}

/-- **Confirming an upload.** -/
theorem couples_quarantine {jobId : JobId} {uploadId : UploadId} {actualSize : Int}
    {presetId : String} {now : OffsetDateTime} (sized : 0 ≤ actualSize) :
    (quarantineTransaction jobId tenantId uploadId actualSize presetId now.unixTimestamp).Couples
      (Enqueuing tenantId jobId b b') fun _ => Abreast tenantId b b' := by
  unfold quarantineTransaction
  refine Tx.couples_bind (Tx.couples_execute fun s s' enqueuing => alike_confirming enqueuing
    (fun row created => ⟨rfl, ?_, fun _ => rfl⟩) fun row checked => ?_) fun uploaded => ?_
  · rw [created]
    exact UploadState.Chain.step rfl
  · simp only [uploadChecks, Bool.and_eq_true, decide_eq_true_eq] at checked ⊢
    exact ⟨⟨⟨checked.1.1.1, by simpa [uploadedColumns] using sized⟩, checked.1.2⟩, checked.2⟩
  refine Tx.couples_ensure_bind fun one => ?_
  refine Tx.couples_bind (Tx.couples_execute fun s s' enqueuing => alike_confirming enqueuing.1
    (fun row created => ⟨rfl, ?_, fun _ => rfl⟩) fun row checked => checked) fun quarantined => ?_
  · rw [created]
    exact UploadState.Chain.step rfl
  refine Tx.couples_ensure_bind fun two => ?_
  refine Tx.couples_select_bind ?_ fun revision => ?_
  · intro s s' both
    exact congrArg TenantRows.maxRevision both.1.abreast.same
  refine Tx.couples_bind (Tx.couples_execute fun s s' both => ?_) fun inserted =>
    Tx.couples_pure fun s s' abreast => abreast
  obtain ⟨⟨enqueuing, owned⟩, highest, highest'⟩ := both
  have owns : ownsUpload tenantId s uploadId = true := owned (by simpa using two)
  have mirrored : ∀ {store : SqliteStore}, Tenanted store →
      ownsUpload tenantId store uploadId = true → JobUnused jobId store →
      store.maxRevision tenantId = revision → Mirrors tenantId store
        (SqliteStore.insertJob (queuedRow jobId uploadId presetId revision now.unixTimestamp) store)
        ((tenantRows tenantId store).insertJob
          (queuedRow jobId uploadId presetId revision now.unixTimestamp)) :=
    fun tenanted owns unused latest => insertJob_rows tenanted owns unused
      ⟨rfl, rfl, ⟨now, rfl⟩, fun stored named => .inr (maxRevision_mem (latest.trans named))⟩
  have mirrors := mirrored enqueuing.abreast.tenanted owns enqueuing.unused highest
  rw [enqueuing.abreast.same] at mirrors
  exact alike_of_mirrors enqueuing.abreast mirrors (mirrored enqueuing.abreast.tenanted'
    (enqueuing.abreast.owns.trans owns) enqueuing.unused' highest')

/-- What is read of one upload of the tenant is the same. -/
theorem Abreast.found {s s' : SqliteStore} (abreast : Abreast tenantId b b' s s')
    (uploadId : UploadId) : s.uploads.find? (ownedUpload tenantId uploadId) =
      s'.uploads.find? (ownedUpload tenantId uploadId) := by
  rw [find?_owned, find?_owned, abreast.same]

theorem couples_reachedOne {ε : Type} {n : Nat} {otherwise : SqliteStore → Except ε Unit}
    (same : ∀ s s', Abreast tenantId b b' s s' → otherwise s = otherwise s') :
    (reachedOne n otherwise).Couples (Abreast tenantId b b') (Abreast tenantId b b') := by
  unfold reachedOne
  split
  · exact Call.couples_pure ()
  · exact Call.couples_readOr same

/-- **Aborting an upload.** -/
theorem couples_markDeleted {uploadId : UploadId} {now : OffsetDateTime} :
    (markDeleted tenantId uploadId now).Couples (Abreast tenantId b b') (Abreast tenantId b b') := by
  unfold markDeleted
  refine Call.couples_bind (Call.couples_autocommit (fun s s' abreast => ?_) fun _ _ => id)
    fun deleted => couples_reachedOne fun s s' abreast => ?_
  · refine alike_updateUploads abreast (fun row hits => ?_) (fun row hits => ?_) fun row _ => id
    · simp only [Bool.and_eq_true, ownedUpload_iff] at hits
      exact hits.1.1
    · simp only [Bool.and_eq_true, beq_iff_eq] at hits
      refine ⟨rfl, ?_, fun _ => rfl⟩
      rw [hits.2]
      exact UploadState.Chain.step rfl
  · rw [abreast.found]

/-- How many policies refer to an upload of the tenant is read off its own policies. -/
theorem policyReferences_owned {s : SqliteStore} (tenanted : Tenanted s) {uploadId : UploadId}
    (owned : ownsUpload tenantId s uploadId = true) :
    s.policyReferences uploadId = ((tenantRows tenantId s).policies.filter fun policy =>
      policy.watermark.any fun mark => mark.uploadId == uploadId).length := by
  unfold SqliteStore.policyReferences tenantRows
  rw [List.filter_filter]
  refine congrArg List.length (List.filter_congr fun policy member => ?_)
  cases marked : policy.watermark with
  | none => rfl
  | some mark =>
      rw [Option.any_some]
      by_cases named : mark.uploadId = uploadId
      · -- the policy is of the tenant that has its asset
        have owner := tenanted.assets policy member mark marked
        rw [named] at owner
        simp [named, owner_unique tenanted.integrity owned owner]
      · simp [named]

/-- **Requesting a deletion.** -/
theorem couples_requestDeletion {uploadId : UploadId} {now : OffsetDateTime} :
    (requestDeletion tenantId uploadId now).Couples (Abreast tenantId b b')
      (Abreast tenantId b b') := by
  unfold requestDeletion deletionTransaction
  refine Call.couples_commit ?_ fun _ _ => id
  refine Tx.couples_select_bind (fun s s' abreast => abreast.found uploadId) fun stored => ?_
  refine Tx.couples_okOr_bind fun row there => ?_
  have owned : ∀ {s : SqliteStore}, s.uploads.find? (ownedUpload tenantId uploadId) = stored →
      ownsUpload tenantId s uploadId = true := by
    intro s found
    rw [there] at found
    exact List.any_eq_true.2 ⟨row, List.mem_of_find?_eq_some found, List.find?_some found⟩
  refine Tx.couples_ite (fun _ => Tx.couples_pure fun _ _ both => both.1) fun _ => ?_
  refine Tx.couples_ite (fun _ => Tx.couples_pure fun _ _ both => both.1) fun _ => ?_
  unfold recordDeletion
  refine Tx.couples_ensure_bind fun deletable => ?_
  refine Tx.couples_select_bind ?_ fun references => ?_
  · rintro s s' ⟨abreast, found, found'⟩
    rw [policyReferences_owned abreast.tenanted (owned found),
      policyReferences_owned abreast.tenanted' (owned found'), abreast.same]
  refine Tx.couples_ensure_bind fun unreferenced => ?_
  refine Tx.couples_bind (Tx.couples_execute fun s s' both => alike_updateUploads both.1.1
    (fun row hits => ?_) (fun row hits => ⟨rfl, .refl _, fun requested => ?_⟩) fun row _ => id)
      fun updated =>
      Tx.couples_ensure_bind fun one => Tx.couples_pure fun _ _ => id
  · simp only [Bool.and_eq_true, ownedUpload_iff] at hits
    exact hits.1.1.1
  · simp only [Bool.and_eq_true, Option.isNone_iff_eq_none] at hits
    rw [hits.1.2] at requested
    cases requested

/-- Nobody else has the upload that the snapshot names as its asset. -/
def AssetMine (snapshot : SitePolicySnapshot) (store : SqliteStore) : Prop :=
  ∀ watermark, snapshot.watermark = some watermark → ∀ upload ∈ store.uploads,
    upload.id = watermark.assetUploadId → upload.tenantId = snapshot.tenantId

/-- Two stores before a policy of the tenant is published. -/
structure Publishing (snapshot : SitePolicySnapshot) (b b' s s' : SqliteStore) : Prop where
  abreast : Abreast snapshot.tenantId b b' s s'
  asset : AssetMine snapshot s
  asset' : AssetMine snapshot s'

theorem boundWatermark_asset {watermark : Option StoredWatermarkPolicy}
    {columns : Option WatermarkColumns} {mark : WatermarkColumns}
    (bound : boundWatermark watermark = .ok columns) (marked : columns = some mark) :
    ∃ stored, watermark = some stored ∧ mark.uploadId = stored.assetUploadId := by
  subst marked
  cases watermark with
  | none => cases bound
  | some stored =>
      unfold boundWatermark at bound
      dsimp only at bound
      split at bound
      · cases bound
      · cases bound
        exact ⟨stored, rfl, rfl⟩

theorem policyRevision_eq (revision : Int) (s : SqliteStore) : s.policyRevision tenantId revision =
    (tenantRows tenantId s).policies.find? fun row => row.revision == revision := by
  simp only [tenantRows, List.find?_filter, ← Bool.and_eq_true, Bool.decide_eq_true]
  rfl

theorem Abreast.revision {s s' : SqliteStore} (abreast : Abreast tenantId b b' s s')
    (revision : Int) : s.policyRevision tenantId revision = s'.policyRevision tenantId revision := by
  rw [policyRevision_eq, policyRevision_eq, abreast.same]

/-- **Inserting a policy.** -/
theorem couples_insertSnapshot {snapshot : SitePolicySnapshot} {createdAt : OffsetDateTime} :
    (insertSnapshot snapshot createdAt).Couples (Publishing snapshot b b')
      (Abreast snapshot.tenantId b b') := by
  have weaker : ∀ s s', Publishing snapshot b b' s s' → Abreast snapshot.tenantId b b' s s' :=
    fun _ _ publishing => publishing.abreast
  unfold insertSnapshot
  refine Call.couples_okOr_bind (fun revision converted => ?_) weaker
  refine Call.couples_argument_bind (fun watermark bound => ?_) weaker
  have bounded : revision ≤ i64Max := by
    obtain ⟨rfl, bounded⟩ := i64TryFrom_eq_some.1 converted
    exact bounded
  have mirrored : ∀ {store : SqliteStore}, Tenanted store → AssetMine snapshot store →
      Mirrors snapshot.tenantId store
        (SqliteStore.insertSitePolicy
          (snapshotRow snapshot revision createdAt.unixTimestamp watermark) store)
        ((tenantRows snapshot.tenantId store).insertSitePolicy
          (snapshotRow snapshot revision createdAt.unixTimestamp watermark)) := by
    intro store tenanted asset
    refine insertSitePolicy_rows tenanted rfl bounded fun mark marked upload stored named => ?_
    obtain ⟨requested, asked, pinned⟩ := boundWatermark_asset bound marked
    exact asset requested asked upload stored (named.trans pinned)
  refine Call.couples_autocommit (fun s s' publishing => ?_) weaker
  have mirrors := mirrored publishing.abreast.tenanted publishing.asset
  rw [publishing.abreast.same] at mirrors
  exact alike_of_mirrors publishing.abreast mirrors
    (mirrored publishing.abreast.tenanted' publishing.asset')

/-- **Comparing a policy with the one that is there.** -/
theorem couples_compareSnapshot {snapshot : SitePolicySnapshot} :
    (compareSnapshot snapshot).Couples (Abreast snapshot.tenantId b b')
      (Abreast snapshot.tenantId b b') := by
  unfold compareSnapshot
  refine Call.couples_okOr_bind (fun revision _ => ?_) fun _ _ => id
  exact Call.couples_readOr fun s s' abreast => by rw [abreast.revision]

/-! ## Reads -/

theorem couples_findActiveSitePolicy :
    (findActiveSitePolicy tenantId).Couples (Abreast tenantId b b') (Abreast tenantId b b') := by
  refine Call.couples_readOr fun s s' abreast => ?_
  have highest : s.maxRevision tenantId = s'.maxRevision tenantId :=
    congrArg TenantRows.maxRevision abreast.same
  simp only [highest, abreast.revision]

theorem couples_findSitePolicyRevision {revision : Nat} :
    (findSitePolicyRevision tenantId revision).Couples (Abreast tenantId b b')
      (Abreast tenantId b b') := by
  unfold findSitePolicyRevision
  refine Call.couples_okOr_bind (fun revision _ => ?_) fun _ _ => id
  refine Call.couples_readOr fun s s' abreast => ?_
  simp only [abreast.revision]

/-- **The status of an upload**, with its derivatives. -/
theorem couples_findStatus {uploadId : UploadId} :
    (findStatus tenantId uploadId).Couples (Abreast tenantId b b') (Abreast tenantId b b') := by
  refine Call.couples_readOr fun s s' abreast => ?_
  have rows : ownsUpload tenantId s uploadId = true →
      derivativeRows uploadId s = derivativeRows uploadId s' := by
    intro owned
    have picked : ∀ store : SqliteStore, ownsUpload tenantId store uploadId = true →
        store.derivatives.filter (fun row => row.uploadId == uploadId) =
          (tenantRows tenantId store).derivatives.filter fun row => row.uploadId == uploadId := by
      intro store owned
      refine filter_of_implies fun row named => ?_
      rw [show row.uploadId = uploadId by simpa using named]
      exact owned
    unfold derivativeRows
    rw [picked s owned, picked s' (abreast.owns.trans owned), abreast.same]
  rw [← abreast.found]
  cases there : s.uploads.find? (ownedUpload tenantId uploadId) with
  | none => rfl
  | some row =>
      have owned : ownsUpload tenantId s uploadId = true :=
        List.any_eq_true.2 ⟨row, List.mem_of_find?_eq_some there, List.find?_some there⟩
      dsimp only
      rw [rows owned]

/-! ## Every call of a tenant -/

/-- The tenant a call is made for. -/
def scope : Op → Option String
  | .findPolicyAsset tenantId .. | .findActiveSitePolicy tenantId
  | .findSitePolicyRevision tenantId .. | .findUpload tenantId .. | .isDeliveryAllowed tenantId ..
  | .markQuarantinedAndEnqueue _ tenantId .. | .markDeleted tenantId ..
  | .requestDeletion tenantId .. => some tenantId
  | .insertSnapshot snapshot _ | .compareSnapshot snapshot => some snapshot.tenantId
  | _ => none

/-- What the services see to before the call. -/
def Prepared (store : SqliteStore) : Op → Prop
  | .markQuarantinedAndEnqueue jobId .. => JobUnused jobId store
  | .insertSnapshot snapshot _ => AssetMine snapshot store
  | _ => True

/-- **Every call of a tenant sees and touches that tenant only.** -/
theorem couples_call {op : Op} (addressed : scope op = some tenantId) :
    op.call.Couples
      (fun s s' => Abreast tenantId b b' s s' ∧ Prepared s op ∧ Prepared s' op)
      (Abreast tenantId b b') := by
  have apart : ∀ {ε α : Type} {call : Call SqliteStore ε α},
      call.Couples (Abreast tenantId b b') (Abreast tenantId b b') →
      call.Couples (fun s s' => Abreast tenantId b b' s s' ∧ Prepared s op ∧ Prepared s' op)
        (Abreast tenantId b b') := fun couples => couples.weaken fun _ _ both => both.1
  cases op <;> cases addressed
  case findPolicyAsset =>
    exact apart (Call.couples_readOr fun s s' abreast => by simp only [abreast.found])
  case insertSnapshot =>
    exact couples_insertSnapshot.weaken fun _ _ both => ⟨both.1, both.2.1, both.2.2⟩
  case compareSnapshot => exact apart couples_compareSnapshot
  case findActiveSitePolicy => exact apart couples_findActiveSitePolicy
  case findSitePolicyRevision => exact apart couples_findSitePolicyRevision
  case findUpload =>
    exact apart (Call.couples_readOr fun s s' abreast => by simp only [abreast.found])
  case isDeliveryAllowed =>
    exact apart (Call.couples_read fun s s' abreast => by rw [abreast.found])
  case markQuarantinedAndEnqueue =>
    refine Call.couples_ensure_bind (fun _ => ?_) fun _ _ both => both.1
    refine Call.couples_okOr_bind (fun actualSize sized => ?_) fun _ _ both => both.1
    obtain ⟨rfl, -⟩ := i64TryFrom_eq_some.1 sized
    refine Call.couples_commit ?_ fun _ _ both => both.1
    exact fun s s' both => couples_quarantine (by omega) s s' ⟨both.1, both.2.1, both.2.2⟩
  case markDeleted => exact apart couples_markDeleted
  case requestDeletion => exact apart couples_requestDeletion

end Calls

/-! ## Runs -/

section Runs

variable {d : Deployment} {s t : SystemState} {label : SystemLabel}

/-- What a thread was told of an asset: it is an upload of the tenant it was looked up for. -/
def ToldAsset (d : Deployment) (s : SystemState) : Exchange Answer → Prop
  | ⟨.store (.findPolicyAsset tenantId uploadId), .ok (some _)⟩ =>
      Deployment.KnownUpload d s uploadId fun row => row.tenantId = tenantId
  | _ => True

/-- Tenants are kept apart: the store is tenanted, and publications know whose assets they pin. -/
structure Sheltered (d : Deployment) (s : SystemState) : Prop where
  recorded : d.Recorded s
  tenanted : Tenanted s.shared.store
  told : ∀ i exchange, exchange ∈ s.past i → ToldAsset d s exchange

theorem sheltered_initial (clock : OffsetDateTime) : Sheltered d (.initial (.fresh clock)) where
  recorded := Deployment.recorded_initial clock
  tenanted := ⟨migrated_integrity, migrated_kept, migrated_aggregated, fun _ member => by cases member⟩
  told := fun _ _ heard => by cases heard

/-- A publication names an asset of its tenant. -/
theorem Sheltered.asset (sheltered : Sheltered d s) (step : d.machine.Step s label t)
    {snapshot : SitePolicySnapshot} {createdAt : OffsetDateTime} {ok : Bool}
    (calls : Deployment.Calls label (.insertSnapshot snapshot createdAt) ok) :
    AssetMine snapshot s.shared.store := by
  obtain request | ⟨i, answer, call, rfl, -, called, rule, asks⟩ := Deployment.called_by step calls
  · cases request
  have keeps : SitePolicyService.Rule (s.past i) (.store (.insertSnapshot snapshot createdAt)) := by
    cases call with
    | publishPolicy => exact rule
    | _ => exact asks.elim
  intro watermark named upload stored same
  obtain ⟨candidate, -, -, heard⟩ := keeps watermark named
  exact (sheltered.told i _ heard).holds upload stored same

/-- The identifier of a job that is enqueued is new. -/
theorem Sheltered.unused (sheltered : Sheltered d s) (step : d.machine.Step s label t)
    {jobId : JobId} {tenantId : String} {uploadId : UploadId} {actualSizeBytes : Nat}
    {presetId : String} {now : OffsetDateTime} {ok : Bool}
    (calls : Deployment.Calls label
      (.markQuarantinedAndEnqueue jobId tenantId uploadId actualSizeBytes presetId now) ok) :
    JobUnused jobId s.shared.store := by
  obtain request | ⟨i, answer, call, rfl, -⟩ := Deployment.called_by step calls
  · cases request
  rintro job member rfl
  exact sheltered.recorded.fresh step (List.mem_singleton_self _)
    (sheltered.recorded.jobs job member)

theorem Sheltered.prepared (sheltered : Sheltered d s) (step : d.machine.Step s label t) {op : Op}
    {ok : Bool} (calls : Deployment.Calls label op ok) : Prepared s.shared.store op := by
  cases op
  case insertSnapshot => exact sheltered.asset step calls
  case markQuarantinedAndEnqueue => exact sheltered.unused step calls
  all_goals trivial

/-- A store call keeps the store tenanted. -/
theorem tenanted_answers {s t : SqliteStore} {op : Op} {ok : Bool} (tenanted : Tenanted s)
    (answers : Answers op s ok t) (prepared : Prepared s op) : Tenanted t := by
  have effect := answers.effect tenanted.integrity
  refine ⟨answers.integrity tenanted.integrity, answers.kept tenanted.integrity tenanted.kept,
    effect_aggregated effect tenanted.aggregated, ?_⟩
  by_cases publishes : Kind.policies ∈ op.kinds
  · cases answers with
    | refused => exact tenanted.assets
    | ran =>
        cases op <;> simp [Op.kinds] at publishes
        rename_i snapshot createdAt
        have inserts : (insertSnapshot snapshot createdAt).Couples (Publishing snapshot s s)
          (Abreast snapshot.tenantId s s) := couples_insertSnapshot
        obtain ⟨-, after⟩ := inserts s s
          ⟨⟨tenanted, tenanted, rfl, fun _ _ => rfl, fun _ _ => rfl⟩, prepared, prepared⟩
        exact after.tenanted.assets
  · exact effect_assets effect tenanted.assets publishes

/-- An asset that was found is a row of the tenant. -/
theorem findPolicyAsset_found {tenantId : String} {uploadId : UploadId}
    {candidate : PolicyAssetCandidate} {s t : SqliteStore}
    (ran : findPolicyAsset tenantId uploadId s = (.ok (some candidate), t)) :
    t = s ∧ ∃ row ∈ s.uploads, row.tenantId = tenantId ∧ row.id = uploadId := by
  unfold findPolicyAsset at ran
  rw [call_readOr_eq] at ran
  obtain ⟨found, rfl⟩ := Prod.mk.inj ran
  refine ⟨rfl, ?_⟩
  cases there : s.uploads.find? (ownedUpload tenantId uploadId) with
  | none =>
      rw [there] at found
      cases found
  | some row =>
      exact ⟨row, List.mem_of_find?_eq_some there, ownedUpload_iff.1 (List.find?_some there)⟩

theorem toldAsset_asked (sheltered : Sheltered d s) {i : Nat} {exchange : Exchange Answer}
    (step : d.machine.Step s (.asked i exchange) t) : ToldAsset d t exchange := by
  have recorded := sheltered.recorded.step step
  obtain ⟨call, next, asked⟩ := step.asked_cases
  obtain ⟨request, answer⟩ := exchange
  have answered : s.shared.Answers request answer t.shared := asked.answered
  unfold ToldAsset
  split
  · rename_i tenantId uploadId candidate same
    cases same
    obtain ⟨store', replies, moved⟩ := answered
    cases replies with
    | ran ran =>
        obtain ⟨rfl, row, stored, mine, rfl⟩ := findPolicyAsset_found ran
        refine .of_row recorded ?_ mine
        rw [moved]
        exact stored
  · trivial

theorem Sheltered.step (sheltered : Sheltered d s) (step : d.machine.Step s label t) :
    Sheltered d t where
  recorded := sheltered.recorded.step step
  tenanted := by
    obtain same | ⟨op, ok, calls, answers⟩ := Deployment.store_cases step
    · rw [same]
      exact sheltered.tenanted
    · exact tenanted_answers sheltered.tenanted answers (sheltered.prepared step calls)
  told := by
    refine step.learns sheltered.told (fun exchange told => ?_) fun _ _ same => ?_
    · unfold ToldAsset at told ⊢
      split at told
      · exact told.step sheltered.recorded step fun before after evolves mine =>
          (congrArg UploadReserved.tenantId evolves.reserved).trans mine
      · trivial
    · subst same
      exact toldAsset_asked sheltered step

theorem run_sheltered {labels : List SystemLabel} (run : d.Runs labels s) : Sheltered d s := by
  obtain ⟨clock, run⟩ := run
  exact run.keeps (fun _ _ _ step sheltered => sheltered.step step) (sheltered_initial clock)

/-- A call for the tenant answers the same over both stores and leaves the same of the tenant, and
what it finds of the others it leaves. -/
structure Isolated (tenantId : String) (op : Op) (s s' : SqliteStore) : Prop where
  answer : (op.call s).1 = (op.call s').1
  mine : tenantRows tenantId (op.call s).2 = tenantRows tenantId (op.call s').2
  others : ∀ other, other ≠ tenantId → tenantRows other (op.call s).2 = tenantRows other s
  status : ∀ uploadId,
    (findStatus tenantId uploadId s).1 = (findStatus tenantId uploadId s').1

/-- **Tenants do not interfere.**  Take two runs of the system, of any deployments, that come to
hold the same rows of a tenant, and in both of which the same call for that tenant is made next:
whatever the other tenants have done and hold, and whatever identifiers the call names, it gives
one answer, leaves the same rows of the tenant, and leaves every other tenant's rows as they are.
The status of every upload of the tenant reads the same, too. -/
theorem tenants_isolated {d' : Deployment} {labels labels' : List SystemLabel}
    {s' t' : SystemState} {label' : SystemLabel} {op : Op} {ok ok' : Bool} {tenantId : String}
    (run : d.Runs labels s) (step : d.machine.Step s label t)
    (calls : Deployment.Calls label op ok) (run' : d'.Runs labels' s')
    (step' : d'.machine.Step s' label' t') (calls' : Deployment.Calls label' op ok')
    (addressed : scope op = some tenantId)
    (same : tenantRows tenantId s.shared.store = tenantRows tenantId s'.shared.store) :
    Isolated tenantId op s.shared.store s'.shared.store := by
  have sheltered := run_sheltered run
  have sheltered' := run_sheltered run'
  have abreast : Abreast tenantId s.shared.store s'.shared.store s.shared.store s'.shared.store :=
    ⟨sheltered.tenanted, sheltered'.tenanted, same, fun _ _ => rfl, fun _ _ => rfl⟩
  obtain ⟨answer, after⟩ := couples_call addressed s.shared.store s'.shared.store
    ⟨abreast, sheltered.prepared step calls, sheltered'.prepared step' calls'⟩
  exact ⟨answer, after.same, after.others, fun uploadId =>
    (couples_findStatus s.shared.store s'.shared.store abreast).1⟩

/-- The request for a deletion is a step from everywhere. -/
theorem requestDeletion_steps (d : Deployment) (s : SystemState) (tenantId : String)
    (uploadId : UploadId) (now : OffsetDateTime) :
    ∃ t, d.machine.Step s (.moved (.called (.requestDeletion tenantId uploadId now))) t :=
  ⟨_, .moved ⟨rfl, _, _, Replies.self _ _, rfl⟩⟩

/-- A tenant asks for the deletion of another one's upload: it is told what it would be told if
there were no such upload. -/
theorem tenants_isolated_foreign : ∃ labels, ∃ s : SystemState, sampleDeployment.Runs labels s ∧
    s.shared.store.uploads ≠ [] ∧
      Isolated "g7" (.requestDeletion "g7" rehearsedUpload (sampleTime 60)) s.shared.store .migrated := by
  have played : ((sampleDeployment.rehearsal 1000000000).play (fun _ _ => true)
      (.fresh (sampleTime 0)) reserveImage).any (fun s : SystemState =>
        !s.shared.store.uploads.isEmpty &&
          decide (tenantRows "g7" s.shared.store = tenantRows "g7" .migrated)) = true := by
    decide +kernel
  obtain ⟨labels, s, run, reserved⟩ := Deployment.rehearsed played
  rw [Bool.and_eq_true, Bool.not_eq_true', List.isEmpty_eq_false_iff, decide_eq_true_eq] at reserved
  obtain ⟨t, step⟩ :=
    requestDeletion_steps sampleDeployment s "g7" rehearsedUpload (sampleTime 60)
  obtain ⟨t', step'⟩ := requestDeletion_steps sampleDeployment (.initial (.fresh (sampleTime 0)))
    "g7" rehearsedUpload (sampleTime 60)
  exact ⟨labels, s, run.unguarded, reserved.1, tenants_isolated run.unguarded step
    (@Deployment.Calls.called _ true rfl) ⟨sampleTime 0, .nil _⟩ step'
    (@Deployment.Calls.called _ true rfl) rfl reserved.2⟩

end Runs

end MediaBooster.Tenancy
