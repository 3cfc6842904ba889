/-
# Policies.Answers -- what a publication answers, and what is stored then

A publication that is accepted answers with the snapshot it built from its request.  The store
has a row of that revision then: the snapshot's own where the `INSERT` reached a row, and the one
that the `SELECT` after it found where the answer is `Unchanged`.  Others may have stored that row
between the two statements, and the comparison is of the digests only.

* `returned_policy_stored`: the returned snapshot is the stored one exactly where the `INSERT`
  found its revision to be the next one, or the `SELECT` found a row with the same second of
  issuance and the same settings.
* `settings_hash_injective`: settings are told apart by what their digest is taken of, so that,
  short of a collision, `Unchanged` is answered to the stored settings only.
-/
import MediaBooster.Policies.Log
import MediaBooster.Policies.Settings
import MediaBooster.Service.Histories.Policies
import MediaBooster.Service.Rehearsal

namespace MediaBooster.Policies

set_option autoImplicit false

open MediaBooster.Domain MediaBooster.Service MediaBooster.Store MediaBooster.Theory.Run
open MediaBooster.Theory.Threads MediaBooster.Theory.Transaction

/-! ## What a publication builds -/

/-- The settings a publication makes of its request and of what it has heard: none, or the asset
it looked up for its tenant. -/
inductive Pins (request : PublishSitePolicy) : History → Option StoredWatermarkPolicy → Prop
  | disabled {past : History} (unmarked : request.watermark = none) : Pins request past none
  | enabled {requested : RequestedWatermarkPolicy} {candidate : PolicyAssetCandidate}
      {watermark : StoredWatermarkPolicy} {later : History}
      (marked : request.watermark = some requested)
      (bounded : validateWatermarkSettings requested = .ok ())
      (valid : validateAsset candidate requested = .ok watermark) :
      Pins request (⟨.store (.findPolicyAsset request.tenantId requested.assetUploadId),
        .ok (some candidate)⟩ :: later) (some watermark)

theorem Pins.append {request : PublishSitePolicy} {past : History}
    {watermark : Option StoredWatermarkPolicy} (pins : Pins request past watermark)
    (more : History) : Pins request (past ++ more) watermark := by
  cases pins with
  | disabled unmarked => exact .disabled unmarked
  | enabled marked bounded valid => exact .enabled marked bounded valid

theorem Pins.unique {request : PublishSitePolicy} {past : History}
    {a b : Option StoredWatermarkPolicy} (pins : Pins request past a)
    (pins' : Pins request past b) : a = b := by
  cases pins with
  | disabled unmarked =>
      cases pins' with
      | disabled => rfl
      | enabled marked => cases unmarked.symm.trans marked
  | @enabled requested candidate _ _ marked bounded valid =>
      generalize shape : (_ :: _ : History) = past at pins'
      cases pins' with
      | disabled unmarked => cases unmarked.symm.trans marked
      | enabled marked' bounded' valid' =>
          obtain rfl := Option.some.inj (marked.symm.trans marked')
          obtain ⟨heard, -⟩ := List.cons.inj shape
          cases heard
          exact congrArg some (Except.ok.inj (valid.symm.trans valid'))

/-- Settings that were pinned came out of `validate_asset`. -/
theorem Pins.produced {request : PublishSitePolicy} {past : History}
    {watermark : Option StoredWatermarkPolicy} (pins : Pins request past watermark) :
    Produced watermark := by
  cases pins with
  | disabled => exact .absent
  | @enabled requested _ _ _ marked bounded valid =>
      refine .validated ?_ valid
      unfold validateWatermarkSettings at bounded
      split at bounded
      · cases bounded
      · rename_i within
        simp only [not_or, Nat.not_lt] at within
        constructor <;> omega

/-- The snapshot is the one a publication builds of its request. -/
structure Builds (service : SitePolicyService) (request : PublishSitePolicy) (past : History)
    (snapshot : SitePolicySnapshot) : Prop where
  tenantId : snapshot.tenantId = request.tenantId
  schemaVersion : snapshot.schemaVersion = sitePolicySchemaVersion
  revision : snapshot.revision = request.revision
  issuedAt : snapshot.issuedAt = request.issuedAt
  settings : snapshot.settingsSha256 = service.normalizedSettingsSha256 snapshot.watermark
  pinned : Pins request past snapshot.watermark

theorem Builds.append {service : SitePolicyService} {request : PublishSitePolicy} {past : History}
    {snapshot : SitePolicySnapshot} (builds : Builds service request past snapshot)
    (more : History) : Builds service request (past ++ more) snapshot :=
  { builds with pinned := builds.pinned.append more }

/-- A publication stores what it builds, and compares it with what is stored. -/
def BuildRule (service : SitePolicyService) (request : PublishSitePolicy) (past : History) :
    Ask → Prop
  | .store (.insertSnapshot snapshot _) => Builds service request past snapshot
  | .store (.compareSnapshot snapshot) => Builds service request past snapshot
  | _ => True

/-- A publication that is accepted returns what it asked the store to publish. -/
def Accepted (past : History)
    (result : Except PublishSitePolicyError (SitePolicySnapshot × PublishPolicyOutcome)) : Prop :=
  ∀ snapshot outcome, result = .ok (snapshot, outcome) →
    SitePolicyService.Told snapshot past outcome

theorem validateSnapshotEnvelope_ok {request : PublishSitePolicy} {readAt : OffsetDateTime}
    {skew : Nat} (valid : validateSnapshotEnvelope request readAt skew = .ok ()) :
    request.schemaVersion = sitePolicySchemaVersion := by
  simp only [validateSnapshotEnvelope] at valid
  split at valid
  · cases valid
  split at valid
  · cases valid
  · rename_i sound
    simp only [not_or, not_not] at sound
    exact sound.1

theorem accepted_error {past : History} {error : PublishSitePolicyError} :
    Accepted past (.error error) := by
  rintro snapshot outcome ⟨⟩

theorem follows_pinWatermark_pins (service : SitePolicyService) (request : PublishSitePolicy) :
    (SitePolicyService.pinWatermark request.tenantId request.watermark).Follows
      (BuildRule service request) (fun past result => ∀ watermark, result = .ok watermark →
        Pins request past watermark) [] := by
  cases marked : request.watermark with
  | none =>
      rintro watermark ⟨⟩
      exact .disabled marked
  | some requested =>
      refine Attempt.follows_ofExcept (fun _ bounded => ?_) fun _ _ _ failed => by cases failed
      refine follows_call trivial (fun found => ?_) fun _ _ failed => by cases failed
      refine Attempt.follows_okOr (fun candidate there => ?_) fun _ _ failed => by cases failed
      refine Attempt.follows_ofExcept (fun stored valid => ?_) fun _ _ _ failed => by cases failed
      rintro watermark ⟨⟩
      rw [there]
      exact .enabled marked bounded valid

/-- The end of a publication, which returns the snapshot it has built. -/
theorem follows_publication {service : SitePolicyService} {request : PublishSitePolicy}
    {past : History} {snapshot : SitePolicySnapshot}
    (builds : Builds service request past snapshot) :
    (Attempt.mapError publishError (SitePolicyService.publishSitePolicy snapshot) >>= fun outcome =>
      pure (snapshot, outcome)).Follows (BuildRule service request) Accepted past := by
  refine Attempt.follows_bind (Q := fun past result => ∀ outcome, result = .ok outcome →
    SitePolicyService.Told snapshot past outcome) ?_ ?_ fun _ _ _ => accepted_error
  · refine Attempt.follows_mapError (Attempt.Follows.weaken
      (SitePolicyService.follows_publishSitePolicy trivial (fun createdAt => builds.append _)
        fun more => builds.append more) ?_)
    intro past' result told outcome accepted
    cases result with
    | ok => exact told outcome (by cases accepted; rfl)
    | error => cases accepted
  · rintro past' outcome told snapshot other ⟨⟩
    exact told outcome rfl

/-- **What a publication stores, and what it returns.** -/
theorem follows_publish_builds (service : SitePolicyService) (request : PublishSitePolicy)
    (readAt : OffsetDateTime) :
    (service.publish request readAt).Follows (BuildRule service request) Accepted [] := by
  unfold SitePolicyService.publish
  refine Attempt.follows_ofExcept (fun _ envelope => ?_) fun _ _ => accepted_error
  have version := validateSnapshotEnvelope_ok envelope
  refine Attempt.follows_bind (follows_pinWatermark_pins service request) ?_ fun _ _ _ =>
    accepted_error
  intro past watermark pins
  exact follows_publication ⟨rfl, version, rfl, rfl, rfl, pins watermark rfl⟩

/-! ## Reading back what was bound -/

theorem storedWatermark_eq {mark : WatermarkColumns}
    {byteLen marginPx maxWidthPercent opacityPercent : Nat}
    (length : u64TryFrom mark.byteLen = some byteLen)
    (margin : u32TryFrom mark.marginPx = some marginPx)
    (width : u8TryFrom mark.maxWidthPercent = some maxWidthPercent)
    (opaqueness : u8TryFrom mark.opacityPercent = some opacityPercent) :
    storedWatermark mark = .ok ⟨mark.uploadId, mark.objectKey, byteLen, mark.sha256, mark.position,
      marginPx, maxWidthPercent, opacityPercent⟩ := by
  unfold storedWatermark
  rw [length, margin, width, opaqueness]

theorem storedWatermark_columns {watermark : StoredWatermarkPolicy} (fits : Encodable watermark) :
    storedWatermark (watermarkColumns watermark watermark.byteLen) = .ok watermark :=
  storedWatermark_eq (u64TryFrom_eq_some.2 ⟨rfl, fits.byteLen⟩)
    (u32TryFrom_eq_some.2 ⟨rfl, fits.marginPx⟩) (u8TryFrom_eq_some.2 ⟨rfl, fits.maxWidthPercent⟩)
    (u8TryFrom_eq_some.2 ⟨rfl, fits.opacityPercent⟩)

/-- Produced settings are read back from the columns bound for them. -/
theorem storedWatermarkOption_bound {settings : Option StoredWatermarkPolicy}
    {columns : Option WatermarkColumns} (produced : Produced settings)
    (bound : boundWatermark settings = .ok columns) :
    storedWatermarkOption columns = .ok settings := by
  unfold boundWatermark at bound
  split at bound
  · cases bound
    rfl
  · rename_i watermark
    split at bound
    · cases bound
    · rename_i byteLen converted
      cases bound
      obtain ⟨rfl, -⟩ := i64TryFrom_eq_some.1 converted
      rw [storedWatermarkOption, storedWatermark_columns produced.encodable]
      rfl

/-! ## What is stored in a run -/

/-- The row carries the digest of the settings in its columns. -/
def Settled (service : SitePolicyService) (row : SitePolicyRow) : Prop :=
  ∃ settings, Produced settings ∧ boundWatermark settings = .ok row.watermark ∧
    row.settingsSha256 = service.normalizedSettingsSha256 settings

/-- Every policy of the store was published by the service. -/
structure PoliciesStored (service : SitePolicyService) (store : SqliteStore) : Prop where
  integrity : store.Integrity
  logged : Logged store
  settled : ∀ row ∈ store.sitePolicySnapshots, Settled service row

theorem PoliciesStored.migrated (service : SitePolicyService) :
    PoliciesStored service .migrated where
  integrity := migrated_integrity
  logged := by
    constructor
    · intro tenantId
      rfl
    · intro row member
      cases member
  settled row member := by cases member

section Runs

variable {d : Deployment} {s t u : SystemState} {label : SystemLabel} {labels : List SystemLabel}
variable {i : Nat}

/-- What a call of the deployment stores as a policy. -/
def CallRule (d : Deployment) : ServiceCall → History → Ask → Prop
  | .publishPolicy request _ => BuildRule d.policies request
  | _ => fun _ _ => True

theorem follows_callRule (d : Deployment) (call : ServiceCall) :
    Follows (CallRule d call) (fun _ _ => True) [] (d.program call) := by
  cases call with
  | publishPolicy request readAt =>
      apply follows_discard
      exact Attempt.Follows.weaken (follows_publish_builds d.policies request readAt)
        fun _ _ _ => trivial
  | _ => exact (follows_traced _ []).weaken fun _ _ _ => trivial

/-- A snapshot is inserted by a publication, and is what it builds. -/
theorem publication_builds {snapshot : SitePolicySnapshot} {createdAt : OffsetDateTime}
    {answer : Except SitePolicyRepositoryError Nat}
    (step : d.machine.Step s (.asked i ⟨.store (.insertSnapshot snapshot createdAt), answer⟩) t) :
    ∃ request readAt, s.call i = some (.publishPolicy request readAt) ∧
      Builds d.policies request (s.past i) snapshot := by
  have both := fun call => (follows_callRule d call).restrict (Deployment.only_program call)
  obtain ⟨call, called, rule, asks⟩ := step.obeys both
  cases call with
  | publishPolicy request readAt => exact ⟨request, readAt, called, rule⟩
  | _ => exact asks.elim

/-- A snapshot is compared by a publication, and is what it builds. -/
theorem comparison_builds {snapshot : SitePolicySnapshot}
    {answer : Except SitePolicyRepositoryError PublishPolicyOutcome}
    (step : d.machine.Step s (.asked i ⟨.store (.compareSnapshot snapshot), answer⟩) t) :
    ∃ request readAt, s.call i = some (.publishPolicy request readAt) ∧
      Builds d.policies request (s.past i) snapshot := by
  have both := fun call => (follows_callRule d call).restrict (Deployment.only_program call)
  obtain ⟨call, called, rule, asks⟩ := step.obeys both
  cases call with
  | publishPolicy request readAt => exact ⟨request, readAt, called, rule⟩
  | _ => exact asks.elim

/-- An exchange that succeeded is a call of the store. -/
theorem exchange_ran {op : Op} {result : op.Result}
    (step : d.machine.Step s (.asked i ⟨.store op, .ok result⟩) t) :
    op.call s.shared.store = (.ok result, t.shared.store) := by
  obtain ⟨call, next, asked⟩ := step.asked_cases
  obtain ⟨store', replies, moved⟩ := asked.answered
  rw [moved]
  cases replies with
  | ran answer => exact answer

/-- **Steps keep the stored policies**, and add at their end. -/
theorem PoliciesStored.step (stored : PoliciesStored d.policies s.shared.store)
    (step : d.machine.Step s label t) : PoliciesStored d.policies t.shared.store ∧
      s.shared.store.sitePolicySnapshots <+: t.shared.store.sitePolicySnapshots := by
  obtain same | ⟨op, ok, calls, answers⟩ := Deployment.store_cases step
  · rw [same]
    exact ⟨stored, List.prefix_refl _⟩
  have integrity := answers.integrity stored.integrity
  by_cases publishes : Kind.policies ∈ op.kinds
  · cases op <;> simp [Op.kinds] at publishes
    case insertSnapshot snapshot createdAt =>
      cases calls with
      | called request => cases request
      | asked =>
          obtain ⟨request, readAt, -, builds⟩ := publication_builds step
          obtain same | ran := answers_ran answers
          · rw [same]
            exact ⟨stored, List.prefix_refl _⟩
          have inserts : insertSnapshot snapshot createdAt s.shared.store =
              ((insertSnapshot snapshot createdAt s.shared.store).1, t.shared.store) :=
            Prod.ext rfl ran.symm
          obtain ⟨logged, grown⟩ := insertSnapshot_keeps stored.logged inserts
          refine ⟨⟨integrity, logged, fun row member => ?_⟩, grown⟩
          obtain same | ⟨columns, -, bound, -, -, appended⟩ := insertSnapshot_logs inserts
          · rw [same.1] at member
            exact stored.settled row member
          · rw [appended] at member
            obtain old | new := List.mem_append.1 member
            · exact stored.settled row old
            · rw [List.mem_singleton.1 new]
              exact ⟨snapshot.watermark, builds.pinned.produced, bound, builds.settings⟩
  · have same := (answers.effect stored.integrity).policies_same publishes
    rw [← same]
    refine ⟨⟨integrity, stored.logged.of_same same, ?_⟩, List.prefix_refl _⟩
    rw [same]
    exact stored.settled

theorem run_policiesStored (run : d.Runs labels s) : PoliciesStored d.policies s.shared.store := by
  obtain ⟨clock, run⟩ := run
  exact run.keeps (P := fun s => PoliciesStored d.policies s.shared.store)
    (fun _ _ _ step stored => (stored.step step).1) (.migrated _)

/-- What is stored in a run stays stored. -/
theorem PoliciesStored.run (run : Trace d.machine.Step s labels t)
    (stored : PoliciesStored d.policies s.shared.store) :
    PoliciesStored d.policies t.shared.store ∧
      s.shared.store.sitePolicySnapshots <+: t.shared.store.sitePolicySnapshots := by
  induction run with
  | nil => exact ⟨stored, List.prefix_refl _⟩
  | cons step rest ih =>
      obtain ⟨kept, grown⟩ := stored.step step
      obtain ⟨last, more⟩ := ih kept
      exact ⟨last, grown.trans more⟩

/-! ## What is returned -/

/-- The snapshots agree in every field, their instants of issuance to the second. -/
structure Agrees (returned stored : SitePolicySnapshot) : Prop where
  tenantId : returned.tenantId = stored.tenantId
  schemaVersion : returned.schemaVersion = stored.schemaVersion
  revision : returned.revision = stored.revision
  issuedAt : returned.issuedAt.unixTimestamp = stored.issuedAt.unixTimestamp
  settingsSha256 : returned.settingsSha256 = stored.settingsSha256
  watermark : returned.watermark = stored.watermark

/-- The row is the one the publication would store: it has the second of issuance of the request,
and the settings the request pins. -/
def StoredAlike (request : PublishSitePolicy) (past : History) (row : SitePolicyRow) : Prop :=
  row.issuedAt = request.issuedAt.unixTimestamp ∧
    ∃ watermark, Pins request past watermark ∧ boundWatermark watermark = .ok row.watermark

/-- A row of the snapshot's revision, which carries the snapshot's digest. -/
structure RowOf (snapshot : SitePolicySnapshot) (row : SitePolicyRow) : Prop where
  tenantId : row.tenantId = snapshot.tenantId
  revision : row.revision = snapshot.revision
  settings : row.settingsSha256 = snapshot.settingsSha256
  readable : Readable row

/-- **What a row is read back as, compared with a snapshot a publication built.** -/
theorem RowOf.agrees_iff {service : SitePolicyService} {request : PublishSitePolicy}
    {past : History} {snapshot policy : SitePolicySnapshot} {row : SitePolicyRow}
    (rowOf : RowOf snapshot row) (settled : Settled service row)
    (builds : Builds service request past snapshot) (read : sitePolicyFromRow row = .ok policy) :
    Agrees snapshot policy ↔ StoredAlike request past row := by
  obtain ⟨tenantId, version, revision, issuedAt, digest, marked⟩ := sitePolicyFromRow_fields read
  constructor
  · intro agrees
    refine ⟨?_, snapshot.watermark, builds.pinned, ?_⟩
    · rw [← issuedAt, ← agrees.issuedAt, builds.issuedAt]
    · obtain ⟨settings, produced, bound, -⟩ := settled
      rw [storedWatermarkOption_bound produced bound] at marked
      rw [agrees.watermark, ← Except.ok.inj marked]
      exact bound
  · rintro ⟨second, watermark, pins, bound⟩
    rw [pins.unique builds.pinned] at bound
    have checked := rowOf.readable.checked
    simp only [sitePolicyChecks, Bool.and_eq_true, decide_eq_true_eq] at checked
    obtain ⟨⟨⟨-, schema⟩, -⟩, -⟩ := checked
    constructor
    · rw [tenantId, rowOf.tenantId]
    · have current : snapshot.schemaVersion = 1 := builds.schemaVersion
      omega
    · have same := rowOf.revision
      omega
    · rw [builds.issuedAt, issuedAt, second]
    · rw [digest, rowOf.settings]
    · rw [storedWatermarkOption_bound builds.pinned.produced bound] at marked
      exact Except.ok.inj marked

/-- A stored row is what `find_site_policy_revision` reads. -/
theorem findSitePolicyRevision_stored {tenantId : String} {revision : Nat} {row : SitePolicyRow}
    {store : SqliteStore} {policy : SitePolicySnapshot} (bounded : (revision : Int) ≤ i64Max)
    (found : store.policyRevision tenantId revision = some row)
    (read : sitePolicyFromRow row = .ok policy) :
    findSitePolicyRevision tenantId revision store = (.ok (some policy), store) := by
  have converted : i64TryFrom revision = some (revision : Int) :=
    i64TryFrom_eq_some.2 ⟨rfl, bounded⟩
  refine call_bind_eq_ok.2 ⟨revision, store, call_okOr_eq_ok.2 ⟨converted, rfl⟩, ?_⟩
  rw [call_readOr_eq, found]
  show ((sitePolicyFromRow row).map some, store) = _
  rw [read]
  rfl

/-- The states before and after an exchange of the thread in the run. -/
def ExchangedBetween (d : Deployment) (labels : List SystemLabel) (u : SystemState) (i : Nat)
    (exchange : Exchange Answer) (s t : SystemState) : Prop :=
  ∃ earlier later, labels = earlier ++ .asked i exchange :: later ∧ d.Runs earlier s ∧
    Trace d.machine.Step t later u ∧ d.machine.Step s (.asked i exchange) t

theorem exchanged (run : d.Runs labels u) {exchange : Exchange Answer}
    (heard : exchange ∈ u.past i) : ∃ s t, ExchangedBetween d labels u i exchange s t := by
  obtain ⟨clock, run⟩ := run
  obtain none | ⟨earlier, later, s, t, same, first, step, last⟩ := heard_in_run run heard
  · cases none
  · exact ⟨s, t, earlier, later, same, ⟨clock, first⟩, last, step⟩

/-- The call of a thread is the one it was started with. -/
theorem ExchangedBetween.call {exchange : Exchange Answer} {call called : ServiceCall}
    (between : ExchangedBetween d labels u i exchange s t) (first : s.call i = some call)
    (last : u.call i = some called) : call = called := by
  obtain ⟨earlier, later, -, -, rest, step⟩ := between
  have kept : u.call i = some call := rest.keeps (P := fun s => s.call i = some call)
    (fun _ _ _ step known => step.call known) (step.call first)
  exact Option.some.inj (kept.symm.trans last)

/-- The row under the revision of a snapshot that was inserted. -/
theorem inserted_row {request : PublishSitePolicy} {snapshot : SitePolicySnapshot}
    {createdAt : OffsetDateTime} (stored : PoliciesStored d.policies s.shared.store)
    (step : d.machine.Step s
      (.asked i ⟨.store (.insertSnapshot snapshot createdAt), .ok (1 : Nat)⟩) t)
    (builds : Builds d.policies request (s.past i) snapshot) :
    (snapshot.revision : Int) = s.shared.store.nextRevision snapshot.tenantId ∧
      ∃ row, t.shared.store.policyRevision snapshot.tenantId snapshot.revision = some row ∧
        RowOf snapshot row ∧ StoredAlike request (s.past i) row := by
  obtain ⟨-, missed⟩ | ⟨columns, -, bound, next, readable, appended⟩ :=
    insertSnapshot_logs (exchange_ran step)
  · exact absurd rfl missed
  · refine ⟨next, snapshotRow snapshot snapshot.revision createdAt.unixTimestamp columns, ?_,
      ⟨rfl, rfl, rfl, readable⟩, ?_, _, builds.pinned, bound⟩
    · have position : (snapshotRow snapshot snapshot.revision createdAt.unixTimestamp columns).revision =
          s.shared.store.nextRevision
            (snapshotRow snapshot snapshot.revision createdAt.unixTimestamp columns).tenantId := next
      rw [appended]
      exact policyRevision_appended stored.logged position
    · rw [← builds.issuedAt]
      rfl

/-- The row under the revision of a snapshot that was compared. -/
theorem compared_row {snapshot : SitePolicySnapshot} {outcome : PublishPolicyOutcome}
    (stored : PoliciesStored d.policies s.shared.store)
    (step : d.machine.Step s (.asked i ⟨.store (.compareSnapshot snapshot), .ok outcome⟩) t) :
    outcome = .unchanged ∧ t.shared.store = s.shared.store ∧ ∃ row,
      s.shared.store.policyRevision snapshot.tenantId snapshot.revision = some row ∧
        RowOf snapshot row ∧ Settled d.policies row := by
  obtain ⟨unchanged, same, row, found, settings⟩ := compareSnapshot_accepts (exchange_ran step)
  have member := List.mem_of_find?_eq_some found
  have wanted := List.find?_some found
  rw [Bool.and_eq_true, beq_iff_eq, beq_iff_eq] at wanted
  exact ⟨unchanged, same, row, found,
    ⟨wanted.1, wanted.2, settings, stored.logged.readable row member⟩, stored.settled row member⟩

/-- A row that is stored after a step of the run is read back at its end. -/
theorem stored_read (run : Trace d.machine.Step t labels u)
    (stored : PoliciesStored d.policies t.shared.store) {snapshot : SitePolicySnapshot}
    {row : SitePolicyRow} (rowOf : RowOf snapshot row)
    (found : t.shared.store.policyRevision snapshot.tenantId snapshot.revision = some row) :
    ∃ policy, sitePolicyFromRow row = .ok policy ∧
      findSitePolicyRevision snapshot.tenantId snapshot.revision u.shared.store =
        (.ok (some policy), u.shared.store) := by
  obtain ⟨policy, read, -⟩ := rowOf.readable.read
  have bounded : (snapshot.revision : Int) ≤ i64Max := by
    rw [← rowOf.revision]
    exact rowOf.readable.bounded
  exact ⟨policy, read, findSitePolicyRevision_stored bounded
    (policyRevision_grown (stored.run run).2 found) read⟩

/-- What the store holds when the statements of the publication reach it: at its `INSERT`, which
the thread makes in the state `s`, its revision is the tenant's next one; or at its `SELECT` the
row of its revision is as the request would have it. -/
def HeldAlike (d : Deployment) (labels : List SystemLabel) (u : SystemState) (i : Nat)
    (request : PublishSitePolicy) (snapshot : SitePolicySnapshot) (s : SystemState) : Prop :=
  (request.revision : Int) = s.shared.store.nextRevision request.tenantId ∨
    ∃ s' t', ExchangedBetween d labels u i ⟨.store (.compareSnapshot snapshot), .ok .unchanged⟩ s' t' ∧
      ∀ row, s'.shared.store.policyRevision request.tenantId request.revision = some row →
        StoredAlike request (s'.past i) row

/-- Where a publication was answered `Unchanged`, what it returns is what is read from then on
exactly if its `SELECT` found the row as the request would have it. -/
theorem compared_agrees {request : PublishSitePolicy} {readAt : OffsetDateTime}
    {snapshot : SitePolicySnapshot} {outcome : PublishPolicyOutcome}
    (called : u.call i = some (.publishPolicy request readAt))
    (between : ExchangedBetween d labels u i ⟨.store (.compareSnapshot snapshot), .ok outcome⟩ s t) :
    outcome = .unchanged ∧ Builds d.policies request (s.past i) snapshot ∧ ∃ stored,
      findSitePolicyRevision snapshot.tenantId snapshot.revision u.shared.store =
        (.ok (some stored), u.shared.store) ∧
      (Agrees snapshot stored ↔ ∀ row,
        s.shared.store.policyRevision request.tenantId request.revision = some row →
          StoredAlike request (s.past i) row) := by
  obtain ⟨earlier, later, -, first, last, step⟩ := id between
  have before := run_policiesStored first
  obtain ⟨other, instant, known, builds⟩ := comparison_builds step
  cases between.call known called
  obtain ⟨rfl, same, row, found, rowOf, settled⟩ := compared_row before step
  have after : t.shared.store.policyRevision snapshot.tenantId snapshot.revision = some row := by
    rw [same]
    exact found
  obtain ⟨policy, read, answered⟩ := stored_read last (before.step step).1 rowOf after
  refine ⟨rfl, builds, policy, answered, ?_⟩
  rw [rowOf.agrees_iff settled builds read, ← builds.tenantId, ← builds.revision, found]
  exact ⟨fun alike _ same => Option.some.inj same ▸ alike, fun alike => alike row rfl⟩

/-- **The policy a publication returns is stored** exactly where the store inserts it, or holds it
alike when it is compared.  Whenever a publication has ended with a snapshot, it has made its
`INSERT`, and the store answers with a snapshot of its revision from then on; the two agree in
every field if and only if the revision was the next one at the `INSERT`, or the `SELECT` after it
found the row as the request would have it.  A snapshot that was published is always the stored
one. -/
theorem returned_policy_stored (run : d.Runs labels u) {request : PublishSitePolicy}
    {readAt : OffsetDateTime} {snapshot : SitePolicySnapshot} {outcome : PublishPolicyOutcome}
    (called : u.call i = some (.publishPolicy request readAt))
    (ended : At (d.policies.publish request readAt).attempt (u.past i)
      (.done (.ok (snapshot, outcome)))) :
    ∃ s t createdAt, ∃ inserted : Nat, ∃ stored,
      ExchangedBetween d labels u i
        ⟨.store (.insertSnapshot snapshot createdAt), .ok inserted⟩ s t ∧
      findSitePolicyRevision snapshot.tenantId snapshot.revision u.shared.store =
        (.ok (some stored), u.shared.store) ∧
      (Agrees snapshot stored ↔ HeldAlike d labels u i request snapshot s) ∧
      (outcome = .published → Agrees snapshot stored) := by
  have accepted : Accepted (u.past i) (.ok (snapshot, outcome)) :=
    (follows_publish_builds d.policies request readAt).at ended
  cases accepted snapshot outcome rfl with
  | @inserted createdAt inserts =>
      obtain ⟨s, t, between⟩ := exchanged run inserts
      obtain ⟨earlier, later, -, first, last, step⟩ := id between
      have before := run_policiesStored first
      obtain ⟨other, instant, known, builds⟩ := publication_builds step
      cases between.call known called
      obtain ⟨next, row, found, rowOf, alike⟩ := inserted_row before step builds
      have after := (before.step step).1
      obtain ⟨policy, read, answered⟩ := stored_read last after rowOf found
      have agrees : Agrees snapshot policy :=
        (rowOf.agrees_iff (after.settled row (List.mem_of_find?_eq_some found)) builds read).2 alike
      rw [builds.tenantId, builds.revision] at next
      exact ⟨s, t, createdAt, 1, policy, between, answered,
        ⟨fun _ => .inl next, fun _ => agrees⟩, fun _ => agrees⟩
  | @compared createdAt inserted _ missed inserts compares =>
      obtain ⟨s, t, between⟩ := exchanged run inserts
      obtain ⟨earlier, later, -, first, last, step⟩ := id between
      have before := run_policiesStored first
      obtain ⟨other, instant, known, builds⟩ := publication_builds step
      cases between.call known called
      have other := insertSnapshot_missed before.logged (exchange_ran step) missed
      obtain ⟨s', t', comparing⟩ := exchanged run compares
      obtain ⟨rfl, -, policy, answered, agrees⟩ := compared_agrees called comparing
      refine ⟨s, t, createdAt, inserted, policy, between, answered, ⟨fun same => ?_, ?_⟩, nofun⟩
      · exact .inr ⟨s', t', comparing, agrees.1 same⟩
      · rintro (next | ⟨s₁, t₁, comparing₁, alike⟩)
        · rw [← builds.tenantId, ← builds.revision] at next
          exact absurd next other
        · obtain ⟨-, -, policy₁, answered₁, agrees₁⟩ := compared_agrees called comparing₁
          rw [answered] at answered₁
          cases answered₁
          exact agrees₁.2 alike

/-! ## A replay -/

/-- The first revision of a site, without a watermark. -/
def firstPolicy (seconds : Nat) : PublishSitePolicy := ⟨"g5", 1, 1, sampleTime seconds, none⟩

/-- It is published, and published again one second later. -/
def replayedPolicy : List (Command ServiceCall Event) :=
  [.start (.publishPolicy (firstPolicy 0) (sampleTime 0)), .run 0 2,
    .start (.publishPolicy (firstPolicy 1) (sampleTime 1)), .run 1 3]

/-- What the second publication builds. -/
def replayedSnapshot : SitePolicySnapshot where
  tenantId := "g5"
  schemaVersion := 1
  revision := 1
  issuedAt := sampleTime 1
  settingsSha256 := sampleDeployment.policies.normalizedSettingsSha256 none
  watermark := none

/-- The exchanges are those of a publication that is answered `Unchanged`. -/
def unchangedPast (snapshot : SitePolicySnapshot) : History → Bool
  | [⟨.now, reading⟩, ⟨.store (.insertSnapshot inserted createdAt), .ok 0⟩,
      ⟨.store (.compareSnapshot compared), .ok .unchanged⟩] =>
      inserted == snapshot && reading == createdAt && compared == snapshot
  | _ => false

theorem unchangedPast_ended {d : Deployment} {request : PublishSitePolicy}
    {readAt : OffsetDateTime} {past : History} {snapshot : SitePolicySnapshot}
    (envelope : validateSnapshotEnvelope request readAt d.policies.maxIssuedAtSkewSeconds = .ok ())
    (unmarked : request.watermark = none)
    (built : snapshot = ⟨request.tenantId, request.schemaVersion, request.revision,
      request.issuedAt, d.policies.normalizedSettingsSha256 none, none⟩)
    (heard : unchangedPast snapshot past = true) :
    At (d.policies.publish request readAt).attempt past (.done (.ok (snapshot, .unchanged))) := by
  obtain ⟨next, asks, compares⟩ : ∃ next : OffsetDateTime → Except SitePolicyRepositoryError Nat →
      Program Answer (Except PublishSitePolicyError (SitePolicySnapshot × PublishPolicyOutcome)),
      (d.policies.publish request readAt).attempt = .ask .now (fun createdAt =>
        .ask (.store (.insertSnapshot snapshot createdAt)) (next createdAt)) ∧
      ∀ createdAt, next createdAt (.ok 0) = .ask (.store (.compareSnapshot snapshot)) fun answer =>
        .done ((answer.mapError publishError).map fun outcome => (snapshot, outcome)) := by
    unfold SitePolicyService.publish
    rw [envelope, unmarked, built]
    refine ⟨_, rfl, fun createdAt => ?_⟩
    show Program.ask _ _ = Program.ask _ _
    congr 1
    funext answer
    cases answer <;> rfl
  unfold unchangedPast at heard
  split at heard
  · rename_i reading inserted createdAt compared
    simp only [Bool.and_eq_true, beq_iff_eq] at heard
    obtain ⟨⟨rfl, rfl⟩, rfl⟩ := heard
    have ends : At (next reading (.ok 0)) [⟨.store (.compareSnapshot compared), .ok .unchanged⟩]
        (.done (.ok (compared, .unchanged))) := by
      rw [compares]
      exact at_ask.2 (.inr ⟨.ok .unchanged, [], rfl, .start⟩)
    rw [asks]
    exact at_ask.2 (.inr ⟨reading, _, rfl, at_ask.2 (.inr ⟨.ok (0 : Nat), _, rfl, ends⟩)⟩)
  · cases heard

/-- The call is the second publication. -/
def isReplay : Option ServiceCall → Bool
  | some (.publishPolicy request readAt) => request == firstPolicy 1 && readAt == sampleTime 1
  | _ => false

/-- The policy was issued at another second than the second publication. -/
def issuedApart : Except SitePolicyRepositoryError (Option SitePolicySnapshot) → Bool
  | .ok (some stored) => stored.issuedAt.unixTimestamp != (sampleTime 1).unixTimestamp
  | _ => false

/-- The replay has ended: it returns its own instant, and the store answers with the first one. -/
theorem replayedPolicy_ended : ∃ labels, ∃ u : SystemState, ∃ stored,
    sampleDeployment.Runs labels u ∧
      u.call 1 = some (.publishPolicy (firstPolicy 1) (sampleTime 1)) ∧
      At (sampleDeployment.policies.publish (firstPolicy 1) (sampleTime 1)).attempt (u.past 1)
        (.done (.ok (replayedSnapshot, .unchanged))) ∧
      (findSitePolicyRevision "g5" 1 u.shared.store).1 = .ok (some stored) ∧
      replayedSnapshot.issuedAt.unixTimestamp ≠ stored.issuedAt.unixTimestamp := by
  have played : ((sampleDeployment.rehearsal 1000000000).play (fun _ _ => true)
      (.fresh (sampleTime 0)) replayedPolicy).any (fun u : SystemState =>
        isReplay (u.call 1) && unchangedPast replayedSnapshot (u.past 1) &&
          issuedApart (findSitePolicyRevision "g5" 1 u.shared.store).1) = true := by
    decide +kernel
  obtain ⟨labels, u, run, holds⟩ := Deployment.rehearsed played
  simp only [Bool.and_eq_true] at holds
  obtain ⟨⟨replays, heard⟩, apart⟩ := holds
  have called : u.call 1 = some (.publishPolicy (firstPolicy 1) (sampleTime 1)) := by
    unfold isReplay at replays
    split at replays
    · rename_i request readAt called
      rw [Bool.and_eq_true, beq_iff_eq, beq_iff_eq] at replays
      rw [called, replays.1, replays.2]
    · cases replays
  have envelope : validateSnapshotEnvelope (firstPolicy 1) (sampleTime 1)
      sampleDeployment.policies.maxIssuedAtSkewSeconds = .ok () := by
    decide +kernel
  unfold issuedApart at apart
  split at apart
  · rename_i stored answered
    exact ⟨labels, u, stored, run.unguarded, called, unchangedPast_ended envelope rfl rfl heard,
      answered, fun same => bne_iff_ne.1 apart same.symm⟩
  · cases apart

/-- **A replay returns what is not stored.**  A revision is published, and published again with
the same settings a second later: the answer is `Unchanged`, with an instant of issuance that the
stored snapshot does not have. -/
theorem replay_not_stored : ∃ labels, ∃ u : SystemState, ∃ snapshot stored,
    sampleDeployment.Runs labels u ∧
      u.call 1 = some (.publishPolicy (firstPolicy 1) (sampleTime 1)) ∧
      At (sampleDeployment.policies.publish (firstPolicy 1) (sampleTime 1)).attempt (u.past 1)
        (.done (.ok (snapshot, .unchanged))) ∧
      (findSitePolicyRevision snapshot.tenantId snapshot.revision u.shared.store).1 =
        .ok (some stored) ∧
      ¬ Agrees snapshot stored := by
  obtain ⟨labels, u, stored, run, called, ended, found, apart⟩ := replayedPolicy_ended
  exact ⟨labels, u, _, stored, run, called, ended, found, fun agrees => apart agrees.issuedAt⟩

/-- The replay, where the row that is there was issued at another second. -/
theorem returned_policy_stored_sample : ∃ labels, ∃ s t u : SystemState, ∃ createdAt,
    ∃ inserted : Nat, ∃ stored,
    ExchangedBetween sampleDeployment labels u 1
        ⟨.store (.insertSnapshot replayedSnapshot createdAt), .ok inserted⟩ s t ∧
      findSitePolicyRevision replayedSnapshot.tenantId replayedSnapshot.revision u.shared.store =
        (.ok (some stored), u.shared.store) ∧
      (Agrees replayedSnapshot stored ↔
        HeldAlike sampleDeployment labels u 1 (firstPolicy 1) replayedSnapshot s) := by
  obtain ⟨labels, u, -, run, called, ended, -⟩ := replayedPolicy_ended
  obtain ⟨s, t, createdAt, inserted, stored, between, found, agrees, -⟩ :=
    returned_policy_stored run called ended
  exact ⟨labels, s, t, u, createdAt, inserted, stored, between, found, agrees⟩

end Runs

/-! ## The digest of the settings -/

/-- The deployment with the service's own digest of settings, over this SHA-256. -/
def hashing (d : Deployment) (sha256 : List UInt8 → Fin (2 ^ 256)) : Deployment :=
  { d with policies := ⟨d.policies.maxIssuedAtSkewSeconds, normalizedSettingsSha256 sha256⟩ }

/-- Two byte strings of one digest. -/
def Collide (sha256 : List UInt8 → Fin (2 ^ 256)) (a b : List UInt8) : Prop :=
  a ≠ b ∧ sha256 a = sha256 b

/-- Settled rows of one digest have the same settings, unless their pre-images collide. -/
theorem settings_of_digest {sha256 : List UInt8 → Fin (2 ^ 256)}
    {a b : Option StoredWatermarkPolicy} (produced : Produced a) (produced' : Produced b)
    (same : normalizedSettingsSha256 sha256 a = normalizedSettingsSha256 sha256 b)
    (apart : ¬ Collide sha256 (settingsPreimage a) (settingsPreimage b)) : a = b := by
  apply settingsPreimage_inj produced produced'
  by_contra differ
  exact apart ⟨differ, normalizedSettingsSha256_inj same⟩

/-- What the digest of the settings is worth in a deployment. -/
structure SettingsHash (d : Deployment) (sha256 : List UInt8 → Fin (2 ^ 256)) : Prop where
  /-- The bytes tell settings apart. -/
  injective : ∀ a b, Produced a → Produced b → (settingsPreimage a = settingsPreimage b ↔ a = b)
  /-- `Unchanged` is answered to a request for the stored settings, unless their bytes collide. -/
  unchanged : ∀ labels s i snapshot t, (hashing d sha256).Runs labels s →
    (hashing d sha256).machine.Step s
      (.asked i ⟨.store (.compareSnapshot snapshot), .ok .unchanged⟩) t →
    ∃ request readAt stored, s.call i = some (.publishPolicy request readAt) ∧
      Pins request (s.past i) snapshot.watermark ∧
      findSitePolicyRevision snapshot.tenantId snapshot.revision s.shared.store =
        (.ok (some stored), s.shared.store) ∧
      Produced stored.watermark ∧ stored.settingsSha256 = snapshot.settingsSha256 ∧
      (¬ Collide sha256 (settingsPreimage stored.watermark) (settingsPreimage snapshot.watermark) →
        stored.watermark = snapshot.watermark)

/-- **The settings digest is injective, short of a collision of SHA-256.**  For all settings that
are absent or come from `validate_asset`, the bytes fed to SHA-256 are the same if and only if the
settings are; so in every run an `Unchanged` answer says that the settings the request pins are
those stored at its revision, or that the two are a collision. -/
theorem settings_hash_injective (d : Deployment) (sha256 : List UInt8 → Fin (2 ^ 256)) :
    SettingsHash d sha256 := by
  refine ⟨fun a b produced produced' => ⟨settingsPreimage_inj produced produced', ?_⟩, ?_⟩
  · rintro rfl
    rfl
  intro labels s i snapshot t run step
  have before := run_policiesStored run
  obtain ⟨request, readAt, called, builds⟩ := comparison_builds step
  obtain ⟨-, -, row, found, rowOf, settled⟩ := compared_row before step
  obtain ⟨policy, read, answered⟩ := stored_read (.nil s) before rowOf found
  obtain ⟨-, -, -, -, digest, marked⟩ := sitePolicyFromRow_fields read
  obtain ⟨settings, produced, bound, hashed⟩ := settled
  rw [storedWatermarkOption_bound produced bound] at marked
  obtain rfl := Except.ok.inj marked
  refine ⟨request, readAt, policy, called, builds.pinned, answered, produced,
    digest.trans rowOf.settings, fun apart => ?_⟩
  refine settings_of_digest produced builds.pinned.produced ?_ apart
  exact (hashed.symm.trans rowOf.settings).trans builds.settings

end MediaBooster.Policies
