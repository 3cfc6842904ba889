/-
# Lifecycle.Pins -- assets a stored policy refers to

A stored revision pins its watermark: a referenced upload is refused deletion.  What pins it is
the row of the revision, and the service writes that row in a transaction of its own, after it
has looked the asset up and checked it.

* `pinned_assets_survive`: in every run in which each new revision finds its asset ready, without
  an accepted deletion and without a cleanup lease, no revision ever refers to an upload that is
  deleted or about to be, and no referenced upload is accepted for deletion or leased.
* `pinned_after_deletion`: a deletion accepted between the lookup and the publication is not
  noticed.
-/
import MediaBooster.Lifecycle.Cleanup
import MediaBooster.Service.Rehearsal

namespace MediaBooster.Lifecycle

set_option autoImplicit false

open MediaBooster.Domain MediaBooster.Service MediaBooster.Store MediaBooster.Theory.Run
open MediaBooster.Theory.Table MediaBooster.Theory.Threads MediaBooster.Theory.Transaction

/-! ## References -/

/-- A stored revision refers to the upload. -/
def RefersTo (store : SqliteStore) (uploadId : UploadId) : Prop :=
  ∃ policy ∈ store.sitePolicySnapshots, ∃ mark, policy.watermark = some mark ∧
    mark.uploadId = uploadId

/-- An asset a new revision can safely refer to. -/
structure SettledUpload (row : UploadRow) : Prop where
  ready : row.state = .ready
  unasked : row.deleteRequestedAt = none
  unleased : row.cleanupLeaseOwner = none

instance (row : UploadRow) : Decidable (SettledUpload row) :=
  decidable_of_iff
    (row.state = .ready ∧ row.deleteRequestedAt = none ∧ row.cleanupLeaseOwner = none)
    ⟨fun ⟨ready, unasked, unleased⟩ => ⟨ready, unasked, unleased⟩,
      fun settled => ⟨settled.ready, settled.unasked, settled.unleased⟩⟩

/-- Every upload a stored revision refers to is there and settled. -/
def PinsHold (store : SqliteStore) : Prop :=
  ∀ uploadId, RefersTo store uploadId → ∃ row ∈ store.uploads, row.id = uploadId ∧ SettledUpload row

/-- A snapshot that goes in as the next revision finds its asset settled. -/
def findsSettled (snapshot : SitePolicySnapshot) (store : SqliteStore) : Prop :=
  i64TryFrom snapshot.revision = some (store.nextRevision snapshot.tenantId) →
    ∀ watermark ∈ snapshot.watermark,
      ∀ row ∈ store.uploads, row.id = watermark.assetUploadId → SettledUpload row

instance (snapshot : SitePolicySnapshot) (store : SqliteStore) :
    Decidable (findsSettled snapshot store) := inferInstanceAs (Decidable (_ → _))

/-- Each new revision finds its asset settled when it is published. -/
def publishesSettled (s : SystemState) : SystemLabel → Bool
  | .asked _ ⟨.store (.insertSnapshot snapshot _), _⟩ =>
      decide (findsSettled snapshot s.shared.store)
  | _ => true

section Steps

variable {s t : SqliteStore}

theorem policyReferences_pos {uploadId : UploadId} (refers : RefersTo s uploadId) :
    s.policyReferences uploadId ≠ 0 := by
  obtain ⟨policy, member, mark, marked, same⟩ := refers
  unfold SqliteStore.policyReferences
  intro none
  have empty := List.length_eq_zero_iff.1 none
  have listed : policy ∈ s.sitePolicySnapshots.filter fun policy =>
      policy.watermark.any fun mark => mark.uploadId == uploadId :=
    List.mem_filter.2 ⟨member, by simp [marked, same]⟩
  rw [empty] at listed
  cases listed

/-- A settled upload that is referred to stays settled. -/
theorem settled_move {op : Op} {before after : UploadRow} (settled : SettledUpload before)
    (refers : RefersTo s before.id) (move : RowMove s op before after) : SettledUpload after := by
  obtain ⟨ready, unasked, unleased⟩ := settled
  cases move with
  | same => exact ⟨ready, unasked, unleased⟩
  | confirmed owned created => simp [ready] at created
  | aborted owned created => simp [ready] at created
  | requested owned unasked' deletable unreferenced =>
      have named := (ownedUpload_iff.1 owned).2
      rw [named] at refers
      exact absurd unreferenced (policyReferences_pos refers)
  | leased leaseUntil eligible =>
      obtain ⟨-, -, -, -, asked | ⟨created, -⟩ | ⟨rejected | failed, -⟩⟩ :=
        cleanupEligible_iff.1 eligible
      · simp [unasked] at asked
      · simp [ready] at created
      · simp [ready] at rejected
      · simp [ready] at failed
  | tombstoned leased => simp [(cleanupLeasedBy_iff.1 leased).2.2] at unleased
  | retried leased => simp [(cleanupLeasedBy_iff.1 leased).2.2] at unleased
  | started startable =>
      have quarantined := (startable_iff.1 startable).2
      simp [ready] at quarantined
  | published named processing => simp [ready] at processing
  | rejected rejectable =>
      obtain quarantined | processing := (rejectable_iff.1 rejectable).2
      · simp [ready] at quarantined
      · simp [ready] at processing

/-- A publication keeps the pins, where it finds its own asset settled. -/
theorem pins_publish {snapshot : SitePolicySnapshot} {createdAt : OffsetDateTime}
    {result : Except SitePolicyRepositoryError Nat} (pins : PinsHold s)
    (ran : insertSnapshot snapshot createdAt s = (result, t)) (finds : findsSettled snapshot s) :
    PinsHold t := by
  obtain rfl | ⟨revision, createdAt, watermark, converted, next, bound, referenced, rfl⟩ :=
    insertSnapshot_cases ran
  · exact pins
  rintro uploadId ⟨policy, member, mark, marked, same⟩
  obtain old | new := List.mem_append.1 member
  · exact pins uploadId ⟨policy, old, mark, marked, same⟩
  · rw [List.mem_singleton.1 new] at marked
    obtain ⟨upload, there, named⟩ := referenced mark marked
    refine ⟨upload, there, named.trans same, ?_⟩
    unfold boundWatermark at bound
    split at bound
    · cases bound
      cases marked
    · rename_i requested asked
      split at bound
      · cases bound
      · cases bound
        cases marked
        exact finds (converted.trans (congrArg some next)) requested asked upload there named

/-- Every operation keeps the pins, where a publication finds its asset settled. -/
theorem pins_step {op : Op} {ok : Bool} (integrity : s.Integrity) (pins : PinsHold s)
    (answers : Answers op s ok t)
    (finds : ∀ snapshot createdAt, op = .insertSnapshot snapshot createdAt →
      findsSettled snapshot s) : PinsHold t := by
  by_cases publishes : Kind.policies ∈ op.kinds
  · cases answers with
    | refused => exact pins
    | ran =>
        cases op <;> simp [Op.kinds] at publishes
        exact pins_publish pins rfl (finds _ _ rfl)
  · have kept := (answers.effect integrity).policies_same publishes
    rintro uploadId ⟨policy, member, refers⟩
    rw [kept] at member
    have referred : RefersTo s uploadId := ⟨policy, member, refers⟩
    obtain ⟨before, there, rfl, settled⟩ := pins uploadId referred
    by_cases gone : ∀ after ∈ t.uploads, after.id ≠ before.id
    · have deleted := (answers.advances integrity).removed before there gone
      simp [settled.ready] at deleted
    · push Not at gone
      obtain ⟨after, there', same⟩ := gone
      exact ⟨after, there', same,
        settled_move settled referred (answers.rowMove integrity there there' same)⟩

/-- The deletion of a pinned upload is refused. -/
theorem pinned_refused {tenantId : String} {uploadId : UploadId} {now : OffsetDateTime}
    {result : Except DeletionRequestError DeletionRequestOutcome} (integrity : s.Integrity)
    (pins : PinsHold s) (referred : RefersTo s uploadId)
    (replies : Replies (requestDeletion tenantId uploadId now) s result t) :
    ∃ error, result = .error error := by
  cases replies with
  | refused error => exact ⟨error, rfl⟩
  | ran ran =>
      cases result with
      | error error => exact ⟨error, rfl⟩
      | ok outcome =>
          obtain ⟨row, there, named, settled⟩ := pins uploadId referred
          rw [requestDeletion, commit_eq_ok] at ran
          simp only [deletionTransaction, bind_eq_ok, select_eq_ok, okOr_eq_ok] at ran
          obtain ⟨_, _, ⟨rfl, rfl⟩, found, _, ⟨owned, rfl⟩, ran⟩ := ran
          have same : found = row := by
            refine integrity.uploadIds.eq_of_key (List.mem_of_find?_eq_some owned) there ?_
            exact (ownedUpload_iff.1 (List.find?_some owned)).2.trans named.symm
          subst same
          rw [if_neg (by simp [settled.ready]), if_neg (by simp [settled.unasked])] at ran
          simp only [recordDeletion, bind_eq_ok, ensure_eq_ok, select_eq_ok] at ran
          obtain ⟨_, _, ⟨-, rfl⟩, references, _, ⟨counted, rfl⟩, _, _, ⟨unreferenced, -⟩, -⟩ := ran
          rw [beq_iff_eq] at unreferenced
          exact absurd (counted.trans unreferenced) (policyReferences_pos referred)

/-- A cleanup run is not given a pinned upload. -/
theorem pinned_unclaimed {owner : String} {now createdBefore rejectedBefore : OffsetDateTime}
    {leaseFor : Duration} {limit maxAttempts : Nat} {candidates : List CleanupCandidate}
    (integrity : s.Integrity) (pins : PinsHold s)
    (replies : Replies (claimCleanupBatch owner now createdBefore rejectedBefore leaseFor limit
      maxAttempts) s (.ok candidates) t) :
    ∀ candidate ∈ candidates, ¬ RefersTo s candidate.uploadId := by
  intro candidate member referred
  cases replies with
  | ran ran =>
      obtain ⟨-, error, failed⟩ | ⟨leaseUntil, rows, claimed, answered, selected, batch⟩ :=
        claimCleanupBatch_cases integrity ran
      · cases failed
      cases answered
      obtain ⟨row, listed, of⟩ := forall₂_mem_right batch.candidates member
      obtain ⟨there, eligible⟩ := selected row listed
      rw [of.uploadId] at referred
      obtain ⟨pinned, there', named, settled⟩ := pins _ referred
      obtain rfl := integrity.uploadIds.eq_of_key there there' named.symm
      obtain ⟨-, -, -, -, asked | ⟨created, -⟩ | ⟨rejected | failed, -⟩⟩ :=
        cleanupEligible_iff.1 eligible
      · simp [settled.unasked] at asked
      · simp [settled.ready] at created
      · simp [settled.ready] at rejected
      · simp [settled.ready] at failed

end Steps

/-! ## Runs -/

/-- What the pins of a store are worth. -/
structure PinsSurvive (s : SqliteStore) : Prop where
  held : PinsHold s
  refused : ∀ uploadId tenantId now result t, RefersTo s uploadId →
    Replies (requestDeletion tenantId uploadId now) s result t → ∃ error, result = .error error
  unclaimed : ∀ owner now createdBefore rejectedBefore leaseFor limit maxAttempts candidates t,
    Replies (claimCleanupBatch owner now createdBefore rejectedBefore leaseFor limit maxAttempts) s
        (.ok candidates) t →
      ∀ candidate ∈ candidates, ¬ RefersTo s candidate.uploadId

/-- **Pinned assets survive**, in every run in which each new revision finds its asset settled:
an upload a stored revision refers to stays ready, without an accepted deletion and without a
cleanup lease; its deletion is refused, and no cleanup claim takes it. -/
theorem pinned_assets_survive {d : Deployment} {labels : List SystemLabel} {s : SystemState}
    (run : d.RunsGuarded (fun s label => publishesSettled s label = true) labels s) :
    PinsSurvive s.shared.store := by
  have none : PinsHold .migrated := by
    rintro uploadId ⟨policy, member, -⟩
    cases member
  obtain ⟨integrity, pins⟩ := Deployment.run_store run none
    fun s label t op ok finds integrity pins calls answers => by
      refine pins_step integrity pins answers fun snapshot createdAt named => ?_
      subst named
      cases calls with
      | asked => exact of_decide_eq_true finds
      | called request => cases request
  exact ⟨pins, fun _ _ _ _ _ referred replies => pinned_refused integrity pins referred replies,
    fun _ _ _ _ _ _ _ _ _ replies => pinned_unclaimed integrity pins replies⟩

/-! ## Both sides of the race -/

/-- A request that pins the rehearsed image. -/
def sampleRequest : PublishSitePolicy where
  tenantId := "g5"
  schemaVersion := 1
  revision := 1
  issuedAt := sampleTime 0
  watermark := some ⟨rehearsedUpload, .center, 10, 20, 50⟩

/-- The image is pinned, and it survives. -/
theorem pinned_assets_survive_sample : ∃ s : SystemState, PinsSurvive s.shared.store ∧
    s.shared.store.policyReferences rehearsedUpload = 1 := by
  have played : ((sampleDeployment.rehearsal 1000000000).play publishesSettled
      (.fresh (sampleTime 0)) (reserveImage ++ confirmImage ++ processImage ++
        [.start (.publishPolicy sampleRequest (sampleTime 0)), .run 3 3])).any
      (fun s : SystemState => s.shared.store.policyReferences rehearsedUpload == 1) = true := by
    decide +kernel
  obtain ⟨labels, s, run, pinned⟩ := Deployment.rehearsed played
  exact ⟨s, pinned_assets_survive run, beq_iff_eq.1 pinned⟩

/-- The stored uploads a stored revision refers to, with an accepted deletion. -/
def pinnedAndAsked (store : SqliteStore) : List UploadRow :=
  store.uploads.filter fun row =>
    row.deleteRequestedAt.isSome && store.policyReferences row.id != 0

/-- **A deletion between the lookup and the publication.**  The asset is looked up, its deletion
is accepted, and the revision that pins it is published. -/
theorem pinned_after_deletion : ∃ labels, ∃ s : SystemState, sampleDeployment.Runs labels s ∧
    ∃ row ∈ s.shared.store.uploads, row.deleteRequestedAt ≠ none ∧
      s.shared.store.policyReferences row.id ≠ 0 := by
  have played : ((sampleDeployment.rehearsal 1000000000).play (fun _ _ => true)
      (.fresh (sampleTime 0)) (reserveImage ++ confirmImage ++ processImage ++
        [.start (.publishPolicy sampleRequest (sampleTime 0)), .run 3 1,
          .happen (.called (.requestDeletion "g5" rehearsedUpload (sampleTime 60))),
          .run 3 2])).any
      (fun s : SystemState => !(pinnedAndAsked s.shared.store).isEmpty) = true := by
    decide +kernel
  obtain ⟨labels, s, run, pinned⟩ := Deployment.rehearsed played
  refine ⟨labels, s, run.unguarded, ?_⟩
  rw [Bool.not_eq_true', List.isEmpty_eq_false_iff_exists_mem] at pinned
  obtain ⟨row, member⟩ := pinned
  obtain ⟨there, asked⟩ := List.mem_filter.1 member
  rw [Bool.and_eq_true, bne_iff_ne, Option.isSome_iff_ne_none] at asked
  exact ⟨row, there, asked⟩

end MediaBooster.Lifecycle
