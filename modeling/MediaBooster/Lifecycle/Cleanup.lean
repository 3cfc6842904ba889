/-
# Lifecycle.Cleanup -- whether an accepted deletion is ever cleaned up

`request_deletion` schedules the upload for the next cleanup claim: it sets the retry
time to now and clears the last error.  It leaves `cleanup_attempts` as it is, and a
claim takes only uploads with attempts left.

* `claimCleanupBatch_succeeds`: in a reachable store a claim under a valid policy
  answers, whatever the rows are.
* `accepted_deletion_claimable`: a claim after the request, once every lease on the
  upload has expired, selects it exactly when it had attempts left before the request.
* `accepted_deletion_stuck`: a reservation whose expired-reservation cleanups used the
  attempts up is accepted for deletion and never selected again.
-/
import MediaBooster.Store.Rows

namespace MediaBooster.Lifecycle

set_option autoImplicit false

open MediaBooster.Domain MediaBooster.Store MediaBooster.Theory.Run MediaBooster.Theory.Table
open MediaBooster.Theory.Transaction

/-! ## Policy -/

/-- Hard cleanup limits owned by the deployment. -/
structure LifecyclePolicy where
  createdReservationTtl : Duration
  rejectedSourceRetention : Duration
  leaseFor : Duration
  retryDelay : Duration
  batchSize : Nat
  maxAttempts : Nat
  tombstoneRetention : Duration
  tombstonePurgeBatchSize : Nat
deriving DecidableEq

/-- A duration of whole days. -/
def days (count : Nat) (fits : count * 86400 < 2 ^ 64) : Duration :=
  Duration.fromSecs (count * 86400) fits

/-- Every cap of the policy fits a duration. -/
theorem days_fits {count : Nat} (small : count ≤ 3650) : count * 86400 < 2 ^ 64 := by omega

/-- A duration that is not zero and at most `cap`. -/
def withinCap (duration cap : Duration) : Bool := !duration.isZero && !decide (cap < duration)

/-- The longest cleanup lease. -/
theorem hour_fits : 3600 < 2 ^ 64 := by decide

theorem week_fits : 7 * 86400 < 2 ^ 64 := days_fits (by decide)

theorem quarter_fits : 90 * 86400 < 2 ^ 64 := days_fits (by decide)

theorem day_fits : 1 * 86400 < 2 ^ 64 := days_fits (by decide)

theorem month_fits : 30 * 86400 < 2 ^ 64 := days_fits (by decide)

theorem decade_fits : 3650 * 86400 < 2 ^ 64 := days_fits (by decide)

/-- `LifecyclePolicy::is_valid`. -/
def LifecyclePolicy.isValid (policy : LifecyclePolicy) : Bool :=
  withinCap policy.createdReservationTtl (days 7 week_fits) &&
    withinCap policy.rejectedSourceRetention (days 90 quarter_fits) &&
    withinCap policy.leaseFor (Duration.fromSecs 3600 hour_fits) &&
    withinCap policy.retryDelay (days 1 day_fits) &&
    decide (1 ≤ policy.batchSize ∧ policy.batchSize ≤ 100) &&
    decide (1 ≤ policy.maxAttempts ∧ policy.maxAttempts ≤ 100) &&
    !decide (policy.tombstoneRetention < days 30 month_fits) &&
    !decide (days 3650 decade_fits < policy.tombstoneRetention) &&
    decide (1 ≤ policy.tombstonePurgeBatchSize ∧ policy.tombstonePurgeBatchSize ≤ 1000)

/-- The claim a maintenance run makes under a policy. -/
def claimUnder (policy : LifecyclePolicy) (owner : String)
    (now createdBefore rejectedBefore : OffsetDateTime) :
    Call SqliteStore LifecycleRepositoryError (List CleanupCandidate) :=
  claimCleanupBatch owner now createdBefore rejectedBefore policy.leaseFor policy.batchSize
    policy.maxAttempts

/-- What a valid policy lets a claim rely on. -/
theorem LifecyclePolicy.isValid_claim {policy : LifecyclePolicy} (valid : policy.isValid = true) :
    withinCap policy.leaseFor (Duration.fromSecs 3600 (by decide)) = true ∧
      (1 ≤ policy.batchSize ∧ policy.batchSize ≤ 100) ∧
      (1 ≤ policy.maxAttempts ∧ policy.maxAttempts ≤ 100) := by
  simp only [isValid, Bool.and_eq_true, decide_eq_true_eq] at valid
  exact ⟨valid.1.1.1.1.1.1.2, valid.1.1.1.1.2, valid.1.1.1.2⟩

/-! ## Claims succeed -/

section Claims

variable {store : SqliteStore}

/-- A row that a cleanup lease can be written on. -/
structure Leasable (store : SqliteStore) (row : UploadRow) : Prop where
  stored : ∃ other ∈ store.uploads, other.id = row.id
  readable : ReadableReservation row.toUploadReserved
  attempts : 0 ≤ row.cleanupAttempts ∧ row.cleanupAttempts < 100

theorem nextCleanupAttempt_isSome {previous : Int} (attempts : 0 ≤ previous ∧ previous < 100) :
    ∃ next, nextCleanupAttempt previous = some next := by
  have added : i64CheckedAdd previous 1 = some (previous + 1) := by
    refine i64CheckedAdd_eq_some.2 ⟨rfl, ?_⟩
    simp only [i64Min, i64Max]
    omega
  refine ⟨(previous + 1).toNat, ?_⟩
  rw [nextCleanupAttempt, added, Option.bind_some, u32TryFrom_eq_some]
  constructor <;> omega

theorem uploadChecks_lease {row : UploadRow} {owner : String} {leaseUntil : Int}
    (checked : uploadChecks row = true) :
    uploadChecks (row.assign (leaseColumns owner leaseUntil)) = true := by
  simp only [uploadChecks, Bool.and_eq_true, decide_eq_true_eq] at checked ⊢
  refine ⟨⟨⟨checked.1.1.1, checked.1.1.2⟩, checked.1.2⟩, ?_⟩
  show 0 ≤ row.cleanupAttempts + 1
  omega

/-- Leasing one selected row succeeds. -/
theorem leaseCandidate_of_leasable (owner : String) (leaseUntil : Int) {row : UploadRow}
    (integrity : store.Integrity) (kept : Kept store) (leasable : Leasable store row) :
    ∃ candidate store', leaseCandidate owner leaseUntil row store = .ok (candidate, store') := by
  obtain ⟨attempts, counted⟩ := nextCleanupAttempt_isSome leasable.attempts
  obtain ⟨stored, decoded⟩ := storedUploadFromRow_of_readable leasable.readable
  obtain ⟨sameId, -⟩ := storedUploadFromRow_ok decoded
  have keepsChecks : ∀ other ∈ store.uploads, (other.id == stored.uploadId) = true →
      uploadChecks (other.assign (leaseColumns owner leaseUntil)) = true :=
    fun other there _ => uploadChecks_lease (kept.checked other there)
  have leased := updateUploads_steady kept.counted keepsChecks (fun _ => rfl) (fun _ => rfl)
  have one : (touched (fun other : UploadRow => other.id == stored.uploadId)
      (UploadRow.assign (leaseColumns owner leaseUntil)) store.uploads).length = 1 := by
    have pinned : ∀ other : UploadRow, (other.id == stored.uploadId) = true →
        other.id = stored.uploadId := fun other hits => by simpa using hits
    obtain ⟨-, untouched⟩ | ⟨one, -⟩ := integrity.uploadIds.touched_pinned
      (UploadRow.assign (leaseColumns owner leaseUntil)) pinned
    · obtain ⟨other, there, same⟩ := leasable.stored
      have missed := untouched other there
      simp [same, sameId] at missed
    · exact one
  rw [one] at leased
  have update : ∃ middle, SqliteStore.updateUploads (fun other => other.id == stored.uploadId)
      (leaseColumns owner leaseUntil) store = .ok (1, middle) := ⟨_, leased⟩
  obtain ⟨middle, updated⟩ := update
  refine ⟨⟨row.tenantId, stored.uploadId, stored.objectKey, stored.state, stored.transfer,
    stored.multipartUploadId, middle.derivativeKeys stored.uploadId,
    cleanupReason row.deleteRequestedAt.isSome stored.state, attempts⟩, middle, ?_⟩
  simp only [leaseCandidate, bind_eq_ok, okOr_eq_ok, selectOr_eq_ok, execute_eq_ok, ensure_eq_ok,
    select_eq_ok, pure_eq_ok]
  refine ⟨attempts, store, ⟨counted, rfl⟩, stored, store, ⟨?_, rfl⟩, 1, middle, updated, (), middle,
    ⟨rfl, rfl⟩, _, middle, ⟨rfl, rfl⟩, rfl, rfl⟩
  rw [decoded, mapError_ok]

/-- Leasing the selected rows one after the other succeeds. -/
theorem leaseCandidates_of_leasable (owner : String) (leaseUntil : Int) {rows : List UploadRow}
    (integrity : store.Integrity) (kept : Kept store) (leasable : ∀ row ∈ rows, Leasable store row) :
    ∃ candidates store', rows.mapM (leaseCandidate owner leaseUntil) store =
      .ok (candidates, store') := by
  induction rows generalizing store with
  | nil => exact ⟨[], store, pure_eq_ok.2 ⟨rfl, rfl⟩⟩
  | cons row rows ih =>
      obtain ⟨candidate, middle, first⟩ :=
        leaseCandidate_of_leasable owner leaseUntil integrity kept
          (leasable row List.mem_cons_self)
      obtain ⟨-, -, effect⟩ := leaseCandidate_ok first
      have leasable' : ∀ other ∈ rows, Leasable middle other := by
        intro other member
        have before := leasable other (List.mem_cons_of_mem _ member)
        obtain ⟨stored, there, same⟩ := before.stored
        obtain ⟨after, there', evolves⟩ := effect.evolved_to (by decide) stored there
        exact { before with stored := ⟨after, there', evolves.id.trans same⟩ }
      obtain ⟨candidates, final, rest⟩ := ih (effect.integrity integrity)
        (effect.keeps (fun _ _ wrote => wrote.kept) kept) leasable'
      refine ⟨candidate :: candidates, final, ?_⟩
      rw [List.mapM_cons]
      refine bind_eq_ok.2 ⟨candidate, middle, first, ?_⟩
      exact bind_eq_ok.2 ⟨candidates, final, rest, pure_eq_ok.2 ⟨rfl, rfl⟩⟩

theorem cleanupEligible_iff {maxAttempts : Nat} {now createdBefore rejectedBefore : Int}
    {row : UploadRow} :
    cleanupEligible maxAttempts now createdBefore rejectedBefore row = true ↔
      row.state ≠ .deleted ∧ row.cleanupAttempts < maxAttempts ∧
        (∀ retryAt, row.cleanupRetryAt = some retryAt → retryAt ≤ now) ∧
        (∀ leaseUntil, row.cleanupLeaseUntil = some leaseUntil → leaseUntil ≤ now) ∧
        (row.deleteRequestedAt.isSome = true ∨
          (row.state = .created ∧ row.createdAt ≤ createdBefore) ∨
          ((row.state = .rejected ∨ row.state = .failed) ∧ row.updatedAt ≤ rejectedBefore)) := by
  simp only [cleanupEligible, Bool.and_eq_true, Bool.or_eq_true, bne_iff_ne, beq_iff_eq,
    decide_eq_true_eq, Option.all_eq_true, and_assoc, or_assoc]

/-- **A claim under a valid policy answers.** -/
theorem claimCleanupBatch_succeeds {calls : List (Op × Bool)} {policy : LifecyclePolicy}
    {owner : String} (now createdBefore rejectedBefore : OffsetDateTime)
    (run : StoreRun calls store) (valid : policy.isValid = true) (named : narrowToken owner 128 = true) :
    ∃ candidates store',
      claimUnder policy owner now createdBefore rejectedBefore store = (.ok candidates, store') := by
  obtain ⟨lease, limit, attempts⟩ := policy.isValid_claim valid
  simp only [withinCap, Bool.and_eq_true, Bool.not_eq_true', decide_eq_false_iff_not] at lease
  have kept := run_kept run
  have leasable : ∀ row ∈ store.cleanupRows policy.batchSize policy.maxAttempts now.unixTimestamp
      createdBefore.unixTimestamp rejectedBefore.unixTimestamp, Leasable store row := by
    intro row member
    obtain ⟨there, eligible⟩ := cleanupRows_mem member
    obtain ⟨-, left, -⟩ := cleanupEligible_iff.1 eligible
    have checked := kept.checked row there
    simp only [uploadChecks, Bool.and_eq_true, decide_eq_true_eq] at checked
    exact ⟨⟨row, there, rfl⟩, run_readable run row there, checked.2, by omega⟩
  have seconds : policy.leaseFor.asSecs ≤ 3600 := by
    have bounded : policy.leaseFor.nanos ≤ 3600 * 1000000000 := Nat.le_of_not_lt lease.2
    unfold Duration.asSecs
    omega
  have bounds := now.unixTimestamp_bounds
  simp only [minUnixTimestamp, maxUnixTimestamp] at bounds
  obtain ⟨candidates, store', leased⟩ := leaseCandidates_of_leasable owner
    (now.unixTimestamp + policy.leaseFor.asSecs) (StoreRun.integrity run) kept leasable
  refine ⟨candidates, store', ?_⟩
  simp only [claimUnder, claimCleanupBatch, call_bind_eq_ok, call_ensure_eq_ok, call_okOr_eq_ok,
    commit_eq_ok, cleanupTransaction, bind_eq_ok, select_eq_ok]
  refine ⟨(), store, ⟨?_, rfl⟩, policy.leaseFor.asSecs, store, ⟨?_, rfl⟩,
    now.unixTimestamp + policy.leaseFor.asSecs, store, ⟨?_, rfl⟩, _, store, ⟨rfl, rfl⟩, leased⟩
  · simp [named, lease.1, lease.2, limit, attempts]
  · refine i64TryFrom_eq_some.2 ⟨rfl, ?_⟩
    simp only [i64Max]
    omega
  · refine i64CheckedAdd_eq_some.2 ⟨rfl, ?_⟩
    simp only [i64Min, i64Max]
    omega

/-- With room for every eligible upload, a claim selects them all. -/
theorem cleanupRows_of_eligible {limit maxAttempts : Nat} {now createdBefore rejectedBefore : Int}
    {row : UploadRow} (member : row ∈ store.uploads)
    (eligible : cleanupEligible maxAttempts now createdBefore rejectedBefore row = true)
    (enough : (store.uploads.filter (cleanupEligible maxAttempts now createdBefore
      rejectedBefore)).length ≤ limit) :
    row ∈ store.cleanupRows limit maxAttempts now createdBefore rejectedBefore := by
  unfold SqliteStore.cleanupRows
  rw [List.take_of_length_le]
  · rw [List.mem_insertionSort]
    exact List.mem_filter.2 ⟨member, eligible⟩
  · rw [List.length_insertionSort]
    exact enough

/-- The candidates of a claim are the rows it selects. -/
theorem claimUnder_selects {calls : List (Op × Bool)} {policy : LifecyclePolicy} {owner : String}
    {now createdBefore rejectedBefore : OffsetDateTime} {candidates : List CleanupCandidate}
    {store' : SqliteStore} (run : StoreRun calls store)
    (ran : claimUnder policy owner now createdBefore rejectedBefore store =
      (.ok candidates, store')) :
    List.Forall₂ (CandidateOf store)
      (store.cleanupRows policy.batchSize policy.maxAttempts now.unixTimestamp
        createdBefore.unixTimestamp rejectedBefore.unixTimestamp) candidates := by
  exact (claimCleanupBatch_ok (StoreRun.integrity run) ran).candidates

end Claims

/-! ## Accepted deletions -/

/-- **An accepted deletion is claimable exactly when attempts are left.**  Take any
reachable store in which `request_deletion` is accepted, and any claim under a valid
policy, not before the request, when every lease on the upload has expired and the batch
has room for every eligible upload.  The claim answers, and it selects the upload if and
only if the upload's cleanups had left attempts over before the request. -/
theorem accepted_deletion_claimable {calls : List (Op × Bool)} {s t : SqliteStore}
    {tenantId owner : String} {uploadId : UploadId} {policy : LifecyclePolicy}
    {requestedAt now createdBefore rejectedBefore : OffsetDateTime} (run : StoreRun calls s)
    (accepted : requestDeletion tenantId uploadId requestedAt s = (.ok .accepted, t))
    (valid : policy.isValid = true) (named : narrowToken owner 128 = true)
    (later : requestedAt ≤ now)
    (expired : ∀ row ∈ t.uploads, row.id = uploadId →
      ∀ leaseUntil, row.cleanupLeaseUntil = some leaseUntil → leaseUntil ≤ now.unixTimestamp)
    (enough : (t.uploads.filter (cleanupEligible policy.maxAttempts now.unixTimestamp
      createdBefore.unixTimestamp rejectedBefore.unixTimestamp)).length ≤ policy.batchSize) :
    (∃ candidates t',
        claimUnder policy owner now createdBefore rejectedBefore t = (.ok candidates, t') ∧
          ∃ candidate ∈ candidates, candidate.uploadId = uploadId) ↔
      ∀ row ∈ s.uploads, row.id = uploadId → row.cleanupAttempts < policy.maxAttempts := by
  have integrity := StoreRun.integrity run
  obtain ⟨-, refused⟩ | ⟨-, upload, owned, -, deletable, -, moved⟩ :=
    requestDeletion_cases integrity accepted
  · exact absurd rfl refused
  have id : upload.id = uploadId := (ownedUpload_iff.1 owned).2
  have answered : Answers (.requestDeletion tenantId uploadId requestedAt) s true t :=
    .ofReplies (fun _ => rfl) (.ran accepted)
  have reached : StoreRun (calls ++ [(.requestDeletion tenantId uploadId requestedAt, true)]) t :=
    run.append (Trace.single answered)
  have requested := moved.moved_mem
  have eligible : cleanupEligible policy.maxAttempts now.unixTimestamp
      createdBefore.unixTimestamp rejectedBefore.unixTimestamp
      (upload.assign (requestedColumns requestedAt.unixTimestamp)) = true ↔
        upload.cleanupAttempts < policy.maxAttempts := by
    rw [cleanupEligible_iff]
    refine ⟨fun eligible => eligible.2.1, fun left => ⟨?_, left, ?_, ?_, .inl rfl⟩⟩
    · rintro deleted
      have state : upload.state = .deleted := deleted
      simp [state, deletableState] at deletable
    · intro retryAt scheduled
      cases scheduled
      exact OffsetDateTime.unixTimestamp_mono later
    · exact expired _ requested id
  constructor
  · rintro ⟨candidates, t', claimed, candidate, member, named⟩ row there same
    obtain ⟨selected, listed, of⟩ := forall₂_mem_right (claimUnder_selects reached claimed) member
    obtain ⟨stored, able⟩ := cleanupRows_mem listed
    have is : selected = upload.assign (requestedColumns requestedAt.unixTimestamp) := by
      refine (StoreRun.integrity reached).uploadIds.eq_of_key stored requested ?_
      exact of.uploadId.symm.trans (named.trans id.symm)
    rw [integrity.uploadIds.eq_of_key there moved.member (same.trans id.symm)]
    rw [is] at able
    exact eligible.1 able
  · intro left
    obtain ⟨candidates, t', claimed⟩ :=
      claimCleanupBatch_succeeds now createdBefore rejectedBefore reached valid named
    have listed := cleanupRows_of_eligible requested (eligible.2 (left upload moved.member id)) enough
    obtain ⟨candidate, member, of⟩ := forall₂_mem_left (claimUnder_selects reached claimed) listed
    exact ⟨candidates, t', claimed, candidate, member, of.uploadId.trans id⟩

/-- A policy under which one cleanup uses the attempts up. -/
def oneAttempt : LifecyclePolicy where
  createdReservationTtl := Duration.fromSecs 60 (by decide)
  rejectedSourceRetention := Duration.fromSecs 60 (by decide)
  leaseFor := Duration.fromSecs 60 (by decide)
  retryDelay := Duration.fromSecs 60 (by decide)
  batchSize := 100
  maxAttempts := 1
  tombstoneRetention := days 365 (by decide)
  tombstonePurgeBatchSize := 100

/-- The sample reservation expires, its only cleanup fails, and its deletion is requested. -/
def failedCleanup : List Op :=
  [.saveBatch sampleBatch sampleCapacity,
   .claimCleanupBatch "sweeper" (sampleTime 100) (sampleTime 40) (sampleTime 40)
     oneAttempt.leaseFor oneAttempt.batchSize oneAttempt.maxAttempts,
   .failCleanup sampleUploadId "sweeper" (sampleTime 110) (sampleTime 170) "RAW_DELETE_FAILED"]

/-- The store the failed cleanup leaves. -/
def cleanupFailedSample : SqliteStore := playAll .migrated failedCleanup

theorem cleanupFailedSample_run : StoreRun (played .migrated failedCleanup) cleanupFailedSample :=
  playAll_trace .migrated failedCleanup

/-- The store after the deletion of that reservation was requested. -/
def stuckSample : SqliteStore :=
  (requestDeletion "g5" sampleUploadId (sampleTime 200) cleanupFailedSample).2

theorem stuckSample_accepted :
    (requestDeletion "g5" sampleUploadId (sampleTime 200) cleanupFailedSample).1 = .ok .accepted := by
  decide

/-- **A stuck deletion.**  The request of the sample is accepted, its lease is over, and no
claim under the policy, at any time and by anybody, selects it. -/
theorem accepted_deletion_stuck :
    StoreRun (played .migrated failedCleanup) cleanupFailedSample ∧
      requestDeletion "g5" sampleUploadId (sampleTime 200) cleanupFailedSample =
        (.ok .accepted, stuckSample) ∧
      oneAttempt.isValid = true ∧
      (∀ row ∈ stuckSample.uploads, row.cleanupLeaseUntil = none) ∧
      ∀ owner now createdBefore rejectedBefore candidates t',
        claimUnder oneAttempt owner now createdBefore rejectedBefore stuckSample =
          (.ok candidates, t') → ∀ candidate ∈ candidates, candidate.uploadId ≠ sampleUploadId := by
  have accepted : requestDeletion "g5" sampleUploadId (sampleTime 200) cleanupFailedSample =
      (.ok .accepted, stuckSample) := Prod.ext stuckSample_accepted rfl
  have asked : StoreStep cleanupFailedSample
      (.requestDeletion "g5" sampleUploadId (sampleTime 200), true) stuckSample :=
    Answers.ofReplies (fun _ => rfl) (.ran accepted)
  refine ⟨cleanupFailedSample_run, accepted, by decide, by decide, ?_⟩
  intro owner now createdBefore rejectedBefore candidates t' claimed candidate member _
  have used : ∀ row ∈ stuckSample.uploads, ¬ row.cleanupAttempts < (oneAttempt.maxAttempts : Int) := by
    decide
  obtain ⟨row, listed, -⟩ := forall₂_mem_right (claimUnder_selects
    (cleanupFailedSample_run.append (Trace.single asked)) claimed) member
  obtain ⟨there, eligible⟩ := cleanupRows_mem listed
  exact used row there (cleanupEligible_iff.1 eligible).2.1

/-- The sample reservation, never cleaned up before, is claimable once it is requested. -/
theorem accepted_deletion_claimable_sample :
    ∃ candidates t',
      claimUnder oneAttempt "sweeper" (sampleTime 20) (sampleTime 10) (sampleTime 10)
          (requestDeletion "g5" sampleUploadId (sampleTime 10) reservedSample).2 =
        (.ok candidates, t') ∧ ∃ candidate ∈ candidates, candidate.uploadId = sampleUploadId := by
  have accepted : requestDeletion "g5" sampleUploadId (sampleTime 10) reservedSample =
      (.ok .accepted, (requestDeletion "g5" sampleUploadId (sampleTime 10) reservedSample).2) :=
    Prod.ext (by decide) rfl
  refine (accepted_deletion_claimable reservedSample_run accepted (by decide) (by decide)
    (by decide) ?_ (by decide)).2 (by decide)
  decide

end MediaBooster.Lifecycle
