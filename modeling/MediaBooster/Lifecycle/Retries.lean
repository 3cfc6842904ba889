/-
# Lifecycle.Retries -- when a failed cleanup is tried again

`fail_cleanup` releases the lease, stores the retry time, and sets `updated_at`.  The age of a
requested deletion and of an expired reservation is not counted from that column, so such an
upload may be claimed again from its retry time on.  The retention of a rejected or failed
upload is counted from it: every failure starts the whole retention anew.

* `retry_reclaimable`: the condition under which an upload may be claimed from its retry time on.
* `retention_restarts`: a rejected upload that is not claimable at its retry time.
-/
import MediaBooster.Service.Rehearsal
import MediaBooster.Service.Rules

namespace MediaBooster.Lifecycle

set_option autoImplicit false

open MediaBooster.Domain MediaBooster.Service MediaBooster.Store MediaBooster.Theory.Run
open MediaBooster.Theory.Table MediaBooster.Theory.Threads

/-! ## Claimable uploads -/

/-- A maintenance run that starts at `instant` may claim the upload. -/
def ClaimableAt (policy : LifecyclePolicy) (instant : OffsetDateTime) (row : UploadRow) : Prop :=
  ∃ createdBefore rejectedBefore,
    instant.minus policy.createdReservationTtl = some createdBefore ∧
    instant.minus policy.rejectedSourceRetention = some rejectedBefore ∧
    cleanupEligible policy.maxAttempts instant.unixTimestamp createdBefore.unixTimestamp
      rejectedBefore.unixTimestamp row = true

/-- What is later stays later a while before. -/
theorem minus_mono {earlier later before : OffsetDateTime} {duration : Duration}
    (le : earlier ≤ later) (subtracted : earlier.minus duration = some before) :
    ∃ before', later.minus duration = some before' ∧ before ≤ before' := by
  have known := OffsetDateTime.minus_eq_some subtracted
  have lower := before.lower
  have upper := later.upper
  rw [OffsetDateTime.le_def] at le
  have within : minUnixTimestamp * 1000000000 ≤ later.unixNanos + -(duration.nanos : Int) ∧
      later.unixNanos + -(duration.nanos : Int) < (maxUnixTimestamp + 1) * 1000000000 := by omega
  refine ⟨⟨later.unixNanos + -(duration.nanos : Int), within.1, within.2⟩, ?_, ?_⟩
  · unfold OffsetDateTime.minus OffsetDateTime.shifted
    rw [dif_pos within]
  · show before.unixNanos ≤ later.unixNanos + -(duration.nanos : Int)
    omega

/-! ## A failed try -/

/-- One try of a cleanup: a claim in a reachable state, and the failure that its owner reports
of one of its uploads before anything else touched it. -/
structure FailedTry (d : Deployment) where
  state : SystemState
  reached : ∃ labels, d.Runs labels state
  owner : String
  claimedAt : OffsetDateTime
  createdBefore : OffsetDateTime
  rejectedBefore : OffsetDateTime
  created : claimedAt.minus d.lifecyclePolicy.createdReservationTtl = some createdBefore
  rejected : claimedAt.minus d.lifecyclePolicy.rejectedSourceRetention = some rejectedBefore
  candidates : List CleanupCandidate
  claimedStore : SqliteStore
  claimed : claimCleanupBatch owner claimedAt createdBefore rejectedBefore
    d.lifecyclePolicy.leaseFor d.lifecyclePolicy.batchSize d.lifecyclePolicy.maxAttempts
    state.shared.store = (.ok candidates, claimedStore)
  candidate : CleanupCandidate
  handed : candidate ∈ candidates
  leased : UploadRow
  leasedStored : leased ∈ claimedStore.uploads
  leasedNamed : leased.id = candidate.uploadId
  calls : List (Op × Bool)
  laterStore : SqliteStore
  later : Trace StoreStep claimedStore calls laterStore
  untouched : leased ∈ laterStore.uploads
  failedAt : OffsetDateTime
  retryAt : OffsetDateTime
  errorCode : String
  failedStore : SqliteStore
  failure : failCleanup candidate.uploadId owner failedAt retryAt errorCode laterStore =
    (.ok (), failedStore)
  failed : UploadRow
  failedStored : failed ∈ failedStore.uploads
  failedNamed : failed.id = candidate.uploadId

namespace FailedTry

variable {d : Deployment} (attempt : FailedTry d)

/-- At the retry time the upload has a deletion request, or is a reservation past its time, or a
rejected or failed upload whose retention has passed since the failure itself. -/
def Reclaimable : Prop :=
  ∃ createdBefore rejectedBefore,
    attempt.retryAt.minus d.lifecyclePolicy.createdReservationTtl = some createdBefore ∧
    attempt.retryAt.minus d.lifecyclePolicy.rejectedSourceRetention = some rejectedBefore ∧
    (attempt.leased.deleteRequestedAt.isSome = true ∨
      (attempt.leased.state = .created ∧
        attempt.leased.createdAt ≤ createdBefore.unixTimestamp) ∨
      ((attempt.leased.state = .rejected ∨ attempt.leased.state = .failed) ∧
        attempt.failedAt.unixTimestamp ≤ rejectedBefore.unixTimestamp))

theorem state_integrity : attempt.state.shared.store.Integrity := by
  obtain ⟨labels, run⟩ := attempt.reached
  exact (Deployment.run_recorded run).integrity

theorem claimed_integrity : attempt.claimedStore.Integrity := by
  obtain same | ⟨leaseUntil, rows, candidates, same, -, leased⟩ :=
    claimCleanupBatch_cases attempt.state_integrity attempt.claimed
  · rw [same.1]
    exact attempt.state_integrity
  · exact leased.effect.integrity attempt.state_integrity

theorem later_integrity : attempt.laterStore.Integrity :=
  Trace.keeps (P := SqliteStore.Integrity) (fun _ _ _ step => Answers.integrity step) attempt.later
    attempt.claimed_integrity

/-- The failure sets the columns of a retry, and the upload was leased. -/
theorem failed_eq : attempt.leased.state ≠ .deleted ∧
    attempt.failed = attempt.leased.assign (retryColumns attempt.failedAt.unixTimestamp
      attempt.retryAt.unixTimestamp attempt.errorCode) := by
  have integrity := attempt.later_integrity
  obtain ⟨-, upload, hits, moved⟩ | ⟨-, error, refused⟩ :=
    failCleanup_cases integrity attempt.failure
  · obtain ⟨named, standing, -⟩ := cleanupLeasedBy_iff.1 hits
    have same : upload = attempt.leased :=
      integrity.uploadIds.eq_of_key moved.member attempt.untouched
        (named.trans attempt.leasedNamed.symm)
    subst same
    refine ⟨standing, ?_⟩
    have stored := attempt.failedStored
    rw [moved.uploads] at stored
    obtain ⟨row, member, became⟩ := mem_updateWhere.1 stored
    have hit : row.id = attempt.leased.id := by
      rw [attempt.leasedNamed, ← attempt.failedNamed, became]
      split <;> rfl
    rw [became, if_pos (by rw [hit, beq_self_eq_true]),
      integrity.uploadIds.eq_of_key member attempt.untouched hit]
  · cases refused

/-- The claim leased an upload it was eligible for. -/
theorem leased_of : ∃ row, cleanupEligible d.lifecyclePolicy.maxAttempts
      attempt.claimedAt.unixTimestamp attempt.createdBefore.unixTimestamp
      attempt.rejectedBefore.unixTimestamp row = true ∧
    attempt.candidate.reason = cleanupReason row.deleteRequestedAt.isSome row.state ∧
    attempt.leased.state = row.state ∧ attempt.leased.createdAt = row.createdAt ∧
    attempt.leased.deleteRequestedAt = row.deleteRequestedAt := by
  have integrity := attempt.state_integrity
  obtain ⟨-, error, refused⟩ | ⟨leaseUntil, rows, candidates, same, eligible, leased⟩ :=
    claimCleanupBatch_cases integrity attempt.claimed
  · cases refused
  cases same
  obtain ⟨row, selected, of⟩ : ∃ row ∈ rows,
      CandidateOf attempt.state.shared.store row attempt.candidate :=
    forall₂_mem_right leased.candidates attempt.handed
  obtain ⟨member, may⟩ := eligible row selected
  have stored := attempt.leasedStored
  rw [leased.uploads] at stored
  obtain ⟨before, there, became⟩ := mem_updateWhere.1 stored
  have named : before.id = row.id := by
    rw [← of.uploadId, ← attempt.leasedNamed, became]
    split <;> rfl
  obtain rfl := integrity.uploadIds.eq_of_key there member named
  refine ⟨before, may, of.reason, ?_⟩
  rw [became]
  split <;> exact ⟨rfl, rfl, rfl⟩

/-- An upload that is claimable at its retry time is claimable from then on, and only such. -/
theorem claimable_iff (left : attempt.leased.cleanupAttempts < d.lifecyclePolicy.maxAttempts) :
    (∀ instant, attempt.retryAt ≤ instant →
      ClaimableAt d.lifecyclePolicy instant attempt.failed) ↔ attempt.Reclaimable := by
  obtain ⟨standing, same⟩ := attempt.failed_eq
  have eligible : ∀ (now createdBefore rejectedBefore : Int),
      attempt.retryAt.unixTimestamp ≤ now →
      (cleanupEligible d.lifecyclePolicy.maxAttempts now createdBefore rejectedBefore
          attempt.failed = true ↔
        (attempt.leased.deleteRequestedAt.isSome = true ∨
          (attempt.leased.state = .created ∧ attempt.leased.createdAt ≤ createdBefore) ∨
          ((attempt.leased.state = .rejected ∨ attempt.leased.state = .failed) ∧
            attempt.failedAt.unixTimestamp ≤ rejectedBefore))) := by
    intro now createdBefore rejectedBefore due
    rw [same]
    show (attempt.leased.state != .deleted &&
        decide (attempt.leased.cleanupAttempts < d.lifecyclePolicy.maxAttempts) &&
        decide (attempt.retryAt.unixTimestamp ≤ now) && true &&
        (attempt.leased.deleteRequestedAt.isSome ||
          (attempt.leased.state == .created && decide (attempt.leased.createdAt ≤ createdBefore)) ||
          ((attempt.leased.state == .rejected || attempt.leased.state == .failed) &&
            decide (attempt.failedAt.unixTimestamp ≤ rejectedBefore)))) = true ↔ _
    simp only [Bool.and_eq_true, Bool.or_eq_true, bne_iff_ne, beq_iff_eq, decide_eq_true_eq]
    constructor
    · rintro ⟨-, (requested | reserved) | ended⟩
      · exact .inl requested
      · exact .inr (.inl reserved)
      · exact .inr (.inr ended)
    · rintro holds
      refine ⟨⟨⟨⟨standing, left⟩, due⟩, trivial⟩, ?_⟩
      obtain requested | reserved | ended := holds
      · exact .inl (.inl requested)
      · exact .inl (.inr reserved)
      · exact .inr ended
  constructor
  · intro claimable
    obtain ⟨createdBefore, rejectedBefore, created, rejected, may⟩ :=
      claimable attempt.retryAt (le_refl attempt.retryAt.unixNanos)
    exact ⟨createdBefore, rejectedBefore, created, rejected,
      (eligible _ _ _ (le_refl _)).1 may⟩
  · rintro ⟨createdBefore, rejectedBefore, created, rejected, holds⟩ instant due
    obtain ⟨createdBefore', created', createdLater⟩ := minus_mono due created
    obtain ⟨rejectedBefore', rejected', rejectedLater⟩ := minus_mono due rejected
    have createdSeconds := OffsetDateTime.unixTimestamp_mono createdLater
    have rejectedSeconds := OffsetDateTime.unixTimestamp_mono rejectedLater
    refine ⟨createdBefore', rejectedBefore', created', rejected', ?_⟩
    refine (eligible _ _ _ (OffsetDateTime.unixTimestamp_mono due)).2 ?_
    obtain requested | ⟨reserved, old⟩ | ⟨ended, old⟩ := holds
    · exact .inl requested
    · exact .inr (.inl ⟨reserved, by omega⟩)
    · exact .inr (.inr ⟨ended, by omega⟩)

/-- Only the retention of an ended upload can be postponed. -/
theorem reclaimable_of_reason (ordered : attempt.claimedAt ≤ attempt.retryAt)
    (reason : attempt.candidate.reason ≠ .retentionExpired) : attempt.Reclaimable := by
  obtain ⟨createdBefore, created, createdLater⟩ := minus_mono ordered attempt.created
  obtain ⟨rejectedBefore, rejected, -⟩ := minus_mono ordered attempt.rejected
  refine ⟨createdBefore, rejectedBefore, created, rejected, ?_⟩
  obtain ⟨row, may, for_, state, createdAt, requested⟩ := attempt.leased_of
  rw [for_, cleanupReason] at reason
  split at reason
  · rename_i asked
    exact .inl (requested ▸ asked)
  · rename_i unasked
    split at reason
    · rename_i reserved
      simp only [cleanupEligible, reserved, Bool.and_eq_true, unasked, Bool.false_or,
        Bool.or_eq_true, decide_eq_true_eq] at may
      have old : row.createdAt ≤ attempt.createdBefore.unixTimestamp := by simpa using may.2
      have later := OffsetDateTime.unixTimestamp_mono createdLater
      exact .inr (.inl ⟨state.trans reserved, by omega⟩)
    · exact absurd rfl reason

end FailedTry

/-- **A failed cleanup is tried again.**  While attempts are left, the upload may be claimed at
every time from its retry time on exactly where the retention of an ended upload has passed since
the failure; a requested deletion and an expired reservation are never postponed. -/
theorem retry_reclaimable (d : Deployment) (attempt : FailedTry d)
    (left : attempt.leased.cleanupAttempts < d.lifecyclePolicy.maxAttempts) :
    ((∀ instant, attempt.retryAt ≤ instant →
        ClaimableAt d.lifecyclePolicy instant attempt.failed) ↔ attempt.Reclaimable) ∧
      (attempt.claimedAt ≤ attempt.retryAt → attempt.candidate.reason ≠ .retentionExpired →
        attempt.Reclaimable) :=
  ⟨attempt.claimable_iff left, attempt.reclaimable_of_reason⟩

/-! ## A rejected upload -/

/-- Whether the first upload a claim leases at `claimedAt` satisfies `check` after its cleanup
failed at `failedAt`: it is given the candidate, its leased row and its failed row. -/
def triedAt (d : Deployment) (claimedAt failedAt retryAt : OffsetDateTime)
    (check : CleanupCandidate → UploadRow → UploadRow → Bool) (store : SqliteStore) : Bool :=
  match claimedAt.minus d.lifecyclePolicy.createdReservationTtl,
      claimedAt.minus d.lifecyclePolicy.rejectedSourceRetention with
  | some createdBefore, some rejectedBefore =>
      match claimCleanupBatch "c" claimedAt createdBefore rejectedBefore d.lifecyclePolicy.leaseFor
          d.lifecyclePolicy.batchSize d.lifecyclePolicy.maxAttempts store with
      | (.ok (candidate :: _), claimed) =>
          match failCleanup candidate.uploadId "c" failedAt retryAt "RAW_DELETE_FAILED" claimed with
          | (.ok (), failed) =>
              match claimed.uploads.find? fun row => row.id == candidate.uploadId,
                  failed.uploads.find? fun row => row.id == candidate.uploadId with
              | some before, some after => check candidate before after
              | _, _ => false
          | _ => false
      | _ => false
  | _, _ => false

/-- What is computed of a reached store is a failed try. -/
theorem triedAt_attempt {d : Deployment} {claimedAt failedAt retryAt : OffsetDateTime}
    {check : CleanupCandidate → UploadRow → UploadRow → Bool} {s : SystemState}
    (reached : ∃ labels, d.Runs labels s)
    (tried : triedAt d claimedAt failedAt retryAt check s.shared.store = true) :
    ∃ attempt : FailedTry d, attempt.claimedAt = claimedAt ∧ attempt.failedAt = failedAt ∧
      attempt.retryAt = retryAt ∧ check attempt.candidate attempt.leased attempt.failed = true := by
  unfold triedAt at tried
  split at tried
  · rename_i createdBefore rejectedBefore created rejected
    split at tried
    · rename_i candidate candidates claimedStore claimed
      split at tried
      · rename_i failedStore failure
        split at tried
        · rename_i leased failed leasedFound failedFound
          have named : ∀ {rows : List UploadRow} {row : UploadRow},
              (rows.find? fun row => row.id == candidate.uploadId) = some row →
                row.id = candidate.uploadId := by
            intro rows row found
            have hit := List.find?_some found
            exact beq_iff_eq.1 hit
          refine ⟨{
            state := s, reached := reached, owner := "c", claimedAt := claimedAt
            createdBefore := createdBefore, rejectedBefore := rejectedBefore
            created := created, rejected := rejected, candidates := candidate :: candidates
            claimedStore := claimedStore, claimed := claimed, candidate := candidate
            handed := List.mem_cons_self, leased := leased
            leasedStored := List.mem_of_find?_eq_some leasedFound
            leasedNamed := named leasedFound
            calls := [], laterStore := claimedStore, later := .nil _
            untouched := List.mem_of_find?_eq_some leasedFound
            failedAt := failedAt, retryAt := retryAt, errorCode := "RAW_DELETE_FAILED"
            failedStore := failedStore, failure := failure, failed := failed
            failedStored := List.mem_of_find?_eq_some failedFound
            failedNamed := named failedFound }, rfl, rfl, rfl, tried⟩
        · cases tried
      · cases tried
    · cases tried
  · cases tried

/-- Rejected sources are kept for an hour here. -/
def hourlyPolicy : LifecyclePolicy :=
  { sampleLifecyclePolicy with rejectedSourceRetention := Duration.fromSecs 3600 hour_fits }

theorem hourlyPolicy_valid : hourlyPolicy.isValid = true := by decide

/-- A worker that takes small images only. -/
def narrowWorkerPolicy : WorkerPolicy := { sampleWorkerPolicy with maxImageBytes := 50 }

theorem narrowWorkerPolicy_valid : narrowWorkerPolicy.isValid = true := by decide

/-- A worker process that rejects the sample image. -/
def narrowWorker : WorkerConfiguration := ⟨narrowWorkerPolicy, narrowWorkerPolicy_valid⟩

/-- A deployment that keeps rejected sources for an hour. -/
def rejectingDeployment : Deployment :=
  { sampleDeployment with
    lifecyclePolicy := hourlyPolicy, lifecycleValid := hourlyPolicy_valid }

/-- A rejected upload is claimed after two hours, its cleanup fails, and a second later, at its
retry time, it may not be claimed. -/
theorem retention_restarts : ¬ ∀ (d : Deployment) (attempt : FailedTry d),
    attempt.leased.cleanupAttempts < d.lifecyclePolicy.maxAttempts →
      ∀ instant, attempt.retryAt ≤ instant →
        ClaimableAt d.lifecyclePolicy instant attempt.failed := by
  intro always
  have played : ((rejectingDeployment.rehearsal 1000000000).play (fun _ _ => true)
      (.fresh (sampleTime 0)) (reserveImage ++ confirmImage ++
        [.start (.work narrowWorker "w"), .run 2 9])).any (fun s : SystemState =>
      triedAt rejectingDeployment (sampleTime 7200) (sampleTime 7201) (sampleTime 7202)
        (fun _ leased failed => decide (leased.cleanupAttempts < 3) && failed.state == .rejected &&
          failed.deleteRequestedAt.isNone &&
          decide (failed.updatedAt = (sampleTime 7201).unixTimestamp)) s.shared.store) = true := by
    decide +kernel
  obtain ⟨labels, s, run, holds⟩ := Deployment.rehearsed played
  obtain ⟨attempt, -, -, retried, checked⟩ := triedAt_attempt ⟨labels, run.unguarded⟩ holds
  simp only [Bool.and_eq_true, decide_eq_true_eq, beq_iff_eq] at checked
  obtain ⟨⟨⟨left, rejected⟩, unrequested⟩, updated⟩ := checked
  obtain ⟨createdBefore, rejectedBefore, -, retention, may⟩ :=
    always rejectingDeployment attempt left (sampleTime 7202) (by rw [retried]; decide)
  have before := OffsetDateTime.minus_eq_some retention
  obtain ⟨-, retained⟩ : _ ∧ (sampleTime 7201).unixTimestamp ≤ rejectedBefore.unixTimestamp := by
    simpa [cleanupEligible, rejected, Option.isNone_iff_eq_none.1 unrequested, updated] using may
  have failed : (sampleTime 7201).unixTimestamp = 1700007201 := by decide
  have retry : (sampleTime 7202).unixNanos = 1700007202 * 1000000000 := by decide
  have kept : hourlyPolicy.rejectedSourceRetention.nanos = 3600 * 1000000000 := by decide
  rw [failed, OffsetDateTime.unixTimestamp, before, retry] at retained
  rw [show rejectingDeployment.lifecyclePolicy = hourlyPolicy from rfl, kept] at retained
  omega

/-- The cleanup of an expired reservation fails, and it may be claimed from its retry time on. -/
theorem retry_reclaimable_sample : ∃ attempt : FailedTry sampleDeployment,
    attempt.candidate.reason = .expiredReservation ∧ ∀ instant, attempt.retryAt ≤ instant →
      ClaimableAt sampleDeployment.lifecyclePolicy instant attempt.failed := by
  have played : ((sampleDeployment.rehearsal 1000000000).play (fun _ _ => true)
      (.fresh (sampleTime 0)) reserveImage).any (fun s : SystemState =>
      triedAt sampleDeployment (sampleTime 7200) (sampleTime 7201) (sampleTime 7202)
        (fun candidate leased _ => decide (leased.cleanupAttempts < 3) &&
          candidate.reason == .expiredReservation) s.shared.store) = true := by
    decide +kernel
  obtain ⟨labels, s, run, holds⟩ := Deployment.rehearsed played
  obtain ⟨attempt, claimed, -, retried, checked⟩ := triedAt_attempt ⟨labels, run.unguarded⟩ holds
  rw [Bool.and_eq_true, decide_eq_true_eq, beq_iff_eq] at checked
  obtain ⟨left, expired⟩ := checked
  obtain ⟨claimable, postponed⟩ := retry_reclaimable sampleDeployment attempt left
  refine ⟨attempt, expired, claimable.2 (postponed ?_ ?_)⟩
  · rw [claimed, retried]
    decide
  · rw [expired]
    decide

end MediaBooster.Lifecycle
