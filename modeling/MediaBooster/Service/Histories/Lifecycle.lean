/-
# Service.Histories.Lifecycle -- what a maintenance run has done before it asks

A run leases its candidates once and settles them one after the other.  Whatever it asks the
provider for belongs to the first candidate it has not settled; an upload is tombstoned right
after the deletion of its raw object was answered, and that deletion is asked for after the
session of an incomplete upload is gone.
-/
import MediaBooster.Service.Asks
import MediaBooster.Service.Histories

namespace MediaBooster.Service

set_option autoImplicit false

open MediaBooster.Domain MediaBooster.Storage MediaBooster.Store MediaBooster.Theory.Threads

/-- The upload a request settles the cleanup of. -/
def settledBy : Ask → Option UploadId
  | .store (.completeCleanup uploadId _ _) => some uploadId
  | .store (.failCleanup uploadId _ _ _ _) => some uploadId
  | _ => none

/-- The uploads whose cleanup was settled, in order. -/
def settledUploads (past : History) : List UploadId :=
  past.filterMap fun exchange => settledBy exchange.1

@[simp] theorem settledUploads_append (past more : History) :
    settledUploads (past ++ more) = settledUploads past ++ settledUploads more :=
  List.filterMap_append

/-- The run was given these candidates. -/
def Claimed (past : History) (candidates : List CleanupCandidate) : Prop :=
  ∃ owner now createdBefore rejectedBefore leaseFor limit maxAttempts,
    (⟨.store (.claimCleanupBatch owner now createdBefore rejectedBefore leaseFor limit maxAttempts),
      .ok candidates⟩ : Exchange Answer) ∈ past

theorem Claimed.append {past more : History} {candidates : List CleanupCandidate}
    (claimed : Claimed past candidates) : Claimed (past ++ more) candidates := by
  obtain ⟨owner, now, createdBefore, rejectedBefore, leaseFor, limit, maxAttempts, member⟩ := claimed
  exact ⟨owner, now, createdBefore, rejectedBefore, leaseFor, limit, maxAttempts,
    List.mem_append_left _ member⟩

/-- The run was given `candidates` and has settled `settled` of them. -/
structure Reached (past : History) (candidates settled : List CleanupCandidate) : Prop where
  claimed : Claimed past candidates
  settled : settledUploads past = settled.map CleanupCandidate.uploadId

theorem Reached.append {past more : History} {candidates settled : List CleanupCandidate}
    (reached : Reached past candidates settled) (quiet : settledUploads more = []) :
    Reached (past ++ more) candidates settled where
  claimed := reached.claimed.append
  settled := by rw [settledUploads_append, quiet, List.append_nil, reached.settled]

/-- The candidate is the first one the run has not settled. -/
def Cleaning (past : History) (candidate : CleanupCandidate) : Prop :=
  ∃ settled rest, Reached past (settled ++ candidate :: rest) settled

namespace LifecycleService

variable (service : LifecycleService)

/-- The session of an incomplete multipart upload is gone. -/
def SessionDone (past : History) (candidate : CleanupCandidate) : Prop :=
  candidate.state = .created → ∀ partSizeBytes, candidate.transfer = .multipart partSizeBytes →
    ∃ session answer, candidate.multipartUploadId = some session ∧
      S3CompatibleStore.abortOutcome answer = .ok () ∧
      (⟨.provider (.abortMultipartUpload service.rawStore.bucket candidate.rawObjectKey.asStr
        session), answer⟩ : Exchange Answer) ∈ past

/-- The deletion of the raw object was answered, and nothing else since but the clock. -/
def Emptied (past : History) (candidate : CleanupCandidate) : Prop :=
  ∃ before reading, service.SessionDone before candidate ∧
    past = before ++ [⟨.provider (.deleteObject service.rawStore.bucket
      candidate.rawObjectKey.asStr), .ok ()⟩, ⟨.now, reading⟩]

/-- What a maintenance run has done before it asks. -/
def Rule (past : History) : Ask → Prop
  | .store (.claimCleanupBatch ..) => ∀ exchange ∈ past, exchange.1 = .now
  | .store (.completeCleanup uploadId _ _) => ∃ candidate, candidate.uploadId = uploadId ∧
      Cleaning past candidate ∧ service.Emptied past candidate
  | .store (.failCleanup uploadId ..) => ∃ candidate, candidate.uploadId = uploadId ∧
      Cleaning past candidate
  | .provider (.abortMultipartUpload _ key session) => ∃ candidate, Cleaning past candidate ∧
      candidate.state = .created ∧ candidate.multipartUploadId = some session ∧
      key = candidate.rawObjectKey.asStr
  | .provider (.deleteObject bucket key) => ∃ candidate, Cleaning past candidate ∧
      ((bucket = service.derivativeStore.bucket ∧
          ∃ objectKey ∈ candidate.derivativeKeys, objectKey.asStr = key) ∨
        (bucket = service.rawStore.bucket ∧ key = candidate.rawObjectKey.asStr ∧
          service.SessionDone past candidate))
  | _ => True

section Cleaning

variable {service} {past : History} {candidate : CleanupCandidate}

theorem SessionDone.append {more : History} (done : service.SessionDone past candidate) :
    service.SessionDone (past ++ more) candidate := by
  intro created partSizeBytes multipart
  obtain ⟨session, answer, named, outcome, member⟩ := done created partSizeBytes multipart
  exact ⟨session, answer, named, outcome, List.mem_append_left _ member⟩

variable {settled rest : List CleanupCandidate}

theorem follows_abortSession (reached : Reached past (settled ++ candidate :: rest) settled) :
    (service.abortSession candidate).Follows service.Rule
      (fun past' result => Reached past' (settled ++ candidate :: rest) settled ∧
        (result = .ok () → service.SessionDone past' candidate)) past := by
  unfold abortSession
  split
  · rename_i partSizeBytes created multipart
    refine Attempt.follows_okOr (fun session named => ?_) fun _ => ⟨reached, fun failed => ?_⟩
    · refine Attempt.follows_mapError
        ⟨⟨candidate, ⟨settled, rest, reached⟩, created, named, rfl⟩, fun answer => ?_⟩
      refine ⟨reached.append rfl, fun aborted _ _ _ => ?_⟩
      refine ⟨session, answer, named, ?_, List.mem_append_right _ (List.mem_singleton_self _)⟩
      cases outcome : S3CompatibleStore.abortOutcome answer with
      | ok => rfl
      | error error =>
          rw [outcome] at aborted
          cases aborted
    · cases failed
  · rename_i other
    refine ⟨reached, fun _ created partSizeBytes multipart => ?_⟩
    exact absurd multipart (other partSizeBytes created)

theorem follows_deleteDerivatives (keys : List ObjectKey)
    (derived : ∀ key ∈ keys, key ∈ candidate.derivativeKeys)
    (reached : Reached past (settled ++ candidate :: rest) settled)
    (done : service.SessionDone past candidate) :
    (service.deleteDerivatives keys).Follows service.Rule
      (fun past' _ => Reached past' (settled ++ candidate :: rest) settled ∧
        service.SessionDone past' candidate) past := by
  induction keys generalizing past with
  | nil => exact ⟨reached, done⟩
  | cons key keys ih =>
      unfold deleteDerivatives
      refine Attempt.follows_bind (Q := fun past' _ =>
        Reached past' (settled ++ candidate :: rest) settled ∧ service.SessionDone past' candidate)
        (Attempt.follows_mapError (Attempt.follows_mapError ⟨?_, fun answer => ?_⟩)) ?_ ?_
      · exact ⟨candidate, ⟨settled, rest, reached⟩,
          .inl ⟨rfl, key, derived key List.mem_cons_self, rfl⟩⟩
      · exact ⟨reached.append rfl, done.append⟩
      · intro past' _ kept
        exact ih (fun key member => derived key (List.mem_cons_of_mem _ member)) kept.1 kept.2
      · exact fun past' _ kept => kept

theorem follows_cleanupStorage (reached : Reached past (settled ++ candidate :: rest) settled) :
    (service.cleanupStorage candidate).Follows service.Rule
      (fun past' result => Reached past' (settled ++ candidate :: rest) settled ∧
        (result = .ok () → ∃ before, service.SessionDone before candidate ∧ past' = before ++
          [⟨.provider (.deleteObject service.rawStore.bucket candidate.rawObjectKey.asStr),
            .ok ()⟩])) past := by
  unfold cleanupStorage
  refine Attempt.follows_bind (follows_abortSession reached) ?_ ?_
  · intro past _ aborted
    refine Attempt.follows_bind
      (follows_deleteDerivatives _ (fun _ member => member) aborted.1 (aborted.2 rfl)) ?_ ?_
    · intro past _ cleared
      refine Attempt.follows_mapError (Attempt.follows_mapError ⟨?_, fun answer => ?_⟩)
      · exact ⟨candidate, ⟨settled, rest, cleared.1⟩, .inr ⟨rfl, rfl, cleared.2⟩⟩
      · refine ⟨cleared.1.append rfl, fun deleted => ⟨past, cleared.2, ?_⟩⟩
        cases answer with
        | ok => rfl
        | error error => cases deleted
    · intro past error cleared
      refine ⟨cleared.1, fun failed => ?_⟩
      cases failed
  · intro past error aborted
    refine ⟨aborted.1, fun failed => ?_⟩
    cases failed

theorem follows_settleCandidate {owner : String} {cleaned : Except String Unit}
    (reached : Reached past (settled ++ candidate :: rest) settled)
    (emptied : cleaned = .ok () → ∃ before, service.SessionDone before candidate ∧
      past = before ++ [⟨.provider (.deleteObject service.rawStore.bucket
        candidate.rawObjectKey.asStr), .ok ()⟩]) :
    (service.settleCandidate owner candidate cleaned).Follows service.Rule
      (fun past' result => result = .ok () →
        Reached past' (settled ++ candidate :: rest) (settled ++ [candidate])) past := by
  cases cleaned with
  | ok =>
      obtain ⟨before, done, rfl⟩ := emptied rfl
      refine follows_now trivial fun completedAt => ?_
      have ready : Reached (_ ++ [⟨.now, completedAt⟩]) (settled ++ candidate :: rest) settled :=
        reached.append rfl
      refine Attempt.follows_mapError ⟨?_, fun answer _ => ⟨ready.claimed.append, ?_⟩⟩
      · refine ⟨candidate, rfl, ⟨settled, rest, ready⟩, before, completedAt, done, ?_⟩
        exact List.append_assoc ..
      · rw [settledUploads_append, ready.settled, List.map_append]
        rfl
  | error errorCode =>
      refine follows_now trivial fun failedAt => ?_
      have ready : Reached (_ ++ [⟨.now, failedAt⟩]) (settled ++ candidate :: rest) settled :=
        reached.append rfl
      refine Attempt.follows_okOr (fun retryAt _ => ?_) fun _ failed => by cases failed
      refine Attempt.follows_mapError ⟨?_, fun answer _ => ⟨ready.claimed.append, ?_⟩⟩
      · exact ⟨candidate, rfl, settled, rest, ready⟩
      · rw [settledUploads_append, ready.settled, List.map_append]
        rfl

theorem follows_cleanCandidates {owner : String} (candidates : List CleanupCandidate)
    (summary : LifecycleRunSummary) (reached : Reached past (settled ++ candidates) settled) :
    (service.cleanCandidates owner candidates summary).Follows service.Rule
      (fun _ _ => True) past := by
  induction candidates generalizing past settled summary with
  | nil => trivial
  | cons candidate candidates ih =>
      refine Attempt.follows_lifted (follows_cleanupStorage reached) fun past cleaned cleared => ?_
      refine Attempt.follows_bind (follows_settleCandidate cleared.1 cleared.2) ?_ fun _ _ _ => trivial
      intro past _ kept
      have next : Reached past (settled ++ [candidate] ++ candidates) (settled ++ [candidate]) := by
        rw [List.append_assoc]
        exact kept rfl
      exact ih _ next

/-- **A maintenance run settles what it was given, one after the other.** -/
theorem follows_runOnce (owner : String) :
    (service.runOnce owner).Follows service.Rule (fun _ _ => True) [] := by
  unfold runOnce
  refine Attempt.follows_ensure (fun _ => ?_) fun _ => trivial
  refine follows_now trivial fun startedAt => ?_
  refine Attempt.follows_okOr (fun createdBefore _ => ?_) fun _ => trivial
  refine Attempt.follows_okOr (fun rejectedBefore _ => ?_) fun _ => trivial
  refine follows_call ?_ (fun candidates => ?_) fun _ => trivial
  · intro exchange member
    rw [List.nil_append, List.mem_singleton] at member
    rw [member]
  have start : Reached ([] ++ [⟨.now, startedAt⟩] ++ [⟨.store (.claimCleanupBatch owner startedAt
      createdBefore rejectedBefore service.policy.leaseFor service.policy.batchSize
      service.policy.maxAttempts), .ok candidates⟩]) ([] ++ candidates) [] := by
    refine ⟨⟨owner, startedAt, createdBefore, rejectedBefore, service.policy.leaseFor,
      service.policy.batchSize, service.policy.maxAttempts, ?_⟩, rfl⟩
    exact List.mem_append_right _ (List.mem_singleton_self _)
  refine Attempt.follows_bind (follows_cleanCandidates candidates _ start) ?_ fun _ _ _ => trivial
  intro past summary _
  refine follows_now trivial fun cleanedAt => ?_
  refine Attempt.follows_okOr (fun deletedBefore _ => ?_) fun _ => trivial
  exact follows_call trivial (fun _ => trivial) fun _ => trivial

end Cleaning

end LifecycleService

end MediaBooster.Service
