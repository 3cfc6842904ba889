/-
# Lifecycle.Leases -- the protocol of the cleanup leases

The cleanup columns of an upload are a lease register (`Theory.Lease`): a claim acquires
every row it selects, completing and failing a cleanup release one.  Nothing else touches
the owner, the expiry or the attempts, neither a deletion request nor a confirmation, an
abort or a rejection (`RowMove.lease_same`); a deletion request moves the retry time only.

`Told` is what the answers of a run amount to: who was told of which lease, the lease last
granted on each upload, and how often it was granted.  `Agrees` says that the rows are
what the answers say, so that the leases are exclusive and the attempts are the claims;
every event keeps it (`Agrees.step`), the purge of tombstones included, as long as the id
of an upload is never reused.

`cleanup_lease_protocol` collects what the claims and the two outcomes can do.
-/
import MediaBooster.Lifecycle.Cleanup
import MediaBooster.Theory.Lease

namespace MediaBooster.Lifecycle

set_option autoImplicit false

open MediaBooster.Domain MediaBooster.Store MediaBooster.Theory MediaBooster.Theory.Run
open MediaBooster.Theory.Table MediaBooster.Theory.Transaction

/-! ## Events -/

/-- A call of the cleanup protocol and its answer, or any other call of the store. -/
inductive CleanupEvent
  | claim (owner : String) (now createdBefore rejectedBefore : OffsetDateTime)
      (leaseFor : Duration) (limit maxAttempts : Nat)
      (result : Except LifecycleRepositoryError (List CleanupCandidate))
  | complete (uploadId : UploadId) (owner : String) (now : OffsetDateTime)
      (result : Except LifecycleRepositoryError Unit)
  | fail (uploadId : UploadId) (owner : String) (now retryAt : OffsetDateTime)
      (errorCode : String) (result : Except LifecycleRepositoryError Unit)
  | other (op : Op) (ok : Bool)

/-- Whether an operation is a call of the cleanup protocol. -/
def cleansUp : Op → Bool
  | .claimCleanupBatch .. | .completeCleanup .. | .failCleanup .. => true
  | _ => false

/-- One event. -/
inductive CleanupStep : SqliteStore → CleanupEvent → SqliteStore → Prop
  | claim {s t : SqliteStore} {owner : String} {now createdBefore rejectedBefore : OffsetDateTime}
      {leaseFor : Duration} {limit maxAttempts : Nat}
      {result : Except LifecycleRepositoryError (List CleanupCandidate)}
      (replies : Replies (claimCleanupBatch owner now createdBefore rejectedBefore leaseFor limit
        maxAttempts) s result t) :
      CleanupStep s (.claim owner now createdBefore rejectedBefore leaseFor limit maxAttempts
        result) t
  | complete {s t : SqliteStore} {uploadId : UploadId} {owner : String} {now : OffsetDateTime}
      {result : Except LifecycleRepositoryError Unit}
      (replies : Replies (completeCleanup uploadId owner now) s result t) :
      CleanupStep s (.complete uploadId owner now result) t
  | fail {s t : SqliteStore} {uploadId : UploadId} {owner : String} {now retryAt : OffsetDateTime}
      {errorCode : String} {result : Except LifecycleRepositoryError Unit}
      (replies : Replies (failCleanup uploadId owner now retryAt errorCode) s result t) :
      CleanupStep s (.fail uploadId owner now retryAt errorCode result) t
  | other {s t : SqliteStore} {op : Op} {ok : Bool} (elsewhere : cleansUp op = false)
      (answers : Answers op s ok t) : CleanupStep s (.other op ok) t

/-- What an event tells its caller: leases until a second, or that one is over. -/
inductive LeaseReport
  | granted (owner : String) (leaseUntil : Int) (uploads : List UploadId)
  | settled (owner : String) (uploadId : UploadId)
deriving DecidableEq

namespace CleanupEvent

def report : CleanupEvent → Option LeaseReport
  | claim owner now _ _ leaseFor _ _ (.ok candidates) =>
      some (.granted owner (now.unixTimestamp + leaseFor.asSecs)
        (candidates.map CleanupCandidate.uploadId))
  | complete uploadId owner _ (.ok ()) => some (.settled owner uploadId)
  | fail uploadId owner _ _ _ (.ok ()) => some (.settled owner uploadId)
  | _ => none

/-- The clock reading of a call of the protocol. -/
def now : CleanupEvent → Option OffsetDateTime
  | claim _ now _ _ _ _ _ _ | complete _ _ now _ | fail _ _ now _ _ _ => some now
  | other _ _ => none

/-- Whether the event is a claim that leased `uploadId`. -/
def leases (uploadId : UploadId) (event : CleanupEvent) : Bool :=
  match event.report with
  | some (.granted _ _ uploads) => uploads.contains uploadId
  | _ => false

/-- The attempts a claim is limited to. -/
def maxAttempts : CleanupEvent → Option Nat
  | claim _ _ _ _ _ _ maxAttempts _ => some maxAttempts
  | _ => none

/-- The outcomes of a cleanup, with the worker that reports them. -/
def outcome : CleanupEvent → Option (String × UploadId)
  | complete uploadId owner _ _ | fail uploadId owner _ _ _ _ => some (owner, uploadId)
  | _ => none

/-- What an outcome writes. -/
def columns : CleanupEvent → UploadProgress → UploadProgress
  | complete _ _ now _ => tombstoneColumns now.unixTimestamp
  | fail _ _ now retryAt errorCode _ =>
      retryColumns now.unixTimestamp retryAt.unixTimestamp errorCode
  | _ => id

end CleanupEvent

/-! ## Runs -/

/-- The store, the last reading of the clock, and every upload id stored so far. -/
structure CleanupState where
  store : SqliteStore
  clock : OffsetDateTime
  issued : List UploadId

/-- An event of a run whose clock does not go back and whose upload ids are never reused. -/
structure CleanupRunStep (s : CleanupState) (event : CleanupEvent) (t : CleanupState) : Prop where
  step : CleanupStep s.store event t.store
  clock : t.clock = event.now.getD s.clock
  monotone : s.clock ≤ t.clock
  fresh : ∀ row ∈ t.store.uploads, (∀ before ∈ s.store.uploads, before.id ≠ row.id) →
    row.id ∉ s.issued
  issued : t.issued = s.issued ++ t.store.uploads.map fun row => row.id

/-- A run from the migrated database. -/
abbrev CleanupRun (start : OffsetDateTime) (events : List CleanupEvent) (s : CleanupState) : Prop :=
  Trace CleanupRunStep ⟨.migrated, start, []⟩ events s

theorem CleanupStep.answers {s t : SqliteStore} {event : CleanupEvent}
    (step : CleanupStep s event t) : ∃ op ok, Answers op s ok t := by
  cases step with
  | @claim _ owner now createdBefore rejectedBefore leaseFor limit maxAttempts result replies =>
      exact ⟨.claimCleanupBatch owner now createdBefore rejectedBefore leaseFor limit maxAttempts, _,
        .ofReplies (fun _ => rfl) replies⟩
  | @complete _ uploadId owner now result replies =>
      exact ⟨.completeCleanup uploadId owner now, _, .ofReplies (fun _ => rfl) replies⟩
  | @fail _ uploadId owner now retryAt errorCode result replies =>
      exact ⟨.failCleanup uploadId owner now retryAt errorCode, _,
        .ofReplies (fun _ => rfl) replies⟩
  | @other _ op ok elsewhere answers => exact ⟨op, ok, answers⟩

theorem CleanupStep.integrity {s t : SqliteStore} {event : CleanupEvent}
    (step : CleanupStep s event t) (integrity : s.Integrity) : t.Integrity := by
  obtain ⟨op, ok, answers⟩ := step.answers
  exact answers.integrity integrity

/-! ## What the answers say -/

/-- The answers so far: who was told of which lease, the lease last granted on each upload,
and how often it was granted. -/
structure Told where
  held : String → UploadId → Option Int
  lease : UploadId → Option (String × Int)
  claims : UploadId → Nat

namespace Told

def silent : Told := ⟨fun _ _ => none, fun _ => none, fun _ => 0⟩

def grant (told : Told) (owner : String) (leaseUntil : Int) (uploads : List UploadId) : Told where
  held := fun worker id =>
    if owner = worker ∧ id ∈ uploads then some leaseUntil else told.held worker id
  lease := fun id => if id ∈ uploads then some (owner, leaseUntil) else told.lease id
  claims := fun id => told.claims id + if id ∈ uploads then 1 else 0

def settle (told : Told) (owner : String) (uploadId : UploadId) : Told where
  held := fun worker id => if owner = worker ∧ id = uploadId then none else told.held worker id
  lease := fun id => if id = uploadId then none else told.lease id
  claims := told.claims

/-- The answers after one more event. -/
def add (told : Told) (event : CleanupEvent) : Told :=
  match event.report with
  | some (.granted owner leaseUntil uploads) => told.grant owner leaseUntil uploads
  | some (.settled owner uploadId) => told.settle owner uploadId
  | none => told

theorem add_none {told : Told} {event : CleanupEvent} (report : event.report = none) :
    told.add event = told := by
  rw [add, report]

theorem add_granted {told : Told} {event : CleanupEvent} {owner : String} {leaseUntil : Int}
    {uploads : List UploadId} (report : event.report = some (.granted owner leaseUntil uploads)) :
    told.add event = told.grant owner leaseUntil uploads := by
  rw [add, report]

theorem add_settled {told : Told} {event : CleanupEvent} {owner : String} {uploadId : UploadId}
    (report : event.report = some (.settled owner uploadId)) :
    told.add event = told.settle owner uploadId := by
  rw [add, report]

end Told

/-- What the answers to a run say. -/
def toldBy (events : List CleanupEvent) : Told := events.foldl Told.add .silent

/-- The claims that leased an upload. -/
def claimsOf (events : List CleanupEvent) (uploadId : UploadId) : Nat :=
  events.countP (CleanupEvent.leases uploadId)

/-- `owner` was granted a lease on `uploadId` that is not over at `instant`. -/
def Holds (events : List CleanupEvent) (owner : String) (uploadId : UploadId)
    (instant : OffsetDateTime) : Prop :=
  ∃ leaseUntil, (toldBy events).held owner uploadId = some leaseUntil ∧
    instant.unixTimestamp < leaseUntil

theorem Told.add_claims (told : Told) (event : CleanupEvent) (uploadId : UploadId) :
    (told.add event).claims uploadId =
      told.claims uploadId + if event.leases uploadId then 1 else 0 := by
  cases report : event.report with
  | none =>
      rw [Told.add_none report]
      simp [CleanupEvent.leases, report]
  | some reported =>
      cases reported with
      | granted owner leaseUntil uploads =>
          rw [Told.add_granted report]
          simp [CleanupEvent.leases, report, Told.grant]
      | settled owner id =>
          rw [Told.add_settled report]
          simp [CleanupEvent.leases, report, Told.settle]

theorem toldBy_claims (events : List CleanupEvent) (uploadId : UploadId) :
    (toldBy events).claims uploadId = claimsOf events uploadId := by
  suffices general : ∀ told : Told, (events.foldl Told.add told).claims uploadId =
      told.claims uploadId + events.countP (CleanupEvent.leases uploadId) by
    rw [toldBy, general, claimsOf]
    exact Nat.zero_add _
  induction events with
  | nil => exact fun _ => rfl
  | cons event events ih =>
      intro told
      rw [List.foldl_cons, ih, List.countP_cons, Told.add_claims]
      omega

/-! ## The lease of a row -/

/-- The lease in a row. -/
def cleanupLease (row : UploadRow) : Option (String × Int) :=
  match row.cleanupLeaseOwner, row.cleanupLeaseUntil with
  | some owner, some leaseUntil => some (owner, leaseUntil)
  | _, _ => none

theorem cleanupLease_eq_some {row : UploadRow} {owner : String} {leaseUntil : Int} :
    cleanupLease row = some (owner, leaseUntil) ↔
      row.cleanupLeaseOwner = some owner ∧ row.cleanupLeaseUntil = some leaseUntil := by
  unfold cleanupLease
  split
  · rename_i held expires
    simp [held, expires]
  · rename_i other
    constructor
    · intro found
      cases found
    · rintro ⟨held, expires⟩
      exact absurd expires (other owner leaseUntil held)

/-- The lease and the attempts are the same. -/
structure SameLease (before after : UploadRow) : Prop where
  id : after.id = before.id
  lease : cleanupLease after = cleanupLease before
  attempts : after.cleanupAttempts = before.cleanupAttempts

/-- Nothing but the cleanup protocol touches the lease. -/
theorem RowMove.lease_same {s : SqliteStore} {op : Op} {before after : UploadRow}
    (move : RowMove s op before after) (elsewhere : cleansUp op = false) :
    SameLease before after := by
  cases move with
  | leased | tombstoned | retried => simp [cleansUp] at elsewhere
  | same | confirmed | aborted | requested | started | published | rejected =>
      exact ⟨rfl, rfl, rfl⟩

theorem cleanupLease_reservation {row : UploadRow} (reservation : isReservation row) :
    cleanupLease row = none := by
  obtain ⟨-, -, -, owner, -⟩ := reservation
  unfold cleanupLease
  rw [owner]

/-! ## What an event can do -/

theorem candidates_ids {store : SqliteStore} {rows : List UploadRow}
    {candidates : List CleanupCandidate} (of : List.Forall₂ (CandidateOf store) rows candidates) :
    candidates.map CleanupCandidate.uploadId = rows.map fun row => row.id := by
  induction of with
  | nil => rfl
  | cons first rest ih => rw [List.map_cons, List.map_cons, ih, first.uploadId]

/-- A claim that answered. -/
structure Granted (s : SqliteStore) (event : CleanupEvent) (t : SqliteStore) (owner : String)
    (now createdBefore rejectedBefore : OffsetDateTime) (leaseFor : Duration)
    (limit maxAttempts : Nat) (candidates : List CleanupCandidate) : Prop where
  event : event = .claim owner now createdBefore rejectedBefore leaseFor limit maxAttempts
    (.ok candidates)
  leased : CleanupLeased owner (now.unixTimestamp + leaseFor.asSecs)
    (s.cleanupRows limit maxAttempts now.unixTimestamp createdBefore.unixTimestamp
      rejectedBefore.unixTimestamp) candidates s t

/-- An outcome that took effect. -/
structure Settled (s : SqliteStore) (event : CleanupEvent) (t : SqliteStore) (owner : String)
    (upload : UploadRow) : Prop where
  report : event.report = some (.settled owner upload.id)
  leased : cleanupLeasedBy upload.id owner upload = true
  moved : UploadMoved upload event.columns s t

/-- What a step that reports nothing leaves of the leases. -/
def Quiet (s t : SqliteStore) : Prop :=
  ∀ after ∈ t.uploads, (∃ before ∈ s.uploads, SameLease before after) ∨
    (isReservation after ∧ ∀ before ∈ s.uploads, before.id ≠ after.id)

theorem Quiet.refl (s : SqliteStore) : Quiet s s :=
  fun row member => .inl ⟨row, member, rfl, rfl, rfl⟩

/-- **All that an event can do to the leases.** -/
theorem CleanupStep.cases {s t : SqliteStore} {event : CleanupEvent} (integrity : s.Integrity)
    (step : CleanupStep s event t) :
    (event.report = none ∧ Quiet s t) ∨
      (∃ owner now createdBefore rejectedBefore leaseFor limit maxAttempts candidates,
        Granted s event t owner now createdBefore rejectedBefore leaseFor limit maxAttempts
          candidates) ∨
      ∃ owner upload, Settled s event t owner upload := by
  cases step with
  | @claim _ owner now createdBefore rejectedBefore leaseFor limit maxAttempts result replies =>
      cases replies with
      | refused error => exact .inl ⟨rfl, .refl s⟩
      | ran answer =>
          cases result with
          | error error =>
              obtain ⟨rfl, -⟩ | ⟨_, _, _, failed, -⟩ := claimCleanupBatch_cases integrity answer
              · exact .inl ⟨rfl, .refl t⟩
              · cases failed
          | ok candidates =>
              exact .inr (.inl ⟨_, _, _, _, _, _, _, candidates, rfl,
                claimCleanupBatch_ok integrity answer⟩)
  | complete replies =>
      cases replies with
      | refused error => exact .inl ⟨rfl, .refl s⟩
      | ran answer =>
          obtain ⟨rfl, upload, leased, moved⟩ | ⟨rfl, error, rfl⟩ :=
            completeCleanup_cases integrity answer
          · obtain ⟨rfl, -⟩ := cleanupLeasedBy_iff.1 leased
            exact .inr (.inr ⟨_, upload, rfl, leased, moved⟩)
          · exact .inl ⟨rfl, .refl t⟩
  | fail replies =>
      cases replies with
      | refused error => exact .inl ⟨rfl, .refl s⟩
      | ran answer =>
          obtain ⟨rfl, upload, leased, moved⟩ | ⟨rfl, error, rfl⟩ :=
            failCleanup_cases integrity answer
          · obtain ⟨rfl, -⟩ := cleanupLeasedBy_iff.1 leased
            exact .inr (.inr ⟨_, upload, rfl, leased, moved⟩)
          · exact .inl ⟨rfl, .refl t⟩
  | other elsewhere answers =>
      refine .inl ⟨rfl, fun after member => ?_⟩
      obtain ⟨before, there, move⟩ | reservation := answers.rowMoves integrity after member
      · exact .inl ⟨before, there, RowMove.lease_same move elsewhere⟩
      · exact .inr reservation

/-! ## The invariant -/

/-- The register of an upload. -/
def register (told : Told) (s : CleanupState) (uploadId : UploadId) : Lease.Register String Int :=
  ⟨told.lease uploadId, s.clock.unixTimestamp⟩

/-- The answers agree with the store. -/
structure Agrees (told : Told) (s : CleanupState) : Prop where
  integrity : s.store.Integrity
  columns : ∀ row ∈ s.store.uploads, told.lease row.id = cleanupLease row
  counted : ∀ row ∈ s.store.uploads, (told.claims row.id : Int) = row.cleanupAttempts
  known : ∀ uploadId, Lease.Known (fun owner => told.held owner uploadId)
    (register told s uploadId)
  issued : ∀ row ∈ s.store.uploads, row.id ∈ s.issued
  unissued : ∀ uploadId, uploadId ∉ s.issued →
    told.lease uploadId = none ∧ told.claims uploadId = 0

theorem agrees_migrated (start : OffsetDateTime) : Agrees .silent ⟨.migrated, start, []⟩ where
  integrity := migrated_integrity
  columns := fun _ member => nomatch member
  counted := fun _ member => nomatch member
  known := fun _ _ _ knows => nomatch knows
  issued := fun _ member => nomatch member
  unissued := fun _ _ => ⟨rfl, rfl⟩

section Steps

variable {told : Told} {s t : CleanupState} {event : CleanupEvent}

theorem CleanupRunStep.later (step : CleanupRunStep s event t) :
    s.clock.unixTimestamp ≤ t.clock.unixTimestamp :=
  OffsetDateTime.unixTimestamp_mono step.monotone

theorem CleanupRunStep.issued_mem (step : CleanupRunStep s event t) {row : UploadRow}
    (member : row ∈ t.store.uploads) : row.id ∈ t.issued := by
  rw [step.issued]
  exact List.mem_append_right _ (List.mem_map.2 ⟨row, member, rfl⟩)

theorem CleanupRunStep.issued_mono (step : CleanupRunStep s event t) {uploadId : UploadId}
    (unissued : uploadId ∉ t.issued) : uploadId ∉ s.issued := by
  intro before
  apply unissued
  rw [step.issued]
  exact List.mem_append_left _ before

/-- A step that reports nothing keeps the answers true. -/
theorem Agrees.quiet (agrees : Agrees told s) (step : CleanupRunStep s event t)
    (quiet : Quiet s.store t.store) : Agrees told t where
  integrity := step.step.integrity agrees.integrity
  columns := fun after member => by
    obtain ⟨before, there, same⟩ | ⟨reservation, fresh⟩ := quiet after member
    · rw [same.id, same.lease]
      exact agrees.columns before there
    · rw [cleanupLease_reservation reservation]
      exact (agrees.unissued after.id (step.fresh after member fresh)).1
  counted := fun after member => by
    obtain ⟨before, there, same⟩ | ⟨reservation, fresh⟩ := quiet after member
    · rw [same.id, same.attempts]
      exact agrees.counted before there
    · obtain ⟨-, -, -, -, -, -, attempts⟩ := reservation
      rw [attempts, (agrees.unissued after.id (step.fresh after member fresh)).2]
      rfl
  known := fun uploadId => by
    have idle : Lease.Step (register told s uploadId) .idle (register told t uploadId) :=
      .idle step.later
    exact (agrees.known uploadId).step idle
  issued := fun row member => step.issued_mem member
  unissued := fun uploadId unissued => agrees.unissued uploadId (step.issued_mono unissued)

variable {owner : String} {now createdBefore rejectedBefore : OffsetDateTime}
  {leaseFor : Duration} {limit maxAttempts : Nat} {candidates : List CleanupCandidate}

theorem Granted.report (granted : Granted s.store event t.store owner now createdBefore
      rejectedBefore leaseFor limit maxAttempts candidates) :
    event.report = some (.granted owner (now.unixTimestamp + leaseFor.asSecs)
      (candidates.map CleanupCandidate.uploadId)) := by
  rw [granted.event]
  rfl

/-- What a claim selects is stored and eligible. -/
theorem Granted.selected (granted : Granted s.store event t.store owner now createdBefore
      rejectedBefore leaseFor limit maxAttempts candidates) {uploadId : UploadId}
    (member : uploadId ∈ candidates.map CleanupCandidate.uploadId) :
    ∃ row ∈ s.store.uploads, row.id = uploadId ∧ cleanupEligible maxAttempts now.unixTimestamp
      createdBefore.unixTimestamp rejectedBefore.unixTimestamp row = true := by
  rw [candidates_ids granted.leased.candidates] at member
  obtain ⟨row, listed, rfl⟩ := List.mem_map.1 member
  obtain ⟨there, eligible⟩ := cleanupRows_mem listed
  exact ⟨row, there, rfl, eligible⟩

/-- The rows a claim leaves. -/
theorem leased_rows {owner : String} {leaseUntil : Int} {rows : List UploadRow}
    {candidates : List CleanupCandidate} {store store' : SqliteStore}
    (leased : CleanupLeased owner leaseUntil rows candidates store store') {after : UploadRow}
    (member : after ∈ store'.uploads) :
    ∃ before ∈ store.uploads, after.id = before.id ∧
      after = if before.id ∈ candidates.map CleanupCandidate.uploadId then
        before.assign (leaseColumns owner leaseUntil) else before := by
  rw [leased.uploads] at member
  obtain ⟨before, there, rfl⟩ := mem_updateWhere.1 member
  rw [candidates_ids leased.candidates]
  refine ⟨before, there, ?_, ?_⟩
  · split <;> rfl
  by_cases reached : before.id ∈ rows.map fun row => row.id
  · rw [if_pos reached, if_pos]
    obtain ⟨other, listed, same⟩ := List.mem_map.1 reached
    exact List.any_eq_true.2 ⟨other, listed, beq_iff_eq.2 same.symm⟩
  · rw [if_neg reached, if_neg]
    intro hit
    obtain ⟨other, listed, same⟩ := List.any_eq_true.1 hit
    exact reached (List.mem_map.2 ⟨other, listed, (beq_iff_eq.1 same).symm⟩)

/-- A claim keeps the answers true: it acquires what it selects. -/
theorem Agrees.granted (agrees : Agrees told s) (step : CleanupRunStep s event t)
    (granted : Granted s.store event t.store owner now createdBefore rejectedBefore leaseFor
      limit maxAttempts candidates) :
    Agrees (told.grant owner (now.unixTimestamp + leaseFor.asSecs)
      (candidates.map CleanupCandidate.uploadId)) t where
  integrity := step.step.integrity agrees.integrity
  columns := fun after member => by
    obtain ⟨before, there, sameId, moved⟩ := leased_rows granted.leased member
    show (if after.id ∈ _ then _ else told.lease after.id) = cleanupLease after
    rw [sameId]
    by_cases leased : before.id ∈ candidates.map CleanupCandidate.uploadId
    · rw [if_pos leased] at moved ⊢
      rw [moved]
      rfl
    · rw [if_neg leased] at moved ⊢
      rw [moved]
      exact agrees.columns before there
  counted := fun after member => by
    obtain ⟨before, there, sameId, moved⟩ := leased_rows granted.leased member
    show ((told.claims after.id + if after.id ∈ _ then 1 else 0 : Nat) : Int) =
      after.cleanupAttempts
    have counted := agrees.counted before there
    rw [sameId]
    by_cases leased : before.id ∈ candidates.map CleanupCandidate.uploadId
    · rw [if_pos leased] at moved ⊢
      rw [moved]
      show _ = before.cleanupAttempts + 1
      omega
    · rw [if_neg leased] at moved ⊢
      rw [moved]
      exact counted
  known := fun uploadId => by
    have clock : t.clock = now := by
      rw [step.clock, granted.event]
      rfl
    have later : s.clock.unixTimestamp ≤ now.unixTimestamp := by
      rw [← clock]
      exact step.later
    by_cases leased : uploadId ∈ candidates.map CleanupCandidate.uploadId
    · obtain ⟨row, there, rfl, eligible⟩ := granted.selected leased
      have free : ∀ holder expiry, (register told s row.id).holder = some (holder, expiry) →
          expiry ≤ now.unixTimestamp := by
        intro holder expiry held
        change told.lease row.id = _ at held
        rw [agrees.columns row there, cleanupLease_eq_some] at held
        exact (cleanupEligible_iff.1 eligible).2.2.2.1 expiry held.2
      have known := (agrees.known row.id).step (.acquire (s := register told s row.id) later free
        owner (now.unixTimestamp + leaseFor.asSecs) true)
      intro party expiry knows
      have learned : Lease.learn party (told.held party row.id)
          (.acquire owner (now.unixTimestamp + leaseFor.asSecs) true) = some expiry := by
        change (if owner = party ∧ row.id ∈ _ then _ else _) = _ at knows
        simpa [Lease.learn, leased] using knows
      rcases known party expiry learned with expired | held
      · left
        show expiry ≤ t.clock.unixTimestamp
        rw [clock]
        exact expired
      · right
        show (if row.id ∈ _ then _ else _) = _
        rw [if_pos leased]
        exact held
    · have idle : Lease.Step (register told s uploadId) .idle
          ⟨told.lease uploadId, t.clock.unixTimestamp⟩ := .idle step.later
      have known := (agrees.known uploadId).step idle
      intro party expiry knows
      change (if owner = party ∧ uploadId ∈ _ then _ else _) = _ at knows
      rw [if_neg (fun both => leased both.2)] at knows
      rcases known party expiry knows with expired | held
      · exact .inl expired
      · right
        show (if uploadId ∈ _ then _ else _) = _
        rw [if_neg leased]
        exact held
  issued := fun row member => step.issued_mem member
  unissued := fun uploadId unissued => by
    have before := step.issued_mono unissued
    have missed : uploadId ∉ candidates.map CleanupCandidate.uploadId := by
      intro leased
      obtain ⟨row, there, rfl, -⟩ := granted.selected leased
      exact before (agrees.issued row there)
    obtain ⟨lease, claims⟩ := agrees.unissued uploadId before
    constructor
    · show (if uploadId ∈ _ then _ else _) = none
      rw [if_neg missed]
      exact lease
    · show told.claims uploadId + (if uploadId ∈ _ then 1 else 0) = 0
      rw [if_neg missed, claims]

/-- The columns of an outcome give the lease up and keep the attempts. -/
theorem Settled.columns {upload : UploadRow} {store store' : SqliteStore}
    (settled : Settled store event store' owner upload) :
    cleanupLease (upload.assign event.columns) = none ∧
      (upload.assign event.columns).cleanupAttempts = upload.cleanupAttempts := by
  have report := settled.report
  cases event with
  | complete | fail => exact ⟨rfl, rfl⟩
  | claim owner now createdBefore rejectedBefore leaseFor limit maxAttempts result =>
      cases result <;> cases report
  | other => cases report

/-- An outcome keeps the answers true: it releases what its caller leases. -/
theorem Agrees.settled {upload : UploadRow} (agrees : Agrees told s)
    (step : CleanupRunStep s event t) (settled : Settled s.store event t.store owner upload) :
    Agrees (told.settle owner upload.id) t where
  integrity := step.step.integrity agrees.integrity
  columns := fun after member => by
    obtain ⟨lease, -⟩ := settled.columns
    show (if after.id = upload.id then none else told.lease after.id) = cleanupLease after
    obtain rfl | ⟨old, apart⟩ := settled.moved.mem_cases agrees.integrity member
    · rw [lease]
      exact if_pos rfl
    · rw [if_neg apart]
      exact agrees.columns after old
  counted := fun after member => by
    obtain ⟨-, attempts⟩ := settled.columns
    obtain rfl | ⟨old, apart⟩ := settled.moved.mem_cases agrees.integrity member
    · rw [attempts]
      exact agrees.counted upload settled.moved.member
    · exact agrees.counted after old
  known := fun uploadId => by
    by_cases same : uploadId = upload.id
    · subst same
      have owned := (cleanupLeasedBy_iff.1 settled.leased).2.2
      have columns := agrees.columns upload settled.moved.member
      intro party expiry knows
      change (if owner = party ∧ upload.id = upload.id then none else told.held party upload.id) =
        some expiry at knows
      by_cases told' : owner = party
      · rw [if_pos ⟨told', rfl⟩] at knows
        cases knows
      · rw [if_neg (fun both => told' both.1)] at knows
        left
        rcases agrees.known upload.id party expiry knows with expired | held
        · exact le_trans expired step.later
        · change told.lease upload.id = _ at held
          rw [columns, cleanupLease_eq_some, owned] at held
          exact absurd (Option.some.inj held.1) told'
    · have idle : Lease.Step (register told s uploadId) .idle
          ⟨told.lease uploadId, t.clock.unixTimestamp⟩ := .idle step.later
      have known := (agrees.known uploadId).step idle
      intro party expiry knows
      change (if owner = party ∧ uploadId = upload.id then none else told.held party uploadId) =
        some expiry at knows
      rw [if_neg (fun both => same both.2)] at knows
      rcases known party expiry knows with expired | held
      · exact .inl expired
      · right
        show (if uploadId = upload.id then none else told.lease uploadId) = _
        rw [if_neg same]
        exact held
  issued := fun row member => step.issued_mem member
  unissued := fun uploadId unissued => by
    obtain ⟨lease, claims⟩ := agrees.unissued uploadId (step.issued_mono unissued)
    refine ⟨?_, claims⟩
    show (if uploadId = upload.id then none else told.lease uploadId) = none
    rw [lease]
    split <;> rfl

/-- **Every event keeps the answers true.** -/
theorem Agrees.step (agrees : Agrees told s) (step : CleanupRunStep s event t) :
    Agrees (told.add event) t := by
  obtain ⟨report, quiet⟩ | ⟨owner, now, createdBefore, rejectedBefore, leaseFor, limit,
    maxAttempts, candidates, granted⟩ | ⟨owner, upload, settled⟩ :=
    step.step.cases agrees.integrity
  · rw [Told.add_none report]
    exact agrees.quiet step quiet
  · rw [Told.add_granted granted.report]
    exact agrees.granted step granted
  · rw [Told.add_settled settled.report]
    exact agrees.settled step settled

end Steps

theorem run_agrees {told : Told} {s t : CleanupState} {events : List CleanupEvent}
    (run : Trace CleanupRunStep s events t) (agrees : Agrees told s) :
    Agrees (events.foldl Told.add told) t := by
  induction run generalizing told with
  | nil => exact agrees
  | cons step _ ih => exact ih (agrees.step step)

theorem CleanupRun.agrees {start : OffsetDateTime} {events : List CleanupEvent} {s : CleanupState}
    (run : CleanupRun start events s) : Agrees (toldBy events) s :=
  run_agrees run (agrees_migrated start)

/-! ## Attempts -/

/-- No claim allows more than `limit` attempts. -/
def AttemptsWithin (limit : Nat) (events : List CleanupEvent) : Prop :=
  ∀ event ∈ events, ∀ maxAttempts, event.maxAttempts = some maxAttempts → maxAttempts ≤ limit

/-- One more claim finds an attempt left. -/
theorem Agrees.claims_step {told : Told} {s t : CleanupState} {event : CleanupEvent} {limit : Nat}
    (agrees : Agrees told s) (step : CleanupRunStep s event t)
    (within : ∀ maxAttempts, event.maxAttempts = some maxAttempts → maxAttempts ≤ limit)
    (uploadId : UploadId) (bounded : told.claims uploadId ≤ limit) :
    (told.add event).claims uploadId ≤ limit := by
  obtain ⟨report, -⟩ | ⟨owner, now, createdBefore, rejectedBefore, leaseFor, most, maxAttempts,
    candidates, granted⟩ | ⟨owner, upload, settled⟩ := step.step.cases agrees.integrity
  · rw [Told.add_none report]
    exact bounded
  · rw [Told.add_granted granted.report]
    show told.claims uploadId + (if uploadId ∈ _ then 1 else 0) ≤ limit
    by_cases leased : uploadId ∈ candidates.map CleanupCandidate.uploadId
    · rw [if_pos leased]
      obtain ⟨row, there, rfl, eligible⟩ := granted.selected leased
      have left := (cleanupEligible_iff.1 eligible).2.1
      have counted := agrees.counted row there
      have allowed := within maxAttempts (by rw [granted.event]; rfl)
      omega
    · rw [if_neg leased]
      exact bounded
  · rw [Told.add_settled settled.report]
    exact bounded

theorem run_claims {told : Told} {s t : CleanupState} {events : List CleanupEvent} {limit : Nat}
    (run : Trace CleanupRunStep s events t) (agrees : Agrees told s)
    (within : AttemptsWithin limit events) (uploadId : UploadId)
    (bounded : told.claims uploadId ≤ limit) :
    (events.foldl Told.add told).claims uploadId ≤ limit := by
  induction run generalizing told with
  | nil => exact bounded
  | cons step _ ih =>
      refine ih (agrees.step step) (fun event member => within event (List.mem_cons_of_mem _ member)) ?_
      exact agrees.claims_step step (within _ List.mem_cons_self) uploadId bounded

/-! ## The protocol -/

/-- What a claim may hand out after a run. -/
structure HandsOut (events : List CleanupEvent) (s : CleanupState) (now : OffsetDateTime)
    (limit maxAttempts : Nat) (candidates : List CleanupCandidate) : Prop where
  atMost : candidates.length ≤ limit
  distinct : (candidates.map CleanupCandidate.uploadId).Nodup
  due : ∀ candidate ∈ candidates, ∃ row ∈ s.store.uploads, row.id = candidate.uploadId ∧
    row.cleanupAttempts < maxAttempts ∧
    ∀ retryAt, row.cleanupRetryAt = some retryAt → retryAt ≤ now.unixTimestamp
  free : ∀ candidate ∈ candidates, ∀ owner, ¬Holds events owner candidate.uploadId now

/-- What an outcome may do: nothing, or what it does to an upload its caller leases. -/
def TakesEffect (s t : SqliteStore) (event : CleanupEvent) (owner : String)
    (uploadId : UploadId) : Prop :=
  (event.report = none ∧ t = s) ∨
    (event.report = some (.settled owner uploadId) ∧
      ∃ upload, cleanupLeasedBy uploadId owner upload = true ∧ UploadMoved upload event.columns s t)

theorem handsOut {events : List CleanupEvent} {s t : CleanupState} {owner : String}
    {now createdBefore rejectedBefore : OffsetDateTime} {leaseFor : Duration}
    {limit maxAttempts : Nat} {candidates : List CleanupCandidate}
    (agrees : Agrees (toldBy events) s)
    (step : CleanupRunStep s (.claim owner now createdBefore rejectedBefore leaseFor limit
      maxAttempts (.ok candidates)) t) : HandsOut events s now limit maxAttempts candidates := by
  have granted : Granted s.store (.claim owner now createdBefore rejectedBefore leaseFor limit
      maxAttempts (.ok candidates)) t.store owner now createdBefore rejectedBefore leaseFor limit
      maxAttempts candidates := by
    refine ⟨rfl, ?_⟩
    cases step.step with
    | claim replies =>
        cases replies with
        | ran answer => exact claimCleanupBatch_ok agrees.integrity answer
  have ids := candidates_ids granted.leased.candidates
  have later : s.clock.unixTimestamp ≤ now.unixTimestamp := by
    have later := step.later
    rw [step.clock] at later
    exact later
  refine ⟨?_, ?_, fun candidate member => ?_, fun candidate member owner' holds => ?_⟩
  · rw [← granted.leased.candidates.length_eq]
    exact List.length_take_le _ _
  · rw [ids]
    exact cleanupRows_keyed agrees.integrity.uploadIds
  · obtain ⟨row, there, same, eligible⟩ :=
      granted.selected (List.mem_map.2 ⟨candidate, member, rfl⟩)
    obtain ⟨-, attempts, retry, -⟩ := cleanupEligible_iff.1 eligible
    exact ⟨row, there, same, attempts, retry⟩
  · obtain ⟨row, there, same, eligible⟩ :=
      granted.selected (List.mem_map.2 ⟨candidate, member, rfl⟩)
    obtain ⟨leaseUntil, knows, unexpired⟩ := holds
    have held := (agrees.known candidate.uploadId).held later knows unexpired
    change (toldBy events).lease candidate.uploadId = _ at held
    rw [← same, agrees.columns row there, cleanupLease_eq_some] at held
    have expired := (cleanupEligible_iff.1 eligible).2.2.2.1 leaseUntil held.2
    omega

theorem takesEffect {s t : SqliteStore} {event : CleanupEvent} {owner : String}
    {uploadId : UploadId} (integrity : s.Integrity) (step : CleanupStep s event t)
    (outcome : event.outcome = some (owner, uploadId)) :
    TakesEffect s t event owner uploadId := by
  cases step with
  | claim => cases outcome
  | other => cases outcome
  | complete replies =>
      cases outcome
      cases replies with
      | refused error => exact .inl ⟨rfl, rfl⟩
      | ran answer =>
          obtain ⟨rfl, moved⟩ | ⟨same, error, rfl⟩ := completeCleanup_cases integrity answer
          · exact .inr ⟨rfl, moved⟩
          · exact .inl ⟨rfl, same⟩
  | fail replies =>
      cases outcome
      cases replies with
      | refused error => exact .inl ⟨rfl, rfl⟩
      | ran answer =>
          obtain ⟨rfl, moved⟩ | ⟨same, error, rfl⟩ := failCleanup_cases integrity answer
          · exact .inr ⟨rfl, moved⟩
          · exact .inl ⟨rfl, same⟩

/-- **The cleanup lease protocol.**  After every run: at every instant from the last reading
of the clock on, at most one worker has an unexpired lease on an upload; and no upload was
leased more often than the claims allow attempts.  The next claim hands out at most as many
uploads as it asked for, each once, each due, with an attempt left and leased to nobody; the
next outcome changes nothing, or what it says of an upload its caller leases. -/
theorem cleanup_lease_protocol {start : OffsetDateTime} {events : List CleanupEvent}
    {s : CleanupState} (run : CleanupRun start events s) :
    (∀ instant, s.clock ≤ instant → ∀ uploadId first second, Holds events first uploadId instant →
      Holds events second uploadId instant → first = second) ∧
    (∀ limit, AttemptsWithin limit events → ∀ uploadId, claimsOf events uploadId ≤ limit) ∧
    ∀ event t, CleanupRunStep s event t →
      (∀ owner now createdBefore rejectedBefore leaseFor limit maxAttempts candidates,
        event = .claim owner now createdBefore rejectedBefore leaseFor limit maxAttempts
          (.ok candidates) → HandsOut events s now limit maxAttempts candidates) ∧
      (∀ owner uploadId, event.outcome = some (owner, uploadId) →
        TakesEffect s.store t.store event owner uploadId) := by
  have agrees := CleanupRun.agrees run
  refine ⟨?_, ?_, fun event t step => ⟨?_, ?_⟩⟩
  · rintro instant later uploadId first second ⟨expiry, knows, unexpired⟩
      ⟨expiry', knows', unexpired'⟩
    have later := OffsetDateTime.unixTimestamp_mono later
    exact (agrees.known uploadId).exclusive later knows unexpired knows' unexpired'
  · intro limit within uploadId
    rw [← toldBy_claims]
    exact run_claims run (agrees_migrated start) within uploadId (Nat.zero_le _)
  · rintro owner now createdBefore rejectedBefore leaseFor limit maxAttempts candidates rfl
    exact handsOut agrees step
  · exact fun owner uploadId outcome => takesEffect agrees.integrity step.step outcome

/-- A claim of expired reservations under two attempts, with its answer. -/
def claimEvent (owner : String) (now : OffsetDateTime) (s : SqliteStore) : CleanupEvent × SqliteStore :=
  let ran := claimCleanupBatch owner now (sampleTime 40) (sampleTime 40) oneAttempt.leaseFor
    oneAttempt.batchSize 2 s
  (.claim owner now (sampleTime 40) (sampleTime 40) oneAttempt.leaseFor oneAttempt.batchSize 2 ran.1,
    ran.2)

/-- The sweeper leases the sample reservation, and so does the janitor once the lease is over. -/
def sweptSample : CleanupEvent × SqliteStore := claimEvent "sweeper" (sampleTime 100) reservedSample

def janitorSample : CleanupEvent × SqliteStore :=
  claimEvent "janitor" (sampleTime 170) sweptSample.2

/-- The sweeper reports its cleanup, too late. -/
def lateSample : Except LifecycleRepositoryError Unit × SqliteStore :=
  completeCleanup sampleUploadId "sweeper" (sampleTime 180) janitorSample.2

def sampleCleanup : List CleanupEvent :=
  [.other (.saveBatch sampleBatch sampleCapacity) true, sweptSample.1, janitorSample.1,
   .complete sampleUploadId "sweeper" (sampleTime 180) lateSample.1]

/-- Where the sample is the one upload, no upload is new. -/
theorem sample_known {before after : SqliteStore} {issued : List UploadId}
    (known : ∃ other ∈ before.uploads, other.id = sampleUploadId)
    (same : ∀ row ∈ after.uploads, row.id = sampleUploadId) :
    ∀ row ∈ after.uploads, (∀ other ∈ before.uploads, other.id ≠ row.id) → row.id ∉ issued := by
  intro row member fresh
  obtain ⟨other, there, named⟩ := known
  exact absurd (named.trans (same row member).symm) (fresh other there)

theorem sampleCleanup_run : CleanupRun (sampleTime 0) sampleCleanup
    ⟨lateSample.2, sampleTime 180, List.replicate 4 sampleUploadId⟩ := by
  have saved : Answers (.saveBatch sampleBatch sampleCapacity) .migrated true reservedSample := .ran
  refine .cons (t := ⟨reservedSample, sampleTime 0, [sampleUploadId]⟩) ?_
    (.cons (t := ⟨sweptSample.2, sampleTime 100, List.replicate 2 sampleUploadId⟩) ?_
    (.cons (t := ⟨janitorSample.2, sampleTime 170, List.replicate 3 sampleUploadId⟩) ?_
    (Trace.single ?_)))
  · exact ⟨.other rfl saved, rfl, by decide, fun _ _ _ => List.not_mem_nil, rfl⟩
  · exact ⟨.claim (.ran rfl), rfl, by decide, sample_known (by decide) (by decide), by decide⟩
  · exact ⟨.claim (.ran rfl), rfl, by decide, sample_known (by decide +kernel) (by decide +kernel),
      by decide +kernel⟩
  · exact ⟨.complete (.ran rfl), rfl, by decide, sample_known (by decide +kernel) (by decide +kernel),
      by decide +kernel⟩

/-- The lease of the sweeper is over and the janitor holds the next one alone: the sample was leased
twice, and the sweeper's late outcome has no effect. -/
theorem cleanup_lease_protocol_sample :
    sampleCleanup.filterMap CleanupEvent.report =
        [.granted "sweeper" (sampleTime 160).unixTimestamp [sampleUploadId],
         .granted "janitor" (sampleTime 230).unixTimestamp [sampleUploadId]] ∧
      (∀ owner, Holds sampleCleanup owner sampleUploadId (sampleTime 200) → owner = "janitor") ∧
      claimsOf sampleCleanup sampleUploadId ≤ 2 := by
  obtain ⟨exclusive, attempts, -⟩ := cleanup_lease_protocol sampleCleanup_run
  have janitor : Holds sampleCleanup "janitor" sampleUploadId (sampleTime 200) :=
    ⟨(sampleTime 230).unixTimestamp, by decide +kernel, by decide⟩
  refine ⟨by decide +kernel, fun owner holds => ?_, ?_⟩
  · exact exclusive (sampleTime 200) (by decide) sampleUploadId owner "janitor" holds janitor
  · refine attempts 2 (fun event member maxAttempts allowed => ?_) sampleUploadId
    simp only [sampleCleanup, List.mem_cons, List.not_mem_nil, or_false] at member
    rcases member with rfl | rfl | rfl | rfl
    · cases allowed
    · exact le_of_eq (Option.some.inj allowed).symm
    · exact le_of_eq (Option.some.inj allowed).symm
    · cases allowed

end MediaBooster.Lifecycle
