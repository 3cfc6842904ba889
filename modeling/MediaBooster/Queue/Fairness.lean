/-
# Queue.Fairness -- tenants are claimed in turn

`tenant_queue_state` and `queue_sequence` are the turns of `Theory.RoundRobin`: the
number of a tenant's last claim, 0 where there is no row, and the next number.  A claim
takes a job of the eligible tenant with the lowest number and gives it the next one
(`ServeStep.refines`); nothing else changes a turn.

* `queue_fair`: in every run, while a tenant has a claimable job nobody else is claimed
  twice before it is; and while the same `k` tenants are eligible, any `k` consecutive
  claims serve each of them exactly once.

A claim counts when its transaction commits, whatever `claim_next` then answers.
-/
import MediaBooster.Queue.Run
import MediaBooster.Theory.RoundRobin

namespace MediaBooster.Queue

set_option autoImplicit false

open MediaBooster.Domain MediaBooster.Store MediaBooster.Theory MediaBooster.Theory.Run
open MediaBooster.Theory.Table MediaBooster.Theory.Transaction

/-! ## Turns -/

/-- The tenants that have a claimable job. -/
def eligibleTenants (now : Int) (store : SqliteStore) : Finset String :=
  ((store.claimCandidates now).map Prod.snd).toFinset

/-- The turns the store keeps. -/
def turnsOf (store : SqliteStore) : RoundRobin.Turns String :=
  ⟨store.lastClaim, store.nextClaimSequence⟩

/-- An event, with the turn it is: a claim that committed, or none. -/
inductive ServeStep (s : SqliteStore) :
    QueueEvent × Option (RoundRobin.Turn String) → SqliteStore → Prop
  | claimed {t : SqliteStore} {workerId : String} {now : OffsetDateTime} {leaseFor : Duration}
      {result : Except JobQueueError (Option LeasedProcessingJob)} {leaseUntil : Int}
      {job : JobRow} {tenantId : String}
      (step : QueueStep s (.claimNext workerId now leaseFor result) t)
      (claims : Claims workerId now.unixTimestamp leaseUntil job tenantId s t) :
      ServeStep s (.claimNext workerId now leaseFor result,
        some ⟨tenantId, eligibleTenants now.unixTimestamp s⟩) t
  | quiet {t : SqliteStore} {event : QueueEvent} (step : QueueStep s event t)
      (same : turnsOf t = turnsOf s) : ServeStep s (event, none) t

theorem ServeStep.queueStep {s t : SqliteStore}
    {label : QueueEvent × Option (RoundRobin.Turn String)} (step : ServeStep s label t) :
    QueueStep s label.1 t := by
  cases step with
  | claimed step claims => exact step
  | quiet step same => exact step

/-- What leaves the two tables alone leaves the turns alone. -/
theorem turnsOf_same {s t : SqliteStore}
    (same : t.nextClaimSequence = s.nextClaimSequence ∧ t.tenantQueueState = s.tenantQueueState) :
    turnsOf t = turnsOf s := by
  have last : t.lastClaim = s.lastClaim := by
    funext tenantId
    rw [SqliteStore.lastClaim, SqliteStore.lastClaim, same.2]
  rw [turnsOf, turnsOf, last, same.1]

/-- Every event is a turn or none. -/
theorem exists_serveStep {s t : SqliteStore} {event : QueueEvent} (integrity : s.Integrity)
    (step : QueueStep s event t) : ∃ turn, ServeStep s (event, turn) t := by
  have quiet : ∀ {op ok}, Answers op s ok t → Kind.turns ∉ op.kinds →
      ∃ turn, ServeStep s (event, turn) t := fun answers untouched =>
    ⟨none, .quiet step (turnsOf_same ((answers.effect integrity).turns_same untouched))⟩
  have step' := step
  cases step with
  | @enqueue _ id now job result replies =>
      have answers : Answers (.enqueue id now job) s _ t := .ofReplies (fun _ => rfl) replies
      exact quiet answers (by simp [Op.kinds])
  | @renew _ jobId workerId now leaseFor result replies =>
      have answers : Answers (.renew jobId workerId now leaseFor) s _ t :=
        .ofReplies (fun _ => rfl) replies
      exact quiet answers (by simp [Op.kinds])
  | @complete _ jobId workerId now result replies =>
      have answers : Answers (.complete jobId workerId now) s _ t :=
        .ofReplies (fun _ => rfl) replies
      exact quiet answers (by simp [Op.kinds])
  | @fail _ jobId workerId now retryAt maxAttempts errorCode result replies =>
      have answers : Answers (.fail jobId workerId now retryAt maxAttempts errorCode) s _ t :=
        .ofReplies (fun _ => rfl) replies
      exact quiet answers (by simp [Op.kinds])
  | @other _ op ok elsewhere answers =>
      refine quiet answers ?_
      cases op <;> simp [Op.repository, Op.kinds] at elsewhere ⊢
  | @claimNext _ workerId now leaseFor result replies =>
      cases replies with
      | refused error => exact ⟨none, .quiet step' rfl⟩
      | ran answer =>
          obtain ⟨rfl, -⟩ | ⟨leaseUntil, job, tenantId, -, claims, -⟩ :=
            claimNext_cases integrity answer
          · exact ⟨none, .quiet step' rfl⟩
          · exact ⟨_, .claimed step' claims⟩

/-! ## The store refines the turns -/

/-- Upserting one tenant's row gives that tenant the new number. -/
theorem lastClaim_upserted {s t : SqliteStore} {row : TenantQueueRow}
    (keyed : KeyedBy TenantQueueRow.tenantId s.tenantQueueState)
    (turns : t.tenantQueueState = upserted row s.tenantQueueState) (tenantId : String) :
    t.lastClaim tenantId =
      if tenantId = row.tenantId then row.lastClaimSequence else s.lastClaim tenantId := by
  have keyed' : KeyedBy TenantQueueRow.tenantId t.tenantQueueState := by
    rw [turns]
    exact upserted_keyed keyed
  have member : row ∈ t.tenantQueueState := by
    rw [turns]
    exact mem_upserted row _
  split
  · rename_i same
    rw [SqliteStore.lastClaim, same, find?_eq_some_of_key keyed' member]
    rfl
  · rename_i other
    rw [SqliteStore.lastClaim, SqliteStore.lastClaim, turns, find?_upserted_of_ne other]

/-- **A claim is a turn.** -/
theorem ServeStep.refines {s t : SqliteStore}
    {label : QueueEvent × Option (RoundRobin.Turn String)} (integrity : s.Integrity)
    (step : ServeStep s label t) : RoundRobin.Step (turnsOf s) label.2 (turnsOf t) := by
  cases step with
  | @claimed _ workerId now leaseFor result leaseUntil job tenantId step claims =>
      have picked := claimCandidate_mem claims.candidate
      have gives : turnsOf t = (turnsOf s).give tenantId := by
        have last : t.lastClaim =
            Function.update s.lastClaim tenantId s.nextClaimSequence := by
          funext other
          rw [lastClaim_upserted integrity.queueTenants claims.turns, Function.update_apply]
        rw [turnsOf, last, claims.sequence]
        rfl
      rw [gives]
      refine .serve ?_ fun other eligible => ?_
      · exact List.mem_toFinset.2 (List.mem_map.2 ⟨_, picked, rfl⟩)
      · obtain ⟨candidate, member, rfl⟩ := List.mem_map.1 (List.mem_toFinset.1 eligible)
        -- the tenant's number is the first key of the order
        exact Prod.Lex.monotone_fst _ _ (claimCandidate_le claims.candidate member)
  | quiet step same =>
      rw [same]
      exact .idle _

theorem numbered_migrated : (turnsOf .migrated).Numbered := fun _ => Int.zero_lt_one

/-- A labelled run is a run of turns. -/
theorem turns_run {s t : SqliteStore}
    {labels : List (QueueEvent × Option (RoundRobin.Turn String))} (integrity : s.Integrity)
    (run : Trace ServeStep s labels t) :
    Trace RoundRobin.Step (turnsOf s) (labels.map Prod.snd) (turnsOf t) :=
  run.map turnsOf Prod.snd (fun _ _ _ step => step.queueStep.integrity)
    (fun _ _ _ holds step => step.refines holds) integrity

/-- Every run of the queue has its turns. -/
theorem exists_serveRun {s t : SqliteStore} {events : List QueueEvent} (integrity : s.Integrity)
    (run : Trace QueueStep s events t) :
    ∃ labels, labels.map Prod.fst = events ∧ Trace ServeStep s labels t := by
  induction run with
  | nil s => exact ⟨[], rfl, .nil s⟩
  | @cons _ _ _ event _ step _ ih =>
      obtain ⟨turn, serve⟩ := exists_serveStep integrity step
      obtain ⟨labels, rfl, rest⟩ := ih (step.integrity integrity)
      exact ⟨(event, turn) :: labels, rfl, .cons serve rest⟩

/-- The tenants claimed in a run, in order. -/
def claimedTenants (labels : List (QueueEvent × Option (RoundRobin.Turn String))) : List String :=
  RoundRobin.served (labels.map Prod.snd)

/-- **The queue is fair.**  Take any stretch of any run.  If a tenant has a claimable job
at every claim of the stretch, no tenant is claimed twice before it is.  If the tenants
with a claimable job are the same at every claim of the stretch, any consecutive claims,
as many as there are such tenants, serve each of them exactly once. -/
theorem queue_fair {events : List QueueEvent} {s t : SqliteStore}
    {stretch : List (QueueEvent × Option (RoundRobin.Turn String))}
    (reached : Trace QueueStep .migrated events s) (run : Trace ServeStep s stretch t) :
    (∀ tenantId, (∀ event turn, (event, some turn) ∈ stretch → tenantId ∈ turn.eligible) →
      ((claimedTenants stretch).takeWhile (· ≠ tenantId)).Nodup) ∧
    (∀ tenants, (∀ event turn, (event, some turn) ∈ stretch → turn.eligible = tenants) →
      ∀ window, window <:+: claimedTenants stretch → window.length = tenants.card →
        window.Nodup ∧ window.toFinset = tenants) := by
  have integrity : s.Integrity :=
    reached.keeps (P := SqliteStore.Integrity) (fun _ _ _ step => step.integrity) migrated_integrity
  obtain ⟨past, -, served⟩ := exists_serveRun migrated_integrity reached
  have numbered : (turnsOf s).Numbered :=
    (turns_run migrated_integrity served).keeps (P := RoundRobin.Turns.Numbered)
      (fun _ _ _ step => step.numbered) numbered_migrated
  have turns := turns_run integrity run
  have labelled : ∀ turn, some turn ∈ stretch.map Prod.snd →
      ∃ event, (event, some turn) ∈ stretch := by
    intro turn member
    obtain ⟨⟨event, label⟩, listed, rfl⟩ := List.mem_map.1 member
    exact ⟨event, listed⟩
  refine ⟨fun tenantId eligible => ?_, fun tenants steady window consecutive length => ?_⟩
  · refine RoundRobin.served_in_turn turns numbered fun turn member => ?_
    obtain ⟨event, listed⟩ := labelled turn member
    exact eligible event turn listed
  · refine RoundRobin.round turns numbered (fun turn member => ?_) consecutive length
    obtain ⟨event, listed⟩ := labelled turn member
    exact steady event turn listed

/-! ## A sample stretch -/

/-- A claim that draws a number is a turn of the tenant that is next. -/
theorem claim_serves {s t : SqliteStore} {workerId tenantId : String} {now : OffsetDateTime}
    {leaseFor : Duration} (integrity : s.Integrity)
    (performed : t = (perform (.claimNext workerId now leaseFor) s).2)
    (drawn : t.nextClaimSequence ≠ s.nextClaimSequence)
    (next : (s.claimCandidate now.unixTimestamp).map Prod.snd = some tenantId) :
    ServeStep s ((perform (.claimNext workerId now leaseFor) s).1,
      some ⟨tenantId, eligibleTenants now.unixTimestamp s⟩) t := by
  subst performed
  have answer : claimNext workerId now leaseFor s =
      ((claimNext workerId now leaseFor s).1, (claimNext workerId now leaseFor s).2) := rfl
  obtain ⟨same, -⟩ | ⟨leaseUntil, job, tenant, -, claims, -⟩ := claimNext_cases integrity answer
  · exact absurd (congrArg SqliteStore.nextClaimSequence same) drawn
  · rw [claims.candidate] at next
    cases next
    exact .claimed (perform_step (.claimNext workerId now leaseFor) s) claims

/-- A reservation of 100 bytes under a key. -/
def turnUpload (upload : Nat) (key : String) : Option UploadReservation :=
  (ObjectKey.new key).toOption.map fun objectKey =>
    { uploadId := ⟨numbered upload⟩, objectKey := objectKey, declaredKind := .image
      expectedSizeBytes := 100, contentTypeHint := "image/png", transfer := .singlePut
      multipartUploadId := none }

/-- The upload is confirmed, and its job queued. -/
def turnConfirmation (job : Nat) (tenantId : String) (upload : Nat) : Op :=
  .markQuarantinedAndEnqueue ⟨numbered job⟩ tenantId ⟨numbered upload⟩ 100 "source-validation-v1"
    (sampleTime upload)

/-- Two tenants queue two jobs each. -/
def turnSetup : List Op :=
  [.saveBatch ⟨⟨numbered 1⟩, "g5", sampleTime 0,
      [turnUpload 1 "raw/g5/1/source", turnUpload 2 "raw/g5/2/source"].filterMap id⟩ sampleCapacity,
   .saveBatch ⟨⟨numbered 2⟩, "g7", sampleTime 0,
      [turnUpload 3 "raw/g7/3/source", turnUpload 4 "raw/g7/4/source"].filterMap id⟩ sampleCapacity,
   turnConfirmation 11 "g5" 1, turnConfirmation 12 "g5" 2, turnConfirmation 13 "g7" 3,
   turnConfirmation 14 "g7" 4]

/-- The store with the four jobs. -/
def turnStore : SqliteStore := afterAll .migrated turnSetup

/-- The store after so many claims of one worker. -/
def turnClaimed : Nat → SqliteStore
  | 0 => turnStore
  | n + 1 => (perform (.claimNext "worker-a" (sampleTime 10) (leaseOf 60)) (turnClaimed n)).2

/-- One of these claims, with the turn it is. -/
def turnLabel (n : Nat) (tenantId : String) : QueueEvent × Option (RoundRobin.Turn String) :=
  ((perform (.claimNext "worker-a" (sampleTime 10) (leaseOf 60)) (turnClaimed n)).1,
    some ⟨tenantId, {"g5", "g7"}⟩)

/-- Three claims, while both tenants have jobs. -/
def turnStretch : List (QueueEvent × Option (RoundRobin.Turn String)) :=
  [turnLabel 0 "g5", turnLabel 1 "g7", turnLabel 2 "g5"]

theorem turnStore_run : Trace QueueStep .migrated (performed .migrated turnSetup) turnStore :=
  performed_run .migrated turnSetup

theorem turnClaimed_integrity (n : Nat) : (turnClaimed n).Integrity := by
  induction n with
  | zero =>
      exact turnStore_run.keeps (P := SqliteStore.Integrity) (fun _ _ _ step => step.integrity)
        migrated_integrity
  | succ n ih => exact (perform_step _ (turnClaimed n)).integrity ih

/-- A claim of the sample, checked by computing it. -/
theorem turnLabel_serves {n : Nat} {tenantId : String}
    (drawn : (turnClaimed (n + 1)).nextClaimSequence ≠ (turnClaimed n).nextClaimSequence)
    (next : ((turnClaimed n).claimCandidate (sampleTime 10).unixTimestamp).map Prod.snd =
      some tenantId)
    (eligible : eligibleTenants (sampleTime 10).unixTimestamp (turnClaimed n) = {"g5", "g7"}) :
    ServeStep (turnClaimed n) (turnLabel n tenantId) (turnClaimed (n + 1)) := by
  rw [turnLabel, ← eligible]
  exact claim_serves (turnClaimed_integrity n) rfl drawn next

theorem turnStretch_run : Trace ServeStep turnStore turnStretch (turnClaimed 3) := by
  refine .cons (t := turnClaimed 1) ?_ (.cons (t := turnClaimed 2) ?_ (Trace.single ?_))
  · exact turnLabel_serves (n := 0) (by decide +kernel) (by decide +kernel)
      (by decide +kernel)
  · exact turnLabel_serves (n := 1) (by decide +kernel) (by decide +kernel)
      (by decide +kernel)
  · exact turnLabel_serves (n := 2) (by decide +kernel) (by decide +kernel)
      (by decide +kernel)

theorem queue_fair_sample :
    claimedTenants turnStretch = ["g5", "g7", "g5"] ∧
      ((claimedTenants turnStretch).takeWhile (· ≠ "g7")).Nodup ∧
      ∀ window, window <:+: ["g5", "g7", "g5"] → window.length = 2 →
        window.Nodup ∧ window.toFinset = {"g5", "g7"} := by
  obtain ⟨turn, rounds⟩ := queue_fair turnStore_run turnStretch_run
  have eligible : ∀ event turn, (event, some turn) ∈ turnStretch →
      turn.eligible = {"g5", "g7"} := by
    intro event turn member
    simp only [turnStretch, turnLabel, List.mem_cons, Prod.mk.injEq, Option.some.injEq,
      List.not_mem_nil, or_false] at member
    rcases member with ⟨-, rfl⟩ | ⟨-, rfl⟩ | ⟨-, rfl⟩ <;> rfl
  refine ⟨rfl, turn "g7" fun event turn member => ?_, fun window consecutive length => ?_⟩
  · rw [eligible event turn member]
    decide
  · exact rounds {"g5", "g7"} eligible window consecutive length

end MediaBooster.Queue
