/-
# Lifecycle.Isolation -- what one candidate of a cleanup batch does to the others

A maintenance run charges an attempt to every upload it claims, all at once, and then cleans
them one after the other.  The loop ends at the first `complete_cleanup` or `fail_cleanup` that is
refused; the uploads behind it have been charged and are not tried.

`Tried` says that the storage cleanup of a candidate was carried out, whatever it came to, and
`handedTo` which candidates a thread was given.  While no run is refused the settlement of a
candidate with others behind it (`goesOn`), and none is cut off, a run that has ended has
tried all it was given, and the attempts of an upload are runs that have tried it or are still at
it (`cleanup_isolated`).  Without that, one overrun lease leaves the next upload charged and
untouched (`neighbour_untried`).
-/
import MediaBooster.Lifecycle.Leases
import MediaBooster.Service.Knowledge
import MediaBooster.Service.Rehearsal

namespace MediaBooster.Lifecycle

set_option autoImplicit false

open MediaBooster.Domain MediaBooster.Service MediaBooster.Storage MediaBooster.Store
open MediaBooster.Theory.Run MediaBooster.Theory.Table MediaBooster.Theory.Threads
open MediaBooster.Theory.Transaction

/-! ## What a run was given, and what it tried -/

/-- The candidates an exchange hands out. -/
def handed : Exchange Answer → List CleanupCandidate
  | ⟨.store (.claimCleanupBatch ..), .ok candidates⟩ => candidates
  | _ => []

/-- The candidates a thread was given. -/
def handedTo (past : History) : List CleanupCandidate := past.flatMap handed

@[simp] theorem handedTo_append (past more : History) :
    handedTo (past ++ more) = handedTo past ++ handedTo more := List.flatMap_append

/-- The storage cleanup of the candidate was carried out, whatever it came to. -/
def Tried (service : LifecycleService) (past : History) (candidate : CleanupCandidate) : Prop :=
  ∃ before course after outcome, past = before ++ course ++ after ∧
    At (service.cleanupStorage candidate).attempt course (.done outcome)

/-- Whether the loop goes on after an exchange, or has nothing left: a settlement is refused
for the last candidate only, and a retry can be dated. -/
def goesOn (retryDelay : Duration) (before : History) : Exchange Answer → Bool
  | ⟨.store (.completeCleanup ..), .error _⟩ | ⟨.store (.failCleanup ..), .error _⟩ =>
      decide ((handedTo before).length ≤ (settledUploads before).length + 1)
  | ⟨.now, reading⟩ => (reading.plus retryDelay).isSome
  | _ => true

/-- The pasts in which every exchange lets the loop go on. -/
abbrev Unbroken (service : LifecycleService) (past : History) : Prop :=
  Kept (fun before exchange => goesOn service.policy.retryDelay before exchange = true) past

section Runs

variable {service : LifecycleService} {past : History} {candidate : CleanupCandidate}

theorem Tried.append {more : History} (tried : Tried service past candidate) :
    Tried service (past ++ more) candidate := by
  obtain ⟨before, course, after, outcome, rfl, stands⟩ := tried
  exact ⟨before, course, after ++ more, outcome, List.append_assoc .., stands⟩

/-- An exchange that neither hands out nor settles. -/
def Aside (exchange : Exchange Answer) : Prop :=
  handed exchange = [] ∧ settledBy exchange.1 = none

theorem handedTo_aside {more : History} (aside : ∀ exchange ∈ more, Aside exchange) :
    handedTo more = [] := List.flatMap_eq_nil_iff.2 fun exchange member => (aside exchange member).1

theorem settledUploads_aside {more : History} (aside : ∀ exchange ∈ more, Aside exchange) :
    settledUploads more = [] :=
  List.filterMap_eq_nil_iff.2 fun exchange member => (aside exchange member).2

/-- The cleanup of a candidate is a course of it, and nothing else. -/
theorem cleanupStorage_tries (candidate : CleanupCandidate) (past : History) :
    Follows (fun _ _ => True) (fun past' _ => ∃ more, past' = past ++ more ∧
      handedTo more = [] ∧ settledUploads more = [] ∧ Tried service past' candidate) past
      (service.cleanupStorage candidate).attempt := by
  have traced := (follows_traced (service.cleanupStorage candidate).attempt past).adds_only
    (service.only_cleanupStorage candidate)
  refine traced.weaken ?_
  rintro _ outcome ⟨⟨course, rfl, stands⟩, more, same, asks⟩
  obtain rfl := List.append_cancel_left same
  have aside : ∀ exchange ∈ course, Aside exchange := by
    rintro ⟨request, answer⟩ member
    have asked := asks _ member
    cases request with
    | provider request => exact ⟨rfl, rfl⟩
    | _ => exact asked.elim
  exact ⟨course, rfl, handedTo_aside aside, settledUploads_aside aside,
    past, course, [], outcome, by rw [List.append_nil], stands⟩

/-- What settling a candidate adds. -/
structure Settles (service : LifecycleService) (past more : History)
    (result : Except LifecycleRunError Unit) : Prop where
  unhanded : handedTo more = []
  settled : result = .ok () → (settledUploads more).length = 1
  refused : Unbroken service (past ++ more) → ∀ error, result = .error error →
    (handedTo past).length ≤ (settledUploads past).length + 1

theorem refused_last {op : Op} {fault : op.Error} {reading : OffsetDateTime}
    (settles : settledBy (.store op) ≠ none)
    (unbroken : Unbroken service (past ++ [⟨.now, reading⟩, ⟨.store op, .error fault⟩])) :
    (handedTo past).length ≤ (settledUploads past).length + 1 := by
  rw [← List.singleton_append, ← List.append_assoc] at unbroken
  have last := unbroken.last
  cases op with
  | completeCleanup | failCleanup =>
      simpa [goesOn, handedTo, settledUploads, handed, settledBy] using last
  | _ => exact absurd rfl settles

/-- **Settling is refused for the last candidate only**, in an unbroken run. -/
theorem settleCandidate_settles (owner : String) (candidate : CleanupCandidate)
    (cleaned : Except String Unit) (past : History) :
    (service.settleCandidate owner candidate cleaned).Follows (fun _ _ => True)
      (fun past' result => ∃ more, past' = past ++ more ∧ Settles service past more result) past := by
  have answered : ∀ {op : Op} {reading : OffsetDateTime} {uploadId : UploadId}
      (settles : settledBy (.store op) = some uploadId) (silent : ∀ answer,
        handed ⟨.store op, answer⟩ = []) (answer : Except op.Error op.Result)
      {result : Except LifecycleRunError Unit} (kind : answer.toBool = result.toBool),
      Settles service past [⟨.now, reading⟩, ⟨.store op, answer⟩] result := by
    intro op reading uploadId settles silent answer result kind
    refine ⟨?_, fun _ => ?_, fun unbroken error failed => ?_⟩
    · show handed _ ++ (handed _ ++ []) = []
      rw [silent]
      rfl
    · have unsettled : settledBy .now = none := rfl
      simp [settledUploads, unsettled, settles]
    · subst failed
      cases answer with
      | ok => cases kind
      | error fault => exact refused_last (by simp [settles]) unbroken
  cases cleaned with
  | ok =>
      refine follows_now trivial fun completedAt => ?_
      refine Attempt.follows_mapError ⟨trivial, fun answer => ⟨_, List.append_assoc .., ?_⟩⟩
      exact answered rfl (fun answer => rfl) answer (by cases answer <;> rfl)
  | error errorCode =>
      refine follows_now trivial fun failedAt => ?_
      refine Attempt.follows_okOr (fun retryAt _ => ?_) fun none => ?_
      · refine Attempt.follows_mapError ⟨trivial, fun answer => ⟨_, List.append_assoc .., ?_⟩⟩
        exact answered rfl (fun answer => rfl) answer (by cases answer <;> rfl)
      · refine ⟨_, rfl, rfl, (fun failed => by cases failed), fun unbroken _ _ => ?_⟩
        have last := unbroken.last
        simp [goesOn, none] at last

/-- **The loop tries every candidate**, in an unbroken run. -/
theorem cleanCandidates_tries (owner : String) {candidates tried : List CleanupCandidate}
    {past : History} (summary : LifecycleRunSummary) (given : handedTo past = tried ++ candidates)
    (settled : (settledUploads past).length = tried.length)
    (done : ∀ candidate ∈ tried, Tried service past candidate) :
    (service.cleanCandidates owner candidates summary).Follows (fun _ _ => True)
      (fun past' _ => Unbroken service past' → handedTo past' = handedTo past ∧
        ∀ candidate ∈ handedTo past, Tried service past' candidate) past := by
  induction candidates generalizing past tried summary with
  | nil =>
      intro _
      rw [List.append_nil] at given
      rw [given]
      exact ⟨rfl, done⟩
  | cons candidate candidates ih =>
      unfold LifecycleService.cleanCandidates
      refine Attempt.follows_lifted (cleanupStorage_tries candidate past) ?_
      rintro _ cleaned ⟨course, rfl, unhanded, unsettled, tried'⟩
      have doneThen : ∀ other ∈ tried ++ [candidate], Tried service (past ++ course) other := by
        intro other member
        obtain old | new := List.mem_append.1 member
        · exact (done other old).append
        · rw [List.mem_singleton.1 new]
          exact tried'
      have same : handedTo (past ++ course) = handedTo past := by
        rw [handedTo_append, unhanded, List.append_nil]
      refine Attempt.follows_bind (settleCandidate_settles owner candidate cleaned _) ?_ ?_
      · rintro _ _ ⟨more, rfl, settles⟩
        have same' : handedTo (past ++ course ++ more) = handedTo past := by
          rw [handedTo_append, settles.unhanded, List.append_nil, same]
        have given' : handedTo (past ++ course ++ more) = (tried ++ [candidate]) ++ candidates := by
          rw [same', given, List.append_assoc]
          rfl
        have settled' : (settledUploads (past ++ course ++ more)).length =
            (tried ++ [candidate]).length := by
          rw [settledUploads_append, settledUploads_append, unsettled, List.length_append,
            settles.settled rfl, List.append_nil, settled, List.length_append]
          rfl
        have rest := ih (service.counted candidate summary cleaned) given' settled'
          fun other member => (doneThen other member).append
        rwa [same'] at rest
      · rintro _ error ⟨more, rfl, settles⟩ unbroken
        have last := settles.refused unbroken error rfl
        rw [same, given, settledUploads_append, unsettled, List.append_nil, settled] at last
        simp only [List.length_append, List.length_cons] at last
        obtain rfl : candidates = [] := List.eq_nil_of_length_eq_zero (by omega)
        refine ⟨by rw [handedTo_append, settles.unhanded, List.append_nil, same], ?_⟩
        rw [given]
        exact fun other member => (doneThen other member).append

/-- **A run that ended has tried all it was given**, if nothing broke it off. -/
theorem runOnce_tries (owner : String) :
    (service.runOnce owner).Follows (fun _ _ => True) (fun past _ => Unbroken service past →
      ∀ candidate ∈ handedTo past, Tried service past candidate) [] := by
  unfold LifecycleService.runOnce
  refine Attempt.follows_ensure (fun _ => ?_) fun _ _ _ member => by cases member
  refine follows_now trivial fun startedAt => ?_
  refine Attempt.follows_okOr (fun createdBefore _ => ?_) fun _ _ _ member => by cases member
  refine Attempt.follows_okOr (fun rejectedBefore _ => ?_) fun _ _ _ member => by cases member
  refine follows_call trivial (fun candidates => ?_) fun _ _ _ member => by cases member
  have given : handedTo ([] ++ [⟨.now, startedAt⟩] ++ [⟨.store (.claimCleanupBatch owner startedAt
      createdBefore rejectedBefore service.policy.leaseFor service.policy.batchSize
      service.policy.maxAttempts), .ok candidates⟩]) = [] ++ candidates := List.append_nil _
  refine Attempt.follows_bind (cleanCandidates_tries owner _ given rfl fun _ member => by
    cases member) ?_ ?_
  · intro past summary tries
    have quiet : ∀ more, handedTo more = [] → Unbroken service (past ++ more) →
        ∀ candidate ∈ handedTo (past ++ more), Tried service (past ++ more) candidate := by
      intro more unhanded unbroken candidate member
      obtain ⟨same, tried⟩ := tries unbroken.of_append
      rw [handedTo_append, unhanded, List.append_nil, same] at member
      exact (tried candidate member).append
    refine follows_now trivial fun cleanedAt => ?_
    refine Attempt.follows_okOr (fun deletedBefore _ => ?_) fun _ => quiet _ rfl
    refine follows_call trivial (fun purged => ?_) fun error => ?_
    · show Unbroken service (_ ++ [_] ++ [_]) → _
      rw [List.append_assoc]
      exact quiet _ rfl
    · rw [List.append_assoc]
      exact quiet _ rfl
  · intro past error tries unbroken candidate member
    obtain ⟨same, tried⟩ := tries unbroken
    rw [same] at member
    exact tried candidate member

end Runs

/-! ## Who was charged -/

section Charges

variable {d : Deployment} {s t : SystemState} {label : SystemLabel}

/-- The attempts of every upload are claims of threads of their own. -/
structure Charged (d : Deployment) (s : SystemState) : Prop where
  recorded : d.Recorded s
  lifecycle : ∀ i, handedTo (s.past i) ≠ [] → ∃ owner, s.call i = some (.cleanup owner)
  charged : ∀ row ∈ s.shared.store.uploads, ∃ threads : List Nat, threads.Nodup ∧
    row.cleanupAttempts ≤ threads.length ∧
    ∀ i ∈ threads, ∃ candidate ∈ handedTo (s.past i), candidate.uploadId = row.id

/-- Only a claim charges an attempt. -/
theorem attempts_le {op : Op} {before after : UploadRow}
    (move : RowMove s.shared.store op before after)
    (free : ∀ owner now createdBefore rejectedBefore leaseFor limit maxAttempts,
      op ≠ .claimCleanupBatch owner now createdBefore rejectedBefore leaseFor limit maxAttempts) :
    after.cleanupAttempts = before.cleanupAttempts := by
  cases move with
  | leased => exact absurd rfl (free _ _ _ _ _ _ _)
  | same | confirmed | aborted | requested | tombstoned | retried | started | published
  | rejected => rfl

/-- What a step hands out, a maintenance run is given by a claim, its first. -/
theorem claim_step {i : Nat} {exchange : Exchange Answer}
    (step : d.machine.Step s (.asked i exchange) t) {owner : String}
    {now createdBefore rejectedBefore : OffsetDateTime} {leaseFor : Duration}
    {limit maxAttempts : Nat} (claims : exchange.1 = .store (.claimCleanupBatch owner now
      createdBefore rejectedBefore leaseFor limit maxAttempts)) :
    handedTo (s.past i) = [] ∧ ∃ name, s.call i = some (.cleanup name) := by
  obtain ⟨call, called, rule, asks⟩ := Deployment.obeys step
  rw [claims] at rule asks
  cases call with
  | cleanup name =>
      refine ⟨List.flatMap_eq_nil_iff.2 ?_, name, called⟩
      rintro ⟨request, answer⟩ member
      obtain rfl : request = .now := rule _ member
      rfl
  | _ => exact asks.elim

/-- The rows a claim leaves: each is charged once more for a candidate it handed out, or is
as it was. -/
theorem claimed_rows {i : Nat} {owner : String} {now createdBefore rejectedBefore : OffsetDateTime}
    {leaseFor : Duration} {limit maxAttempts : Nat}
    {answer : Answer (.store (.claimCleanupBatch owner now createdBefore rejectedBefore leaseFor
      limit maxAttempts))} (integrity : s.shared.store.Integrity)
    (step : d.machine.Step s (.asked i ⟨_, answer⟩) t) {after : UploadRow}
    (member : after ∈ t.shared.store.uploads) :
    ∃ before ∈ s.shared.store.uploads, after.id = before.id ∧
      (after.cleanupAttempts = before.cleanupAttempts ∨
        (after.cleanupAttempts = before.cleanupAttempts + 1 ∧
          ∃ candidate ∈ handed ⟨_, answer⟩, candidate.uploadId = before.id)) := by
  obtain ⟨call, next, asked⟩ := step.asked_cases
  obtain ⟨store', replies, moved⟩ := asked.answered
  rw [moved] at member
  cases replies with
  | refused error => exact ⟨after, member, rfl, .inl rfl⟩
  | ran ran =>
      obtain ⟨rfl, -⟩ | ⟨leaseUntil, rows, candidates, rfl, -, leased⟩ :=
        claimCleanupBatch_cases integrity ran
      · exact ⟨after, member, rfl, .inl rfl⟩
      · obtain ⟨before, there, same, is⟩ := leased_rows leased member
        refine ⟨before, there, same, ?_⟩
        split at is
        · rename_i listed
          obtain ⟨candidate, given, named⟩ := List.mem_map.1 listed
          exact .inr ⟨by rw [is]; rfl, candidate, given, named⟩
        · exact .inl (by rw [is])

theorem handed_claims {exchange : Exchange Answer} (hands : handed exchange ≠ []) :
    ∃ owner now createdBefore rejectedBefore leaseFor limit maxAttempts, exchange.1 =
      .store (.claimCleanupBatch owner now createdBefore rejectedBefore leaseFor limit
        maxAttempts) := by
  unfold handed at hands
  split at hands
  · exact ⟨_, _, _, _, _, _, _, rfl⟩
  · exact absurd rfl hands

/-- **One step charges a claim to the thread that makes it.** -/
theorem Charged.step (charged : Charged d s) (step : d.machine.Step s label t) : Charged d t := by
  have recorded := charged.recorded
  have kept : ∀ {row : UploadRow} {threads : List Nat},
      (∀ i ∈ threads, ∃ candidate ∈ handedTo (s.past i), candidate.uploadId = row.id) →
        ∀ i ∈ threads, ∃ candidate ∈ handedTo (t.past i), candidate.uploadId = row.id := by
    intro row threads given i member
    obtain ⟨candidate, there, named⟩ := given i member
    refine ⟨candidate, ?_, named⟩
    rw [step.past, handedTo_append]
    exact List.mem_append_left _ there
  refine ⟨recorded.step step, fun i hands => ?_, fun after member => ?_⟩
  · rw [step.past, handedTo_append] at hands
    by_cases before : handedTo (s.past i) = []
    · obtain quiet | ⟨exchange, rfl⟩ := label.heard_eq i
      · rw [before, quiet] at hands
        exact absurd rfl hands
      · rw [before, Label.heard, if_pos rfl] at hands
        have hands' : handed exchange ≠ [] := by
          intro none
          exact hands (by simp [handedTo, none])
        obtain ⟨owner, now, createdBefore, rejectedBefore, leaseFor, limit, maxAttempts, claims⟩ :=
          handed_claims hands'
        obtain ⟨-, name, called⟩ := claim_step step claims
        exact ⟨name, step.call called⟩
    · obtain ⟨owner, called⟩ := charged.lifecycle i before
      exact ⟨owner, step.call called⟩
  · by_cases claims : ∃ i owner now createdBefore rejectedBefore leaseFor limit maxAttempts answer,
        label = .asked i ⟨.store (.claimCleanupBatch owner now createdBefore rejectedBefore leaseFor
          limit maxAttempts), answer⟩
    · obtain ⟨i, owner, now, createdBefore, rejectedBefore, leaseFor, limit, maxAttempts, answer,
        rfl⟩ := claims
      obtain ⟨before, there, same, unchanged | ⟨more, candidate, given, named⟩⟩ :=
        claimed_rows recorded.integrity step member
      · obtain ⟨threads, nodup, counted, given⟩ := charged.charged before there
        rw [← same] at given
        exact ⟨threads, nodup, by omega, kept given⟩
      · obtain ⟨threads, nodup, counted, given'⟩ := charged.charged before there
        obtain ⟨fresh, -⟩ := claim_step step rfl
        -- the claim is the first of its thread, so the thread was not charged before
        have new : i ∉ threads := by
          intro listed
          obtain ⟨other, held, -⟩ := given' i listed
          rw [fresh] at held
          cases held
        refine ⟨i :: threads, List.nodup_cons.2 ⟨new, nodup⟩, ?_, fun j listed => ?_⟩
        · rw [List.length_cons]
          push_cast
          omega
        · obtain rfl | old := List.mem_cons.1 listed
          · refine ⟨candidate, ?_, named.trans same.symm⟩
            rw [step.past, handedTo_append, Label.heard, if_pos rfl]
            refine List.mem_append_right _ ?_
            simpa [handedTo] using given
          · rw [same]
            exact kept given' j old
    · obtain old | ⟨before, there, op, ok, calls, move⟩ | reserves := recorded.upload_cases step member
      · obtain ⟨threads, nodup, counted, given⟩ := charged.charged after old
        exact ⟨threads, nodup, counted, kept given⟩
      · obtain ⟨threads, nodup, counted, given⟩ := charged.charged before there
        rw [← move.evolves.id] at given
        refine ⟨threads, nodup, ?_, kept given⟩
        rw [attempts_le move]
        · exact counted
        · rintro owner now createdBefore rejectedBefore leaseFor limit maxAttempts rfl
          cases calls with
          | asked => exact claims ⟨_, _, _, _, _, _, _, _, _, rfl⟩
          | called request => cases request
      · refine ⟨[], List.nodup_nil, ?_, fun _ listed => absurd listed List.not_mem_nil⟩
        obtain ⟨-, -, -, -, -, -, attempts⟩ := reserves.reservation
        rw [attempts]
        exact Int.le_refl 0

theorem charged_initial (clock : OffsetDateTime) : Charged d (.initial (.fresh clock)) where
  recorded := Deployment.recorded_initial clock
  lifecycle := fun _ hands => absurd rfl hands
  charged := fun _ member => nomatch member

/-! ## Isolation -/

/-- Whether a step leaves every maintenance run whole: none is cut off, and none is refused a
settlement with candidates behind it. -/
def isolates (d : Deployment) (s : SystemState) : SystemLabel → Bool
  | .crashed i =>
      match s.call i with
      | some (.cleanup _) => false
      | _ => true
  | .asked i exchange =>
      match s.call i with
      | some (.cleanup _) => goesOn d.lifecyclePolicy.retryDelay (s.past i) exchange
      | _ => true
  | _ => true

/-- What one candidate does to another: a maintenance run that has ended has tried all it was
given, and the attempts of an upload are runs that have tried it or are still at it. -/
structure Isolated (d : Deployment) (s : SystemState) : Prop where
  tried : ∀ i owner, s.call i = some (.cleanup owner) → ¬ s.Running d.machine i →
    ∀ candidate ∈ handedTo (s.past i), Tried d.lifecycle (s.past i) candidate
  counted : ∀ row ∈ s.shared.store.uploads, ∃ threads : List Nat, threads.Nodup ∧
    row.cleanupAttempts ≤ threads.length ∧
    ∀ i ∈ threads, ∃ candidate ∈ handedTo (s.past i), candidate.uploadId = row.id ∧
      (s.Running d.machine i ∨ Tried d.lifecycle (s.past i) candidate)

/-- The exchanges a call lets pass. -/
def lets (d : Deployment) : ServiceCall → History → Exchange Answer → Prop
  | .cleanup _, before, exchange => goesOn d.lifecyclePolicy.retryDelay before exchange = true
  | _, _, _ => True

/-- The maintenance runs are whole so far. -/
structure Whole (d : Deployment) (s : SystemState) : Prop where
  charged : Charged d s
  stands : s.Stands d.machine
  whole : ∀ i owner, s.call i = some (.cleanup owner) → ¬ s.Crashed i
  kept : ∀ i call, s.call i = some call → Kept (lets d call) (s.past i)

theorem whole_initial (clock : OffsetDateTime) : Whole d (.initial (.fresh clock)) where
  charged := charged_initial clock
  stands := fun _ _ called => nomatch called
  whole := fun _ _ called => nomatch called
  kept := fun _ _ called => nomatch called

theorem Whole.step (whole : Whole d s)
    (step : Guarded d.machine.Step (fun s label => isolates d s label = true) s label t) :
    Whole d t where
  charged := whole.charged.step step.1
  stands := step.1.stands whole.stands
  whole := by
    intro i owner called crashed
    obtain before | rfl := step.1.crashed_cases crashed
    · obtain old | ⟨rfl, -⟩ := step.1.call_cases called
      · exact whole.whole i owner old before
      · obtain ⟨thread, there, cut⟩ := before
        have known : s.call i = some thread.call := by
          unfold State.call
          rw [there]
          rfl
        rw [← Option.some.inj (called.symm.trans (step.1.call known))] at known
        exact whole.whole i owner known ⟨thread, there, cut⟩
    · obtain old | ⟨other, -⟩ := step.1.call_cases called
      · have allowed := step.2
        simp only [isolates, old, Bool.false_eq_true] at allowed
      · cases other
  kept := by
    refine step.1.kept whole.kept fun i exchange call same called => ?_
    cases call with
    | cleanup owner =>
        subst same
        have allowed := step.2
        simp only [isolates, called] at allowed
        exact allowed
    | _ => trivial

/-- **The candidates of a batch are isolated**, in every run in which no maintenance run is cut
off or refused the settlement of a candidate with others behind it. -/
theorem cleanup_isolated {labels : List SystemLabel}
    (run : d.RunsGuarded (fun s label => isolates d s label = true) labels s) : Isolated d s := by
  obtain ⟨clock, run⟩ := run
  have whole : Whole d s :=
    run.keeps (fun _ _ _ step whole => Whole.step whole step) (whole_initial clock)
  have tried : ∀ i owner, s.call i = some (.cleanup owner) → ¬ s.Running d.machine i →
      ∀ candidate ∈ handedTo (s.past i), Tried d.lifecycle (s.past i) candidate := by
    intro i owner called idle
    have ended := whole.stands.ended called (whole.whole i owner called) idle
    obtain ⟨before, stands, same⟩ := At.of_discard ended
    cases before with
    | ask => cases same
    | done result =>
        exact Follows.at (runOnce_tries owner) stands (whole.kept i _ called)
  refine ⟨tried, fun row member => ?_⟩
  obtain ⟨threads, nodup, counted, given⟩ := whole.charged.charged row member
  refine ⟨threads, nodup, counted, fun i listed => ?_⟩
  obtain ⟨candidate, held, named⟩ := given i listed
  refine ⟨candidate, held, named, ?_⟩
  by_cases running : s.Running d.machine i
  · exact .inl running
  · obtain ⟨owner, called⟩ := whole.charged.lifecycle i fun none => by
      rw [none] at held
      cases held
    exact .inr (tried i owner called running candidate held)

end Charges

/-! ## A neighbour that is not tried -/

/-- A multipart upload that was never confirmed is tried by aborting its session. -/
theorem Tried.aborts {service : LifecycleService} {past : History} {candidate : CleanupCandidate}
    {partSizeBytes : Nat} {session : String} (tried : Tried service past candidate)
    (created : candidate.state = .created) (multipart : candidate.transfer = .multipart partSizeBytes)
    (named : candidate.multipartUploadId = some session) :
    ∃ answer, (⟨.provider (.abortMultipartUpload service.rawStore.bucket
      candidate.rawObjectKey.asStr session), answer⟩ : Exchange Answer) ∈ past := by
  obtain ⟨before, course, after, outcome, rfl, stands⟩ := tried
  have first : ∃ next, (service.cleanupStorage candidate).attempt = .ask (.provider
      (.abortMultipartUpload service.rawStore.bucket candidate.rawObjectKey.asStr session)) next := by
    unfold LifecycleService.cleanupStorage LifecycleService.abortSession
    rw [created, multipart, named]
    exact ⟨_, rfl⟩
  obtain ⟨next, asks⟩ := first
  rw [asks] at stands
  obtain ⟨-, same⟩ | ⟨answer, more, rfl, -⟩ := at_ask.1 stands
  · cases same
  · exact ⟨answer, by simp⟩

/-- Whether an exchange aborts the session. -/
def abortsSession (session : String) : Exchange Answer → Bool
  | ⟨.provider (.abortMultipartUpload _ _ other), _⟩ => other == session
  | _ => false

/-- Whether the candidate is dead-lettered without a single abort of its session. -/
def givenUp (policy : LifecyclePolicy) (s : SystemState) (past : History)
    (candidate : CleanupCandidate) : Bool :=
  (candidate.state == .created) &&
  (match candidate.transfer, candidate.multipartUploadId with
    | .multipart _, some session => past.all fun exchange => !abortsSession session exchange
    | _, _ => false) &&
  s.shared.store.uploads.any fun row => row.id == candidate.uploadId &&
    row.state != .deleted && decide ((policy.maxAttempts : Int) ≤ row.cleanupAttempts)

theorem givenUp_untried {service : LifecycleService} {policy : LifecyclePolicy} {s : SystemState}
    {past : History} {candidate : CleanupCandidate}
    (up : givenUp policy s past candidate = true) : ¬ Tried service past candidate ∧
      ∃ row ∈ s.shared.store.uploads, row.id = candidate.uploadId ∧ row.state ≠ .deleted ∧
        (policy.maxAttempts : Int) ≤ row.cleanupAttempts := by
  simp only [givenUp, Bool.and_eq_true, beq_iff_eq] at up
  obtain ⟨⟨created, unaborted⟩, stored⟩ := up
  constructor
  · intro tried
    split at unaborted
    · rename_i multipart named
      obtain ⟨answer, member⟩ := tried.aborts created multipart named
      have spared := List.all_eq_true.1 unaborted _ member
      simp [abortsSession] at spared
    · cases unaborted
  · obtain ⟨row, member, holds⟩ := List.any_eq_true.1 stored
    simp only [Bool.and_eq_true, beq_iff_eq, bne_iff_ne, decide_eq_true_eq] at holds
    exact ⟨row, member, holds.1.1, holds.1.2, holds.2⟩

theorem oneAttempt_valid : oneAttempt.isValid = true := by decide

/-- A deployment that tries a cleanup once. -/
def oneAttemptDeployment : Deployment :=
  { sampleDeployment with lifecyclePolicy := oneAttempt, lifecycleValid := oneAttempt_valid }

/-- Two multipart uploads expire and are claimed.  While the first is cleaned up, its client
aborts it. -/
def abortedNeighbour : List (Command ServiceCall Event) :=
  [.start (.createBatch ⟨"g5", [⟨"a", .image, 300, "image/png"⟩, ⟨"b", .image, 300, "image/png"⟩]⟩),
   .run 0 8, .start (.cleanup "c"), .run 1 4,
   .start (.abortMultipart "g5" rehearsedUpload), .run 2 4, .run 1 2]

/-- Whether no thread was cut off, and the maintenance run gave up on a candidate. -/
def neighbourGivenUp (s : SystemState) : Bool :=
  (match s.call 1 with
    | some (.cleanup _) => true
    | _ => false) && s.threads.all (fun thread => !thread.crashed) &&
  (handedTo (s.past 1)).any (givenUp oneAttempt s (s.past 1))

/-- **A neighbour is charged and not tried.**  Nothing was cut off, the maintenance run has ended,
and a candidate of its is dead-lettered whose cleanup nobody tried: the settlement of the one
before it was refused. -/
theorem neighbour_untried : ∃ labels, ∃ s : SystemState, ∃ owner, ∃ candidate ∈ handedTo (s.past 1),
    oneAttemptDeployment.Runs labels s ∧ (∀ i, ¬ s.Crashed i) ∧
    s.call 1 = some (.cleanup owner) ∧ ¬ s.Running oneAttemptDeployment.machine 1 ∧
    ¬ Tried oneAttemptDeployment.lifecycle (s.past 1) candidate ∧
    ∃ row ∈ s.shared.store.uploads, row.id = candidate.uploadId ∧ row.state ≠ .deleted ∧
      (oneAttemptDeployment.lifecyclePolicy.maxAttempts : Int) ≤ row.cleanupAttempts := by
  have played : ((oneAttemptDeployment.rehearsal (100 * 1000000000)).performAll (fun _ _ => true)
      abortedNeighbour ⟨.initial (.fresh (sampleTime 0)), []⟩).any (fun stage =>
        [1].all (fun i => ended stage.programs[i]?) && neighbourGivenUp stage.state) = true := by
    decide +kernel
  obtain ⟨labels, s, run, finished, holds⟩ := Deployment.rehearsed_ends played
  obtain ⟨call, called, ended⟩ := finished 1 (List.mem_singleton_self 1)
  simp only [neighbourGivenUp, called, Bool.and_eq_true] at holds
  obtain ⟨⟨cleans, alive⟩, up⟩ := holds
  obtain ⟨candidate, member, up⟩ := List.any_eq_true.1 up
  obtain ⟨untried, row, there, charged⟩ := givenUp_untried up
  split at cleans
  · rename_i owner same
    cases same
    refine ⟨labels, s, owner, candidate, member, ⟨_, run⟩, ?_, called, ?_, untried, row, there, charged⟩
    · rintro i ⟨thread, known, cut⟩
      have whole := List.all_eq_true.1 alive thread (List.mem_of_getElem? known)
      simp [cut] at whole
    · exact State.not_running called ended
  · cases cleans

/-- Two uploads expire, and a maintenance run cleans both. -/
theorem cleanup_isolated_sample : ∃ s : SystemState, Isolated sampleDeployment s ∧
    (handedTo (s.past 1)).length = 2 := by
  have played : ((sampleDeployment.rehearsal 2000000000).play (isolates sampleDeployment)
      (.fresh (sampleTime 0))
      [.start (.createBatch ⟨"g5", [⟨"a", .image, 300, "image/png"⟩,
        ⟨"b", .image, 300, "image/png"⟩]⟩), .run 0 8, .start (.cleanup "c"), .run 1 12]).any
      (fun s : SystemState => (handedTo (s.past 1)).length == 2) = true := by
    decide +kernel
  obtain ⟨labels, s, run, given⟩ := Deployment.rehearsed played
  exact ⟨s, cleanup_isolated run, beq_iff_eq.1 given⟩

end MediaBooster.Lifecycle
