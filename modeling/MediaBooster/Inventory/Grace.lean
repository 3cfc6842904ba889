/-
# Inventory.Grace -- no object is pruned before its grace period is over

A pass deletes an object because a page of its own found it eligible (`Condemned`), and a page
finds an object eligible when it is suspected of having been there for long enough.  Where the
suspicion comes from is a fact about the whole run: some page listed the object first, and every
page since that listed it found no owner of it (`Watched`).

So between the page that saw the object first and the pass's own there is the grace period, and
within it nobody who reconciled the object knew it (`pruned_after_grace`), whatever the passes,
the worker and the site do in between, and in whatever order.
-/
import MediaBooster.Inventory.Coverage

namespace MediaBooster.Inventory

set_option autoImplicit false

open MediaBooster.Domain MediaBooster.Storage MediaBooster.Store MediaBooster.Service
open MediaBooster.Theory.Run MediaBooster.Theory.Threads MediaBooster.Theory.Transaction

/-! ## What a pass has done before it deletes -/

section Passes

variable {service : InventoryService} {past more : History}
variable {storageNamespace : StorageNamespace} {key : ObjectKey}

/-- A page the pass has reconciled found the object eligible. -/
def Condemned (service : InventoryService) (past : History) (storageNamespace : StorageNamespace)
    (key : ObjectKey) : Prop :=
  ∃ objects observedAt eligibleBefore result,
    ⟨.store (.reconcileInventoryPage storageNamespace objects observedAt eligibleBefore),
      .ok result⟩ ∈ past ∧
    observedAt.minus service.policy.orphanGracePeriod = some eligibleBefore ∧
    ∃ candidate ∈ result.eligible, candidate.key = key

theorem Condemned.append (condemned : Condemned service past storageNamespace key) :
    Condemned service (past ++ more) storageNamespace key := by
  obtain ⟨objects, observedAt, eligibleBefore, result, heard, rest⟩ := condemned
  exact ⟨objects, observedAt, eligibleBefore, result, List.mem_append_left _ heard, rest⟩

/-- What a pass has done before it deletes: it condemned the object, and has just found once more
that nothing owns it. -/
def GraceRule (service : InventoryService) (past : History) : Ask → Prop
  | .provider (.deleteObject bucket key) => ∃ storageNamespace objectKey before,
      bucket = (service.storeOf storageNamespace).bucket ∧ key = objectKey.asStr ∧
      past = before ++ [⟨.store (.isInventoryKeyKnown storageNamespace objectKey), .ok false⟩] ∧
      Condemned service before storageNamespace objectKey
  | _ => True

theorem follows_pruneCandidate {candidate : OrphanCandidate} {summary : InventoryRunSummary}
    (condemned : Condemned service past storageNamespace candidate.key) :
    (service.pruneCandidate storageNamespace candidate summary).Follows (GraceRule service)
      (fun _ _ => True) past := by
  unfold InventoryService.pruneCandidate
  refine follows_call trivial (fun known => ?_) fun _ => trivial
  cases known with
  | true => exact follows_call trivial (fun _ => trivial) fun _ => trivial
  | false =>
      refine Attempt.follows_lifted (Q := fun _ _ => True)
        (Attempt.follows_mapError ⟨?_, fun _ => trivial⟩) ?_
      · exact ⟨storageNamespace, candidate.key, past, rfl, rfl, rfl, condemned⟩
      · intro past deleted _
        cases deleted with
        | ok =>
            refine follows_now trivial fun deletedAt => ?_
            exact follows_call trivial (fun _ => trivial) fun _ => trivial
        | error =>
            refine follows_now trivial fun failedAt => ?_
            exact follows_call trivial (fun _ => trivial) fun _ => trivial

theorem follows_pruneCandidates {candidates : List OrphanCandidate} {summary : InventoryRunSummary}
    (condemned : ∀ candidate ∈ candidates, Condemned service past storageNamespace candidate.key) :
    (service.pruneCandidates storageNamespace candidates summary).Follows (GraceRule service)
      (fun _ _ => True) past := by
  induction candidates generalizing past summary with
  | nil => trivial
  | cons candidate candidates ih =>
      refine Attempt.follows_bind
        (follows_pruneCandidate (condemned candidate List.mem_cons_self)).adds
        (fun _ summary grown => ?_) fun _ _ _ => trivial
      obtain ⟨-, more, rfl⟩ := grown
      exact ih fun other member => (condemned other (List.mem_cons_of_mem _ member)).append

theorem follows_scanPage {mode : InventoryMode} {startedAt eligibleBefore : OffsetDateTime}
    {cursor : Option String} {summary : InventoryRunSummary}
    (grace : startedAt.minus service.policy.orphanGracePeriod = some eligibleBefore) :
    (service.scanPage mode startedAt eligibleBefore storageNamespace cursor summary).Follows
      (GraceRule service) (fun _ _ => True) past := by
  unfold InventoryService.scanPage
  refine Attempt.follows_bind (Q := fun _ _ => True) (Attempt.follows_mapError ?_)
    (fun past page _ => ?_) fun _ _ _ => trivial
  · unfold S3CompatibleStore.listObjects
    refine Attempt.follows_ensure (fun _ => ?_) fun _ => trivial
    refine follows_sent trivial (fun output => ?_) fun _ => trivial
    cases listedPage output <;> trivial
  refine Attempt.follows_ofExcept (fun _ _ => ?_) fun _ _ => trivial
  refine follows_call trivial (fun result => ?_) fun _ => trivial
  have saves : ∀ (past : History) (summary : InventoryRunSummary),
      Attempt.Follows (GraceRule service) (fun _ _ => True) past (do
        let savedAt ← now
        Attempt.mapError .repository
          (call (.saveInventoryCursor storageNamespace page.nextStartAfter savedAt))
        return (page.nextStartAfter, summary) : Action InventoryRunError _) := by
    intro past summary
    refine follows_now trivial fun savedAt => ?_
    exact follows_call trivial (fun _ => trivial) fun _ => trivial
  cases mode with
  | audit => exact saves _ _
  | prune =>
      refine Attempt.follows_bind (follows_pruneCandidates fun candidate member => ?_)
        (fun past summary _ => saves past summary) fun _ _ _ => trivial
      exact ⟨_, startedAt, eligibleBefore, result,
        List.mem_append_right _ (List.mem_singleton_self _), grace, candidate, member, rfl⟩

theorem follows_scanPages {mode : InventoryMode} {startedAt eligibleBefore : OffsetDateTime}
    {pages : Nat} {cursor : Option String} {summary : InventoryRunSummary}
    (grace : startedAt.minus service.policy.orphanGracePeriod = some eligibleBefore) :
    (service.scanPages mode startedAt eligibleBefore storageNamespace pages cursor summary).Follows
      (GraceRule service) (fun _ _ => True) past := by
  induction pages generalizing past cursor summary with
  | zero => trivial
  | succ pages ih =>
      refine Attempt.follows_bind (follows_scanPage grace) ?_ fun _ _ _ => trivial
      rintro past ⟨next, summary⟩ _
      cases next with
      | none => trivial
      | some cursor => exact ih

/-- **A pass deletes only what it has condemned.** -/
theorem follows_runOnce (mode : InventoryMode) :
    (service.runOnce mode).Follows (GraceRule service) (fun _ _ => True) [] := by
  unfold InventoryService.runOnce
  refine follows_now trivial fun startedAt => ?_
  refine Attempt.follows_okOr (fun eligibleBefore grace => ?_) fun _ => trivial
  have scans : ∀ (past : History) (storageNamespace : StorageNamespace)
      (summary : InventoryRunSummary),
      (service.scanNamespace mode startedAt eligibleBefore storageNamespace summary).Follows
        (GraceRule service) (fun _ _ => True) past := by
    intro past storageNamespace summary
    unfold InventoryService.scanNamespace
    refine follows_call trivial (fun cursor => ?_) fun _ => trivial
    refine Attempt.follows_ofExcept (fun _ _ => ?_) fun _ _ => trivial
    exact follows_scanPages grace
  exact Attempt.follows_bind (scans _ _ _) (fun _ _ _ => scans _ _ _) fun _ _ _ => trivial

end Passes

/-! ## Where suspicions come from -/

section Suspicions

variable {d : Deployment} {clock : OffsetDateTime} {s t : SystemState} {label : SystemLabel}
variable {labels : List SystemLabel} {storageNamespace : StorageNamespace} {key : ObjectKey}
variable {firstSeenAt : Int}

/-- A page with the object is reconciled as of a reading of the clock. -/
inductive Sights (storageNamespace : StorageNamespace) (key : ObjectKey)
    (observedAt : OffsetDateTime) : SystemLabel → Prop
  | sighted (i : Nat) (objects : List InventoryObject) (eligibleBefore : OffsetDateTime)
      (result : InventoryReconcileResult) (member : key ∈ objects.map InventoryObject.key) :
      Sights storageNamespace key observedAt (.asked i ⟨.store (.reconcileInventoryPage
        storageNamespace objects observedAt eligibleBefore), .ok result⟩)

/-- A page that lists the object finds that nothing owns it. -/
def Unowned (storageNamespace : StorageNamespace) (key : ObjectKey) (s : SystemState)
    (label : SystemLabel) : Prop :=
  Reconciles storageNamespace key label →
    s.shared.store.inventoryKeyKnown key storageNamespace = false

/-- Pages are reconciled by answering to the call that does. -/
theorem reconciled_of_step {i : Nat} {objects : List InventoryObject}
    {observedAt eligibleBefore : OffsetDateTime} {result : InventoryReconcileResult}
    (step : d.machine.Step s (.asked i ⟨.store (.reconcileInventoryPage storageNamespace objects
      observedAt eligibleBefore), .ok result⟩) t) :
    Reconciling s.shared.store storageNamespace observedAt.unixTimestamp
      eligibleBefore.unixTimestamp (objects.map InventoryObject.key) t.shared.store result := by
  obtain ⟨call, next, asked⟩ := step.asked_cases
  obtain ⟨store', replies, moved⟩ := asked.answered
  rw [moved]
  cases replies with
  | ran ran => exact reconcileInventoryPage_ok ran

/-- **A suspicion is older than a step, or is raised by it**; and a step that lists what is
suspected finds it unowned. -/
theorem suspects_step (step : d.machine.Step s label t) (integrity : s.shared.store.Integrity)
    (suspects : t.shared.store.Suspects storageNamespace key firstSeenAt) :
    Unowned storageNamespace key s label ∧
      (s.shared.store.Suspects storageNamespace key firstSeenAt ∨
        ∃ observedAt, Sights storageNamespace key observedAt label ∧
          observedAt.unixTimestamp = firstSeenAt) := by
  by_cases reconciles : ∃ i other objects observedAt eligibleBefore result,
      label = .asked i ⟨.store (.reconcileInventoryPage other objects observedAt eligibleBefore),
        .ok result⟩
  · obtain ⟨i, other, objects, observedAt, eligibleBefore, result, rfl⟩ := reconciles
    have reconciled := reconciled_of_step step
    refine ⟨?_, ?_⟩
    · rintro ⟨member⟩
      exact reconciled.unknown key firstSeenAt member suspects
    · obtain old | ⟨rfl, member, rfl⟩ := reconciled.suspects _ _ _ suspects
      · exact .inl old
      · exact .inr ⟨observedAt, .sighted i objects eligibleBefore result member, rfl⟩
  · refine ⟨?_, .inl ?_⟩
    · rintro ⟨member⟩
      exact absurd ⟨_, _, _, _, _, _, rfl⟩ reconciles
    · obtain same | ⟨op, ok, calls, answers⟩ := Deployment.store_cases step
      · rw [← same]
        exact suspects
      cases moves : op.movesInventory with
      | false => exact (answers_settles answers integrity moves).1 _ _ _ suspects
      | true =>
          cases op with
          | saveInventoryCursor storageNamespace startAfter updatedAt =>
              exact saveInventoryCursor_settles answers _ _ _ suspects
          | reconcileInventoryPage storageNamespace objects observedAt eligibleBefore =>
              -- the call did not succeed, so it left the store
              cases calls with
              | called request => cases request
              | @asked i _ answer =>
                  obtain ⟨call, next, asked⟩ := step.asked_cases
                  obtain ⟨store', replies, moved⟩ := asked.answered
                  cases answer with
                  | ok result => exact absurd ⟨_, _, _, _, _, _, rfl⟩ reconciles
                  | error error =>
                      rw [moved] at suspects
                      cases replies with
                      | refused => exact suspects
                      | ran ran =>
                          obtain rfl := reconcileInventoryPage_atomic _ _ _ _ _ _ _ ran
                          exact suspects
          | _ => cases moves

/-- The object was listed for the first time at that instant, and nobody who listed it since
knew it. -/
def Watched (d : Deployment) (clock : OffsetDateTime) (storageNamespace : StorageNamespace)
    (key : ObjectKey) (firstSeenAt : Int) (labels : List SystemLabel) (s : SystemState) : Prop :=
  ∃ earlier first later, ∃ before : SystemState, ∃ seenAt, labels = earlier ++ first :: later ∧
    Trace d.machine.Step (.initial (.fresh clock)) earlier before ∧
    Trace (Guarded d.machine.Step (Unowned storageNamespace key)) before (first :: later) s ∧
    Sights storageNamespace key seenAt first ∧ seenAt.unixTimestamp = firstSeenAt

/-- Every suspicion is founded on such a watch. -/
structure Founded (d : Deployment) (clock : OffsetDateTime) (labels : List SystemLabel)
    (s : SystemState) : Prop where
  run : Trace d.machine.Step (.initial (.fresh clock)) labels s
  integrity : s.shared.store.Integrity
  watched : ∀ storageNamespace key firstSeenAt,
    s.shared.store.Suspects storageNamespace key firstSeenAt →
      Watched d clock storageNamespace key firstSeenAt labels s

theorem Founded.step (founded : Founded d clock labels s) (step : d.machine.Step s label t) :
    Founded d clock (labels ++ [label]) t where
  run := founded.run.append (.single step)
  integrity := by
    obtain same | ⟨op, ok, -, answers⟩ := Deployment.store_cases step
    · rw [same]
      exact founded.integrity
    · exact answers.integrity founded.integrity
  watched := by
    intro storageNamespace key firstSeenAt suspects
    obtain ⟨unowned, old | ⟨observedAt, sights, seen⟩⟩ := suspects_step step founded.integrity suspects
    · obtain ⟨earlier, first, later, before, seenAt, rfl, run, watch, sights, seen⟩ :=
        founded.watched _ _ _ old
      refine ⟨earlier, first, later ++ [label], before, seenAt, ?_, run, ?_, sights, seen⟩
      · rw [List.append_assoc, List.cons_append]
      · exact watch.append (.single ⟨step, unowned⟩)
    · exact ⟨labels, label, [], s, observedAt, rfl, founded.run, .single ⟨step, unowned⟩, sights, seen⟩

theorem founded_of_run (run : Trace d.machine.Step (.initial (.fresh clock)) labels s) :
    Founded d clock labels s := by
  have start : Founded d clock [] (.initial (.fresh clock)) :=
    ⟨.nil _, migrated_integrity, fun _ _ _ ⟨_, member, _⟩ => by cases member⟩
  exact run.accrues (P := Founded d clock) (fun _ _ _ _ step founded => founded.step step) start

end Suspicions

/-! ## Pruning -/

section Pruning

variable {d : Deployment} {clock : OffsetDateTime} {s t : SystemState} {i : Nat}
variable {labels : List SystemLabel} {mode : InventoryMode} {bucket key : String}
variable {answer : Answer (.provider (.deleteObject bucket key))}

/-- What an inventory pass deletes it has condemned. -/
theorem condemned_of_step
    (step : d.machine.Step s (.asked i ⟨.provider (.deleteObject bucket key), answer⟩) t)
    (pass : s.call i = some (.inventory mode)) :
    GraceRule d.inventory (s.past i) (.provider (.deleteObject bucket key)) := by
  have follows : ∀ call, Follows (fun past request => ∀ mode, call = .inventory mode →
      GraceRule d.inventory past request) (fun _ _ => True) [] (d.program call) := by
    intro call
    cases call with
    | inventory mode =>
        have passes : (d.inventory.runOnce mode).Follows (GraceRule d.inventory) (fun _ _ => True) [] :=
          follows_runOnce mode
        have graces := follows_discard passes
        exact graces.relax fun _ _ rule _ _ => rule
    | _ =>
        exact follows_only (K := fun _ => True) (Deployment.only_program _)
          (fun _ _ _ _ _ => trivial) (fun _ _ _ _ _ other => by cases other) trivial
  obtain ⟨call, called, rule⟩ := step.obeys follows
  rw [pass] at called
  cases called
  exact rule mode rfl

/-- **An object is pruned only after its grace period.**  When an inventory pass deletes an object,
it has just found once more that nothing owns it; a page of its own reported the key as eligible
before; and from a page that listed the object at least the grace period earlier, up to that page,
every page that listed it found no owner. -/
theorem pruned_after_grace (run : Trace d.machine.Step (.initial (.fresh clock)) labels s)
    (step : d.machine.Step s (.asked i ⟨.provider (.deleteObject bucket key), answer⟩) t)
    (pass : s.call i = some (.inventory mode)) :
    ∃ storageNamespace objectKey, bucket = (d.inventory.storeOf storageNamespace).bucket ∧
      key = objectKey.asStr ∧
      (s.past i).getLast? =
        some ⟨.store (.isInventoryKeyKnown storageNamespace objectKey), .ok false⟩ ∧
      ∃ earlier first later rest, ∃ before after : SystemState,
        labels = (earlier ++ first :: later) ++ rest ∧
        Trace d.machine.Step (.initial (.fresh clock)) earlier before ∧
        Trace (Guarded d.machine.Step (Unowned storageNamespace objectKey)) before
          (first :: later) after ∧
        Trace d.machine.Step after rest s ∧
        ∃ seenAt objects observedAt eligibleBefore result,
          Sights storageNamespace objectKey seenAt first ∧
          (first :: later).getLast? = some (.asked i ⟨.store (.reconcileInventoryPage
            storageNamespace objects observedAt eligibleBefore), .ok result⟩) ∧
          (∃ candidate ∈ result.eligible, candidate.key = objectKey) ∧
          seenAt.unixTimestamp * 1000000000 + d.inventoryPolicy.orphanGracePeriod.nanos ≤
            observedAt.unixNanos := by
  obtain ⟨storageNamespace, objectKey, before, rfl, rfl, past, condemned⟩ :=
    condemned_of_step step pass
  obtain ⟨objects, observedAt, eligibleBefore, result, heard, grace, candidate, member, named⟩ :=
    condemned
  refine ⟨storageNamespace, objectKey, rfl, rfl, by rw [past, List.getLast?_concat], ?_⟩
  have known : (⟨.store (.reconcileInventoryPage storageNamespace objects observedAt eligibleBefore),
      .ok result⟩ : Exchange Answer) ∈ s.past i := by
    rw [past]
    exact List.mem_append_left _ heard
  -- the page was reconciled at a step of the run
  obtain old | ⟨upTo, rest, u, v, rfl, start, own, afterwards⟩ := heard_in_run run known
  · rw [State.past_initial] at old
    cases old
  have reconciled := reconciled_of_step own
  obtain ⟨listed, -, firstSeenAt, early, suspects⟩ := reconciled.eligible candidate member
  rw [named] at suspects
  have founded := founded_of_run (start.append (.single own))
  obtain ⟨earlier, first, later, w, seenAt, split, first', watch, sights, seen⟩ :=
    founded.watched _ _ _ suspects
  refine ⟨earlier, first, later, rest, w, v, ?_, first', watch, afterwards, seenAt, objects,
    observedAt, eligibleBefore, result, sights, ?_, ⟨candidate, member, named⟩, ?_⟩
  · rw [← split, List.append_assoc]
    rfl
  · have last := congrArg List.getLast? split
    rw [List.getLast?_concat, List.getLast?_append_cons] at last
    exact last.symm
  · have nanos := OffsetDateTime.minus_eq_some grace
    have fits := Int.ediv_mul_le eligibleBefore.unixNanos (b := 1000000000) (by decide)
    have seconds : seenAt.unixTimestamp ≤ eligibleBefore.unixNanos / 1000000000 := by
      rw [seen]
      exact early
    have period : d.inventory.policy.orphanGracePeriod = d.inventoryPolicy.orphanGracePeriod := rfl
    rw [period] at nanos
    omega

end Pruning

/-! ## An orphan -/

/-- The thread deletes an object. -/
def deletes (i : Nat) : SystemLabel → Bool
  | .asked j ⟨.provider (.deleteObject ..), _⟩ => i == j
  | _ => false

theorem deletes_sound {i : Nat} {label : SystemLabel} (deleted : deletes i label = true) :
    ∃ bucket key answer, label = .asked i ⟨.provider (.deleteObject bucket key), answer⟩ := by
  unfold deletes at deleted
  split at deleted
  · obtain rfl := eq_of_beq deleted
    exact ⟨_, _, _, rfl⟩
  · cases deleted

/-- An upload is cut off before it is recorded, and its object is stored all the same. -/
def storeOrphan : List (Command ServiceCall Event) :=
  [.start (.createBatch ⟨"g5", [⟨"a", .image, 100, "image/png"⟩]⟩), .run 0 5, .crash 0,
    .happen (.put "raw" rehearsedKey 100)]

/-- A pass sees the orphan; a pass hours later finds it eligible and prunes it. -/
theorem pruned_after_grace_orphan : ∃ labels, ∃ s t : SystemState, ∃ bucket objectKey,
    (∃ answer, sampleDeployment.machine.Step s
      (.asked 2 ⟨.provider (.deleteObject bucket (ObjectKey.asStr objectKey)), answer⟩) t) ∧
      ∃ storageNamespace earlier first later rest seenAt objects observedAt eligibleBefore result,
        labels = (earlier ++ first :: later) ++ rest ∧
        Sights storageNamespace objectKey seenAt first ∧
        (first :: later).getLast? = some (.asked 2 ⟨.store (.reconcileInventoryPage
          storageNamespace objects observedAt eligibleBefore), .ok result⟩) ∧
        ∃ candidate ∈ result.eligible, candidate.key = objectKey := by
  have played : (((((paging sampleDeployment 7200000000000).performAll (fun _ _ => true)
      (storeOrphan ++ [.start (.inventory .audit)])
      ⟨.initial (.fresh (sampleTime 0)), []⟩).bind ((paging sampleDeployment 7200000000000).exchange
        (fun _ _ => true) 1)).bind ((paging sampleDeployment 7200000000000).performAll
      (fun _ _ => true) [.run 1 5, .start (.inventory .prune), .run 2 5])).bind
      ((paging sampleDeployment 7200000000000).exchange
        (fun s label => isPass s 2 && deletes 2 label) 2)).isSome = true := by
    decide +kernel
  obtain ⟨labels, s, label, t, labels', u, label', v, first, step, run, last⟩ := paging_stages played
  obtain ⟨step', both⟩ := last
  rw [Bool.and_eq_true] at both
  obtain ⟨bucket, key, answer, rfl⟩ := deletes_sound both.2
  obtain ⟨mode, pass⟩ : ∃ mode, u.call 2 = some (.inventory mode) := by
    have isPass := both.1
    unfold Inventory.isPass at isPass
    split at isPass
    · rename_i mode called
      exact ⟨mode, called⟩
    · cases isPass
  obtain ⟨storageNamespace, objectKey, -, rfl, -, earlier, first, later, rest, -, -, split, -, -, -,
    seenAt, objects, observedAt, eligibleBefore, result, sights, own, eligible, -⟩ :=
    pruned_after_grace ((first.unguarded.append (.single step.1)).append run.unguarded) step' pass
  exact ⟨_, u, v, bucket, objectKey, ⟨answer, step'⟩, storageNamespace, earlier, first, later, rest,
    seenAt, objects, observedAt, eligibleBefore, result, split, sights, own, eligible⟩

end MediaBooster.Inventory
