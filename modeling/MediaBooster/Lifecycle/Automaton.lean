/-
# Lifecycle.Automaton -- the store refines the upload automaton

The SQL never consults `UploadState::can_transition_to`: every `UPDATE` of the store
encodes the states it starts from in a predicate of its own.

* `answers_atomic`: an operation of the upload, lifecycle and processing repositories
  that returns an error has changed nothing.
* `uploads_follow_automaton`: whatever any one operation does to the stored state of
  an upload, in any state the store can reach, is a chain of allowed transitions;
  rows leave as tombstones and come as reservations.
* `run_follows_automaton`: the same over whole runs, for as long as nothing is purged.
-/
import MediaBooster.Store.Operations

namespace MediaBooster.Lifecycle

set_option autoImplicit false

open MediaBooster.Domain MediaBooster.Store MediaBooster.Theory.Run MediaBooster.Theory.Table
open MediaBooster.Theory.Transaction

/-! ## Errors -/

/-- The repositories whose operations are atomic. -/
def Transactional (op : Op) : Prop :=
  op.repository = .upload ∨ op.repository = .lifecycle ∨ op.repository = .processing

theorem settle_failed {ε α : Type} {call : Call SqliteStore ε α} {store : SqliteStore}
    (failed : (Op.settle call store).1 = false) :
    ∃ error, call store = (.error error, (Op.settle call store).2) := by
  rw [Op.settle] at failed ⊢
  cases answer : call store with
  | mk result store' =>
      cases result with
      | error error => exact ⟨error, rfl⟩
      | ok value => simp [answer, Except.toBool] at failed

theorem atomic_settle {ε α : Type} {call : Call SqliteStore ε α} {store : SqliteStore}
    (atomic : ∀ error store', call store = (.error error, store') → store' = store)
    (failed : (Op.settle call store).1 = false) : (Op.settle call store).2 = store := by
  obtain ⟨error, answer⟩ := settle_failed failed
  exact atomic error _ answer

/-- Nothing is written by an operation that only reads. -/
theorem reads_same {s t : SqliteStore} (effect : Effect [] s t) : t = s := by
  induction effect with
  | refl => rfl
  | tail _ wrote ih => cases wrote <;> contradiction

/-- **Atomicity.**  A failed call of a transactional repository changes nothing. -/
theorem answers_atomic {op : Op} {s t : SqliteStore} (integrity : s.Integrity)
    (transactional : Transactional op) (answers : Answers op s false t) : t = s := by
  generalize outcome : false = ok at answers
  cases answers with
  | refused => rfl
  | ran =>
      have failed := outcome.symm
      have reads : op.kinds = [] → (op.run s).2 = s := fun none => by
        refine reads_same ?_
        rw [← none]
        exact op.effect integrity
      cases op with
      | findUpload | isDeliveryAllowed | hasCapacity | findProcessingSource => exact reads rfl
      | saveBatch =>
          refine atomic_settle (fun error store' ran => ?_) failed
          obtain ⟨same, -⟩ | ⟨succeeded, -⟩ := saveBatch_cases ran
          · exact same
          · cases succeeded
      | markQuarantinedAndEnqueue =>
          refine atomic_settle (fun error store' ran => ?_) failed
          obtain ⟨same, -⟩ | ⟨succeeded, -⟩ := markQuarantinedAndEnqueue_cases integrity ran
          · exact same
          · cases succeeded
      | markDeleted =>
          refine atomic_settle (fun error store' ran => ?_) failed
          obtain ⟨succeeded, -⟩ | same := markDeleted_cases integrity ran
          · cases succeeded
          · exact same
      | requestDeletion =>
          refine atomic_settle (fun error store' ran => ?_) failed
          obtain ⟨same, -⟩ | ⟨succeeded, -⟩ := requestDeletion_cases integrity ran
          · exact same
          · cases succeeded
      | claimCleanupBatch =>
          refine atomic_settle (fun error store' ran => ?_) failed
          obtain ⟨same, -⟩ | ⟨leaseUntil, rows, candidates, succeeded, -⟩ :=
            claimCleanupBatch_cases integrity ran
          · exact same
          · cases succeeded
      | completeCleanup =>
          refine atomic_settle (fun error store' ran => ?_) failed
          obtain ⟨succeeded, -⟩ | ⟨same, -⟩ := completeCleanup_cases integrity ran
          · cases succeeded
          · exact same
      | failCleanup =>
          refine atomic_settle (fun error store' ran => ?_) failed
          obtain ⟨succeeded, -⟩ | ⟨same, -⟩ := failCleanup_cases integrity ran
          · cases succeeded
          · exact same
      | purgeTombstones =>
          refine atomic_settle (fun error store' ran => ?_) failed
          exact atomic_bind (moves_ensure _ _) (fun _ => atomic_commit _) s error store' ran
      | startProcessing =>
          refine atomic_settle (fun error store' ran => ?_) failed
          obtain ⟨succeeded, -⟩ | ⟨same, -⟩ := startProcessing_cases integrity ran
          · cases succeeded
          · exact same
      | publishDerivatives =>
          refine atomic_settle (fun error store' ran => ?_) failed
          obtain ⟨same, -⟩ | ⟨succeeded, -⟩ := publishDerivatives_cases integrity ran
          · exact same
          · cases succeeded
      | markRejected =>
          refine atomic_settle (fun error store' ran => ?_) failed
          obtain ⟨succeeded, -⟩ | ⟨same, -⟩ := markRejected_cases integrity ran
          · cases succeeded
          · exact same
      | findPolicyAsset | insertSnapshot | compareSnapshot | findActiveSitePolicy
      | findSitePolicyRevision | inventoryCursor | reconcileInventoryPage | isInventoryKeyKnown
      | forgetOrphan | completeOrphanDeletion | failOrphanDeletion | saveInventoryCursor | enqueue
      | claimNext | renew | complete | fail | consume =>
          simp [Transactional, Op.repository] at transactional

/-! ## The automaton -/

/-- What one operation may do to the stored states. -/
structure FollowsAutomaton (s t : SqliteStore) : Prop where
  chain : ∀ before ∈ s.uploads, ∀ after ∈ t.uploads, after.id = before.id →
    UploadState.Chain before.state after.state
  deleted : ∀ before ∈ s.uploads, ∀ after ∈ t.uploads, after.id = before.id →
    before.state = .deleted → after.state = .deleted
  settled : ∀ before ∈ s.uploads, ∀ after ∈ t.uploads, after.id = before.id →
    before.state = .ready ∨ before.state = .rejected →
      after.state = before.state ∨ after.state = .deleted
  removed : ∀ before ∈ s.uploads, (∀ after ∈ t.uploads, after.id ≠ before.id) →
    before.state = .deleted
  added : ∀ after ∈ t.uploads, (∀ before ∈ s.uploads, before.id ≠ after.id) →
    after.state = .created

theorem settled_iff {state : UploadState} :
    state.settled = true ↔ state = .ready ∨ state = .rejected := by
  cases state <;> simp [UploadState.settled]

theorem followsAutomaton_of_advances {s t : SqliteStore} (advances : Advances s t) :
    FollowsAutomaton s t where
  chain := fun before there after there' same => (advances.moved before there after there' same).chain
  deleted := fun before there after there' same deleted => by
    have chain := (advances.moved before there after there' same).chain
    rw [deleted] at chain
    exact chain.from_deleted
  settled := fun before there after there' same settled =>
    (advances.moved before there after there' same).chain.from_settled (settled_iff.2 settled)
  removed := advances.removed
  added := fun after there fresh => (advances.added after there fresh).1

/-- **The store refines the automaton.**  In every reachable state, every operation, by
whomever and however it ends, follows the automaton, and a transactional one that
returns an error leaves the uploads, derivatives and jobs as they were. -/
theorem uploads_follow_automaton {calls : List (Op × Bool)} {s t : SqliteStore} {op : Op}
    {ok : Bool} (run : StoreRun calls s) (answers : Answers op s ok t) :
    FollowsAutomaton s t ∧
      (Transactional op → ok = false →
        t.uploads = s.uploads ∧ t.derivatives = s.derivatives ∧ t.jobs = s.jobs) := by
  have integrity := StoreRun.integrity run
  refine ⟨followsAutomaton_of_advances (answers.advances integrity), ?_⟩
  rintro transactional rfl
  rw [answers_atomic integrity transactional answers]
  exact ⟨rfl, rfl, rfl⟩

/-- Confirming the sample follows the automaton; rejecting it too early changes nothing. -/
theorem uploads_follow_automaton_sample :
    FollowsAutomaton reservedSample confirmedSample ∧
      ((Op.markRejected ⟨1⟩ "SOURCE_INVALID" (sampleTime 1)).run reservedSample).2.uploads =
        reservedSample.uploads := by
  have early : Answers (.markRejected ⟨1⟩ "SOURCE_INVALID" (sampleTime 1)) reservedSample false
      ((Op.markRejected ⟨1⟩ "SOURCE_INVALID" (sampleTime 1)).run reservedSample).2 := .ran
  refine ⟨(uploads_follow_automaton reservedSample_run confirmedSample_answers).1, ?_⟩
  exact ((uploads_follow_automaton reservedSample_run early).2 (.inr (.inr rfl)) rfl).1

/-! ## Runs -/

theorem answers_keep {op : Op} {ok : Bool} {s t : SqliteStore} (integrity : s.Integrity)
    (answers : Answers op s ok t) (keeps : .deleteUploads ∉ op.kinds) :
    ∀ before ∈ s.uploads, ∃ after ∈ t.uploads, Evolves before after := by
  intro before there
  have advances := answers.advances integrity
  by_cases stays : ∃ after ∈ t.uploads, after.id = before.id
  · obtain ⟨after, there', same⟩ := stays
    exact ⟨after, there', advances.moved before there after there' same⟩
  · exfalso
    apply stays
    have kept : ∀ row ∈ s.uploads, ∃ row' ∈ t.uploads, row'.id = row.id := by
      refine (answers.effect integrity).keeps
        (P := fun m => ∀ row ∈ s.uploads, ∃ row' ∈ m.uploads, row'.id = row.id)
        (fun m u wrote kept row member => ?_) (fun row member => ⟨row, member, rfl⟩)
      obtain ⟨row', there', same⟩ := kept row member
      obtain unchanged | ⟨-, fresh, -, -, added⟩ | ⟨-, moved⟩ | ⟨kind, -⟩ := wrote.uploads_cases
      · rw [unchanged]
        exact ⟨row', there', same⟩
      · rw [added]
        exact ⟨row', List.mem_append_left _ there', same⟩
      · obtain ⟨row'', there'', evolves⟩ := forall₂_mem_left moved there'
        exact ⟨row'', there'', evolves.id.trans same⟩
      · exact absurd kind keeps
    exact kept before there

/-- **Runs follow the automaton.**  Over any run without a purge, every upload stays and
its state moves along a chain: a deleted one stays deleted, a ready or rejected one
stays as it is or is deleted. -/
theorem run_follows_automaton {calls later : List (Op × Bool)} {s t : SqliteStore}
    (reached : StoreRun calls s) (run : Trace StoreStep s later t)
    (keeps : ∀ call ∈ later, .deleteUploads ∉ call.1.kinds) :
    ∀ before ∈ s.uploads, ∃ after ∈ t.uploads, after.id = before.id ∧
      UploadState.Chain before.state after.state := by
  have integrity := StoreRun.integrity reached
  have evolved : ∀ before ∈ s.uploads, ∃ after ∈ t.uploads, Evolves before after := by
    clear reached
    induction run with
    | nil => exact fun before there => ⟨before, there, Evolves.refl before⟩
    | @cons s m t label later step rest ih =>
        intro before there
        obtain ⟨middle, there', first⟩ :=
          answers_keep integrity step (keeps label List.mem_cons_self) before there
        obtain ⟨after, there'', second⟩ :=
          ih (fun call member => keeps call (List.mem_cons_of_mem _ member))
            (Answers.integrity step integrity) middle there'
        exact ⟨after, there'', first.trans second⟩
  intro before there
  obtain ⟨after, there', evolves⟩ := evolved before there
  exact ⟨after, there', evolves.id, evolves.chain⟩

end MediaBooster.Lifecycle
