/-
# Lifecycle.Drain -- accepted deletions are carried out

`Lifecycle.Cleanup` says when a claim selects an upload.  This module goes to the end: a pass of the
cleanup by itself, in a world in which nothing fails, leases the first uploads of its batch, removes
what each of them stored, and tombstones all of them (`runOnce_passes`).

Requested deletions stand before everything else in a batch, and a pass leaves the uploads it does
not select as they are.  So passes one after the other work them off, a batch at a time
(`deletions_drain`).
-/
import MediaBooster.Lifecycle.Cleanup
import MediaBooster.Lifecycle.Purge
import MediaBooster.Quota.Triggers
import MediaBooster.Service.Rehearsal
import MediaBooster.Theory.Triples

namespace MediaBooster.Lifecycle

set_option autoImplicit false

open MediaBooster.Domain MediaBooster.Quota MediaBooster.Service MediaBooster.Storage
open MediaBooster.Store MediaBooster.Theory.Run MediaBooster.Theory.Selection
open MediaBooster.Theory.Table MediaBooster.Theory.Threads MediaBooster.Theory.Transaction

/-! ## Calm worlds -/

/-- An exchange in which nothing goes wrong outside the service, while the clock goes on and stays
ten years from where it began. -/
def Calm (w : World) : (ask : Ask) → Answer ask → World → Prop
  | .now, reading, w' => w.clock ≤ reading ∧ (reading.minus (days 3650 decade_fits)).isSome ∧
      w' = { w with clock := reading }
  | ask, answer, w' => w.Serves ask answer w'

theorem minus_isSome {t : OffsetDateTime} {longer shorter : Duration}
    (within : (t.minus longer).isSome) (le : shorter.nanos ≤ longer.nanos) :
    ∃ earlier, t.minus shorter = some earlier := by
  unfold OffsetDateTime.minus OffsetDateTime.shifted at within ⊢
  split at within
  · rename_i bounds
    have upper := t.upper
    rw [dif_pos ⟨by omega, by omega⟩]
    exact ⟨_, rfl⟩
  · cases within

section Asking

variable {ε α : Type} {w : World} {done : α → World → Prop} {failed : ε → World → Prop}

/-- A look at the clock of a calm world. -/
theorem ends_now {next : OffsetDateTime → Action ε α}
    (rest : ∀ reading, w.clock ≤ reading → (reading.minus (days 3650 decade_fits)).isSome →
      (next reading).Ends Calm { w with clock := reading } done failed) :
    (now >>= next).Ends Calm w done failed := by
  have read : (now : Action ε OffsetDateTime).Ends Calm w (fun reading t => w.clock ≤ reading ∧
      (reading.minus (days 3650 decade_fits)).isSome ∧ t = { w with clock := reading }) failed :=
    Attempt.ends_lift (Program.ends_ask fun _ _ answered => Program.ends_done answered)
  refine Attempt.ends_bind read ?_
  rintro reading t ⟨later, within, rfl⟩
  exact rest reading later within

/-- A check that passes. -/
theorem ends_passed {condition : Bool} {error : ε} {next : Unit → Action ε α}
    (passes : condition = true) (rest : (next ()).Ends Calm w done failed) :
    (Attempt.ensure condition error >>= next).Ends Calm w done failed := by
  rw [passes]
  exact rest

/-- A value that is there. -/
theorem ends_found {β : Type} {value : Option β} {found : β} {error : ε}
    {next : β → Action ε α} (some_ : value = some found)
    (rest : (next found).Ends Calm w done failed) :
    (Attempt.okOr value error >>= next).Ends Calm w done failed := by
  rw [some_]
  exact rest

/-- A call of the store in a calm world. -/
theorem ends_call {op : Op} {done : op.Result → World → Prop}
    {failed : op.Error → World → Prop} {result : Except op.Error op.Result} {store : SqliteStore}
    (ran : op.call w.store = (result, store))
    (holds : settled done failed result { w with store := store }) :
    (call op).Ends Calm w done failed := by
  refine Program.ends_ask fun answer t answered => ?_
  obtain ⟨store', same, rfl⟩ := answered
  obtain ⟨rfl, rfl⟩ := Prod.mk.inj (ran.symm.trans same)
  exact Program.ends_done holds

/-- A call that succeeds, and what comes after it. -/
theorem ends_called {op : Op} {f : op.Error → ε} {result : op.Result} {store : SqliteStore}
    {next : op.Result → Action ε α} (ran : op.call w.store = (.ok result, store))
    (rest : (next result).Ends Calm { w with store := store } done failed) :
    (Attempt.mapError f (call op) >>= next).Ends Calm w done failed := by
  have called : (Attempt.mapError f (call op)).Ends Calm w
      (fun answer t => answer = result ∧ t = { w with store := store }) failed :=
    Attempt.ends_mapError (ends_call ran ⟨rfl, rfl⟩)
  refine Attempt.ends_bind called ?_
  rintro answer t ⟨rfl, rfl⟩
  exact rest

end Asking

/-! ## The storage of one upload -/

section Storage

variable (service : LifecycleService)

/-- What the candidate has stored. -/
def Stores (candidate : CleanupCandidate) (bucket key : String) : Prop :=
  (bucket = service.rawStore.bucket ∧ key = candidate.rawObjectKey.asStr) ∨
    (bucket = service.derivativeStore.bucket ∧
      ∃ derivative ∈ candidate.derivativeKeys, key = derivative.asStr)

/-- Objects were removed only, and all of these were. -/
def Removed (gone : String → String → Prop) (w w' : World) : Prop :=
  w'.store = w.store ∧ w'.clock = w.clock ∧ ∀ bucket key,
    w'.provider.objects bucket key = none ∨
      (w'.provider.objects bucket key = w.provider.objects bucket key ∧ ¬gone bucket key)

variable {service} {w : World} {candidate : CleanupCandidate}

theorem removed_nothing {gone : String → String → Prop} {w' : World} (store : w'.store = w.store)
    (clock : w'.clock = w.clock) (same : w'.provider.objects = w.provider.objects)
    (nothing : ∀ bucket key, ¬gone bucket key) : Removed gone w w' :=
  ⟨store, clock, fun bucket key => .inr ⟨by rw [same], nothing bucket key⟩⟩

theorem Removed.trans {first second both : String → String → Prop} {u v : World}
    (before : Removed first w u) (after : Removed second u v)
    (covers : ∀ bucket key, both bucket key → first bucket key ∨ second bucket key) :
    Removed both w v := by
  refine ⟨after.1.trans before.1, after.2.1.trans before.2.1, fun bucket key => ?_⟩
  obtain gone | ⟨same, kept⟩ := after.2.2 bucket key
  · exact .inl gone
  · obtain gone | ⟨same', kept'⟩ := before.2.2 bucket key
    · exact .inl (same.trans gone)
    · refine .inr ⟨same.trans same', fun member => ?_⟩
      exact (covers bucket key member).elim kept' kept

/-- A deletion removes its object. -/
theorem delete_ends (s3 : S3CompatibleStore) (key : ObjectKey) {failed : String → World → Prop}
    {code : ObjectStoreError → String} :
    (Attempt.mapError code (s3.delete key)).Ends Calm w
      (fun _ w' => Removed (fun b k => b = s3.bucket ∧ k = key.asStr) w w') failed := by
  refine Attempt.ends_mapError (Attempt.ends_mapError ?_)
  refine Program.ends_ask fun answer t answered => ?_
  cases answer with
  | ok =>
      obtain ⟨provider', performs, rfl⟩ := answered
      cases performs with
      | deleted =>
          refine Program.ends_done ⟨rfl, rfl, fun bucket k => ?_⟩
          rw [Provider.store_objects]
          split
          · exact .inl rfl
          · rename_i other
            exact .inr ⟨rfl, other⟩
  | error error =>
      obtain ⟨refuses, -⟩ := answered
      cases refuses

theorem deleteDerivatives_ends (keys : List ObjectKey) {failed : String → World → Prop} :
    (service.deleteDerivatives keys).Ends Calm w
      (fun _ w' => Removed (fun b k => b = service.derivativeStore.bucket ∧
        ∃ derivative ∈ keys, k = derivative.asStr) w w') failed := by
  induction keys generalizing w with
  | nil =>
      refine Attempt.ends_pure (removed_nothing rfl rfl rfl ?_)
      rintro bucket key ⟨-, derivative, member, -⟩
      cases member
  | cons first rest ih =>
      refine Attempt.ends_bind (delete_ends _ _) fun _ u removed => ?_
      refine Attempt.Ends.mono ih (fun _ v removed' => removed.trans removed' ?_)
        fun _ _ fails => fails
      rintro bucket key ⟨here, derivative, member, rfl⟩
      obtain rfl | later := List.mem_cons.1 member
      · exact .inl ⟨here, rfl⟩
      · exact .inr ⟨here, derivative, later, rfl⟩

/-- A session to be aborted is known. -/
def Opened (candidate : CleanupCandidate) : Prop :=
  ∀ partSize, candidate.transfer = .multipart partSize → candidate.multipartUploadId.isSome

theorem abortSession_ends (opened : Opened candidate) {failed : String → World → Prop} :
    (service.abortSession candidate).Ends Calm w
      (fun _ w' => Removed (fun _ _ => False) w w') failed := by
  unfold LifecycleService.abortSession
  split
  · rename_i partSize created multipart
    obtain ⟨session, named⟩ := Option.isSome_iff_exists.1 (opened partSize multipart)
    rw [named]
    refine Attempt.ends_mapError (Program.ends_ask fun answer t answered => ?_)
    cases answer with
    | ok =>
        obtain ⟨provider', performs, rfl⟩ := answered
        cases performs with
        | aborted => exact Program.ends_done (removed_nothing rfl rfl rfl fun _ _ => id)
    | error error =>
        obtain ⟨refuses, rfl⟩ := answered
        cases refuses with
        | unabortable => exact Program.ends_done (removed_nothing rfl rfl rfl fun _ _ => id)
  · exact Attempt.ends_pure (removed_nothing rfl rfl rfl fun _ _ => id)

/-- **The storage of a candidate goes**, all of it. -/
theorem cleanupStorage_ends (opened : Opened candidate) {failed : String → World → Prop} :
    (service.cleanupStorage candidate).Ends Calm w
      (fun _ w' => Removed (Stores service candidate) w w') failed := by
  refine Attempt.ends_bind (abortSession_ends opened) fun _ u first => ?_
  refine Attempt.ends_bind (deleteDerivatives_ends _) fun _ v second => ?_
  refine Attempt.Ends.mono (delete_ends _ _) (fun _ x third => ?_) fun _ _ fails => fails
  refine first.trans (second.trans third fun bucket key stored => stored.symm)
    fun bucket key stored => .inr stored

end Storage

/-! ## Tombstones -/

/-- Some operations lead to the store. -/
def Reached (store : SqliteStore) : Prop := ∃ calls, StoreRun calls store

theorem Reached.next {op : Op} {ok : Bool} {s t : SqliteStore} (reached : Reached s)
    (answers : Answers op s ok t) : Reached t := by
  obtain ⟨calls, run⟩ := reached
  exact ⟨calls ++ [(op, ok)], run.append (Trace.single answers)⟩

theorem Reached.integrity {store : SqliteStore} (reached : Reached store) : store.Integrity := by
  obtain ⟨calls, run⟩ := reached
  exact StoreRun.integrity run

section Tombstones

variable {s : SqliteStore} {row : UploadRow} {owner : String}

/-- **Completing a leased cleanup succeeds** in every reachable store. -/
theorem completeCleanup_runs (reached : Reached s) (member : row ∈ s.uploads)
    (leased : cleanupLeasedBy row.id owner row = true) (at_ : OffsetDateTime) :
    ∃ t, completeCleanup row.id owner at_ s = (.ok (), t) ∧
      UploadMoved row (tombstoneColumns at_.unixTimestamp) s t := by
  obtain ⟨calls, run⟩ := id reached
  have checked : ∀ other ∈ s.uploads, cleanupLeasedBy row.id owner other = true →
      uploadChecks (other.assign (tombstoneColumns at_.unixTimestamp)) = true :=
    fun other there _ => (run_kept run).checked other there
  have evolves : ∀ other ∈ s.uploads, cleanupLeasedBy row.id owner other = true →
      Evolves other (other.assign (tombstoneColumns at_.unixTimestamp)) :=
    fun other _ _ => ⟨rfl, UploadState.Chain.to_deleted _, fun _ => rfl⟩
  have pinned : ∀ other, cleanupLeasedBy row.id owner other = true → other.id = row.id :=
    fun other hits => (cleanupLeasedBy_iff.1 hits).1
  obtain ⟨n, t, updated⟩ := updateUploads_runs (run_aggregated run) evolves checked
  obtain ⟨-, -, untouched⟩ | ⟨rfl, upload, hits, moved⟩ :=
    updateUploads_moves reached.integrity pinned updated
  · rw [untouched row member] at leased
    cases leased
  · obtain rfl := reached.integrity.uploadIds.eq_of_key moved.member member (pinned upload hits)
    exact ⟨t, call_bind_eq_ok.2 ⟨1, t, autocommit_eq_ok.2 updated, rfl⟩, moved⟩

/-- The upload was tombstoned, and nothing else happened. -/
structure Tombstoned (row : UploadRow) (w w' : World) : Prop where
  reached : Reached w'.store
  clock : w.clock ≤ w'.clock
  provider : w'.provider = w.provider
  moved : ∃ at_, UploadMoved row (tombstoneColumns at_) w.store w'.store

theorem recordCleanup_ends {w : World} {candidate : CleanupCandidate} (reached : Reached w.store)
    (member : row ∈ w.store.uploads) (leased : cleanupLeasedBy row.id owner row = true)
    (named : candidate.uploadId = row.id) {failed : LifecycleRunError → World → Prop} :
    (LifecycleService.recordCleanup owner candidate).Ends Calm w
      (fun _ w' => Tombstoned row w w') failed := by
  refine ends_now fun completedAt later _ => Attempt.ends_mapError ?_
  rw [named]
  obtain ⟨t, ran, moved⟩ := completeCleanup_runs reached member leased completedAt
  have answers : Answers (.completeCleanup row.id owner completedAt) w.store true t :=
    .ofReplies (fun _ => rfl) (.ran ran)
  exact ends_call ran ⟨reached.next answers, later, rfl, _, moved⟩

end Tombstones

/-! ## A batch -/

section Batches

variable {service : LifecycleService} {owner : String} {w w' : World}

/-- The candidate's upload is leased to this owner, and what it stored can be removed. -/
structure Leased (owner : String) (store : SqliteStore) (candidate : CleanupCandidate) : Prop where
  row : ∃ row ∈ store.uploads, candidate.uploadId = row.id ∧ cleanupLeasedBy row.id owner row = true
  opened : Opened candidate

/-- What the loop over the candidates leaves: they are tombstoned and what they stored is gone;
the other uploads are as they were. -/
structure Swept (service : LifecycleService) (candidates : List CleanupCandidate) (w w' : World) :
    Prop where
  reached : Reached w'.store
  clock : w.clock ≤ w'.clock
  derivatives : w'.store.derivatives = w.store.derivatives
  rows : ∀ row ∈ w'.store.uploads, row.state = .deleted ∨
    (row ∈ w.store.uploads ∧ ∀ candidate ∈ candidates, candidate.uploadId ≠ row.id)
  kept : ∀ row ∈ w.store.uploads, (∀ candidate ∈ candidates, candidate.uploadId ≠ row.id) →
    row ∈ w'.store.uploads
  objects : ∀ bucket key, w'.provider.objects bucket key = none ∨
    (w'.provider.objects bucket key = w.provider.objects bucket key ∧
      ∀ candidate ∈ candidates, ¬Stores service candidate bucket key)

theorem swept_nil (reached : Reached w.store) : Swept service [] w w where
  reached := reached
  clock := Int.le_refl _
  derivatives := rfl
  rows := fun _ member => .inr ⟨member, fun _ other => by cases other⟩
  kept := fun _ member _ => member
  objects := fun _ _ => .inr ⟨rfl, fun _ other => by cases other⟩

/-- One candidate more. -/
theorem Swept.cons {candidate : CleanupCandidate} {candidates : List CleanupCandidate}
    {row : UploadRow} {u v x : World} (integrity : w.store.Integrity)
    (removed : Removed (Stores service candidate) w u) (named : candidate.uploadId = row.id)
    (tombstoned : Tombstoned row u v) (swept : Swept service candidates v x) :
    Swept service (candidate :: candidates) w x := by
  obtain ⟨at_, moved⟩ := tombstoned.moved
  rw [removed.1] at moved
  refine ⟨swept.reached, ?_, swept.derivatives.trans moved.derivatives, ?_, ?_, ?_⟩
  · have first := tombstoned.clock
    rw [removed.2.1] at first
    exact Int.le_trans first swept.clock
  · intro other member
    obtain gone | ⟨there, apart⟩ := swept.rows other member
    · exact .inl gone
    · obtain rfl | ⟨old, ne⟩ := moved.mem_cases integrity there
      · exact .inl rfl
      · refine .inr ⟨old, fun another listed => ?_⟩
        obtain rfl | later := List.mem_cons.1 listed
        · rw [named]
          exact ne.symm
        · exact apart another later
  · intro other member apart
    refine swept.kept other (moved.other_mem member ?_) fun another later =>
      apart another (List.mem_cons_of_mem _ later)
    rw [← named]
    exact (apart candidate List.mem_cons_self).symm
  · intro bucket key
    obtain gone | ⟨same, apart⟩ := swept.objects bucket key
    · exact .inl gone
    · rw [tombstoned.provider] at same
      obtain gone | ⟨same', kept⟩ := removed.2.2 bucket key
      · exact .inl (same.trans gone)
      · refine .inr ⟨same.trans same', fun another listed => ?_⟩
        obtain rfl | later := List.mem_cons.1 listed
        · exact kept
        · exact apart another later

/-- **The loop sweeps its candidates**, and none of them fails. -/
theorem cleanCandidates_ends {candidates : List CleanupCandidate} {summary : LifecycleRunSummary}
    (reached : Reached w.store) (leased : ∀ candidate ∈ candidates, Leased owner w.store candidate)
    (distinct : candidates.Pairwise fun a b => a.uploadId ≠ b.uploadId)
    {failed : LifecycleRunError → World → Prop} :
    (service.cleanCandidates owner candidates summary).Ends Calm w
      (fun result w' => Swept service candidates w w' ∧ result =
        { summary with completed := summary.completed + candidates.length }) failed := by
  induction candidates generalizing w summary with
  | nil => exact Attempt.ends_pure ⟨swept_nil reached, rfl⟩
  | cons candidate rest ih =>
      obtain ⟨⟨row, member, named, holds⟩, opened⟩ := leased candidate List.mem_cons_self
      obtain ⟨apart, distinct⟩ := List.pairwise_cons.1 distinct
      have emptied : (Attempt.lift (service.cleanupStorage candidate).attempt :
          Action LifecycleRunError (Except String Unit)).Ends Calm w (fun cleaned u =>
            cleaned = .ok () ∧ Removed (Stores service candidate) w u) failed := by
        have ends : (service.cleanupStorage candidate).Ends Calm w
            (fun _ u => Removed (Stores service candidate) w u) fun _ _ => False :=
          cleanupStorage_ends opened
        refine Attempt.ends_lift (Program.Ends.mono ends fun result u held => ?_)
        cases result with
        | ok => exact ⟨rfl, held⟩
        | error => exact held.elim
      refine Attempt.ends_bind emptied ?_
      rintro cleaned u ⟨rfl, removed⟩
      rw [← removed.1] at member reached
      refine Attempt.ends_bind (recordCleanup_ends reached member holds named) ?_
      intro _ v tombstoned
      obtain ⟨at_, moved⟩ := id tombstoned.moved
      have later : ∀ other ∈ rest, Leased owner v.store other := by
        intro other listed
        obtain ⟨⟨row', there, named', holds'⟩, opened'⟩ :=
          leased other (List.mem_cons_of_mem _ listed)
        rw [← removed.1] at there
        refine ⟨⟨row', moved.other_mem there ?_, named', holds'⟩, opened'⟩
        rw [← named, ← named']
        exact (apart other listed).symm
      refine Attempt.Ends.mono (ih tombstoned.reached later distinct) (fun result x swept => ?_)
        fun _ _ fails => fails
      refine ⟨Swept.cons (removed.1 ▸ reached.integrity) removed named tombstoned swept.1, ?_⟩
      rw [swept.2]
      simp only [LifecycleService.counted, List.length_cons]
      congr 1
      omega

end Batches

/-! ## A pass -/

section Passes

variable {service : LifecycleService} {owner : String} {s t : SqliteStore}

/-- What is selected has its session, where it needs one. -/
theorem leaseCandidate_opened {leaseUntil : Int} {row : UploadRow} {candidate : CleanupCandidate}
    (ran : leaseCandidate owner leaseUntil row s = .ok (candidate, t)) : Opened candidate := by
  simp only [leaseCandidate, bind_eq_ok, okOr_eq_ok, selectOr_eq_ok, execute_eq_ok, ensure_eq_ok,
    select_eq_ok, pure_eq_ok] at ran
  obtain ⟨attempts, _, ⟨-, rfl⟩, stored, _, ⟨decoded, rfl⟩, n, leased, -, _, _, ⟨-, rfl⟩,
    keys, _, ⟨rfl, rfl⟩, rfl, rfl⟩ := ran
  have read : storedUploadFromRow row = .ok stored := by
    cases result : storedUploadFromRow row with
    | error e => simp [result] at decoded
    | ok value => simpa [result] using decoded
  obtain ⟨-, -, -, -, transfer, session⟩ := storedUploadFromRow_ok read
  intro partSize multipart
  show stored.multipartUploadId.isSome
  rw [session]
  rw [show stored.transfer = .multipart partSize from multipart] at transfer
  have kind : row.transferKind = .multipart := by
    unfold storedTransfer at transfer
    split at transfer
    · cases transfer
    · assumption
  cases opened : row.multipartUploadId with
  | some session => rfl
  | none =>
      rw [storedUploadFromRow] at read
      split at read
      · cases read
      · obtain ⟨transfer, -, refused⟩ := except_bind_eq_ok.1 read
        rw [if_pos ⟨kind, opened⟩] at refused
        cases refused

theorem leaseCandidates_opened {leaseUntil : Int} {rows : List UploadRow}
    {candidates : List CleanupCandidate}
    (ran : rows.mapM (leaseCandidate owner leaseUntil) s = .ok (candidates, t)) :
    ∀ candidate ∈ candidates, Opened candidate := by
  induction rows generalizing s candidates with
  | nil =>
      obtain ⟨rfl, rfl⟩ := pure_eq_ok.1 ran
      exact fun _ member => by cases member
  | cons row rows ih =>
      rw [List.mapM_cons] at ran
      obtain ⟨candidate, middle, first, ran⟩ := bind_eq_ok.1 ran
      obtain ⟨others, final, rest, done⟩ := bind_eq_ok.1 ran
      obtain ⟨rfl, rfl⟩ := pure_eq_ok.1 done
      intro other member
      obtain rfl | later := List.mem_cons.1 member
      · exact leaseCandidate_opened first
      · exact ih rest other later

/-- The rows a claim of the policy selects. -/
abbrev selectedUnder (policy : LifecyclePolicy) (now createdBefore rejectedBefore : OffsetDateTime)
    (s : SqliteStore) : List UploadRow :=
  s.cleanupRows policy.batchSize policy.maxAttempts now.unixTimestamp createdBefore.unixTimestamp
    rejectedBefore.unixTimestamp

/-- What a claim of the policy leaves. -/
structure Claimed (policy : LifecyclePolicy) (owner : String)
    (now createdBefore rejectedBefore : OffsetDateTime) (candidates : List CleanupCandidate)
    (s t : SqliteStore) : Prop where
  reached : Reached t
  leased : CleanupLeased owner (now.unixTimestamp + policy.leaseFor.asSecs)
    (selectedUnder policy now createdBefore rejectedBefore s) candidates s t
  opened : ∀ candidate ∈ candidates, Opened candidate

/-- **A claim of the policy succeeds.** -/
theorem claim_runs {policy : LifecyclePolicy} (reached : Reached s) (valid : policy.isValid = true)
    (named : narrowToken owner 128 = true) (now createdBefore rejectedBefore : OffsetDateTime) :
    ∃ candidates t, claimUnder policy owner now createdBefore rejectedBefore s =
        (.ok candidates, t) ∧
      Claimed policy owner now createdBefore rejectedBefore candidates s t := by
  obtain ⟨calls, run⟩ := id reached
  obtain ⟨candidates, t, ran⟩ :=
    claimCleanupBatch_succeeds now createdBefore rejectedBefore run valid named
  have answers : Answers (.claimCleanupBatch owner now createdBefore rejectedBefore policy.leaseFor
      policy.batchSize policy.maxAttempts) s true t := .ofReplies (fun _ => rfl) (.ran ran)
  refine ⟨candidates, t, ran, reached.next answers,
    claimCleanupBatch_ok reached.integrity ran, ?_⟩
  simp only [claimUnder, claimCleanupBatch, call_bind_eq_ok, call_ensure_eq_ok, call_okOr_eq_ok,
    commit_eq_ok, cleanupTransaction, bind_eq_ok, select_eq_ok] at ran
  obtain ⟨_, _, ⟨-, rfl⟩, leaseSeconds, _, ⟨-, rfl⟩, leaseUntil, _, ⟨-, rfl⟩, rows, _,
    ⟨rfl, rfl⟩, leased⟩ := ran
  exact leaseCandidates_opened leased

/-- Candidates and selected rows go in pairs. -/
theorem candidates_cases {rows : List UploadRow} {candidates : List CleanupCandidate}
    (pairs : List.Forall₂ (CandidateOf s) rows candidates) :
    (∀ candidate ∈ candidates, ∃ row ∈ rows, CandidateOf s row candidate) ∧
      (∀ row ∈ rows, ∃ candidate ∈ candidates, CandidateOf s row candidate) ∧
      candidates.map CleanupCandidate.uploadId = rows.map fun row => row.id := by
  induction pairs with
  | nil => exact ⟨(fun _ member => by cases member), (fun _ member => by cases member), rfl⟩
  | @cons row candidate rows candidates pair _ ih =>
      obtain ⟨left, right, same⟩ := ih
      refine ⟨fun other member => ?_, fun other member => ?_, ?_⟩
      · obtain rfl | later := List.mem_cons.1 member
        · exact ⟨row, List.mem_cons_self, pair⟩
        · obtain ⟨found, there, of⟩ := left other later
          exact ⟨found, List.mem_cons_of_mem row there, of⟩
      · obtain rfl | later := List.mem_cons.1 member
        · exact ⟨candidate, List.mem_cons_self, pair⟩
        · obtain ⟨found, there, of⟩ := right other later
          exact ⟨found, List.mem_cons_of_mem candidate there, of⟩
      · rw [List.map_cons, List.map_cons, same, pair.uploadId]

variable {policy : LifecyclePolicy} {now createdBefore rejectedBefore : OffsetDateTime}
  {candidates : List CleanupCandidate}

/-- The rows a claim leases are those of its candidates. -/
theorem Claimed.hits
    (claimed : Claimed policy owner now createdBefore rejectedBefore candidates s t)
    (row : UploadRow) :
    (selectedUnder policy now createdBefore rejectedBefore s).any
        (fun selected => row.id == selected.id) = true ↔
      ∃ candidate ∈ candidates, candidate.uploadId = row.id := by
  obtain ⟨left, right, -⟩ := candidates_cases claimed.leased.candidates
  rw [List.any_eq_true]
  constructor
  · rintro ⟨selected, there, same⟩
    obtain ⟨candidate, listed, of⟩ := right selected there
    exact ⟨candidate, listed, of.uploadId.trans (beq_iff_eq.1 same).symm⟩
  · rintro ⟨candidate, listed, same⟩
    obtain ⟨selected, there, of⟩ := left candidate listed
    exact ⟨selected, there, beq_iff_eq.2 (same.symm.trans of.uploadId)⟩

theorem Claimed.leases
    (claimed : Claimed policy owner now createdBefore rejectedBefore candidates s t)
    (candidate : CleanupCandidate) (listed : candidate ∈ candidates) :
    Leased owner t candidate := by
  obtain ⟨row, selected, of⟩ := (candidates_cases claimed.leased.candidates).1 candidate listed
  obtain ⟨member, eligible⟩ := cleanupRows_mem selected
  have hit := (claimed.hits row).2 ⟨candidate, listed, of.uploadId⟩
  refine ⟨⟨row.assign (leaseColumns owner (now.unixTimestamp + policy.leaseFor.asSecs)), ?_,
    of.uploadId, ?_⟩, claimed.opened candidate listed⟩
  · rw [claimed.leased.uploads]
    exact mem_updateWhere.2 ⟨row, member, (if_pos hit).symm⟩
  · exact cleanupLeasedBy_iff.2 ⟨rfl, (cleanupEligible_iff.1 eligible).1, rfl⟩

theorem Claimed.distinct
    (claimed : Claimed policy owner now createdBefore rejectedBefore candidates s t)
    (integrity : s.Integrity) : candidates.Pairwise fun a b => a.uploadId ≠ b.uploadId := by
  have keyed : KeyedBy (fun row : UploadRow => row.id)
      (selectedUnder policy now createdBefore rejectedBefore s) :=
    cleanupRows_keyed integrity.uploadIds
  rw [KeyedBy, ← (candidates_cases claimed.leased.candidates).2.2] at keyed
  exact List.pairwise_map.1 keyed

/-- A claim changes nothing but the leases of what it selects. -/
theorem Claimed.rows_cases
    (claimed : Claimed policy owner now createdBefore rejectedBefore candidates s t)
    {row : UploadRow} (apart : ∀ candidate ∈ candidates, candidate.uploadId ≠ row.id) :
    row ∈ t.uploads ↔ row ∈ s.uploads := by
  rw [claimed.leased.uploads, mem_updateWhere]
  constructor
  · rintro ⟨before, there, result⟩
    split at result
    · rename_i hit
      obtain ⟨candidate, listed, same⟩ := (claimed.hits before).1 hit
      refine absurd ?_ (apart candidate listed)
      rw [same, result]
      rfl
    · rwa [result]
  · intro there
    refine ⟨row, there, (if_neg fun hit => ?_).symm⟩
    obtain ⟨candidate, listed, same⟩ := (claimed.hits row).1 hit
    exact apart candidate listed same

/-- What a purge leaves. -/
structure Trimmed (s t : SqliteStore) : Prop where
  reached : Reached t
  rows : ∀ row ∈ t.uploads, row ∈ s.uploads
  kept : ∀ row ∈ s.uploads, row.state ≠ .deleted → row ∈ t.uploads
  derivatives : ∀ row ∈ s.uploads, row.state ≠ .deleted →
    t.derivativeKeys row.id = s.derivativeKeys row.id

/-- **A purge succeeds**, and takes tombstones only. -/
theorem purge_trims (reached : Reached s) (deletedBefore : OffsetDateTime) {limit : Nat}
    (positive : 0 < limit) (bounded : limit ≤ 1000) :
    ∃ count t, purgeTombstones deletedBefore limit s = (.ok count, t) ∧ Trimmed s t := by
  obtain ⟨calls, run⟩ := id reached
  have orderly := run_orderly run
  obtain ⟨count, gone, goneOrphans, t, ran, purged⟩ :=
    purge_runs deletedBefore orderly positive bounded
  have answers : Answers (.purgeTombstones deletedBefore limit) s true t :=
    .ofReplies (fun _ => rfl) (.ran ran)
  have live : ∀ row ∈ s.uploads, row.state ≠ .deleted →
      (gone.map fun row => row.id).contains row.id = false := by
    intro row there undeleted
    refine Bool.eq_false_iff.2 fun picked => ?_
    have member := (purged.goneId_iff orderly there).1 picked
    exact undeleted (purged.uploads.among row member).2.1
  refine ⟨count, t, ran, reached.next answers, ?_, ?_, ?_⟩
  · intro row there
    rw [purged.left] at there
    exact (mem_deleteWhere.1 there).1
  · intro row there undeleted
    rw [purged.left]
    exact mem_deleteWhere.2 ⟨there, live row there undeleted⟩
  · intro row there undeleted
    have kept := live row there undeleted
    rw [purged.left]
    unfold SqliteStore.derivativeKeys SqliteStore.without deleteWhere
    rw [List.filter_filter]
    congr 2
    refine List.filter_congr fun derivative _ => ?_
    by_cases own : derivative.uploadId = row.id
    · show (_ && !((gone.map fun row => row.id).contains derivative.uploadId)) = _
      rw [own, kept, Bool.not_false, Bool.and_true]
    · rw [beq_eq_false_iff_ne.2 own, Bool.false_and]

/-- What the upload has stored. -/
def HasStored (service : LifecycleService) (s : SqliteStore) (row : UploadRow)
    (bucket key : String) : Prop :=
  (bucket = service.rawStore.bucket ∧ key = row.objectKey.asStr) ∨
    (bucket = service.derivativeStore.bucket ∧
      ∃ derivative ∈ s.derivativeKeys row.id, key = derivative.asStr)

/-- **What a pass leaves**: what was selected is tombstoned, or purged already, and everything it
had stored is gone; other uploads and their derivatives are as they were. -/
structure Passed (service : LifecycleService) (selected : List UploadRow) (w w' : World) :
    Prop where
  reached : Reached w'.store
  clock : w.clock ≤ w'.clock
  rows : ∀ row ∈ w'.store.uploads, row.state = .deleted ∨ (row ∈ w.store.uploads ∧ row ∉ selected)
  kept : ∀ row ∈ w.store.uploads, row.state ≠ .deleted → row ∉ selected → row ∈ w'.store.uploads
  derivatives : ∀ row ∈ w.store.uploads, row.state ≠ .deleted → row ∉ selected →
    w'.store.derivativeKeys row.id = w.store.derivativeKeys row.id
  objects : ∀ bucket key, w'.provider.objects bucket key = none ∨
    (w'.provider.objects bucket key = w.provider.objects bucket key ∧
      ∀ row ∈ selected, ¬HasStored service w.store row bucket key)

/-- A claim, the sweep of what it hands out, and a purge make a pass. -/
theorem passed_of_swept {w u v x : World} (integrity : w.store.Integrity)
    (swept : Swept service candidates u v) (later : w.clock ≤ u.clock)
    (provider : u.provider = w.provider)
    (claimed : Claimed policy owner now createdBefore rejectedBefore candidates w.store u.store)
    (after : v.clock ≤ x.clock) (same : x.provider = v.provider)
    (trimmed : Trimmed v.store x.store) :
    Passed service (selectedUnder policy now createdBefore rejectedBefore w.store) w x := by
  obtain ⟨left, right, -⟩ := candidates_cases claimed.leased.candidates
  have apart : ∀ row ∈ w.store.uploads, (∀ candidate ∈ candidates, candidate.uploadId ≠ row.id) ↔
      row ∉ selectedUnder policy now createdBefore rejectedBefore w.store := by
    intro row member
    constructor
    · intro apart selected
      obtain ⟨candidate, listed, of⟩ := right row selected
      exact apart candidate listed of.uploadId
    · intro unselected candidate listed named
      obtain ⟨selected, there, of⟩ := left candidate listed
      rw [integrity.uploadIds.eq_of_key member (cleanupRows_mem there).1
        (named.symm.trans of.uploadId)] at unselected
      exact unselected there
  have derivatives : ∀ id, v.store.derivativeKeys id = w.store.derivativeKeys id := by
    intro id
    unfold SqliteStore.derivativeKeys
    rw [swept.derivatives, claimed.leased.effect.derivatives_same (by decide) (by decide)]
  refine ⟨trimmed.reached, Int.le_trans later (Int.le_trans swept.clock after), ?_, ?_, ?_, ?_⟩
  · intro row member
    obtain gone | ⟨there, free⟩ := swept.rows row (trimmed.rows row member)
    · exact .inl gone
    · have old := (claimed.rows_cases free).1 there
      exact .inr ⟨old, (apart row old).1 free⟩
  · intro row member undeleted unselected
    have free := (apart row member).2 unselected
    exact trimmed.kept row (swept.kept row ((claimed.rows_cases free).2 member) free) undeleted
  · intro row member undeleted unselected
    have free := (apart row member).2 unselected
    have there := swept.kept row ((claimed.rows_cases free).2 member) free
    exact (trimmed.derivatives row there undeleted).trans (derivatives row.id)
  · intro bucket key
    rw [same, ← provider]
    refine (swept.objects bucket key).imp_right fun kept => ⟨kept.1, fun row selected holds => ?_⟩
    obtain ⟨candidate, listed, of⟩ := right row selected
    refine kept.2 candidate listed ?_
    rw [Stores, of.rawObjectKey, of.derivativeKeys]
    exact holds

/-- The times of a valid policy are short of ten years, and its purges within bounds. -/
theorem isValid_times {policy : LifecyclePolicy} (valid : policy.isValid = true) :
    policy.createdReservationTtl.nanos ≤ (days 3650 decade_fits).nanos ∧
      policy.rejectedSourceRetention.nanos ≤ (days 3650 decade_fits).nanos ∧
      policy.tombstoneRetention.nanos ≤ (days 3650 decade_fits).nanos ∧
      0 < policy.tombstonePurgeBatchSize ∧ policy.tombstonePurgeBatchSize ≤ 1000 := by
  have capped : ∀ {duration cap : Duration}, withinCap duration cap = true →
      duration.nanos ≤ cap.nanos := by
    intro duration cap within
    simp only [withinCap, Bool.and_eq_true, Bool.not_eq_true', decide_eq_false_iff_not] at within
    exact Nat.le_of_not_lt within.2
  simp only [LifecyclePolicy.isValid, Bool.and_eq_true, decide_eq_true_eq, Bool.not_eq_true',
    decide_eq_false_iff_not] at valid
  have week : (days 7 week_fits).nanos ≤ (days 3650 decade_fits).nanos := by decide
  have quarter : (days 90 quarter_fits).nanos ≤ (days 3650 decade_fits).nanos := by decide
  exact ⟨(capped valid.1.1.1.1.1.1.1.1).trans week, (capped valid.1.1.1.1.1.1.1.2).trans quarter,
    Nat.le_of_not_lt valid.1.2, valid.2⟩

/-- **A pass by itself.**  In a calm world every run of `run_once` from a reachable store succeeds,
fails at no candidate, and does its work on the first uploads of the batch. -/
theorem runOnce_passes {w : World} (reached : Reached w.store)
    (named : validIdentifier owner 128 = true) {failed : LifecycleRunError → World → Prop} :
    (service.runOnce owner).Ends Calm w
      (fun summary w' => summary.completed = summary.claimed ∧ summary.failed = 0 ∧
        ∃ startedAt createdBefore rejectedBefore : OffsetDateTime, w.clock ≤ startedAt ∧
          Passed service
            (selectedUnder service.policy startedAt createdBefore rejectedBefore w.store) w w')
      failed := by
  obtain ⟨created, rejected, tombstone, positive, bounded⟩ := isValid_times service.valid
  unfold LifecycleService.runOnce
  refine ends_passed named (ends_now fun startedAt later within => ?_)
  obtain ⟨createdBefore, someCreated⟩ := minus_isSome within created
  obtain ⟨rejectedBefore, someRejected⟩ := minus_isSome within rejected
  refine ends_found someCreated (ends_found someRejected ?_)
  obtain ⟨candidates, store, ran, claimed⟩ :=
    claim_runs reached service.valid named startedAt createdBefore rejectedBefore
  have leased : ∀ candidate ∈ candidates, Leased owner store candidate := claimed.leases
  refine ends_called ran (Attempt.ends_bind (cleanCandidates_ends claimed.reached leased
    (claimed.distinct reached.integrity)) ?_)
  rintro summary v ⟨swept, rfl⟩
  refine ends_now fun cleanedAt after within' => ?_
  obtain ⟨deletedBefore, someDeleted⟩ := minus_isSome within' tombstone
  obtain ⟨count, final, purged, trimmed⟩ := purge_trims swept.reached deletedBefore positive bounded
  refine ends_found someDeleted (ends_called purged (Attempt.ends_pure ?_))
  refine ⟨Nat.zero_add _, rfl, startedAt, createdBefore, rejectedBefore, later, ?_⟩
  exact passed_of_swept reached.integrity swept later rfl claimed after rfl trimmed

/-! ## Requested deletions -/

/-- The deletions that were asked for and are not carried out. -/
def requestedDeletions (s : SqliteStore) : List UploadRow :=
  s.uploads.filter fun row => row.state != .deleted && row.deleteRequestedAt.isSome

/-- The upload has attempts left, and neither a retry time nor a lease ahead of the clock. -/
structure Due (policy : LifecyclePolicy) (clock : OffsetDateTime) (row : UploadRow) : Prop where
  attempts : row.cleanupAttempts < policy.maxAttempts
  retry : ∀ retryAt, row.cleanupRetryAt = some retryAt → retryAt ≤ clock.unixTimestamp
  lease : ∀ leaseUntil, row.cleanupLeaseUntil = some leaseUntil → leaseUntil ≤ clock.unixTimestamp

theorem mem_requestedDeletions {row : UploadRow} : row ∈ requestedDeletions s ↔
    row ∈ s.uploads ∧ row.state ≠ .deleted ∧ row.deleteRequestedAt.isSome = true := by
  rw [requestedDeletions, List.mem_filter, Bool.and_eq_true, bne_iff_ne]

theorem Due.later {policy : LifecyclePolicy} {clock clock' : OffsetDateTime} {row : UploadRow}
    (due : Due policy clock row) (later : clock ≤ clock') : Due policy clock' row := by
  have mono := OffsetDateTime.unixTimestamp_mono later
  refine ⟨due.attempts, fun retryAt retries => ?_, fun leaseUntil leases => ?_⟩
  · exact Int.le_trans (due.retry retryAt retries) mono
  · exact Int.le_trans (due.lease leaseUntil leases) mono

/-- A deletion that is due is eligible, whatever else is to be cleaned up. -/
theorem Due.eligible {policy : LifecyclePolicy} {clock : OffsetDateTime} {row : UploadRow}
    (due : Due policy clock row) (requested : row ∈ requestedDeletions s) (created rejected : Int) :
    cleanupEligible policy.maxAttempts clock.unixTimestamp created rejected row = true := by
  obtain ⟨-, undeleted, asked⟩ := mem_requestedDeletions.1 requested
  exact cleanupEligible_iff.2 ⟨undeleted, due.attempts, due.retry, due.lease, .inl asked⟩

/-- Requested deletions come before everything else. -/
theorem requested_ahead {a b : UploadRow} (before : cleanupOrder a ≤ cleanupOrder b)
    (requested : b.deleteRequestedAt.isSome = true) : a.deleteRequestedAt.isSome = true := by
  unfold cleanupOrder at before
  rw [Prod.Lex.toLex_le_toLex, if_pos requested] at before
  by_contra unrequested
  rw [if_neg unrequested] at before
  omega

/-- **A pass of deletions.**  Where all of them are due, those a pass leaves are as they were, and
if it leaves any, then it carried out a whole batch. -/
theorem Passed.works_off {w w' : World} {startedAt createdBefore rejectedBefore : OffsetDateTime}
    (reached : Reached w.store) (later : w.clock ≤ startedAt)
    (due : ∀ row ∈ requestedDeletions w.store, Due service.policy w.clock row)
    (passed : Passed service
      (selectedUnder service.policy startedAt createdBefore rejectedBefore w.store) w w') :
    (∀ row ∈ requestedDeletions w'.store, row ∈ requestedDeletions w.store) ∧
      (requestedDeletions w'.store ≠ [] → (requestedDeletions w'.store).length +
        service.policy.batchSize ≤ (requestedDeletions w.store).length) := by
  have left : ∀ row ∈ requestedDeletions w'.store, row ∈ requestedDeletions w.store ∧
      row ∉ selectedUnder service.policy startedAt createdBefore rejectedBefore w.store := by
    intro row listed
    obtain ⟨member, undeleted, asked⟩ := mem_requestedDeletions.1 listed
    obtain gone | ⟨old, unselected⟩ := passed.rows row member
    · exact absurd gone undeleted
    · exact ⟨mem_requestedDeletions.2 ⟨old, undeleted, asked⟩, unselected⟩
  refine ⟨fun row listed => (left row listed).1, fun some_ => ?_⟩
  have first : First cleanupOrder service.policy.batchSize (fun row => cleanupEligible
      service.policy.maxAttempts startedAt.unixTimestamp createdBefore.unixTimestamp
      rejectedBefore.unixTimestamp row = true) w.store.uploads
        (selectedUnder service.policy startedAt createdBefore rejectedBefore w.store) :=
    firstOf_first (fun _ => Iff.rfl) (List.Nodup.of_map _ reached.integrity.uploadIds)
  refine first.urgent_left ?_ ?_ ?_ ?_ some_
  · intro a b eligible before requested
    obtain ⟨undeleted, asked⟩ := Bool.and_eq_true_iff.1 requested
    refine Bool.and_eq_true_iff.2 ⟨?_, requested_ahead before asked⟩
    exact bne_iff_ne.2 (cleanupEligible_iff.1 eligible).1
  · intro row member requested
    have listed : row ∈ requestedDeletions w.store := List.mem_filter.2 ⟨member, requested⟩
    exact ((due row listed).later later).eligible listed _ _
  · exact (List.Nodup.of_map _ passed.reached.integrity.uploadIds).filter _
  · intro row listed
    obtain ⟨old, unselected⟩ := left row listed
    exact ⟨(List.mem_filter.1 old).1, (List.mem_filter.1 old).2, unselected⟩

/-- Passes one after the other, each by an owner of its own. -/
def Passes (service : LifecycleService) : List String → World → World → Prop
  | [], w, w' => w = w'
  | owner :: owners, w, w' => ∃ summary u,
      Ran Calm (service.runOnce owner).attempt w summary u ∧ Passes service owners u w'

/-- By induction on the passes: each works off a batch, or all there is. -/
theorem passes_drain {owners : List String} {w w' : World} (reached : Reached w.store)
    (named : ∀ owner ∈ owners, validIdentifier owner 128 = true)
    (due : ∀ row ∈ requestedDeletions w.store, Due service.policy w.clock row)
    (enough : (requestedDeletions w.store).length ≤ owners.length * service.policy.batchSize)
    (passes : Passes service owners w w') :
    requestedDeletions w'.store = [] ∧ ∀ bucket key, w'.provider.objects bucket key = none ∨
      (w'.provider.objects bucket key = w.provider.objects bucket key ∧
        ∀ row ∈ requestedDeletions w.store, ¬HasStored service w.store row bucket key) := by
  induction owners generalizing w with
  | nil =>
      obtain rfl : w = w' := passes
      rw [List.length_nil, Nat.zero_mul] at enough
      have none_ := List.eq_nil_of_length_eq_zero (Nat.le_zero.1 enough)
      refine ⟨none_, fun bucket key => .inr ⟨rfl, fun row listed => ?_⟩⟩
      rw [none_] at listed
      cases listed
  | cons owner owners ih =>
      obtain ⟨summary, u, ran, rest⟩ := passes
      have settles : (service.runOnce owner).Ends Calm w _ fun _ _ => False :=
        runOnce_passes reached (named owner List.mem_cons_self)
      have ended := settles summary u ran
      cases summary with
      | error => exact ended.elim
      | ok summary =>
          obtain ⟨-, -, startedAt, createdBefore, rejectedBefore, later, passed⟩ := ended
          obtain ⟨left, batch⟩ := passed.works_off reached later due
          have due' : ∀ row ∈ requestedDeletions u.store, Due service.policy u.clock row :=
            fun row listed => (due row (left row listed)).later passed.clock
          have enough' : (requestedDeletions u.store).length ≤
              owners.length * service.policy.batchSize := by
            by_cases none_ : requestedDeletions u.store = []
            · rw [none_]
              exact Nat.zero_le _
            · have fewer := batch none_
              rw [List.length_cons, Nat.succ_mul] at enough
              omega
          obtain ⟨drained, objects⟩ := ih passed.reached
            (fun other member => named other (List.mem_cons_of_mem owner member)) due' enough' rest
          refine ⟨drained, fun bucket key => ?_⟩
          obtain gone | ⟨same, unheld⟩ := objects bucket key
          · exact .inl gone
          obtain gone | ⟨same', unheld'⟩ := passed.objects bucket key
          · exact .inl (same.trans gone)
          refine .inr ⟨same.trans same', fun row listed holds => ?_⟩
          obtain ⟨member, undeleted, asked⟩ := mem_requestedDeletions.1 listed
          -- A deletion the first pass left is one of the others' with all it holds.
          by_cases selected : row ∈
              selectedUnder service.policy startedAt createdBefore rejectedBefore w.store
          · exact unheld' row selected holds
          · have stays := passed.kept row member undeleted selected
            refine unheld row (mem_requestedDeletions.2 ⟨stays, undeleted, asked⟩) ?_
            rw [HasStored, passed.derivatives row member undeleted selected]
            exact holds

end Passes

section Draining

variable {d : Deployment} {labels : List SystemLabel} {s : SystemState} {owners : List String}
  {w' : World}

theorem run_reached (run : d.Runs labels s) : Reached s.shared.store := by
  obtain ⟨clock, run⟩ := run
  refine run.keeps (P := fun s => Reached s.shared.store) ?_ ⟨[], .nil _⟩
  intro s label t step reached
  obtain same | ⟨op, ok, -, answers⟩ := Deployment.store_cases step
  · rw [same]
    exact reached
  · exact reached.next answers

/-- **Accepted deletions are carried out.**  After any run of the system, let all requested
deletions be due, and let the cleanup make as many passes as they fill batches, with nothing else
at work and nothing failing.  Then none of them is left, and everything their uploads had stored
is gone from the provider. -/
theorem deletions_drain (run : d.Runs labels s)
    (named : ∀ owner ∈ owners, validIdentifier owner 128 = true)
    (due : ∀ row ∈ requestedDeletions s.shared.store, Due d.lifecyclePolicy s.shared.clock row)
    (enough : (requestedDeletions s.shared.store).length ≤
      owners.length * d.lifecyclePolicy.batchSize)
    (passes : Passes d.lifecycle owners s.shared w') :
    requestedDeletions w'.store = [] ∧ ∀ row ∈ requestedDeletions s.shared.store,
      ∀ bucket key, HasStored d.lifecycle s.shared.store row bucket key →
        w'.provider.objects bucket key = none := by
  obtain ⟨drained, objects⟩ := passes_drain (run_reached run) named due enough passes
  refine ⟨drained, fun row listed bucket key holds => ?_⟩
  exact (objects bucket key).resolve_right fun kept => kept.2 row listed holds

end Draining

/-! ## A sample drain -/

/-- Readings a second apart, the store, and deletions: what a pass asks of a calm world. -/
def calmRespond (w : World) : (ask : Ask) → Option (Answer ask × World)
  | .now =>
      if w.clock ≤ w.tick 1000000000 ∧
          ((w.tick 1000000000).minus (days 3650 decade_fits)).isSome then
        some (w.tick 1000000000, { w with clock := w.tick 1000000000 })
      else none
  | .store op => some ((op.call w.store).1, { w with store := (op.call w.store).2 })
  | .provider (.deleteObject bucket key) =>
      some (.ok (), { w with provider := w.provider.store bucket key none })
  | _ => none

theorem calmRespond_calm (w : World) (ask : Ask) (answer : Answer ask) (w' : World)
    (responded : calmRespond w ask = some (answer, w')) : Calm w ask answer w' := by
  cases ask with
  | now =>
      rw [calmRespond] at responded
      split at responded
      · rename_i calm
        cases responded
        exact ⟨calm.1, calm.2, rfl⟩
      · cases responded
  | store op =>
      cases responded
      exact ⟨_, rfl, rfl⟩
  | provider request =>
      cases request with
      | deleteObject bucket key =>
          cases responded
          exact ⟨_, .deleted, rfl⟩
      | _ => cases responded
  | _ => cases responded

/-- A pass works off two deletions here. -/
def twoAtATime : LifecyclePolicy := { sampleLifecyclePolicy with batchSize := 2 }

theorem twoAtATime_valid : twoAtATime.isValid = true := by decide

def drainedDeployment : Deployment :=
  { sampleDeployment with lifecyclePolicy := twoAtATime, lifecycleValid := twoAtATime_valid }

/-- The uploads of a batch of three images. -/
def drainedUploads : List UploadId := [⟨numbered 2⟩, ⟨numbered 3⟩, ⟨numbered 4⟩]

/-- Three images are reserved and stored, and their deletions are accepted. -/
def acceptDeletions : List (Command ServiceCall Event) :=
  [.start (.createBatch ⟨"g5", [⟨"a", .image, 100, "image/png"⟩, ⟨"b", .image, 100, "image/png"⟩,
      ⟨"c", .image, 100, "image/png"⟩]⟩), .run 0 10] ++
    drainedUploads.map (fun upload => .happen (.put "raw" (rawKeyText "g5" upload) 100)) ++
    drainedUploads.map fun upload => .happen (.called (.requestDeletion "g5" upload (sampleTime 0)))

/-- The deletion of an upload whose image is there is accepted. -/
def drainable (s : SystemState) (upload : UploadId) : Bool :=
  (requestedDeletions s.shared.store).any (fun row =>
    row.objectKey.asStr == rawKeyText "g5" upload) &&
    s.shared.provider.objects "raw" (rawKeyText "g5" upload) == some 100

/-- Three deletions wait for their first attempts, and two passes can be computed. -/
def readyToDrain (s : SystemState) : Bool :=
  (requestedDeletions s.shared.store).length == 3 &&
    (requestedDeletions s.shared.store).all (fun row =>
      row.cleanupAttempts == 0 && row.cleanupLeaseUntil.isNone &&
        row.cleanupRetryAt.all (fun retryAt => decide (retryAt ≤ s.shared.clock.unixTimestamp))) &&
    drainedUploads.all (drainable s) &&
    (((drainedDeployment.lifecycle.runOnce "first").attempt.runWith calmRespond s.shared).bind
      fun led => (drainedDeployment.lifecycle.runOnce "second").attempt.runWith calmRespond
        led.2).isSome

/-- Three deletions are accepted, and two passes carry them out. -/
theorem deletions_drain_sample : ∃ labels, ∃ s : SystemState, ∃ w', drainedDeployment.Runs labels s ∧
    Passes drainedDeployment.lifecycle ["first", "second"] s.shared w' ∧
    (requestedDeletions s.shared.store).length = 3 ∧ requestedDeletions w'.store = [] ∧
    ∀ upload ∈ drainedUploads,
      s.shared.provider.objects "raw" (rawKeyText "g5" upload) = some 100 ∧
      w'.provider.objects "raw" (rawKeyText "g5" upload) = none := by
  have played : ((drainedDeployment.rehearsal 1000000000).play (fun _ _ => true)
      (.fresh (sampleTime 0)) acceptDeletions).any readyToDrain = true := by
    decide +kernel
  obtain ⟨labels, s, run, checked⟩ := Deployment.rehearsed played
  simp only [readyToDrain, Bool.and_eq_true, beq_iff_eq, List.all_eq_true,
    Option.isNone_iff_eq_none, Option.all_eq_true, decide_eq_true_eq] at checked
  obtain ⟨⟨⟨three, waits⟩, stored⟩, computed⟩ := checked
  obtain ⟨⟨summary, w'⟩, led⟩ := Option.isSome_iff_exists.1 computed
  obtain ⟨⟨summary', u⟩, first, second⟩ := Option.bind_eq_some_iff.1 led
  have passes : Passes drainedDeployment.lifecycle ["first", "second"] s.shared w' :=
    ⟨summary', u, ran_runWith calmRespond_calm first, summary, w',
      ran_runWith calmRespond_calm second, rfl⟩
  obtain ⟨drained, gone⟩ := deletions_drain run.unguarded
    (fun owner member => by
      rcases List.mem_cons.1 member with rfl | last
      · decide +kernel
      · rw [List.mem_singleton.1 last]
        decide +kernel)
    (fun row member => by
      obtain ⟨⟨attempts, lease⟩, retry⟩ := waits row member
      refine ⟨?_, retry, fun leaseUntil leases => ?_⟩
      · rw [attempts]
        decide
      · rw [lease] at leases
        cases leases)
    (by rw [three]; decide) passes
  refine ⟨labels, s, w', run.unguarded, passes, three, drained, fun upload listed => ?_⟩
  have there := stored upload listed
  simp only [drainable, Bool.and_eq_true, beq_iff_eq, List.any_eq_true] at there
  obtain ⟨⟨row, member, key⟩, object⟩ := there
  exact ⟨object, gone row member "raw" (rawKeyText "g5" upload) (.inl ⟨rfl, key.symm⟩)⟩

end MediaBooster.Lifecycle
