/-
# Quota.Admission -- admission never exceeds capacity

`create_batch` checks the capacity before it creates provider sessions and saves the
batch afterwards; in between, anything can happen.  `CreateStep` is that program, any
number of calls of it at once, with every read of the preflight a step of its own and
every other operation of the store between any two steps.

* `batchSaved_within`: a batch that is saved leaves the counts and the bytes of the
  service and of its tenant within the caps, whatever was read before.
* `answers_keep_within`: no other operation adds to them.
* `admission_within_capacity`: so a run that starts within the caps stays within them,
  and a save that fails changes nothing.
-/
import MediaBooster.Quota.Usage

namespace MediaBooster.Quota

set_option autoImplicit false

open MediaBooster.Domain MediaBooster.Store MediaBooster.Theory.Run MediaBooster.Theory.Table
open MediaBooster.Theory.Transaction

/-! ## Counting active uploads -/

/-- What is not active does not become active again. -/
theorem active_of_chain {state target : UploadState} (chain : UploadState.Chain state target)
    (active : activeState target = true) : activeState state = true := by
  by_contra idle
  have kept : activeState target = false := by
    refine chain.keeps (P := fun state => activeState state = false) ?_ (by simpa using idle)
    intro a b allowed idle
    cases a <;> cases b <;> simp [UploadState.canTransitionTo, activeState] at allowed idle ⊢
  rw [active] at kept
  cases kept

/-- Uploads that some test of the lifecycle counts are counted before they moved. -/
theorem filter_length_le {rows rows' : List UploadRow} {counts : UploadRow → Bool}
    (evolves : List.Forall₂ Evolves rows rows')
    (back : ∀ before after, Evolves before after → counts after = true → counts before = true) :
    (rows'.filter counts).length ≤ (rows.filter counts).length := by
  induction evolves with
  | nil => exact le_rfl
  | @cons before after rows rows' moved _ ih =>
      by_cases counted : counts after = true
      · rw [List.filter_cons_of_pos counted, List.filter_cons_of_pos (back before after moved counted)]
        exact Nat.succ_le_succ ih
      · rw [List.filter_cons_of_neg counted]
        by_cases before_ : counts before = true
        · rw [List.filter_cons_of_pos before_]
          exact Nat.le_succ_of_le ih
        · rw [List.filter_cons_of_neg before_]
          exact ih

/-- Only inserts add to a count that moves backwards along the lifecycle. -/
theorem effect_count_le {K : List Kind} {s t : SqliteStore} {counts : UploadRow → Bool}
    (effect : Effect K s t) (inserts : .insertUpload ∉ K)
    (back : ∀ before after, Evolves before after → counts after = true → counts before = true) :
    (t.uploads.filter counts).length ≤ (s.uploads.filter counts).length := by
  induction effect with
  | refl => exact le_rfl
  | tail _ wrote ih =>
      refine le_trans ?_ ih
      obtain same | ⟨kind, -⟩ | ⟨-, moved⟩ | ⟨-, hit, -, removed⟩ := wrote.uploads_cases
      · rw [same]
      · exact absurd kind inserts
      · exact filter_length_le moved back
      · rw [removed]
        exact (List.filter_sublist.filter counts).length_le

theorem active_back {before after : UploadRow} (evolves : Evolves before after)
    (active : activeState after.state = true) : activeState before.state = true :=
  active_of_chain evolves.chain active

theorem tenantActive_back (tenantId : String) {before after : UploadRow}
    (evolves : Evolves before after)
    (active : (decide (after.tenantId = tenantId) && activeState after.state) = true) :
    (decide (before.tenantId = tenantId) && activeState before.state) = true := by
  have owner : after.tenantId = before.tenantId :=
    congrArg UploadReserved.tenantId evolves.reserved
  simp only [Bool.and_eq_true, decide_eq_true_eq] at active ⊢
  exact ⟨owner.symm.trans active.1, active_back evolves active.2⟩

/-! ## The caps -/

/-- The service and one tenant are within the caps. -/
structure TenantWithin (capacity : UploadCapacityPolicy) (tenantId : String) (store : SqliteStore) :
    Prop where
  activeGlobal : store.activeUploads ≤ capacity.maxActiveGlobal
  activeTenant : store.tenantActiveUploads tenantId ≤ capacity.maxActivePerTenant
  bytesGlobal : reservedBytes store.uploads ≤ capacity.maxReservedBytesGlobal
  bytesTenant : tenantReservedBytes tenantId store.uploads ≤ capacity.maxReservedBytesPerTenant

/-- The service and every tenant are within the caps. -/
def WithinCaps (capacity : UploadCapacityPolicy) (store : SqliteStore) : Prop :=
  ∀ tenantId, TenantWithin capacity tenantId store

/-- The rows of a batch, all active. -/
theorem batch_active {batch : UploadBatchReservation} {uploads : List UploadReservation}
    {rows : List UploadRow}
    (bound : List.Forall₂ (fun upload row => reservationRow batch upload = .ok row) uploads rows) :
    ∀ row ∈ rows, activeState row.state = true ∧ row.tenantId = batch.tenantId := by
  intro row member
  obtain ⟨upload, -, bound⟩ := forall₂_mem_right bound member
  obtain ⟨⟨created, -⟩, -, tenantId, -⟩ := reservationRow_ok bound
  refine ⟨?_, tenantId⟩
  rw [created]
  rfl

/-- What a saved batch adds to the counts. -/
theorem batchSaved_active {batch : UploadBatchReservation} {capacity : UploadCapacityPolicy}
    {size : Nat} {rows : List UploadRow} {s t : SqliteStore}
    (saved : BatchSaved batch capacity size rows s t) :
    t.activeUploads = s.activeUploads + batch.uploads.length ∧
      ∀ tenantId, t.tenantActiveUploads tenantId =
        s.tenantActiveUploads tenantId +
          if tenantId = batch.tenantId then (batch.uploads.length : Int) else 0 := by
  have active := batch_active saved.bound
  have length := saved.bound.length_eq
  constructor
  · rw [SqliteStore.activeUploads, saved.uploads, List.filter_append,
      List.filter_eq_self.2 fun row member => (active row member).1, List.length_append, length,
      SqliteStore.activeUploads]
    omega
  · intro tenantId
    rw [SqliteStore.tenantActiveUploads, saved.uploads, List.filter_append, List.length_append,
      SqliteStore.tenantActiveUploads]
    by_cases owner : tenantId = batch.tenantId
    · have all : rows.filter (fun row => decide (row.tenantId = tenantId) &&
          activeState row.state) = rows :=
        List.filter_eq_self.2 fun row member => by
          simp [(active row member).1, (active row member).2, owner]
      rw [all, if_pos owner, length]
      omega
    · have none : rows.filter (fun row => decide (row.tenantId = tenantId) &&
          activeState row.state) = [] := by
        rw [List.filter_eq_nil_iff]
        intro row member
        simp only [Bool.and_eq_true, decide_eq_true_eq, (active row member).2, not_and]
        exact fun same => absurd same.symm owner
      rw [none, if_neg owner]
      rfl

/-- **A saved batch is within the caps**, for the service and for its tenant. -/
theorem batchSaved_within {batch : UploadBatchReservation} {capacity : UploadCapacityPolicy}
    {size : Nat} {rows : List UploadRow} {s t : SqliteStore} (sound : Sound s)
    (saved : BatchSaved batch capacity size rows s t) :
    TenantWithin capacity batch.tenantId t := by
  obtain ⟨activeFits, tenantActiveFits, bytesFit, tenantBytesFit, -, -⟩ :=
    capacityAllows_true saved.allowed
  obtain ⟨active, tenantActive⟩ := batchSaved_active saved
  obtain ⟨bytes, tenantBytes⟩ := batchSaved_reading sound.metered saved
  have metered := effect_metered saved.effect sound.metered
  have exact_ := usageExact_of_metered metered (batchSaved_bounded sound.metered sound.bounded saved)
  refine ⟨?_, ?_, ?_, ?_⟩
  · rw [active]
    exact activeFits
  · rw [tenantActive, if_pos rfl]
    exact tenantActiveFits
  · rw [← exact_.global, bytes]
    exact bytesFit
  · rw [← exact_.tenant, tenantBytes, if_pos rfl]
    exact tenantBytesFit

/-- Saving a batch within the caps keeps the other tenants within them. -/
theorem batchSaved_keeps_within {batch : UploadBatchReservation} {capacity : UploadCapacityPolicy}
    {size : Nat} {rows : List UploadRow} {s t : SqliteStore} (sound : Sound s)
    (within : WithinCaps capacity s) (saved : BatchSaved batch capacity size rows s t) :
    WithinCaps capacity t := by
  intro tenantId
  have own := batchSaved_within sound saved
  by_cases owner : tenantId = batch.tenantId
  · rw [owner]
    exact own
  · have before := within tenantId
    have metered := effect_metered saved.effect sound.metered
    have bounded := batchSaved_bounded sound.metered sound.bounded saved
    have exact_ := usageExact_of_metered metered bounded
    have exactBefore := usageExact_of_metered sound.metered sound.bounded
    refine ⟨own.activeGlobal, ?_, own.bytesGlobal, ?_⟩
    · rw [(batchSaved_active saved).2, if_neg owner, add_zero]
      exact before.activeTenant
    · rw [← exact_.tenant, (batchSaved_reading sound.metered saved).2, if_neg owner, add_zero,
        exactBefore.tenant]
      exact before.bytesTenant

/-- The operation does not save a batch. -/
def savesNothing : Op → Bool
  | .saveBatch .. => false
  | _ => true

theorem inserts_of_savesNothing {op : Op} (saves : savesNothing op = true) :
    Kind.insertUpload ∉ op.kinds := by
  cases op <;> simp [savesNothing, Op.kinds] at saves ⊢

/-- Nothing but a save adds to the counts or the bytes. -/
theorem answers_keep_within {capacity : UploadCapacityPolicy} {op : Op} {ok : Bool}
    {s t : SqliteStore} (sound : Sound s) (saves : savesNothing op = true)
    (answers : Answers op s ok t) (within : WithinCaps capacity s) : WithinCaps capacity t := by
  intro tenantId
  have before := within tenantId
  have effect := answers.effect sound.integrity
  have inserts := inserts_of_savesNothing saves
  have charged := effect_charge_le effect sound.metered inserts
  refine ⟨?_, ?_, ?_, ?_⟩
  · have count := effect_count_le effect inserts fun _ _ => active_back
    have cap := before.activeGlobal
    rw [SqliteStore.activeUploads] at cap ⊢
    omega
  · have count := effect_count_le effect inserts fun _ _ => tenantActive_back tenantId
    have cap := before.activeTenant
    rw [SqliteStore.tenantActiveUploads] at cap ⊢
    omega
  · have bytes := charged none
    rw [total_charge_none, total_charge_none] at bytes
    exact bytes.trans before.bytesGlobal
  · have bytes := charged (some tenantId)
    rw [total_charge_some, total_charge_some] at bytes
    exact bytes.trans before.bytesTenant

/-! ## Concurrent calls of `create_batch` -/

/-- One file of a request. -/
structure UploadFileIntent where
  clientRef : String
  declaredKind : MediaKind
  contentLength : Nat
  contentTypeHint : String
deriving DecidableEq

/-- The input of `create_batch`. -/
structure CreateUploadBatch where
  tenantId : String
  files : List UploadFileIntent
deriving DecidableEq

/-- Where a call is: `has_capacity` has made some of its four reads, or the reservations
of the first files are made. -/
inductive CreatePhase
  | counting (readings : List Int)
  | reserving (batchId : UploadBatchId) (createdAt : OffsetDateTime)
      (reservations : List UploadReservation)
deriving DecidableEq

/-- A call in flight, with the transfers its policy planned. -/
structure CreateCall where
  request : CreateUploadBatch
  transfers : List UploadTransfer
  additionalBytes : Nat
  phase : CreatePhase
deriving DecidableEq

/-- The store and the calls in flight. -/
structure AdmissionState where
  store : SqliteStore
  calls : List CreateCall

/-- The next read of `has_capacity`. -/
def capacityReading (tenantId : String) (readings : List Int) (store : SqliteStore) : Int :=
  match readings.length with
  | 0 => store.activeUploads
  | 1 => store.tenantActiveUploads tenantId
  | 2 => store.usage.globalReservedBytes
  | _ => store.usage.reservedFor tenantId

/-- The sum of the file sizes, with `checked_add`. -/
def additionalBytes (files : List UploadFileIntent) : Option Nat :=
  files.foldlM (fun total file => u64CheckedAdd total file.contentLength) 0

/-- The reservation made for a file. -/
def reservationFor (file : UploadFileIntent) (transfer : UploadTransfer) (uploadId : UploadId)
    (objectKey : ObjectKey) (session : Option String) : UploadReservation where
  uploadId := uploadId
  objectKey := objectKey
  declaredKind := file.declaredKind
  expectedSizeBytes := file.contentLength
  contentTypeHint := file.contentTypeHint
  transfer := transfer
  multipartUploadId := session

/-- `UploadIntentService::create_batch`, any number of calls at once, among everything
else that uses the store.  The identifiers, the keys and the outcomes of the provider
are free. -/
inductive CreateStep (capacity : UploadCapacityPolicy) :
    AdmissionState → Option (Op × Bool) → AdmissionState → Prop
  | start {state : AdmissionState} {request : CreateUploadBatch} {transfers : List UploadTransfer}
      {bytes : Nat} (tenant : request.tenantId.isEmpty = false) (files : request.files ≠ [])
      (planned : transfers.length = request.files.length)
      (added : additionalBytes request.files = some bytes) (valid : capacity.isValid = true) :
      CreateStep capacity state none
        { state with calls := state.calls ++ [⟨request, transfers, bytes, .counting []⟩] }
  | read {state : AdmissionState} {readings : List Int} (i : Nat) (call : CreateCall)
      (at_ : state.calls[i]? = some call) (phase : call.phase = .counting readings)
      (more : readings.length < 4) :
      CreateStep capacity state none
        { state with calls := state.calls.set i { call with
            phase := .counting
              (readings ++ [capacityReading call.request.tenantId readings state.store]) } }
  | grant {state : AdmissionState} {global tenant globalBytes tenantBytes : Int}
      {batchId : UploadBatchId} {createdAt : OffsetDateTime} (i : Nat) (call : CreateCall)
      (at_ : state.calls[i]? = some call)
      (phase : call.phase = .counting [global, tenant, globalBytes, tenantBytes])
      (allowed : capacityAllows global tenant globalBytes tenantBytes call.request.files.length
        call.additionalBytes capacity = .ok true) :
      CreateStep capacity state none
        { state with calls := state.calls.set i { call with
            phase := .reserving batchId createdAt [] } }
  | reserve {state : AdmissionState} {batchId : UploadBatchId} {createdAt : OffsetDateTime}
      {reservations : List UploadReservation} {file : UploadFileIntent}
      {transfer : UploadTransfer} (i : Nat) (call : CreateCall) (uploadId : UploadId)
      (objectKey : ObjectKey) (session : Option String) (at_ : state.calls[i]? = some call)
      (phase : call.phase = .reserving batchId createdAt reservations)
      (file_ : call.request.files[reservations.length]? = some file)
      (transfer_ : call.transfers[reservations.length]? = some transfer) :
      CreateStep capacity state none
        { state with calls := state.calls.set i { call with
            phase := .reserving batchId createdAt
              (reservations ++ [reservationFor file transfer uploadId objectKey session]) } }
  | save {state : AdmissionState} {batchId : UploadBatchId} {createdAt : OffsetDateTime}
      {reservations : List UploadReservation} {ok : Bool} {store : SqliteStore} (i : Nat)
      (call : CreateCall) (at_ : state.calls[i]? = some call)
      (phase : call.phase = .reserving batchId createdAt reservations)
      (complete : reservations.length = call.request.files.length)
      (answers : Answers
        (.saveBatch ⟨batchId, call.request.tenantId, createdAt, reservations⟩ capacity)
        state.store ok store) :
      CreateStep capacity state
        (some (.saveBatch ⟨batchId, call.request.tenantId, createdAt, reservations⟩ capacity, ok))
        { store := store, calls := state.calls.eraseIdx i }
  | abandon {state : AdmissionState} (i : Nat) :
      CreateStep capacity state none { state with calls := state.calls.eraseIdx i }
  | other {state : AdmissionState} {op : Op} {ok : Bool} {store : SqliteStore}
      (saves : savesNothing op = true) (answers : Answers op state.store ok store) :
      CreateStep capacity state (some (op, ok)) { state with store := store }

/-- The preflight is the decision on its four reads. -/
theorem hasCapacity_eq {tenantId : String} {additionalUploads additionalBytes : Nat}
    {capacity : UploadCapacityPolicy} {store : SqliteStore} (tenant : tenantId.isEmpty = false)
    (uploads : additionalUploads ≠ 0) (bytes : additionalBytes ≠ 0) :
    (hasCapacity tenantId additionalUploads additionalBytes capacity store).1 =
      capacityAllows (capacityReading tenantId [] store) (capacityReading tenantId [0] store)
        (capacityReading tenantId [0, 0] store) (capacityReading tenantId [0, 0, 0] store)
        additionalUploads additionalBytes capacity := by
  have checked : (!tenantId.isEmpty && additionalUploads != 0 && additionalBytes != 0) = true := by
    simp [tenant, uploads, bytes]
  simp only [hasCapacity, Call.ensure, checked, if_true, call_pure_bind, call_read_bind,
    call_readOr_eq, capacityReading, List.length_nil, List.length_cons]

/-! ## Runs -/

/-- What a step does to the store: nothing, or one operation, and a save only with the
capacity of the service. -/
theorem createStep_store {capacity : UploadCapacityPolicy} {state state' : AdmissionState}
    {label : Option (Op × Bool)} (step : CreateStep capacity state label state') :
    state'.store = state.store ∨
      ∃ op ok, Answers op state.store ok state'.store ∧
        (savesNothing op = true ∨ ∃ batch, op = .saveBatch batch capacity) := by
  cases step with
  | start | read | grant | reserve | abandon => exact .inl rfl
  | save i call at_ phase complete answers => exact .inr ⟨_, _, answers, .inr ⟨_, rfl⟩⟩
  | other saves answers => exact .inr ⟨_, _, answers, .inl saves⟩

theorem saveBatch_keeps_within {batch : UploadBatchReservation} {capacity : UploadCapacityPolicy}
    {ok : Bool} {s t : SqliteStore} (sound : Sound s) (within : WithinCaps capacity s)
    (answers : Answers (.saveBatch batch capacity) s ok t) : WithinCaps capacity t := by
  cases answers with
  | refused => exact within
  | ran =>
      have ran : saveBatch batch capacity s =
        ((saveBatch batch capacity s).1, (Op.run (.saveBatch batch capacity) s).2) := rfl
      obtain ⟨same, -⟩ | ⟨-, size, rows, saved⟩ := saveBatch_cases ran
      · rw [same]
        exact within
      · exact batchSaved_keeps_within sound within saved

/-- Every step keeps the store sound, and keeps it within the caps. -/
theorem createStep_keeps {capacity : UploadCapacityPolicy} {state state' : AdmissionState}
    {label : Option (Op × Bool)} (step : CreateStep capacity state label state')
    (sound : Sound state.store) :
    Sound state'.store ∧ (WithinCaps capacity state.store → WithinCaps capacity state'.store) := by
  obtain same | ⟨op, ok, answers, saves | ⟨batch, rfl⟩⟩ := createStep_store step
  · rw [same]
    exact ⟨sound, fun within => within⟩
  · exact ⟨answers_sound sound answers, answers_keep_within sound saves answers⟩
  · exact ⟨answers_sound sound answers, fun within => saveBatch_keeps_within sound within answers⟩

/-- What a save leaves behind: the caps respected, or everything as it was. -/
structure SaveOutcome (capacity : UploadCapacityPolicy) (tenantId : String) (ok : Bool)
    (s t : SqliteStore) : Prop where
  within : ok = true → TenantWithin capacity tenantId t
  unchanged : ok = false → t.uploadBatches = s.uploadBatches ∧ t.uploads = s.uploads ∧
    t.usage = s.usage ∧ t.operationalCounters = s.operationalCounters

theorem saveBatch_outcome {batch : UploadBatchReservation} {capacity : UploadCapacityPolicy}
    {ok : Bool} {s t : SqliteStore} (sound : Sound s)
    (answers : Answers (.saveBatch batch capacity) s ok t) :
    SaveOutcome capacity batch.tenantId ok s t := by
  have same : t = s → SaveOutcome capacity batch.tenantId false s t := by
    rintro rfl
    refine ⟨fun claimed => ?_, fun _ => ⟨rfl, rfl, rfl, rfl⟩⟩
    cases claimed
  cases answers with
  | refused => exact same rfl
  | ran =>
      have ran : saveBatch batch capacity s =
        ((saveBatch batch capacity s).1, (Op.run (.saveBatch batch capacity) s).2) := rfl
      have ok : (Op.run (.saveBatch batch capacity) s).1 =
        (saveBatch batch capacity s).1.toBool := rfl
      obtain ⟨unchanged, error, failed⟩ | ⟨succeeded, size, rows, saved⟩ := saveBatch_cases ran
      · rw [ok, failed]
        exact same unchanged
      · rw [ok, succeeded]
        refine ⟨fun _ => batchSaved_within sound saved, fun failed => ?_⟩
        cases failed

/-- **Admission never exceeds capacity.**  From any reachable store, under any
interleaving of `create_batch` calls with each other and with everything else: what
starts within the caps stays within them, and a save, at any moment and of any batch,
leaves the service and its tenant within the caps or leaves everything as it was. -/
theorem admission_within_capacity {capacity : UploadCapacityPolicy} {calls : List (Op × Bool)}
    {start : AdmissionState} {labels : List (Option (Op × Bool))} {state : AdmissionState}
    (reached : StoreRun calls start.store) (run : Trace (CreateStep capacity) start labels state) :
    (WithinCaps capacity start.store → WithinCaps capacity state.store) ∧
      ∀ batch ok store, Answers (.saveBatch batch capacity) state.store ok store →
        SaveOutcome capacity batch.tenantId ok state.store store := by
  have kept : Sound state.store ∧
      (WithinCaps capacity start.store → WithinCaps capacity state.store) := by
    refine Trace.keeps
      (P := fun middle => Sound middle.store ∧
        (WithinCaps capacity start.store → WithinCaps capacity middle.store))
      (fun s label t step holds => ?_) run ⟨run_sound reached, fun within => within⟩
    obtain ⟨sound, within⟩ := createStep_keeps step holds.1
    exact ⟨sound, fun first => within (holds.2 first)⟩
  exact ⟨kept.2, fun batch ok store answers => saveBatch_outcome kept.1 answers⟩

/-- A call for the sample batch, in some phase. -/
def sampleCall (phase : CreatePhase) : CreateCall where
  request := ⟨"g5", [⟨"first", .image, 100, "image/png"⟩]⟩
  transfers := [.singlePut]
  additionalBytes := 100
  phase := phase

/-- The migrated store with the sample call in flight. -/
def sampleFlight (phase : CreatePhase) : AdmissionState := ⟨.migrated, [sampleCall phase]⟩

theorem sampleFlight_read (readings : List Int) (next : Int) (more : readings.length < 4)
    (value : capacityReading "g5" readings .migrated = next) :
    CreateStep sampleCapacity (sampleFlight (.counting readings)) none
      (sampleFlight (.counting (readings ++ [next]))) := by
  have read : CreateStep sampleCapacity (sampleFlight (.counting readings)) none
      (sampleFlight (.counting (readings ++ [capacityReading "g5" readings .migrated]))) :=
    CreateStep.read 0 (sampleCall (.counting readings)) rfl rfl more
  rw [value] at read
  exact read

/-- The sample call preflights, reserves and saves: the caps hold before and after. -/
theorem admission_within_capacity_sample :
    WithinCaps sampleCapacity .migrated ∧ TenantWithin sampleCapacity "g5" reservedSample := by
  have started : CreateStep sampleCapacity ⟨.migrated, []⟩ none (sampleFlight (.counting [])) :=
    CreateStep.start (by decide) (by decide) rfl rfl (by decide)
  have admitted : CreateStep sampleCapacity (sampleFlight (.counting [0, 0, 0, 0])) none
      (sampleFlight (.reserving ⟨1⟩ (sampleTime 0) [])) :=
    CreateStep.grant 0 (sampleCall (.counting [0, 0, 0, 0])) rfl rfl rfl
  have reserved : CreateStep sampleCapacity (sampleFlight (.reserving ⟨1⟩ (sampleTime 0) [])) none
      (sampleFlight (.reserving ⟨1⟩ (sampleTime 0) sampleBatch.uploads)) :=
    CreateStep.reserve 0 (sampleCall (.reserving ⟨1⟩ (sampleTime 0) [])) ⟨1⟩
      ⟨"raw/g5/1/source", by decide⟩ none rfl rfl rfl rfl
  have run : Trace (CreateStep sampleCapacity) ⟨.migrated, []⟩ [none, none, none, none, none, none, none]
      (sampleFlight (.reserving ⟨1⟩ (sampleTime 0) sampleBatch.uploads)) :=
    .cons started (.cons (sampleFlight_read [] 0 (by decide) rfl)
      (.cons (sampleFlight_read [0] 0 (by decide) rfl)
        (.cons (sampleFlight_read [0, 0] 0 (by decide) rfl)
          (.cons (sampleFlight_read [0, 0, 0] 0 (by decide) rfl)
            (.cons admitted (.single reserved))))))
  have result := admission_within_capacity (.nil _) run
  have saved : Answers (.saveBatch sampleBatch sampleCapacity) .migrated true reservedSample := .ran
  have empty : WithinCaps sampleCapacity .migrated := fun tenantId => by
    refine ⟨by decide, ?_, by decide, ?_⟩
    · change (0 : Int) ≤ 5
      decide
    · change (0 : Int) ≤ 500
      decide
  exact ⟨result.1 empty, (result.2 sampleBatch true reservedSample saved).within rfl⟩

end MediaBooster.Quota
