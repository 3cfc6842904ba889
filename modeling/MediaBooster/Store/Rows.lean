/-
# Store.Rows -- what every stored upload looks like

The checks of the schema, the decoding of a row and the columns a reservation fixes
are the same for every upload of every reachable store.  `Kept` collects the checks:
`run_kept` proves them of every run.  `run_reserved` carries any property of the
columns that `reservationRow` binds to all stored rows, and `run_readable` is the
case that every stored row decodes.

They are what an `UPDATE` of columns no trigger looks at needs in order to succeed:
`updateUploads_steady`.

`RowMove op` is what an operation does to one stored upload, with the condition under
which it does it: one constructor for each operation that writes uploads.
`Answers.rowMoves` says that every row an operation leaves was there and moved so, or is
a fresh reservation.
-/
import MediaBooster.Store.Operations

namespace MediaBooster.Store

set_option autoImplicit false

open MediaBooster.Domain MediaBooster.Theory.Run MediaBooster.Theory.Table
open MediaBooster.Theory.Transaction

/-! ## Checks -/

section Checks

variable {K : List Kind} {s t : SqliteStore}

/-- The checks on the uploads, the derivatives and the counters hold. -/
structure Kept (store : SqliteStore) : Prop where
  counted : Counted store.operationalCounters
  checked : ∀ row ∈ store.uploads, uploadChecks row = true
  derivatives : ∀ row ∈ store.derivatives, derivativeChecks row = true

theorem migrated_kept : Kept SqliteStore.migrated where
  counted := fun _ => le_refl 0
  checked := fun _ member => nomatch member
  derivatives := fun _ member => nomatch member

theorem insertUpload_kept {n : Nat} {row : UploadRow} (kept : Kept s)
    (ran : SqliteStore.insertUpload row s = .ok (n, t)) : Kept t := by
  simp only [SqliteStore.insertUpload, except_bind_eq_ok, require_eq_ok] at ran
  obtain ⟨-, -, -, -, -, sound, -, -, usage, -, counters, adjusted, result⟩ := ran
  cases result
  refine ⟨adjust_counted adjusted, fun other member => ?_, kept.derivatives⟩
  rcases List.mem_append.1 member with old | new
  · exact kept.checked other old
  · rw [List.mem_singleton.1 new]
    exact sound

theorem updateUploads_kept {n : Nat} {hit : UploadRow → Bool}
    {set : UploadProgress → UploadProgress} (kept : Kept s)
    (ran : SqliteStore.updateUploads hit set s = .ok (n, t)) : Kept t := by
  simp only [SqliteStore.updateUploads, except_bind_eq_ok, require_eq_ok] at ran
  obtain ⟨-, sound, usage, -, counters, fired, result⟩ := ran
  cases result
  refine ⟨counted_foldlM kept.counted fired, fun other member => ?_, kept.derivatives⟩
  obtain ⟨row, there, rfl⟩ := mem_updateWhere.1 member
  split
  · rename_i reached
    have pair : (row, row.assign set) ∈ touched hit (UploadRow.assign set) s.uploads :=
      mem_touched.2 ⟨row, there, reached, rfl⟩
    exact List.all_eq_true.1 sound _ pair
  · exact kept.checked row there

theorem deleteUploads_kept {n : Nat} {hit : UploadRow → Bool} (kept : Kept s)
    (ran : SqliteStore.deleteUploads hit s = .ok (n, t)) : Kept t := by
  simp only [SqliteStore.deleteUploads, except_bind_eq_ok, require_eq_ok] at ran
  obtain ⟨-, -, usage, -, middle, uploads, counters, jobs, result⟩ := ran
  cases result
  refine ⟨counted_foldlM (counted_foldlM kept.counted uploads) jobs, fun other member => ?_,
    fun other member => ?_⟩
  · exact kept.checked other (mem_deleteWhere.1 member).1
  · exact kept.derivatives other (mem_deleteWhere.1 member).1

theorem Wrote.kept (wrote : Wrote K s t) (kept : Kept s) : Kept t := by
  cases wrote with
  | insertUpload kind fresh ran => exact insertUpload_kept kept ran
  | updateUploads kind evolves ran => exact updateUploads_kept kept ran
  | deleteUploads kind tombstones ran => exact deleteUploads_kept kept ran
  | insertJob kind queued ran =>
      simp only [SqliteStore.insertJob, except_bind_eq_ok, require_eq_ok] at ran
      obtain ⟨-, -, -, -, -, -, counters, adjusted, result⟩ := ran
      cases result
      exact ⟨adjust_counted adjusted, kept.checked, kept.derivatives⟩
  | updateJobs kind ran =>
      obtain ⟨-, counters, fired, rfl⟩ := SqliteStore.updateJobs_ok ran
      exact ⟨counted_foldlM kept.counted fired, kept.checked, kept.derivatives⟩
  | upsertDerivative kind ran =>
      have sound := SqliteStore.upsertDerivative_checked ran
      obtain rfl | ⟨-, -, rfl⟩ := SqliteStore.upsertDerivative_ok ran
      · exact kept
      · refine ⟨kept.counted, kept.checked, fun other member => ?_⟩
        rcases List.mem_append.1 member with old | new
        · exact kept.derivatives other old
        · rw [List.mem_singleton.1 new]
          exact sound
  | insertSitePolicy kind bounded ran =>
      obtain ⟨-, rfl⟩ | ⟨-, -, rfl⟩ := SqliteStore.insertSitePolicy_ok ran
      · exact kept
      · exact ⟨kept.counted, kept.checked, kept.derivatives⟩
  | nextClaim kind ran =>
      obtain ⟨-, -, rfl⟩ := SqliteStore.nextClaim_ok ran
      exact ⟨kept.counted, kept.checked, kept.derivatives⟩
  | upsertTenantQueue kind ran =>
      obtain ⟨-, rfl⟩ := SqliteStore.upsertTenantQueue_ok ran
      exact ⟨kept.counted, kept.checked, kept.derivatives⟩
  | aside kind same =>
      refine ⟨same.counted kept.counted, ?_, ?_⟩
      · rw [same.uploads]
        exact kept.checked
      · rw [same.derivatives]
        exact kept.derivatives

theorem Answers.kept {op : Op} {ok : Bool} (answers : Answers op s ok t) (integrity : s.Integrity)
    (kept : Kept s) : Kept t :=
  (answers.effect integrity).keeps (fun _ _ wrote => wrote.kept) kept

/-- **The checks hold in every run.** -/
theorem run_kept {calls : List (Op × Bool)} {store : SqliteStore} (run : StoreRun calls store) :
    Kept store := by
  have both : store.Integrity ∧ Kept store := by
    refine run.keeps (P := fun store => store.Integrity ∧ Kept store) (fun s call t step holds => ?_)
      ⟨migrated_integrity, migrated_kept⟩
    exact ⟨Answers.integrity step holds.1, Answers.kept step holds.1 holds.2⟩
  exact both.2

end Checks

/-! ## What a reservation fixes -/

section Reserved

variable {s t : SqliteStore}

/-- What every bound reservation satisfies, every stored upload satisfies. -/
theorem Answers.reserved {P : UploadReserved → Prop} {op : Op} {ok : Bool}
    (bound : ∀ batch upload row, reservationRow batch upload = .ok row → P row.toUploadReserved)
    (answers : Answers op s ok t) (integrity : s.Integrity)
    (holds : ∀ row ∈ s.uploads, P row.toUploadReserved) :
    ∀ row ∈ t.uploads, P row.toUploadReserved := by
  by_cases inserts : Kind.insertUpload ∈ op.kinds
  · cases answers with
    | refused => exact holds
    | ran =>
        cases op <;> simp [Op.kinds] at inserts
        rename_i batch capacity
        show ∀ row ∈ (saveBatch batch capacity s).2.uploads, P row.toUploadReserved
        cases answer : saveBatch batch capacity s with
        | mk result store =>
            obtain ⟨rfl, -⟩ | ⟨-, size, rows, saved⟩ := saveBatch_cases answer
            · exact holds
            · intro row member
              rw [saved.uploads] at member
              rcases List.mem_append.1 member with old | new
              · exact holds row old
              · obtain ⟨upload, -, reservation⟩ := forall₂_mem_right saved.bound new
                exact bound batch upload row reservation
  · intro row member
    obtain ⟨before, there, evolves⟩ := (answers.effect integrity).evolved_from inserts row member
    rw [evolves.reserved]
    exact holds before there

theorem run_reserved {P : UploadReserved → Prop} {calls : List (Op × Bool)} {store : SqliteStore}
    (bound : ∀ batch upload row, reservationRow batch upload = .ok row → P row.toUploadReserved)
    (run : StoreRun calls store) : ∀ row ∈ store.uploads, P row.toUploadReserved := by
  have both : store.Integrity ∧ ∀ row ∈ store.uploads, P row.toUploadReserved := by
    refine run.keeps
      (P := fun store => store.Integrity ∧ ∀ row ∈ store.uploads, P row.toUploadReserved)
      (fun s call t step holds => ?_) ⟨migrated_integrity, fun _ member => nomatch member⟩
    exact ⟨Answers.integrity step holds.1, Answers.reserved bound step holds.1 holds.2⟩
  exact both.2

/-- The columns `storedUploadFromRow` decodes have values it accepts. -/
def ReadableReservation (reserved : UploadReserved) : Prop :=
  (u64TryFrom reserved.expectedSizeBytes).isSome ∧
    (reserved.transferKind = .multipart →
      reserved.multipartUploadId.isSome ∧
        ∃ partSize, reserved.multipartPartSizeBytes = some partSize ∧ (u64TryFrom partSize).isSome)

theorem u64TryFrom_of_i64TryFrom {value : Nat} {stored : Int} (bound : i64TryFrom value = some stored) :
    (u64TryFrom stored).isSome := by
  obtain ⟨rfl, within⟩ := i64TryFrom_eq_some.1 bound
  rw [Option.isSome_iff_exists]
  refine ⟨value, u64TryFrom_eq_some.2 ⟨rfl, ?_⟩⟩
  simp only [i64Max] at within
  omega

theorem reservationRow_readable {batch : UploadBatchReservation} {upload : UploadReservation}
    {row : UploadRow} (bound : reservationRow batch upload = .ok row) :
    ReadableReservation row.toUploadReserved := by
  rw [reservationRow] at bound
  split at bound
  · cases bound
  rename_i expectedSize sized
  split at bound
  · cases bound
    refine ⟨u64TryFrom_of_i64TryFrom sized, ?_⟩
    intro multipart
    cases multipart
  split at bound
  · cases bound
  rename_i partSizeBytes _ partSize parts
  split at bound
  · cases bound
  cases bound
  refine ⟨u64TryFrom_of_i64TryFrom sized, fun _ => ⟨rfl, partSize, rfl, ?_⟩⟩
  exact u64TryFrom_of_i64TryFrom parts

/-- A row whose reservation is readable decodes. -/
theorem storedUploadFromRow_of_readable {row : UploadRow}
    (readable : ReadableReservation row.toUploadReserved) :
    ∃ stored, storedUploadFromRow row = .ok stored := by
  obtain ⟨size, sized⟩ := Option.isSome_iff_exists.1 readable.1
  cases kind : row.transferKind with
  | singlePut =>
      refine ⟨⟨row.id, row.objectKey, size, row.state, .singlePut, row.multipartUploadId⟩, ?_⟩
      simp [storedUploadFromRow, storedTransfer, sized, kind, bind, Except.bind]
  | multipart =>
      obtain ⟨session, partSize, stored, parts⟩ := readable.2 kind
      obtain ⟨partSizeBytes, converted⟩ := Option.isSome_iff_exists.1 parts
      obtain ⟨id, opened⟩ := Option.isSome_iff_exists.1 session
      refine ⟨⟨row.id, row.objectKey, size, row.state, .multipart partSizeBytes,
        row.multipartUploadId⟩, ?_⟩
      simp [storedUploadFromRow, storedTransfer, sized, kind, stored, converted, opened, bind,
        Except.bind]

/-- **Every stored upload decodes.** -/
theorem run_readable {calls : List (Op × Bool)} {store : SqliteStore} (run : StoreRun calls store) :
    ∀ row ∈ store.uploads, ReadableReservation row.toUploadReserved :=
  run_reserved (fun _ _ _ bound => reservationRow_readable bound) run

end Reserved

/-! ## Updates no trigger looks at -/

section Steady

/-- An `UPDATE uploads` that keeps the state and the deletion request succeeds. -/
theorem updateUploads_steady {store : SqliteStore} {hit : UploadRow → Bool}
    {set : UploadProgress → UploadProgress} (counted : Counted store.operationalCounters)
    (checked : ∀ row ∈ store.uploads, hit row = true → uploadChecks (row.assign set) = true)
    (state : ∀ progress, (set progress).state = progress.state)
    (requested : ∀ progress, (set progress).deleteRequestedAt = progress.deleteRequestedAt) :
    SqliteStore.updateUploads hit set store =
      .ok ((touched hit (UploadRow.assign set) store.uploads).length,
        { store with uploads := updateWhere hit (UploadRow.assign set) store.uploads }) := by
  have pairs : ∀ pair ∈ touched hit (UploadRow.assign set) store.uploads,
      pair.1 ∈ store.uploads ∧ hit pair.1 = true ∧ pair.2 = pair.1.assign set := by
    intro pair member
    obtain ⟨row, there, reached, rfl⟩ := mem_touched.1 member
    exact ⟨there, reached, rfl⟩
  have sound : (touched hit (UploadRow.assign set) store.uploads).all
      (fun pair => uploadChecks pair.2) = true := by
    rw [List.all_eq_true]
    intro pair member
    obtain ⟨there, reached, moved⟩ := pairs pair member
    rw [moved]
    exact checked _ there reached
  have usage : (touched hit (UploadRow.assign set) store.uploads).foldlM
      (fun usage pair => usage.afterUpdate pair.1 pair.2) store.usage = .ok store.usage := by
    revert pairs
    generalize touched hit (UploadRow.assign set) store.uploads = rows
    intro pairs
    induction rows with
    | nil => rfl
    | cons pair rows ih =>
        obtain ⟨-, -, moved⟩ := pairs pair List.mem_cons_self
        have unmoved : store.usage.afterUpdate pair.1 pair.2 = .ok store.usage := by
          rw [moved, StorageUsage.afterUpdate, if_neg]
          simp [state]
        rw [List.foldlM_cons, unmoved]
        exact ih fun other member => pairs other (List.mem_cons_of_mem _ member)
  have counters : (touched hit (UploadRow.assign set) store.uploads).foldlM
      (fun counters pair => adjust counters (tallyUpload pair.2 - tallyUpload pair.1))
      store.operationalCounters = .ok store.operationalCounters := by
    revert pairs
    generalize touched hit (UploadRow.assign set) store.uploads = rows
    intro pairs
    induction rows with
    | nil => rfl
    | cons pair rows ih =>
        obtain ⟨-, -, moved⟩ := pairs pair List.mem_cons_self
        have same : tallyUpload pair.2 - tallyUpload pair.1 = 0 := by
          rw [moved, sub_eq_zero]
          funext counter
          cases counter <;> simp [tallyUpload, state, requested]
        have unmoved : adjust store.operationalCounters 0 = .ok store.operationalCounters := by
          rw [adjust_ok fun counter => by simpa using counted counter, add_zero]
        rw [List.foldlM_cons, same, unmoved]
        exact ih fun other member => pairs other (List.mem_cons_of_mem _ member)
  simp only [SqliteStore.updateUploads, sound, usage, counters, require, bind, Except.bind, if_true]
  rfl

end Steady

/-! ## What an operation does to one upload -/

/-- One stored upload moves as `op` moves it. -/
inductive RowMove (s : SqliteStore) : Op → UploadRow → UploadRow → Prop
  | same {op : Op} (row : UploadRow) : RowMove s op row row
  | confirmed {jobId : JobId} {tenantId : String} {uploadId : UploadId} {actualSizeBytes : Nat}
      {presetId : String} {now : OffsetDateTime} {row : UploadRow}
      (owned : ownedUpload tenantId uploadId row = true) (created : row.state = .created) :
      RowMove s (.markQuarantinedAndEnqueue jobId tenantId uploadId actualSizeBytes presetId now) row
        (row.assign (confirmedColumns actualSizeBytes now.unixTimestamp))
  | aborted {tenantId : String} {uploadId : UploadId} {now : OffsetDateTime} {row : UploadRow}
      (owned : ownedUpload tenantId uploadId row = true) (created : row.state = .created) :
      RowMove s (.markDeleted tenantId uploadId now) row
        (row.assign (deletedColumns now.unixTimestamp))
  | requested {tenantId : String} {uploadId : UploadId} {now : OffsetDateTime} {row : UploadRow}
      (owned : ownedUpload tenantId uploadId row = true) (unasked : row.deleteRequestedAt = none)
      (deletable : deletableState row.state = true)
      (unreferenced : s.policyReferences uploadId = 0) :
      RowMove s (.requestDeletion tenantId uploadId now) row
        (row.assign (requestedColumns now.unixTimestamp))
  | leased {owner : String} {now createdBefore rejectedBefore : OffsetDateTime}
      {leaseFor : Duration} {limit maxAttempts : Nat} {row : UploadRow} (leaseUntil : Int)
      (eligible : cleanupEligible maxAttempts now.unixTimestamp createdBefore.unixTimestamp
        rejectedBefore.unixTimestamp row = true) :
      RowMove s (.claimCleanupBatch owner now createdBefore rejectedBefore leaseFor limit maxAttempts)
        row (row.assign (leaseColumns owner leaseUntil))
  | tombstoned {uploadId : UploadId} {owner : String} {now : OffsetDateTime} {row : UploadRow}
      (leased : cleanupLeasedBy uploadId owner row = true) :
      RowMove s (.completeCleanup uploadId owner now) row
        (row.assign (tombstoneColumns now.unixTimestamp))
  | retried {uploadId : UploadId} {owner : String} {now retryAt : OffsetDateTime}
      {errorCode : String} {row : UploadRow} (leased : cleanupLeasedBy uploadId owner row = true) :
      RowMove s (.failCleanup uploadId owner now retryAt errorCode) row
        (row.assign (retryColumns now.unixTimestamp retryAt.unixTimestamp errorCode))
  | started {uploadId : UploadId} {detectedContentType sourceSha256 : String}
      {now : OffsetDateTime} {row : UploadRow} (startable : startable uploadId row = true) :
      RowMove s (.startProcessing uploadId detectedContentType sourceSha256 now) row
        (row.assign (processingColumns detectedContentType sourceSha256 now.unixTimestamp))
  | published {uploadId : UploadId} {derivatives : List PublishedDerivative}
      {now : OffsetDateTime} {row : UploadRow} (named : row.id = uploadId)
      (processing : row.state = .processing) :
      RowMove s (.publishDerivatives uploadId derivatives now) row
        (row.assign (readyColumns now.unixTimestamp))
  | rejected {uploadId : UploadId} {errorCode : String} {now : OffsetDateTime} {row : UploadRow}
      (rejectable : rejectable uploadId row = true) :
      RowMove s (.markRejected uploadId errorCode now) row
        (row.assign (rejectedColumns errorCode now.unixTimestamp))

section Moves

variable {s t : SqliteStore}

theorem RowMove.evolves {op : Op} {before after : UploadRow} (move : RowMove s op before after) :
    Evolves before after := by
  cases move with
  | same => exact Evolves.refl before
  | confirmed owned created =>
      refine ⟨rfl, ?_, fun _ => rfl⟩
      rw [created]
      have uploaded : UploadState.Chain .created .uploaded := UploadState.Chain.step rfl
      exact uploaded.trans (UploadState.Chain.step rfl)
  | aborted => exact ⟨rfl, UploadState.Chain.to_deleted _, fun _ => rfl⟩
  | requested owned unasked =>
      refine ⟨rfl, UploadState.Chain.refl _, fun asked => ?_⟩
      simp [unasked] at asked
  | leased => exact ⟨rfl, UploadState.Chain.refl _, fun _ => rfl⟩
  | tombstoned => exact ⟨rfl, UploadState.Chain.to_deleted _, fun _ => rfl⟩
  | retried => exact ⟨rfl, UploadState.Chain.refl _, fun _ => rfl⟩
  | started startable =>
      refine ⟨rfl, ?_, fun _ => rfl⟩
      rw [(startable_iff.1 startable).2]
      exact UploadState.Chain.step rfl
  | published named processing =>
      refine ⟨rfl, ?_, fun _ => rfl⟩
      rw [processing]
      exact UploadState.Chain.step rfl
  | rejected rejectable =>
      refine ⟨rfl, ?_, fun _ => rfl⟩
      obtain quarantined | processing := (rejectable_iff.1 rejectable).2
      · rw [quarantined]
        exact UploadState.Chain.step rfl
      · rw [processing]
        exact UploadState.Chain.step rfl

theorem UploadMoved.rowMoves {op : Op} {upload : UploadRow} {set : UploadProgress → UploadProgress}
    (moved : UploadMoved upload set s t) (integrity : s.Integrity)
    (move : RowMove s op upload (upload.assign set)) :
    ∀ after ∈ t.uploads, ∃ before ∈ s.uploads, RowMove s op before after := by
  intro after member
  obtain rfl | ⟨old, -⟩ := moved.mem_cases integrity member
  · exact ⟨upload, moved.member, move⟩
  · exact ⟨after, old, .same after⟩

theorem Confirmed.rowMoves {op : Op} {jobId : JobId} {upload : UploadRow} {actualSize now : Int}
    {presetId : String} (confirmed : Confirmed jobId upload actualSize presetId now s t)
    (integrity : s.Integrity)
    (move : RowMove s op upload (upload.assign (confirmedColumns actualSize now))) :
    ∀ after ∈ t.uploads, ∃ before ∈ s.uploads, RowMove s op before after := by
  obtain ⟨middle, moved, revision, inserted⟩ := confirmed.confirmed
  obtain ⟨-, -, -, counters, -, rfl⟩ := SqliteStore.insertJob_ok inserted
  exact moved.rowMoves integrity move

theorem rowMoves_same {op : Op} (same : t.uploads = s.uploads) :
    ∀ after ∈ t.uploads, ∃ before ∈ s.uploads, RowMove s op before after := by
  rw [same]
  exact fun row member => ⟨row, member, .same row⟩

theorem Op.rowMoves {op : Op} (integrity : s.Integrity) (inserts : .insertUpload ∉ op.kinds) :
    ∀ after ∈ (op.run s).2.uploads, ∃ before ∈ s.uploads, RowMove s op before after := by
  by_cases updates : Kind.updateUploads ∈ op.kinds
  · cases op <;> simp [Op.kinds] at updates
    case markQuarantinedAndEnqueue jobId tenantId uploadId actualSizeBytes presetId now =>
        obtain ⟨same, -⟩ | ⟨-, upload, owned, confirmed⟩ := markQuarantinedAndEnqueue_cases integrity
          (Eq.refl (Store.markQuarantinedAndEnqueue jobId tenantId uploadId actualSizeBytes presetId
            now s))
        · exact rowMoves_same (congrArg SqliteStore.uploads same)
        · exact confirmed.rowMoves integrity (.confirmed owned confirmed.created)
    case markDeleted tenantId uploadId now =>
        obtain ⟨-, upload, owned, created, moved⟩ | same := markDeleted_cases integrity
          (Eq.refl (Store.markDeleted tenantId uploadId now s))
        · exact moved.rowMoves integrity (.aborted owned created)
        · exact rowMoves_same (congrArg SqliteStore.uploads same)
    case requestDeletion tenantId uploadId now =>
        obtain ⟨same, -⟩ | ⟨-, upload, owned, unasked, deletable, unreferenced, moved⟩ :=
          requestDeletion_cases integrity (Eq.refl (Store.requestDeletion tenantId uploadId now s))
        · exact rowMoves_same (congrArg SqliteStore.uploads same)
        · exact moved.rowMoves integrity (.requested owned unasked deletable unreferenced)
    case claimCleanupBatch owner now createdBefore rejectedBefore leaseFor limit maxAttempts =>
        obtain ⟨same, -⟩ | ⟨leaseUntil, rows, candidates, -, selected, leased⟩ :=
          claimCleanupBatch_cases integrity (Eq.refl (Store.claimCleanupBatch owner now createdBefore
            rejectedBefore leaseFor limit maxAttempts s))
        · exact rowMoves_same (congrArg SqliteStore.uploads same)
        · intro after member
          have kept : (Store.claimCleanupBatch owner now createdBefore rejectedBefore leaseFor limit
              maxAttempts s).2.uploads = _ := leased.uploads
          change after ∈ (Store.claimCleanupBatch owner now createdBefore rejectedBefore leaseFor
            limit maxAttempts s).2.uploads at member
          rw [kept] at member
          obtain ⟨row, there, rfl⟩ := mem_updateWhere.1 member
          split
          · rename_i hit
            obtain ⟨other, listed, same⟩ := List.any_eq_true.1 hit
            rw [beq_iff_eq] at same
            have is := integrity.uploadIds.eq_of_key there (selected other listed).1 same
            refine ⟨row, there, .leased leaseUntil ?_⟩
            rw [is]
            exact (selected other listed).2
          · exact ⟨row, there, .same row⟩
    case completeCleanup uploadId owner now =>
        obtain ⟨-, upload, leased, moved⟩ | ⟨same, -⟩ := completeCleanup_cases integrity
          (Eq.refl (Store.completeCleanup uploadId owner now s))
        · exact moved.rowMoves integrity (.tombstoned leased)
        · exact rowMoves_same (congrArg SqliteStore.uploads same)
    case failCleanup uploadId owner now retryAt errorCode =>
        obtain ⟨-, upload, leased, moved⟩ | ⟨same, -⟩ := failCleanup_cases integrity
          (Eq.refl (Store.failCleanup uploadId owner now retryAt errorCode s))
        · exact moved.rowMoves integrity (.retried leased)
        · exact rowMoves_same (congrArg SqliteStore.uploads same)
    case startProcessing uploadId detectedContentType sourceSha256 now =>
        obtain ⟨-, upload, startable, moved⟩ | ⟨same, -⟩ := startProcessing_cases integrity
          (Eq.refl (Store.startProcessing uploadId detectedContentType sourceSha256 now s))
        · exact moved.rowMoves integrity (.started startable)
        · exact rowMoves_same (congrArg SqliteStore.uploads same)
    case publishDerivatives uploadId derivatives now =>
        obtain ⟨same, -⟩ | ⟨-, upload, member, named, added, middle, published, outcome⟩ :=
          publishDerivatives_cases integrity
            (Eq.refl (Store.publishDerivatives uploadId derivatives now s))
        · exact rowMoves_same (congrArg SqliteStore.uploads same)
        · obtain ⟨processing, moved⟩ | ⟨-, same⟩ := outcome
          · intro after there
            have integrity' := published.effect.integrity integrity
            obtain rfl | ⟨old, -⟩ := moved.mem_cases integrity' there
            · exact ⟨upload, member, .published named processing⟩
            · rw [published.uploads] at old
              exact ⟨after, old, .same after⟩
          · exact rowMoves_same ((congrArg SqliteStore.uploads same).trans published.uploads)
    case markRejected uploadId errorCode now =>
        obtain ⟨-, upload, rejectable, moved⟩ | ⟨same, -⟩ := markRejected_cases integrity
          (Eq.refl (Store.markRejected uploadId errorCode now s))
        · exact moved.rowMoves integrity (.rejected rejectable)
        · exact rowMoves_same (congrArg SqliteStore.uploads same)
  · intro after member
    have effect := op.effect integrity
    by_cases deletes : Kind.deleteUploads ∈ op.kinds
    · have kept : ∀ row ∈ (op.run s).2.uploads, row ∈ s.uploads := by
        refine effect.keeps (P := fun m => ∀ row ∈ m.uploads, row ∈ s.uploads) ?_
          fun row there => there
        intro m u wrote kept row there
        obtain same | ⟨kind, -⟩ | ⟨kind, -⟩ | ⟨-, hit, -, removed⟩ := wrote.uploads_cases
        · rw [same] at there
          exact kept row there
        · exact absurd kind inserts
        · exact absurd kind updates
        · rw [removed] at there
          exact kept row (mem_deleteWhere.1 there).1
      exact ⟨after, kept after member, .same after⟩
    · exact rowMoves_same (effect.uploads_same inserts updates deletes) after member

/-- **Every stored upload was there and moved as the operation moves it, or is a fresh
reservation.** -/
theorem Answers.rowMoves {op : Op} {ok : Bool} (answers : Answers op s ok t)
    (integrity : s.Integrity) :
    ∀ after ∈ t.uploads, (∃ before ∈ s.uploads, RowMove s op before after) ∨
      (isReservation after ∧ ∀ before ∈ s.uploads, before.id ≠ after.id) := by
  intro after member
  cases answers with
  | refused => exact .inl ⟨after, member, .same after⟩
  | ran =>
      by_cases inserts : Kind.insertUpload ∈ op.kinds
      · by_cases fresh : ∀ before ∈ s.uploads, before.id ≠ after.id
        · have answers : Answers op s (op.run s).1 (op.run s).2 := .ran
          exact .inr ⟨(answers.advances integrity).added after member fresh, fresh⟩
        · push Not at fresh
          obtain ⟨before, there, same⟩ := fresh
          have kept : ∀ row ∈ s.uploads, row ∈ (op.run s).2.uploads := by
            refine (op.effect integrity).keeps
              (P := fun m => ∀ row ∈ s.uploads, row ∈ m.uploads) ?_ fun row there => there
            intro m u wrote kept row there
            obtain unchanged | ⟨-, new, -, -, added⟩ | ⟨kind, -⟩ | ⟨kind, -⟩ := wrote.uploads_cases
            · rw [unchanged]
              exact kept row there
            · rw [added]
              exact List.mem_append_left _ (kept row there)
            · cases op <;> simp [Op.kinds] at inserts kind
            · cases op <;> simp [Op.kinds] at inserts kind
          have is := ((op.effect integrity).integrity integrity).uploadIds.eq_of_key
            (kept before there) member same
          rw [← is]
          exact .inl ⟨before, there, .same before⟩
      · exact .inl (op.rowMoves integrity inserts after member)

theorem reservationRow_id {batch : UploadBatchReservation} {upload : UploadReservation}
    {row : UploadRow} (bound : reservationRow batch upload = .ok row) : row.id = upload.uploadId := by
  unfold reservationRow at bound
  split at bound
  · cases bound
  · split at bound
    · cases bound
      rfl
    · split at bound
      · cases bound
      · split at bound
        · cases bound
        · cases bound
          rfl

theorem saveBatch_uploads_from {batch : UploadBatchReservation} {capacity : UploadCapacityPolicy}
    {result : Except UploadRepositoryError Unit} (ran : saveBatch batch capacity s = (result, t)) :
    ∀ row ∈ t.uploads, row ∈ s.uploads ∨
      row.id ∈ batch.uploads.map UploadReservation.uploadId := by
  intro row member
  obtain ⟨rfl, -⟩ | ⟨-, size, rows, saved⟩ := saveBatch_cases ran
  · exact .inl member
  · rw [saved.uploads] at member
    refine (List.mem_append.1 member).imp_right fun new => ?_
    obtain ⟨upload, listed, bound⟩ := forall₂_mem_right saved.bound new
    rw [reservationRow_id bound]
    exact List.mem_map.2 ⟨upload, listed, rfl⟩

/-- **Every upload was there before under its id, or is one of the batch that is saved.** -/
theorem Answers.uploads_from {op : Op} {ok : Bool} (answers : Answers op s ok t)
    (integrity : s.Integrity) :
    ∀ row ∈ t.uploads, (∃ before ∈ s.uploads, before.id = row.id) ∨
      ∃ batch capacity, op = .saveBatch batch capacity ∧
        row.id ∈ batch.uploads.map UploadReservation.uploadId := by
  intro row member
  by_cases inserts : Kind.insertUpload ∈ op.kinds
  · cases op <;> simp [Op.kinds] at inserts
    case saveBatch batch capacity =>
      cases answers with
      | refused => exact .inl ⟨row, member, rfl⟩
      | ran =>
          exact (saveBatch_uploads_from rfl row member).imp (fun old => ⟨row, old, rfl⟩)
            fun new => ⟨batch, capacity, rfl, new⟩
  · obtain ⟨before, there, evolves⟩ :=
      (answers.effect integrity).evolved_from inserts row member
    exact .inl ⟨before, there, evolves.id.symm⟩

/-- An upload that stays moves as the operation moves it. -/
theorem Answers.rowMove {op : Op} {ok : Bool} (answers : Answers op s ok t)
    (integrity : s.Integrity) {before after : UploadRow} (there : before ∈ s.uploads)
    (member : after ∈ t.uploads) (same : after.id = before.id) : RowMove s op before after := by
  obtain ⟨other, there', move⟩ | ⟨-, fresh⟩ := answers.rowMoves integrity after member
  · rwa [integrity.uploadIds.eq_of_key there there' (same.symm.trans move.evolves.id)]
  · exact absurd same.symm (fresh before there)

/-- **Row invariants.**  What fresh reservations satisfy and every move keeps, all uploads
of every run satisfy. -/
theorem run_rows {Step : SqliteStore → Op × Bool → SqliteStore → Prop} {P : UploadRow → Prop}
    (calls : ∀ s call t, Step s call t → StoreStep s call t)
    (fresh : ∀ row, isReservation row → P row)
    (moves : ∀ s call t before after, Step s call t → s.Integrity → (∀ row ∈ s.uploads, P row) →
      before ∈ s.uploads → RowMove s call.1 before after → P after)
    {labels : List (Op × Bool)} {store : SqliteStore} (run : Trace Step .migrated labels store) :
    store.Integrity ∧ ∀ row ∈ store.uploads, P row := by
  refine run.keeps (P := fun store => store.Integrity ∧ ∀ row ∈ store.uploads, P row)
    (fun s call t step holds => ?_) ⟨migrated_integrity, fun _ member => nomatch member⟩
  obtain ⟨integrity, rows⟩ := holds
  have answers := calls s call t step
  refine ⟨Answers.integrity answers integrity, fun after member => ?_⟩
  obtain ⟨before, there, move⟩ | ⟨reservation, -⟩ := Answers.rowMoves answers integrity after member
  · exact moves s call t before after step integrity rows there move
  · exact fresh after reservation

end Moves

/-! ## Where jobs come from -/

/-- A job `op` inserts. -/
inductive Enqueued (s : SqliteStore) : Op → JobRow → Prop
  | direct {id : JobId} {now : OffsetDateTime} {job : ProcessingJob} {revision : Option Int} :
      Enqueued s (.enqueue id now job)
        (queuedRow id job.uploadId job.presetId revision now.unixTimestamp)
  | confirmed {jobId : JobId} {tenantId : String} {uploadId : UploadId} {actualSizeBytes : Nat}
      {presetId : String} {now : OffsetDateTime} {upload : UploadRow} {revision : Option Int}
      (member : upload ∈ s.uploads) (owned : ownedUpload tenantId uploadId upload = true)
      (created : upload.state = .created) :
      Enqueued s (.markQuarantinedAndEnqueue jobId tenantId uploadId actualSizeBytes presetId now)
        (queuedRow jobId upload.id presetId revision now.unixTimestamp)

section Jobs

variable {s t : SqliteStore}

/-- `enqueue` inserts one queued job, or changes no job. -/
theorem enqueue_jobs {id : JobId} {now : OffsetDateTime} {job : ProcessingJob}
    {result : Except JobQueueError Unit} (ran : enqueue id now job s = (result, t)) :
    t.jobs = s.jobs ∨ ∃ revision, t.jobs = s.jobs ++
      [queuedRow id job.uploadId job.presetId revision now.unixTimestamp] := by
  obtain ⟨-, rfl⟩ | ⟨-, rest⟩ := call_checked_cases ran
  · exact .inl rfl
  cases result with
  | error e =>
      obtain refused | ⟨revision, middle, converted, rest⟩ := call_bind_eq_error.1 rest
      · obtain ⟨-, -, rfl⟩ := call_okOr_eq_error.1 refused
        exact .inl rfl
      obtain ⟨-, rfl⟩ := call_okOr_eq_ok.1 converted
      obtain failed | ⟨n, final, -, done⟩ := call_bind_eq_error.1 rest
      · rw [autocommit_error failed]
        exact .inl rfl
      · cases done
  | ok u =>
      simp only [call_bind_eq_ok, call_okOr_eq_ok, autocommit_eq_ok] at rest
      obtain ⟨revision, _, ⟨-, rfl⟩, n, final, inserted, done⟩ := rest
      cases done
      obtain ⟨-, rfl⟩ | inserted := SqliteStore.insertJobOrIgnore_ok inserted
      · exact .inl rfl
      · obtain ⟨-, -, -, counters, -, rfl⟩ := SqliteStore.insertJob_ok inserted
        exact .inr ⟨revision, rfl⟩

theorem enqueue_jobs_from {id : JobId} {now : OffsetDateTime} {source : ProcessingJob}
    {result : Except JobQueueError Unit} (ran : enqueue id now source s = (result, t)) :
    ∀ job ∈ t.jobs, (∃ before ∈ s.jobs, before.toJobIdentity = job.toJobIdentity) ∨
      Enqueued s (.enqueue id now source) job := by
  intro job member
  obtain same | ⟨revision, added⟩ := enqueue_jobs ran
  · rw [same] at member
    exact .inl ⟨job, member, rfl⟩
  · rw [added] at member
    rcases List.mem_append.1 member with old | new
    · exact .inl ⟨job, old, rfl⟩
    · rw [List.mem_singleton.1 new]
      exact .inr .direct

theorem markQuarantinedAndEnqueue_jobs_from {jobId : JobId} {tenantId : String}
    {uploadId : UploadId} {actualSizeBytes : Nat} {presetId : String} {now : OffsetDateTime}
    {result : Except UploadRepositoryError Unit} (integrity : s.Integrity)
    (ran : markQuarantinedAndEnqueue jobId tenantId uploadId actualSizeBytes presetId now s =
      (result, t)) :
    ∀ job ∈ t.jobs, (∃ before ∈ s.jobs, before.toJobIdentity = job.toJobIdentity) ∨
      Enqueued s (.markQuarantinedAndEnqueue jobId tenantId uploadId actualSizeBytes presetId now)
        job := by
  intro job member
  obtain ⟨rfl, -⟩ | ⟨-, upload, owned, confirmed⟩ := markQuarantinedAndEnqueue_cases integrity ran
  · exact .inl ⟨job, member, rfl⟩
  · obtain ⟨middle, moved, revision, inserted⟩ := confirmed.confirmed
    obtain ⟨-, -, -, counters, -, rfl⟩ := SqliteStore.insertJob_ok inserted
    rcases List.mem_append.1 member with old | new
    · rw [moved.jobs] at old
      exact .inl ⟨job, old, rfl⟩
    · rw [List.mem_singleton.1 new]
      exact .inr (.confirmed moved.member owned confirmed.created)

/-- **Every job was there before under its identity, or is one the operation inserts.** -/
theorem Answers.jobs_from {op : Op} {ok : Bool} (answers : Answers op s ok t)
    (integrity : s.Integrity) :
    ∀ job ∈ t.jobs, (∃ before ∈ s.jobs, before.toJobIdentity = job.toJobIdentity) ∨
      Enqueued s op job := by
  intro job member
  by_cases inserts : Kind.insertJob ∈ op.kinds
  · cases answers with
    | refused => exact .inl ⟨job, member, rfl⟩
    | ran =>
        cases op <;> simp [Op.kinds] at inserts
        case enqueue => exact enqueue_jobs_from rfl job member
        case markQuarantinedAndEnqueue =>
          exact markQuarantinedAndEnqueue_jobs_from integrity rfl job member
  · exact .inl ((answers.effect integrity).jobs_from inserts job member)

end Jobs

/-! ## Where derivatives come from -/

/-- A derivative `op` records. -/
inductive Publishes (s : SqliteStore) : Op → DerivativeRow → Prop
  | published {uploadId : UploadId} {derivatives : List PublishedDerivative} {now : OffsetDateTime}
      {upload : UploadRow} {derivative : PublishedDerivative} (byteLen : Int)
      (member : upload ∈ s.uploads) (named : upload.id = uploadId)
      (working : upload.state = .processing ∨ upload.state = .ready)
      (listed : derivative ∈ derivatives) :
      Publishes s (.publishDerivatives uploadId derivatives now)
        (derivativeRow uploadId derivative byteLen now.unixTimestamp)

section Derivatives

variable {s t : SqliteStore}

theorem publishDerivatives_derivatives_from {uploadId : UploadId}
    {derivatives : List PublishedDerivative} {now : OffsetDateTime}
    {result : Except ProcessingRepositoryError Unit} (integrity : s.Integrity)
    (ran : publishDerivatives uploadId derivatives now s = (result, t)) :
    ∀ row ∈ t.derivatives, row ∈ s.derivatives ∨
      Publishes s (.publishDerivatives uploadId derivatives now) row := by
  intro row member
  obtain ⟨rfl, -⟩ | ⟨rfl, upload, there, named, _, _, -, outcome⟩ :=
    publishDerivatives_cases integrity ran
  · exact .inl member
  · obtain old | ⟨derivative, listed, byteLen, rfl⟩ := publishDerivatives_bound ran row member
    · exact .inl old
    · exact .inr (.published byteLen there named (outcome.imp (·.1) (·.1)) listed)

/-- **Every derivative was there before, or is one the operation publishes.** -/
theorem Answers.derivatives_from {op : Op} {ok : Bool} (answers : Answers op s ok t)
    (integrity : s.Integrity) :
    ∀ row ∈ t.derivatives, row ∈ s.derivatives ∨ Publishes s op row := by
  intro row member
  by_cases publishes : Kind.derivatives ∈ op.kinds
  · cases answers with
    | refused => exact .inl member
    | ran =>
        cases op <;> simp [Op.kinds] at publishes
        case publishDerivatives => exact publishDerivatives_derivatives_from integrity rfl row member
  · left
    refine (answers.effect integrity).keeps (P := fun m => ∀ row ∈ m.derivatives,
      row ∈ s.derivatives) ?_ (fun _ member => member) row member
    intro m u wrote kept row there
    obtain same | ⟨kind, -⟩ | ⟨-, hit, removed⟩ := wrote.derivatives_cases
    · rw [same] at there
      exact kept row there
    · exact absurd kind publishes
    · rw [removed] at there
      exact kept row (mem_deleteWhere.1 there).1

end Derivatives

end MediaBooster.Store
