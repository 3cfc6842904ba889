/-
# Delivery.Ready -- which ready uploads are delivered

`from_status` asks again for what the worker published: one master and one thumbnail, of one
preset, with lengths, in content types it knows.  A ready upload of the system is complete, so
that all of this holds of the status read back, the content type of the master excepted: the
worker stores a video under the type the sandbox detected.

* `ready_delivered_iff`: in every run, the status of a ready upload whose attempts are uniform is
  a manifest exactly when no deletion is asked for and the type of its master is delivered; the
  manifest then has both derivatives, under the keys that were stored.
-/
import MediaBooster.Delivery.Manifest
import MediaBooster.Processing.Ready

namespace MediaBooster.Delivery

set_option autoImplicit false

open MediaBooster.Domain MediaBooster.Service MediaBooster.Processing MediaBooster.Store
open MediaBooster.Theory.Run MediaBooster.Theory.Table MediaBooster.Theory.Threads

/-- A row of a derivative as it is read back. -/
def readBack (row : DerivativeRow) : StoredDerivative :=
  ⟨row.presetId, row.variant, row.objectKey, row.contentType, row.byteLen.toNat⟩

section Reading

variable {d : Deployment} {s : SystemState} {upload : UploadRow} {master thumbnail : DerivativeRow}

theorem storedDerivative_of_bounded {row : DerivativeRow} {byteLen : Nat}
    (same : row.byteLen = byteLen) (fits : (byteLen : Int) ≤ i64Max) :
    storedDerivative row = .ok (readBack row) := by
  have converted : u64TryFrom row.byteLen = some byteLen := by
    rw [same]
    refine Domain.u64TryFrom_eq_some.2 ⟨rfl, ?_⟩
    unfold i64Max at fits
    omega
  unfold storedDerivative
  rw [converted]
  simp only [readBack, same, Int.toNat_natCast]

/-- The derivatives of a complete upload are read in the order of their variants. -/
theorem derivativeRows_of_complete (complete : Complete d s upload master thumbnail) :
    derivativeRows upload.id s.shared.store = [master, thumbnail] := by
  have ordered : derivativeOrder master ≤ derivativeOrder thumbnail := by
    simp only [derivativeOrder, complete.variants.1, complete.variants.2, complete.preset.1,
      Prod.Lex.toLex_le_toLex, lt_irrefl, true_and, false_or]
    decide
  have rows := complete.rows
  unfold derivativesOf at rows
  simp [derivativeRows, rows, ordered]

/-- **The status of a complete upload** has the two derivatives, unless its deletion is asked
for. -/
theorem findStatus_of_complete (complete : Complete d s upload master thumbnail)
    (integrity : s.shared.store.Integrity) (member : upload ∈ s.shared.store.uploads) :
    findStatus upload.tenantId upload.id s.shared.store =
      (.ok (some (statusOf upload [readBack master, readBack thumbnail])), s.shared.store) := by
  have found : s.shared.store.uploads.find? (ownedUpload upload.tenantId upload.id) = some upload := by
    cases there : s.shared.store.uploads.find? (ownedUpload upload.tenantId upload.id) with
    | none => exact absurd (ownedUpload_iff.2 ⟨rfl, rfl⟩) (List.find?_eq_none.1 there upload member)
    | some row =>
        have owned := ownedUpload_iff.1 (List.find?_some there)
        rw [integrity.uploadIds.eq_of_key (List.mem_of_find?_eq_some there) member owned.2]
  obtain ⟨i, configuration, -, stored⟩ := complete.stored
  obtain ⟨a, first, -, fits, -⟩ := stored master List.mem_cons_self
  obtain ⟨b, second, -, fits', -⟩ := stored thumbnail (List.mem_cons_of_mem _ List.mem_cons_self)
  unfold findStatus
  rw [Theory.Transaction.call_readOr_eq, found]
  simp only [derivativeRows_of_complete complete, List.mapM_cons, List.mapM_nil,
    storedDerivative_of_bounded first fits, storedDerivative_of_bounded second fits']
  rfl

/-- **When a complete upload is delivered.** -/
theorem fromStatus_of_complete (complete : Complete d s upload master thumbnail)
    (ready : upload.state = .ready) :
    fromStatus (statusOf upload [readBack master, readBack thumbnail]) =
      if upload.deleteRequestedAt = none ∧ master.contentType ∈ masterContentTypes then
        .ok ⟨[readBack master, readBack thumbnail]⟩
      else .error .notReady := by
  obtain ⟨i, configuration, -, stored⟩ := complete.stored
  obtain ⟨a, first, positive, -⟩ := stored master List.mem_cons_self
  obtain ⟨b, second, positive', -⟩ := stored thumbnail (List.mem_cons_of_mem _ List.mem_cons_self)
  have long : 0 < (readBack master).byteLen ∧ 0 < (readBack thumbnail).byteLen := by
    simp only [readBack, first, second, Int.toNat_natCast]
    exact ⟨positive, positive'⟩
  cases asked : upload.deleteRequestedAt with
  | some at_ =>
      simp [fromStatus, statusOf, asked, ready]
  | none =>
      have status : statusOf upload [readBack master, readBack thumbnail] =
          ⟨upload.id, .ready, upload.detectedContentType, upload.errorCode, false,
            [readBack master, readBack thumbnail]⟩ := by
        simp [statusOf, asked, ready]
      have masterVariant : (readBack master).variant = "master" := complete.variants.1
      have thumbnailVariant : (readBack thumbnail).variant = "thumbnail" := complete.variants.2
      have kind : (readBack thumbnail).contentType = "image/jpeg" := complete.kinds.1
      have same : (readBack thumbnail).presetId = (readBack master).presetId := complete.preset.1
      have valid : narrowToken (readBack master).presetId 128 = true := complete.preset.2
      have type : (readBack master).contentType = master.contentType := rfl
      rw [status]
      generalize readBack master = a at *
      generalize readBack thumbnail = b at *
      simp only [fromStatus, masterVariant, thumbnailVariant, kind, same, valid, type, long,
        isDeliverable, List.filter_cons, List.filter_nil, List.all_cons, List.all_nil]
      by_cases delivered : master.contentType ∈ masterContentTypes
      · simp [delivered]
      · simp [delivered]

/-- **Which ready uploads are delivered.**  In every run, the status of a ready upload whose
attempts are uniform is that of its master and its thumbnail, and `from_status` takes it, whole,
exactly when no deletion is asked for and the master's content type, JPEG or what was detected, is
one that is delivered. -/
theorem ready_delivered_iff {clock : OffsetDateTime} {labels : List SystemLabel}
    (run : Trace d.machine.Step (.initial (.fresh clock)) labels s)
    (member : upload ∈ s.shared.store.uploads) (ready : upload.state = .ready)
    (uniform : Uniform s upload.id) :
    ∃ master thumbnail, Complete d s upload master thumbnail ∧
      ∃ status, findStatus upload.tenantId upload.id s.shared.store =
        (.ok (some status), s.shared.store) ∧
        loadManifest ⟨upload.tenantId, upload.id⟩ (.ok (some status)) =
          if upload.deleteRequestedAt = none ∧ master.contentType ∈ masterContentTypes then
            .ok ⟨[readBack master, readBack thumbnail]⟩
          else .error .notReady := by
  obtain ⟨⟨pins, pinned⟩, paired⟩ := run_paired run
  obtain ⟨master, thumbnail, complete⟩ :=
    paired.complete pinned (run_factual run) member ready uniform
  refine ⟨master, thumbnail, complete, _,
    findStatus_of_complete complete pinned.recorded.integrity member, ?_⟩
  have own : (statusOf upload [readBack master, readBack thumbnail]).uploadId = upload.id := rfl
  simp only [loadManifest, own, ne_eq, not_true, if_false]
  exact fromStatus_of_complete complete ready

/-- The sample of the overtaken worker is delivered. -/
theorem ready_delivered_iff_sample : ∃ s : SystemState, ∃ upload ∈ s.shared.store.uploads,
    ∃ status manifest, findStatus upload.tenantId upload.id s.shared.store =
      (.ok (some status), s.shared.store) ∧
        loadManifest ⟨upload.tenantId, upload.id⟩ (.ok (some status)) = .ok manifest ∧
          manifest.derivatives.length = 2 := by
  obtain ⟨labels, labels', s, t, run, -, holds⟩ := overtaking_reached
  simp only [overtaking, isPlain, Bool.and_eq_true, List.all_eq_true, beq_iff_eq] at holds
  obtain ⟨⟨⟨here, -⟩, -, unasked, jpegs⟩, plain, -⟩ := holds
  obtain ⟨upload, member, named, ready⟩ := ready_of_isReady here
  obtain ⟨master, thumbnail, complete, status, found, loaded⟩ :=
    ready_delivered_iff run member ready (uniform_of_plain plain upload.id)
  have listed : master ∈ derivativesOf upload.id s.shared.store := by
    rw [complete.rows]
    exact List.mem_cons_self
  have jpeg := jpegs master (List.mem_of_mem_filter listed)
  rw [if_pos ⟨unasked upload member, by rw [jpeg]; decide⟩] at loaded
  exact ⟨s, upload, member, status, _, found, loaded, rfl⟩

end Reading

end MediaBooster.Delivery
