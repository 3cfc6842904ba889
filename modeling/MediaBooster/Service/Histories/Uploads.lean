/-
# Service.Histories.Uploads -- what the upload service has done before it asks

A batch is recorded under identifiers its thread has drawn, each with the session or the
signed `PUT` of its own key; an upload is confirmed or deleted after it was looked up, found in
the created state, and its bytes or its session were settled with the provider.

`Rule` is stated of threads that draw no identifier twice (`Obeys`), which those of a run are.
-/
import MediaBooster.Service.Asks
import MediaBooster.Service.Histories

namespace MediaBooster.Service

set_option autoImplicit false

open MediaBooster.Domain MediaBooster.Storage MediaBooster.Store MediaBooster.Theory.Threads

namespace UploadIntentService

variable (service : UploadIntentService)

/-- A request that signs a `PUT` of a key. -/
def Signs (key : String) : Ask → Prop
  | .presignPut _ other _ => other = key
  | _ => False

/-- The transfer of an upload was opened: its `PUT` was signed, or its session created. -/
def Opened (past : History) (upload : UploadReservation) : Prop :=
  match upload.transfer with
  | .singlePut => upload.multipartUploadId = none ∧ ∃ contentLength url,
      (⟨.presignPut service.objectStore.bucket upload.objectKey.asStr contentLength, .ok url⟩ :
        Exchange Answer) ∈ past
  | .multipart _ => ∃ session, upload.multipartUploadId = some session ∧
      (⟨.provider (.createMultipartUpload service.objectStore.bucket upload.objectKey.asStr),
        .ok (some session)⟩ : Exchange Answer) ∈ past

/-- A new upload under an identifier that was drawn, with the key of its own. -/
structure Reserves (past : History) (tenantId : String) (upload : UploadReservation) : Prop where
  drawn : identifiers.Drew past upload.uploadId.uuid
  key : upload.objectKey.asStr = rawKeyText tenantId upload.uploadId
  opened : service.Opened past upload
  unsigned : upload.transfer ≠ .singlePut → ∀ exchange ∈ past,
    ¬ Signs upload.objectKey.asStr exchange.1

/-- What the loop over the files of a batch has done. -/
structure Opening (past : History) (tenantId : String) (reservations : List UploadReservation) :
    Prop where
  reserved : ∀ upload ∈ reservations, service.Reserves past tenantId upload
  distinct : (reservations.map UploadReservation.uploadId).Nodup
  signed : ∀ exchange ∈ past, ∀ key, Signs key exchange.1 →
    ∃ upload ∈ reservations, upload.objectKey.asStr = key
  recordless : Recordless past

/-- The upload was looked up. -/
def Found (past : History) (tenantId : String) (uploadId : UploadId)
    (stored : StoredUploadReservation) : Prop :=
  (⟨.store (.findUpload tenantId uploadId), .ok (some stored)⟩ : Exchange Answer) ∈ past

/-- The provider was asked to abort the session, and it is gone. -/
def SessionGone (past : History) (objectKey : ObjectKey) (session : String) : Prop :=
  ∃ answer, (⟨.provider (.abortMultipartUpload service.objectStore.bucket objectKey.asStr session),
    answer⟩ : Exchange Answer) ∈ past ∧ S3CompatibleStore.abortOutcome answer = .ok ()

/-- The bytes of the upload are at the provider, in the length expected. -/
structure Verified (past : History) (stored : StoredUploadReservation) : Prop where
  completed : ∀ partSizeBytes session, multipartLayout stored = .ok (partSizeBytes, session) →
    ∃ parts, (⟨.provider (.completeMultipartUpload service.objectStore.bucket
      stored.objectKey.asStr session parts), .ok ()⟩ : Exchange Answer) ∈ past
  headed : ∃ answer, (⟨.provider (.headObject service.objectStore.bucket stored.objectKey.asStr),
    answer⟩ : Exchange Answer) ∈ past ∧
    S3CompatibleStore.headOutcome answer = .ok stored.expectedSizeBytes

/-- What a thread of the upload service has done before it asks. -/
def Rule (past : History) : Ask → Prop
  | .store (.saveBatch batch _) => Recordless past ∧
      (batch.uploads.map UploadReservation.uploadId).Nodup ∧
      ∀ upload ∈ batch.uploads, service.Reserves past batch.tenantId upload
  | .store (.markQuarantinedAndEnqueue jobId tenantId uploadId actualSizeBytes _ _) =>
      Recordless past ∧ identifiers.Drew past jobId.uuid ∧
      ∃ stored, Found past tenantId uploadId stored ∧ stored.state = .created ∧
        actualSizeBytes = stored.expectedSizeBytes ∧ service.Verified past stored
  | .store (.markDeleted tenantId uploadId _) =>
      ∃ stored partSizeBytes session, Found past tenantId uploadId stored ∧
        stored.state = .created ∧ multipartLayout stored = .ok (partSizeBytes, session) ∧
        service.SessionGone past stored.objectKey session
  | .provider (.completeMultipartUpload _ key session parts) =>
      ∃ tenantId uploadId stored partSizeBytes, Found past tenantId uploadId stored ∧
        stored.state = .created ∧ multipartLayout stored = .ok (partSizeBytes, session) ∧
        key = stored.objectKey.asStr ∧
        validateCompletion stored.expectedSizeBytes partSizeBytes parts = .ok ()
  | .presignPut _ key _ => Recordless past ∧
      ∃ tenantId uuid, identifiers.Drew past uuid ∧ key = rawKeyText tenantId ⟨uuid⟩
  | _ => True

/-- `Rule` of threads that draw no identifier twice. -/
def Obeys (past : History) (request : Ask) : Prop :=
  identifiers.Distinct past → service.Rule past request

/-! ## Reserving -/

section Reserving

variable {service}
variable {past : History} {tenantId : String} {upload : UploadReservation}
variable {reservations : List UploadReservation}

theorem Opened.append {more : History} (opened : service.Opened past upload) :
    service.Opened (past ++ more) upload := by
  unfold Opened at *
  split at opened
  · obtain ⟨none, contentLength, url, member⟩ := opened
    exact ⟨none, contentLength, url, List.mem_append_left _ member⟩
  · obtain ⟨session, named, member⟩ := opened
    exact ⟨session, named, List.mem_append_left _ member⟩

/-- An exchange that signs nothing and records nothing leaves a batch as it is. -/
theorem Opening.append {exchange : Exchange Answer} (opening : service.Opening past tenantId reservations)
    (signsNone : ∀ key, ¬ Signs key exchange.1) (recordsNone : RecordsNone exchange.1) :
    service.Opening (past ++ [exchange]) tenantId reservations where
  reserved := by
    intro upload member
    obtain ⟨drawn, key, opened, unsigned⟩ := opening.reserved upload member
    refine ⟨drawn.append, key, opened.append, fun multipart other there => ?_⟩
    obtain old | new := List.mem_append.1 there
    · exact unsigned multipart other old
    · rw [List.mem_singleton.1 new]
      exact signsNone _
  distinct := opening.distinct
  signed := by
    intro other there key signs
    obtain old | new := List.mem_append.1 there
    · exact opening.signed other old key signs
    · rw [List.mem_singleton.1 new] at signs
      exact absurd signs (signsNone key)
  recordless := opening.recordless.append fun other there => by
    rw [List.mem_singleton.1 there]
    exact recordsNone

/-- Uploads of different identifiers have different keys. -/
theorem Opening.key_fresh (opening : service.Opening past tenantId reservations)
    (fresh : upload.uploadId ∉ reservations.map UploadReservation.uploadId)
    (named : upload.objectKey.asStr = rawKeyText tenantId upload.uploadId)
    {other : UploadReservation} (member : other ∈ reservations) :
    other.objectKey.asStr ≠ upload.objectKey.asStr := by
  intro same
  rw [(opening.reserved other member).key, named] at same
  have ids := rawKeyText_uploadId same
  exact fresh (List.mem_map.2 ⟨other, member, ids⟩)

/-- One more upload is opened. -/
theorem Opening.add {exchange : Exchange Answer} (opening : service.Opening past tenantId reservations)
    (fresh : upload.uploadId ∉ reservations.map UploadReservation.uploadId)
    (drawn : identifiers.Drew past upload.uploadId.uuid)
    (named : upload.objectKey.asStr = rawKeyText tenantId upload.uploadId)
    (opened : service.Opened (past ++ [exchange]) upload)
    (signs : ∀ key, Signs key exchange.1 →
      key = upload.objectKey.asStr ∧ upload.transfer = .singlePut)
    (recordsNone : RecordsNone exchange.1) :
    service.Opening (past ++ [exchange]) tenantId (reservations ++ [upload]) where
  reserved := by
    intro other member
    obtain old | new := List.mem_append.1 member
    · obtain ⟨drawn', key, opened', unsigned⟩ := opening.reserved other old
      refine ⟨drawn'.append, key, opened'.append, fun multipart exchange' there signed => ?_⟩
      obtain before | last := List.mem_append.1 there
      · exact unsigned multipart exchange' before signed
      · rw [List.mem_singleton.1 last] at signed
        exact opening.key_fresh fresh named old (signs _ signed).1
    · rw [List.mem_singleton.1 new]
      refine ⟨drawn.append, named, opened, fun multipart exchange' there signed => ?_⟩
      obtain before | last := List.mem_append.1 there
      · obtain ⟨other', old, same⟩ := opening.signed exchange' before _ signed
        exact opening.key_fresh fresh named old same
      · rw [List.mem_singleton.1 last] at signed
        exact multipart (signs _ signed).2
  distinct := by
    rw [List.map_append, List.map_singleton, List.nodup_append]
    refine ⟨opening.distinct, List.nodup_singleton _, ?_⟩
    rintro id member _ new rfl
    rw [List.mem_singleton.1 new] at member
    exact fresh member
  signed := by
    intro exchange' there key signed
    obtain before | last := List.mem_append.1 there
    · obtain ⟨other, old, same⟩ := opening.signed exchange' before key signed
      exact ⟨other, List.mem_append_left _ old, same⟩
    · rw [List.mem_singleton.1 last] at signed
      exact ⟨upload, List.mem_append_right _ (List.mem_singleton_self _), (signs key signed).1.symm⟩
  recordless := opening.recordless.append fun other there => by
    rw [List.mem_singleton.1 there]
    exact recordsNone

theorem follows_openTransfer {uuid : Uuid} {objectKey : ObjectKey} {file : UploadFileIntent}
    {transfer : UploadTransfer}
    (opening : identifiers.Distinct past → service.Opening past tenantId reservations)
    (fresh : identifiers.Distinct past →
      (⟨uuid⟩ : UploadId) ∉ reservations.map UploadReservation.uploadId)
    (drawn : identifiers.Drew past uuid) (named : objectKey.asStr = rawKeyText tenantId ⟨uuid⟩) :
    (service.openTransfer objectKey file transfer).Follows service.Obeys
      (fun past' result => ∀ session signed, result = .ok (session, signed) →
        identifiers.Distinct past' → service.Opening past' tenantId
          (reservations ++ [⟨⟨uuid⟩, objectKey, file.declaredKind, file.contentLength,
            file.contentTypeHint, transfer, session⟩])) past := by
  cases transfer with
  | singlePut =>
      refine Attempt.follows_bind (Q := fun past' result => ∀ url, result = .ok url →
        past' = past ++ [⟨.presignPut service.objectStore.bucket objectKey.asStr file.contentLength,
          .ok url⟩]) ?_ ?_ ?_
      · refine Attempt.follows_ensure (fun _ => ?_) fun _ url failed => by cases failed
        refine follows_bind.2 ⟨fun distinct => ?_, fun answer url answered => ?_⟩
        · exact ⟨(opening distinct).recordless, tenantId, uuid, drawn, named⟩
        · cases answer with
          | ok url' =>
              cases answered
              rfl
          | error message => cases answered
      · intro past' url signed session signed' same distinct
        cases same
        obtain rfl := signed url rfl
        have before := distinct.of_append
        refine (opening before).add (fresh before) drawn named ?_ ?_ rfl
        · exact ⟨rfl, _, _, List.mem_append_right _ (List.mem_singleton_self _)⟩
        · intro key signs
          exact ⟨signs.symm, rfl⟩
      · intro past' error _ session signed same
        cases same
  | multipart partSizeBytes =>
      refine Attempt.follows_bind (Q := fun past' result => ∀ session, result = .ok session →
        past' = past ++ [⟨.provider (.createMultipartUpload service.objectStore.bucket
          objectKey.asStr), .ok (some session)⟩]) ?_ ?_ ?_
      · refine follows_sent (fun _ => trivial) (fun output => ?_) fun error session failed => by
          cases failed
        cases output with
        | none =>
            intro session failed
            cases failed
        | some session =>
            intro session' same
            cases same
            rfl
      · intro past' session created session' signed same distinct
        cases same
        obtain rfl := created session rfl
        have before := distinct.of_append
        refine (opening before).add (fresh before) drawn named ?_ ?_ rfl
        · exact ⟨session, rfl, List.mem_append_right _ (List.mem_singleton_self _)⟩
        · intro key signs
          exact signs.elim
      · intro past' error _ session signed same
        cases same

theorem follows_cleanup (reservations : List UploadReservation) :
    Follows service.Obeys (fun _ _ => True) past (service.cleanup reservations) := by
  have only : (service.cleanup reservations).Only fun request =>
      ∃ bucket key uploadId, request = .provider (.abortMultipartUpload bucket key uploadId) :=
    service.only_cleanup (fun key uploadId => ⟨_, key, uploadId, rfl⟩) reservations
  refine follows_only (K := fun _ => True) only (fun _ _ _ _ _ => trivial) ?_ trivial
  rintro past request - ⟨bucket, key, uploadId, rfl⟩ -
  exact trivial

theorem follows_reserveFiles (files : List (UploadFileIntent × UploadTransfer))
    (outputs : List CreatedUploadIntent)
    (opening : identifiers.Distinct past → service.Opening past tenantId reservations) :
    (service.reserveFiles tenantId files reservations outputs).Follows service.Obeys
      (fun past' result => ∀ all, result.map Prod.fst = .ok all →
        identifiers.Distinct past' → service.Opening past' tenantId all) past := by
  induction files generalizing past reservations outputs with
  | nil =>
      intro all same
      cases same
      exact opening
  | cons intent files ih =>
      obtain ⟨file, transfer⟩ := intent
      unfold reserveFiles
      refine follows_drawId (fun _ => trivial) fun uuid => ?_
      have drew := drew_drawn past uuid
      have opened : identifiers.Distinct (past ++ [⟨.drawId, uuid⟩]) →
          service.Opening (past ++ [⟨.drawId, uuid⟩]) tenantId reservations :=
        fun distinct => (opening distinct.of_append).append (fun _ signs => signs.elim) rfl
      have fresh : identifiers.Distinct (past ++ [⟨.drawId, uuid⟩]) →
          (⟨uuid⟩ : UploadId) ∉ reservations.map UploadReservation.uploadId := by
        intro distinct member
        obtain ⟨before, new⟩ := TokenUse.distinct_append.1 distinct
        obtain ⟨upload, there, same⟩ := List.mem_map.1 member
        have drawn := ((opening before).reserved upload there).drawn
        rw [same] at drawn
        exact new uuid rfl drawn
      refine Attempt.follows_okOr (fun objectKey made => ?_) fun _ all same => by cases same
      have named := ObjectKey.new_asStr made
      refine Attempt.follows_lifted (follows_openTransfer opened fresh drew named) ?_
      intro past' result holds
      cases result with
      | ok pair =>
          obtain ⟨session, signed⟩ := pair
          exact ih _ (holds session signed rfl)
      | error error =>
          refine Attempt.follows_lifted (follows_cleanup reservations) fun past _ _ => ?_
          intro all same
          cases same

/-- **Batches are reserved under identifiers of their own.** -/
theorem follows_createBatch (request : CreateUploadBatch) :
    (service.createBatch request).Follows service.Obeys (fun _ _ => True) [] := by
  unfold createBatch
  refine Attempt.follows_ensure (fun _ => ?_) fun _ => trivial
  refine Attempt.follows_ofExcept (fun _ _ => ?_) fun _ _ => trivial
  refine Attempt.follows_ofExcept (fun transfers _ => ?_) fun _ _ => trivial
  refine Attempt.follows_okOr (fun additional _ => ?_) fun _ => trivial
  refine Attempt.follows_ensure (fun _ => ?_) fun _ => trivial
  refine follows_call (fun _ => trivial) (fun allowed => ?_) fun _ => trivial
  refine Attempt.follows_ensure (fun _ => ?_) fun _ => trivial
  refine follows_drawId (fun _ => trivial) fun batchId => ?_
  refine follows_now (fun _ => trivial) fun createdAt => ?_
  refine Attempt.follows_bind (follows_reserveFiles _ _ fun _ => ?_) ?_ fun _ _ _ => trivial
  · refine ⟨by simp, List.nodup_nil, ?_, ?_⟩
    · intro exchange member key signs
      simp only [List.nil_append, List.cons_append, List.mem_cons, List.not_mem_nil, or_false]
        at member
      obtain rfl | rfl | rfl := member <;> exact signs.elim
    · intro exchange member
      simp only [List.nil_append, List.cons_append, List.mem_cons, List.not_mem_nil, or_false]
        at member
      obtain rfl | rfl | rfl := member <;> rfl
  · rintro past ⟨reservations, outputs⟩ opened
    refine Attempt.follows_lifted (Q := fun _ _ => True) ⟨fun distinct => ?_, fun _ => trivial⟩ ?_
    · have opening := opened reservations rfl distinct
      exact ⟨opening.recordless, opening.distinct, opening.reserved⟩
    · intro past saved _
      cases saved with
      | ok => trivial
      | error error =>
          exact Attempt.follows_lifted (follows_cleanup reservations) fun _ _ _ => trivial

end Reserving

/-! ## Confirming and aborting -/

section Confirming

variable {service} {α : Type} {post : History → Except MultipartControlError α → Prop}
variable {past : History} {tenantId : String} {uploadId : UploadId}
variable {stored : StoredUploadReservation}

theorem Found.append {more : History} (found : Found past tenantId uploadId stored) :
    Found (past ++ more) tenantId uploadId stored := List.mem_append_left _ found

theorem recordless_single {request : Ask} {answer : Answer request}
    (quiet : RecordsNone request) : Recordless [⟨request, answer⟩] := by
  intro exchange member
  rw [List.mem_singleton.1 member]
  exact quiet

theorem follows_findStored {next : StoredUploadReservation → Action MultipartControlError α}
    (rest : ∀ stored, (next stored).Follows service.Obeys post
      (past ++ [⟨.store (.findUpload tenantId uploadId), .ok (some stored)⟩]))
    (fails : ∀ past error, post past (.error error)) :
    (findStored tenantId uploadId >>= next).Follows service.Obeys post past := by
  refine Attempt.follows_bind (Q := fun past' result => ∀ stored, result = .ok stored →
    past' = past ++ [⟨.store (.findUpload tenantId uploadId), .ok (some stored)⟩]) ?_ ?_ ?_
  · refine follows_call (fun _ => trivial) (fun found => ?_) fun error stored failed => by
      cases failed
    cases found with
    | none =>
        intro stored failed
        cases failed
    | some there =>
        intro stored same
        cases same
        rfl
  · intro past' stored looked
    rw [looked stored rfl]
    exact rest stored
  · exact fun past' error _ => fails past' error

theorem follows_verifyStoredSize :
    (service.verifyStoredSize stored).Follows service.Obeys (fun past' result => result = .ok () →
      ∃ answer, S3CompatibleStore.headOutcome answer = .ok stored.expectedSizeBytes ∧
        past' = past ++ [⟨.provider (.headObject service.objectStore.bucket
          stored.objectKey.asStr), answer⟩]) past := by
  unfold verifyStoredSize
  refine Attempt.follows_bind (Q := fun past' result => ∀ contentLength,
    result = .ok contentLength → ∃ answer,
      S3CompatibleStore.headOutcome answer = .ok contentLength ∧ past' = past ++
        [⟨.provider (.headObject service.objectStore.bucket stored.objectKey.asStr), answer⟩]) ?_ ?_ ?_
  · refine Attempt.follows_mapError ⟨fun _ => trivial, fun answer contentLength outcome => ?_⟩
    refine ⟨answer, ?_, rfl⟩
    cases headed : S3CompatibleStore.headOutcome answer with
    | ok length =>
        rw [headed] at outcome
        cases outcome
        rfl
    | error error =>
        rw [headed] at outcome
        cases outcome
  · intro past' contentLength headed
    cases same : contentLength == stored.expectedSizeBytes with
    | false =>
        intro failed
        cases failed
    | true =>
        intro _
        rw [← beq_iff_eq.1 same]
        exact headed contentLength rfl
  · intro past' error _ failed
    cases failed

theorem follows_confirmStored (recordless : Recordless past)
    (found : Found past tenantId uploadId stored) (created : stored.state = .created)
    (completed : ∀ partSizeBytes session, multipartLayout stored = .ok (partSizeBytes, session) →
      ∃ parts, (⟨.provider (.completeMultipartUpload service.objectStore.bucket
        stored.objectKey.asStr session parts), .ok ()⟩ : Exchange Answer) ∈ past) :
    (service.confirmStored tenantId uploadId stored).Follows service.Obeys (fun _ _ => True) past := by
  refine Attempt.follows_bind follows_verifyStoredSize ?_ fun _ _ _ => trivial
  intro _ _ verified
  obtain ⟨answer, outcome, rfl⟩ := verified rfl
  refine follows_drawId (fun _ => trivial) fun jobId => ?_
  refine follows_now (fun _ => trivial) fun confirmedAt => ?_
  refine Attempt.follows_mapError ⟨fun _ => ?_, fun _ => trivial⟩
  refine ⟨?_, ?_, stored, found.append.append.append, created, rfl, ?_, answer, ?_, outcome⟩
  · refine ((recordless.append ?_).append ?_).append ?_ <;> exact recordless_single rfl
  · exact (drew_drawn _ jobId).append
  · intro partSizeBytes session layout
    obtain ⟨parts, member⟩ := completed partSizeBytes session layout
    exact ⟨parts, List.mem_append_left _ (List.mem_append_left _ (List.mem_append_left _ member))⟩
  · simp

theorem follows_completeMultipart (parts : List CompletedPart) :
    (service.completeMultipart tenantId uploadId parts).Follows service.Obeys (fun _ _ => True) [] := by
  unfold completeMultipart
  refine Attempt.follows_ensure (fun _ => ?_) fun _ => trivial
  refine follows_findStored (fun stored => ?_) fun _ _ => trivial
  refine Attempt.follows_ofExcept (fun layout layoutOk => ?_) fun _ _ => trivial
  obtain ⟨partSizeBytes, session⟩ := layout
  have found : Found ([] ++ [⟨.store (.findUpload tenantId uploadId), .ok (some stored)⟩]) tenantId
    uploadId stored := List.mem_append_right _ (List.mem_singleton_self _)
  have recordless : Recordless ([] ++ [⟨.store (.findUpload tenantId uploadId), .ok (some stored)⟩]) :=
    recordless_single rfl
  generalize ([] ++ [_] : History) = past at found recordless ⊢
  show Attempt.Follows _ _ _ (ite _ _ _)
  split
  · exact Attempt.Follows.weaken follows_verifyStoredSize fun _ _ _ => trivial
  refine Attempt.follows_ensure (fun created => ?_) fun _ => trivial
  rw [beq_iff_eq] at created
  refine Attempt.follows_ofExcept (fun _ valid => ?_) fun _ _ => trivial
  refine Attempt.follows_bind (Q := fun past' result => result = .ok () → past' = past ++
    [⟨.provider (.completeMultipartUpload service.objectStore.bucket stored.objectKey.asStr session
      parts), .ok ()⟩]) ?_ ?_ fun _ _ _ => trivial
  · refine Attempt.follows_mapError (Attempt.follows_ofExcept (fun _ _ => ?_) fun _ _ failed => ?_)
    · refine Attempt.follows_mapError ⟨fun _ => ?_, fun answer completed => ?_⟩
      · exact ⟨tenantId, uploadId, stored, partSizeBytes, found, created, layoutOk, rfl, valid⟩
      · cases answer with
        | ok => rfl
        | error => cases completed
    · cases failed
  · intro past' _ completed
    rw [completed rfl]
    refine follows_confirmStored (recordless.append (recordless_single rfl)) found.append created ?_
    intro partSizeBytes' session' same
    rw [layoutOk] at same
    cases same
    exact ⟨parts, List.mem_append_right _ (List.mem_singleton_self _)⟩

theorem follows_confirmSingleUpload :
    (service.confirmSingleUpload tenantId uploadId).Follows service.Obeys (fun _ _ => True) [] := by
  unfold confirmSingleUpload
  refine Attempt.follows_ensure (fun _ => ?_) fun _ => trivial
  refine follows_findStored (fun stored => ?_) fun _ _ => trivial
  refine Attempt.follows_ensure (fun single => ?_) fun _ => trivial
  rw [beq_iff_eq] at single
  split
  · exact Attempt.Follows.weaken follows_verifyStoredSize fun _ _ _ => trivial
  refine Attempt.follows_ensure (fun created => ?_) fun _ => trivial
  refine follows_confirmStored (recordless_single rfl)
    (List.mem_append_right _ (List.mem_singleton_self _)) (beq_iff_eq.1 created) ?_
  intro partSizeBytes session layout
  unfold multipartLayout at layout
  rw [single] at layout
  cases layout

theorem follows_abortMultipart :
    (service.abortMultipart tenantId uploadId).Follows service.Obeys (fun _ _ => True) [] := by
  unfold abortMultipart
  refine Attempt.follows_ensure (fun _ => ?_) fun _ => trivial
  refine follows_findStored (fun stored => ?_) fun _ _ => trivial
  refine Attempt.follows_ofExcept (fun layout layoutOk => ?_) fun _ _ => trivial
  obtain ⟨partSizeBytes, session⟩ := layout
  have found : Found ([] ++ [⟨.store (.findUpload tenantId uploadId), .ok (some stored)⟩]) tenantId
    uploadId stored := List.mem_append_right _ (List.mem_singleton_self _)
  generalize ([] ++ [_] : History) = past at found ⊢
  show Attempt.Follows _ _ _ (ite _ _ _)
  split
  · trivial
  refine Attempt.follows_ensure (fun created => ?_) fun _ => trivial
  rw [beq_iff_eq] at created
  refine Attempt.follows_bind (Q := fun past' result => result = .ok () → ∃ answer,
    S3CompatibleStore.abortOutcome answer = .ok () ∧ past' = past ++
      [⟨.provider (.abortMultipartUpload service.objectStore.bucket stored.objectKey.asStr session),
        answer⟩]) ?_ ?_ fun _ _ _ => trivial
  · refine Attempt.follows_mapError ⟨fun _ => trivial, fun answer aborted => ⟨answer, ?_, rfl⟩⟩
    cases outcome : S3CompatibleStore.abortOutcome answer with
    | ok => rfl
    | error error =>
        rw [outcome] at aborted
        cases aborted
  · intro past' _ aborted
    obtain ⟨answer, outcome, rfl⟩ := aborted rfl
    refine follows_now (fun _ => trivial) fun abortedAt => ?_
    refine Attempt.follows_mapError ⟨fun _ => ?_, fun _ => trivial⟩
    refine ⟨stored, partSizeBytes, session, found.append.append, created, layoutOk, answer, ?_, outcome⟩
    exact List.mem_append_left _ (List.mem_append_right _ (List.mem_singleton_self _))

theorem follows_presignPart (partNumber contentLength : Nat) :
    (service.presignPart tenantId uploadId partNumber contentLength).Follows service.Obeys
      (fun _ _ => True) [] := by
  unfold presignPart
  refine Attempt.follows_ensure (fun _ => ?_) fun _ => trivial
  refine follows_findStored (fun stored => ?_) fun _ _ => trivial
  refine Attempt.follows_ofExcept (fun layout _ => ?_) fun _ _ => trivial
  obtain ⟨partSizeBytes, session⟩ := layout
  refine Attempt.follows_ensure (fun _ => ?_) fun _ => trivial
  refine Attempt.follows_ensure (fun _ => ?_) fun _ => trivial
  refine Attempt.follows_mapError (Attempt.follows_ofExcept (fun _ _ => ?_) fun _ _ => trivial)
  exact Attempt.follows_mapError ⟨fun _ => trivial, fun _ => trivial⟩

end Confirming

end UploadIntentService

end MediaBooster.Service
