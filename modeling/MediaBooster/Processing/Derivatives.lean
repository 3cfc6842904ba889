/-
# Processing.Derivatives -- what is published stays published

`publish_derivatives` records the complete immutable derivative set of an upload, and
the same call is the replay of a publication.  Row by row it inserts an identity the
table does not have and compares the facts of one it has; whether the upload is already
ready it does not ask before inserting.

* `published_immutable`: in every run in which a publication for a ready upload names
  stored identities only, no step changes the derivatives of a ready upload, the replay
  of a contained set succeeds and changes nothing, and a set that is not contained fails
  and changes nothing.
* `extra_variant_published`: a set with one more variant is accepted for a ready upload,
  and adds it.
-/
import MediaBooster.Store.Rows

namespace MediaBooster.Processing

set_option autoImplicit false

open MediaBooster.Domain MediaBooster.Store MediaBooster.Theory.Run MediaBooster.Theory.Table
open MediaBooster.Theory.Transaction

/-! ## Stored facts -/

/-- The upload has a derivative of that preset and variant. -/
def Named (store : SqliteStore) (uploadId : UploadId) (derivative : PublishedDerivative) : Prop :=
  ∃ row ∈ store.derivatives, row.identity = (uploadId, derivative.presetId, derivative.variant)

/-- The upload has that very derivative. -/
def Contained (store : SqliteStore) (uploadId : UploadId) (derivative : PublishedDerivative) :
    Prop :=
  ∃ row ∈ store.derivatives, row.identity = (uploadId, derivative.presetId, derivative.variant) ∧
    row.objectKey = derivative.objectKey ∧ row.contentType = derivative.contentType ∧
      row.sha256 = derivative.sha256 ∧ i64TryFrom derivative.byteLen = some row.byteLen

/-- The derivatives of one upload. -/
def derivativesOf (uploadId : UploadId) (store : SqliteStore) : List DerivativeRow :=
  store.derivatives.filter fun row => row.uploadId == uploadId

section Calls

variable {s t : SqliteStore}

theorem find?_identity (integrity : s.Integrity) {row : DerivativeRow} (member : row ∈ s.derivatives)
    {identity : UploadId × String × String} (same : row.identity = identity) :
    s.derivatives.find? (fun other => other.identity == identity) = some row := by
  have found := find?_eq_some_of_key integrity.derivativeIds member
  rw [same] at found
  have asked : (fun other : DerivativeRow => decide (other.identity = identity)) =
      fun other => other.identity == identity := by
    funext other
    by_cases is : other.identity = identity <;> simp [is]
  rwa [asked] at found

/-- A derivative whose identity is stored is published exactly when it is contained, and
then nothing changes. -/
theorem publishDerivative_named {uploadId : UploadId} {now : Int}
    {derivative : PublishedDerivative} {u : Unit} (integrity : s.Integrity)
    (named : Named s uploadId derivative)
    (ran : publishDerivative uploadId now derivative s = .ok (u, t)) :
    t = s ∧ Contained s uploadId derivative := by
  obtain ⟨row, member, same⟩ := named
  simp only [publishDerivative, bind_eq_ok, okOr_eq_ok, execute_eq_ok, ensure_eq_ok] at ran
  obtain ⟨byteLen, _, ⟨sized, rfl⟩, n, after, upserted, one, rfl⟩ := ran
  simp only [SqliteStore.upsertDerivative, except_bind_eq_ok, require_eq_ok] at upserted
  obtain ⟨-, -, upserted⟩ := upserted
  have found := find?_identity integrity member same
  have asked : (derivativeRow uploadId derivative byteLen now).identity =
      (uploadId, derivative.presetId, derivative.variant) := rfl
  rw [asked, found] at upserted
  dsimp only at upserted
  split at upserted
  · rename_i facts
    cases upserted
    refine ⟨rfl, row, member, same, facts.1, facts.2.1, facts.2.2.2, ?_⟩
    rw [sized, facts.2.2.1]
    rfl
  · cases upserted
    cases one

/-- A contained derivative is published, and nothing changes. -/
theorem publishDerivative_contained {uploadId : UploadId} {now : Int}
    {derivative : PublishedDerivative} (integrity : s.Integrity) (kept : Kept s)
    (contained : Contained s uploadId derivative) :
    publishDerivative uploadId now derivative s = .ok ((), s) := by
  obtain ⟨row, member, same, key, contentType, sha256, sized⟩ := contained
  have bound : (derivativeRow uploadId derivative row.byteLen now).identity = row.identity :=
    same.symm
  have again : derivativeRow uploadId derivative row.byteLen now = { row with createdAt := now } := by
    have uploads : row.uploadId = uploadId := congrArg (·.1) same
    have presets : row.presetId = derivative.presetId := congrArg (·.2.1) same
    have variants : row.variant = derivative.variant := congrArg (·.2.2) same
    simp only [derivativeRow, ← uploads, ← presets, ← variants, ← key, ← contentType, ← sha256]
  have checked : derivativeChecks (derivativeRow uploadId derivative row.byteLen now) = true := by
    rw [again]
    exact kept.derivatives row member
  have upserted : SqliteStore.upsertDerivative
      (derivativeRow uploadId derivative row.byteLen now) s = .ok (1, s) := by
    simp only [SqliteStore.upsertDerivative, except_bind_eq_ok, require_eq_ok]
    refine ⟨(), checked, ?_⟩
    rw [bound, find?_identity integrity member rfl]
    dsimp only
    rw [if_pos ⟨key, contentType, rfl, sha256⟩]
    rfl
  simp only [publishDerivative, bind_eq_ok, okOr_eq_ok, execute_eq_ok, ensure_eq_ok]
  exact ⟨row.byteLen, s, ⟨sized, rfl⟩, 1, s, upserted, rfl, rfl⟩

theorem publishAll_named {uploadId : UploadId} {now : Int} {derivatives : List PublishedDerivative}
    {u : Unit} (integrity : s.Integrity) (named : ∀ d ∈ derivatives, Named s uploadId d)
    (ran : derivatives.forM (publishDerivative uploadId now) s = .ok (u, t)) :
    t = s ∧ ∀ d ∈ derivatives, Contained s uploadId d := by
  induction derivatives with
  | nil =>
      obtain ⟨-, rfl⟩ := pure_eq_ok.1 ran
      exact ⟨rfl, fun _ member => nomatch member⟩
  | cons derivative derivatives ih =>
      obtain ⟨_, middle, first, rest⟩ := bind_eq_ok.1 ran
      obtain ⟨rfl, contained⟩ :=
        publishDerivative_named integrity (named derivative List.mem_cons_self) first
      obtain ⟨same, others⟩ := ih (fun d member => named d (List.mem_cons_of_mem _ member)) rest
      refine ⟨same, fun d member => ?_⟩
      rcases List.mem_cons.1 member with rfl | later
      · exact contained
      · exact others d later

theorem publishAll_contained {uploadId : UploadId} {now : Int}
    {derivatives : List PublishedDerivative} (integrity : s.Integrity) (kept : Kept s)
    (contained : ∀ d ∈ derivatives, Contained s uploadId d) :
    derivatives.forM (publishDerivative uploadId now) s = .ok ((), s) := by
  induction derivatives with
  | nil => rfl
  | cons derivative derivatives ih =>
      refine bind_eq_ok.2 ⟨(), s, ?_, ih fun d member => contained d (List.mem_cons_of_mem _ member)⟩
      exact publishDerivative_contained integrity kept (contained derivative List.mem_cons_self)

theorem Contained.named {uploadId : UploadId} {derivative : PublishedDerivative}
    (contained : Contained s uploadId derivative) : Named s uploadId derivative := by
  obtain ⟨row, member, same, -⟩ := contained
  exact ⟨row, member, same⟩

/-- The arguments `publish_derivatives` accepts before it looks at the store. -/
def Publishable (derivatives : List PublishedDerivative) : Prop :=
  (!derivatives.isEmpty && decide (derivatives.length ≤ 16)) = true ∧
    validateDerivatives [] derivatives = .ok ()

/-- The replay of a contained set succeeds and changes nothing. -/
theorem publishDerivatives_contained {upload : UploadRow} {derivatives : List PublishedDerivative}
    {now : OffsetDateTime} (integrity : s.Integrity) (kept : Kept s) (member : upload ∈ s.uploads)
    (ready : upload.state = .ready) (publishable : Publishable derivatives)
    (contained : ∀ d ∈ derivatives, Contained s upload.id d) :
    publishDerivatives upload.id derivatives now s = (.ok (), s) := by
  have found := find?_eq_some_of_key integrity.uploadIds member
  simp only [publishDerivatives, call_bind_eq_ok, call_ensure_eq_ok, call_readOr_eq, Prod.mk.injEq,
    commit_eq_ok, publishTransaction, bind_eq_ok, select_eq_ok, okOr_eq_ok, ensure_eq_ok]
  refine ⟨(), s, ⟨publishable.1, rfl⟩, (), s, ⟨publishable.2, rfl⟩, some upload, s, ⟨found, rfl⟩,
    upload, s, ⟨rfl, rfl⟩, (), s, ⟨by simp [ready], rfl⟩, (), s,
    publishAll_contained integrity kept contained, ?_⟩
  rw [if_neg (by simp [ready])]
  rfl

/-- A set that names stored identities only is published for a ready upload exactly when it
is contained, and then nothing changes. -/
theorem publishDerivatives_named_ok {upload : UploadRow} {derivatives : List PublishedDerivative}
    {now : OffsetDateTime} {u : Unit} (integrity : s.Integrity) (member : upload ∈ s.uploads)
    (ready : upload.state = .ready) (named : ∀ d ∈ derivatives, Named s upload.id d)
    (ran : publishDerivatives upload.id derivatives now s = (.ok u, t)) :
    t = s ∧ ∀ d ∈ derivatives, Contained s upload.id d := by
  have found := find?_eq_some_of_key integrity.uploadIds member
  simp only [publishDerivatives, call_bind_eq_ok, call_ensure_eq_ok, call_readOr_eq, Prod.mk.injEq,
    commit_eq_ok, publishTransaction, bind_eq_ok, select_eq_ok, okOr_eq_ok, ensure_eq_ok] at ran
  obtain ⟨_, _, ⟨-, rfl⟩, _, _, ⟨-, rfl⟩, _, _, ⟨stored, rfl⟩, row, _, ⟨loaded, rfl⟩, _, _,
    ⟨-, rfl⟩, _, middle, all, last⟩ := ran
  obtain ⟨rfl, contained⟩ := publishAll_named integrity named all
  have is : row = upload := Option.some.inj (loaded.symm.trans (stored.symm.trans found))
  rw [is, if_neg (by simp [ready])] at last
  obtain ⟨-, rfl⟩ := pure_eq_ok.1 last
  exact ⟨rfl, contained⟩

/-- A set that names stored identities only and is not contained fails and changes nothing. -/
theorem publishDerivatives_named_differs {upload : UploadRow}
    {derivatives : List PublishedDerivative} {now : OffsetDateTime} (integrity : s.Integrity)
    (member : upload ∈ s.uploads) (ready : upload.state = .ready)
    (named : ∀ d ∈ derivatives, Named s upload.id d)
    (differs : ¬ ∀ d ∈ derivatives, Contained s upload.id d) :
    ∃ error, publishDerivatives upload.id derivatives now s = (.error error, s) := by
  cases answer : publishDerivatives upload.id derivatives now s with
  | mk result store =>
      cases result with
      | error error =>
          obtain ⟨rfl, -⟩ | ⟨succeeded, -⟩ := publishDerivatives_cases integrity answer
          · exact ⟨error, rfl⟩
          · cases succeeded
      | ok u =>
          exact absurd (publishDerivatives_named_ok integrity member ready named answer).2 differs

end Calls

/-! ## Steps -/

/-- A publication for a ready upload that goes through names identities the upload has. -/
def namesStored (s : SqliteStore) (call : Op × Bool) : Prop :=
  match call with
  | (.publishDerivatives uploadId derivatives _, true) => ∀ upload ∈ s.uploads,
      upload.id = uploadId → upload.state = .ready → ∀ d ∈ derivatives, Named s uploadId d
  | _ => True

/-- The steps whose publications for ready uploads name stored identities only. -/
abbrev ReplayStep := Guarded StoreStep namesStored

section Steps

variable {K : List Kind} {s t : SqliteStore}

/-- One statement that publishes nothing keeps the derivatives of an upload that is no
tombstone. -/
theorem wrote_derivativesOf {upload : UploadRow} (wrote : Wrote K s t) (publishes : .derivatives ∉ K)
    (integrity : s.Integrity) (member : upload ∈ s.uploads) (live : upload.state ≠ .deleted) :
    derivativesOf upload.id t = derivativesOf upload.id s := by
  cases wrote with
  | @deleteUploads n hit kind tombstones ran =>
      obtain ⟨-, usage, counters, -, rfl⟩ := SqliteStore.deleteUploads_ok ran
      simp only [derivativesOf, deleteWhere, List.filter_filter]
      refine List.filter_congr fun row _ => ?_
      by_cases owned : row.uploadId = upload.id
      · have spared : ((s.uploads.filter hit).any fun other => other.id == row.uploadId) = false := by
          rw [List.any_eq_false]
          intro other listed same
          obtain ⟨there, reached⟩ := List.mem_filter.1 listed
          rw [beq_iff_eq] at same
          apply live
          rw [← integrity.uploadIds.eq_of_key there member (same.trans owned)]
          exact tombstones other there reached
        simp [spared]
      · simp [owned]
  | upsertDerivative kind ran => exact absurd kind publishes
  | insertUpload kind fresh ran =>
      obtain ⟨-, -, -, -, usage, counters, -, -, rfl⟩ := SqliteStore.insertUpload_ok ran
      rfl
  | updateUploads kind evolves ran =>
      obtain ⟨-, usage, counters, -, -, rfl⟩ := SqliteStore.updateUploads_ok ran
      rfl
  | insertJob kind queued ran =>
      obtain ⟨-, -, -, counters, -, rfl⟩ := SqliteStore.insertJob_ok ran
      rfl
  | updateJobs kind ran =>
      obtain ⟨-, counters, -, rfl⟩ := SqliteStore.updateJobs_ok ran
      rfl
  | insertSitePolicy kind bounded ran =>
      obtain ⟨-, rfl⟩ | ⟨-, -, rfl⟩ := SqliteStore.insertSitePolicy_ok ran
      · rfl
      · rfl
  | nextClaim kind ran =>
      obtain ⟨-, -, rfl⟩ := SqliteStore.nextClaim_ok ran
      rfl
  | upsertTenantQueue kind ran =>
      obtain ⟨-, rfl⟩ := SqliteStore.upsertTenantQueue_ok ran
      rfl
  | aside kind same => rw [derivativesOf, same.derivatives, derivativesOf]

/-- A purge keeps the derivatives of a ready upload. -/
theorem effect_derivativesOf {upload : UploadRow} (effect : Effect K s t)
    (publishes : .derivatives ∉ K) (updates : .updateUploads ∉ K) (integrity : s.Integrity)
    (member : upload ∈ s.uploads) (live : upload.state ≠ .deleted) :
    derivativesOf upload.id t = derivativesOf upload.id s := by
  have kept : t.Integrity ∧ upload ∈ t.uploads ∧
      derivativesOf upload.id t = derivativesOf upload.id s := by
    refine effect.keeps (P := fun m => m.Integrity ∧ upload ∈ m.uploads ∧
      derivativesOf upload.id m = derivativesOf upload.id s) ?_ ⟨integrity, member, rfl⟩
    rintro m u wrote ⟨integrity, there, same⟩
    refine ⟨wrote.integrity integrity, ?_,
      (wrote_derivativesOf wrote publishes integrity there live).trans same⟩
    obtain unchanged | ⟨-, row, -, -, added⟩ | ⟨kind, -⟩ | ⟨-, hit, tombstones, removed⟩ :=
      wrote.uploads_cases
    · rw [unchanged]
      exact there
    · rw [added]
      exact List.mem_append_left _ there
    · exact absurd kind updates
    · rw [removed]
      refine mem_deleteWhere.2 ⟨there, ?_⟩
      by_contra hits
      exact live (tombstones upload there (by simpa using hits))
  exact kept.2.2

/-- A publication that names stored identities keeps the derivatives of a ready upload. -/
theorem publishDerivatives_ready {upload : UploadRow} {uploadId : UploadId}
    {derivatives : List PublishedDerivative} {now : OffsetDateTime}
    {result : Except ProcessingRepositoryError Unit} (integrity : s.Integrity)
    (member : upload ∈ s.uploads) (ready : upload.state = .ready)
    (named : upload.id = uploadId → ∀ d ∈ derivatives, Named s uploadId d)
    (ran : publishDerivatives uploadId derivatives now s = (result, t)) :
    derivativesOf upload.id t = derivativesOf upload.id s := by
  obtain ⟨rfl, -⟩ | ⟨rfl, target, there, same, added, middle, published, outcome⟩ :=
    publishDerivatives_cases integrity ran
  · rfl
  by_cases own : upload.id = uploadId
  · subst own
    rw [(publishDerivatives_named_ok integrity member ready (named rfl) ran).1]
  · have apart : ∀ row ∈ added, ¬ (row.uploadId == upload.id) = true := by
      intro row listed
      rw [published.owned row listed, beq_iff_eq]
      exact fun is => own is.symm
    have kept : derivativesOf upload.id middle = derivativesOf upload.id s := by
      have none : added.filter (fun row => row.uploadId == upload.id) = [] :=
        List.filter_eq_nil_iff.2 apart
      rw [derivativesOf, published.derivatives, List.filter_append, none, List.append_nil,
        derivativesOf]
    obtain ⟨-, moved⟩ | ⟨-, rfl⟩ := outcome
    · rw [derivativesOf, moved.derivatives]
      exact kept
    · exact kept

/-- A step keeps the derivatives of a ready upload. -/
theorem replayStep_derivativesOf {call : Op × Bool} {upload : UploadRow} (integrity : s.Integrity)
    (step : ReplayStep s call t) (member : upload ∈ s.uploads) (ready : upload.state = .ready) :
    derivativesOf upload.id t = derivativesOf upload.id s := by
  obtain ⟨op, ok⟩ := call
  obtain ⟨answers, named⟩ := step
  have live : upload.state ≠ .deleted := by simp [ready]
  by_cases publishes : Kind.derivatives ∈ op.kinds
  · replace answers : Answers op s ok t := answers
    cases answers with
    | refused => rfl
    | ran =>
        cases op <;> simp [Op.kinds] at publishes
        case publishDerivatives uploadId derivatives now =>
          cases result : (publishDerivatives uploadId derivatives now s).1 with
          | ok done =>
              have went : (Op.run (.publishDerivatives uploadId derivatives now) s).1 = true := by
                show (publishDerivatives uploadId derivatives now s).1.toBool = true
                rw [result]
                rfl
              rw [went] at named
              exact publishDerivatives_ready integrity member ready
                (fun own => named upload member own ready) rfl
          | error e =>
              -- a publication that fails is rolled back
              have failed : publishDerivatives uploadId derivatives now s =
                  (.error e, (publishDerivatives uploadId derivatives now s).2) := by
                rw [← result]
              obtain ⟨same, -⟩ | ⟨fine, -⟩ := publishDerivatives_cases integrity failed
              · show derivativesOf upload.id (publishDerivatives uploadId derivatives now s).2 = _
                rw [same]
              · cases fine
  · have effect := Answers.effect answers integrity
    by_cases updates : Kind.updateUploads ∈ op.kinds
    · have stays : Kind.deleteUploads ∉ op.kinds := by
        cases op <;> simp [Op.kinds] at updates ⊢
      rw [derivativesOf, effect.derivatives_same publishes stays, derivativesOf]
    · exact effect_derivativesOf effect publishes updates integrity member live

end Steps

/-! ## Immutability -/

/-- **Published derivatives are immutable**, in every run in which a publication for a ready
upload names stored identities only.  No step changes the derivatives of a ready upload;
the replay of a contained set succeeds and changes nothing; a set that is not contained
fails and changes nothing. -/
theorem published_immutable {calls : List (Op × Bool)} {call : Op × Bool} {s t : SqliteStore}
    {upload : UploadRow} (run : Trace ReplayStep .migrated calls s) (step : ReplayStep s call t)
    (member : upload ∈ s.uploads) (ready : upload.state = .ready) :
    derivativesOf upload.id t = derivativesOf upload.id s ∧
      (∀ derivatives now, Publishable derivatives →
        (∀ d ∈ derivatives, Contained s upload.id d) →
          publishDerivatives upload.id derivatives now s = (.ok (), s)) ∧
      (∀ derivatives now, namesStored s (.publishDerivatives upload.id derivatives now, true) →
        (¬ ∀ d ∈ derivatives, Contained s upload.id d) →
          ∃ error, publishDerivatives upload.id derivatives now s = (.error error, s)) := by
  have reached : StoreRun calls s := run.unguarded
  have integrity := StoreRun.integrity reached
  refine ⟨replayStep_derivativesOf integrity step member ready, ?_, ?_⟩
  · intro derivatives now publishable contained
    exact publishDerivatives_contained integrity (run_kept reached) member ready publishable contained
  · intro derivatives now named differs
    exact publishDerivatives_named_differs integrity member ready (named upload member rfl ready) differs

/-! ## Samples -/

/-- The digest of the sample files. -/
def sampleSha256 : String := "0123456789abcdef0123456789abcdef0123456789abcdef0123456789abcdef"

def sampleThumbnail : PublishedDerivative where
  objectKey := ⟨"media/g5/1/thumbnail.jpg", by decide⟩
  presetId := "board-default-v1"
  variant := "thumbnail"
  contentType := "image/jpeg"
  byteLen := 10
  sha256 := sampleSha256

def sampleMaster : PublishedDerivative :=
  { sampleThumbnail with objectKey := ⟨"media/g5/1/master.jpg", by decide⟩, variant := "master" }

/-- The sample upload is confirmed, processed and published with its thumbnail. -/
def publication : List Op :=
  [.saveBatch sampleBatch sampleCapacity, sampleConfirmation,
   .startProcessing sampleUploadId "image/png" sampleSha256 (sampleTime 3),
   .publishDerivatives sampleUploadId [sampleThumbnail] (sampleTime 4)]

theorem publication_names : Meets namesStored .migrated publication := by
  refine ⟨trivial, trivial, trivial, ?_, trivial⟩
  intro upload member _ ready
  have working : ∀ row ∈ (playAll .migrated (publication.take 3)).uploads, row.state ≠ .ready := by
    decide
  exact absurd ready (working upload member)

def readySample : SqliteStore := playAll .migrated publication

/-- The row of the published upload. -/
def readyRow : UploadRow :=
  ((sampleRow.assign (confirmedColumns 100 (sampleTime 1).unixTimestamp)).assign
    (processingColumns "image/png" sampleSha256 (sampleTime 3).unixTimestamp)).assign
      (readyColumns (sampleTime 4).unixTimestamp)

theorem readyRow_mem : readyRow ∈ readySample.uploads := by decide

/-- The thumbnail of the sample is published again, and a master for it fails. -/
theorem published_immutable_sample :
    publishDerivatives sampleUploadId [sampleThumbnail] (sampleTime 9) readySample =
      (.ok (), readySample) := by
  have again : ReplayStep readySample (.isDeliveryAllowed "g5" sampleUploadId, true)
      ((Op.isDeliveryAllowed "g5" sampleUploadId).run readySample).2 := ⟨.ran, trivial⟩
  have run := playAll_guarded publication_names
  refine (published_immutable run again readyRow_mem rfl).2.1 [sampleThumbnail] (sampleTime 9)
    ⟨rfl, by decide⟩ fun d member => ?_
  rw [List.mem_singleton.1 member]
  exact ⟨derivativeRow sampleUploadId sampleThumbnail 10 (sampleTime 4).unixTimestamp, by decide,
    rfl, rfl, rfl, rfl, rfl⟩

/-- **An extra variant.**  The sample is ready with its thumbnail alone; a set with a master
as well is accepted and adds it. -/
theorem extra_variant_published :
    StoreRun (played .migrated publication) readySample ∧
      readyRow ∈ readySample.uploads ∧ readyRow.state = .ready ∧
      Publishable [sampleThumbnail, sampleMaster] ∧
      (readySample.derivatives.map (·.variant) = ["thumbnail"]) ∧
      (publishDerivatives sampleUploadId [sampleThumbnail, sampleMaster] (sampleTime 9)
          readySample).1 = .ok () ∧
      (publishDerivatives sampleUploadId [sampleThumbnail, sampleMaster] (sampleTime 9)
          readySample).2.derivatives.map (·.variant) = ["thumbnail", "master"] := by
  refine ⟨playAll_trace .migrated publication, readyRow_mem, rfl, ⟨rfl, ?_⟩, ?_, ?_, ?_⟩
  all_goals decide

end MediaBooster.Processing
