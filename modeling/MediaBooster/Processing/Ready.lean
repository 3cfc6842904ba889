/-
# Processing.Ready -- a ready upload has its two derivatives, for good

An upload becomes ready by the publication of one attempt, which inserts its master and its
thumbnail in the transaction that sets the state.  An attempt that comes later publishes rows
of the same identities if it was prepared with the same watermark: where the upload is pinned to
a policy revision, or its attempts ran in processes of one configured watermark (`Uniform`).  An
attempt of a process with another watermark adds the pair of another preset.

* `ready_complete`: in every run, a ready upload whose attempts are uniform has exactly two
  derivatives, a master and a thumbnail of one preset, under keys made of its tenant, its digest
  and that preset, and the provider acknowledged both objects, with the lengths recorded, to the
  attempt that published.
* `ready_immutable`: in every run, the derivatives of such an upload stay the same rows until
  the upload is deleted, whatever workers, clients and schedulers do in between.
-/
import MediaBooster.Processing.Derivatives
import MediaBooster.Processing.Facts

namespace MediaBooster.Processing

set_option autoImplicit false

open MediaBooster.Domain MediaBooster.Service MediaBooster.Service.Deployment
open MediaBooster.Policies MediaBooster.Storage MediaBooster.Store
open MediaBooster.Theory.Run MediaBooster.Theory.Table MediaBooster.Theory.Threads
open MediaBooster.Theory.Transaction
open SourceValidationWorker (Prepared Begun Digested derivativeText presetOf)

/-! ## A pair -/

section Calls

variable {s t : SqliteStore} {uploadId : UploadId}

/-- The row is the derivative, as the upload has it. -/
def Bound (uploadId : UploadId) (derivative : PublishedDerivative) (row : DerivativeRow) : Prop :=
  validDerivative derivative = true ∧ ∃ byteLen now, i64TryFrom derivative.byteLen = some byteLen ∧
    row = derivativeRow uploadId derivative byteLen now

theorem named_iff {derivative : PublishedDerivative} : Named s uploadId derivative ↔
    ∃ row ∈ derivativesOf uploadId s, row.presetId = derivative.presetId ∧
      row.variant = derivative.variant := by
  simp only [Named, derivativesOf, List.mem_filter, beq_iff_eq, DerivativeRow.identity,
    Prod.mk.injEq, and_assoc]

/-- A derivative whose identity is not stored is inserted. -/
theorem publishDerivative_fresh {now : Int} {derivative : PublishedDerivative} {u : Unit}
    (fresh : ¬ Named s uploadId derivative)
    (ran : publishDerivative uploadId now derivative s = .ok (u, t)) :
    ∃ byteLen, i64TryFrom derivative.byteLen = some byteLen ∧
      t.derivatives = s.derivatives ++ [derivativeRow uploadId derivative byteLen now] := by
  simp only [publishDerivative, bind_eq_ok, okOr_eq_ok, execute_eq_ok, ensure_eq_ok] at ran
  obtain ⟨byteLen, _, ⟨sized, rfl⟩, n, after, upserted, -, rfl⟩ := ran
  refine ⟨byteLen, sized, ?_⟩
  simp only [SqliteStore.upsertDerivative, except_bind_eq_ok, require_eq_ok] at upserted
  obtain ⟨-, -, upserted⟩ := upserted
  split at upserted
  · rename_i other found
    have same := List.find?_some found
    exact absurd ⟨other, List.mem_of_find?_eq_some found, beq_iff_eq.1 same⟩ fresh
  · simp only [except_bind_eq_ok, require_eq_ok] at upserted
    obtain ⟨-, -, -, -, result⟩ := upserted
    cases result
    rfl

theorem derivativesOf_append {row : DerivativeRow} (owned : row.uploadId = uploadId)
    (added : t.derivatives = s.derivatives ++ [row]) :
    derivativesOf uploadId t = derivativesOf uploadId s ++ [row] := by
  simp [derivativesOf, added, List.filter_append, owned]

/-- A pair of two variants is inserted for an upload without derivatives. -/
theorem publishAll_pair {now : Int} {master thumbnail : PublishedDerivative} {u : Unit}
    (none : derivativesOf uploadId s = []) (apart : master.variant ≠ thumbnail.variant)
    (ran : [master, thumbnail].forM (publishDerivative uploadId now) s = .ok (u, t)) :
    ∃ a b, i64TryFrom master.byteLen = some a ∧ i64TryFrom thumbnail.byteLen = some b ∧
      derivativesOf uploadId t =
        [derivativeRow uploadId master a now, derivativeRow uploadId thumbnail b now] := by
  obtain ⟨_, middle, first, rest⟩ := bind_eq_ok.1 ran
  obtain ⟨_, after, second, done⟩ := bind_eq_ok.1 rest
  obtain ⟨-, rfl⟩ := pure_eq_ok.1 done
  obtain ⟨a, sized, added⟩ := publishDerivative_fresh (by simp [named_iff, none]) first
  have one := derivativesOf_append rfl added
  rw [show (derivativeRow uploadId master a now).uploadId = uploadId from rfl, none,
    List.nil_append] at one
  have fresh : ¬ Named middle uploadId thumbnail := by
    rw [named_iff, one]
    rintro ⟨row, member, -, variant⟩
    rw [List.mem_singleton.1 member] at variant
    exact apart variant
  obtain ⟨b, sized', added'⟩ := publishDerivative_fresh fresh second
  have both := derivativesOf_append rfl added'
  rw [show (derivativeRow uploadId thumbnail b now).uploadId = uploadId from rfl, one] at both
  exact ⟨a, b, sized, sized', both⟩

/-- **The publication of a pair** gives an upload without derivatives these two, and changes no
derivatives of an upload that has both identities. -/
theorem publishDerivatives_pair {master thumbnail : PublishedDerivative} {now : OffsetDateTime}
    {u : Unit} (integrity : s.Integrity) (apart : master.variant ≠ thumbnail.variant)
    (ran : publishDerivatives uploadId [master, thumbnail] now s = (.ok u, t)) :
    (derivativesOf uploadId s = [] → ∃ first second, Bound uploadId master first ∧
        Bound uploadId thumbnail second ∧ derivativesOf uploadId t = [first, second]) ∧
      (Named s uploadId master → Named s uploadId thumbnail → t.derivatives = s.derivatives) := by
  simp only [publishDerivatives, call_bind_eq_ok, call_ensure_eq_ok, call_readOr_eq, Prod.mk.injEq,
    commit_eq_ok, publishTransaction, bind_eq_ok, select_eq_ok, okOr_eq_ok, ensure_eq_ok] at ran
  obtain ⟨_, _, ⟨-, rfl⟩, _, _, ⟨valid, rfl⟩, _, _, ⟨-, rfl⟩, upload, _, ⟨-, rfl⟩, _, _,
    ⟨-, rfl⟩, _, middle, all, last⟩ := ran
  have after : t.derivatives = middle.derivatives := by
    split at last
    · simp only [enterReady, bind_eq_ok, execute_eq_ok, ensure_eq_ok] at last
      obtain ⟨n, final, updated, -, rfl⟩ := last
      obtain ⟨-, usage, counters, -, -, rfl⟩ := SqliteStore.updateUploads_ok updated
      rfl
    · obtain ⟨-, rfl⟩ := pure_eq_ok.1 last
      rfl
  have checked : validDerivative master = true ∧ validDerivative thumbnail = true := by
    by_contra bad
    simp only [validateDerivatives] at valid
    split at valid
    · cases valid
    · split at valid
      · cases valid
      · split at valid
        · cases valid
        · simp_all
  refine ⟨fun none => ?_, fun first second => ?_⟩
  · obtain ⟨a, b, sized, sized', rows⟩ := publishAll_pair none apart all
    rw [derivativesOf, ← after, ← derivativesOf] at rows
    exact ⟨_, _, ⟨checked.1, a, _, sized, rfl⟩, ⟨checked.2, b, _, sized', rfl⟩, rows⟩
  · have named : ∀ d ∈ [master, thumbnail], Named s uploadId d := by
      simp only [List.mem_cons, List.not_mem_nil, or_false, forall_eq_or_imp, forall_eq]
      exact ⟨first, second⟩
    rw [after, (publishAll_named integrity named all).1]

/-- A call that publishes nothing keeps the derivatives of an upload that is no tombstone. -/
theorem answers_derivativesOf {op : Op} {ok : Bool} {upload : UploadRow} (integrity : s.Integrity)
    (answers : Answers op s ok t) (publishes : .derivatives ∉ op.kinds)
    (member : upload ∈ s.uploads) (live : upload.state ≠ .deleted) :
    derivativesOf upload.id t = derivativesOf upload.id s := by
  have effect := answers.effect integrity
  by_cases updates : Kind.updateUploads ∈ op.kinds
  · have stays : Kind.deleteUploads ∉ op.kinds := by
      cases op <;> simp [Op.kinds] at updates ⊢
    rw [derivativesOf, effect.derivatives_same publishes stays, derivativesOf]
  · exact effect_derivativesOf effect publishes updates integrity member live

/-- Only a publication makes an upload ready. -/
theorem ready_before {op : Op} {before after : UploadRow} (move : RowMove s op before after)
    (ready : after.state = .ready) : before.state = .ready ∨
      ∃ derivatives now, op = .publishDerivatives before.id derivatives now := by
  cases move with
  | same | requested | leased | retried => exact .inl ready
  | confirmed | aborted | tombstoned | started | rejected => cases ready
  | @published uploadId derivatives now _ named =>
      exact .inr ⟨derivatives, now, by rw [named]⟩

end Calls

/-! ## Pairs of a state -/

section Pairs

variable {d : Deployment} {s t : SystemState} {label : SystemLabel} {i : Nat}
variable {exchange : Exchange Answer} {uploadId : UploadId}

/-- What the calls of a deployment have done before they publish. -/
def PublishRules (d : Deployment) : ServiceCall → History → Ask → Prop
  | .work configuration _ => (d.worker configuration).PublishRule
  | _ => fun _ _ => True

theorem follows_publishRules (call : ServiceCall) :
    Follows (PublishRules d call) (fun _ _ => True) [] (d.program call) := by
  have free : ∀ program : Program Answer Unit,
      Follows (fun _ _ => True) (fun _ _ => True) [] program := fun program =>
    (follows_traced program []).weaken fun _ _ _ => trivial
  cases call with
  | work configuration workerId =>
      exact follows_discard (SourceValidationWorker.publishes_runOne workerId)
  | createBatch | presignPart | completeMultipart | confirmSingleUpload | abortMultipart
  | publishPolicy | cleanup | inventory => exact free _

/-- A publication is that of a worker that keeps its rule. -/
theorem published_asked {derivatives : List PublishedDerivative} {now : OffsetDateTime}
    {answer : Answer (.store (.publishDerivatives uploadId derivatives now))}
    (step : d.machine.Step s (.asked i ⟨.store (.publishDerivatives uploadId derivatives now), answer⟩)
      t) : ∃ configuration, Works s i configuration ∧ (d.worker configuration).PublishRule (s.past i)
        (.store (.publishDerivatives uploadId derivatives now)) := by
  have both := fun call => (follows_publishRules (d := d) call).restrict (only_program call)
  obtain ⟨call, called, rule, asks⟩ := step.obeys both
  cases call with
  | work configuration workerId => exact ⟨configuration, ⟨workerId, called⟩, rule⟩
  | createBatch | presignPart | completeMultipart | confirmSingleUpload | abortMultipart
  | publishPolicy | cleanup | inventory => exact asks.elim

/-- A thread made the master and the thumbnail of the upload, and these are its rows. -/
structure Pair (d : Deployment) (s : SystemState) (uploadId : UploadId)
    (first second : DerivativeRow) : Prop where
  rows : derivativesOf uploadId s.shared.store = [first, second]
  made : ∃ i configuration leased source digest contentType watermark master thumbnail,
    Prepares d s i configuration leased source digest watermark ∧
    leased.job.uploadId = uploadId ∧ Begun (s.past i) source digest contentType ∧
    (d.worker configuration).IsMaster (s.past i) source digest contentType watermark master ∧
    (d.worker configuration).IsThumbnail (s.past i) source digest watermark thumbnail ∧
    Bound uploadId master first ∧ Bound uploadId thumbnail second

theorem Pair.step {first second : DerivativeRow} (pair : Pair d s uploadId first second)
    (step : d.machine.Step s label t)
    (same : derivativesOf uploadId t.shared.store = derivativesOf uploadId s.shared.store) :
    Pair d t uploadId first second := by
  obtain ⟨i, configuration, leased, source, digest, contentType, watermark, master, thumbnail,
    prepares, target, begun, isMaster, isThumbnail, bound⟩ := pair.made
  have grown : s.past i ⊆ t.past i := by
    rw [step.past]
    exact List.subset_append_left _ _
  exact ⟨same.trans pair.rows, i, configuration, leased, source, digest, contentType, watermark,
    master, thumbnail, Prepares.step prepares step, target, begun.mono grown, isMaster.mono grown,
    isThumbnail.mono grown, bound⟩

/-- Every upload that is not deleted and whose attempts are uniform has no derivatives and is not
ready, or has a pair. -/
structure Paired (d : Deployment) (s : SystemState) : Prop where
  spent : ∀ row ∈ s.shared.store.derivatives, d.tokens.Spent s row.uploadId.uuid
  pairs : ∀ upload ∈ s.shared.store.uploads, upload.state ≠ .deleted → Uniform s upload.id →
    (derivativesOf upload.id s.shared.store = [] ∧ upload.state ≠ .ready) ∨
      ∃ first second, Pair d s upload.id first second

/-- **A publication names the identities of the pair that is there.** -/
theorem named_of_pair {pins : UploadId → Pin → Prop} {first second : DerivativeRow}
    {configuration : WorkerConfiguration} {leased : LeasedProcessingJob} {source : ProcessingSource} {digest contentType : String}
    {watermark : Option WatermarkPolicy} {master thumbnail : PublishedDerivative}
    (pinned : Pinned d pins s) (uniform : Uniform s uploadId)
    (pair : Pair d s uploadId first second)
    (prepares : Prepares d s i configuration leased source digest watermark)
    (target : leased.job.uploadId = uploadId)
    (isMaster : (d.worker configuration).IsMaster (s.past i) source digest contentType watermark
      master)
    (isThumbnail : (d.worker configuration).IsThumbnail (s.past i) source digest watermark
      thumbnail) :
    Named s.shared.store uploadId master ∧ Named s.shared.store uploadId thumbnail := by
  obtain ⟨j, configuration', leased', source', digest', contentType', watermark', master',
    thumbnail', prepares', target', begun, isMaster', isThumbnail', ⟨-, a, now, -, rfl⟩, -, b, now',
    -, rfl⟩ := pair.made
  obtain ⟨name, -, filed⟩ := isMaster.filed
  obtain ⟨name', -, filed'⟩ := isMaster'.filed
  have settled : OneWatermark leased configuration configuration' :=
    uniform i j _ _ _ _ prepares.works prepares'.works prepares.prepared.sourced.holding
      prepares'.prepared.sourced.holding target target'
  obtain rfl := pinned.chosen prepares prepares' (target.trans target'.symm)
    fun none => (settled none).symm
  rw [named_iff, named_iff, pair.rows]
  refine ⟨⟨_, List.mem_cons_self, filed'.preset.trans filed.preset.symm,
    filed'.variant.trans filed.variant.symm⟩, _, List.mem_cons_of_mem _ List.mem_cons_self, ?_, ?_⟩
  · exact isThumbnail'.filed.preset.trans isThumbnail.filed.preset.symm
  · exact isThumbnail'.filed.variant.trans isThumbnail.filed.variant.symm

/-- **What a publication leaves of the derivatives of an upload.** -/
theorem published_step {pins : UploadId → Pin → Prop} {derivatives : List PublishedDerivative}
    {now : OffsetDateTime} {ok : Bool} {u : Unit} (pinned : Pinned d pins s) (paired : Paired d s)
    (step : d.machine.Step s label t)
    (calls : Calls label (.publishDerivatives uploadId derivatives now) ok)
    (ran : publishDerivatives uploadId derivatives now s.shared.store = (.ok u, t.shared.store))
    {upload : UploadRow} (member : upload ∈ s.shared.store.uploads) (named : upload.id = uploadId)
    (live : upload.state ≠ .deleted) (uniform : Uniform s uploadId) :
    (∃ first second, Pair d t uploadId first second) ∧
      (upload.state = .ready → derivativesOf uploadId t.shared.store =
        derivativesOf uploadId s.shared.store) := by
  have integrity := pinned.recorded.integrity
  cases calls with
  | called request => cases request
  | @asked i _ answer =>
      obtain ⟨configuration, works, leased, source, digest, contentType, watermark, master,
        thumbnail, prepared, begun, source_named, rfl, isMaster, isThumbnail⟩ := published_asked step
      have prepares : Prepares d s i configuration leased source digest watermark :=
        ⟨works, prepared⟩
      obtain ⟨source_is, -⟩ := pinned.heard i _ prepared.sourced.found
      have target : leased.job.uploadId = uploadId := source_is.symm.trans source_named
      obtain ⟨name, named_file, filed⟩ := isMaster.filed
      have apart : master.variant ≠ thumbnail.variant := by
        rw [filed.variant, isThumbnail.filed.variant]
        decide
      obtain ⟨fresh, kept⟩ := publishDerivatives_pair integrity apart ran
      have grown : s.past i ⊆ t.past i := by
        rw [step.past]
        exact List.subset_append_left _ _
      obtain ⟨none, unready⟩ | ⟨first, second, pair⟩ :=
        paired.pairs upload member live (named ▸ uniform)
      · rw [named] at none
        obtain ⟨first, second, bound, bound', rows⟩ := fresh none
        refine ⟨⟨first, second, rows, i, configuration, leased, source, digest, contentType,
          watermark, master, thumbnail, Prepares.step prepares step, target, begun.mono grown,
          isMaster.mono grown, isThumbnail.mono grown, bound, bound'⟩,
          fun ready => absurd ready unready⟩
      · rw [named] at pair
        obtain ⟨first_named, second_named⟩ :=
          named_of_pair pinned uniform pair prepares target isMaster isThumbnail
        have same : derivativesOf uploadId t.shared.store = derivativesOf uploadId s.shared.store := by
          rw [derivativesOf, kept first_named second_named, derivativesOf]
        exact ⟨⟨first, second, pair.step step same⟩, fun _ => same⟩

/-- **A step keeps the derivatives of every upload, or publishes the pair of one.** -/
theorem derivatives_step {pins : UploadId → Pin → Prop} (pinned : Pinned d pins s)
    (paired : Paired d s) (step : d.machine.Step s label t) {upload : UploadRow}
    (member : upload ∈ s.shared.store.uploads) (live : upload.state ≠ .deleted)
    (uniform : Uniform s upload.id) :
    derivativesOf upload.id t.shared.store = derivativesOf upload.id s.shared.store ∨
      (upload.state ≠ .ready ∧ ∃ first second, Pair d t upload.id first second) := by
  have integrity := pinned.recorded.integrity
  obtain same | ⟨op, ok, calls, answers⟩ := store_cases step
  · rw [same]
    exact .inl rfl
  by_cases publishes : Kind.derivatives ∈ op.kinds
  · obtain same | ran := answers_ran answers
    · rw [same]
      exact .inl rfl
    cases op <;> simp [Op.kinds] at publishes
    case publishDerivatives uploadId derivatives now =>
      have called : publishDerivatives uploadId derivatives now s.shared.store =
          ((publishDerivatives uploadId derivatives now s.shared.store).1, t.shared.store) :=
        Prod.ext rfl ran.symm
      obtain ⟨same, -⟩ | ⟨succeeded, target, there, targeted, added, middle, published, outcome⟩ :=
        publishDerivatives_cases integrity called
      · rw [same]
        exact .inl rfl
      by_cases own : upload.id = uploadId
      · rw [succeeded] at called
        subst own
        obtain ⟨pair, kept⟩ := published_step pinned paired step calls called member rfl live uniform
        by_cases ready : upload.state = .ready
        · exact .inl (kept ready)
        · exact .inr ⟨ready, pair⟩
      · have others : added.filter (fun row => row.uploadId == upload.id) = [] := by
          rw [List.filter_eq_nil_iff]
          intro row listed
          rw [published.owned row listed, beq_iff_eq]
          exact fun is => own is.symm
        have kept : derivativesOf upload.id middle = derivativesOf upload.id s.shared.store := by
          rw [derivativesOf, published.derivatives, List.filter_append, others, List.append_nil,
            derivativesOf]
        obtain ⟨-, moved⟩ | ⟨-, rfl⟩ := outcome
        · rw [derivativesOf, moved.derivatives]
          exact .inl kept
        · exact .inl kept
  · exact .inl (answers_derivativesOf integrity answers publishes member live)

/-- **What becomes ready has its pair.** -/
theorem pair_of_readied {pins : UploadId → Pin → Prop} (pinned : Pinned d pins s)
    (paired : Paired d s) (step : d.machine.Step s label t) {before after : UploadRow}
    (there : before ∈ s.shared.store.uploads) (member : after ∈ t.shared.store.uploads)
    (same : after.id = before.id) (live : before.state ≠ .deleted) (uniform : Uniform s before.id)
    (ready : after.state = .ready) :
    before.state = .ready ∨ ∃ first second, Pair d t before.id first second := by
  have integrity := pinned.recorded.integrity
  have unmoved : t.shared.store = s.shared.store → before.state = .ready := by
    intro stored
    rw [stored] at member
    rw [← integrity.uploadIds.eq_of_key member there same]
    exact ready
  obtain stored | ⟨op, ok, calls, answers⟩ := store_cases step
  · exact .inl (unmoved stored)
  obtain stored | ran := answers_ran answers
  · exact .inl (unmoved stored)
  obtain ⟨row, listed, move⟩ | ⟨-, apart⟩ := answers.rowMoves integrity after member
  · obtain rfl := integrity.uploadIds.eq_of_key listed there (move.evolves.id.symm.trans same)
    obtain already | ⟨derivatives, now, rfl⟩ := ready_before move ready
    · exact .inl already
    have called : publishDerivatives row.id derivatives now s.shared.store =
        ((publishDerivatives row.id derivatives now s.shared.store).1, t.shared.store) :=
      Prod.ext rfl ran.symm
    obtain ⟨stored, -⟩ | ⟨succeeded, -⟩ := publishDerivatives_cases integrity called
    · exact .inl (unmoved stored)
    · rw [succeeded] at called
      exact .inr (published_step pinned paired step calls called listed rfl live uniform).1
  · exact absurd same.symm (apart before there)

/-- Every derivative of a step belongs to an upload that is or was recorded. -/
theorem spent_step (recorded : d.Recorded s)
    (spent : ∀ row ∈ s.shared.store.derivatives, d.tokens.Spent s row.uploadId.uuid)
    (step : d.machine.Step s label t) :
    ∀ row ∈ t.shared.store.derivatives, d.tokens.Spent s row.uploadId.uuid := by
  intro row member
  obtain same | ⟨op, ok, calls, answers⟩ := store_cases step
  · rw [same] at member
    exact spent row member
  obtain old | publishes := answers.derivatives_from recorded.integrity row member
  · exact spent row old
  · cases publishes with
    | @published uploadId derivatives now upload derivative byteLen there named =>
        exact named ▸ recorded.uploads upload there

theorem Paired.step {pins : UploadId → Pin → Prop} (paired : Paired d s) (pinned : Pinned d pins s)
    (step : d.machine.Step s label t) : Paired d t where
  spent := fun row member =>
    (spent_step pinned.recorded paired.spent step row member).step step
  pairs := fun upload member live uniform => by
    have earlier := uniform.before step
    have goes : ∀ before ∈ s.shared.store.uploads, upload.id = before.id → before.state ≠ .deleted →
        (derivativesOf upload.id t.shared.store = [] ∧ upload.state ≠ .ready) ∨
          ∃ first second, Pair d t upload.id first second := by
      intro before there same before_live
      rw [same] at earlier
      have readied := pair_of_readied pinned paired step there member same before_live earlier
      rw [same]
      obtain kept | ⟨-, pair⟩ := derivatives_step pinned paired step there before_live earlier
      · obtain ⟨none, unready⟩ | ⟨first, second, pair⟩ :=
          paired.pairs before there before_live earlier
        · by_cases ready : upload.state = .ready
          · exact .inr ((readied ready).resolve_left unready)
          · exact .inl ⟨kept.trans none, ready⟩
        · exact .inr ⟨first, second, pair.step step kept⟩
      · exact .inr pair
    obtain old | ⟨before, there, op, ok, calls, move⟩ | reserves :=
      pinned.recorded.upload_cases step member
    · exact goes upload old rfl live
    · have before_live : before.state ≠ .deleted := by
        intro dead
        have chain := move.evolves.chain
        rw [dead] at chain
        exact live chain.from_deleted
      exact goes before there move.evolves.id before_live
    · left
      refine ⟨?_, by rw [reserves.reservation.1]; decide⟩
      refine List.filter_eq_nil_iff.2 fun row listed owned => ?_
      rw [beq_iff_eq] at owned
      exact reserves.fresh (owned ▸ spent_step pinned.recorded paired.spent step row listed)

/-- **Runs keep pairs.** -/
theorem run_paired {clock : OffsetDateTime} {labels : List SystemLabel}
    (run : Trace d.machine.Step (.initial (.fresh clock)) labels s) :
    (∃ pins, Pinned d pins s) ∧ Paired d s := by
  refine run.keeps (P := fun s => (∃ pins, Pinned d pins s) ∧ Paired d s) ?_
    ⟨⟨_, pinned_initial clock⟩, ⟨(fun _ member => by cases member), fun _ member => by cases member⟩⟩
  rintro s label t step ⟨⟨pins, pinned⟩, paired⟩
  exact ⟨⟨_, pinned.step step⟩, paired.step pinned step⟩

end Pairs

/-! ## Complete uploads -/

section Complete

variable {d : Deployment} {s t : SystemState} {upload : UploadRow}

/-- The upload has a master and a thumbnail, and nothing else. -/
structure Complete (d : Deployment) (s : SystemState) (upload : UploadRow)
    (master thumbnail : DerivativeRow) : Prop where
  rows : derivativesOf upload.id s.shared.store = [master, thumbnail]
  variants : master.variant = "master" ∧ thumbnail.variant = "thumbnail"
  preset : thumbnail.presetId = master.presetId ∧ narrowToken master.presetId 128 = true
  keys : ∃ digest, upload.sourceSha256 = some digest ∧
    (∃ name ∈ derivativeNames, master.objectKey.asStr =
      mediaKeyText upload.tenantId upload.id digest master.presetId name) ∧
    thumbnail.objectKey.asStr =
      mediaKeyText upload.tenantId upload.id digest master.presetId "thumbnail.jpg"
  kinds : thumbnail.contentType = "image/jpeg" ∧ (master.contentType = "image/jpeg" ∨
    (upload.detectedContentType = some master.contentType ∧
      upload.sourceSha256 = some master.sha256 ∧ master.byteLen = upload.expectedSizeBytes))
  stored : ∃ i configuration, Works s i configuration ∧ ∀ row ∈ [master, thumbnail],
    ∃ byteLen : Nat, row.byteLen = byteLen ∧ 0 < byteLen ∧ (byteLen : Int) ≤ i64Max ∧
      (d.worker configuration).Put (s.past i) row.objectKey.asStr byteLen

/-- The row of a derivative whose object is there. -/
theorem put_of_bound {past : History} {source : ProcessingSource} {digest variant name : String}
    {watermark : Option WatermarkPolicy} {derivative : PublishedDerivative} {uploadId : UploadId}
    {row : DerivativeRow} {configuration : WorkerConfiguration}
    (filed : (d.worker configuration).Filed past source digest watermark variant name derivative)
    (bound : Bound uploadId derivative row) : ∃ byteLen : Nat, row.byteLen = byteLen ∧ 0 < byteLen ∧
      (byteLen : Int) ≤ i64Max ∧ (d.worker configuration).Put past row.objectKey.asStr byteLen := by
  obtain ⟨valid, byteLen, now, sized, rfl⟩ := bound
  obtain ⟨rfl, fits⟩ := i64TryFrom_eq_some.1 sized
  simp only [validDerivative, Bool.and_eq_true, bne_iff_ne] at valid
  exact ⟨derivative.byteLen, rfl, Nat.pos_of_ne_zero valid.1.2, fits, filed.put⟩

/-- **A pair completes its upload.** -/
theorem Pair.complete {pins : UploadId → Pin → Prop} {first second : DerivativeRow}
    (pair : Pair d s upload.id first second) (pinned : Pinned d pins s) (factual : Factual d s)
    (member : upload ∈ s.shared.store.uploads) : Complete d s upload first second := by
  obtain ⟨i, configuration, leased, source, digest, contentType, watermark, master, thumbnail,
    ⟨works, prepared⟩, target, begun, isMaster, isThumbnail, bound, bound'⟩ := pair.made
  obtain ⟨named, ⟨pin, known, owner⟩, -⟩ := pinned.heard i _ prepared.sourced.found
  rw [target] at named known
  have tenant : source.tenantId = upload.tenantId :=
    owner.trans ((pinned.known _ _ known).holds upload member rfl).1.symm
  obtain ⟨exchange, heard, reports⟩ :=
    Begun.reported prepared.sourced (named.trans target.symm) begun
  rw [target] at reports
  have facts := (factual.known i exchange heard _ _ reports).holds upload member rfl
  have found := prepared.sourced.found
  rw [target] at found
  have sized := (factual.sized i _ found _ _ rfl).holds upload member rfl
  obtain ⟨name, listed, filed⟩ := isMaster.filed
  have put := put_of_bound filed bound
  have put' := put_of_bound isThumbnail.filed bound'
  obtain ⟨valid, a, now, fits, rfl⟩ := bound
  obtain ⟨valid', b, now', fits', rfl⟩ := bound'
  obtain ⟨rfl, -⟩ := i64TryFrom_eq_some.1 fits
  simp only [validDerivative, Bool.and_eq_true] at valid
  have preset : master.presetId = presetOf watermark := filed.preset
  refine ⟨pair.rows, ⟨filed.variant, isThumbnail.filed.variant⟩,
    ⟨isThumbnail.filed.preset.trans preset.symm, valid.1.1.1.1⟩,
    ⟨digest, facts.digest, ⟨name, listed, ?_⟩, ?_⟩, ⟨isThumbnail.kind, ?_⟩, i, configuration, works,
    ?_⟩
  · rw [show (derivativeRow upload.id master master.byteLen now).presetId = master.presetId from rfl,
      preset, ← tenant, ← named]
    exact filed.key
  · rw [show (derivativeRow upload.id master master.byteLen now).presetId = master.presetId from rfl,
      preset, ← tenant, ← named]
    exact isThumbnail.filed.key
  · obtain jpeg | ⟨kind, sha256, byteLen⟩ := isMaster.kind
    · exact .inl jpeg
    · refine .inr ⟨facts.contentType.trans (congrArg some kind.symm),
        facts.digest.trans (congrArg some sha256.symm), ?_⟩
      rw [sized]
      exact congrArg Int.ofNat byteLen
  · simp only [List.mem_cons, List.not_mem_nil, or_false, forall_eq_or_imp, forall_eq]
    exact ⟨put, put'⟩

theorem Paired.complete {pins : UploadId → Pin → Prop} (paired : Paired d s)
    (pinned : Pinned d pins s) (factual : Factual d s) (member : upload ∈ s.shared.store.uploads)
    (ready : upload.state = .ready) (uniform : Uniform s upload.id) :
    ∃ master thumbnail, Complete d s upload master thumbnail := by
  have live : upload.state ≠ .deleted := by simp [ready]
  obtain ⟨-, unready⟩ | ⟨first, second, pair⟩ := paired.pairs upload member live uniform
  · exact absurd ready unready
  · exact ⟨first, second, pair.complete pinned factual member⟩

/-- **A ready upload is complete.**  In every run, a ready upload whose attempts are uniform has
exactly two derivatives, a master and a JPEG thumbnail of one preset; their keys are those of its
tenant, of the digest recorded for it and of that preset; the master is a JPEG or the source
itself, under its recorded digest, type and size; and the provider acknowledged both objects, with
the lengths recorded, to one and the same worker. -/
theorem ready_complete {clock : OffsetDateTime} {labels : List SystemLabel}
    (run : Trace d.machine.Step (.initial (.fresh clock)) labels s)
    (member : upload ∈ s.shared.store.uploads) (ready : upload.state = .ready)
    (uniform : Uniform s upload.id) : ∃ master thumbnail, Complete d s upload master thumbnail := by
  obtain ⟨⟨pins, pinned⟩, paired⟩ := run_paired run
  exact paired.complete pinned (run_factual run) member ready uniform

/-- **The derivatives of a ready upload are immutable.**  From a state of a run in which an
upload is ready, no run of the system in which its attempts are uniform changes its derivatives
before it is deleted. -/
theorem ready_immutable {clock : OffsetDateTime} {earlier later : List SystemLabel}
    (run : Trace d.machine.Step (.initial (.fresh clock)) earlier s)
    (rest : Trace d.machine.Step s later t) (member : upload ∈ s.shared.store.uploads)
    (ready : upload.state = .ready) (uniform : Uniform t upload.id) {after : UploadRow}
    (there : after ∈ t.shared.store.uploads) (same : after.id = upload.id)
    (live : after.state ≠ .deleted) :
    derivativesOf upload.id t.shared.store = derivativesOf upload.id s.shared.store := by
  let Settled (row : UploadRow) : Prop := row.state = .ready ∨ row.state = .deleted
  -- what is known of the row between the states: it is ready, or its derivatives do not matter
  have kept : ((∃ pins, Pinned d pins t) ∧ Paired d t) ∧ KnownUpload d t upload.id Settled ∧
      (Uniform t upload.id → ∀ row ∈ t.shared.store.uploads, row.id = upload.id →
        row.state ≠ .deleted → derivativesOf upload.id t.shared.store =
          derivativesOf upload.id s.shared.store) := by
    refine rest.keeps (P := fun m => ((∃ pins, Pinned d pins m) ∧ Paired d m) ∧
      KnownUpload d m upload.id Settled ∧ (Uniform m upload.id → ∀ row ∈ m.shared.store.uploads,
        row.id = upload.id → row.state ≠ .deleted → derivativesOf upload.id m.shared.store =
          derivativesOf upload.id s.shared.store)) ?_ ?_
    · rintro m label m' step ⟨⟨⟨pins, pinned⟩, paired⟩, known, kept⟩
      refine ⟨⟨⟨_, pinned.step step⟩, paired.step pinned step⟩,
        known.step pinned.recorded step ?_, ?_⟩
      · rintro before after evolves (settled | dead)
        · exact (evolves.chain.from_settled (by rw [settled]; rfl)).imp_left fun is => is.trans settled
        · have chain := evolves.chain
          rw [dead] at chain
          exact .inr chain.from_deleted
      · intro uniform row listed named unburied
        have earlier := uniform.before step
        obtain ⟨before, was, evolves⟩ | reserves := pinned.recorded.upload_evolves step listed
        · have id : before.id = upload.id := evolves.id.symm.trans named
          have before_live : before.state ≠ .deleted := by
            intro dead
            have chain := evolves.chain
            rw [dead] at chain
            exact unburied chain.from_deleted
          have settled := (known.holds before was id).resolve_right before_live
          obtain unchanged | ⟨unready, -⟩ :=
            derivatives_step pinned paired step was before_live (id ▸ earlier)
          · rw [id] at unchanged
            exact unchanged.trans (kept earlier before was id before_live)
          · exact absurd settled unready
        · rw [← named] at known
          exact absurd known.spent reserves.fresh
    · have initial := run_paired run
      obtain ⟨pins, pinned⟩ := initial.1
      exact ⟨initial, .of_row pinned.recorded member (.inl ready), fun _ _ _ _ _ => rfl⟩
  exact kept.2.2 uniform after there same live

end Complete

/-! ## A sample -/

/-- Worker `b` overtakes worker `a` and publishes; then `a` goes on. -/
def overtakingSchedule : List (Command ServiceCall Event) :=
  reserveImage ++ confirmImage ++
    [.start (.work sampleWorker "a"), .run 2 45, .start (.work sampleWorker "b"), .run 3 45]

/-- The upload is ready. -/
def isReady (s : SystemState) : Bool :=
  s.shared.store.uploads.any fun row => row.id == rehearsedUpload && row.state == .ready

/-- No deletion is asked for, and every derivative is a JPEG. -/
def isPlain (s : SystemState) : Bool :=
  (s.shared.store.uploads.all fun row => row.deleteRequestedAt == none) &&
    s.shared.store.derivatives.all fun row => row.contentType == "image/jpeg"

/-- Between the states worker `a` went on, and the upload was and is ready. -/
def overtaking (s t : SystemState) : Bool :=
  isReady s && isReady t && (decide ((s.past 2).length < (t.past 2).length) && isPlain s) &&
    (plainWorkers s && plainWorkers t)

/-- What two schedules lead to, one run and a run after it lead to. -/
theorem rehearsed_on {nanos : Int} {clock : OffsetDateTime} {d : Deployment}
    {commands more : List (Command ServiceCall Event)} {check : SystemState → SystemState → Bool}
    (played : ((d.rehearsal nanos).performAll (fun _ _ => true) commands
      ⟨.initial (.fresh clock), []⟩).any (fun stage =>
        ((d.rehearsal nanos).performAll (fun _ _ => true) more stage).any fun next =>
          check stage.state next.state) = true) :
    ∃ labels labels', ∃ s t : SystemState, Trace d.machine.Step (.initial (.fresh clock)) labels s ∧
      Trace d.machine.Step s labels' t ∧ check s t = true := by
  obtain ⟨stage, led, later⟩ := (Option.any_eq_true _ _).1 played
  obtain ⟨next, led', holds⟩ := (Option.any_eq_true _ _).1 later
  obtain ⟨stands, labels, run⟩ := Responder.performAll_runs
    ⟨rfl, fun _ _ _ there => by simp [State.initial] at there⟩ led
  obtain ⟨-, labels', run'⟩ := Responder.performAll_runs stands led'
  exact ⟨labels, labels', stage.state, next.state, run.unguarded, run'.unguarded, holds⟩

theorem overtaking_reached : ∃ labels labels', ∃ s t : SystemState,
    Trace sampleDeployment.machine.Step (.initial (.fresh (sampleTime 0))) labels s ∧
      Trace sampleDeployment.machine.Step s labels' t ∧ overtaking s t = true := by
  refine @rehearsed_on (100 * 1000000000) _ sampleDeployment overtakingSchedule [.run 2 1]
    overtaking ?_
  decide +kernel

theorem ready_of_isReady {s : SystemState} (holds : isReady s = true) :
    ∃ row ∈ s.shared.store.uploads, row.id = rehearsedUpload ∧ row.state = .ready := by
  simpa only [isReady, List.any_eq_true, Bool.and_eq_true, beq_iff_eq] using holds

/-- The sample is complete. -/
theorem ready_complete_sample : ∃ s : SystemState, ∃ upload ∈ s.shared.store.uploads,
    upload.id = rehearsedUpload ∧ ∃ master thumbnail,
      Complete sampleDeployment s upload master thumbnail := by
  obtain ⟨labels, labels', s, t, run, -, holds⟩ := overtaking_reached
  simp only [overtaking, Bool.and_eq_true] at holds
  obtain ⟨upload, member, named, ready⟩ := ready_of_isReady holds.1.1.1
  exact ⟨s, upload, member, named,
    ready_complete run member ready (uniform_of_plain holds.2.1 upload.id)⟩

/-- What worker `a` publishes after worker `b` changes nothing. -/
theorem ready_immutable_sample : ∃ s t : SystemState, (s.past 2).length < (t.past 2).length ∧
    isReady s = true ∧ derivativesOf rehearsedUpload t.shared.store =
      derivativesOf rehearsedUpload s.shared.store := by
  obtain ⟨labels, labels', s, t, run, rest, holds⟩ := overtaking_reached
  simp only [overtaking, Bool.and_eq_true, decide_eq_true_eq] at holds
  obtain ⟨⟨⟨here, there⟩, longer, -⟩, -, plain⟩ := holds
  obtain ⟨upload, member, named, ready⟩ := ready_of_isReady here
  obtain ⟨after, listed, same, still⟩ := ready_of_isReady there
  refine ⟨s, t, longer, here, ?_⟩
  rw [← named]
  exact ready_immutable run rest member ready (uniform_of_plain plain upload.id) listed
    (same.trans named.symm) (by rw [still]; decide)

end MediaBooster.Processing
