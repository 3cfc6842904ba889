/-
# Processing.Facts -- the attempts on one upload agree

Workers overlap: a lease runs out while its worker goes on, and another worker claims the job
and starts over.  What an attempt stores is named by the digest of the source and by the
watermark.  The first start of an upload records the digest and the detected type of its
source, and no step changes them again (`HasFacts`); every attempt has recorded them itself or
compared them with what was recorded (`Reports`), and draws what the upload is pinned to.  An
upload that is pinned to no revision is drawn with the watermark of the worker's own process.

* `attempts_agree`: in every run, all attempts on one upload work with the same digest for the
  same tenant, whatever was published, expired or claimed again in between; they draw the same
  watermark, and under each file name store the same object key, where the upload is pinned to a
  revision or their processes are configured with one watermark.
-/
import MediaBooster.Policies.Pinning
import MediaBooster.Service.Histories.Publications

namespace MediaBooster.Processing

set_option autoImplicit false

open MediaBooster.Domain MediaBooster.Service MediaBooster.Service.Deployment
open MediaBooster.Policies MediaBooster.Storage MediaBooster.Store
open MediaBooster.Theory.Run MediaBooster.Theory.Threads MediaBooster.Theory.Transaction
open SourceValidationWorker (Prepared Begun Digested derivativeText)

/-! ## The facts of a row -/

/-- The digest of a source and what was detected. -/
structure Facts where
  digest : String
  contentType : Option String

/-- The upload was started, with these facts. -/
structure HasFacts (facts : Facts) (row : UploadRow) : Prop where
  digest : row.sourceSha256 = some facts.digest
  contentType : row.detectedContentType = facts.contentType
  begun : row.state ≠ .created ∧ row.state ≠ .quarantined

theorem HasFacts.unique {facts other : Facts} {row : UploadRow} (has : HasFacts facts row)
    (has' : HasFacts other row) : facts = other := by
  obtain ⟨digest, contentType⟩ := facts
  obtain ⟨digest', contentType'⟩ := other
  obtain rfl := Option.some.inj (has.digest.symm.trans has'.digest)
  obtain rfl := has.contentType.symm.trans has'.contentType
  rfl

/-- **No call changes the facts of an upload that was started.** -/
theorem HasFacts.moved {facts : Facts} {store : SqliteStore} {op : Op} {before after : UploadRow}
    (has : HasFacts facts before) (move : RowMove store op before after) : HasFacts facts after := by
  have chain := move.evolves.chain
  cases move with
  | same => exact has
  | confirmed _ created => exact absurd created has.begun.1
  | started startable => exact absurd (startable_iff.1 startable).2 has.begun.2
  | aborted _ created => exact absurd created has.begun.1
  | requested | leased | retried => exact ⟨has.digest, has.contentType, has.begun⟩
  | tombstoned | published | rejected =>
      refine ⟨has.digest, has.contentType, ?_⟩
      constructor <;> exact fun same => by cases same

/-- Before an upload is started nothing is known of its source. -/
def IsBlank (row : UploadRow) : Prop :=
  row.state = .created ∨ row.state = .quarantined → row.sourceSha256 = none

theorem IsBlank.moved {store : SqliteStore} {op : Op} {before after : UploadRow}
    (blank : IsBlank before) (move : RowMove store op before after) : IsBlank after := by
  cases move with
  | same => exact blank
  | confirmed _ created => exact fun _ => blank (.inl created)
  | requested | leased | retried => exact blank
  | started | aborted | tombstoned | published | rejected =>
      rintro (same | same) <;> cases same

/-- A start that succeeded left the upload started with its facts. -/
theorem startProcessing_begins {uploadId : UploadId} {contentType digest : String}
    {now : OffsetDateTime} {store store' : SqliteStore} (integrity : store.Integrity)
    (ran : startProcessing uploadId contentType digest now store = (.ok (), store')) :
    ∃ row ∈ store'.uploads, row.id = uploadId ∧ HasFacts ⟨digest, some contentType⟩ row := by
  obtain ⟨failed, -⟩ | ⟨-, rest⟩ := call_checked_cases ran
  · cases failed
  obtain ⟨-, upload, hits, moved⟩ | ⟨rfl, ⟨error, failed⟩ | ⟨-, verdict⟩⟩ :=
    updateUploads_reachedOne integrity (fun row hits => (startable_iff.1 hits).1) rest
  · refine ⟨_, moved.moved_mem, (startable_iff.1 hits).1, rfl, rfl, ?_⟩
    constructor <;> exact fun same => by cases same
  · cases failed
  · split at verdict
    · rename_i found
      obtain ⟨row, stored, already⟩ := (Option.any_eq_true _ _).1 found
      simp only [alreadyProcessing, Bool.and_eq_true, beq_iff_eq] at already
      obtain ⟨⟨processing, detected⟩, recorded⟩ := already
      refine ⟨row, List.mem_of_find?_eq_some stored, by simpa using List.find?_some stored,
        recorded, detected, ?_⟩
      rw [processing]
      decide
    · cases verdict

/-! ## What attempts hear -/

/-- The exchange told a thread the facts of the upload. -/
def Reports (uploadId : UploadId) (facts : Facts) : Exchange Answer → Prop
  | ⟨.store (.findProcessingSource asked), .ok (some source)⟩ => asked = uploadId ∧
      source.sourceSha256 = some facts.digest ∧ source.detectedContentType = facts.contentType
  | ⟨.store (.startProcessing asked contentType digest _), .ok ()⟩ => asked = uploadId ∧
      facts = ⟨digest, some contentType⟩
  | _ => False

/-- The thread read the source of the upload. -/
def Found (uploadId : UploadId) (source : ProcessingSource) (exchange : Exchange Answer) : Prop :=
  exchange = ⟨.store (.findProcessingSource uploadId), .ok (some source)⟩

/-- Threads were told the facts of the rows, and all the same ones. -/
structure Factual (d : Deployment) (s : SystemState) : Prop where
  recorded : d.Recorded s
  blank : ∀ row ∈ s.shared.store.uploads, IsBlank row
  known : ∀ i exchange, exchange ∈ s.past i → ∀ uploadId facts, Reports uploadId facts exchange →
    KnownUpload d s uploadId (HasFacts facts)
  agree : ∀ i j exchange exchange', exchange ∈ s.past i → exchange' ∈ s.past j →
    ∀ uploadId facts facts', Reports uploadId facts exchange → Reports uploadId facts' exchange' →
      facts = facts'
  sized : ∀ i exchange, exchange ∈ s.past i → ∀ uploadId source, Found uploadId source exchange →
    KnownUpload d s uploadId fun row => row.expectedSizeBytes = source.expectedSizeBytes

section Steps

variable {d : Deployment} {s t : SystemState} {label : SystemLabel} {i j : Nat}
variable {exchange : Exchange Answer} {uploadId : UploadId} {facts : Facts}

/-- What every call keeps of a row stays known. -/
theorem knownUpload_moved {P : UploadRow → Prop} (known : KnownUpload d s uploadId P)
    (recorded : d.Recorded s) (step : d.machine.Step s label t)
    (stable : ∀ op before after, RowMove s.shared.store op before after → P before → P after) :
    KnownUpload d t uploadId P where
  spent := known.spent.step step
  holds := fun after member same => by
    obtain old | ⟨before, there, op, ok, -, move⟩ | reserves := recorded.upload_cases step member
    · exact known.holds after old same
    · exact stable op before after move (known.holds before there (move.evolves.id.symm.trans same))
    · rw [← same] at known
      exact absurd known.spent reserves.fresh

/-- A step starts no upload that is only reserved. -/
theorem blank_step (recorded : d.Recorded s) (step : d.machine.Step s label t)
    (blank : ∀ row ∈ s.shared.store.uploads, IsBlank row) :
    ∀ row ∈ t.shared.store.uploads, IsBlank row := by
  intro row member
  obtain same | ⟨op, ok, calls, answers⟩ := store_cases step
  · rw [same] at member
    exact blank row member
  obtain same | ran := answers_ran answers
  · rw [same] at member
    exact blank row member
  obtain ⟨before, there, move⟩ | ⟨-, apart⟩ := answers.rowMoves recorded.integrity row member
  · exact (blank before there).moved move
  obtain ⟨before, there, same⟩ | ⟨batch, capacity, rfl, -⟩ :=
    answers.uploads_from recorded.integrity row member
  · exact absurd same (apart before there)
  · have saved : saveBatch batch capacity s.shared.store =
        ((saveBatch batch capacity s.shared.store).1, t.shared.store) := Prod.ext rfl ran.symm
    obtain old | ⟨-, undigested⟩ := saveBatch_rows saved row member
    · exact blank row old
    · exact fun _ => undigested

/-- The row has the size a step reads. -/
theorem found_row {source : ProcessingSource} (step : d.machine.Step s (.asked i exchange) t)
    (found : Found uploadId source exchange) : ∃ row ∈ t.shared.store.uploads,
      row.id = uploadId ∧ row.expectedSizeBytes = source.expectedSizeBytes := by
  obtain ⟨call, next, asked⟩ := step.asked_cases
  subst found
  obtain ⟨store', replies, moved⟩ :=
    (asked.answered : s.shared.Answers (.store (.findProcessingSource uploadId)) _ t.shared)
  cases replies with
  | ran ran =>
      obtain ⟨rfl, row, member, rfl, decoded⟩ := findProcessingSource_ok ran
      refine ⟨row, by rw [moved]; exact member, rfl, ?_⟩
      rw [processingSourceFromRow] at decoded
      split at decoded
      · cases decoded
      · rename_i size converted
        cases decoded
        exact (u64TryFrom_eq_some.1 converted).1

/-- **The row has the facts a step reports.** -/
theorem reports_row (factual : Factual d s) (step : d.machine.Step s (.asked i exchange) t)
    (reports : Reports uploadId facts exchange) :
    ∃ row ∈ t.shared.store.uploads, row.id = uploadId ∧ HasFacts facts row := by
  obtain ⟨call, next, asked⟩ := step.asked_cases
  obtain ⟨request, answer⟩ := exchange
  have answered : s.shared.Answers request answer t.shared := asked.answered
  unfold Reports at reports
  split at reports
  · rename_i named source same
    cases same
    obtain ⟨rfl, digest, contentType⟩ := reports
    obtain ⟨store', replies, moved⟩ := answered
    cases replies with
    | ran ran =>
        obtain ⟨rfl, row, member, rfl, decoded⟩ := findProcessingSource_ok ran
        have unblank : row.sourceSha256 = some facts.digest := by
          rw [← processingSourceFromRow_digest decoded, digest]
        have detected : row.detectedContentType = facts.contentType := by
          rw [← contentType, processingSourceFromRow] at *
          split at decoded
          · cases decoded
          · cases decoded
            rfl
        refine ⟨row, by rw [moved]; exact member, rfl, unblank, detected, ?_, ?_⟩
        · intro created
          rw [factual.blank row member (.inl created)] at unblank
          cases unblank
        · intro quarantined
          rw [factual.blank row member (.inr quarantined)] at unblank
          cases unblank
  · rename_i named contentType digest now same
    cases same
    obtain ⟨rfl, rfl⟩ := reports
    obtain ⟨store', replies, moved⟩ := answered
    cases replies with
    | ran ran =>
        obtain ⟨row, member, same, has⟩ := startProcessing_begins factual.recorded.integrity ran
        exact ⟨row, by rw [moved]; exact member, same, has⟩
  · exact reports.elim

theorem Factual.step (factual : Factual d s) (step : d.machine.Step s label t) : Factual d t := by
  have recorded := factual.recorded.step step
  have kept : ∀ j exchange', exchange' ∈ s.past j → ∀ uploadId facts,
      Reports uploadId facts exchange' → KnownUpload d t uploadId (HasFacts facts) :=
    fun j exchange' old uploadId facts reports => knownUpload_moved
      (factual.known j exchange' old uploadId facts reports) factual.recorded step
        fun _ _ _ move has => has.moved move
  have met : ∀ {i exchange}, label = .asked i exchange → ∀ uploadId facts,
      Reports uploadId facts exchange →
        ∃ row ∈ t.shared.store.uploads, row.id = uploadId ∧ HasFacts facts row := by
    rintro i exchange rfl uploadId facts reports
    exact reports_row factual step reports
  refine ⟨recorded, ?_, ?_, ?_, ?_⟩
  · exact blank_step factual.recorded step factual.blank
  · refine step.learns (P := fun _ exchange => ∀ uploadId facts, Reports uploadId facts exchange →
      KnownUpload d t uploadId (HasFacts facts)) kept (fun _ known => known) ?_
    intro i exchange asked uploadId facts reports
    obtain ⟨row, member, rfl, has⟩ := met asked uploadId facts reports
    exact .of_row recorded member has
  · have fresh : ∀ i exchange, label = .asked i exchange → ∀ j exchange', exchange' ∈ t.past j →
        ∀ uploadId facts facts', Reports uploadId facts exchange →
          Reports uploadId facts' exchange' → facts = facts' := by
      intro i exchange asked j exchange' heard uploadId facts facts' reports reports'
      obtain ⟨row, member, same, has⟩ := met asked uploadId facts reports
      obtain old | new := step.heard_cases heard
      · exact has.unique ((kept j exchange' old uploadId facts' reports').holds row member same)
      · obtain ⟨row', member', same', has'⟩ := met new uploadId facts' reports'
        rw [recorded.integrity.uploadIds.eq_of_key member' member (same'.trans same.symm)] at has'
        exact has.unique has'
    intro i j exchange exchange' heard heard' uploadId facts facts' reports reports'
    obtain old | new := step.heard_cases heard
    · obtain old' | new' := step.heard_cases heard'
      · exact factual.agree i j exchange exchange' old old' uploadId facts facts' reports reports'
      · exact (fresh j exchange' new' i exchange heard uploadId facts' facts reports' reports).symm
    · exact fresh i exchange new j exchange' heard' uploadId facts facts' reports reports'
  · intro i exchange heard uploadId source found
    obtain old | rfl := step.heard_cases heard
    · refine (factual.sized i exchange old uploadId source found).step factual.recorded step ?_
      intro before after evolves sized
      exact (congrArg UploadReserved.expectedSizeBytes evolves.reserved).trans sized
    · obtain ⟨row, member, rfl, sized⟩ := found_row step found
      exact .of_row recorded member sized

theorem run_factual {clock : OffsetDateTime} {labels : List SystemLabel}
    (run : Trace d.machine.Step (.initial (.fresh clock)) labels s) : Factual d s := by
  refine run.keeps (fun _ _ _ step factual => factual.step step)
    ⟨recorded_initial clock, ?_, ?_, ?_, ?_⟩
  · exact fun _ member => nomatch member
  · exact fun _ _ heard => by cases heard
  · exact fun _ _ _ _ heard => by cases heard
  · exact fun _ _ heard => by cases heard

end Steps

/-! ## Agreement -/

section Agreement

variable {d : Deployment} {s : SystemState} {i j : Nat}
variable {configuration configuration' : WorkerConfiguration}
variable {leased leased' : LeasedProcessingJob} {source source' : ProcessingSource}
variable {digest digest' contentType contentType' : String}
variable {watermark watermark' : Option WatermarkPolicy}

/-- An attempt that has begun was told what it works with. -/
theorem Begun.reported {past : History} (sourced : Sourced past leased source)
    (named : source.uploadId = leased.job.uploadId) (begun : Begun past source digest contentType) :
    ∃ exchange ∈ past, Reports leased.job.uploadId ⟨digest, some contentType⟩ exchange := by
  obtain ⟨recorded, detected⟩ | ⟨startedAt, member⟩ := begun
  · exact ⟨_, sourced.found, rfl, recorded, detected⟩
  · exact ⟨_, member, named, rfl⟩

/-- An attempt that stores under a digest was told it. -/
theorem Digested.reported {past : History} (sourced : Sourced past leased source)
    (named : source.uploadId = leased.job.uploadId) (digested : Digested past source digest) :
    ∃ exchange ∈ past, ∃ contentType, Reports leased.job.uploadId ⟨digest, contentType⟩ exchange := by
  obtain recorded | ⟨contentType, startedAt, member⟩ := digested
  · exact ⟨_, sourced.found, source.detectedContentType, rfl, recorded, rfl⟩
  · exact ⟨_, member, some contentType, named, rfl⟩

/-- Attempts on one upload store under one digest. -/
theorem Factual.digests_agree {pins : UploadId → Pin → Prop} (factual : Factual d s)
    (pinned : Pinned d pins s)
    (prepared : (d.worker configuration).Prepared (s.past i) leased source digest watermark)
    (prepared' : (d.worker configuration').Prepared (s.past j) leased' source' digest' watermark')
    (same : leased.job.uploadId = leased'.job.uploadId) : digest = digest' := by
  obtain ⟨named, -⟩ := pinned.heard i _ prepared.sourced.found
  obtain ⟨named', -⟩ := pinned.heard j _ prepared'.sourced.found
  obtain ⟨exchange, heard, contentType, reports⟩ :=
    Digested.reported prepared.sourced named prepared.digested
  obtain ⟨exchange', heard', contentType', reports'⟩ :=
    Digested.reported prepared'.sourced named' prepared'.digested
  rw [← same] at reports'
  exact congrArg Facts.digest
    (factual.agree i j exchange exchange' heard heard' _ _ _ reports reports')

/-- Attempts on one upload work for one tenant. -/
theorem sources_agree {pins : UploadId → Pin → Prop} (pinned : Pinned d pins s)
    (sourced : Sourced (s.past i) leased source) (sourced' : Sourced (s.past j) leased' source')
    (same : leased.job.uploadId = leased'.job.uploadId) :
    source.tenantId = source'.tenantId ∧ source.uploadId = source'.uploadId := by
  obtain ⟨named, ⟨pin, known, owner⟩, -⟩ := pinned.heard i _ sourced.found
  obtain ⟨named', ⟨pin', known', owner'⟩, -⟩ := pinned.heard j _ sourced'.found
  rw [← same] at known'
  obtain rfl := pinned.unique _ _ _ known known'
  exact ⟨owner.trans owner'.symm, named.trans (same.trans named'.symm)⟩

/-- The watermark of the attempt does not hang on its process: the job has a policy revision, or
both processes are configured with one watermark. -/
def OneWatermark (leased : LeasedProcessingJob) (configuration configuration' : WorkerConfiguration) :
    Prop :=
  leased.job.sitePolicyRevision = none →
    configuration'.policy.watermark = configuration.policy.watermark

/-- No watermark of an attempt on the upload hangs on its process. -/
def Uniform (s : SystemState) (uploadId : UploadId) : Prop :=
  ∀ i j configuration configuration' leased leased', Works s i configuration →
    Works s j configuration' → Holding (s.past i) leased → Holding (s.past j) leased' →
    leased.job.uploadId = uploadId → leased'.job.uploadId = uploadId →
      OneWatermark leased configuration configuration'

theorem Works.step {t : SystemState} {label : SystemLabel} (works : Works s i configuration)
    (step : d.machine.Step s label t) : Works t i configuration := by
  obtain ⟨workerId, called⟩ := works
  exact ⟨workerId, step.call called⟩

theorem Prepares.step {t : SystemState} {label : SystemLabel}
    (prepares : Prepares d s i configuration leased source digest watermark)
    (step : d.machine.Step s label t) :
    Prepares d t i configuration leased source digest watermark where
  works := Works.step prepares.works step
  prepared := prepares.prepared.mono (by
    rw [step.past]
    exact List.subset_append_left _ _)

/-- What holds of all attempts held of those before. -/
theorem Uniform.before {t : SystemState} {label : SystemLabel} {uploadId : UploadId}
    (uniform : Uniform t uploadId) (step : d.machine.Step s label t) : Uniform s uploadId := by
  have grown : ∀ i, s.past i ⊆ t.past i := by
    intro i
    rw [step.past]
    exact List.subset_append_left _ _
  intro i j configuration configuration' leased leased' works works' holding holding'
  exact uniform i j configuration configuration' leased leased' (Works.step works step)
    (Works.step works' step) (holding.mono (grown i)) (holding'.mono (grown j))

/-- **The attempts on one upload agree.**  In every run, whatever leases expire and whatever is
claimed, published or confirmed in between, an attempt on the upload of another one works with
the same digest for the same tenant, and every object key that any attempt on this upload writes
is the key of one of the file names under them, for the watermark it draws.  The watermark is the
same, too, where the job has a policy revision or both processes are configured with one. -/
theorem attempts_agree {clock : OffsetDateTime} {labels : List SystemLabel}
    (run : Trace d.machine.Step (.initial (.fresh clock)) labels s)
    (prepares : Prepares d s i configuration leased source digest watermark) :
    (∀ j configuration' leased' source' digest' watermark',
      Prepares d s j configuration' leased' source' digest' watermark' →
      leased'.job.uploadId = leased.job.uploadId →
        digest' = digest ∧ source'.tenantId = source.tenantId ∧
          (OneWatermark leased configuration configuration' → watermark' = watermark)) ∧
      ∀ j leased' key, Holding (s.past j) leased' → leased'.job.uploadId = leased.job.uploadId →
        WroteKey s j key → ∃ configuration' watermark', Works s j configuration' ∧
          (OneWatermark leased configuration configuration' → watermark' = watermark) ∧
          ∃ name ∈ derivativeNames, key = derivativeText source digest watermark' name := by
  obtain ⟨pins, pinned, -, -⟩ := pinned_run run (pinned_initial clock)
  have factual := run_factual run
  have attempting := run_attempting run
  have agree : ∀ j configuration' leased' source' digest' watermark',
      Prepares d s j configuration' leased' source' digest' watermark' →
      leased'.job.uploadId = leased.job.uploadId →
        digest' = digest ∧ source'.tenantId = source.tenantId ∧
          (OneWatermark leased configuration configuration' → watermark' = watermark) := by
    intro j configuration' leased' source' digest' watermark' prepares' same
    refine ⟨factual.digests_agree pinned prepares'.prepared prepares.prepared same,
      (sources_agree pinned prepares'.prepared.sourced prepares.prepared.sourced same).1, ?_⟩
    intro settled
    exact (pinned.chosen prepares prepares' same.symm fun none => (settled none).symm).symm
  refine ⟨agree, ?_⟩
  intro j leased' key holding same wrote
  obtain ⟨configuration', lease, source', digest', watermark', prepares', name, named, built⟩ :=
    attempting.wrote wrote
  have sourced' := prepares'.prepared.sourced
  rw [attempting.once j _ _ holding sourced'.holding] at same
  obtain ⟨tenant, upload⟩ := sources_agree pinned sourced' prepares.prepared.sourced same
  obtain ⟨rfl, -, settled⟩ := agree j _ _ _ _ _ prepares' same
  refine ⟨configuration', watermark', prepares'.works, settled, name, named, ?_⟩
  rw [built, derivativeText, derivativeText, tenant, upload]

end Agreement

/-! ## A sample -/

/-- Worker `a` comes to its publication; its lease expires, and worker `b` claims the job and
does the work again. -/
def repeatedSchedule : List (Command ServiceCall Event) :=
  reserveImage ++ confirmImage ++
    [.start (.work sampleWorker "a"), .run 2 45, .start (.work sampleWorker "b"), .run 3 40]

/-- The exchange is a claim of a job of the upload. -/
def claimsUpload (uploadId : UploadId) : Exchange Answer → Bool
  | ⟨.store (.claimNext ..), .ok (some leased)⟩ => leased.job.uploadId == uploadId
  | _ => false

theorem holding_of_claims {past : History} {uploadId : UploadId}
    (claimed : past.any (claimsUpload uploadId) = true) :
    ∃ leased, Holding past leased ∧ leased.job.uploadId = uploadId := by
  obtain ⟨exchange, member, claims⟩ := List.any_eq_true.1 claimed
  unfold claimsUpload at claims
  split at claims
  · rename_i workerId now leaseFor leased
    exact ⟨leased, ⟨workerId, now, leaseFor, member⟩, beq_iff_eq.1 claims⟩
  · cases claims

/-- A thread that put something wrote a key. -/
theorem wroteKey_of_puts {s : SystemState} {i : Nat} (put : (s.past i).any puts = true) :
    ∃ key, WroteKey s i key := by
  obtain ⟨exchange, member, holds⟩ := List.any_eq_true.1 put
  unfold puts at holds
  split at holds
  · rename_i bucket key contentLength answer
    exact ⟨key, bucket, contentLength, answer, member⟩
  · cases holds

/-- The call is none of a worker process with a watermark. -/
def worksPlainly : ServiceCall → Bool
  | .work configuration _ => configuration.policy.watermark.isNone
  | _ => true

/-- No worker process has a watermark of its own. -/
def plainWorkers (s : SystemState) : Bool := s.threads.all fun thread => worksPlainly thread.call

theorem watermark_of_plain {s : SystemState} {i : Nat} {configuration : WorkerConfiguration}
    (plain : plainWorkers s = true) (works : Works s i configuration) :
    configuration.policy.watermark = none := by
  obtain ⟨workerId, called⟩ := works
  obtain ⟨thread, there, same⟩ := Option.map_eq_some_iff.1 called
  have own := List.all_eq_true.1 plain thread (List.mem_of_getElem? there)
  rw [same] at own
  exact Option.isNone_iff_eq_none.1 own

theorem uniform_of_plain {s : SystemState} (plain : plainWorkers s = true) (uploadId : UploadId) :
    Uniform s uploadId := fun _ _ _ _ _ _ works works' _ _ _ _ _ =>
  (watermark_of_plain plain works').trans (watermark_of_plain plain works).symm

/-- Two threads that work on the upload and have put something. -/
def repeated (s : SystemState) : Bool :=
  (s.past 2).any (claimsUpload rehearsedUpload) && (s.past 2).any puts &&
    ((s.past 3).any (claimsUpload rehearsedUpload) && (s.past 3).any puts) && plainWorkers s

theorem repeated_reached : ∃ labels, ∃ s : SystemState,
    Trace sampleDeployment.machine.Step (.initial (.fresh (sampleTime 0))) labels s ∧
      repeated s = true := by
  have played : ((sampleDeployment.rehearsal (100 * 1000000000)).play (fun _ _ => true)
      (.fresh (sampleTime 0)) repeatedSchedule).any repeated = true := by
    decide +kernel
  obtain ⟨s, led, holds⟩ := (Option.any_eq_true _ _).1 played
  obtain ⟨labels, run⟩ := Responder.play_runs led
  exact ⟨labels, s, run.unguarded, holds⟩

/-- The second worker of the sample writes the keys of the first. -/
theorem attempts_agree_sample : ∃ s : SystemState, ∃ source digest watermark key name,
    WroteKey s 2 (derivativeText source digest watermark name) ∧ WroteKey s 3 key ∧
      ∃ other ∈ derivativeNames, key = derivativeText source digest watermark other := by
  obtain ⟨labels, s, run, holds⟩ := repeated_reached
  simp only [repeated, Bool.and_eq_true] at holds
  obtain ⟨⟨⟨claimed, put⟩, claimed', put'⟩, plain⟩ := holds
  have attempting := run_attempting run
  obtain ⟨first, wrote⟩ := wroteKey_of_puts put
  obtain ⟨key, wrote'⟩ := wroteKey_of_puts put'
  obtain ⟨leased, holding, upload⟩ := holding_of_claims claimed
  obtain ⟨leased', holding', upload'⟩ := holding_of_claims claimed'
  obtain ⟨configuration, lease, source, digest, watermark, prepares, name, -, built⟩ :=
    attempting.wrote wrote
  rw [attempting.once 2 _ _ holding prepares.prepared.sourced.holding] at upload
  obtain ⟨configuration', watermark', works', settled, other, named, same⟩ :=
    (attempts_agree run prepares).2 3 leased' key holding' (upload'.trans upload.symm) wrote'
  obtain rfl := settled fun _ =>
    (watermark_of_plain plain works').trans (watermark_of_plain plain prepares.works).symm
  exact ⟨s, source, digest, watermark', key, name, built ▸ wrote, wrote', other, named, same⟩

end MediaBooster.Processing
