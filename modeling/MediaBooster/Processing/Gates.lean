/-
# Processing.Gates -- the semaphores of a worker cannot deadlock

A job takes permits of the temporary disk before it looks at its source, and then, where the
source is a heavy image or a video, one permit of that lane.  It gives them back in the other
order when it ends, however it ends.

The jobs are the programs of `validate_downloaded_source`: what they ask at the gates, and in
which order, is a rule of the program (`follows_gates`), and by it every run of the jobs is a run
of `Theory.Gates` with the temporary disk below the lanes.

* `gates_cannot_deadlock`: where a job waits, some job holds permits and waits for nothing; the
  first waiter holds all it asked for once the holders have given theirs back; and no set of jobs
  waits for each other.
-/
import MediaBooster.Processing.TempDisk
import MediaBooster.Service.Histories
import MediaBooster.Theory.Gates

namespace MediaBooster.Processing

set_option autoImplicit false

open MediaBooster.Domain MediaBooster.Service MediaBooster.Store MediaBooster.Theory.Gates
open MediaBooster.Theory.Run MediaBooster.Theory.Threads
open SourceValidationWorker (sha256File recordStart acquireTransformPermit)

/-! ## What a job asks for -/

/-- `ResourceGates`. -/
inductive Gate
  | tempDisk
  | heavyImages
  | videos
deriving DecidableEq

/-- The gate of a request. -/
def gateOf : ResourceGate → Gate
  | .tempDisk _ => .tempDisk
  | .heavyImage => .heavyImages
  | .video => .videos

/-- The permits of a request. -/
def permitsOf : ResourceGate → Nat
  | .tempDisk permits => permits
  | .heavyImage | .video => 1

/-- The gate a request is for, if any. -/
def gateAsked : Ask → Option Gate
  | .host (.acquire gate) => some (gateOf gate)
  | _ => none

/-- The gates some exchanges were at. -/
def gatesOf (past : History) : List Gate := past.filterMap fun exchange => gateAsked exchange.1

/-- A request that is not for a gate. -/
def Passes (request : Ask) : Prop := gateAsked request = none

variable {worker : SourceValidationWorker}

/-- What a job asks at the gates: first its temporary disk, where its source is within the
limit, then at most one lane. -/
def GateRule (worker : SourceValidationWorker) (source : ProcessingSource) (past : History) :
    Ask → Prop
  | .host (.acquire (.tempDisk permits)) => gatesOf past = [] ∧
      source.expectedSizeBytes ≤ worker.maxLength source.declaredKind ∧
      worker.reservedPermits source.expectedSizeBytes = some permits
  | .host (.acquire _) => ∀ gate ∈ gatesOf past, gate = .tempDisk
  | _ => True

theorem Passes.rule {source : ProcessingSource} {past : History} {request : Ask}
    (passes : Passes request) : GateRule worker source past request := by
  cases request with
  | host request =>
      cases request with
      | acquire gate => cases passes
      | _ => trivial
  | _ => trivial

theorem gatesOf_append_passes {past more : History}
    (passes : ∀ exchange ∈ more, Passes exchange.1) : gatesOf (past ++ more) = gatesOf past := by
  have none : gatesOf more = [] := List.filterMap_eq_nil_iff.2 passes
  unfold gatesOf at none ⊢
  rw [List.filterMap_append, none, List.append_nil]

section Passing

variable (worker)

theorem sha256File_passes (file : JobFile) (failure : ProcessingFailure) :
    (sha256File file failure).Only Passes :=
  Attempt.only_bind (only_host rfl) fun _ => Attempt.only_okOr _ _

theorem prepareWatermark_passes (tenantId : String) (sitePolicyRevision : Option Nat) :
    (worker.prepareWatermark tenantId sitePolicyRevision).Only Passes := by
  cases sitePolicyRevision with
  | none =>
      unfold SourceValidationWorker.prepareWatermark
      dsimp only
      split
      · exact Attempt.only_pure _
      refine Attempt.only_bind ?_ fun _ => Attempt.only_pure _
      refine Attempt.only_bind (only_host rfl) fun length => ?_
      refine Attempt.only_bind (Attempt.only_okOr _ _) fun copied => ?_
      refine Attempt.only_bind (Attempt.only_ensure _ _) fun _ => ?_
      refine Attempt.only_bind (sha256File_passes _ _) fun digest => ?_
      exact Attempt.only_bind (Attempt.only_ensure _ _) fun _ => Attempt.only_pure _
  | some revision =>
      refine Attempt.only_bind (Attempt.only_mapError (only_call rfl)) fun found => ?_
      refine Attempt.only_bind (Attempt.only_okOr _ _) fun snapshot => ?_
      refine Attempt.only_bind (Attempt.only_ensure _ _) fun _ => ?_
      split
      · exact Attempt.only_pure _
      refine Attempt.only_bind ?_ fun _ => Attempt.only_pure _
      refine Attempt.only_bind
        (Attempt.only_mapError (S3CompatibleStore.only_downloadTo rfl rfl)) fun _ => ?_
      refine Attempt.only_bind (sha256File_passes _ _) fun digest => ?_
      exact Attempt.only_bind (Attempt.only_ensure _ _) fun _ => Attempt.only_pure _

theorem recordStart_passes (source : ProcessingSource) (digest contentType : String) :
    (recordStart source digest contentType).Only Passes := by
  unfold recordStart
  split
  · exact Attempt.only_bind (only_now rfl) fun _ => Attempt.only_mapError (only_call rfl)
  · exact Attempt.only_ensure _ _

theorem uploadGeneratedDerivative_passes (file : JobFile) (objectKey : ObjectKey)
    (presetId variant contentType : String) :
    (worker.uploadGeneratedDerivative file objectKey presetId variant contentType).Only Passes := by
  refine Attempt.only_bind (only_host rfl) fun length => ?_
  refine Attempt.only_bind (Attempt.only_okOr _ _) fun byteLen => ?_
  refine Attempt.only_bind (Attempt.only_ensure _ _) fun _ => ?_
  refine Attempt.only_bind (sha256File_passes _ _) fun sha256 => ?_
  refine Attempt.only_bind
    (Attempt.only_mapError (S3CompatibleStore.only_putFile rfl fun _ => rfl)) fun stored => ?_
  exact Attempt.only_bind (Attempt.only_ensure _ _) fun _ => Attempt.only_pure _

theorem storeMaster_passes (source : ProcessingSource) (digest presetId : String)
    (watermark : Option WatermarkPolicy) (inspection : MediaInspection) :
    (worker.storeMaster source digest presetId watermark inspection).Only Passes := by
  cases inspection with
  | image contentType heavy =>
      refine Attempt.only_bind (only_host rfl) fun rendered => ?_
      refine Attempt.only_bind (Attempt.only_ofExcept _) fun _ => ?_
      refine Attempt.only_bind (Attempt.only_okOr _ _) fun masterKey => ?_
      exact uploadGeneratedDerivative_passes worker _ _ _ _ _
  | video format contentType =>
      refine Attempt.only_bind (Attempt.only_okOr _ _) fun extension => ?_
      refine Attempt.only_bind (Attempt.only_okOr _ _) fun masterKey => ?_
      refine Attempt.only_bind
        (Attempt.only_mapError (S3CompatibleStore.only_putFile rfl fun _ => rfl)) fun stored => ?_
      exact Attempt.only_bind (Attempt.only_ensure _ _) fun _ => Attempt.only_pure _

theorem storeThumbnail_passes (source : ProcessingSource) (digest presetId : String)
    (inspection : MediaInspection) (watermark : Option WatermarkPolicy) :
    (worker.storeThumbnail source digest presetId inspection watermark).Only Passes := by
  refine Attempt.only_bind (only_host rfl) fun rendered => ?_
  refine Attempt.only_bind (Attempt.only_ofExcept _) fun _ => ?_
  refine Attempt.only_bind (Attempt.only_okOr _ _) fun thumbnailKey => ?_
  exact uploadGeneratedDerivative_passes worker _ _ _ _ _

end Passing

/-- Looking at a source asks for temporary disk, and for nothing else at the gates. -/
theorem follows_inspectSource (source : ProcessingSource) :
    (worker.inspectSource source).Follows (GateRule worker source)
      (fun past _ => ∀ gate ∈ gatesOf past, gate = .tempDisk) [] := by
  unfold SourceValidationWorker.inspectSource
  refine Attempt.follows_ensure (fun admitted => ?_) fun _ => nofun
  unfold SourceValidationWorker.acquireTempDiskPermit
  refine Attempt.follows_bind (Q := fun past _ => ∀ gate ∈ gatesOf past, gate = .tempDisk) ?_
    (fun past _ inside => ?_) fun past _ inside => inside
  · refine Attempt.follows_okOr (fun permits reserved => ?_) fun _ => nofun
    refine follows_host ⟨rfl, of_decide_eq_true admitted, reserved⟩ fun acquired => ?_
    have inside : ∀ gate ∈ gatesOf [⟨.host (.acquire (.tempDisk permits)), acquired⟩],
        gate = .tempDisk := fun gate member => List.mem_singleton.1 member
    cases acquired <;> exact inside
  · have quiet : Attempt.Only Passes (do
        let created ← host .createJobDirectory
        Attempt.ensure created (.transient "TEMP_STORAGE_UNAVAILABLE")
        Attempt.mapError classifyStorageError (worker.rawStore.downloadTo source.objectKey .source
          source.expectedSizeBytes (worker.maxLength source.declaredKind))
        let detected ← host (.detectFile source.declaredKind)
        Attempt.ensure detected (.permanent "MEDIA_SIGNATURE_REJECTED")
        let digest ← sha256File .source (.transient "TEMP_STORAGE_UNAVAILABLE")
        let inspected ← host (.inspect source.declaredKind)
        let inspection ← Attempt.ofExcept (inspected.mapError classifySandboxError)
        return (digest, inspection) : Action ProcessingFailure (String × MediaInspection)) := by
      refine Attempt.only_bind (only_host rfl) fun created => ?_
      refine Attempt.only_bind (Attempt.only_ensure _ _) fun _ => ?_
      refine Attempt.only_bind
        (Attempt.only_mapError (S3CompatibleStore.only_downloadTo rfl rfl)) fun _ => ?_
      refine Attempt.only_bind (only_host rfl) fun detected => ?_
      refine Attempt.only_bind (Attempt.only_ensure _ _) fun _ => ?_
      refine Attempt.only_bind (sha256File_passes _ _) fun digest => ?_
      refine Attempt.only_bind (only_host rfl) fun inspected => ?_
      exact Attempt.only_bind (Attempt.only_ofExcept _) fun _ => Attempt.only_pure _
    refine (Attempt.follows_adds quiet fun _ _ passes => passes.rule).weaken ?_
    rintro _ _ ⟨more, rfl, passes⟩
    rw [gatesOf_append_passes passes]
    exact inside

/-- **A job asks for its temporary disk first, and then for at most one lane.** -/
theorem follows_gates (worker : SourceValidationWorker) (source : ProcessingSource) (sitePolicyRevision : Option Nat) :
    (worker.validateDownloadedSource source sitePolicyRevision).Follows (GateRule worker source)
      (fun _ _ => True) [] := by
  unfold SourceValidationWorker.validateDownloadedSource
  refine Attempt.follows_bind (follows_inspectSource source) ?_ fun _ _ _ => trivial
  rintro past ⟨digest, inspection⟩ inside
  have lane : (acquireTransformPermit inspection).Follows (GateRule worker source)
      (fun _ _ => True) past := by
    unfold acquireTransformPermit
    split
    · exact Attempt.follows_pure trivial
    · exact follows_host inside fun acquired => by cases acquired <;> trivial
    · exact follows_host inside fun acquired => by cases acquired <;> trivial
  refine Attempt.follows_bind lane (fun past _ _ => ?_) fun _ _ _ => trivial
  have quiet : Attempt.Only Passes (do
      recordStart source digest inspection.contentType
      let watermark ← worker.prepareWatermark source.tenantId sitePolicyRevision
      let presetId := watermark.elim defaultDerivativePreset WatermarkPolicy.presetId
      let master ← worker.storeMaster source digest presetId watermark inspection
      let thumbnail ← worker.storeThumbnail source digest presetId inspection watermark
      let publishedAt ← now
      Attempt.mapError (fun _ => .transient "DATABASE_UNAVAILABLE")
        (call (.publishDerivatives source.uploadId [master, thumbnail] publishedAt)) :
      Action ProcessingFailure Unit) := by
    refine Attempt.only_bind (recordStart_passes _ _ _) fun _ => ?_
    refine Attempt.only_bind (prepareWatermark_passes worker _ _) fun watermark => ?_
    refine Attempt.only_bind (storeMaster_passes worker _ _ _ _ _) fun master => ?_
    refine Attempt.only_bind (storeThumbnail_passes worker _ _ _ _ _) fun thumbnail => ?_
    exact Attempt.only_bind (only_now rfl) fun _ => Attempt.only_mapError (only_call rfl)
  exact (Attempt.follows_adds quiet fun _ _ passes => passes.rule).weaken fun _ _ _ => trivial

/-! ## The jobs of a worker at its gates -/

/-- The jobs a worker may come to: the source of each, and the policy revision it is pinned to. -/
structure JobTable where
  source : Nat → ProcessingSource
  sitePolicyRevision : Nat → Option Nat

/-- What a job does. -/
def JobTable.program (worker : SourceValidationWorker) (jobs : JobTable) (job : Nat) :
    Program Answer (Except ProcessingFailure Unit) :=
  (worker.validateDownloadedSource (jobs.source job) (jobs.sitePolicyRevision job)).attempt

/-- The gates of a worker: the temporary disk is taken before a lane. -/
def gateRules (worker : SourceValidationWorker) (jobs : JobTable) : Rules Gate Nat where
  capacity
    | .tempDisk => totalPermits worker
    | .heavyImages => worker.policy.maxConcurrentHeavyImages
    | .videos => worker.policy.maxConcurrentVideos
  weight
    | .tempDisk, job => (worker.reservedPermits (jobs.source job).expectedSizeBytes).getD 0
    | .heavyImages, _ | .videos, _ => 1
  rank
    | .tempDisk => 0
    | .heavyImages | .videos => 1
  top := 1
  ranked gate := by cases gate <;> decide

@[simp] theorem weight_tempDisk {jobs : JobTable} (job : Nat) :
    (gateRules worker jobs).weight .tempDisk job =
      (worker.reservedPermits (jobs.source job).expectedSizeBytes).getD 0 := rfl

@[simp] theorem capacity_tempDisk {jobs : JobTable} :
    (gateRules worker jobs).capacity .tempDisk = totalPermits worker := by
  dsimp only [gateRules]

/-- Where the jobs stand, and who is at the gates. -/
structure Jobs where
  stands : Nat → Option (Program Answer (Except ProcessingFailure Unit))
  gates : Pools Gate Nat

namespace Jobs

/-- Before any job. -/
def idle : Jobs := ⟨fun _ => none, Pools.empty⟩

variable (running : Jobs)

/-- The job holds permits of the gate, or waits for them. -/
def IsAt (job : Nat) (gate : Gate) : Prop :=
  running.gates.Holds job gate ∨ running.gates.Waits job gate

/-- A job went on. -/
def moved (job : Nat) (stand : Option (Program Answer (Except ProcessingFailure Unit))) : Jobs :=
  { running with stands := Function.update running.stands job stand }

/-- A gate changed. -/
def atGate (gate : Gate) (pool : Theory.Permits.Pool Nat) : Jobs :=
  { running with gates := Function.update running.gates gate pool }

/-- A job queued at a gate. -/
def queued (rules : Rules Gate Nat) (job : Nat) (gate : Gate) : Jobs :=
  running.atGate gate (queue (rules.capacity gate) (rules.weight gate) job (running.gates gate))

/-- A job left a gate. -/
def departed (rules : Rules Gate Nat) (job : Nat) (gate : Gate) : Jobs :=
  running.atGate gate (leave (rules.capacity gate) (rules.weight gate) job (running.gates gate))

end Jobs

/-- What happens to the jobs. -/
inductive JobEvent
  | started (job : Nat)
  | exchanged (job : Nat)
  | asked (job : Nat) (request : ResourceGate)
  | entered (job : Nat)
  | ended (job : Nat)
  | released (job : Nat) (gate : Gate)

/-- One step of the jobs of a worker.  A job may end anywhere: its program is done, or it is
dropped.  It gives back its lane before its temporary disk. -/
inductive JobStep (worker : SourceValidationWorker) (jobs : JobTable) : Jobs → JobEvent → Jobs → Prop
  | started {running : Jobs} {job : Nat} (absent : running.stands job = none)
      (fresh : ∀ gate, ¬ running.IsAt job gate) :
      JobStep worker jobs running (.started job) (running.moved job (jobs.program worker job))
  | exchanged {running : Jobs} {job : Nat} {request : Ask}
      {next : Answer request → Program Answer (Except ProcessingFailure Unit)}
      (stands : running.stands job = some (.ask request next)) (passes : Passes request)
      (answer : Answer request) :
      JobStep worker jobs running (.exchanged job) (running.moved job (some (next answer)))
  | asked {running : Jobs} {job : Nat} {request : ResourceGate}
      {next : Bool → Program Answer (Except ProcessingFailure Unit)}
      (stands : running.stands job = some (.ask (.host (.acquire request)) next))
      (outside : ¬ running.IsAt job (gateOf request)) :
      JobStep worker jobs running (.asked job request)
        (running.queued (gateRules worker jobs) job (gateOf request))
  | entered {running : Jobs} {job : Nat} {request : ResourceGate}
      {next : Bool → Program Answer (Except ProcessingFailure Unit)}
      (stands : running.stands job = some (.ask (.host (.acquire request)) next))
      (granted : running.gates.Holds job (gateOf request)) :
      JobStep worker jobs running (.entered job) (running.moved job (some (next true)))
  | ended {running : Jobs} {job : Nat} :
      JobStep worker jobs running (.ended job) (running.moved job none)
  | released {running : Jobs} {job : Nat} {gate : Gate} (gone : running.stands job = none)
      (lanes : gate = .tempDisk → ∀ other, running.IsAt job other → other = .tempDisk) :
      JobStep worker jobs running (.released job gate)
        (running.departed (gateRules worker jobs) job gate)

/-- What a step of the jobs is at the gates. -/
def JobEvent.atGates : JobEvent → List (Theory.Gates.Event Gate Nat)
  | .asked job request => [.asked job (gateOf request)]
  | .released job gate => [.left job gate]
  | .started _ | .exchanged _ | .entered _ | .ended _ => []

/-! ## The jobs keep the order of the gates -/

/-- The program is about to ask at the gate. -/
def AsksAt (program : Program Answer (Except ProcessingFailure Unit)) (gate : Gate) : Prop :=
  ∃ request next, program = .ask request next ∧ gateAsked request = some gate

/-- What holds of the jobs at any time: a job that goes on is at the gates it was granted, and at
the one it asks for; it waits at that one only. -/
structure AtGates (worker : SourceValidationWorker) (jobs : JobTable) (running : Jobs) : Prop where
  orderly : Orderly (gateRules worker jobs) running.gates
  stands : ∀ job program, running.stands job = some program → ∃ past,
    At (jobs.program worker job) past program ∧
      (∀ gate, running.IsAt job gate → gate ∈ gatesOf past ∨ AsksAt program gate) ∧
      ∀ gate, running.gates.Waits job gate → AsksAt program gate

variable {jobs : JobTable} {running later : Jobs} {event : JobEvent}

theorem reserved_le {kind : MediaKind} {size : Nat} (admitted : size ≤ worker.maxLength kind) :
    (worker.reservedPermits size).getD 0 ≤ totalPermits worker :=
  jobPermits_le ⟨kind, size, admitted⟩

/-- What a job that asks at a gate may count on. -/
theorem asked_allowed {job : Nat} {past : History} {request : ResourceGate}
    {next : Bool → Program Answer (Except ProcessingFailure Unit)}
    (stands : At (jobs.program worker job) past (.ask (.host (.acquire request)) next)) :
    (gateRules worker jobs).weight (gateOf request) job = permitsOf request ∧
    (gateRules worker jobs).weight (gateOf request) job ≤
        (gateRules worker jobs).capacity (gateOf request) ∧
      ∀ gate ∈ gatesOf past,
        (gateRules worker jobs).rank gate < (gateRules worker jobs).rank (gateOf request) := by
  have rule : GateRule worker (jobs.source job) past (.host (.acquire request)) :=
    (Theory.Threads.Follows.at (follows_gates worker (jobs.source job)
      (jobs.sitePolicyRevision job)) stands).1
  have valid := worker.valid
  simp only [WorkerPolicy.isValid, Bool.and_eq_true, decide_eq_true_eq] at valid
  obtain ⟨⟨⟨⟨⟨⟨⟨⟨⟨-, images⟩, videos⟩, -⟩, -⟩, -⟩, -⟩, -⟩, -⟩, -⟩ := valid
  cases request with
  | tempDisk permits =>
      obtain ⟨none, admitted, reserved⟩ := rule
      refine ⟨?_, ?_, fun gate member => ?_⟩
      · rw [gateOf, weight_tempDisk, reserved, Option.getD_some]
        rfl
      · rw [gateOf, weight_tempDisk, capacity_tempDisk]
        exact reserved_le admitted
      · rw [none] at member
        cases member
  | heavyImage =>
      refine ⟨rfl, images.1, fun gate member => ?_⟩
      rw [rule gate member]
      exact Nat.zero_lt_one
  | video =>
      refine ⟨rfl, videos.1, fun gate member => ?_⟩
      rw [rule gate member]
      exact Nat.zero_lt_one

/-- A step at the gates keeps what holds of every job that did not ask. -/
theorem AtGates.others (at_gates : AtGates worker jobs running) {gates : Pools Gate Nat}
    {event : Theory.Gates.Event Gate Nat}
    (step : Theory.Gates.Step (gateRules worker jobs) running.gates event gates)
    (asker : ∀ job program gate, event = .asked job gate → running.stands job = some program →
      AsksAt program gate) : AtGates worker jobs { running with gates := gates } where
  orderly := at_gates.orderly.step step
  stands job program stands := by
    obtain ⟨past, reached, inside, waits⟩ := at_gates.stands job program stands
    refine ⟨past, reached, fun gate there => ?_, fun gate waiting => ?_⟩
    · obtain before | same := step.at_gate there
      · exact inside gate before
      · exact .inr (asker job program gate same stands)
    · obtain before | same := step.waits_gate waiting
      · exact waits gate before
      · exact asker job program gate same stands

/-- A job that goes on where it may keeps what holds of all. -/
theorem AtGates.moved (at_gates : AtGates worker jobs running) {job : Nat}
    {stand : Option (Program Answer (Except ProcessingFailure Unit))}
    (mine : ∀ program, stand = some program → ∃ past, At (jobs.program worker job) past program ∧
      (∀ gate, running.IsAt job gate → gate ∈ gatesOf past ∨ AsksAt program gate) ∧
      ∀ gate, running.gates.Waits job gate → AsksAt program gate) :
    AtGates worker jobs (running.moved job stand) where
  orderly := at_gates.orderly
  stands other program stands := by
    unfold Jobs.moved at stands
    dsimp only at stands
    by_cases same : other = job
    · subst same
      rw [Function.update_self] at stands
      exact mine program stands
    · rw [Function.update_of_ne same] at stands
      exact at_gates.stands other program stands

/-- **Every step of the jobs is a step at the gates**, or none. -/
theorem JobStep.atGates (step : JobStep worker jobs running event later)
    (at_gates : AtGates worker jobs running) :
    Trace (Theory.Gates.Step (gateRules worker jobs)) running.gates event.atGates later.gates ∧
      AtGates worker jobs later := by
  cases step with
  | @started job absent fresh =>
      refine ⟨.nil _, at_gates.moved fun program same => ?_⟩
      cases same
      exact ⟨[], .start, fun gate there => absurd there (fresh gate),
        fun gate waits => absurd (.inr waits) (fresh gate)⟩
  | @exchanged job request next stands passes answer =>
      refine ⟨.nil _, at_gates.moved fun program same => ?_⟩
      cases same
      obtain ⟨past, reached, inside, waits⟩ := at_gates.stands job _ stands
      have quiet : ∀ gate, ¬ AsksAt (.ask request next) gate := by
        rintro gate ⟨_, _, same, asks⟩
        cases same
        rw [Passes] at passes
        rw [passes] at asks
        cases asks
      refine ⟨_, .heard reached answer, fun gate there => .inl ?_, fun gate waiting =>
        absurd (waits gate waiting) (quiet gate)⟩
      rw [gatesOf_append_passes fun exchange member => by
        rw [List.mem_singleton.1 member]
        exact passes]
      exact (inside gate there).resolve_right (quiet gate)
  | @asked job request next stands outside =>
      obtain ⟨past, reached, inside, waits⟩ := at_gates.stands job _ stands
      obtain ⟨-, fits, lower⟩ := asked_allowed reached
      have asks : ∀ gate, AsksAt (.ask (.host (.acquire request)) next) gate → gate = gateOf request := by
        rintro gate ⟨_, _, same, asks⟩
        cases same
        exact (Option.some.inj asks).symm
      have gateStep : Theory.Gates.Step (gateRules worker jobs) running.gates
          (.asked job (gateOf request)) (Function.update running.gates (gateOf request)
            (queue ((gateRules worker jobs).capacity (gateOf request))
              ((gateRules worker jobs).weight (gateOf request)) job
              (running.gates (gateOf request)))) := by
        refine .asked (fun other waiting => ?_) (fun other holds => ?_) fits
        · obtain rfl := asks other (waits other waiting)
          exact outside (.inr waiting)
        · obtain before | now := inside other (.inl holds)
          · exact lower other before
          · obtain rfl := asks other now
            exact absurd (.inl holds) outside
      refine ⟨.cons gateStep (.nil _), at_gates.others gateStep ?_⟩
      rintro other program gate same stands'
      cases same
      rw [stands] at stands'
      cases stands'
      exact ⟨_, _, rfl, rfl⟩
  | @entered job request next stands granted =>
      refine ⟨.nil _, at_gates.moved fun program same => ?_⟩
      cases same
      obtain ⟨past, reached, inside, waits⟩ := at_gates.stands job _ stands
      have asks : ∀ gate, AsksAt (.ask (.host (.acquire request)) next) gate → gate = gateOf request := by
        rintro gate ⟨_, _, same, asks⟩
        cases same
        exact (Option.some.inj asks).symm
      refine ⟨_, .heard reached true, fun gate there => .inl ?_, fun gate waiting => ?_⟩
      · rw [gatesOf, List.filterMap_append]
        obtain before | now := inside gate there
        · exact List.mem_append_left _ before
        · rw [asks gate now]
          exact List.mem_append_right _ (List.mem_singleton_self _)
      · obtain rfl := asks gate (waits gate waiting)
        exact absurd (at_gates.orderly.rising job _ _ waiting granted) (Nat.lt_irrefl _)
  | @ended job => exact ⟨.nil _, at_gates.moved fun program same => by cases same⟩
  | @released job gate gone lanes =>
      have gateStep : Theory.Gates.Step (gateRules worker jobs) running.gates (.left job gate) _ :=
        .left
      exact ⟨.cons gateStep (.nil _), at_gates.others gateStep fun _ _ _ same => by cases same⟩

/-- **Every run of the jobs is a run at the gates.** -/
theorem run_atGates {events : List JobEvent}
    (run : Trace (JobStep worker jobs) running events later)
    (at_gates : AtGates worker jobs running) :
    Trace (Theory.Gates.Step (gateRules worker jobs)) running.gates
      (events.flatMap JobEvent.atGates) later.gates ∧ AtGates worker jobs later := by
  induction run with
  | nil => exact ⟨.nil _, at_gates⟩
  | cons step rest ih =>
      obtain ⟨first, middle⟩ := step.atGates at_gates
      obtain ⟨following, last⟩ := ih middle
      exact ⟨first.append following, last⟩

theorem atGates_idle : AtGates worker jobs Jobs.idle :=
  ⟨orderly_empty _, fun _ _ stands => by cases stands⟩

/-- **A job waits for as many permits as it asks for.** -/
theorem weight_asked {events : List JobEvent}
    (run : Trace (JobStep worker jobs) Jobs.idle events running) {job : Nat} {request : ResourceGate}
    (step : JobStep worker jobs running (.asked job request) later) :
    (gateRules worker jobs).weight (gateOf request) job = permitsOf request := by
  cases step with
  | asked stands outside =>
      obtain ⟨past, reached, -, -⟩ := (run_atGates run atGates_idle).2.stands job _ stands
      exact (asked_allowed reached).1

/-- **The gates of a worker cannot deadlock.**  At any time of any run of any jobs: where a job
waits, some job holds permits and waits for nothing; once the jobs that hold permits at a gate
have given them back, its first waiter holds all it asked for, whatever else happened; and no set
of jobs waits for each other. -/
theorem gates_cannot_deadlock (worker : SourceValidationWorker) (jobs : JobTable) (running : Jobs)
    (events : List JobEvent) (run : Trace (JobStep worker jobs) Jobs.idle events running) :
    (∀ job gate, running.gates.Waits job gate →
      ∃ holder other, running.gates.Holds holder other ∧ ∀ third, ¬ running.gates.Waits holder third) ∧
    (∀ gate first rest, (running.gates gate).waiting = first :: rest →
      ∀ more later, Trace (JobStep worker jobs) running more later →
        JobEvent.released first gate ∉ more →
        (∀ holder, running.gates.Holds holder gate → JobEvent.released holder gate ∈ more) →
        later.gates.Holds first gate) ∧
    ∀ waiters : Set Nat, waiters.Nonempty →
      ∃ one ∈ waiters, ∀ other ∈ waiters, ¬ running.gates.WaitsFor one other := by
  obtain ⟨-, at_gates⟩ := run_atGates run atGates_idle
  refine ⟨fun job gate waits => at_gates.orderly.free_holder waits, ?_, ?_⟩
  · intro gate first rest queued more later further stays finish
    obtain ⟨atGates, -⟩ := run_atGates further at_gates
    have left : ∀ job, Theory.Gates.Event.left job gate ∈ more.flatMap JobEvent.atGates ↔
        JobEvent.released job gate ∈ more := by
      intro job
      rw [List.mem_flatMap]
      constructor
      · rintro ⟨event, member, same⟩
        cases event with
        | released other there =>
            obtain ⟨rfl, rfl⟩ : job = other ∧ gate = there := by
              simpa [JobEvent.atGates] using same
            exact member
        | asked => simp [JobEvent.atGates] at same
        | started | exchanged | entered | ended => cases same
      · exact fun member => ⟨_, member, List.mem_singleton_self _⟩
    exact at_gates.orderly.granted_after atGates queued (fun member => stays ((left first).1 member))
      fun holder holds => (left holder).2 (finish holder holds)
  · rintro waiters ⟨one, member⟩
    exact at_gates.orderly.no_mutual_wait waiters member

/-! ## Two videos at a small disk -/

theorem smallDisk : TwoJobs 1 (3 + maxWatermarkBytes) := by
  constructor <;> decide

/-- Two videos of one byte. -/
def twoVideos : JobTable where
  source _ :=
    { uploadId := sampleUploadId, tenantId := "g5", objectKey := sampleRow.objectKey
      declaredKind := .video, expectedSizeBytes := 1, state := .quarantined
      detectedContentType := none, sourceSha256 := none }
  sitePolicyRevision _ := none

/-- A job whose source is within its limit starts by asking for temporary disk. -/
theorem program_asks {job permits : Nat}
    (admitted : (jobs.source job).expectedSizeBytes ≤ worker.maxLength (jobs.source job).declaredKind)
    (reserved : worker.reservedPermits (jobs.source job).expectedSizeBytes = some permits) :
    ∃ next, jobs.program worker job = .ask (.host (.acquire (.tempDisk permits))) next := by
  unfold JobTable.program SourceValidationWorker.validateDownloadedSource
    SourceValidationWorker.inspectSource SourceValidationWorker.acquireTempDiskPermit
  rw [reserved, decide_eq_true admitted]
  exact ⟨_, rfl⟩

/-- The gates of the two videos. -/
def videoGates : Rules Gate Nat := gateRules (twoJobWorker smallDisk) twoVideos

/-- The first video has the disk, and the second waits for it. -/
def oneWaits : Jobs :=
  (((Jobs.idle.moved 0 (twoVideos.program (twoJobWorker smallDisk) 0)).queued videoGates 0
    .tempDisk).moved 1 (twoVideos.program (twoJobWorker smallDisk) 1)).queued videoGates 1 .tempDisk

theorem video_permits : (twoJobWorker smallDisk).reservedPermits 1 = some 17 := by
  calc (twoJobWorker smallDisk).reservedPermits 1
      = some (permitsFor (reservation (videoJob smallDisk 1 (le_refl 1)))) :=
        reservedPermits_eq (videoJob smallDisk 1 (le_refl 1))
    _ = some (permitsFor (1 + 2 + maxWatermarkBytes)) := by rw [reservation_videoJob]
    _ = some 17 := by decide

theorem videoGates_weight : videoGates.weight .tempDisk = fun _ => 17 := by
  funext job
  unfold videoGates
  rw [weight_tempDisk]
  show ((twoJobWorker smallDisk).reservedPermits 1).getD 0 = 17
  rw [video_permits, Option.getD_some]

theorem videoGates_capacity : videoGates.capacity .tempDisk = 17 := by
  unfold videoGates
  rw [capacity_tempDisk, totalPermits_eq]
  show permitsFor (3 + maxWatermarkBytes) = 17
  decide

theorem oneWaits_queue : oneWaits.gates .tempDisk = ⟨[0], [1]⟩ := by
  simp only [oneWaits, Jobs.queued, Jobs.atGate, Jobs.moved, Jobs.idle, Pools.empty,
    Function.update_self, queue, videoGates_weight, videoGates_capacity]
  rfl

theorem oneWaits_runs : Trace (JobStep (twoJobWorker smallDisk) twoVideos) Jobs.idle
    [.started 0, .asked 0 (.tempDisk 17), .started 1, .asked 1 (.tempDisk 17)] oneWaits := by
  have asks : ∀ job, ∃ next, twoVideos.program (twoJobWorker smallDisk) job =
      .ask (.host (.acquire (.tempDisk 17))) next := fun job =>
    program_asks (show 1 ≤ _ from Nat.le_refl 1) video_permits
  obtain ⟨first, asks₀⟩ := asks 0
  obtain ⟨second, asks₁⟩ := asks 1
  have outside : ∀ gate, ¬ Jobs.idle.IsAt 0 gate := fun gate there => there.elim nofun nofun
  have stands : ∀ (running : Jobs) job next, twoVideos.program (twoJobWorker smallDisk) job =
      .ask (.host (.acquire (.tempDisk 17))) next →
        (running.moved job (twoVideos.program (twoJobWorker smallDisk) job)).stands job =
          some (.ask (.host (.acquire (.tempDisk 17))) next) := by
    intro running job next asks
    rw [asks]
    exact Function.update_self ..
  have apart : ∀ gate, ¬ ((Jobs.idle.moved 0 (twoVideos.program (twoJobWorker smallDisk) 0)).queued
      videoGates 0 .tempDisk).IsAt 1 gate := by
    intro gate
    cases gate with
    | tempDisk =>
        simp only [Jobs.IsAt, Pools.Holds, Pools.Waits, Jobs.queued, Jobs.atGate, Jobs.moved,
          Jobs.idle, Pools.empty, Function.update_self, queue, videoGates_weight, videoGates_capacity]
        show ¬ (1 ∈ [0] ∨ 1 ∈ ([] : List Nat))
        decide
    | heavyImages => exact fun there => there.elim nofun nofun
    | videos => exact fun there => there.elim nofun nofun
  refine .cons (.started rfl outside) (.cons (.asked (stands _ 0 first asks₀) (outside _))
    (.cons (.started rfl apart) (.single (.asked (stands _ 1 second asks₁) (apart _)))))

/-- The second of two videos waits, and the first holds the disk. -/
theorem gates_cannot_deadlock_sample : oneWaits.gates.Waits 1 .tempDisk ∧
    (∃ holder other, oneWaits.gates.Holds holder other ∧ ∀ third, ¬ oneWaits.gates.Waits holder third) ∧
    ∃ one ∈ ({0, 1} : Set Nat), ∀ other ∈ ({0, 1} : Set Nat), ¬ oneWaits.gates.WaitsFor one other := by
  have waits : oneWaits.gates.Waits 1 .tempDisk := by
    unfold Pools.Waits
    rw [oneWaits_queue]
    exact List.mem_singleton_self _
  obtain ⟨free, -, apart⟩ := gates_cannot_deadlock (twoJobWorker smallDisk) twoVideos oneWaits
    [.started 0, .asked 0 (.tempDisk 17), .started 1, .asked 1 (.tempDisk 17)] oneWaits_runs
  exact ⟨waits, free 1 .tempDisk waits, apart {0, 1} ⟨0, Set.mem_insert _ _⟩⟩

end MediaBooster.Processing
