/-
# Service.Rehearsal -- a world that answers by computing

Schedules of the system are computed against a world in which nothing fails: the clock ticks
at every reading, identifiers are drawn in order, the provider carries requests out, and the
sandbox finds a small image.  `rehearsal` is the responder of such a world; what it computes is
a run of the system (`Responder.play_runs`).
-/
import Mathlib.Data.List.Dedup
import Mathlib.Data.List.Sort
import MediaBooster.Service.System
import MediaBooster.Theory.Schedules

namespace MediaBooster.Storage.Provider

set_option autoImplicit false

/-! ## The provider -/

instance (keyPrefix : String) (startAfter : Option String) (key : String) :
    Decidable (Sought keyPrefix startAfter key) :=
  inferInstanceAs (Decidable (_ ∧ _))

/-- The keys of a bucket a listing is asked for, in order. -/
def soughtKeys (p : Provider) (bucket keyPrefix : String) (startAfter : Option String) :
    List String :=
  (((p.stored.filter fun object => object.bucket == bucket).map StoredObject.key).dedup.filter
    fun key => decide (Sought keyPrefix startAfter key)).insertionSort (· ≤ ·)

/-- The outcome of a request the provider carries out or turns down. -/
def outcome (p : Provider) : (request : ProviderRequest) →
    Option (Except ProviderError request.Output × Provider)
  | .putObject bucket key contentLength =>
      some (.ok (), p.store bucket key (some contentLength))
  | .getObject bucket key =>
      match p.objects bucket key with
      | some length => some (.ok (some (length : Int)), p)
      | none => some (.error .noSuchKey, p)
  | .headObject bucket key =>
      match p.objects bucket key with
      | some length => some (.ok (some (length : Int)), p)
      | none => some (.error .notFound, p)
  | .deleteObject bucket key => some (.ok (), p.store bucket key none)
  | .listObjectsV2 bucket keyPrefix startAfter maxKeys =>
      if (p.soughtKeys bucket keyPrefix startAfter).length ≤ maxKeys then
        some (.ok (p.page bucket (p.soughtKeys bucket keyPrefix startAfter) false), p)
      else none
  | .createMultipartUpload bucket key =>
      if p.sessions.all fun session => session.uploadId != key then
        some (.ok (some key), { p with sessions := p.sessions ++ [⟨bucket, key, key, .active⟩] })
      else none
  | .completeMultipartUpload bucket key uploadId _ =>
      if p.Active bucket key uploadId then
        some (.ok (), (p.settle uploadId .completed).store bucket key (some 100))
      else some (.error .noSuchUpload, p)
  | .abortMultipartUpload bucket key uploadId =>
      if p.Active bucket key uploadId then some (.ok (), p.settle uploadId .aborted)
      else some (.error .noSuchUpload, p)

theorem mem_soughtKeys {p : Provider} {bucket keyPrefix key : String} {startAfter : Option String} :
    key ∈ p.soughtKeys bucket keyPrefix startAfter ↔
      (p.objects bucket key).isSome ∧ Sought keyPrefix startAfter key := by
  have stored : (∃ object ∈ p.stored, object.bucket = bucket ∧ object.key = key) ↔
      (p.objects bucket key).isSome := by
    simp only [objects, Option.isSome_map, List.find?_isSome, StoredObject.isAt, Bool.and_eq_true,
      beq_iff_eq]
  rw [← stored]
  simp only [soughtKeys, List.mem_insertionSort, List.mem_filter, List.mem_dedup, List.mem_map,
    decide_eq_true_eq, beq_iff_eq]
  constructor
  · rintro ⟨⟨object, ⟨member, here⟩, named⟩, sought⟩
    exact ⟨⟨object, member, here, named⟩, sought⟩
  · rintro ⟨⟨object, member, here, named⟩, sought⟩
    exact ⟨⟨object, ⟨member, here⟩, named⟩, sought⟩

theorem lists_soughtKeys {p : Provider} {bucket keyPrefix : String} {startAfter : Option String}
    {maxKeys : Nat} (fits : (p.soughtKeys bucket keyPrefix startAfter).length ≤ maxKeys) :
    p.Lists bucket keyPrefix startAfter maxKeys (p.soughtKeys bucket keyPrefix startAfter) false where
  bounded := fits
  ascending := by
    have sorted : (p.soughtKeys bucket keyPrefix startAfter).Pairwise (· ≤ ·) :=
      List.pairwise_insertionSort (· ≤ ·) _
    have distinct : (p.soughtKeys bucket keyPrefix startAfter).Nodup := by
      unfold soughtKeys
      rw [(List.perm_insertionSort (· ≤ ·) _).nodup_iff]
      exact (List.nodup_dedup _).filter _
    exact (sorted.and distinct).imp fun both => lt_of_le_of_ne both.1 both.2
  stored := fun key member => mem_soughtKeys.1 member
  complete := fun key there sought => .inl (mem_soughtKeys.2 ⟨there, sought⟩)
  progress := fun truncated => by cases truncated

theorem outcome_answers {p q : Provider} {request : ProviderRequest}
    {answer : Except ProviderError request.Output} (led : p.outcome request = some (answer, q)) :
    p.Answers request answer q := by
  cases request with
  | putObject bucket key contentLength =>
      cases led
      exact .performed .put
  | getObject bucket key =>
      rw [outcome] at led
      split at led
      · rename_i length stored
        cases led
        exact .performed (.got stored)
      · rename_i missing
        cases led
        exact .refused (.ungot missing)
  | headObject bucket key =>
      rw [outcome] at led
      split at led
      · rename_i length stored
        cases led
        exact .performed (.headed stored)
      · rename_i missing
        cases led
        exact .refused (.unheaded missing)
  | deleteObject bucket key =>
      cases led
      exact .performed .deleted
  | listObjectsV2 bucket keyPrefix startAfter maxKeys =>
      rw [outcome] at led
      split at led
      · rename_i fits
        cases led
        exact .performed (.listed (lists_soughtKeys fits))
      · cases led
  | createMultipartUpload bucket key =>
      rw [outcome] at led
      split at led
      · rename_i fresh
        cases led
        refine .performed (.created fun session member => ?_)
        simpa using List.all_eq_true.1 fresh session member
      · cases led
  | completeMultipartUpload bucket key uploadId parts =>
      rw [outcome] at led
      split at led
      · rename_i active
        cases led
        exact .performed (.completed 100 active)
      · rename_i gone
        cases led
        exact .refused (.uncompletable gone)
  | abortMultipartUpload bucket key uploadId =>
      rw [outcome] at led
      split at led
      · rename_i active
        cases led
        exact .performed (.aborted active)
      · rename_i gone
        cases led
        exact .refused (.unabortable gone)

end MediaBooster.Storage.Provider

namespace MediaBooster.Service

set_option autoImplicit false

open MediaBooster.Domain MediaBooster.Lifecycle MediaBooster.Storage MediaBooster.Store
open MediaBooster.Theory.Run MediaBooster.Theory.Threads MediaBooster.Theory.Transaction

/-! ## The host -/

/-- A machine with room, on which every source is a small image. -/
def hostAnswer : (request : HostRequest) → request.Output
  | .heartbeats => (0 : Nat)
  | .acquire _ | .createJobDirectory | .detectFile _ => true
  | .saveDownload _ => .ok ()
  | .sha256File _ => some "0000000000000000000000000000000000000000000000000000000000000000"
  | .fileLength _ | .copyWatermarkAsset => some 100
  | .inspect _ => .ok (.image "image/png" false)
  | .imageMaster _ | .renderThumbnail _ _ => .ok ()

/-! ## The world -/

/-- The next reading of a clock that ticks `nanos` at a time. -/
def World.tick (w : World) (nanos : Int) : OffsetDateTime := (w.clock.shifted nanos).getD w.clock

/-- Identifiers are drawn in order. -/
def World.nextId (w : World) : Uuid := numbered (w.drawn.length + 1)

/-- The answer of a world in which nothing fails, and the world after it. -/
def World.respond (nanos : Int) (w : World) : (ask : Ask) → Option (Answer ask × World)
  | .now => some (w.tick nanos, { w with clock := w.tick nanos })
  | .drawId =>
      if w.nextId ∈ w.drawn then none else some (w.nextId, { w with drawn := w.nextId :: w.drawn })
  | .store op => some ((op.call w.store).1, { w with store := (op.call w.store).2 })
  | .provider request =>
      (w.provider.outcome request).map fun led => (led.1, { w with provider := led.2 })
  | .presignPut bucket key _ =>
      some (.ok key, { w with signed := (bucket, key) :: w.signed })
  | .presignPart _ key _ _ _ => some (.ok key, w)
  | .host request => some (hostAnswer request, w)

/-- What the world makes of an outside event. -/
def World.occur (w : World) : Event → Option World
  | .called op =>
      if Op.isRequest op then some { w with store := (op.call w.store).2 } else none
  | .put bucket key contentLength =>
      if (bucket, key) ∈ w.signed then
        some { w with provider := w.provider.store bucket key (some contentLength) }
      else none

theorem World.respond_answers {nanos : Int} {w w' : World} {ask : Ask} {answer : Answer ask}
    (responded : w.respond nanos ask = some (answer, w')) : w.Answers ask answer w' := by
  cases ask with
  | now =>
      cases responded
      rfl
  | drawId =>
      rw [respond] at responded
      split at responded
      · cases responded
      · rename_i fresh
        cases responded
        exact ⟨fresh, rfl⟩
  | store op =>
      cases responded
      exact ⟨_, .ran rfl, rfl⟩
  | provider request =>
      obtain ⟨⟨outcome, q⟩, led, same⟩ := Option.map_eq_some_iff.1 responded
      cases same
      exact ⟨q, Provider.outcome_answers led, rfl⟩
  | presignPut bucket key contentLength =>
      cases responded
      rfl
  | presignPart bucket key uploadId partNumber contentLength =>
      cases responded
      rfl
  | host request =>
      cases responded
      rfl

theorem World.occur_moves {w w' : World} {event : Event} (occurred : w.occur event = some w') :
    Deployment.Moves w event w' := by
  cases event with
  | called op =>
      rw [occur] at occurred
      split at occurred
      · rename_i request
        cases occurred
        exact ⟨request, _, _, .ran rfl, rfl⟩
      · cases occurred
  | put bucket key contentLength =>
      rw [occur] at occurred
      split at occurred
      · rename_i signed
        cases occurred
        exact ⟨signed, rfl⟩
      · cases occurred

/-- The responder of a world in which nothing fails and the clock ticks `nanos` at a time. -/
def Deployment.rehearsal (d : Deployment) (nanos : Int) : Responder d.machine where
  respond := fun w ask => w.respond nanos ask
  allowed := fun _ _ _ _ responded => World.respond_answers responded
  occur := World.occur
  moves := fun _ _ _ occurred => World.occur_moves occurred

/-! ## A sample deployment -/

theorem second_fits : 1 < 2 ^ 64 := by decide

theorem minute_fits : 60 < 2 ^ 64 := by decide

theorem hundredDays_fits : 100 * 86400 < 2 ^ 64 := by decide

/-- Reservations expire after a second here. -/
def sampleLifecyclePolicy : LifecyclePolicy where
  createdReservationTtl := Duration.fromSecs 1 second_fits
  rejectedSourceRetention := Duration.fromSecs 1 second_fits
  leaseFor := Duration.fromSecs 60 minute_fits
  retryDelay := Duration.fromSecs 1 second_fits
  batchSize := 10
  maxAttempts := 3
  tombstoneRetention := Duration.fromSecs (100 * 86400) hundredDays_fits
  tombstonePurgeBatchSize := 10

theorem sampleLifecyclePolicy_valid : sampleLifecyclePolicy.isValid = true := by decide

def sampleInventoryPolicy : InventoryPolicy where
  orphanGracePeriod := Duration.fromSecs (60 * 60) inventoryHour_fits
  pageSize := 1000
  maxPagesPerNamespace := 1

theorem sampleInventoryPolicy_valid : sampleInventoryPolicy.isValid = true := by decide

def sampleWorkerPolicy : WorkerPolicy where
  leaseFor := Duration.fromSecs 60 minute_fits
  heartbeatEvery := Duration.fromSecs 1 second_fits
  retryDelay := Duration.fromSecs 1 second_fits
  maxAttempts := 2
  maxConcurrentHeavyImages := 1
  maxConcurrentVideos := 1
  maxImageBytes := 1000
  maxVideoBytes := 1000
  maxTempDiskBytes := 1024 * 1024 * 1024
  tempDirectory := "tmp"
  watermark := none

theorem sampleWorkerPolicy_valid : sampleWorkerPolicy.isValid = true := by decide

/-- The configuration of a worker process. -/
def sampleWorker : WorkerConfiguration := ⟨sampleWorkerPolicy, sampleWorkerPolicy_valid⟩

/-- A deployment with small limits. -/
def sampleDeployment : Deployment where
  rawStore := ⟨"raw"⟩
  derivativeStore := ⟨"media"⟩
  batchPolicy :=
    { maxFiles := 10, maxBatchBytes := 1000, maxImageBytes := 1000, maxVideoBytes := 1000
      multipartThresholdBytes := 200, multipartPartSizeBytes := 5 * 1024 * 1024 }
  capacity := ⟨10, 10, 1000, 1000⟩
  lifecyclePolicy := sampleLifecyclePolicy
  lifecycleValid := sampleLifecyclePolicy_valid
  inventoryPolicy := sampleInventoryPolicy
  inventoryValid := sampleInventoryPolicy_valid
  policies := ⟨300, fun _ => "0000000000000000000000000000000000000000000000000000000000000000"⟩

/-! ## Sample schedules -/

/-- What a schedule leads to, a run leads to. -/
theorem Deployment.rehearsed {d : Deployment} {nanos : Int} {clock : OffsetDateTime}
    {meets : SystemState → SystemLabel → Bool} {commands : List (Command ServiceCall Event)}
    {check : SystemState → Bool}
    (played : ((d.rehearsal nanos).play meets (.fresh clock) commands).any check = true) :
    ∃ labels s, d.RunsGuarded (fun s label => meets s label = true) labels s ∧ check s = true := by
  obtain ⟨s, led, holds⟩ := (Option.any_eq_true _ _).1 played
  obtain ⟨labels, run⟩ := Responder.play_runs led
  exact ⟨labels, s, ⟨clock, run⟩, holds⟩

/-- The next exchange of a thread, after a schedule, is a step after its run. -/
theorem Deployment.rehearsed_step {d : Deployment} {nanos : Int} {clock : OffsetDateTime}
    {commands : List (Command ServiceCall Event)} {i : Nat}
    {check : SystemState → SystemState → Bool}
    (played : ((d.rehearsal nanos).performAll (fun _ _ => true) commands
      ⟨.initial (.fresh clock), []⟩).any (fun stage =>
        ((d.rehearsal nanos).exchange (fun _ _ => true) i stage).any fun next =>
          check stage.state next.state) = true) :
    ∃ labels, ∃ s : SystemState, ∃ label, ∃ t : SystemState,
      d.Runs labels s ∧ d.machine.Step s label t ∧ check s t = true := by
  obtain ⟨stage, led, more⟩ := (Option.any_eq_true _ _).1 played
  obtain ⟨next, exchanged, holds⟩ := (Option.any_eq_true _ _).1 more
  obtain ⟨stands, labels, run⟩ := Responder.performAll_runs
    ⟨rfl, fun _ _ _ there => by simp [State.initial] at there⟩ led
  obtain ⟨-, label, step⟩ := Responder.exchange_runs stands exchanged
  exact ⟨labels, stage.state, label, next.state, ⟨clock, run.unguarded⟩, step.1, holds⟩

/-- Whether the program has ended. -/
def ended : Option (Program Answer Unit) → Bool
  | some (.done _) => true
  | _ => false

/-- The threads that have ended after a schedule have ended in its run. -/
theorem Deployment.rehearsed_ends {d : Deployment} {nanos : Int} {clock : OffsetDateTime}
    {commands : List (Command ServiceCall Event)} {threads : List Nat}
    {check : SystemState → Bool}
    (played : ((d.rehearsal nanos).performAll (fun _ _ => true) commands
      ⟨.initial (.fresh clock), []⟩).any (fun stage =>
        threads.all (fun i => ended stage.programs[i]?) && check stage.state) = true) :
    ∃ labels, ∃ s : SystemState, Trace d.machine.Step (.initial (.fresh clock)) labels s ∧
      (∀ i ∈ threads, ∃ call, s.call i = some call ∧
        At (d.program call) (s.past i) (.done ())) ∧ check s = true := by
  obtain ⟨stage, led, holds⟩ := (Option.any_eq_true _ _).1 played
  obtain ⟨finished, checked⟩ := Bool.and_eq_true_iff.1 holds
  obtain ⟨stands, labels, run⟩ := Responder.performAll_runs
    ⟨rfl, fun _ _ _ there => by simp [State.initial] at there⟩ led
  refine ⟨labels, stage.state, run.unguarded, fun i member => ?_, checked⟩
  have ended := List.all_eq_true.1 finished i member
  cases standing : stage.programs[i]? with
  | none =>
      rw [standing] at ended
      cases ended
  | some program =>
      cases program with
      | ask request next =>
          rw [standing] at ended
          cases ended
      | done result =>
          obtain ⟨inside, -⟩ := List.getElem?_eq_some_iff.1 standing
          obtain ⟨thread, there⟩ : ∃ thread, stage.state.threads[i]? = some thread :=
            ⟨_, List.getElem?_eq_getElem (stands.lengths ▸ inside)⟩
          refine ⟨thread.call, ?_, ?_⟩
          · unfold State.call
            rw [there]
            rfl
          · have stood := stands.stood i _ _ there standing
            unfold State.past
            rw [there]
            exact stood

/-- The upload a rehearsal reserves first. -/
def rehearsedUpload : UploadId := ⟨numbered 2⟩

/-- Its raw key. -/
def rehearsedKey : String := rawKeyText "g5" rehearsedUpload

/-- Reserve one image. -/
def reserveImage : List (Command ServiceCall Event) :=
  [.start (.createBatch ⟨"g5", [⟨"a", .image, 100, "image/png"⟩]⟩), .run 0 6]

/-- The browser stores the image, and the site confirms it. -/
def confirmImage : List (Command ServiceCall Event) :=
  [.happen (.put "raw" rehearsedKey 100), .start (.confirmSingleUpload "g5" rehearsedUpload),
    .run 1 5]

/-- A worker processes it. -/
def processImage : List (Command ServiceCall Event) := [.start (.work sampleWorker "w"), .run 2 48]

end MediaBooster.Service
