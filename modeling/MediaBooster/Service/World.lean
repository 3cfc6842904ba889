/-
# Service.World -- what the services ask for, and the world that answers

A service talks to five things: the clock, the generator of identifiers, the store, the
provider, and the machine it runs on (its files, its media sandbox, its timers).  `Ask` is a
request to any of them and `Answer` the type of its answer; a service is a `Program` over
them.

`World` is what the answers depend on.  `World.Answers` is one atomic exchange: a store call
runs or is refused, a provider request ends as `Storage.Provider.Answers` allows, identifiers
are never drawn twice, and what the host machine answers is up to it.
-/
import MediaBooster.Media.Format
import MediaBooster.Storage.Provider
import MediaBooster.Store.Calls
import MediaBooster.Theory.Threads

namespace MediaBooster.Service

set_option autoImplicit false

open MediaBooster.Domain MediaBooster.Media MediaBooster.Storage MediaBooster.Store
open MediaBooster.Theory.Threads MediaBooster.Theory.Transaction

/-! ## The host machine -/

/-- What the sandbox found in a source. -/
inductive MediaInspection
  | image (contentType : String) (heavy : Bool)
  | video (format : MediaFormat) (contentType : String)
deriving DecidableEq

/-- Sandbox failure. -/
inductive SandboxProbeError
  | invalidConfiguration
  | operational
  | spawn
  | timeout
  | rejected
  | outputTooLarge
  | invalidJson
  | output
  | invalidOutput
deriving DecidableEq

/-- Trusted operational watermark policy. -/
structure WatermarkPolicy where
  assetPath : String
  assetSha256 : String
  presetRevision : String
  position : WatermarkPosition
  marginPx : Nat
  maxWidthPercent : Nat
  opacityPercent : Nat
deriving DecidableEq

/-- A private file of one job. -/
inductive JobFile
  | source
  | master
  | thumbnail
  | watermark
deriving DecidableEq

/-- Shared gates of a worker process. -/
inductive ResourceGate
  | tempDisk (permits : Nat)
  | heavyImage
  | video
deriving DecidableEq

/-- A request to the host machine. -/
inductive HostRequest
  | heartbeats
  | acquire (gate : ResourceGate)
  | createJobDirectory
  | saveDownload (file : JobFile)
  | detectFile (declaredKind : MediaKind)
  | sha256File (file : JobFile)
  | fileLength (file : JobFile)
  | copyWatermarkAsset
  | inspect (declaredKind : MediaKind)
  | imageMaster (watermark : Option WatermarkPolicy)
  | renderThumbnail (inspection : MediaInspection) (watermark : Option WatermarkPolicy)
deriving DecidableEq

/-- What the host answers. -/
@[reducible] def HostRequest.Output : HostRequest → Type
  | .heartbeats => Nat
  | .acquire _ | .createJobDirectory | .detectFile _ => Bool
  | .saveDownload _ => Except ObjectStoreError Unit
  | .sha256File _ => Option String
  | .fileLength _ | .copyWatermarkAsset => Option Nat
  | .inspect _ => Except SandboxProbeError MediaInspection
  | .imageMaster _ | .renderThumbnail _ _ => Except SandboxProbeError Unit

/-! ## Requests -/

/-- A presigned request: its URL. -/
abbrev PresignedUpload := String

/-- One request of a service. -/
inductive Ask
  | now
  | drawId
  | store (op : Op)
  | provider (request : ProviderRequest)
  | presignPut (bucket key : String) (contentLength : Nat)
  | presignPart (bucket key uploadId : String) (partNumber contentLength : Nat)
  | host (request : HostRequest)

/-- The answer to a request. -/
@[reducible] def Answer : Ask → Type
  | .now => OffsetDateTime
  | .drawId => Uuid
  | .store op => Except op.Error op.Result
  | .provider request => Except ProviderError request.Output
  | .presignPut .. | .presignPart .. => Except String PresignedUpload
  | .host request => request.Output

/-- A program of a service that may fail with an `ε`. -/
abbrev Action (ε α : Type) := Attempt Answer ε α

/-! ## The world -/

/-- The shared state of every service. -/
structure World where
  store : SqliteStore
  provider : Provider
  /-- Identifiers drawn so far. -/
  drawn : List Uuid
  /-- Keys a `PUT` was signed for, with their buckets. -/
  signed : List (String × String)
  /-- The last reading of the clock. -/
  clock : OffsetDateTime

/-- The answer is allowed and leaves the other world. -/
def World.Answers (w : World) : (ask : Ask) → Answer ask → World → Prop
  | .now, reading, w' => w' = { w with clock := reading }
  | .drawId, uuid, w' => uuid ∉ w.drawn ∧ w' = { w with drawn := uuid :: w.drawn }
  | .store op, answer, w' =>
      ∃ store', Replies op.call w.store answer store' ∧ w' = { w with store := store' }
  | .provider request, answer, w' =>
      ∃ provider', w.provider.Answers request answer provider' ∧
        w' = { w with provider := provider' }
  | .presignPut bucket key _, .ok _, w' => w' = { w with signed := (bucket, key) :: w.signed }
  | .presignPut .., .error _, w' => w' = w
  | .presignPart .., _, w' => w' = w
  | .host _, _, w' => w' = w

/-- An exchange in which nothing goes wrong outside the service: the store runs the call and
the provider carries the request out, or turns it down for a reason. -/
def World.Serves (w : World) : (ask : Ask) → Answer ask → World → Prop
  | .store op, answer, w' =>
      ∃ store', op.call w.store = (answer, store') ∧ w' = { w with store := store' }
  | .provider request, .ok output, w' =>
      ∃ provider', w.provider.Performs request output provider' ∧
        w' = { w with provider := provider' }
  | .provider request, .error error, w' => w.provider.Refuses request error ∧ w' = w
  | .presignPut bucket key _, .ok _, w' => w' = { w with signed := (bucket, key) :: w.signed }
  | .presignPut .., .error _, _ => False
  | .presignPart .., .ok _, w' => w' = w
  | .presignPart .., .error _, _ => False
  | ask, answer, w' => w.Answers ask answer w'

/-! ## Requests as services -/

/-- `OffsetDateTime::now_utc`. -/
def now {ε : Type} : Action ε OffsetDateTime := Attempt.lift (Program.request Ask.now)

/-- `Uuid::now_v7`. -/
def drawId {ε : Type} : Action ε Uuid := Attempt.lift (Program.request Ask.drawId)

/-- A call of the store. -/
def call (op : Op) : Action op.Error op.Result :=
  Attempt.ofProgram (Program.request (Ask.store op))

/-- A request to the provider. -/
def provider (request : ProviderRequest) : Action ProviderError request.Output :=
  Attempt.ofProgram (Program.request (Ask.provider request))

/-- A request to the host machine. -/
def host {ε : Type} (request : HostRequest) : Action ε request.Output :=
  Attempt.lift (Program.request (Ask.host request))

end MediaBooster.Service
