/-
# Gnuboard7.Policies -- the settings beside the media server's policies

Any number of updates run beside a media server.  What they share is the record of the settings,
the server's store, and the publications that were sent.  The server comes to a publication when it
pleases, or never; an answer of success is the server's own, and every other answer may come at any
time, whatever the server makes of the publication, then or later.  A save may fail, and an update
may be cut off.

* `follows_update`: whatever it is answered, an update saves `applied` only after an answer of
  success to a publication of that revision, with the watermark of that record.
* `policy_state_honest`: a record that says `applied` says what the active policy is, as long as no
  other publication goes in between an update's publication and its last save, and none while the
  record says `applied`.
* `overlapping_updates`: two updates that overlap leave the revision of the first.
-/
import MediaBooster.Auth.Request
import MediaBooster.Domain.Keys
import MediaBooster.Gnuboard7.Settings
import MediaBooster.Policies.Log
import MediaBooster.Service.Policies
import MediaBooster.Theory.Schedules

namespace MediaBooster.Gnuboard7.Admin

set_option autoImplicit false

open MediaBooster.Auth (ApiFailure)
open MediaBooster.Domain
open MediaBooster.Policies (Logged maxRevision_appended policyRevision_grown
  publishSitePolicy_accepted publishSitePolicy_keeps publishSitePolicy_logs)
open MediaBooster.Store (SitePolicyRepositoryError SitePolicyRow SitePolicySnapshot SqliteStore
  StoredWatermarkPolicy PolicyAssetCandidate PublishPolicyOutcome WatermarkColumns WatermarkPosition
  findActiveSitePolicy sampleTime)
open MediaBooster.Service (PublishSitePolicy PublishSitePolicyError RequestedWatermarkPolicy
  SitePolicyService publishError validateAsset validateSnapshotEnvelope validateWatermarkSettings)
open MediaBooster.Theory.Run
open MediaBooster.Theory.Threads

/-! ## The media server -/

/-- The value of a hexadecimal digit. -/
def hexValue (c : Char) : Nat :=
  if c.isDigit then c.toNat - '0'.toNat
  else if c.isLower then c.toNat - 'a'.toNat + 10
  else c.toNat - 'A'.toNat + 10

/-- Groups of 8, 4, 4, 4 and 12 hexadecimal digits. -/
def hyphenated : List (Char → Bool) :=
  List.replicate 8 isHex ++ [fun c => c == '-'] ++ List.replicate 4 isHex ++ [fun c => c == '-'] ++
    List.replicate 4 isHex ++ [fun c => c == '-'] ++ List.replicate 4 isHex ++
    [fun c => c == '-'] ++ List.replicate 12 isHex

/-- `Uuid::parse_str` of the form the module sends. -/
def parseUuid (text : String) : Option Uuid :=
  if ofClasses hyphenated text.toList then
    some ⟨(text.toList.filter (· ≠ '-')).foldl (fun value c => 16 * value + hexValue c) 0 % 2 ^ 128,
      Nat.mod_lt _ (Nat.two_pow_pos 128)⟩
  else none

/-- The name of a position in JSON. -/
def positionName : WatermarkPosition → String
  | .center => "center"
  | .topLeft => "top_left"
  | .topRight => "top_right"
  | .bottomLeft => "bottom_left"
  | .bottomRight => "bottom_right"

/-- The position of a name. -/
def parsePosition (name : String) : Option WatermarkPosition :=
  [WatermarkPosition.center, .topLeft, .topRight, .bottomLeft, .bottomRight].find? fun position =>
    positionName position == name

/-- The watermark of a request's body. -/
def decodeWatermark (payload : WatermarkPayload) : Option RequestedWatermarkPolicy := do
  let uuid ← parseUuid payload.assetUploadId
  let position ← parsePosition payload.position
  let marginPx ← u32TryFrom payload.marginPx
  let maxWidthPercent ← u8TryFrom payload.maxWidthPercent
  let opacityPercent ← u8TryFrom payload.opacityPercent
  return ⟨⟨uuid⟩, position, marginPx, maxWidthPercent, opacityPercent⟩

/-- The watermark of a request's body, if it has one. -/
def decodeWatermarkOption :
    Option WatermarkPayload → Option (Option RequestedWatermarkPolicy)
  | none => some none
  | some payload => (decodeWatermark payload).map some

/-- The request of a body. -/
def decodeRequest (tenantId : String) (payload : PolicyPayload) : Option PublishSitePolicy := do
  let schemaVersion ← u16TryFrom payload.schemaVersion
  let revision ← u64TryFrom payload.revision
  let issuedAt ← OffsetDateTime.fromUnixTimestamp payload.issuedAt
  let watermark ← decodeWatermarkOption payload.watermark
  return ⟨tenantId, schemaVersion, revision, issuedAt, watermark⟩

/-- `ApiFailure::into_response`. -/
def intoResponse (failure : ApiFailure) : Response :=
  ⟨failure.status, false, .map [("code", .text failure.code), ("message", .text failure.message)]⟩

/-- `ApiFailure::invalid_json`. -/
def invalidJson : ApiFailure := ⟨400, "INVALID_JSON", "Request JSON is invalid."⟩

/-- `ApiFailure::from_site_policy`. -/
def fromSitePolicy : PublishSitePolicyError → ApiFailure
  | .invalidTenant | .repository => .notReady
  | .invalidPolicy => ⟨422, "SITE_POLICY_REJECTED", "Site policy violates server hard limits."⟩
  | .assetNotFound => ⟨404, "POLICY_ASSET_NOT_FOUND", "Selected watermark upload was not found."⟩
  | .assetRejected => ⟨422, "POLICY_ASSET_REJECTED",
      "Selected watermark upload is not a validated supported image."⟩
  | .revisionConflict => ⟨409, "SITE_POLICY_REVISION_CONFLICT",
      "Site policy revision conflicts with durable state."⟩

/-- The watermark of a response. -/
def watermarkJson (watermark : StoredWatermarkPolicy) : Mixed :=
  .map [("asset_upload_id", .text (String.ofList watermark.assetUploadId.uuid.text)),
    ("asset_sha256", .text watermark.assetSha256),
    ("position", .text (positionName watermark.position)),
    ("margin_px", .int watermark.marginPx),
    ("max_width_percent", .int watermark.maxWidthPercent),
    ("opacity_percent", .int watermark.opacityPercent)]

/-- `site_policy_response`. -/
def sitePolicyResponse (snapshot : SitePolicySnapshot) : Mixed :=
  .map [("schema_version", .int snapshot.schemaVersion), ("revision", .int snapshot.revision),
    ("issued_at", .int snapshot.issuedAt.unixTimestamp),
    ("settings_sha256", .text snapshot.settingsSha256),
    ("watermark", snapshot.watermark.elim .null watermarkJson)]

/-- The status of a publication that was accepted. -/
def publishedStatus : PublishPolicyOutcome → Int
  | .published => 201
  | .unchanged => 200

/-- What is known of addresses and keys: the tenant as which the server knows the key of a
configuration, if it does, and the server's policy service. -/
structure Host where
  addresses : Addresses
  authenticate : MediaBoosterConfiguration → Option String
  service : SitePolicyService

/-- The watermark of a request, checked against the asset as it was found. -/
def pinned (requested : Option RequestedWatermarkPolicy) (asset : Option PolicyAssetCandidate) :
    Except PublishSitePolicyError (Option StoredWatermarkPolicy) :=
  match requested with
  | none => .ok none
  | some requested =>
      match validateWatermarkSettings requested with
      | .error error => .error error
      | .ok () =>
          match asset with
          | none => .error .assetNotFound
          | some candidate => (validateAsset candidate requested).map some

/-- The snapshot of a request. -/
def snapshotOf (service : SitePolicyService) (request : PublishSitePolicy)
    (watermark : Option StoredWatermarkPolicy) : SitePolicySnapshot where
  tenantId := request.tenantId
  schemaVersion := request.schemaVersion
  revision := request.revision
  issuedAt := request.issuedAt
  settingsSha256 := service.normalizedSettingsSha256 watermark
  watermark := watermark

/-- What the server does about a publication: `now` and `createdAt` are its readings of the clock,
and `asset` is what it has found of the asset. -/
structure Serving where
  now : OffsetDateTime
  createdAt : OffsetDateTime
  asset : Option PolicyAssetCandidate

/-- `publish_site_policy` of the HTTP interface. -/
def Host.serve (host : Host) (configuration : MediaBoosterConfiguration) (payload : PolicyPayload)
    (serving : Serving) (store : SqliteStore) : Response × SqliteStore :=
  match host.authenticate configuration with
  | none => (intoResponse .unauthorized, store)
  | some tenantId =>
      match decodeRequest tenantId payload with
      | none => (intoResponse invalidJson, store)
      | some request =>
          match validateSnapshotEnvelope request serving.now host.service.maxIssuedAtSkewSeconds with
          | .error error => (intoResponse (fromSitePolicy error), store)
          | .ok () =>
              match pinned request.watermark serving.asset with
              | .error error => (intoResponse (fromSitePolicy error), store)
              | .ok watermark =>
                  let snapshot := snapshotOf host.service request watermark
                  match Store.publishSitePolicy snapshot serving.createdAt store with
                  | (.error error, after) => (intoResponse (fromSitePolicy (publishError error)), after)
                  | (.ok outcome, after) =>
                      (⟨publishedStatus outcome, false, sitePolicyResponse snapshot⟩, after)

/-! ## The machine -/

/-- A publication that was sent, and what the server has answered. -/
structure Sent where
  configuration : MediaBoosterConfiguration
  payload : PolicyPayload
  response : Option Response

/-- What the updates share. -/
structure Shared where
  settings : Settings
  store : SqliteStore
  sent : List Sent

/-- What happens beside the updates: the server comes to a publication, or does something else. -/
inductive Event
  | served (ticket : Nat) (serving : Serving)
  | other (store : SqliteStore)

/-- An answer of success. -/
def isSuccess : Reply → Bool
  | .response response => response.successful
  | _ => false

/-- The server reports its active policy. -/
def Reports (host : Host) (s : Shared) (configuration : MediaBoosterConfiguration) (reply : Reply) :
    Prop :=
  ∃ tenantId policy, host.authenticate configuration = some tenantId ∧
    findActiveSitePolicy tenantId s.store = (.ok (some policy), s.store) ∧
    reply = .response ⟨200, false, sitePolicyResponse policy⟩

/-- What an update is answered. -/
inductive Answers (host : Host) (s : Shared) : (ask : Ask) → Answer ask → Shared → Prop
  | got : Answers host s .get s.settings s
  | selectable (adminId : Int) (uploadId : String) (selectable : Bool) :
      Answers host s (.isSelectableForUser adminId uploadId) selectable s
  | active (configuration : MediaBoosterConfiguration) (reply : Reply)
      (reports : isSuccess reply = true → Reports host s configuration reply) :
      Answers host s (.activeSitePolicy configuration) reply s
  | time (now : Int) : Answers host s .time now s
  | saved (settings : Settings) : Answers host s (.save settings) true { s with settings := settings }
  | unsaved (settings : Settings) : Answers host s (.save settings) false s
  | sent (configuration : MediaBoosterConfiguration) (payload : PolicyPayload) :
      Answers host s (.send configuration payload) s.sent.length
        { s with sent := s.sent ++ [⟨configuration, payload, none⟩] }
  | received (ticket : Nat) (reply : Reply)
      (answered : isSuccess reply = true → ∃ sent response, s.sent[ticket]? = some sent ∧
        sent.response = some response ∧ reply = .response response) :
      Answers host s (.receive ticket) reply s

/-- What an event makes of the shared state. -/
inductive Moves (host : Host) (s : Shared) : Event → Shared → Prop
  | served {ticket : Nat} {sent : Sent} (there : s.sent[ticket]? = some sent)
      (fresh : sent.response = none) (serving : Serving) :
      Moves host s (.served ticket serving)
        { s with
          store := (host.serve sent.configuration sent.payload serving s.store).2
          sent := s.sent.set ticket { sent with
            response := some (host.serve sent.configuration sent.payload serving s.store).1 } }
  | other (store : SqliteStore) (same : store.sitePolicySnapshots = s.store.sitePolicySnapshots) :
      Moves host s (.other store) { s with store := store }

/-- The updates. -/
def machine (host : Host) : Machine Answer UpdateRequest Event Shared where
  program request := (update host.addresses request).attempt.discard
  answers := Answers host
  moves := Moves host

/-- A state of the updates. -/
abbrev Panel := State Answer UpdateRequest Shared

/-- A step of the updates. -/
abbrev Happening := Label Answer UpdateRequest Event

/-- The exchanges of an update. -/
abbrev History := List (Exchange Answer)

/-! ## What an update has heard -/

/-- The publication that was sent since the last save, after one exchange more. -/
def sentSince : Option Nat → Exchange Answer → Option Nat
  | _, ⟨.send _ _, ticket⟩ => some ticket
  | _, ⟨.save _, _⟩ => none
  | outstanding, _ => outstanding

/-- The publication an update has sent since its last save. -/
def outstanding (past : History) : Option Nat := past.foldl sentSince none

theorem outstanding_append (past : History) (exchange : Exchange Answer) :
    outstanding (past ++ [exchange]) = sentSince (outstanding past) exchange :=
  List.foldl_append

/-- The publication that was sent since the last save is of the record's revision, with its
watermark, and was answered with its hash. -/
def Confirmed (addresses : Addresses) (past : History) (settings : Settings) : Prop :=
  ∃ configuration issuedAt ticket reply published,
    fromArray addresses settings = .ok configuration ∧ outstanding past = some ticket ∧
    (⟨.send configuration ⟨1, settings.policyRevision, issuedAt, configuration.watermark⟩, ticket⟩ :
      Exchange Answer) ∈ past ∧
    (⟨.receive ticket, reply⟩ : Exchange Answer) ∈ past ∧
    expectObject (decodeReply reply) = .ok published ∧
    publishedHash settings.policyRevision published = some settings.policySettingsSha256

/-- A record that is saved as applied is confirmed. -/
def Rule (addresses : Addresses) (past : History) : Ask → Prop
  | .save settings => settings.policySyncState = "applied" → Confirmed addresses past settings
  | _ => True

section Follows

variable {addresses : Addresses} {past : History} {α : Type}

/-- The method keeps to the rule. -/
abbrev Keeps (addresses : Addresses) (past : History) (method : Controller α) : Prop :=
  method.Follows (Rule addresses) (fun _ _ => True) past

theorem keeps_answerTo {ask : Ask} {next : Answer ask → Controller α} (rule : Rule addresses past ask)
    (rest : ∀ answer, Keeps addresses (past ++ [⟨ask, answer⟩]) (next answer)) :
    Keeps addresses past (answerTo ask >>= next) :=
  ⟨rule, fun answer => rest answer⟩

theorem keeps_mark {candidate : Settings} {state error : String} {next : Bool → Controller α}
    (other : state ≠ "applied")
    (rest : ∀ saved, Keeps addresses (past ++ [⟨.save (candidate.mark state error), saved⟩])
      (next saved)) :
    Keeps addresses past (answerTo (.save (candidate.mark state error)) >>= next) :=
  keeps_answerTo (fun applied => absurd applied other) rest

theorem keeps_catchUpstream {error : Throwable} {handler : Int → String → Controller JsonResponse}
    (rest : ∀ httpStatus errorCode, Keeps addresses past (handler httpStatus errorCode)) :
    Keeps addresses past (catchUpstream error handler) := by
  cases error with
  | upstream httpStatus errorCode => exact rest httpStatus errorCode
  | _ => trivial

theorem keeps_policySyncError {httpStatus : Int} {errorCode : String} {candidate : Settings}
    {pendingWasSaved : Bool} :
    Keeps addresses past (policySyncError httpStatus errorCode candidate pendingWasSaved) := by
  cases pendingWasSaved with
  | false => trivial
  | true => exact keeps_mark (by decide) fun _ => trivial

theorem keeps_settle {candidate : Settings} {published : Mixed}
    (confirmed : ∀ hash, publishedHash candidate.policyRevision published = some hash →
      Confirmed addresses past ({ candidate with policySettingsSha256 := hash }.mark "applied" "")) :
    Keeps addresses past (settle candidate published) := by
  unfold settle
  split
  · exact keeps_mark (by decide) fun _ => trivial
  · rename_i hash heard
    refine keeps_answerTo (fun _ => confirmed hash heard) fun saved => ?_
    cases saved <;> trivial

theorem keeps_publishSitePolicy {configuration : MediaBoosterConfiguration} {candidate : Settings}
    {issuedAt : Int} (checked : fromArray addresses candidate = .ok configuration) :
    Keeps addresses past (publishSitePolicy configuration candidate issuedAt) := by
  refine keeps_answerTo trivial fun ticket => keeps_answerTo trivial fun reply => ?_
  cases heard : expectObject (decodeReply reply) with
  | error error => exact keeps_catchUpstream fun _ _ => keeps_policySyncError
  | ok published =>
      refine keeps_settle fun hash named => ?_
      refine ⟨configuration, issuedAt, ticket, reply, published, checked, ?_,
        List.mem_append_left _ (List.mem_append_right _ (List.mem_singleton_self _)),
        List.mem_append_right _ (List.mem_singleton_self _), heard, named⟩
      rw [outstanding_append, outstanding_append]
      rfl

theorem keeps_synchronize {configuration : MediaBoosterConfiguration} {candidate : Settings}
    (checked : fromArray addresses candidate = .ok configuration) :
    Keeps addresses past (synchronize configuration candidate) := by
  refine keeps_answerTo trivial fun reply => ?_
  split
  · exact keeps_catchUpstream fun _ _ => keeps_policySyncError
  split
  · trivial
  refine keeps_answerTo trivial fun issuedAt => ?_
  refine keeps_mark (by decide) fun saved => ?_
  cases saved with
  | false => trivial
  | true => exact keeps_publishSitePolicy checked

theorem keeps_saveCandidate {candidate : Settings} :
    Keeps addresses past (saveCandidate addresses candidate) := by
  unfold saveCandidate
  split
  · trivial
  rename_i configuration checked
  split
  · exact keeps_synchronize checked
  · refine keeps_mark (by decide) fun saved => ?_
    cases saved <;> trivial

theorem keeps_isSelectable {adminId : Int} {uploadId : String} {next : Bool → Controller α}
    (rest : ∀ past selectable, Keeps addresses past (next selectable)) :
    Keeps addresses past (isSelectable adminId uploadId >>= next) := by
  unfold isSelectable
  split
  · exact rest past true
  · exact keeps_answerTo trivial fun selectable => rest _ selectable

/-- **An update saves as applied what was confirmed.** -/
theorem follows_update (request : UpdateRequest) : Keeps addresses [] (update addresses request) := by
  unfold update
  refine keeps_answerTo trivial fun current => ?_
  extract_lets candidate watermarkAssetId
  clear_value watermarkAssetId candidate
  apply keeps_isSelectable
  intro past selectable
  by_cases offered : selectable = true
  · rw [if_pos offered]
    exact keeps_saveCandidate
  · rw [if_neg offered]
    exact Attempt.follows_pure trivial

end Follows

/-! ## What the server has accepted -/

/-- The columns hold the watermark of a publication. -/
def Holds : Option WatermarkPayload → Option WatermarkColumns → Prop
  | none, none => True
  | some payload, some columns =>
      parseUuid payload.assetUploadId = some columns.uploadId.uuid ∧
        payload.position = positionName columns.position ∧ payload.marginPx = columns.marginPx ∧
        payload.maxWidthPercent = columns.maxWidthPercent ∧
        payload.opacityPercent = columns.opacityPercent
  | _, _ => False

/-- A policy shows the watermark of a publication. -/
def Shows : Option WatermarkPayload → Option StoredWatermarkPolicy → Prop
  | none, none => True
  | some payload, some stored =>
      parseUuid payload.assetUploadId = some stored.assetUploadId.uuid ∧
        payload.position = positionName stored.position ∧ payload.marginPx = stored.marginPx ∧
        payload.maxWidthPercent = stored.maxWidthPercent ∧
        payload.opacityPercent = stored.opacityPercent
  | _, _ => False

/-- The revision is in the tenant's log, with this hash and this watermark. -/
def Logs (store : SqliteStore) (tenantId : String) (revision : Int) (hash : String)
    (watermark : Option WatermarkPayload) : Prop :=
  ∃ row, store.policyRevision tenantId revision = some row ∧ row.settingsSha256 = hash ∧
    Holds watermark row.watermark

/-- The publication is in the log of the tenant it was signed for, and its answer says so. -/
def Accepted (host : Host) (store : SqliteStore) (sent : Sent) (response : Response) : Prop :=
  ∃ tenantId hash, host.authenticate sent.configuration = some tenantId ∧
    Logs store tenantId sent.payload.revision hash sent.payload.watermark ∧
    response.json.field "revision" = .int sent.payload.revision ∧
    response.json.field "settings_sha256" = .text hash

section Log

variable {store after : SqliteStore} {tenantId : String}

theorem Logs.grown {revision : Int} {hash : String} {watermark : Option WatermarkPayload}
    (logs : Logs store tenantId revision hash watermark)
    (grown : store.sitePolicySnapshots <+: after.sitePolicySnapshots) :
    Logs after tenantId revision hash watermark := by
  obtain ⟨row, there, hashed, holds⟩ := logs
  exact ⟨row, policyRevision_grown grown there, hashed, holds⟩

/-- The policy that is read from a log shows what the log holds. -/
theorem shows_iff_holds {payload : Option WatermarkPayload} {columns : Option WatermarkColumns}
    {stored : Option StoredWatermarkPolicy} (read : Store.storedWatermarkOption columns = .ok stored) :
    Shows payload stored ↔ Holds payload columns := by
  cases columns with
  | none =>
      cases read
      cases payload <;> exact Iff.rfl
  | some columns =>
      replace read : (Store.storedWatermark columns).map some = .ok stored := read
      cases marked : Store.storedWatermark columns with
      | error error =>
          rw [marked] at read
          cases read
      | ok watermark =>
          rw [marked] at read
          cases read
          unfold Store.storedWatermark at marked
          split at marked
          · cases marked
          split at marked
          · cases marked
          rename_i marginPx convertedMargin
          split at marked
          · cases marked
          rename_i maxWidthPercent convertedWidth
          split at marked
          · cases marked
          rename_i opacityPercent convertedOpacity
          cases marked
          cases payload with
          | none => exact Iff.rfl
          | some payload =>
              show _ ∧ _ ∧ _ ∧ _ ∧ _ ↔ _ ∧ _ ∧ _ ∧ _ ∧ _
              rw [(u32TryFrom_eq_some.1 convertedMargin).1, (u8TryFrom_eq_some.1 convertedWidth).1,
                (u8TryFrom_eq_some.1 convertedOpacity).1]

/-- What is bound holds what it shows. -/
theorem holds_of_bound {payload : Option WatermarkPayload} {columns : Option WatermarkColumns}
    {stored : Option StoredWatermarkPolicy} (bound : Store.boundWatermark stored = .ok columns)
    (shown : Shows payload stored) : Holds payload columns := by
  cases stored with
  | none =>
      cases bound
      cases payload with
      | none => trivial
      | some => exact shown
  | some watermark =>
      unfold Store.boundWatermark at bound
      dsimp only at bound
      split at bound
      · cases bound
      · cases bound
        cases payload with
        | none => exact shown
        | some payload => exact shown

theorem decodeWatermark_eq_some {payload : WatermarkPayload} {requested : RequestedWatermarkPolicy}
    (decoded : decodeWatermark payload = some requested) :
    parseUuid payload.assetUploadId = some requested.assetUploadId.uuid ∧
      payload.position = positionName requested.position ∧ payload.marginPx = requested.marginPx ∧
      payload.maxWidthPercent = requested.maxWidthPercent ∧
      payload.opacityPercent = requested.opacityPercent := by
  unfold decodeWatermark at decoded
  simp only [Option.bind_eq_bind, Option.bind_eq_some_iff, Option.pure_def, Option.some.injEq]
    at decoded
  obtain ⟨uuid, parsed, position, named, marginPx, margin, maxWidthPercent, width, opacityPercent,
    opacity, rfl⟩ := decoded
  refine ⟨parsed, ?_, (u32TryFrom_eq_some.1 margin).1, (u8TryFrom_eq_some.1 width).1,
    (u8TryFrom_eq_some.1 opacity).1⟩
  have same := List.find?_some (p := fun position => positionName position == payload.position) named
  exact (eq_of_beq same).symm

/-- What is pinned for a publication shows its watermark. -/
theorem shows_of_pinned {payload : Option WatermarkPayload}
    {requested : Option RequestedWatermarkPolicy} {asset : Option PolicyAssetCandidate}
    {watermark : Option StoredWatermarkPolicy} (decoded : decodeWatermarkOption payload = some requested)
    (kept : pinned requested asset = .ok watermark) : Shows payload watermark := by
  cases payload with
  | none =>
      cases decoded
      cases kept
      trivial
  | some payload =>
      obtain ⟨policy, parsed, rfl⟩ := Option.map_eq_some_iff.1 decoded
      unfold pinned at kept
      dsimp only at kept
      split at kept
      · cases kept
      split at kept
      · cases kept
      rename_i candidate
      cases checked : validateAsset candidate policy with
      | error error =>
          rw [checked] at kept
          cases kept
      | ok stored =>
          rw [checked] at kept
          cases kept
          unfold validateAsset at checked
          split at checked
          · cases checked
          · cases checked
          split at checked
          · cases checked
          · rename_i same
            push Not at same
            cases checked
            obtain ⟨asset, rest⟩ := decodeWatermark_eq_some parsed
            refine ⟨?_, rest⟩
            rw [same.1]
            exact asset

theorem decodeRequest_eq_some {payload : PolicyPayload} {request : PublishSitePolicy}
    (decoded : decodeRequest tenantId payload = some request) :
    request.tenantId = tenantId ∧ payload.revision = request.revision ∧
      decodeWatermarkOption payload.watermark = some request.watermark := by
  unfold decodeRequest at decoded
  simp only [Option.bind_eq_bind, Option.bind_eq_some_iff, Option.pure_def, Option.some.injEq]
    at decoded
  obtain ⟨schemaVersion, -, revision, converted, issuedAt, -, watermark, read, rfl⟩ := decoded
  exact ⟨rfl, (u64TryFrom_eq_some.1 converted).1, read⟩

end Log

/-! ## Steps that are not in the way -/

/-- The tenant the record is of. -/
def Host.tenantOf (host : Host) (settings : Settings) : Option String :=
  match fromArray host.addresses settings with
  | .ok configuration => host.authenticate configuration
  | .error _ => none

/-- The publication was accepted for the tenant. -/
def Host.isAccepted (host : Host) (tenantId : String) (sent : Sent) : Bool :=
  sent.response.any Response.successful && host.authenticate sent.configuration == some tenantId

/-- An update has a publication accepted for the tenant, and has yet to save what came of it. -/
def Host.owes (host : Host) (s : Shared) (tenantId : String) (thread : Thread Answer UpdateRequest) :
    Bool :=
  !thread.crashed &&
    ((outstanding thread.past).bind fun ticket => s.sent[ticket]?).any (host.isAccepted tenantId)

/-- A publication of its tenant's next revision comes in when the record does not say `applied` of
that tenant, and when no update has yet to save that an earlier one was accepted. -/
def Host.servesInTurn (host : Host) (s : Panel) (sent : Sent) : Bool :=
  match host.authenticate sent.configuration with
  | none => true
  | some tenantId => sent.payload.revision != s.shared.store.nextRevision tenantId ||
      ((s.shared.settings.policySyncState != "applied" ||
          host.tenantOf s.shared.settings != some tenantId) &&
        !s.threads.any (host.owes s.shared tenantId))

/-- Where a publication meets a row of its revision with its hash, the row is the active one, and
is of its watermark: the hashes of two watermarks do not collide. -/
def Host.repeatsActive (host : Host) (configuration : MediaBoosterConfiguration)
    (payload : PolicyPayload) (serving : Serving) (store : SqliteStore) : Bool :=
  match host.authenticate configuration with
  | none => true
  | some tenantId =>
      match decodeRequest tenantId payload with
      | none => true
      | some request =>
          match pinned request.watermark serving.asset,
            store.policyRevision tenantId payload.revision with
          | .ok watermark, some row =>
              row.settingsSha256 != host.service.normalizedSettingsSha256 watermark ||
                (store.maxRevision tenantId == some payload.revision &&
                  match Store.storedWatermarkOption row.watermark with
                  | .ok stored => stored == watermark
                  | .error _ => false)
          | _, _ => true

/-- What is done is in nobody's way. -/
def Host.undisturbed (host : Host) (s : Panel) : Happening → Bool
  | .moved (.served ticket serving) =>
      match s.shared.sent[ticket]? with
      | none => true
      | some sent => host.servesInTurn s sent &&
          host.repeatsActive sent.configuration sent.payload serving s.shared.store
  | _ => true

/-! ## The invariant -/

/-- **The record is honest**: if it says `applied`, then its tenant's active policy has its revision
and its hash, and shows its watermark. -/
def Honest (host : Host) (s : Shared) : Prop :=
  s.settings.policySyncState = "applied" → ∃ configuration tenantId policy,
    fromArray host.addresses s.settings = .ok configuration ∧
    host.authenticate configuration = some tenantId ∧
    findActiveSitePolicy tenantId s.store = (.ok (some policy), s.store) ∧
    (policy.revision : Int) = s.settings.policyRevision ∧
    policy.settingsSha256 = s.settings.policySettingsSha256 ∧
    Shows configuration.watermark policy.watermark

/-- The record is honest about the rows of the log. -/
def Recorded (host : Host) (s : Shared) : Prop :=
  s.settings.policySyncState = "applied" → ∃ configuration tenantId,
    fromArray host.addresses s.settings = .ok configuration ∧
    host.authenticate configuration = some tenantId ∧
    s.store.maxRevision tenantId = some s.settings.policyRevision ∧
    Logs s.store tenantId s.settings.policyRevision s.settings.policySettingsSha256
      configuration.watermark

/-- What an update has heard of its publication. -/
def Heard (s : Shared) : Exchange Answer → Prop
  | ⟨.send configuration payload, ticket⟩ => ∃ sent, s.sent[(ticket : Nat)]? = some sent ∧
      sent.configuration = configuration ∧ sent.payload = payload
  | ⟨.receive ticket, reply⟩ => isSuccess reply = true → ∃ sent response,
      s.sent[ticket]? = some sent ∧ sent.response = some response ∧ reply = .response response
  | _ => True

/-- Where an update has yet to save that its publication was accepted, that is the active one. -/
def InTurn (host : Host) (s : Panel) : Prop :=
  ∀ thread ∈ s.threads, thread.crashed = false → ∀ ticket, outstanding thread.past = some ticket →
    ∀ sent, s.shared.sent[ticket]? = some sent → ∀ tenantId, host.isAccepted tenantId sent = true →
      s.shared.store.maxRevision tenantId = some sent.payload.revision

/-- What holds of every state of a run. -/
structure Sound (host : Host) (s : Panel) : Prop where
  logged : Logged s.shared.store
  accepted : ∀ sent ∈ s.shared.sent, ∀ response, sent.response = some response →
    response.successful = true → Accepted host s.shared.store sent response
  heard : ∀ i exchange, exchange ∈ s.past i → Heard s.shared exchange
  recorded : Recorded host s.shared
  inTurn : InTurn host s

section Steps

variable {host : Host} {s t : Shared}

/-- A record that is honest about the rows is honest. -/
theorem Recorded.honest (logged : Logged s.store) (recorded : Recorded host s) : Honest host s := by
  intro applied
  obtain ⟨configuration, tenantId, checked, known, active, row, there, hashed, holds⟩ :=
    recorded applied
  have stored : row ∈ s.store.sitePolicySnapshots := List.mem_of_find?_eq_some there
  have revision := List.find?_some there
  rw [Bool.and_eq_true, beq_iff_eq, beq_iff_eq] at revision
  obtain ⟨policy, read, -, numbered, settings, marked⟩ := (logged.readable row stored).read
  refine ⟨configuration, tenantId, policy, checked, known, ?_, numbered.trans revision.2,
    settings.trans hashed, (shows_iff_holds marked).2 holds⟩
  unfold findActiveSitePolicy
  rw [Theory.Transaction.call_readOr_eq, active, Option.bind_some, there]
  dsimp only
  rw [read]
  rfl

/-- An honest record is honest about the rows. -/
theorem Honest.recorded (logged : Logged s.store) (honest : Honest host s) : Recorded host s := by
  intro applied
  obtain ⟨configuration, tenantId, policy, checked, known, found, numbered, hashed, shown⟩ :=
    honest applied
  refine ⟨configuration, tenantId, checked, known, ?_⟩
  unfold findActiveSitePolicy at found
  rw [Theory.Transaction.call_readOr_eq] at found
  cases active : s.store.maxRevision tenantId with
  | none =>
      rw [active] at found
      cases found
  | some latest =>
      rw [active, Option.bind_some] at found
      cases there : s.store.policyRevision tenantId latest with
      | none =>
          rw [there] at found
          cases found
      | some row =>
          rw [there] at found
          have stored : row ∈ s.store.sitePolicySnapshots := List.mem_of_find?_eq_some there
          have owned := List.find?_some there
          rw [Bool.and_eq_true, beq_iff_eq, beq_iff_eq] at owned
          obtain ⟨policy', read, -, revision, settings, marked⟩ := (logged.readable row stored).read
          replace found : ((Store.sitePolicyFromRow row).map some, s.store) = _ := found
          rw [read] at found
          cases found
          have same : latest = s.settings.policyRevision := by
            rw [← owned.2, ← revision]
            exact numbered
          subst same
          exact ⟨rfl, row, there, settings.symm.trans hashed, (shows_iff_holds marked).1 shown⟩

/-- What is known of publications stays known. -/
def Grows (s t : Shared) : Prop :=
  ∀ (ticket : Nat) sent, s.sent[ticket]? = some sent → ∃ sent', t.sent[ticket]? = some sent' ∧
    sent'.configuration = sent.configuration ∧ sent'.payload = sent.payload ∧
    ∀ response, sent.response = some response → sent'.response = some response

theorem Grows.of_same (same : t.sent = s.sent) : Grows s t := by
  intro ticket sent there
  rw [← same] at there
  exact ⟨sent, there, rfl, rfl, fun _ answered => answered⟩

theorem Heard.grows {exchange : Exchange Answer} (heard : Heard s exchange) (grows : Grows s t) :
    Heard t exchange := by
  obtain ⟨ask, answer⟩ := exchange
  cases ask with
  | send configuration payload =>
      obtain ⟨sent, there, configured, carried⟩ := heard
      obtain ⟨sent', there', configured', carried', -⟩ := grows answer sent there
      exact ⟨sent', there', configured'.trans configured, carried'.trans carried⟩
  | receive ticket =>
      intro success
      obtain ⟨sent, response, there, answered, same⟩ := heard success
      obtain ⟨sent', there', -, -, answered'⟩ := grows ticket sent there
      exact ⟨sent', response, there', answered' response answered, same⟩
  | _ => trivial

/-- The response to a publication that got as far as the store. -/
def storeResponse (snapshot : SitePolicySnapshot) :
    Except SitePolicyRepositoryError PublishPolicyOutcome → Response
  | .error error => intoResponse (fromSitePolicy (publishError error))
  | .ok outcome => ⟨publishedStatus outcome, false, sitePolicyResponse snapshot⟩

theorem fromSitePolicy_fails (error : PublishSitePolicyError) :
    (intoResponse (fromSitePolicy error)).successful = false := by
  cases error <;> rfl

section Serve

variable {configuration : MediaBoosterConfiguration} {payload : PolicyPayload} {serving : Serving}
  {store after : SqliteStore} {response : Response}

/-- A publication is refused before the store, or is the store's. -/
theorem serve_cases (served : host.serve configuration payload serving store = (response, after)) :
    (after = store ∧ response.successful = false) ∨
      ∃ tenantId request watermark result, host.authenticate configuration = some tenantId ∧
        decodeRequest tenantId payload = some request ∧
        pinned request.watermark serving.asset = .ok watermark ∧
        Store.publishSitePolicy (snapshotOf host.service request watermark) serving.createdAt store =
          (result, after) ∧
        response = storeResponse (snapshotOf host.service request watermark) result := by
  unfold Host.serve at served
  split at served
  · cases served
    exact .inl ⟨rfl, rfl⟩
  rename_i tenantId known
  split at served
  · cases served
    exact .inl ⟨rfl, rfl⟩
  rename_i request decoded
  split at served
  · cases served
    exact .inl ⟨rfl, fromSitePolicy_fails _⟩
  split at served
  · cases served
    exact .inl ⟨rfl, fromSitePolicy_fails _⟩
  rename_i watermark kept
  dsimp only at served
  split at served
  · rename_i error later ran
    cases served
    exact .inr ⟨tenantId, request, watermark, _, known, decoded, kept, ran, rfl⟩
  · rename_i outcome later ran
    cases served
    exact .inr ⟨tenantId, request, watermark, _, known, decoded, kept, ran, rfl⟩

/-- **What the server does about a publication keeps its log.** -/
theorem serve_keeps (logged : Logged store)
    (served : host.serve configuration payload serving store = (response, after)) :
    Logged after ∧ store.sitePolicySnapshots <+: after.sitePolicySnapshots := by
  obtain ⟨rfl, -⟩ | ⟨tenantId, request, watermark, result, -, -, -, ran, -⟩ := serve_cases served
  · exact ⟨logged, List.prefix_refl _⟩
  · exact publishSitePolicy_keeps logged ran

/-- A tenant's active revision changes only when a publication of its next revision comes in. -/
theorem serve_active {tenantId : String}
    (served : host.serve configuration payload serving store = (response, after))
    (other : host.authenticate configuration = some tenantId →
      payload.revision ≠ store.nextRevision tenantId) :
    after.maxRevision tenantId = store.maxRevision tenantId := by
  obtain ⟨rfl, -⟩ | ⟨mine, request, watermark, result, known, decoded, -, ran, -⟩ :=
    serve_cases served
  · rfl
  obtain ⟨owned, numbered, -⟩ := decodeRequest_eq_some decoded
  obtain ⟨rfl, -⟩ | ⟨row, rfl, tenant, revision, next, -⟩ := publishSitePolicy_logs ran
  · rfl
  have mine' : row.tenantId = mine := tenant.trans owned
  have differs : row.tenantId ≠ tenantId := by
    intro same
    refine other (known.trans (congrArg some (mine'.symm.trans same))) ?_
    rw [numbered, ← same, ← next]
    exact revision.symm
  unfold SqliteStore.maxRevision
  rw [List.filter_append, List.filter_singleton, beq_eq_false_iff_ne.2 differs]
  exact congrArg (fun rows => (rows.map SitePolicyRow.revision).max?) (List.append_nil _)

/-- A row that a publication meets with its hash is the active one, and is of its watermark. -/
theorem repeats_cases {tenantId : String} {request : PublishSitePolicy}
    {watermark : Option StoredWatermarkPolicy} {row : SitePolicyRow}
    (repeats : host.repeatsActive configuration payload serving store = true)
    (known : host.authenticate configuration = some tenantId)
    (decoded : decodeRequest tenantId payload = some request)
    (kept : pinned request.watermark serving.asset = .ok watermark)
    (before : store.policyRevision tenantId payload.revision = some row)
    (hashed : row.settingsSha256 = host.service.normalizedSettingsSha256 watermark) :
    store.maxRevision tenantId = some payload.revision ∧
      Store.storedWatermarkOption row.watermark = .ok watermark := by
  unfold Host.repeatsActive at repeats
  rw [known] at repeats
  dsimp only at repeats
  rw [decoded] at repeats
  dsimp only at repeats
  rw [kept, before] at repeats
  dsimp only at repeats
  rw [Bool.or_eq_true, bne_iff_ne, Bool.and_eq_true, beq_iff_eq] at repeats
  obtain ⟨active, same⟩ := repeats.resolve_left fun differ => differ hashed
  refine ⟨active, ?_⟩
  split at same
  · rename_i stored marked
    rw [marked, eq_of_beq same]
  · cases same

/-- **A publication that is answered with success is the active one.** -/
theorem serve_latest {tenantId : String} (logged : Logged store)
    (served : host.serve configuration payload serving store = (response, after))
    (repeats : host.repeatsActive configuration payload serving store = true)
    (success : response.successful = true)
    (known : host.authenticate configuration = some tenantId) :
    after.maxRevision tenantId = some payload.revision := by
  obtain ⟨-, failed⟩ | ⟨mine, request, watermark, result, known', decoded, kept, ran, rfl⟩ :=
    serve_cases served
  · rw [failed] at success
    cases success
  obtain rfl : tenantId = mine := Option.some.inj (known.symm.trans known')
  obtain ⟨owned, numbered, -⟩ := decodeRequest_eq_some decoded
  obtain ⟨rfl, there⟩ | ⟨row, rfl, tenant, revision, next, readable, -⟩ := publishSitePolicy_logs ran
  · cases result with
    | error error =>
        rw [storeResponse, fromSitePolicy_fails] at success
        cases success
    | ok outcome =>
        obtain ⟨row, stored, hashed⟩ := there outcome rfl
        have before : after.policyRevision tenantId payload.revision = some row := by
          rw [← owned, numbered]
          exact stored
        exact (repeats_cases repeats known decoded kept before hashed).1
  · have latest := maxRevision_appended logged next readable
    rw [tenant, revision] at latest
    rw [numbered, ← owned]
    exact latest

/-- **A publication that is answered with success is in the log.** -/
theorem serve_accepted {answered : Option Response} (logged : Logged store)
    (served : host.serve configuration payload serving store = (response, after))
    (repeats : host.repeatsActive configuration payload serving store = true)
    (success : response.successful = true) :
    Accepted host after ⟨configuration, payload, answered⟩ response := by
  obtain ⟨-, failed⟩ | ⟨tenantId, request, watermark, result, known, decoded, kept, ran, rfl⟩ :=
    serve_cases served
  · rw [failed] at success
    cases success
  obtain ⟨owned, numbered, read⟩ := decodeRequest_eq_some decoded
  cases result with
  | error error =>
      rw [storeResponse, fromSitePolicy_fails] at success
      cases success
  | ok outcome =>
      have shown := shows_of_pinned read kept
      obtain ⟨row, there, hashed, is⟩ := publishSitePolicy_accepted logged ran
      refine ⟨tenantId, host.service.normalizedSettingsSha256 watermark, known,
        ⟨row, ?_, hashed, ?_⟩, ?_, rfl⟩
      · rw [← owned, numbered]
        exact there
      · rcases is with bound | before
        · exact holds_of_bound bound shown
        · refine (shows_iff_holds ?_).1 shown
          replace before : store.policyRevision tenantId payload.revision = some row := by
            rw [← owned, numbered]
            exact before
          have same := repeats_cases repeats known decoded kept before hashed
          exact same.2
      · show Mixed.int _ = Mixed.int _
        rw [numbered]
        rfl

end Serve

/-- An answer of success that could be read is the body of its response. -/
theorem body_of_expectObject {reply : Reply} {published : Mixed}
    (heard : expectObject (decodeReply reply) = .ok published) :
    ∃ response, reply = .response response ∧ response.successful = true ∧
      response.json = published := by
  cases reply with
  | unreachable => cases heard
  | thrown => cases heard
  | response response =>
      refine ⟨response, rfl, ?_⟩
      unfold decodeReply decodeResponse at heard
      dsimp only at heard
      split at heard
      · rename_i success
        refine ⟨success, ?_⟩
        split at heard
        · cases heard
        · split at heard
          · rename_i entries body
            cases heard
            exact body
          · cases heard
      · cases heard

/-- What was confirmed is in the log. -/
theorem logs_of_confirmed {past : History} {settings : Settings}
    (confirmed : Confirmed host.addresses past settings)
    (heard : ∀ exchange ∈ past, Heard s exchange)
    (accepted : ∀ sent ∈ s.sent, ∀ response, sent.response = some response →
      response.successful = true → Accepted host s.store sent response) :
    ∃ configuration tenantId ticket sent, fromArray host.addresses settings = .ok configuration ∧
      host.authenticate configuration = some tenantId ∧
      Logs s.store tenantId settings.policyRevision settings.policySettingsSha256
        configuration.watermark ∧ outstanding past = some ticket ∧ s.sent[ticket]? = some sent ∧
      host.isAccepted tenantId sent = true ∧ sent.payload.revision = settings.policyRevision := by
  obtain ⟨configuration, issuedAt, ticket, reply, published, checked, last, sends, receives, read,
    named⟩ := confirmed
  obtain ⟨response, rfl, success, rfl⟩ := body_of_expectObject read
  obtain ⟨sent, there, configured, carried⟩ := heard _ sends
  obtain ⟨sent', response', there', answered, same⟩ := heard _ receives success
  obtain rfl : sent = sent' := Option.some.inj (there.symm.trans there')
  cases same
  obtain ⟨tenantId, hash, known, logs, -, hashed⟩ :=
    accepted sent (List.mem_of_getElem? there) response answered success
  have marked : host.isAccepted tenantId sent = true := by
    unfold Host.isAccepted
    rw [answered, known, Option.any_some, success, beq_self_eq_true]
    rfl
  rw [configured] at known
  rw [carried] at logs
  refine ⟨configuration, tenantId, ticket, sent, checked, known, ?_, last, there, marked, ?_⟩
  swap
  · rw [carried]
  unfold publishedHash at named
  split at named
  · rw [hashed] at named
    obtain ⟨text, -⟩ := Option.filter_eq_some_iff.1 named
    cases text
    exact logs
  · cases named

end Steps

section Runs

variable {host : Host} {s t : Panel} {label : Happening}

/-- A save keeps the record honest. -/
theorem recorded_save {settings : Settings} {thread : Thread Answer UpdateRequest}
    (rule : settings.policySyncState = "applied" →
      Confirmed host.addresses thread.past settings)
    (sound : Sound host s) (member : thread ∈ s.threads) (alive : thread.crashed = false)
    (heard : ∀ exchange ∈ thread.past, Heard s.shared exchange) :
    Recorded host { s.shared with settings := settings } := by
  intro applied
  obtain ⟨configuration, tenantId, ticket, sent, checked, known, logs, last, there, accepted, is⟩ :=
    logs_of_confirmed (rule applied) heard sound.accepted
  have latest := sound.inTurn thread member alive ticket last sent there tenantId accepted
  rw [is] at latest
  exact ⟨configuration, tenantId, checked, known, latest, logs⟩

/-- **What the server does about a publication keeps the record honest.** -/
theorem sound_served {ticket : Nat} {sent : Sent} {serving : Serving} {response : Response}
    {after : SqliteStore} (sound : Sound host s)
    (there : s.shared.sent[ticket]? = some sent) (fresh : sent.response = none)
    (served : host.serve sent.configuration sent.payload serving s.shared.store = (response, after))
    (alone : host.servesInTurn s sent = true)
    (repeats : host.repeatsActive sent.configuration sent.payload serving s.shared.store = true) :
    Sound host (s.moved
      { s.shared with
        store := after
        sent := s.shared.sent.set ticket { sent with response := some response } }) := by
  obtain ⟨logged, grown⟩ := serve_keeps sound.logged served
  have inside : ticket < s.shared.sent.length := (List.getElem?_eq_some_iff.1 there).1
  have quiet : ∀ tenantId, host.authenticate sent.configuration = some tenantId →
      sent.payload.revision = s.shared.store.nextRevision tenantId →
      (s.shared.settings.policySyncState ≠ "applied" ∨
        host.tenantOf s.shared.settings ≠ some tenantId) ∧
      ∀ thread ∈ s.threads, host.owes s.shared tenantId thread ≠ true := by
    intro tenantId known next
    unfold Host.servesInTurn at alone
    rw [known] at alone
    simpa [next] using alone
  constructor
  case logged => exact logged
  case accepted =>
    intro other member response' answered success
    rcases List.mem_or_eq_of_mem_set member with old | rfl
    · obtain ⟨tenantId, hash, known, logs, rest⟩ := sound.accepted other old response' answered success
      exact ⟨tenantId, hash, known, logs.grown grown, rest⟩
    · cases answered
      exact serve_accepted sound.logged served repeats success
  case heard =>
    intro i exchange member
    refine (sound.heard i exchange member).grows fun k sent' there' => ?_
    by_cases same : k = ticket
    · subst same
      obtain rfl : sent = sent' := Option.some.inj (there.symm.trans there')
      refine ⟨_, List.getElem?_set_self inside, rfl, rfl, ?_⟩
      intro response' answered
      rw [fresh] at answered
      cases answered
    · refine ⟨sent', ?_, rfl, rfl, fun _ answered => answered⟩
      show (s.shared.sent.set ticket _)[k]? = some sent'
      rw [List.getElem?_set_ne (Ne.symm same)]
      exact there'
  case recorded =>
    intro applied
    obtain ⟨configuration, tenantId, checked, known, active, logs⟩ := sound.recorded applied
    refine ⟨configuration, tenantId, checked, known, ?_, logs.grown grown⟩
    refine (serve_active served fun known' next => ?_).trans active
    have tenant : host.tenantOf s.shared.settings = some tenantId := by
      unfold Host.tenantOf
      rw [checked]
      exact known
    exact (quiet tenantId known' next).1.elim (fun other => other applied) fun other => other tenant
  case inTurn =>
    intro thread member alive k last sent' there' tenantId accepted
    by_cases same : k = ticket
    · subst same
      replace there' : (s.shared.sent.set k _)[k]? = some sent' := there'
      rw [List.getElem?_set_self inside] at there'
      cases there'
      unfold Host.isAccepted at accepted
      rw [Bool.and_eq_true, beq_iff_eq] at accepted
      exact serve_latest sound.logged served repeats accepted.1 accepted.2
    · replace there' : (s.shared.sent.set ticket _)[k]? = some sent' := there'
      rw [List.getElem?_set_ne (Ne.symm same)] at there'
      refine (serve_active served fun known next => ?_).trans
        (sound.inTurn thread member alive k last sent' there' tenantId accepted)
      refine (quiet tenantId known next).2 thread member ?_
      unfold Host.owes
      rw [alive, last, Option.bind_some, there', Option.any_some, accepted]
      rfl

/-- A thread after a step has just started, or was there, and has heard at most the step. -/
theorem threads_cases (step : (machine host).Step s label t) {thread : Thread Answer UpdateRequest}
    (member : thread ∈ t.threads) :
    thread.past = [] ∨ ∃ old ∈ s.threads, (thread.crashed = false → old.crashed = false) ∧
      (thread.past = old.past ∨
        ∃ i exchange, label = .asked i exchange ∧ thread.past = old.past ++ [exchange]) := by
  cases step with
  | started call =>
      rcases List.mem_append.1 member with old | new
      · exact .inr ⟨thread, old, id, .inl rfl⟩
      · rw [List.mem_singleton.1 new]
        exact .inl rfl
  | @asked i asker request next answer shared _ alive stands answered =>
      obtain ⟨j, there⟩ := List.mem_iff_getElem?.1 member
      replace there : (s.threads.modify i _)[j]? = some thread := there
      rw [List.getElem?_modify] at there
      obtain ⟨old, before, rfl⟩ := Option.map_eq_some_iff.1 there
      refine .inr ⟨old, List.mem_of_getElem? before, ?_⟩
      by_cases same : i = j
      · rw [if_pos same]
        exact ⟨id, .inr ⟨i, _, rfl, rfl⟩⟩
      · rw [if_neg same]
        exact ⟨id, .inl rfl⟩
  | crashed i =>
      obtain ⟨j, there⟩ := List.mem_iff_getElem?.1 member
      replace there : (s.threads.modify i _)[j]? = some thread := there
      rw [List.getElem?_modify] at there
      obtain ⟨old, before, rfl⟩ := Option.map_eq_some_iff.1 there
      refine .inr ⟨old, List.mem_of_getElem? before, ?_⟩
      by_cases same : i = j
      · rw [if_pos same]
        exact ⟨nofun, .inl rfl⟩
      · rw [if_neg same]
        exact ⟨id, .inl rfl⟩
  | moved => exact .inr ⟨thread, member, id, .inl rfl⟩

/-- A step that leaves the store, and accepts no publication, leaves every update its turn. -/
theorem inTurn_step (inTurn : InTurn host s) (step : (machine host).Step s label t)
    (store : t.shared.store.sitePolicySnapshots = s.shared.store.sitePolicySnapshots)
    (keeps : ∀ (ticket : Nat) sent tenantId, t.shared.sent[ticket]? = some sent →
      host.isAccepted tenantId sent = true → s.shared.sent[ticket]? = some sent)
    (fresh : ∀ i configuration payload ticket,
      label = .asked i ⟨.send configuration payload, ticket⟩ → ticket = s.shared.sent.length) :
    InTurn host t := by
  intro thread member alive ticket last sent there tenantId accepted
  have before := keeps ticket sent tenantId there accepted
  have latest : t.shared.store.maxRevision tenantId = s.shared.store.maxRevision tenantId := by
    unfold SqliteStore.maxRevision
    rw [store]
  rw [latest]
  obtain empty | ⟨old, there, living, same | ⟨i, ⟨ask, answer⟩, rfl, longer⟩⟩ :=
    threads_cases step member
  · rw [empty] at last
    cases last
  · rw [same] at last
    exact inTurn old there (living alive) ticket last sent before tenantId accepted
  · rw [longer, outstanding_append] at last
    cases ask with
    | send configuration payload =>
        obtain rfl : answer = ticket := Option.some.inj last
        rw [fresh i configuration payload answer rfl, List.getElem?_eq_none (Nat.le_refl _)] at before
        cases before
    | save settings => cases last
    | _ => exact inTurn old there (living alive) ticket last sent before tenantId accepted

/-- What is left where the log and the record are. -/
theorem Recorded.of_same {s t : Shared} (recorded : Recorded host s)
    (settings : t.settings = s.settings)
    (same : t.store.sitePolicySnapshots = s.store.sitePolicySnapshots) : Recorded host t := by
  intro applied
  rw [settings] at applied ⊢
  obtain ⟨configuration, tenantId, checked, known, active, row, there, rest⟩ := recorded applied
  refine ⟨configuration, tenantId, checked, known, ?_, row, ?_, rest⟩
  · unfold SqliteStore.maxRevision at active ⊢
    rw [same]
    exact active
  · exact policyRevision_grown (same ▸ List.prefix_refl _) there

/-- A step that leaves the log, and answers no publication, keeps what holds of every state. -/
theorem sound_quiet (sound : Sound host s) (step : (machine host).Step s label t)
    (store : t.shared.store.sitePolicySnapshots = s.shared.store.sitePolicySnapshots)
    {more : List Sent} (sent : t.shared.sent = s.shared.sent ++ more)
    (unanswered : ∀ sent ∈ more, sent.response = none) (recorded : Recorded host t.shared)
    (fresh : ∀ i configuration payload ticket,
      label = .asked i ⟨.send configuration payload, ticket⟩ → ticket = s.shared.sent.length)
    (learned : ∀ i exchange, label = .asked i exchange → Heard t.shared exchange) : Sound host t where
  logged := sound.logged.of_same store
  accepted other member response answered success := by
    rw [sent, List.mem_append] at member
    rcases member with old | new
    · obtain ⟨tenantId, hash, known, logs, rest⟩ := sound.accepted other old response answered success
      exact ⟨tenantId, hash, known, logs.grown (store ▸ List.prefix_refl _), rest⟩
    · rw [unanswered other new] at answered
      cases answered
  heard := by
    refine step.learns (P := fun s => Heard s.shared) sound.heard ?_ learned
    intro exchange heard
    refine heard.grows fun ticket other there => ⟨other, ?_, rfl, rfl, fun _ answered => answered⟩
    rw [sent, List.getElem?_append_left (List.getElem?_eq_some_iff.1 there).1]
    exact there
  recorded := recorded
  inTurn := by
    refine inTurn_step sound.inTurn step store ?_ fresh
    intro ticket other tenantId there accepted
    rw [sent, List.getElem?_append] at there
    split at there
    · exact there
    · unfold Host.isAccepted at accepted
      rw [unanswered other (List.mem_of_getElem? there)] at accepted
      cases accepted

/-- **A step in nobody's way keeps what holds of every state.** -/
theorem sound_step (sound : Sound host s) (step : (machine host).Step s label t)
    (fine : host.undisturbed s label = true) : Sound host t := by
  have whole := step
  cases step with
  | started call =>
      exact sound_quiet sound whole rfl (List.append_nil _).symm (List.forall_mem_nil _) sound.recorded
        (by rintro _ _ _ _ ⟨⟩) (by rintro _ _ ⟨⟩)
  | crashed i =>
      exact sound_quiet sound whole rfl (List.append_nil _).symm (List.forall_mem_nil _) sound.recorded
        (by rintro _ _ _ _ ⟨⟩) (by rintro _ _ ⟨⟩)
  | @asked i thread request next answer shared there alive stands answered =>
      have heard : ∀ exchange ∈ thread.past, Heard s.shared exchange := by
        intro exchange member
        refine sound.heard i exchange ?_
        unfold State.past
        rw [there]
        exact member
      have rule : Rule host.addresses thread.past request :=
        ((follows_discard (follows_update thread.call)).at stands).1
      cases answered with
      | saved settings =>
          exact sound_quiet sound whole rfl (List.append_nil _).symm (List.forall_mem_nil _)
            (recorded_save rule sound (List.mem_of_getElem? there) alive heard)
            (by rintro _ _ _ _ ⟨⟩) (by rintro j exchange ⟨⟩; trivial)
      | sent configuration payload =>
          refine sound_quiet sound whole rfl rfl ?_ sound.recorded ?_ ?_
          · intro other member
            rw [List.mem_singleton.1 member]
          · rintro j configuration' payload' ticket ⟨⟩
            rfl
          · rintro j exchange ⟨⟩
            exact ⟨_, List.getElem?_concat_length, rfl, rfl⟩
      | received ticket reply answered =>
          exact sound_quiet sound whole rfl (List.append_nil _).symm (List.forall_mem_nil _) sound.recorded
            (by rintro _ _ _ _ ⟨⟩) (by rintro j exchange ⟨⟩; exact answered)
      | _ =>
          exact sound_quiet sound whole rfl (List.append_nil _).symm (List.forall_mem_nil _) sound.recorded
            (by rintro _ _ _ _ ⟨⟩) (by rintro j exchange ⟨⟩; trivial)
  | moved moves =>
      cases moves with
      | other store same =>
          exact sound_quiet sound whole same (List.append_nil _).symm (List.forall_mem_nil _)
            (sound.recorded.of_same rfl same)
            (by rintro _ _ _ _ ⟨⟩) (by rintro _ _ ⟨⟩)
      | @served ticket sent there unanswered serving =>
          unfold Host.undisturbed at fine
          dsimp only at fine
          rw [there] at fine
          obtain ⟨alone, repeats⟩ := Bool.and_eq_true_iff.1 fine
          exact sound_served sound there unanswered rfl alone repeats

end Runs

/-! ## Every run -/

/-- A server with its log, and a record that is honest about it. -/
structure Site (host : Host) where
  settings : Settings
  store : SqliteStore
  logged : Logged store
  honest : Honest host ⟨settings, store, []⟩

/-- The site before any update. -/
def Site.start {host : Host} (site : Site host) : Panel := .initial ⟨site.settings, site.store, []⟩

theorem Site.sound {host : Host} (site : Site host) : Sound host site.start where
  logged := site.logged
  accepted _ member := nomatch member
  heard i exchange member := by
    rw [Site.start, State.past_initial] at member
    cases member
  recorded := site.honest.recorded site.logged
  inTurn _ member := nomatch member

/-- **The policy state is honest** in every run of updates and of the server: whenever the record
says `applied`, its revision, its hash and its watermark are those of the active policy, as long as
a publication of the next revision comes in only when the record does not say `applied` and no
other update has yet to save that it was accepted, and a publication that is repeated is the active
one. -/
theorem policy_state_honest {host : Host} {site : Site host} {labels : List Happening} {s : Panel}
    (run : Trace (Guarded (machine host).Step fun s label => host.undisturbed s label = true)
      site.start labels s) : Honest host s.shared := by
  have sound : Sound host s :=
    run.keeps (P := Sound host) (fun _ _ _ step sound => sound_step sound step.1 step.2) site.sound
  exact sound.recorded.honest sound.logged

/-! ## Updates, computed -/

/-- The answer of an administrator's site: saves succeed, and what was served is received. -/
def Host.respond (host : Host) (now : Int) (s : Shared) :
    (ask : Ask) → Option (Answer ask × Shared)
  | .get => some (s.settings, s)
  | .isSelectableForUser _ _ => some (true, s)
  | .activeSitePolicy configuration =>
      match host.authenticate configuration with
      | none => some (.response (intoResponse .unauthorized), s)
      | some tenantId =>
          match (findActiveSitePolicy tenantId s.store).1 with
          | .ok (some policy) => some (.response ⟨200, false, sitePolicyResponse policy⟩, s)
          | .ok none => some (.response ⟨404, false, .map [("code", .text "SITE_POLICY_NOT_FOUND")]⟩, s)
          | .error _ => none
  | .time => some (now, s)
  | .save settings => some (true, { s with settings := settings })
  | .send configuration payload =>
      some (s.sent.length, { s with sent := s.sent ++ [⟨configuration, payload, none⟩] })
  | .receive ticket =>
      ((s.sent[ticket]?).bind Sent.response).map fun response => (.response response, s)

theorem findActiveSitePolicy_reads (tenantId : String) (store : SqliteStore) :
    findActiveSitePolicy tenantId store = ((findActiveSitePolicy tenantId store).1, store) := rfl

theorem Host.respond_answers {host : Host} {now : Int} {s t : Shared} {ask : Ask}
    {answer : Answer ask} (responded : host.respond now s ask = some (answer, t)) :
    Answers host s ask answer t := by
  cases ask with
  | get =>
      cases responded
      exact .got
  | isSelectableForUser adminId uploadId =>
      cases responded
      exact .selectable adminId uploadId true
  | activeSitePolicy configuration =>
      unfold Host.respond at responded
      dsimp only at responded
      split at responded
      · cases responded
        exact .active _ _ nofun
      · rename_i tenantId known
        split at responded
        · rename_i policy found
          cases responded
          refine .active _ _ fun _ => ⟨tenantId, policy, known, ?_, rfl⟩
          rw [findActiveSitePolicy_reads, found]
        · cases responded
          exact .active _ _ nofun
        · cases responded
  | time =>
      cases responded
      exact .time now
  | save settings =>
      cases responded
      exact .saved settings
  | send configuration payload =>
      cases responded
      exact .sent configuration payload
  | receive ticket =>
      obtain ⟨response, there, same⟩ := Option.map_eq_some_iff.1 responded
      obtain ⟨sent, there, answered⟩ := Option.bind_eq_some_iff.1 there
      cases same
      exact .received ticket _ fun _ => ⟨sent, response, there, answered, rfl⟩

/-- The server comes to a publication. -/
def Host.occur (host : Host) (s : Shared) : Event → Option Shared
  | .served ticket serving =>
      match s.sent[ticket]? with
      | none => none
      | some sent =>
          match sent.response with
          | some _ => none
          | none =>
              let served := host.serve sent.configuration sent.payload serving s.store
              some { s with
                store := served.2
                sent := s.sent.set ticket { sent with response := some served.1 } }
  | .other _ => none

theorem Host.occur_moves {host : Host} {s t : Shared} {event : Event}
    (occurred : host.occur s event = some t) : Moves host s event t := by
  cases event with
  | served ticket serving =>
      unfold Host.occur at occurred
      dsimp only at occurred
      split at occurred
      · cases occurred
      rename_i sent there
      split at occurred
      · cases occurred
      rename_i fresh
      cases occurred
      exact .served there fresh serving
  | other store => cases occurred

/-- The site as a responder. -/
def responder (host : Host) (now : Int) : Responder (machine host) where
  respond := host.respond now
  allowed _ _ _ _ responded := Host.respond_answers responded
  occur := host.occur
  moves _ _ _ occurred := Host.occur_moves occurred

/-- What a schedule leads to, where it leaves no update running, a run leads to. -/
theorem rehearsed {host : Host} (site : Site host) (now : Int) (meets : Panel → Happening → Bool)
    (commands : List (Command UpdateRequest Event)) (check : Panel → Bool)
    (played : ((responder host now).performAll meets commands ⟨site.start, []⟩).any
      (fun stage => stage.programs.all Program.isDone && check stage.state) = true) :
    ∃ labels s, Trace (Guarded (machine host).Step fun s label => meets s label = true)
      site.start labels s ∧ (∀ i, ¬ s.Running (machine host) i) ∧ check s = true := by
  obtain ⟨stage, led, both⟩ := (Option.any_eq_true _ _).1 played
  obtain ⟨ended, holds⟩ := Bool.and_eq_true_iff.1 both
  obtain ⟨stands, labels, run⟩ := Responder.performAll_runs
    ⟨rfl, fun _ _ _ there => by simp [Site.start, State.initial] at there⟩ led
  exact ⟨labels, stage.state, run, stands.idle ended, holds⟩

/-! ## Samples -/

/-- A server on this machine, which knows one key. -/
def sampleHost : Host where
  addresses :=
    { parseUrl := fun url =>
        if url = "http://127.0.0.1:8088" then
          some ⟨some "http", some "127.0.0.1", some 8088, none, false, false, false, false⟩
        else none
      isIpv4 := fun host => host == "127.0.0.1" }
  authenticate configuration := if configuration.keyId = "g7-primary" then some "g7" else none
  service :=
    { maxIssuedAtSkewSeconds := 300
      normalizedSettingsSha256 := fun
        | none => "c9b787850f2884b5d222a54abf7d0876619248ac15981763a0defbfbdeed86f5"
        | some watermark => watermark.assetSha256 }

/-- A site whose module was never set up. -/
def sampleSite : Site sampleHost where
  settings := .defaults
  store := .migrated
  logged := ⟨fun _ => rfl, fun _ member => nomatch member⟩
  honest := nofun

/-- The module is turned on, without a watermark. -/
def sampleUpdate : UpdateRequest where
  adminId := 1
  incoming :=
    { enabled := true
      controlEndpoint := "http://127.0.0.1:8088"
      keyId := "g7-primary"
      hmacSecret := some "0123456789abcdef0123456789abcdef"
      timeoutSeconds := 10
      connectTimeoutSeconds := 3
      maxParallelFiles := 4
      maxParallelParts := 4
      maxPartRetries := 3
      statusPollIntervalMs := 1500
      attachmentRetentionDays := 7
      watermarkEnabled := false
      watermarkAssetUploadId := none
      watermarkPosition := "bottom_right"
      watermarkMarginPx := 24
      watermarkMaxWidthPercent := 20
      watermarkOpacityPercent := 70 }

/-- The server comes to a publication without a watermark. -/
def sampleServing : Serving := ⟨sampleTime 0, sampleTime 0, none⟩

/-- The record says `applied`, of the active revision or of another one. -/
def saysApplied (active : Bool) (s : Panel) : Bool :=
  s.shared.settings.policySyncState == "applied" &&
    match (findActiveSitePolicy "g7" s.shared.store).1 with
    | .ok (some policy) => ((policy.revision : Int) == s.shared.settings.policyRevision) == active
    | _ => false

/-- The second update. -/
def secondUpdate : UpdateRequest where
  adminId := 2
  incoming := { sampleUpdate.incoming with timeoutSeconds := 20, hmacSecret := none }

/-- A second update has read the record while the first one's publication is on its way. The first
one saves what the server has answered, then the second one publishes revision 2: the record says
`applied` of it, and is honest. -/
theorem policy_state_honest_sample : ∃ labels s,
    Trace (Guarded (machine sampleHost).Step fun s label => sampleHost.undisturbed s label = true)
      sampleSite.start labels s ∧
    s.shared.sent.map (fun sent => (sent.payload.revision, sent.response.map Response.status)) =
      [(1, some 201), (2, some 201)] ∧
    saysApplied true s = true ∧ Honest sampleHost s.shared := by
  obtain ⟨labels, s, run, -, told⟩ := rehearsed sampleSite 1700000000 sampleHost.undisturbed
    [.start sampleUpdate, .run 0 5, .start secondUpdate, .run 1 1,
      .happen (.served 0 sampleServing), .run 0 2, .run 1 4, .happen (.served 1 sampleServing),
      .run 1 2]
    (fun s => s.shared.sent.map
        (fun sent => (sent.payload.revision, sent.response.map Response.status)) ==
          [(1, some 201), (2, some 201)] && saysApplied true s) (by decide +kernel)
  obtain ⟨published, applied⟩ := Bool.and_eq_true_iff.1 told
  exact ⟨labels, s, run, eq_of_beq published, applied, policy_state_honest run⟩

/-- The first update's publication goes in, then all of the second update, then the first update
saves: nothing is running, the record says `applied` of revision 1, and revision 2 is active. -/
theorem overlapping_updates : ¬ ∀ (host : Host) (site : Site host) (labels : List Happening)
    (s : Panel), Trace (machine host).Step site.start labels s →
      (∀ i, ¬ s.Running (machine host) i) → Honest host s.shared := by
  intro claim
  obtain ⟨labels, s, run, idle, other⟩ := rehearsed sampleSite 1700000000 (fun _ _ => true)
    [.start sampleUpdate, .run 0 5, .happen (.served 0 sampleServing), .start sampleUpdate, .run 1 5,
      .happen (.served 1 sampleServing), .run 1 2, .run 0 2]
    (saysApplied false) (by decide +kernel)
  have honest := claim sampleHost sampleSite labels s (run.mono fun _ _ _ step => step.1) idle
  unfold saysApplied at other
  rw [Bool.and_eq_true, beq_iff_eq] at other
  obtain ⟨applied, other⟩ := other
  obtain ⟨configuration, tenantId, policy, -, known, found, numbered, -⟩ := honest applied
  have tenant : tenantId = "g7" := by
    unfold sampleHost at known
    dsimp only at known
    split at known
    · exact (Option.some.inj known).symm
    · cases known
  rw [tenant] at found
  rw [found] at other
  dsimp only at other
  rw [numbered, beq_self_eq_true] at other
  cases other

end MediaBooster.Gnuboard7.Admin
