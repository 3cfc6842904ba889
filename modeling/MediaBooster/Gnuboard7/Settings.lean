/-
# Gnuboard7.Settings -- the module's settings, and their update

The settings are one record of the host, read and written as a whole; its fields are of the types
that the module's schema gives them.  `fromArray` checks a record, `update` is the controller's
method: it reads the record, asks the media server which policy is active, saves what it is about
to do, publishes the next revision, and saves what came of it.

`parse_url`, the test for an IPv4 address, and what the catalog of watermark assets offers an
administrator are taken as parameters or as answers.
-/
import MediaBooster.Gnuboard7.Services

namespace MediaBooster.Gnuboard7.Admin

set_option autoImplicit false

open MediaBooster.Domain
open MediaBooster.Theory.Threads

/-! ## The record -/

/-- The record, field by field as `getSettingsSchema` lists them. -/
structure Settings where
  enabled : Bool
  controlEndpoint : String
  keyId : String
  hmacSecret : String
  timeoutSeconds : Int
  connectTimeoutSeconds : Int
  maxParallelFiles : Int
  maxParallelParts : Int
  maxPartRetries : Int
  statusPollIntervalMs : Int
  attachmentRetentionDays : Int
  watermarkEnabled : Bool
  watermarkAssetUploadId : String
  watermarkPosition : String
  watermarkMarginPx : Int
  watermarkMaxWidthPercent : Int
  watermarkOpacityPercent : Int
  policyRevision : Int
  policySettingsSha256 : String
  policySyncState : String
  policySyncError : String
deriving DecidableEq

/-- `defaults.json`. -/
def Settings.defaults : Settings where
  enabled := false
  controlEndpoint := "http://127.0.0.1:8088"
  keyId := "g7-primary"
  hmacSecret := ""
  timeoutSeconds := 15
  connectTimeoutSeconds := 3
  maxParallelFiles := 8
  maxParallelParts := 4
  maxPartRetries := 3
  statusPollIntervalMs := 1500
  attachmentRetentionDays := 30
  watermarkEnabled := false
  watermarkAssetUploadId := ""
  watermarkPosition := "bottom_right"
  watermarkMarginPx := 24
  watermarkMaxWidthPercent := 20
  watermarkOpacityPercent := 80
  policyRevision := 0
  policySettingsSha256 := ""
  policySyncState := "never"
  policySyncError := ""

/-! ## `MediaBoosterConfiguration` -/

/-- What `parse_url` finds. -/
structure UrlParts where
  scheme : Option String
  host : Option String
  port : Option Int
  path : Option String
  user : Bool
  pass : Bool
  query : Bool
  fragment : Bool

/-- What PHP knows about addresses. -/
structure Addresses where
  parseUrl : String → Option UrlParts
  isIpv4 : String → Bool

/-- A checked configuration. -/
structure MediaBoosterConfiguration where
  enabled : Bool
  endpoint : String
  keyId : String
  hmacSecret : String
  timeoutSeconds : Int
  connectTimeoutSeconds : Int
  maxParallelFiles : Int
  maxParallelParts : Int
  maxPartRetries : Int
  statusPollIntervalMs : Int
  attachmentRetentionDays : Int
  watermarkEnabled : Bool
  watermarkAssetUploadId : String
  watermarkPosition : String
  watermarkMarginPx : Int
  watermarkMaxWidthPercent : Int
  watermarkOpacityPercent : Int
deriving DecidableEq

/-- The characters `trim` takes away. -/
def isTrimmed (c : Char) : Bool := [' ', '\n', '\r', '\t', '\x0B', '\x00'].contains c

/-- `trim`. -/
def trim (text : String) : String :=
  String.ofList ((text.toList.dropWhile isTrimmed).reverse.dropWhile isTrimmed).reverse

/-- `isLoopbackHost`. -/
def isLoopbackHost (addresses : Addresses) (host : String) : Bool :=
  ["localhost", "127.0.0.1", "::1"].contains host ||
    (addresses.isIpv4 host && "127.".toList.isPrefixOf host.toList)

/-- `trim($host, '[]')`. -/
def trimBrackets (host : String) : String :=
  let isBracket := fun c => c == '[' || c == ']'
  String.ofList ((host.toList.dropWhile isBracket).reverse.dropWhile isBracket).reverse

/-- `validatedEndpoint`. -/
def validatedEndpoint (addresses : Addresses) (endpoint : String) : Except String String :=
  if endpoint = "" ∨ trim endpoint ≠ endpoint ∨
      endpoint.toList.any (fun c => decide (c ≤ '\x20') || c == '\x7f') = true then
    .error "control_endpoint is invalid"
  else
    match addresses.parseUrl endpoint with
    | none => .error "control_endpoint is invalid"
    | some parts =>
        let scheme := strtolower (parts.scheme.getD "")
        let host := strtolower (trimBrackets (parts.host.getD ""))
        let path := parts.path.getD ""
        if host = "" ∨ ¬ (scheme = "http" ∨ scheme = "https") then
          .error "control_endpoint must be an HTTP(S) origin"
        else if parts.user || parts.pass || parts.query || parts.fragment then
          .error "control_endpoint must not contain credentials, query, or fragment"
        else if path ≠ "" ∧ path ≠ "/" then
          .error "control_endpoint must not contain a path"
        else if scheme = "http" ∧ isLoopbackHost addresses host = false then
          .error "plain HTTP is allowed only for a literal loopback host"
        else if parts.port.any fun port => decide (port < 1) || decide (65535 < port) then
          .error "control_endpoint port is invalid"
        else .ok (String.ofList (endpoint.toList.reverse.dropWhile (· == '/')).reverse)

/-- `boundedInt`. -/
def boundedInt (key : String) (value least most : Int) : Except String Int :=
  if value < least ∨ most < value then
    .error (key ++ " must be between " ++ toString least ++ " and " ++ toString most)
  else .ok value

/-- The positions a watermark may have. -/
def watermarkPositions : List String :=
  ["center", "top_left", "top_right", "bottom_left", "bottom_right"]

/-- `strlen`. -/
def strlen (text : String) : Nat := text.utf8ByteSize

/-- `fromArray`. -/
def fromArray (addresses : Addresses) (settings : Settings) :
    Except String MediaBoosterConfiguration := do
  let endpoint ← validatedEndpoint addresses settings.controlEndpoint
  check (pregMatch (fun c => c.isAlphanum || c == '_' || c == '-') 1 (some 128) settings.keyId.toList)
    "key_id must use 1-128 ASCII letters, digits, hyphens, or underscores"
  let secretLength := strlen settings.hmacSecret
  check (!settings.enabled || (decide (32 ≤ secretLength) && decide (secretLength ≤ 256)))
    "hmac_secret must contain 32-256 bytes when enabled"
  check (settings.enabled || settings.hmacSecret == "" ||
      (decide (32 ≤ secretLength) && decide (secretLength ≤ 256)))
    "hmac_secret must be empty or contain 32-256 bytes"
  let timeout ← boundedInt "timeout_seconds" settings.timeoutSeconds 1 60
  let connectTimeout ← boundedInt "connect_timeout_seconds" settings.connectTimeoutSeconds 1 15
  check (decide (connectTimeout ≤ timeout)) "connect_timeout_seconds cannot exceed timeout_seconds"
  let watermarkAssetUploadId := trim settings.watermarkAssetUploadId
  check (!settings.watermarkEnabled || isUuid watermarkAssetUploadId)
    "watermark_asset_upload_id must be a valid Ready image upload UUID"
  check (settings.watermarkEnabled || watermarkAssetUploadId == "" || isUuid watermarkAssetUploadId)
    "watermark_asset_upload_id must be empty or a valid upload UUID"
  check (watermarkPositions.contains settings.watermarkPosition) "watermark_position is not allowlisted"
  let maxParallelFiles ← boundedInt "max_parallel_files" settings.maxParallelFiles 1 16
  let maxParallelParts ← boundedInt "max_parallel_parts" settings.maxParallelParts 1 8
  let maxPartRetries ← boundedInt "max_part_retries" settings.maxPartRetries 0 5
  let statusPollIntervalMs ←
    boundedInt "status_poll_interval_ms" settings.statusPollIntervalMs 1500 10000
  let attachmentRetentionDays ←
    boundedInt "attachment_retention_days" settings.attachmentRetentionDays 1 365
  let watermarkMarginPx ← boundedInt "watermark_margin_px" settings.watermarkMarginPx 0 1024
  let watermarkMaxWidthPercent ←
    boundedInt "watermark_max_width_percent" settings.watermarkMaxWidthPercent 1 50
  let watermarkOpacityPercent ←
    boundedInt "watermark_opacity_percent" settings.watermarkOpacityPercent 1 100
  .ok
    { enabled := settings.enabled
      endpoint := endpoint
      keyId := settings.keyId
      hmacSecret := settings.hmacSecret
      timeoutSeconds := timeout
      connectTimeoutSeconds := connectTimeout
      maxParallelFiles := maxParallelFiles
      maxParallelParts := maxParallelParts
      maxPartRetries := maxPartRetries
      statusPollIntervalMs := statusPollIntervalMs
      attachmentRetentionDays := attachmentRetentionDays
      watermarkEnabled := settings.watermarkEnabled
      watermarkAssetUploadId := watermarkAssetUploadId
      watermarkPosition := settings.watermarkPosition
      watermarkMarginPx := watermarkMarginPx
      watermarkMaxWidthPercent := watermarkMaxWidthPercent
      watermarkOpacityPercent := watermarkOpacityPercent }

/-! ## Requests and responses -/

/-- What `UpdateSettingsRequest` has let through: a text may be absent or `null`. -/
structure Incoming where
  enabled : Bool
  controlEndpoint : String
  keyId : String
  hmacSecret : Option String
  timeoutSeconds : Int
  connectTimeoutSeconds : Int
  maxParallelFiles : Int
  maxParallelParts : Int
  maxPartRetries : Int
  statusPollIntervalMs : Int
  attachmentRetentionDays : Int
  watermarkEnabled : Bool
  watermarkAssetUploadId : Option (Option String)
  watermarkPosition : String
  watermarkMarginPx : Int
  watermarkMaxWidthPercent : Int
  watermarkOpacityPercent : Int

/-- A request of an administrator. -/
structure UpdateRequest where
  adminId : Int
  incoming : Incoming

/-- `array_replace($current, $incoming)`; an empty secret is the one there is. -/
def arrayReplace (current : Settings) (incoming : Incoming) : Settings :=
  { current with
    enabled := incoming.enabled
    controlEndpoint := incoming.controlEndpoint
    keyId := incoming.keyId
    hmacSecret := if incoming.hmacSecret.getD "" = "" then current.hmacSecret
      else incoming.hmacSecret.getD ""
    timeoutSeconds := incoming.timeoutSeconds
    connectTimeoutSeconds := incoming.connectTimeoutSeconds
    maxParallelFiles := incoming.maxParallelFiles
    maxParallelParts := incoming.maxParallelParts
    maxPartRetries := incoming.maxPartRetries
    statusPollIntervalMs := incoming.statusPollIntervalMs
    attachmentRetentionDays := incoming.attachmentRetentionDays
    watermarkEnabled := incoming.watermarkEnabled
    watermarkAssetUploadId := match incoming.watermarkAssetUploadId with
      | none => current.watermarkAssetUploadId
      | some given => given.getD ""
    watermarkPosition := incoming.watermarkPosition
    watermarkMarginPx := incoming.watermarkMarginPx
    watermarkMaxWidthPercent := incoming.watermarkMaxWidthPercent
    watermarkOpacityPercent := incoming.watermarkOpacityPercent }

/-- `safeSettings`: the record without its secret, and whether there is one. -/
structure SafeSettings where
  settings : Settings
  hmacSecretConfigured : Bool

/-- `safeSettings`. -/
def safeSettings (settings : Settings) : SafeSettings where
  settings := { settings with hmacSecret := "" }
  hmacSecretConfigured := settings.hmacSecret != ""

/-- What the controller responds. -/
inductive JsonResponse
  | success (message : String) (settings : SafeSettings)
  | error (message : String) (status : Int) (errors : List (String × List String))
  | validationError (errors : List (String × List String)) (message : String)

/-- The watermark of a policy that is published. -/
structure WatermarkPayload where
  assetUploadId : String
  position : String
  marginPx : Int
  maxWidthPercent : Int
  opacityPercent : Int
deriving DecidableEq

/-- A policy that is published. -/
structure PolicyPayload where
  schemaVersion : Int
  revision : Int
  issuedAt : Int
  watermark : Option WatermarkPayload
deriving DecidableEq

/-- The watermark of a configuration. -/
def MediaBoosterConfiguration.watermark (configuration : MediaBoosterConfiguration) :
    Option WatermarkPayload :=
  if configuration.watermarkEnabled then
    some
      { assetUploadId := configuration.watermarkAssetUploadId
        position := configuration.watermarkPosition
        marginPx := configuration.watermarkMarginPx
        maxWidthPercent := configuration.watermarkMaxWidthPercent
        opacityPercent := configuration.watermarkOpacityPercent }
  else none

/-! ## What the controller asks for -/

/-- A step of the controller outside itself. -/
inductive Ask
  | get
  | isSelectableForUser (adminId : Int) (uploadId : String)
  | activeSitePolicy (configuration : MediaBoosterConfiguration)
  | time
  | save (settings : Settings)
  | send (configuration : MediaBoosterConfiguration) (payload : PolicyPayload)
  | receive (ticket : Nat)

/-- What it is answered. -/
abbrev Answer : Ask → Type
  | .get => Settings
  | .isSelectableForUser _ _ => Bool
  | .activeSitePolicy _ | .receive _ => Reply
  | .time => Int
  | .save _ => Bool
  | .send _ _ => Nat

/-- A method of the controller. -/
abbrev Controller := Attempt Answer Throwable

/-- Ask once. -/
def answerTo (ask : Ask) : Controller (Answer ask) := Attempt.lift (Program.request ask)

/-- `expectObject`. -/
def expectObject : Except Throwable (Option Mixed) → Except Throwable Mixed
  | .ok (some value) => .ok value
  | .ok none => .error (.upstream 502 "INVALID_UPSTREAM_RESPONSE")
  | .error error => .error error

/-- `activeSitePolicy`, of its reply. -/
def activeOf (reply : Reply) : Except Throwable (Option Mixed) :=
  match expectObject (decodeReply reply) with
  | .ok policy => .ok (some policy)
  | .error (.upstream 404 "SITE_POLICY_NOT_FOUND") => .ok none
  | .error error => .error error

/-- `PHP_INT_MAX`. -/
def phpIntMax : Int := 9223372036854775807

/-- `$active['revision'] ?? 0`, if it is a revision that has a next one. -/
def activeRevision (active : Option Mixed) : Option Int :=
  match (active.getD .null).field "revision" with
  | .null => some 0
  | .int revision => if 0 ≤ revision ∧ revision < phpIntMax then some revision else none
  | _ => none

/-- The candidate, with its `policy_sync_state` and `policy_sync_error`. -/
def Settings.mark (candidate : Settings) (state error : String) : Settings :=
  { candidate with policySyncState := state, policySyncError := error }

/-- `policySyncError`. -/
def policySyncError (httpStatus : Int) (errorCode : String) (candidate : Settings)
    (pendingWasSaved : Bool) : Controller JsonResponse := do
  if pendingWasSaved then
    let _ ← answerTo (.save (candidate.mark "error" errorCode))
    pure (.error "미디어 부스터 정책을 적용하지 못했습니다." httpStatus [("policy", [errorCode])])
  else
    pure (.error "미디어 부스터 정책을 적용하지 못했습니다." httpStatus [("policy", [errorCode])])

/-- `catch (MediaBoosterUpstreamException)`. -/
def catchUpstream (error : Throwable) (handler : Int → String → Controller JsonResponse) :
    Controller JsonResponse :=
  match error with
  | .upstream httpStatus errorCode => handler httpStatus errorCode
  | error => Attempt.fail error

/-- The hash of a publication's answer, if the answer is of that revision. -/
def publishedHash (revision : Int) (published : Mixed) : Option String :=
  if (published.field "revision").int? = some revision then
    (published.field "settings_sha256").text?.filter fun hash =>
      pregMatch isLowerHex 64 (some 64) hash.toList
  else none

/-- The end of `update`: what came of the publication is saved. -/
def settle (candidate : Settings) (published : Mixed) : Controller JsonResponse := do
  match publishedHash candidate.policyRevision published with
  | none =>
      let _ ← answerTo (.save (candidate.mark "error" "INVALID_UPSTREAM_POLICY_RESPONSE"))
      pure (.error "미디어 처리 서버의 정책 응답이 올바르지 않습니다." 502 [])
  | some settingsHash =>
      let applied := { candidate with policySettingsSha256 := settingsHash }.mark "applied" ""
      let saved ← answerTo (.save applied)
      if saved then
        pure (.success "미디어 부스터 설정과 정책을 적용했습니다." (safeSettings applied))
      else pure (.error "정책은 적용됐지만 로컬 상태 저장에 실패했습니다." 500 [])

/-- The publication of `update`. -/
def publishSitePolicy (configuration : MediaBoosterConfiguration) (candidate : Settings)
    (issuedAt : Int) : Controller JsonResponse := do
  let ticket ← answerTo (.send configuration
    ⟨1, candidate.policyRevision, issuedAt, configuration.watermark⟩)
  let reply ← answerTo (.receive ticket)
  match expectObject (decodeReply reply) with
  | .error error => catchUpstream error fun httpStatus errorCode =>
      policySyncError httpStatus errorCode candidate true
  | .ok published => settle candidate published

/-- `update` of an enabled module: the revision after the active one is pending, then published. -/
def synchronize (configuration : MediaBoosterConfiguration) (candidate : Settings) :
    Controller JsonResponse := do
  let reply ← answerTo (.activeSitePolicy configuration)
  match activeOf reply with
  | .error error => catchUpstream error fun httpStatus errorCode =>
      policySyncError httpStatus errorCode candidate false
  | .ok active =>
      match activeRevision active with
      | none => pure (.error "미디어 처리 서버의 정책 revision 응답이 올바르지 않습니다." 502 [])
      | some activeRevision =>
          let issuedAt ← answerTo .time
          let pending := { candidate with policyRevision := activeRevision + 1 }.mark "pending" ""
          let saved ← answerTo (.save pending)
          if saved then publishSitePolicy configuration pending issuedAt
          else pure (.error "미디어 부스터 설정을 저장하지 못했습니다." 500 [])

/-- `update` of a checked candidate. -/
def saveCandidate (addresses : Addresses) (candidate : Settings) : Controller JsonResponse := do
  match fromArray addresses candidate with
  | .error message => pure (.validationError [("settings", [message])]
      "미디어 부스터 설정이 올바르지 않습니다.")
  | .ok configuration =>
      if configuration.enabled then synchronize configuration candidate
      else
        let disabled := candidate.mark "disabled" ""
        let saved ← answerTo (.save disabled)
        if saved then pure (.success "미디어 부스터 설정을 저장했습니다." (safeSettings disabled))
        else pure (.error "미디어 부스터 설정을 저장하지 못했습니다." 500 [])

/-- No asset, or one the catalog offers the administrator. -/
def isSelectable (adminId : Int) (uploadId : String) : Controller Bool :=
  if uploadId = "" then pure true else answerTo (.isSelectableForUser adminId uploadId)

/-- `update`. -/
def update (addresses : Addresses) (request : UpdateRequest) : Controller JsonResponse := do
  let current ← answerTo .get
  let candidate := arrayReplace current request.incoming
  let watermarkAssetId := strtolower (trim candidate.watermarkAssetUploadId)
  let selectable ← isSelectable request.adminId watermarkAssetId
  if selectable then
    saveCandidate addresses { candidate with watermarkAssetUploadId := watermarkAssetId }
  else
    pure (.validationError [("watermark_asset_upload_id", ["선택할 수 없는 워터마크 자산입니다."])]
      "워터마크 자산을 다시 선택해 주세요.")

end MediaBooster.Gnuboard7.Admin
