/-
# Gnuboard7.Validator -- `AttachmentMaterializationValidator`

What the media server says of an upload becomes a native attachment only when it is the status
of a Ready upload of the session's reservation: the same upload, a detected type the adapter
knows, exactly one master and one thumbnail of one preset, and lengths within the adapter's
limits.  The checks stand in the source's order and fail with its messages.
-/
import MediaBooster.Gnuboard7.Store

namespace MediaBooster.Gnuboard7

set_option autoImplicit false

open MediaBooster.Domain

/-- `IMAGE_MAX_BYTES`. -/
def imageMaxBytes : Int := 128 * 1024 * 1024

/-- `VIDEO_MAX_BYTES`. -/
def videoMaxBytes : Int := 5 * 1024 * 1024 * 1024

/-- `THUMBNAIL_MAX_BYTES`. -/
def thumbnailMaxBytes : Int := 32 * 1024 * 1024

/-- Go on, or fail with `message`. -/
def check (condition : Bool) (message : String) : Except String Unit :=
  if condition then .ok () else .error message

/-- `requiredUuid`. -/
def requiredUuid (value : Mixed) : Except String String :=
  match value with
  | .text uploadId => if isUuid uploadId then .ok (strtolower uploadId) else .error "invalid upload id"
  | _ => .error "invalid upload id"

/-- `/^[A-Za-z0-9][A-Za-z0-9._-]{0,127}$/`. -/
def isPresetId (presetId : String) : Bool :=
  match presetId.toList with
  | [] => false
  | first :: rest => first.isAlphanum &&
      pregMatch (fun c => c.isAlphanum || c == '.' || c == '_' || c == '-') 0 (some 127) rest

/-- A derivative whose fields have been checked. -/
structure Derivative where
  presetId : String
  contentType : String
  byteLen : Int
deriving DecidableEq

/-- `validateDerivative`. -/
def validateDerivative (derivative : Mixed) (variant kind detectedType : String)
    (expectedSize : Int) : Except String Derivative :=
  match (derivative.field "preset_id").text?, (derivative.field "url_path").text?,
      (derivative.field "byte_len").int? with
  | some presetId, some urlPath, some byteLen =>
      if !isPresetId presetId || urlPath.utf8ByteSize < 1 || 1024 < urlPath.utf8ByteSize ||
          urlPath.toList.contains (Char.ofNat 0) || byteLen < 1 then
        .error "invalid derivative metadata"
      else if variant = "thumbnail" then
        if (derivative.field "content_type").text? != some "image/jpeg" || thumbnailMaxBytes < byteLen then
          .error "invalid thumbnail derivative"
        else .ok ⟨presetId, "image/jpeg", byteLen⟩
      else
        let expectedContentType := if kind = "image" then "image/jpeg" else detectedType
        let maxBytes := if kind = "image" then imageMaxBytes else videoMaxBytes
        if (derivative.field "content_type").text? != some expectedContentType || maxBytes < byteLen then
          .error "invalid master derivative"
        else if kind = "video" ∧ byteLen ≠ expectedSize then .error "video master length mismatch"
        else .ok ⟨presetId, expectedContentType, byteLen⟩
  | _, _, _ => .error "invalid derivative metadata"

/-- The loop over the derivatives: what is known of the master and of the thumbnail so far. -/
def validateDerivatives (kind detectedType : String) (expectedSize : Int) :
    List Mixed → Option Derivative × Option Derivative →
      Except String (Option Derivative × Option Derivative)
  | [], byVariant => .ok byVariant
  | derivative :: rest, (master, thumbnail) =>
      if !derivative.isArray then .error "invalid derivative"
      else
        match (derivative.field "variant").text?, master, thumbnail with
        | some "master", none, _ =>
            match validateDerivative derivative "master" kind detectedType expectedSize with
            | .ok checked => validateDerivatives kind detectedType expectedSize rest (some checked, thumbnail)
            | .error message => .error message
        | some "thumbnail", _, none =>
            match validateDerivative derivative "thumbnail" kind detectedType expectedSize with
            | .ok checked => validateDerivatives kind detectedType expectedSize rest (master, some checked)
            | .error message => .error message
        | _, _, _ => .error "invalid derivative set"

/-- The extension of a master's content type. -/
def extensionOf (contentType : String) : Except String String :=
  if contentType = "image/jpeg" then .ok "jpg"
  else if contentType = "video/mp4" then .ok "mp4"
  else if contentType = "video/quicktime" then .ok "mov"
  else .error "invalid master derivative type"

/-- `pathinfo(…, PATHINFO_FILENAME)` of a text without separators: up to its last dot. -/
def filenameStem (text : List Char) : List Char :=
  if text.contains '.' then (text.reverse.dropWhile fun c => c != '.').tail.reverse else text

/-- `trim(…, " .\t\n\r\0\x0B")`. -/
def trimName (text : List Char) : List Char :=
  let blank := fun c : Char => [' ', '.', '\t', '\n', '\r', Char.ofNat 0, Char.ofNat 11].contains c
  ((text.dropWhile blank).reverse.dropWhile blank).reverse

/-- `normalizedFilename`.  The loop takes one character at a time off a stem too long. -/
def normalizedFilename (value : Option String) (extension : String) : Except String String :=
  match value with
  | none => .error "invalid original filename"
  | some name =>
      let control := fun c : Char => decide (c.toNat < 32) || c.toNat == 127 || c == '/' || c == '\\'
      if name.isEmpty || 255 < name.length || name.toList.any control then
        .error "invalid original filename"
      else
        let trimmed := trimName (filenameStem name.toList)
        let stem := if trimmed.isEmpty then "media".toList else trimmed
        let suffix := "." ++ extension
        .ok (String.ofList (stem.take (255 - suffix.length)) ++ suffix)

/-- `validate`. -/
def validate (status : Mixed) (session : SessionRow) : Except String Descriptor := do
  let uploadId ← requiredUuid (.text session.uploadId)
  let statusId ← requiredUuid (status.field "upload_id")
  check (statusId == uploadId && (status.field "state").text? == some "ready" &&
    (match status.field "deletion_pending" with | .bool pending => !pending | _ => false))
    "upload is not a deliverable Ready asset"
  let kind := session.declaredKind.getD ""
  let order := session.attachmentOrder.getD 0
  check (["image", "video"].contains kind && decide (1 ≤ session.expectedSizeBytes) &&
    decide (1 ≤ order) && decide (order ≤ 100) &&
    !(kind == "image" && decide (imageMaxBytes < session.expectedSizeBytes)) &&
    !(kind == "video" && decide (videoMaxBytes < session.expectedSizeBytes)))
    "stored upload reservation is invalid"
  let allowed := if kind == "image" then
      ["image/avif", "image/gif", "image/heic", "image/heif", "image/jpeg", "image/png", "image/webp"]
    else ["video/mp4", "video/quicktime"]
  let detectedType := (status.field "detected_content_type").text?.getD ""
  check (allowed.contains detectedType) "detected media type is not release-supported"
  let derivatives := (status.field "derivatives").list?.getD []
  check (derivatives.length == 2) "Ready asset must have exactly two derivatives"
  let byVariant ← validateDerivatives kind detectedType session.expectedSizeBytes derivatives (none, none)
  match byVariant with
  | (some master, some thumbnail) => do
      check (master.presetId == thumbnail.presetId) "derivative preset mismatch"
      let extension ← extensionOf master.contentType
      let originalFilename ← normalizedFilename session.originalFilename extension
      pure
        { originalFilename := originalFilename
          storedFilename := uploadId ++ "." ++ extension
          path := uploadId
          mimeType := master.contentType
          size := master.byteLen
          order := order
          presetId := master.presetId
          detectedContentType := detectedType
          thumbnailContentType := thumbnail.contentType
          thumbnailSize := thumbnail.byteLen }
  | _ => .error "incomplete derivative set"

section Validated

variable {status : Mixed} {session : SessionRow} {descriptor : Descriptor}

theorem requiredUuid_eq_ok {value : Mixed} {uploadId : String}
    (checked : requiredUuid value = .ok uploadId) :
    ∃ text, value = .text text ∧ isUuid text = true ∧ uploadId = strtolower text := by
  unfold requiredUuid at checked
  split at checked
  · split at checked
    · rename_i text proper
      cases checked
      exact ⟨text, rfl, proper, rfl⟩
    · cases checked
  · cases checked

/-- What comes after a check that passes. -/
theorem bind_eq_ok {α β : Type} {checked : Except String α} {next : α → Except String β} {value : β}
    (passed : (checked >>= next) = .ok value) :
    ∃ first, checked = .ok first ∧ next first = .ok value := by
  cases checked with
  | ok first => exact ⟨first, rfl, passed⟩
  | error => cases passed

/-- **The attachment is stored under the session's upload.** -/
theorem path_of_validate (validated : validate status session = .ok descriptor) :
    descriptor.path = strtolower session.uploadId := by
  unfold validate at validated
  obtain ⟨uploadId, named, validated⟩ := bind_eq_ok validated
  obtain ⟨text, same, -, lowered⟩ := requiredUuid_eq_ok named
  cases same
  obtain ⟨statusId, -, validated⟩ := bind_eq_ok validated
  obtain ⟨_, -, validated⟩ := bind_eq_ok validated
  obtain ⟨_, -, validated⟩ := bind_eq_ok validated
  obtain ⟨_, -, validated⟩ := bind_eq_ok validated
  obtain ⟨_, -, validated⟩ := bind_eq_ok validated
  obtain ⟨byVariant, -, validated⟩ := bind_eq_ok validated
  split at validated
  · obtain ⟨_, -, validated⟩ := bind_eq_ok validated
    obtain ⟨extension, -, validated⟩ := bind_eq_ok validated
    obtain ⟨originalFilename, -, validated⟩ := bind_eq_ok validated
    cases validated
    exact lowered
  · cases validated

end Validated

end MediaBooster.Gnuboard7
