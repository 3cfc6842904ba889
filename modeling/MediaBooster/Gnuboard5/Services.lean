/-
# Gnuboard5.Services -- the plugin's actions and hooks as programs

An action asks for a statement of the database, sends a request to the media server or reads the
answer to one, and goes on; a request that deletes is sent and heard of in two steps, since the
server may come to it without its sender hearing of it.

A write of a post is the plugin's two hooks with the host's own work between them: `beforeWrite`
finds the uploads ready and keeps their rows, and `afterWrite` links them to the post the host has
saved.  An `alert` of a hook ends the request.
-/
import MediaBooster.Gnuboard5.Store
import MediaBooster.Theory.Threads

namespace MediaBooster.Gnuboard5

set_option autoImplicit false

open MediaBooster.Domain
open MediaBooster.Theory.Threads

/-! ## Requests -/

/-- Who asks for a deletion. -/
inductive Origin
  | user
  | reconcile
deriving DecidableEq

/-- A response of the media server, or of what stands before it: whether its body is blank, and
what the body decodes to. -/
structure Response where
  status : Int
  blank : Bool
  json : Mixed

/-- What sending a request comes to. -/
inductive Reply
  | thrown
  | response (response : Response)

/-- The operations of an upload the server only answers. -/
inductive Control
  | status
  | completeMultipart
  | confirmSingle
  | abortMultipart
deriving DecidableEq

/-- What a program asks for. -/
inductive Ask
  | db (op : Op)
  | send (origin : Origin) (uploadId : String)
  | receive (ticket : Nat)
  | control (control : Control) (uploadId : String)

/-- What it is answered. -/
abbrev Answer : Ask → Type
  | .db op => Except Throwable op.Output
  | .send _ _ => Except Throwable Nat
  | .receive _ | .control _ _ => Reply

/-- A method of the plugin. -/
abbrev Plugin := Attempt Answer Throwable

/-- Ask once. -/
def answerTo (ask : Ask) : Program Answer (Answer ask) := Program.request ask

/-- A statement of the database. -/
def database (op : Op) : Plugin op.Output := Attempt.ofProgram (answerTo (.db op))

/-- `try { body } catch`: go on with whatever came out. -/
def caught {α β : Type} (body : Plugin α) (handler : Except Throwable α → Plugin β) : Plugin β :=
  Attempt.ofProgram (body.attempt.bind fun outcome => (handler outcome).attempt)

/-! ## `ControlClient` -/

/-- The statuses `request` hands on. -/
def knownStatuses : List Int := [400, 401, 404, 409, 422, 429, 503]

/-- `/^[A-Z0-9_]{1,80}$/`. -/
def isErrorCode (code : String) : Bool :=
  pregMatch (fun c => c.isUpper || c.isDigit || c == '_') 1 (some 80) code.toList

/-- What `request` makes of a response. -/
def decodeResponse (response : Response) : Except Throwable (Option Mixed) :=
  if 200 ≤ response.status ∧ response.status < 300 then
    if response.status == 204 || response.blank then .ok none
    else
      match response.json with
      | .map entries => .ok (some (.map entries))
      | _ => .error (.upstream 502 "INVALID_UPSTREAM_RESPONSE")
  else
    let code := (((response.json.field "code").text?).filter isErrorCode).getD "UPSTREAM_REQUEST_FAILED"
    .error (.upstream (if knownStatuses.contains response.status then response.status else 502) code)

/-- What `request` makes of its reply. -/
def decodeReply : Reply → Except Throwable (Option Mixed)
  | .thrown => .error (.upstream 503 "UPSTREAM_UNAVAILABLE")
  | .response response => decodeResponse response

/-- `ControlClient::assertUploadId`. -/
def assertUploadId (uploadId : String) : Plugin Unit :=
  Attempt.ensure (isUuid uploadId) (.logic "invalid upload id")

/-- `deleteUpload`. -/
def deleteUpload (origin : Origin) (uploadId : String) : Plugin Unit := do
  assertUploadId uploadId
  let ticket ← Attempt.ofProgram (answerTo (.send origin uploadId))
  let reply ← Attempt.lift (answerTo (.receive ticket))
  let _ ← Attempt.ofExcept (decodeReply reply)
  pure ()

/-- A request whose answer is all it comes to. -/
def controlRequest (control : Control) (uploadId : String) : Plugin (Option Mixed) := do
  assertUploadId uploadId
  let reply ← Attempt.lift (answerTo (.control control uploadId))
  Attempt.ofExcept (decodeReply reply)

/-- `status`. -/
def clientStatus (uploadId : String) : Plugin Mixed := do
  let decoded ← controlRequest .status uploadId
  Attempt.okOr decoded (.upstream 502 "INVALID_UPSTREAM_RESPONSE")

/-! ## `SessionStore` -/

/-- `SessionStore::assertUploadId`. -/
def assertStoredId (uploadId : String) : Plugin Unit :=
  Attempt.ensure (isUuid uploadId) (.unexpectedValue "invalid upload id")

/-- `/^[mg]:[A-Za-z0-9_.:@-]{1,76}$/`. -/
def isOwnerKey (ownerKey : String) : Bool :=
  match ownerKey.toList with
  | scope :: ':' :: rest => ['m', 'g'].contains scope &&
      pregMatch (fun c => c.isAlphanum || ['_', '.', ':', '@', '-'].contains c) 1 (some 76) rest
  | _ => false

/-- `/^[A-Za-z0-9_]{1,20}$/`. -/
def isBoardTable (boardTable : String) : Bool :=
  pregMatch (fun c => c.isAlphanum || c == '_') 1 (some 20) boardTable.toList

/-- `assertOwnerAndBoard`. -/
def assertOwnerAndBoard (ownerKey boardTable : String) : Plugin Unit :=
  Attempt.ensure (isOwnerKey ownerKey && isBoardTable boardTable)
    (.unexpectedValue "invalid upload ownership scope")

/-- `recordBatch`. -/
def recordBatch (batch : Batch) : Plugin Unit := do
  assertOwnerAndBoard batch.ownerKey batch.boardTable
  database (.recordBatch batch)

/-- `findOwned`. -/
def findOwned (uploadId ownerKey boardTable : String) : Plugin (Option SessionRow) := do
  assertStoredId uploadId
  assertOwnerAndBoard ownerKey boardTable
  database (.findOwned uploadId ownerKey boardTable)

/-- `/^[a-z_]{1,32}$/`. -/
def isStateName (state : String) : Bool :=
  pregMatch (fun c => c.isLower || c == '_') 1 (some 32) state.toList

/-- `markState`. -/
def markState (uploadId state : String) : Plugin Unit := do
  assertStoredId uploadId
  Attempt.ensure (isStateName state) (.unexpectedValue "invalid upload state")
  database (.markState uploadId state)

/-- `markReady`. -/
def markReady (uploadId : String) (asset : Asset) : Plugin Unit := do
  assertStoredId uploadId
  database (.markReady uploadId asset)

/-- The row may be linked to a post. -/
def SessionRow.isReadyForLink (row : SessionRow) : Bool :=
  row.state == "ready" && row.wrId.isNone &&
    row.readyMimeType.any (["image/jpeg", "video/mp4", "video/quicktime"].contains ·) &&
    row.readyMasterBytes.isSome && row.readyPresetId.isSome

/-- The loop of `readyOwnedForLink`. -/
def readyRows (ownerKey boardTable : String) : List String → Plugin (List SessionRow)
  | [] => pure []
  | uploadId :: rest => do
      let found ← findOwned uploadId ownerKey boardTable
      let row ← Attempt.okOr (Option.filter SessionRow.isReadyForLink found)
        (.unexpectedValue "upload is not ready for this post")
      let rows ← readyRows ownerKey boardTable rest
      pure (row :: rows)

/-- `readyOwnedForLink`. -/
def readyOwnedForLink (uploadIds : List String) (ownerKey boardTable : String) :
    Plugin (List SessionRow) := do
  Attempt.ensure (!uploadIds.isEmpty && decide (uploadIds.length ≤ 100) && decide uploadIds.Nodup)
    (.unexpectedValue "invalid attachment upload list")
  assertOwnerAndBoard ownerKey boardTable
  readyRows ownerKey boardTable uploadIds

/-- The first loop of `linkReady`: the number of an upload's file, when it has one at this post. -/
def alreadyLinked (writeId : Int) : List (Option FileRow) → Except Throwable (List (Option Int))
  | [] => .ok []
  | existing :: rest =>
      if existing.any fun file => file.wrId != writeId then
        .error (.unexpectedValue "upload is already linked to another post")
      else (alreadyLinked writeId rest).map (existing.map FileRow.bfNo :: ·)

/-- `/^[A-Za-z0-9_]+$/`. -/
def isTableName (table : String) : Bool :=
  pregMatch (fun c => c.isAlphanum || c == '_') 1 none table.toList

/-- `linkReady`. -/
def linkReady (sessions : List SessionRow) (boardTable : String) (writeId : Int) (writeTable : String)
    (maximumFiles : Int) : Plugin (List (String × Int)) := do
  Attempt.ensure (decide (1 ≤ writeId) && decide (1 ≤ maximumFiles) && isTableName writeTable)
    (.unexpectedValue "invalid attachment link target")
  let uploadIds := sessions.map SessionRow.uploadId
  let target ← database (.linkTarget boardTable writeTable writeId uploadIds)
  Attempt.ensure target.posted (.unexpectedValue "post attachment target no longer exists")
  let numbers ← Attempt.ofExcept (alreadyLinked writeId target.existingFiles)
  Attempt.ensure
    (decide ((target.existing + (numbers.filter Option.isNone).length : Int) ≤ maximumFiles))
    (.unexpectedValue "post attachment count exceeds the board limit")
  database (.linkReady
    { boardTable := boardTable
      writeTable := writeTable
      writeId := writeId
      uploads := uploadIds.zip numbers
      existing := target.existing
      next := target.next })

/-- The upload of a stored name: `/^g7mb-([a-f0-9-]{36})\.(?:jpg|mp4)$/i`. -/
def uploadOf (stored : String) : Option String :=
  let text := stored.toList.map Char.toLower
  let uploadId := (text.drop 5).take 36
  if text.take 5 = "g7mb-".toList ∧ uploadId.length = 36 ∧
      uploadId.all (fun c => isLowerHex c || c == '-') ∧
      (text.drop 41 = ".jpg".toList ∨ text.drop 41 = ".mp4".toList ∨
        text.drop 41 = ".jpg\n".toList ∨ text.drop 41 = ".mp4\n".toList) then
    some (String.ofList uploadId)
  else none

/-- `scheduleDeletionForFile`. -/
def scheduleDeletionForFile (file : FileRow) (retentionDays : Int) : Plugin Unit :=
  if file.storage ≠ "g7mediabooster" then pure ()
  else
    match uploadOf file.file with
    | none => pure ()
    | some uploadId => database (.scheduleDeletion uploadId retentionDays)

/-- `completeDeletionRequest`. -/
def completeDeletionRequest (uploadId : String) : Plugin Unit := do
  assertStoredId uploadId
  database (.completeDeletionRequest uploadId)

/-- `failDeletionRequest`. -/
def failDeletionRequest (uploadId errorCode : String) : Plugin Unit := do
  assertStoredId uploadId
  database (.failDeletionRequest uploadId
    (if isErrorCode errorCode then errorCode else "DELETE_REQUEST_FAILED"))

/-! ## `ReadyAssetValidator` -/

/-- `ReadyAssetValidator::validate`.  Its checks of the derivatives and of the filename are those of
the other adapter's validator, word for word. -/
def validate (status : Mixed) (session : SessionRow) : Except String Asset := do
  let uploadId ← Gnuboard7.requiredUuid (.text session.uploadId)
  let statusId ← Gnuboard7.requiredUuid (status.field "upload_id")
  Gnuboard7.check (statusId == uploadId && (status.field "state").text? == some "ready" &&
    (match status.field "deletion_pending" with | .bool pending => !pending | _ => false))
    "upload is not a deliverable Ready asset"
  let kind := session.declaredKind
  Gnuboard7.check (["image", "video"].contains kind && decide (1 ≤ session.expectedSizeBytes) &&
    decide (1 ≤ session.attachmentOrder) && decide (session.attachmentOrder ≤ 100))
    "stored upload reservation is invalid"
  let allowed := if kind == "image" then
      ["image/avif", "image/gif", "image/heic", "image/heif", "image/jpeg", "image/png", "image/webp"]
    else ["video/mp4", "video/quicktime"]
  let detectedType := (status.field "detected_content_type").text?.getD ""
  Gnuboard7.check (allowed.contains detectedType) "detected media type is not release-supported"
  let derivatives := (status.field "derivatives").list?.getD []
  Gnuboard7.check (derivatives.length == 2) "Ready asset must have exactly two derivatives"
  let byVariant ←
    Gnuboard7.validateDerivatives kind detectedType session.expectedSizeBytes derivatives (none, none)
  match byVariant with
  | (some master, some thumbnail) => do
      Gnuboard7.check (master.presetId == thumbnail.presetId) "derivative preset mismatch"
      let extension ← Gnuboard7.extensionOf master.contentType
      let filename ← Gnuboard7.normalizedFilename (some session.originalFilename) extension
      pure
        { uploadId := uploadId
          originalFilename := filename
          storedFilename := storedName uploadId extension
          mimeType := master.contentType
          size := master.byteLen
          thumbnailSize := thumbnail.byteLen
          presetId := master.presetId
          attachmentOrder := session.attachmentOrder
          imageType := if kind = "image" then 2 else 0 }
  | _ => .error "derivative preset mismatch"

/-! ## `ApiEndpoint` -/

/-- The session an action is about: the upload of the query, owned by who asks. -/
structure Asked where
  uploadId : String
  ownerKey : String
  boardTable : String

/-- `uploadId`. -/
def requestedUpload (asked : Asked) : Plugin String := do
  Attempt.ensure (isLowerUuid (strtolower asked.uploadId)) (.http 404 "UPLOAD_NOT_FOUND")
  pure (strtolower asked.uploadId)

/-- `owned`. -/
def owned (asked : Asked) (uploadId : String) : Plugin SessionRow := do
  let session ← findOwned uploadId asked.ownerKey asked.boardTable
  Attempt.okOr session (.http 404 "UPLOAD_NOT_FOUND")

/-- The states of `assertStatusScope`. -/
def statusStates : List String :=
  ["created", "uploaded", "quarantined", "processing", "ready", "rejected", "failed", "deleted"]

/-- `assertStatusScope`. -/
def isStatusInScope (status : Mixed) (uploadId : String) : Bool :=
  (status.field "upload_id").text? == some uploadId &&
    (status.field "state").text?.any statusStates.contains &&
    (match status.field "deletion_pending" with | .bool _ => true | _ => false) &&
    (status.field "derivatives").list?.any fun derivatives => decide (derivatives.length ≤ 2)

/-- `status`. -/
def status (asked : Asked) : Plugin Unit := do
  let uploadId ← requestedUpload asked
  let _ ← owned asked uploadId
  let status ← clientStatus uploadId
  Attempt.ensure (isStatusInScope status uploadId) (.unexpectedValue "invalid upload status response")
  match (status.field "state").text? with
  | some state => markState uploadId state
  | none => pure ()

/-- `prepare`. -/
def prepare (asked : Asked) : Plugin Asset := do
  let uploadId ← requestedUpload asked
  let session ← owned asked uploadId
  let status ← clientStatus uploadId
  let asset ← Attempt.ofExcept ((validate status session).mapError Throwable.unexpectedValue)
  markReady uploadId asset
  pure asset

/-- `delete`. -/
def delete (asked : Asked) : Plugin Unit := do
  let uploadId ← requestedUpload asked
  let _ ← owned asked uploadId
  deleteUpload .user uploadId
  completeDeletionRequest uploadId

/-- A control operation, and the state it leaves the upload in. -/
def controlAction (control : Control) (state : String) (asked : Asked) : Plugin Unit := do
  let uploadId ← requestedUpload asked
  let _ ← owned asked uploadId
  let _ ← controlRequest control uploadId
  markState uploadId state

/-- `completeMultipart`. -/
def completeMultipart := controlAction .completeMultipart "quarantined"

/-- `abortMultipart`. -/
def abortMultipart := controlAction .abortMultipart "aborted"

/-- `confirmSingle`. -/
def confirmSingle := controlAction .confirmSingle "quarantined"

/-! ## `Hooks` -/

/-- A write of a post: its board, what the form has sent, and the post the host saves. -/
structure Write where
  ownerKey : String
  boardTable : String
  writeTable : String
  uploadCount : Int
  mode : String
  writeId : Int
  raw : String
  removed : Nat
  uploaded : Nat
  savedId : Int

/-- `min(100, max(1, bo_upload_count))`. -/
def Write.maximum (write : Write) : Int := min 100 (max 1 write.uploadCount)

/-- `assertProjectedCount`. -/
def assertProjectedCount (write : Write) (remoteCount : Nat) : Plugin Unit := do
  let counted ←
    if write.mode = "u" ∧ 0 < write.writeId then database (.countFiles write.boardTable write.writeId)
    else pure 0
  let existing := if write.mode = "u" ∧ 0 < write.writeId then counted - write.removed else 0
  Attempt.ensure (decide ((existing + write.uploaded + remoteCount : Int) ≤ write.maximum))
    (.unexpectedValue "projected attachment count exceeds board limit")

/-- `beforeWrite`: the pending uploads. -/
def beforeWrite (write : Write) : Plugin (List SessionRow) :=
  if write.raw = "" then pure []
  else do
    Attempt.ensure (decide (write.raw.utf8ByteSize ≤ 4096)) (.unexpectedValue "invalid upload list")
    let uploadIds := explode write.raw
    Attempt.ensure (decide ((uploadIds.length : Int) ≤ write.maximum) && decide uploadIds.Nodup)
      (.unexpectedValue "invalid upload list")
    Attempt.ensure (uploadIds.all isLowerUuid) (.unexpectedValue "invalid upload id")
    let pending ← readyOwnedForLink uploadIds write.ownerKey write.boardTable
    assertProjectedCount write pending.length
    pure pending

/-- `afterWrite`. -/
def afterWrite (write : Write) (pending : List SessionRow) : Plugin Unit :=
  if pending.isEmpty then pure ()
  else do
    let _ ← linkReady pending write.boardTable write.savedId write.writeTable write.maximum
    pure ()

/-- The hooks of a write. -/
def writeUpdate (write : Write) : Plugin Unit := do
  let pending ← beforeWrite write
  afterWrite write pending

/-! ## `reconcile-deletions.php` -/

/-- The code a failed deletion is recorded with. -/
def failureCode : Throwable → String
  | .upstream _ errorCode => errorCode
  | _ => "DELETE_REQUEST_FAILED"

/-- One turn of the loop. -/
def reconcileDeletion (session : SessionRow) : Plugin Unit :=
  caught (do
    deleteUpload .reconcile session.uploadId
    completeDeletionRequest session.uploadId) fun
    | .ok () => pure ()
    | .error error => failDeletionRequest session.uploadId (failureCode error)

/-- The loop. -/
def reconcileDeletions : List SessionRow → Plugin Unit
  | [] => pure ()
  | session :: rest => do
      reconcileDeletion session
      reconcileDeletions rest

/-- The script. -/
def reconcile : Plugin Unit := do
  let due ← database (.dueDeletions 100)
  reconcileDeletions due

/-! ## Calls -/

/-- What comes in: an action of the API, a write of a post, a file the host deletes, or the script. -/
inductive Call
  | batch (batch : Batch)
  | status (asked : Asked)
  | prepare (asked : Asked)
  | delete (asked : Asked)
  | completeMultipart (asked : Asked)
  | confirmSingle (asked : Asked)
  | abortMultipart (asked : Asked)
  | write (write : Write)
  | scheduleDeletion (file : FileRow) (retentionDays : Int)
  | reconcile

/-- The program of a call. -/
def Call.program : Call → Program Answer Unit
  | .batch recorded => (recordBatch recorded).attempt.discard
  | .status asked => (Gnuboard5.status asked).attempt.discard
  | .prepare asked => (Gnuboard5.prepare asked).attempt.discard
  | .delete asked => (Gnuboard5.delete asked).attempt.discard
  | .completeMultipart asked => (Gnuboard5.completeMultipart asked).attempt.discard
  | .confirmSingle asked => (Gnuboard5.confirmSingle asked).attempt.discard
  | .abortMultipart asked => (Gnuboard5.abortMultipart asked).attempt.discard
  | .write form => (writeUpdate form).attempt.discard
  | .scheduleDeletion file days => (scheduleDeletionForFile file days).attempt.discard
  | .reconcile => Gnuboard5.reconcile.attempt.discard

end MediaBooster.Gnuboard5
