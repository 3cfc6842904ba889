/-
# Gnuboard7.Services -- the adapter's methods as programs

A method asks for a statement of the database, sends a request to the media server or reads the
answer to one, and goes on.  `send` and `receive` are apart because anything may happen between
them: the server may come to a request before, after, or without its sender hearing of it.

What the host does is here as far as the adapter stands around it: `restorePost` is the host's
restore of a post with the adapter's two hooks, `before_restore` and `after_restore`, and the
attachments the host takes back between them are its own choice.
-/
import MediaBooster.Gnuboard7.Validator
import MediaBooster.Theory.Threads

namespace MediaBooster.Gnuboard7

set_option autoImplicit false

open MediaBooster.Domain
open MediaBooster.Theory.Threads

/-! ## Requests -/

/-- Who asks for a deletion. -/
inductive Origin
  | user
  | reconcile
deriving DecidableEq

/-- A response of the media server, or of what stands before it: whether its body is empty, and
what the body decodes to. -/
structure Response where
  status : Int
  blank : Bool
  json : Mixed

/-- What sending a request comes to. -/
inductive Reply
  | unreachable
  | thrown
  | response (response : Response)

/-- The operations of an upload the server only answers. -/
inductive Control
  | status
  | completeMultipart
  | confirmSingle
  | abortMultipart
deriving DecidableEq

/-- What a program asks for. -/
inductive Ask
  | db (op : Op)
  | send (origin : Origin) (uploadId : String)
  | receive (ticket : Nat)
  | control (control : Control) (uploadId : String)

/-- What it is answered. -/
abbrev Answer : Ask → Type
  | .db op => Except Throwable op.Output
  | .send _ _ => Except Throwable Nat
  | .receive _ | .control _ _ => Reply

/-- A method of the adapter. -/
abbrev Adapter := Attempt Answer Throwable

/-- Ask once. -/
def answerTo (ask : Ask) : Program Answer (Answer ask) := Program.request ask

/-- A statement of the database. -/
def database (op : Op) : Adapter op.Output :=
  Attempt.ofProgram (answerTo (.db op))

/-- `try { body } catch`: go on with whatever came out. -/
def caught {α β : Type} (body : Adapter α) (handler : Except Throwable α → Adapter β) : Adapter β :=
  Attempt.ofProgram (body.attempt.bind fun outcome => (handler outcome).attempt)

/-! ## `MediaBoosterClient` -/

/-- `Response::successful`. -/
def Response.successful (response : Response) : Bool :=
  decide (200 ≤ response.status) && decide (response.status < 300)

/-- The statuses `decodeResponse` hands on. -/
def knownStatuses : List Int := [400, 401, 404, 409, 422, 429, 503]

/-- `decodeResponse`. -/
def decodeResponse (response : Response) : Except Throwable (Option Mixed) :=
  if response.successful then
    if response.status == 204 || response.blank then .ok none
    else
      match response.json with
      | .map entries => .ok (some (.map entries))
      | _ => .error (.upstream 502 "INVALID_UPSTREAM_RESPONSE")
  else
    let code := (response.json.field "code").text?.elim "UPSTREAM_REQUEST_FAILED" fun code =>
      String.ofList (code.toList.take 80)
    .error (.upstream (if knownStatuses.contains response.status then response.status else 502) code)

/-- What `request` makes of its reply. -/
def decodeReply : Reply → Except Throwable (Option Mixed)
  | .unreachable => .error (.upstream 503 "UPSTREAM_UNAVAILABLE")
  | .thrown => .error .other
  | .response response => decodeResponse response

/-- `assertUploadId`. -/
def assertUploadId (uploadId : String) : Adapter Unit :=
  Attempt.ensure (isUuid uploadId) (.logic "invalid upload id")

/-- `deleteUpload`. -/
def deleteUpload (origin : Origin) (uploadId : String) : Adapter Unit := do
  assertUploadId uploadId
  let ticket ← Attempt.ofProgram (answerTo (.send origin uploadId))
  let reply ← Attempt.lift (answerTo (.receive ticket))
  let _ ← Attempt.ofExcept (decodeReply reply)
  pure ()

/-- A request whose answer is all it comes to. -/
def controlRequest (control : Control) (uploadId : String) : Adapter (Option Mixed) := do
  assertUploadId uploadId
  let reply ← Attempt.lift (answerTo (.control control uploadId))
  Attempt.ofExcept (decodeReply reply)

/-- `status`. -/
def clientStatus (uploadId : String) : Adapter Mixed := do
  let decoded ← controlRequest .status uploadId
  Attempt.okOr decoded (.upstream 502 "INVALID_UPSTREAM_RESPONSE")

/-! ## `AttachmentRetentionService` -/

/-- The days a schedule may wait. -/
def validRetention (boardSlug : String) (retentionDays : Int) : Bool :=
  validSlug boardSlug && decide (1 ≤ retentionDays) && decide (retentionDays ≤ 365)

/-- The normalization of `scheduleIds`, and its update unless nothing is left. -/
def scheduleNormalized (attachmentIds : List Int) (boardSlug reason : String) (retentionDays : Int) :
    Adapter Unit :=
  let ids := (attachmentIds.filter fun id => decide (0 < id)).eraseDups
  if ids.isEmpty then pure () else database (.scheduleIds ids boardSlug reason retentionDays)

/-- `schedulePostDeletion`. -/
def schedulePostDeletion (postId : Int) (boardSlug : String) (retentionDays : Int) : Adapter Unit :=
  if decide (postId < 1) || !validRetention boardSlug retentionDays then pure ()
  else do
    let attachmentIds ← database (.deletedAttachments postId)
    scheduleNormalized attachmentIds boardSlug "post_delete" retentionDays

/-- `scheduleAttachmentDeletion`. -/
def scheduleAttachmentDeletion (attachmentId : Int) (boardSlug : String) (retentionDays : Int) :
    Adapter Unit :=
  if decide (attachmentId < 1) || !validRetention boardSlug retentionDays then pure ()
  else do
    let eligible ← database (.isDeletedAttachment attachmentId)
    if eligible then scheduleNormalized [attachmentId] boardSlug "attachment_delete" retentionDays
    else pure ()

/-- `cancelRestoredPost`. -/
def cancelRestoredPost (postId : Int) (boardSlug : String) : Adapter Unit :=
  if decide (postId < 1) || !validSlug boardSlug then pure ()
  else do
    let attachmentIds ← database (.restoredAttachments postId)
    if attachmentIds.isEmpty then pure () else database (.cancelRestored attachmentIds boardSlug)

/-- `preparePostRestore`. -/
def preparePostRestore (postId : Int) (boardSlug : String) : Adapter Unit :=
  if decide (postId < 1) || !validSlug boardSlug then pure ()
  else do
    let attachmentIds ← database (.cascadeAttachments postId)
    if attachmentIds.isEmpty then pure () else database (.prepareRestore attachmentIds boardSlug)

/-- `beginClaim` of a row `claimDue` has returned. -/
def beginClaimOf (session : SessionRow) : Adapter Decision :=
  match session.attachmentId with
  | none => pure .block
  | some attachmentId =>
      if attachmentId < 1 then pure .block
      else database (.beginClaim attachmentId session.uploadId)

/-- `/^[A-Z0-9_]{1,80}$/`, or the general code. -/
def safeCode (errorCode : String) : String :=
  if pregMatch (fun c => c.isUpper || c.isDigit || c == '_') 1 (some 80) errorCode.toList then errorCode
  else "RETENTION_REQUEST_FAILED"

/-- `failClaim`: one query reads the row, and one statement writes what follows from it. -/
def failClaimOf (uploadId errorCode : String) (keepInFlight : Bool) : Adapter Unit := do
  let row ← database (.findSession uploadId)
  database (.failClaim uploadId
    { safeCode := safeCode errorCode
      attempts := row.elim 1 fun row => max 1 row.retentionAttempts
      requestStartedAt := row.bind SessionRow.retentionRequestStartedAt
      permanent := false
      keepInFlight := keepInFlight })

/-! ## `ReconcileAttachmentRetentionCommand` -/

/-- What became of a claim. -/
inductive Reconciled
  | skipped
  | requested
  | cancelled
  | failed
deriving DecidableEq

/-- The claim once the server has been asked, or could not be. -/
def settleClaim (uploadId : String) : Except Throwable Unit → Adapter Reconciled
  | .ok () => pure .requested
  | .error (.upstream httpStatus errorCode) =>
      if httpStatus = 404 then do
        database (.completeClaim uploadId)
        pure .requested
      else do
        failClaimOf uploadId errorCode (errorCode == "UPSTREAM_UNAVAILABLE")
        pure .failed
  | .error _ => do
      failClaimOf uploadId "RETENTION_REQUEST_FAILED" true
      pure .failed

/-- One turn of the loop of `handle`. -/
def reconcileClaim (session : SessionRow) : Adapter Reconciled :=
  let uploadId := strtolower session.uploadId
  if uploadId = "" then pure .skipped
  else do
    let decision ← beginClaimOf session
    match decision with
    | .cancel => do
        database (.cancelClaim uploadId)
        pure .cancelled
    | .block => pure .failed
    | .delete =>
        caught (do
          deleteUpload .reconcile uploadId
          database (.completeClaim uploadId))
          (settleClaim uploadId)

/-- The loop of `handle`. -/
def reconcileClaims : List SessionRow → Adapter (List Reconciled)
  | [] => pure []
  | session :: rest => do
      let outcome ← reconcileClaim session
      let outcomes ← reconcileClaims rest
      pure (outcome :: outcomes)

/-- The exit codes of a command. -/
inductive ExitCode
  | success
  | failure
  | invalid
deriving DecidableEq

/-- `handle`. -/
def reconcile (limit : Option Int) : Adapter ExitCode :=
  match limit with
  | none => pure .invalid
  | some limit =>
      if limit < 1 ∨ 100 < limit then pure .invalid
      else do
        let claimed ← database (.claimDue limit.toNat)
        let outcomes ← reconcileClaims claimed
        pure (if outcomes.contains .failed then .failure else .success)

/-! ## `UploadController` -/

/-- The status code of what was thrown. -/
def failureCode : Throwable → Int
  | .upstream httpStatus _ => httpStatus
  | _ => 500

/-- An action on an upload of the user: `404` for another's, and the code of what it throws. -/
def ownAction (userId : Int) (slug uploadId : String) (action : Adapter Int) : Adapter Int := do
  let owned ← database (.isOwnedBy uploadId userId slug)
  if owned then
    caught action fun
      | .ok code => pure code
      | .error error => pure (failureCode error)
  else pure 404

/-- `status`. -/
def statusAction (userId : Int) (slug uploadId : String) : Adapter Int :=
  ownAction userId slug uploadId do
    let status ← clientStatus uploadId
    match (status.field "state").text? with
    | some state => do
        database (.markState uploadId state)
        pure 200
    | none => pure 200

/-- `delete`. -/
def deleteAction (userId : Int) (slug uploadId : String) : Adapter Int :=
  ownAction userId slug uploadId do
    deleteUpload .user uploadId
    database (.markState uploadId "deletion_pending")
    pure 202

/-- A control operation, and the state it leaves the upload in. -/
def controlAction (control : Control) (state : String) (userId : Int) (slug uploadId : String) :
    Adapter Int :=
  ownAction userId slug uploadId do
    let _ ← controlRequest control uploadId
    database (.markState uploadId state)
    pure 200

/-- `completeMultipart`. -/
def completeMultipartAction := controlAction .completeMultipart "quarantined"

/-- `confirmSingle`. -/
def confirmSingleAction := controlAction .confirmSingle "quarantined"

/-- `abortMultipart`. -/
def abortMultipartAction := controlAction .abortMultipart "aborted"

/-! ## `AttachmentBridgeService` -/

/-- `materialize`. -/
def materialize (uploadId : String) (userId : Int) (boardSlug : String) : Adapter AttachmentRow := do
  let owned ← database (.ownedSession uploadId userId boardSlug)
  let session ← Attempt.okOr owned (.unexpectedValue "upload session is not owned")
  let status ← clientStatus uploadId
  let descriptor ← Attempt.ofExcept ((validate status session).mapError Throwable.unexpectedValue)
  let attachmentId ← database (.materializeAttachment uploadId userId boardSlug descriptor)
  let attachment ← database (.reloaded attachmentId userId uploadId)
  Attempt.okOr attachment (.unexpectedValue "materialized attachment cannot be reloaded")

/-! ## Calls -/

/-- What comes in: a hook of the host, a command, or a request. -/
inductive Call
  | schedulePostDeletion (postId : Int) (boardSlug : String) (retentionDays : Int)
  | scheduleAttachmentDeletion (attachmentId : Int) (boardSlug : String) (retentionDays : Int)
  | restorePost (postId : Int) (boardSlug : String) (restored : List Int)
  | reconcile (limit : Option Int)
  | status (userId : Int) (slug uploadId : String)
  | delete (userId : Int) (slug uploadId : String)
  | completeMultipart (userId : Int) (slug uploadId : String)
  | confirmSingle (userId : Int) (slug uploadId : String)
  | abortMultipart (userId : Int) (slug uploadId : String)
  | materialize (uploadId : String) (userId : Int) (boardSlug : String)
  | save (save : Save)

/-- The host's restore of a post between the adapter's hooks. -/
def restorePost (postId : Int) (boardSlug : String) (restored : List Int) : Adapter Unit := do
  preparePostRestore postId boardSlug
  database (.undelete restored)
  cancelRestoredPost postId boardSlug

/-- The program of a call. -/
def Call.program : Call → Program Answer Unit
  | .schedulePostDeletion postId slug days => (Gnuboard7.schedulePostDeletion postId slug days).attempt.discard
  | .scheduleAttachmentDeletion id slug days =>
      (Gnuboard7.scheduleAttachmentDeletion id slug days).attempt.discard
  | .restorePost postId slug restored => (Gnuboard7.restorePost postId slug restored).attempt.discard
  | .reconcile limit => (Gnuboard7.reconcile limit).attempt.discard
  | .status userId slug uploadId => (statusAction userId slug uploadId).attempt.discard
  | .delete userId slug uploadId => (deleteAction userId slug uploadId).attempt.discard
  | .completeMultipart userId slug uploadId =>
      (completeMultipartAction userId slug uploadId).attempt.discard
  | .confirmSingle userId slug uploadId => (confirmSingleAction userId slug uploadId).attempt.discard
  | .abortMultipart userId slug uploadId => (abortMultipartAction userId slug uploadId).attempt.discard
  | .materialize uploadId userId slug => (Gnuboard7.materialize uploadId userId slug).attempt.discard
  | .save named => (database (.linkSave named)).attempt.discard

end MediaBooster.Gnuboard7
