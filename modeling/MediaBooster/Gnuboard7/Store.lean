/-
# Gnuboard7.Store -- the adapter's tables, and the statements over them

`g7mb_upload_sessions` is the adapter's own table; `board_attachments` and `boards` are the
host's, with the columns the adapter reads.  Every `Op` is one statement, or one transaction
whose first query locks the rows it decides on: nothing comes between its parts.  What a
method of the services does in several statements is a program over them
(`Gnuboard7.Services`).

Timestamps are whole seconds.  The clock is read once in a statement.
-/
import Mathlib.Data.List.Sort
import MediaBooster.Domain.Php
import MediaBooster.Theory.Table

namespace MediaBooster.Gnuboard7

set_option autoImplicit false

open MediaBooster.Domain
open MediaBooster.Theory.Table

/-! ## Rows -/

/-- A row of `g7mb_upload_sessions`. -/
structure SessionRow where
  uploadId : String
  userId : Option Int
  boardSlug : String
  originalFilename : Option String
  declaredKind : Option String
  attachmentOrder : Option Int
  expectedSizeBytes : Int
  state : String
  attachmentId : Option Int
  materializedAt : Option Int
  retentionDeleteAfter : Option Int
  retentionReason : Option String
  retentionAttempts : Int
  retentionLeaseUntil : Option Int
  retentionRequestStartedAt : Option Int
  deletionRequestedAt : Option Int
  retentionLastError : Option String
  ownershipExpiresAt : Int
  updatedAt : Int
deriving DecidableEq

/-- A row of `board_attachments`. -/
structure AttachmentRow where
  id : Int
  boardId : Int
  postId : Option Int
  disk : String
  path : String
  collection : String
  triggerType : Option String
  createdBy : Option Int
  deletedAt : Option Int
deriving DecidableEq

/-- A row of `boards`. -/
structure BoardRow where
  id : Int
  slug : String
  useFileUpload : Bool
  maxFileCount : Int
deriving DecidableEq

/-- The tables; `nextAttachmentId` is the `AUTO_INCREMENT` of `board_attachments`. -/
structure Database where
  sessions : List SessionRow
  attachments : List AttachmentRow
  boards : List BoardRow
  nextAttachmentId : Int

namespace Database

/-- The session of an upload. -/
def session (db : Database) (uploadId : String) : Option SessionRow :=
  db.sessions.find? fun row => row.uploadId == uploadId

/-- The attachment of an id, deleted or not. -/
def attachment (db : Database) (id : Int) : Option AttachmentRow :=
  db.attachments.find? fun row => row.id == id

end Database

/-- What is thrown. -/
inductive Throwable
  | upstream (httpStatus : Int) (errorCode : String)
  | unexpectedValue (message : String)
  | logic (message : String)
  | runtime (message : String)
  | validation (message : String)
  | modelNotFound
  | query
  | other
deriving DecidableEq

/-! ## `AttachmentRetentionDecision` -/

/-- `AttachmentRetentionDecision::{DELETE, CANCEL, BLOCK}`. -/
inductive Decision
  | delete
  | cancel
  | block
deriving DecidableEq

/-- The collections a media attachment is in. -/
def mediaCollections : List String := ["attachments", "post_attachments"]

/-- `AttachmentRetentionDecision::evaluate`. -/
def evaluate (attachment : Option AttachmentRow) (uploadId : String) : Decision :=
  match attachment with
  | none => .delete
  | some row =>
      if row.disk != "g7mediabooster" || !mediaCollections.contains row.collection ||
          strtolower row.path != strtolower uploadId then .block
      else if row.deletedAt.isNone then .cancel
      else .delete

/-! ## `AttachmentRetentionService` -/

/-- `AttachmentRetentionService::MAX_ATTEMPTS`. -/
def maxAttempts : Int := 10

/-- `AttachmentRetentionService::validSlug`: `/^[A-Za-z0-9_-]+$/`. -/
def validSlug (slug : String) : Bool :=
  pregMatch (fun c => c.isAlphanum || c == '_' || c == '-') 1 none slug.toList

/-- A media attachment of the post. -/
def AttachmentRow.isMediaOf (row : AttachmentRow) (postId : Int) : Bool :=
  row.postId == some postId && row.disk == "g7mediabooster" &&
    mediaCollections.contains row.collection

/-- `clearedRetention`. -/
def SessionRow.clearedRetention (now : Int) (row : SessionRow) : SessionRow :=
  { row with
    retentionDeleteAfter := none
    retentionReason := none
    retentionAttempts := 0
    retentionLeaseUntil := none
    retentionRequestStartedAt := none
    retentionLastError := none
    updatedAt := now }

/-- What `scheduleIds` writes. -/
def SessionRow.scheduled (reason : String) (retentionDays now : Int) (row : SessionRow) : SessionRow :=
  { row with
    retentionDeleteAfter := some (now + retentionDays * 86400)
    retentionReason := some reason
    retentionAttempts := 0
    retentionLeaseUntil := none
    retentionLastError := none
    updatedAt := now }

/-- What `claimDue` writes. -/
def SessionRow.claimed (now : Int) (row : SessionRow) : SessionRow :=
  { row with
    retentionAttempts := row.retentionAttempts + 1
    retentionLeaseUntil := some (now + 600)
    retentionLastError := none
    updatedAt := now }

/-- What `beginClaim` writes when the attachment is not the upload's. -/
def SessionRow.blocked (now : Int) (row : SessionRow) : SessionRow :=
  { row with
    retentionAttempts := maxAttempts
    retentionLeaseUntil := none
    retentionLastError := some "ATTACHMENT_MAPPING_MISMATCH"
    updatedAt := now }

/-- What `beginClaim` writes before the first request. -/
def SessionRow.begun (now : Int) (row : SessionRow) : SessionRow :=
  { row with
    state := "deletion_requesting"
    retentionRequestStartedAt := some now
    updatedAt := now }

/-- What `completeClaim` writes. -/
def SessionRow.completed (now : Int) (row : SessionRow) : SessionRow :=
  { row with
    state := "deletion_pending"
    deletionRequestedAt := some now
    retentionDeleteAfter := none
    retentionLeaseUntil := none
    retentionRequestStartedAt := none
    retentionLastError := none
    updatedAt := now }

/-- What `failClaim` has computed from the row it read. -/
structure Failure where
  safeCode : String
  attempts : Int
  requestStartedAt : Option Int
  permanent : Bool
  keepInFlight : Bool
deriving DecidableEq

/-- The minutes a failed claim waits. -/
def backoffMinutes (attempts : Int) : Int := min (24 * 60) (15 * 2 ^ (min 6 (attempts - 1)).toNat)

/-- What `failClaim` writes. -/
def SessionRow.failed (failure : Failure) (now : Int) (row : SessionRow) : SessionRow :=
  { row with
    retentionAttempts := if failure.permanent then maxAttempts else failure.attempts
    retentionLeaseUntil :=
      if failure.permanent then none else some (now + backoffMinutes failure.attempts * 60)
    retentionRequestStartedAt :=
      if failure.keepInFlight then some (failure.requestStartedAt.getD now) else none
    retentionLastError := some failure.safeCode
    state := if failure.keepInFlight then "deletion_requesting" else "ready"
    updatedAt := now }

/-- What `materializeAttachment` writes. -/
def SessionRow.materialized (attachmentId now : Int) (row : SessionRow) : SessionRow :=
  { row with
    attachmentId := some attachmentId
    materializedAt := some now
    state := "ready"
    updatedAt := now }

/-- What `markState` writes: `substr` to the width of the column. -/
def SessionRow.marked (state : String) (now : Int) (row : SessionRow) : SessionRow :=
  { row with state := String.ofList (state.toList.take 32), updatedAt := now }

/-- Neither marker of a remote deletion is set. -/
def SessionRow.unmarked (row : SessionRow) : Bool :=
  row.retentionRequestStartedAt.isNone && row.deletionRequestedAt.isNone

/-- The sessions of these attachments on the board. -/
def SessionRow.isOf (row : SessionRow) (attachmentIds : List Int) (boardSlug : String) : Bool :=
  row.boardSlug == boardSlug && row.attachmentId.any attachmentIds.contains

/-- The attachments of `schedulePostDeletion`. -/
def deletedAttachments (postId : Int) (db : Database) : List Int :=
  (db.attachments.filter fun row => row.isMediaOf postId && row.deletedAt.isSome).map AttachmentRow.id

/-- The eligibility of `scheduleAttachmentDeletion`. -/
def isDeletedAttachment (attachmentId : Int) (db : Database) : Bool :=
  db.attachments.any fun row => row.id == attachmentId && row.disk == "g7mediabooster" &&
    mediaCollections.contains row.collection && row.deletedAt.isSome

/-- The attachments of `cancelRestoredPost`. -/
def restoredAttachments (postId : Int) (db : Database) : List Int :=
  (db.attachments.filter fun row => row.isMediaOf postId && row.triggerType == some "cascade" &&
    row.deletedAt.isNone).map AttachmentRow.id

/-- The attachments of `preparePostRestore`. -/
def cascadeAttachments (postId : Int) (db : Database) : List Int :=
  (db.attachments.filter fun row => row.isMediaOf postId &&
    row.triggerType == some "cascade").map AttachmentRow.id

/-- The update of `scheduleIds`. -/
def scheduleIds (attachmentIds : List Int) (boardSlug reason : String) (retentionDays : Int)
    (now : Int) (db : Database) : Database :=
  { db with
    sessions := updateWhere (fun row => row.isOf attachmentIds boardSlug && row.unmarked)
      (SessionRow.scheduled reason retentionDays now) db.sessions }

/-- The update of `cancelRestoredPost`, and of the transaction of `preparePostRestore`. -/
def clearUnmarked (attachmentIds : List Int) (boardSlug : String) (now : Int) (db : Database) :
    Database :=
  { db with
    sessions := updateWhere (fun row => row.isOf attachmentIds boardSlug && row.unmarked)
      (SessionRow.clearedRetention now) db.sessions }

/-- The transaction of `preparePostRestore`. -/
def prepareRestore (attachmentIds : List Int) (boardSlug : String) (now : Int) (db : Database) :
    Except Throwable Unit × Database :=
  if db.sessions.any fun row => row.isOf attachmentIds boardSlug && !row.unmarked then
    (.error (.runtime "G7_MEDIA_RETENTION_ALREADY_STARTED"), db)
  else (.ok (), clearUnmarked attachmentIds boardSlug now db)

/-- The rows `claimDue` looks for. -/
def SessionRow.isDue (row : SessionRow) (now : Int) : Bool :=
  row.attachmentId.isSome && row.retentionDeleteAfter.any (fun after => decide (after ≤ now)) &&
    row.deletionRequestedAt.isNone && decide (row.retentionAttempts < maxAttempts) &&
    ((row.retentionRequestStartedAt.isNone && row.retentionLeaseUntil.isNone) ||
      row.retentionLeaseUntil.any fun lease => decide (lease ≤ now))

/-- `ORDER BY retention_delete_after LIMIT limit` of the rows that are due. -/
def dueRows (limit : Nat) (now : Int) (db : Database) : List SessionRow :=
  ((db.sessions.filter fun row => row.isDue now).mergeSort fun a b =>
    decide (a.retentionDeleteAfter.getD 0 ≤ b.retentionDeleteAfter.getD 0)).take limit

/-- `claimDue`: the rows as they were read.  The transaction holds their locks, so that the
update of each of them hits. -/
def claimDue (limit : Nat) (now : Int) (db : Database) : List SessionRow × Database :=
  let claimed := dueRows (max 1 (min 100 limit)) now db
  (claimed,
    { db with
      sessions := updateWhere
        (fun row => (claimed.any fun taken => taken.uploadId == row.uploadId) &&
          row.deletionRequestedAt.isNone)
        (SessionRow.claimed now) db.sessions })

/-- Update the session of an upload. -/
def updateSession (uploadId : String) (change : SessionRow → SessionRow) (db : Database) : Database :=
  { db with sessions := updateWhere (fun row => row.uploadId == uploadId) change db.sessions }

/-- The transaction of `beginClaim`. -/
def beginClaim (attachmentId : Int) (uploadId : String) (now : Int) (db : Database) :
    Decision × Database :=
  match db.session (strtolower uploadId) with
  | none => (.cancel, db)
  | some stored =>
      if stored.retentionDeleteAfter.isNone || stored.deletionRequestedAt.isSome ||
          stored.retentionLeaseUntil.isNone then (.cancel, db)
      else
        match evaluate (db.attachment attachmentId) uploadId with
        | .cancel =>
            (.cancel, updateSession (strtolower uploadId) (SessionRow.clearedRetention now) db)
        | .block =>
            (.block, updateSession (strtolower uploadId) (SessionRow.blocked now) db)
        | .delete =>
            if stored.retentionRequestStartedAt.isNone then
              (.delete, updateSession (strtolower uploadId) (SessionRow.begun now) db)
            else (.delete, db)

/-- `cancelClaim`. -/
def cancelClaim (uploadId : String) (now : Int) (db : Database) : Database :=
  updateSession (strtolower uploadId) (SessionRow.clearedRetention now) db

/-- `completeClaim`. -/
def completeClaim (uploadId : String) (now : Int) (db : Database) : Database :=
  updateSession (strtolower uploadId) (SessionRow.completed now) db

/-- The update of `failClaim`. -/
def failClaim (uploadId : String) (failure : Failure) (now : Int) (db : Database) : Database :=
  updateSession (strtolower uploadId) (SessionRow.failed failure now) db

/-! ## `UploadSessionStore` -/

/-- The session is the user's, on the board, and not expired. -/
def SessionRow.ownedBy (row : SessionRow) (uploadId : String) (userId : Int) (boardSlug : String)
    (now : Int) : Bool :=
  row.uploadId == strtolower uploadId && row.userId == some userId && row.boardSlug == boardSlug &&
    decide (now < row.ownershipExpiresAt)

/-- `ownedSession`. -/
def ownedSession (uploadId : String) (userId : Int) (boardSlug : String) (now : Int) (db : Database) :
    Option SessionRow :=
  db.sessions.find? fun row => row.ownedBy uploadId userId boardSlug now

/-- `isOwnedBy`. -/
def isOwnedBy (uploadId : String) (userId : Int) (boardSlug : String) (now : Int) (db : Database) :
    Bool :=
  db.sessions.any fun row => row.ownedBy uploadId userId boardSlug now

/-- `AttachmentMaterializationValidator::validate`: the native attachment of a Ready upload.  It
is on no board and of no post yet. -/
structure Descriptor where
  originalFilename : String
  storedFilename : String
  path : String
  mimeType : String
  size : Int
  order : Int
  presetId : String
  detectedContentType : String
  thumbnailContentType : String
  thumbnailSize : Int
deriving DecidableEq

/-- The host's `create`: the attachment of the next id. -/
def createAttachment (descriptor : Descriptor) (createdBy : Int) (db : Database) : Database :=
  { db with
    attachments := db.attachments ++
      [{ id := db.nextAttachmentId
         boardId := 0
         postId := none
         disk := "g7mediabooster"
         path := descriptor.path
         collection := "attachments"
         triggerType := none
         createdBy := some createdBy
         deletedAt := none }]
    nextAttachmentId := db.nextAttachmentId + 1 }

/-- The transaction of `materializeAttachment`. -/
def materializeAttachment (uploadId : String) (userId : Int) (boardSlug : String)
    (descriptor : Descriptor) (now : Int) (db : Database) : Except Throwable Int × Database :=
  match ownedSession uploadId userId boardSlug now db with
  | none => (.error (.unexpectedValue "upload session is not owned"), db)
  | some row =>
      if 0 < row.attachmentId.getD 0 then (.ok (row.attachmentId.getD 0), db)
      else if db.nextAttachmentId < 1 then
        (.error (.unexpectedValue "native attachment was not created"), db)
      else if db.sessions.countP
          (fun row => row.uploadId == strtolower uploadId && row.attachmentId.isNone) = 1 then
        (.ok db.nextAttachmentId,
          { createAttachment descriptor userId db with
            sessions := updateWhere
              (fun row => row.uploadId == strtolower uploadId && row.attachmentId.isNone)
              (SessionRow.materialized db.nextAttachmentId now) db.sessions })
      else (.error (.unexpectedValue "attachment materialization lost its lock"), db)

/-- `markState`. -/
def markState (uploadId state : String) (now : Int) (db : Database) : Database :=
  updateSession (strtolower uploadId) (SessionRow.marked state now) db

/-- The attachment `AttachmentBridgeService::materialize` reads back. -/
def reloaded (attachmentId userId : Int) (uploadId : String) (db : Database) :
    Option AttachmentRow :=
  (db.attachment attachmentId).filter fun row => row.deletedAt.isNone &&
    row.createdBy == some userId && row.disk == "g7mediabooster" &&
    strtolower row.path == strtolower uploadId

/-! ## `AttachmentLinkMiddleware` -/

/-- What the host's own save of the post came to. -/
inductive Saved
  | failed
  | saved (dataId : Int)
deriving DecidableEq

/-- A save of a post that names attachments; `postId` is `0` for a new post. -/
structure Save where
  slug : String
  actor : Option Int
  postId : Int
  attachmentIds : List Int
  native : Saved
deriving DecidableEq

/-- What became of the attachments of a save. -/
inductive Linked
  | native
  | rolledBack
  | linked
deriving DecidableEq

/-- The session lets its attachment be linked. -/
def SessionRow.isLinkable (row : SessionRow) (attachment : AttachmentRow) (slug : String)
    (actor now : Int) : Bool :=
  row.attachmentId == some attachment.id && row.uploadId == attachment.path &&
    row.boardSlug == slug && row.userId == some actor && row.state == "ready" &&
    row.materializedAt.isSome && decide (now < row.ownershipExpiresAt) && row.unmarked

/-- The save may name this attachment. -/
def admits (save : Save) (board : BoardRow) (actor now : Int) (db : Database)
    (attachment : AttachmentRow) : Bool :=
  match attachment.postId with
  | some linked => decide (1 ≤ save.postId) && linked == save.postId && attachment.boardId == board.id
  | none => attachment.createdBy == some actor && (attachment.disk != "g7mediabooster" ||
      db.sessions.any fun row => row.isLinkable attachment save.slug actor now)

/-- The live attachments of these ids. -/
def liveAttachments (ids : List Int) (db : Database) : List AttachmentRow :=
  db.attachments.filter fun row => ids.contains row.id && row.deletedAt.isNone

/-- The host's `linkAttachmentsByIds`. -/
def linkAttachments (pending : List Int) (boardId postId : Int) (db : Database) : Database :=
  { db with
    attachments := updateWhere (fun row => pending.contains row.id)
      (fun row => { row with boardId := boardId, postId := some postId }) db.attachments }

/-- `reject`. -/
def reject (db : Database) : Except Throwable Linked × Database :=
  (.error (.validation "첨부 소유권·게시판·처리 상태·개수를 확인할 수 없습니다."), db)

/-- The post of the save: the route's, or the one the host has made. -/
def Save.savedPost (save : Save) (dataId : Int) : Int :=
  if save.postId ≠ 0 then save.postId else dataId

/-- The attachments of the save that are of no post yet. -/
def Save.pending (save : Save) (db : Database) : List Int :=
  ((liveAttachments save.attachmentIds db).filter fun row => row.postId.isNone).map AttachmentRow.id

/-- All attachments of the save are of the post now. -/
def Save.allLinked (save : Save) (board : BoardRow) (postId : Int) (db : Database) : Bool :=
  decide (((liveAttachments save.attachmentIds db).filter fun row =>
    row.boardId == board.id && row.postId == some postId).length = save.attachmentIds.length)

/-- The link of the attachments once the host has saved the post. -/
def linkSaved (save : Save) (board : BoardRow) (db : Database) : Except Throwable Linked × Database :=
  match save.native with
  | .failed => (.ok .rolledBack, db)
  | .saved dataId =>
      if save.savedPost dataId < 1 then reject db
      else if save.allLinked board (save.savedPost dataId)
          (linkAttachments (save.pending db) board.id (save.savedPost dataId) db) then
        (.ok .linked, linkAttachments (save.pending db) board.id (save.savedPost dataId) db)
      else reject db

/-- The attachments the post has already. -/
def Save.existing (save : Save) (board : BoardRow) (db : Database) : Nat :=
  if 0 < save.postId then
    (db.attachments.filter fun row => row.boardId == board.id &&
      row.postId == some save.postId && row.deletedAt.isNone).length
  else 0

/-- The board takes files, and as many. -/
def Save.fits (save : Save) (board : BoardRow) (db : Database) : Bool :=
  board.useFileUpload && !(decide (0 < board.maxFileCount) &&
    decide (board.maxFileCount < save.existing board db + (save.pending db).length))

/-- At most 100 ids, positive and distinct. -/
def Save.wellFormed (save : Save) : Bool :=
  decide (save.attachmentIds.length ≤ 100) && decide save.attachmentIds.Nodup &&
    save.attachmentIds.all fun id => decide (1 ≤ id)

/-- `AttachmentLinkMiddleware::handle` of a save that names attachments: one transaction, whose
queries lock the board, the attachments and their sessions.  The query that comes before it is
part of the step here. -/
def linkSave (save : Save) (now : Int) (db : Database) : Except Throwable Linked × Database :=
  if !save.wellFormed then
    (.error (.validation "유효한 첨부 ID를 최대 100개까지 중복 없이 지정하세요."), db)
  else if !(liveAttachments save.attachmentIds db).any (fun row => row.disk == "g7mediabooster") then
    (.ok .native, db)
  else
    match db.boards.find? fun board => board.slug == save.slug with
    | none => (.error .modelNotFound, db)
    | some board =>
        match save.actor with
        | none => reject db
        | some actor =>
            if (liveAttachments save.attachmentIds db).length ≠ save.attachmentIds.length then reject db
            else if !(liveAttachments save.attachmentIds db).all (admits save board actor now db) then
              reject db
            else if !save.fits board db then reject db
            else linkSaved save board db

/-! ## The host -/

/-- The host takes deleted attachments back. -/
def undelete (attachmentIds : List Int) (db : Database) : Database :=
  { db with
    attachments := updateWhere (fun row => attachmentIds.contains row.id)
      (fun row => { row with deletedAt := none }) db.attachments }

/-- The host soft-deletes attachments. -/
def trash (attachmentIds : List Int) (triggerType : String) (now : Int) (db : Database) : Database :=
  { db with
    attachments := updateWhere (fun row => attachmentIds.contains row.id && row.deletedAt.isNone)
      (fun row => { row with deletedAt := some now, triggerType := some triggerType })
      db.attachments }

/-- The host removes attachments for good. -/
def purge (attachmentIds : List Int) (db : Database) : Database :=
  { db with attachments := deleteWhere (fun row => attachmentIds.contains row.id) db.attachments }

/-! ## Statements -/

/-- A statement or transaction. -/
inductive Op
  | deletedAttachments (postId : Int)
  | isDeletedAttachment (attachmentId : Int)
  | restoredAttachments (postId : Int)
  | cascadeAttachments (postId : Int)
  | scheduleIds (attachmentIds : List Int) (boardSlug reason : String) (retentionDays : Int)
  | cancelRestored (attachmentIds : List Int) (boardSlug : String)
  | prepareRestore (attachmentIds : List Int) (boardSlug : String)
  | claimDue (limit : Nat)
  | beginClaim (attachmentId : Int) (uploadId : String)
  | cancelClaim (uploadId : String)
  | completeClaim (uploadId : String)
  | findSession (uploadId : String)
  | failClaim (uploadId : String) (failure : Failure)
  | isOwnedBy (uploadId : String) (userId : Int) (boardSlug : String)
  | ownedSession (uploadId : String) (userId : Int) (boardSlug : String)
  | materializeAttachment (uploadId : String) (userId : Int) (boardSlug : String)
      (descriptor : Descriptor)
  | markState (uploadId state : String)
  | reloaded (attachmentId userId : Int) (uploadId : String)
  | linkSave (save : Save)
  | undelete (attachmentIds : List Int)
deriving DecidableEq

/-- What a statement answers. -/
abbrev Op.Output : Op → Type
  | .deletedAttachments _ | .restoredAttachments _ | .cascadeAttachments _ => List Int
  | .isDeletedAttachment _ | .isOwnedBy _ _ _ => Bool
  | .claimDue _ => List SessionRow
  | .beginClaim _ _ => Decision
  | .findSession _ | .ownedSession _ _ _ => Option SessionRow
  | .materializeAttachment _ _ _ _ => Int
  | .reloaded _ _ _ => Option AttachmentRow
  | .linkSave _ => Linked
  | _ => Unit

/-- A statement carried out. -/
def Op.run : (op : Op) → Int → Database → Except Throwable op.Output × Database
  | .deletedAttachments postId, _, db => (.ok (Gnuboard7.deletedAttachments postId db), db)
  | .isDeletedAttachment attachmentId, _, db =>
      (.ok (Gnuboard7.isDeletedAttachment attachmentId db), db)
  | .restoredAttachments postId, _, db => (.ok (Gnuboard7.restoredAttachments postId db), db)
  | .cascadeAttachments postId, _, db => (.ok (Gnuboard7.cascadeAttachments postId db), db)
  | .scheduleIds ids slug reason days, now, db =>
      (.ok (), Gnuboard7.scheduleIds ids slug reason days now db)
  | .cancelRestored ids slug, now, db => (.ok (), clearUnmarked ids slug now db)
  | .prepareRestore ids slug, now, db => Gnuboard7.prepareRestore ids slug now db
  | .claimDue limit, now, db =>
      (.ok (Gnuboard7.claimDue limit now db).1, (Gnuboard7.claimDue limit now db).2)
  | .beginClaim attachmentId uploadId, now, db =>
      (.ok (Gnuboard7.beginClaim attachmentId uploadId now db).1,
        (Gnuboard7.beginClaim attachmentId uploadId now db).2)
  | .cancelClaim uploadId, now, db => (.ok (), Gnuboard7.cancelClaim uploadId now db)
  | .completeClaim uploadId, now, db => (.ok (), Gnuboard7.completeClaim uploadId now db)
  | .findSession uploadId, _, db => (.ok (db.session (strtolower uploadId)), db)
  | .failClaim uploadId failure, now, db => (.ok (), Gnuboard7.failClaim uploadId failure now db)
  | .isOwnedBy uploadId userId slug, now, db => (.ok (Gnuboard7.isOwnedBy uploadId userId slug now db), db)
  | .ownedSession uploadId userId slug, now, db =>
      (.ok (Gnuboard7.ownedSession uploadId userId slug now db), db)
  | .materializeAttachment uploadId userId slug descriptor, now, db =>
      Gnuboard7.materializeAttachment uploadId userId slug descriptor now db
  | .markState uploadId state, now, db => (.ok (), Gnuboard7.markState uploadId state now db)
  | .reloaded attachmentId userId uploadId, _, db =>
      (.ok (Gnuboard7.reloaded attachmentId userId uploadId db), db)
  | .linkSave save, now, db => Gnuboard7.linkSave save now db
  | .undelete ids, _, db => (.ok (), Gnuboard7.undelete ids db)

end MediaBooster.Gnuboard7
