/-
# Gnuboard5.Store -- the Gnuboard 5 adapter's table, and the statements over it

`g7mb_upload_sessions` is the plugin's own table; the board's file table and its write table are
the host's, with the columns the plugin reads or decides by.  Every `Op` is one statement, except
`recordBatch` and `linkReady`: these are transactions.

`linkReady` of the source reads its target first, without locks, and then locks one session after
the other.  It is two statements here: `linkTarget` is the snapshot it reads, and `Op.linkReady`
is everything it decides under the locks, which it holds until it commits.  The named lock that
keeps two writes of one post apart is left out; it only takes interleavings away.

Texts are compared as the tables' collation compares them (`collates`), and timestamps are whole
seconds.  The clock is read once in a statement.
-/
import Mathlib.Data.List.Sort
import MediaBooster.Domain.Php
import MediaBooster.Gnuboard7.Validator
import MediaBooster.Theory.Table

namespace MediaBooster.Gnuboard5

set_option autoImplicit false

open MediaBooster.Domain
open MediaBooster.Theory.Table

/-! ## Rows -/

/-- A row of `g7mb_upload_sessions`. -/
structure SessionRow where
  uploadId : String
  batchId : String
  ownerKey : String
  boTable : String
  clientRef : String
  originalFilename : String
  declaredKind : String
  contentTypeHint : String
  expectedSizeBytes : Int
  attachmentOrder : Int
  transferMethod : String
  state : String
  readyMimeType : Option String
  readyMasterBytes : Option Int
  readyThumbnailBytes : Option Int
  readyPresetId : Option String
  wrId : Option Int
  bfNo : Option Int
  deletionDueAt : Option Int
  deletionAttempts : Nat
  deletionLastError : Option String
  deletionRequestedAt : Option Int

/-- A row of the board's file table. -/
structure FileRow where
  boTable : String
  wrId : Int
  bfNo : Int
  source : String
  file : String
  storage : String
  filesize : Int
  type : Int
deriving DecidableEq

/-- A row of a board's write table. -/
structure PostRow where
  writeTable : String
  wrId : Int
  wrFile : Int
deriving DecidableEq

/-- The tables. -/
structure Database where
  sessions : List SessionRow
  files : List FileRow
  posts : List PostRow

/-- The session of an upload. -/
def Database.session (db : Database) (uploadId : String) : Option SessionRow :=
  db.sessions.find? fun row => collates row.uploadId uploadId

/-- The files of a post. -/
def Database.filesOf (db : Database) (boardTable : String) (writeId : Int) : List FileRow :=
  db.files.filter fun file => collates file.boTable boardTable && file.wrId == writeId

/-- What is thrown. -/
inductive Throwable
  | http (status : Int) (errorCode : String)
  | upstream (httpStatus : Int) (errorCode : String)
  | unexpectedValue (message : String)
  | logic (message : String)
  | runtime (message : String)
  | other
deriving DecidableEq

/-- What `execute` throws. -/
def mutationFailed : Throwable := .runtime "G7MediaBooster database mutation failed"

/-! ## `recordBatch` -/

/-- A file of a validated batch request. -/
structure FileIntent where
  clientRef : String
  originalFilename : String
  declaredKind : String
  contentLength : Int
  contentTypeHint : String

/-- An upload of a validated batch response. -/
structure Instruction where
  uploadId : String
  method : String

/-- A batch as it is recorded. -/
structure Batch where
  ownerKey : String
  boardTable : String
  batchId : String
  files : List (FileIntent × Instruction)

/-- The row of a new session. -/
def Batch.row (batch : Batch) (index : Nat) (file : FileIntent) (upload : Instruction) : SessionRow where
  uploadId := upload.uploadId
  batchId := batch.batchId
  ownerKey := batch.ownerKey
  boTable := batch.boardTable
  clientRef := file.clientRef
  originalFilename := file.originalFilename
  declaredKind := file.declaredKind
  contentTypeHint := file.contentTypeHint
  expectedSizeBytes := file.contentLength
  attachmentOrder := index + 1
  transferMethod := upload.method
  state := "created"
  readyMimeType := none
  readyMasterBytes := none
  readyThumbnailBytes := none
  readyPresetId := none
  wrId := none
  bfNo := none
  deletionDueAt := none
  deletionAttempts := 0
  deletionLastError := none
  deletionRequestedAt := none

/-- `PRIMARY KEY (upload_id)` and `UNIQUE KEY (owner_key, bo_table, client_ref)`. -/
def SessionRow.clashes (row other : SessionRow) : Bool :=
  collates row.uploadId other.uploadId ||
    (collates row.ownerKey other.ownerKey && collates row.boTable other.boTable &&
      collates row.clientRef other.clientRef)

/-- One `INSERT` of `recordBatch`. -/
def insertSession (row : SessionRow) (db : Database) : Except Throwable Database :=
  if db.sessions.any row.clashes then .error mutationFailed
  else .ok { db with sessions := db.sessions ++ [row] }

/-- The loop of `recordBatch`. -/
def insertSessions (batch : Batch) : Nat → List (FileIntent × Instruction) → Database →
    Except Throwable Database
  | _, [], db => .ok db
  | index, (file, upload) :: rest, db =>
      match insertSession (batch.row index file upload) db with
      | .error error => .error error
      | .ok db => insertSessions batch (index + 1) rest db

/-- The transaction of `recordBatch`. -/
def insertBatch (batch : Batch) (db : Database) : Except Throwable Unit × Database :=
  match insertSessions batch 0 batch.files db with
  | .ok after => (.ok (), after)
  | .error error => (.error error, db)

/-! ## The states of a session -/

/-- The query of `findOwned`. -/
def ownedRow (uploadId ownerKey boardTable : String) (db : Database) : Option SessionRow :=
  db.sessions.find? fun row => collates row.uploadId uploadId && collates row.ownerKey ownerKey &&
    collates row.boTable boardTable

/-- Update the session of an upload. -/
def updateSession (uploadId : String) (change : SessionRow → SessionRow) (db : Database) : Database :=
  { db with sessions := updateWhere (fun row => collates row.uploadId uploadId) change db.sessions }

/-- What `ReadyAssetValidator::validate` returns. -/
structure Asset where
  uploadId : String
  originalFilename : String
  storedFilename : String
  mimeType : String
  size : Int
  thumbnailSize : Int
  presetId : String
  attachmentOrder : Int
  imageType : Int
deriving DecidableEq

/-- What `markReady` writes. -/
def SessionRow.readied (asset : Asset) (row : SessionRow) : SessionRow :=
  { row with
    state := "ready"
    readyMimeType := some asset.mimeType
    readyMasterBytes := some asset.size
    readyThumbnailBytes := some asset.thumbnailSize
    readyPresetId := some asset.presetId }

/-- What `completeDeletionRequest` writes. -/
def SessionRow.deleted (now : Int) (row : SessionRow) : SessionRow :=
  { row with
    state := "deletion_pending"
    deletionRequestedAt := some now
    deletionLastError := none }

/-- What `failDeletionRequest` writes.  The assignments are made from left to right, so that the
power is of the attempts as they have just been counted. -/
def SessionRow.deletionFailed (safeCode : String) (now : Int) (row : SessionRow) : SessionRow :=
  { row with
    deletionAttempts := row.deletionAttempts + 1
    deletionLastError := some safeCode
    deletionDueAt := some (now + min 3600 (2 ^ (row.deletionAttempts + 2) * 30)) }

/-- The days a deleted file is kept. -/
def boundedDays (retentionDays : Int) : Int := max 0 (min 365 retentionDays)

/-- The update of `scheduleDeletionForFile`. -/
def scheduleRow (uploadId : String) (retentionDays now : Int) (db : Database) : Database :=
  { db with
    sessions := updateWhere
      (fun row => collates row.uploadId uploadId && row.deletionRequestedAt.isNone)
      (fun row => { row with
        state := "deletion_scheduled"
        deletionDueAt := some (now + boundedDays retentionDays * 86400) })
      db.sessions }

/-- The rows `dueDeletions` looks for. -/
def SessionRow.isDue (now : Int) (row : SessionRow) : Bool :=
  row.deletionDueAt.any (fun due => decide (due ≤ now)) && row.deletionRequestedAt.isNone &&
    decide (row.deletionAttempts < 10)

/-- `dueDeletions`. -/
def dueRows (limit : Nat) (now : Int) (db : Database) : List SessionRow :=
  ((db.sessions.filter (SessionRow.isDue now)).mergeSort fun a b =>
    decide (a.deletionDueAt.getD 0 < b.deletionDueAt.getD 0) ||
      (a.deletionDueAt.getD 0 == b.deletionDueAt.getD 0 && decide (a.uploadId ≤ b.uploadId))).take
    (max 1 (min 100 limit))

/-! ## `linkReady` -/

/-- The name a file of the upload is stored under. -/
def storedName (uploadId extension : String) : String := "g7mb-" ++ uploadId ++ "." ++ extension

/-- The file is of the upload. -/
def FileRow.isOf (file : FileRow) (uploadId : String) : Bool :=
  collates file.file (storedName uploadId "jpg") || collates file.file (storedName uploadId "mp4")

/-- What `linkReady` reads of the post before it locks a session. -/
structure Target where
  posted : Bool
  existing : Nat
  next : Int
  existingFiles : List (Option FileRow)

/-- `COALESCE(MAX(bf_no), -1)`. -/
def maxNumber (files : List FileRow) : Int := files.foldl (fun most file => max most file.bfNo) (-1)

/-- The reads of `linkReady`. -/
def targetOf (boardTable writeTable : String) (writeId : Int) (uploadIds : List String)
    (db : Database) : Target where
  posted := db.posts.any fun post => post.writeTable == writeTable && post.wrId == writeId
  existing := (db.filesOf boardTable writeId).length
  next := maxNumber (db.filesOf boardTable writeId) + 1
  existingFiles := uploadIds.map fun uploadId =>
    db.files.find? fun file => collates file.boTable boardTable && file.isOf uploadId

/-- What `linkReady` has decided before it locks: the uploads, each with the number its file has
at the post already. -/
structure Link where
  boardTable : String
  writeTable : String
  writeId : Int
  uploads : List (String × Option Int)
  existing : Nat
  next : Int

/-- The link of a session to a file. -/
def SessionRow.linked (writeId number : Int) (row : SessionRow) : SessionRow :=
  { row with wrId := some writeId, bfNo := some number }

/-- The file of a linked upload. -/
def fileOf (link : Link) (uploadId : String) (locked : SessionRow) (filename : String) (next : Int) :
    FileRow where
  boTable := link.boardTable
  wrId := link.writeId
  bfNo := next
  source := filename
  file := storedName uploadId (if locked.declaredKind = "image" then "jpg" else "mp4")
  storage := "g7mediabooster"
  filesize := locked.readyMasterBytes.getD 0
  type := if locked.declaredKind = "image" then 2 else 0

/-- `INSERT` into the file table: its key is the board, the post and the number. -/
def insertFile (file : FileRow) (db : Database) : Except Throwable Database :=
  if (db.filesOf file.boTable file.wrId).any fun other => other.bfNo == file.bfNo then
    .error mutationFailed
  else .ok { db with files := db.files ++ [file] }

/-- What was thrown because somebody else was faster. -/
def raced : Throwable := .unexpectedValue "upload link raced with another post"

/-- One turn of the second loop of `linkReady`: the next number, and the number the upload has. -/
def linkSession (link : Link) (uploadId : String) (alreadyLinked : Option Int) (next : Int)
    (db : Database) : Except Throwable ((Int × Int) × Database) :=
  match db.session uploadId with
  | none => .error raced
  | some locked =>
      if locked.state ≠ "ready" then .error raced
      else
        match alreadyLinked with
        | some number =>
            if locked.wrId.any fun writeId =>
                writeId != link.writeId || locked.bfNo.getD (-1) != number then
              .error (.unexpectedValue "upload session link does not match the remote file row")
            else .ok ((next, number), updateSession uploadId (SessionRow.linked link.writeId number) db)
        | none =>
            if locked.wrId.isSome then .error raced
            else
              let extension := if locked.declaredKind = "image" then "jpg" else "mp4"
              match Gnuboard7.normalizedFilename (some locked.originalFilename) extension with
              | .error _ => .error (.unexpectedValue "stored original filename is invalid")
              | .ok filename =>
                  match insertFile (fileOf link uploadId locked filename next) db with
                  | .error error => .error error
                  | .ok db =>
                      .ok ((next + 1, next),
                        updateSession uploadId (SessionRow.linked link.writeId next) db)

/-- The second loop of `linkReady`: the uploads with their numbers. -/
def linkSessions (link : Link) : List (String × Option Int) → Int → Database →
    Except Throwable (List (String × Int) × Database)
  | [], _, db => .ok ([], db)
  | (uploadId, alreadyLinked) :: rest, next, db =>
      match linkSession link uploadId alreadyLinked next db with
      | .error error => .error error
      | .ok ((next, number), db) =>
          match linkSessions link rest next db with
          | .error error => .error error
          | .ok (linked, db) => .ok ((uploadId, number) :: linked, db)

/-- The files the post has afterwards: those the transaction has seen, and its own. -/
def Link.count (link : Link) : Int :=
  link.existing + (link.uploads.filter fun upload => upload.2.isNone).length

/-- What `linkReady` does under its locks. -/
def linkLocked (link : Link) (db : Database) : Except Throwable (List (String × Int)) × Database :=
  match linkSessions link link.uploads link.next db with
  | .error error => (.error error, db)
  | .ok (linked, after) =>
      (.ok linked,
        { after with
          posts := updateWhere
            (fun post => post.writeTable == link.writeTable && post.wrId == link.writeId)
            (fun post => { post with wrFile := link.count }) after.posts })

/-! ## Statements -/

/-- A statement or transaction. -/
inductive Op
  | recordBatch (batch : Batch)
  | findOwned (uploadId ownerKey boardTable : String)
  | markState (uploadId state : String)
  | markReady (uploadId : String) (asset : Asset)
  | countFiles (boardTable : String) (writeId : Int)
  | linkTarget (boardTable writeTable : String) (writeId : Int) (uploadIds : List String)
  | linkReady (link : Link)
  | scheduleDeletion (uploadId : String) (retentionDays : Int)
  | dueDeletions (limit : Nat)
  | completeDeletionRequest (uploadId : String)
  | failDeletionRequest (uploadId safeCode : String)

/-- What a statement answers. -/
abbrev Op.Output : Op → Type
  | .findOwned _ _ _ => Option SessionRow
  | .countFiles _ _ => Nat
  | .linkTarget _ _ _ _ => Target
  | .linkReady _ => List (String × Int)
  | .dueDeletions _ => List SessionRow
  | _ => Unit

/-- A statement carried out. -/
def Op.run : (op : Op) → Int → Database → Except Throwable op.Output × Database
  | .recordBatch batch, _, db => insertBatch batch db
  | .findOwned uploadId ownerKey boardTable, _, db =>
      (.ok (ownedRow uploadId ownerKey boardTable db), db)
  | .markState uploadId state, _, db =>
      (.ok (), updateSession uploadId (fun row => { row with state := state }) db)
  | .markReady uploadId asset, _, db => (.ok (), updateSession uploadId (SessionRow.readied asset) db)
  | .countFiles boardTable writeId, _, db => (.ok (db.filesOf boardTable writeId).length, db)
  | .linkTarget boardTable writeTable writeId uploadIds, _, db =>
      (.ok (targetOf boardTable writeTable writeId uploadIds db), db)
  | .linkReady link, _, db => linkLocked link db
  | .scheduleDeletion uploadId retentionDays, now, db =>
      (.ok (), scheduleRow uploadId retentionDays now db)
  | .dueDeletions limit, now, db => (.ok (dueRows limit now db), db)
  | .completeDeletionRequest uploadId, now, db =>
      (.ok (), updateSession uploadId (SessionRow.deleted now) db)
  | .failDeletionRequest uploadId safeCode, now, db =>
      (.ok (), updateSession uploadId (SessionRow.deletionFailed safeCode now) db)

end MediaBooster.Gnuboard5
