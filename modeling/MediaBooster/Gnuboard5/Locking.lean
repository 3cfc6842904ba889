/-
# Gnuboard5.Locking -- `linkReady` statement by statement

`Op.linkReady` takes a link for one step.  Here it is what it is in the plugin: a named lock for
the post, a transaction that reads the post and its files once, and a row lock for each upload it
comes to.  A call holds the name of its post from `GET_LOCK` until it releases it, and the rows of
its uploads from the turn that locks them until it commits or rolls back.  Nobody else sees what it
writes before it commits, and the reads that lock see what others have committed.

The plain reads of a transaction are of one snapshot, the one its first read takes, so that they
are one step (`scan`).  A turn of the second loop locks its session, and writes: the insert waits
for a row of the same key that somebody else has inserted.  Any statement may fail, and what was
written is rolled back.  A session list is any that `readyOwnedForLink` can have returned, however
long ago it has read its rows.
-/
import MediaBooster.Gnuboard5.Links

namespace MediaBooster.Gnuboard5

set_option autoImplicit false

open MediaBooster.Domain
open MediaBooster.Theory.Run
open MediaBooster.Theory.Table

/-! ## What the tables agree on -/

/-- The file is of the session's upload, at its board. -/
def SessionRow.hasFile (row : SessionRow) (file : FileRow) : Bool :=
  collates file.boTable row.boTable && file.isOf row.uploadId

/-- The primary key of the file table. -/
def FileRow.identity (file : FileRow) : String × Int × Int :=
  (strtolower file.boTable, file.wrId, file.bfNo)

/-- Sessions and files agree on what is linked where. -/
structure Agreed (db : Database) : Prop where
  keyed : Keyed db
  numbered : KeyedBy FileRow.identity db.files
  filed : ∀ row ∈ db.sessions, ∀ writeId, row.wrId = some writeId →
    ∃ file ∈ db.files, row.hasFile file = true ∧ file.wrId = writeId ∧ row.bfNo = some file.bfNo
  linked : ∀ row ∈ db.sessions, ∀ file ∈ db.files, row.hasFile file = true →
    row.wrId = some file.wrId ∧ row.bfNo = some file.bfNo

/-- Tables without a link agree. -/
theorem agreed_unlinked {db : Database} (keyed : Keyed db)
    (numbered : KeyedBy FileRow.identity db.files) (unlinked : ∀ row ∈ db.sessions, row.wrId = none)
    (foreign : ∀ row ∈ db.sessions, ∀ file ∈ db.files, row.hasFile file = false) : Agreed db where
  keyed := keyed
  numbered := numbered
  filed row member writeId linked := by
    rw [unlinked row member] at linked
    cases linked
  linked row member file there has := by
    rw [foreign row member file there] at has
    cases has

/-! ## Calls -/

/-- A board of the host. -/
structure Board where
  boTable : String
  writeTable : String
deriving DecidableEq

/-- A row that `readyOwnedForLink` has read, and what it asked for. -/
structure Found where
  uploadId : String
  ownerKey : String
  boardTable : String
  row : SessionRow

/-- A call of `linkReady`. -/
structure LinkCall where
  sessions : List SessionRow
  board : Board
  writeId : Int
  maximumFiles : Int

/-- The uploads of a call. -/
def LinkCall.uploadIds (call : LinkCall) : List String := call.sessions.map SessionRow.uploadId

/-- The files of the post. -/
def LinkCall.files (call : LinkCall) (db : Database) : List FileRow :=
  db.filesOf call.board.boTable call.writeId

/-- The row of the post. -/
def LinkCall.isPost (call : LinkCall) (post : PostRow) : Bool :=
  post.writeTable == call.board.writeTable && post.wrId == call.writeId

/-- `'g7mb:'.substr(hash('sha256', $boardTable.':'.$writeId), 0, 48)`. -/
def LinkCall.lockName (sha256 : String → String) (call : LinkCall) : String :=
  "g7mb:" ++ String.ofList
    ((sha256 (call.board.boTable ++ ":" ++ toString call.writeId)).toList.take 48)

/-- The check of the arguments. -/
def LinkCall.isValid (call : LinkCall) : Bool :=
  decide (1 ≤ call.writeId) && decide (1 ≤ call.maximumFiles) && isTableName call.board.writeTable

/-- What the transaction decides by its reads. -/
def LinkCall.decide (call : LinkCall) (target : Target) : Except Throwable Link :=
  if target.posted then
    match alreadyLinked call.writeId target.existingFiles with
    | .error error => .error error
    | .ok numbers =>
        if (target.existing + (numbers.filter Option.isNone).length : Int) ≤ call.maximumFiles then
          .ok
            { boardTable := call.board.boTable
              writeTable := call.board.writeTable
              writeId := call.writeId
              uploads := call.uploadIds.zip numbers
              existing := target.existing
              next := target.next }
        else .error (.unexpectedValue "post attachment count exceeds the board limit")
  else .error (.unexpectedValue "post attachment target no longer exists")

/-- The reads of the transaction. -/
def LinkCall.target (call : LinkCall) (db : Database) : Target :=
  targetOf call.board.boTable call.board.writeTable call.writeId call.uploadIds db

/-! ## The second loop -/

/-- An upload the loop is done with: its number, and the file that was inserted for it. -/
structure Entry where
  uploadId : String
  number : Int
  inserted : Option FileRow

/-- The loop underway. -/
structure Linking where
  link : Link
  left : List (String × Option Int)
  next : Int
  entries : List Entry

/-- The update of a session by one entry. -/
def relinkBy (writeId : Int) (row : SessionRow) (entry : Entry) : SessionRow :=
  if collates row.uploadId entry.uploadId then row.linked writeId entry.number else row

/-- The updates of a session by the entries, in their order. -/
def relink (writeId : Int) (entries : List Entry) (row : SessionRow) : SessionRow :=
  entries.foldl (relinkBy writeId) row

namespace Linking

/-- The files the loop has inserted. -/
def inserted (linking : Linking) : List FileRow := linking.entries.filterMap Entry.inserted

/-- What the transaction has found so far. -/
def linked (linking : Linking) : List (String × Int) :=
  linking.entries.map fun entry => (entry.uploadId, entry.number)

/-- The tables with what the transaction has written to them. -/
def view (linking : Linking) (db : Database) : Database :=
  { db with
    sessions := db.sessions.map (relink linking.link.writeId linking.entries)
    files := db.files ++ linking.inserted }

/-- The file that a turn inserts. -/
def fileFor (linking : Linking) (uploadId : String) (alreadyLinked : Option Int) (db : Database) :
    Option FileRow :=
  match alreadyLinked, db.session uploadId with
  | none, some locked =>
      match Gnuboard7.normalizedFilename (some locked.originalFilename)
          (if locked.declaredKind = "image" then "jpg" else "mp4") with
      | .ok filename => some (fileOf linking.link uploadId locked filename linking.next)
      | .error _ => none
  | _, _ => none

/-- One turn. -/
def turn (linking : Linking) (uploadId : String) (alreadyLinked : Option Int)
    (rest : List (String × Option Int)) (db : Database) : Except Throwable Linking :=
  match linkSession linking.link uploadId alreadyLinked linking.next (linking.view db) with
  | .error error => .error error
  | .ok ((next, number), _) =>
      .ok
        { link := linking.link
          left := rest
          next := next
          entries := linking.entries ++
            [⟨uploadId, number, linking.fileFor uploadId alreadyLinked (linking.view db)⟩] }

/-- The files of the post, as the transaction counts them at the end. -/
def count (linking : Linking) : Int := linking.link.existing + linking.inserted.length

/-- What a commit makes of the tables. -/
def commit (linking : Linking) (db : Database) : Database :=
  { linking.view db with
    posts := updateWhere
      (fun post => post.writeTable == linking.link.writeTable && post.wrId == linking.link.writeId)
      (fun post => { post with wrFile := linking.count }) db.posts }

/-- The turns, one after the other. -/
def turns (db : Database) : List (String × Option Int) → Linking → Except Throwable Linking
  | [], linking => .ok linking
  | (uploadId, alreadyLinked) :: rest, linking =>
      match linking.turn uploadId alreadyLinked rest db with
      | .error error => .error error
      | .ok linking => turns db rest linking

/-- What the loop comes to, when nobody else is there and nothing fails. -/
def ends (db : Database) (linking : Linking) : Except Throwable (List (String × Int)) × Database :=
  match linking.turns db linking.left with
  | .error error => (.error error, db)
  | .ok linking => (.ok linking.linked, linking.commit db)

end Linking

/-- The check of the arguments fails. -/
def invalidTarget : Throwable := .unexpectedValue "invalid attachment link target"

/-- `linkReady`, when nobody else is there and nothing fails. -/
def LinkCall.alone (call : LinkCall) (db : Database) :
    Except Throwable (List (String × Int)) × Database :=
  if call.isValid then
    match call.decide (call.target db) with
    | .error error => (.error error, db)
    | .ok link => Linking.ends db ⟨link, link.uploads, link.next, []⟩
  else (.error invalidTarget, db)

/-! ## Steps -/

/-- Where a call is. -/
inductive Phase
  | called
  | opened
  | looping (loop : Linking)
  | committed (linked : List (String × Int))
  | failed (error : Throwable)
  | finished (result : Except Throwable (List (String × Int)))

namespace Phase

/-- The call holds the name of its post. -/
def holdsName : Phase → Bool
  | .opened | .looping _ | .committed _ | .failed _ => true
  | .called | .finished _ => false

/-- The uploads whose sessions the call has locked. -/
def lockedRows : Phase → List String
  | .looping loop => loop.entries.map Entry.uploadId
  | _ => []

/-- The files the call has inserted and not committed. -/
def pendingFiles : Phase → List FileRow
  | .looping loop => loop.inserted
  | _ => []

/-- What is done about an error: what is written is rolled back, and the name is still held. -/
def afterTurn : Except Throwable Linking → Phase
  | .ok loop => .looping loop
  | .error error => .failed error

/-- The first turn is next. -/
def afterScan : Except Throwable Link → Phase
  | .ok link => .looping ⟨link, link.uploads, link.next, []⟩
  | .error error => .failed error

end Phase

/-- The database server, and the calls that run on it. -/
structure Server where
  db : Database
  found : List Found
  calls : List (LinkCall × Phase)

namespace Server

/-- Call `i` goes on to a phase. -/
def enter (s : Server) (i : Nat) (call : LinkCall) (phase : Phase) : Server :=
  { s with calls := s.calls.set i (call, phase) }

/-- Nobody else holds the name. -/
def NameFree (sha256 : String → String) (s : Server) (i : Nat) (name : String) : Prop :=
  ∀ j other, j ≠ i → s.calls[j]? = some other → other.2.holdsName = true →
    other.1.lockName sha256 ≠ name

/-- Nobody else holds the session of the upload. -/
def RowFree (s : Server) (i : Nat) (uploadId : String) : Prop :=
  ∀ j other, j ≠ i → s.calls[j]? = some other → ∀ locked ∈ other.2.lockedRows,
    collates locked uploadId = false

/-- Nobody else has inserted a file of that key. -/
def KeyFree (s : Server) (i : Nat) (file : FileRow) : Prop :=
  ∀ j other, j ≠ i → s.calls[j]? = some other → ∀ pending ∈ other.2.pendingFiles,
    ¬ (collates pending.boTable file.boTable = true ∧ pending.wrId = file.wrId ∧
      pending.bfNo = file.bfNo)

end Server

/-- A list that `readyOwnedForLink` has returned. -/
def Produced (found : List Found) (boardTable : String) (sessions : List SessionRow) : Prop :=
  ∃ uploadIds ownerKey, uploadIds ≠ [] ∧ uploadIds.length ≤ 100 ∧ uploadIds.Nodup ∧
    isOwnerKey ownerKey = true ∧ isBoardTable boardTable = true ∧
    List.Forall₂ (fun uploadId row => ⟨uploadId, ownerKey, boardTable, row⟩ ∈ found)
      uploadIds sessions

/-- What a call does. -/
inductive Act
  | acquired
  | scanned
  | turned
  | committed
  | refused (error : Throwable)
  | failed (error : Throwable)
  | released

/-- A step. -/
inductive LinkLabel
  | found (found : Found)
  | called (call : LinkCall)
  | did (i : Nat) (act : Act)

/-- A statement has failed. -/
def LinkLabel.isFailure : LinkLabel → Bool
  | .did _ (.refused _) | .did _ (.failed _) => true
  | _ => false

/-- The boards, and the tables when the calls begin: a board is known by its table, and has a
write table of its own. -/
structure Site where
  boards : List Board
  db : Database
  sameBoard : ∀ board ∈ boards, ∀ other ∈ boards, collates board.boTable other.boTable = true →
    board = other
  sameTable : ∀ board ∈ boards, ∀ other ∈ boards, board.writeTable = other.writeTable →
    board = other
  agreed : Agreed db

/-- Where the calls begin. -/
def Site.start (site : Site) : Server := ⟨site.db, [], []⟩

/-- The steps of the calls. -/
inductive LinkStep (sha256 : String → String) (site : Site) : Server → LinkLabel → Server → Prop
  | find {s : Server} (found : Found) (uuid : isUuid found.uploadId = true)
      (read : ownedRow (strtolower found.uploadId) found.ownerKey found.boardTable s.db =
        some found.row)
      (ready : found.row.isReadyForLink = true) :
      LinkStep sha256 site s (.found found) { s with found := s.found ++ [found] }
  | call {s : Server} (call : LinkCall) (board : call.board ∈ site.boards)
      (produced : Produced s.found call.board.boTable call.sessions) :
      LinkStep sha256 site s (.called call) { s with calls := s.calls ++ [(call,
        if call.isValid then .called else .finished (.error invalidTarget))] }
  | acquire {s : Server} {i : Nat} {call : LinkCall} (there : s.calls[i]? = some (call, .called))
      (free : s.NameFree sha256 i (call.lockName sha256)) :
      LinkStep sha256 site s (.did i .acquired) (s.enter i call .opened)
  | refuse {s : Server} {i : Nat} {call : LinkCall} (there : s.calls[i]? = some (call, .called))
      (error : Throwable) :
      LinkStep sha256 site s (.did i (.refused error)) (s.enter i call (.finished (.error error)))
  | scan {s : Server} {i : Nat} {call : LinkCall} (there : s.calls[i]? = some (call, .opened)) :
      LinkStep sha256 site s (.did i .scanned)
        (s.enter i call (.afterScan (call.decide (call.target s.db))))
  | turn {s : Server} {i : Nat} {call : LinkCall} {loop : Linking} {uploadId : String}
      {number : Option Int} {rest : List (String × Option Int)}
      (there : s.calls[i]? = some (call, .looping loop))
      (next : loop.left = (uploadId, number) :: rest) (free : s.RowFree i uploadId)
      (key : ∀ file, loop.fileFor uploadId number (loop.view s.db) = some file →
        s.KeyFree i file) :
      LinkStep sha256 site s (.did i .turned)
        (s.enter i call (.afterTurn (loop.turn uploadId number rest s.db)))
  | commit {s : Server} {i : Nat} {call : LinkCall} {loop : Linking}
      (there : s.calls[i]? = some (call, .looping loop)) (done : loop.left = []) :
      LinkStep sha256 site s (.did i .committed)
        { s.enter i call (.committed loop.linked) with db := loop.commit s.db }
  | fail {s : Server} {i : Nat} {call : LinkCall} {phase : Phase}
      (there : s.calls[i]? = some (call, phase))
      (underway : phase = .opened ∨ ∃ loop, phase = .looping loop) (error : Throwable) :
      LinkStep sha256 site s (.did i (.failed error)) (s.enter i call (.failed error))
  | release {s : Server} {i : Nat} {call : LinkCall} {phase : Phase}
      {result : Except Throwable (List (String × Int))}
      (there : s.calls[i]? = some (call, phase))
      (ended : phase = (match result with
        | .ok linked => .committed linked
        | .error error => .failed error)) :
      LinkStep sha256 site s (.did i .released) (s.enter i call (.finished result))

end MediaBooster.Gnuboard5
