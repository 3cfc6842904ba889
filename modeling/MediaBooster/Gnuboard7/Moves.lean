/-
# Gnuboard7.Moves -- what a statement can do to a row

`Moved` says once how a statement changes the row of a session, with what the statement knew
when it did so; every statement moves every session by it (`Op.moves_sessions`), and
`session_moved` is the same about the session of an upload.  `Op.attachment_kept` and
`Op.attachment_before` are about the attachments: they stay, only `undelete` takes a deleted one
back, and a new one has a new id.

`Database.Valid` is what the tables' constraints and the routes promise; every statement keeps
it (`Op.valid`).
-/
import MediaBooster.Gnuboard7.Store

namespace MediaBooster.Gnuboard7

set_option autoImplicit false

open MediaBooster.Domain
open MediaBooster.Theory.Table

/-! ## Sessions -/

/-- How a statement moves the row of a session. -/
inductive Moved (now : Int) (db : Database) : Op → SessionRow → SessionRow → Prop
  | kept (op : Op) (row : SessionRow) : Moved now db op row row
  | scheduled {ids : List Int} {slug reason : String} {days : Int} {row : SessionRow}
      (named : row.isOf ids slug = true) (unmarked : row.unmarked = true) :
      Moved now db (.scheduleIds ids slug reason days) row (row.scheduled reason days now)
  | restored {ids : List Int} {slug : String} {row : SessionRow}
      (named : row.isOf ids slug = true) (unmarked : row.unmarked = true) :
      Moved now db (.cancelRestored ids slug) row (row.clearedRetention now)
  | prepared {ids : List Int} {slug : String} {row : SessionRow}
      (named : row.isOf ids slug = true) (unmarked : row.unmarked = true) :
      Moved now db (.prepareRestore ids slug) row (row.clearedRetention now)
  | claimed {limit : Nat} {row : SessionRow} :
      Moved now db (.claimDue limit) row (row.claimed now)
  | cancelled {attachmentId : Int} {upload : String} {row stored : SessionRow}
      (named : row.uploadId = strtolower upload)
      (found : db.session (strtolower upload) = some stored)
      (leased : stored.retentionLeaseUntil.isSome = true)
      (decided : evaluate (db.attachment attachmentId) upload = .cancel) :
      Moved now db (.beginClaim attachmentId upload) row (row.clearedRetention now)
  | blocked {attachmentId : Int} {upload : String} {row : SessionRow}
      (named : row.uploadId = strtolower upload) :
      Moved now db (.beginClaim attachmentId upload) row (row.blocked now)
  | begun {attachmentId : Int} {upload : String} {row : SessionRow}
      (named : row.uploadId = strtolower upload) :
      Moved now db (.beginClaim attachmentId upload) row (row.begun now)
  | cancelClaim {upload : String} {row : SessionRow} (named : row.uploadId = strtolower upload) :
      Moved now db (.cancelClaim upload) row (row.clearedRetention now)
  | completed {upload : String} {row : SessionRow} (named : row.uploadId = strtolower upload) :
      Moved now db (.completeClaim upload) row (row.completed now)
  | failed {upload : String} {failure : Failure} {row : SessionRow}
      (named : row.uploadId = strtolower upload) :
      Moved now db (.failClaim upload failure) row (row.failed failure now)
  | materialized {upload slug : String} {userId : Int} {descriptor : Descriptor} {row : SessionRow}
      (named : row.uploadId = strtolower upload) (fresh : row.attachmentId = none) :
      Moved now db (.materializeAttachment upload userId slug descriptor) row
        (row.materialized db.nextAttachmentId now)
  | marked {upload state : String} {row : SessionRow} (named : row.uploadId = strtolower upload) :
      Moved now db (.markState upload state) row (row.marked state now)

section Sessions

variable {now : Int} {db : Database} {op : Op} {row row' : SessionRow}

theorem Moved.uploadId (moved : Moved now db op row row') : row'.uploadId = row.uploadId := by
  cases moved <;> rfl

theorem Moved.boardSlug (moved : Moved now db op row row') : row'.boardSlug = row.boardSlug := by
  cases moved <;> rfl

/-- A session that has an attachment keeps it. -/
theorem Moved.attachmentId (moved : Moved now db op row row') {id : Int}
    (known : row.attachmentId = some id) : row'.attachmentId = some id := by
  cases moved with
  | materialized named fresh =>
      rw [fresh] at known
      cases known
  | _ => exact known

/-- A session keeps its attachment, or gets the next one. -/
theorem Moved.attachmentId_cases (moved : Moved now db op row row') :
    row'.attachmentId = row.attachmentId ∨
      (row.attachmentId = none ∧ row'.attachmentId = some db.nextAttachmentId ∧
        ∃ upload userId slug descriptor, op = .materializeAttachment upload userId slug descriptor ∧
          row.uploadId = strtolower upload) := by
  cases moved with
  | materialized named fresh => exact .inr ⟨fresh, rfl, _, _, _, _, rfl, named⟩
  | _ => exact .inl rfl

theorem updateSession_moves {upload : String} {change : SessionRow → SessionRow}
    (moves : ∀ row, row.uploadId = strtolower upload → Moved now db op row (change row)) :
    List.Forall₂ (Moved now db op) db.sessions
      (updateSession (strtolower upload) change db).sessions := by
  refine forall₂_updateWhere (.kept op) fun row _ hit => ?_
  exact moves row (eq_of_beq hit)

theorem clearUnmarked_moves {ids : List Int} {slug : String}
    (moves : ∀ row : SessionRow, row.isOf ids slug = true → row.unmarked = true →
      Moved now db op row (row.clearedRetention now)) :
    List.Forall₂ (Moved now db op) db.sessions (clearUnmarked ids slug now db).sessions := by
  refine forall₂_updateWhere (.kept op) fun row _ hit => ?_
  rw [Bool.and_eq_true] at hit
  exact moves row hit.1 hit.2

theorem kept_moves (now : Int) (db : Database) (op : Op) :
    List.Forall₂ (Moved now db op) db.sessions db.sessions :=
  List.forall₂_same.2 fun row _ => .kept op row

theorem beginClaim_moves {attachmentId : Int} {upload : String} :
    List.Forall₂ (Moved now db (.beginClaim attachmentId upload)) db.sessions
      (beginClaim attachmentId upload now db).2.sessions := by
  unfold beginClaim
  cases found : db.session (strtolower upload) with
  | none => exact kept_moves now db _
  | some stored =>
      dsimp only
      split
      · exact kept_moves now db _
      · rename_i ready
        have leased : stored.retentionLeaseUntil.isSome = true := by
          cases lease : stored.retentionLeaseUntil with
          | none => exact absurd (by simp [lease]) ready
          | some _ => rfl
        cases decided : evaluate (db.attachment attachmentId) upload with
        | cancel => exact updateSession_moves fun row named => .cancelled named found leased decided
        | block => exact updateSession_moves fun row named => .blocked named
        | delete =>
            dsimp only
            split
            · exact updateSession_moves fun row named => .begun named
            · exact kept_moves now db _

theorem materializeAttachment_moves {upload slug : String} {userId : Int} {descriptor : Descriptor} :
    List.Forall₂ (Moved now db (.materializeAttachment upload userId slug descriptor)) db.sessions
      (materializeAttachment upload userId slug descriptor now db).2.sessions := by
  unfold materializeAttachment
  split
  · exact kept_moves now db _
  · split
    · exact kept_moves now db _
    · split
      · exact kept_moves now db _
      · split
        · refine forall₂_updateWhere (.kept _) fun row _ hit => ?_
          rw [Bool.and_eq_true, Option.isNone_iff_eq_none] at hit
          exact .materialized (eq_of_beq hit.1) hit.2
        · exact kept_moves now db _

/-- What a save does: nothing, or a link of the attachments it has admitted. -/
theorem linkSave_cases (save : Save) (now : Int) (db : Database) :
    (linkSave save now db).2 = db ∨ ∃ board actor postId, 1 ≤ postId ∧
      (linkSave save now db).2 = linkAttachments (save.pending db) board.id postId db ∧
      ∀ row ∈ liveAttachments save.attachmentIds db, admits save board actor now db row = true := by
  unfold linkSave
  split
  · exact .inl rfl
  split
  · exact .inl rfl
  cases db.boards.find? fun board => board.slug == save.slug with
  | none => exact .inl rfl
  | some board =>
      cases save.actor with
      | none => exact .inl rfl
      | some actor =>
          dsimp only
          split
          · exact .inl rfl
          split
          · exact .inl rfl
          rename_i admitted
          split
          · exact .inl rfl
          unfold linkSaved
          cases save.native with
          | failed => exact .inl rfl
          | saved dataId =>
              dsimp only
              split
              · exact .inl rfl
              rename_i positive
              split
              · refine .inr ⟨board, actor, save.savedPost dataId, by omega, rfl, ?_⟩
                rw [Bool.not_eq_true', Bool.not_eq_false, List.all_eq_true] at admitted
                exact admitted
              · exact .inl rfl

theorem linkSave_sessions {save : Save} : (linkSave save now db).2.sessions = db.sessions := by
  obtain same | ⟨board, actor, postId, -, same, -⟩ := linkSave_cases save now db
  · rw [same]
  · rw [same]
    rfl

/-- **Every statement moves every session.** -/
theorem Op.moves_sessions (op : Op) (now : Int) (db : Database) :
    List.Forall₂ (Moved now db op) db.sessions (op.run now db).2.sessions := by
  cases op with
  | scheduleIds ids slug reason days =>
      refine forall₂_updateWhere (.kept _) fun row _ hit => ?_
      rw [Bool.and_eq_true] at hit
      exact .scheduled hit.1 hit.2
  | cancelRestored ids slug => exact clearUnmarked_moves fun row named unmarked => .restored named unmarked
  | prepareRestore ids slug =>
      show List.Forall₂ _ _ (Gnuboard7.prepareRestore ids slug now db).2.sessions
      unfold Gnuboard7.prepareRestore
      split
      · exact kept_moves now db _
      · exact clearUnmarked_moves fun row named unmarked => .prepared named unmarked
  | claimDue limit => exact forall₂_updateWhere (.kept _) fun row _ _ => .claimed
  | beginClaim attachmentId upload => exact beginClaim_moves
  | cancelClaim upload => exact updateSession_moves fun row named => .cancelClaim named
  | completeClaim upload => exact updateSession_moves fun row named => .completed named
  | failClaim upload failure => exact updateSession_moves fun row named => .failed named
  | materializeAttachment upload userId slug descriptor => exact materializeAttachment_moves
  | markState upload state => exact updateSession_moves fun row named => .marked named
  | linkSave save =>
      show List.Forall₂ _ _ (Gnuboard7.linkSave save now db).2.sessions
      rw [linkSave_sessions]
      exact kept_moves now db _
  | _ => exact kept_moves now db _

/-- Rows that keep their uploads are found again. -/
theorem find?_moved {rows rows' : List SessionRow} (upload : String)
    (moved : List.Forall₂ (Moved now db op) rows rows') :
    (rows.find? (fun row => row.uploadId == upload) = none ∧
        rows'.find? (fun row => row.uploadId == upload) = none) ∨
      ∃ row row', rows.find? (fun row => row.uploadId == upload) = some row ∧
        rows'.find? (fun row => row.uploadId == upload) = some row' ∧ Moved now db op row row' := by
  induction moved with
  | nil => exact .inl ⟨rfl, rfl⟩
  | @cons row row' rows rows' head _ ih =>
      by_cases here : (row.uploadId == upload) = true
      · have there : (row'.uploadId == upload) = true := by rw [head.uploadId, here]
        exact .inr ⟨row, row', List.find?_cons_of_pos here, List.find?_cons_of_pos there, head⟩
      · have there : ¬ (row'.uploadId == upload) = true := by rwa [head.uploadId]
        rw [List.find?_cons_of_neg (p := fun row : SessionRow => row.uploadId == upload) here,
          List.find?_cons_of_neg (p := fun row : SessionRow => row.uploadId == upload) there]
        exact ih

/-- The session of an upload after a statement is the one before it, moved. -/
theorem session_moved (op : Op) (now : Int) {db : Database} {upload : String} {row : SessionRow}
    (found : db.session upload = some row) :
    ∃ row', (op.run now db).2.session upload = some row' ∧ Moved now db op row row' := by
  obtain ⟨none, -⟩ | ⟨before, after, there, there', moved⟩ :=
    find?_moved upload (op.moves_sessions now db)
  · rw [Database.session, none] at found
    cases found
  · obtain rfl := Option.some.inj (found.symm.trans there)
    exact ⟨after, there', moved⟩

theorem uploadId_of_session {upload : String} (found : db.session upload = some row) :
    row.uploadId = upload :=
  eq_of_beq (List.find?_some (p := fun row : SessionRow => row.uploadId == upload) found)

/-- The session of an upload after an update. -/
theorem session_updateWhere {upload : String} {hit : SessionRow → Bool}
    {change : SessionRow → SessionRow} (keeps : ∀ row, (change row).uploadId = row.uploadId) :
    (updateWhere hit change db.sessions).find? (fun row => row.uploadId == upload) =
      (db.session upload).map fun row => if hit row then change row else row :=
  find?_updateWhere fun row _ => by rw [keeps]

/-- The session an update is about, after it. -/
theorem session_updateSession {upload : String} {change : SessionRow → SessionRow}
    (keeps : ∀ row, (change row).uploadId = row.uploadId) :
    (updateSession upload change db).session upload = (db.session upload).map change := by
  refine (session_updateWhere keeps).trans ?_
  cases found : db.session upload with
  | none => rfl
  | some row =>
      have same := List.find?_some (p := fun row : SessionRow => row.uploadId == upload) found
      rw [Option.map_some, Option.map_some, if_pos same]

end Sessions

/-! ## Attachments -/

section Attachments

variable {now : Int} {db : Database}

/-- What `materializeAttachment` does: nothing, or a new attachment for a session without one. -/
theorem materializeAttachment_cases (upload : String) (userId : Int) (slug : String)
    (descriptor : Descriptor) (now : Int) (db : Database) :
    ((materializeAttachment upload userId slug descriptor now db).2 = db ∧
        ∀ id, (materializeAttachment upload userId slug descriptor now db).1 = .ok id →
          ∃ row, ownedSession upload userId slug now db = some row ∧ row.attachmentId = some id) ∨
      (∃ row, ownedSession upload userId slug now db = some row) ∧
        (materializeAttachment upload userId slug descriptor now db).1 = .ok db.nextAttachmentId ∧
        (∃ row ∈ db.sessions, row.uploadId = strtolower upload ∧ row.attachmentId = none) ∧
        (materializeAttachment upload userId slug descriptor now db).2 =
          { createAttachment descriptor userId db with
            sessions := updateWhere
              (fun row => row.uploadId == strtolower upload && row.attachmentId.isNone)
              (SessionRow.materialized db.nextAttachmentId now) db.sessions } := by
  unfold materializeAttachment
  cases owned : ownedSession upload userId slug now db with
  | none => exact .inl ⟨rfl, nofun⟩
  | some row =>
      dsimp only
      split
      · rename_i positive
        refine .inl ⟨rfl, ?_⟩
        rintro id ⟨⟩
        refine ⟨row, rfl, ?_⟩
        cases known : row.attachmentId with
        | none =>
            rw [known] at positive
            exact absurd positive (by decide)
        | some id => rfl
      split
      · exact .inl ⟨rfl, nofun⟩
      split
      · rename_i one
        refine .inr ⟨⟨row, rfl⟩, rfl, ?_, rfl⟩
        have there := List.countP_pos_iff.1 (Nat.lt_of_lt_of_eq Nat.one_pos one.symm)
        obtain ⟨fresh, member, hit⟩ := there
        rw [Bool.and_eq_true, beq_iff_eq, Option.isNone_iff_eq_none] at hit
        exact ⟨fresh, member, hit⟩
      · exact .inl ⟨rfl, nofun⟩

/-- What a statement does to the attachments. -/
inductive Attached (now : Int) (db : Database) (op : Op) : Prop
  | same (attachments : (op.run now db).2.attachments = db.attachments)
      (next : (op.run now db).2.nextAttachmentId = db.nextAttachmentId)
      (quiet : ∀ upload userId slug descriptor,
        op = .materializeAttachment upload userId slug descriptor → (op.run now db).2 = db)
  | created (upload : String) (userId : Int) (slug : String) (descriptor : Descriptor)
      (call : op = .materializeAttachment upload userId slug descriptor)
      (attachments : (op.run now db).2.attachments = (createAttachment descriptor userId db).attachments)
      (next : (op.run now db).2.nextAttachmentId = db.nextAttachmentId + 1)
  | linked (save : Save) (board : BoardRow) (actor postId : Int) (call : op = .linkSave save)
      (positive : 1 ≤ postId)
      (linked : (op.run now db).2 = linkAttachments (save.pending db) board.id postId db)
      (admitted : ∀ row ∈ liveAttachments save.attachmentIds db,
        admits save board actor now db row = true)
  | undeleted (ids : List Int) (call : op = .undelete ids)
      (restored : (op.run now db).2 = undelete ids db)

theorem beginClaim_attachments {attachmentId : Int} {upload : String} :
    (beginClaim attachmentId upload now db).2.attachments = db.attachments ∧
      (beginClaim attachmentId upload now db).2.nextAttachmentId = db.nextAttachmentId := by
  unfold beginClaim
  cases db.session (strtolower upload) with
  | none => exact ⟨rfl, rfl⟩
  | some stored =>
      dsimp only
      split
      · exact ⟨rfl, rfl⟩
      · cases evaluate (db.attachment attachmentId) upload with
        | cancel => exact ⟨rfl, rfl⟩
        | block => exact ⟨rfl, rfl⟩
        | delete =>
            dsimp only
            split <;> exact ⟨rfl, rfl⟩

/-- **What every statement does to the attachments.** -/
theorem Op.attached (op : Op) (now : Int) (db : Database) : Attached now db op := by
  cases op with
  | prepareRestore ids slug =>
      have same : (Gnuboard7.prepareRestore ids slug now db).2.attachments = db.attachments ∧
          (Gnuboard7.prepareRestore ids slug now db).2.nextAttachmentId = db.nextAttachmentId := by
        unfold Gnuboard7.prepareRestore
        split <;> exact ⟨rfl, rfl⟩
      exact .same same.1 same.2 nofun
  | beginClaim attachmentId upload =>
      exact .same beginClaim_attachments.1 beginClaim_attachments.2 nofun
  | materializeAttachment upload userId slug descriptor =>
      obtain ⟨same, -⟩ | ⟨-, -, -, created⟩ := materializeAttachment_cases upload userId
        slug descriptor now db
      · exact .same (congrArg Database.attachments same) (congrArg Database.nextAttachmentId same)
          fun _ _ _ _ _ => same
      · refine .created _ _ _ _ rfl ?_ ?_
        · show (Gnuboard7.materializeAttachment upload userId slug descriptor now db).2.attachments = _
          rw [created]
        · show (Gnuboard7.materializeAttachment upload userId slug descriptor now db).2.nextAttachmentId = _
          rw [created]
          rfl
  | linkSave save =>
      obtain same | ⟨board, actor, postId, positive, linked, admitted⟩ :=
        linkSave_cases save now db
      · exact .same (congrArg Database.attachments same) (congrArg Database.nextAttachmentId same) nofun
      · exact .linked save board actor postId rfl positive linked admitted
  | undelete ids => exact .undeleted ids rfl rfl
  | _ => exact .same rfl rfl nofun

end Attachments

/-! ## Attachments found -/

section Found

variable {now : Int} {db : Database} {id : Int} {attachment : AttachmentRow}

theorem id_of_attachment (found : db.attachment id = some attachment) : attachment.id = id :=
  eq_of_beq (List.find?_some (p := fun row : AttachmentRow => row.id == id) found)

/-- The attachment an update is about, after it. -/
theorem attachment_updateWhere {hit : AttachmentRow → Bool} {change : AttachmentRow → AttachmentRow}
    (keeps : ∀ row, (change row).id = row.id) :
    (updateWhere hit change db.attachments).find? (fun row => row.id == id) =
      (db.attachment id).map fun row => if hit row then change row else row :=
  find?_updateWhere fun row _ => by rw [keeps]

theorem attachment_trash {ids : List Int} {triggerType : String} :
    (trash ids triggerType now db).attachment id = (db.attachment id).map fun row =>
      if ids.contains row.id && row.deletedAt.isNone then
        { row with deletedAt := some now, triggerType := some triggerType }
      else row := attachment_updateWhere fun _ => rfl

theorem attachment_undelete {ids : List Int} :
    (undelete ids db).attachment id = (db.attachment id).map fun row =>
      if ids.contains row.id then { row with deletedAt := none } else row :=
  attachment_updateWhere fun _ => rfl

theorem attachment_linkAttachments {pending : List Int} {boardId postId : Int} :
    (linkAttachments pending boardId postId db).attachment id = (db.attachment id).map fun row =>
      if pending.contains row.id then { row with boardId := boardId, postId := some postId }
      else row := attachment_updateWhere fun _ => rfl

/-- A statement takes a deleted attachment back only if it is `undelete`. -/
theorem Op.attachment_kept (op : Op) (now : Int) (found : db.attachment id = some attachment) :
    ∃ attachment', (op.run now db).2.attachment id = some attachment' ∧
      (attachment'.deletedAt = attachment.deletedAt ∨ ∃ ids, op = .undelete ids ∧ id ∈ ids) := by
  cases op.attached now db with
  | same attachments =>
      refine ⟨attachment, ?_, .inl rfl⟩
      unfold Database.attachment
      rw [attachments]
      exact found
  | created upload userId slug descriptor call attachments =>
      refine ⟨attachment, ?_, .inl rfl⟩
      unfold Database.attachment at found ⊢
      rw [attachments]
      unfold createAttachment
      rw [List.find?_append, found]
      rfl
  | linked save board actor postId call positive linked =>
      rw [linked, attachment_linkAttachments, found]
      refine ⟨_, rfl, .inl ?_⟩
      dsimp only
      split <;> rfl
  | undeleted ids call restored =>
      rw [restored, attachment_undelete, found]
      refine ⟨_, rfl, ?_⟩
      dsimp only
      split
      · rename_i hit
        rw [id_of_attachment found] at hit
        exact .inr ⟨ids, call, List.contains_iff_mem.1 hit⟩
      · exact .inl rfl

/-- An attachment after a statement was there before, or is new. -/
theorem Op.attachment_before (op : Op) (now : Int)
    (found : (op.run now db).2.attachment id = some attachment) :
    (∃ before, db.attachment id = some before) ∨ id = db.nextAttachmentId := by
  cases op.attached now db with
  | same attachments =>
      unfold Database.attachment at found
      rw [attachments] at found
      exact .inl ⟨attachment, found⟩
  | created upload userId slug descriptor call attachments =>
      unfold Database.attachment at found
      rw [attachments] at found
      obtain old | new := List.mem_append.1 (List.mem_of_find?_eq_some found)
      · cases there : db.attachment id with
        | some before => exact .inl ⟨before, rfl⟩
        | none =>
            have absent := List.find?_eq_none.1 there attachment old
            have same := List.find?_some (p := fun row : AttachmentRow => row.id == id) found
            exact absurd same absent
      · have same := List.find?_some (p := fun row : AttachmentRow => row.id == id) found
        rw [List.mem_singleton.1 new] at same
        exact .inr (eq_of_beq same).symm
  | linked save board actor postId call positive linked =>
      rw [linked, attachment_linkAttachments] at found
      obtain ⟨before, known, -⟩ := Option.map_eq_some_iff.1 found
      exact .inl ⟨before, known⟩
  | undeleted ids call restored =>
      rw [restored, attachment_undelete] at found
      obtain ⟨before, known, -⟩ := Option.map_eq_some_iff.1 found
      exact .inl ⟨before, known⟩

end Found

/-! ## Valid tables -/

/-- What the tables' constraints, the routes and the counter promise. -/
structure Database.Valid (db : Database) : Prop where
  keyed : KeyedBy SessionRow.uploadId db.sessions
  lower : ∀ row ∈ db.sessions, strtolower row.uploadId = row.uploadId
  slugs : ∀ row ∈ db.sessions, validSlug row.boardSlug = true
  named : ∀ row ∈ db.sessions, ∀ id, row.attachmentId = some id → id < db.nextAttachmentId
  unique : ∀ row ∈ db.sessions, ∀ row' ∈ db.sessions, ∀ id,
    row.attachmentId = some id → row'.attachmentId = some id → row = row'
  attached : KeyedBy AttachmentRow.id db.attachments
  ids : ∀ row ∈ db.attachments, row.id < db.nextAttachmentId
  posts : ∀ row ∈ db.attachments, ∀ postId, row.postId = some postId → 1 ≤ postId

section Valid

variable {now : Int} {db : Database} {op : Op}

theorem Database.Valid.session (valid : db.Valid) {row : SessionRow} (member : row ∈ db.sessions) :
    db.session row.uploadId = some row := by
  have found := find?_eq_some_of_key valid.keyed member
  unfold Database.session
  rw [← found]
  congr 1

theorem Database.Valid.attachment (valid : db.Valid) {row : AttachmentRow}
    (member : row ∈ db.attachments) : db.attachment row.id = some row := by
  have found := find?_eq_some_of_key valid.attached member
  unfold Database.attachment
  rw [← found]
  congr 1

/-- Tables whose sessions were moved by one statement stay valid, if a new attachment got a
new id. -/
theorem Database.Valid.moved {after : Database} (valid : db.Valid)
    (moved : List.Forall₂ (Moved now db op) db.sessions after.sessions)
    (counts : db.nextAttachmentId ≤ after.nextAttachmentId)
    (grows : ∀ row ∈ after.sessions, row.attachmentId = some db.nextAttachmentId →
      db.nextAttachmentId < after.nextAttachmentId)
    (attached : KeyedBy AttachmentRow.id after.attachments)
    (ids : ∀ row ∈ after.attachments, row.id < after.nextAttachmentId)
    (posts : ∀ row ∈ after.attachments, ∀ postId, row.postId = some postId → 1 ≤ postId) :
    after.Valid where
  keyed := KeyedBy.of_forall₂ moved (fun _ _ => Moved.uploadId) valid.keyed
  lower := by
    intro row' member
    obtain ⟨row, before, moves⟩ := forall₂_mem_right moved member
    rw [moves.uploadId]
    exact valid.lower row before
  slugs := by
    intro row' member
    obtain ⟨row, before, moves⟩ := forall₂_mem_right moved member
    rw [moves.boardSlug]
    exact valid.slugs row before
  named := by
    intro row' member id known
    obtain ⟨row, before, moves⟩ := forall₂_mem_right moved member
    obtain same | ⟨-, new, -⟩ := moves.attachmentId_cases
    · rw [same] at known
      exact lt_of_lt_of_le (valid.named row before id known) counts
    · rw [new] at known
      cases known
      exact grows row' member new
  unique := by
    intro a' memberA b' memberB id knownA knownB
    obtain ⟨a, beforeA, movesA⟩ := forall₂_mem_right moved memberA
    obtain ⟨b, beforeB, movesB⟩ := forall₂_mem_right moved memberB
    have same : a.uploadId = b.uploadId := by
      obtain sameA | ⟨-, newA, _, _, _, _, callA, uploadA⟩ := movesA.attachmentId_cases
      · obtain sameB | ⟨-, newB, -⟩ := movesB.attachmentId_cases
        · rw [sameA] at knownA
          rw [sameB] at knownB
          rw [valid.unique a beforeA b beforeB id knownA knownB]
        · rw [newB] at knownB
          cases knownB
          rw [sameA] at knownA
          exact absurd (valid.named a beforeA _ knownA) (lt_irrefl _)
      · obtain sameB | ⟨-, -, _, _, _, _, callB, uploadB⟩ := movesB.attachmentId_cases
        · rw [newA] at knownA
          cases knownA
          rw [sameB] at knownB
          exact absurd (valid.named b beforeB _ knownB) (lt_irrefl _)
        · cases callA.symm.trans callB
          rw [uploadA, uploadB]
    have keyed : KeyedBy SessionRow.uploadId after.sessions :=
      KeyedBy.of_forall₂ moved (fun _ _ => Moved.uploadId) valid.keyed
    exact keyed.eq_of_key memberA memberB (by rw [movesA.uploadId, movesB.uploadId, same])
  attached := attached
  ids := ids
  posts := posts

/-- **Every statement keeps the tables valid.** -/
theorem Op.valid (op : Op) (now : Int) (valid : db.Valid) : (op.run now db).2.Valid := by
  have moved := op.moves_sessions now db
  have fresh : ∀ row ∈ db.sessions, row.attachmentId ≠ some db.nextAttachmentId := fun row member known =>
    absurd (valid.named row member _ known) (lt_irrefl _)
  cases op.attached now db with
  | same attachments next quiet =>
      refine valid.moved moved (le_of_eq next.symm) ?_ (attachments ▸ valid.attached) ?_ ?_
      · intro row' member new
        obtain ⟨row, before, moves⟩ := forall₂_mem_right moved member
        obtain kept | ⟨-, -, upload, userId, slug, descriptor, call, -⟩ := moves.attachmentId_cases
        · rw [kept] at new
          exact absurd new (fresh row before)
        · rw [quiet upload userId slug descriptor call] at member
          exact absurd new (fresh row' member)
      · rw [attachments, next]
        exact valid.ids
      · rw [attachments]
        exact valid.posts
  | created upload userId slug descriptor call attachments next =>
      refine valid.moved moved (by omega) (fun _ _ _ => by omega) ?_ ?_ ?_
      · rw [attachments]
        refine valid.attached.concat fun other member same => ?_
        have := valid.ids other member
        exact absurd this (by rw [same]; exact lt_irrefl _)
      · intro row member
        rw [attachments] at member
        rw [next]
        obtain old | new := List.mem_append.1 member
        · have := valid.ids row old
          omega
        · rw [List.mem_singleton.1 new]
          exact Int.lt_succ _
      · intro row member postId known
        rw [attachments] at member
        obtain old | new := List.mem_append.1 member
        · exact valid.posts row old postId known
        · rw [List.mem_singleton.1 new] at known
          cases known
  | linked save board actor postId call positive linked admitted =>
      rw [linked] at moved ⊢
      refine valid.moved moved (le_refl _) (fun row member new => absurd new (fresh row member))
        (valid.attached.updateWhere fun _ => rfl) ?_ ?_
      · intro row' member
        obtain ⟨row, before, same⟩ := mem_updateWhere.1 member
        have known := valid.ids row before
        rw [same]
        split <;> exact known
      · intro row' member post known
        obtain ⟨row, before, same⟩ := mem_updateWhere.1 member
        rw [same] at known
        split at known
        · cases known
          exact positive
        · exact valid.posts row before post known
  | undeleted ids call restored =>
      rw [restored] at moved ⊢
      refine valid.moved moved (le_refl _) (fun row member new => absurd new (fresh row member))
        (valid.attached.updateWhere fun _ => rfl) ?_ ?_
      · intro row' member
        obtain ⟨row, before, same⟩ := mem_updateWhere.1 member
        have known := valid.ids row before
        rw [same]
        split <;> exact known
      · intro row' member post known
        obtain ⟨row, before, same⟩ := mem_updateWhere.1 member
        rw [same] at known
        split at known <;> exact valid.posts row before post known

theorem trash_valid {ids : List Int} {triggerType : String} (valid : db.Valid) :
    (trash ids triggerType now db).Valid where
  keyed := valid.keyed
  lower := valid.lower
  slugs := valid.slugs
  named := valid.named
  unique := valid.unique
  attached := valid.attached.updateWhere fun _ => rfl
  ids := by
    intro row' member
    obtain ⟨row, before, same⟩ := mem_updateWhere.1 member
    have known := valid.ids row before
    rw [same]
    split <;> exact known
  posts := by
    intro row' member post known
    obtain ⟨row, before, same⟩ := mem_updateWhere.1 member
    rw [same] at known
    split at known <;> exact valid.posts row before post known

theorem purge_valid {ids : List Int} (valid : db.Valid) : (purge ids db).Valid where
  keyed := valid.keyed
  lower := valid.lower
  slugs := valid.slugs
  named := valid.named
  unique := valid.unique
  attached := valid.attached.deleteWhere _
  ids := fun row member => valid.ids row (mem_deleteWhere.1 member).1
  posts := fun row member => valid.posts row (mem_deleteWhere.1 member).1

/-- What is left after a removal was there before. -/
theorem attachment_of_purge {id : Int} {ids : List Int} {attachment : AttachmentRow} (valid : db.Valid)
    (found : (purge ids db).attachment id = some attachment) : db.attachment id = some attachment := by
  have member := (mem_deleteWhere.1 (List.mem_of_find?_eq_some found)).1
  have there := valid.attachment member
  rw [id_of_attachment found] at there
  exact there

/-- What is not removed is left. -/
theorem attachment_purge {id : Int} {ids : List Int} {attachment : AttachmentRow} (valid : db.Valid)
    (found : db.attachment id = some attachment) (stays : id ∉ ids) :
    (purge ids db).attachment id = some attachment := by
  have named := id_of_attachment found
  have member : attachment ∈ (purge ids db).attachments := by
    refine mem_deleteWhere.2 ⟨List.mem_of_find?_eq_some found, ?_⟩
    rw [named]
    exact Bool.eq_false_iff.2 fun listed => stays (List.contains_iff_mem.1 listed)
  have same := find?_eq_some_of_key (show (purge ids db).Valid from purge_valid valid).attached member
  unfold Database.attachment
  rw [← same]
  congr 1
  funext row
  rw [named]
  rfl

end Valid

end MediaBooster.Gnuboard7
