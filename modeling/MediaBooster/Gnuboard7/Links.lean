/-
# Gnuboard7.Links -- attachments are backed by live uploads

An upload is materialized once: its session keeps the attachment it was given, and every call
that returns one returns that (`OneAttachment`).  The transaction holds the session's row, so
nothing more is needed.

That a deleted upload is not linked rests on the session's `state` alone: the delete action
writes `deletion_pending`, and a save of a post wants `ready`.  `Unready` is the invariant that
would carry it; the steps that break it are those of `DeletionsRecorded`, a write of `ready` over
a recorded deletion and a save between the deletion and its record.  A poll of the status does
write `ready` over it (`poll_revives_deleted`): the server says `ready` until the cleanup, and says
`deletion_pending` in a field of its own that the poll does not read.
-/
import MediaBooster.Gnuboard7.Rehearsal

namespace MediaBooster.Gnuboard7

set_option autoImplicit false

open MediaBooster.Domain
open MediaBooster.Theory.Threads
open MediaBooster.Theory.Requests
open MediaBooster.Theory.Run
open MediaBooster.Theory.Table

/-! ## One attachment -/

/-- The session of the upload has this attachment. -/
def Attaches (db : Database) (uploadId : String) (id : Int) : Prop :=
  ∃ row, db.session uploadId = some row ∧ row.attachmentId = some id

/-- Every call that returned an attachment for an upload returned the one its session has, and
every attachment made since is the one its upload's session has. -/
structure OneAttachment (tables : Tables) (s : System) : Prop where
  returned : ∀ i attachmentId userId upload attachment,
    (⟨.db (.reloaded attachmentId userId upload), .ok (some attachment)⟩ : Exchange Answer) ∈ s.past i →
      Attaches s.shared.db (strtolower upload) attachment.id
  created : ∀ attachment ∈ s.shared.db.attachments, tables.db.nextAttachmentId ≤ attachment.id →
    Attaches s.shared.db attachment.path attachment.id

/-- What is true of an exchange a thread has had. -/
def Fact (s : System) (exchange : Exchange Answer) : Prop :=
  (∀ upload userId slug session,
    exchange = ⟨.db (.ownedSession upload userId slug), .ok (some session)⟩ →
      session.uploadId = strtolower upload) ∧
  (∀ upload userId slug descriptor id,
    exchange = ⟨.db (.materializeAttachment upload userId slug descriptor), .ok id⟩ →
      Attaches s.shared.db (strtolower upload) id) ∧
  (∀ attachmentId userId upload attachment,
    exchange = ⟨.db (.reloaded attachmentId userId upload), .ok (some attachment)⟩ →
      Attaches s.shared.db (strtolower upload) attachment.id)

/-- What holds of the attachments that were made. -/
structure Attaching (tables : Tables) (s : System) : Prop where
  valid : s.shared.db.Valid
  counts : tables.db.nextAttachmentId ≤ s.shared.db.nextAttachmentId
  known : ∀ i exchange, exchange ∈ s.past i → Fact s exchange
  created : ∀ attachment ∈ s.shared.db.attachments, tables.db.nextAttachmentId ≤ attachment.id →
    Attaches s.shared.db attachment.path attachment.id

theorem attaching_initial (tables : Tables) (clock : Int) :
    Attaching tables (tables.system clock) where
  valid := tables.valid
  counts := le_refl _
  known := by
    intro i exchange heard
    cases heard
  created := by
    intro attachment member new
    exact absurd (lt_of_lt_of_le (tables.valid.ids attachment member) new) (lt_irrefl _)

section Statements

variable {now : Int} {db : Database}

theorem Attaches.kept {uploadId : String} {id : Int} (op : Op) (attaches : Attaches db uploadId id) :
    Attaches (op.run now db).2 uploadId id := by
  obtain ⟨row, found, its⟩ := attaches
  obtain ⟨row', found', moved⟩ := session_moved op now found
  exact ⟨row', found', moved.attachmentId its⟩

/-- The session that is read is the user's of this upload. -/
theorem ownedSession_eq_some {upload slug : String} {userId : Int} {row : SessionRow}
    (owned : ownedSession upload userId slug now db = some row) :
    row ∈ db.sessions ∧ row.uploadId = strtolower upload := by
  have holds := List.find?_some (p := fun row : SessionRow => row.ownedBy upload userId slug now) owned
  unfold SessionRow.ownedBy at holds
  simp only [Bool.and_eq_true, beq_iff_eq] at holds
  exact ⟨List.mem_of_find?_eq_some owned, holds.1.1.1⟩

/-- **The transaction answers the attachment the session has afterwards.** -/
theorem attaches_of_materialize (valid : db.Valid) {upload slug : String} {userId id : Int}
    {descriptor : Descriptor}
    (answered : (materializeAttachment upload userId slug descriptor now db).1 = .ok id) :
    Attaches (materializeAttachment upload userId slug descriptor now db).2 (strtolower upload) id := by
  obtain ⟨same, kept⟩ | ⟨-, made, ⟨row, member, named, fresh⟩, created⟩ :=
    materializeAttachment_cases upload userId slug descriptor now db
  · obtain ⟨row, owned, its⟩ := kept id answered
    obtain ⟨member, named⟩ := ownedSession_eq_some owned
    rw [same]
    exact ⟨row, by rw [← named]; exact valid.session member, its⟩
  · rw [made] at answered
    cases answered
    have found := valid.session member
    rw [named] at found
    refine ⟨row.materialized db.nextAttachmentId now, ?_, rfl⟩
    have updated : (updateWhere (fun row => row.uploadId == strtolower upload && row.attachmentId.isNone)
        (SessionRow.materialized db.nextAttachmentId now) db.sessions).find?
          (fun row => row.uploadId == strtolower upload) = _ := session_updateWhere fun _ => rfl
    rw [created]
    refine updated.trans ?_
    rw [found, Option.map_some, if_pos]
    rw [Bool.and_eq_true, beq_iff_eq, Option.isNone_iff_eq_none]
    exact ⟨named, fresh⟩

/-- A new attachment is stored under the upload it was made for. -/
theorem created_attaches (op : Op) {next : Int} (valid : db.Valid)
    (validated : ∀ upload userId slug descriptor,
      op = .materializeAttachment upload userId slug descriptor → descriptor.path = strtolower upload)
    (created : ∀ attachment ∈ db.attachments, next ≤ attachment.id →
      Attaches db attachment.path attachment.id) :
    ∀ attachment ∈ (op.run now db).2.attachments, next ≤ attachment.id →
      Attaches (op.run now db).2 attachment.path attachment.id := by
  intro attachment member new
  cases op.attached now db with
  | same attachments =>
      rw [attachments] at member
      exact (created attachment member new).kept op
  | created upload userId slug descriptor call attachments next =>
      rw [attachments] at member
      obtain old | fresh := List.mem_append.1 member
      · exact (created attachment old new).kept op
      · rw [List.mem_singleton.1 fresh]
        subst call
        have answered : (materializeAttachment upload userId slug descriptor now db).1 =
            .ok db.nextAttachmentId := by
          obtain ⟨same, -⟩ | ⟨-, made, -⟩ := materializeAttachment_cases upload userId slug descriptor now db
          · have counted : (materializeAttachment upload userId slug descriptor now db).2.nextAttachmentId =
              db.nextAttachmentId + 1 := next
            rw [same] at counted
            omega
          · exact made
        have attaches := attaches_of_materialize valid answered
        rw [← validated upload userId slug descriptor rfl] at attaches
        exact attaches
  | linked save board actor postId call positive linked =>
      have attachments := congrArg Database.attachments linked
      rw [attachments] at member
      obtain ⟨before, there, same⟩ := mem_updateWhere.1 member
      have named : attachment.id = before.id ∧ attachment.path = before.path := by
        rw [same]
        split <;> exact ⟨rfl, rfl⟩
      rw [named.1, named.2]
      exact (created before there (named.1 ▸ new)).kept op
  | undeleted ids call restored =>
      have attachments := congrArg Database.attachments restored
      rw [attachments] at member
      obtain ⟨before, there, same⟩ := mem_updateWhere.1 member
      have named : attachment.id = before.id ∧ attachment.path = before.path := by
        rw [same]
        split <;> exact ⟨rfl, rfl⟩
      rw [named.1, named.2]
      exact (created before there (named.1 ▸ new)).kept op

end Statements

section Materialized

variable {tables : Tables} {s t : System} {label : Happening}

/-- What threads have heard stays true. -/
theorem Fact.kept {exchange : Exchange Answer} (fact : Fact s exchange)
    (kept : ∀ uploadId id, Attaches s.shared.db uploadId id → Attaches t.shared.db uploadId id) :
    Fact t exchange :=
  ⟨fact.1, fun upload userId slug descriptor id same => kept _ _ (fact.2.1 upload userId slug descriptor id same),
    fun attachmentId userId upload attachment same =>
      kept _ _ (fact.2.2 attachmentId userId upload attachment same)⟩

/-- What a statement answers is true. -/
theorem fact_of_ran (attaching : Attaching tables s) {i : Nat} {op : Op}
    (step : Step s (.asked i ⟨.db op, (op.run s.shared.clock s.shared.db).1⟩) t)
    (same : t.shared = { s.shared with db := (op.run s.shared.clock s.shared.db).2 }) :
    Fact t ⟨.db op, (op.run s.shared.clock s.shared.db).1⟩ := by
  have rule : Rule (s.past i) (.db op) := step_rule step
  refine ⟨?_, ?_, ?_⟩
  · intro upload userId slug session heard
    injection heard with asked answered
    injection asked with asked
    subst asked
    exact (ownedSession_eq_some (Except.ok.inj (eq_of_heq answered))).2
  · intro upload userId slug descriptor id heard
    injection heard with asked answered
    injection asked with asked
    subst asked
    rw [same]
    exact attaches_of_materialize attaching.valid (eq_of_heq answered)
  · intro attachmentId userId upload attachment heard
    injection heard with asked answered
    injection asked with asked
    subst asked
    obtain ⟨slug, descriptor, materialized⟩ := rule
    have attaches := (attaching.known i _ materialized).2.1 upload userId slug descriptor attachmentId rfl
    have read : reloaded attachmentId userId upload s.shared.db = some attachment :=
      Except.ok.inj (eq_of_heq answered)
    have named : attachment.id = attachmentId :=
      id_of_attachment (Option.eq_some_of_filter_eq_some read)
    rw [same, named]
    exact attaches

/-- A step that leaves the sessions, and makes no attachment. -/
theorem Attaching.undisturbed (attaching : Attaching tables s) (step : Step s label t)
    (sessions : t.shared.db.sessions = s.shared.db.sessions)
    (next : t.shared.db.nextAttachmentId = s.shared.db.nextAttachmentId)
    (attachments : ∀ attachment ∈ t.shared.db.attachments, ∃ before ∈ s.shared.db.attachments,
      attachment.id = before.id ∧ attachment.path = before.path)
    (quiet : ∀ i op output, label ≠ .asked i ⟨.db op, .ok output⟩) : Attaching tables t := by
  have kept : ∀ uploadId id, Attaches s.shared.db uploadId id → Attaches t.shared.db uploadId id := by
    intro uploadId id attaches
    unfold Attaches Database.session at attaches ⊢
    rw [sessions]
    exact attaches
  refine ⟨step_valid step attaching.valid, next ▸ attaching.counts, ?_, ?_⟩
  · refine step.learns attaching.known (fun exchange fact => fact.kept kept) fun i exchange same => ?_
    refine ⟨?_, ?_, ?_⟩
    · rintro upload userId slug session rfl
      exact absurd same (quiet _ _ _)
    · rintro upload userId slug descriptor id rfl
      exact absurd same (quiet _ _ _)
    · rintro attachmentId userId upload attachment rfl
      exact absurd same (quiet _ _ _)
  · intro attachment member new
    obtain ⟨before, there, sameId, samePath⟩ := attachments attachment member
    rw [sameId, samePath]
    exact kept _ _ (attaching.created before there (sameId ▸ new))

/-- **Every step keeps the invariant.** -/
theorem Attaching.step (attaching : Attaching tables s) (step : Step s label t) : Attaching tables t := by
  have same_db : t.shared.db = s.shared.db → (∀ i op output, label ≠ .asked i ⟨.db op, .ok output⟩) →
      Attaching tables t := by
    intro same quiet
    refine attaching.undisturbed step (by rw [same]) (by rw [same]) (fun attachment member => ?_) quiet
    rw [same] at member
    exact ⟨attachment, member, rfl, rfl⟩
  obtain ⟨i, op, rfl, same⟩ | ⟨i, origin, uploadId, rfl, same⟩ | ⟨event, rfl, occurs⟩ | ⟨same, quiet⟩ :=
    step_cases step
  · have rule : Rule (s.past i) (.db op) := step_rule step
    have validated : ∀ upload userId slug descriptor,
        op = .materializeAttachment upload userId slug descriptor → descriptor.path = strtolower upload := by
      rintro upload userId slug descriptor rfl
      obtain ⟨session, status, read, valid⟩ := rule
      have named := (attaching.known i _ read).1 upload userId slug session rfl
      rw [path_of_validate valid, named, strtolower_strtolower]
    have kept : ∀ uploadId id, Attaches s.shared.db uploadId id → Attaches t.shared.db uploadId id := by
      intro uploadId id attaches
      rw [same]
      exact attaches.kept op
    refine ⟨step_valid step attaching.valid, ?_, ?_, ?_⟩
    · rw [same]
      have counts := attaching.counts
      show tables.db.nextAttachmentId ≤ (op.run s.shared.clock s.shared.db).2.nextAttachmentId
      cases op.attached s.shared.clock s.shared.db with
      | same attachments next => omega
      | created _ _ _ _ _ _ next => omega
      | linked _ _ _ _ _ _ linked => rw [linked]; exact counts
      | undeleted _ _ restored => rw [restored]; exact counts
    · refine step.learns attaching.known (fun exchange fact => fact.kept kept) fun j exchange label => ?_
      injection label with _ heard
      rw [← heard]
      exact fact_of_ran attaching step same
    · rw [same]
      exact created_attaches op attaching.valid validated attaching.created
  · exact same_db (by rw [same]) fun _ _ _ => send_ne_db _ _
  · have quiet : ∀ i op output, (.moved event : Happening) ≠ .asked i ⟨.db op, .ok output⟩ := by simp
    cases event with
    | processed ticket accepts =>
        obtain ⟨requests, -, same⟩ := Option.map_eq_some_iff.1 occurs
        exact same_db (congrArg Shared.db same).symm quiet
    | clock now => exact same_db (congrArg Shared.db (Option.some.inj occurs)).symm quiet
    | trashed ids triggerType =>
        have same := congrArg Shared.db (Option.some.inj occurs)
        refine attaching.undisturbed step (congrArg Database.sessions same).symm
          (congrArg Database.nextAttachmentId same).symm (fun attachment member => ?_) quiet
        rw [← same] at member
        obtain ⟨before, there, eq⟩ := mem_updateWhere.1 member
        refine ⟨before, there, ?_⟩
        rw [eq]
        split <;> exact ⟨rfl, rfl⟩
    | purged ids =>
        have same := congrArg Shared.db (Option.some.inj occurs)
        refine attaching.undisturbed step (congrArg Database.sessions same).symm
          (congrArg Database.nextAttachmentId same).symm (fun attachment member => ?_) quiet
        rw [← same] at member
        exact ⟨attachment, (mem_deleteWhere.1 member).1, rfl, rfl⟩
  · exact same_db (congrArg Shared.db same) quiet

theorem Attaching.oneAttachment (attaching : Attaching tables s) : OneAttachment tables s where
  returned := fun i attachmentId userId upload attachment heard =>
    (attaching.known i _ heard).2.2 attachmentId userId upload attachment rfl
  created := attaching.created

end Materialized

/-! ## Deleted uploads -/

/-- A delete action has recorded that the deletion of the upload was accepted. -/
def Recorded (s : System) (uploadId : String) : Prop :=
  ∃ i userId slug upload, s.call i = some (.delete userId slug upload) ∧ strtolower upload = uploadId ∧
    (⟨.db (.markState upload "deletion_pending"), .ok ()⟩ : Exchange Answer) ∈ s.past i

/-- The statement writes that the upload is ready. -/
def WritesReady (db : Database) (uploadId : String) : Op → Prop
  | .markState upload state => strtolower upload = uploadId ∧
      String.ofList (state.toList.take 32) = "ready"
  | .materializeAttachment upload _ _ _ => strtolower upload = uploadId ∧
      ∃ row, db.session uploadId = some row ∧ row.attachmentId = none
  | .failClaim upload failure => strtolower upload = uploadId ∧ failure.keepInFlight = false
  | _ => False

/-- A recorded deletion is not overwritten, and no save of a post comes between a deletion and
its record. -/
structure DeletionsRecorded (s : System) (label : Happening) : Prop where
  stays : ∀ i op answer uploadId, label = .asked i ⟨.db op, answer⟩ → Recorded s uploadId →
    ¬ WritesReady s.shared.db uploadId op
  saves : ∀ i save answer uploadId id, label = .asked i ⟨.db (.linkSave save), answer⟩ →
    Accepted s.shared.requests ⟨.user, uploadId⟩ → Attaches s.shared.db uploadId id →
    id ∈ save.attachmentIds → Recorded s uploadId

/-- The upload of a recorded deletion is not ready. -/
structure Unready (s : System) : Prop where
  valid : s.shared.db.Valid
  unready : ∀ uploadId row, Recorded s uploadId → s.shared.db.session uploadId = some row →
    row.state ≠ "ready"

theorem unready_initial (tables : Tables) (clock : Int) : Unready (tables.system clock) where
  valid := tables.valid
  unready := by
    rintro uploadId row ⟨i, userId, slug, upload, called, -⟩
    cases called

/-- The media attachment of the upload is of no post. -/
def Unlinked (db : Database) (uploadId : String) (id : Int) : Prop :=
  Attaches db uploadId id ∧ ∀ attachment, db.attachment id = some attachment →
    attachment.disk = "g7mediabooster" ∧ attachment.postId = none

section Records

variable {s t : System} {label : Happening} {now : Int} {db : Database}

/-- A deletion was recorded before, or has just been. -/
theorem recorded_cases (step : Step s label t) {uploadId : String} (recorded : Recorded t uploadId) :
    Recorded s uploadId ∨ ∃ i upload, strtolower upload = uploadId ∧
      label = .asked i ⟨.db (.markState upload "deletion_pending"), .ok ()⟩ := by
  obtain ⟨i, userId, slug, upload, called, named, heard⟩ := recorded
  obtain old | new := step.heard_cases heard
  · obtain before | ⟨-, fresh⟩ := step.call_cases called
    · exact .inl ⟨i, userId, slug, upload, before, named, old⟩
    · rw [fresh] at old
      cases old
  · exact .inr ⟨i, upload, named, new⟩

/-- A statement that does not write it does not make an upload ready. -/
theorem Moved.unready {op : Op} {row row' : SessionRow} (moved : Moved now db op row row')
    (found : db.session row.uploadId = some row) (before : row.state ≠ "ready")
    (stays : ¬ WritesReady db row.uploadId op) : row'.state ≠ "ready" := by
  cases moved with
  | begun => exact fun same => absurd same (by simp [SessionRow.begun])
  | completed => exact fun same => absurd same (by simp [SessionRow.completed])
  | @failed upload failure _ named =>
      cases keeps : failure.keepInFlight with
      | true => simp [SessionRow.failed, keeps]
      | false => exact absurd ⟨named.symm, keeps⟩ stays
  | @materialized upload slug userId descriptor _ named fresh =>
      exact absurd ⟨named.symm, row, found, fresh⟩ stays
  | @marked upload state _ named => exact fun ready => stays ⟨named.symm, ready⟩
  | _ => exact before

/-- **Every step that leaves records alone keeps the invariant.** -/
theorem Unready.step (unready : Unready s) (step : Step s label t) (guard : DeletionsRecorded s label) :
    Unready t := by
  refine ⟨step_valid step unready.valid, ?_⟩
  have undisturbed : t.shared.db.sessions = s.shared.db.sessions →
      (∀ i op output, label ≠ .asked i ⟨.db op, .ok output⟩) → ∀ uploadId row, Recorded t uploadId →
        t.shared.db.session uploadId = some row → row.state ≠ "ready" := by
    intro same quiet uploadId row recorded found
    unfold Database.session at found
    rw [same] at found
    obtain old | ⟨i, upload, -, new⟩ := recorded_cases step recorded
    · exact unready.unready uploadId row old found
    · exact absurd new (quiet _ _ _)
  obtain ⟨i, op, rfl, same⟩ | ⟨i, origin, uploadId, rfl, same⟩ | ⟨event, rfl, occurs⟩ | ⟨same, quiet⟩ :=
    step_cases step
  · intro uploadId row' recorded found'
    rw [same] at found'
    obtain old | ⟨j, upload, named, new⟩ := recorded_cases step recorded
    · obtain ⟨-, gone⟩ | ⟨row, after, found, there, moved⟩ :=
        find?_moved uploadId (op.moves_sessions s.shared.clock s.shared.db)
      · exact absurd (gone.symm.trans found') nofun
      · obtain rfl := Option.some.inj (there.symm.trans found')
        have its := @uploadId_of_session s.shared.db _ _ found
        subst its
        exact moved.unready found (unready.unready _ row old found) (guard.stays i op _ _ rfl old)
    · injection new with _ exchange
      injection exchange with asked
      injection asked with asked
      subst asked
      have there : (markState upload "deletion_pending" s.shared.clock s.shared.db).session
          (strtolower upload) = (s.shared.db.session (strtolower upload)).map
            (SessionRow.marked "deletion_pending" s.shared.clock) := session_updateSession fun _ => rfl
      rw [named] at there
      obtain ⟨row, -, made⟩ := Option.map_eq_some_iff.1 (there.symm.trans found')
      have other : String.ofList ("deletion_pending".toList.take 32) ≠ "ready" := by decide +kernel
      rw [← made]
      exact other
  · exact undisturbed (by rw [same]) fun _ _ _ => send_ne_db _ _
  · have quiet : ∀ i op output, (.moved event : Happening) ≠ .asked i ⟨.db op, .ok output⟩ := by simp
    cases event with
    | processed ticket accepts =>
        obtain ⟨requests, -, same⟩ := Option.map_eq_some_iff.1 occurs
        exact undisturbed (congrArg (fun shared => shared.db.sessions) same).symm quiet
    | _ =>
        exact undisturbed (congrArg (fun shared => shared.db.sessions) (Option.some.inj occurs)).symm quiet
  · exact undisturbed (congrArg (fun shared => shared.db.sessions) same) quiet

/-- A save that links an attachment has found its session ready. -/
theorem ready_of_linked {save : Save} {board : BoardRow} {actor id : Int} {attachment : AttachmentRow}
    (valid : db.Valid) (found : db.attachment id = some attachment) (free : attachment.postId = none)
    (media : attachment.disk = "g7mediabooster") (pending : id ∈ save.pending db)
    (admitted : ∀ row ∈ liveAttachments save.attachmentIds db,
      admits save board actor now db row = true) :
    id ∈ save.attachmentIds ∧ ∃ row ∈ db.sessions, row.attachmentId = some id ∧ row.state = "ready" := by
  obtain ⟨row, listed, named⟩ := List.mem_map.1 pending
  have live := (List.mem_filter.1 listed).1
  obtain ⟨member, both⟩ := List.mem_filter.1 live
  rw [Bool.and_eq_true] at both
  have its := id_of_attachment found
  obtain rfl : row = attachment := valid.attached.eq_of_key member (List.mem_of_find?_eq_some found)
    (named.trans its.symm)
  have admission := admitted row live
  unfold admits at admission
  rw [free] at admission
  simp only [media, bne_self_eq_false, Bool.false_or, Bool.and_eq_true] at admission
  obtain ⟨session, there, linkable⟩ := List.any_eq_true.1 admission.2
  unfold SessionRow.isLinkable at linkable
  simp only [Bool.and_eq_true, beq_iff_eq] at linkable
  refine ⟨?_, session, there, ?_, linkable.1.1.1.2⟩
  · rw [← named]
    exact List.contains_iff_mem.1 both.1
  · rw [linkable.1.1.1.1.1.1.1, its]

/-- **No step links the attachment of a deleted upload.** -/
theorem unlinked_kept (unready : Unready s) (step : Step s label t) (guard : DeletionsRecorded s label)
    {uploadId : String} {id : Int} (accepted : Accepted s.shared.requests ⟨.user, uploadId⟩)
    (unlinked : Unlinked s.shared.db uploadId id) :
    ∀ attachment, t.shared.db.attachment id = some attachment → attachment.postId = none := by
  have undisturbed : t.shared.db.attachments = s.shared.db.attachments →
      ∀ attachment, t.shared.db.attachment id = some attachment → attachment.postId = none := by
    intro same attachment found
    unfold Database.attachment at found
    rw [same] at found
    exact (unlinked.2 attachment found).2
  obtain ⟨i, op, rfl, same⟩ | ⟨i, origin, upload, rfl, same⟩ | ⟨event, rfl, occurs⟩ | ⟨same, -⟩ :=
    step_cases step
  · intro attachment found
    rw [same] at found
    cases op.attached s.shared.clock s.shared.db with
    | same attachments =>
        unfold Database.attachment at found
        rw [attachments] at found
        exact (unlinked.2 attachment found).2
    | created _ _ _ _ _ attachments =>
        have member := List.mem_of_find?_eq_some found
        rw [attachments] at member
        obtain old | new := List.mem_append.1 member
        · have there := find?_eq_some_of_key unready.valid.attached old
          rw [id_of_attachment found] at there
          exact (unlinked.2 attachment there).2
        · rw [List.mem_singleton.1 new]
    | linked save board actor postId call positive linked admitted =>
        rw [linked, attachment_linkAttachments] at found
        obtain ⟨before, there, rfl⟩ := Option.map_eq_some_iff.1 found
        obtain ⟨media, free⟩ := unlinked.2 before there
        split
        · rename_i listed
          rw [id_of_attachment there] at listed
          have pending := List.contains_iff_mem.1 listed
          obtain ⟨named, session, member, its, ready⟩ :=
            ready_of_linked unready.valid there free media pending admitted
          subst call
          have recorded := guard.saves i save _ uploadId id rfl accepted unlinked.1 named
          obtain ⟨row, found, attaches⟩ := unlinked.1
          obtain rfl := unready.valid.unique row (List.mem_of_find?_eq_some found) session member id
            attaches its
          exact absurd ready (unready.unready uploadId row recorded found)
        · exact free
    | undeleted ids call restored =>
        rw [restored, attachment_undelete] at found
        obtain ⟨before, there, rfl⟩ := Option.map_eq_some_iff.1 found
        have free := (unlinked.2 before there).2
        split <;> exact free
  · exact undisturbed (by rw [same])
  · cases event with
    | processed ticket accepts =>
        obtain ⟨requests, -, same⟩ := Option.map_eq_some_iff.1 occurs
        exact undisturbed (congrArg (fun shared => shared.db.attachments) same).symm
    | clock now =>
        exact undisturbed (congrArg (fun shared => shared.db.attachments) (Option.some.inj occurs)).symm
    | trashed ids triggerType =>
        intro attachment found
        rw [← Option.some.inj occurs] at found
        dsimp only at found
        rw [attachment_trash] at found
        obtain ⟨before, there, rfl⟩ := Option.map_eq_some_iff.1 found
        have free := (unlinked.2 before there).2
        split <;> exact free
    | purged ids =>
        intro attachment found
        rw [← Option.some.inj occurs] at found
        exact (unlinked.2 attachment (attachment_of_purge unready.valid found)).2
  · exact undisturbed (congrArg (fun shared => shared.db.attachments) same)

end Records

/-! ## Runs -/

/-- **Attachments are backed by live uploads**: in every run an upload has one attachment, which
every call that materializes it returns; and in every run that leaves recorded deletions alone,
once the server has accepted a deletion the user asked for, no step links the upload's attachment
to a post. -/
theorem attachments_backed (tables : Tables) (clock : Int) :
    (∀ labels s, Trace Step (tables.system clock) labels s → OneAttachment tables s) ∧
      ∀ labels s, Trace (Guarded Step DeletionsRecorded) (tables.system clock) labels s →
        ∀ uploadId id, Accepted s.shared.requests ⟨.user, uploadId⟩ → Unlinked s.shared.db uploadId id →
          ∀ label t, Guarded Step DeletionsRecorded s label t →
            ∀ attachment, t.shared.db.attachment id = some attachment → attachment.postId = none := by
  constructor
  · intro labels s run
    have attaching : Attaching tables s := run.keeps (P := Attaching tables)
      (fun _ _ _ step attaching => attaching.step step) (attaching_initial tables clock)
    exact attaching.oneAttachment
  · intro labels s run uploadId id accepted unlinked label t step
    have unready : Unready s := run.keeps (P := Unready)
      (fun _ _ _ step unready => unready.step step.1 step.2) (unready_initial tables clock)
    exact unlinked_kept unready step.1 step.2 accepted unlinked

/-! ## Played runs -/

/-- The sample's owner deletes it, and the server accepts. -/
def deleteSample : List (Command Call Event) :=
  [.start (.delete 7 "free" sampleUpload), .run 0 2, .happen (.processed 0 true), .run 0 2]

/-- The owner's new post names the sample's attachment. -/
def saveSample : Call := .save ⟨"free", some 7, 0, [5], .saved 11⟩

/-- Thread 0 is a delete action that has recorded the deletion of the sample. -/
def isRecorded (s : System) : Bool :=
  match s.call 0 with
  | some (.delete _ _ upload) => upload == sampleUpload && (s.past 0).any fun exchange =>
      match exchange with
      | ⟨.db (.markState named state), .ok _⟩ => named == sampleUpload && state == "deletion_pending"
      | _ => false
  | _ => false

theorem recorded_of_sample {s : System} (recorded : isRecorded s = true) : Recorded s sampleUpload := by
  have lower : strtolower sampleUpload = sampleUpload := by decide +kernel
  unfold isRecorded at recorded
  split at recorded
  · rename_i userId slug upload called
    rw [Bool.and_eq_true, beq_iff_eq] at recorded
    obtain ⟨rfl, heard⟩ := recorded
    obtain ⟨exchange, member, matched⟩ := List.any_eq_true.1 heard
    split at matched
    · rw [Bool.and_eq_true, beq_iff_eq, beq_iff_eq] at matched
      obtain ⟨rfl, rfl⟩ := matched
      exact ⟨0, userId, slug, sampleUpload, called, lower, member⟩
    · cases matched
  · cases recorded

/-- A step that writes no `ready`, and saves a post only when the sample's deletion is recorded. -/
def recordsKept (s : System) : Happening → Bool
  | .asked _ ⟨.db (.markState _ state), _⟩ => String.ofList (state.toList.take 32) != "ready"
  | .asked _ ⟨.db (.materializeAttachment _ _ _ _), _⟩ | .asked _ ⟨.db (.failClaim _ _), _⟩ => false
  | .asked _ ⟨.db (.linkSave _), _⟩ => isRecorded s &&
      s.shared.requests.all fun request => request.content.uploadId == sampleUpload
  | _ => true

theorem recorded_of_kept {s : System} {label : Happening} (kept : recordsKept s label = true) :
    DeletionsRecorded s label where
  stays := by
    rintro i op answer uploadId rfl - writes
    cases op with
    | markState upload state =>
        have other : (String.ofList (state.toList.take 32) != "ready") = true := kept
        rw [writes.2] at other
        cases other
    | materializeAttachment => cases kept
    | failClaim => cases kept
    | _ => exact writes.elim
  saves := by
    rintro i save answer uploadId id rfl ⟨request, member, same, -⟩ - -
    have both : (isRecorded s && s.shared.requests.all fun request =>
      request.content.uploadId == sampleUpload) = true := kept
    obtain ⟨recorded, all⟩ := Bool.and_eq_true_iff.1 both
    have named := eq_of_beq (List.all_eq_true.1 all request member)
    rw [same] at named
    rw [show uploadId = sampleUpload from named]
    exact recorded_of_sample recorded

/-- The user's deletion of the sample is accepted, and its attachment is of no post. -/
def deletedSample (s : System) : Bool :=
  (s.shared.requests.any fun request =>
    request.content == ⟨.user, sampleUpload⟩ && request.fate == .accepted) &&
  (s.shared.db.session sampleUpload).any (fun row => row.attachmentId == some 5) &&
  (s.shared.db.attachment 5).any fun attachment =>
    attachment.disk == "g7mediabooster" && attachment.postId.isNone

theorem deleted_of_sample {s : System} (deleted : deletedSample s = true) :
    Accepted s.shared.requests ⟨.user, sampleUpload⟩ ∧ Unlinked s.shared.db sampleUpload 5 := by
  unfold deletedSample at deleted
  rw [Bool.and_eq_true, Bool.and_eq_true] at deleted
  obtain ⟨⟨asked, known⟩, free⟩ := deleted
  obtain ⟨request, member, both⟩ := List.any_eq_true.1 asked
  rw [Bool.and_eq_true, beq_iff_eq, beq_iff_eq] at both
  obtain ⟨row, found, its⟩ := (Option.any_eq_true _ _).1 known
  obtain ⟨attachment, there, media⟩ := (Option.any_eq_true _ _).1 free
  rw [Bool.and_eq_true, beq_iff_eq, Option.isNone_iff_eq_none] at media
  refine ⟨⟨request, member, both.1, both.2⟩, ⟨row, found, eq_of_beq its⟩, fun other same => ?_⟩
  rw [there] at same
  rw [← Option.some.inj same]
  exact media

/-- A save after a recorded deletion: the attachment stays of no post. -/
theorem attachments_backed_sample : ∃ labels s label t,
    Trace (Guarded Step DeletionsRecorded) ((sampleTables false).system 0) labels s ∧
      Step s label t ∧ ∃ attachment, t.shared.db.attachment 5 = some attachment ∧
        attachment.postId = none := by
  have played : ((Script.mk [noContent] .unreachable).responder.performAll recordsKept
      (deleteSample ++ [.start saveSample]) ⟨(sampleTables false).system 0, []⟩).any (fun stage =>
        deletedSample stage.state && ((Script.mk [noContent] .unreachable).responder.exchange
          recordsKept 1 stage).any fun next => (next.state.shared.db.attachment 5).isSome) = true := by
    decide +kernel
  obtain ⟨labels, s, label, t, run, deleted, step, kept, there⟩ :=
    Script.rehearsed_step (sampleTables false) deletedSample
      (fun t => (t.shared.db.attachment 5).isSome) played
  have guarded : Trace (Guarded Step DeletionsRecorded) ((sampleTables false).system 0) labels s :=
    run.mono fun _ _ _ step => ⟨step.1, recorded_of_kept step.2⟩
  obtain ⟨accepted, unlinked⟩ := deleted_of_sample deleted
  obtain ⟨attachment, found⟩ := Option.isSome_iff_exists.1 there
  exact ⟨labels, s, label, t, guarded, step, attachment, found,
    (attachments_backed (sampleTables false) 0).2 labels s guarded sampleUpload 5 accepted unlinked label t
      ⟨step, recorded_of_kept kept⟩ attachment found⟩

/-- What the server says of an upload whose deletion it has accepted, until the cleanup. -/
def pendingStatus : Reply :=
  .response ⟨200, false, .map [("upload_id", .text sampleUpload), ("state", .text "ready"),
    ("deletion_pending", .bool true)]⟩

/-- The owner deletes the upload, and the deletion is recorded; a poll of its status writes `ready`
over it, and a new post is given the attachment. -/
theorem poll_revives_deleted : ∃ labels s label t,
    Trace Step ((sampleTables false).system 0) labels s ∧ Recorded s sampleUpload ∧
      Accepted s.shared.requests ⟨.user, sampleUpload⟩ ∧ Unlinked s.shared.db sampleUpload 5 ∧
      Step s label t ∧ ∃ attachment, t.shared.db.attachment 5 = some attachment ∧
        attachment.postId = some 11 := by
  have played : ((Script.mk [noContent] pendingStatus).responder.performAll (fun _ _ => true)
      (deleteSample ++ [.start (.status 7 "free" sampleUpload), .run 1 3, .start saveSample])
      ⟨(sampleTables false).system 0, []⟩).any (fun stage =>
        (isRecorded stage.state && deletedSample stage.state) &&
        ((Script.mk [noContent] pendingStatus).responder.exchange (fun _ _ => true) 2 stage).any
          fun next => (next.state.shared.db.attachment 5).any fun attachment =>
            attachment.postId == some 11) = true := by
    decide +kernel
  obtain ⟨labels, s, label, t, run, both, step, -, linked⟩ :=
    Script.rehearsed_step (sampleTables false) (fun s => isRecorded s && deletedSample s)
      (fun t => (t.shared.db.attachment 5).any fun attachment => attachment.postId == some 11) played
  obtain ⟨recorded, deleted⟩ := Bool.and_eq_true_iff.1 both
  obtain ⟨accepted, unlinked⟩ := deleted_of_sample deleted
  obtain ⟨attachment, found, post⟩ := (Option.any_eq_true _ _).1 linked
  exact ⟨labels, s, label, t, run.unguarded, recorded_of_sample recorded, accepted, unlinked, step,
    attachment, found, eq_of_beq post⟩

end MediaBooster.Gnuboard7
