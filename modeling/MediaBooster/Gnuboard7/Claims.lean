/-
# Gnuboard7.Claims -- claims of scheduled deletions

A claim is taken in one transaction, begun in another and cancelled in a third, and carries no
token; a restore clears a session before the host takes the attachment back, and clears it again
from a list it has read before.  A schedule that is stored in between is an older claim's to
cancel, or an older restore's to clear (`InProgress`); and a restore that is broken off has
cleared a schedule of a post that stays deleted.  `ClaimsApart` says when none of it happens.

`Claiming` is what holds across the transactions then: a claimed session keeps its attachment; a
claim that may still be cancelled has its lease for as long as there is a schedule; and a claim
that is about to ask for a deletion stands at a marked session of an attachment that is not live.
-/
import MediaBooster.Gnuboard7.Retention

namespace MediaBooster.Gnuboard7

set_option autoImplicit false

open MediaBooster.Domain
open MediaBooster.Theory.Threads
open MediaBooster.Theory.Requests
open MediaBooster.Theory.Run
open MediaBooster.Theory.Table

/-! ## Schedules -/

/-- The attachment of the upload's session is deleted. -/
structure Deleted (db : Database) (uploadId : String) (row : SessionRow) (id : Int) : Prop where
  found : db.session uploadId = some row
  its : row.attachmentId = some id
  gone : ∃ attachment, db.attachment id = some attachment ∧ attachment.deletedAt.isSome = true

/-- The attachment of the upload is deleted, and the deletion of its media is scheduled. -/
def Outstanding (db : Database) (uploadId : String) : Prop :=
  ∃ row id, Deleted db uploadId row id ∧ row.retentionDeleteAfter.isSome = true

/-- No attachment of this id is live. -/
def NotLive (db : Database) (id : Int) : Prop :=
  ∀ attachment, db.attachment id = some attachment → attachment.deletedAt.isSome = true

/-- The step stores a schedule of the upload. -/
def Stores (s : System) (uploadId : String) : Happening → Prop
  | .asked _ ⟨.db (.scheduleIds ids slug _ _), .ok _⟩ =>
      ∃ row, s.shared.db.session uploadId = some row ∧ row.isOf ids slug = true ∧
        row.unmarked = true
  | _ => False

/-- A run of the command has claimed the upload, and may still come to cancel the claim. -/
def Pending (s : System) (i : Nat) (uploadId : String) : Prop :=
  (∃ attachmentId, Claimed (s.past i) attachmentId uploadId) ∧
    s.May machine i (.db (.cancelClaim uploadId))

/-- An older claim of the upload is pending, or a restore is about to clear its session. -/
def InProgress (s : System) (uploadId : String) : Prop :=
  (∃ i, Pending s i uploadId) ∨ ∃ i ids slug row,
    s.Next machine i (.db (.cancelRestored ids slug)) ∧
      s.shared.db.session uploadId = some row ∧ row.isOf ids slug = true

/-- The host is about to take the attachment back. -/
def Restoring (s : System) (id : Int) : Prop :=
  ∃ i restored, s.Next machine i (.db (.undelete restored)) ∧ id ∈ restored

/-- Claims and restores do not meet at one session, and no restore is broken off that has cleared
a schedule. -/
structure ClaimsApart (s : System) (label : Happening) : Prop where
  stores : ∀ uploadId, Stores s uploadId label → ¬ InProgress s uploadId
  prepares : ∀ i ids slug answer uploadId row id,
    label = .asked i ⟨.db (.prepareRestore ids slug), answer⟩ →
    Deleted s.shared.db uploadId row id → row.retentionDeleteAfter.isSome = true →
    row.isOf ids slug = true →
    ∃ postId board restored, s.call i = some (.restorePost postId board restored) ∧ id ∈ restored
  restores : ∀ i restored uploadId row id, s.Next machine i (.db (.undelete restored)) →
    id ∈ restored → Deleted s.shared.db uploadId row id → row.retentionDeleteAfter = none →
    label ≠ .crashed i ∧ ∀ thrown, label ≠ .asked i ⟨.db (.undelete restored), .error thrown⟩
  undeletes : ∀ i ids answer, label = .asked i ⟨.db (.undelete ids), answer⟩ →
    ∀ uploadId row id, s.shared.db.session uploadId = some row → row.attachmentId = some id →
      id ∈ ids → row.unmarked = true
  erases : ∀ i op answer uploadId, label = .asked i ⟨.db op, answer⟩ →
    Erases s.shared.db uploadId op → Requested s.shared.db uploadId ∨
      ∀ j attachmentId upload, Begun (s.past j) attachmentId upload → strtolower upload ≠ uploadId

section Statements

variable {now : Int} {db : Database} {uploadId : String}

theorem dueRows_subset {limit : Nat} {row : SessionRow} (member : row ∈ dueRows limit now db) :
    row ∈ db.sessions := by
  have sorted := List.mem_of_mem_take member
  exact (List.mem_filter.1 (List.mem_mergeSort.1 sorted)).1

/-- A claim is begun to be deleted only if the attachment is not live. -/
theorem notLive_of_begun {attachmentId : Int} {upload : String}
    (begun : (beginClaim attachmentId upload now db).1 = .delete) : NotLive db attachmentId := by
  intro attachment found
  unfold beginClaim at begun
  cases stored : db.session (strtolower upload) with
  | none =>
      rw [stored] at begun
      cases begun
  | some row =>
      rw [stored, found] at begun
      dsimp only at begun
      split at begun
      · cases begun
      cases gone : attachment.deletedAt with
      | some _ => rfl
      | none =>
          unfold evaluate at begun
          dsimp only at begun
          rw [gone] at begun
          split at begun
          · cases begun
          · cases begun
          · rename_i decided
            split at decided
            · cases decided
            · cases decided

/-- A claim that is cancelled in its transaction has found the attachment live. -/
theorem live_of_cancel {attachmentId : Int} {upload : String}
    (decided : evaluate (db.attachment attachmentId) upload = .cancel) :
    ∃ attachment, db.attachment attachmentId = some attachment ∧ attachment.deletedAt = none := by
  cases found : db.attachment attachmentId with
  | none =>
      rw [found] at decided
      cases decided
  | some attachment =>
      rw [found] at decided
      unfold evaluate at decided
      dsimp only at decided
      refine ⟨attachment, rfl, ?_⟩
      split at decided
      · cases decided
      split at decided
      · rename_i live
        exact Option.isNone_iff_eq_none.1 live
      · cases decided

/-- Attachments that are not live stay so, unless they are taken back. -/
theorem NotLive.kept {id : Int} (op : Op) (notLive : NotLive db id) (old : id < db.nextAttachmentId)
    (stays : ∀ ids, op = .undelete ids → id ∉ ids) : NotLive (op.run now db).2 id := by
  intro attachment found
  obtain ⟨before, there⟩ | new := op.attachment_before now found
  · obtain ⟨after, found', same | ⟨ids, call, member⟩⟩ := op.attachment_kept now there
    · rw [found] at found'
      rw [Option.some.inj found', same]
      exact notLive before there
    · exact absurd member (stays ids call)
  · omega

theorem NotLive.trashed {id : Int} {ids : List Int} {triggerType : String} (notLive : NotLive db id) :
    NotLive (trash ids triggerType now db) id := by
  intro attachment found
  rw [attachment_trash] at found
  obtain ⟨before, there, rfl⟩ := Option.map_eq_some_iff.1 found
  split
  · rfl
  · exact notLive before there

end Statements

/-! ## Leases -/

/-- A session that has a schedule is leased, or its attempts are used up. -/
def SessionRow.Leased (row : SessionRow) : Prop :=
  row.retentionDeleteAfter.isSome = true →
    row.retentionLeaseUntil.isSome = true ∨ maxAttempts ≤ row.retentionAttempts

section Leases

variable {now : Int} {db : Database} {op : Op} {row row' : SessionRow}

/-- A lease is lost with the schedule, or for another schedule. -/
theorem Moved.leased (moved : Moved now db op row row') (leased : row.Leased)
    (stays : ∀ ids slug reason days, op = .scheduleIds ids slug reason days →
      row.isOf ids slug = true → row.unmarked = false) : row'.Leased := by
  cases moved with
  | kept => exact leased
  | scheduled named unmarked =>
      rw [stays _ _ _ _ rfl named] at unmarked
      cases unmarked
  | restored | prepared | cancelled | cancelClaim | completed =>
      intro scheduled
      cases scheduled
  | claimed => exact fun _ => .inl rfl
  | blocked => exact fun _ => .inr (Int.le_refl _)
  | begun => exact leased
  | @failed upload failure _ named =>
      intro _
      cases permanent : failure.permanent with
      | true =>
          right
          simp [SessionRow.failed, permanent]
      | false =>
          left
          simp [SessionRow.failed, permanent]
  | materialized => exact leased
  | marked => exact leased

/-- A session without a schedule gets one by `scheduleIds` only. -/
theorem Moved.unscheduled (moved : Moved now db op row row') (none : row.retentionDeleteAfter = none)
    (stays : ∀ ids slug reason days, op = .scheduleIds ids slug reason days →
      row.isOf ids slug = true → row.unmarked = false) : row'.retentionDeleteAfter = Option.none := by
  cases moved with
  | scheduled named unmarked =>
      rw [stays _ _ _ _ rfl named] at unmarked
      cases unmarked
  | restored | prepared | cancelled | cancelClaim | completed => rfl
  | _ => exact none

/-- A request is recorded by `completeClaim` only. -/
theorem Moved.unrequested (moved : Moved now db op row row') (none : row.deletionRequestedAt = none)
    (stays : ∀ upload, op = .completeClaim upload → row.uploadId ≠ strtolower upload) :
    row'.deletionRequestedAt = Option.none := by
  cases moved with
  | completed named => exact absurd named (stays _ rfl)
  | _ => exact none

/-- A row that was claimed is leased. -/
theorem session_claimDue {limit : Nat} (valid : db.Valid) (taken : row ∈ (claimDue limit now db).1) :
    (claimDue limit now db).2.session row.uploadId = some (row.claimed now) := by
  have member := dueRows_subset taken
  have due : row.isDue now = true :=
    (List.mem_filter.1 (List.mem_mergeSort.1 (List.mem_of_mem_take taken))).2
  have found := valid.session member
  have fresh : row.deletionRequestedAt.isNone = true := by
    unfold SessionRow.isDue at due
    simp only [Bool.and_eq_true] at due
    exact due.1.1.2
  have keeps : ∀ row, (SessionRow.claimed now row).uploadId = row.uploadId := fun _ => rfl
  refine (session_updateWhere keeps).trans ?_
  rw [found, Option.map_some, if_pos]
  rw [fresh, Bool.and_true]
  exact List.any_eq_true.2 ⟨row, taken, beq_self_eq_true _⟩

end Leases

/-! ## The invariant -/

/-- What holds of the claims that were taken. -/
structure Claiming (s : System) : Prop where
  valid : s.shared.db.Valid
  claimed : ∀ i attachmentId upload, Claimed (s.past i) attachmentId upload →
    ∃ row, s.shared.db.session upload = some row ∧ row.attachmentId = some attachmentId
  leased : ∀ i uploadId row, Pending s i uploadId → s.shared.db.session uploadId = some row →
    row.Leased
  begun : ∀ i attachmentId upload, Begun (s.past i) attachmentId upload →
    ∃ row, s.shared.db.session (strtolower upload) = some row ∧ row.unmarked = false ∧
      row.attachmentId = some attachmentId ∧ NotLive s.shared.db attachmentId

theorem not_claimed_nil {attachmentId : Int} {upload : String} : ¬ Claimed [] attachmentId upload := by
  rintro ⟨limit, rows, heard, -⟩
  cases heard

theorem claiming_initial (tables : Tables) (clock : Int) : Claiming (tables.system clock) where
  valid := tables.valid
  claimed := fun _ _ _ claimed => absurd claimed not_claimed_nil
  leased := fun _ _ _ pending => absurd pending.1.choose_spec not_claimed_nil
  begun := by
    rintro i attachmentId upload ⟨before, same⟩
    cases before <;> cases same

section Steps

variable {s t : System} {label : Happening} {i : Nat} {uploadId : String}

/-- A claim was taken before, or has just been taken. -/
theorem claimed_cases (step : Step s label t) {attachmentId : Int} {upload : String}
    (claimed : Claimed (t.past i) attachmentId upload) : Claimed (s.past i) attachmentId upload ∨
      ∃ limit rows, label = .asked i ⟨.db (.claimDue limit), .ok rows⟩ ∧
        ∃ row ∈ rows, row.uploadId = upload ∧ row.attachmentId = some attachmentId := by
  obtain ⟨limit, rows, heard, rest⟩ := claimed
  obtain old | new := step.heard_cases heard
  · exact .inl ⟨limit, rows, old, rest⟩
  · exact .inr ⟨limit, rows, new, rest⟩

/-- A claim that may be cancelled might be before, or has just been taken. -/
theorem pending_cases (step : Step s label t) (pending : Pending t i uploadId) :
    Pending s i uploadId ∨ ∃ limit rows, label = .asked i ⟨.db (.claimDue limit), .ok rows⟩ ∧
      ∃ row ∈ rows, row.uploadId = uploadId := by
  obtain ⟨⟨attachmentId, claimed⟩, may⟩ := pending
  obtain old | ⟨limit, rows, same, row, member, named, -⟩ := claimed_cases step claimed
  · obtain might | fresh := step.may_cases may
    · exact .inl ⟨⟨attachmentId, old⟩, might⟩
    · rw [fresh] at claimed
      exact absurd claimed not_claimed_nil
  · exact .inr ⟨limit, rows, same, row, member, named⟩

/-- What a run of the command is about to cancel is a pending claim of its own. -/
theorem Claiming.pending_of_next (claiming : Claiming s)
    (next : s.Next machine i (.db (.cancelClaim uploadId))) : Pending s i uploadId := by
  obtain ⟨attachmentId, upload, claimed, -, lowered⟩ := next_rule next
  obtain ⟨row, found, -⟩ := claiming.claimed i attachmentId upload claimed
  have lower := claiming.valid.lower row (List.mem_of_find?_eq_some found)
  rw [uploadId_of_session found] at lower
  rw [← lower, ← lowered] at claimed
  exact ⟨⟨attachmentId, claimed⟩, next.may⟩

/-- Where claims and restores are apart, no schedule is stored of an upload in use. -/
theorem ClaimsApart.unstored {op : Op} {row : SessionRow}
    (apart : ClaimsApart s (carried s i op)) (found : s.shared.db.session uploadId = some row)
    (used : InProgress s uploadId) (ids : List Int) (slug reason : String) (days : Int)
    (same : op = .scheduleIds ids slug reason days) (named : row.isOf ids slug = true) :
    row.unmarked = false := by
  cases unmarked : row.unmarked with
  | false => rfl
  | true =>
      subst same
      exact absurd used (apart.stores uploadId ⟨row, found, named, unmarked⟩)

/-- What a step that leaves the sessions keeps of the invariant. -/
theorem Claiming.undisturbed (claiming : Claiming s) (step : Step s label t) (valid : t.shared.db.Valid)
    (sessions : t.shared.db.sessions = s.shared.db.sessions)
    (notLive : ∀ id, NotLive s.shared.db id → NotLive t.shared.db id)
    (quiet : ∀ i op output, label ≠ .asked i ⟨.db op, .ok output⟩) : Claiming t where
  valid := valid
  claimed := by
    intro i attachmentId upload claimed
    obtain old | ⟨limit, rows, same, -⟩ := claimed_cases step claimed
    · unfold Database.session
      rw [sessions]
      exact claiming.claimed i attachmentId upload old
    · exact absurd same (quiet _ _ _)
  leased := by
    intro i uploadId row pending found
    unfold Database.session at found
    rw [sessions] at found
    obtain old | ⟨limit, rows, same, -⟩ := pending_cases step pending
    · exact claiming.leased i uploadId row old found
    · exact absurd same (quiet _ _ _)
  begun := by
    intro i attachmentId upload begun
    obtain old | same := begun_cases step begun
    · obtain ⟨row, found, marked, its, gone⟩ := claiming.begun i attachmentId upload old
      unfold Database.session at found ⊢
      rw [sessions]
      exact ⟨row, found, marked, its, notLive _ gone⟩
    · exact absurd same (quiet _ _ _)

/-- What a step that leaves the database keeps of the invariant. -/
theorem Claiming.same (claiming : Claiming s) (step : Step s label t) (same : t.shared.db = s.shared.db)
    (quiet : ∀ i op output, label ≠ .asked i ⟨.db op, .ok output⟩) : Claiming t := by
  refine claiming.undisturbed step (step_valid step claiming.valid) (by rw [same]) ?_ quiet
  intro id gone
  rw [same]
  exact gone

/-- What a claim that has just been taken is answered. -/
theorem claimDue_of_carried {op : Op} {limit : Nat} {rows : List SessionRow} {j : Nat}
    (same : carried s i op = .asked j ⟨.db (.claimDue limit), .ok rows⟩) :
    op = .claimDue limit ∧ rows = (claimDue limit s.shared.clock s.shared.db).1 := by
  injection same with _ exchange
  injection exchange with asked answered
  injection asked with asked
  subst asked
  exact ⟨rfl, (Except.ok.inj (eq_of_heq answered)).symm⟩

/-- What a run of the command that is to delete knows. -/
theorem Claiming.begins (claiming : Claiming s) {attachmentId : Int} {upload : String}
    (claimed : Claimed (s.past i) attachmentId upload)
    (deletes : (beginClaim attachmentId upload s.shared.clock s.shared.db).1 = .delete) :
    ∃ row, (beginClaim attachmentId upload s.shared.clock s.shared.db).2.session
        (strtolower upload) = some row ∧ row.unmarked = false ∧
      row.attachmentId = some attachmentId ∧
      NotLive (beginClaim attachmentId upload s.shared.clock s.shared.db).2 attachmentId := by
  obtain ⟨row, found, its⟩ := claiming.claimed i attachmentId upload claimed
  have lower := claiming.valid.lower row (List.mem_of_find?_eq_some found)
  rw [uploadId_of_session found] at lower
  rw [← lower] at found
  obtain ⟨row', found', moved⟩ := session_moved (.beginClaim attachmentId upload) s.shared.clock found
  obtain ⟨row'', found'', marked⟩ := marked_of_begun deletes
  rw [show (beginClaim attachmentId upload s.shared.clock s.shared.db).2.session (strtolower upload) =
    some row' from found'] at found''
  obtain rfl := Option.some.inj found''
  refine ⟨row', found', marked, moved.attachmentId its, ?_⟩
  have known := claiming.valid.named row (List.mem_of_find?_eq_some found) attachmentId its
  exact (notLive_of_begun deletes).kept (.beginClaim attachmentId upload) known nofun

section Stated

variable {op : Op} {j : Nat} (claiming : Claiming s) (step : Step s (carried s i op) t)

include claiming step

/-- What is claimed after a statement. -/
theorem Claiming.claimed_stated {attachmentId : Int} {upload : String}
    (claimed : Claimed (t.past j) attachmentId upload) :
    ∃ row, (op.run s.shared.clock s.shared.db).2.session upload = some row ∧
      row.attachmentId = some attachmentId := by
  have before : ∃ row, s.shared.db.session upload = some row ∧ row.attachmentId = some attachmentId := by
    obtain old | ⟨limit, rows, new, row, member, named, its⟩ := claimed_cases step claimed
    · exact claiming.claimed j attachmentId upload old
    · obtain ⟨-, rfl⟩ := claimDue_of_carried new
      refine ⟨row, ?_, its⟩
      rw [← named]
      exact claiming.valid.session (dueRows_subset member)
  obtain ⟨row, found, its⟩ := before
  obtain ⟨row', found', moved⟩ := session_moved op s.shared.clock found
  exact ⟨row', found', moved.attachmentId its⟩

variable (apart : ClaimsApart s (carried s i op))

include apart

/-- What may still be begun after a statement is leased. -/
theorem Claiming.leased_stated {row' : SessionRow} (pending : Pending t j uploadId)
    (found' : (op.run s.shared.clock s.shared.db).2.session uploadId = some row') : row'.Leased := by
  obtain old | ⟨limit, rows, new, row, member, rfl⟩ := pending_cases step pending
  · obtain ⟨attachmentId, claimed⟩ := old.1
    obtain ⟨row, found, -⟩ := claiming.claimed j attachmentId uploadId claimed
    obtain ⟨after, there, moved⟩ := session_moved op s.shared.clock found
    rw [there] at found'
    obtain rfl := Option.some.inj found'
    exact moved.leased (claiming.leased j uploadId row old found) (apart.unstored found (.inl ⟨j, old⟩))
  · obtain ⟨rfl, rfl⟩ := claimDue_of_carried new
    rw [show ((Op.claimDue limit).run s.shared.clock s.shared.db).2.session row.uploadId =
      some (row.claimed s.shared.clock) from session_claimDue claiming.valid member] at found'
    obtain rfl := Option.some.inj found'
    exact fun _ => .inl rfl

/-- What has begun before a statement is marked after it. -/
theorem Claiming.begun_kept {attachmentId : Int} {upload : String}
    (begun : Begun (s.past j) attachmentId upload) :
    ∃ row, (op.run s.shared.clock s.shared.db).2.session (strtolower upload) = some row ∧
      row.unmarked = false ∧ row.attachmentId = some attachmentId ∧
      NotLive (op.run s.shared.clock s.shared.db).2 attachmentId := by
  obtain ⟨row, found, marked, its, gone⟩ := claiming.begun j attachmentId upload begun
  obtain ⟨row', found', moved⟩ := session_moved op s.shared.clock found
  obtain ⟨row'', found'', marked'⟩ := @Marked.kept s.shared.clock _ op _
    ⟨row, found, marked⟩ fun erases =>
      (apart.erases i op _ _ rfl erases).resolve_right fun none => none j attachmentId upload begun rfl
  rw [found'] at found''
  obtain rfl := Option.some.inj found''
  refine ⟨row', found', marked', moved.attachmentId its, ?_⟩
  have known := claiming.valid.named row (List.mem_of_find?_eq_some found) attachmentId its
  refine gone.kept op known fun ids call member => ?_
  subst call
  have unmarked := apart.undeletes i ids _ rfl _ row attachmentId found its member
  rw [marked] at unmarked
  cases unmarked

end Stated

/-- What a statement keeps of the invariant. -/
theorem Claiming.stated (claiming : Claiming s) {op : Op} (step : Step s (carried s i op) t)
    (apart : ClaimsApart s (carried s i op))
    (same : t.shared = { s.shared with db := (op.run s.shared.clock s.shared.db).2 }) : Claiming t where
  valid := step_valid step claiming.valid
  claimed := by
    intro j attachmentId upload claimed
    rw [same]
    exact claiming.claimed_stated step claimed
  leased := by
    intro j uploadId row' pending found'
    rw [same] at found'
    exact claiming.leased_stated step apart pending found'
  begun := by
    intro j attachmentId upload begun
    rw [same]
    obtain old | new := begun_cases step begun
    · exact claiming.begun_kept step apart old
    · have rule : Rule (s.past i) (.db op) := step_rule step
      injection new with mine exchange
      injection exchange with asked answered
      injection asked with asked
      subst asked
      exact claiming.begins rule (Except.ok.inj (eq_of_heq answered))

/-- **Every step that keeps claims apart keeps the invariant.** -/
theorem Claiming.step (claiming : Claiming s) (step : Step s label t) (apart : ClaimsApart s label) :
    Claiming t := by
  have valid := step_valid step claiming.valid
  obtain ⟨i, op, rfl, same⟩ | ⟨i, origin, uploadId, rfl, same⟩ | ⟨event, rfl, occurs⟩ | ⟨same, quiet⟩ :=
    step_cases step
  · exact claiming.stated step apart same
  · exact claiming.same step (by rw [same]) fun _ _ _ => send_ne_db _ _
  · have quiet : ∀ i op output, (.moved event : Happening) ≠ .asked i ⟨.db op, .ok output⟩ := by simp
    cases event with
    | processed ticket accepts =>
        obtain ⟨requests, -, same⟩ := Option.map_eq_some_iff.1 occurs
        exact claiming.same step (congrArg Shared.db same).symm quiet
    | clock now => exact claiming.same step (congrArg Shared.db (Option.some.inj occurs)).symm quiet
    | trashed ids triggerType =>
        have same := congrArg Shared.db (Option.some.inj occurs)
        refine claiming.undisturbed step valid (congrArg Database.sessions same).symm (fun id gone => ?_) quiet
        rw [← same]
        exact gone.trashed
    | purged ids =>
        have same := congrArg Shared.db (Option.some.inj occurs)
        refine claiming.undisturbed step valid (congrArg Database.sessions same).symm (fun id gone => ?_) quiet
        rw [← same]
        exact fun attachment found => gone attachment (attachment_of_purge claiming.valid found)
  · exact claiming.same step (congrArg Shared.db same) quiet

end Steps

end MediaBooster.Gnuboard7
