/-
# Gnuboard7.Schedules -- a scheduled deletion is not lost

Once a schedule is stored of an upload whose attachment is deleted, the session keeps it until the
host takes the attachment back or removes it, the remote deletion is recorded, or the attempts are
used up; only while a restore stands between `preparePostRestore` and the host's own part is the
schedule gone and the attachment still deleted (`Remembered`).  No run of the command cancels it
for an older claim, and the command asks for no deletion of an attachment that is live.

`Held` carries this from step to step where claims and restores are apart (`ClaimsApart`).  Where
they are not, the schedule is lost: `cancelClaim_loses_schedule`.
-/
import MediaBooster.Gnuboard7.Claims

namespace MediaBooster.Gnuboard7

set_option autoImplicit false

open MediaBooster.Domain
open MediaBooster.Theory.Threads
open MediaBooster.Theory.Requests
open MediaBooster.Theory.Run
open MediaBooster.Theory.Table

/-- What ends a schedule: its attempts are used up, the attachment is taken back or removed, or
the remote deletion is recorded. -/
def Ends (s : System) (uploadId : String) (label : Happening) : Prop :=
  (∃ row, s.shared.db.session uploadId = some row ∧ maxAttempts ≤ row.retentionAttempts) ∨
    match label with
    | .asked _ ⟨.db (.undelete ids), .ok _⟩ | .moved (.purged ids) =>
        ∃ row id, s.shared.db.session uploadId = some row ∧ row.attachmentId = some id ∧ id ∈ ids
    | .asked _ ⟨.db (.completeClaim upload), .ok _⟩ => strtolower upload = uploadId
    | _ => False

/-- The deletion of the media is scheduled, or the host is about to take the attachment back. -/
def Remembered (s : System) (uploadId : String) : Prop :=
  ∃ row id, Deleted s.shared.db uploadId row id ∧
    (row.retentionDeleteAfter.isSome = true ∨ Restoring s id)

/-! ## Restores -/

theorem prepareRestore_cases {now : Int} {db : Database} {ids : List Int} {slug : String} :
    prepareRestore ids slug now db = (.ok (), clearUnmarked ids slug now db) ∨
      prepareRestore ids slug now db =
        (.error (.runtime "G7_MEDIA_RETENTION_ALREADY_STARTED"), db) := by
  unfold prepareRestore
  split
  · exact .inr rfl
  · exact .inl rfl

/-- The sessions of a restore have just been cleared. -/
def Prepared (past : History) : Prop :=
  ∃ before ids slug, past = before ++ [⟨.db (.prepareRestore ids slug), .ok ()⟩]

/-- Once the sessions are cleared, the host takes the attachments back. -/
def TakesBack (restored : List Int) (past : History) (ask : Ask) : Prop :=
  Prepared past → ask = .db (.undelete restored)

theorem prepared_append {past : History} {exchange : Exchange Answer} :
    Prepared (past ++ [exchange]) ↔
      ∃ ids slug, exchange = ⟨.db (.prepareRestore ids slug), .ok ()⟩ := by
  constructor
  · rintro ⟨before, ids, slug, same⟩
    exact ⟨ids, slug, List.singleton_inj.1 (List.append_inj' same rfl).2⟩
  · rintro ⟨ids, slug, rfl⟩
    exact ⟨past, ids, slug, rfl⟩

/-- What is heard of another statement does not clear the sessions. -/
theorem not_prepared {past : History} {op : Op} (answer : Answer (.db op))
    (other : ∀ ids slug, op ≠ .prepareRestore ids slug) : ¬ Prepared (past ++ [⟨.db op, answer⟩]) := by
  rw [prepared_append]
  rintro ⟨ids, slug, same⟩
  injection same with asked
  injection asked with asked
  exact other ids slug asked

section TakesBack

variable {postId : Int} {slug : String} {restored : List Int} {past : History}

theorem takesBack_cancelRestoredPost (idle : ¬ Prepared past) :
    (cancelRestoredPost postId slug).Follows (TakesBack restored) (fun past _ => ¬ Prepared past)
      past := by
  unfold cancelRestoredPost
  split
  · exact idle
  refine follows_statement (fun prepared => absurd prepared idle)
    (fun _ => not_prepared _ nofun) fun ids => ?_
  split
  · exact not_prepared _ nofun
  · refine ⟨fun prepared => absurd prepared (not_prepared _ nofun), fun answer => ?_⟩
    exact not_prepared answer nofun

theorem takesBack_preparePostRestore :
    (preparePostRestore postId slug).Follows (TakesBack restored)
      (fun past outcome => outcome.isOk = false → ¬ Prepared past) [] := by
  have idle : ¬ Prepared [] := by
    rintro ⟨before, ids, slug, same⟩
    cases before <;> cases same
  unfold preparePostRestore
  split
  · exact fun _ => idle
  refine follows_statement (fun prepared => absurd prepared idle)
    (fun _ _ => not_prepared _ nofun) fun ids => ?_
  split
  · exact fun _ => not_prepared _ nofun
  · refine ⟨fun prepared => absurd prepared (not_prepared _ nofun), fun answer failed => ?_⟩
    rw [prepared_append]
    rintro ⟨ids, slug, same⟩
    cases same
    cases failed

/-- A restore that has cleared its sessions goes on with the host's own part. -/
theorem takesBack_restorePost :
    (restorePost postId slug restored).Follows (TakesBack restored) (fun past _ => ¬ Prepared past)
      [] := by
  refine Attempt.follows_bind takesBack_preparePostRestore (fun past _ _ => ?_)
    (fun past thrown fails => fails rfl)
  refine follows_statement (fun _ => rfl) (fun _ => not_prepared _ nofun) fun _ => ?_
  exact takesBack_cancelRestoredPost (not_prepared _ nofun)

/-- Once the sessions are cleared, the host is about to take the attachments back. -/
theorem next_of_prepared {s t : System} {i : Nat} {ids : List Int} {board : String}
    (called : s.call i = some (.restorePost postId slug restored))
    (step : Step s (.asked i ⟨.db (.prepareRestore ids board), .ok ()⟩) t) :
    t.Next machine i (.db (.undelete restored)) := by
  cases step with
  | @asked _ thread request next answer shared there alive stands answered =>
      obtain ⟨thread', there', same⟩ := Option.map_eq_some_iff.1 called
      rw [there] at there'
      cases there'
      obtain ⟨before, heard, same'⟩ := (same ▸ stands.heard (Except.ok ())).of_discard
      have prepared : Prepared (thread.past ++ [⟨.db (.prepareRestore ids board), .ok ()⟩]) :=
        ⟨thread.past, ids, board, rfl⟩
      have follows := Theory.Threads.Follows.at takesBack_restorePost heard
      cases before with
      | done => exact absurd prepared follows
      | ask request following =>
          obtain rfl := follows.1 prepared
          have stood := stands.heard (Except.ok ())
          rw [same'] at stood
          exact ⟨_, fun answer => (following answer).discard, State.answered_threads_self there, alive,
            stood⟩

end TakesBack

/-! ## The invariant of a schedule -/

/-- The schedule is held: no claim is about to be cancelled over it, and no restore is about to
clear it. -/
structure Held (s : System) (uploadId : String) (row : SessionRow) (id : Int) : Prop
    extends Deleted s.shared.db uploadId row id where
  unrequested : row.deletionRequestedAt = none
  cancels : ∀ i, s.Next machine i (.db (.cancelClaim uploadId)) → row.retentionDeleteAfter = none
  passes : ∀ i ids slug, s.Next machine i (.db (.cancelRestored ids slug)) → row.isOf ids slug = false
  remembered : row.retentionDeleteAfter.isSome = true ∨ Restoring s id

section Steps

variable {s t : System} {label : Happening} {i : Nat} {uploadId : String}
variable {row row' : SessionRow} {id : Int}

theorem isOf_congr (board : row'.boardSlug = row.boardSlug) (its : row'.attachmentId = row.attachmentId)
    (ids : List Int) (slug : String) : row'.isOf ids slug = row.isOf ids slug := by
  unfold SessionRow.isOf
  rw [board, its]

/-- What a run of the command is about to cancel after a step, it was about to cancel before it,
or it has just been told to. -/
theorem cancel_cases (step : Step s label t)
    (next : t.Next machine i (.db (.cancelClaim uploadId))) :
    s.Next machine i (.db (.cancelClaim uploadId)) ∨
      s.May machine i (.db (.cancelClaim uploadId)) ∧ ∃ attachmentId upload,
        label = .asked i ⟨.db (.beginClaim attachmentId upload), .ok .cancel⟩ ∧
          uploadId = strtolower upload := by
  obtain ⟨attachmentId, upload, -, ⟨before, heard⟩, lowered⟩ := next_rule next
  have begun : t.past i ≠ [] := by
    rw [heard]
    simp
  obtain old | ⟨exchange, rfl⟩ | fresh := step.next_cases next
  · exact .inl old
  · refine .inr ⟨(step.may_cases next.may).resolve_right begun, attachmentId, upload, ?_, lowered⟩
    rw [step.past, Label.heard, if_pos rfl] at heard
    rw [List.singleton_inj.1 (List.append_inj' heard rfl).2]
  · exact absurd fresh begun

/-- What a restore is about to clear after a step, it was about to clear before it, or it has just
read. -/
theorem restored_cases (step : Step s label t) {ids : List Int} {slug : String}
    (next : t.Next machine i (.db (.cancelRestored ids slug))) :
    s.Next machine i (.db (.cancelRestored ids slug)) ∨
      ∃ postId, label = .asked i ⟨.db (.restoredAttachments postId), .ok ids⟩ := by
  obtain ⟨before, postId, heard⟩ := next_rule next
  obtain old | ⟨exchange, rfl⟩ | fresh := step.next_cases next
  · exact .inl old
  · rw [step.past, Label.heard, if_pos rfl] at heard
    rw [List.singleton_inj.1 (List.append_inj' heard rfl).2]
    exact .inr ⟨postId, rfl⟩
  · rw [fresh] at heard
    cases before <;> cases heard

/-- What a schedule needs of a step, to be held after it. -/
theorem held_of_step (step : Step s label t) (deleted : Deleted t.shared.db uploadId row' id)
    (unrequested : row'.deletionRequestedAt = none)
    (cancels : ∀ i, s.Next machine i (.db (.cancelClaim uploadId)) → row'.retentionDeleteAfter = none)
    (told : ∀ i attachmentId upload,
      label = .asked i ⟨.db (.beginClaim attachmentId upload), .ok .cancel⟩ →
      uploadId = strtolower upload → s.May machine i (.db (.cancelClaim uploadId)) →
      row'.retentionDeleteAfter = none)
    (passes : ∀ i ids slug, s.Next machine i (.db (.cancelRestored ids slug)) →
      row'.isOf ids slug = false)
    (reads : ∀ i postId ids slug, label = .asked i ⟨.db (.restoredAttachments postId), .ok ids⟩ →
      row'.isOf ids slug = false)
    (remembered : row'.retentionDeleteAfter.isSome = true ∨ Restoring t id) :
    Held t uploadId row' id where
  toDeleted := deleted
  unrequested := unrequested
  cancels := by
    intro i next
    obtain old | ⟨may, attachmentId, upload, same, lowered⟩ := cancel_cases step next
    · exact cancels i old
    · exact told i attachmentId upload same lowered may
  passes := by
    intro i ids slug next
    obtain old | ⟨postId, same⟩ := restored_cases step next
    · exact passes i ids slug old
    · exact reads i postId ids slug same
  remembered := remembered

/-- A step that stores a schedule, and the session it stores it in. -/
theorem Stores.cases (stores : Stores s uploadId label) :
    ∃ i ids slug reason days row, label = carried s i (.scheduleIds ids slug reason days) ∧
      s.shared.db.session uploadId = some row ∧ row.isOf ids slug = true ∧ row.unmarked = true := by
  unfold Stores at stores
  split at stores
  · rename_i i ids slug reason days output
    obtain ⟨row, found, named, unmarked⟩ := stores
    exact ⟨i, ids, slug, reason, days, row, rfl, found, named, unmarked⟩
  · exact stores.elim

/-- **A schedule is held from the step that stores it on.** -/
theorem held_of_stores (claiming : Claiming s) (step : Step s label t) (apart : ClaimsApart s label)
    (stores : Stores s uploadId label) (outstanding : Outstanding t.shared.db uploadId) :
    ∃ row id, Held t uploadId row id := by
  have fresh := apart.stores uploadId stores
  obtain ⟨i, ids, slug, reason, days, row, rfl, found, -, unmarked⟩ := stores.cases
  obtain ⟨row', id, deleted, scheduled⟩ := outstanding
  obtain ⟨call, next, asked⟩ := step.asked_cases
  obtain ⟨-, same⟩ | ⟨failed, -⟩ := answers_db asked.answered
  · have found' := deleted.found
    rw [same] at found'
    obtain ⟨after, there, moved⟩ :=
      session_moved (.scheduleIds ids slug reason days) s.shared.clock found
    rw [there] at found'
    obtain rfl := Option.some.inj found'
    have its : after.attachmentId = row.attachmentId := by
      obtain same | ⟨-, -, upload, userId, board, descriptor, call, -⟩ := moved.attachmentId_cases
      · exact same
      · cases call
    have unrequested : row.deletionRequestedAt = none := by
      unfold SessionRow.unmarked at unmarked
      rw [Bool.and_eq_true, Option.isNone_iff_eq_none, Option.isNone_iff_eq_none] at unmarked
      exact unmarked.2
    refine ⟨after, id, held_of_step step deleted (moved.unrequested unrequested nofun) ?_ nofun ?_ nofun
      (.inl scheduled)⟩
    · intro j next
      exact absurd (.inl ⟨j, claiming.pending_of_next next⟩) fresh
    · intro j ids slug next
      rw [isOf_congr moved.boardSlug its]
      cases named : row.isOf ids slug with
      | false => rfl
      | true => exact absurd (.inr ⟨j, ids, slug, row, next, found, named⟩) fresh
  · cases failed

/-- A claim that is told to be cancelled over its schedule and its lease has found a live
attachment. -/
theorem live_of_told {now : Int} {db : Database} {attachmentId : Int} {upload : String}
    (told : (beginClaim attachmentId upload now db).1 = .cancel)
    (found : db.session (strtolower upload) = some row)
    (scheduled : row.retentionDeleteAfter.isSome = true) (unrequested : row.deletionRequestedAt = none)
    (leased : row.retentionLeaseUntil.isSome = true) :
    ∃ attachment, db.attachment attachmentId = some attachment ∧ attachment.deletedAt = none := by
  unfold beginClaim at told
  rw [found] at told
  dsimp only at told
  split at told
  · rename_i refused
    rw [unrequested, Option.isNone_eq_false_iff.2 scheduled, Option.isNone_eq_false_iff.2 leased] at refused
    cases refused
  · cases decided : evaluate (db.attachment attachmentId) upload with
    | cancel => exact live_of_cancel decided
    | block =>
        rw [decided] at told
        cases told
    | delete =>
        rw [decided] at told
        dsimp only at told
        split at told <;> cases told

/-- A claim of a deleted attachment is told to be cancelled only when there is no schedule. -/
theorem Held.unscheduled_of_told (held : Held s uploadId row id) (claiming : Claiming s)
    {attachmentId : Int} {upload : String}
    (claimed : Claimed (s.past i) attachmentId upload) (lowered : uploadId = strtolower upload)
    (may : s.May machine i (.db (.cancelClaim uploadId)))
    (goesOn : ¬ maxAttempts ≤ row.retentionAttempts)
    (told : (beginClaim attachmentId upload s.shared.clock s.shared.db).1 = .cancel) :
    row.retentionDeleteAfter = none := by
  cases scheduled : row.retentionDeleteAfter with
  | none => rfl
  | some after =>
      have due : row.retentionDeleteAfter.isSome = true := by rw [scheduled]; rfl
      obtain ⟨stored, there, its⟩ := claiming.claimed i attachmentId upload claimed
      have lower := claiming.valid.lower stored (List.mem_of_find?_eq_some there)
      rw [uploadId_of_session there, ← lowered] at lower
      subst lower
      rw [held.found] at there
      obtain rfl := Option.some.inj there
      have pending : Pending s i uploadId := ⟨⟨attachmentId, claimed⟩, may⟩
      obtain leased | used := claiming.leased i uploadId row pending held.found due
      · rw [held.its] at its
        cases its
        obtain ⟨attachment, known, live⟩ :=
          live_of_told told (lowered ▸ held.found) due held.unrequested leased
        obtain ⟨other, known', gone⟩ := held.gone
        rw [known] at known'
        cases known'
        rw [live] at gone
        cases gone
      · exact absurd used goesOn

/-- What a restore reads is live. -/
theorem not_restored {db : Database} (valid : db.Valid) (deleted : Deleted db uploadId row id)
    (postId : Int) (slug : String) : row.isOf (restoredAttachments postId db) slug = false := by
  cases named : row.isOf (restoredAttachments postId db) slug with
  | false => rfl
  | true =>
      unfold SessionRow.isOf at named
      rw [deleted.its, Bool.and_eq_true] at named
      obtain ⟨attachment, member, same⟩ := List.mem_map.1 (List.contains_iff_mem.1 named.2)
      obtain ⟨there, both⟩ := List.mem_filter.1 member
      rw [Bool.and_eq_true, Option.isNone_iff_eq_none] at both
      obtain ⟨other, known, gone⟩ := deleted.gone
      have found := valid.attachment there
      rw [same, known] at found
      cases found
      rw [both.2] at gone
      cases gone

/-- The host is still about to take the attachment back, unless it has. -/
theorem Restoring.kept (restoring : Restoring s id) (deleted : Deleted s.shared.db uploadId row id)
    (cleared : row.retentionDeleteAfter = none) (step : Step s label t) (apart : ClaimsApart s label)
    (goesOn : ¬ Ends s uploadId label) : Restoring t id := by
  obtain ⟨j, restored, next, member⟩ := restoring
  have whole := apart.restores j restored uploadId row id next member deleted cleared
  refine ⟨j, restored, next.kept step ?_, member⟩
  intro actor
  cases label with
  | started => cases actor
  | moved => cases actor
  | crashed k =>
      cases actor
      exact whole.1 rfl
  | asked k exchange =>
      cases actor
      obtain ⟨ask, answer⟩ := exchange
      have same := step.next.unique next
      dsimp only at same
      subst same
      cases answer with
      | ok => exact goesOn (.inr ⟨row, id, deleted.found, deleted.its, member⟩)
      | error thrown => exact whole.2 thrown rfl

/-- A statement that another exchange is not. -/
theorem carried_ne {op : Op} {j : Nat} {other : Op} {answer : Answer (.db other)}
    (same : carried s i op = .asked j ⟨.db other, answer⟩) :
    i = j ∧ ∃ same : op = other, (op.run s.shared.clock s.shared.db).1 = same ▸ answer := by
  injection same with thread exchange
  injection exchange with asked answered
  injection asked with asked
  subst asked
  exact ⟨thread, rfl, eq_of_heq answered⟩

/-- A statement does not clear a schedule that is held, or is a restore of the attachment. -/
theorem Held.remembered_of_moved (held : Held s uploadId row id) (claiming : Claiming s) {op : Op}
    (step : Step s (carried s i op) t) (apart : ClaimsApart s (carried s i op))
    (goesOn : ¬ Ends s uploadId (carried s i op))
    (found' : (op.run s.shared.clock s.shared.db).2.session uploadId = some row')
    (moved : Moved s.shared.clock s.shared.db op row row')
    (due : row.retentionDeleteAfter.isSome = true) :
    row'.retentionDeleteAfter.isSome = true ∨ Restoring t id := by
  have named' := uploadId_of_session held.found
  cases moved with
  | kept | claimed | blocked | begun | failed | materialized | marked => exact .inl due
  | scheduled => exact .inl rfl
  | @restored ids slug _ named unmarked =>
      rw [held.passes i ids slug step.next] at named
      cases named
  | @prepared ids slug _ named unmarked =>
      obtain ⟨postId, board, restored, called, member⟩ :=
        apart.prepares i ids slug _ uploadId row id rfl held.toDeleted due named
      obtain ok | refused := @prepareRestore_cases s.shared.clock s.shared.db ids slug
      · have answered : ((Op.prepareRestore ids slug).run s.shared.clock s.shared.db).1 = .ok () :=
          congrArg Prod.fst ok
        unfold carried at step
        rw [answered] at step
        exact .inr ⟨i, restored, next_of_prepared called step, member⟩
      · rw [show ((Op.prepareRestore ids slug).run s.shared.clock s.shared.db).2 = s.shared.db from
          congrArg Prod.snd refused, held.found] at found'
        rw [← Option.some.inj found']
        exact .inl due
  | @cancelled attachmentId upload _ other named found leased decided =>
      obtain ⟨stored, there, its⟩ := claiming.claimed i attachmentId upload (step_rule step)
      have lower := claiming.valid.lower stored (List.mem_of_find?_eq_some there)
      rw [uploadId_of_session there, ← named, named'] at lower
      rw [← lower, held.found] at there
      rw [← Option.some.inj there, held.its] at its
      cases its
      obtain ⟨live, listed, alive⟩ := live_of_cancel decided
      obtain ⟨attachment, known, gone⟩ := held.gone
      rw [known] at listed
      rw [← Option.some.inj listed] at alive
      rw [alive] at gone
      cases gone
  | @cancelClaim upload _ named =>
      obtain ⟨attachmentId, claimed, -, -, lowered⟩ := step_rule step
      rw [lowered, strtolower_strtolower, ← lowered, named'] at named
      subst named
      rw [held.cancels i step.next] at due
      cases due
  | completed named => exact absurd (.inr (named.symm.trans named')) goesOn

/-- **A statement leaves a schedule held**, unless it ends it. -/
theorem Held.stated (held : Held s uploadId row id) (claiming : Claiming s) {op : Op}
    (step : Step s (carried s i op) t) (apart : ClaimsApart s (carried s i op))
    (goesOn : ¬ Ends s uploadId (carried s i op))
    (same : t.shared = { s.shared with db := (op.run s.shared.clock s.shared.db).2 }) :
    ∃ row, Held t uploadId row id := by
  obtain ⟨attachment, known, gone⟩ := held.gone
  obtain ⟨row', found', moved⟩ := session_moved op s.shared.clock held.found
  obtain ⟨attachment', known', stays | ⟨ids, rfl, member⟩⟩ := op.attachment_kept s.shared.clock known
  · have named := uploadId_of_session held.found
    have its : row'.attachmentId = row.attachmentId := (moved.attachmentId held.its).trans held.its.symm
    have inTime : ¬ maxAttempts ≤ row.retentionAttempts := fun used =>
      goesOn (.inl ⟨row, held.found, used⟩)
    have deleted : Deleted t.shared.db uploadId row' id := by
      rw [same]
      exact ⟨found', its.trans held.its, attachment', known', by rwa [stays]⟩
    refine ⟨row', held_of_step step deleted ?_ ?_ ?_ ?_ ?_ ?_⟩
    · refine moved.unrequested held.unrequested fun upload call completes => ?_
      subst call
      exact goesOn (.inr (completes.symm.trans named))
    · intro j next
      exact moved.unscheduled (held.cancels j next)
        (apart.unstored held.found (.inl ⟨j, claiming.pending_of_next next⟩))
    · intro j attachmentId upload told lowered may
      obtain ⟨rfl, rfl, answered⟩ := carried_ne told
      have cleared := held.unscheduled_of_told claiming (step_rule step) lowered may inTime
        (Except.ok.inj answered)
      exact moved.unscheduled cleared nofun
    · intro j ids slug next
      rw [isOf_congr moved.boardSlug its]
      exact held.passes j ids slug next
    · intro j postId ids slug read
      obtain ⟨rfl, rfl, answered⟩ := carried_ne read
      rw [isOf_congr moved.boardSlug its, ← Except.ok.inj answered]
      exact not_restored claiming.valid held.toDeleted postId slug
    · cases scheduled : row.retentionDeleteAfter with
      | none =>
          have restoring := held.remembered.resolve_left (by simp [scheduled])
          exact .inr (restoring.kept held.toDeleted scheduled step apart goesOn)
      | some after =>
          have due : row.retentionDeleteAfter.isSome = true := by rw [scheduled]; rfl
          exact held.remembered_of_moved claiming step apart goesOn found' moved due
  · exact absurd (.inr ⟨row, id, held.found, held.its, member⟩) goesOn

/-- A step that leaves the session and its attachment leaves a schedule held. -/
theorem Held.undisturbed (held : Held s uploadId row id) (step : Step s label t)
    (apart : ClaimsApart s label) (goesOn : ¬ Ends s uploadId label)
    (deleted : Deleted t.shared.db uploadId row id)
    (quiet : ∀ i op output, label ≠ .asked i ⟨.db op, .ok output⟩) : Held t uploadId row id := by
  refine held_of_step step deleted held.unrequested held.cancels ?_ held.passes ?_ ?_
  · exact fun i _ _ told => absurd told (quiet i _ _)
  · exact fun i _ _ _ read => absurd read (quiet i _ _)
  · cases scheduled : row.retentionDeleteAfter with
    | none =>
        have restoring := held.remembered.resolve_left (by simp [scheduled])
        exact .inr (restoring.kept held.toDeleted scheduled step apart goesOn)
    | some => exact .inl rfl

/-- **A step leaves a schedule held**, unless it ends it. -/
theorem Held.step (held : Held s uploadId row id) (claiming : Claiming s) (step : Step s label t)
    (apart : ClaimsApart s label) (goesOn : ¬ Ends s uploadId label) : ∃ row, Held t uploadId row id := by
  obtain ⟨i, op, rfl, same⟩ | ⟨i, origin, upload, rfl, same⟩ | ⟨event, rfl, occurs⟩ | ⟨same, quiet⟩ :=
    step_cases step
  · exact held.stated claiming step apart goesOn same
  · refine ⟨row, held.undisturbed step apart goesOn ?_ fun _ _ _ => send_ne_db _ _⟩
    rw [same]
    exact held.toDeleted
  · refine ⟨row, held.undisturbed step apart goesOn ?_ (by simp)⟩
    obtain ⟨attachment, known, gone⟩ := held.gone
    cases event with
    | processed ticket accepts =>
        obtain ⟨requests, -, same⟩ := Option.map_eq_some_iff.1 occurs
        rw [← same]
        exact held.toDeleted
    | clock now =>
        rw [← Option.some.inj occurs]
        exact held.toDeleted
    | trashed ids triggerType =>
        rw [← Option.some.inj occurs]
        refine ⟨held.found, held.its, attachment, ?_, gone⟩
        rw [attachment_trash, known, Option.map_some, if_neg]
        rw [Bool.and_eq_true, Option.isNone_iff_eq_none]
        rintro ⟨-, live⟩
        rw [live] at gone
        cases gone
    | purged ids =>
        rw [← Option.some.inj occurs]
        refine ⟨held.found, held.its, attachment, ?_, gone⟩
        exact attachment_purge claiming.valid known fun member =>
          goesOn (.inr ⟨row, id, held.found, held.its, member⟩)
  · refine ⟨row, held.undisturbed step apart goesOn ?_ quiet⟩
    rw [same]
    exact held.toDeleted

end Steps

/-! ## Runs -/

/-- A cancelled claim finds no schedule of a deleted attachment to clear. -/
theorem Held.spares {s t : System} {uploadId : String} {row : SessionRow} {id : Int} {j : Nat}
    {upload : String} {answer : Answer (.db (.cancelClaim upload))} (held : Held s uploadId row id)
    (step : Step s (.asked j ⟨.db (.cancelClaim upload), answer⟩) t)
    (named : strtolower upload = uploadId) : ¬ Outstanding s.shared.db uploadId := by
  obtain ⟨attachmentId, claimed, -, -, lowered⟩ := step_rule step
  rw [lowered, strtolower_strtolower, ← lowered] at named
  subst named
  rintro ⟨other, otherId, deleted, due⟩
  have found := deleted.found
  rw [held.found] at found
  rw [← Option.some.inj found, held.cancels j step.next] at due
  cases due

/-- **A scheduled deletion is not lost, and none is asked for a live attachment**: in every run
whose steps keep claims and restores apart, a schedule that is stored while the attachment is
deleted stays, or a restore of the attachment is going on, as long as no step ends it, and no
cancelled claim clears it; and whenever the command asks for a deletion the upload's attachment is
not live. -/
theorem schedules_kept (tables : Tables) (clock : Int) {labels : List Happening} {s : System}
    (run : Trace (Guarded Step ClaimsApart) (tables.system clock) labels s) :
    (∀ uploadId label next, Guarded Step ClaimsApart s label next → Stores s uploadId label →
      Outstanding next.shared.db uploadId → ∀ labels' t,
      Trace (Guarded Step fun s label => ClaimsApart s label ∧ ¬ Ends s uploadId label) next labels' t →
        Remembered t uploadId ∧ ∀ i upload answer u, strtolower upload = uploadId →
          Step t (.asked i ⟨.db (.cancelClaim upload), answer⟩) u →
            ¬ Outstanding t.shared.db uploadId) ∧
      ∀ i uploadId answer t, Step s (.asked i ⟨.send .reconcile uploadId, answer⟩) t →
        ∃ row id, s.shared.db.session uploadId = some row ∧ row.attachmentId = some id ∧
          NotLive s.shared.db id := by
  have claiming : Claiming s := run.keeps (P := Claiming)
    (fun _ _ _ step claiming => claiming.step step.1 step.2) (claiming_initial tables clock)
  constructor
  · intro uploadId label next first stores outstanding labels' t later
    obtain ⟨row, id, held⟩ := held_of_stores claiming first.1 first.2 stores outstanding
    have both : Claiming t ∧ ∃ row, Held t uploadId row id :=
      later.keeps (P := fun s => Claiming s ∧ ∃ row, Held s uploadId row id)
        (fun _ _ _ step kept => ⟨kept.1.step step.1 step.2.1,
          kept.2.elim fun _ held => held.step kept.1 step.1 step.2.1 step.2.2⟩)
        ⟨claiming.step first.1 first.2, row, held⟩
    obtain ⟨-, row, held⟩ := both
    refine ⟨⟨row, id, held.toDeleted, held.remembered⟩, ?_⟩
    exact fun i upload answer u named step => held.spares step named
  · intro i uploadId answer t step
    obtain ⟨attachmentId, upload, begun, lowered⟩ := step_rule step
    obtain ⟨row, found, -, its, gone⟩ := claiming.begun i attachmentId upload begun
    exact ⟨row, attachmentId, by rw [lowered]; exact found, its, gone⟩

/-! ## Played runs -/

/-- The thread has claimed nothing, and is not about to clear what it has read. -/
def isQuiet (thread : Thread Answer Call) : Bool :=
  (thread.past.all fun
    | ⟨.db (.claimDue _), _⟩ => false
    | _ => true) &&
  match thread.past.getLast? with
  | some ⟨.db (.restoredAttachments _), _⟩ => false
  | _ => true

/-- The thread is not about to ask for a deletion it has claimed. -/
def isUnbegun (thread : Thread Answer Call) : Bool :=
  match thread.past.getLast? with
  | some ⟨.db (.beginClaim _ _), _⟩ => false
  | _ => true

theorem thread_of_past {s : System} {i : Nat} {exchange : Exchange Answer}
    (heard : exchange ∈ s.past i) : ∃ thread, s.threads[i]? = some thread ∧ s.past i = thread.past := by
  cases there : s.threads[i]? with
  | none =>
      unfold State.past at heard
      rw [there] at heard
      cases heard
  | some thread => exact ⟨thread, rfl, State.past_of_thread there⟩

theorem not_claimed_of_quiet {thread : Thread Answer Call} (quiet : isQuiet thread = true)
    {attachmentId : Int} {upload : String} : ¬ Claimed thread.past attachmentId upload := by
  rintro ⟨limit, rows, heard, -⟩
  have none := List.all_eq_true.1 (Bool.and_eq_true_iff.1 quiet).1 _ heard
  cases none

/-- Where every thread is quiet or done, nothing is in progress. -/
theorem idle_of_quiet {s : System} (quiet : ∀ (i : Nat) (thread : Thread Answer Call),
    s.threads[i]? = some thread →
      isQuiet thread = true ∨ At (machine.program thread.call) thread.past (.done ()))
    (uploadId : String) : ¬ InProgress s uploadId := by
  rintro (⟨i, ⟨attachmentId, claimed⟩, thread, rest, there, -, stands, comes⟩ |
    ⟨i, ids, slug, row, next, -⟩)
  · rw [State.past_of_thread there] at claimed
    obtain quiet | done := quiet i thread there
    · exact not_claimed_of_quiet quiet claimed
    · exact comes (At.unique done stands ▸ trivial)
  · obtain ⟨before, postId, heard⟩ := next_rule next
    obtain ⟨thread, following, there, -, stands⟩ := next
    rw [State.past_of_thread there] at heard
    obtain quiet | done := quiet i thread there
    · have last := (Bool.and_eq_true_iff.1 quiet).2
      rw [heard, List.getLast?_concat] at last
      cases last
    · cases At.unique done stands

/-- A step at which no claims and restores meet. -/
def keepsApart (s : System) : Happening → Bool
  | .asked _ ⟨.db (.scheduleIds _ _ _ _), _⟩ => s.threads.all isQuiet
  | .asked i ⟨.db (.prepareRestore ids _), _⟩ =>
      match s.call i with
      | some (.restorePost _ _ restored) => ids.all restored.contains
      | _ => false
  | .asked _ ⟨.db (.undelete ids), .ok _⟩ =>
      s.shared.db.sessions.all fun row => row.unmarked || !row.attachmentId.any ids.contains
  | .asked _ ⟨.db (.undelete _), .error _⟩ | .crashed _ => false
  | label => erasesNothing s label || s.threads.all isUnbegun

theorem apart_of_keeps {s : System} {label : Happening} (keeps : keepsApart s label = true) :
    ClaimsApart s label where
  stores := by
    intro uploadId stores
    obtain ⟨i, ids, slug, reason, days, row, rfl, -⟩ := stores.cases
    refine idle_of_quiet (fun i thread there => .inl ?_) uploadId
    exact List.all_eq_true.1 keeps thread (List.mem_of_getElem? there)
  prepares := by
    rintro i ids slug answer uploadId row id rfl deleted - named
    unfold keepsApart at keeps
    dsimp only at keeps
    split at keeps
    · rename_i postId board restored called
      refine ⟨postId, board, restored, called, ?_⟩
      unfold SessionRow.isOf at named
      rw [deleted.its, Bool.and_eq_true] at named
      exact List.contains_iff_mem.1
        (List.all_eq_true.1 keeps id (List.contains_iff_mem.1 named.2))
    · cases keeps
  restores := by
    intro i restored uploadId row id _ _ _ _
    constructor
    · rintro rfl
      cases keeps
    · rintro thrown rfl
      cases keeps
  undeletes := by
    rintro i ids answer rfl uploadId row id found its member
    cases answer with
    | error => cases keeps
    | ok =>
        have each := List.all_eq_true.1 keeps row (List.mem_of_find?_eq_some found)
        rw [its, Bool.or_eq_true] at each
        refine each.resolve_right fun other => ?_
        have listed : ids.contains id = true := List.contains_iff_mem.2 member
        rw [Option.any_some, listed] at other
        cases other
  erases := by
    intro i op answer uploadId same erases
    have either : (erasesNothing s label || s.threads.all isUnbegun) = true := by
      subst same
      cases op with
      | failClaim | cancelClaim | beginClaim => exact keeps
      | _ => exact erases.elim
    obtain nothing | unbegun := Bool.or_eq_true_iff.1 either
    · obtain requested | settled := erasesSettled_of_nothing nothing i op answer uploadId same erases
      · exact .inl requested
      · exact .inr settled.2
    · right
      rintro j attachmentId upload ⟨before, heard⟩
      have member : ⟨.db (.beginClaim attachmentId upload), .ok .delete⟩ ∈ s.past j := by
        rw [heard]
        exact List.mem_append_right before (List.mem_singleton_self _)
      obtain ⟨thread, there, past⟩ := thread_of_past member
      have last := List.all_eq_true.1 unbegun thread (List.mem_of_getElem? there)
      unfold isUnbegun at last
      rw [← past, heard, List.getLast?_concat] at last
      cases last

/-- A step that stores a schedule of the upload. -/
def isStoring (uploadId : String) (s : System) : Happening → Bool
  | .asked _ ⟨.db (.scheduleIds ids slug _ _), .ok _⟩ =>
      (s.shared.db.session uploadId).any fun row => row.isOf ids slug && row.unmarked
  | _ => false

theorem stores_of_isStoring {s : System} {label : Happening} {uploadId : String}
    (storing : isStoring uploadId s label = true) : Stores s uploadId label := by
  unfold isStoring at storing
  unfold Stores
  split at storing
  · obtain ⟨row, found, both⟩ := (Option.any_eq_true _ _).1 storing
    obtain ⟨named, unmarked⟩ := Bool.and_eq_true_iff.1 both
    exact ⟨row, found, named, unmarked⟩
  · cases storing

/-- Every thread is quiet or done. -/
def isIdle (stage : Stage Answer Call Shared) : Bool :=
  (stage.state.threads.zip stage.programs).all fun both => isQuiet both.1 || both.2.isDone

/-- A thread of an idle stage is quiet or done. -/
theorem quiet_of_idle {stage : Stage Answer Call Shared} (stands : stage.Stands machine)
    (idle : isIdle stage = true) (i : Nat) (thread : Thread Answer Call)
    (there : stage.state.threads[i]? = some thread) :
    isQuiet thread = true ∨ At (machine.program thread.call) thread.past (.done ()) := by
  obtain ⟨inside, -⟩ := List.getElem?_eq_some_iff.1 there
  rw [← stands.lengths] at inside
  have standing := List.getElem?_eq_getElem inside
  have both : (thread, stage.programs[i]) ∈ stage.state.threads.zip stage.programs :=
    List.mem_of_getElem? (List.getElem?_zip_eq_some.2 ⟨there, standing⟩)
  refine (Bool.or_eq_true_iff.1 (List.all_eq_true.1 idle _ both)).imp_right fun done => ?_
  have stood := stands.stood i thread _ there standing
  cases program : stage.programs[i] with
  | done =>
      rw [program] at stood
      exact stood
  | ask =>
      dsimp only at done
      rw [program] at done
      cases done

/-- A schedule that is stored while every thread is quiet or done keeps claims apart. -/
theorem apart_of_idle {stage : Stage Answer Call Shared} (stands : stage.Stands machine)
    (idle : isIdle stage = true) {label : Happening} {uploadId : String}
    (stores : Stores stage.state uploadId label) : ClaimsApart stage.state label := by
  obtain ⟨i, ids, slug, reason, days, row, rfl, -⟩ := stores.cases
  constructor
  · exact fun upload _ => idle_of_quiet (quiet_of_idle stands idle) upload
  · intro j ids slug answer upload row id same
    obtain ⟨-, same, -⟩ := carried_ne same
    cases same
  · intro j restored upload row id _ _ _ _
    constructor
    · intro same
      cases same
    · intro thrown same
      obtain ⟨-, same, -⟩ := carried_ne same
      cases same
  · intro j ids answer same
    obtain ⟨-, same, -⟩ := carried_ne same
    cases same
  · intro j op answer upload same erases
    obtain ⟨-, rfl, -⟩ := carried_ne same
    exact erases.elim

/-- A step that ends no schedule of the upload. -/
def endsNothing (uploadId : String) (s : System) (label : Happening) : Bool :=
  ((s.shared.db.session uploadId).all fun row => decide (row.retentionAttempts < maxAttempts)) &&
    match label with
    | .asked _ ⟨.db (.undelete _), _⟩ | .asked _ ⟨.db (.completeClaim _), _⟩ => false
    | .moved (.purged _) => false
    | _ => true

theorem not_ends_of_nothing {s : System} {label : Happening} {uploadId : String}
    (nothing : endsNothing uploadId s label = true) : ¬ Ends s uploadId label := by
  obtain ⟨inTime, quiet⟩ := Bool.and_eq_true_iff.1 nothing
  rintro (⟨row, found, used⟩ | ends)
  · rw [found, Option.all_some, decide_eq_true_eq] at inTime
    omega
  · split at ends
    · cases quiet
    · cases quiet
    · cases quiet
    · exact ends

/-- Whether the upload has a schedule. -/
def hasSchedule (uploadId : String) (s : System) : Bool :=
  (s.shared.db.session uploadId).any fun row => row.retentionDeleteAfter.isSome &&
    row.attachmentId.any fun id => (s.shared.db.attachment id).any fun attachment =>
      attachment.deletedAt.isSome

theorem hasSchedule_iff {uploadId : String} {s : System} :
    hasSchedule uploadId s = true ↔ Outstanding s.shared.db uploadId := by
  unfold hasSchedule Outstanding
  constructor
  · intro scheduled
    obtain ⟨row, found, both⟩ := (Option.any_eq_true _ _).1 scheduled
    obtain ⟨due, attached⟩ := Bool.and_eq_true_iff.1 both
    obtain ⟨id, its, more⟩ := (Option.any_eq_true _ _).1 attached
    exact ⟨row, id, ⟨found, its, (Option.any_eq_true _ _).1 more⟩, due⟩
  · rintro ⟨row, id, ⟨found, its, attachment, known, gone⟩, due⟩
    simp [found, due, its, known, gone]

/-- A claim of a deleted post is refused, the post is restored and deleted again, and the request
of another claim gets no answer: the second schedule is still there. -/
theorem schedules_kept_sample : ∃ labels s label next labels' t,
    Trace (Guarded Step ClaimsApart) ((sampleTables true).system 0) labels s ∧
      Guarded Step ClaimsApart s label next ∧ Stores s sampleUpload label ∧
      Trace (Guarded Step fun s label => ClaimsApart s label ∧ ¬ Ends s sampleUpload label) next labels' t ∧
      t.shared.requests.length = 2 ∧ Remembered t sampleUpload := by
  have played : ((Script.mk [refusal, .unreachable] .unreachable).responder.performAll keepsApart
      (scheduleDeletion ++ [.start (.reconcile (some 50)), .run 1 6,
        .start (.restorePost 9 "free" [5]), .run 2 5, .happen (.trashed [5] "cascade"),
        .start (.schedulePostDeletion 9 "free" 7), .run 3 1])
      ⟨(sampleTables true).system 0, []⟩).any (fun stage => isIdle stage &&
        ((Script.mk [refusal, .unreachable] .unreachable).responder.exchange (isStoring sampleUpload) 3
          stage).any fun next => hasSchedule sampleUpload next.state &&
            ((Script.mk [refusal, .unreachable] .unreachable).responder.performAll
              (fun s label => keepsApart s label && endsNothing sampleUpload s label)
              [.happen (.clock 2000000), .start (.reconcile (some 50)), .run 4 6] next).any
                fun later => later.state.shared.requests.length == 2) = true := by
    decide +kernel
  obtain ⟨labels, stage, label, next, labels', later, run, stands, idle, step, scheduled, more, -, sent⟩ :=
    Script.rehearsed_around (sampleTables true) isIdle (fun next => hasSchedule sampleUpload next.state)
      (fun later => later.state.shared.requests.length == 2) played
  have guarded : Trace (Guarded Step ClaimsApart) ((sampleTables true).system 0) labels stage.state :=
    run.mono fun _ _ _ step => ⟨step.1, apart_of_keeps step.2⟩
  have stores := stores_of_isStoring step.2
  have first : Guarded Step ClaimsApart stage.state label next.state :=
    ⟨step.1, apart_of_idle stands idle stores⟩
  have rest : Trace (Guarded Step fun s label => ClaimsApart s label ∧ ¬ Ends s sampleUpload label)
      next.state labels' later.state := more.mono fun _ _ _ step => by
    obtain ⟨apart, goesOn⟩ := Bool.and_eq_true_iff.1 step.2
    exact ⟨step.1, apart_of_keeps apart, not_ends_of_nothing goesOn⟩
  have kept := (schedules_kept (sampleTables true) 0 guarded).1 sampleUpload label next.state first stores
    (hasSchedule_iff.1 scheduled) labels' later.state rest
  exact ⟨labels, stage.state, label, next.state, labels', later.state, guarded, first, stores, rest,
    eq_of_beq sent, kept.1⟩

/-- Where every thread is done, no restore is going on. -/
theorem not_restoring_of_done {stage : Stage Answer Call Shared} (stands : stage.Stands machine)
    (done : stage.programs.all Program.isDone = true) (id : Int) : ¬ Restoring stage.state id := by
  rintro ⟨i, restored, ⟨thread, next, asks⟩, -⟩
  exact stands.idle done i ⟨thread, _, next, asks⟩

/-- A post is restored and deleted again while a claim of it is not begun: the claim finds no
lease, and is cancelled over the schedule of the second deletion. -/
theorem cancelClaim_loses_schedule : ∃ labels s label next labels' t,
    Trace Step ((sampleTables true).system 0) labels s ∧ Step s label next ∧
      Stores s sampleUpload label ∧ Outstanding next.shared.db sampleUpload ∧
      Trace (Guarded Step fun s label => ¬ Ends s sampleUpload label) next labels' t ∧
      ¬ Remembered t sampleUpload := by
  have played : ((Script.mk [] .unreachable).responder.performAll (fun _ _ => true)
      (scheduleDeletion ++ [.start (.reconcile (some 50)), .run 1 1,
        .start (.restorePost 9 "free" [5]), .run 2 5, .happen (.trashed [5] "cascade"),
        .start (.schedulePostDeletion 9 "free" 7), .run 3 1])
      ⟨(sampleTables true).system 0, []⟩).any (fun stage => true &&
        ((Script.mk [] .unreachable).responder.exchange (isStoring sampleUpload) 3 stage).any fun next =>
          hasSchedule sampleUpload next.state &&
            ((Script.mk [] .unreachable).responder.performAll (endsNothing sampleUpload) [.run 1 2]
              next).any fun later => later.programs.all Program.isDone &&
                !hasSchedule sampleUpload later.state) = true := by
    decide +kernel
  obtain ⟨labels, stage, label, next, labels', later, run, -, -, step, scheduled, more, stands, ended⟩ :=
    Script.rehearsed_around (sampleTables true) (fun _ => true)
      (fun next => hasSchedule sampleUpload next.state)
      (fun later => later.programs.all Program.isDone && !hasSchedule sampleUpload later.state) played
  obtain ⟨done, lost⟩ := Bool.and_eq_true_iff.1 ended
  refine ⟨labels, stage.state, label, next.state, labels', later.state, run.unguarded, step.1,
    stores_of_isStoring step.2, hasSchedule_iff.1 scheduled,
    more.mono fun _ _ _ step => ⟨step.1, not_ends_of_nothing step.2⟩, ?_⟩
  rintro ⟨row, id, deleted, due | restoring⟩
  · rw [hasSchedule_iff.2 ⟨row, id, deleted, due⟩] at lost
    cases lost
  · exact not_restoring_of_done stands done id restoring

end MediaBooster.Gnuboard7
