/-
# Gnuboard7.Retention -- a deletion that was accepted blocks the restore

Once the media server has accepted a deletion the command asked for, the host must not restore
the post.  The session says so by its markers, `retention_request_started_at` and
`deletion_requested_at`: `preparePostRestore` throws when one is set, and `cancelRestoredPost`
passes the row over.  `Blocking` is the invariant: the row of every upload whose deletion is
asked for, or about to be, is marked.

A marker is erased by three statements (`Erases`): a failed claim that does not keep the request
in flight, a cancelled claim, and a claim that finds the attachment live.  Where they erase only
what is settled (`ErasesSettled`), the invariant holds and so does what it is for
(`accepted_blocks_restore`).  The command does erase more: it keeps the marker when the first
request is accepted and its answer is lost, and erases it when a later request is refused
(`restore_revives_deleted`).
-/
import MediaBooster.Gnuboard7.System
import MediaBooster.Gnuboard7.Rehearsal

namespace MediaBooster.Gnuboard7

set_option autoImplicit false

open MediaBooster.Domain
open MediaBooster.Theory.Threads
open MediaBooster.Theory.Requests
open MediaBooster.Theory.Run

/-! ## Markers -/

/-- A marker of the upload's session is set. -/
def Marked (db : Database) (uploadId : String) : Prop :=
  ∃ row, db.session uploadId = some row ∧ row.unmarked = false

/-- The deletion of the upload is recorded as asked for. -/
def Requested (db : Database) (uploadId : String) : Prop :=
  ∃ row, db.session uploadId = some row ∧ row.deletionRequestedAt.isSome = true

/-- The statement clears the marker of a request of the upload. -/
def Erases (db : Database) (uploadId : String) : Op → Prop
  | .failClaim upload failure => strtolower upload = uploadId ∧ failure.keepInFlight = false
  | .cancelClaim upload => strtolower upload = uploadId
  | .beginClaim attachmentId upload => strtolower upload = uploadId ∧
      evaluate (db.attachment attachmentId) upload = .cancel ∧
      ∃ stored, db.session uploadId = some stored ∧ stored.retentionLeaseUntil.isSome = true
  | _ => False

section Markers

variable {now : Int} {db : Database} {op : Op} {uploadId : String}

theorem unmarked_eq_false {row : SessionRow} : row.unmarked = false ↔
    row.retentionRequestStartedAt.isSome = true ∨ row.deletionRequestedAt.isSome = true := by
  unfold SessionRow.unmarked
  cases row.retentionRequestStartedAt <;> cases row.deletionRequestedAt <;> simp

theorem Moved.keepsMarker {row row' : SessionRow} (moved : Moved now db op row row')
    (marked : row.unmarked = false)
    (erased : Erases db row.uploadId op → row.deletionRequestedAt.isSome = true) :
    row'.unmarked = false := by
  cases moved with
  | kept => exact marked
  | scheduled named unmarked => exact absurd marked (by simp [unmarked])
  | restored named unmarked => exact absurd marked (by simp [unmarked])
  | prepared named unmarked => exact absurd marked (by simp [unmarked])
  | claimed => exact marked
  | cancelled named found leased decided =>
      have requested := erased ⟨named.symm, decided, _, named ▸ found, leased⟩
      exact unmarked_eq_false.2 (.inr requested)
  | blocked => exact marked
  | begun => exact unmarked_eq_false.2 (.inl rfl)
  | cancelClaim named => exact unmarked_eq_false.2 (.inr (erased named.symm))
  | completed => exact unmarked_eq_false.2 (.inr rfl)
  | @failed upload failure _ named =>
      cases keeps : failure.keepInFlight with
      | true =>
          refine unmarked_eq_false.2 (.inl ?_)
          simp [SessionRow.failed, keeps]
      | false => exact unmarked_eq_false.2 (.inr (erased ⟨named.symm, keeps⟩))
  | materialized => exact marked
  | marked => exact marked

/-- A marker stays, unless the statement erases it and no other is set. -/
theorem Marked.kept (marked : Marked db uploadId)
    (erased : Erases db uploadId op → Requested db uploadId) :
    Marked (op.run now db).2 uploadId := by
  obtain ⟨row, found, set⟩ := marked
  obtain ⟨row', found', moved⟩ := session_moved op now found
  refine ⟨row', found', moved.keepsMarker set fun erases => ?_⟩
  rw [uploadId_of_session found] at erases
  obtain ⟨other, there, requested⟩ := erased erases
  rw [found] at there
  rw [Option.some.inj there]
  exact requested

/-- A claim begun to be deleted is marked. -/
theorem marked_of_begun {attachmentId : Int} {upload : String}
    (begun : (beginClaim attachmentId upload now db).1 = .delete) :
    Marked (beginClaim attachmentId upload now db).2 (strtolower upload) := by
  unfold beginClaim at begun ⊢
  cases found : db.session (strtolower upload) with
  | none =>
      rw [found] at begun
      cases begun
  | some stored =>
      rw [found] at begun
      dsimp only at begun ⊢
      split at begun
      · cases begun
      rename_i ready
      rw [if_neg ready]
      cases decided : evaluate (db.attachment attachmentId) upload with
      | cancel =>
          rw [decided] at begun
          cases begun
      | block =>
          rw [decided] at begun
          cases begun
      | delete =>
          dsimp only
          split
          · rename_i fresh
            have there : (updateSession (strtolower upload) (SessionRow.begun now) db).session
                (strtolower upload) = (db.session (strtolower upload)).map (SessionRow.begun now) :=
              session_updateSession fun _ => rfl
            rw [found] at there
            exact ⟨stored.begun now, there, rfl⟩
          · rename_i started
            refine ⟨stored, found, unmarked_eq_false.2 (.inl ?_)⟩
            cases known : stored.retentionRequestStartedAt with
            | none => exact absurd (by rw [known]; rfl) started
            | some _ => rfl

end Markers

/-! ## The invariant -/

/-- No deletion of the upload is asked for, and none is about to be. -/
def Settled (s : System) (uploadId : String) : Prop :=
  ¬ Open s.shared.requests ⟨.reconcile, uploadId⟩ ∧
    ∀ i attachmentId upload, Begun (s.past i) attachmentId upload → strtolower upload ≠ uploadId

/-- A step erases the marker of an upload only when it is settled or recorded as requested. -/
def ErasesSettled (s : System) (label : Happening) : Prop :=
  ∀ i op answer uploadId, label = .asked i ⟨.db op, answer⟩ → Erases s.shared.db uploadId op →
    Requested s.shared.db uploadId ∨ Settled s uploadId

/-- Every upload whose deletion is asked for, or about to be, is marked. -/
structure Blocking (s : System) : Prop where
  sent : ∀ uploadId, Open s.shared.requests ⟨.reconcile, uploadId⟩ → Marked s.shared.db uploadId
  sending : ∀ i attachmentId upload, Begun (s.past i) attachmentId upload →
    Marked s.shared.db (strtolower upload)

theorem blocking_initial (tables : Tables) (clock : Int) : Blocking (tables.system clock) where
  sent := by
    rintro uploadId ⟨request, member, -⟩
    cases member
  sending := by
    rintro i attachmentId upload ⟨before, same⟩
    cases before <;> cases same

section Steps

variable {s t : System} {label : Happening}

/-- A statement that erases settled markers only keeps the others. -/
theorem ErasesSettled.kept {i : Nat} {op : Op} {answer : Answer (.db op)} (guard : ErasesSettled s (.asked i ⟨.db op, answer⟩)) {uploadId : String}
    (matters : ¬ Settled s uploadId) (marked : Marked s.shared.db uploadId) :
    Marked (op.run s.shared.clock s.shared.db).2 uploadId :=
  marked.kept fun erases => (guard i op answer uploadId rfl erases).resolve_right matters

/-- **Every step that erases settled markers only keeps the invariant.** -/
theorem Blocking.step (blocking : Blocking s) (step : Step s label t) (guard : ErasesSettled s label) :
    Blocking t := by
  obtain ⟨i, op, rfl, same⟩ | ⟨i, origin, uploadId, rfl, same⟩ | ⟨event, rfl, occurs⟩ | ⟨same, quiet⟩ :=
    step_cases step
  · constructor
    · intro uploadId opened
      rw [same] at opened ⊢
      exact guard.kept (fun settled => settled.1 opened) (blocking.sent uploadId opened)
    · intro j attachmentId upload begun
      rw [same]
      obtain old | new := begun_cases step begun
      · exact guard.kept (fun settled => settled.2 j attachmentId upload old rfl)
          (blocking.sending j attachmentId upload old)
      · injection new with _ exchange
        injection exchange with asked answered
        injection asked with asked
        subst asked
        exact marked_of_begun (Except.ok.inj (eq_of_heq answered))
  · have rule := step_rule step
    constructor
    · intro other opened
      rw [same] at opened ⊢
      obtain old | new := open_send.1 opened
      · exact blocking.sent other old
      · injection new with byCommand named
        subst byCommand
        obtain ⟨attachmentId, upload, begun, lowered⟩ := rule
        rw [← named, lowered, strtolower_strtolower]
        exact blocking.sending i attachmentId upload begun
    · intro j attachmentId upload begun
      rw [same]
      obtain old | new := begun_cases step begun
      · exact blocking.sending j attachmentId upload old
      · cases new
  · have begunBefore : ∀ j attachmentId upload, Begun (t.past j) attachmentId upload →
        Begun (s.past j) attachmentId upload := by
      intro j attachmentId upload begun
      exact (begun_cases step begun).resolve_right (by simp)
    cases event with
    | processed ticket accepts =>
        obtain ⟨requests, processed, same⟩ := Option.map_eq_some_iff.1 occurs
        constructor
        · intro uploadId opened
          rw [← same] at opened ⊢
          exact blocking.sent uploadId (open_process processed opened)
        · intro j attachmentId upload begun
          rw [← same]
          exact blocking.sending j attachmentId upload (begunBefore j attachmentId upload begun)
    | _ =>
        have same := Option.some.inj occurs
        constructor
        · intro uploadId opened
          rw [← same] at opened ⊢
          exact blocking.sent uploadId opened
        · intro j attachmentId upload begun
          rw [← same]
          exact blocking.sending j attachmentId upload (begunBefore j attachmentId upload begun)
  · constructor
    · rw [same]
      exact blocking.sent
    · intro j attachmentId upload begun
      rw [same]
      obtain old | new := begun_cases step begun
      · exact blocking.sending j attachmentId upload old
      · exact absurd new (quiet _ _ _)

end Steps

/-! ## What a marker is for -/

/-- The restore of the post of this session's attachment throws, and the session is passed over
when restored posts are cancelled. -/
structure BlocksRestore (s : System) (row : SessionRow) : Prop where
  throws : ∀ attachment ∈ s.shared.db.attachments, ∀ postId,
    row.attachmentId = some attachment.id → attachment.isMediaOf postId = true →
    attachment.triggerType = some "cascade" → ∀ result after,
    Ran machine.answers (preparePostRestore postId row.boardSlug).attempt s.shared result after →
    ∃ thrown, result = .error thrown
  refuses : ∀ ids slug, row.isOf ids slug = true → ∀ i answer t,
    Step s (.asked i ⟨.db (.prepareRestore ids slug), answer⟩) t → ∃ thrown, answer = .error thrown
  passedOver : ∀ i ids slug answer t, Step s (.asked i ⟨.db (.cancelRestored ids slug), answer⟩) t →
    t.shared.db.session row.uploadId = s.shared.db.session row.uploadId

section Blocks

variable {s t : System} {row : SessionRow}

/-- The transaction of `preparePostRestore` throws at a marked session it names. -/
theorem prepareRestore_of_marked {db : Database} {ids : List Int} {slug : String} (now : Int)
    (member : row ∈ db.sessions) (marked : row.unmarked = false) (named : row.isOf ids slug = true) :
    prepareRestore ids slug now db = (.error (.runtime "G7_MEDIA_RETENTION_ALREADY_STARTED"), db) := by
  have found : (db.sessions.any fun row => row.isOf ids slug && !row.unmarked) = true :=
    List.any_eq_true.2 ⟨row, member, by rw [named, marked]; rfl⟩
  unfold prepareRestore
  rw [if_pos found]

/-- What a statement of the database is answered. -/
theorem answers_db {op : Op} {answer : Answer (.db op)} {before after : Shared}
    (answered : machine.answers before (.db op) answer after) :
    (answer = (op.run before.clock before.db).1 ∧
        after = { before with db := (op.run before.clock before.db).2 }) ∨
      (answer = .error .query ∧ after = before) := by
  cases answered with
  | ran => exact .inl ⟨rfl, rfl⟩
  | failed => exact .inr ⟨rfl, rfl⟩

theorem preparePostRestore_throws {shared after : Shared} {postId : Int} {attachment : AttachmentRow}
    {result : Except Throwable Unit} (valid : shared.db.Valid) (member : row ∈ shared.db.sessions)
    (marked : row.unmarked = false) (there : attachment ∈ shared.db.attachments)
    (its : row.attachmentId = some attachment.id) (media : attachment.isMediaOf postId = true)
    (cascade : attachment.triggerType = some "cascade")
    (ran : Ran machine.answers (preparePostRestore postId row.boardSlug).attempt shared result after) :
    ∃ thrown, result = .error thrown := by
  have linked : attachment.postId = some postId := by
    unfold AttachmentRow.isMediaOf at media
    rw [Bool.and_eq_true, Bool.and_eq_true, beq_iff_eq] at media
    exact media.1.1
  have positive := valid.posts attachment there postId linked
  have proper : ¬ (decide (postId < 1) || !validSlug row.boardSlug) = true := by
    rw [valid.slugs row member, Bool.or_eq_true, decide_eq_true_eq]
    simp only [Bool.not_true, Bool.false_eq_true, or_false]
    omega
  unfold preparePostRestore at ran
  rw [if_neg proper] at ran
  obtain ⟨plucked, middle, answered, rest⟩ := ran_ask.1 ran
  obtain ⟨rfl, rfl⟩ | ⟨rfl, -⟩ := answers_db answered
  · have listed : attachment.id ∈ cascadeAttachments postId shared.db := by
      refine List.mem_map_of_mem (List.mem_filter.2 ⟨there, ?_⟩)
      rw [media, cascade]
      rfl
    have nonempty : ¬ (cascadeAttachments postId shared.db).isEmpty = true := by
      rw [List.isEmpty_iff]
      exact List.ne_nil_of_mem listed
    have goesOn : Ran machine.answers
        (if (cascadeAttachments postId shared.db).isEmpty then (pure () : Adapter Unit)
          else database (.prepareRestore (cascadeAttachments postId shared.db) row.boardSlug)).attempt
        shared result after := rest
    rw [if_neg nonempty] at goesOn
    obtain ⟨answer, last, answered, done⟩ := ran_ask.1 goesOn
    obtain ⟨rfl, -⟩ := ran_done.1 done
    obtain ⟨rfl, -⟩ | ⟨rfl, -⟩ := answers_db answered
    · have named : row.isOf (cascadeAttachments postId shared.db) row.boardSlug = true := by
        unfold SessionRow.isOf
        rw [its, beq_self_eq_true, Bool.true_and]
        exact List.contains_iff_mem.2 listed
      refine ⟨.runtime "G7_MEDIA_RETENTION_ALREADY_STARTED", ?_⟩
      exact congrArg Prod.fst (prepareRestore_of_marked shared.clock member marked named)
    · exact ⟨_, rfl⟩
  · obtain ⟨rfl, -⟩ := ran_done.1 rest
    exact ⟨_, rfl⟩

/-- A marked session blocks the restore. -/
theorem blocksRestore_of_marked (valid : s.shared.db.Valid) (member : row ∈ s.shared.db.sessions)
    (marked : row.unmarked = false) : BlocksRestore s row where
  throws := fun attachment there postId its media cascade result after ran =>
    preparePostRestore_throws valid member marked there its media cascade ran
  refuses := by
    intro ids slug named i answer t step
    obtain ⟨call, next, asked⟩ := step.asked_cases
    obtain ⟨rfl, -⟩ | ⟨rfl, -⟩ := answers_db asked.answered
    · exact ⟨_, congrArg Prod.fst (prepareRestore_of_marked s.shared.clock member marked named)⟩
    · exact ⟨_, rfl⟩
  passedOver := by
    intro i ids slug answer t step
    obtain ⟨call, next, asked⟩ := step.asked_cases
    obtain ⟨-, same⟩ | ⟨-, same⟩ := answers_db asked.answered
    · rw [same]
      have found := valid.session member
      obtain ⟨row', found', moved⟩ := session_moved (.cancelRestored ids slug) s.shared.clock found
      rw [found, found']
      cases moved with
      | kept => rfl
      | restored named unmarked => exact absurd marked (by simp [unmarked])
    · rw [same]

end Blocks

/-- **A deletion that was accepted blocks the restore**: in every run whose steps erase markers
of settled uploads only, from the moment the server has accepted a deletion the command asked
for, `preparePostRestore` of the post of the upload's attachment throws, however it is placed
between other steps, and `cancelRestoredPost` leaves the session as it is. -/
theorem accepted_blocks_restore (tables : Tables) (clock : Int) {labels : List Happening} {s : System}
    (run : Trace (Guarded Step ErasesSettled) (tables.system clock) labels s) {uploadId : String}
    (accepted : Accepted s.shared.requests ⟨.reconcile, uploadId⟩) :
    ∃ row, s.shared.db.session uploadId = some row ∧ BlocksRestore s row := by
  have kept : Blocking s ∧ s.shared.db.Valid :=
    run.keeps (P := fun s => Blocking s ∧ s.shared.db.Valid)
      (fun _ _ _ step kept => ⟨kept.1.step step.1 step.2, step_valid step.1 kept.2⟩)
      ⟨blocking_initial tables clock, tables.valid⟩
  obtain ⟨row, found, marked⟩ := kept.1.sent uploadId accepted.open
  exact ⟨row, found, blocksRestore_of_marked kept.2 (List.mem_of_find?_eq_some found) marked⟩

/-! ## Played runs -/

/-- A step that erases nothing. -/
def erasesNothing (s : System) : Happening → Bool
  | .asked _ ⟨.db (.failClaim _ failure), _⟩ => failure.keepInFlight
  | .asked _ ⟨.db (.cancelClaim _), _⟩ => false
  | .asked _ ⟨.db (.beginClaim attachmentId upload), _⟩ =>
      evaluate (s.shared.db.attachment attachmentId) upload != .cancel
  | _ => true

theorem erasesSettled_of_nothing {s : System} {label : Happening}
    (nothing : erasesNothing s label = true) : ErasesSettled s label := by
  rintro i op answer uploadId rfl erases
  cases op with
  | failClaim upload failure =>
      have keeps : failure.keepInFlight = true := nothing
      rw [erases.2] at keeps
      cases keeps
  | cancelClaim upload => cases nothing
  | beginClaim attachmentId upload =>
      have other : (evaluate (s.shared.db.attachment attachmentId) upload != .cancel) = true := nothing
      rw [erases.2.1] at other
      cases other
  | _ => exact erases.elim

/-- The post is deleted, and its media is due. -/
def scheduleDeletion : List (Command Call Event) :=
  [.happen (.trashed [5] "cascade"), .start (.schedulePostDeletion 9 "free" 7), .run 0 2,
    .happen (.clock 700000)]

/-- The server has accepted a deletion of the upload the command asked for. -/
def acceptedSample (s : System) : Bool :=
  s.shared.requests.any fun request =>
    request.content == ⟨.reconcile, sampleUpload⟩ && request.fate == .accepted

theorem accepted_of_sample {s : System} (accepted : acceptedSample s = true) :
    Accepted s.shared.requests ⟨.reconcile, sampleUpload⟩ := by
  obtain ⟨request, member, both⟩ := List.any_eq_true.1 accepted
  rw [Bool.and_eq_true, beq_iff_eq, beq_iff_eq] at both
  exact ⟨request, member, both.1, both.2⟩

/-- The command's first request is accepted, and its answer is lost: the restore is blocked. -/
theorem accepted_blocks_restore_sample : ∃ labels s,
    Trace (Guarded Step ErasesSettled) ((sampleTables true).system 0) labels s ∧
      ∃ row, s.shared.db.session sampleUpload = some row ∧ BlocksRestore s row := by
  have played : ((Script.mk [.unreachable] .unreachable).responder.play erasesNothing
      ⟨(sampleTables true).db, 0, []⟩ (scheduleDeletion ++ [.start (.reconcile (some 50)),
        .run 1 3, .happen (.processed 0 true), .run 1 3])).any acceptedSample = true := by
    decide +kernel
  obtain ⟨labels, s, run, accepted⟩ := Script.rehearsed (sampleTables true) played
  have guarded : Trace (Guarded Step ErasesSettled) ((sampleTables true).system 0) labels s :=
    run.mono fun _ _ _ step => ⟨step.1, erasesSettled_of_nothing step.2⟩
  exact ⟨labels, s, guarded,
    accepted_blocks_restore (sampleTables true) 0 guarded (accepted_of_sample accepted)⟩

/-- Where the transaction of `preparePostRestore` passes, the whole method does. -/
theorem preparePostRestore_passes {shared : Shared} {postId : Int} {slug : String}
    (positive : 1 ≤ postId) (proper : validSlug slug = true)
    (some : (cascadeAttachments postId shared.db).isEmpty = false)
    (passes : (prepareRestore (cascadeAttachments postId shared.db) slug shared.clock shared.db).1 =
      .ok ()) :
    Ran machine.answers (preparePostRestore postId slug).attempt shared (.ok ())
      { shared with
        db := (prepareRestore (cascadeAttachments postId shared.db) slug shared.clock shared.db).2 } := by
  have goesOn : ¬ (decide (postId < 1) || !validSlug slug) = true := by
    rw [proper, Bool.or_eq_true, decide_eq_true_eq]
    simp only [Bool.not_true, Bool.false_eq_true, or_false]
    omega
  unfold preparePostRestore
  rw [if_neg goesOn]
  refine .ask (.ran (.cascadeAttachments postId)) ?_
  show Ran machine.answers (if (cascadeAttachments postId shared.db).isEmpty then (pure () : Adapter Unit)
    else database (.prepareRestore (cascadeAttachments postId shared.db) slug)).attempt shared _ _
  rw [some]
  have answered := @Answers.ran shared (.prepareRestore (cascadeAttachments postId shared.db) slug)
  dsimp only [Op.run] at answered
  rw [passes] at answered
  exact .ask answered .done

/-- The post may be restored: its media attachment is listed, and no session of it is marked. -/
def restorableSample (s : System) : Bool :=
  (s.shared.db.session sampleUpload).any (fun row => row.boardSlug == "free" && row.attachmentId == some 5) &&
    (s.shared.db.attachments.any fun attachment => attachment.id == 5 && attachment.isMediaOf 9 &&
      attachment.triggerType == some "cascade") &&
    match (prepareRestore (cascadeAttachments 9 s.shared.db) "free" s.shared.clock s.shared.db).1 with
    | .ok _ => true
    | .error _ => false

theorem not_blocked_of_sample {s : System} (restorable : restorableSample s = true) :
    ∃ row, s.shared.db.session sampleUpload = some row ∧ ¬ BlocksRestore s row := by
  unfold restorableSample at restorable
  rw [Bool.and_eq_true, Bool.and_eq_true] at restorable
  obtain ⟨⟨known, listed⟩, passes⟩ := restorable
  obtain ⟨row, found, both⟩ := (Option.any_eq_true _ _).1 known
  rw [Bool.and_eq_true, beq_iff_eq, beq_iff_eq] at both
  obtain ⟨attachment, there, its⟩ := List.any_eq_true.1 listed
  rw [Bool.and_eq_true, Bool.and_eq_true, beq_iff_eq, beq_iff_eq] at its
  obtain ⟨⟨five, media⟩, cascade⟩ := its
  refine ⟨row, found, fun blocks => ?_⟩
  have nonempty : (cascadeAttachments 9 s.shared.db).isEmpty = false := by
    rw [List.isEmpty_eq_false_iff]
    refine List.ne_nil_of_mem (List.mem_map_of_mem (List.mem_filter.2 ⟨there, ?_⟩))
    rw [media, cascade]
    rfl
  have ok : (prepareRestore (cascadeAttachments 9 s.shared.db) "free" s.shared.clock s.shared.db).1 =
      .ok () := by
    split at passes
    · assumption
    · cases passes
  have proper : validSlug "free" = true := by decide +kernel
  have positive : (1 : Int) ≤ 9 := by decide
  have ran := preparePostRestore_passes positive proper nonempty ok
  rw [← both.1] at ran
  obtain ⟨thrown, failed⟩ := blocks.throws attachment there 9 (by rw [both.2, five]) media cascade _ _ ran
  cases failed

/-- The first request is accepted and its answer lost, so the marker is kept; the second request
is refused, and the marker is erased: the post of a deleted upload may be restored. -/
theorem restore_revives_deleted : ∃ labels s,
    Trace Step ((sampleTables true).system 0) labels s ∧
      Accepted s.shared.requests ⟨.reconcile, sampleUpload⟩ ∧
      ∃ row, s.shared.db.session sampleUpload = some row ∧ ¬ BlocksRestore s row := by
  have played : ((Script.mk [.unreachable, refusal] .unreachable).responder.play (fun _ _ => true)
      ⟨(sampleTables true).db, 0, []⟩ (scheduleDeletion ++ [.start (.reconcile (some 50)),
        .run 1 3, .happen (.processed 0 true), .run 1 3, .happen (.clock 710000),
        .start (.reconcile (some 50)), .run 2 6])).any
          (fun s => acceptedSample s && restorableSample s) = true := by
    decide +kernel
  obtain ⟨labels, s, run, both⟩ := Script.rehearsed (sampleTables true) played
  obtain ⟨accepted, restorable⟩ := Bool.and_eq_true_iff.1 both
  exact ⟨labels, s, run.unguarded, accepted_of_sample accepted, not_blocked_of_sample restorable⟩

end MediaBooster.Gnuboard7
