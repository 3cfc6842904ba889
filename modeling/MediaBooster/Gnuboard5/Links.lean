/-
# Gnuboard5.Links -- deleted uploads and posts

A post write links an upload whose session says `ready`, and the transaction that links reads that
under the session's lock.  The delete action writes `deletion_pending` there, and the time of the
request in `deletion_requested_at`, which nothing clears and the link does not look at.  `Unready`
is the invariant that the link rests on: a session whose deletion is recorded is not `ready`.

The steps that break it are those of `DeletionsRecorded`: a statement that writes `ready` over a
recorded deletion, which is a poll of the status, or a `prepare` whose answer is older than the
deletion.  A link between the server's acceptance and its record is the other way.  A poll does
write it (`poll_relinks_deleted`): the server says `ready` until the cleanup, with
`deletion_pending` in a field of its own, and the row keeps the metadata the link wants.
-/
import MediaBooster.Gnuboard5.Rehearsal

namespace MediaBooster.Gnuboard5

set_option autoImplicit false

open MediaBooster.Domain
open MediaBooster.Theory.Threads
open MediaBooster.Theory.Requests
open MediaBooster.Theory.Run
open MediaBooster.Theory.Table

/-! ## Statements -/

/-- The statement writes that the upload is ready. -/
def WritesReady (uploadId : String) : Op → Prop
  | .markState upload state => strtolower upload = uploadId ∧ state = "ready"
  | .markReady upload _ => strtolower upload = uploadId
  | _ => False

/-- The link is of the upload, among others. -/
def Link.Names (link : Link) (uploadId : String) : Prop :=
  ∃ upload ∈ link.uploads, strtolower upload.1 = uploadId

/-- What a statement makes of a session: it keeps its upload, is linked only by a link that names
it, and once its deletion is recorded becomes ready only by a statement that writes so. -/
structure Moved (op : Op) (row row' : SessionRow) : Prop where
  uploadId : row'.uploadId = row.uploadId
  wrId : row'.wrId = row.wrId ∨
    ∃ link, op = .linkReady link ∧ link.Names (strtolower row.uploadId)
  marked : row.deletionRequestedAt.isSome = true → row'.deletionRequestedAt.isSome = true
  ready : row'.deletionRequestedAt.isSome = true → row'.state = "ready" →
    row.deletionRequestedAt.isSome = true ∧
      (row.state = "ready" ∨ WritesReady (strtolower row.uploadId) op)

theorem Moved.refl (op : Op) (row : SessionRow) : Moved op row row :=
  ⟨rfl, .inl rfl, id, fun marked ready => ⟨marked, .inl ready⟩⟩

/-- A change of the rows of an upload. -/
theorem moves_updateSession {op : Op} {db : Database} {uploadId : String}
    {change : SessionRow → SessionRow}
    (moves : ∀ row, strtolower row.uploadId = strtolower uploadId → Moved op row (change row)) :
    List.Forall₂ (Moved op) db.sessions (updateSession uploadId change db).sessions :=
  forall₂_updateWhere (Moved.refl op) fun row _ hit => moves row (eq_of_beq hit)

section Linking

variable {link : Link} {db after : Database} {uploadId : String} {alreadyLinked : Option Int}
  {uploads : List (String × Option Int)} {linked : List (String × Int)} {next next' number : Int}

/-- What the loop of a link makes of a session. -/
def LinkedOnly (uploads : List (String × Option Int)) (row row' : SessionRow) : Prop :=
  row' = row ∨ ∃ writeId number, row' = row.linked writeId number ∧
    ∃ upload ∈ uploads, strtolower upload.1 = strtolower row.uploadId

/-- One turn of the loop: the session was ready, and is all that was linked; a file that was added
is the upload's. -/
theorem linkSession_eq_ok
    (turned : linkSession link uploadId alreadyLinked next db = .ok ((next', number), after)) :
    (∃ row ∈ db.sessions, strtolower row.uploadId = strtolower uploadId ∧ row.state = "ready") ∧
      after.sessions =
        updateWhere (fun row => collates row.uploadId uploadId) (SessionRow.linked link.writeId number)
          db.sessions ∧
      ∀ file ∈ after.files, file ∈ db.files ∨ file.file = storedName uploadId "jpg" ∨
        file.file = storedName uploadId "mp4" := by
  unfold linkSession at turned
  split at turned
  · cases turned
  rename_i locked found
  split at turned
  · cases turned
  rename_i ready
  refine ⟨⟨locked, List.mem_of_find?_eq_some found, ?_, not_not.1 ready⟩, ?_⟩
  · have same : collates locked.uploadId uploadId = true := List.find?_some
      (p := fun row : SessionRow => collates row.uploadId uploadId) found
    exact eq_of_beq same
  split at turned
  · split at turned
    · cases turned
    · cases turned
      exact ⟨rfl, fun file member => .inl member⟩
  split at turned
  · cases turned
  dsimp only at turned
  split at turned
  · cases turned
  rename_i filename _
  unfold insertFile at turned
  split at turned
  · cases turned
  rename_i inserted
  split at inserted
  · cases inserted
  · cases inserted
    cases turned
    refine ⟨rfl, fun file member => ?_⟩
    rcases List.mem_append.1 member with old | new
    · exact .inl old
    · rw [List.mem_singleton.1 new]
      refine .inr ?_
      unfold fileOf
      dsimp only
      split
      · exact .inl rfl
      · exact .inr rfl

/-- The loop: every session it links was ready, and nothing else is linked. -/
theorem linkSessions_eq_ok (looped : linkSessions link uploads next db = .ok (linked, after)) :
    (∀ upload ∈ uploads, ∃ row ∈ db.sessions,
        strtolower row.uploadId = strtolower upload.1 ∧ row.state = "ready") ∧
      List.Forall₂ (LinkedOnly uploads) db.sessions after.sessions ∧
      ∀ file ∈ after.files, file ∈ db.files ∨ ∃ upload ∈ uploads,
        file.file = storedName upload.1 "jpg" ∨ file.file = storedName upload.1 "mp4" := by
  induction uploads generalizing next db linked with
  | nil =>
      cases looped
      exact ⟨nofun, List.forall₂_same.2 fun _ _ => .inl rfl, fun file member => .inl member⟩
  | cons upload rest ih =>
      obtain ⟨uploadId, alreadyLinked⟩ := upload
      unfold linkSessions at looped
      split at looped
      · cases looped
      rename_i next number middle turned
      split at looped
      · cases looped
      rename_i linkedRest afterwards looped'
      cases looped
      obtain ⟨⟨row, member, same, ready⟩, updated, files⟩ := linkSession_eq_ok turned
      obtain ⟨readyRest, linkedOnly, filesRest⟩ := ih looped'
      have first : List.Forall₂ (LinkedOnly [(uploadId, alreadyLinked)]) db.sessions middle.sessions := by
        rw [updated]
        exact forall₂_updateWhere (fun _ => .inl rfl) fun row _ hit =>
          .inr ⟨_, _, rfl, (uploadId, alreadyLinked), List.mem_singleton_self _, (eq_of_beq hit).symm⟩
      refine ⟨?_, ?_, ?_⟩
      · intro upload member'
        rcases List.mem_cons.1 member' with rfl | later
        · exact ⟨row, member, same, ready⟩
        · obtain ⟨row', member', same', ready'⟩ := readyRest upload later
          obtain ⟨before, there, moved⟩ := forall₂_mem_right first member'
          rcases moved with rfl | ⟨writeId, number, rfl, -⟩
          · exact ⟨row', there, same', ready'⟩
          · exact ⟨before, there, same', ready'⟩
      · refine forall₂_trans ?_ (first.imp ?_) (linkedOnly.imp ?_)
        · rintro a b c (rfl | ⟨writeId, number, rfl, upload, named, its⟩) moved
          · exact moved
          · rcases moved with rfl | ⟨writeId', number', rfl, -⟩
            · exact .inr ⟨writeId, number, rfl, upload, named, its⟩
            · exact .inr ⟨writeId', number', rfl, upload, named, its⟩
        · rintro a b (rfl | ⟨writeId, number, rfl, upload, named, its⟩)
          · exact .inl rfl
          · rw [List.mem_singleton.1 named] at its
            exact .inr ⟨writeId, number, rfl, _, List.mem_cons_self, its⟩
        · rintro a b (rfl | ⟨writeId, number, rfl, upload, named, its⟩)
          · exact .inl rfl
          · exact .inr ⟨writeId, number, rfl, upload, List.mem_cons_of_mem _ named, its⟩
      · intro file member'
        rcases filesRest file member' with old | ⟨upload, named, its⟩
        · rcases files file old with older | its
          · exact .inl older
          · exact .inr ⟨_, List.mem_cons_self, its⟩
        · exact .inr ⟨upload, List.mem_cons_of_mem _ named, its⟩

/-- What a link does, if anything. -/
theorem linkLocked_cases (link : Link) (db : Database) :
    (linkLocked link db).2 = db ∨
      ((∀ upload ∈ link.uploads, ∃ row ∈ db.sessions,
          strtolower row.uploadId = strtolower upload.1 ∧ row.state = "ready") ∧
        List.Forall₂ (LinkedOnly link.uploads) db.sessions (linkLocked link db).2.sessions ∧
        ∀ file ∈ (linkLocked link db).2.files, file ∈ db.files ∨ ∃ upload ∈ link.uploads,
          file.file = storedName upload.1 "jpg" ∨ file.file = storedName upload.1 "mp4") := by
  unfold linkLocked
  split
  · exact .inl rfl
  · rename_i linked after looped
    have whole := linkSessions_eq_ok looped
    exact .inr whole

end Linking

section Recording

variable {batch : Batch} {db after : Database} {index : Nat} {files : List (FileIntent × Instruction)}

/-- The session of every upload is one. -/
def Keyed (db : Database) : Prop := KeyedBy (fun row => strtolower row.uploadId) db.sessions

/-- New sessions stand after the others, clash with none, and are of no post and not deleted. -/
theorem insertSessions_eq_ok (inserted : insertSessions batch index files db = .ok after) :
    (∃ fresh, after.sessions = db.sessions ++ fresh ∧
        ∀ row ∈ fresh, row.wrId = none ∧ row.deletionRequestedAt = none) ∧
      after.files = db.files ∧ (Keyed db → Keyed after) := by
  induction files generalizing index db with
  | nil =>
      cases inserted
      exact ⟨⟨[], (List.append_nil _).symm, by simp⟩, rfl, id⟩
  | cons pair rest ih =>
      obtain ⟨file, upload⟩ := pair
      unfold insertSessions at inserted
      split at inserted
      · cases inserted
      rename_i middle first
      unfold insertSession at first
      split at first
      · cases first
      rename_i apart
      cases first
      obtain ⟨⟨fresh, appended, untouched⟩, same, keyed⟩ := ih inserted
      refine ⟨⟨batch.row index file upload :: fresh, ?_, ?_⟩, same, fun before => keyed ?_⟩
      · rw [appended, List.append_assoc, List.singleton_append]
      · intro row member
        rcases List.mem_cons.1 member with rfl | later
        · exact ⟨rfl, rfl⟩
        · exact untouched row later
      · show ((db.sessions ++ [_]).map _).Nodup
        rw [List.map_append, List.nodup_append]
        refine ⟨before, List.nodup_singleton _, ?_⟩
        rintro key member _ new rfl
        rw [List.map_singleton, List.mem_singleton] at new
        obtain ⟨row, there, named⟩ := List.mem_map.1 member
        refine apart (List.any_eq_true.2 ⟨row, there, ?_⟩)
        unfold SessionRow.clashes collates
        rw [Bool.or_eq_true, beq_iff_eq]
        exact .inl (new.symm.trans named.symm)

/-- What a batch does, if anything. -/
theorem insertBatch_cases (batch : Batch) (db : Database) :
    (insertBatch batch db).2 = db ∨
      ((∃ fresh, (insertBatch batch db).2.sessions = db.sessions ++ fresh ∧
          ∀ row ∈ fresh, row.wrId = none ∧ row.deletionRequestedAt = none) ∧
        (insertBatch batch db).2.files = db.files ∧ (Keyed db → Keyed (insertBatch batch db).2)) := by
  unfold insertBatch
  split
  · rename_i after inserted
    exact .inr (insertSessions_eq_ok inserted)
  · exact .inl rfl

end Recording

section Ops

variable {db : Database} {now : Int}

/-- **What a statement does to the sessions**: it moves each of them, and may add new ones. -/
theorem Op.moves_sessions (op : Op) (now : Int) (db : Database) :
    ∃ moved fresh, (op.run now db).2.sessions = moved ++ fresh ∧
      List.Forall₂ (Moved op) db.sessions moved ∧
      ∀ row ∈ fresh, row.wrId = none ∧ row.deletionRequestedAt = none := by
  have unchanged : (op.run now db).2.sessions = db.sessions → ∃ moved fresh,
      (op.run now db).2.sessions = moved ++ fresh ∧ List.Forall₂ (Moved op) db.sessions moved ∧
        ∀ row ∈ fresh, row.wrId = none ∧ row.deletionRequestedAt = none := fun same =>
    ⟨db.sessions, [], by rw [same, List.append_nil],
      List.forall₂_same.2 fun row _ => Moved.refl op row, by simp⟩
  have changed : List.Forall₂ (Moved op) db.sessions (op.run now db).2.sessions → ∃ moved fresh,
      (op.run now db).2.sessions = moved ++ fresh ∧ List.Forall₂ (Moved op) db.sessions moved ∧
        ∀ row ∈ fresh, row.wrId = none ∧ row.deletionRequestedAt = none := fun moves =>
    ⟨_, [], (List.append_nil _).symm, moves, by simp⟩
  cases op with
  | recordBatch batch =>
      rcases insertBatch_cases batch db with same | ⟨⟨fresh, appended, untouched⟩, -, -⟩
      · exact unchanged (congrArg Database.sessions same)
      · exact ⟨db.sessions, fresh, appended, List.forall₂_same.2 fun row _ => Moved.refl _ row, untouched⟩
  | findOwned | countFiles | linkTarget | dueDeletions => exact unchanged rfl
  | markState upload state =>
      refine changed (moves_updateSession fun row same => ⟨rfl, .inl rfl, id, ?_⟩)
      rintro marked ready
      exact ⟨marked, .inr ⟨same.symm, ready⟩⟩
  | markReady upload asset =>
      refine changed (moves_updateSession fun row same => ⟨rfl, .inl rfl, id, ?_⟩)
      rintro marked -
      exact ⟨marked, .inr same.symm⟩
  | linkReady link =>
      rcases linkLocked_cases link db with same | ⟨-, linked, -⟩
      · exact unchanged (congrArg Database.sessions same)
      · refine changed (linked.imp ?_)
        rintro row row' (rfl | ⟨writeId, number, rfl, upload, named, its⟩)
        · exact Moved.refl _ row'
        · exact ⟨rfl, .inr ⟨link, rfl, upload, named, its⟩, id, fun marked ready => ⟨marked, .inl ready⟩⟩
  | scheduleDeletion upload days =>
      refine changed (forall₂_updateWhere (Moved.refl _) fun row _ _ => ⟨rfl, .inl rfl, id, ?_⟩)
      rintro - ready
      exact absurd (show "deletion_scheduled" = "ready" from ready) (by decide)
  | completeDeletionRequest upload =>
      refine changed (moves_updateSession fun row same => ⟨rfl, .inl rfl, fun _ => rfl, ?_⟩)
      rintro - ready
      exact absurd (show "deletion_pending" = "ready" from ready) (by decide)
  | failDeletionRequest upload safeCode =>
      exact changed (moves_updateSession fun row same =>
        ⟨rfl, .inl rfl, id, fun marked ready => ⟨marked, .inl ready⟩⟩)

theorem Op.keyed (op : Op) (keyed : Keyed db) : Keyed (op.run now db).2 := by
  have updated : ∀ (hit : SessionRow → Bool) (change : SessionRow → SessionRow),
      (∀ row, (change row).uploadId = row.uploadId) →
      KeyedBy (fun row => strtolower row.uploadId) (updateWhere hit change db.sessions) :=
    fun hit change keeps => keyed.updateWhere fun row => by rw [keeps row]
  cases op with
  | recordBatch batch =>
      rcases insertBatch_cases batch db with same | ⟨-, -, kept⟩
      · show Keyed (insertBatch batch db).2
        rw [same]
        exact keyed
      · exact kept keyed
  | findOwned | countFiles | linkTarget | dueDeletions => exact keyed
  | linkReady link =>
      rcases linkLocked_cases link db with same | ⟨-, linked, -⟩
      · show Keyed (linkLocked link db).2
        rw [same]
        exact keyed
      · refine KeyedBy.of_forall₂ linked ?_ keyed
        rintro row row' (rfl | ⟨writeId, number, rfl, -⟩) <;> rfl
  | markState | markReady | scheduleDeletion | completeDeletionRequest | failDeletionRequest =>
      exact updated _ _ fun _ => rfl

end Ops

section Names

/-- Stored names of one upload are of that upload. -/
theorem strtolower_of_storedName {upload other extension extension' : String}
    (same : strtolower (storedName upload extension) = strtolower (storedName other extension'))
    (length : extension.length = extension'.length) : strtolower upload = strtolower other := by
  unfold storedName at same
  rw [strtolower_append, strtolower_append, strtolower_append, strtolower_append, strtolower_append,
    strtolower_append] at same
  have texts := congrArg String.toList same
  rw [String.toList_append, String.toList_append, String.toList_append, String.toList_append,
    String.toList_append, String.toList_append] at texts
  have suffix : (strtolower extension).toList.length = (strtolower extension').toList.length := by
    simp only [strtolower, String.toList_ofList, List.length_map, String.length_toList]
    exact length
  have front := List.append_inj_left' texts suffix
  have middle := List.append_inj_left' front rfl
  exact String.toList_inj.1 (List.append_cancel_left middle)

/-- A file of an upload that was stored under another's name. -/
theorem strtolower_of_isOf {file : FileRow} {upload other : String} (isOf : file.isOf other = true)
    (stored : file.file = storedName upload "jpg" ∨ file.file = storedName upload "mp4") :
    strtolower upload = strtolower other := by
  unfold FileRow.isOf collates at isOf
  rw [Bool.or_eq_true, beq_iff_eq, beq_iff_eq] at isOf
  rcases stored with stored | stored <;> rw [stored] at isOf <;> rcases isOf with same | same <;>
    exact strtolower_of_storedName same rfl

end Names

/-! ## Deleted uploads -/

/-- The deletion of the upload is recorded. -/
def Recorded (db : Database) (uploadId : String) : Prop :=
  ∃ row ∈ db.sessions, strtolower row.uploadId = uploadId ∧ row.deletionRequestedAt.isSome = true

/-- The server has accepted the deletion its user has asked for. -/
def Deleted (s : Shared) (uploadId : String) : Prop := Accepted s.requests ⟨.user, uploadId⟩

/-- A recorded deletion is not overwritten, and no link of a deleted upload comes between the
deletion and its record. -/
structure DeletionsRecorded (s : System) (label : Happening) : Prop where
  stays : ∀ i op answer uploadId, label = .asked i ⟨.db op, answer⟩ →
    Recorded s.shared.db uploadId → ¬ WritesReady uploadId op
  links : ∀ i link answer uploadId, label = .asked i ⟨.db (.linkReady link), answer⟩ →
    Deleted s.shared uploadId → link.Names uploadId → Recorded s.shared.db uploadId

/-- A session whose deletion is recorded is not ready. -/
structure Unready (db : Database) : Prop where
  keyed : Keyed db
  unready : ∀ row ∈ db.sessions, row.deletionRequestedAt.isSome = true → row.state ≠ "ready"

section Steps

variable {s t : System} {label : Happening}

theorem unready_installed (boards : Boards) (clock : Int) :
    Unready (boards.installed clock).shared.db where
  keyed := KeyedBy.nil _
  unready := by
    intro row member
    cases member

/-- The host's events leave the sessions. -/
theorem occur_sessions {s t : Shared} {event : Event} (occurs : s.occur event = some t) :
    t.db.sessions = s.db.sessions := by
  cases event with
  | processed ticket accepts =>
      obtain ⟨requests, -, same⟩ := Option.map_eq_some_iff.1 occurs
      rw [← same]
  | filed file =>
      unfold Shared.occur at occurs
      dsimp only at occurs
      split at occurs
      · cases occurs
      · rw [← Option.some.inj occurs]
  | _ => rw [← Option.some.inj occurs]

/-- **Every step keeps deleted sessions from being ready.** -/
theorem Unready.step (unready : Unready s.shared.db) (step : Step s label t)
    (guard : DeletionsRecorded s label) : Unready t.shared.db := by
  have undisturbed : t.shared.db.sessions = s.shared.db.sessions → Unready t.shared.db := by
    intro same
    refine ⟨?_, ?_⟩
    · unfold Keyed
      rw [same]
      exact unready.keyed
    · rw [same]
      exact unready.unready
  rcases step_cases step with ⟨i, op, rfl, same⟩ | ⟨event, rfl, occurs⟩ | same
  · rw [same]
    refine ⟨op.keyed unready.keyed, fun row' member marked ready => ?_⟩
    obtain ⟨moved, fresh, appended, moves, untouched⟩ := op.moves_sessions s.shared.clock s.shared.db
    rw [appended] at member
    rcases List.mem_append.1 member with old | new
    · obtain ⟨row, there, its⟩ := forall₂_mem_right moves old
      obtain ⟨before, wasReady | writes⟩ := its.ready marked ready
      · exact unready.unready row there before wasReady
      · exact guard.stays i op _ _ rfl ⟨row, there, rfl, before⟩ writes
    · rw [(untouched row' new).2] at marked
      cases marked
  · exact undisturbed (occur_sessions occurs)
  · exact undisturbed (congrArg Database.sessions same)

/-- A link that names a deleted upload does nothing. -/
theorem linkLocked_of_deleted {link : Link} {uploadId : String} (unready : Unready s.shared.db)
    (names : link.Names uploadId) (recorded : Recorded s.shared.db uploadId) :
    (linkLocked link s.shared.db).2 = s.shared.db := by
  rcases linkLocked_cases link s.shared.db with same | ⟨ready, -⟩
  · exact same
  · obtain ⟨upload, named, its⟩ := names
    obtain ⟨row, member, same, isReady⟩ := ready upload named
    obtain ⟨row', member', same', marked⟩ := recorded
    obtain rfl : row = row' := unready.keyed.eq_of_key member member' (by
      show strtolower row.uploadId = strtolower row'.uploadId
      rw [same, its, same'])
    exact absurd isReady (unready.unready row member marked)

/-- A file in the plugin's storage that a statement adds is of an upload its link names. -/
theorem Op.files_cases (op : Op) (now : Int) (db : Database) :
    ∀ file ∈ (op.run now db).2.files, file ∈ db.files ∨ ∃ link, op = .linkReady link ∧
      ∃ upload ∈ link.uploads,
        file.file = storedName upload.1 "jpg" ∨ file.file = storedName upload.1 "mp4" := by
  intro file member
  cases op with
  | recordBatch batch =>
      change file ∈ (insertBatch batch db).2.files at member
      rcases insertBatch_cases batch db with same | ⟨-, same, -⟩ <;> rw [same] at member <;>
        exact .inl member
  | linkReady link =>
      change file ∈ (linkLocked link db).2.files at member
      rcases linkLocked_cases link db with same | ⟨-, -, files⟩
      · rw [same] at member
        exact .inl member
      · rcases files file member with old | new
        · exact .inl old
        · exact .inr ⟨link, rfl, new⟩
  | _ => exact .inl member

/-- The upload is of the post it was of before, and got no file. -/
structure NotLinked (uploadId : String) (db db' : Database) : Prop where
  post : ∀ row' ∈ db'.sessions, strtolower row'.uploadId = uploadId → row'.wrId.isSome = true →
    ∃ row ∈ db.sessions, strtolower row.uploadId = uploadId ∧ row.wrId = row'.wrId
  file : ∀ file ∈ db'.files, file.storage = "g7mediabooster" → file.isOf uploadId = true →
    file ∈ db.files

/-- **No step links a deleted upload.** -/
theorem notLinked_step (unready : Unready s.shared.db) (step : Step s label t)
    (guard : DeletionsRecorded s label) {uploadId : String} (deleted : Deleted s.shared uploadId)
    (lower : strtolower uploadId = uploadId) : NotLinked uploadId s.shared.db t.shared.db := by
  have undisturbed : t.shared.db.sessions = s.shared.db.sessions →
      (∀ file ∈ t.shared.db.files, file ∈ s.shared.db.files ∨ file.storage ≠ "g7mediabooster") →
      NotLinked uploadId s.shared.db t.shared.db := by
    intro same files
    refine ⟨fun row' member named linked => ⟨row', same ▸ member, named, rfl⟩, ?_⟩
    intro file member ours _
    exact (files file member).resolve_right (not_not_intro ours)
  rcases step_cases step with ⟨i, op, rfl, same⟩ | ⟨event, rfl, occurs⟩ | same
  · by_cases names : ∃ link, op = .linkReady link ∧ link.Names uploadId
    · obtain ⟨link, rfl, named⟩ := names
      have recorded := guard.links i link _ uploadId rfl deleted named
      have unchanged : t.shared.db = s.shared.db := same.trans (linkLocked_of_deleted unready named recorded)
      exact undisturbed (congrArg Database.sessions unchanged) fun file member => .inl (unchanged ▸ member)
    · obtain ⟨moved, fresh, appended, moves, untouched⟩ := op.moves_sessions s.shared.clock s.shared.db
      refine ⟨fun row' member named linked => ?_, fun file member ours isOf => ?_⟩
      · rw [same, appended] at member
        rcases List.mem_append.1 member with old | new
        · obtain ⟨row, there, its⟩ := forall₂_mem_right moves old
          rw [its.uploadId] at named
          refine ⟨row, there, named, (its.wrId.resolve_right ?_).symm⟩
          rintro ⟨link, rfl, upload, listed, known⟩
          exact names ⟨link, rfl, upload, listed, known.trans named⟩
        · rw [(untouched row' new).1] at linked
          cases linked
      · rw [same] at member
        refine (op.files_cases s.shared.clock s.shared.db file member).resolve_right ?_
        rintro ⟨link, rfl, upload, listed, stored⟩
        exact names ⟨link, rfl, upload, listed, (strtolower_of_isOf isOf stored).trans lower⟩
  · refine undisturbed (occur_sessions occurs) fun file member => ?_
    cases event with
    | processed ticket accepts =>
        obtain ⟨requests, -, same⟩ := Option.map_eq_some_iff.1 occurs
        rw [← same] at member
        exact .inl member
    | filed file' =>
        unfold Shared.occur at occurs
        dsimp only at occurs
        split at occurs
        · cases occurs
        · rename_i other
          rw [← Option.some.inj occurs] at member
          rcases List.mem_append.1 member with old | new
          · exact .inl old
          · rw [List.mem_singleton.1 new]
            exact .inr other
    | unfiled boardTable wrId bfNo =>
        rw [← Option.some.inj occurs] at member
        exact .inl (List.mem_of_mem_filter member)
    | _ =>
        rw [← Option.some.inj occurs] at member
        exact .inl member
  · exact undisturbed (congrArg Database.sessions same) fun file member => .inl (same ▸ member)

end Steps

/-! ## Runs -/

/-- **Deleted uploads are never linked**: in every run that leaves recorded deletions alone, once
the server has accepted a deletion the user asked for, no step links the upload to a post. -/
theorem deleted_never_linked (boards : Boards) (clock : Int) (labels : List Happening) (s : System)
    (run : Trace (Guarded Step DeletionsRecorded) (boards.installed clock) labels s) (uploadId : String)
    (deleted : Deleted s.shared (strtolower uploadId)) (label : Happening) (t : System)
    (step : Guarded Step DeletionsRecorded s label t) :
    NotLinked (strtolower uploadId) s.shared.db t.shared.db := by
  have unready : Unready s.shared.db := run.keeps (P := fun s => Unready s.shared.db)
    (fun _ _ _ step unready => unready.step step.1 step.2) (unready_installed boards clock)
  exact notLinked_step unready step.1 step.2 deleted (strtolower_strtolower uploadId)

/-! ## Played runs -/

/-- The user's deletion of the sample is accepted, and the sample is of no post. -/
def deletedSample (s : System) : Bool :=
  (s.shared.requests.any fun request =>
    request.content == ⟨.user, strtolower sampleUpload⟩ && request.fate == .accepted) &&
  s.shared.db.sessions.all fun row => row.wrId.isNone

theorem deleted_of_sample {s : System} (deleted : deletedSample s = true) :
    Deleted s.shared (strtolower sampleUpload) ∧ ∀ row ∈ s.shared.db.sessions, row.wrId = none := by
  unfold deletedSample at deleted
  obtain ⟨asked, free⟩ := Bool.and_eq_true_iff.1 deleted
  obtain ⟨request, member, both⟩ := List.any_eq_true.1 asked
  rw [Bool.and_eq_true, beq_iff_eq, beq_iff_eq] at both
  refine ⟨⟨request, member, both.1, both.2⟩, fun row there => ?_⟩
  exact Option.isNone_iff_eq_none.1 (List.all_eq_true.1 free row there)

/-- The sample's deletion is recorded. -/
def isRecorded (db : Database) : Bool :=
  db.sessions.any fun row => row.uploadId == sampleUpload && row.deletionRequestedAt.isSome

/-- A step that writes no `ready` over a recorded deletion, and links the sample only when its
deletion is recorded. -/
def recordsKept (s : System) : Happening → Bool
  | .asked _ ⟨.db (.markState _ _), _⟩ => false
  | .asked _ ⟨.db (.markReady _ _), _⟩ =>
      s.shared.db.sessions.all fun row => row.deletionRequestedAt.isNone
  | .asked _ ⟨.db (.linkReady link), _⟩ => isRecorded s.shared.db &&
      link.uploads.all fun upload => upload.1 == sampleUpload
  | _ => true

theorem recorded_of_kept {s : System} {label : Happening} (kept : recordsKept s label = true) :
    DeletionsRecorded s label where
  stays := by
    rintro i op answer uploadId rfl ⟨row, member, -, marked⟩ writes
    cases op with
    | markState => cases kept
    | markReady upload asset =>
        have unmarked : (s.shared.db.sessions.all fun row => row.deletionRequestedAt.isNone) = true := kept
        have none := List.all_eq_true.1 unmarked row member
        rw [Option.isNone_iff_eq_none.1 none] at marked
        cases marked
    | _ => exact writes.elim
  links := by
    rintro i link answer uploadId rfl - ⟨upload, listed, named⟩
    have both : (isRecorded s.shared.db && link.uploads.all fun upload => upload.1 == sampleUpload) =
      true := kept
    obtain ⟨recorded, all⟩ := Bool.and_eq_true_iff.1 both
    obtain ⟨row, member, its⟩ := List.any_eq_true.1 recorded
    rw [Bool.and_eq_true, beq_iff_eq] at its
    have same := eq_of_beq (List.all_eq_true.1 all upload listed)
    refine ⟨row, member, ?_, its.2⟩
    rw [its.1, ← named, same]

/-- The upload was found ready for the post before it was deleted: the link does not happen. -/
theorem deleted_never_linked_sample : ∃ labels s label t,
    Trace (Guarded Step DeletionsRecorded) (sampleBoards.installed 0) labels s ∧
      Step s label t ∧ NotLinked (strtolower sampleUpload) s.shared.db t.shared.db ∧
      t.shared.db.sessions.length = 1 := by
  have played : (sampleScript.responder.performAll recordsKept
      (prepareSample ++ [.start (.write sampleWrite), .run 2 2] ++ deleteSample 3)
      ⟨sampleBoards.installed 0, []⟩).any (fun stage =>
        deletedSample stage.state && (sampleScript.responder.exchange recordsKept 2 stage).any
          fun next => next.state.shared.db.sessions.length == 1) = true := by
    decide +kernel
  obtain ⟨labels, s, label, t, run, deleted, step, kept, one⟩ :=
    Script.rehearsed_step sampleBoards deletedSample
      (fun t => t.shared.db.sessions.length == 1) played
  have guarded : Trace (Guarded Step DeletionsRecorded) (sampleBoards.installed 0) labels s :=
    run.mono fun _ _ _ step => ⟨step.1, recorded_of_kept step.2⟩
  exact ⟨labels, s, label, t, guarded, step, deleted_never_linked sampleBoards 0 labels s guarded
    sampleUpload (deleted_of_sample deleted).1 label t ⟨step, recorded_of_kept kept⟩, eq_of_beq one⟩

/-- The owner deletes a prepared upload, and the deletion is recorded; a poll of its status writes
`ready` over it, and a post of the owner is linked to it. -/
theorem poll_relinks_deleted : ∃ labels s label t,
    Trace Step (sampleBoards.installed 0) labels s ∧ Deleted s.shared (strtolower sampleUpload) ∧
      (∀ row ∈ s.shared.db.sessions, row.wrId = none) ∧ Step s label t ∧
      ∃ row, t.shared.db.session sampleUpload = some row ∧ row.wrId = some 9 ∧
        row.deletionRequestedAt = some 0 := by
  have played : (sampleScript.responder.performAll (fun _ _ => true)
      (prepareSample ++ deleteSample 2 ++ [.start (.status sampleAsked), .run 3 3,
        .start (.write sampleWrite), .run 4 2])
      ⟨sampleBoards.installed 0, []⟩).any (fun stage =>
        deletedSample stage.state && (sampleScript.responder.exchange (fun _ _ => true) 4 stage).any
          fun next => (next.state.shared.db.session sampleUpload).any fun row =>
            row.wrId == some 9 && row.deletionRequestedAt == some 0) = true := by
    decide +kernel
  obtain ⟨labels, s, label, t, run, deleted, step, -, linked⟩ :=
    Script.rehearsed_step sampleBoards deletedSample
      (fun t => (t.shared.db.session sampleUpload).any fun row =>
        row.wrId == some 9 && row.deletionRequestedAt == some 0) played
  obtain ⟨accepted, free⟩ := deleted_of_sample deleted
  obtain ⟨row, found, both⟩ := (Option.any_eq_true _ _).1 linked
  rw [Bool.and_eq_true, beq_iff_eq, beq_iff_eq] at both
  exact ⟨labels, s, label, t, run.unguarded, accepted, free, step, row, found, both⟩

end MediaBooster.Gnuboard5
