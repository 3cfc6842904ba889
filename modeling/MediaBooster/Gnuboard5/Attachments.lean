/-
# Gnuboard5.Attachments -- what a call of `linkReady` knows

What the reads of a transaction have found stays true while the name of the post is held: nobody
else writes files of that post, and the row of a session that is linked is in the way of everybody
who would link it elsewhere.  `LinkingSound` says what is known in the second loop, a turn keeps it
(`turn_sound`), the commits of other calls keep it (`LinkingSound.kept`), and a commit that knows
it leaves tables that agree (`commit_agreed`) and what the call returns true (`commit_outcome`).
-/
import MediaBooster.Gnuboard5.Locking

namespace MediaBooster.Gnuboard5

set_option autoImplicit false

open MediaBooster.Domain
open MediaBooster.Theory.Run
open MediaBooster.Theory.Table

/-! ## Names -/

theorem collates_iff {first second : String} :
    collates first second = true ↔ strtolower first = strtolower second := beq_iff_eq

theorem collates_trans {first second third : String} (one : collates first second = true)
    (two : collates second third = true) : collates first third = true := by
  rw [collates_iff] at one two ⊢
  exact one.trans two

theorem collates_symm {first second : String} (same : collates first second = true) :
    collates second first = true := by
  rw [collates_iff] at same ⊢
  exact same.symm

/-- A file is of one upload only. -/
theorem collates_of_isOf {file : FileRow} {upload other : String} (isOf : file.isOf upload = true)
    (isOther : file.isOf other = true) : collates upload other = true := by
  unfold FileRow.isOf at isOf isOther
  rw [Bool.or_eq_true, collates_iff, collates_iff] at isOf isOther
  rw [collates_iff]
  rcases isOf with one | one <;> rcases isOther with two | two <;>
    exact strtolower_of_storedName (one.symm.trans two) rfl

theorem isOf_of_collates {file : FileRow} {upload other : String} (isOf : file.isOf upload = true)
    (same : collates upload other = true) : file.isOf other = true := by
  rw [collates_iff] at same
  have stored : ∀ extension, strtolower (storedName upload extension) =
      strtolower (storedName other extension) := by
    intro extension
    unfold storedName
    rw [strtolower_append, strtolower_append, strtolower_append, same, ← strtolower_append,
      ← strtolower_append, ← strtolower_append]
  unfold FileRow.isOf at isOf ⊢
  rw [Bool.or_eq_true, collates_iff, collates_iff] at isOf ⊢
  rw [← stored, ← stored]
  exact isOf

/-! ## Relinking -/

section Relink

variable {writeId : Int} {entries : List Entry} {row : SessionRow}

theorem relinkBy_uploadId (entry : Entry) :
    (relinkBy writeId row entry).uploadId = row.uploadId := by
  unfold relinkBy
  split <;> rfl

/-- **What the updates make of a session**: nothing, or the link of one of its entries. -/
theorem relink_cases (writeId : Int) (entries : List Entry) (row : SessionRow) :
    (relink writeId entries row = row ∧
      ∀ entry ∈ entries, collates row.uploadId entry.uploadId = false) ∨
    ∃ entry ∈ entries, collates row.uploadId entry.uploadId = true ∧
      relink writeId entries row = row.linked writeId entry.number := by
  induction entries generalizing row with
  | nil => exact .inl ⟨rfl, nofun⟩
  | cons entry rest ih =>
      show relink writeId rest (relinkBy writeId row entry) = row ∧ _ ∨ _
      have id : (relinkBy writeId row entry).uploadId = row.uploadId := relinkBy_uploadId entry
      by_cases hit : collates row.uploadId entry.uploadId = true
      · have first : relinkBy writeId row entry = row.linked writeId entry.number := if_pos hit
        right
        rcases ih (relinkBy writeId row entry) with ⟨same, -⟩ | ⟨later, member, hits, linked⟩
        · exact ⟨entry, List.mem_cons_self, hit, same.trans first⟩
        · rw [id] at hits
          refine ⟨later, List.mem_cons_of_mem _ member, hits, linked.trans ?_⟩
          rw [first]
          rfl
      · have first : relinkBy writeId row entry = row := if_neg hit
        rw [first]
        rcases ih row with ⟨same, others⟩ | ⟨later, member, hits, linked⟩
        · refine .inl ⟨same, fun other member => ?_⟩
          rcases List.mem_cons.1 member with rfl | further
          · exact Bool.not_eq_true _ ▸ hit
          · exact others other further
        · exact .inr ⟨later, List.mem_cons_of_mem _ member, hits,
            (congrArg (relink writeId rest) first).trans linked⟩

theorem relink_kept (writeId : Int) (entries : List Entry) (row : SessionRow) :
    (relink writeId entries row).uploadId = row.uploadId ∧
      (relink writeId entries row).boTable = row.boTable ∧
      (relink writeId entries row).state = row.state := by
  rcases relink_cases writeId entries row with ⟨same, -⟩ | ⟨entry, -, -, linked⟩
  · rw [same]
    exact ⟨rfl, rfl, rfl⟩
  · rw [linked]
    exact ⟨rfl, rfl, rfl⟩

end Relink

/-! ## What a call knows -/

/-- What an upload of the loop has come to: its session is ready, and the file it has at the post
is the one that was there, or one that is inserted with the commit. -/
structure EntrySound (db : Database) (call : LinkCall) (upload : String × Option Int)
    (entry : Entry) : Prop where
  uploadId : entry.uploadId = upload.1
  session : ∃ row ∈ db.sessions, collates row.uploadId entry.uploadId = true ∧
    collates row.boTable call.board.boTable = true ∧ row.state = "ready" ∧
    (upload.2 = none → row.wrId = none)
  found : ∀ number, upload.2 = some number → entry.number = number ∧ entry.inserted = none
  new : upload.2 = none → ∃ file, entry.inserted = some file ∧
    file.boTable = call.board.boTable ∧ file.wrId = call.writeId ∧ file.bfNo = entry.number ∧
    file.isOf entry.uploadId = true

/-- What a call knows in its second loop. -/
structure LinkingSound (db : Database) (call : LinkCall) (loop : Linking) : Prop where
  boardTable : loop.link.boardTable = call.board.boTable
  writeTable : loop.link.writeTable = call.board.writeTable
  writeId : loop.link.writeId = call.writeId
  uploads : loop.link.uploads.map Prod.fst = call.uploadIds
  posted : db.posts.any call.isPost = true
  existing : loop.link.existing = (call.files db).length
  next : loop.link.next = maxNumber (call.files db) + 1
  limit : (loop.link.existing + (loop.link.uploads.filter fun upload => upload.2.isNone).length : Int)
    ≤ call.maximumFiles
  found : ∀ upload ∈ loop.link.uploads, ∀ number, upload.2 = some number →
    ∃ file ∈ call.files db, file.isOf upload.1 = true ∧ file.bfNo = number
  absent : ∀ upload ∈ loop.link.uploads, upload.2 = none →
    ∀ file ∈ call.files db, file.isOf upload.1 = false
  turned : ∃ done, loop.link.uploads = done ++ loop.left ∧
    List.Forall₂ (EntrySound db call) done loop.entries
  numbers : (loop.inserted.map FileRow.bfNo).Pairwise (· < ·)
  bounds : loop.link.next ≤ loop.next ∧
    ∀ file ∈ loop.inserted, loop.link.next ≤ file.bfNo ∧ file.bfNo < loop.next
  apart : loop.entries.Pairwise fun earlier later => later.inserted.isSome = true →
    collates earlier.uploadId later.uploadId = false

/-- What a call has come to. -/
structure Outcome (db : Database) (call : LinkCall) (linked : List (String × Int)) : Prop where
  uploads : linked.map Prod.fst = call.uploadIds
  files : ∀ upload ∈ linked, ∃ file ∈ call.files db, file.isOf upload.1 = true ∧
    file.bfNo = upload.2
  sessions : ∀ upload ∈ linked, ∃ row ∈ db.sessions, collates row.uploadId upload.1 = true ∧
    row.state = "ready"
  posted : db.posts.any call.isPost = true
  counted : ∀ post ∈ db.posts, call.isPost post = true → post.wrFile = (call.files db).length

/-- What a call knows. -/
def PhaseSound (db : Database) (call : LinkCall) : Phase → Prop
  | .looping loop => LinkingSound db call loop
  | .committed linked | .finished (.ok linked) => Outcome db call linked
  | _ => True

/-! ## The commit -/

section Commit

variable {db : Database} {call : LinkCall} {loop : Linking}

theorem mem_files {file : FileRow} : file ∈ call.files db ↔ file ∈ db.files ∧
    collates file.boTable call.board.boTable = true ∧ file.wrId = call.writeId := by
  unfold LinkCall.files Database.filesOf
  rw [List.mem_filter, Bool.and_eq_true, beq_iff_eq]

/-- No number of the post is over the largest. -/
theorem le_maxNumber {files : List FileRow} {file : FileRow} (member : file ∈ files) :
    file.bfNo ≤ maxNumber files := by
  have grows : ∀ (files : List FileRow) (most : Int),
      most ≤ files.foldl (fun most file => max most file.bfNo) most := by
    intro files
    induction files with
    | nil => exact fun most => le_refl _
    | cons head rest ih => exact fun most => (le_max_left _ _).trans (ih _)
  have bound : ∀ (files : List FileRow) (most : Int), file ∈ files →
      file.bfNo ≤ files.foldl (fun most file => max most file.bfNo) most := by
    intro files
    induction files with
    | nil => exact fun most member => absurd member List.not_mem_nil
    | cons head rest ih =>
        intro most member
        rcases List.mem_cons.1 member with rfl | later
        · exact (le_max_right _ _).trans (grows rest _)
        · exact ih _ later
  exact bound files (-1) member

/-- What the loop has inserted belongs to its entries. -/
theorem mem_inserted {file : FileRow} :
    file ∈ loop.inserted ↔ ∃ entry ∈ loop.entries, entry.inserted = some file :=
  List.mem_filterMap

/-- An entry, with the upload it is of. -/
theorem LinkingSound.entry (sound : LinkingSound db call loop) {entry : Entry}
    (member : entry ∈ loop.entries) :
    ∃ upload ∈ loop.link.uploads, EntrySound db call upload entry := by
  obtain ⟨done, split, entries⟩ := sound.turned
  obtain ⟨upload, there, its⟩ := forall₂_mem_right entries member
  exact ⟨upload, split ▸ List.mem_append_left _ there, its⟩

/-- A file that is inserted is a new one of the post. -/
theorem LinkingSound.inserted_sound (sound : LinkingSound db call loop) {file : FileRow}
    (member : file ∈ loop.inserted) :
    file.boTable = call.board.boTable ∧ file.wrId = call.writeId ∧
      ∃ entry ∈ loop.entries, entry.inserted = some file ∧ file.bfNo = entry.number ∧
        file.isOf entry.uploadId = true ∧ ∃ row ∈ db.sessions,
          collates row.uploadId entry.uploadId = true ∧
          collates row.boTable call.board.boTable = true ∧ row.wrId = none := by
  obtain ⟨entry, there, inserted⟩ := mem_inserted.1 member
  obtain ⟨upload, -, its⟩ := sound.entry there
  cases already : upload.2 with
  | some number =>
      rw [(its.found number already).2] at inserted
      cases inserted
  | none =>
      obtain ⟨file', inserted', board, post, number, isOf⟩ := its.new already
      rw [inserted] at inserted'
      obtain rfl := Option.some.inj inserted'
      obtain ⟨row, session, same, ofBoard, -, free⟩ := its.session
      exact ⟨board, post, entry, there, inserted, number, isOf, row, session, same, ofBoard,
        free already⟩

/-- Two entries of one upload have its one number, when a file is inserted for one of them. -/
theorem LinkingSound.same_number (sound : LinkingSound db call loop) {entry other : Entry}
    (there : entry ∈ loop.entries) (otherThere : other ∈ loop.entries)
    (inserted : other.inserted.isSome = true)
    (same : collates entry.uploadId other.uploadId = true) : entry.number = other.number := by
  obtain ⟨i, inRange, rfl⟩ := List.getElem_of_mem there
  obtain ⟨j, inRange', rfl⟩ := List.getElem_of_mem otherThere
  have apart := List.pairwise_iff_getElem.1 sound.apart
  rcases Nat.lt_trichotomy i j with before | rfl | after
  · rw [apart i j inRange inRange' before inserted] at same
    cases same
  · rfl
  · have separate := apart j i inRange' inRange after
    by_cases both : loop.entries[i].inserted.isSome = true
    · have different := separate both
      rw [← Bool.not_eq_true] at different
      exact absurd (collates_symm same) different
    · obtain ⟨upload, member, its⟩ := sound.entry there
      obtain ⟨upload', member', its'⟩ := sound.entry otherThere
      cases already : upload.2 with
      | none =>
          obtain ⟨file, put, -⟩ := its.new already
          rw [put] at both
          exact absurd rfl both
      | some number =>
          cases already' : upload'.2 with
          | some number' =>
              rw [(its'.found number' already').2] at inserted
              cases inserted
          | none =>
              obtain ⟨file, ofPost, isOf, -⟩ := sound.found upload member number already
              have gone := sound.absent upload' member' already' file ofPost
              rw [its.uploadId, its'.uploadId] at same
              rw [isOf_of_collates isOf same] at gone
              cases gone

/-- The session of an entry is one, and of the call's board. -/
theorem LinkingSound.session (sound : LinkingSound db call loop) (agreed : Agreed db)
    {entry : Entry} (there : entry ∈ loop.entries) {row : SessionRow} (member : row ∈ db.sessions)
    (same : collates row.uploadId entry.uploadId = true) :
    ∃ upload ∈ loop.link.uploads, EntrySound db call upload entry ∧
      collates row.boTable call.board.boTable = true ∧ row.state = "ready" ∧
      (upload.2 = none → row.wrId = none) := by
  obtain ⟨upload, listed, its⟩ := sound.entry there
  obtain ⟨row', member', same', board, ready, free⟩ := its.session
  have is : row' = row := agreed.keyed.eq_of_key member' member
    ((collates_iff.1 same').trans (collates_iff.1 same).symm)
  rw [is] at board ready free
  exact ⟨upload, listed, its, board, ready, free⟩

/-- The session of an upload that is found linked already says so. -/
theorem LinkingSound.found_session (sound : LinkingSound db call loop) (agreed : Agreed db)
    {upload : String × Option Int} (listed : upload ∈ loop.link.uploads) {number : Int}
    (already : upload.2 = some number) {row : SessionRow} (member : row ∈ db.sessions)
    (same : collates row.uploadId upload.1 = true)
    (board : collates row.boTable call.board.boTable = true) :
    row.wrId = some call.writeId ∧ row.bfNo = some number ∧
      ∃ file ∈ db.files, row.hasFile file = true ∧ file.wrId = call.writeId ∧
        file.bfNo = number := by
  obtain ⟨file, ofPost, isOf, numbered⟩ := sound.found upload listed number already
  obtain ⟨stored, boardToo, post⟩ := mem_files.1 ofPost
  have has : row.hasFile file = true := by
    unfold SessionRow.hasFile
    rw [Bool.and_eq_true]
    exact ⟨collates_trans boardToo (collates_symm board),
      isOf_of_collates isOf (collates_symm same)⟩
  obtain ⟨wrId, bfNo⟩ := agreed.linked row member file stored has
  rw [post] at wrId
  rw [numbered] at bfNo
  exact ⟨wrId, bfNo, file, stored, has, post, numbered⟩

theorem commit_keyed (agreed : Agreed db) (loop : Linking) : Keyed (loop.commit db) := by
  unfold Keyed KeyedBy Linking.commit Linking.view
  rw [List.map_map]
  have same : ((fun row : SessionRow => strtolower row.uploadId) ∘
      relink loop.link.writeId loop.entries) = fun row => strtolower row.uploadId := by
    funext row
    exact congrArg strtolower (relink_kept loop.link.writeId loop.entries row).1
  rw [same]
  exact agreed.keyed

/-- **New files have numbers of their own.** -/
theorem commit_numbered (agreed : Agreed db) (sound : LinkingSound db call loop) :
    KeyedBy FileRow.identity (loop.commit db).files := by
  show ((db.files ++ loop.inserted).map FileRow.identity).Nodup
  rw [List.map_append, List.nodup_append]
  refine ⟨agreed.numbered, ?_, ?_⟩
  · have distinct : (loop.inserted.map FileRow.bfNo).Nodup := sound.numbers.imp fun less => less.ne
    rw [List.nodup_map_iff_inj_on distinct.of_map]
    intro file member file' member' same
    exact List.inj_on_of_nodup_map distinct member member' (congrArg (·.2.2) same)
  · intro key old key' new same
    obtain ⟨file, stored, rfl⟩ := List.mem_map.1 old
    obtain ⟨file', inserted, rfl⟩ := List.mem_map.1 new
    obtain ⟨board, post, -⟩ := sound.inserted_sound inserted
    have boards := congrArg Prod.fst same
    have posts := congrArg (·.2.1) same
    have numbers := congrArg (·.2.2) same
    have ofPost : file ∈ call.files db := by
      refine mem_files.2 ⟨stored, collates_iff.2 (boards.trans (congrArg strtolower board)), ?_⟩
      exact posts.trans post
    have most := le_maxNumber ofPost
    have least := (sound.bounds.2 file' inserted).1
    have next := sound.next
    have numbers' : file.bfNo = file'.bfNo := numbers
    omega

/-- **A commit keeps sessions and files in agreement.** -/
theorem commit_agreed (agreed : Agreed db) (sound : LinkingSound db call loop) :
    Agreed (loop.commit db) where
  keyed := commit_keyed agreed loop
  numbered := commit_numbered agreed sound
  filed := by
    intro row' member' writeId linked
    obtain ⟨row, member, rfl⟩ := List.mem_map.1 member'
    rcases relink_cases loop.link.writeId loop.entries row with ⟨same, -⟩ | ⟨entry, there, hits, same⟩
    · rw [same] at linked ⊢
      obtain ⟨file, stored, its⟩ := agreed.filed row member writeId linked
      exact ⟨file, List.mem_append_left _ stored, its⟩
    · obtain ⟨upload, listed, its, board, -, free⟩ := sound.session agreed there member hits
      rw [same] at linked ⊢
      have post : call.writeId = writeId := sound.writeId.symm.trans (Option.some.inj linked)
      have ids : collates row.uploadId upload.1 = true := its.uploadId ▸ hits
      cases already : upload.2 with
      | some number =>
          obtain ⟨-, -, file, stored, has, of, numbered⟩ :=
            sound.found_session agreed listed already member ids board
          refine ⟨file, List.mem_append_left _ stored, has, of.trans post, ?_⟩
          show some entry.number = _
          rw [numbered, (its.found number already).1]
      | none =>
          obtain ⟨file, put, ofBoard, of, numbered, isOf⟩ := its.new already
          refine ⟨file, List.mem_append_right _ (mem_inserted.2 ⟨entry, there, put⟩), ?_,
            of.trans post, congrArg some numbered.symm⟩
          show (collates file.boTable row.boTable && file.isOf row.uploadId) = true
          rw [Bool.and_eq_true, ofBoard]
          exact ⟨collates_symm board, isOf_of_collates isOf (collates_symm hits)⟩
  linked := by
    intro row' member' file stored' has'
    obtain ⟨row, member, rfl⟩ := List.mem_map.1 member'
    obtain ⟨sameId, sameBoard, -⟩ := relink_kept loop.link.writeId loop.entries row
    have has : row.hasFile file = true := by
      unfold SessionRow.hasFile at has' ⊢
      rw [sameId, sameBoard] at has'
      exact has'
    rcases List.mem_append.1 stored' with stored | inserted
    · obtain ⟨wrId, bfNo⟩ := agreed.linked row member file stored has
      rcases relink_cases loop.link.writeId loop.entries row with ⟨same, -⟩ | ⟨entry, there, hits, same⟩
      · rw [same]
        exact ⟨wrId, bfNo⟩
      · obtain ⟨upload, listed, its, board, -, free⟩ := sound.session agreed there member hits
        have ids : collates row.uploadId upload.1 = true := its.uploadId ▸ hits
        cases already : upload.2 with
        | none =>
            rw [free already] at wrId
            cases wrId
        | some number =>
            obtain ⟨wrId', bfNo', -⟩ := sound.found_session agreed listed already member ids board
            rw [same]
            constructor
            · show some loop.link.writeId = _
              rw [sound.writeId, ← wrId', wrId]
            · show some entry.number = _
              rw [(its.found number already).1, ← bfNo', bfNo]
    · obtain ⟨-, post, other, otherThere, put, numbered, isOf, -⟩ := sound.inserted_sound inserted
      have ids : collates row.uploadId other.uploadId = true := by
        unfold SessionRow.hasFile at has
        rw [Bool.and_eq_true] at has
        exact collates_of_isOf has.2 isOf
      rcases relink_cases loop.link.writeId loop.entries row with ⟨-, apart⟩ | ⟨entry, there, hits, same⟩
      · rw [apart other otherThere] at ids
        cases ids
      · rw [same]
        constructor
        · show some loop.link.writeId = some file.wrId
          rw [sound.writeId, post]
        · show some entry.number = some file.bfNo
          rw [numbered, sound.same_number there otherThere (by rw [put]; rfl)
            (collates_trans (collates_symm hits) ids)]

/-- The files of the post, with the new ones. -/
theorem commit_files (sound : LinkingSound db call loop) :
    call.files (loop.commit db) = call.files db ++ loop.inserted := by
  show (db.files ++ loop.inserted).filter _ = _
  rw [List.filter_append]
  congr 1
  refine List.filter_eq_self.2 fun file member => ?_
  obtain ⟨board, post, -⟩ := sound.inserted_sound member
  rw [board, post, Bool.and_eq_true]
  exact ⟨collates_iff.2 rfl, beq_iff_eq.2 rfl⟩

/-- The files of another post stay. -/
theorem commit_files_other (sound : LinkingSound db call loop) (other : LinkCall)
    (apart : ¬ (collates call.board.boTable other.board.boTable = true ∧
      call.writeId = other.writeId)) :
    other.files (loop.commit db) = other.files db := by
  show (db.files ++ loop.inserted).filter _ = _
  have none_ : (loop.inserted.filter fun file =>
      collates file.boTable other.board.boTable && file.wrId == other.writeId) = [] := by
    refine List.filter_eq_nil_iff.2 fun file member ofOther => apart ?_
    obtain ⟨board, post, -⟩ := sound.inserted_sound member
    rw [board, post, Bool.and_eq_true, beq_iff_eq] at ofOther
    exact ofOther
  rw [List.filter_append, none_, List.append_nil]
  rfl

/-- Posts are not lost. -/
theorem commit_posted (loop : Linking) {other : LinkCall} (posted : db.posts.any other.isPost = true) :
    (loop.commit db).posts.any other.isPost = true := by
  rw [List.any_eq_true] at posted ⊢
  obtain ⟨post, stored, is⟩ := posted
  refine ⟨_, mem_updateWhere.2 ⟨post, stored, rfl⟩, ?_⟩
  split
  · exact is
  · exact is

/-- Sessions are not lost, and those of no entry stay as they are. -/
theorem commit_session (loop : Linking) {row : SessionRow} (member : row ∈ db.sessions) :
    (∃ row' ∈ (loop.commit db).sessions, row'.uploadId = row.uploadId ∧
      row'.boTable = row.boTable ∧ row'.state = row.state) ∧
    ((∀ entry ∈ loop.entries, collates row.uploadId entry.uploadId = false) →
      row ∈ (loop.commit db).sessions) := by
  have stored : relink loop.link.writeId loop.entries row ∈ (loop.commit db).sessions :=
    List.mem_map_of_mem member
  refine ⟨⟨_, stored, relink_kept _ _ row⟩, fun apart => ?_⟩
  rcases relink_cases loop.link.writeId loop.entries row with ⟨same, -⟩ | ⟨entry, there, hits, -⟩
  · rw [same] at stored
    exact stored
  · rw [apart entry there] at hits
    cases hits

theorem forall₂_imp_right {α β : Type} {R S : α → β → Prop} {as : List α} {bs : List β}
    (related : List.Forall₂ R as bs) (imp : ∀ b ∈ bs, ∀ a, R a b → S a b) :
    List.Forall₂ S as bs := by
  induction related with
  | nil => exact .nil
  | cons head _ ih =>
      exact .cons (imp _ List.mem_cons_self _ head)
        (ih fun b member => imp b (List.mem_cons_of_mem _ member))

/-- What a call knows stays true where its post and the sessions it has locked do. -/
theorem LinkingSound.kept {db' : Database} (sound : LinkingSound db call loop)
    (files : call.files db' = call.files db) (posted : db'.posts.any call.isPost = true)
    (sessions : ∀ row ∈ db.sessions, ∀ entry ∈ loop.entries,
      collates row.uploadId entry.uploadId = true → row ∈ db'.sessions) :
    LinkingSound db' call loop where
  boardTable := sound.boardTable
  writeTable := sound.writeTable
  writeId := sound.writeId
  uploads := sound.uploads
  posted := posted
  existing := files ▸ sound.existing
  next := files ▸ sound.next
  limit := sound.limit
  found := files ▸ sound.found
  absent := files ▸ sound.absent
  turned := by
    obtain ⟨done, split, entries⟩ := sound.turned
    refine ⟨done, split, ?_⟩
    have all : ∀ entry ∈ loop.entries, ∀ upload, EntrySound db call upload entry →
        EntrySound db' call upload entry := by
      intro entry there upload its
      obtain ⟨row, member, same, rest⟩ := its.session
      exact ⟨its.uploadId, ⟨row, sessions row member entry there same, same, rest⟩, its.found, its.new⟩
    exact forall₂_imp_right entries all
  numbers := sound.numbers
  bounds := sound.bounds
  apart := sound.apart

section Entries

variable {uploads : List (String × Option Int)} {entries : List Entry}

/-- The entries insert a file for each upload that had none. -/
theorem inserted_length (its : List.Forall₂ (EntrySound db call) uploads entries) :
    (entries.filterMap Entry.inserted).length =
      (uploads.filter fun upload => upload.2.isNone).length := by
  induction its with
  | nil => rfl
  | @cons upload entry uploads entries head _ ih =>
      cases already : upload.2 with
      | some number =>
          rw [List.filterMap_cons_none (head.found number already).2, ih,
            List.filter_cons_of_neg (by simp [already])]
      | none =>
          obtain ⟨file, put, -⟩ := head.new already
          rw [List.filterMap_cons_some put, List.filter_cons_of_pos (by simp [already]),
            List.length_cons, List.length_cons, ih]

theorem entries_uploads (its : List.Forall₂ (EntrySound db call) uploads entries) :
    entries.map Entry.uploadId = uploads.map Prod.fst := by
  induction its with
  | nil => rfl
  | cons head _ ih => rw [List.map_cons, List.map_cons, ih, head.uploadId]

end Entries

/-- **What a commit comes to**: the post has no more files than it may have, and says how many. -/
theorem commit_outcome (sound : LinkingSound db call loop)
    (done : loop.left = []) :
    Outcome (loop.commit db) call loop.linked ∧
      ((call.files (loop.commit db)).length : Int) ≤ call.maximumFiles := by
  obtain ⟨uploads, split, entries⟩ := sound.turned
  rw [done, List.append_nil] at split
  have length : loop.inserted.length =
      (loop.link.uploads.filter fun upload => upload.2.isNone).length :=
    split ▸ inserted_length entries
  have files := commit_files sound
  have count : ((call.files (loop.commit db)).length : Int) = loop.count := by
    rw [files, List.length_append, Linking.count, sound.existing, Nat.cast_add]
  have ids : loop.linked.map Prod.fst = call.uploadIds := by
    rw [← sound.uploads, split, ← entries_uploads entries, Linking.linked, List.map_map]
    rfl
  refine ⟨⟨ids, ?_, ?_, commit_posted loop sound.posted, ?_⟩, ?_⟩
  · intro pair member
    obtain ⟨entry, there, rfl⟩ := List.mem_map.1 member
    obtain ⟨upload, listed, its⟩ := sound.entry there
    rw [files]
    cases already : upload.2 with
    | some number =>
        obtain ⟨file, ofPost, isOf, numbered⟩ := sound.found upload listed number already
        refine ⟨file, List.mem_append_left _ ofPost, its.uploadId ▸ isOf, ?_⟩
        rw [numbered, (its.found number already).1]
    | none =>
        obtain ⟨file, put, -, -, numbered, isOf⟩ := its.new already
        exact ⟨file, List.mem_append_right _ (mem_inserted.2 ⟨entry, there, put⟩), isOf, numbered⟩
  · intro pair member
    obtain ⟨entry, there, rfl⟩ := List.mem_map.1 member
    obtain ⟨upload, listed, its⟩ := sound.entry there
    obtain ⟨row, stored, same, -, ready, -⟩ := its.session
    obtain ⟨⟨row', stored', id, -, state⟩, -⟩ := commit_session loop stored
    exact ⟨row', stored', id.symm ▸ same, state.trans ready⟩
  · intro post stored is
    obtain ⟨before, -, rfl⟩ := mem_updateWhere.1 stored
    rw [count]
    split
    · rfl
    · rename_i missed
      rw [if_neg missed] at is
      refine absurd ?_ missed
      rw [sound.writeTable, sound.writeId]
      exact is
  · rw [count, Linking.count, length]
    exact sound.limit

/-- What a call has come to stays so. -/
theorem Outcome.kept {linked : List (String × Int)} {other : LinkCall}
    (outcome : Outcome db other linked) (sound : LinkingSound db call loop)
    (done : loop.left = [])
    (sameBoard : collates call.board.boTable other.board.boTable = true → call.board = other.board)
    (sameTable : call.board.writeTable = other.board.writeTable → call.board = other.board) :
    Outcome (loop.commit db) other linked := by
  have sessions : ∀ upload ∈ linked, ∃ row ∈ (loop.commit db).sessions,
      collates row.uploadId upload.1 = true ∧ row.state = "ready" := by
    intro upload member
    obtain ⟨row, stored, same, ready⟩ := outcome.sessions upload member
    obtain ⟨⟨row', stored', id, -, state⟩, -⟩ := commit_session loop stored
    exact ⟨row', stored', id.symm ▸ same, state.trans ready⟩
  by_cases post : call.board = other.board ∧ call.writeId = other.writeId
  · obtain ⟨board, writeId⟩ := post
    have samePost : other.isPost = call.isPost := by
      unfold LinkCall.isPost
      rw [board, writeId]
    have sameFiles : ∀ db, other.files db = call.files db := by
      intro db
      unfold LinkCall.files
      rw [board, writeId]
    obtain ⟨mine, -⟩ := commit_outcome sound done
    refine ⟨outcome.uploads, fun upload member => ?_, sessions, samePost ▸ mine.posted, ?_⟩
    · obtain ⟨file, ofPost, its⟩ := outcome.files upload member
      rw [sameFiles] at ofPost
      rw [sameFiles, commit_files sound]
      exact ⟨file, List.mem_append_left _ ofPost, its⟩
    · rw [samePost, sameFiles]
      exact mine.counted
  · have files := commit_files_other sound other fun both =>
      post ⟨sameBoard both.1, both.2⟩
    refine ⟨outcome.uploads, files ▸ outcome.files, sessions, commit_posted loop outcome.posted, ?_⟩
    intro row stored is
    obtain ⟨before, stored', rfl⟩ := mem_updateWhere.1 stored
    rw [files]
    split at is
    · rename_i hits
      rw [Bool.and_eq_true, beq_iff_eq, beq_iff_eq, sound.writeTable, sound.writeId] at hits
      have its : before.writeTable = other.board.writeTable ∧ before.wrId = other.writeId := by
        unfold LinkCall.isPost at is
        rw [Bool.and_eq_true, beq_iff_eq, beq_iff_eq] at is
        exact is
      exact absurd ⟨sameTable (hits.1.symm.trans its.1), hits.2.symm.trans its.2⟩ post
    · rename_i missed
      rw [if_neg missed]
      exact outcome.counted before stored' is

end Commit

/-! ## The reads -/

section Scan

variable {db : Database} {call : LinkCall} {link : Link}

theorem alreadyLinked_eq_ok {writeId : Int} {files : List (Option FileRow)}
    {numbers : List (Option Int)} (ran : alreadyLinked writeId files = .ok numbers) :
    numbers = files.map (Option.map FileRow.bfNo) ∧
      ∀ file, some file ∈ files → file.wrId = writeId := by
  induction files generalizing numbers with
  | nil =>
      cases ran
      exact ⟨rfl, nofun⟩
  | cons existing rest ih =>
      unfold alreadyLinked at ran
      split at ran
      · cases ran
      rename_i here
      cases later : alreadyLinked writeId rest with
      | error error =>
          rw [later] at ran
          cases ran
      | ok others =>
          rw [later] at ran
          cases ran
          obtain ⟨rfl, all⟩ := ih later
          refine ⟨rfl, fun file member => ?_⟩
          rcases List.mem_cons.1 member with same | further
          · rw [← same] at here
            simpa using here
          · exact all file further

/-- **What the reads let a call know.** -/
theorem decide_sound (decided : call.decide (call.target db) = .ok link) :
    LinkingSound db call ⟨link, link.uploads, link.next, []⟩ := by
  unfold LinkCall.decide at decided
  split at decided
  case isFalse => cases decided
  case isTrue posted =>
    split at decided
    · cases decided
    rename_i numbers ran
    split at decided
    case isFalse => cases decided
    case isTrue limit =>
      cases decided
      obtain ⟨numbersAre, ofPost⟩ := alreadyLinked_eq_ok ran
      have length : numbers.length = call.uploadIds.length := by
        rw [numbersAre, List.length_map]
        exact List.length_map _
      have pairs : ∀ upload ∈ call.uploadIds.zip numbers,
          upload.2 = (db.files.find? fun file =>
            collates file.boTable call.board.boTable && file.isOf upload.1).map FileRow.bfNo := by
        have zipped : call.uploadIds.zip numbers = call.uploadIds.map fun uploadId =>
            (uploadId, (db.files.find? fun file => collates file.boTable call.board.boTable &&
              file.isOf uploadId).map FileRow.bfNo) := by
          rw [numbersAre, LinkCall.target, targetOf, List.map_map]
          exact List.map_prod_left_eq_zip.symm
        rw [zipped]
        intro upload member
        obtain ⟨uploadId, -, rfl⟩ := List.mem_map.1 member
        rfl
      refine
        { boardTable := rfl
          writeTable := rfl
          writeId := rfl
          uploads := List.map_fst_zip (le_of_eq length.symm)
          posted := posted
          existing := rfl
          next := rfl
          limit := ?_
          found := ?_
          absent := ?_
          turned := ⟨[], rfl, .nil⟩
          numbers := .nil
          bounds := ⟨le_refl _, nofun⟩
          apart := .nil }
      · have nones : ((call.uploadIds.zip numbers).filter fun upload => upload.2.isNone).length =
            (numbers.filter Option.isNone).length := by
          rw [← List.map_snd_zip (le_of_eq length), List.filter_map, List.length_map,
            List.map_snd_zip (le_of_eq length)]
          rfl
        show (_ + ((call.uploadIds.zip numbers).filter _).length : Int) ≤ _
        rw [nones]
        exact limit
      · intro upload member number already
        rw [pairs upload member, Option.map_eq_some_iff] at already
        obtain ⟨file, read, numbered⟩ := already
        have its := List.find?_some read
        rw [Bool.and_eq_true] at its
        have stored := List.mem_of_find?_eq_some read
        have listed : some file ∈ (call.target db).existingFiles := by
          refine List.mem_map.2 ⟨upload.1, (List.of_mem_zip member).1, read⟩
        exact ⟨file, mem_files.2 ⟨stored, its.1, ofPost file listed⟩, its.2, numbered⟩
      · intro upload member already file ofThis
        rw [pairs upload member, Option.map_eq_none_iff, List.find?_eq_none] at already
        obtain ⟨stored, board, -⟩ := mem_files.1 ofThis
        have missed := already file stored
        rw [board, Bool.true_and, Bool.not_eq_true] at missed
        exact missed

end Scan

/-! ## A turn -/

section Turn

variable {db : Database} {call : LinkCall} {loop loop' : Linking} {uploadId : String}
  {number : Option Int} {rest : List (String × Option Int)}

/-- The tables of a board's call hold the sessions it was given. -/
def Known (db : Database) (call : LinkCall) : Prop :=
  ∀ session ∈ call.sessions, ∃ row ∈ db.sessions, row.uploadId = session.uploadId ∧
    collates row.boTable call.board.boTable = true

/-- What a turn has found: the file that was there, or a session that is free. -/
theorem turn_cases (ran : loop.turn uploadId number rest db = .ok loop') :
    ∃ next entry, loop' = ⟨loop.link, rest, next, loop.entries ++ [entry]⟩ ∧
      entry.uploadId = uploadId ∧
      ∃ row ∈ db.sessions, collates row.uploadId uploadId = true ∧ row.state = "ready" ∧
        ((∃ already, number = some already ∧ entry.number = already ∧ entry.inserted = none ∧
            next = loop.next) ∨
          (number = none ∧ row.wrId = none ∧ next = loop.next + 1 ∧ entry.number = loop.next ∧
            (∀ earlier ∈ loop.entries, collates earlier.uploadId uploadId = false) ∧
            ∃ file, entry.inserted = some file ∧ file.boTable = loop.link.boardTable ∧
              file.wrId = loop.link.writeId ∧ file.bfNo = loop.next ∧
              file.isOf uploadId = true)) := by
  unfold Linking.turn at ran
  split at ran
  · cases ran
  rename_i next found after linked
  cases ran
  refine ⟨_, _, rfl, rfl, ?_⟩
  unfold linkSession at linked
  split at linked
  · cases linked
  rename_i locked read
  split at linked
  · cases linked
  rename_i ready
  have same : collates locked.uploadId uploadId = true := List.find?_some
    (p := fun row : SessionRow => collates row.uploadId uploadId) read
  obtain ⟨row, member, rfl⟩ := List.mem_map.1 (List.mem_of_find?_eq_some read)
  obtain ⟨id, -, state⟩ := relink_kept loop.link.writeId loop.entries row
  rw [id] at same
  rw [state, ne_eq, not_not] at ready
  refine ⟨row, member, same, ready, ?_⟩
  cases number with
  | some already =>
      left
      dsimp only at linked
      split at linked
      · cases linked
      · cases linked
        exact ⟨_, rfl, rfl, rfl, rfl⟩
  | none =>
      right
      dsimp only at linked
      split at linked
      · cases linked
      rename_i free
      split at linked
      · cases linked
      rename_i filename normalized
      split at linked
      · cases linked
      cases linked
      have unlinked : (relink loop.link.writeId loop.entries row).wrId = none := by
        simpa using free
      have put : loop.fileFor uploadId none (loop.view db) = some (fileOf loop.link uploadId
          (relink loop.link.writeId loop.entries row) filename loop.next) := by
        unfold Linking.fileFor
        rw [read]
        dsimp only
        rw [normalized]
      have apart : relink loop.link.writeId loop.entries row = row ∧
          ∀ earlier ∈ loop.entries, collates row.uploadId earlier.uploadId = false := by
        rcases relink_cases loop.link.writeId loop.entries row with kept | ⟨earlier, -, -, link⟩
        · exact kept
        · rw [link] at unlinked
          cases unlinked
      rw [apart.1] at unlinked
      refine ⟨rfl, unlinked, rfl, rfl, fun earlier there => ?_, _, put, rfl, rfl, rfl, ?_⟩
      · rw [← Bool.not_eq_true]
        intro both
        have hits := collates_trans same (collates_symm both)
        rw [apart.2 earlier there] at hits
        cases hits
      · unfold FileRow.isOf fileOf
        dsimp only
        split
        · rw [collates_iff.2 rfl, Bool.true_or]
        · rw [Bool.or_comm, collates_iff.2 rfl, Bool.true_or]

/-- **A turn adds one upload to what the call knows.** -/
theorem turn_sound (agreed : Agreed db) (known : Known db call)
    (sound : LinkingSound db call loop) (next : loop.left = (uploadId, number) :: rest)
    (ran : loop.turn uploadId number rest db = .ok loop') : LinkingSound db call loop' := by
  obtain ⟨after, entry, rfl, id, row, member, same, ready, which⟩ := turn_cases ran
  obtain ⟨done, split, entries⟩ := sound.turned
  have listed : (uploadId, number) ∈ loop.link.uploads := by
    rw [split, next]
    exact List.mem_append_right _ List.mem_cons_self
  have board : collates row.boTable call.board.boTable = true := by
    have asked : uploadId ∈ call.uploadIds := sound.uploads ▸ List.mem_map_of_mem listed
    obtain ⟨session, given, rfl⟩ := List.mem_map.1 asked
    obtain ⟨row', member', sameId, board⟩ := known session given
    have is : row' = row := agreed.keyed.eq_of_key member' member
      ((congrArg strtolower sameId).trans (collates_iff.1 same).symm)
    exact is ▸ board
  have its : EntrySound db call (uploadId, number) entry := by
    refine ⟨id, ⟨row, member, id.symm ▸ same, board, ready, ?_⟩, ?_, ?_⟩
    · intro absent
      rcases which with ⟨already, found, -⟩ | ⟨-, free, -⟩
      · rw [show number = none from absent] at found
        cases found
      · exact free
    · intro already found
      rcases which with ⟨already', found', numbered, none_, -⟩ | ⟨absent, -⟩
      · rw [show number = some already from found] at found'
        cases found'
        exact ⟨numbered, none_⟩
      · rw [show number = some already from found] at absent
        cases absent
    · intro absent
      rcases which with ⟨already, found, -⟩ | ⟨-, -, -, numbered, -, file, put, ofBoard, of, bfNo, isOf⟩
      · rw [show number = none from absent] at found
        cases found
      · exact ⟨file, put, ofBoard.trans sound.boardTable, of.trans sound.writeId,
          bfNo.trans numbered.symm, id.symm ▸ isOf⟩
  have insertedIs : (⟨loop.link, rest, after, loop.entries ++ [entry]⟩ : Linking).inserted =
      loop.inserted ++ entry.inserted.toList := by
    show List.filterMap _ _ = _
    rw [List.filterMap_append]
    cases put : entry.inserted with
    | none =>
        rw [List.filterMap_cons_none put]
        rfl
    | some file =>
        rw [List.filterMap_cons_some put]
        rfl
  have news : ∀ file, entry.inserted = some file → file.bfNo = loop.next ∧ after = loop.next + 1 ∧
      ∀ earlier ∈ loop.entries, collates earlier.uploadId uploadId = false := by
    intro file put
    rcases which with ⟨-, -, -, none_, -⟩ | ⟨-, -, further, -, apart, file', put', -, -, bfNo, -⟩
    · rw [none_] at put
      cases put
    · rw [put'] at put
      cases put
      exact ⟨bfNo, further, apart⟩
  have further : loop.next ≤ after := by
    rcases which with ⟨-, -, -, -, same⟩ | ⟨-, -, further, -⟩
    · omega
    · omega
  refine
    { sound with
      turned := ⟨done ++ [(uploadId, number)], ?_, List.rel_append entries (.cons its .nil)⟩
      numbers := ?_
      bounds := ⟨sound.bounds.1.trans further, ?_⟩
      apart := ?_ }
  · rw [List.append_assoc, List.singleton_append, ← next]
    exact split
  · rw [insertedIs, List.map_append, List.pairwise_append]
    refine ⟨sound.numbers, ?_, ?_⟩
    · cases entry.inserted with
      | none => exact .nil
      | some file => exact List.pairwise_singleton _ _
    · intro earlier old later new
      obtain ⟨file, there, rfl⟩ := List.mem_map.1 old
      obtain ⟨file', put, rfl⟩ := List.mem_map.1 new
      rw [(news file' (Option.mem_toList.1 put)).1]
      exact (sound.bounds.2 file there).2
  · intro file there
    rw [insertedIs] at there
    rcases List.mem_append.1 there with old | new
    · obtain ⟨least, most⟩ := sound.bounds.2 file old
      exact ⟨least, lt_of_lt_of_le most further⟩
    · obtain ⟨numbered, one, -⟩ := news file (Option.mem_toList.1 new)
      have least := sound.bounds.1
      show loop.link.next ≤ file.bfNo ∧ file.bfNo < after
      omega
  · refine List.pairwise_append.2 ⟨sound.apart, List.pairwise_singleton _ _, ?_⟩
    intro earlier there later last some_
    rw [List.mem_singleton.1 last] at some_ ⊢
    obtain ⟨file, put⟩ := Option.isSome_iff_exists.1 some_
    rw [id]
    exact (news file put).2.2 earlier there

end Turn

end MediaBooster.Gnuboard5
