/-
# Gnuboard5.Repeats -- calls that are repeated, and what links come to

A call that is repeated after it has succeeded finds the file of each of its uploads at its post,
so that its commit writes what is there already (`repeated_unchanged`), and its numbers are those
it has had (`repeated_numbers`).  A call that nobody is in the way of, and in which nothing fails,
does what `LinkCall.alone` says and nothing else (`alone_runs`, `alone_ends`).

`attachment_links_exact` is what all calls come to, in every run.
-/
import MediaBooster.Gnuboard5.Exactness

namespace MediaBooster.Gnuboard5

set_option autoImplicit false

open MediaBooster.Domain
open MediaBooster.Theory.Run
open MediaBooster.Theory.Table

/-! ## A repeated call -/

/-- The call is for the same uploads and the same post. -/
structure LinkCall.Repeats (call earlier : LinkCall) : Prop where
  sessions : call.sessions = earlier.sessions
  board : call.board = earlier.board
  writeId : call.writeId = earlier.writeId

section Repeats

variable {db : Database} {call earlier : LinkCall} {loop : Linking} {linked : List (String × Int)}

theorem LinkCall.Repeats.outcome (repeats : call.Repeats earlier)
    (outcome : Outcome db earlier linked) : Outcome db call linked := by
  have ids : call.uploadIds = earlier.uploadIds := by
    unfold LinkCall.uploadIds
    rw [repeats.sessions]
  have files : call.files db = earlier.files db := by
    unfold LinkCall.files
    rw [repeats.board, repeats.writeId]
  have posts : call.isPost = earlier.isPost := by
    funext post
    unfold LinkCall.isPost
    rw [repeats.board, repeats.writeId]
  exact
    { uploads := ids ▸ outcome.uploads
      files := files ▸ outcome.files
      sessions := outcome.sessions
      posted := posts ▸ outcome.posted
      counted := by
        rw [posts, files]
        exact outcome.counted }

/-- Every upload is found linked. -/
theorem repeated_found (sound : LinkingSound db call loop) (outcome : Outcome db call linked) :
    ∀ upload ∈ loop.link.uploads, ∃ number, upload.2 = some number := by
  intro upload listed
  cases already : upload.2 with
  | some number => exact ⟨number, rfl⟩
  | none =>
      have named : upload.1 ∈ linked.map Prod.fst := by
        rw [outcome.uploads, ← sound.uploads]
        exact List.mem_map_of_mem listed
      obtain ⟨pair, member, same⟩ := List.mem_map.1 named
      obtain ⟨file, ofPost, isOf, -⟩ := outcome.files pair member
      have missed := sound.absent upload listed already file ofPost
      rw [← same, isOf] at missed
      cases missed

theorem repeated_inserted (sound : LinkingSound db call loop) (outcome : Outcome db call linked) :
    loop.inserted = [] := by
  rw [List.eq_nil_iff_forall_not_mem]
  intro file inserted
  obtain ⟨entry, there, put⟩ := mem_inserted.1 inserted
  obtain ⟨upload, listed, its⟩ := sound.entry there
  obtain ⟨number, already⟩ := repeated_found sound outcome upload listed
  rw [(its.found number already).2] at put
  cases put

theorem repeated_sessions (agreed : Agreed db) (sound : LinkingSound db call loop)
    (outcome : Outcome db call linked) :
    db.sessions.map (relink loop.link.writeId loop.entries) = db.sessions := by
  refine (List.map_congr_left fun row member => ?_).trans (List.map_id _)
  rcases relink_cases loop.link.writeId loop.entries row with ⟨same, -⟩ | ⟨entry, there, hits, same⟩
  · exact same
  · obtain ⟨upload, listed, its, board, -, -⟩ := sound.session agreed there member hits
    obtain ⟨number, already⟩ := repeated_found sound outcome upload listed
    obtain ⟨wrId, bfNo, -⟩ := sound.found_session agreed listed already member
      (its.uploadId ▸ hits) board
    rw [same, sound.writeId, (its.found number already).1]
    show { row with wrId := some call.writeId, bfNo := some number } = row
    rw [← wrId, ← bfNo]

/-- What a repeated call writes before its commit is there already. -/
theorem repeated_view (agreed : Agreed db) (sound : LinkingSound db call loop)
    (outcome : Outcome db call linked) : loop.view db = db := by
  unfold Linking.view
  rw [repeated_sessions agreed sound outcome, repeated_inserted sound outcome, List.append_nil]

/-- **A repeated call writes what is there.** -/
theorem repeated_unchanged (agreed : Agreed db) (sound : LinkingSound db call loop)
    (outcome : Outcome db call linked) : loop.commit db = db := by
  have posts : updateWhere
      (fun post => post.writeTable == loop.link.writeTable && post.wrId == loop.link.writeId)
      (fun post => { post with wrFile := loop.count }) db.posts = db.posts := by
    refine (List.map_congr_left fun post member => ?_).trans (List.map_id _)
    split
    · rename_i hits
      rw [sound.writeTable, sound.writeId] at hits
      have counted := outcome.counted post member hits
      show { post with wrFile := loop.count } = post
      rw [Linking.count, repeated_inserted sound outcome, sound.existing, List.length_nil,
        Nat.cast_zero, add_zero, ← counted]
    · rfl
  unfold Linking.commit
  rw [repeated_view agreed sound outcome, posts]

/-- Pairs that agree on what they are of are the same pairs. -/
theorem eq_of_fst {α β : Type} {first second : List (α × β)}
    (names : first.map Prod.fst = second.map Prod.fst)
    (same : ∀ one ∈ first, ∀ two ∈ second, one.1 = two.1 → one.2 = two.2) : first = second := by
  induction first generalizing second with
  | nil => exact (List.map_eq_nil_iff.1 names.symm).symm
  | cons one rest ih =>
      cases second with
      | nil => cases names
      | cons two others =>
          rw [List.map_cons, List.map_cons, List.cons.injEq] at names
          have head : one = two := Prod.ext names.1
            (same one List.mem_cons_self two List.mem_cons_self names.1)
          rw [head, ih names.2 fun a member b member' => same a (List.mem_cons_of_mem _ member) b
            (List.mem_cons_of_mem _ member')]

/-- **A repeated call returns the numbers it has returned.** -/
theorem repeated_numbers (agreed : Agreed db) (known : Known db call)
    (sound : LinkingSound db call loop) (done : loop.left = []) (outcome : Outcome db call linked) :
    loop.linked = linked := by
  obtain ⟨mine, -⟩ := commit_outcome sound done
  have again : Outcome db call loop.linked := repeated_unchanged agreed sound outcome ▸ mine
  refine eq_of_fst (again.uploads.trans outcome.uploads.symm) fun one member two member' same => ?_
  obtain ⟨file, ofPost, isOf, numbered⟩ := again.files one member
  obtain ⟨file', ofPost', isOf', numbered'⟩ := outcome.files two member'
  have named : one.1 ∈ call.uploadIds := again.uploads ▸ List.mem_map_of_mem member
  obtain ⟨session, given, id⟩ := List.mem_map.1 named
  obtain ⟨row, stored, sameId, board⟩ := known session given
  have has : ∀ file ∈ call.files db, file.isOf one.1 = true → row.bfNo = some file.bfNo := by
    intro file ofPost isOf
    obtain ⟨there, boardToo, -⟩ := mem_files.1 ofPost
    refine (agreed.linked row stored file there ?_).2
    unfold SessionRow.hasFile
    rw [Bool.and_eq_true, sameId, id]
    exact ⟨collates_trans boardToo (collates_symm board), isOf⟩
  have equal := (has file ofPost isOf).symm.trans (has file' ofPost' (same ▸ isOf'))
  rw [← numbered, ← numbered']
  exact Option.some.inj equal

/-- The reads of a repeated call let it go on, while the post has room for what it has. -/
theorem repeated_decides (agreed : Agreed db) (known : Known db call)
    (outcome : Outcome db call linked) (room : ((call.files db).length : Int) ≤ call.maximumFiles) :
    ∃ link, call.decide (call.target db) = .ok link := by
  have reads : ∀ existing ∈ (call.target db).existingFiles, ∃ file, existing = some file ∧
      file.wrId = call.writeId := by
    intro existing member
    obtain ⟨uploadId, asked, rfl⟩ := List.mem_map.1 member
    obtain ⟨pair, member', same⟩ := List.mem_map.1
      (show uploadId ∈ linked.map Prod.fst from outcome.uploads ▸ asked)
    obtain ⟨file, ofPost, isOf, -⟩ := outcome.files pair member'
    obtain ⟨there, board, post⟩ := mem_files.1 ofPost
    rw [same] at isOf
    have some_ := (List.find?_isSome (p := fun file : FileRow =>
      collates file.boTable call.board.boTable && file.isOf uploadId)).2
        ⟨file, there, Bool.and_eq_true_iff.2 ⟨board, isOf⟩⟩
    obtain ⟨first, read⟩ := Option.isSome_iff_exists.1 some_
    have its := List.find?_some read
    rw [Bool.and_eq_true] at its
    obtain ⟨session, given, id⟩ := List.mem_map.1 asked
    obtain ⟨row, stored, sameId, ofBoard⟩ := known session given
    have link : ∀ file ∈ db.files, collates file.boTable call.board.boTable = true →
        file.isOf uploadId = true → row.wrId = some file.wrId := by
      intro file there board isOf
      refine (agreed.linked row stored file there ?_).1
      unfold SessionRow.hasFile
      rw [Bool.and_eq_true, sameId, id]
      exact ⟨collates_trans board (collates_symm ofBoard), isOf⟩
    have equal := (link first (List.mem_of_find?_eq_some read) its.1 its.2).symm.trans
      (link file there board isOf)
    exact ⟨first, read, (Option.some.inj equal).trans post⟩
  have ran : ∀ files : List (Option FileRow),
      (∀ existing ∈ files, ∃ file, existing = some file ∧ file.wrId = call.writeId) →
      ∃ numbers, alreadyLinked call.writeId files = .ok numbers ∧
        numbers.filter Option.isNone = [] := by
    intro files
    induction files with
    | nil => exact fun _ => ⟨[], rfl, rfl⟩
    | cons existing rest ih =>
        intro all
        obtain ⟨file, rfl, post⟩ := all existing List.mem_cons_self
        obtain ⟨numbers, later, none_⟩ := ih fun other member => all other (List.mem_cons_of_mem _ member)
        refine ⟨some file.bfNo :: numbers, ?_, none_⟩
        unfold alreadyLinked
        rw [later, if_neg (by simp [post])]
        rfl
  obtain ⟨numbers, linkedAlready, none_⟩ := ran _ reads
  have posted : (call.target db).posted = true := outcome.posted
  unfold LinkCall.decide
  rw [if_pos posted, linkedAlready]
  dsimp only
  rw [none_, if_pos]
  · exact ⟨_, rfl⟩
  · show ((call.files db).length + (0 : Nat) : Int) ≤ call.maximumFiles
    omega

/-- A turn of a repeated call. -/
theorem repeated_turn (agreed : Agreed db) (known : Known db call)
    (sound : LinkingSound db call loop) (outcome : Outcome db call linked) {uploadId : String}
    {number : Option Int} {rest : List (String × Option Int)}
    (next : loop.left = (uploadId, number) :: rest) :
    ∃ loop', loop.turn uploadId number rest db = .ok loop' ∧ loop'.left = rest := by
  obtain ⟨done, split, -⟩ := sound.turned
  have listed : (uploadId, number) ∈ loop.link.uploads := by
    rw [split, next]
    exact List.mem_append_right _ List.mem_cons_self
  obtain ⟨already, found⟩ := repeated_found sound outcome _ listed
  obtain rfl : number = some already := found
  have asked : uploadId ∈ call.uploadIds := sound.uploads ▸ List.mem_map_of_mem listed
  obtain ⟨session, given, id⟩ := List.mem_map.1 asked
  obtain ⟨row, stored, sameId, board⟩ := known session given
  have named : collates row.uploadId uploadId = true := collates_iff.2 (by rw [sameId, id])
  obtain ⟨wrId, bfNo, -⟩ := sound.found_session agreed listed rfl stored named board
  have ready : row.state = "ready" := by
    obtain ⟨pair, member, same⟩ := List.mem_map.1
      (show uploadId ∈ linked.map Prod.fst from outcome.uploads ▸ asked)
    obtain ⟨row', stored', same', ready⟩ := outcome.sessions pair member
    rw [same] at same'
    have is : row' = row := agreed.keyed.eq_of_key stored' stored
      ((collates_iff.1 same').trans (collates_iff.1 named).symm)
    exact is ▸ ready
  have read : db.session uploadId = some row := by
    have some_ := (List.find?_isSome (p := fun row : SessionRow =>
      collates row.uploadId uploadId)).2 ⟨row, stored, named⟩
    obtain ⟨first, read⟩ := Option.isSome_iff_exists.1 some_
    have same : collates first.uploadId uploadId = true := List.find?_some
      (p := fun row : SessionRow => collates row.uploadId uploadId) read
    have is : first = row := agreed.keyed.eq_of_key (List.mem_of_find?_eq_some read) stored
      ((collates_iff.1 same).trans (collates_iff.1 named).symm)
    exact is ▸ read
  refine ⟨⟨loop.link, rest, loop.next, loop.entries ++ [⟨uploadId, already, none⟩]⟩, ?_, rfl⟩
  unfold Linking.turn linkSession
  rw [repeated_view agreed sound outcome, read]
  dsimp only
  rw [if_neg (not_not_intro ready), if_neg]
  · rfl
  · rw [wrId, bfNo, sound.writeId]
    simp

/-- The turns of a repeated call. -/
theorem repeated_turns (agreed : Agreed db) (known : Known db call)
    (outcome : Outcome db call linked) : ∀ (left : List (String × Option Int)) (loop : Linking),
    LinkingSound db call loop → loop.left = left →
      ∃ loop', loop.turns db left = .ok loop' ∧ LinkingSound db call loop' ∧ loop'.left = [] := by
  intro left
  induction left with
  | nil => exact fun loop sound done => ⟨loop, rfl, sound, done⟩
  | cons upload rest ih =>
      intro loop sound next
      obtain ⟨uploadId, number⟩ := upload
      obtain ⟨loop', ran, further⟩ := repeated_turn agreed known sound outcome next
      obtain ⟨last, all, known', done⟩ := ih loop' (turn_sound agreed known sound next ran) further
      refine ⟨last, ?_, known', done⟩
      unfold Linking.turns
      rw [ran]
      exact all

/-- **A repeated call that is alone** returns what it has returned, and changes nothing. -/
theorem repeated_alone (agreed : Agreed db) (known : Known db call) (valid : call.isValid = true)
    (outcome : Outcome db call linked) (room : ((call.files db).length : Int) ≤ call.maximumFiles) :
    call.alone db = (.ok linked, db) := by
  obtain ⟨link, decided⟩ := repeated_decides agreed known outcome room
  obtain ⟨loop, ran, sound, done⟩ := repeated_turns agreed known outcome link.uploads
    ⟨link, link.uploads, link.next, []⟩ (decide_sound decided) rfl
  unfold LinkCall.alone
  rw [if_pos valid, decided]
  dsimp only
  unfold Linking.ends
  rw [ran]
  dsimp only
  rw [repeated_numbers agreed known sound done outcome, repeated_unchanged agreed sound outcome]

end Repeats

/-! ## A repeated call that is alone -/

/-- The calls of a server, and one more. -/
def Server.plus (s : Server) (call : LinkCall) (phase : Phase) : Server :=
  { s with calls := s.calls ++ [(call, phase)] }

/-- Every call has ended. -/
def Server.Idle (s : Server) : Prop :=
  ∀ other ∈ s.calls, ∃ result, other.2 = .finished result

section Alone

variable {sha256 : String → String} {site : Site} {s : Server} {call : LinkCall}
  {phase phase' : Phase} {linked : List (String × Int)}

theorem Server.plus_get : (s.plus call phase).calls[s.calls.length]? = some (call, phase) :=
  List.getElem?_concat_length

theorem Server.plus_enter :
    (s.plus call phase).enter s.calls.length call phase' = s.plus call phase' := by
  unfold Server.plus Server.enter
  dsimp only
  rw [List.set_append_right _ _ (le_refl _), Nat.sub_self]
  rfl

/-- The calls of a server and one more, over other tables. -/
def Server.now (s : Server) (call : LinkCall) (phase : Phase) (db : Database) : Server :=
  { s.plus call phase with db := db }

theorem Server.now_enter {db : Database} :
    (s.now call phase db).enter s.calls.length call phase' = s.now call phase' db := by
  have same : (s.plus call phase).enter s.calls.length call phase' = s.plus call phase' :=
    Server.plus_enter
  unfold Server.now
  rw [← same]
  rfl

/-- Nobody is in the way of one more call. -/
theorem Server.Idle.free (idle : s.Idle) {j : Nat} {other : LinkCall × Phase}
    (different : j ≠ s.calls.length) (there : (s.plus call phase).calls[j]? = some other) :
    other.2.holdsName = false ∧ other.2.lockedRows = [] ∧ other.2.pendingFiles = [] := by
  have before : s.calls[j]? = some other := by
    by_cases old : j < s.calls.length
    · exact (List.getElem?_append_left old).symm.trans there
    · have past : (s.plus call phase).calls[j]? = none := by
        refine List.getElem?_eq_none ?_
        show (s.calls ++ [(call, phase)]).length ≤ j
        rw [List.length_append, List.length_singleton]
        omega
      rw [past] at there
      cases there
  obtain ⟨result, ended⟩ := idle other (List.mem_of_getElem? before)
  rw [ended]
  exact ⟨rfl, rfl, rfl⟩

/-- Nothing fails. -/
def NoFailure : Server → LinkLabel → Prop := fun _ label => label.isFailure = false

/-- The turns of a call, as steps. -/
theorem turns_run (sha256 : String → String) (site : Site) (call : LinkCall) (idle : s.Idle) : ∀ (left : List (String × Option Int)) (loop : Linking),
    loop.left = left → ∃ labels, Trace (Guarded (LinkStep sha256 site) NoFailure)
      (s.plus call (.looping loop)) labels (s.plus call (.afterTurn (loop.turns s.db left))) ∧
        ∀ loop', loop.turns s.db left = .ok loop' → loop'.left = [] := by
  intro left
  induction left with
  | nil =>
      intro loop done
      refine ⟨[], .nil _, fun loop' same => ?_⟩
      cases same
      exact done
  | cons upload rest ih =>
      intro loop next
      obtain ⟨uploadId, number⟩ := upload
      have step : LinkStep sha256 site (s.plus call (.looping loop)) (.did s.calls.length .turned)
          ((s.plus call (.looping loop)).enter s.calls.length call
            (.afterTurn (loop.turn uploadId number rest s.db))) := by
        refine .turn Server.plus_get next ?_ ?_
        · intro j other different there locked isLocked
          rw [(idle.free different there).2.1] at isLocked
          cases isLocked
        · intro file inserted j other different there pending isPending
          rw [(idle.free different there).2.2] at isPending
          cases isPending
      rw [Server.plus_enter] at step
      unfold Linking.turns
      cases ran : loop.turn uploadId number rest s.db with
      | error error =>
          rw [ran] at step
          exact ⟨_, .single ⟨step, rfl⟩, nofun⟩
      | ok loop' =>
          rw [ran] at step
          have further : loop'.left = rest := by
            obtain ⟨next', entry, rfl, -⟩ := turn_cases ran
            rfl
          obtain ⟨labels, run, done⟩ := ih loop' further
          exact ⟨_, .cons ⟨step, rfl⟩ run, done⟩

/-- One more call, and what the tables are after it. -/
def Server.after (s : Server) (call : LinkCall)
    (ended : Except Throwable (List (String × Int)) × Database) : Server :=
  s.now call (.finished ended.1) ended.2

theorem Server.Idle.after (idle : s.Idle)
    (ended : Except Throwable (List (String × Int)) × Database) : (s.after call ended).Idle := by
  intro other member
  rcases List.mem_append.1 member with before | new
  · exact idle other before
  · rw [List.mem_singleton] at new
    exact ⟨ended.1, congrArg Prod.snd new⟩

/-- The last steps of a call that has failed. -/
theorem failed_runs (error : Throwable) :
    Trace (Guarded (LinkStep sha256 site) NoFailure) (s.plus call (.failed error))
      [.did s.calls.length .released] (s.after call (.error error, s.db)) := by
  have released : LinkStep sha256 site (s.plus call (.failed error)) (.did s.calls.length .released)
      ((s.plus call (.failed error)).enter s.calls.length call (.finished (.error error))) :=
    .release Server.plus_get rfl
  rw [Server.plus_enter] at released
  exact .single ⟨released, rfl⟩

/-- The last steps of a call that has nothing left. -/
theorem done_runs {loop : Linking} (done : loop.left = []) :
    Trace (Guarded (LinkStep sha256 site) NoFailure) (s.plus call (.looping loop))
      [.did s.calls.length .committed, .did s.calls.length .released]
      (s.after call (.ok loop.linked, loop.commit s.db)) := by
  have committed : LinkStep sha256 site (s.plus call (.looping loop)) (.did s.calls.length .committed)
      { (s.plus call (.looping loop)).enter s.calls.length call (.committed loop.linked) with
        db := loop.commit s.db } := .commit Server.plus_get done
  have released : LinkStep sha256 site (s.now call (.committed loop.linked) (loop.commit s.db))
      (.did s.calls.length .released)
      ((s.now call (.committed loop.linked) (loop.commit s.db)).enter s.calls.length call
        (.finished (.ok loop.linked))) := .release Server.plus_get rfl
  rw [Server.plus_enter] at committed
  rw [Server.now_enter] at released
  exact .cons ⟨committed, rfl⟩ (.single ⟨released, rfl⟩)

/-- A call that is alone from its lock on does what it does alone. -/
theorem called_runs (idle : s.Idle) (valid : call.isValid = true) :
    ∃ labels, Trace (Guarded (LinkStep sha256 site) NoFailure) (s.plus call .called) labels
      (s.after call (call.alone s.db)) := by
  unfold LinkCall.alone
  rw [if_pos valid]
  have free : (s.plus call .called).NameFree sha256 s.calls.length (call.lockName sha256) := by
    intro j other different there holds
    rw [(idle.free different there).1] at holds
    cases holds
  have acquired : LinkStep sha256 site (s.plus call .called) (.did s.calls.length .acquired)
      ((s.plus call .called).enter s.calls.length call .opened) := .acquire Server.plus_get free
  have scanned : LinkStep sha256 site (s.plus call .opened) (.did s.calls.length .scanned)
      ((s.plus call .opened).enter s.calls.length call
        (.afterScan (call.decide (call.target s.db)))) := .scan Server.plus_get
  rw [Server.plus_enter] at acquired scanned
  have begun : ∀ {labels t}, Trace (Guarded (LinkStep sha256 site) NoFailure)
      (s.plus call (.afterScan (call.decide (call.target s.db)))) labels t →
      ∃ labels', Trace (Guarded (LinkStep sha256 site) NoFailure) (s.plus call .called) labels' t :=
    fun rest => ⟨_, .cons ⟨acquired, rfl⟩ (.cons ⟨scanned, rfl⟩ rest)⟩
  cases decided : call.decide (call.target s.db) with
  | error error =>
      rw [decided] at begun
      exact begun (failed_runs error)
  | ok link =>
      rw [decided] at begun
      obtain ⟨labels, turns, done⟩ := turns_run sha256 site call idle
        link.uploads ⟨link, link.uploads, link.next, []⟩ rfl
      unfold Linking.ends
      dsimp only
      cases ran : Linking.turns s.db link.uploads ⟨link, link.uploads, link.next, []⟩ with
      | error error =>
          rw [ran] at turns
          exact begun (turns.append (failed_runs error))
      | ok loop =>
          rw [ran] at turns
          exact begun (turns.append (done_runs (done loop ran)))

/-- **A call that is alone does what it does alone.** -/
theorem alone_runs (idle : s.Idle) (board : call.board ∈ site.boards)
    (produced : Produced s.found call.board.boTable call.sessions) :
    ∃ labels, Trace (Guarded (LinkStep sha256 site) NoFailure) s labels
      (s.after call (call.alone s.db)) := by
  have called : LinkStep sha256 site s (.called call) { s with calls := s.calls ++ [(call,
      if call.isValid then .called else .finished (.error invalidTarget))] } :=
    .call call board produced
  by_cases valid : call.isValid = true
  · rw [if_pos valid] at called
    obtain ⟨labels, run⟩ : ∃ labels, Trace (Guarded (LinkStep sha256 site) NoFailure)
        (s.plus call .called) labels (s.after call (call.alone s.db)) := called_runs idle valid
    exact ⟨_, .cons ⟨called, rfl⟩ run⟩
  · unfold LinkCall.alone
    rw [if_neg valid] at called ⊢
    exact ⟨_, .single ⟨called, rfl⟩⟩

/-! ### What a call that is alone comes to -/

/-- The act is of the last call, and no failure. -/
def Alone (s : Server) : Server → LinkLabel → Prop := fun _ label =>
  label.isFailure = false ∧ ∃ act, label = .did s.calls.length act

/-- What is left of a call that is alone makes it what it is alone. -/
def Leads (db : Database) (call : LinkCall) (now : Database) : Phase → Prop
  | .called | .opened => now = db
  | .looping loop => now = db ∧ loop.ends db = call.alone db
  | .committed linked => call.alone db = (.ok linked, now)
  | .failed error => call.alone db = (.error error, now)
  | .finished result => call.alone db = (result, now)

/-- A step of a call that is alone. -/
theorem alone_step {now : Database} {label : LinkLabel} {t : Server} (valid : call.isValid = true)
    (leads : Leads s.db call now phase)
    (step : Guarded (LinkStep sha256 site) (Alone s) (s.now call phase now) label t) :
    ∃ phase' now', t = s.now call phase' now' ∧ Leads s.db call now' phase' := by
  obtain ⟨step, fine, act, rfl⟩ := step
  have its : ∀ {call' phase'}, (s.now call phase now).calls[s.calls.length]? = some (call', phase') →
      call = call' ∧ phase = phase' := fun there =>
    Prod.mk.inj (Option.some.inj (Server.plus_get.symm.trans there))
  cases step with
  | acquire there free =>
      obtain ⟨rfl, rfl⟩ := its there
      exact ⟨_, _, Server.now_enter, leads⟩
  | refuse there error => cases fine
  | scan there =>
      obtain ⟨rfl, rfl⟩ := its there
      obtain rfl : now = s.db := leads
      refine ⟨_, _, Server.now_enter, ?_⟩
      have alone : call.alone s.db = _ := if_pos valid
      show Leads s.db call s.db (.afterScan (call.decide (call.target s.db)))
      cases decided : call.decide (call.target s.db) with
      | error error =>
          rw [decided] at alone
          exact alone
      | ok link =>
          rw [decided] at alone
          exact ⟨rfl, alone.symm⟩
  | @turn _ _ loop uploadId number rest there next free key =>
      obtain ⟨rfl, rfl⟩ := its there
      obtain ⟨rfl, same⟩ := leads
      refine ⟨_, _, Server.now_enter, ?_⟩
      show Leads s.db call s.db (.afterTurn (loop.turn uploadId number rest s.db))
      unfold Linking.ends at same
      rw [next, Linking.turns] at same
      cases ran : loop.turn uploadId number rest s.db with
      | error error =>
          rw [ran] at same
          exact same.symm
      | ok loop' =>
          rw [ran] at same
          have further : loop'.left = rest := by
            obtain ⟨next', entry, rfl, -⟩ := turn_cases ran
            rfl
          refine ⟨rfl, ?_⟩
          unfold Linking.ends
          rw [further]
          exact same
  | @commit _ _ loop there done =>
      obtain ⟨rfl, rfl⟩ := its there
      obtain ⟨rfl, same⟩ := leads
      refine ⟨.committed loop.linked, loop.commit s.db, ?_, ?_⟩
      · rw [Server.now_enter]
        rfl
      · unfold Linking.ends at same
        rw [done] at same
        exact same.symm
  | fail there underway error => cases fine
  | @release _ _ _ result there ended =>
      obtain ⟨rfl, rfl⟩ := its there
      subst ended
      refine ⟨_, _, Server.now_enter, ?_⟩
      cases result with
      | error error => exact leads
      | ok linked => exact leads

/-- **A call that is alone has nothing else to come to.** -/
theorem alone_ends (valid : call.isValid = true) {labels : List LinkLabel} {t : Server}
    (run : Trace (Guarded (LinkStep sha256 site) (Alone s)) (s.plus call .called) labels t)
    {result : Except Throwable (List (String × Int))}
    (ended : t.calls[s.calls.length]? = some (call, .finished result)) :
    t = s.after call (call.alone s.db) := by
  have kept := run.keeps
    (P := fun t => ∃ phase now, t = s.now call phase now ∧ Leads s.db call now phase)
    (fun _ _ _ step held => by
      obtain ⟨phase, now, rfl, leads⟩ := held
      exact alone_step valid leads step)
    ⟨.called, s.db, rfl, rfl⟩
  obtain ⟨phase, now, rfl, leads⟩ := kept
  obtain ⟨-, rfl⟩ := Prod.mk.inj (Option.some.inj
    ((@Server.plus_get s call phase).symm.trans ended))
  unfold Server.after
  rw [show call.alone s.db = (result, now) from leads]

end Alone

/-! ## Exactness -/

/-- The files of an upload are one. -/
theorem Agreed.one_file {db : Database} (agreed : Agreed db) {row : SessionRow}
    (member : row ∈ db.sessions) {file file' : FileRow} (there : file ∈ db.files)
    (there' : file' ∈ db.files) (has : row.hasFile file = true) (has' : row.hasFile file' = true) :
    file = file' := by
  obtain ⟨wrId, bfNo⟩ := agreed.linked row member file there has
  obtain ⟨wrId', bfNo'⟩ := agreed.linked row member file' there' has'
  unfold SessionRow.hasFile at has has'
  rw [Bool.and_eq_true, collates_iff] at has has'
  refine agreed.numbered.eq_of_key there there' ?_
  unfold FileRow.identity
  rw [has.1, has'.1, Option.some.inj (wrId.symm.trans wrId'), Option.some.inj (bfNo.symm.trans bfNo')]

/-- The files of a post have numbers of their own. -/
theorem Agreed.numbers {db : Database} (agreed : Agreed db) (boardTable : String) (writeId : Int) :
    ((db.filesOf boardTable writeId).map FileRow.bfNo).Nodup := by
  have distinct : ((db.filesOf boardTable writeId).map FileRow.identity).Nodup :=
    KeyedBy.filter agreed.numbered _
  rw [List.nodup_map_iff_inj_on distinct.of_map]
  intro file member file' member' same
  obtain ⟨there, its⟩ := List.mem_filter.1 member
  obtain ⟨there', its'⟩ := List.mem_filter.1 member'
  rw [Bool.and_eq_true, collates_iff, beq_iff_eq] at its its'
  refine agreed.numbered.eq_of_key there there' ?_
  unfold FileRow.identity
  rw [its.1, its'.1, its.2, its'.2, same]

/-- **Attachment links are exact.**  In every run of the calls, whatever fails in them:
sessions and files agree, an upload has one file at most, and the numbers of a post differ; only
commits write, and a call that fails has none; a call that commits leaves its post with no more
files than it may have and the count of them in the post, and each of its uploads with the number
it returns; a call that is repeated returns the same numbers and writes nothing; and, alone, it
does get through, while the post has room for what it has. -/
theorem attachment_links_exact (sha256 : String → String) (site : Site) (labels : List LinkLabel)
    (s : Server) (run : Trace (LinkStep sha256 site) site.start labels s) :
    Agreed s.db ∧
    (∀ row ∈ s.db.sessions, ∀ file ∈ s.db.files, ∀ file' ∈ s.db.files, row.hasFile file = true →
      row.hasFile file' = true → file = file') ∧
    (∀ boardTable writeId, ((s.db.filesOf boardTable writeId).map FileRow.bfNo).Nodup) ∧
    (∀ label t, LinkStep sha256 site s label t → (∀ i, label ≠ .did i .committed) → t.db = s.db) ∧
    (∀ (i : Nat) call result, s.calls[i]? = some (call, .finished result) →
      ((∃ linked, result = .ok linked) ↔ .did i .committed ∈ labels)) ∧
    (∀ i t, LinkStep sha256 site s (.did i .committed) t → ∃ call linked,
      t.calls[i]? = some (call, .committed linked) ∧ Outcome t.db call linked ∧
      ((call.files t.db).length : Int) ≤ call.maximumFiles ∧
      ∀ (j : Nat) earlier linked', s.calls[j]? = some (earlier, .finished (.ok linked')) →
        call.Repeats earlier → linked = linked' ∧ t.db = s.db) ∧
    (∀ (i : Nat) call linked, s.calls[i]? = some (call, .finished (.ok linked)) → s.Idle →
      ((call.files s.db).length : Int) ≤ call.maximumFiles →
      (∃ labels', Trace (Guarded (LinkStep sha256 site) NoFailure) s labels'
        (s.plus call (.finished (.ok linked)))) ∧
      ∀ labels' t result,
        Trace (Guarded (LinkStep sha256 site) (Alone s)) (s.plus call .called) labels' t →
        t.calls[s.calls.length]? = some (call, .finished result) →
        t = s.plus call (.finished (.ok linked))) := by
  have sound := run_serverSound run
  refine ⟨sound.agreed, fun row member file there file' there' has has' =>
    sound.agreed.one_file member there there' has has', sound.agreed.numbers,
    fun label t step other => unchanged_of_other step other, ?_, ?_, ?_⟩
  · intro i call result ended
    have succeeded : s.Succeeded i ↔ .did i .committed ∈ labels := by
      rw [run_succeeded run]
      refine or_iff_right ?_
      rintro ⟨call', linked, entered | entered⟩
      · cases entered
      · cases entered
    rw [← succeeded]
    constructor
    · rintro ⟨linked, rfl⟩
      exact ⟨call, linked, .inr ended⟩
    · rintro ⟨call', linked, entered | entered⟩
      · rw [ended] at entered
        cases entered
      · rw [ended] at entered
        cases entered
        exact ⟨linked, rfl⟩
  · intro i t step
    cases step with
    | @commit _ call loop there done =>
        have mine : LinkingSound s.db call loop := sound.phases i call _ there
        have known := sound.known (sound.produced i call _ there)
        obtain ⟨outcome, few⟩ := commit_outcome mine done
        have inRange : i < s.calls.length := (List.getElem?_eq_some_iff.1 there).1
        refine ⟨call, loop.linked, List.getElem?_set_self inRange, outcome, few, ?_⟩
        intro j earlier linked' ended repeats
        have before := repeats.outcome (sound.phases j earlier _ ended)
        exact ⟨repeated_numbers sound.agreed known mine done before,
          repeated_unchanged sound.agreed mine before⟩
  · intro i call linked ended idle room
    have produced := sound.produced i call _ ended
    have valid := sound.valid i call _ ended nofun
    have same := repeated_alone sound.agreed (sound.known produced) valid
      (sound.phases i call _ ended) room
    have after : s.after call (call.alone s.db) = s.plus call (.finished (.ok linked)) := by
      rw [same]
      rfl
    rw [← after]
    refine ⟨alone_runs idle (sound.boards i call _ ended) produced, fun labels' t result run' done => ?_⟩
    exact alone_ends valid run' done

/-! ## A post that is full -/

/-- A ready upload. -/
def sampleSession (uploadId : String) : SessionRow where
  uploadId := uploadId
  batchId := "018f47f0-6666-7666-8666-666666666666"
  ownerKey := "m:kim"
  boTable := "free"
  clientRef := "file-1"
  originalFilename := "photo.png"
  declaredKind := "image"
  contentTypeHint := "image/png"
  expectedSizeBytes := 2048
  attachmentOrder := 0
  transferMethod := "single_put"
  state := "ready"
  readyMimeType := some "image/jpeg"
  readyMasterBytes := some 1024
  readyThumbnailBytes := some 256
  readyPresetId := some "image-2k-v1"
  wrId := none
  bfNo := none
  deletionDueAt := none
  deletionAttempts := 0
  deletionLastError := none
  deletionRequestedAt := none

/-- Two uploads. -/
def firstUpload : String := "018f47f0-1111-7111-8111-111111111111"
def secondUpload : String := "018f47f0-2222-7222-8222-222222222222"

/-- A board whose post 9 has no files. -/
def sampleTables : Database :=
  ⟨[sampleSession firstUpload, sampleSession secondUpload], [], [⟨"g5_write_free", 9, 0⟩]⟩

theorem sampleTables_agreed : Agreed sampleTables := by
  refine agreed_unlinked ?_ List.nodup_nil (by decide) fun _ _ _ there => absurd there List.not_mem_nil
  unfold Keyed KeyedBy
  have differ : strtolower firstUpload ≠ strtolower secondUpload := by decide
  exact List.nodup_cons.2 ⟨fun member => differ (List.mem_singleton.1 member),
    List.nodup_singleton _⟩

/-- The board. -/
def sampleSite : Site where
  boards := [⟨"free", "g5_write_free"⟩]
  db := sampleTables
  sameBoard _ member _ member' _ :=
    (List.mem_singleton.1 member).trans (List.mem_singleton.1 member').symm
  sameTable _ member _ member' _ :=
    (List.mem_singleton.1 member).trans (List.mem_singleton.1 member').symm
  agreed := sampleTables_agreed

/-- A call for one of the uploads, at post 9. -/
def sampleCall (uploadId : String) (maximumFiles : Int) : LinkCall :=
  ⟨[sampleSession uploadId], ⟨"free", "g5_write_free"⟩, 9, maximumFiles⟩

/-- The uploads have been read. -/
def sampleServer : Server where
  db := sampleTables
  found := [⟨firstUpload, "m:kim", "free", sampleSession firstUpload⟩,
    ⟨secondUpload, "m:kim", "free", sampleSession secondUpload⟩]
  calls := []

theorem sampleServer_run (sha256 : String → String) :
    ∃ labels, Trace (Guarded (LinkStep sha256 sampleSite) NoFailure) sampleSite.start labels
      sampleServer := by
  have first : LinkStep sha256 sampleSite sampleSite.start
      (.found ⟨firstUpload, "m:kim", "free", sampleSession firstUpload⟩) _ :=
    .find _ (by decide) rfl (by decide)
  have second : LinkStep sha256 sampleSite
      ⟨sampleTables, [⟨firstUpload, "m:kim", "free", sampleSession firstUpload⟩], []⟩
      (.found ⟨secondUpload, "m:kim", "free", sampleSession secondUpload⟩) sampleServer :=
    .find _ (by decide) rfl (by decide)
  exact ⟨_, .cons ⟨first, rfl⟩ (.single ⟨second, rfl⟩)⟩

/-- A call for an upload that has been read. -/
theorem sampleCall_produced (uploadId : String) (maximumFiles : Int)
    (read : uploadId ∈ [firstUpload, secondUpload]) {s : Server}
    (found : s.found = sampleServer.found) :
    Produced s.found "free" (sampleCall uploadId maximumFiles).sessions := by
  refine ⟨[uploadId], "m:kim", by simp, by simp, List.nodup_singleton _, by decide, by decide, ?_⟩
  refine .cons ?_ .nil
  rw [found]
  rcases List.mem_cons.1 read with rfl | second
  · exact List.mem_cons_self
  · obtain rfl := List.mem_singleton.1 second
    exact List.mem_cons_of_mem _ List.mem_cons_self

/-- A call for one of the uploads, when all others have ended. -/
theorem sampleCall_runs (sha256 : String → String) (uploadId : String) (maximumFiles : Int)
    (read : uploadId ∈ [firstUpload, secondUpload]) {s : Server} (idle : s.Idle)
    (found : s.found = sampleServer.found)
    (run : ∃ labels, Trace (Guarded (LinkStep sha256 sampleSite) NoFailure) sampleSite.start labels s) :
    ∃ labels, Trace (Guarded (LinkStep sha256 sampleSite) NoFailure) sampleSite.start labels
      (s.after (sampleCall uploadId maximumFiles)
        ((sampleCall uploadId maximumFiles).alone s.db)) := by
  obtain ⟨labels, before⟩ := run
  obtain ⟨labels', after⟩ := @alone_runs sha256 sampleSite s (sampleCall uploadId maximumFiles) idle
    List.mem_cons_self
    (sampleCall_produced uploadId maximumFiles read found)
  exact ⟨labels ++ labels', before.append after⟩

/-- A server after one of the calls. -/
def Server.sampled (s : Server) (uploadId : String) (maximumFiles : Int) : Server :=
  s.after (sampleCall uploadId maximumFiles) ((sampleCall uploadId maximumFiles).alone s.db)

/-- The first upload is linked, at a board that takes one file. -/
def sampleOne : Server := sampleServer.sampled firstUpload 1

/-- The second is linked, when the board takes two. -/
def sampleTwo : Server := sampleOne.sampled secondUpload 2

theorem sampleServer_idle : sampleServer.Idle := fun _ member => absurd member List.not_mem_nil

theorem sampleOne_run (sha256 : String → String) : ∃ labels,
    Trace (Guarded (LinkStep sha256 sampleSite) NoFailure) sampleSite.start labels sampleOne :=
  sampleCall_runs sha256 firstUpload 1 (by decide) sampleServer_idle rfl (sampleServer_run sha256)

theorem sampleTwo_run (sha256 : String → String) : ∃ labels,
    Trace (Guarded (LinkStep sha256 sampleSite) NoFailure) sampleSite.start labels sampleTwo :=
  sampleCall_runs sha256 secondUpload 2 (by decide) (sampleServer_idle.after _) rfl
    (sampleOne_run sha256)

/-! ### Two calls at once -/

/-- The first call is somewhere, while the second waits for the name of the post. -/
def waitingServer (db : Database) (phase : Phase) : Server :=
  ⟨db, sampleServer.found, [(sampleCall firstUpload 2, phase), (sampleCall secondUpload 2, .called)]⟩

theorem waitingServer_other {db : Database} {phase : Phase} {j : Nat} {other : LinkCall × Phase}
    (different : j ≠ 0) (there : (waitingServer db phase).calls[j]? = some other) :
    other = (sampleCall secondUpload 2, .called) := by
  rcases j with - | - | j
  · exact absurd rfl different
  · exact (Option.some.inj there).symm
  · cases there

/-- What the first call finds, and what its loop is after its one turn. -/
def sampleLink : Link := ⟨"free", "g5_write_free", 9, [(firstUpload, none)], 0, 0⟩

def sampleLooping : Linking := ⟨sampleLink, sampleLink.uploads, sampleLink.next, []⟩

def sampleLooped : Linking := { sampleLooping with
  left := []
  next := 1
  entries := [⟨firstUpload, 0, sampleLooping.fileFor firstUpload none sampleTables⟩] }

/-- The first call is done, and the second still waits. -/
def sampleWaited : Server := waitingServer (sampleLooped.commit sampleTables)
  (.finished (.ok [(firstUpload, 0)]))

theorem sampleWaited_run (sha256 : String → String) : ∃ labels,
    Trace (Guarded (LinkStep sha256 sampleSite) NoFailure) sampleSite.start labels sampleWaited := by
  obtain ⟨labels, before⟩ := sampleServer_run sha256
  have first : LinkStep sha256 sampleSite sampleServer (.called (sampleCall firstUpload 2))
      (sampleServer.plus (sampleCall firstUpload 2) .called) :=
    .call _ List.mem_cons_self (sampleCall_produced firstUpload 2 (by decide) rfl)
  have second : LinkStep sha256 sampleSite (sampleServer.plus (sampleCall firstUpload 2) .called)
      (.called (sampleCall secondUpload 2)) (waitingServer sampleTables .called) :=
    .call _ List.mem_cons_self (sampleCall_produced secondUpload 2 (by decide) rfl)
  have acquired : LinkStep sha256 sampleSite (waitingServer sampleTables .called)
      (.did 0 .acquired) (waitingServer sampleTables .opened) := by
    refine .acquire rfl fun j other different there holds => ?_
    obtain rfl := waitingServer_other different there
    cases holds
  have scanned : LinkStep sha256 sampleSite (waitingServer sampleTables .opened)
      (.did 0 .scanned) (waitingServer sampleTables (.looping sampleLooping)) := .scan rfl
  have turned : LinkStep sha256 sampleSite (waitingServer sampleTables (.looping sampleLooping))
      (.did 0 .turned) (waitingServer sampleTables (.looping sampleLooped)) := by
    refine @LinkStep.turn _ _ _ 0 (sampleCall firstUpload 2) sampleLooping firstUpload none [] rfl
      rfl (fun j other different there locked isLocked => ?_)
      fun file inserted j other different there pending isPending => ?_
    · obtain rfl := waitingServer_other different there
      cases isLocked
    · obtain rfl := waitingServer_other different there
      cases isPending
  have committed : LinkStep sha256 sampleSite (waitingServer sampleTables (.looping sampleLooped))
      (.did 0 .committed) (waitingServer (sampleLooped.commit sampleTables)
        (.committed [(firstUpload, 0)])) := .commit rfl rfl
  have released : LinkStep sha256 sampleSite (waitingServer (sampleLooped.commit sampleTables)
      (.committed [(firstUpload, 0)])) (.did 0 .released) sampleWaited := .release rfl rfl
  exact ⟨_, before.append (.cons ⟨first, rfl⟩ (.cons ⟨second, rfl⟩ (.cons ⟨acquired, rfl⟩
    (.cons ⟨scanned, rfl⟩ (.cons ⟨turned, rfl⟩ (.cons ⟨committed, rfl⟩
    (.single ⟨released, rfl⟩)))))))⟩

/-- The second call goes on when the first is done. -/
def sampleBoth : Server :=
  Server.after ⟨sampleWaited.db, sampleServer.found,
      [(sampleCall firstUpload 2, .finished (.ok [(firstUpload, 0)]))]⟩
    (sampleCall secondUpload 2) ((sampleCall secondUpload 2).alone sampleWaited.db)

theorem sampleBoth_idle : sampleBoth.Idle := by
  refine Server.Idle.after (fun other member => ?_) _
  obtain rfl := List.mem_singleton.1 member
  exact ⟨_, rfl⟩

theorem sampleBoth_run (sha256 : String → String) : ∃ labels,
    Trace (Guarded (LinkStep sha256 sampleSite) NoFailure) sampleSite.start labels sampleBoth := by
  obtain ⟨labels, before⟩ := sampleWaited_run sha256
  obtain ⟨labels', after⟩ := @called_runs sha256 sampleSite
    ⟨sampleWaited.db, sampleServer.found,
      [(sampleCall firstUpload 2, .finished (.ok [(firstUpload, 0)]))]⟩ (sampleCall secondUpload 2)
    (fun other member => ⟨_, congrArg Prod.snd (List.mem_singleton.1 member)⟩) rfl
  exact ⟨labels ++ labels', before.append after⟩

/-- Two calls for one post overlap, get numbers of their own, and the first gets its own again. -/
theorem attachment_links_exact_sample :
    ∃ labels, Trace (LinkStep (fun _ => "") sampleSite) sampleSite.start labels sampleBoth ∧
    Agreed sampleBoth.db ∧ .did 0 .committed ∈ labels ∧ .did 1 .committed ∈ labels ∧
    sampleBoth.calls = [(sampleCall firstUpload 2, .finished (.ok [(firstUpload, 0)])),
      (sampleCall secondUpload 2, .finished (.ok [(secondUpload, 1)]))] ∧
    ((sampleBoth.db.filesOf "free" 9).map FileRow.bfNo).Nodup ∧
    ∃ labels, Trace (Guarded (LinkStep (fun _ => "") sampleSite) NoFailure) sampleBoth labels
      (sampleBoth.plus (sampleCall firstUpload 2) (.finished (.ok [(firstUpload, 0)]))) := by
  obtain ⟨labels, run⟩ := sampleBoth_run fun _ => ""
  obtain ⟨agreed, -, numbers, -, returned, -, again⟩ :=
    attachment_links_exact (fun _ => "") sampleSite labels sampleBoth run.unguarded
  have room : (((sampleCall firstUpload 2).files sampleBoth.db).length : Int) ≤ 2 := by decide
  exact ⟨labels, run.unguarded, agreed, (returned 0 _ _ rfl).1 ⟨_, rfl⟩,
    (returned 1 (sampleCall secondUpload 2) (.ok [(secondUpload, 1)]) rfl).1 ⟨_, rfl⟩, rfl,
    numbers "free" 9, (again 0 _ _ rfl sampleBoth_idle room).1⟩

/-- A call that has succeeded is repeated, and fails though no statement does: another call, when
its board took more files, has filled the post. -/
theorem repeat_meets_limit : ∃ labels s call linked,
    Trace (Guarded (LinkStep (fun _ => "") sampleSite) NoFailure) sampleSite.start labels s ∧
    s.calls[0]? = some (call, .finished (.ok linked)) ∧
    s.calls[2]? = some (call, .finished (.error
      (.unexpectedValue "post attachment count exceeds the board limit"))) := by
  obtain ⟨labels, run⟩ := sampleCall_runs (fun _ => "") firstUpload 1 (by decide)
    ((sampleServer_idle.after _).after _) rfl (sampleTwo_run fun _ => "")
  refine ⟨labels, _, sampleCall firstUpload 1, [(firstUpload, 0)], run, ?_, ?_⟩
  · rfl
  · rfl

end MediaBooster.Gnuboard5
