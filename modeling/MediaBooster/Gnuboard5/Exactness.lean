/-
# Gnuboard5.Exactness -- links of posts, over every run of the calls

`ServerSound` is the invariant of the calls together: the tables agree, every call knows what
`PhaseSound` says, no two of them hold one name, and no two of them one session.  Only a commit
writes.  It is of a post whose name the call holds, so that no other call that is underway has
read the files of that post, and of sessions it has locked, so that no other call has read those
(`ServerSound.commit`).  Everything else is a step of one call (`ServerSound.enter`).
-/
import MediaBooster.Gnuboard5.Attachments

namespace MediaBooster.Gnuboard5

set_option autoImplicit false

open MediaBooster.Domain
open MediaBooster.Theory.Run
open MediaBooster.Theory.Table

/-! ## The invariant -/

/-- The calls of a server, and what they know. -/
structure ServerSound (sha256 : String → String) (site : Site) (s : Server) : Prop where
  agreed : Agreed s.db
  found : ∀ found ∈ s.found, ∃ row ∈ s.db.sessions, row.uploadId = found.row.uploadId ∧
    collates row.boTable found.boardTable = true
  boards : ∀ (i : Nat) (call : LinkCall) (phase : Phase), s.calls[i]? = some (call, phase) →
    call.board ∈ site.boards
  produced : ∀ (i : Nat) (call : LinkCall) (phase : Phase), s.calls[i]? = some (call, phase) →
    Produced s.found call.board.boTable call.sessions
  valid : ∀ (i : Nat) (call : LinkCall) (phase : Phase), s.calls[i]? = some (call, phase) →
    (∀ error, phase ≠ .finished (.error error)) → call.isValid = true
  phases : ∀ (i : Nat) (call : LinkCall) (phase : Phase), s.calls[i]? = some (call, phase) →
    PhaseSound s.db call phase
  names : ∀ (i : Nat) (call : LinkCall) (phase : Phase), s.calls[i]? = some (call, phase) →
    phase.holdsName = true → s.NameFree sha256 i (call.lockName sha256)
  rows : ∀ (i : Nat) (call : LinkCall) (phase : Phase), s.calls[i]? = some (call, phase) →
    ∀ uploadId ∈ phase.lockedRows, s.RowFree i uploadId

section Steps

variable {sha256 : String → String} {site : Site} {s t : Server} {i : Nat} {call : LinkCall}
  {phase phase' : Phase}

/-- A list that was returned is of sessions there are. -/
theorem ServerSound.known (sound : ServerSound sha256 site s)
    (produced : Produced s.found call.board.boTable call.sessions) : Known s.db call := by
  obtain ⟨uploadIds, ownerKey, -, -, -, -, -, read⟩ := produced
  intro session given
  obtain ⟨uploadId, -, there⟩ := forall₂_mem_right read given
  exact sound.found _ there

theorem Server.enter_get {j : Nat} {other : LinkCall × Phase}
    (there : s.calls[i]? = some (call, phase)) (after : (s.enter i call phase').calls[j]? = some other) :
    (j = i ∧ other = (call, phase')) ∨ (j ≠ i ∧ s.calls[j]? = some other) := by
  have inRange : i < s.calls.length := (List.getElem?_eq_some_iff.1 there).1
  unfold Server.enter at after
  rw [List.getElem?_set] at after
  by_cases same : i = j
  · rw [if_pos same, if_pos inRange] at after
    exact .inl ⟨same.symm, (Option.some.inj after).symm⟩
  · rw [if_neg same] at after
    exact .inr ⟨Ne.symm same, after⟩

/-- One call at a time holds the name of a post. -/
theorem ServerSound.enter_names (sound : ServerSound sha256 site s)
    (there : s.calls[i]? = some (call, phase))
    (name : phase'.holdsName = true →
      phase.holdsName = true ∨ s.NameFree sha256 i (call.lockName sha256))
    {j : Nat} {other : LinkCall} {phase'' : Phase}
    (after : (s.enter i call phase').calls[j]? = some (other, phase''))
    (holds : phase''.holdsName = true) :
    (s.enter i call phase').NameFree sha256 j (other.lockName sha256) := by
  have nameFree : phase'.holdsName = true → s.NameFree sha256 i (call.lockName sha256) := by
    intro holds
    rcases name holds with already | free
    · exact sound.names i call phase there already
    · exact free
  intro k third different at_ holds'
  rcases Server.enter_get there after with ⟨rfl, same⟩ | ⟨apart, before⟩
  · cases same
    rcases Server.enter_get there at_ with ⟨same, -⟩ | ⟨-, before'⟩
    · exact absurd same different
    · exact nameFree holds k third different before' holds'
  · rcases Server.enter_get there at_ with ⟨rfl, same⟩ | ⟨-, before'⟩
    · rw [same] at holds' ⊢
      exact (nameFree holds' j (other, phase'') apart before holds).symm
    · exact sound.names j other phase'' before holds k third different before' holds'

/-- One call at a time holds a session. -/
theorem ServerSound.enter_rows (sound : ServerSound sha256 site s)
    (there : s.calls[i]? = some (call, phase))
    (rows : ∀ uploadId ∈ phase'.lockedRows, uploadId ∈ phase.lockedRows ∨ s.RowFree i uploadId)
    {j : Nat} {other : LinkCall} {phase'' : Phase}
    (after : (s.enter i call phase').calls[j]? = some (other, phase'')) {uploadId : String}
    (locked : uploadId ∈ phase''.lockedRows) : (s.enter i call phase').RowFree j uploadId := by
  have rowFree : ∀ uploadId ∈ phase'.lockedRows, s.RowFree i uploadId := by
    intro uploadId locked
    rcases rows uploadId locked with already | free
    · exact sound.rows i call phase there uploadId already
    · exact free
  intro k third different at_ locked' holds'
  rcases Server.enter_get there after with ⟨rfl, same⟩ | ⟨apart, before⟩
  · cases same
    rcases Server.enter_get there at_ with ⟨same, -⟩ | ⟨-, before'⟩
    · exact absurd same different
    · exact rowFree uploadId locked k third different before' locked' holds'
  · rcases Server.enter_get there at_ with ⟨rfl, same⟩ | ⟨-, before'⟩
    · rw [same] at holds'
      have free := rowFree locked' holds' j (other, phase'') apart before uploadId locked
      rw [← Bool.not_eq_true] at free ⊢
      exact fun both => free (collates_symm both)
    · exact sound.rows j other phase'' before uploadId locked k third different before' locked'
        holds'

/-- **A step of one call**: it locks what is free, and knows what it has read. -/
theorem ServerSound.enter (sound : ServerSound sha256 site s)
    (there : s.calls[i]? = some (call, phase)) (knows : PhaseSound s.db call phase')
    (valid : (∀ error, phase' ≠ .finished (.error error)) →
      ∀ error, phase ≠ .finished (.error error))
    (name : phase'.holdsName = true →
      phase.holdsName = true ∨ s.NameFree sha256 i (call.lockName sha256))
    (rows : ∀ uploadId ∈ phase'.lockedRows, uploadId ∈ phase.lockedRows ∨ s.RowFree i uploadId) :
    ServerSound sha256 site (s.enter i call phase') := by
  refine
    { agreed := sound.agreed
      found := sound.found
      boards := ?_, produced := ?_, valid := ?_, phases := ?_
      names := fun j other phase'' after holds => sound.enter_names there name after holds
      rows := fun j other phase'' after uploadId locked =>
        sound.enter_rows there rows after locked }
  · intro j other phase'' after
    rcases Server.enter_get there after with ⟨-, same⟩ | ⟨-, before⟩
    · cases same
      exact sound.boards i call phase there
    · exact sound.boards j other phase'' before
  · intro j other phase'' after
    rcases Server.enter_get there after with ⟨-, same⟩ | ⟨-, before⟩
    · cases same
      exact sound.produced i call phase there
    · exact sound.produced j other phase'' before
  · intro j other phase'' after running
    rcases Server.enter_get there after with ⟨-, same⟩ | ⟨-, before⟩
    · cases same
      exact sound.valid i call phase there (valid running)
    · exact sound.valid j other phase'' before running
  · intro j other phase'' after
    rcases Server.enter_get there after with ⟨-, same⟩ | ⟨-, before⟩
    · cases same
      exact knows
    · exact sound.phases j other phase'' before

/-- Two calls that hold their names are of different posts. -/
theorem ServerSound.apart (sound : ServerSound sha256 site s)
    (there : s.calls[i]? = some (call, phase)) (holds : phase.holdsName = true) {j : Nat}
    {other : LinkCall} {phase'' : Phase} (different : j ≠ i)
    (there' : s.calls[j]? = some (other, phase'')) (holds' : phase''.holdsName = true) :
    ¬ (collates call.board.boTable other.board.boTable = true ∧ call.writeId = other.writeId) := by
  rintro ⟨boards, posts⟩
  have board := site.sameBoard _ (sound.boards i call phase there) _
    (sound.boards j other phase'' there') boards
  refine sound.names i call phase there holds j (other, phase'') different there' holds' ?_
  unfold LinkCall.lockName
  rw [board, posts]

/-- **A commit**: what the others have read is not what it writes. -/
theorem ServerSound.commit {loop : Linking} (sound : ServerSound sha256 site s)
    (there : s.calls[i]? = some (call, .looping loop)) (done : loop.left = []) :
    ServerSound sha256 site
      { s.enter i call (.committed loop.linked) with db := loop.commit s.db } := by
  have mine : LinkingSound s.db call loop := sound.phases i call _ there
  refine
    { agreed := commit_agreed sound.agreed mine
      found := ?_, boards := ?_, produced := ?_, valid := ?_, phases := ?_
      names := fun j other phase'' after holds =>
        sound.enter_names there (fun _ => .inl rfl) after holds
      rows := fun j other phase'' after uploadId locked =>
        sound.enter_rows there (fun _ member => absurd member List.not_mem_nil) after locked }
  · intro found member
    obtain ⟨row, stored, id, board⟩ := sound.found found member
    obtain ⟨⟨row', stored', id', board', -⟩, -⟩ := commit_session loop stored
    exact ⟨row', stored', id'.trans id, board'.symm ▸ board⟩
  · intro j other phase'' after
    rcases Server.enter_get there after with ⟨-, same⟩ | ⟨-, before⟩
    · cases same
      exact sound.boards i call _ there
    · exact sound.boards j other phase'' before
  · intro j other phase'' after
    rcases Server.enter_get there after with ⟨-, same⟩ | ⟨-, before⟩
    · cases same
      exact sound.produced i call _ there
    · exact sound.produced j other phase'' before
  · intro j other phase'' after running
    rcases Server.enter_get there after with ⟨-, same⟩ | ⟨-, before⟩
    · cases same
      exact sound.valid i call _ there nofun
    · exact sound.valid j other phase'' before running
  · intro j other phase'' after
    rcases Server.enter_get there after with ⟨-, same⟩ | ⟨apart, before⟩
    · cases same
      exact (commit_outcome mine done).1
    have its := sound.phases j other phase'' before
    have kept : ∀ linked, Outcome s.db other linked → Outcome (loop.commit s.db) other linked :=
      fun linked outcome => outcome.kept mine done
        (site.sameBoard _ (sound.boards i call _ there) _ (sound.boards j other phase'' before))
        (site.sameTable _ (sound.boards i call _ there) _ (sound.boards j other phase'' before))
    cases phase'' with
    | called | opened | failed => trivial
    | committed linked => exact kept linked its
    | finished result =>
        cases result with
        | error error => trivial
        | ok linked => exact kept linked its
    | looping loop' =>
        have theirs : LinkingSound s.db other loop' := its
        refine theirs.kept (commit_files_other mine _ (sound.apart there rfl apart before rfl))
          (commit_posted loop theirs.posted) fun row stored entry entered same => ?_
        refine (commit_session loop stored).2 fun entry' entered' => ?_
        have free := sound.rows i call _ there entry'.uploadId (List.mem_map_of_mem entered') j
          _ apart before entry.uploadId (List.mem_map_of_mem entered)
        rw [← Bool.not_eq_true] at free ⊢
        exact fun hits => free (collates_trans (collates_symm same) hits)

/-- A new call. -/
theorem ServerSound.begin (sound : ServerSound sha256 site s) (board : call.board ∈ site.boards)
    (produced : Produced s.found call.board.boTable call.sessions)
    (begins : phase = .called ∧ call.isValid = true ∨ ∃ error, phase = .finished (.error error)) :
    ServerSound sha256 site { s with calls := s.calls ++ [(call, phase)] } := by
  have get : ∀ (j : Nat) (other : LinkCall × Phase),
      (s.calls ++ [(call, phase)])[j]? = some other →
      s.calls[j]? = some other ∨ other = (call, phase) := by
    intro j other after
    by_cases old : j < s.calls.length
    · rw [List.getElem?_append_left old] at after
      exact .inl after
    · rw [List.getElem?_append_right (by omega)] at after
      exact .inr (List.mem_singleton.1 (List.mem_of_getElem? after))
  have idle : phase.holdsName = false ∧ phase.lockedRows = [] ∧ PhaseSound s.db call phase := by
    rcases begins with ⟨rfl, -⟩ | ⟨error, rfl⟩
    · exact ⟨rfl, rfl, trivial⟩
    · exact ⟨rfl, rfl, trivial⟩
  refine
    { agreed := sound.agreed
      found := sound.found
      boards := ?_, produced := ?_, valid := ?_, phases := ?_, names := ?_, rows := ?_ }
  · intro j other phase'' after
    rcases get j _ after with before | same
    · exact sound.boards j other phase'' before
    · cases same
      exact board
  · intro j other phase'' after
    rcases get j _ after with before | same
    · exact sound.produced j other phase'' before
    · cases same
      exact produced
  · intro j other phase'' after running
    rcases get j _ after with before | same
    · exact sound.valid j other phase'' before running
    · cases same
      rcases begins with ⟨-, valid⟩ | ⟨error, ended⟩
      · exact valid
      · exact absurd ended (running error)
  · intro j other phase'' after
    rcases get j _ after with before | same
    · exact sound.phases j other phase'' before
    · cases same
      exact idle.2.2
  · intro j other phase'' after holds k third different at_ holds'
    rcases get j _ after with before | same
    · rcases get k _ at_ with before' | rfl
      · exact sound.names j other phase'' before holds k third different before' holds'
      · rw [idle.1] at holds'
        cases holds'
    · cases same
      rw [idle.1] at holds
      cases holds
  · intro j other phase'' after uploadId locked k third different at_ locked' holds'
    rcases get j _ after with before | same
    · rcases get k _ at_ with before' | rfl
      · exact sound.rows j other phase'' before uploadId locked k third different before' locked'
          holds'
      · rw [idle.2.1] at holds'
        cases holds'
    · cases same
      rw [idle.2.1] at locked
      cases locked

/-- **Every step keeps the invariant.** -/
theorem ServerSound.step {label : LinkLabel} (sound : ServerSound sha256 site s)
    (step : LinkStep sha256 site s label t) : ServerSound sha256 site t := by
  cases step with
  | find found uuid read ready =>
      refine
        { sound with
          found := fun found' member => ?_
          produced := fun j other phase'' there => ?_ }
      · rcases List.mem_append.1 member with old | new
        · exact sound.found found' old
        · rw [List.mem_singleton.1 new]
          have its := List.find?_some read
          rw [Bool.and_eq_true] at its
          exact ⟨found.row, List.mem_of_find?_eq_some read, rfl, its.2⟩
      · obtain ⟨uploadIds, ownerKey, some_, few, nodup, owner, board, read'⟩ :=
          sound.produced j other phase'' there
        exact ⟨uploadIds, ownerKey, some_, few, nodup, owner, board,
          read'.imp fun _ _ member => List.mem_append_left _ member⟩
  | call call board produced =>
      refine sound.begin board produced ?_
      by_cases valid : call.isValid = true
      · exact .inl ⟨if_pos valid, valid⟩
      · exact .inr ⟨_, if_neg valid⟩
  | acquire there free =>
      exact sound.enter there trivial (fun _ _ => nofun) (fun _ => .inr free)
        fun _ locked => absurd locked List.not_mem_nil
  | refuse there error =>
      exact sound.enter there trivial (fun _ _ => nofun) nofun
        fun _ locked => absurd locked List.not_mem_nil
  | @scan i call there =>
      refine sound.enter there ?_ (fun _ _ => nofun) (fun _ => .inl rfl) fun uploadId locked => ?_
      · cases decided : call.decide (call.target s.db) with
        | error error => trivial
        | ok link => exact decide_sound decided
      · cases decided : call.decide (call.target s.db) with
        | error error =>
            rw [decided] at locked
            exact absurd locked List.not_mem_nil
        | ok link =>
            rw [decided] at locked
            exact absurd locked List.not_mem_nil
  | @turn i call loop uploadId number rest there next free key =>
      have mine : LinkingSound s.db call loop := sound.phases i call _ there
      refine sound.enter there ?_ (fun _ _ => nofun) (fun _ => .inl rfl) fun locked isLocked => ?_
      · cases ran : loop.turn uploadId number rest s.db with
        | error error => trivial
        | ok loop' =>
            exact turn_sound sound.agreed (sound.known (sound.produced i call _ there)) mine next ran
      · cases ran : loop.turn uploadId number rest s.db with
        | error error =>
            rw [ran] at isLocked
            exact absurd isLocked List.not_mem_nil
        | ok loop' =>
            rw [ran] at isLocked
            obtain ⟨after, entry, rfl, id, -⟩ := turn_cases ran
            obtain ⟨entry', entered, rfl⟩ := List.mem_map.1 isLocked
            rcases List.mem_append.1 entered with old | new
            · exact .inl (List.mem_map_of_mem old)
            · rw [List.mem_singleton.1 new, id]
              exact .inr free
  | commit there done => exact sound.commit there done
  | fail there underway error =>
      refine sound.enter there trivial (fun _ error' => ?_) (fun _ => ?_)
        fun _ locked => absurd locked List.not_mem_nil
      · rcases underway with rfl | ⟨loop, rfl⟩ <;> nofun
      · rcases underway with rfl | ⟨loop, rfl⟩
        · exact .inl rfl
        · exact .inl rfl
  | @release i call phase result there ended =>
      have its := sound.phases i call phase there
      refine sound.enter there ?_ (fun running error same => ?_) nofun
        fun _ locked => absurd locked List.not_mem_nil
      · rw [ended] at its
        cases result with
        | error error => trivial
        | ok linked => exact its
      · cases result with
        | error error' => exact running error' rfl
        | ok linked =>
            rw [ended] at same
            cases same

theorem run_serverSound {labels : List LinkLabel}
    (run : Trace (LinkStep sha256 site) site.start labels s) : ServerSound sha256 site s := by
  refine run.keeps (P := ServerSound sha256 site) (fun _ _ _ step sound => sound.step step) ?_
  have none_ : ∀ (i : Nat) (call : LinkCall) (phase : Phase),
      site.start.calls[i]? ≠ some (call, phase) := by
    intro i call phase
    rw [Site.start, List.getElem?_nil]
    nofun
  exact
    { agreed := site.agreed
      found := fun _ member => absurd member List.not_mem_nil
      boards := fun i call phase there => absurd there (none_ i call phase)
      produced := fun i call phase there => absurd there (none_ i call phase)
      valid := fun i call phase there => absurd there (none_ i call phase)
      phases := fun i call phase there => absurd there (none_ i call phase)
      names := fun i call phase there => absurd there (none_ i call phase)
      rows := fun i call phase there => absurd there (none_ i call phase) }

end Steps

/-! ## Successes and failures -/

/-- Call `i` has committed. -/
def Server.Succeeded (s : Server) (i : Nat) : Prop :=
  ∃ call linked, s.calls[i]? = some (call, .committed linked) ∨
    s.calls[i]? = some (call, .finished (.ok linked))

section Successes

variable {sha256 : String → String} {site : Site} {s t : Server} {i : Nat}

theorem Server.succeeded_enter {j : Nat} {call : LinkCall} {phase phase' : Phase}
    (there : s.calls[j]? = some (call, phase)) :
    (s.enter j call phase').Succeeded i ↔
      (i ≠ j ∧ s.Succeeded i) ∨ (i = j ∧ ∃ linked, phase' = .committed linked ∨
        phase' = .finished (.ok linked)) := by
  have inRange : j < s.calls.length := (List.getElem?_eq_some_iff.1 there).1
  unfold Server.Succeeded Server.enter
  dsimp only
  rw [List.getElem?_set]
  by_cases same : j = i
  · subst same
    rw [if_pos rfl, if_pos inRange]
    constructor
    · rintro ⟨call', linked, entered | entered⟩
      · cases entered
        exact .inr ⟨rfl, linked, .inl rfl⟩
      · cases entered
        exact .inr ⟨rfl, linked, .inr rfl⟩
    · rintro (⟨different, -⟩ | ⟨-, linked, rfl | rfl⟩)
      · exact absurd rfl different
      · exact ⟨call, linked, .inl rfl⟩
      · exact ⟨call, linked, .inr rfl⟩
  · rw [if_neg same]
    constructor
    · exact fun entered => .inl ⟨Ne.symm same, entered⟩
    · rintro (⟨-, entered⟩ | ⟨equal, -⟩)
      · exact entered
      · exact absurd equal.symm same

/-- A call that has not committed is in a phase before. -/
theorem Server.not_succeeded {call : LinkCall} {phase : Phase}
    (there : s.calls[i]? = some (call, phase))
    (before : ∀ linked, phase ≠ .committed linked ∧ phase ≠ .finished (.ok linked)) :
    ¬ s.Succeeded i := by
  rintro ⟨call', linked, entered | entered⟩
  · rw [there] at entered
    cases entered
    exact (before linked).1 rfl
  · rw [there] at entered
    cases entered
    exact (before linked).2 rfl

/-- A call succeeds by its commit, and by nothing else. -/
theorem succeeded_step {label : LinkLabel} (step : LinkStep sha256 site s label t) :
    t.Succeeded i ↔ s.Succeeded i ∨ label = .did i .committed := by
  have stays : ∀ {j : Nat} {call : LinkCall} {phase phase' : Phase} {act : Act},
      s.calls[j]? = some (call, phase) →
      (∀ linked, phase ≠ .committed linked ∧ phase ≠ .finished (.ok linked)) →
      (∀ linked, phase' ≠ .committed linked ∧ phase' ≠ .finished (.ok linked)) →
      act ≠ .committed →
      ((s.enter j call phase').Succeeded i ↔ s.Succeeded i ∨ LinkLabel.did j act = .did i .committed) := by
    intro j call phase phase' act there before after other
    rw [Server.succeeded_enter there]
    constructor
    · rintro (⟨-, succeeded⟩ | ⟨-, linked, same | same⟩)
      · exact .inl succeeded
      · exact absurd same (after linked).1
      · exact absurd same (after linked).2
    · rintro (succeeded | same)
      · refine .inl ⟨?_, succeeded⟩
        rintro rfl
        exact Server.not_succeeded there before succeeded
      · injection same with _ same
        exact absurd same other
  cases step with
  | find found uuid read ready =>
      exact ⟨.inl, fun either => either.resolve_right nofun⟩
  | call call board produced =>
      unfold Server.Succeeded
      dsimp only
      constructor
      · rintro ⟨call', linked, entered⟩
        refine .inl ⟨call', linked, ?_⟩
        by_cases old : i < s.calls.length
        · rw [List.getElem?_append_left old] at entered
          exact entered
        · rw [List.getElem?_append_right (by omega)] at entered
          rcases entered with entered | entered
          · have is := List.mem_singleton.1 (List.mem_of_getElem? entered)
            split at is <;> cases is
          · have is := List.mem_singleton.1 (List.mem_of_getElem? entered)
            split at is <;> cases is
      · rintro (⟨call', linked, entered⟩ | same)
        · refine ⟨call', linked, ?_⟩
          rcases entered with entered | entered
          · exact .inl (List.getElem?_append_left (List.getElem?_eq_some_iff.1 entered).1 ▸ entered)
          · exact .inr (List.getElem?_append_left (List.getElem?_eq_some_iff.1 entered).1 ▸ entered)
        · cases same
  | acquire there free => exact stays there (fun _ => ⟨nofun, nofun⟩) (fun _ => ⟨nofun, nofun⟩) nofun
  | refuse there error =>
      exact stays there (fun _ => ⟨nofun, nofun⟩) (fun _ => ⟨nofun, nofun⟩) nofun
  | @scan j call there =>
      refine stays there (fun _ => ⟨nofun, nofun⟩) ?_ nofun
      cases call.decide (call.target s.db) <;> exact fun _ => ⟨nofun, nofun⟩
  | @turn j call loop uploadId number rest there next free key =>
      refine stays there (fun _ => ⟨nofun, nofun⟩) ?_ nofun
      cases loop.turn uploadId number rest s.db <;> exact fun _ => ⟨nofun, nofun⟩
  | @commit j call loop there done =>
      show (s.enter j call (.committed loop.linked)).Succeeded i ↔ _
      rw [Server.succeeded_enter there]
      constructor
      · rintro (⟨-, succeeded⟩ | ⟨rfl, -⟩)
        · exact .inl succeeded
        · exact .inr rfl
      · rintro (succeeded | same)
        · refine .inl ⟨?_, succeeded⟩
          rintro rfl
          exact Server.not_succeeded there (fun _ => ⟨nofun, nofun⟩) succeeded
        · cases same
          exact .inr ⟨rfl, _, .inl rfl⟩
  | @fail j call phase there underway error =>
      refine stays there ?_ (fun _ => ⟨nofun, nofun⟩) nofun
      rcases underway with rfl | ⟨loop, rfl⟩ <;> exact fun _ => ⟨nofun, nofun⟩
  | @release j call phase result there ended =>
      cases result with
      | error error =>
          refine stays there ?_ (fun _ => ⟨nofun, nofun⟩) nofun
          rw [ended]
          exact fun _ => ⟨nofun, nofun⟩
      | ok linked =>
          rw [Server.succeeded_enter there]
          constructor
          · rintro (⟨-, succeeded⟩ | ⟨rfl, -⟩)
            · exact .inl succeeded
            · rw [ended] at there
              exact .inl ⟨call, linked, .inl there⟩
          · rintro (succeeded | same)
            · by_cases mine : i = j
              · exact .inr ⟨mine, linked, .inr rfl⟩
              · exact .inl ⟨mine, succeeded⟩
            · cases same

/-- **Success is a commit.** -/
theorem run_succeeded {labels : List LinkLabel} (run : Trace (LinkStep sha256 site) s labels t) :
    t.Succeeded i ↔ s.Succeeded i ∨ .did i .committed ∈ labels := by
  induction run with
  | nil => simp
  | cons step _ ih =>
      rw [ih, succeeded_step step, List.mem_cons, or_assoc, eq_comm]

/-- Only a commit writes. -/
theorem unchanged_of_other {label : LinkLabel} (step : LinkStep sha256 site s label t)
    (other : ∀ i, label ≠ .did i .committed) : t.db = s.db := by
  cases step with
  | commit there done => exact absurd rfl (other _)
  | _ => rfl

end Successes

end MediaBooster.Gnuboard5
