/-
# Gnuboard7.Rehearsal -- the adapter played against a script

The database never fails, and the server's answers are read off a script: one reply for every
ticket, and one reply to everything else.  What a schedule computes so is a run of the adapter
(`rehearsed`).
-/
import MediaBooster.Gnuboard7.System
import MediaBooster.Theory.Schedules

namespace MediaBooster.Gnuboard7

set_option autoImplicit false

open MediaBooster.Domain
open MediaBooster.Theory.Threads
open MediaBooster.Theory.Requests
open MediaBooster.Theory.Run
open MediaBooster.Theory.Table

/-- What the server answers: the replies to the requests for deletion, by their tickets, and the
reply to every other request. -/
structure Script where
  replies : List Reply
  status : Reply

namespace Script

/-- The request of the ticket has been accepted. -/
def isAccepted (requests : List (Request Deletion)) (ticket : Nat) : Bool :=
  requests[ticket]?.any fun request => request.fate == .accepted

/-- The answer of the script. -/
def respond (script : Script) (s : Shared) : (ask : Ask) → Option (Answer ask × Shared)
  | .db op => some ((op.run s.clock s.db).1, { s with db := (op.run s.clock s.db).2 })
  | .send origin uploadId => some (.ok s.requests.length,
      { s with requests := send s.requests ⟨origin, strtolower uploadId⟩ })
  | .receive ticket =>
      match script.replies[ticket]? with
      | none => none
      | some reply => if !reply.isSuccess || isAccepted s.requests ticket then some (reply, s) else none
  | .control _ _ => some (script.status, s)

theorem respond_answers {script : Script} {s t : Shared} {ask : Ask} {answer : Answer ask}
    (responded : script.respond s ask = some (answer, t)) : Answers s ask answer t := by
  cases ask with
  | db op =>
      cases responded
      exact .ran op
  | send origin uploadId =>
      cases responded
      exact .sent origin uploadId
  | receive ticket =>
      unfold respond at responded
      dsimp only at responded
      split at responded
      · cases responded
      · rename_i reply _
        split at responded
        · rename_i allowed
          cases responded
          refine .received fun success => ?_
          rw [success, Bool.not_true, Bool.false_or] at allowed
          obtain ⟨⟨deletion, fate⟩, there, accepted⟩ := (Option.any_eq_true _ _).1 allowed
          obtain rfl : fate = .accepted := eq_of_beq accepted
          exact ⟨deletion, there⟩
        · cases responded
  | control control uploadId =>
      cases responded
      exact .controlled control uploadId _

/-- The script as a responder. -/
def responder (script : Script) : Responder machine where
  respond := script.respond
  allowed _ _ _ _ responded := respond_answers responded
  occur := Shared.occur
  moves _ _ _ occurred := occurred

/-- What a schedule leads to, a run leads to. -/
theorem rehearsed {script : Script} (tables : Tables) {clock : Int}
    {meets : System → Happening → Bool} {commands : List (Command Call Event)}
    {check : System → Bool}
    (played : (script.responder.play meets ⟨tables.db, clock, []⟩ commands).any check = true) :
    ∃ labels s, Trace (Guarded Step fun s label => meets s label = true) (tables.system clock) labels s ∧
      check s = true := by
  obtain ⟨s, led, holds⟩ := (Option.any_eq_true _ _).1 played
  obtain ⟨labels, run⟩ := Responder.play_runs led
  exact ⟨labels, s, run, holds⟩

/-- What a schedule, the next exchange of a thread and another schedule lead to, a run, a step and
another run lead to. -/
theorem rehearsed_around {script : Script} (tables : Tables) {clock : Int}
    {meets meets' meets'' : System → Happening → Bool} {commands commands' : List (Command Call Event)}
    {i : Nat} (check check' check'' : Stage Answer Call Shared → Bool)
    (played : (script.responder.performAll meets commands ⟨tables.system clock, []⟩).any
      (fun stage => check stage && (script.responder.exchange meets' i stage).any fun next =>
        check' next && (script.responder.performAll meets'' commands' next).any check'') = true) :
    ∃ labels stage label next labels' later,
      Trace (Guarded Step fun s label => meets s label = true) (tables.system clock) labels
        stage.state ∧ stage.Stands machine ∧ check stage = true ∧
      Guarded Step (fun s label => meets' s label = true) stage.state label next.state ∧
      check' next = true ∧
      Trace (Guarded Step fun s label => meets'' s label = true) next.state labels' later.state ∧
      later.Stands machine ∧ check'' later = true := by
  obtain ⟨stage, led, both⟩ := (Option.any_eq_true _ _).1 played
  obtain ⟨holds, more⟩ := Bool.and_eq_true_iff.1 both
  obtain ⟨next, exchanged, both'⟩ := (Option.any_eq_true _ _).1 more
  obtain ⟨holds', more'⟩ := Bool.and_eq_true_iff.1 both'
  obtain ⟨later, led', holds''⟩ := (Option.any_eq_true _ _).1 more'
  obtain ⟨stands, labels, run⟩ := Responder.performAll_runs
    ⟨rfl, fun _ _ _ there => by simp [Tables.system, State.initial] at there⟩ led
  obtain ⟨stands', label, step⟩ := Responder.exchange_runs stands exchanged
  obtain ⟨stands'', labels', run'⟩ := Responder.performAll_runs stands' led'
  exact ⟨labels, stage, label, next, labels', later, run, stands, holds, step, holds', run', stands'',
    holds''⟩

/-- The next exchange of a thread, after a schedule, is a step after its run. -/
theorem rehearsed_step {script : Script} (tables : Tables) {clock : Int}
    {meets : System → Happening → Bool} {commands : List (Command Call Event)} {i : Nat}
    (check check' : System → Bool)
    (played : (script.responder.performAll meets commands ⟨tables.system clock, []⟩).any
      (fun stage => check stage.state && (script.responder.exchange meets i stage).any
        fun next => check' next.state) = true) :
    ∃ labels s label t,
      Trace (Guarded Step fun s label => meets s label = true) (tables.system clock) labels s ∧
      check s = true ∧ Step s label t ∧ meets s label = true ∧ check' t = true := by
  obtain ⟨stage, led, both⟩ := (Option.any_eq_true _ _).1 played
  obtain ⟨holds, more⟩ := Bool.and_eq_true_iff.1 both
  obtain ⟨next, exchanged, holds'⟩ := (Option.any_eq_true _ _).1 more
  obtain ⟨stands, labels, run⟩ := Responder.performAll_runs
    ⟨rfl, fun _ _ _ there => by simp [Tables.system, State.initial] at there⟩ led
  obtain ⟨-, label, step⟩ := Responder.exchange_runs stands exchanged
  exact ⟨labels, stage.state, label, next.state, run, holds, step.1, step.2, holds'⟩

end Script

/-! ## Samples -/

/-- An upload. -/
def sampleUpload : String := "018f47f0-4444-7444-8444-444444444444"

/-- Its session: ready, and materialized as attachment 5. -/
def sampleSession : SessionRow where
  uploadId := sampleUpload
  userId := some 7
  boardSlug := "free"
  originalFilename := some "host.jpg"
  declaredKind := some "image"
  attachmentOrder := some 1
  expectedSizeBytes := 1024
  state := "ready"
  attachmentId := some 5
  materializedAt := some 0
  retentionDeleteAfter := none
  retentionReason := none
  retentionAttempts := 0
  retentionLeaseUntil := none
  retentionRequestStartedAt := none
  deletionRequestedAt := none
  retentionLastError := none
  ownershipExpiresAt := 604800
  updatedAt := 0

/-- Its attachment, of a post or of none. -/
def sampleAttachment (postId : Option Int) : AttachmentRow where
  id := 5
  boardId := 1
  postId := postId
  disk := "g7mediabooster"
  path := sampleUpload
  collection := "attachments"
  triggerType := none
  createdBy := some 7
  deletedAt := none

/-- One board with this upload, its attachment of post 9 or of no post yet. -/
def sampleTables (linked : Bool) : Tables where
  db :=
    { sessions := [sampleSession]
      attachments := [sampleAttachment (if linked then some 9 else none)]
      boards := [⟨1, "free", true, 0⟩]
      nextAttachmentId := 6 }
  valid :=
    { keyed := List.nodup_singleton _
      lower := by
        intro row member
        rw [List.mem_singleton.1 member]
        decide +kernel
      slugs := by
        intro row member
        rw [List.mem_singleton.1 member]
        decide +kernel
      named := by
        intro row member id known
        rw [List.mem_singleton.1 member] at known
        cases known
        exact Int.lt_succ 5
      unique := by
        intro row member row' member' id _ _
        rw [List.mem_singleton.1 member, List.mem_singleton.1 member']
      attached := List.nodup_singleton _
      ids := by
        intro row member
        rw [List.mem_singleton.1 member]
        exact Int.lt_succ 5
      posts := by
        intro row member postId known
        rw [List.mem_singleton.1 member] at known
        cases linked <;> cases known
        decide }

/-- An empty answer of success. -/
def noContent : Reply := .response ⟨204, true, .null⟩

/-- The refusal of a request beyond the rate the server admits. -/
def refusal : Reply :=
  .response ⟨429, false, .map [("code", .text "API_RATE_LIMIT_EXCEEDED")]⟩

end MediaBooster.Gnuboard7
