/-
# Gnuboard5.Rehearsal -- the plugin played against a script

The database never fails, and the server's answers are read off a script: one reply for every
ticket, and a reply to everything else that knows which deletions were accepted.  What a schedule
computes so is a run of the plugin, with its last exchange as a step.
-/
import MediaBooster.Gnuboard5.System
import MediaBooster.Theory.Schedules

namespace MediaBooster.Gnuboard5

set_option autoImplicit false

open MediaBooster.Domain
open MediaBooster.Theory.Threads
open MediaBooster.Theory.Requests
open MediaBooster.Theory.Run

/-- What the server answers: the replies to the requests for deletion, by their tickets, and the
reply to every other request, which may depend on what has been accepted. -/
structure Script where
  replies : List Reply
  control : List (Request Deletion) → Reply

namespace Script

/-- The answer of the script. -/
def respond (script : Script) (s : Shared) : (ask : Ask) → Option (Answer ask × Shared)
  | .db op => some ((op.run s.clock s.db).1, { s with db := (op.run s.clock s.db).2 })
  | .send origin uploadId => some (.ok s.requests.length,
      { s with requests := send s.requests ⟨origin, strtolower uploadId⟩ })
  | .receive ticket =>
      match script.replies[ticket]? with
      | none => none
      | some reply =>
          if !reply.isSuccess || s.requests[ticket]?.any (fun request => request.fate == .accepted) then
            some (reply, s)
          else none
  | .control _ _ => some (script.control s.requests, s)

theorem respond_answers {script : Script} {s t : Shared} {ask : Ask} {answer : Answer ask}
    (responded : script.respond s ask = some (answer, t)) : Answers s ask answer t := by
  cases ask with
  | db op =>
      cases responded
      exact .ran op
  | send origin uploadId =>
      cases responded
      exact .sent origin uploadId
  | receive ticket =>
      unfold respond at responded
      dsimp only at responded
      split at responded
      · cases responded
      · rename_i reply _
        split at responded
        · rename_i allowed
          cases responded
          refine .received fun success => ?_
          rw [success, Bool.not_true, Bool.false_or] at allowed
          obtain ⟨⟨deletion, fate⟩, there, accepted⟩ := (Option.any_eq_true _ _).1 allowed
          obtain rfl : fate = .accepted := eq_of_beq accepted
          exact ⟨deletion, there⟩
        · cases responded
  | control control uploadId =>
      cases responded
      exact .controlled control uploadId _

/-- The script as a responder. -/
def responder (script : Script) : Responder machine where
  respond := script.respond
  allowed _ _ _ _ responded := respond_answers responded
  occur := Shared.occur
  moves _ _ _ occurred := occurred

/-- The next exchange of a thread, after a schedule, is a step after its run. -/
theorem rehearsed_step {script : Script} (boards : Boards) {clock : Int}
    {meets : System → Happening → Bool} {commands : List (Command Call Event)} {i : Nat}
    (check check' : System → Bool)
    (played : (script.responder.performAll meets commands ⟨boards.installed clock, []⟩).any
      (fun stage => check stage.state && (script.responder.exchange meets i stage).any
        fun next => check' next.state) = true) :
    ∃ labels s label t,
      Trace (Guarded Step fun s label => meets s label = true) (boards.installed clock) labels s ∧
      check s = true ∧ Step s label t ∧ meets s label = true ∧ check' t = true := by
  obtain ⟨stage, led, both⟩ := (Option.any_eq_true _ _).1 played
  obtain ⟨holds, more⟩ := Bool.and_eq_true_iff.1 both
  obtain ⟨next, exchanged, holds'⟩ := (Option.any_eq_true _ _).1 more
  obtain ⟨stands, labels, run⟩ := Responder.performAll_runs
    ⟨rfl, fun _ _ _ there => by simp [Boards.installed, State.initial] at there⟩ led
  obtain ⟨-, label, step⟩ := Responder.exchange_runs stands exchanged
  exact ⟨labels, stage.state, label, next.state, run, holds, step.1, step.2, holds'⟩

end Script

/-! ## Samples -/

/-- An upload. -/
def sampleUpload : String := "018f47f0-5555-7555-8555-555555555555"

/-- A board whose post 9 has no files. -/
def sampleBoards : Boards := ⟨[⟨"g5_write_free", 9, 0⟩], []⟩

/-- The batch of the upload, its owner's requests, and the owner's post. -/
def sampleBatch : Batch where
  ownerKey := "m:kim"
  boardTable := "free"
  batchId := "018f47f0-6666-7666-8666-666666666666"
  files := [(⟨"file-1", "photo.png", "image", 2048, "image/png"⟩, ⟨sampleUpload, "single_put"⟩)]

/-- The owner of the sample. -/
def sampleAsked : Asked := ⟨sampleUpload, "m:kim", "free"⟩

/-- The owner's post, with the sample in its form. -/
def sampleWrite : Write where
  ownerKey := "m:kim"
  boardTable := "free"
  writeTable := "g5_write_free"
  uploadCount := 2
  mode := "w"
  writeId := 0
  raw := sampleUpload
  removed := 0
  uploaded := 0
  savedId := 9

/-- A derivative of the sample. -/
def sampleDerivative (variant : String) : Mixed :=
  .map [("variant", .text variant), ("preset_id", .text "image-2k-v1"),
    ("url_path", .text "/media/sample.jpg"), ("content_type", .text "image/jpeg"),
    ("byte_len", .int 1024)]

/-- What the server says of a Ready upload: its deletion is pending once it is accepted. -/
def sampleStatus (requests : List (Request Deletion)) : Reply :=
  .response ⟨200, false, .map
    [("upload_id", .text sampleUpload), ("state", .text "ready"),
      ("deletion_pending", .bool (requests.any fun request => request.fate == .accepted)),
      ("detected_content_type", .text "image/png"),
      ("derivatives", .list [sampleDerivative "master", sampleDerivative "thumbnail"])]⟩

/-- The server says yes to a deletion. -/
def sampleScript : Script := ⟨[.response ⟨202, true, .null⟩], sampleStatus⟩

/-- The upload is reserved, and prepared for a post. -/
def prepareSample : List (Command Call Event) :=
  [.start (.batch sampleBatch), .run 0 1, .start (.prepare sampleAsked), .run 1 3]

/-- The owner deletes the upload in thread `i`, and the server accepts. -/
def deleteSample (i : Nat) : List (Command Call Event) :=
  [.start (.delete sampleAsked), .run i 2, .happen (.processed 0 true), .run i 2]

end MediaBooster.Gnuboard5
