/-
# Gnuboard5.System -- the plugin beside its host and the media server

The threads share the database, the clock and the requests for deletion that were sent.  A
statement is carried out at the clock's time, or fails and changes nothing.  The server comes to
a request when it pleases; an answer of success comes only from an accepted request, and every
other answer may come at any time, so that what a status says is whatever it says.  The host saves
and deletes posts and files of its own beside them.

A run begins with the plugin just installed: no session yet, and whatever posts and files the
boards have.
-/
import MediaBooster.Gnuboard5.Services
import MediaBooster.Theory.Requests

namespace MediaBooster.Gnuboard5

set_option autoImplicit false

open MediaBooster.Domain
open MediaBooster.Theory.Threads
open MediaBooster.Theory.Requests

/-- A deletion that is asked for. -/
structure Deletion where
  origin : Origin
  uploadId : String
deriving DecidableEq

/-- What the threads share. -/
structure Shared where
  db : Database
  clock : Int
  requests : List (Request Deletion)

/-- What happens beside the threads. -/
inductive Event
  | processed (ticket : Nat) (accepts : Bool)
  | clock (now : Int)
  | posted (post : PostRow)
  | unposted (writeTable : String) (wrId : Int)
  | filed (file : FileRow)
  | unfiled (boardTable : String) (wrId bfNo : Int)

/-- An answer of success. -/
def Reply.isSuccess : Reply → Bool
  | .response heard => decide (200 ≤ heard.status) && decide (heard.status < 300)
  | .thrown => false

/-- What the request of a ticket was made of allows a reply. -/
def Replies (requests : List (Request Deletion)) (ticket : Nat) (reply : Reply) : Prop :=
  reply.isSuccess = true → ∃ deletion, AcceptedAt requests ticket deletion

/-- What a request is answered. -/
inductive Answers (s : Shared) : (ask : Ask) → Answer ask → Shared → Prop
  | ran (op : Op) : Answers s (.db op) (op.run s.clock s.db).1 { s with db := (op.run s.clock s.db).2 }
  | failed (op : Op) : Answers s (.db op) (.error mutationFailed) s
  | sent (origin : Origin) (uploadId : String) :
      Answers s (.send origin uploadId) (.ok s.requests.length)
        { s with requests := send s.requests ⟨origin, strtolower uploadId⟩ }
  | disabled (origin : Origin) (uploadId : String) :
      Answers s (.send origin uploadId) (.error (.upstream 503 "ADAPTER_DISABLED")) s
  | unsigned (origin : Origin) (uploadId : String) :
      Answers s (.send origin uploadId) (.error .other) s
  | received {ticket : Nat} {reply : Reply} (replies : Replies s.requests ticket reply) :
      Answers s (.receive ticket) reply s
  | controlled (control : Control) (uploadId : String) (reply : Reply) :
      Answers s (.control control uploadId) reply s

/-- What an event makes of the shared state.  The host keeps its own files in a storage of its own. -/
def Shared.occur (s : Shared) : Event → Option Shared
  | .processed ticket accepts =>
      (process ticket accepts s.requests).map fun requests => { s with requests := requests }
  | .clock now => some { s with clock := now }
  | .posted post => some { s with db := { s.db with posts := s.db.posts ++ [post] } }
  | .unposted writeTable wrId => some { s with db := { s.db with
      posts := s.db.posts.filter fun post => !(post.writeTable == writeTable && post.wrId == wrId) } }
  | .filed file =>
      if file.storage = "g7mediabooster" then none
      else some { s with db := { s.db with files := s.db.files ++ [file] } }
  | .unfiled boardTable wrId bfNo => some { s with db := { s.db with
      files := s.db.files.filter fun file =>
        !(collates file.boTable boardTable && file.wrId == wrId && file.bfNo == bfNo) } }

/-- The plugin's processes over the shared state. -/
def machine : Machine Answer Call Event Shared where
  program := Call.program
  answers := Answers
  moves s event t := s.occur event = some t

/-- A state of the plugin. -/
abbrev System := State Answer Call Shared

/-- A step of the plugin. -/
abbrev Step := machine.Step

/-- A label of the plugin. -/
abbrev Happening := Label Answer Call Event

/-- What the boards have when the plugin is installed. -/
structure Boards where
  posts : List PostRow
  files : List FileRow

/-- The plugin just installed. -/
def Boards.installed (boards : Boards) (clock : Int) : System :=
  .initial ⟨⟨[], boards.files, boards.posts⟩, clock, []⟩

/-- What a step does to the shared state. -/
theorem step_cases {s t : System} {label : Happening} (step : Step s label t) :
    (∃ i op, label = .asked i ⟨.db op, (op.run s.shared.clock s.shared.db).1⟩ ∧
        t.shared.db = (op.run s.shared.clock s.shared.db).2) ∨
      (∃ event, label = .moved event ∧ s.shared.occur event = some t.shared) ∨
      t.shared.db = s.shared.db := by
  obtain ⟨i, ⟨ask, answer⟩, rfl, answered⟩ | ⟨event, rfl, occurs⟩ | ⟨same, -⟩ := step.shared_cases
  · dsimp only [machine] at answered
    generalize after : t.shared = u at answered
    cases answered with
    | ran op => exact .inl ⟨i, op, rfl, rfl⟩
    | _ => exact .inr (.inr rfl)
  · exact .inr (.inl ⟨event, rfl, occurs⟩)
  · exact .inr (.inr (congrArg Shared.db same))

end MediaBooster.Gnuboard5
