/-
# Gnuboard7.System -- the adapter beside its host and the media server

The state that is shared is the database, the clock and the requests for deletion that were
sent.  A statement is carried out at the clock's time, or fails and changes nothing.  The server
comes to a request when it pleases; an answer of success comes only from an accepted request,
and every other answer may come at any time, whatever the server has made of the request.  The
clock may be set, and the host deletes and removes attachments.

Rules hold of every program, whatever it is answered (`Rule`): the command begins only claims it
has taken (`Claimed`), asks for a deletion only as the next thing after a claim that said `delete`
(`Begun`), and cancels a claim only as the next thing after one that said `cancel`; a restore
clears the sessions of the attachments it has just read; an attachment is made of a validated
status of the session that was read, and the attachment read back is the one the transaction has
answered.
-/
import MediaBooster.Gnuboard7.Moves
import MediaBooster.Gnuboard7.Services
import MediaBooster.Theory.Requests

namespace MediaBooster.Gnuboard7

set_option autoImplicit false

open MediaBooster.Domain
open MediaBooster.Theory.Threads
open MediaBooster.Theory.Requests
open MediaBooster.Theory.Run

/-! ## Shared state -/

/-- A deletion that is asked for. -/
structure Deletion where
  origin : Origin
  uploadId : String
deriving DecidableEq

/-- What the threads share. -/
structure Shared where
  db : Database
  clock : Int
  requests : List (Request Deletion)

/-- What happens beside the threads. -/
inductive Event
  | processed (ticket : Nat) (accepts : Bool)
  | clock (now : Int)
  | trashed (attachmentIds : List Int) (triggerType : String)
  | purged (attachmentIds : List Int)

/-- An answer of success. -/
def Reply.isSuccess : Reply → Bool
  | .response heard => heard.successful
  | _ => false

/-- What the request of a ticket was made of allows a reply. -/
def Replies (requests : List (Request Deletion)) (ticket : Nat) (reply : Reply) : Prop :=
  reply.isSuccess = true → ∃ deletion, AcceptedAt requests ticket deletion

/-- What a request is answered. -/
inductive Answers (s : Shared) : (ask : Ask) → Answer ask → Shared → Prop
  | ran (op : Op) : Answers s (.db op) (op.run s.clock s.db).1 { s with db := (op.run s.clock s.db).2 }
  | failed (op : Op) : Answers s (.db op) (.error .query) s
  | sent (origin : Origin) (uploadId : String) :
      Answers s (.send origin uploadId) (.ok s.requests.length)
        { s with requests := send s.requests ⟨origin, strtolower uploadId⟩ }
  | disabled (origin : Origin) (uploadId : String) :
      Answers s (.send origin uploadId) (.error (.upstream 503 "MODULE_DISABLED")) s
  | unsigned (origin : Origin) (uploadId : String) :
      Answers s (.send origin uploadId) (.error .other) s
  | received {ticket : Nat} {reply : Reply} (replies : Replies s.requests ticket reply) :
      Answers s (.receive ticket) reply s
  | controlled (control : Control) (uploadId : String) (reply : Reply) :
      Answers s (.control control uploadId) reply s

/-- What an event makes of the shared state. -/
def Shared.occur (s : Shared) : Event → Option Shared
  | .processed ticket accepts =>
      (process ticket accepts s.requests).map fun requests => { s with requests := requests }
  | .clock now => some { s with clock := now }
  | .trashed ids triggerType => some { s with db := trash ids triggerType s.clock s.db }
  | .purged ids => some { s with db := purge ids s.db }

/-- The adapter's processes over the shared state. -/
def machine : Machine Answer Call Event Shared where
  program := Call.program
  answers := Answers
  moves s event t := s.occur event = some t

/-- A state of the adapter. -/
abbrev System := State Answer Call Shared

/-- A step of the adapter. -/
abbrev Step := machine.Step

/-- A label of the adapter. -/
abbrev Happening := Label Answer Call Event

/-- Thread `i` has a statement carried out. -/
abbrev carried (s : System) (i : Nat) (op : Op) : Happening :=
  .asked i ⟨.db op, (op.run s.shared.clock s.shared.db).1⟩

/-- The exchanges of a thread. -/
abbrev History := List (Exchange Answer)

/-- A database whose tables are valid. -/
structure Tables where
  db : Database
  valid : db.Valid

/-- The adapter before any call: nothing was asked of the server. -/
def Tables.system (tables : Tables) (clock : Int) : System := .initial ⟨tables.db, clock, []⟩

/-! ## Rules -/

/-- The row was claimed, with this attachment. -/
def Claimed (past : History) (attachmentId : Int) (upload : String) : Prop :=
  ∃ limit rows, (⟨.db (.claimDue limit), .ok rows⟩ : Exchange Answer) ∈ past ∧
    ∃ row ∈ rows, row.uploadId = upload ∧ row.attachmentId = some attachmentId

/-- The claim of the upload has just been begun, and answered so. -/
def Decided (past : History) (attachmentId : Int) (upload : String) (decision : Decision) : Prop :=
  ∃ before, past = before ++ [⟨.db (.beginClaim attachmentId upload), .ok decision⟩]

/-- The claim of the upload has just been begun, to be deleted. -/
def Begun (past : History) (attachmentId : Int) (upload : String) : Prop :=
  Decided past attachmentId upload .delete

/-- A status was validated against the session that was read. -/
def Validated (past : History) (upload : String) (userId : Int) (slug : String)
    (descriptor : Descriptor) : Prop :=
  ∃ session status,
    (⟨.db (.ownedSession upload userId slug), .ok (some session)⟩ : Exchange Answer) ∈ past ∧
      validate status session = .ok descriptor

/-- The transaction has answered this attachment. -/
def Materialized (past : History) (upload : String) (userId attachmentId : Int) : Prop :=
  ∃ slug descriptor,
    (⟨.db (.materializeAttachment upload userId slug descriptor), .ok attachmentId⟩ :
      Exchange Answer) ∈ past

/-- What every program keeps to. -/
def Rule (past : History) : Ask → Prop
  | .db (.beginClaim attachmentId upload) => Claimed past attachmentId upload
  | .db (.cancelClaim uploadId) => ∃ attachmentId upload, Claimed past attachmentId upload ∧
      Decided past attachmentId upload .cancel ∧ uploadId = strtolower upload
  | .db (.cancelRestored ids _) =>
      ∃ before postId, past = before ++ [⟨.db (.restoredAttachments postId), .ok ids⟩]
  | .db (.materializeAttachment upload userId slug descriptor) =>
      Validated past upload userId slug descriptor
  | .db (.reloaded attachmentId userId upload) => Materialized past upload userId attachmentId
  | .send .reconcile uploadId => ∃ attachmentId upload, Begun past attachmentId upload ∧
      uploadId = strtolower upload
  | _ => True

/-- A request no rule is about. -/
def Plain : Ask → Prop
  | .db (.beginClaim _ _) | .db (.cancelClaim _) | .db (.cancelRestored _ _) => False
  | .db (.materializeAttachment _ _ _ _) | .db (.reloaded _ _ _) => False
  | .send .reconcile _ => False
  | _ => True

theorem Plain.rule {past : History} {ask : Ask} (plain : Plain ask) : Rule past ask := by
  cases ask with
  | db op => cases op <;> trivial
  | send origin uploadId =>
      cases origin with
      | user => trivial
      | reconcile => exact plain.elim
  | _ => trivial

theorem Claimed.mono {past : History} {attachmentId : Int} {upload : String}
    (claimed : Claimed past attachmentId upload) (more : History) :
    Claimed (past ++ more) attachmentId upload := by
  obtain ⟨limit, rows, heard, rest⟩ := claimed
  exact ⟨limit, rows, List.mem_append_left _ heard, rest⟩

section Only

variable {α β : Type}

theorem only_database {op : Op} (plain : Plain (.db op)) : (database op).Only Plain :=
  ⟨plain, fun _ => trivial⟩

theorem only_caught {body : Adapter α} {handler : Except Throwable α → Adapter β}
    (before : body.Only Plain) (rest : ∀ outcome, (handler outcome).Only Plain) :
    (caught body handler).Only Plain := Program.Only.bind before rest

theorem only_ite {condition : Prop} [Decidable condition] {first second : Adapter α}
    (yes : first.Only Plain) (no : second.Only Plain) :
    (if condition then first else second).Only Plain := by
  split
  · exact yes
  · exact no

theorem only_deleteUpload {uploadId : String} : (deleteUpload .user uploadId).Only Plain := by
  refine Attempt.only_bind (Attempt.only_ensure _ _) fun _ => ?_
  refine Attempt.only_bind ⟨trivial, fun _ => trivial⟩ fun ticket => ?_
  refine Attempt.only_bind (Attempt.only_lift ⟨trivial, fun _ => trivial⟩) fun reply => ?_
  exact Attempt.only_bind (Attempt.only_ofExcept _) fun _ => Attempt.only_pure _

theorem only_controlRequest {control : Control} {uploadId : String} :
    (controlRequest control uploadId).Only Plain := by
  refine Attempt.only_bind (Attempt.only_ensure _ _) fun _ => ?_
  refine Attempt.only_bind (Attempt.only_lift ⟨trivial, fun _ => trivial⟩) fun reply => ?_
  exact Attempt.only_ofExcept _

theorem only_clientStatus {uploadId : String} : (clientStatus uploadId).Only Plain :=
  Attempt.only_bind only_controlRequest fun _ => Attempt.only_okOr _ _

theorem only_scheduleNormalized {ids : List Int} {slug reason : String} {days : Int} :
    (scheduleNormalized ids slug reason days).Only Plain :=
  only_ite (Attempt.only_pure _) (only_database trivial)

theorem only_schedulePostDeletion {postId : Int} {slug : String} {days : Int} :
    (schedulePostDeletion postId slug days).Only Plain :=
  only_ite (Attempt.only_pure _)
    (Attempt.only_bind (only_database trivial) fun _ => only_scheduleNormalized)

theorem only_scheduleAttachmentDeletion {attachmentId : Int} {slug : String} {days : Int} :
    (scheduleAttachmentDeletion attachmentId slug days).Only Plain :=
  only_ite (Attempt.only_pure _) (Attempt.only_bind (only_database trivial) fun _ =>
    only_ite only_scheduleNormalized (Attempt.only_pure _))

theorem only_preparePostRestore {postId : Int} {slug : String} :
    (preparePostRestore postId slug).Only Plain :=
  only_ite (Attempt.only_pure _) (Attempt.only_bind (only_database trivial) fun _ =>
    only_ite (Attempt.only_pure _) (only_database trivial))

theorem only_ownAction {userId : Int} {slug uploadId : String} {action : Adapter Int}
    (only : action.Only Plain) : (ownAction userId slug uploadId action).Only Plain := by
  refine Attempt.only_bind (only_database trivial) fun owned => only_ite ?_ (Attempt.only_pure _)
  refine only_caught only fun outcome => ?_
  cases outcome with
  | ok => exact Attempt.only_pure _
  | error => exact Attempt.only_pure _

theorem only_statusAction {userId : Int} {slug uploadId : String} :
    (statusAction userId slug uploadId).Only Plain := by
  refine only_ownAction (Attempt.only_bind only_clientStatus fun status => ?_)
  cases (status.field "state").text? with
  | some state => exact Attempt.only_bind (only_database trivial) fun _ => Attempt.only_pure _
  | none => exact Attempt.only_pure _

theorem only_deleteAction {userId : Int} {slug uploadId : String} :
    (deleteAction userId slug uploadId).Only Plain :=
  only_ownAction (Attempt.only_bind only_deleteUpload fun _ =>
    Attempt.only_bind (only_database trivial) fun _ => Attempt.only_pure _)

theorem only_controlAction {control : Control} {state : String} {userId : Int}
    {slug uploadId : String} : (controlAction control state userId slug uploadId).Only Plain :=
  only_ownAction (Attempt.only_bind only_controlRequest fun _ =>
    Attempt.only_bind (only_database trivial) fun _ => Attempt.only_pure _)

theorem only_failClaimOf {uploadId errorCode : String} {keep : Bool} :
    (failClaimOf uploadId errorCode keep).Only Plain :=
  Attempt.only_bind (only_database trivial) fun _ => only_database trivial

theorem only_settleClaim {uploadId : String} (outcome : Except Throwable Unit) :
    (settleClaim uploadId outcome).Only Plain := by
  unfold settleClaim
  split
  · exact Attempt.only_pure _
  · exact only_ite (Attempt.only_bind (only_database trivial) fun _ => Attempt.only_pure _)
      (Attempt.only_bind only_failClaimOf fun _ => Attempt.only_pure _)
  · exact Attempt.only_bind only_failClaimOf fun _ => Attempt.only_pure _

end Only

section Follows

variable {α β : Type} {past : History}

/-- Plain methods keep to the rule. -/
theorem follows_plain {method : Adapter α} (only : method.Only Plain) :
    method.Follows Rule (fun _ _ => True) past :=
  Attempt.follows_only (K := fun _ => True) only (fun _ _ _ _ _ => trivial)
    (fun _ _ _ plain => Plain.rule plain) trivial

/-- Go on after a statement. -/
theorem follows_statement {rule : History → Ask → Prop} {post : History → Except Throwable α → Prop}
    {op : Op} {next : op.Output → Adapter α} (asks : rule past (.db op))
    (fails : ∀ thrown, post (past ++ [⟨.db op, .error thrown⟩]) (.error thrown))
    (rest : ∀ output, (next output).Follows rule post (past ++ [⟨.db op, .ok output⟩])) :
    (database op >>= next).Follows rule post past := by
  refine follows_bind.2 ⟨asks, fun answer => ?_⟩
  cases answer with
  | ok output => exact rest output
  | error thrown => exact fails thrown

theorem follows_database {op : Op} {next : op.Output → Adapter α} (asks : Rule past (.db op))
    (rest : ∀ output, (next output).Follows Rule (fun _ _ => True) (past ++ [⟨.db op, .ok output⟩])) :
    (database op >>= next).Follows Rule (fun _ _ => True) past :=
  follows_statement asks (fun _ => trivial) rest

theorem follows_caught {body : Adapter α} {handler : Except Throwable α → Adapter β}
    (before : body.Follows Rule (fun _ _ => True) past)
    (rest : ∀ outcome past, (handler outcome).Follows Rule (fun _ _ => True) past) :
    (caught body handler).Follows Rule (fun _ _ => True) past :=
  follows_bind.2 (Theory.Threads.Follows.weaken before fun past outcome _ => rest outcome past)

theorem follows_cancelRestoredPost {postId : Int} {slug : String} :
    (cancelRestoredPost postId slug).Follows Rule (fun _ _ => True) past := by
  unfold cancelRestoredPost
  split
  · trivial
  refine follows_database trivial fun ids => ?_
  split
  · trivial
  · exact ⟨⟨past, postId, rfl⟩, fun _ => trivial⟩

theorem follows_restorePost {postId : Int} {slug : String} {restored : List Int} :
    (restorePost postId slug restored).Follows Rule (fun _ _ => True) past := by
  refine Attempt.follows_bind (follows_plain only_preparePostRestore) ?_ (fun _ _ _ => trivial)
  intro past _ _
  exact follows_database trivial fun _ => follows_cancelRestoredPost

theorem follows_deleteUpload {attachmentId : Int} {upload uploadId : String}
    (begun : Begun past attachmentId upload) (lowered : uploadId = strtolower upload) :
    (deleteUpload .reconcile uploadId).Follows Rule (fun _ _ => True) past := by
  refine Attempt.follows_ensure (fun _ => ?_) (fun _ => trivial)
  refine follows_bind.2 ⟨⟨attachmentId, upload, begun, lowered⟩, fun answer => ?_⟩
  cases answer with
  | error => trivial
  | ok ticket =>
      refine follows_plain ?_
      refine Attempt.only_bind (Attempt.only_lift ⟨trivial, fun _ => trivial⟩) fun reply => ?_
      exact Attempt.only_bind (Attempt.only_ofExcept _) fun _ => Attempt.only_pure _

theorem follows_reconcileClaim {session : SessionRow}
    (claimed : ∀ id, session.attachmentId = some id → Claimed past id session.uploadId) :
    (reconcileClaim session).Follows Rule (fun _ _ => True) past := by
  unfold reconcileClaim
  generalize lowered : strtolower session.uploadId = uploadId
  dsimp only
  split
  · trivial
  unfold beginClaimOf
  cases known : session.attachmentId with
  | none => trivial
  | some attachmentId =>
      dsimp only
      split
      · trivial
      refine follows_database (claimed attachmentId known) fun decision => ?_
      cases decision with
      | cancel =>
          refine follows_database ⟨attachmentId, session.uploadId, ?_, ⟨past, rfl⟩, lowered.symm⟩
            fun _ => trivial
          exact (claimed attachmentId known).mono _
      | block => trivial
      | delete =>
          refine follows_caught ?_ fun outcome past => follows_plain (only_settleClaim outcome)
          refine Attempt.follows_bind (follows_deleteUpload ⟨past, rfl⟩ lowered.symm) ?_
            (fun _ _ _ => trivial)
          exact fun past _ _ => follows_plain (only_database trivial)

theorem follows_reconcileClaims {sessions : List SessionRow}
    (claimed : ∀ session ∈ sessions, ∀ id, session.attachmentId = some id →
      Claimed past id session.uploadId) :
    (reconcileClaims sessions).Follows Rule (fun _ _ => True) past := by
  induction sessions generalizing past with
  | nil => trivial
  | cons session rest ih =>
      refine Attempt.follows_bind
        (follows_reconcileClaim (claimed session List.mem_cons_self)).adds ?_ (fun _ _ _ => trivial)
      rintro _ outcome ⟨-, more, rfl⟩
      refine Attempt.follows_bind (ih fun other member id known => ?_) (fun _ _ _ => trivial)
        (fun _ _ _ => trivial)
      exact (claimed other (List.mem_cons_of_mem _ member) id known).mono more

theorem follows_reconcile {limit : Option Int} :
    (reconcile limit).Follows Rule (fun _ _ => True) [] := by
  cases limit with
  | none => trivial
  | some limit =>
      unfold reconcile
      dsimp only
      split
      · trivial
      refine follows_database trivial fun rows => ?_
      refine Attempt.follows_bind (follows_reconcileClaims ?_) (fun _ _ _ => trivial)
        (fun _ _ _ => trivial)
      intro session member id known
      exact ⟨limit.toNat, rows, List.mem_singleton_self _, session, member, rfl, known⟩

theorem follows_materialize {uploadId slug : String} {userId : Int} :
    (materialize uploadId userId slug).Follows Rule (fun _ _ => True) past := by
  refine follows_database trivial fun owned => ?_
  refine Attempt.follows_okOr (fun session read => ?_) (fun _ => trivial)
  subst read
  refine Attempt.follows_bind (follows_plain only_clientStatus).adds ?_ (fun _ _ _ => trivial)
  rintro _ status ⟨-, more, rfl⟩
  refine Attempt.follows_ofExcept (fun descriptor validated => ?_) (fun _ _ => trivial)
  have valid : validate status session = .ok descriptor := by
    cases checked : validate status session with
    | ok _ =>
        rw [checked] at validated
        cases validated
        rfl
    | error _ =>
        rw [checked] at validated
        cases validated
  have asks : Validated (past ++ [⟨.db (.ownedSession uploadId userId slug), .ok (some session)⟩] ++ more)
      uploadId userId slug descriptor := ⟨session, status, by simp, valid⟩
  refine follows_database asks fun attachmentId => ?_
  refine follows_database ⟨slug, descriptor, by simp⟩ fun attachment => ?_
  exact follows_plain (Attempt.only_okOr _ _)

/-- **Every program keeps to the rule.** -/
theorem Call.follows (call : Call) : Follows Rule (fun _ _ => True) [] call.program := by
  have plain {α : Type} {method : Adapter α} (only : method.Only Plain) :
      Follows Rule (fun _ _ => True) [] method.attempt.discard :=
    follows_discard (follows_plain only)
  cases call with
  | schedulePostDeletion => exact plain only_schedulePostDeletion
  | scheduleAttachmentDeletion => exact plain only_scheduleAttachmentDeletion
  | restorePost => exact follows_discard follows_restorePost
  | reconcile => exact follows_discard follows_reconcile
  | status => exact plain only_statusAction
  | delete => exact plain only_deleteAction
  | completeMultipart => exact plain only_controlAction
  | confirmSingle => exact plain only_controlAction
  | abortMultipart => exact plain only_controlAction
  | materialize => exact follows_discard follows_materialize
  | save => exact plain (only_database trivial)

end Follows

/-! ## Steps -/

section Steps

variable {s t : System} {label : Happening} {i : Nat}

/-- What a thread is about to ask for, the rule allows after what it has heard. -/
theorem next_rule {request : Ask} (next : s.Next machine i request) : Rule (s.past i) request := by
  obtain ⟨call, -, rule⟩ := @State.Next.obeys _ _ _ _ _ machine s i request (fun _ => Rule)
    (fun _ _ _ => True) Call.follows next
  exact rule

/-- Every request of a step is one the rule allows after what its thread has heard. -/
theorem step_rule {exchange : Exchange Answer} (step : Step s (.asked i exchange) t) :
    Rule (s.past i) exchange.1 := next_rule step.next

/-- What a step does to the shared state. -/
theorem step_cases (step : Step s label t) :
    (∃ i op, label = carried s i op ∧
        t.shared = { s.shared with db := (op.run s.shared.clock s.shared.db).2 }) ∨
      (∃ i origin uploadId, label = .asked i ⟨.send origin uploadId, .ok s.shared.requests.length⟩ ∧
        t.shared =
          { s.shared with requests := send s.shared.requests ⟨origin, strtolower uploadId⟩ }) ∨
      (∃ event, label = .moved event ∧ s.shared.occur event = some t.shared) ∨
      (t.shared = s.shared ∧ ∀ i op output, label ≠ .asked i ⟨.db op, .ok output⟩) := by
  obtain ⟨i, ⟨ask, answer⟩, rfl, answered⟩ | ⟨event, rfl, occurs⟩ | ⟨same, quiet⟩ := step.shared_cases
  · dsimp only [machine] at answered
    generalize after : t.shared = u at answered
    cases answered with
    | ran op => exact .inl ⟨i, op, rfl, rfl⟩
    | sent origin uploadId => exact .inr (.inl ⟨i, origin, uploadId, rfl, rfl⟩)
    | _ =>
        refine .inr (.inr (.inr ⟨rfl, ?_⟩))
        rintro j op output ⟨⟩
  · exact .inr (.inr (.inl ⟨event, rfl, occurs⟩))
  · refine .inr (.inr (.inr ⟨same, ?_⟩))
    rintro i op output rfl
    exact absurd (quiet i) (by simp [Label.heard])

theorem send_ne_db {i j : Nat} {origin : Origin} {uploadId : String} {op : Op}
    (answer : Answer (.send origin uploadId)) (output : Answer (.db op)) :
    (.asked i ⟨.send origin uploadId, answer⟩ : Happening) ≠ .asked j ⟨.db op, output⟩ := by
  intro same
  injection same with _ exchange
  injection exchange with asked
  cases asked

/-- A thread that is about to ask for a deletion was, or has just begun the claim. -/
theorem begun_cases (step : Step s label t) {attachmentId : Int} {upload : String}
    (begun : Begun (t.past i) attachmentId upload) : Begun (s.past i) attachmentId upload ∨
      label = .asked i ⟨.db (.beginClaim attachmentId upload), .ok .delete⟩ := by
  rw [step.past] at begun
  obtain quiet | ⟨exchange, rfl⟩ := label.heard_eq i
  · rw [quiet, List.append_nil] at begun
    exact .inl begun
  · rw [Label.heard, if_pos rfl] at begun
    obtain ⟨before, same⟩ := begun
    have last := (List.append_inj' same rfl).2
    rw [List.singleton_inj.1 last]
    exact .inr rfl

/-- The database of an adapter that has started from valid tables is valid. -/
theorem step_valid (step : Step s label t) (valid : s.shared.db.Valid) : t.shared.db.Valid := by
  obtain ⟨i, op, -, same⟩ | ⟨i, origin, uploadId, -, same⟩ | ⟨event, -, occurs⟩ | ⟨same, -⟩ :=
    step_cases step
  · rw [same]
    exact op.valid _ valid
  · rw [same]
    exact valid
  · cases event with
    | processed ticket accepts =>
        obtain ⟨requests, -, same⟩ := Option.map_eq_some_iff.1 occurs
        rw [← same]
        exact valid
    | clock now =>
        rw [← Option.some.inj occurs]
        exact valid
    | trashed ids triggerType =>
        rw [← Option.some.inj occurs]
        exact trash_valid valid
    | purged ids =>
        rw [← Option.some.inj occurs]
        exact purge_valid valid
  · rw [same]
    exact valid

end Steps

end MediaBooster.Gnuboard7
