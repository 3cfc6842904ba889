/-
# Service.Histories -- what a thread has done before it asks

`Service.Asks` says what a service can come to ask for.  What a thread has done before it asks
is a rule of its service (`Service.Histories.Uploads` and its neighbours), and every rule is
proved of the service's program, one request after the other, by the lemmas here.

Uploads and jobs are recorded under identifiers their thread has drawn (`identifiers`).
-/
import MediaBooster.Service.ObjectStore
import MediaBooster.Theory.Tokens

namespace MediaBooster.Service

set_option autoImplicit false

open MediaBooster.Domain MediaBooster.Storage MediaBooster.Store MediaBooster.Theory.Threads

/-- The exchanges of a thread. -/
abbrev History := List (Exchange Answer)

/-! ## Going on after one request -/

section Requests

variable {ε δ α : Type} {rule : History → Ask → Prop} {post : History → Except ε α → Prop}
variable {past : History}

theorem follows_now {next : OffsetDateTime → Action ε α} (asks : rule past .now)
    (rest : ∀ reading : OffsetDateTime, (next reading).Follows rule post (past ++ [⟨.now, reading⟩])) :
    (now >>= next).Follows rule post past := follows_bind.2 ⟨asks, rest⟩

theorem follows_drawId {next : Uuid → Action ε α} (asks : rule past .drawId)
    (rest : ∀ uuid : Uuid, (next uuid).Follows rule post (past ++ [⟨.drawId, uuid⟩])) :
    (drawId >>= next).Follows rule post past := follows_bind.2 ⟨asks, rest⟩

theorem follows_host {request : HostRequest} {next : request.Output → Action ε α}
    (asks : rule past (.host request))
    (rest : ∀ output : request.Output,
      (next output).Follows rule post (past ++ [⟨.host request, output⟩])) :
    (host request >>= next).Follows rule post past := follows_bind.2 ⟨asks, rest⟩

theorem follows_ran {op : Op} {next : op.Result → Action op.Error α}
    {post : History → Except op.Error α → Prop} (asks : rule past (.store op))
    (rest : ∀ result, (next result).Follows rule post (past ++ [⟨.store op, .ok result⟩]))
    (fails : ∀ error, post (past ++ [⟨.store op, .error error⟩]) (.error error)) :
    (call op >>= next).Follows rule post past := by
  refine follows_bind.2 ⟨asks, fun answer => ?_⟩
  cases answer with
  | ok result => exact rest result
  | error error => exact fails error

theorem follows_call {op : Op} {f : op.Error → ε} {next : op.Result → Action ε α}
    (asks : rule past (.store op))
    (rest : ∀ result, (next result).Follows rule post (past ++ [⟨.store op, .ok result⟩]))
    (fails : ∀ error, post (past ++ [⟨.store op, .error error⟩]) (.error (f error))) :
    (Attempt.mapError f (call op) >>= next).Follows rule post past := by
  refine follows_bind.2 ⟨asks, fun answer => ?_⟩
  cases answer with
  | ok result => exact rest result
  | error error => exact fails error

theorem follows_sent {request : ProviderRequest} {next : request.Output → Action ObjectStoreError α}
    {post : History → Except ObjectStoreError α → Prop} (asks : rule past (.provider request))
    (rest : ∀ output, (next output).Follows rule post (past ++ [⟨.provider request, .ok output⟩]))
    (fails : ∀ error,
      post (past ++ [⟨.provider request, .error error⟩]) (.error (backendError error))) :
    (sent request >>= next).Follows rule post past := by
  refine follows_bind.2 ⟨asks, fun answer => ?_⟩
  cases answer with
  | ok output => exact rest output
  | error error => exact fails error

end Requests

/-! ## Identifiers -/

/-- The identifiers an exchange draws, and those a request records as new. -/
def identifiers : TokenUse Answer Uuid where
  drawn
    | ⟨.drawId, uuid⟩ => some uuid
    | _ => none
  used
    | .store (.saveBatch batch _) => batch.uploads.map fun upload => upload.uploadId.uuid
    | .store (.markQuarantinedAndEnqueue jobId ..) => [jobId.uuid]
    | _ => []

/-- A request that records no identifier. -/
def RecordsNone (request : Ask) : Prop := identifiers.used request = []

theorem drew_drawn (past : History) (uuid : Uuid) :
    identifiers.Drew (past ++ [⟨.drawId, uuid⟩]) uuid :=
  ⟨⟨.drawId, uuid⟩, List.mem_append_right _ (List.mem_singleton_self _), rfl⟩

/-- The past records no identifier. -/
def Recordless (past : History) : Prop := ∀ exchange ∈ past, RecordsNone exchange.1

theorem Recordless.unused {past : History} (recordless : Recordless past) (uuid : Uuid) :
    ¬ identifiers.Used past uuid := by
  rintro ⟨exchange, member, names⟩
  rw [recordless exchange member] at names
  cases names

theorem Recordless.append {past more : History} (recordless : Recordless past)
    (quiet : Recordless more) : Recordless (past ++ more) := by
  intro exchange member
  exact (List.mem_append.1 member).elim (recordless exchange) (quiet exchange)

end MediaBooster.Service
