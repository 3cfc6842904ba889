/-
# Browser.Multipart -- one multipart upload of the browser

`uploadMultipart` maps its parts over `mapLimit`.  A part is presigned, waits for one of the
connections, is put, and has its ETag checked; a transient failure makes `retry` wait and try
again.  A part that fails for good aborts the upload's controller, which takes its other parts out
of the line for a connection and out of their delays; the outer signal does the same at any time.
Only when every worker of `mapLimit` has returned does the upload go on: to `completeMultipart`
with what the parts answered, or to `abortMultipart`.

The connections are shared: whatever else uses them takes its turns between those of the upload
(`Ticket.other`).  Every await of a part is a step of its own, so turns of the parts, of the other
users, of the outer signal and of the store's answers come in any order.

* `Sound.step`: what every turn keeps: a call for a part at the semaphore stands for a part that is
  connecting; a put that began is under way or has ended; a part that answers with an ETag has a
  put that ended with it; and `mapLimit` is through before the control plane is asked.
* `bounded_transfers`: the semaphore, `mapLimit` and the upload, in every run.
-/
import MediaBooster.Browser.Semaphore
import MediaBooster.Browser.MapLimit
import Mathlib.Logic.Function.Basic

namespace MediaBooster.Browser

set_option autoImplicit false

open MediaBooster.Theory.Run

variable {ε : Type}

/-! ## The parts -/

/-- The parts a file is cut into, where `uploadMultipart` goes on. -/
def partCount (size : Nat) (partSize : Option Nat) : Except String Nat :=
  match partSize with
  | none => .error "multipart instruction has an invalid part size"
  | some partSize =>
      if partSize < 5 * 1024 * 1024 ∨ 2 ^ 53 ≤ partSize then
        .error "multipart instruction has an invalid part size"
      else if (size + partSize - 1) / partSize < 1 ∨ 10000 < (size + partSize - 1) / partSize then
        .error "multipart part count is outside the provider limit"
      else .ok ((size + partSize - 1) / partSize)

/-- The answer to a put: its `ETag`, if the browser shows it. -/
structure Response where
  etag : Option (List Char)

/-- `CompletedPart`. -/
structure CompletedPart where
  partNumber : Nat
  etag : List Char
deriving DecidableEq

/-- What `String.prototype.trim` takes off. -/
def isWhitespace (c : Char) : Bool :=
  c.toNat ∈ [0x09, 0x0a, 0x0b, 0x0c, 0x0d, 0x20, 0xa0, 0x1680, 0x2028, 0x2029, 0x202f, 0x205f,
    0x3000, 0xfeff] || (0x2000 ≤ c.toNat && c.toNat ≤ 0x200a)

def trim (text : List Char) : List Char :=
  ((text.dropWhile isWhitespace).reverse.dropWhile isWhitespace).reverse

/-- `/^[\x21-\x7e]+$/`, for one character. -/
def isVisible (c : Char) : Bool := 0x21 ≤ c.toNat && c.toNat ≤ 0x7e

/-- The `ETag` of a response, if it passes the check. -/
def checkedEtag (response : Response) : Option (List Char) :=
  let etag := trim (response.etag.getD [])
  if etag.isEmpty || 1024 < etag.length || !etag.all isVisible then none else some etag

/-! ## The upload -/

/-- Who asks for a connection: a part in one of its attempts, or somebody else. -/
inductive Ticket
  | part (index attempt : Nat)
  | other (number : Nat)
deriving DecidableEq

def Ticket.ofPart : Ticket → Bool
  | .part _ _ => true
  | .other _ => false

/-- Where the mapper is with a part.  `attempt` counts the retries before it. -/
inductive Phase (ε : Type)
  | quiet
  | presigning (attempt : Nat)
  | connecting (attempt : Nat)
  | answered (attempt : Nat) (outcome : Except ε Response)
  | delaying (attempt : Nat)
  | thrown (error : ε)

/-- Where `uploadMultipart` is. -/
inductive Stage (ε : Type)
  | mapping
  | completing
  | aborting (error : ε)
  | done
  | failed (error : ε)

/-- What the control plane is asked once the parts are through. -/
inductive ControlCall
  | completeMultipart (parts : List (Option CompletedPart))
  | abortMultipart
deriving DecidableEq

/-- What an upload runs with. -/
structure Upload (ε : Type) where
  connections : Limit
  maxParallelParts : Nat
  parallel : 1 ≤ maxParallelParts
  maxRetries : Nat
  isTransient : ε → Bool
  invalidEtag : ε
  size : Nat
  partSize : Option Nat
  parts : Nat
  planned : partCount size partSize = .ok parts

/-- `mapLimit` over the part numbers. -/
def Upload.mapping (upload : Upload ε) : Mapping Nat where
  items := List.range' 1 upload.parts
  limit := upload.maxParallelParts
  positive := upload.parallel

/-- The state of an upload: the connections, `mapLimit`, the parts, the reason its controller was
aborted for, where it is; what it asked of the control plane, and the puts that began and that
ended. -/
structure Multipart (ε : Type) where
  connections : Connections Ticket
  map : MapLimit Nat CompletedPart ε
  phases : Nat → Phase ε
  aborted : Option ε
  stage : Stage ε
  calls : List ControlCall
  begun : List (Nat × Nat)
  ended : List ((Nat × Nat) × Except ε Response)

namespace Multipart

/-- Before the first part. -/
def initial (upload : Upload ε) : Multipart ε where
  connections := .idle
  map := .initial upload.mapping
  phases := fun _ => .quiet
  aborted := none
  stage := .mapping
  calls := []
  begun := []
  ended := []

def setPhase (s : Multipart ε) (index : Nat) (phase : Phase ε) : Multipart ε :=
  { s with phases := Function.update s.phases index phase }

/-- The loop of `retry` from its top to its next await. -/
def attempt (s : Multipart ε) (index attempt : Nat) : Multipart ε :=
  match s.aborted with
  | some reason => s.setPhase index (.thrown reason)
  | none => s.setPhase index (.presigning attempt)

/-- A worker calls the mapper, if it took a part. -/
def enter (s : Multipart ε) : Worker CompletedPart ε → Multipart ε
  | .awaiting index => s.attempt index 0
  | _ => s

/-- The part is presigned: `connections.use(controller.signal, …)`. -/
def connect (upload : Upload ε) (s : Multipart ε) (index attempt : Nat) : Multipart ε :=
  match s.aborted with
  | some reason => s.setPhase index (.answered attempt (.error reason))
  | none => { s.setPhase index (.connecting attempt) with
      connections := s.connections.ask upload.connections (.part index attempt) }

/-- `controller.abort(reason)`: the parts that wait for a connection are refused, the delays are
cut short. -/
def abort (s : Multipart ε) (reason : ε) : Multipart ε :=
  match s.aborted with
  | some _ => s
  | none => { s with
      aborted := some reason
      connections := s.connections.abort Ticket.ofPart
      phases := fun index =>
        match s.phases index with
        | .connecting attempt =>
            if .part index attempt ∈ s.connections.semaphore.waiters then
              .answered attempt (.error reason)
            else .connecting attempt
        | .delaying _ => .thrown reason
        | phase => phase }

/-- The mapper's promise settles. -/
def finish (s : Multipart ε) (index : Nat) (outcome : Except ε CompletedPart) : Multipart ε :=
  { s.setPhase index .quiet with map := s.map.settle index outcome }

/-- `retry` goes on after its operation failed. -/
def retry (upload : Upload ε) (s : Multipart ε) (index attempt : Nat) (error : ε) : Multipart ε :=
  if upload.maxRetries ≤ attempt ∨ upload.isTransient error = false then
    s.setPhase index (.thrown error)
  else s.setPhase index (.delaying (attempt + 1))

/-- The operation of `retry` is through. -/
def handle (upload : Upload ε) (s : Multipart ε) (index attempt : Nat) :
    Except ε Response → Multipart ε
  | .error error => s.retry upload index attempt error
  | .ok response =>
      match checkedEtag response with
      | none => s.retry upload index attempt upload.invalidEtag
      | some etag => s.finish index (.ok ⟨index + 1, etag⟩)

end Multipart

/-- What happens to an upload and around it. -/
inductive UploadEvent (ε : Type)
  | starts
  | presigned (index : Nat)
  | refused (index : Nat) (error : ε)
  | begins (index : Nat)
  | ends (index : Nat) (outcome : Except ε Response)
  | handles (index : Nat)
  | wakes (index : Nat)
  | catches (index : Nat)
  | resumes (place : Nat)
  | aborts (reason : ε)
  | others (event : UseEvent Ticket)
  | mapped
  | rejected
  | completed
  | refusesCompletion (error : ε)
  | aborted

/-- What the other users of the connections do. -/
def UseEvent.ofOthers : UseEvent Ticket → Prop
  | .refused ticket | .asks ticket | .begins ticket | .settles ticket => ticket.ofPart = false
  | .aborts aborted => ∀ ticket : Ticket, ticket.ofPart = true → aborted ticket = false

/-- One turn of a part, of `mapLimit`, of `uploadMultipart`, or of something around them. -/
inductive UploadStep (upload : Upload ε) : Multipart ε → UploadEvent ε → Multipart ε → Prop
  | starts {s : Multipart ε} (more : s.map.workers.length < upload.mapping.size) :
      UploadStep upload s .starts
        ({ s with map := s.map.start upload.mapping.items }.enter
          (s.map.turn upload.mapping.items).1)
  | presigned {s : Multipart ε} {index attempt : Nat}
      (phase : s.phases index = .presigning attempt) :
      UploadStep upload s (.presigned index) (s.connect upload index attempt)
  | refused {s : Multipart ε} {index attempt : Nat}
      (phase : s.phases index = .presigning attempt) (error : ε) :
      UploadStep upload s (.refused index error)
        (s.setPhase index (.answered attempt (.error error)))
  | begins {s : Multipart ε} {index attempt : Nat} (phase : s.phases index = .connecting attempt)
      (granted : (.part index attempt, false) ∈ s.connections.holders) :
      UploadStep upload s (.begins index)
        { s with
          connections := s.connections.begin (.part index attempt)
          begun := s.begun ++ [(index, attempt)] }
  | ends {s : Multipart ε} {index attempt : Nat} (phase : s.phases index = .connecting attempt)
      (running : (.part index attempt, true) ∈ s.connections.holders)
      (outcome : Except ε Response) :
      UploadStep upload s (.ends index outcome)
        { s.setPhase index (.answered attempt outcome) with
          connections := s.connections.settle (.part index attempt)
          ended := s.ended ++ [((index, attempt), outcome)] }
  | handles {s : Multipart ε} {index attempt : Nat} {outcome : Except ε Response}
      (phase : s.phases index = .answered attempt outcome) :
      UploadStep upload s (.handles index) (s.handle upload index attempt outcome)
  | wakes {s : Multipart ε} {index attempt : Nat} (phase : s.phases index = .delaying attempt) :
      UploadStep upload s (.wakes index) (s.attempt index attempt)
  | catches {s : Multipart ε} {index : Nat} {error : ε} (phase : s.phases index = .thrown error) :
      UploadStep upload s (.catches index) ((s.abort error).finish index (.error error))
  | resumes {s : Multipart ε} {place index : Nat} {outcome : Except ε CompletedPart}
      (ready : s.map.workers[place]? = some (.resuming index outcome)) :
      UploadStep upload s (.resumes place)
        ({ s with map := s.map.resume upload.mapping.items place index outcome }.enter
          ((s.map.record index outcome).turn upload.mapping.items).1)
  | aborts (s : Multipart ε) (reason : ε) : UploadStep upload s (.aborts reason) (s.abort reason)
  | others {s : Multipart ε} {event : UseEvent Ticket} {connections : Connections Ticket}
      (own : event.ofOthers) (step : UseStep upload.connections s.connections event connections) :
      UploadStep upload s (.others event) { s with connections := connections }
  | mapped {s : Multipart ε} {parts : List (Option CompletedPart)} (stage : s.stage = .mapping)
      (finished : s.map.Finished upload.mapping) (answer : s.map.answer = .ok parts) :
      UploadStep upload s .mapped
        { s with stage := .completing, calls := s.calls ++ [.completeMultipart parts] }
  | rejected {s : Multipart ε} {error : ε} (stage : s.stage = .mapping)
      (finished : s.map.Finished upload.mapping) (answer : s.map.answer = .error error) :
      UploadStep upload s .rejected
        { s with stage := .aborting error, calls := s.calls ++ [.abortMultipart] }
  | completed {s : Multipart ε} (stage : s.stage = .completing) :
      UploadStep upload s .completed { s with stage := .done }
  | refusesCompletion {s : Multipart ε} (stage : s.stage = .completing) (error : ε) :
      UploadStep upload s (.refusesCompletion error)
        { s with stage := .aborting error, calls := s.calls ++ [.abortMultipart] }
  | aborted {s : Multipart ε} {error : ε} (stage : s.stage = .aborting error) :
      UploadStep upload s .aborted { s with stage := .failed error }

/-! ## The invariant -/

/-- A put of the part ended with the ETag that its entry carries. -/
def Transferred (ended : List ((Nat × Nat) × Except ε Response)) (index : Nat)
    (part : CompletedPart) : Prop :=
  part.partNumber = index + 1 ∧ ∃ attempt response,
    ((index, attempt), .ok response) ∈ ended ∧ checkedEtag response = some part.etag

/-- A state some calls of `use` lead to. -/
def Connections.Reached (limit : Limit) (c : Connections Ticket) : Prop :=
  ∃ events, Trace (UseStep limit) .idle events c

/-- A state some turns of `mapLimit` lead to. -/
def MapLimit.Reached (mapping : Mapping Nat) (m : MapLimit Nat CompletedPart ε) : Prop :=
  ∃ events, Trace (MapStep mapping) (.initial mapping) events m

theorem Connections.Reached.next {limit : Limit} {c after : Connections Ticket}
    {event : UseEvent Ticket} (reached : c.Reached limit) (step : UseStep limit c event after) :
    after.Reached limit := by
  obtain ⟨events, run⟩ := reached
  exact ⟨_, run.append (.single step)⟩

theorem MapLimit.Reached.next {mapping : Mapping Nat} {m after : MapLimit Nat CompletedPart ε}
    {event : MapEvent CompletedPart ε} (reached : m.Reached mapping)
    (step : MapStep mapping m event after) : after.Reached mapping := by
  obtain ⟨events, run⟩ := reached
  exact ⟨_, run.append (.single step)⟩

/-- `mapLimit` is through, and what was completed is what it returned. -/
structure Through (upload : Upload ε) (map : MapLimit Nat CompletedPart ε)
    (calls : List ControlCall) : Prop where
  finished : map.Finished upload.mapping
  answer : ∀ parts, .completeMultipart parts ∈ calls → map.answer = .ok parts

/-- What every run of an upload keeps. -/
structure Sound (upload : Upload ε) (s : Multipart ε) : Prop where
  connections : s.connections.Reached upload.connections
  map : s.map.Reached upload.mapping
  awaited : ∀ index, s.phases index ≠ .quiet → .awaiting index ∈ s.map.workers
  tickets : ∀ index attempt, .part index attempt ∈ s.connections.tickets →
    s.phases index = .connecting attempt
  begun : ∀ index attempt, (index, attempt) ∈ s.begun →
    (∃ outcome, ((index, attempt), outcome) ∈ s.ended) ∨
      (.part index attempt, true) ∈ s.connections.holders
  answered : ∀ index attempt response, s.phases index = .answered attempt (.ok response) →
    ((index, attempt), .ok response) ∈ s.ended
  transferred : ∀ index part, (index, .ok part) ∈ s.map.settled → Transferred s.ended index part
  staged : s.stage = .mapping ∧ s.calls = [] ∨ s.stage ≠ .mapping ∧ Through upload s.map s.calls

section Phases

variable {s : Multipart ε} {index other : Nat} {phase : Phase ε}

theorem setPhase_same : (s.setPhase index phase).phases index = phase := by
  simp [Multipart.setPhase]

theorem setPhase_other (different : other ≠ index) :
    (s.setPhase index phase).phases other = s.phases other := by
  simp [Multipart.setPhase, different]

end Phases

namespace Sound

variable {upload : Upload ε} {s after : Multipart ε} {index : Nat}

theorem initial (upload : Upload ε) : Sound upload (.initial upload) where
  connections := ⟨[], .nil _⟩
  map := ⟨[], .nil _⟩
  awaited _ busy := absurd rfl busy
  tickets _ _ there := by cases there
  begun _ _ there := by cases there
  answered _ _ _ phase := by cases phase
  transferred _ _ there := by cases there
  staged := .inl ⟨rfl, rfl⟩

theorem uses (sound : Sound upload s) : Uses upload.connections s.connections := by
  obtain ⟨events, run⟩ := sound.connections
  exact (uses_refine run).1

theorem mapped (sound : Sound upload s) : Mapped upload.mapping s.map := by
  obtain ⟨events, run⟩ := sound.map
  exact mapped_run run

/-- While a worker has not returned, the control plane has not been asked. -/
theorem working (sound : Sound upload s) {worker : Worker CompletedPart ε}
    (there : worker ∈ s.map.workers) (busy : worker ≠ .returned) :
    s.stage = .mapping ∧ s.calls = [] := by
  rcases sound.staged with before | through
  · exact before
  · exact absurd (through.2.finished.2 worker there) busy

/-- While a part is not through, the control plane has not been asked. -/
theorem unfinished (sound : Sound upload s) (busy : s.phases index ≠ .quiet) :
    s.stage = .mapping ∧ s.calls = [] :=
  sound.working (sound.awaited index busy) (by simp)

theorem unasked (sound : Sound upload s) (stage : s.stage = .mapping) : s.calls = [] := by
  rcases sound.staged with before | ⟨later, -⟩
  · exact before.2
  · exact absurd stage later

theorem through (sound : Sound upload s) (stage : s.stage ≠ .mapping) :
    Through upload s.map s.calls := by
  rcases sound.staged with before | ⟨-, through⟩
  · exact absurd before.1 stage
  · exact through

/-- A part that is nowhere at the semaphore goes on. -/
theorem setPhase (sound : Sound upload s) {phase : Phase ε}
    (awaited : .awaiting index ∈ s.map.workers)
    (apart : ∀ attempt, s.phases index ≠ .connecting attempt)
    (answered : ∀ attempt response, phase = .answered attempt (.ok response) →
      ((index, attempt), .ok response) ∈ s.ended) : Sound upload (s.setPhase index phase) where
  connections := sound.connections
  map := sound.map
  awaited other busy := by
    by_cases same : other = index
    · rw [same]
      exact awaited
    · rw [setPhase_other same] at busy
      exact sound.awaited other busy
  tickets other attempt there := by
    have before := sound.tickets other attempt there
    rw [setPhase_other]
    · exact before
    · rintro rfl
      exact apart attempt before
  begun := sound.begun
  answered other attempt response there := by
    by_cases same : other = index
    · subst same
      rw [setPhase_same] at there
      exact answered attempt response there
    · rw [setPhase_other same] at there
      exact sound.answered other attempt response there
  transferred := sound.transferred
  staged := sound.staged

theorem attempt (sound : Sound upload s) (awaited : .awaiting index ∈ s.map.workers)
    (apart : ∀ attempt, s.phases index ≠ .connecting attempt) (attempt : Nat) :
    Sound upload (s.attempt index attempt) := by
  unfold Multipart.attempt
  split
  · exact sound.setPhase awaited apart (by simp)
  · exact sound.setPhase awaited apart (by simp)

/-- The mapper's promise for a part settles. -/
theorem finish (sound : Sound upload s) (busy : s.phases index ≠ .quiet)
    (apart : ∀ attempt, s.phases index ≠ .connecting attempt)
    {outcome : Except ε CompletedPart}
    (transferred : ∀ part, outcome = .ok part → Transferred s.ended index part) :
    Sound upload (s.finish index outcome) := by
  have awaits := sound.awaited index busy
  refine ⟨sound.connections, sound.map.next (.settles awaits outcome), ?_, ?_, sound.begun, ?_, ?_,
    .inl (sound.unfinished busy)⟩
  · intro other moving
    have different : other ≠ index := by
      rintro rfl
      exact moving setPhase_same
    refine settle_awaiting.2 ⟨sound.awaited other ?_, different⟩
    intro quiet
    exact moving ((setPhase_other different).trans quiet)
  · intro other attempt there
    have before := sound.tickets other attempt there
    refine (setPhase_other ?_).trans before
    rintro rfl
    exact apart attempt before
  · intro other attempt response there
    by_cases same : other = index
    · subst same
      cases setPhase_same.symm.trans there
    · exact sound.answered other attempt response ((setPhase_other same).symm.trans there)
  · intro other part there
    rcases List.mem_append.1 there with before | new
    · exact sound.transferred other part before
    · rw [List.mem_singleton] at new
      cases new
      exact transferred part rfl

theorem retry (sound : Sound upload s) (busy : s.phases index ≠ .quiet)
    (apart : ∀ attempt, s.phases index ≠ .connecting attempt) (attempt : Nat) (error : ε) :
    Sound upload (s.retry upload index attempt error) := by
  unfold Multipart.retry
  split
  · exact sound.setPhase (sound.awaited index busy) apart (by simp)
  · exact sound.setPhase (sound.awaited index busy) apart (by simp)

theorem handle (sound : Sound upload s) {outcome : Except ε Response}
    {attempt : Nat} (phase : s.phases index = .answered attempt outcome) :
    Sound upload (s.handle upload index attempt outcome) := by
  have busy : s.phases index ≠ .quiet := by simp [phase]
  have apart : ∀ attempt, s.phases index ≠ .connecting attempt := by simp [phase]
  cases outcome with
  | error error => exact sound.retry busy apart attempt error
  | ok response =>
      simp only [Multipart.handle]
      cases checked : checkedEtag response with
      | none => exact sound.retry busy apart attempt upload.invalidEtag
      | some etag =>
          apply sound.finish busy apart
          rintro part ⟨⟩
          exact ⟨rfl, attempt, response, sound.answered index attempt response phase, checked⟩

/-- The part asks for a connection, or finds its controller aborted. -/
theorem connect (sound : Sound upload s) {attempt : Nat} (phase : s.phases index = .presigning attempt) :
    Sound upload (s.connect upload index attempt) := by
  have awaits := sound.awaited index (by simp [phase])
  unfold Multipart.connect
  split
  · exact sound.setPhase awaits (by simp [phase]) (by simp)
  · have fresh : .part index attempt ∉ s.connections.tickets := by
      intro there
      have connecting := sound.tickets index attempt there
      rw [phase] at connecting
      cases connecting
    refine ⟨sound.connections.next (.asks fresh), sound.map, ?_, ?_, ?_, ?_, sound.transferred,
      sound.staged⟩
    · intro other busy
      by_cases same : other = index
      · rw [same]
        exact awaits
      · exact sound.awaited other fun quiet => busy ((setPhase_other same).trans quiet)
    · intro other again there
      rcases mem_tickets_ask.1 there with new | before
      · cases new
        exact setPhase_same
      · have connecting := sound.tickets other again before
        refine (setPhase_other ?_).trans connecting
        rintro rfl
        rw [phase] at connecting
        cases connecting
    · intro other again there
      rcases sound.begun other again there with ended | running
      · exact .inl ended
      · exact .inr (holder_ask running)
    · intro other again response there
      by_cases same : other = index
      · subst same
        cases setPhase_same.symm.trans there
      · exact sound.answered other again response ((setPhase_other same).symm.trans there)

/-- The phase of a part when its controller is aborted. -/
theorem abort_phases (none : s.aborted = none) (reason : ε) (index : Nat) :
    (s.abort reason).phases index =
      match s.phases index with
      | .connecting attempt =>
          if .part index attempt ∈ s.connections.semaphore.waiters then
            .answered attempt (.error reason)
          else .connecting attempt
      | .delaying _ => .thrown reason
      | phase => phase := by
  simp [Multipart.abort, none]

/-- Aborting the controller: the parts in line leave it, those with a permit go on. -/
theorem abort (sound : Sound upload s) (reason : ε) : Sound upload (s.abort reason) := by
  cases none : s.aborted with
  | some earlier =>
      rw [Multipart.abort, none]
      exact sound
  | none =>
      have phases := abort_phases none reason
      have connections : (s.abort reason).connections = s.connections.abort Ticket.ofPart := by
        simp [Multipart.abort, none]
      have map : (s.abort reason).map = s.map := by simp [Multipart.abort, none]
      have rest : (s.abort reason).begun = s.begun ∧ (s.abort reason).ended = s.ended ∧
          (s.abort reason).calls = s.calls ∧ (s.abort reason).stage = s.stage := by
        simp [Multipart.abort, none]
      obtain ⟨begun, ended, calls, stage⟩ := rest
      refine ⟨?_, ?_, ?_, ?_, ?_, ?_, ?_, ?_⟩
      · rw [connections]
        exact sound.connections.next (.aborts _ _)
      · rw [map]
        exact sound.map
      · intro other busy
        rw [map]
        apply sound.awaited other
        intro quiet
        rw [phases, quiet] at busy
        exact busy rfl
      · intro other attempt there
        rw [connections] at there
        -- the waiters of the upload are gone, so this call holds a permit
        have before := sound.tickets other attempt (tickets_abort there)
        have holds : .part other attempt ∈ s.connections.holders.map Prod.fst := by
          rcases List.mem_append.1 there with waits | holds
          · have gone := (List.mem_filter.1 waits).2
            cases gone
          · exact holds
        have line : .part other attempt ∉ s.connections.semaphore.waiters := fun waits =>
          (List.nodup_append.1 sound.uses.distinct).2.2 _ waits _ holds rfl
        rw [phases, before]
        exact if_neg line
      · rw [begun, ended, connections]
        exact sound.begun
      · intro other attempt response there
        rw [ended]
        apply sound.answered other attempt response
        rw [phases] at there
        cases phase : s.phases other with
        | connecting again =>
            rw [phase] at there
            simp only at there
            split at there <;> cases there
        | _ =>
            rw [phase] at there
            first | exact there | cases there
      · rw [map, ended]
        exact sound.transferred
      · rw [calls, stage, map]
        exact sound.staged

theorem abort_thrown {error : ε} (phase : s.phases index = .thrown error) (reason : ε) :
    (s.abort reason).phases index = .thrown error := by
  cases none : s.aborted with
  | some earlier =>
      rw [Multipart.abort, none]
      exact phase
  | none => rw [abort_phases none, phase]

/-- A part calls `transport.put`. -/
theorem begins (sound : Sound upload s) {attempt : Nat}
    (granted : (.part index attempt, false) ∈ s.connections.holders) :
    Sound upload { s with
      connections := s.connections.begin (.part index attempt)
      begun := s.begun ++ [(index, attempt)] } := by
  refine ⟨sound.connections.next (.begins granted), sound.map, sound.awaited, ?_, ?_,
    sound.answered, sound.transferred, sound.staged⟩
  · intro other again there
    rw [tickets_begin] at there
    exact sound.tickets other again there
  · intro other again there
    rcases List.mem_append.1 there with before | new
    · rcases sound.begun other again before with ended | running
      · exact .inl ended
      · exact .inr (running_begin running)
    · rw [List.mem_singleton] at new
      cases new
      exact .inr (begin_running granted)

/-- A put settles. -/
theorem ends (sound : Sound upload s) {attempt : Nat}
    (phase : s.phases index = .connecting attempt)
    (running : (.part index attempt, true) ∈ s.connections.holders)
    (outcome : Except ε Response) :
    Sound upload { s.setPhase index (.answered attempt outcome) with
      connections := s.connections.settle (.part index attempt)
      ended := s.ended ++ [((index, attempt), outcome)] } := by
  have awaits := sound.awaited index (by simp [phase])
  refine ⟨sound.connections.next (.settles running), sound.map, ?_, ?_, ?_, ?_, ?_, sound.staged⟩
  · intro other busy
    by_cases same : other = index
    · rw [same]
      exact awaits
    · exact sound.awaited other fun quiet => busy ((setPhase_other same).trans quiet)
  · intro other again there
    obtain ⟨before, different⟩ := sound.uses.tickets_settle running there
    have connecting := sound.tickets other again before
    refine (setPhase_other ?_).trans connecting
    rintro rfl
    rw [phase] at connecting
    cases connecting
    exact different rfl
  · intro other again there
    by_cases same : (other, again) = (index, attempt)
    · cases same
      exact .inl ⟨outcome, List.mem_append_right _ (List.mem_singleton_self _)⟩
    · rcases sound.begun other again there with ⟨earlier, ended⟩ | still
      · exact .inl ⟨earlier, List.mem_append_left _ ended⟩
      · refine .inr (running_settle still ?_)
        rintro ⟨⟩
        exact same rfl
  · intro other again response there
    by_cases same : other = index
    · subst same
      have here : Phase.answered attempt outcome = .answered again (.ok response) :=
        setPhase_same.symm.trans there
      cases here
      exact List.mem_append_right _ (List.mem_singleton_self _)
    · exact List.mem_append_left _
        (sound.answered other again response ((setPhase_other same).symm.trans there))
  · intro other part there
    obtain ⟨numbered, again, response, ended, checked⟩ := sound.transferred other part there
    exact ⟨numbered, again, response, List.mem_append_left _ ended, checked⟩

/-- The others leave the calls of the parts where they are. -/
theorem others (sound : Sound upload s) {event : UseEvent Ticket}
    {connections : Connections Ticket} (own : event.ofOthers)
    (step : UseStep upload.connections s.connections event connections) :
    Sound upload { s with connections := connections } := by
  have reached := sound.connections.next step
  have apart : ∀ {ticket : Ticket} {index attempt : Nat}, ticket.ofPart = false →
      .part index attempt ≠ ticket := by
    rintro ticket index attempt other rfl
    cases other
  refine ⟨reached, sound.map, sound.awaited, ?_, ?_, sound.answered, sound.transferred,
    sound.staged⟩
  · intro index attempt there
    apply sound.tickets
    cases step with
    | refused => exact there
    | asks fresh =>
        rcases mem_tickets_ask.1 there with same | before
        · exact absurd same (apart own)
        · exact before
    | begins granted => rwa [tickets_begin] at there
    | settles running => exact (sound.uses.tickets_settle running there).1
    | aborts aborted => exact tickets_abort there
  · intro index attempt there
    rcases sound.begun index attempt there with ended | running
    · exact .inl ended
    · refine .inr ?_
      cases step with
      | refused => exact running
      | asks fresh => exact holder_ask running
      | begins granted => exact running_begin running
      | settles other => exact running_settle running (apart own)
      | aborts aborted => exact running

/-- A worker that took a part calls the mapper for it. -/
theorem enter (sound : Sound upload s) {worker : Worker CompletedPart ε}
    (taken : ∀ index, worker = .awaiting index →
      .awaiting index ∈ s.map.workers ∧ s.phases index = .quiet) :
    Sound upload (s.enter worker) := by
  cases worker with
  | awaiting index =>
      obtain ⟨awaits, quiet⟩ := taken index rfl
      exact sound.attempt awaits (by simp [quiet]) 0
  | resuming | returned => exact sound

/-- The index a worker takes has no part under way. -/
theorem next_quiet (sound : Sound upload s) : s.phases s.map.next = .quiet := by
  apply Classical.byContradiction
  intro busy
  obtain ⟨small, -⟩ := sound.mapped.awaits _ (sound.awaited _ busy)
  omega

/-- `mapLimit` starts a worker. -/
theorem starts (sound : Sound upload s) (more : s.map.workers.length < upload.mapping.size) :
    Sound upload ({ s with map := s.map.start upload.mapping.items }.enter
      (s.map.turn upload.mapping.items).1) := by
  have staged : s.stage = .mapping ∧ s.calls = [] := by
    rcases sound.staged with before | through
    · exact before
    · have full := through.2.finished.1
      omega
  have moved : Sound upload { s with map := s.map.start upload.mapping.items } := by
    refine ⟨sound.connections, sound.map.next (.starts more), ?_, sound.tickets, sound.begun,
      sound.answered, ?_, .inl staged⟩
    · intro index busy
      exact List.mem_append_left _ (sound.awaited index busy)
    · intro index part there
      apply sound.transferred
      rwa [← turn_settled upload.mapping.items]
  refine moved.enter fun index taken => ⟨?_, ?_⟩
  · rw [← taken]
    exact List.mem_append_right _ (List.mem_singleton_self _)
  · rw [turn_awaiting taken]
    exact sound.next_quiet

/-- A worker goes on. -/
theorem resumes (sound : Sound upload s) {place : Nat} {outcome : Except ε CompletedPart}
    (ready : s.map.workers[place]? = some (.resuming index outcome)) :
    Sound upload ({ s with map := s.map.resume upload.mapping.items place index outcome }.enter
      ((s.map.record index outcome).turn upload.mapping.items).1) := by
  obtain ⟨inside, -⟩ := List.getElem?_eq_some_iff.1 ready
  have staged := sound.working (List.mem_of_getElem? ready) (by simp)
  have moved : Sound upload
      { s with map := s.map.resume upload.mapping.items place index outcome } := by
    refine ⟨sound.connections, sound.map.next (.resumes ready), ?_, sound.tickets, sound.begun,
      sound.answered, ?_, .inl staged⟩
    · intro other busy
      exact mem_set_other ready (sound.awaited other busy) (by simp)
    · intro other part there
      apply sound.transferred
      have settled := turn_settled (m := s.map.record index outcome) upload.mapping.items
      rw [record_settled] at settled
      rwa [← settled]
  refine moved.enter fun other taken => ⟨?_, ?_⟩
  · rw [← taken]
    exact List.mem_set inside _
  · rw [turn_awaiting taken, record_next]
    exact sound.next_quiet

/-- **Every turn keeps what is known of an upload.** -/
theorem step {event : UploadEvent ε} (sound : Sound upload s)
    (step : UploadStep upload s event after) : Sound upload after := by
  cases step with
  | starts more => exact sound.starts more
  | presigned phase => exact sound.connect phase
  | refused phase error =>
      exact sound.setPhase (sound.awaited _ (by simp [phase])) (by simp [phase]) (by simp)
  | begins phase granted => exact sound.begins granted
  | ends phase running outcome => exact sound.ends phase running outcome
  | handles phase => exact sound.handle phase
  | wakes phase =>
      exact sound.attempt (sound.awaited _ (by simp [phase])) (by simp [phase]) _
  | catches phase =>
      have thrown := fun reason => abort_thrown phase reason
      exact (sound.abort _).finish (by simp [thrown]) (by simp [thrown]) (by simp)
  | resumes ready => exact sound.resumes ready
  | aborts reason => exact sound.abort reason
  | others own step => exact sound.others own step
  | mapped stage finished answer =>
      refine { sound with staged := .inr ⟨by simp, finished, fun parts there => ?_⟩ }
      rw [sound.unasked stage, List.nil_append, List.mem_singleton] at there
      cases there
      exact answer
  | rejected stage finished answer =>
      refine { sound with staged := .inr ⟨by simp, finished, fun parts there => ?_⟩ }
      rw [sound.unasked stage, List.nil_append, List.mem_singleton] at there
      cases there
  | completed stage =>
      exact { sound with staged := .inr ⟨by simp, sound.through (by simp [stage])⟩ }
  | refusesCompletion stage error =>
      have through := sound.through (by simp [stage])
      refine { sound with staged := .inr ⟨by simp, through.finished, fun parts there => ?_⟩ }
      rcases List.mem_append.1 there with before | new
      · exact through.answer parts before
      · rw [List.mem_singleton] at new
        cases new
  | aborted stage =>
      exact { sound with staged := .inr ⟨by simp, sound.through (by simp [stage])⟩ }

/-- Once the control plane was asked, no part is under way. -/
theorem quiet (sound : Sound upload s) (asked : s.calls ≠ []) (index : Nat) :
    s.phases index = .quiet := by
  apply Classical.byContradiction
  intro busy
  exact asked (sound.unfinished busy).2

end Sound

/-! ## Whole runs -/

/-- `completeMultipart` is asked with an entry for every part, in their order, each with the ETag of
a put of that part that has succeeded.  Whatever the control plane was asked, every put that began
has ended before, and no part waits for a connection or holds one. -/
structure UploadBounded (upload : Upload ε) (s : Multipart ε) : Prop where
  completes : ∀ parts, .completeMultipart parts ∈ s.calls →
    ∃ completed : List CompletedPart, parts = completed.map some ∧
      completed.length = upload.parts ∧
      ∀ index part, completed[index]? = some part → Transferred s.ended index part
  ended : s.calls ≠ [] → ∀ index attempt, (index, attempt) ∈ s.begun →
    ∃ outcome, ((index, attempt), outcome) ∈ s.ended
  left : s.calls ≠ [] → ∀ index attempt, .part index attempt ∉ s.connections.tickets

theorem Sound.bounded {upload : Upload ε} {s : Multipart ε} (sound : Sound upload s) :
    UploadBounded upload s where
  completes parts there := by
    have asked : s.stage ≠ .mapping := by
      intro stage
      rw [sound.unasked stage] at there
      cases there
    have through := sound.through asked
    obtain ⟨completed, same, length, settled⟩ :=
      sound.mapped.answer_ok through.finished (through.answer parts there)
    refine ⟨completed, same, ?_, fun index part here => ?_⟩
    · rw [length]
      exact List.length_range'
    · exact sound.transferred index part (settled index part here)
  ended asked index attempt there := by
    rcases sound.begun index attempt there with ended | running
    · exact ended
    · -- a put under way stands for a part that is connecting, and none is left
      have call : .part index attempt ∈ s.connections.tickets :=
        List.mem_append_right _ (List.mem_map.2 ⟨_, running, rfl⟩)
      have connecting := sound.tickets index attempt call
      rw [sound.quiet asked index] at connecting
      cases connecting
  left asked index attempt there := by
    have connecting := sound.tickets index attempt there
    rw [sound.quiet asked index] at connecting
    cases connecting

theorem upload_sound {upload : Upload ε} {s : Multipart ε} {events : List (UploadEvent ε)}
    (run : Trace (UploadStep upload) (.initial upload) events s) : Sound upload s :=
  run.keeps (fun _ _ _ step sound => sound.step step) (.initial upload)

/-- **Transfers are bounded and end in order.**  In every run, whatever the number of parts and of
other users, in whatever order they settle, fail or are aborted: the semaphore stays within its
limit, with a holder for every permit, and no call waits once nobody holds one; `mapLimit` calls its
mapper once for an index, not again after an error, and returns in the order of its items; and an
upload is completed with all its parts, transferred, in order, and aborted only after every put that
began has ended. -/
theorem bounded_transfers :
    (∀ (τ : Type) [DecidableEq τ] (limit : Limit) (events : List (UseEvent τ))
      (c : Connections τ), Trace (UseStep limit) .idle events c → UsesBounded limit c) ∧
    (∀ (ι ρ ε : Type) (mapping : Mapping ι) (events : List (MapEvent ρ ε))
      (m : MapLimit ι ρ ε), Trace (MapStep mapping) (.initial mapping) events m →
        MapBounded mapping m) ∧
    (∀ (ε : Type) (upload : Upload ε) (events : List (UploadEvent ε)) (s : Multipart ε),
      Trace (UploadStep upload) (.initial upload) events s →
        UsesBounded upload.connections s.connections ∧ MapBounded upload.mapping s.map ∧
          UploadBounded upload s) := by
  refine ⟨?_, ?_, ?_⟩
  · intro τ _ limit events c run
    exact uses_bounded run
  · intro ι ρ ε mapping events m run
    exact mapLimit_bounded run
  · intro ε upload events s run
    have sound := upload_sound run
    obtain ⟨uses, connections⟩ := sound.connections
    obtain ⟨turns, map⟩ := sound.map
    exact ⟨uses_bounded connections, mapLimit_bounded map, sound.bounded⟩

/-! ## An upload that is completed, and one that is aborted -/

/-- Whether the worker has returned. -/
def Worker.hasReturned {ρ : Type} : Worker ρ ε → Bool
  | .returned => true
  | _ => false

theorem Worker.hasReturned_iff {ρ : Type} {worker : Worker ρ ε} :
    worker.hasReturned = true ↔ worker = .returned := by
  cases worker <;> simp [hasReturned]

/-- The state after an event, if the upload may take it now.  The other users are idle here. -/
def Multipart.after (upload : Upload ε) (s : Multipart ε) : UploadEvent ε → Option (Multipart ε)
  | .starts =>
      if s.map.workers.length < upload.mapping.size then
        some ({ s with map := s.map.start upload.mapping.items }.enter
          (s.map.turn upload.mapping.items).1)
      else none
  | .presigned index =>
      match s.phases index with
      | .presigning attempt => some (s.connect upload index attempt)
      | _ => none
  | .refused index error =>
      match s.phases index with
      | .presigning attempt => some (s.setPhase index (.answered attempt (.error error)))
      | _ => none
  | .begins index =>
      match s.phases index with
      | .connecting attempt =>
          if (.part index attempt, false) ∈ s.connections.holders then
            some { s with
              connections := s.connections.begin (.part index attempt)
              begun := s.begun ++ [(index, attempt)] }
          else none
      | _ => none
  | .ends index outcome =>
      match s.phases index with
      | .connecting attempt =>
          if (.part index attempt, true) ∈ s.connections.holders then
            some { s.setPhase index (.answered attempt outcome) with
              connections := s.connections.settle (.part index attempt)
              ended := s.ended ++ [((index, attempt), outcome)] }
          else none
      | _ => none
  | .handles index =>
      match s.phases index with
      | .answered attempt outcome => some (s.handle upload index attempt outcome)
      | _ => none
  | .wakes index =>
      match s.phases index with
      | .delaying attempt => some (s.attempt index attempt)
      | _ => none
  | .catches index =>
      match s.phases index with
      | .thrown error => some ((s.abort error).finish index (.error error))
      | _ => none
  | .resumes place =>
      match s.map.workers[place]? with
      | some (.resuming index outcome) =>
          some ({ s with map := s.map.resume upload.mapping.items place index outcome }.enter
            ((s.map.record index outcome).turn upload.mapping.items).1)
      | _ => none
  | .aborts reason => some (s.abort reason)
  | .others _ => none
  | .mapped =>
      match s.stage, s.map.answer with
      | .mapping, .ok parts =>
          if s.map.workers.length = upload.mapping.size ∧ s.map.workers.all Worker.hasReturned then
            some { s with stage := .completing, calls := s.calls ++ [.completeMultipart parts] }
          else none
      | _, _ => none
  | .rejected =>
      match s.stage, s.map.answer with
      | .mapping, .error error =>
          if s.map.workers.length = upload.mapping.size ∧ s.map.workers.all Worker.hasReturned then
            some { s with stage := .aborting error, calls := s.calls ++ [.abortMultipart] }
          else none
      | _, _ => none
  | .completed =>
      match s.stage with
      | .completing => some { s with stage := .done }
      | _ => none
  | .refusesCompletion error =>
      match s.stage with
      | .completing => some { s with stage := .aborting error, calls := s.calls ++ [.abortMultipart] }
      | _ => none
  | .aborted =>
      match s.stage with
      | .aborting error => some { s with stage := .failed error }
      | _ => none

theorem finished_of_all {ι ρ : Type} {mapping : Mapping ι} {m : MapLimit ι ρ ε}
    (finished : m.workers.length = mapping.size ∧ m.workers.all Worker.hasReturned) :
    m.Finished mapping :=
  ⟨finished.1, fun worker member => Worker.hasReturned_iff.1 (List.all_eq_true.1 finished.2 worker member)⟩

theorem Multipart.after_step {upload : Upload ε} (s : Multipart ε) (event : UploadEvent ε)
    (t : Multipart ε) (led : s.after upload event = some t) : UploadStep upload s event t := by
  cases event <;> unfold Multipart.after at led <;> dsimp only at led
  case starts =>
    split at led
    · rename_i more
      cases led
      exact .starts more
    · cases led
  case presigned index =>
    split at led <;> cases led
    rename_i attempt phase
    exact .presigned phase
  case refused index error =>
    split at led <;> cases led
    rename_i attempt phase
    exact .refused phase error
  case begins index =>
    split at led
    · rename_i attempt phase
      split at led <;> cases led
      rename_i granted
      exact .begins phase granted
    · cases led
  case ends index outcome =>
    split at led
    · rename_i attempt phase
      split at led <;> cases led
      rename_i running
      exact .ends phase running outcome
    · cases led
  case handles index =>
    split at led <;> cases led
    rename_i attempt outcome phase
    exact .handles phase
  case wakes index =>
    split at led <;> cases led
    rename_i attempt phase
    exact .wakes phase
  case catches index =>
    split at led <;> cases led
    rename_i error phase
    exact .catches phase
  case resumes place =>
    split at led <;> cases led
    rename_i index outcome ready
    exact .resumes ready
  case aborts reason =>
    cases led
    exact .aborts s reason
  case others => cases led
  case mapped =>
    split at led
    · rename_i parts stage answer
      split at led <;> cases led
      rename_i finished
      exact .mapped stage (finished_of_all finished) answer
    · cases led
  case rejected =>
    split at led
    · rename_i error stage answer
      split at led <;> cases led
      rename_i finished
      exact .rejected stage (finished_of_all finished) answer
    · cases led
  case completed =>
    split at led <;> cases led
    rename_i stage
    exact .completed stage
  case refusesCompletion error =>
    split at led <;> cases led
    rename_i stage
    exact .refusesCompletion stage error
  case aborted =>
    split at led <;> cases led
    rename_i error stage
    exact .aborted stage

/-- A file of three parts over two connections. -/
def sampleUpload : Upload String where
  connections := ⟨2, by decide⟩
  maxParallelParts := 3
  parallel := by decide
  maxRetries := 3
  isTransient := fun error => error == "timeout"
  invalidEtag := "object-store CORS must expose a valid ETag header"
  size := 12582912
  partSize := some 5242880
  parts := 3
  planned := by rfl

/-- The third part waits for a connection; the first loses its own in a put that fails, waits in
its turn and is put again. -/
def retriedTurns : List (UploadEvent String) :=
  [.starts, .starts, .starts, .presigned 0, .presigned 1, .presigned 2, .begins 0, .begins 1,
    .ends 0 (.error "timeout"), .handles 0, .begins 2, .wakes 0, .presigned 0,
    .ends 1 (.ok ⟨some ['f']⟩), .handles 1, .resumes 1, .begins 0,
    .ends 2 (.ok ⟨some ['g']⟩), .handles 2, .resumes 2,
    .ends 0 (.ok ⟨some ['e']⟩), .handles 0, .resumes 0, .mapped]

/-- The upload is cancelled while two parts are put and the third waits. -/
def cancelledTurns : List (UploadEvent String) :=
  [.starts, .starts, .starts, .presigned 0, .presigned 1, .presigned 2, .begins 0, .begins 1,
    .aborts "cancelled", .handles 2, .catches 2, .resumes 2,
    .ends 0 (.error "cancelled"), .handles 0, .catches 0, .resumes 0,
    .ends 1 (.ok ⟨some ['f']⟩), .handles 1, .resumes 1, .rejected]

/-- Whether these calls were made after these puts began. -/
def Multipart.has (s : Multipart ε) (calls : List ControlCall) (begun : List (Nat × Nat)) : Bool :=
  decide (s.calls = calls ∧ s.begun = begun)

theorem Multipart.played_has {upload : Upload ε} {events : List (UploadEvent ε)}
    {calls : List ControlCall} {begun : List (Nat × Nat)}
    (played : (runAll (Multipart.after upload) (.initial upload) events).any
      (fun s => s.has calls begun) = true) :
    ∃ s, Trace (UploadStep upload) (.initial upload) events s ∧ s.calls = calls ∧ s.begun = begun := by
  obtain ⟨s, led, has⟩ := (Option.any_eq_true _ _).1 played
  exact ⟨s, .of_runAll after_step led, of_decide_eq_true has⟩

theorem retried_completes : ∃ s, Trace (UploadStep sampleUpload) (.initial sampleUpload) retriedTurns s ∧
    s.calls = [.completeMultipart [some ⟨1, ['e']⟩, some ⟨2, ['f']⟩, some ⟨3, ['g']⟩]] ∧
    s.begun = [(0, 0), (1, 0), (2, 0), (0, 1)] :=
  Multipart.played_has (by decide +kernel)

theorem cancelled_aborts : ∃ s, Trace (UploadStep sampleUpload) (.initial sampleUpload) cancelledTurns s ∧
    s.calls = [.abortMultipart] ∧ s.begun = [(0, 0), (1, 0)] :=
  Multipart.played_has (by decide +kernel)

/-- **`bounded_transfers` at two uploads of three parts over two connections**: one is completed
after a part waited and a put was made again, the other is cancelled and aborted once the two puts
that began have ended. -/
theorem bounded_transfers_sample :
    (∃ s, Trace (UploadStep sampleUpload) (.initial sampleUpload) retriedTurns s ∧
      s.calls = [.completeMultipart [some ⟨1, ['e']⟩, some ⟨2, ['f']⟩, some ⟨3, ['g']⟩]] ∧
      s.begun = [(0, 0), (1, 0), (2, 0), (0, 1)] ∧
      UsesBounded sampleUpload.connections s.connections ∧
      MapBounded sampleUpload.mapping s.map ∧ UploadBounded sampleUpload s) ∧
    ∃ s, Trace (UploadStep sampleUpload) (.initial sampleUpload) cancelledTurns s ∧
      s.calls = [.abortMultipart] ∧ s.begun = [(0, 0), (1, 0)] ∧
      UsesBounded sampleUpload.connections s.connections ∧
      MapBounded sampleUpload.mapping s.map ∧ UploadBounded sampleUpload s := by
  constructor
  · obtain ⟨s, run, calls, begun⟩ := retried_completes
    exact ⟨s, run, calls, begun, bounded_transfers.2.2 _ _ _ _ run⟩
  · obtain ⟨s, run, calls, begun⟩ := cancelled_aborts
    exact ⟨s, run, calls, begun, bounded_transfers.2.2 _ _ _ _ run⟩

end MediaBooster.Browser
