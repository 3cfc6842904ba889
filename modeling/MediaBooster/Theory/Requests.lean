/-
# Theory.Requests -- requests to a server whose answers may be lost

A request is sent under a ticket.  The server accepts it or refuses it at any later time, once;
its sender may hear of it, hear something else, or never hear of it.  A request that was not
refused is open: it has been accepted, or may still be.
-/
import Mathlib.Data.List.Basic

namespace MediaBooster.Theory.Requests

set_option autoImplicit false

/-- What the server has made of a request. -/
inductive Fate
  | pending
  | accepted
  | refused
deriving DecidableEq

/-- A request that was sent. -/
structure Request (ρ : Type) where
  content : ρ
  fate : Fate

variable {ρ : Type}

/-- Send a request; its ticket is its place. -/
def send (requests : List (Request ρ)) (content : ρ) : List (Request ρ) :=
  requests ++ [⟨content, .pending⟩]

/-- The server comes to a request that waits. -/
def process (ticket : Nat) (accepts : Bool) (requests : List (Request ρ)) :
    Option (List (Request ρ)) :=
  match requests[ticket]? with
  | some ⟨content, .pending⟩ =>
      some (requests.set ticket ⟨content, if accepts then .accepted else .refused⟩)
  | _ => none

/-- Some request of this content has been accepted, or may still be. -/
def Open (requests : List (Request ρ)) (content : ρ) : Prop :=
  ∃ request ∈ requests, request.content = content ∧ request.fate ≠ .refused

/-- Some request of this content has been accepted. -/
def Accepted (requests : List (Request ρ)) (content : ρ) : Prop :=
  ∃ request ∈ requests, request.content = content ∧ request.fate = .accepted

/-- The request of this ticket has been accepted. -/
def AcceptedAt (requests : List (Request ρ)) (ticket : Nat) (content : ρ) : Prop :=
  requests[ticket]? = some ⟨content, .accepted⟩

section Requests

variable {requests after : List (Request ρ)} {content other : ρ} {ticket : Nat} {accepts : Bool}

theorem Accepted.open (accepted : Accepted requests content) : Open requests content := by
  obtain ⟨request, member, same, fate⟩ := accepted
  refine ⟨request, member, same, ?_⟩
  rw [fate]
  decide

theorem AcceptedAt.accepted (accepted : AcceptedAt requests ticket content) :
    Accepted requests content := ⟨_, List.mem_of_getElem? accepted, rfl, rfl⟩

theorem Accepted.at (accepted : Accepted requests content) :
    ∃ ticket, AcceptedAt requests ticket content := by
  obtain ⟨⟨_, _⟩, member, rfl, rfl⟩ := accepted
  obtain ⟨ticket, there⟩ := List.getElem?_of_mem member
  exact ⟨ticket, there⟩

theorem open_send : Open (send requests other) content ↔ Open requests content ∨ other = content := by
  unfold Open send
  constructor
  · rintro ⟨request, member, same, fate⟩
    obtain old | new := List.mem_append.1 member
    · exact .inl ⟨request, old, same, fate⟩
    · rw [List.mem_singleton.1 new] at same
      exact .inr same
  · rintro (⟨request, member, same, fate⟩ | rfl)
    · exact ⟨request, List.mem_append_left _ member, same, fate⟩
    · exact ⟨_, List.mem_append_right _ (List.mem_singleton_self _), rfl, nofun⟩

theorem AcceptedAt.sent (accepted : AcceptedAt requests ticket content) (other : ρ) :
    AcceptedAt (send requests other) ticket content := by
  obtain ⟨inside, -⟩ := List.getElem?_eq_some_iff.1 accepted
  unfold AcceptedAt send
  rw [List.getElem?_append_left inside]
  exact accepted

/-- What is processed waited, and is settled afterwards. -/
theorem process_eq_some (processed : process ticket accepts requests = some after) :
    ∃ content, requests[ticket]? = some ⟨content, .pending⟩ ∧
      after = requests.set ticket ⟨content, if accepts then .accepted else .refused⟩ := by
  unfold process at processed
  split at processed
  · rename_i content waited
    exact ⟨content, waited, (Option.some.inj processed).symm⟩
  · cases processed

/-- What is open after the server came to a request was open before. -/
theorem open_process (processed : process ticket accepts requests = some after)
    (opened : Open after content) : Open requests content := by
  obtain ⟨sent, waited, rfl⟩ := process_eq_some processed
  obtain ⟨request, member, same, fate⟩ := opened
  obtain old | rfl := List.mem_or_eq_of_mem_set member
  · exact ⟨request, old, same, fate⟩
  · exact ⟨_, List.mem_of_getElem? waited, same, nofun⟩

/-- What is accepted stays accepted. -/
theorem AcceptedAt.processed {place : Nat} (accepted : AcceptedAt requests place content)
    (processed : process ticket accepts requests = some after) : AcceptedAt after place content := by
  obtain ⟨sent, waited, rfl⟩ := process_eq_some processed
  unfold AcceptedAt at accepted ⊢
  rw [List.getElem?_set_ne]
  · exact accepted
  · rintro rfl
    rw [waited] at accepted
    cases accepted

end Requests

end MediaBooster.Theory.Requests
