/-
# Domain.Upload -- uploads and the lifecycle automaton

The identifiers, keys and enumerations of the domain crate.  An `ObjectKey` is
built by `ObjectKey.new` only, so it carries the checks it passed.

`UploadState.canTransitionTo` is the domain's automaton.  Nothing in the store
consults it; `UploadState.Chain` is the relation the store's statements are
compared with: a possibly empty chain of its transitions.
-/
import Mathlib.Logic.Relation
import MediaBooster.Domain.Primitives

namespace MediaBooster.Domain

set_option autoImplicit false

/-! ## Identifiers and keys -/

/-- A UUID.  Its hyphenated lower-case text, which is what the store holds, is
ordered as the number is. -/
abbrev Uuid := Fin (2 ^ 128)

/-- Identifier of an upload. -/
structure UploadId where
  uuid : Uuid
deriving DecidableEq

/-- Identifier of a batch of uploads. -/
structure UploadBatchId where
  uuid : Uuid
deriving DecidableEq

/-- Identifier of a processing job. -/
structure JobId where
  uuid : Uuid
deriving DecidableEq

inductive ObjectKeyError
  | empty
  | tooLong
  | absolute
  | unsafeSegment
  | unsupportedCharacter
deriving DecidableEq

/-- `value.split('/')`. -/
def segments : List Char → List (List Char)
  | [] => [[]]
  | c :: rest =>
      if c = '/' then [] :: segments rest
      else
        match segments rest with
        | [] => [[c]]
        | segment :: more => (c :: segment) :: more

def validateObjectKey (value : String) : Except ObjectKeyError Unit :=
  if value.isEmpty then .error .empty
  else if 1024 < value.utf8ByteSize then .error .tooLong
  else if value.toList.head? = some '/' then .error .absolute
  else if (segments value.toList).any fun segment =>
      segment == [] || segment == ['.'] || segment == ['.', '.'] then
    .error .unsafeSegment
  else if !allChars (fun c => isAsciiAlphanumeric c || c == '/' || c == '-' || c == '_' ||
      c == '.') value then
    .error .unsupportedCharacter
  else .ok ()

/-- A server-owned object storage key. -/
structure ObjectKey where
  asStr : String
  valid : validateObjectKey asStr = .ok ()

instance : DecidableEq ObjectKey := fun a b =>
  decidable_of_iff (a.asStr = b.asStr)
    ⟨fun same => by cases a; cases b; cases same; rfl, fun same => same ▸ rfl⟩

/-- `ObjectKey::new`. -/
def ObjectKey.new (value : String) : Except ObjectKeyError ObjectKey :=
  match checked : validateObjectKey value with
  | .ok () => .ok ⟨value, checked⟩
  | .error e => .error e

/-- A key that was built has the text it was built of. -/
theorem ObjectKey.new_asStr {value : String} {key : ObjectKey}
    (made : (ObjectKey.new value).toOption = some key) : key.asStr = value := by
  unfold ObjectKey.new at made
  split at made
  · cases made
    rfl
  · cases made

/-- The client-declared media class. -/
inductive MediaKind
  | image
  | video
deriving DecidableEq

/-- The server-selected transfer strategy of an upload. -/
inductive UploadTransfer
  | singlePut
  | multipart (partSizeBytes : Nat)
deriving DecidableEq

/-! ## The automaton -/

inductive UploadState
  | created
  | uploaded
  | quarantined
  | processing
  | ready
  | rejected
  | failed
  | deleted
deriving DecidableEq

namespace UploadState

/-- `UploadState::can_transition_to`. -/
def canTransitionTo : UploadState → UploadState → Bool
  | .created, .uploaded => true
  | .uploaded, .quarantined => true
  | .quarantined, .processing | .quarantined, .rejected | .quarantined, .failed => true
  | .processing, .ready | .processing, .rejected | .processing, .failed => true
  | .created, .deleted | .uploaded, .deleted | .quarantined, .deleted
  | .processing, .deleted | .ready, .deleted | .rejected, .deleted | .failed, .deleted => true
  | _, _ => false

/-- `UploadState::transition_to`; the error carries both states. -/
def transitionTo (state target : UploadState) : Except (UploadState × UploadState) UploadState :=
  if state.canTransitionTo target then .ok target else .error (state, target)

/-- A possibly empty chain of allowed transitions. -/
def Chain : UploadState → UploadState → Prop :=
  Relation.ReflTransGen fun state target => state.canTransitionTo target = true

theorem Chain.refl (state : UploadState) : Chain state state := Relation.ReflTransGen.refl

theorem Chain.trans {a b c : UploadState} (first : Chain a b) (second : Chain b c) : Chain a c :=
  Relation.ReflTransGen.trans first second

theorem Chain.step {state target : UploadState}
    (allowed : state.canTransitionTo target = true) : Chain state target :=
  Relation.ReflTransGen.single allowed

/-- Chains are closed: what one transition keeps, a chain keeps. -/
theorem Chain.keeps {P : UploadState → Prop}
    (step : ∀ a b, canTransitionTo a b = true → P a → P b)
    {state target : UploadState} (chain : Chain state target) (holds : P state) : P target := by
  induction chain with
  | refl => exact holds
  | tail _ allowed ih => exact step _ _ allowed ih

/-- Nothing leaves `deleted`. -/
theorem Chain.from_deleted {target : UploadState} (chain : Chain .deleted target) :
    target = .deleted :=
  chain.keeps (P := (· = .deleted)) (fun a b allowed same => by
    subst same
    cases b <;> simp [canTransitionTo] at allowed) rfl

/-- The states of an upload that is settled but still stored. -/
def settled : UploadState → Bool
  | .ready | .rejected => true
  | _ => false

/-- A settled upload keeps its state until it is deleted. -/
theorem Chain.from_settled {state target : UploadState} (chain : Chain state target)
    (settled : state.settled = true) : target = state ∨ target = .deleted := by
  refine chain.keeps (P := fun s => s = state ∨ s = .deleted) ?_ (.inl rfl)
  rintro a b allowed (rfl | rfl)
  · cases a <;> cases b <;> simp [canTransitionTo, UploadState.settled] at allowed settled ⊢
  · cases b <;> simp [canTransitionTo] at allowed

/-- The states processing has no business with any more. -/
def finished : UploadState → Bool
  | .ready | .rejected | .deleted => true
  | _ => false

/-- What is finished stays finished. -/
theorem Chain.from_finished {state target : UploadState} (chain : Chain state target)
    (finished : state.finished = true) : target.finished = true := by
  refine chain.keeps (P := fun s => s.finished = true) (fun a b allowed done => ?_) finished
  cases a <;> cases b <;> simp [canTransitionTo, UploadState.finished] at allowed done ⊢

/-- Every state reaches `deleted`. -/
theorem Chain.to_deleted (state : UploadState) : Chain state .deleted := by
  cases state with
  | deleted => exact Chain.refl _
  | created | uploaded | quarantined | processing | ready | rejected | failed =>
      exact Chain.step rfl

end UploadState

end MediaBooster.Domain
