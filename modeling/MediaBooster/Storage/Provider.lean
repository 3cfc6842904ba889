/-
# Storage.Provider -- an S3-compatible provider as the adapter meets it

The provider is code of somebody else; this is the documented behaviour the adapter relies
on.  A `Provider` is the objects of every bucket and the multipart sessions there have been.

* `Performs` is a request carried out: a session completes or aborts only while it is
  active, and completing it stores an object under its key.
* `Refuses` is a request the provider turns down: a session that is not active any more is
  reported as no such upload, an object that is not there as not found.
* `Answers` adds that any request can fail, and that a reply can be lost after the request
  was carried out.

Parts and the bytes of a direct `PUT` go from the browser to the provider, so the length of
an assembled object is the provider's to report.
-/
import Mathlib.Data.List.Basic
import Mathlib.Data.String.Basic

namespace MediaBooster.Storage

set_option autoImplicit false

/-- Failure of the object store port. -/
inductive ObjectStoreError
  | invalidRequest (message : String)
  | notFound
  | contentLengthMismatch
  | backend (message : String)
deriving DecidableEq

/-- One completed part as the browser reports it. -/
structure CompletedPart where
  partNumber : Nat
  etag : String
deriving DecidableEq

/-- What a session has come to. -/
inductive SessionStatus
  | active
  | completed
  | aborted
deriving DecidableEq

/-- A multipart session. -/
structure MultipartSession where
  bucket : String
  key : String
  uploadId : String
  status : SessionStatus
deriving DecidableEq

/-- One entry of a listing; the wire format leaves every field optional. -/
structure ListedEntry where
  key : Option String
  size : Option Int
deriving DecidableEq

/-- A page of a listing. -/
structure ListOutput where
  contents : List ListedEntry
  isTruncated : Option Bool
deriving DecidableEq

/-- A request to the provider. -/
inductive ProviderRequest
  | putObject (bucket key : String) (contentLength : Nat)
  | getObject (bucket key : String)
  | headObject (bucket key : String)
  | deleteObject (bucket key : String)
  | listObjectsV2 (bucket keyPrefix : String) (startAfter : Option String) (maxKeys : Nat)
  | createMultipartUpload (bucket key : String)
  | completeMultipartUpload (bucket key uploadId : String) (parts : List CompletedPart)
  | abortMultipartUpload (bucket key uploadId : String)
deriving DecidableEq

/-- Why the provider did not carry a request out. -/
inductive ProviderError
  | noSuchUpload
  | notFound
  | noSuchKey
  | other (message : String)
deriving DecidableEq

/-- `error.to_string()`. -/
def ProviderError.text : ProviderError → String
  | .noSuchUpload => "NoSuchUpload"
  | .notFound => "NotFound"
  | .noSuchKey => "NoSuchKey"
  | .other message => message

/-- What a request returns: a session's identifier, an object's length, a page, or nothing. -/
@[reducible] def ProviderRequest.Output : ProviderRequest → Type
  | .getObject .. | .headObject .. => Option Int
  | .listObjectsV2 .. => ListOutput
  | .createMultipartUpload .. => Option String
  | .putObject .. | .deleteObject .. | .completeMultipartUpload .. | .abortMultipartUpload .. =>
      Unit

/-- An object of a bucket with its length. -/
structure StoredObject where
  bucket : String
  key : String
  length : Nat
deriving DecidableEq

/-- The objects of every bucket, and every session there has been. -/
structure Provider where
  stored : List StoredObject
  sessions : List MultipartSession
deriving DecidableEq

/-- The object is stored under the key. -/
def StoredObject.isAt (bucket key : String) (object : StoredObject) : Bool :=
  object.bucket == bucket && object.key == key

namespace Provider

/-- No objects and no sessions. -/
def empty : Provider := ⟨[], []⟩

/-- The length of the object stored under a key. -/
def objects (p : Provider) (bucket key : String) : Option Nat :=
  (p.stored.find? (StoredObject.isAt bucket key)).map StoredObject.length

/-- Store an object, or remove it. -/
def store (p : Provider) (bucket key : String) (object : Option Nat) : Provider :=
  { p with
    stored := (p.stored.filter fun other => !other.isAt bucket key) ++
      (object.map fun length => ⟨bucket, key, length⟩).toList }

/-- A session ends. -/
def settle (p : Provider) (uploadId : String) (status : SessionStatus) : Provider :=
  { p with sessions := p.sessions.map fun session =>
      if session.uploadId = uploadId then { session with status := status } else session }

/-- The session takes parts. -/
def Active (p : Provider) (bucket key uploadId : String) : Prop :=
  ⟨bucket, key, uploadId, .active⟩ ∈ p.sessions

instance (p : Provider) (bucket key uploadId : String) : Decidable (p.Active bucket key uploadId) :=
  inferInstanceAs (Decidable (_ ∈ _))

/-- A key a listing is asked for. -/
def Sought (keyPrefix : String) (startAfter : Option String) (key : String) : Prop :=
  keyPrefix.toList <+: key.toList ∧ ∀ cursor, startAfter = some cursor → cursor < key

/-- A page of a listing: keys of stored objects in ascending order, none left out before the
last one, and none left out at all unless the page is truncated. -/
structure Lists (p : Provider) (bucket keyPrefix : String) (startAfter : Option String)
    (maxKeys : Nat) (keys : List String) (truncated : Bool) : Prop where
  bounded : keys.length ≤ maxKeys
  ascending : keys.Pairwise (· < ·)
  stored : ∀ key ∈ keys, (p.objects bucket key).isSome ∧ Sought keyPrefix startAfter key
  complete : ∀ key, (p.objects bucket key).isSome → Sought keyPrefix startAfter key →
    key ∈ keys ∨ (truncated = true ∧ ∃ last, keys.getLast? = some last ∧ last < key)
  progress : truncated = true → keys ≠ []

/-- The page of a listing on the wire. -/
def page (p : Provider) (bucket : String) (keys : List String) (truncated : Bool) : ListOutput where
  contents := keys.map fun key => ⟨some key, (p.objects bucket key).map Int.ofNat⟩
  isTruncated := some truncated

/-- A request carried out. -/
inductive Performs (p : Provider) : (request : ProviderRequest) → request.Output → Provider → Prop
  | put {bucket key : String} {contentLength : Nat} :
      Performs p (.putObject bucket key contentLength) () (p.store bucket key (some contentLength))
  | got {bucket key : String} {length : Nat} (stored : p.objects bucket key = some length) :
      Performs p (.getObject bucket key) (some (length : Int)) p
  | headed {bucket key : String} {length : Nat} (stored : p.objects bucket key = some length) :
      Performs p (.headObject bucket key) (some (length : Int)) p
  | deleted {bucket key : String} :
      Performs p (.deleteObject bucket key) () (p.store bucket key none)
  | listed {bucket keyPrefix : String} {startAfter : Option String} {maxKeys : Nat}
      {keys : List String} {truncated : Bool}
      (lists : p.Lists bucket keyPrefix startAfter maxKeys keys truncated) :
      Performs p (.listObjectsV2 bucket keyPrefix startAfter maxKeys) (p.page bucket keys truncated)
        p
  | created {bucket key uploadId : String}
      (fresh : ∀ session ∈ p.sessions, session.uploadId ≠ uploadId) :
      Performs p (.createMultipartUpload bucket key) (some uploadId)
        { p with sessions := p.sessions ++ [⟨bucket, key, uploadId, .active⟩] }
  | completed {bucket key uploadId : String} {parts : List CompletedPart} (length : Nat)
      (active : p.Active bucket key uploadId) :
      Performs p (.completeMultipartUpload bucket key uploadId parts) ()
        ((p.settle uploadId .completed).store bucket key (some length))
  | aborted {bucket key uploadId : String} (active : p.Active bucket key uploadId) :
      Performs p (.abortMultipartUpload bucket key uploadId) () (p.settle uploadId .aborted)

/-- A request turned down. -/
inductive Refuses (p : Provider) : ProviderRequest → ProviderError → Prop
  | uncompletable {bucket key uploadId : String} {parts : List CompletedPart}
      (gone : ¬ p.Active bucket key uploadId) :
      Refuses p (.completeMultipartUpload bucket key uploadId parts) .noSuchUpload
  | unabortable {bucket key uploadId : String} (gone : ¬ p.Active bucket key uploadId) :
      Refuses p (.abortMultipartUpload bucket key uploadId) .noSuchUpload
  | unheaded {bucket key : String} (missing : p.objects bucket key = none) :
      Refuses p (.headObject bucket key) .notFound
  | ungot {bucket key : String} (missing : p.objects bucket key = none) :
      Refuses p (.getObject bucket key) .noSuchKey

/-- What the caller of a request sees, and the provider after it. -/
inductive Answers (p : Provider) :
    (request : ProviderRequest) → Except ProviderError request.Output → Provider → Prop
  | performed {request : ProviderRequest} {output : request.Output} {q : Provider}
      (performs : Performs p request output q) : Answers p request (.ok output) q
  | refused {request : ProviderRequest} {error : ProviderError} (refuses : Refuses p request error) :
      Answers p request (.error error) p
  | failed {request : ProviderRequest} (message : String) :
      Answers p request (.error (.other message)) p
  | lost {request : ProviderRequest} {output : request.Output} {q : Provider} (message : String)
      (performs : Performs p request output q) : Answers p request (.error (.other message)) q

/-! ## What a request does -/

section Requests

variable {p q : Provider} {request : ProviderRequest}

/-- The provider an answer leaves. -/
theorem Answers.cases {answer : Except ProviderError request.Output}
    (answers : Answers p request answer q) : q = p ∨ ∃ output, Performs p request output q := by
  cases answers with
  | performed performs => exact .inr ⟨_, performs⟩
  | refused => exact .inl rfl
  | failed => exact .inl rfl
  | lost message performs => exact .inr ⟨_, performs⟩

@[simp] theorem objects_empty (bucket key : String) : empty.objects bucket key = none := rfl

@[simp] theorem store_objects_self (bucket key : String) (object : Option Nat) :
    (p.store bucket key object).objects bucket key = object := by
  have gone : (p.stored.filter fun other => !other.isAt bucket key).find?
      (StoredObject.isAt bucket key) = none := by
    rw [List.find?_eq_none]
    intro other member
    simpa using (List.mem_filter.1 member).2
  unfold objects store
  rw [List.find?_append, gone]
  cases object <;> simp [StoredObject.isAt]

theorem store_objects_of_ne {bucket key b k : String} {object : Option Nat}
    (other : ¬ (b = bucket ∧ k = key)) :
    (p.store bucket key object).objects b k = p.objects b k := by
  have apart : ∀ stored : StoredObject, stored.isAt b k = true → stored.isAt bucket key = false := by
    intro stored isAt
    simp only [StoredObject.isAt, Bool.and_eq_true, beq_iff_eq] at isAt
    obtain ⟨rfl, rfl⟩ := isAt
    simpa [StoredObject.isAt] using other
  have kept : (p.stored.filter fun other => !other.isAt bucket key).find?
      (StoredObject.isAt b k) = p.stored.find? (StoredObject.isAt b k) := by
    rw [List.find?_filter]
    congr 1
    funext stored
    cases isAt : stored.isAt b k with
    | false => simp
    | true => simp [apart stored isAt]
  have new : (object.map fun length => StoredObject.mk bucket key length).toList.find?
      (StoredObject.isAt b k) = none := by
    rw [List.find?_eq_none]
    intro stored member isAt
    cases object with
    | none => cases member
    | some length =>
        rw [Option.map_some, Option.toList_some, List.mem_singleton] at member
        have here : stored.isAt bucket key = true := by simp [member, StoredObject.isAt]
        rw [apart stored isAt] at here
        cases here
  unfold objects store
  rw [List.find?_append, kept, new, Option.or_none]

theorem store_objects (bucket key b k : String) (object : Option Nat) :
    (p.store bucket key object).objects b k =
      if b = bucket ∧ k = key then object else p.objects b k := by
  split
  · rename_i same
    obtain ⟨rfl, rfl⟩ := same
    exact store_objects_self b k object
  · rename_i other
    exact store_objects_of_ne other

@[simp] theorem store_sessions (bucket key : String) (object : Option Nat) :
    (p.store bucket key object).sessions = p.sessions := rfl

@[simp] theorem settle_objects (uploadId : String) (status : SessionStatus) :
    (p.settle uploadId status).objects = p.objects := rfl

end Requests

end Provider

end MediaBooster.Storage
