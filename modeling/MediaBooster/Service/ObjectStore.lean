/-
# Service.ObjectStore -- the S3 adapter

`S3CompatibleStore` is one bucket of the provider.  Its methods check a request, send it, and
translate what comes back: a missing object is `notFound`, a session that is already gone
counts as aborted, and everything else is a backend error.

Lengths are `u64` in the ports and `i64` on the wire; a part number is a `u16`.
-/
import MediaBooster.Service.World

namespace MediaBooster.Service

set_option autoImplicit false

open MediaBooster.Domain MediaBooster.Storage MediaBooster.Theory.Threads

/-- One bucket of the provider. -/
structure S3CompatibleStore where
  bucket : String
deriving DecidableEq

/-- One provider object of a page. -/
structure ListedObject where
  key : String
  contentLength : Nat
deriving DecidableEq

/-- One bounded page. -/
structure ListedObjectsPage where
  objects : List ListedObject
  nextStartAfter : Option String
deriving DecidableEq

/-- `map_err(|error| ObjectStoreError::Backend(error.to_string()))`. -/
def backendError (error : ProviderError) : ObjectStoreError := .backend error.text

/-- Go on with what the provider returned, with any error as a backend error. -/
def sent (request : ProviderRequest) : Action ObjectStoreError request.Output :=
  Attempt.mapError backendError (provider request)

/-- The order and number checks of `validate_completed_parts` from one part on. -/
def orderedParts : Nat → List CompletedPart → Bool
  | _, [] => true
  | previous, part :: parts =>
      part.partNumber != 0 && decide (previous < part.partNumber) && !part.etag.isEmpty &&
        decide (part.etag.utf8ByteSize ≤ 1024) && orderedParts part.partNumber parts

/-- `validate_completed_parts`. -/
def validateCompletedParts (parts : List CompletedPart) : Except ObjectStoreError Unit :=
  if parts.isEmpty ∨ 10000 < parts.length then
    .error (.invalidRequest "multipart completion has an invalid part count")
  else if !orderedParts 0 parts then
    .error (.invalidRequest "multipart parts must be ordered, unique, and have an ETag")
  else .ok ()

/-- `u64::try_from(signed_length)` of a reported length, which is 0 where none is reported. -/
def reportedLength (length : Option Int) : Option Nat := u64TryFrom (length.getD 0)

/-- The checks of `S3CompatibleStore::presign_part`. -/
def checkPresignPart (partNumber contentLength : Nat) : Except ObjectStoreError Unit :=
  if partNumber = 0 ∨ 10000 < partNumber then
    .error (.invalidRequest "multipart part number is outside 1..=10000")
  else if contentLength = 0 then
    .error (.invalidRequest "multipart part length must be positive")
  else if (i64TryFrom contentLength).isNone then
    .error (.invalidRequest "part length exceeds S3 range")
  else .ok ()

/-- One entry of a page, decoded. -/
def listedObject (entry : ListedEntry) : Except ObjectStoreError ListedObject :=
  match entry.key with
  | none => .error (.backend "storage inventory returned no object key")
  | some key =>
      match reportedLength entry.size with
      | none => .error (.backend "storage inventory returned a negative object length")
      | some contentLength => .ok ⟨key, contentLength⟩

/-- A page decoded; a truncated page goes on after its last key. -/
def listedPage (output : ListOutput) : Except ObjectStoreError ListedObjectsPage :=
  match output.contents.mapM listedObject with
  | .error e => .error e
  | .ok objects =>
      if output.isTruncated.getD false then
        match objects.getLast? with
        | none => .error (.backend "storage returned an empty truncated inventory page")
        | some last => .ok ⟨objects, some last.key⟩
      else .ok ⟨objects, none⟩

/-- `value.starts_with(prefix)`. -/
def startsWith (value start : String) : Bool := start.toList.isPrefixOf value.toList

/-- The checks of `S3CompatibleStore::list_objects`. -/
def listable (keyPrefix : String) (startAfter : Option String) (maxKeys : Nat) : Bool :=
  (keyPrefix == "raw/" || keyPrefix == "media/") && maxKeys != 0 && decide (maxKeys ≤ 1000) &&
    startAfter.all fun cursor =>
      decide (cursor.utf8ByteSize ≤ 1024) && startsWith cursor keyPrefix

namespace S3CompatibleStore

variable (s3 : S3CompatibleStore)

/-- `presign_put`. -/
def presignPut (key : ObjectKey) (contentLength : Nat) : Action ObjectStoreError PresignedUpload := do
  Attempt.ensure (i64TryFrom contentLength).isSome
    (.invalidRequest "content length exceeds S3 range")
  Attempt.mapError .backend
    (Attempt.ofProgram (Program.request (Ask.presignPut s3.bucket key.asStr contentLength)))

/-- `create_multipart`. -/
def createMultipart (key : ObjectKey) : Action ObjectStoreError String := do
  let uploadId ← sent (.createMultipartUpload s3.bucket key.asStr)
  Attempt.okOr uploadId (.backend "storage returned no multipart upload id")

/-- `presign_part`. -/
def presignPart (key : ObjectKey) (uploadId : String) (partNumber contentLength : Nat) :
    Action ObjectStoreError PresignedUpload := do
  Attempt.ofExcept (checkPresignPart partNumber contentLength)
  Attempt.mapError .backend
    (Attempt.ofProgram (Program.request
      (Ask.presignPart s3.bucket key.asStr uploadId partNumber contentLength)))

/-- `complete_multipart`. -/
def completeMultipart (key : ObjectKey) (uploadId : String) (parts : List CompletedPart) :
    Action ObjectStoreError Unit := do
  Attempt.ofExcept (validateCompletedParts parts)
  sent (.completeMultipartUpload s3.bucket key.asStr uploadId parts)

/-- A session that is not there any more counts as aborted. -/
def abortOutcome : Except ProviderError Unit → Except ObjectStoreError Unit
  | .ok () => .ok ()
  | .error .noSuchUpload => .ok ()
  | .error error => .error (backendError error)

/-- `abort_multipart`. -/
def abortMultipart (key : ObjectKey) (uploadId : String) : Action ObjectStoreError Unit :=
  Attempt.ofProgram
    ((Program.request (Ask.provider (.abortMultipartUpload s3.bucket key.asStr uploadId))).bind
      fun answer => .done (abortOutcome answer))

/-- What a `head` comes to. -/
def headOutcome : Except ProviderError (Option Int) → Except ObjectStoreError Nat
  | .ok length =>
      match reportedLength length with
      | some contentLength => .ok contentLength
      | none => .error (.backend "storage returned a negative content length")
  | .error .notFound => .error .notFound
  | .error error => .error (backendError error)

/-- `head`: the object's length. -/
def head (key : ObjectKey) : Action ObjectStoreError Nat :=
  Attempt.ofProgram ((Program.request (Ask.provider (.headObject s3.bucket key.asStr))).bind
    fun answer => .done (headOutcome answer))

/-- Why a download of `expectedLength` bytes stops at the response header. -/
def downloadOutcome (expectedLength : Nat) :
    Except ProviderError (Option Int) → Except ObjectStoreError Unit
  | .ok length =>
      if length.bind u64TryFrom = some expectedLength then .ok () else .error .contentLengthMismatch
  | .error .noSuchKey => .error .notFound
  | .error error => .error (backendError error)

/-- `download_to` a private file of the job. -/
def downloadTo (key : ObjectKey) (destination : JobFile) (expectedLength maxLength : Nat) :
    Action ObjectStoreError Unit := do
  Attempt.ensure (expectedLength != 0 && decide (expectedLength ≤ maxLength))
    (.invalidRequest "download length violates the worker byte cap")
  let answer ← Attempt.lift (Program.request (Ask.provider (.getObject s3.bucket key.asStr)))
  Attempt.ofExcept (downloadOutcome expectedLength answer)
  let saved ← host (.saveDownload destination)
  Attempt.ofExcept saved

/-- `put_file`: the length of the file stored. -/
def putFile (key : ObjectKey) (file : JobFile) (contentType : String) :
    Action ObjectStoreError Nat := do
  Attempt.ensure (!contentType.isEmpty && decide (contentType.utf8ByteSize ≤ 255))
    (.invalidRequest "derivative content type is invalid")
  let length ← host (.fileLength file)
  let contentLength ← Attempt.okOr length (.backend "file metadata is unavailable")
  Attempt.ensure (contentLength != 0)
    (.invalidRequest "derivative source must be a non-empty regular file")
  Attempt.ensure (i64TryFrom contentLength).isSome
    (.invalidRequest "derivative length exceeds S3 range")
  sent (.putObject s3.bucket key.asStr contentLength)
  return contentLength

/-- `list_objects`. -/
def listObjects (keyPrefix : String) (startAfter : Option String) (maxKeys : Nat) :
    Action ObjectStoreError ListedObjectsPage := do
  Attempt.ensure (listable keyPrefix startAfter maxKeys)
    (.invalidRequest "inventory request violates prefix, cursor, or page bounds")
  let output ← sent (.listObjectsV2 s3.bucket keyPrefix startAfter maxKeys)
  Attempt.ofExcept (listedPage output)

/-- `delete`. -/
def delete (key : ObjectKey) : Action ObjectStoreError Unit :=
  sent (.deleteObject s3.bucket key.asStr)

end S3CompatibleStore

end MediaBooster.Service
