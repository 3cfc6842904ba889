/-
# Service.Download -- a bounded download into a new file

`download_to` asks the provider for an object, compares the announced length with the expected
one and writes the body into a file that must not be there yet.  The body comes in chunks of
any size, each of which may fail; it is read through a buffer of 64 KiB.  Opening, writing and
flushing the file can fail as well, and so can the removal that cleans up (`Faults`): the source
does not look at its result.

`downloadTo_bounded_iff`: when a call keeps to its bounds.  One that is refused before it opens
the file always does.  One that finds no file there does unless it creates the file, fails
afterwards and cannot remove it.  One that finds a file there fails because of it, and its cleanup
removes the file that was there: only a removal that fails leaves it alone.
-/
import MediaBooster.Service.ObjectStore

namespace MediaBooster.Service

set_option autoImplicit false

open MediaBooster.Domain MediaBooster.Storage

/-! ## What is read and where it goes -/

/-- A chunk of the body, or the failure of reading one. -/
inductive BodyItem
  | chunk (bytes : List UInt8)
  | failure (message : String)
deriving DecidableEq

/-- `GetObjectOutput`. -/
structure GetObjectOutput where
  contentLength : Option Int
  contentType : Option String
  etag : Option String
  body : List BodyItem

/-- `ObjectMetadata`. -/
structure ObjectMetadata where
  contentLength : Nat
  contentType : Option String
  etag : Option String
deriving DecidableEq

/-- `DownloadObjectRequest`, without the key: `u64` lengths. -/
structure DownloadObjectRequest where
  destination : String
  expectedLength : Nat
  maxLength : Nat
  fits : expectedLength < 2 ^ 64
deriving DecidableEq

/-- The files of the machine. -/
abbrev Files := String → Option (List UInt8)

/-- A file gets a content, or goes. -/
def Files.set (files : Files) (path : String) (content : Option (List UInt8)) : Files :=
  fun other => if other = path then content else files other

/-- What goes wrong with the file: opening it, a write after so many bytes of it, the flush, the
removal that cleans up. -/
structure Faults where
  openFails : Option String
  writeFails : Nat → Option (String × Nat)
  flushFails : Option String
  removeFails : Bool

/-- No operation on the file fails before the cleanup. -/
def Faults.Never (faults : Faults) : Prop :=
  faults.openFails = none ∧ (∀ write, faults.writeFails write = none) ∧ faults.flushFails = none

/-- What one `read` returns. -/
inductive ReadResult
  | bytes (read : List UInt8)
  | failed (message : String)
deriving DecidableEq

/-- The size of the buffer. -/
def bufferSize : Nat := 64 * 1024

/-- A chunk as the buffer takes it: full buffers, and what is left. -/
def pieces : Nat → List UInt8 → List (List UInt8)
  | 0, _ => []
  | rounds + 1, bytes =>
      if bytes.isEmpty then []
      else bytes.take bufferSize :: pieces rounds (bytes.drop bufferSize)

/-- The results of the reads up to the end of the body. -/
def reads (body : List BodyItem) : List ReadResult :=
  body.flatMap fun item => match item with
    | .chunk bytes => (pieces bytes.length bytes).map .bytes
    | .failure message => [.failed message]

/-! ## The download -/

/-- The loop of `stream_body_to_new_file`, with its total, what the file holds, and the count of
writes. -/
def streamReads (faults : Faults) (expectedLength maxLength : Nat) :
    List ReadResult → (total : Nat) → (content : List UInt8) → (writes : Nat) →
      Except ObjectStoreError Unit × List UInt8
  | [], total, content, _ =>
      if total ≠ expectedLength then (.error .contentLengthMismatch, content)
      else
        match faults.flushFails with
        | some message => (.error (.backend message), content)
        | none => (.ok (), content)
  | .failed message :: _, _, content, _ => (.error (.backend message), content)
  | .bytes read :: rest, total, content, writes =>
      match u64CheckedAdd total read.length with
      | none => (.error (.backend "download length overflow"), content)
      | some total =>
          if maxLength < total ∨ expectedLength < total then
            (.error .contentLengthMismatch, content)
          else
            match faults.writeFails writes with
            | some (message, written) => (.error (.backend message), content ++ read.take written)
            | none =>
                streamReads faults expectedLength maxLength rest total (content ++ read) (writes + 1)

/-- `stream_body_to_new_file`: its result, the files after it, and the bytes it wrote. -/
def streamBodyToNewFile (faults : Faults) (request : DownloadObjectRequest) (body : List BodyItem)
    (files : Files) : Except ObjectStoreError Unit × Files × List UInt8 :=
  match files request.destination, faults.openFails with
  | some _, _ => (.error (.backend "File exists"), files, [])
  | none, some message => (.error (.backend message), files, [])
  | none, none =>
      let (result, content) :=
        streamReads faults request.expectedLength request.maxLength (reads body) 0 [] 0
      (result, files.set request.destination (some content), content)

/-- The call, the files after it, and the bytes it wrote. -/
structure Downloaded where
  result : Except ObjectStoreError ObjectMetadata
  files : Files
  written : List UInt8

/-- `tokio::fs::remove_file`, with the result that `download_to` drops. -/
def removeFile (faults : Faults) (path : String) (files : Files) : Files :=
  if faults.removeFails then files else files.set path none

/-- `S3CompatibleStore::download_to`, with the provider's answer. -/
def downloadTo (faults : Faults) (request : DownloadObjectRequest)
    (response : Except ProviderError GetObjectOutput) (files : Files) : Downloaded :=
  if request.expectedLength = 0 ∨ request.maxLength < request.expectedLength then
    ⟨.error (.invalidRequest "download length violates the worker byte cap"), files, []⟩
  else
    match S3CompatibleStore.downloadOutcome request.expectedLength
        (response.map GetObjectOutput.contentLength), response with
    | .error error, _ => ⟨.error error, files, []⟩
    | .ok (), .error error => ⟨.error (backendError error), files, []⟩
    | .ok (), .ok output =>
        let metadata : ObjectMetadata :=
          ⟨request.expectedLength, output.contentType, output.etag⟩
        match streamBodyToNewFile faults request output.body files with
        | (.ok (), files, written) => ⟨.ok metadata, files, written⟩
        | (.error error, files, written) =>
            -- the file is removed, whoever made it, if the removal succeeds
            ⟨.error error, removeFile faults request.destination files, written⟩

/-! ## The body as it is read -/

/-- The bytes of a body, in order. -/
def bodyBytes (body : List BodyItem) : List UInt8 :=
  body.flatMap fun item => match item with
    | .chunk bytes => bytes
    | .failure _ => []

/-- No chunk fails. -/
def Unbroken (body : List BodyItem) : Prop := ∀ message, .failure message ∉ body

/-- The bytes of the reads, in order. -/
def readBytes (results : List ReadResult) : List UInt8 :=
  results.flatMap fun result => match result with
    | .bytes read => read
    | .failed _ => []

theorem readBytes_cons (read : List UInt8) (rest : List ReadResult) :
    readBytes (.bytes read :: rest) = read ++ readBytes rest := rfl

/-- The buffer takes a chunk as it is. -/
theorem pieces_flatten : ∀ (rounds : Nat) (bytes : List UInt8), bytes.length ≤ rounds →
    (pieces rounds bytes).flatten = bytes := by
  intro rounds
  induction rounds with
  | zero =>
      intro bytes short
      rw [List.length_eq_zero_iff.1 (Nat.le_zero.1 short)]
      rfl
  | succ rounds ih =>
      intro bytes short
      unfold pieces
      cases bytes with
      | nil => rfl
      | cons byte rest =>
          have size : 0 < bufferSize := by decide
          have shorter : ((byte :: rest).drop bufferSize).length ≤ rounds := by
            rw [List.length_drop]
            omega
          show ((byte :: rest).take bufferSize :: pieces rounds _).flatten = _
          rw [List.flatten_cons, ih _ shorter, List.take_append_drop]

theorem readBytes_reads (body : List BodyItem) : readBytes (reads body) = bodyBytes body := by
  unfold readBytes reads bodyBytes
  rw [List.flatMap_assoc]
  congr 1
  funext item
  cases item with
  | chunk bytes =>
      show ((pieces bytes.length bytes).map ReadResult.bytes).flatMap _ = bytes
      rw [List.flatMap_map]
      show (pieces bytes.length bytes).flatMap id = bytes
      rw [List.flatMap_id, pieces_flatten bytes.length bytes (le_refl _)]
  | failure message => rfl

theorem failed_mem_reads (body : List BodyItem) (message : String) :
    .failed message ∈ reads body ↔ .failure message ∈ body := by
  unfold reads
  rw [List.mem_flatMap]
  constructor
  · rintro ⟨item, member, failed⟩
    cases item with
    | chunk bytes => simp at failed
    | failure other =>
        rw [List.mem_singleton] at failed
        cases failed
        exact member
  · intro member
    exact ⟨_, member, List.mem_singleton_self _⟩

/-! ## The loop -/

section Loop

variable {faults : Faults} {expectedLength maxLength : Nat}

/-- **Nothing beyond the expected length is written**, whatever is read. -/
theorem streamReads_length_le (results : List ReadResult) : ∀ content writes,
    content.length ≤ expectedLength →
      (streamReads faults expectedLength maxLength results content.length content writes).2.length ≤
        expectedLength := by
  induction results with
  | nil =>
      intro content writes within
      unfold streamReads
      split
      · exact within
      · split <;> exact within
  | cons result rest ih =>
      intro content writes within
      cases result with
      | failed message => exact within
      | bytes read =>
          unfold streamReads
          split
          · exact within
          · rename_i total sum
            obtain ⟨rfl, -⟩ := u64CheckedAdd_eq_some.1 sum
            split
            · exact within
            · rename_i limits
              rw [not_or, not_lt, not_lt] at limits
              split
              · rename_i message written _
                have part := List.length_take_le written read
                rw [List.length_append]
                have most : (read.take written).length ≤ read.length := by
                  rw [List.length_take]
                  exact min_le_right _ _
                omega
              · have next := ih (content ++ read) (writes + 1) (by
                  rw [List.length_append]
                  exact limits.2)
                rw [List.length_append] at next
                exact next

/-- **A stream that succeeds wrote the body**, of exactly the expected length. -/
theorem streamReads_ok (results : List ReadResult) : ∀ content writes,
    (streamReads faults expectedLength maxLength results content.length content writes).1 = .ok () →
      (streamReads faults expectedLength maxLength results content.length content writes).2 =
          content ++ readBytes results ∧
        (content ++ readBytes results).length = expectedLength ∧
        ∀ message, .failed message ∉ results := by
  induction results with
  | nil =>
      intro content writes succeeded
      have none : content ++ readBytes [] = content := List.append_nil content
      rw [none]
      unfold streamReads at succeeded ⊢
      split at succeeded
      · cases succeeded
      · rename_i exactly
        rw [not_ne_iff] at exactly
        rw [if_neg (by simpa using exactly)]
        split at succeeded
        · cases succeeded
        · exact ⟨rfl, exactly, fun message => List.not_mem_nil⟩
  | cons result rest ih =>
      intro content writes succeeded
      cases result with
      | failed message => cases succeeded
      | bytes read =>
          unfold streamReads at succeeded ⊢
          split at succeeded
          · cases succeeded
          · rename_i total sum
            obtain ⟨rfl, -⟩ := u64CheckedAdd_eq_some.1 sum
            split at succeeded
            · cases succeeded
            · rename_i limits
              rw [if_neg limits]
              split at succeeded
              · cases succeeded
              · rw [← List.length_append] at succeeded ⊢
                obtain ⟨writes', length, unbroken⟩ := ih (content ++ read) (writes + 1) succeeded
                rw [readBytes_cons, ← List.append_assoc]
                refine ⟨writes', length, fun message member => ?_⟩
                rw [List.mem_cons] at member
                rcases member with head | later
                · cases head
                · exact unbroken message later

/-- A stream that succeeds met no failure of a write or of the flush. -/
theorem streamReads_faultless (results : List ReadResult) : ∀ content writes,
    (streamReads faults expectedLength maxLength results content.length content writes).1 = .ok () →
      (∀ write, writes ≤ write → write < writes + results.length →
        faults.writeFails write = none) ∧ faults.flushFails = none := by
  induction results with
  | nil =>
      intro content writes succeeded
      unfold streamReads at succeeded
      split at succeeded
      · cases succeeded
      · split at succeeded
        · cases succeeded
        · rename_i flushed
          refine ⟨fun write first last => ?_, flushed⟩
          rw [List.length_nil] at last
          omega
  | cons result rest ih =>
      intro content writes succeeded
      cases result with
      | failed message => cases succeeded
      | bytes read =>
          unfold streamReads at succeeded
          split at succeeded
          · cases succeeded
          · rename_i total sum
            obtain ⟨rfl, -⟩ := u64CheckedAdd_eq_some.1 sum
            split at succeeded
            · cases succeeded
            · split at succeeded
              · cases succeeded
              · rename_i written
                rw [← List.length_append] at succeeded
                obtain ⟨later, flushed⟩ := ih (content ++ read) (writes + 1) succeeded
                refine ⟨fun write first last => ?_, flushed⟩
                rw [List.length_cons] at last
                rcases Nat.eq_or_lt_of_le first with rfl | after
                · exact written
                · exact later write after (by omega)

/-- **A whole body of the expected length is taken over.** -/
theorem streamReads_succeeds (flushed : faults.flushFails = none)
    (capped : expectedLength ≤ maxLength) (fits : expectedLength < 2 ^ 64)
    (results : List ReadResult) : ∀ content writes,
    (∀ write, write < writes + results.length → faults.writeFails write = none) →
      (content ++ readBytes results).length = expectedLength →
        (∀ message, .failed message ∉ results) →
          (streamReads faults expectedLength maxLength results content.length content writes).1 =
            .ok () := by
  induction results with
  | nil =>
      intro content writes _ length _
      rw [readBytes, List.flatMap_nil, List.append_nil] at length
      unfold streamReads
      rw [if_neg (by simpa using length), flushed]
  | cons result rest ih =>
      intro content writes written length unbroken
      cases result with
      | failed message => exact absurd List.mem_cons_self (unbroken message)
      | bytes read =>
          rw [readBytes_cons, ← List.append_assoc] at length
          have within : content.length + read.length ≤ expectedLength := by
            rw [List.length_append, List.length_append] at length
            omega
          have sum : u64CheckedAdd content.length read.length =
              some (content.length + read.length) := if_pos (by omega)
          unfold streamReads
          rw [sum]
          dsimp only
          rw [if_neg (by omega), written writes (by rw [List.length_cons]; omega)]
          dsimp only
          rw [← List.length_append]
          refine ih (content ++ read) (writes + 1) (fun write before => ?_) length
            fun message member => unbroken message (List.mem_cons_of_mem _ member)
          refine written write ?_
          rw [List.length_cons]
          omega

end Loop

/-! ## The call -/

/-- What a call needs of the request and the answer to succeed. -/
structure Acceptable (request : DownloadObjectRequest)
    (response : Except ProviderError GetObjectOutput) : Prop where
  positive : 0 < request.expectedLength
  capped : request.expectedLength ≤ request.maxLength
  body : ∃ output, response = .ok output ∧
    output.contentLength = some (request.expectedLength : Int) ∧ Unbroken output.body ∧
    (bodyBytes output.body).length = request.expectedLength

/-- The call gets as far as the file: the lengths are right and the provider answers with them. -/
structure OpensFile (request : DownloadObjectRequest)
    (response : Except ProviderError GetObjectOutput) : Prop where
  positive : 0 < request.expectedLength
  capped : request.expectedLength ≤ request.maxLength
  announced : ∃ output, response = .ok output ∧
    output.contentLength = some (request.expectedLength : Int)

/-- What an acceptable call needs of the file besides: no write of its body and no flush fails. -/
structure Streams (faults : Faults) (request : DownloadObjectRequest)
    (response : Except ProviderError GetObjectOutput) : Prop where
  acceptable : Acceptable request response
  writes : ∀ output, response = .ok output →
    ∀ write, write < (reads output.body).length → faults.writeFails write = none
  flushes : faults.flushFails = none

/-- A call that keeps to its bounds. -/
structure Bounded (faults : Faults) (request : DownloadObjectRequest)
    (response : Except ProviderError GetObjectOutput) (files : Files) : Prop where
  /-- It succeeds exactly on what is acceptable, if the file operations do. -/
  succeeds : faults.Never → files request.destination = none →
    ((∃ metadata, (downloadTo faults request response files).result = .ok metadata) ↔
      Acceptable request response)
  /-- It writes no byte beyond the expected length. -/
  written : (downloadTo faults request response files).written.length ≤ request.expectedLength
  /-- On success the file holds the chunks. -/
  holds : ∀ metadata, (downloadTo faults request response files).result = .ok metadata →
    ∃ output, response = .ok output ∧
      (downloadTo faults request response files).files request.destination =
        some (bodyBytes output.body)
  /-- On an error a file it created is gone again, and one that was there is as it was. -/
  cleans : ∀ error, (downloadTo faults request response files).result = .error error →
    (downloadTo faults request response files).files request.destination =
      files request.destination
  /-- Other files are as they were. -/
  others : ∀ path, path ≠ request.destination →
    (downloadTo faults request response files).files path = files path

theorem Files.set_self (files : Files) (path : String) (content : Option (List UInt8)) :
    files.set path content path = content := if_pos rfl

theorem Files.set_other (files : Files) {path other : String} (apart : other ≠ path)
    (content : Option (List UInt8)) : files.set path content other = files other := if_neg apart

theorem removeFile_self {faults : Faults} (works : faults.removeFails = false) (files : Files)
    (path : String) : removeFile faults path files path = none := by
  unfold removeFile
  rw [works, if_neg (by decide)]
  exact Files.set_self files path none

theorem removeFile_failed {faults : Faults} (fails : faults.removeFails = true) (files : Files)
    (path : String) : removeFile faults path files = files := by
  unfold removeFile
  rw [fails, if_pos rfl]

theorem removeFile_other (faults : Faults) (files : Files) {path other : String}
    (apart : other ≠ path) : removeFile faults path files other = files other := by
  unfold removeFile
  split
  · rfl
  · exact Files.set_other files apart none

/-- A file that is not there is not there afterwards, whatever becomes of the removal. -/
theorem removeFile_none (faults : Faults) {files : Files} {path : String}
    (missing : files path = none) : removeFile faults path files path = none := by
  cases fails : faults.removeFails with
  | false => exact removeFile_self fails files path
  | true => rw [removeFile_failed fails, missing]

/-- The header check goes through exactly on the expected length. -/
theorem downloadOutcome_ok {expectedLength : Nat} (fits : expectedLength < 2 ^ 64)
    {response : Except ProviderError GetObjectOutput} :
    S3CompatibleStore.downloadOutcome expectedLength
        (response.map GetObjectOutput.contentLength) = .ok () ↔
      ∃ output, response = .ok output ∧ output.contentLength = some (expectedLength : Int) := by
  cases response with
  | error error => cases error <;> simp [S3CompatibleStore.downloadOutcome, Except.map]
  | ok output =>
      have announced : output.contentLength.bind u64TryFrom = some expectedLength ↔
          output.contentLength = some (expectedLength : Int) := by
        rw [Option.bind_eq_some_iff]
        constructor
        · rintro ⟨length, reported, converted⟩
          rw [reported, (u64TryFrom_eq_some.1 converted).1]
        · intro reported
          exact ⟨_, reported, u64TryFrom_eq_some.2 ⟨rfl, fits⟩⟩
      show (if output.contentLength.bind u64TryFrom = some expectedLength then _ else _) = _ ↔ _
      by_cases same : output.contentLength = some (expectedLength : Int)
      · rw [if_pos (announced.2 same)]
        simp [same]
      · rw [if_neg fun equal => same (announced.1 equal)]
        simp [same]

section Call

variable {faults : Faults} {request : DownloadObjectRequest}
  {response : Except ProviderError GetObjectOutput} {files : Files}

/-- A call that does not get to the file fails and changes nothing. -/
theorem downloadTo_refused (faults : Faults) (files : Files) (refused : ¬ OpensFile request response) :
    ∃ error, downloadTo faults request response files = ⟨.error error, files, []⟩ := by
  unfold downloadTo
  split
  · exact ⟨_, rfl⟩
  · rename_i lengths
    rw [not_or, not_lt] at lengths
    split
    · exact ⟨_, rfl⟩
    · exact ⟨_, rfl⟩
    · rename_i output header
      exact absurd ⟨Nat.pos_of_ne_zero lengths.1, lengths.2,
        (downloadOutcome_ok request.fits).1 header⟩ refused

/-- A call that gets to the file streams the body into it, and tries to remove the file on an
error. -/
theorem downloadTo_opens (faults : Faults) (files : Files) (opens : OpensFile request response) :
    ∃ output, response = .ok output ∧
      downloadTo faults request response files =
        match streamBodyToNewFile faults request output.body files with
        | (.ok (), files, written) =>
            ⟨.ok ⟨request.expectedLength, output.contentType, output.etag⟩, files, written⟩
        | (.error error, files, written) =>
            ⟨.error error, removeFile faults request.destination files, written⟩ := by
  obtain ⟨output, answered, announced⟩ := opens.announced
  have header := (downloadOutcome_ok request.fits).2 opens.announced
  have positive := opens.positive
  have capped := opens.capped
  refine ⟨output, answered, ?_⟩
  unfold downloadTo
  rw [if_neg (by omega), header, answered]

/-- Finding no file and opening one, the call streams the body into it. -/
theorem streamBodyToNewFile_new (output : GetObjectOutput)
    (new : files request.destination = none) (opened : faults.openFails = none) :
    streamBodyToNewFile faults request output.body files =
      ((streamReads faults request.expectedLength request.maxLength (reads output.body) 0 [] 0).1,
        files.set request.destination (some (streamReads faults request.expectedLength
          request.maxLength (reads output.body) 0 [] 0).2),
        (streamReads faults request.expectedLength request.maxLength
          (reads output.body) 0 [] 0).2) := by
  simp [streamBodyToNewFile, new, opened]

/-- **The stream of an open call succeeds exactly on an acceptable answer whose writes and flush
do not fail.** -/
theorem streams_iff {output : GetObjectOutput} (opens : OpensFile request (.ok output)) :
    (streamReads faults request.expectedLength request.maxLength (reads output.body) 0 [] 0).1 =
        .ok () ↔
      Streams faults request (.ok output) := by
  have wrote :=
    @streamReads_ok faults request.expectedLength request.maxLength (reads output.body) [] 0
  have faultless :=
    @streamReads_faultless faults request.expectedLength request.maxLength (reads output.body) [] 0
  rw [List.length_nil] at wrote faultless
  rw [List.nil_append, readBytes_reads] at wrote
  constructor
  · intro succeeded
    obtain ⟨-, length, unbroken⟩ := wrote succeeded
    obtain ⟨written, flushed⟩ := faultless succeeded
    obtain ⟨output', same, announced⟩ := opens.announced
    cases same
    refine ⟨⟨opens.positive, opens.capped, output, rfl, announced, ?_, length⟩, ?_, flushed⟩
    · intro message member
      exact unbroken message ((failed_mem_reads output.body message).2 member)
    · intro output' same write before
      cases same
      refine written write (Nat.zero_le write) ?_
      rw [Nat.zero_add]
      exact before
  · rintro ⟨⟨-, capped, output', same, -, unbroken, length⟩, written, flushed⟩
    cases same
    refine streamReads_succeeds flushed capped request.fits (reads output.body) [] 0 ?_ ?_ ?_
    · intro write before
      rw [Nat.zero_add] at before
      exact written output rfl write before
    · rw [List.nil_append, readBytes_reads, length]
    · intro message member
      exact unbroken message ((failed_mem_reads output.body message).1 member)

/-- A call that cannot make its file leaves none. -/
theorem bounded_unopened (opens : OpensFile request response)
    (new : files request.destination = none) {message : String}
    (unopened : faults.openFails = some message) : Bounded faults request response files := by
  obtain ⟨output, rfl, call⟩ := downloadTo_opens faults files opens
  have stream : streamBodyToNewFile faults request output.body files =
      (.error (.backend message), files, []) := by
    simp [streamBodyToNewFile, new, unopened]
  rw [stream] at call
  refine ⟨?_, ?_, ?_, ?_, ?_⟩
  · intro never
    rw [never.1] at unopened
    cases unopened
  · rw [call]
    exact Nat.zero_le _
  · intro metadata succeeded
    rw [call] at succeeded
    cases succeeded
  · intro error _
    rw [call, new]
    exact removeFile_none faults new
  · intro path apart
    rw [call]
    exact removeFile_other faults files apart

/-- A call whose stream ends well has the file. -/
theorem bounded_streamed (opens : OpensFile request response)
    (new : files request.destination = none) (opened : faults.openFails = none)
    (streams : Streams faults request response) : Bounded faults request response files := by
  obtain ⟨output, rfl, call⟩ := downloadTo_opens faults files opens
  obtain ⟨done, result⟩ : ∃ done, (streamReads faults request.expectedLength request.maxLength
      (reads output.body) 0 [] 0).1 = .ok done := ⟨(), (streams_iff opens).2 streams⟩
  have short := @streamReads_length_le faults _ request.maxLength
    (reads output.body) [] 0 (Nat.zero_le request.expectedLength)
  have wrote :=
    @streamReads_ok faults request.expectedLength request.maxLength (reads output.body) [] 0
  rw [streamBodyToNewFile_new output new opened] at call
  rw [List.length_nil] at short wrote
  rw [List.nil_append, readBytes_reads] at wrote
  rw [result] at call
  obtain ⟨content, length, unbroken⟩ := wrote result
  refine ⟨?_, ?_, ?_, ?_, ?_⟩
  · intro _ _
    rw [call]
    exact ⟨fun _ => streams.acceptable, fun _ => ⟨_, rfl⟩⟩
  · rw [call]
    exact short
  · intro metadata _
    refine ⟨output, rfl, ?_⟩
    rw [call, ← content]
    exact Files.set_self files _ _
  · intro error failed
    rw [call] at failed
    cases failed
  · intro path apart
    rw [call]
    exact Files.set_other files apart _

/-- A call whose stream breaks removes its file, where it can. -/
theorem bounded_broken (opens : OpensFile request response)
    (new : files request.destination = none) (opened : faults.openFails = none)
    (broken : ¬ Streams faults request response) (works : faults.removeFails = false) :
    Bounded faults request response files := by
  obtain ⟨output, rfl, call⟩ := downloadTo_opens faults files opens
  have short := @streamReads_length_le faults _ request.maxLength
    (reads output.body) [] 0 (Nat.zero_le request.expectedLength)
  rw [streamBodyToNewFile_new output new opened] at call
  rw [List.length_nil] at short
  cases result : (streamReads faults request.expectedLength request.maxLength
      (reads output.body) 0 [] 0).1 with
  | ok done => exact absurd ((streams_iff opens).1 result) broken
  | error error =>
      rw [result] at call
      refine ⟨?_, ?_, ?_, ?_, ?_⟩
      · intro never _
        rw [call]
        constructor
        · rintro ⟨metadata, succeeded⟩
          cases succeeded
        · intro acceptable
          exact absurd ⟨acceptable, fun _ _ write _ => never.2.1 write, never.2.2⟩ broken
      · rw [call]
        exact short
      · intro metadata succeeded
        rw [call] at succeeded
        cases succeeded
      · intro _ _
        rw [call, new]
        exact removeFile_self works _ _
      · intro path apart
        rw [call]
        exact (removeFile_other faults _ apart).trans (Files.set_other files apart _)

/-- **A call that finds no file keeps to its bounds**, unless it has made one, fails and cannot
remove it. -/
theorem bounded_of_new (opens : OpensFile request response)
    (new : files request.destination = none)
    (cleaned : faults.removeFails = false ∨ faults.openFails ≠ none ∨
      Streams faults request response) : Bounded faults request response files := by
  cases opened : faults.openFails with
  | some message => exact bounded_unopened opens new opened
  | none =>
      by_cases streams : Streams faults request response
      · exact bounded_streamed opens new opened streams
      · rcases cleaned with works | failed | succeeds
        · exact bounded_broken opens new opened streams works
        · exact absurd opened failed
        · exact absurd succeeds streams

/-- A call that has made a file, fails and cannot remove it leaves the file there. -/
theorem leaves_file (opens : OpensFile request response)
    (new : files request.destination = none) (opened : faults.openFails = none)
    (fails : faults.removeFails = true) (broken : ¬ Streams faults request response) :
    ¬ Bounded faults request response files := by
  intro bounded
  obtain ⟨output, rfl, call⟩ := downloadTo_opens faults files opens
  rw [streamBodyToNewFile_new output new opened] at call
  cases result : (streamReads faults request.expectedLength request.maxLength
      (reads output.body) 0 [] 0).1 with
  | ok done => exact broken ((streams_iff opens).1 result)
  | error error =>
      rw [result] at call
      dsimp only at call
      have gone := bounded.cleans error (by rw [call])
      rw [call, new] at gone
      dsimp only at gone
      rw [removeFile_failed fails, Files.set_self] at gone
      cases gone

/-- A call that finds a file fails because of it. -/
theorem downloadTo_exists (opens : OpensFile request response) {content : List UInt8}
    (old : files request.destination = some content) :
    downloadTo faults request response files =
      ⟨.error (.backend "File exists"), removeFile faults request.destination files, []⟩ := by
  obtain ⟨output, rfl, call⟩ := downloadTo_opens faults files opens
  have stream : streamBodyToNewFile faults request output.body files =
      (.error (.backend "File exists"), files, []) := by
    simp [streamBodyToNewFile, old]
  rw [call, stream]

/-- **A call that finds a file keeps to its bounds exactly if it cannot remove it.** -/
theorem bounded_of_old (opens : OpensFile request response) {content : List UInt8}
    (old : files request.destination = some content) :
    Bounded faults request response files ↔ faults.removeFails = true := by
  have call : downloadTo faults request response files =
      ⟨.error (.backend "File exists"), removeFile faults request.destination files, []⟩ :=
    downloadTo_exists opens old
  constructor
  · intro bounded
    by_contra works
    rw [Bool.not_eq_true] at works
    have kept := bounded.cleans (.backend "File exists") (by rw [call])
    rw [call, old] at kept
    have gone : removeFile faults request.destination files request.destination = some content :=
      kept
    rw [removeFile_self works] at gone
    cases gone
  · intro fails
    rw [removeFile_failed fails] at call
    refine ⟨?_, ?_, ?_, ?_, ?_⟩
    · intro _ missing
      rw [old] at missing
      cases missing
    · rw [call]
      exact Nat.zero_le _
    · intro metadata succeeded
      rw [call] at succeeded
      cases succeeded
    · intro _ _
      rw [call]
    · intro path _
      rw [call]

/-- A call that is refused before the file is opened keeps to its bounds. -/
theorem bounded_of_refused (refused : ¬ OpensFile request response) :
    Bounded faults request response files := by
  obtain ⟨error, call⟩ := downloadTo_refused faults files refused
  refine ⟨?_, ?_, ?_, ?_, ?_⟩
  · intro _ _
    rw [call]
    constructor
    · rintro ⟨metadata, succeeded⟩
      cases succeeded
    · rintro ⟨positive, capped, output, answered, announced, -⟩
      exact absurd ⟨positive, capped, output, answered, announced⟩ refused
  · rw [call]
    exact Nat.zero_le _
  · intro metadata succeeded
    rw [call] at succeeded
    cases succeeded
  · intro _ _
    rw [call]
  · intro path _
    rw [call]

end Call

/-- **When a download keeps to its bounds**: if the call is refused before it opens the file; or
there is no file at its destination, and the removal works, or the file is not created, or the
body goes into it without a failure; or there is one and the removal fails. -/
theorem downloadTo_bounded_iff (faults : Faults) (request : DownloadObjectRequest)
    (response : Except ProviderError GetObjectOutput) (files : Files) :
    Bounded faults request response files ↔
      ¬ OpensFile request response ∨
        (files request.destination = none ∧
          (faults.removeFails = false ∨ faults.openFails ≠ none ∨
            Streams faults request response)) ∨
        (files request.destination ≠ none ∧ faults.removeFails = true) := by
  by_cases opens : OpensFile request response
  · cases there : files request.destination with
    | none =>
        simp only [opens, not_true_eq_false, true_and, false_or, ne_eq, false_and, or_false]
        constructor
        · intro bounded
          by_contra exposed
          rw [not_or, not_or, not_not, Bool.not_eq_false] at exposed
          exact leaves_file opens there exposed.2.1 exposed.1 exposed.2.2 bounded
        · exact bounded_of_new opens there
    | some content =>
        rw [bounded_of_old opens there]
        simp [opens]
  · exact ⟨fun _ => .inl opens, fun _ => bounded_of_refused opens⟩

/-- Three bytes are asked for and come. -/
def threeBytes : DownloadObjectRequest := ⟨"job/source", 3, 1024, by omega⟩

/-- The provider's answer with them, in two chunks. -/
def threeBytesOutput : GetObjectOutput :=
  ⟨some 3, none, none, [.chunk [1, 2], .chunk [3]]⟩

/-- A disk on which a file of that name was there before. -/
def occupied : Files := fun path => if path = "job/source" then some [7] else none

/-- **A file that was there is removed**: the download fails because of it, and its cleanup takes
it away. -/
theorem download_removes_existing :
    occupied "job/source" = some [7] ∧
      (downloadTo ⟨none, fun _ => none, none, false⟩ threeBytes (.ok threeBytesOutput) occupied).result =
        .error (.backend "File exists") ∧
      (downloadTo ⟨none, fun _ => none, none, false⟩ threeBytes (.ok threeBytesOutput) occupied).files
        "job/source" = none :=
  ⟨rfl, rfl, rfl⟩

end MediaBooster.Service
