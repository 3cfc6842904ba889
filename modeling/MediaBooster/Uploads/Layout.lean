/-
# Uploads.Layout -- the parts of a multipart upload

Four places know how a file is cut into parts: the plan of the batch, the service that signs
parts and checks the completed list, the adapter that checks it again, and the browser that
cuts the file.  All of them are compared here with the chunks of `Theory.Chunks`.

* `expectedPartLength_eq_some`, `validateCompletion_ok`, `checkPresignPart_ok`: what each
  place accepts.
* `presignRequest_accepts`: the service signs a part exactly when it is one of the layout.
* `browser_agrees`: what the browser cuts tiles the file and is what the server expects.
* `plan_completable`: a planned upload can be finished exactly when it has at most 10000 parts
  and none is longer than the provider takes.
-/
import Mathlib.Algebra.Order.BigOperators.Group.List
import MediaBooster.Config.Settings
import MediaBooster.Service.Uploads
import MediaBooster.Theory.Chunks

namespace MediaBooster.Uploads

set_option autoImplicit false

open MediaBooster.Config MediaBooster.Domain MediaBooster.Service MediaBooster.Storage
open MediaBooster.Store MediaBooster.Theory.Chunks MediaBooster.Theory.Threads
open MediaBooster.Theory.Transaction

/-! ## What the server accepts -/

section Server

variable {size partSize number length : Nat}

theorem divCeil_eq : divCeil size partSize = chunkCount size partSize := rfl

/-- **The length of a part.** -/
theorem expectedPartLength_eq_some (bounded : size < 2 ^ 64) :
    expectedPartLength size partSize number = some length ↔
      0 < size ∧ 0 < partSize ∧ (1 ≤ number ∧ number ≤ chunkCount size partSize) ∧
        number ≤ 10000 ∧ length = min (size - (number - 1) * partSize) partSize := by
  unfold expectedPartLength
  split
  · rename_i refused
    constructor
    · exact nofun
    · rintro ⟨_, _, ⟨_, _⟩, _, _⟩
      omega
  · rename_i accepted
    have positive : 0 < partSize := by omega
    have inside : number ≤ chunkCount size partSize ↔ (number - 1) * partSize < size := by
      rw [← lt_chunkCount positive]
      omega
    rw [inside]
    cases multiplied : u64CheckedMul (number - 1) partSize with
    | none =>
        have beyond : ¬ (number - 1) * partSize < 2 ^ 64 := by
          intro fits
          rw [u64CheckedMul_eq_some.2 ⟨rfl, fits⟩] at multiplied
          cases multiplied
        constructor
        · exact nofun
        · rintro ⟨_, _, ⟨_, starts⟩, _⟩
          exact absurd (starts.trans bounded) beyond
    | some start =>
        obtain ⟨rfl, -⟩ := u64CheckedMul_eq_some.1 multiplied
        show (if size ≤ (number - 1) * partSize then none else some _) = some length ↔ _
        split
        · constructor
          · exact nofun
          · rintro ⟨_, _, ⟨_, starts⟩, _⟩
            omega
        · rw [Option.some.injEq]
          constructor
          · intro same
            exact ⟨by omega, positive, ⟨by omega, by omega⟩, by omega, same.symm⟩
          · rintro ⟨_, _, _, _, rfl⟩
            rfl

/-- An entity tag the server takes. -/
def validEtag (etag : String) : Bool :=
  !etag.isEmpty && decide (etag.utf8ByteSize ≤ 1024) && allChars isAsciiGraphic etag

theorem completionPart_iff {index : Nat} {part : CompletedPart} :
    completionPart index part = true ↔
      part.partNumber = index + 1 ∧ index + 1 < 2 ^ 16 ∧ validEtag part.etag = true := by
  have number : u16TryFrom ((index : Int) + 1) = some part.partNumber ↔
      part.partNumber = index + 1 ∧ index + 1 < 2 ^ 16 := by
    rw [u16TryFrom_eq_some]
    omega
  rw [completionPart, Bool.and_assoc, Bool.and_assoc, Bool.and_eq_true, decide_eq_true_eq, number,
    validEtag, Bool.and_assoc, and_assoc]

/-- Parts numbered from 1 on. -/
theorem zipIdx_numbered {parts : List CompletedPart} {first : Nat} :
    (∀ pair ∈ parts.zipIdx first, pair.1.partNumber = pair.2 + 1) ↔
      parts.map CompletedPart.partNumber = (List.range' first parts.length).map (· + 1) := by
  induction parts generalizing first with
  | nil => simp
  | cons part parts ih =>
      rw [List.zipIdx_cons, List.forall_mem_cons, ih, List.length_cons, List.range'_succ,
        List.map_cons, List.map_cons, List.cons.injEq]

/-- **The completed lists the server takes.** -/
theorem validateCompletion_ok {parts : List CompletedPart} :
    validateCompletion size partSize parts = .ok () ↔
      0 < size ∧ 0 < partSize ∧ chunkCount size partSize ≤ 10000 ∧
        parts.map CompletedPart.partNumber =
          (List.range (chunkCount size partSize)).map (· + 1) ∧
        ∀ part ∈ parts, validEtag part.etag = true := by
  unfold validateCompletion
  rw [divCeil_eq]
  split
  · constructor
    · exact nofun
    · rintro ⟨_, _, _⟩
      omega
  rename_i positive
  -- The members of the indexed list are the parts with their positions.
  have indexed : (parts.zipIdx.all fun pair => completionPart pair.2 pair.1) = true ↔
      (∀ pair ∈ parts.zipIdx, pair.1.partNumber = pair.2 + 1 ∧ pair.2 + 1 < 2 ^ 16) ∧
        ∀ part ∈ parts, validEtag part.etag = true := by
    rw [List.all_eq_true]
    constructor
    · intro all
      refine ⟨fun pair member => ?_, fun part member => ?_⟩
      · obtain ⟨numbered, within, -⟩ := completionPart_iff.1 (all pair member)
        exact ⟨numbered, within⟩
      · obtain ⟨index, inside, rfl⟩ := List.mem_iff_getElem.1 member
        have pair : (parts[index], index) ∈ parts.zipIdx := by
          rw [List.mem_zipIdx_iff_getElem?]
          exact List.getElem?_eq_getElem inside
        exact (completionPart_iff.1 (all _ pair)).2.2
    · rintro ⟨numbered, tagged⟩ pair member
      obtain ⟨number, within⟩ := numbered pair member
      exact completionPart_iff.2 ⟨number, within, tagged _ (List.fst_mem_of_mem_zipIdx member)⟩
  have positions : ∀ pair ∈ parts.zipIdx, pair.2 < parts.length := fun pair member =>
    List.snd_lt_of_mem_zipIdx member
  split
  · rename_i refused
    constructor
    · exact nofun
    · rintro ⟨_, _, capped, numbered, tagged⟩
      have counted : parts.length = chunkCount size partSize := by
        simpa using congrArg List.length numbered
      rcases refused with beyond | short | mismatch
      · omega
      · exact absurd counted short
      · refine absurd (indexed.2 ⟨fun pair member => ?_, tagged⟩) mismatch
        rw [← counted, List.range_eq_range'] at numbered
        have bound := positions pair member
        exact ⟨zipIdx_numbered.2 numbered pair member, by omega⟩
  · rename_i accepted
    rw [not_or, not_or, not_not, not_not] at accepted
    obtain ⟨capped, counted, all⟩ := accepted
    obtain ⟨numbered, tagged⟩ := indexed.1 all
    refine ⟨fun _ => ⟨by omega, by omega, by omega, ?_, tagged⟩, fun _ => rfl⟩
    rw [← counted, List.range_eq_range']
    exact zipIdx_numbered.1 fun pair member => (numbered pair member).1

/-- **The parts the adapter signs.** -/
theorem checkPresignPart_ok :
    checkPresignPart number length = .ok () ↔
      (1 ≤ number ∧ number ≤ 10000) ∧ 0 < length ∧ (length : Int) ≤ i64Max := by
  have fits : (i64TryFrom length).isNone ↔ ¬ (length : Int) ≤ i64Max := by
    unfold i64TryFrom
    split <;> simp_all
  unfold checkPresignPart
  split
  · simp only [reduceCtorEq, false_iff]
    omega
  split
  · simp only [reduceCtorEq, false_iff]
    omega
  split
  · rename_i long
    simp only [reduceCtorEq, false_iff]
    rintro ⟨_, _, short⟩
    exact fits.1 long short
  · rename_i short
    rw [fits, not_not] at short
    simp only [true_iff]
    exact ⟨by omega, by omega, short⟩

/-- Every completed list the service takes the adapter takes. -/
theorem validateCompletedParts_of_completion {parts : List CompletedPart}
    (complete : validateCompletion size partSize parts = .ok ()) :
    validateCompletedParts parts = .ok () := by
  obtain ⟨nonempty, positive, capped, numbered, tagged⟩ := validateCompletion_ok.1 complete
  have counted : parts.length = chunkCount size partSize := by
    simpa using congrArg List.length numbered
  have some := chunkCount_pos positive nonempty
  -- From any part on, the numbers go up by one from the number before.
  have ordered : ∀ previous count : Nat, ∀ rest : List CompletedPart,
      rest.map CompletedPart.partNumber = (List.range' previous count).map (· + 1) →
        (∀ part ∈ rest, validEtag part.etag = true) → orderedParts previous rest = true := by
    intro previous count rest
    induction rest generalizing previous count with
    | nil => exact fun _ _ => rfl
    | cons part rest ih =>
        intro numbers tags
        cases count with
        | zero => cases numbers
        | succ count =>
            rw [List.range'_succ, List.map_cons, List.map_cons, List.cons.injEq] at numbers
            have tag := tags part List.mem_cons_self
            simp only [validEtag, Bool.and_eq_true] at tag
            have later := ih (previous + 1) count numbers.2 fun other member =>
              tags other (List.mem_cons_of_mem _ member)
            simp only [orderedParts, Bool.and_eq_true, bne_iff_ne, decide_eq_true_eq]
            rw [numbers.1]
            exact ⟨⟨⟨⟨by omega, by omega⟩, tag.1.1⟩, by simpa using tag.1.2⟩, later⟩
  unfold validateCompletedParts
  rw [if_neg, if_neg]
  · rw [List.range_eq_range'] at numbered
    rw [ordered 0 _ parts numbered tagged]
    decide
  · rw [List.isEmpty_iff_length_eq_zero]
    omega

end Server

/-! ## Signing a part -/

/-- A request to sign a part of a stored multipart reservation, and how the ports answer. -/
structure PresignRequest (size partSize : Nat) where
  tenantId : String
  uploadId : UploadId
  stored : StoredUploadReservation
  session : String
  reply : (ask : Ask) → Answer ask
  tenant : tenantIsValid tenantId = true
  found : reply (.store (.findUpload tenantId uploadId)) = .ok (some stored)
  expected : stored.expectedSizeBytes = size
  transfer : stored.transfer = .multipart partSize
  opened : stored.multipartUploadId = some session
  created : stored.state = .created
  signs : ∀ bucket key uploadId number length,
    ∃ url, reply (.presignPart bucket key uploadId number length) = .ok url

/-- Whether the service signs the part. -/
def PresignRequest.accepts {size partSize : Nat} (request : PresignRequest size partSize)
    (service : UploadIntentService) (number length : Nat) : Bool :=
  ((service.presignPart request.tenantId request.uploadId number length).attempt.replay
    request.reply).toBool

/-- **A part is signed exactly when the layout has it and the adapter takes it.** -/
theorem presignRequest_accepts {size partSize : Nat} (request : PresignRequest size partSize)
    (service : UploadIntentService) (number length : Nat) :
    request.accepts service number length = true ↔
      expectedPartLength size partSize number = some length ∧
        checkPresignPart number length = .ok () := by
  obtain ⟨url, signed⟩ := request.signs service.objectStore.bucket request.stored.objectKey.asStr
    request.session number length
  have layout : multipartLayout request.stored = .ok (partSize, request.session) := by
    unfold multipartLayout
    rw [request.transfer, request.opened]
  unfold PresignRequest.accepts
  simp only [UploadIntentService.presignPart, UploadIntentService.findStored,
    S3CompatibleStore.presignPart, call, Attempt.attempt_bind, Attempt.attempt_ensure,
    Attempt.attempt_mapError, Attempt.attempt_ofProgram, Attempt.attempt_okOr,
    Attempt.attempt_ofExcept, Program.replay_bind, Program.replay_done, Program.replay_request,
    request.tenant, request.found, layout, request.created, request.expected, if_true,
    mapError_ok, Option.elim, Attempt.settle_ok, beq_self_eq_true]
  by_cases expected : expectedPartLength size partSize number = some length
  · cases checked : checkPresignPart number length with
    | ok => simp [expected, signed, Except.toBool]
    | error e => simp [expected, Except.toBool]
  · simp [expected, Except.toBool]

/-- Every request has an answer. -/
theorem answer_nonempty (ask : Ask) : Nonempty (Answer ask) := by
  cases ask with
  | now => exact ⟨sampleTime 0⟩
  | drawId => exact ⟨sampleUploadId.uuid⟩
  | store op => exact ⟨(op.call .migrated).1⟩
  | provider request => exact ⟨.error .noSuchUpload⟩
  | presignPut => exact ⟨.ok ""⟩
  | presignPart => exact ⟨.ok ""⟩
  | host request =>
      cases request with
      | heartbeats => exact ⟨(0 : Nat)⟩
      | acquire | createJobDirectory | detectFile => exact ⟨true⟩
      | saveDownload => exact ⟨.ok ()⟩
      | sha256File => exact ⟨(none : Option String)⟩
      | fileLength | copyWatermarkAsset => exact ⟨(none : Option Nat)⟩
      | inspect => exact ⟨(.error .timeout : Except SandboxProbeError MediaInspection)⟩
      | imageMaster | renderThumbnail => exact ⟨.ok ()⟩

open Classical in
/-- A reservation of any size can be asked for. -/
theorem presignRequest_exists (size partSize : Nat) : Nonempty (PresignRequest size partSize) := by
  let stored : StoredUploadReservation :=
    ⟨sampleUploadId, sampleRow.objectKey, size, .created, .multipart partSize, some "session"⟩
  let base : (ask : Ask) → Answer ask := fun ask =>
    match ask with
    | .presignPart .. => .ok ""
    | ask => (answer_nonempty ask).some
  let find : Ask := .store (.findUpload "g5" sampleUploadId)
  let reply : (ask : Ask) → Answer ask := Function.update base find (.ok (some stored))
  refine ⟨⟨"g5", sampleUploadId, stored, "session", reply, by decide, ?_, rfl, rfl, rfl, rfl, ?_⟩⟩
  · exact Function.update_self find _ base
  · intro bucket key uploadId number length
    refine ⟨"", ?_⟩
    exact Function.update_of_ne (by simp [find]) _ base

/-! ## The browser -/

/-- `Number.isSafeInteger` of a natural number. -/
def isSafeInteger (value : Nat) : Bool := decide (value ≤ 2 ^ 53 - 1)

/-- A file `prepareFiles` lets through. -/
def preparedFile (fileSize : Nat) : Bool := decide (0 < fileSize) && isSafeInteger fileSize

/-- One slice the browser cuts. -/
structure Slice where
  partNumber : Nat
  start : Nat
  stop : Nat
deriving DecidableEq

/-- Its place in the file. -/
def Slice.interval (slice : Slice) : Nat × Nat := (slice.start, slice.stop)

/-- `blob.size`. -/
def Slice.length (slice : Slice) : Nat := slice.stop - slice.start

/-- `file.slice(start, end)` of a part.  The sum can pass the safe integers only when it also
passes the size of the file, and then the minimum is that size. -/
def sliceOf (fileSize partSize partNumber : Nat) : Slice where
  partNumber := partNumber
  start := (partNumber - 1) * partSize
  stop := min fileSize ((partNumber - 1) * partSize + partSize)

/-- The slices of `MultiUploader.uploadMultipart`; `divide` is the division of two numbers. -/
def uploadMultipart (divide : Nat → Nat → ℚ) (fileSize partSize : Nat) :
    Except String (List Slice) :=
  if !isSafeInteger partSize || decide (partSize < 5 * 1024 * 1024) then
    .error "multipart instruction has an invalid part size"
  else
    let partCount := ⌈divide fileSize partSize⌉₊
    if partCount < 1 ∨ 10000 < partCount then
      .error "multipart part count is outside the provider limit"
    else .ok (((List.range partCount).map (· + 1)).map (sliceOf fileSize partSize))

section Browser

variable {divide : Nat → Nat → ℚ} {size partSize : Nat}

/-- When the browser cuts a file, and how. -/
theorem uploadMultipart_ok (rounds : RoundsToDouble divide) (prepared : preparedFile size = true)
    {slices : List Slice} :
    uploadMultipart divide size partSize = .ok slices ↔
      (partSize ≤ 2 ^ 53 - 1 ∧ 5 * 1024 * 1024 ≤ partSize ∧ chunkCount size partSize ≤ 10000) ∧
        slices = ((List.range (chunkCount size partSize)).map (· + 1)).map
          (sliceOf size partSize) := by
  simp only [preparedFile, isSafeInteger, Bool.and_eq_true, decide_eq_true_eq] at prepared
  unfold uploadMultipart
  split
  · rename_i refused
    simp only [isSafeInteger, Bool.or_eq_true, Bool.not_eq_true', decide_eq_false_iff_not,
      decide_eq_true_eq] at refused
    simp only [reduceCtorEq, false_iff]
    omega
  · rename_i accepted
    simp only [isSafeInteger, Bool.or_eq_true, Bool.not_eq_true', decide_eq_false_iff_not,
      decide_eq_true_eq, not_or] at accepted
    have positive : 0 < partSize := by omega
    have count := ceil_divide rounds positive (n := size) (by omega)
    have some := chunkCount_pos positive prepared.1
    show (if _ then _ else _) = _ ↔ _
    rw [count]
    split
    · simp only [reduceCtorEq, false_iff]
      omega
    · rw [Except.ok.injEq, eq_comm (b := slices)]
      constructor
      · exact fun same => ⟨⟨by omega, by omega, by omega⟩, same⟩
      · exact fun cut => cut.2

/-- **The browser and the server agree on the layout.**  Take any file the browser prepares and
any part size the server can issue with at most 10000 parts.  The browser refuses it only where
the part size is no safe integer.  The slices it cuts tile the file; the server takes the
completed list exactly when it has their numbers, in their order, with valid entity tags; it
expects their lengths and signs exactly them; and what it takes, the adapter takes. -/
theorem browser_agrees (rounds : RoundsToDouble divide) (prepared : preparedFile size = true)
    (issued : 5 * 1024 * 1024 ≤ partSize) (capped : divCeil size partSize ≤ 10000) :
    ((∃ slices, uploadMultipart divide size partSize = .ok slices) ↔
        isSafeInteger partSize = true) ∧
      ∀ slices, uploadMultipart divide size partSize = .ok slices →
        Tiles 0 (slices.map Slice.interval) size ∧
        (∀ parts, validateCompletion size partSize parts = .ok () ↔
          parts.map CompletedPart.partNumber = slices.map Slice.partNumber ∧
            ∀ part ∈ parts, validEtag part.etag = true) ∧
        (∀ slice ∈ slices,
          expectedPartLength size partSize slice.partNumber = some slice.length) ∧
        (∀ (request : PresignRequest size partSize) (service : UploadIntentService)
            (number length : Nat), request.accepts service number length = true ↔
          ∃ slice ∈ slices, slice.partNumber = number ∧ slice.length = length) ∧
        ∀ parts, validateCompletion size partSize parts = .ok () →
          validateCompletedParts parts = .ok () := by
  rw [divCeil_eq] at capped
  have sizes := prepared
  simp only [preparedFile, isSafeInteger, Bool.and_eq_true, decide_eq_true_eq] at sizes
  have positive : 0 < partSize := by omega
  have bounded : size < 2 ^ 64 := by omega
  constructor
  · simp only [uploadMultipart_ok rounds prepared, isSafeInteger, decide_eq_true_eq]
    exact ⟨fun ⟨_, cut, _⟩ => cut.1, fun safe => ⟨_, ⟨safe, issued, capped⟩, rfl⟩⟩
  intro slices cut
  obtain ⟨-, rfl⟩ := (uploadMultipart_ok rounds prepared).1 cut
  have numbers : (((List.range (chunkCount size partSize)).map (· + 1)).map
      (sliceOf size partSize)).map Slice.partNumber =
        (List.range (chunkCount size partSize)).map (· + 1) := by
    rw [List.map_map, List.map_map]
    rfl
  have members : ∀ slice, slice ∈ ((List.range (chunkCount size partSize)).map (· + 1)).map
      (sliceOf size partSize) ↔
        ∃ index < chunkCount size partSize, slice = sliceOf size partSize (index + 1) := by
    intro slice
    simp only [List.mem_map, List.mem_range]
    constructor
    · rintro ⟨_, ⟨index, inside, rfl⟩, rfl⟩
      exact ⟨index, inside, rfl⟩
    · rintro ⟨index, inside, rfl⟩
      exact ⟨index + 1, ⟨index, inside, rfl⟩, rfl⟩
  have lengths : ∀ index < chunkCount size partSize,
      (sliceOf size partSize (index + 1)).length = min (size - index * partSize) partSize :=
    fun index inside => (chunk_length positive ((lt_chunkCount positive).1 inside)).2
  have expects : ∀ index < chunkCount size partSize,
      expectedPartLength size partSize (index + 1) =
        some (sliceOf size partSize (index + 1)).length := by
    intro index inside
    rw [expectedPartLength_eq_some bounded, lengths index inside, Nat.add_sub_cancel]
    exact ⟨sizes.1, positive, ⟨by omega, inside⟩, by omega, rfl⟩
  refine ⟨?_, ?_, ?_, ?_, fun parts => validateCompletedParts_of_completion⟩
  · rw [List.map_map, List.map_map]
    exact tiles_chunks positive
  · intro parts
    rw [validateCompletion_ok, numbers]
    exact ⟨fun taken => taken.2.2.2, fun listed => ⟨sizes.1, positive, capped, listed⟩⟩
  · intro slice member
    obtain ⟨index, inside, rfl⟩ := (members slice).1 member
    exact expects index inside
  · intro request service number length
    rw [presignRequest_accepts]
    constructor
    · rintro ⟨expected, -⟩
      obtain ⟨-, -, ⟨first, last⟩, -, rfl⟩ := (expectedPartLength_eq_some bounded).1 expected
      have inside : number - 1 < chunkCount size partSize := by omega
      have same : number - 1 + 1 = number := by omega
      refine ⟨_, (members _).2 ⟨number - 1, inside, rfl⟩, same, ?_⟩
      exact lengths (number - 1) inside
    · rintro ⟨slice, member, rfl, rfl⟩
      obtain ⟨index, inside, rfl⟩ := (members slice).1 member
      refine ⟨expects index inside, checkPresignPart_ok.2 ⟨⟨?_, ?_⟩, ?_, ?_⟩⟩
      · exact Nat.le_add_left 1 index
      · show index + 1 ≤ 10000
        omega
      · have starts := (lt_chunkCount positive).1 inside
        rw [lengths index inside]
        omega
      · rw [lengths index inside]
        simp only [i64Max]
        omega

/-- A file of one full part and one byte. -/
theorem browser_agrees_tail :
    ∃ slices, uploadMultipart (fun a b => (a : ℚ) / b) 5242881 5242880 = .ok slices ∧
      Tiles 0 (slices.map Slice.interval) 5242881 := by
  have prepared : preparedFile 5242881 = true := by decide
  have issued : 5 * 1024 * 1024 ≤ 5242880 := by decide
  obtain ⟨cuts, agrees⟩ := browser_agrees roundsToDouble_exact prepared issued (by decide)
  obtain ⟨slices, cut⟩ := cuts.2 (by decide)
  exact ⟨slices, cut, (agrees slices cut).1⟩

end Browser

/-! ## Every planned upload -/

/-- The provider's limits on a part of a layout: 5 GiB, and 5 MiB for all but the last. -/
def withinPartLimits (size partSize number length : Nat) : Prop :=
  length ≤ 5 * 1024 * 1024 * 1024 ∧
    (number < divCeil size partSize → 5 * 1024 * 1024 ≤ length)

/-- An upload that can be finished: every part of it is signed with a length the provider takes,
and some completed list is accepted. -/
structure Completable (service : UploadIntentService) (size partSize : Nat) : Prop where
  presigned : ∀ number, 1 ≤ number → number ≤ divCeil size partSize →
    ∃ length, withinPartLimits size partSize number length ∧
      ∀ request : PresignRequest size partSize, request.accepts service number length = true
  completed : ∃ parts, validateCompletion size partSize parts = .ok ()

/-- A member of a list zipped with its image. -/
theorem zip_map_mem {α β : Type} {f : α → β} {items : List α} {a : α} {b : β}
    (member : (a, b) ∈ items.zip (items.map f)) : a ∈ items ∧ b = f a := by
  induction items with
  | nil => cases member
  | cons item items ih =>
      rw [List.map_cons, List.zip_cons_cons, List.mem_cons, Prod.mk.injEq] at member
      rcases member with ⟨rfl, rfl⟩ | later
      · exact ⟨List.mem_cons_self, rfl⟩
      · exact ⟨List.mem_cons_of_mem _ (ih later).1, (ih later).2⟩

/-- What makes an upload completable. -/
theorem completable_iff {service : UploadIntentService} {size partSize : Nat} (nonempty : 0 < size)
    (stored : (size : Int) ≤ i64Max) (issued : 5 * 1024 * 1024 ≤ partSize) :
    Completable service size partSize ↔
      divCeil size partSize ≤ 10000 ∧ min size partSize ≤ 5 * 1024 * 1024 * 1024 := by
  have positive : 0 < partSize := by omega
  have bounded : size < 2 ^ 64 := by
    simp only [i64Max] at stored
    omega
  have some := chunkCount_pos positive nonempty
  constructor
  · rintro ⟨presigned, parts, completed⟩
    refine ⟨(validateCompletion_ok.1 completed).2.2.1, ?_⟩
    obtain ⟨length, ⟨short, -⟩, accepted⟩ := presigned 1 le_rfl some
    obtain ⟨request⟩ := presignRequest_exists size partSize
    obtain ⟨expected, -⟩ := (presignRequest_accepts request service 1 length).1 (accepted request)
    obtain ⟨-, -, -, -, rfl⟩ := (expectedPartLength_eq_some bounded).1 expected
    omega
  · rintro ⟨capped, short⟩
    constructor
    · intro number first last
      have starts : (number - 1) * partSize < size :=
        (lt_chunkCount positive).1 (by rw [divCeil_eq] at last; omega)
      refine ⟨min (size - (number - 1) * partSize) partSize, ⟨by omega, fun inner => ?_⟩,
        fun request => ?_⟩
      · -- A part that is not the last one is full.
        have next : number * partSize < size := (lt_chunkCount positive).1 inner
        have step : number * partSize = (number - 1) * partSize + partSize := by
          rw [← Nat.succ_mul]
          congr 1
          omega
        omega
      · rw [presignRequest_accepts, expectedPartLength_eq_some bounded, checkPresignPart_ok]
        refine ⟨⟨nonempty, positive, ⟨first, last⟩, by omega, rfl⟩, ⟨first, by omega⟩, by omega, ?_⟩
        omega
    · refine ⟨((List.range (chunkCount size partSize)).map (· + 1)).map fun number =>
        ⟨number, "etag"⟩, validateCompletion_ok.2 ⟨nonempty, positive, capped, ?_, ?_⟩⟩
      · rw [List.map_map]
        exact List.map_id _
      · intro part member
        obtain ⟨number, -, rfl⟩ := List.mem_map.1 member
        show validEtag "etag" = true
        decide

/-- **A planned upload can be finished exactly when it fits the provider.**  Under any accepted
configuration and for any accepted file list, a planned multipart upload is completable if and
only if it has at most 10000 parts and its longest part is at most 5 GiB long. -/
theorem plan_completable {settings : Settings} {service : UploadIntentService}
    {candidates : List UploadCandidate} {transfers : List UploadTransfer}
    (valid : settings.validate = .ok ())
    (planned : settings.batchPolicy.plan candidates = .ok transfers)
    {candidate : UploadCandidate} {partSize : Nat}
    (reserved : (candidate, .multipart partSize) ∈ candidates.zip transfers) :
    Completable service candidate.byteLen partSize ↔
      divCeil candidate.byteLen partSize ≤ 10000 ∧
        min candidate.byteLen partSize ≤ 5 * 1024 * 1024 * 1024 := by
  obtain ⟨rfl, -, issued, bounded, summed⟩ := UploadBatchPolicy.plan_ok planned
  obtain ⟨-, batch⟩ := batchPolicy_bounds valid
  obtain ⟨member, transfer⟩ := zip_map_mem reserved
  have part : partSize = settings.batchPolicy.multipartPartSizeBytes := by
    unfold UploadBatchPolicy.transferOf at transfer
    split at transfer
    · cases transfer
      rfl
    · cases transfer
  have within : candidate.byteLen ≤ settings.batchPolicy.maxBatchBytes := by
    refine le_trans ?_ summed
    exact List.single_le_sum (fun _ _ => Nat.zero_le _) _ (List.mem_map_of_mem member)
  rw [part]
  exact completable_iff (bounded candidate member).1 (by omega) issued

/-- Settings that admit a video of more than 10000 parts. -/
def longVideoSettings : Settings where
  upload :=
    { maxBatchFiles := 100, maxBatchBytes := 60000000000, maxImageBytes := 134217728
      maxVideoBytes := 60000000000, multipartThresholdBytes := 104857600
      multipartPartSizeBytes := 5242880, maxBrowserConnections := 8, maxPartsPerFile := 4
      maxActiveUploadsGlobal := 1000, maxActiveUploadsPerTenant := 200
      maxReservedBytesGlobal := 1099511627776, maxReservedBytesPerTenant := 107374182400 }
  worker :=
    { maxConcurrentJobs := 2, maxConcurrentHeavyImages := 1, maxConcurrentVideos := 1
      nativeThreadsPerJob := 2, imageTimeoutSeconds := 30, videoTimeoutSeconds := 45
      sandboxBinary := "g7mb-sandbox", tempDirectory := "/tmp/g7mb"
      maxTempDiskBytes := 70000000000, leaseSeconds := 120, heartbeatSeconds := 30
      pollIntervalMs := 250, retryDelaySeconds := 10, maxAttempts := 3
      maxSandboxOutputBytes := 65536, metricsBindLoopback := true }

/-- A video one byte longer than 10000 parts of 5 MiB. -/
def longVideo : UploadCandidate := ⟨.video, 52428800001⟩

/-- **A planned upload that cannot be finished.**  The settings are accepted and the video is
planned as a multipart upload, and no service can complete it. -/
theorem longVideo_incompletable :
    longVideoSettings.validate = .ok () ∧
      longVideoSettings.batchPolicy.plan [longVideo] = .ok [.multipart 5242880] ∧
      ∀ service, ¬ Completable service longVideo.byteLen 5242880 := by
  refine ⟨by decide, by decide, fun service completable => ?_⟩
  obtain ⟨parts, completed⟩ := completable.completed
  have capped := (validateCompletion_ok.1 completed).2.2.1
  revert capped
  decide

/-- The service of those settings. -/
def longVideoService : UploadIntentService where
  objectStore := ⟨"raw"⟩
  policy := longVideoSettings.batchPolicy
  capacity := ⟨1000, 200, 1099511627776, 107374182400⟩

/-- Under the same settings a video of two parts can be finished. -/
theorem plan_completable_short : Completable longVideoService 5242881 5242880 := by
  have valid : longVideoSettings.validate = .ok () := by decide
  have planned : longVideoSettings.batchPolicy.plan [⟨.video, 5242881⟩] =
      .ok [.multipart 5242880] := by decide
  exact (plan_completable valid planned List.mem_cons_self).2 (by decide)

end MediaBooster.Uploads
