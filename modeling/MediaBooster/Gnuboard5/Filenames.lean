/-
# Gnuboard5.Filenames -- the name of a file, in the answer and in the board

A ready upload is named twice: `ReadyAssetValidator` names it for the browser after the content
type of its master, and `linkReady` names the row of the board after the declared kind of its
session.  A page shows the file as a video of the type its extension says.

* `stored_names_agree`: the two names are the same, and the page shows the type of the master,
  unless the master is a QuickTime file.
* `quicktime_stored_as_mp4`: a `.mov` is answered to the browser and an `.mp4` is written.
-/
import MediaBooster.Gnuboard5.Links
import MediaBooster.Theory.Loops

namespace MediaBooster.Gnuboard5

set_option autoImplicit false

open MediaBooster.Domain
open MediaBooster.Theory
open MediaBooster.Theory.Run
open MediaBooster.Theory.Table
open MediaBooster.Gnuboard7 (normalizedFilename extensionOf filenameStem trimName validateDerivative
  validateDerivatives Derivative)

/-! ## The loop of `normalizedFilename` -/

/-- `while (mb_strlen($stem.$suffix, 'UTF-8') > 255)`: a character less on every round. -/
def shorten (suffix : List Char) (rounds : Nat) (stem : List Char) :
    Option (Except Empty (List Char)) :=
  Loops.run (fun stem => decide (255 < (stem ++ suffix).length))
    (fun stem => .ok (stem.take (max 1 (stem.length - 1)))) rounds stem

/-- What the loop begins with. -/
def stemOf (name : String) : List Char :=
  let trimmed := trimName (filenameStem name.toList)
  if trimmed.isEmpty then "media".toList else trimmed

/-- The loop ends, with as much of the stem as the suffix leaves room for. -/
theorem shorten_ends {suffix stem : List Char} (short : suffix.length < 255) :
    shorten suffix (stem.length + 1) stem = some (.ok (stem.take (255 - suffix.length))) := by
  -- what is left is the stem, or a part of it that is still as long as there is room for
  let Keeps (left : List Char) : Prop :=
    left = stem ∨ ∃ n, left = stem.take n ∧ 255 - suffix.length ≤ n
  have keeps : ∀ left next, Keeps left → decide (255 < (left ++ suffix).length) = true →
      (.ok (left.take (max 1 (left.length - 1))) : Except Empty (List Char)) = .ok next →
      Keeps next := by
    rintro left next before goes ⟨⟩
    have long := of_decide_eq_true goes
    rw [List.length_append] at long
    rcases before with rfl | ⟨n, rfl, enough⟩
    · exact .inr ⟨_, rfl, by omega⟩
    · refine .inr ⟨min (max 1 ((stem.take n).length - 1)) n, List.take_take, ?_⟩
      omega
  obtain ⟨outcome, ran⟩ := Loops.exists_run List.length keeps
    (by
      rintro left next - goes ⟨⟩
      have long := of_decide_eq_true goes
      rw [List.length_append] at long
      rw [List.length_take]
      omega)
    (stem.length + 1) stem (.inl rfl) (Nat.lt_succ_self _)
  cases outcome with
  | error impossible => exact impossible.elim
  | ok left =>
      obtain ⟨kept, ends⟩ := Loops.run_ok keeps _ _ _ (.inl rfl) ran
      have small := of_decide_eq_false ends
      rw [List.length_append] at small
      rw [shorten, ran]
      congr 2
      rcases kept with rfl | ⟨n, rfl, enough⟩
      · rw [List.take_of_length_le (by omega)]
      · rw [List.length_take] at small
        rcases Nat.le_total stem.length n with all | part
        · rw [List.take_of_length_le all, List.take_of_length_le (by omega)]
        · rw [show n = 255 - suffix.length by omega]

/-- A normalized name: the loop came to an end, and the name to 255 characters and the extension. -/
structure Normalized (name extension filename : String) : Prop where
  looped : ∃ rounds stem, shorten ("." ++ extension).toList rounds (stemOf name) = some (.ok stem) ∧
    filename = String.ofList stem ++ ("." ++ extension)
  short : filename.length ≤ 255

theorem normalizedFilename_ok {name extension filename : String} (short : extension.length < 254)
    (named : normalizedFilename (some name) extension = .ok filename) :
    Normalized name extension filename := by
  unfold normalizedFilename at named
  dsimp only at named
  split at named
  · cases named
  · have whole : filename = String.ofList ((stemOf name).take (255 - ("." ++ extension).length)) ++
        ("." ++ extension) := (Except.ok.inj named).symm
    have size : ("." ++ extension).length = extension.length + 1 := by
      rw [String.length_append, Nat.add_comm]
      rfl
    refine ⟨⟨_, _, shorten_ends (by rw [String.length_toList, size]; omega), ?_⟩, ?_⟩
    · rw [String.length_toList]
      exact whole
    · rw [whole, String.length_append, String.length_ofList, List.length_take, size]
      omega

/-! ## What the page shows -/

/-- `pathinfo(…, PATHINFO_EXTENSION)`: what stands behind the last dot. -/
def filenameExtension (text : List Char) : List Char :=
  if text.contains '.' then (text.reverse.takeWhile fun c => c != '.').reverse else []

/-- The type of the `<video>` that `Hooks::filterFiles` makes of a file, if it makes one. -/
def videoType (file : String) : Option String :=
  let extension := strtolower (String.ofList (filenameExtension file.toList))
  if extension = "mp4" ∨ extension = "mov" then
    some (if extension = "mov" then "video/quicktime" else "video/mp4")
  else none

/-- A page shows a master of this type: a video of it, and an image otherwise. -/
def Shows (file mimeType : String) : Prop :=
  videoType file = if mimeType = "image/jpeg" then none else some mimeType

theorem filenameExtension_append (stem : List Char) {extension : List Char}
    (plain : '.' ∉ extension) : filenameExtension (stem ++ '.' :: extension) = extension := by
  unfold filenameExtension
  rw [if_pos (by simp)]
  rw [List.reverse_append, List.reverse_cons, List.append_assoc, List.takeWhile_append_of_pos]
  · rw [List.singleton_append, List.takeWhile_cons_of_neg (by simp), List.append_nil,
      List.reverse_reverse]
  · intro c member
    rw [List.mem_reverse] at member
    simp only [bne_iff_ne, ne_eq]
    rintro rfl
    exact plain member

theorem videoType_storedName (uploadId : String) {extension : String}
    (plain : '.' ∉ extension.toList) : videoType (storedName uploadId extension) =
      if strtolower extension = "mp4" ∨ strtolower extension = "mov" then
        some (if strtolower extension = "mov" then "video/quicktime" else "video/mp4")
      else none := by
  have text : (storedName uploadId extension).toList =
      ("g7mb-" ++ uploadId).toList ++ '.' :: extension.toList := by
    unfold storedName
    rw [String.toList_append, String.toList_append (s := "g7mb-" ++ uploadId), List.append_assoc]
    rfl
  unfold videoType
  rw [text, filenameExtension_append _ plain, String.ofList_toList]

theorem storedName_injective {uploadId extension extension' : String}
    (same : storedName uploadId extension = storedName uploadId extension') :
    extension = extension' := by
  have texts := congrArg String.toList same
  unfold storedName at texts
  rw [String.toList_append, String.toList_append (s := "g7mb-" ++ uploadId ++ "."),
    List.append_cancel_left_eq] at texts
  exact String.toList_inj.1 texts

/-! ## What the validator returns -/

section Validated

variable {kind detectedType : String} {expectedSize : Int} {status : Mixed} {session : SessionRow}
  {asset : Asset}

/-- The content type of the master of a kind. -/
def masterType (kind detectedType : String) : String :=
  if kind = "image" then "image/jpeg" else detectedType

theorem validateDerivative_master {derivative : Mixed} {checked : Derivative}
    (valid : validateDerivative derivative "master" kind detectedType expectedSize = .ok checked) :
    checked.contentType = masterType kind detectedType := by
  unfold validateDerivative at valid
  rw [masterType]
  generalize (if kind = "image" then "image/jpeg" else detectedType) = expected at valid ⊢
  generalize (if kind = "image" then Gnuboard7.imageMaxBytes else Gnuboard7.videoMaxBytes) = most at valid
  split at valid
  · rw [if_neg (show ¬ "master" = "thumbnail" by decide)] at valid
    dsimp only at valid
    split at valid
    · cases valid
    split at valid
    · cases valid
    split at valid
    · cases valid
    · rw [← Except.ok.inj valid]
  · cases valid

theorem validateDerivatives_master {derivatives : List Mixed}
    {before after : Option Derivative × Option Derivative}
    (start : ∀ master, before.1 = some master → master.contentType = masterType kind detectedType)
    (checked : validateDerivatives kind detectedType expectedSize derivatives before = .ok after) :
    ∀ master, after.1 = some master → master.contentType = masterType kind detectedType := by
  induction derivatives generalizing before with
  | nil =>
      cases checked
      exact start
  | cons derivative rest ih =>
      obtain ⟨master, thumbnail⟩ := before
      unfold validateDerivatives at checked
      split at checked
      · cases checked
      split at checked
      · split at checked
        · rename_i valid
          refine ih ?_ checked
          rintro _ ⟨⟩
          exact validateDerivative_master valid
        · cases checked
      · split at checked
        · refine ih ?_ checked
          exact start
        · cases checked
      · cases checked

theorem check_ok {condition : Bool} {message : String} {u : Unit}
    (checked : Gnuboard7.check condition message = .ok u) : condition = true := by
  unfold Gnuboard7.check at checked
  split at checked
  · assumption
  · cases checked

/-- What a valid status is answered with. -/
theorem validate_ok (valid : validate status session = .ok asset) :
    asset.uploadId = strtolower session.uploadId ∧
      (session.declaredKind = "image" ∨ session.declaredKind = "video") ∧
      asset.mimeType =
        masterType session.declaredKind ((status.field "detected_content_type").text?.getD "") ∧
      (session.declaredKind = "image" →
        (status.field "detected_content_type").text? ≠ some "video/quicktime") ∧
      (session.declaredKind = "video" →
        (status.field "detected_content_type").text? = some "video/mp4" ∨
          (status.field "detected_content_type").text? = some "video/quicktime") ∧
      ∃ extension, extensionOf asset.mimeType = .ok extension ∧
        normalizedFilename (some session.originalFilename) extension = .ok asset.originalFilename ∧
        asset.storedFilename = storedName asset.uploadId extension := by
  unfold validate at valid
  obtain ⟨uploadId, named, valid⟩ := Gnuboard7.bind_eq_ok valid
  obtain ⟨text, same, -, lowered⟩ := Gnuboard7.requiredUuid_eq_ok named
  cases same
  obtain ⟨statusId, -, valid⟩ := Gnuboard7.bind_eq_ok valid
  obtain ⟨_, -, valid⟩ := Gnuboard7.bind_eq_ok valid
  obtain ⟨_, reserved, valid⟩ := Gnuboard7.bind_eq_ok valid
  obtain ⟨_, allowed, valid⟩ := Gnuboard7.bind_eq_ok valid
  obtain ⟨_, -, valid⟩ := Gnuboard7.bind_eq_ok valid
  obtain ⟨byVariant, checked, valid⟩ := Gnuboard7.bind_eq_ok valid
  split at valid
  · rename_i master thumbnail
    obtain ⟨_, -, valid⟩ := Gnuboard7.bind_eq_ok valid
    obtain ⟨extension, typed, valid⟩ := Gnuboard7.bind_eq_ok valid
    obtain ⟨filename, normalized, valid⟩ := Gnuboard7.bind_eq_ok valid
    cases valid
    have kinds := check_ok reserved
    simp only [Bool.and_eq_true, List.contains_iff_mem, List.mem_cons, List.not_mem_nil,
      or_false] at kinds
    refine ⟨lowered, kinds.1.1.1, ?_, ?_, ?_, extension, typed, normalized, rfl⟩
    · exact validateDerivatives_master (fun _ start => by cases start) checked master rfl
    · intro image quicktime
      have listed := check_ok allowed
      rw [image, quicktime] at listed
      exact absurd listed (by decide)
    · intro video
      have listed := check_ok allowed
      rw [video, if_neg (by decide), List.contains_iff_mem] at listed
      simp only [List.mem_cons, List.not_mem_nil, or_false] at listed
      cases detected : (status.field "detected_content_type").text? with
      | none =>
          rw [detected] at listed
          exact absurd listed (by decide)
      | some type =>
          rw [detected] at listed
          simpa using listed
  · cases valid

end Validated

/-! ## The session that is linked -/

/-- What `BatchValidator` has made of the uploads of a batch. -/
def Op.Validated : Op → Prop
  | .recordBatch batch => ∀ pair ∈ batch.files, strtolower pair.2.uploadId = pair.2.uploadId
  | _ => True

/-- A statement of the plugin, at a time of the clock. -/
def Stated (db : Database) (statement : Op × Int) (after : Database) : Prop :=
  statement.1.Validated ∧ after = (statement.1.run statement.2 db).2

/-- The columns of a session that are written with its reservation. -/
structure SameReservation (row row' : SessionRow) : Prop where
  uploadId : row'.uploadId = row.uploadId
  originalFilename : row'.originalFilename = row.originalFilename
  declaredKind : row'.declaredKind = row.declaredKind

theorem SameReservation.refl (row : SessionRow) : SameReservation row row := ⟨rfl, rfl, rfl⟩

/-- The sessions are keyed by their uploads, which are in lower case. -/
structure Enrolled (db : Database) : Prop where
  keyed : Keyed db
  lower : ∀ row ∈ db.sessions, strtolower row.uploadId = row.uploadId

section Statements

variable {s t : Database} {statement : Op × Int}

theorem insertSessions_rows {batch : Batch} {index : Nat} {files : List (FileIntent × Instruction)}
    (inserted : insertSessions batch index files s = .ok t) :
    ∃ fresh, t.sessions = s.sessions ++ fresh ∧
      ∀ row ∈ fresh, ∃ pair ∈ files, row.uploadId = pair.2.uploadId := by
  induction files generalizing index s with
  | nil =>
      cases inserted
      exact ⟨[], (List.append_nil _).symm, fun row member => nomatch member⟩
  | cons pair rest ih =>
      obtain ⟨file, upload⟩ := pair
      unfold insertSessions at inserted
      split at inserted
      · cases inserted
      rename_i middle first
      unfold insertSession at first
      split at first
      · cases first
      cases first
      obtain ⟨fresh, appended, named⟩ := ih inserted
      refine ⟨batch.row index file upload :: fresh, ?_, fun row member => ?_⟩
      · rw [appended, List.append_assoc, List.singleton_append]
      · rcases List.mem_cons.1 member with rfl | later
        · exact ⟨_, List.mem_cons_self, rfl⟩
        · obtain ⟨pair, there, same⟩ := named row later
          exact ⟨pair, List.mem_cons_of_mem _ there, same⟩

/-- **A statement keeps the reservations**, and may add sessions of validated uploads. -/
theorem Stated.reservations (step : Stated s statement t) :
    ∃ kept fresh, t.sessions = kept ++ fresh ∧
      List.Forall₂ SameReservation s.sessions kept ∧
      ∀ row ∈ fresh, strtolower row.uploadId = row.uploadId := by
  obtain ⟨validated, rfl⟩ := step
  obtain ⟨op, now⟩ := statement
  have unchanged : (op.run now s).2.sessions = s.sessions → ∃ kept fresh,
      (op.run now s).2.sessions = kept ++ fresh ∧ List.Forall₂ SameReservation s.sessions kept ∧
        ∀ row ∈ fresh, strtolower row.uploadId = row.uploadId := fun same =>
    ⟨s.sessions, [], by rw [same, List.append_nil],
      List.forall₂_same.2 fun row _ => .refl row, fun row member => nomatch member⟩
  have changed : List.Forall₂ SameReservation s.sessions (op.run now s).2.sessions → ∃ kept fresh,
      (op.run now s).2.sessions = kept ++ fresh ∧ List.Forall₂ SameReservation s.sessions kept ∧
        ∀ row ∈ fresh, strtolower row.uploadId = row.uploadId := fun keeps =>
    ⟨_, [], (List.append_nil _).symm, keeps, fun row member => nomatch member⟩
  cases op with
  | recordBatch batch =>
      show ∃ kept fresh, (insertBatch batch s).2.sessions = kept ++ fresh ∧ _
      unfold insertBatch
      split
      · rename_i after inserted
        obtain ⟨fresh, appended, named⟩ := insertSessions_rows inserted
        refine ⟨s.sessions, fresh, appended, List.forall₂_same.2 fun row _ => .refl row, ?_⟩
        intro row member
        obtain ⟨pair, there, same⟩ := named row member
        rw [same]
        exact validated pair there
      · exact ⟨s.sessions, [], (List.append_nil _).symm, List.forall₂_same.2 fun row _ => .refl row,
          fun row member => nomatch member⟩
  | findOwned | countFiles | linkTarget | dueDeletions => exact unchanged rfl
  | linkReady link =>
      rcases linkLocked_cases link s with same | ⟨-, linked, -⟩
      · exact unchanged (congrArg Database.sessions same)
      · refine changed (linked.imp ?_)
        rintro row row' (rfl | ⟨writeId, number, rfl, -⟩)
        · exact .refl row'
        · exact ⟨rfl, rfl, rfl⟩
  | markState | markReady | scheduleDeletion | completeDeletionRequest | failDeletionRequest =>
      exact changed (forall₂_updateWhere SameReservation.refl fun row _ _ => ⟨rfl, rfl, rfl⟩)

theorem Stated.enrolled (step : Stated s statement t) (enrolled : Enrolled s) : Enrolled t := by
  obtain ⟨kept, fresh, appended, keeps, lower⟩ := step.reservations
  refine ⟨?_, fun row member => ?_⟩
  · rw [step.2]
    exact statement.1.keyed enrolled.keyed
  · rw [appended] at member
    rcases List.mem_append.1 member with old | new
    · obtain ⟨before, there, same⟩ := forall₂_mem_right keeps old
      rw [same.uploadId]
      exact enrolled.lower before there
    · exact lower row new

/-- A session stays, under its reservation. -/
theorem reservation_kept {labels : List (Op × Int)} (run : Trace Stated s labels t)
    {row : SessionRow} (member : row ∈ s.sessions) : ∃ row' ∈ t.sessions, SameReservation row row' := by
  refine run.keeps (P := fun db => ∃ row' ∈ db.sessions, SameReservation row row') ?_
    ⟨row, member, .refl row⟩
  rintro s label t step ⟨row', there, same⟩
  obtain ⟨kept, fresh, appended, keeps, -⟩ := step.reservations
  obtain ⟨row'', there', same'⟩ := forall₂_mem_left keeps there
  refine ⟨row'', ?_, same'.uploadId.trans same.uploadId,
    same'.originalFilename.trans same.originalFilename, same'.declaredKind.trans same.declaredKind⟩
  rw [appended]
  exact List.mem_append_left _ there'

/-- The session a key finds. -/
theorem session_of_keyed (keyed : Keyed s) {row : SessionRow} (member : row ∈ s.sessions) :
    s.session row.uploadId = some row := by
  unfold Database.session
  cases found : s.sessions.find? fun other => collates other.uploadId row.uploadId with
  | none =>
      have missed := List.find?_eq_none.1 found row member
      exact absurd (beq_self_eq_true (strtolower row.uploadId)) missed
  | some other =>
      have there := List.mem_of_find?_eq_some found
      have same := List.find?_some (p := fun other : SessionRow =>
        collates other.uploadId row.uploadId) found
      rw [keyed.eq_of_key there member (eq_of_beq same)]

/-- A link of an upload that no file has yet writes its row. -/
theorem linkSession_writes {link : Link} {uploadId : String} {next next' number : Int}
    {row : SessionRow} (found : s.session uploadId = some row)
    (turned : linkSession link uploadId none next s = .ok ((next', number), t)) :
    ∃ filename, normalizedFilename (some row.originalFilename)
        (if row.declaredKind = "image" then "jpg" else "mp4") = .ok filename ∧
      t.files = s.files ++ [fileOf link uploadId row filename next] := by
  unfold linkSession at turned
  rw [found] at turned
  dsimp only at turned
  split at turned
  · cases turned
  split at turned
  · cases turned
  split at turned
  · cases turned
  rename_i filename normalized
  split at turned
  · cases turned
  rename_i after inserted
  cases turned
  unfold insertFile at inserted
  split at inserted
  · cases inserted
  · cases inserted
    exact ⟨filename, normalized, rfl⟩

end Statements

/-! ## A clip -/

/-- A batch of one clip. -/
def clipBatch : Batch where
  ownerKey := "m:kim"
  boardTable := "free"
  batchId := "018f47f0-1111-7111-8111-111111111111"
  files := [(⟨"file-1", "clip.mov", "video", 4096, "video/quicktime"⟩, ⟨sampleUpload, "single_put"⟩)]

/-- The session of the clip. -/
def clipSession : SessionRow :=
  clipBatch.row 0 ⟨"file-1", "clip.mov", "video", 4096, "video/quicktime"⟩ ⟨sampleUpload, "single_put"⟩

/-- The clip is ready, with a master of this type. -/
def clipStatus (contentType : String) : Mixed :=
  .map
    [("upload_id", .text sampleUpload), ("state", .text "ready"), ("deletion_pending", .bool false),
      ("detected_content_type", .text contentType),
      ("derivatives", .list
        [.map [("variant", .text "master"), ("preset_id", .text "image-2k-v1"),
          ("url_path", .text "/media/clip"), ("content_type", .text contentType),
          ("byte_len", .int 4096)],
        sampleDerivative "thumbnail"])]

/-- The answer for the clip. -/
def clipAsset (contentType extension : String) : Asset where
  uploadId := sampleUpload
  originalFilename := "clip." ++ extension
  storedFilename := storedName sampleUpload extension
  mimeType := contentType
  size := 4096
  thumbnailSize := 1024
  presetId := "image-2k-v1"
  attachmentOrder := 1
  imageType := 0

/-- The tables with the clip reserved, and with it ready. -/
def clipReserved : Database := (Op.run (.recordBatch clipBatch) 0 ⟨[], [], []⟩).2

def clipReady (contentType extension : String) : Database :=
  (Op.run (.markReady sampleUpload (clipAsset contentType extension)) 0 clipReserved).2

/-- The link of the clip to a post. -/
def clipLink : Link := ⟨"free", "g5_write_free", 9, [(sampleUpload, none)], 0, 0⟩

theorem clip_runs : Trace Stated ⟨[], [], []⟩ [(.recordBatch clipBatch, 0)] clipReserved :=
  Trace.single ⟨by intro pair member; rw [List.mem_singleton.1 member]; decide, rfl⟩

theorem clip_waits (contentType extension : String) :
    Trace Stated clipReserved [(.markReady sampleUpload (clipAsset contentType extension), 0)]
      (clipReady contentType extension) :=
  Trace.single ⟨trivial, rfl⟩

/-- The row that is written for the clip. -/
def clipFile (contentType extension : String) : FileRow :=
  fileOf clipLink sampleUpload (clipSession.readied (clipAsset contentType extension)) "clip.mp4" 0

/-- The tables with the clip linked. -/
def clipLinked (contentType extension : String) : Database :=
  updateSession sampleUpload (SessionRow.linked 9 0)
    { clipReady contentType extension with files := [clipFile contentType extension] }

theorem clipReserved_sessions : clipReserved.sessions = [clipSession] := rfl

theorem clipReady_sessions (contentType extension : String) :
    (clipReady contentType extension).sessions =
      [clipSession.readied (clipAsset contentType extension)] := by
  show updateWhere (fun row => collates row.uploadId sampleUpload)
    (SessionRow.readied (clipAsset contentType extension)) clipReserved.sessions = _
  have hit : collates clipSession.uploadId sampleUpload = true := beq_self_eq_true _
  rw [clipReserved_sessions, updateWhere, List.map_singleton, if_pos hit]

theorem clip_links (contentType extension : String) :
    linkSession clipLink sampleUpload none 0 (clipReady contentType extension) =
      .ok ((1, 0), clipLinked contentType extension) := by
  have found : (clipReady contentType extension).session sampleUpload =
      some (clipSession.readied (clipAsset contentType extension)) := by
    have upload : (clipSession.readied (clipAsset contentType extension)).uploadId = sampleUpload :=
      rfl
    rw [← upload]
    apply session_of_keyed
    · rw [Keyed, clipReady_sessions]
      exact List.nodup_singleton _
    · rw [clipReady_sessions]
      exact List.mem_singleton_self _
  have named : normalizedFilename (some "clip.mov") "mp4" = .ok "clip.mp4" := by decide +kernel
  have ready : (clipSession.readied (clipAsset contentType extension)).state = "ready" := rfl
  have unlinked : ¬ (clipSession.readied (clipAsset contentType extension)).wrId.isSome = true :=
    Bool.false_ne_true
  have video : ¬ (clipSession.readied (clipAsset contentType extension)).declaredKind = "image" := by
    show ¬ "video" = "image"
    decide
  unfold linkSession
  rw [found]
  dsimp only
  rw [if_neg (not_not.2 ready), if_neg unlinked, if_neg video, show
    (clipSession.readied (clipAsset contentType extension)).originalFilename = "clip.mov" from rfl,
    named]
  rfl

theorem clip_valid :
    validate (clipStatus "video/mp4") clipSession = .ok (clipAsset "video/mp4" "mp4") ∧
      validate (clipStatus "video/quicktime") clipSession =
        .ok (clipAsset "video/quicktime" "mov") := by
  decide +kernel

/-! ## The theorem -/

/-- **The stored name is the answered one, but for QuickTime.**  A session was answered with a valid
asset, and some time later its row is written: names and type are those of the answer if and only if
the master is no QuickTime file; and both names are normalized, their loops having come to an end. -/
theorem stored_names_agree {start before after linked : Database} {ops later : List (Op × Int)}
    {session : SessionRow} {status : Mixed} {asset : Asset} {link : Link} {next next' number : Int}
    (fresh : start.sessions = []) (run : Trace Stated start ops before)
    (member : session ∈ before.sessions) (valid : validate status session = .ok asset)
    (waits : Trace Stated before later after)
    (turned : linkSession link session.uploadId none next after = .ok ((next', number), linked)) :
    ∃ file, linked.files = after.files ++ [file] ∧
      ((file.file = asset.storedFilename ∧ file.source = asset.originalFilename ∧
          Shows file.file asset.mimeType) ↔
        (status.field "detected_content_type").text? ≠ some "video/quicktime") ∧
      (∃ extension, asset.storedFilename = storedName asset.uploadId extension ∧
        Normalized session.originalFilename extension asset.originalFilename) ∧
      ∃ extension, file.file = storedName asset.uploadId extension ∧
        Normalized session.originalFilename extension file.source := by
  have empty : Enrolled start :=
    ⟨by rw [Keyed, fresh]; exact KeyedBy.nil _, fun row there => by rw [fresh] at there; cases there⟩
  have enrolled : Enrolled before :=
    run.keeps (P := Enrolled) (fun _ _ _ step sound => step.enrolled sound) empty
  have enrolled' : Enrolled after :=
    waits.keeps (P := Enrolled) (fun _ _ _ step sound => step.enrolled sound) enrolled
  obtain ⟨row, there, same⟩ := reservation_kept waits member
  have found := session_of_keyed enrolled'.keyed there
  rw [same.uploadId] at found
  obtain ⟨filename, normalized, written⟩ := linkSession_writes found turned
  rw [same.declaredKind, same.originalFilename] at normalized
  obtain ⟨named, kind, typed, image, video, extension, suffixed, answered, stored⟩ := validate_ok valid
  rw [enrolled.lower session member] at named
  refine ⟨_, written, ?_, ⟨extension, stored, ?_⟩, ?_⟩
  · show (storedName session.uploadId (if row.declaredKind = "image" then "jpg" else "mp4") = _ ∧
      filename = _ ∧ Shows (storedName session.uploadId _) _) ↔ _
    rw [same.declaredKind, stored, named]
    rcases kind with isImage | isVideo
    · rw [isImage, masterType, if_pos rfl] at typed
      rw [typed] at suffixed
      obtain rfl : "jpg" = extension := Except.ok.inj suffixed
      rw [isImage, if_pos rfl] at normalized ⊢
      have agree : filename = asset.originalFilename := Except.ok.inj (normalized.symm.trans answered)
      have shows_ : Shows (storedName session.uploadId "jpg") asset.mimeType := by
        rw [Shows, videoType_storedName _ (by decide), typed]
        decide
      exact iff_of_true ⟨rfl, agree, shows_⟩ (image isImage)
    · rw [isVideo, masterType, if_neg (by decide)] at typed
      rw [isVideo, if_neg (by decide)] at normalized ⊢
      rcases video isVideo with detected | detected
      · rw [detected, Option.getD_some] at typed
        rw [typed] at suffixed
        obtain rfl : "mp4" = extension := Except.ok.inj suffixed
        have agree : filename = asset.originalFilename := Except.ok.inj (normalized.symm.trans answered)
        have shows_ : Shows (storedName session.uploadId "mp4") asset.mimeType := by
          rw [Shows, videoType_storedName _ (by decide), typed]
          decide
        exact iff_of_true ⟨rfl, agree, shows_⟩ (by rw [detected]; decide)
      · rw [detected, Option.getD_some] at typed
        rw [typed] at suffixed
        obtain rfl : "mov" = extension := Except.ok.inj suffixed
        refine iff_of_false (fun both => ?_) (fun other => other detected)
        exact absurd (storedName_injective both.1) (by decide)
  · refine normalizedFilename_ok ?_ answered
    unfold extensionOf at suffixed
    split at suffixed
    · cases suffixed
      decide
    split at suffixed
    · cases suffixed
      decide
    split at suffixed
    · cases suffixed
      decide
    · cases suffixed
  · refine ⟨_, by rw [named]; rfl, ?_⟩
    show Normalized session.originalFilename (if row.declaredKind = "image" then "jpg" else "mp4") filename
    rw [same.declaredKind]
    refine normalizedFilename_ok ?_ normalized
    split <;> decide

theorem stored_names_agree_sample :
    ∃ file, (clipLinked "video/mp4" "mp4").files = [] ++ [file] ∧
      file.file = storedName sampleUpload "mp4" ∧ file.source = "clip.mp4" := by
  obtain ⟨file, written, agree, -⟩ := stored_names_agree rfl clip_runs (List.mem_singleton_self _)
    clip_valid.1 (clip_waits _ _) (clip_links "video/mp4" "mp4")
  obtain ⟨stored, source, -⟩ := agree.2 (by decide)
  exact ⟨file, written, stored, source⟩

/-- **A `.mov` is stored as an `.mp4`.**  The browser is answered `clip.mov`, the board gets
`clip.mp4`, and its page shows a QuickTime master as `video/mp4`. -/
theorem quicktime_stored_as_mp4 :
    ∃ (status : Mixed) (session : SessionRow) (asset : Asset) (file : FileRow)
      (before after linked : Database),
      Trace Stated ⟨[], [], []⟩ [(.recordBatch clipBatch, 0)] before ∧ session ∈ before.sessions ∧
      validate status session = .ok asset ∧
      Trace Stated before [(.markReady sampleUpload asset, 0)] after ∧
      linkSession clipLink session.uploadId none 0 after = .ok ((1, 0), linked) ∧
      linked.files = after.files ++ [file] ∧
      asset.storedFilename ≠ file.file ∧ asset.originalFilename = "clip.mov" ∧
      file.source = "clip.mp4" ∧ asset.mimeType = "video/quicktime" ∧
      videoType file.file = some "video/mp4" :=
  ⟨clipStatus "video/quicktime", clipSession, clipAsset "video/quicktime" "mov",
    clipFile "video/quicktime" "mov", clipReserved, clipReady "video/quicktime" "mov",
    clipLinked "video/quicktime" "mov", clip_runs, List.mem_singleton_self _, clip_valid.2,
    clip_waits _ _, clip_links _ _, rfl, by decide +kernel, rfl, rfl, rfl, by decide +kernel⟩

end MediaBooster.Gnuboard5
