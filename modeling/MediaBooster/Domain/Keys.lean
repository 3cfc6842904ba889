/-
# Domain.Keys -- the text of identifiers and the keys built from it

`Uuid.text` is the hyphenated lower-case text of a UUID, `rawKeyText` the key a raw source is
stored under, and `mediaKeyText` the key of a derivative.  They give the identifier back:
`Uuid.text_injective`, `rawKeyText_uploadId`, `mediaKeyText_uploadId`.  Uploads of different
identifiers therefore never share a key, and neither do the two kinds of keys.  A raw key of a
valid tenant passes the checks of an `ObjectKey` (`rawKeyText_valid`).

`KeyParts` are the five components of a derivative's key, valid by construction: the key they
make is an `ObjectKey` (`KeyParts.text_valid`) and determines all of them
(`KeyParts.text_injective`).
-/
import MediaBooster.Domain.Upload

namespace MediaBooster.Domain

set_option autoImplicit false

/-! ## UUIDs -/

/-- A lower-case hexadecimal digit. -/
def hexDigit (n : Nat) : Char :=
  match n with
  | 0 => '0' | 1 => '1' | 2 => '2' | 3 => '3' | 4 => '4' | 5 => '5' | 6 => '6' | 7 => '7'
  | 8 => '8' | 9 => '9' | 10 => 'a' | 11 => 'b' | 12 => 'c' | 13 => 'd' | 14 => 'e' | _ => 'f'

theorem hexDigit_injective {m n : Nat} (small : m < 16) (small' : n < 16)
    (same : hexDigit m = hexDigit n) : m = n := by
  have table : ∀ i < 16, ∀ j < 16, hexDigit i = hexDigit j → i = j := by decide
  exact table m small n small' same

/-- The last `width` hexadecimal digits of a number. -/
def hexDigits : Nat → Nat → List Char
  | 0, _ => []
  | width + 1, n => hexDigits width (n / 16) ++ [hexDigit (n % 16)]

@[simp] theorem hexDigits_length (width n : Nat) : (hexDigits width n).length = width := by
  induction width generalizing n with
  | zero => rfl
  | succ width ih => simp [hexDigits, ih]

/-- The digits of a number that fits determine it. -/
theorem hexDigits_injective {width m n : Nat} (fits : m < 16 ^ width) (fits' : n < 16 ^ width)
    (same : hexDigits width m = hexDigits width n) : m = n := by
  induction width generalizing m n with
  | zero =>
      rw [pow_zero, Nat.lt_one_iff] at fits fits'
      rw [fits, fits']
  | succ width ih =>
      obtain ⟨high, low⟩ := List.append_inj' same rfl
      rw [List.singleton_inj] at low
      have quotient := ih (Nat.div_lt_of_lt_mul (by rwa [pow_succ, mul_comm] at fits))
        (Nat.div_lt_of_lt_mul (by rwa [pow_succ, mul_comm] at fits')) high
      have remainder := hexDigit_injective (Nat.mod_lt m (by decide)) (Nat.mod_lt n (by decide)) low
      omega

/-- `Uuid::to_string`: 32 lower-case digits in groups of 8, 4, 4, 4 and 12. -/
def Uuid.text (uuid : Uuid) : List Char :=
  hexDigits 8 (uuid.val / 16 ^ 24) ++ '-' :: hexDigits 4 (uuid.val / 16 ^ 20 % 16 ^ 4) ++
    '-' :: hexDigits 4 (uuid.val / 16 ^ 16 % 16 ^ 4) ++
    '-' :: hexDigits 4 (uuid.val / 16 ^ 12 % 16 ^ 4) ++ '-' :: hexDigits 12 (uuid.val % 16 ^ 12)

@[simp] theorem Uuid.text_length (uuid : Uuid) : uuid.text.length = 36 := by
  simp [Uuid.text]

/-- The text of a UUID determines it. -/
theorem Uuid.text_injective {uuid other : Uuid} (same : uuid.text = other.text) : uuid = other := by
  unfold Uuid.text at same
  obtain ⟨rest, last⟩ := List.append_inj' same (by simp)
  obtain ⟨rest, fourth⟩ := List.append_inj' rest (by simp)
  obtain ⟨rest, third⟩ := List.append_inj' rest (by simp)
  obtain ⟨first, second⟩ := List.append_inj' rest (by simp)
  rw [List.cons_inj_right] at second third fourth last
  have bound := uuid.isLt
  have bound' := other.isLt
  have a := hexDigits_injective (by omega) (by omega) first
  have b := hexDigits_injective (Nat.mod_lt _ (by decide)) (Nat.mod_lt _ (by decide)) second
  have c := hexDigits_injective (Nat.mod_lt _ (by decide)) (Nat.mod_lt _ (by decide)) third
  have d := hexDigits_injective (Nat.mod_lt _ (by decide)) (Nat.mod_lt _ (by decide)) fourth
  have e := hexDigits_injective (Nat.mod_lt _ (by decide)) (Nat.mod_lt _ (by decide)) last
  apply Fin.ext
  omega

/-! ## Raw keys -/

/-- `format!("raw/{tenant_id}/{upload_id}/source")`. -/
def rawKeyText (tenantId : String) (uploadId : UploadId) : String :=
  String.ofList ("raw/".toList ++ tenantId.toList ++ "/".toList ++ uploadId.uuid.text ++
    "/source".toList)

/-- A raw key names its upload. -/
theorem rawKeyText_uploadId {tenantId tenantId' : String} {uploadId uploadId' : UploadId}
    (same : rawKeyText tenantId uploadId = rawKeyText tenantId' uploadId') :
    uploadId = uploadId' := by
  have lists := String.ofList_injective same
  obtain ⟨rest, -⟩ := List.append_inj' lists rfl
  obtain ⟨-, texts⟩ := List.append_inj' rest (by simp)
  have uuids := Uuid.text_injective texts
  cases uploadId
  cases uploadId'
  exact congrArg UploadId.mk uuids

/-! ## Raw keys are keys -/

theorem utf8ByteSize_ofList_le (chars : List Char) :
    (String.ofList chars).utf8ByteSize ≤ 4 * chars.length := by
  induction chars with
  | nil => exact Nat.le_refl 0
  | cons c rest ih =>
      have split : String.ofList (c :: rest) = String.ofList [c] ++ String.ofList rest :=
        show String.ofList ([c] ++ rest) = _ from String.ofList_append
      have one : (String.ofList [c]).utf8ByteSize ≤ 4 := by
        rw [show String.ofList [c] = String.singleton c from rfl, String.utf8ByteSize_singleton]
        exact Char.utf8Size_le_four c
      rw [split, String.utf8ByteSize_append, List.length_cons]
      omega

/-- Digits are one byte each. -/
theorem utf8ByteSize_ofList_digits {chars : List Char} (digits : ∀ c ∈ chars, isAsciiDigit c = true) :
    (String.ofList chars).utf8ByteSize = chars.length := by
  induction chars with
  | nil => rfl
  | cons c rest ih =>
      have split : String.ofList (c :: rest) = String.ofList [c] ++ String.ofList rest :=
        show String.ofList ([c] ++ rest) = _ from String.ofList_append
      have one : (String.ofList [c]).utf8ByteSize = 1 := by
        rw [show String.ofList [c] = String.singleton c from rfl, String.utf8ByteSize_singleton,
          Char.utf8Size_eq_one_iff]
        have digit := digits c List.mem_cons_self
        simp only [isAsciiDigit, Bool.and_eq_true, decide_eq_true_eq] at digit
        have upper : c.val ≤ '9'.val := digit.2
        have small : '9'.val ≤ 127 := by decide
        exact UInt32.le_trans upper small
      rw [split, String.utf8ByteSize_append, one, List.length_cons,
        ih fun other member => digits other (List.mem_cons_of_mem _ member)]
      omega

/-- A segment without a slash is split off. -/
theorem segments_of_append {segment rest : List Char} (clean : '/' ∉ segment) :
    segments (segment ++ '/' :: rest) = segment :: segments rest := by
  induction segment with
  | nil => simp [segments]
  | cons c more ih =>
      have apart : c ≠ '/' := fun same => clean (same ▸ List.mem_cons_self)
      have later := ih fun member => clean (List.mem_cons_of_mem _ member)
      rw [List.cons_append, segments, if_neg apart, later]

theorem segments_of_clean {segment : List Char} (clean : '/' ∉ segment) (some : segment ≠ []) :
    segments segment = [segment] := by
  induction segment with
  | nil => exact absurd rfl some
  | cons c more ih =>
      have apart : c ≠ '/' := fun same => clean (same ▸ List.mem_cons_self)
      rw [segments, if_neg apart]
      cases more with
      | nil => rfl
      | cons d others =>
          rw [ih (fun member => clean (List.mem_cons_of_mem _ member)) (List.cons_ne_nil _ _)]

/-- The characters of the text of a UUID. -/
def isUuidChar (c : Char) : Bool := isAsciiAlphanumeric c || c == '-'

theorem hexDigits_clean (width n : Nat) : (hexDigits width n).all isUuidChar = true := by
  induction width generalizing n with
  | zero => rfl
  | succ width ih =>
      have table : ∀ i < 16, isUuidChar (hexDigit i) = true := by decide
      rw [hexDigits, List.all_append, ih, Bool.true_and]
      simpa using table (n % 16) (Nat.mod_lt n (by decide))

theorem uuid_text_clean (uuid : Uuid) : uuid.text.all isUuidChar = true := by
  have dash : isUuidChar '-' = true := by decide
  simp only [Uuid.text, List.all_append, List.all_cons, hexDigits_clean, dash, Bool.and_self]

theorem slash_not_mem {p : Char → Bool} {chars : List Char} (clean : chars.all p = true)
    (slash : p '/' = false) : '/' ∉ chars := by
  intro member
  rw [List.all_eq_true.1 clean _ member] at slash
  cases slash

/-- Whether `validateObjectKey` refuses a segment. -/
theorem segment_safe {p : Char → Bool} {segment : List Char} (clean : segment.all p = true)
    (dot : p '.' = false) (filled : segment ≠ []) :
    (segment == [] || segment == ['.'] || segment == ['.', '.']) = false := by
  have dotless : ∀ more, segment ≠ '.' :: more := by
    rintro more rfl
    rw [List.all_cons, dot] at clean
    cases clean
  simp [filled, dotless]

/-- A character of a key. -/
def isKeyChar (c : Char) : Bool :=
  isAsciiAlphanumeric c || c == '/' || c == '-' || c == '_' || c == '.'

/-- A character of a narrow token. -/
def isTokenChar (c : Char) : Bool := isAsciiAlphanumeric c || c == '-' || c == '_'

theorem isKeyChar_of_token {c : Char} (token : isTokenChar c = true) : isKeyChar c = true := by
  simp only [isTokenChar, isKeyChar, Bool.or_eq_true] at token ⊢
  tauto

theorem isKeyChar_of_uuid {c : Char} (digit : isUuidChar c = true) : isKeyChar c = true := by
  simp only [isUuidChar, isKeyChar, Bool.or_eq_true] at digit ⊢
  tauto

theorem all_of_imp {p q : Char → Bool} {chars : List Char} (clean : chars.all p = true)
    (implies : ∀ {c}, p c = true → q c = true) : chars.all q = true :=
  List.all_eq_true.2 fun c member => implies (List.all_eq_true.1 clean c member)

/-- What `validateObjectKey` asks of the characters of a key. -/
theorem validateObjectKey_ok {key : String} (filled : key.toList ≠ [])
    (short : key.utf8ByteSize ≤ 1024) (relative : key.toList.head? ≠ some '/')
    (safe : ((segments key.toList).any fun segment =>
      segment == [] || segment == ['.'] || segment == ['.', '.']) = false)
    (allowed : key.toList.all isKeyChar = true) : validateObjectKey key = .ok () := by
  have nonempty : key.isEmpty = false := by
    rw [String.isEmpty_eq_false_iff]
    rintro rfl
    exact filled rfl
  have chars : allChars (fun c => isAsciiAlphanumeric c || c == '/' || c == '-' || c == '_' ||
      c == '.') key = true := allowed
  rw [validateObjectKey, nonempty, if_neg (by decide), if_neg (by omega), if_neg relative, safe,
    if_neg (by decide), chars]
  rfl

/-- A narrow token is short, and its characters are those of a segment. -/
theorem narrowToken_chars {value : String} {limit : Nat} (valid : narrowToken value limit = true) :
    value.toList ≠ [] ∧ value.utf8ByteSize ≤ limit ∧ value.toList.all isTokenChar = true := by
  simp only [narrowToken, allChars, Bool.and_eq_true, Bool.not_eq_true', decide_eq_true_eq] at valid
  obtain ⟨⟨named, short⟩, clean⟩ := valid
  refine ⟨fun empty => ?_, short, clean⟩
  rw [String.toList_eq_nil_iff.1 empty] at named
  cases named

theorem narrowToken_of_chars {value : String} {limit : Nat} (filled : value ≠ "")
    (short : value.utf8ByteSize ≤ limit) (clean : value.toList.all isTokenChar = true) :
    narrowToken value limit = true := by
  have nonempty : value.isEmpty = false := String.isEmpty_eq_false_iff.2 filled
  have chars : allChars (fun c => isAsciiAlphanumeric c || c == '-' || c == '_') value = true := clean
  simp [narrowToken, nonempty, short, chars]

theorem rawKey_chars (tenant text : List Char) :
    "raw/".toList ++ tenant ++ "/".toList ++ text ++ "/source".toList = ['r', 'a', 'w'] ++ '/' ::
      (tenant ++ '/' :: (text ++ '/' :: ['s', 'o', 'u', 'r', 'c', 'e'])) := by
  have first : "raw/".toList = ['r', 'a', 'w', '/'] := by decide
  have slash : "/".toList = ['/'] := by decide
  have last : "/source".toList = ['/', 's', 'o', 'u', 'r', 'c', 'e'] := by decide
  simp only [first, slash, last, List.cons_append, List.nil_append, List.append_assoc]

theorem rawKeyText_size (tenantId : String) (uploadId : UploadId) :
    (rawKeyText tenantId uploadId).utf8ByteSize ≤ tenantId.utf8ByteSize + 156 := by
  have texts := utf8ByteSize_ofList_le uploadId.uuid.text
  rw [Uuid.text_length] at texts
  have raw : "raw/".utf8ByteSize = 4 := by decide
  have separator : "/".utf8ByteSize = 1 := by decide
  have source : "/source".utf8ByteSize = 7 := by decide
  unfold rawKeyText
  generalize uploadId.uuid.text = text at texts ⊢
  simp only [String.ofList_append, String.ofList_toList, String.utf8ByteSize_append]
  omega

/-- **A raw key of a valid tenant is a key.** -/
theorem rawKeyText_valid {tenantId : String} (valid : narrowToken tenantId 64 = true)
    (uploadId : UploadId) : validateObjectKey (rawKeyText tenantId uploadId) = .ok () := by
  obtain ⟨tenantFilled, short, clean⟩ := narrowToken_chars valid
  have chars : (rawKeyText tenantId uploadId).toList = _ :=
    String.toList_ofList.trans (rawKey_chars tenantId.toList uploadId.uuid.text)
  have size := rawKeyText_size tenantId uploadId
  have uuidClean := uuid_text_clean uploadId.uuid
  have textFilled : uploadId.uuid.text ≠ [] := by
    rw [← List.length_pos_iff, Uuid.text_length]
    decide
  have split : segments (rawKeyText tenantId uploadId).toList =
      [['r', 'a', 'w'], tenantId.toList, uploadId.uuid.text, ['s', 'o', 'u', 'r', 'c', 'e']] := by
    rw [chars, segments_of_append (by decide), segments_of_append (slash_not_mem clean (by decide)),
      segments_of_append (slash_not_mem uuidClean (by decide)),
      segments_of_clean (by decide) (by decide)]
  refine validateObjectKey_ok (by simp [chars]) (by omega) (by simp [chars]) ?_ ?_
  · rw [split]
    simp only [List.any_cons, List.any_nil, segment_safe clean (by decide) tenantFilled,
      segment_safe uuidClean (by decide) textFilled]
    decide
  · rw [chars]
    simp only [List.all_append, List.all_cons, all_of_imp clean isKeyChar_of_token,
      all_of_imp uuidClean isKeyChar_of_uuid, Bool.true_and]
    decide

/-- The key of a new upload is always made. -/
theorem rawKeyText_made {tenantId : String} (valid : narrowToken tenantId 64 = true)
    (uploadId : UploadId) : ∃ key, ObjectKey.new (rawKeyText tenantId uploadId) = .ok key := by
  have checks := rawKeyText_valid valid uploadId
  unfold ObjectKey.new
  split
  · exact ⟨_, rfl⟩
  · rename_i failed
    rw [checks] at failed
    cases failed

/-! ## Media keys -/

/-- `format!("media/{tenant_id}/{upload_id}/{digest}/{preset_id}/{name}")`. -/
def mediaKeyText (tenantId : String) (uploadId : UploadId) (digest presetId name : String) : String :=
  String.ofList ("media/".toList ++ (tenantId.toList ++ '/' :: (uploadId.uuid.text ++
    '/' :: (digest.toList ++ '/' :: (presetId.toList ++ '/' :: name.toList)))))

/-- Two texts that agree up to a separator neither head contains agree before it. -/
theorem heads_eq {α : Type} {separator : α} {head head' tail tail' : List α}
    (clean : separator ∉ head) (clean' : separator ∉ head')
    (same : head ++ separator :: tail = head' ++ separator :: tail') :
    head = head' ∧ tail = tail' := by
  induction head generalizing head' with
  | nil =>
      cases head' with
      | nil => simpa using same
      | cons c cs =>
          obtain ⟨rfl, -⟩ := List.cons.inj same
          exact absurd (List.mem_cons_self ..) clean'
  | cons c cs ih =>
      cases head' with
      | nil =>
          obtain ⟨rfl, -⟩ := List.cons.inj same
          exact absurd (List.mem_cons_self ..) clean
      | cons d ds =>
          obtain ⟨rfl, rest⟩ := List.cons.inj same
          obtain ⟨rfl, tails⟩ := ih (fun member => clean (List.mem_cons_of_mem _ member))
            (fun member => clean' (List.mem_cons_of_mem _ member)) rest
          exact ⟨rfl, tails⟩

/-- A media key of tenants without a slash names its upload. -/
theorem mediaKeyText_uploadId {tenantId tenantId' : String} {uploadId uploadId' : UploadId}
    {digest digest' presetId presetId' name name' : String}
    (clean : '/' ∉ tenantId.toList) (clean' : '/' ∉ tenantId'.toList)
    (same : mediaKeyText tenantId uploadId digest presetId name =
      mediaKeyText tenantId' uploadId' digest' presetId' name') : uploadId = uploadId' := by
  have lists := String.ofList_injective same
  have after := (List.append_right_inj _).1 lists
  obtain ⟨-, tails⟩ := heads_eq clean clean' after
  obtain ⟨texts, -⟩ := List.append_inj tails (by simp)
  have uuids := Uuid.text_injective texts
  cases uploadId
  cases uploadId'
  exact congrArg UploadId.mk uuids

/-- A raw key is no media key. -/
theorem rawKeyText_ne_mediaKeyText {tenantId tenantId' : String} {uploadId uploadId' : UploadId}
    {digest presetId name : String} :
    rawKeyText tenantId uploadId ≠ mediaKeyText tenantId' uploadId' digest presetId name := by
  intro same
  have lists := String.ofList_injective same
  have firsts := congrArg List.head? lists
  have media : "media/".toList = 'm' :: "edia/".toList := by decide
  have raw : "raw/".toList = 'r' :: "aw/".toList := by decide
  rw [media, raw] at firsts
  simp at firsts

/-! ## Derivatives -/

/-- The file names of derivatives. -/
def derivativeNames : List String :=
  ["master.jpg", "master.mp4", "master.mov", "master.webm", "thumbnail.jpg"]

/-- What names a derivative: the components of its key, each as its validator lets it pass. -/
structure KeyParts where
  tenantId : String
  uploadId : UploadId
  digest : String
  presetId : String
  name : String
  tenantValid : narrowToken tenantId 64 = true
  digestValid : sha256Token digest = true
  presetValid : narrowToken presetId 128 = true
  nameValid : name ∈ derivativeNames

namespace KeyParts

/-- The key of a derivative. -/
def text (parts : KeyParts) : String :=
  mediaKeyText parts.tenantId parts.uploadId parts.digest parts.presetId parts.name

/-- The components as lists of characters. -/
def components (parts : KeyParts) : List (List Char) :=
  ["media".toList, parts.tenantId.toList, parts.uploadId.uuid.text, parts.digest.toList,
    parts.presetId.toList, parts.name.toList]

/-- A digest is a token of 64 characters. -/
theorem digest_token {digest : String} (valid : sha256Token digest = true) :
    narrowToken digest 64 = true := by
  simp only [sha256Token, Bool.and_eq_true, beq_iff_eq] at valid
  obtain ⟨size, clean⟩ := valid
  have filled : digest.isEmpty = false := by
    rw [String.isEmpty_eq_false_iff]
    rintro rfl
    cases size
  have chars : allChars (fun c => isAsciiAlphanumeric c || c == '-' || c == '_') digest = true := by
    refine all_of_imp clean fun {c} hexadecimal => ?_
    simp only [isAsciiAlphanumeric, isAsciiLowercase, Bool.or_eq_true, Bool.and_eq_true,
      decide_eq_true_eq] at hexadecimal ⊢
    obtain digit | ⟨lower, upper⟩ := hexadecimal
    · exact .inl (.inl (.inl (.inl digit)))
    · have below : 'f' ≤ 'z' := by decide
      exact .inl (.inl (.inr ⟨lower, Char.le_trans upper below⟩))
  simp [narrowToken, filled, size, chars]

/-- What a file name looks like. -/
theorem name_chars {name : String} (named : name ∈ derivativeNames) :
    name.toList ≠ [] ∧ name.utf8ByteSize ≤ 16 ∧ name.toList.all isKeyChar = true ∧
      '/' ∉ name.toList ∧
      (name.toList == [] || name.toList == ['.'] || name.toList == ['.', '.']) = false := by
  have table : ∀ name ∈ derivativeNames, name.toList ≠ [] ∧ name.utf8ByteSize ≤ 16 ∧
      name.toList.all isKeyChar = true ∧ '/' ∉ name.toList ∧
      (name.toList == [] || name.toList == ['.'] || name.toList == ['.', '.']) = false := by decide
  exact table name named

theorem ofList_size_cons (head tail : List Char) :
    (String.ofList (head ++ '/' :: tail)).utf8ByteSize =
      (String.ofList head).utf8ByteSize + 1 + (String.ofList tail).utf8ByteSize := by
  have split : String.ofList (head ++ '/' :: tail) =
      String.ofList head ++ (String.ofList ['/'] ++ String.ofList tail) := by
    rw [← String.ofList_append, ← String.ofList_append]
    rfl
  have one : (String.ofList ['/']).utf8ByteSize = 1 := by decide
  rw [split, String.utf8ByteSize_append, String.utf8ByteSize_append, one]
  omega

/-- The text of a key, component by component. -/
theorem text_chars (parts : KeyParts) : parts.text.toList = "media".toList ++ '/' ::
    (parts.tenantId.toList ++ '/' :: (parts.uploadId.uuid.text ++ '/' :: (parts.digest.toList ++
      '/' :: (parts.presetId.toList ++ '/' :: parts.name.toList)))) := by
  have first : "media/".toList = "media".toList ++ ['/'] := by decide
  unfold text mediaKeyText
  rw [String.toList_ofList, first]
  simp only [List.append_assoc, List.singleton_append]

theorem text_size (parts : KeyParts) : parts.text.utf8ByteSize ≤ 1024 := by
  obtain ⟨-, tenant, -⟩ := narrowToken_chars parts.tenantValid
  obtain ⟨-, digest, -⟩ := narrowToken_chars (digest_token parts.digestValid)
  obtain ⟨-, preset, -⟩ := narrowToken_chars parts.presetValid
  obtain ⟨-, name, -⟩ := name_chars parts.nameValid
  have uuid := utf8ByteSize_ofList_le parts.uploadId.uuid.text
  have media : (String.ofList "media".toList).utf8ByteSize = 5 := by decide
  rw [Uuid.text_length] at uuid
  rw [← String.ofList_toList (s := parts.text), text_chars, ofList_size_cons, ofList_size_cons,
    ofList_size_cons, ofList_size_cons, ofList_size_cons, media]
  simp only [String.ofList_toList]
  omega

/-- **The key of a derivative is a key.** -/
theorem text_valid (parts : KeyParts) : validateObjectKey parts.text = .ok () := by
  have chars := parts.text_chars
  obtain ⟨tenantFilled, -, tenant⟩ := narrowToken_chars parts.tenantValid
  obtain ⟨digestFilled, -, digest⟩ := narrowToken_chars (digest_token parts.digestValid)
  obtain ⟨presetFilled, -, preset⟩ := narrowToken_chars parts.presetValid
  obtain ⟨nameFilled, -, name, nameClean, nameSafe⟩ := name_chars parts.nameValid
  have uuid := uuid_text_clean parts.uploadId.uuid
  have uuidFilled : parts.uploadId.uuid.text ≠ [] := by
    rw [← List.length_pos_iff, Uuid.text_length]
    decide
  have split : segments parts.text.toList = parts.components := by
    rw [chars, segments_of_append (by decide), segments_of_append (slash_not_mem tenant (by decide)),
      segments_of_append (slash_not_mem uuid (by decide)),
      segments_of_append (slash_not_mem digest (by decide)),
      segments_of_append (slash_not_mem preset (by decide)), segments_of_clean nameClean nameFilled]
    rfl
  refine validateObjectKey_ok (by simp [chars]) parts.text_size ?_ ?_ ?_
  · rw [chars]
    simp
  · rw [split]
    simp only [components, List.any_cons, List.any_nil, segment_safe tenant (by decide) tenantFilled,
      segment_safe uuid (by decide) uuidFilled, segment_safe digest (by decide) digestFilled,
      segment_safe preset (by decide) presetFilled, nameSafe]
    decide
  · rw [chars]
    simp only [List.all_append, List.all_cons, all_of_imp tenant isKeyChar_of_token,
      all_of_imp digest isKeyChar_of_token, all_of_imp preset isKeyChar_of_token,
      all_of_imp uuid isKeyChar_of_uuid, name, Bool.and_true, Bool.true_and]
    decide

/-- Every key of a derivative is under `media/`. -/
theorem text_prefix (parts : KeyParts) : "media/".toList <+: parts.text.toList := by
  have chars : parts.text.toList = "media/".toList ++ _ := String.toList_ofList
  rw [chars]
  exact List.prefix_append _ _

/-- **The key of a derivative names it.** -/
theorem text_injective : Function.Injective KeyParts.text := by
  intro parts other same
  obtain ⟨-, -, tenant⟩ := narrowToken_chars parts.tenantValid
  obtain ⟨-, -, tenant'⟩ := narrowToken_chars other.tenantValid
  obtain ⟨-, -, digest⟩ := narrowToken_chars (digest_token parts.digestValid)
  obtain ⟨-, -, digest'⟩ := narrowToken_chars (digest_token other.digestValid)
  obtain ⟨-, -, preset⟩ := narrowToken_chars parts.presetValid
  obtain ⟨-, -, preset'⟩ := narrowToken_chars other.presetValid
  have lists := congrArg String.toList same
  rw [text_chars, text_chars] at lists
  obtain ⟨-, rest⟩ := heads_eq (by decide) (by decide) lists
  obtain ⟨tenants, rest⟩ := heads_eq (slash_not_mem tenant (by decide))
    (slash_not_mem tenant' (by decide)) rest
  obtain ⟨uuids, rest⟩ := heads_eq (slash_not_mem (uuid_text_clean _) (by decide))
    (slash_not_mem (uuid_text_clean _) (by decide)) rest
  obtain ⟨digests, rest⟩ := heads_eq (slash_not_mem digest (by decide))
    (slash_not_mem digest' (by decide)) rest
  obtain ⟨presets, names⟩ := heads_eq (slash_not_mem preset (by decide))
    (slash_not_mem preset' (by decide)) rest
  have uploads : parts.uploadId = other.uploadId :=
    congrArg UploadId.mk (Uuid.text_injective uuids)
  cases parts
  cases other
  obtain rfl := String.toList_injective tenants
  obtain rfl := String.toList_injective digests
  obtain rfl := String.toList_injective presets
  obtain rfl := String.toList_injective names
  obtain rfl := uploads
  rfl

end KeyParts

end MediaBooster.Domain
