/-
# Policies.Settings -- the bytes a settings digest is taken of

`normalized_settings_sha256` feeds SHA-256 with fields that run into each other: only the key
ends with a zero byte, the digest and the numbers have fixed widths, and the name of the
position stands between them without an end of its own.

`settingsPreimage_inj`: the bytes still tell settings apart.  They are read from the left
up to the digest (an upload identifier of 16 bytes, a key without a zero byte, 8 bytes, 64 bytes)
and from the right up to the position (2 bytes and 4 bytes), so that the name is what is left.
-/
import Mathlib.Data.List.Basic
import MediaBooster.Domain.Keys
import MediaBooster.Service.Policies
import MediaBooster.Theory.Framing

namespace MediaBooster.Policies

set_option autoImplicit false

open MediaBooster.Domain MediaBooster.Service MediaBooster.Store MediaBooster.Theory.Framing

/-! ## Bytes of a text -/

/-- `str::as_bytes`. -/
def asBytes (text : String) : List UInt8 := text.toList.flatMap String.utf8EncodeChar

theorem toByteArray_asBytes (text : String) : (asBytes text).toByteArray = text.toByteArray :=
  String.utf8Encode_toList

theorem asBytes_inj {a b : String} (same : asBytes a = asBytes b) : a = b := by
  apply String.toByteArray_inj.1
  rw [← toByteArray_asBytes, ← toByteArray_asBytes, same]

theorem asBytes_length (text : String) : (asBytes text).length = text.utf8ByteSize := by
  rw [← String.size_toByteArray, ← toByteArray_asBytes]
  simp

/-- Only the zero character is encoded with a zero byte. -/
theorem zero_not_mem_utf8EncodeChar {c : Char} (nonzero : c.val.toNat ≠ 0) :
    0 ∉ String.utf8EncodeChar c := by
  have zero : ∀ n, (0 : UInt8) = UInt8.ofNat n ↔ n % 256 = 0 := by
    intro n
    rw [← UInt8.toNat_inj, UInt8.toNat_ofNat', eq_comm]
    rfl
  fun_cases String.utf8EncodeChar c <;>
    simp only [List.mem_cons, List.not_mem_nil, or_false, zero] <;> omega

theorem zero_not_mem_asBytes {text : String} (nonzero : ∀ c ∈ text.toList, c.val.toNat ≠ 0) :
    0 ∉ asBytes text := by
  intro member
  obtain ⟨c, there, encoded⟩ := List.mem_flatMap.1 member
  exact zero_not_mem_utf8EncodeChar (nonzero c there) encoded

/-- A key has no zero byte. -/
theorem key_zero_free (key : ObjectKey) : 0 ∉ asBytes key.asStr := by
  have valid := key.valid
  unfold validateObjectKey at valid
  split at valid
  · cases valid
  split at valid
  · cases valid
  split at valid
  · cases valid
  split at valid
  · cases valid
  split at valid
  · cases valid
  rename_i clean
  simp only [Bool.not_eq_true', Bool.not_eq_false] at clean
  apply zero_not_mem_asBytes
  intro c there zero
  have same : c = '\x00' := Char.ext (UInt32.toNat_inj.1 zero)
  have allowed := List.all_eq_true.1 clean c there
  rw [same] at allowed
  exact absurd allowed (by decide)

/-! ## The pre-image -/

/-- `watermark_position_name`. -/
def watermarkPositionName : WatermarkPosition → String
  | .center => "center"
  | .topLeft => "top-left"
  | .topRight => "top-right"
  | .bottomLeft => "bottom-left"
  | .bottomRight => "bottom-right"

/-- What the digest of enabled settings is taken of, after the header. -/
def watermarkBytes (watermark : StoredWatermarkPolicy) : List UInt8 :=
  beBytes 16 watermark.assetUploadId.uuid.val ++ 0 ::
    (asBytes watermark.objectKey.asStr ++ 0 ::
      (beBytes 8 watermark.byteLen ++ (asBytes watermark.assetSha256 ++
        (asBytes (watermarkPositionName watermark.position) ++
          (beBytes 4 watermark.marginPx ++
            [UInt8.ofNat watermark.maxWidthPercent, UInt8.ofNat watermark.opacityPercent])))))

/-- The bytes `normalized_settings_sha256` feeds to SHA-256. -/
def settingsPreimage (watermark : Option StoredWatermarkPolicy) : List UInt8 :=
  asBytes "g7mb-site-policy-settings-v1\x00" ++
    match watermark with
    | none => asBytes "watermark\x00disabled\x00"
    | some watermark => asBytes "watermark\x00enabled\x00" ++ watermarkBytes watermark

/-- `normalized_settings_sha256`, with SHA-256 as a parameter; the digest is written with
`hex::encode`. -/
def normalizedSettingsSha256 (sha256 : List UInt8 → Fin (2 ^ 256))
    (watermark : Option StoredWatermarkPolicy) : String :=
  String.ofList (hexDigits 64 (sha256 (settingsPreimage watermark)).val)

theorem normalizedSettingsSha256_inj {sha256 : List UInt8 → Fin (2 ^ 256)}
    {a b : Option StoredWatermarkPolicy}
    (same : normalizedSettingsSha256 sha256 a = normalizedSettingsSha256 sha256 b) :
    sha256 (settingsPreimage a) = sha256 (settingsPreimage b) := by
  have digits := String.ofList_inj.1 same
  have bound : ∀ digest : Fin (2 ^ 256), digest.val < 16 ^ 64 := fun digest => digest.isLt
  exact Fin.ext (hexDigits_injective (bound _) (bound _) digits)

/-! ## Reading it back -/

/-- What the pre-image needs of settings: a digest of 64 bytes, and numbers that fit. -/
structure Encodable (watermark : StoredWatermarkPolicy) : Prop where
  byteLen : watermark.byteLen < 2 ^ 64
  digest : watermark.assetSha256.utf8ByteSize = 64
  marginPx : watermark.marginPx < 2 ^ 32
  maxWidthPercent : watermark.maxWidthPercent < 2 ^ 8
  opacityPercent : watermark.opacityPercent < 2 ^ 8

theorem watermarkPositionName_inj {a b : WatermarkPosition}
    (same : watermarkPositionName a = watermarkPositionName b) : a = b := by
  cases a <;> cases b <;> first | rfl | exact absurd same (by decide)

/-- A byte is told apart by its value. -/
theorem ofNat_inj_of_lt {m n : Nat} (fits : m < 2 ^ 8) (fits' : n < 2 ^ 8)
    (same : UInt8.ofNat m = UInt8.ofNat n) : m = n := by
  have values := congrArg UInt8.toNat same
  simp only [UInt8.toNat_ofNat'] at values
  omega

/-- **Enabled settings are read back from their bytes.** -/
theorem watermarkBytes_inj {a b : StoredWatermarkPolicy} (encodable : Encodable a)
    (encodable' : Encodable b) (same : watermarkBytes a = watermarkBytes b) : a = b := by
  unfold watermarkBytes at same
  -- from the left: identifier, key, length and digest
  obtain ⟨uploadId, same⟩ := List.append_inj same (by simp)
  obtain ⟨key, same⟩ := heads_eq (key_zero_free _) (key_zero_free _) (List.cons.inj same).2
  obtain ⟨byteLen, same⟩ := List.append_inj same (by simp)
  obtain ⟨digest, same⟩ := List.append_inj same
    (by rw [asBytes_length, asBytes_length, encodable.digest, encodable'.digest])
  -- from the right: the numbers, and the name that is left
  obtain ⟨name, same⟩ := List.append_inj' same (by simp)
  obtain ⟨margin, percents⟩ := List.append_inj same (by simp)
  simp only [List.cons.injEq, and_true] at percents
  have uuid : a.assetUploadId = b.assetUploadId := by
    have fits : ∀ uuid : Uuid, uuid.val < 256 ^ 16 := fun uuid => uuid.isLt
    have values := beBytes_inj (fits _) (fits _) uploadId
    rcases a with ⟨⟨_⟩⟩
    rcases b with ⟨⟨_⟩⟩
    exact congrArg UploadId.mk (Fin.ext values)
  have text : a.objectKey = b.objectKey := by
    have texts := asBytes_inj key
    rcases a with ⟨_, ⟨_, _⟩⟩
    rcases b with ⟨_, ⟨_, _⟩⟩
    cases texts
    rfl
  have lengths : a.byteLen = b.byteLen := beBytes_inj encodable.byteLen encodable'.byteLen byteLen
  have digests : a.assetSha256 = b.assetSha256 := asBytes_inj digest
  have positions : a.position = b.position := watermarkPositionName_inj (asBytes_inj name)
  have margins : a.marginPx = b.marginPx :=
    beBytes_inj encodable.marginPx encodable'.marginPx margin
  have widths := ofNat_inj_of_lt encodable.maxWidthPercent encodable'.maxWidthPercent percents.1
  have opacities := ofNat_inj_of_lt encodable.opacityPercent encodable'.opacityPercent percents.2
  rcases a with ⟨_, _, _, _, _, _, _, _⟩
  rcases b with ⟨_, _, _, _, _, _, _, _⟩
  simp_all

/-! ## Settings -/

/-- A request as its wire types hold it. -/
structure WireTyped (requested : RequestedWatermarkPolicy) : Prop where
  marginPx : requested.marginPx < 2 ^ 32
  maxWidthPercent : requested.maxWidthPercent < 2 ^ 8
  opacityPercent : requested.opacityPercent < 2 ^ 8

/-- Settings are absent, or come from `validate_asset` of a request. -/
inductive Produced : Option StoredWatermarkPolicy → Prop
  | absent : Produced none
  | validated {candidate : PolicyAssetCandidate} {requested : RequestedWatermarkPolicy}
      {watermark : StoredWatermarkPolicy} (typed : WireTyped requested)
      (valid : validateAsset candidate requested = .ok watermark) : Produced (some watermark)

/-- What `validate_asset` takes from where. -/
theorem validateAsset_fields {candidate : PolicyAssetCandidate}
    {requested : RequestedWatermarkPolicy} {watermark : StoredWatermarkPolicy}
    (valid : validateAsset candidate requested = .ok watermark) :
    sha256Token watermark.assetSha256 = true ∧ watermark.byteLen ≤ maxWatermarkAssetBytes ∧
      watermark.marginPx = requested.marginPx ∧
      watermark.maxWidthPercent = requested.maxWidthPercent ∧
      watermark.opacityPercent = requested.opacityPercent := by
  unfold validateAsset at valid
  split at valid
  · cases valid
  · cases valid
  · rename_i digest contentType token named
    split at valid
    · cases valid
    · rename_i sound
      simp only [not_or, Nat.not_lt] at sound
      cases valid
      exact ⟨(Option.filter_eq_some_iff.1 token).2, sound.2.2.2.2.1, rfl, rfl, rfl⟩

theorem Produced.encodable {watermark : StoredWatermarkPolicy}
    (produced : Produced (some watermark)) : Encodable watermark := by
  cases produced with
  | validated typed valid =>
      obtain ⟨token, short, margin, width, opacity⟩ := validateAsset_fields valid
      have small : maxWatermarkAssetBytes < 2 ^ 64 := by decide
      have size : watermark.assetSha256.utf8ByteSize = 64 := by
        simp only [sha256Token, Bool.and_eq_true, beq_iff_eq] at token
        exact token.1
      refine ⟨by omega, size, ?_, ?_, ?_⟩
      · rw [margin]
        exact typed.marginPx
      · rw [width]
        exact typed.maxWidthPercent
      · rw [opacity]
        exact typed.opacityPercent

/-- **The pre-images of produced settings tell them apart.** -/
theorem settingsPreimage_inj {a b : Option StoredWatermarkPolicy} (produced : Produced a)
    (produced' : Produced b) (same : settingsPreimage a = settingsPreimage b) : a = b := by
  have same := List.append_cancel_left same
  have apart : ∀ bytes, asBytes "watermark\x00disabled\x00" ≠
      asBytes "watermark\x00enabled\x00" ++ bytes := by
    intro bytes same
    have heads := congrArg (List.take 11) same
    rw [List.take_append_of_le_length (by decide)] at heads
    exact absurd heads (by decide)
  cases a with
  | none =>
      cases b with
      | none => rfl
      | some watermark => exact absurd same (apart _)
  | some watermark =>
      cases b with
      | none => exact absurd same.symm (apart _)
      | some other =>
          have bytes := List.append_cancel_left same
          rw [watermarkBytes_inj produced.encodable produced'.encodable bytes]

end MediaBooster.Policies
