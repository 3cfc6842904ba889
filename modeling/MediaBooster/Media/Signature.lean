/-
# Media.Signature -- which format the first bytes of a file show

`detect_media_format` looks for the signatures of the supported formats; a file that opens
with an `ftyp` box is told apart by the brands of the box (`detect_iso_bmff`).

The box lists its major brand, a version number, and the compatible brands.  The scan takes
every word of the box for a brand, the version number with them.  `Ftyp.answer` is what the
brands alone say, and `detectIsoBmff_eq_verdict_iff` when the scan gives that answer: as long as
the version number, read as a brand, does not outrank the real ones (`Ftyp.VersionHarmless`).
Bytes after the box are never read (`detectIsoBmff_append`).
-/
import MediaBooster.Media.Format

namespace MediaBooster.Media

set_option autoImplicit false

open MediaBooster.Domain

/-! ## Words of a box -/

/-- Four bytes that name a box or a brand. -/
structure FourCc where
  a : UInt8
  b : UInt8
  c : UInt8
  d : UInt8
deriving DecidableEq

/-- The bytes of an ASCII text. -/
def ascii (text : String) : List UInt8 := text.toList.map fun c => c.toNat.toUInt8

/-- `u32::from_be_bytes`. -/
def FourCc.fromBeBytes (word : FourCc) : Nat :=
  ((word.a.toNat * 256 + word.b.toNat) * 256 + word.c.toNat) * 256 + word.d.toNat

/-- `chunks_exact(4)`: the whole words, without what is left of the last one. -/
def chunksExact : List UInt8 → List FourCc
  | a :: b :: c :: d :: rest => ⟨a, b, c, d⟩ :: chunksExact rest
  | _ => []

/-! ## Brands -/

/-- `b"avif" | b"avis"`. -/
def avifBrands : List FourCc := ["avif", "avis"].flatMap fun text => chunksExact (ascii text)

/-- `b"heic" | b"heix" | b"hevc" | b"hevx" | b"mif1" | b"msf1"`. -/
def heifBrands : List FourCc :=
  ["heic", "heix", "hevc", "hevx", "mif1", "msf1"].flatMap fun text => chunksExact (ascii text)

/-- `b"qt  "`. -/
def quickTimeBrands : List FourCc := chunksExact (ascii "qt  ")

/-- `b"isom" | b"iso2" | b"mp41" | b"mp42" | b"avc1" | b"dash" | b"M4V "`. -/
def mp4Brands : List FourCc :=
  ["isom", "iso2", "mp41", "mp42", "avc1", "dash", "M4V "].flatMap fun text =>
    chunksExact (ascii text)

/-- The arms of the scan's `match brand`. -/
def detectBrand (detected : Option MediaFormat) (brand : FourCc) : Option MediaFormat :=
  if avifBrands.contains brand then some .avif
  else if heifBrands.contains brand then some .heif
  else if quickTimeBrands.contains brand && detected.isNone then some .quickTime
  else if mp4Brands.contains brand && detected.isNone then some .mp4
  else detected

/-- The loop over the brands, which an AVIF brand ends. -/
def scanBrands (detected : Option MediaFormat) : List FourCc → Option MediaFormat
  | [] => detected
  | brand :: rest =>
      let detected := detectBrand detected brand
      if detected = some .avif then detected else scanBrands detected rest

/-- The size the first box declares. -/
def declaredBoxSize (bytes : List UInt8) : Nat :=
  match chunksExact (bytes.take 4) with
  | [] => 0
  | word :: _ => word.fromBeBytes

/-- The declared size, cut to the bytes at hand. -/
def ftypSize (bytes : List UInt8) : Nat := min (declaredBoxSize bytes) bytes.length

/-- `detected.ok_or(MediaError::UnsupportedSignature)`. -/
def orUnsupported : Option MediaFormat → Except MediaError MediaFormat
  | none => .error .unsupportedSignature
  | some format => .ok format

/-- `detect_iso_bmff`. -/
def detectIsoBmff (bytes : List UInt8) : Except MediaError MediaFormat :=
  let boxSize := ftypSize bytes
  if boxSize < 12 || boxSize % 4 != 0 then .error .unsupportedSignature
  else
    let brands := chunksExact ((bytes.take boxSize).drop 8)
    orUnsupported (scanBrands none brands)

/-- `detect_media_format`. -/
def detectMediaFormat (bytes : List UInt8) : Except MediaError MediaFormat :=
  if [0xff, 0xd8, 0xff].isPrefixOf bytes then .ok .jpeg
  else if (0x89 :: ascii "PNG\r\n\x1a\n").isPrefixOf bytes then .ok .png
  else if (ascii "GIF87a").isPrefixOf bytes || (ascii "GIF89a").isPrefixOf bytes then .ok .gif
  else if decide (12 ≤ bytes.length) && (ascii "RIFF").isPrefixOf bytes &&
      (ascii "WEBP").isPrefixOf (bytes.drop 8) then .ok .webp
  else if decide (12 ≤ bytes.length) && (ascii "ftyp").isPrefixOf (bytes.drop 4) then
    detectIsoBmff bytes
  else if [0x1a, 0x45, 0xdf, 0xa3].isPrefixOf bytes &&
      bytes.tails.any fun window => (ascii "webm").isPrefixOf window then .ok .webm
  else .error .unsupportedSignature

/-- The checks of `detect_file` on the prefix it read. -/
def detectFile (bytes : List UInt8) (declaredKind : MediaKind) : Except MediaError MediaFormat :=
  match detectMediaFormat bytes with
  | .error error => .error error
  | .ok format => if format.kind = declaredKind then .ok format else .error .declaredKindMismatch

/-- A file that is let through is of the class it was reserved for. -/
theorem detectFile_kind {bytes : List UInt8} {declaredKind : MediaKind} {format : MediaFormat}
    (detected : detectFile bytes declaredKind = .ok format) :
    detectMediaFormat bytes = .ok format ∧ format.kind = declaredKind := by
  unfold detectFile at detected
  split at detected
  · cases detected
  · rename_i found shown
    by_cases same : found.kind = declaredKind
    · rw [if_pos same] at detected
      cases detected
      exact ⟨shown, same⟩
    · rw [if_neg same] at detected
      cases detected

/-! ## What the brands say -/

/-- The video container a brand names. -/
def videoFormat (brand : FourCc) : Option MediaFormat :=
  if quickTimeBrands.contains brand then some .quickTime
  else if mp4Brands.contains brand then some .mp4
  else none

namespace Ftyp

/-- What a list of brands stands for: AVIF outranks HEIF, HEIF outranks the video brands, and
of these the first counts. -/
def answer (brands : List FourCc) : Option MediaFormat :=
  if brands.any avifBrands.contains then some .avif
  else if brands.any heifBrands.contains then some .heif
  else brands.findSome? videoFormat

/-- The major brand: the bytes 8 to 12. -/
def major (bytes : List UInt8) : List FourCc := chunksExact ((bytes.drop 8).take 4)

/-- The version number, in the bytes 12 to 16 of a box that has them. -/
def minorVersion (bytes : List UInt8) : List FourCc :=
  chunksExact (((bytes.take (ftypSize bytes)).drop 12).take 4)

/-- The compatible brands: every word of the box from byte 16 on. -/
def compatible (bytes : List UInt8) : List FourCc :=
  chunksExact ((bytes.take (ftypSize bytes)).drop 16)

/-- The brands of the box. -/
def brands (bytes : List UInt8) : List FourCc := major bytes ++ compatible bytes

/-- What the brands of the box say. -/
def verdict (bytes : List UInt8) : Except MediaError MediaFormat :=
  orUnsupported (answer (brands bytes))

/-- The bytes start with an `ftyp` box of a size the detection admits. -/
structure Admitted (bytes : List UInt8) : Prop where
  named : (ascii "ftyp").isPrefixOf (bytes.drop 4)
  large : 12 ≤ ftypSize bytes
  whole : ftypSize bytes % 4 = 0

/-- The version number, read as a brand, does not outrank the brands of the box. -/
structure VersionHarmless (bytes : List UInt8) : Prop where
  /-- It is an AVIF brand only next to another one. -/
  avif : ∀ word ∈ minorVersion bytes, avifBrands.contains word →
    (brands bytes).any avifBrands.contains
  /-- It is a HEIF brand only next to another one, or to an AVIF brand. -/
  heif : ∀ word ∈ minorVersion bytes, heifBrands.contains word →
    (brands bytes).any avifBrands.contains ∨ (brands bytes).any heifBrands.contains
  /-- It is a video brand only behind an image brand or a major video brand, or where it names
  the container the first video brand names. -/
  video : ∀ word ∈ minorVersion bytes, ∀ format, videoFormat word = some format →
    (brands bytes).any avifBrands.contains ∨ (brands bytes).any heifBrands.contains ∨
      (∃ brand ∈ major bytes, (videoFormat brand).isSome) ∨
      (compatible bytes).findSome? videoFormat = some format

end Ftyp

/-! ## The scan -/

theorem chunksExact_take_drop (bytes : List UInt8) :
    chunksExact bytes = chunksExact (bytes.take 4) ++ chunksExact (bytes.drop 4) := by
  match bytes with
  | a :: b :: c :: d :: rest => rfl
  | [] | [_] | [_, _] | [_, _, _] => rfl

/-- The first four bytes are one word, if there are as many. -/
theorem chunksExact_take (bytes : List UInt8) :
    chunksExact (bytes.take 4) = [] ∨ ∃ word, chunksExact (bytes.take 4) = [word] := by
  match bytes with
  | a :: b :: c :: d :: rest => exact Or.inr ⟨⟨a, b, c, d⟩, rfl⟩
  | [] | [_] | [_, _] | [_, _, _] => exact Or.inl rfl

/-- **The scan says what the words it goes over say as brands.** -/
theorem scanBrands_eq (words : List FourCc) : ∀ detected, detected ≠ some .avif →
    scanBrands detected words =
      if words.any avifBrands.contains then some .avif
      else if words.any heifBrands.contains then some .heif
      else detected.or (words.findSome? videoFormat) := by
  induction words with
  | nil =>
      intro detected _
      show detected = detected.or none
      rw [Option.or_none]
  | cons word rest ih =>
      intro detected notAvif
      unfold scanBrands
      rw [List.any_cons, List.any_cons, List.findSome?_cons]
      by_cases avif : avifBrands.contains word = true
      · have next : detectBrand detected word = some .avif := by rw [detectBrand, if_pos avif]
        simp only [next, avif, if_true, Bool.true_or]
      rw [Bool.not_eq_true] at avif
      by_cases heif : heifBrands.contains word = true
      · have next : detectBrand detected word = some .heif := by
          simp only [detectBrand, avif, heif, Bool.false_eq_true, if_false, if_true]
        have kept := ih (some .heif) (by simp)
        simp only [next, kept, heif, avif, Bool.true_or, Bool.false_or, if_true, reduceCtorEq,
          Option.some.injEq, if_false, Option.some_or, ite_self]
      rw [Bool.not_eq_true] at heif
      have next : detectBrand detected word = detected.or (videoFormat word) := by
        unfold detectBrand videoFormat
        cases detected with
        | none =>
            simp only [avif, heif, Bool.false_eq_true, if_false, Option.isNone_none, Bool.and_true,
              Option.none_or]
        | some found =>
            simp only [avif, heif, Bool.false_eq_true, if_false, Option.isNone_some, Bool.and_false,
              Option.some_or]
      have still : detectBrand detected word ≠ some .avif := by
        rw [next]
        cases detected with
        | none =>
            rw [Option.none_or]
            unfold videoFormat
            split
            · simp
            · split <;> simp
        | some found => simpa using notAvif
      rw [if_neg still, ih _ still, next]
      simp only [avif, heif, Bool.false_or]
      cases detected <;> cases videoFormat word <;> simp

/-- A video brand stands for a video container. -/
theorem videoFormat_ne {brand : FourCc} :
    videoFormat brand ≠ some .avif ∧ videoFormat brand ≠ some .heif := by
  unfold videoFormat
  split
  · simp
  · split <;> simp

theorem findSome_videoFormat_ne (brands : List FourCc) :
    brands.findSome? videoFormat ≠ some .avif ∧ brands.findSome? videoFormat ≠ some .heif := by
  constructor
  · intro found
    obtain ⟨brand, -, named⟩ := List.exists_of_findSome?_eq_some found
    exact videoFormat_ne.1 named
  · intro found
    obtain ⟨brand, -, named⟩ := List.exists_of_findSome?_eq_some found
    exact videoFormat_ne.2 named

/-- Where one more word between the brands leaves their answer as it is. -/
theorem answer_insert_iff (before : List FourCc) (word : FourCc) (after : List FourCc) :
    Ftyp.answer (before ++ ([word] ++ after)) = Ftyp.answer (before ++ after) ↔
      (avifBrands.contains word → (before ++ after).any avifBrands.contains) ∧
      (heifBrands.contains word → (before ++ after).any avifBrands.contains ∨
        (before ++ after).any heifBrands.contains) ∧
      (∀ format, videoFormat word = some format → (before ++ after).any avifBrands.contains ∨
        (before ++ after).any heifBrands.contains ∨
        (∃ brand ∈ before, (videoFormat brand).isSome) ∨
        after.findSome? videoFormat = some format) := by
  have anyWith : ∀ family : List FourCc, (before ++ ([word] ++ after)).any family.contains =
      (family.contains word || (before ++ after).any family.contains) := by
    intro family
    simp only [List.any_append, List.any_cons, List.any_nil, Bool.or_false]
    cases family.contains word <;> simp
  have video := findSome_videoFormat_ne (before ++ after)
  unfold Ftyp.answer
  rw [anyWith, anyWith]
  by_cases hasAvif : (before ++ after).any avifBrands.contains = true
  · simp only [hasAvif, Bool.or_true, if_true, implies_true, true_or, and_self]
  by_cases avif : avifBrands.contains word = true
  · simp only [avif, hasAvif, Bool.true_or, if_true, Bool.false_eq_true, if_false, imp_false,
      not_true, false_and, iff_false]
    intro same
    by_cases hasHeif : (before ++ after).any heifBrands.contains = true
    · rw [if_pos hasHeif] at same
      cases same
    · rw [if_neg hasHeif] at same
      exact video.1 same.symm
  by_cases hasHeif : (before ++ after).any heifBrands.contains = true
  · simp only [hasHeif, avif, hasAvif, Bool.or_true, if_true, or_true, true_or, implies_true,
      Bool.or_self, Bool.false_eq_true, if_false, false_imp_iff, and_self]
  by_cases heif : heifBrands.contains word = true
  · simp only [heif, avif, hasAvif, hasHeif, Bool.true_or, Bool.or_self, Bool.false_eq_true,
      if_true, if_false, or_self, imp_false, not_true, false_and, and_false, iff_false]
    exact fun same => video.2 same.symm
  · have between : (before ++ ([word] ++ after)).findSome? videoFormat =
        (before.findSome? videoFormat).or ((videoFormat word).or (after.findSome? videoFormat)) := by
      rw [List.findSome?_append, List.findSome?_append]
      cases named : videoFormat word <;> simp [named]
    simp only [heif, avif, hasAvif, hasHeif, Bool.or_self, Bool.false_eq_true, if_false, false_or,
      false_imp_iff, true_and]
    rw [between, List.findSome?_append]
    cases first : before.findSome? videoFormat with
    | some format =>
        obtain ⟨brand, member, named⟩ := List.exists_of_findSome?_eq_some first
        simp only [Option.some_or, true_iff]
        exact fun _ _ => Or.inl ⟨brand, member, by rw [named]; rfl⟩
    | none =>
        have silent : ¬ ∃ brand ∈ before, (videoFormat brand).isSome = true := by
          rintro ⟨brand, member, named⟩
          rw [List.findSome?_eq_none_iff] at first
          rw [first brand member] at named
          cases named
        simp only [silent, false_or, Option.none_or]
        cases named : videoFormat word with
        | none => simp only [Option.none_or, reduceCtorEq, false_imp_iff, implies_true]
        | some format =>
            simp only [Option.some_or, Option.some.injEq]
            constructor
            · intro same found hit
              rw [← same, hit]
            · intro all
              exact (all format rfl).symm

/-! ## The whole box -/

theorem orUnsupported_inj {a b : Option MediaFormat} (same : orUnsupported a = orUnsupported b) :
    a = b := by
  cases a <;> cases b <;> simp_all [orUnsupported]

/-- The words the scan goes over: the brands, with the version number between them. -/
theorem scanned_words {bytes : List UInt8} (large : 12 ≤ ftypSize bytes) :
    chunksExact ((bytes.take (ftypSize bytes)).drop 8) =
      Ftyp.major bytes ++ (Ftyp.minorVersion bytes ++ Ftyp.compatible bytes) := by
  have first : ((bytes.take (ftypSize bytes)).drop 8).take 4 = (bytes.drop 8).take 4 := by
    rw [List.drop_take, List.take_take, min_eq_left (by omega)]
  have second : ((bytes.take (ftypSize bytes)).drop 8).drop 4 =
      (bytes.take (ftypSize bytes)).drop 12 := List.drop_drop
  have third : ((bytes.take (ftypSize bytes)).drop 12).drop 4 =
      (bytes.take (ftypSize bytes)).drop 16 := List.drop_drop
  rw [chunksExact_take_drop, first, second,
    chunksExact_take_drop ((bytes.take (ftypSize bytes)).drop 12), third]
  rfl

/-- In an admitted box the detection answers for all the words from the major brand on. -/
theorem detectIsoBmff_of_admitted {bytes : List UInt8} (admitted : Ftyp.Admitted bytes) :
    detectIsoBmff bytes = orUnsupported (Ftyp.answer
      (Ftyp.major bytes ++ (Ftyp.minorVersion bytes ++ Ftyp.compatible bytes))) := by
  have large := admitted.large
  have admits : ¬ ((decide (ftypSize bytes < 12) || ftypSize bytes % 4 != 0) = true) := by
    rw [admitted.whole]
    simpa using large
  unfold detectIsoBmff
  rw [if_neg admits]
  show orUnsupported (scanBrands none (chunksExact ((bytes.take (ftypSize bytes)).drop 8))) = _
  rw [scanned_words large, scanBrands_eq _ none (by simp)]
  rfl

/-- **The detection answers by the brands exactly where the version number does not outrank
them.** -/
theorem detectIsoBmff_eq_verdict_iff {bytes : List UInt8} (admitted : Ftyp.Admitted bytes) :
    detectIsoBmff bytes = Ftyp.verdict bytes ↔ Ftyp.VersionHarmless bytes := by
  have byBrands : detectIsoBmff bytes = Ftyp.verdict bytes ↔
      Ftyp.answer (Ftyp.major bytes ++ (Ftyp.minorVersion bytes ++ Ftyp.compatible bytes)) =
        Ftyp.answer (Ftyp.major bytes ++ Ftyp.compatible bytes) := by
    rw [detectIsoBmff_of_admitted admitted]
    exact ⟨orUnsupported_inj, fun same => by rw [same]; rfl⟩
  rw [byBrands]
  obtain none | ⟨word, one⟩ := chunksExact_take ((bytes.take (ftypSize bytes)).drop 12)
  · have version : Ftyp.minorVersion bytes = [] := none
    rw [version, List.nil_append]
    simp only [true_iff]
    constructor <;> simp [version]
  · have version : Ftyp.minorVersion bytes = [word] := one
    rw [version, answer_insert_iff]
    constructor
    · rintro ⟨avif, heif, video⟩
      constructor
      · rintro found member
        rw [version, List.mem_singleton] at member
        rw [member]
        exact avif
      · rintro found member
        rw [version, List.mem_singleton] at member
        rw [member]
        exact heif
      · rintro found member
        rw [version, List.mem_singleton] at member
        rw [member]
        exact video
    · rintro ⟨avif, heif, video⟩
      have member : word ∈ Ftyp.minorVersion bytes := by
        rw [version]
        exact List.mem_singleton_self word
      exact ⟨avif word member, heif word member, video word member⟩

/-- **Bytes after the box change nothing.** -/
theorem detectIsoBmff_append {bytes : List UInt8} (admitted : Ftyp.Admitted bytes)
    (inside : declaredBoxSize bytes ≤ bytes.length) (tail : List UInt8) :
    detectIsoBmff (bytes ++ tail) = detectIsoBmff bytes := by
  have large := admitted.large
  have long : 12 ≤ bytes.length := le_trans large (min_le_right _ _)
  have declared : declaredBoxSize (bytes ++ tail) = declaredBoxSize bytes := by
    unfold declaredBoxSize
    rw [List.take_append_of_le_length (by omega)]
  have size : ftypSize (bytes ++ tail) = ftypSize bytes := by
    unfold ftypSize
    rw [declared, List.length_append]
    omega
  have box : (bytes ++ tail).take (ftypSize bytes) = bytes.take (ftypSize bytes) :=
    List.take_append_of_le_length (min_le_right _ _)
  simp only [detectIsoBmff, size, box]

/-- Where the detection gets to the `ftyp` box. -/
theorem detectMediaFormat_ftyp {bytes : List UInt8} (admitted : Ftyp.Admitted bytes)
    (first : ∀ byte ∈ bytes.head?, byte ≠ 0xff ∧ byte ≠ 0x52) :
    detectMediaFormat bytes = detectIsoBmff bytes := by
  have named := admitted.named
  have large := admitted.large
  have long : 12 ≤ bytes.length := le_trans large (min_le_right _ _)
  match bytes, long, named, first with
  | a :: b :: c :: d :: e :: f :: g :: h :: rest, long, named, first =>
      have box : ascii "ftyp" = [0x66, 0x74, 0x79, 0x70] := by decide
      have head := first a rfl
      rw [box] at named
      simp only [List.drop_succ_cons, List.drop_zero, List.isPrefixOf_cons_cons,
        List.isPrefixOf_nil_left,
        Bool.and_eq_true, beq_iff_eq, and_true] at named
      obtain ⟨rfl, rfl, rfl, rfl⟩ := named
      have png : ascii "PNG\r\n\x1a\n" = [0x50, 0x4e, 0x47, 0x0d, 0x0a, 0x1a, 0x0a] := by decide
      have gif87 : ascii "GIF87a" = [0x47, 0x49, 0x46, 0x38, 0x37, 0x61] := by decide
      have gif89 : ascii "GIF89a" = [0x47, 0x49, 0x46, 0x38, 0x39, 0x61] := by decide
      have riff : ascii "RIFF" = [0x52, 0x49, 0x46, 0x46] := by decide
      unfold detectMediaFormat
      rw [png, gif87, gif89, riff, box]
      have room : 4 ≤ rest.length := by
        simp only [List.length_cons] at long
        omega
      simp [Ne.symm head.1, Ne.symm head.2, room]

/-- **When the detection follows the layout of the box.**  It answers by the major and the
compatible brands if and only if the version number is harmless, and never looks past the box. -/
theorem isoBmff_brands (bytes : List UInt8) (admitted : Ftyp.Admitted bytes) :
    (detectIsoBmff bytes = Ftyp.verdict bytes ↔ Ftyp.VersionHarmless bytes) ∧
      (declaredBoxSize bytes ≤ bytes.length →
        ∀ tail, detectIsoBmff (bytes ++ tail) = detectIsoBmff bytes) :=
  ⟨detectIsoBmff_eq_verdict_iff admitted, detectIsoBmff_append admitted⟩

/-- An MP4 header: major brand `isom`, a version number, compatible brand `mp42`. -/
def mp4Header (version : String) : List UInt8 :=
  [0, 0, 0, 20] ++ ascii "ftyp" ++ ascii "isom" ++ ascii version ++ ascii "mp42"

theorem mp4Header_admitted : Ftyp.Admitted (mp4Header "\x00\x00\x02\x00") ∧
    Ftyp.Admitted (mp4Header "avif") :=
  ⟨⟨by decide, by decide, by decide⟩, ⟨by decide, by decide, by decide⟩⟩

theorem isoBmff_brands_mp4 :
    (detectIsoBmff (mp4Header "\x00\x00\x02\x00") = .ok .mp4 ∧
      Ftyp.verdict (mp4Header "\x00\x00\x02\x00") = .ok .mp4) ∧
    Ftyp.VersionHarmless (mp4Header "\x00\x00\x02\x00") :=
  ⟨⟨by decide, by decide⟩,
    (isoBmff_brands (mp4Header "\x00\x00\x02\x00") mp4Header_admitted.1).1.1 (by decide)⟩

/-- **The version number picks the decoder**: an MP4 file whose version number spells `avif` is
taken for an AVIF image. -/
theorem isoBmff_reads_version :
    Ftyp.Admitted (mp4Header "avif") ∧
      detectMediaFormat (mp4Header "avif") = .ok .avif ∧
      detectIsoBmff (mp4Header "avif") = .ok .avif ∧
      Ftyp.verdict (mp4Header "avif") = .ok .mp4 :=
  ⟨mp4Header_admitted.2, by decide, by decide, by decide⟩

end MediaBooster.Media
