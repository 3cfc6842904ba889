/-
# Media.Probe -- the facts a video probe reports

FFprobe names the demuxer and the streams of a file; `video_inspection_from_raw` takes from
them what the limits are checked against.  A duration is a decimal numeral of seconds, which
`parse_duration_ms` turns into milliseconds without a floating-point number: it reads three
digits behind the point and rounds up if anything but zeros follows.  `parseDurationMs_iff`
says that this is the exact value rounded up, for a numeral of any length.
-/
import MediaBooster.Domain.Text
import MediaBooster.Media.Format
import MediaBooster.Theory.Decimal

namespace MediaBooster.Media

set_option autoImplicit false

open MediaBooster.Domain MediaBooster.Theory.Decimal

/-! ## Durations -/

/-- `ok_or(MediaError::InvalidProbe)`. -/
def orInvalid {α : Type} : Option α → Except MediaError α
  | none => .error .invalidProbe
  | some a => .ok a

theorem orInvalid_ok {α : Type} {found : Option α} {a : α} (is : orInvalid found = .ok a) :
    found = some a := by
  cases found with
  | none => cases is
  | some b =>
      cases is
      rfl

/-- The loop over the first three digits behind the point. -/
def leadingMillis (fraction : List Char) : Nat :=
  (fraction.take 3).zipIdx.foldl
    (fun millis (byte, index) => millis + (byte.toNat - '0'.toNat) * 10 ^ (2 - index)) 0

/-- The milliseconds of the fraction, one more if anything but zeros follows the third digit. -/
def fractionMillis (fraction : List Char) : Option Nat :=
  if (fraction.drop 3).any (· != '0') then u64CheckedAdd (leadingMillis fraction) 1
  else some (leadingMillis fraction)

/-- `parse_duration_ms`. -/
def parseDurationMs (text : String) : Except MediaError Nat :=
  let (seconds, fraction) := (splitOnce '.' text.toList).getD (text.toList, [])
  if seconds.isEmpty || !seconds.all isAsciiDigit || !fraction.all isAsciiDigit then
    .error .invalidProbe
  else
    match parseU64 seconds with
    | none => .error .invalidProbe
    | some seconds =>
        let duration := do
          let millis ← fractionMillis fraction
          let base ← u64CheckedMul seconds 1000
          u64CheckedAdd base millis
        orInvalid (duration.filter fun duration => decide (0 < duration))

/-! ## The report of a probe -/

/-- `VideoProbe`. -/
structure VideoProbe where
  byteLen : Nat
  /-- Duration rounded up to milliseconds. -/
  durationMs : Nat
  width : Nat
  height : Nat
  videoStreams : Nat
  totalStreams : Nat
deriving DecidableEq

/-- `VideoInspection`. -/
structure VideoInspection where
  probe : VideoProbe
  codec : String
  container : String
deriving DecidableEq

/-- `RawFfprobeStream`. -/
structure RawFfprobeStream where
  codecType : Option String
  codecName : Option String
  width : Option Nat
  height : Option Nat
  duration : Option String

/-- `RawFfprobeFormat`. -/
structure RawFfprobeFormat where
  formatName : Option String
  duration : Option String

/-- `RawFfprobeOutput`. -/
structure RawFfprobeOutput where
  streams : List RawFfprobeStream
  format : Option RawFfprobeFormat

/-- `VideoProbeRequest`, without the path. -/
structure VideoProbeRequest where
  byteLen : Nat
  format : MediaFormat

/-- `codec_allowed`. -/
def codecAllowed (format : MediaFormat) (codec : String) : Bool :=
  match format with
  | .mp4 | .quickTime => ["h264", "hevc", "av1", "vp9", "mjpeg", "prores"].contains codec
  | .webm => ["vp8", "vp9", "av1"].contains codec
  | _ => false

/-- The demuxer names that belong to a container. -/
def containerNames : MediaFormat → List String
  | .mp4 | .quickTime => ["mov", "mp4"]
  | .webm => ["webm"]
  | _ => []

/-- An early return with the error, unless the check holds. -/
def require (holds : Bool) (error : MediaError) : Except MediaError Unit :=
  if holds then .ok () else .error error

/-- `video_inspection_from_raw`. -/
def videoInspectionFromRaw (request : VideoProbeRequest) (raw : RawFfprobeOutput) :
    Except MediaError VideoInspection := do
  let format ← orInvalid raw.format
  let container ← orInvalid format.formatName
  let names := (container.toList.splitOn ',').map String.ofList
  require (names.any (containerNames request.format).contains) .containerMismatch
  let totalStreams ← orInvalid (u32TryFrom raw.streams.length)
  let isVideo := fun (stream : RawFfprobeStream) => stream.codecType == some "video"
  let videoStreams ← orInvalid (u32TryFrom (raw.streams.filter isVideo).length)
  let primary ← orInvalid (raw.streams.find? isVideo)
  let codec ← orInvalid primary.codecName
  require (codecAllowed request.format codec) (.unsupportedCodec codec)
  let duration ← orInvalid (format.duration.or primary.duration)
  let durationMs ← parseDurationMs duration
  let width ← orInvalid primary.width
  let height ← orInvalid primary.height
  return {
    probe := { byteLen := request.byteLen, durationMs, width, height, videoStreams, totalStreams }
    codec
    container
  }

/-! ## Reading a numeral -/

/-- The text before the first point, and what follows it. -/
theorem split_chars (numeral : Numeral) :
    (splitOnce '.' numeral.chars).getD (numeral.chars, []) = (numeral.whole, numeral.behind) := by
  have noPoint : '.' ∉ numeral.whole := by
    intro member
    exact absurd (numeral.wholeDigits '.' member) (by decide)
  unfold Numeral.chars Numeral.behind
  cases numeral.point with
  | none =>
      rw [List.append_nil, splitOnce_eq_none.2 noPoint]
      rfl
  | some digits =>
      show (splitOnce '.' (numeral.whole ++ '.' :: digits)).getD _ = _
      rw [splitOnce_append noPoint]
      rfl

/-- A text that passes the digit checks is a numeral. -/
theorem exists_numeral {text : List Char}
    (nonempty : ((splitOnce '.' text).getD (text, [])).1 ≠ [])
    (whole : ∀ c ∈ ((splitOnce '.' text).getD (text, [])).1, c.isDigit = true)
    (behind : ∀ c ∈ ((splitOnce '.' text).getD (text, [])).2, c.isDigit = true) :
    ∃ numeral : Numeral, numeral.chars = text := by
  cases cut : splitOnce '.' text with
  | none =>
      rw [cut] at nonempty whole
      refine ⟨⟨text, none, nonempty, whole, by simp⟩, ?_⟩
      show text ++ [] = text
      exact List.append_nil text
  | some parts =>
      obtain ⟨before, after⟩ := parts
      rw [cut] at nonempty whole behind
      refine ⟨⟨before, some after, nonempty, whole, ?_⟩, ?_⟩
      · rintro digits ⟨rfl⟩
        exact behind
      · exact (splitOnce_eq_some.1 cut).1.symm

/-- The loop reads the first three digits, scaled to three places. -/
theorem leadingMillis_eq (fraction : List Char) :
    leadingMillis fraction = value (fraction.take 3) * 10 ^ (3 - fraction.length) := by
  match fraction with
  | [] => rfl
  | [a] => simp [leadingMillis, value, Nat.ofDigitChars_cons]
  | [a, b] =>
      simp only [leadingMillis, value, Nat.ofDigitChars_cons, Nat.ofDigitChars_nil, List.take,
        List.zipIdx, List.foldl, List.length]
      omega
  | a :: b :: c :: rest =>
      have none : 3 - (a :: b :: c :: rest).length = 0 := by
        simp only [List.length_cons]
        omega
      rw [none]
      simp only [leadingMillis, value, Nat.ofDigitChars_cons, Nat.ofDigitChars_nil, List.take,
        List.zipIdx, List.foldl]
      omega

theorem roundedUp_eq (fraction : List Char) :
    roundedUp 3 fraction =
      leadingMillis fraction + if (fraction.drop 3).any (· != '0') then 1 else 0 := by
  rw [leadingMillis_eq]
  rfl

/-- The milliseconds of a fraction are at most a second. -/
theorem roundedUp_le {fraction : List Char} (digits : ∀ c ∈ fraction, c.isDigit = true) :
    roundedUp 3 fraction ≤ 1000 := by
  have small := value_lt fun c member => digits c (List.mem_of_mem_take (i := 3) member)
  rw [roundedUp_eq, leadingMillis_eq]
  have scaled : value (fraction.take 3) * 10 ^ (3 - fraction.length) < 1000 := by
    have length : (fraction.take 3).length = min 3 fraction.length := List.length_take
    rw [length] at small
    calc value (fraction.take 3) * 10 ^ (3 - fraction.length)
        < 10 ^ min 3 fraction.length * 10 ^ (3 - fraction.length) :=
          Nat.mul_lt_mul_of_pos_right small (Nat.pow_pos (by decide))
      _ = 1000 := by
          rw [← pow_add]
          have exponent : min 3 fraction.length + (3 - fraction.length) = 3 := by omega
          rw [exponent]
          norm_num
  split <;> omega

/-- With the digits behind them, the milliseconds are rounded up. -/
theorem fractionMillis_eq {fraction : List Char} (digits : ∀ c ∈ fraction, c.isDigit = true) :
    fractionMillis fraction = some (roundedUp 3 fraction) := by
  have small := roundedUp_le digits
  have parts := roundedUp_eq fraction
  unfold fractionMillis
  by_cases more : (fraction.drop 3).any (· != '0') = true
  · rw [if_pos more] at parts ⊢
    rw [u64CheckedAdd, if_pos (by omega), parts]
  · rw [if_neg more] at parts ⊢
    rw [parts, Nat.add_zero]

/-- **A numeral is read as its value, rounded up, where that is positive and fits.** -/
theorem parseDurationMs_numeral (numeral : Numeral) :
    parseDurationMs (String.ofList numeral.chars) =
      if 0 < ⌈numeral.denotes * 10 ^ 3⌉₊ ∧ ⌈numeral.denotes * 10 ^ 3⌉₊ < 2 ^ 64 then
        .ok ⌈numeral.denotes * 10 ^ 3⌉₊
      else .error .invalidProbe := by
  have wholeDigits : numeral.whole.all isAsciiDigit = true := by
    rw [List.all_eq_true]
    intro c member
    rw [isDigit_eq, numeral.wholeDigits c member]
  have behindDigits : numeral.behind.all isAsciiDigit = true := by
    rw [List.all_eq_true]
    intro c member
    rw [isDigit_eq, numeral.behind_digits c member]
  have seconds : parseU64 numeral.whole =
      if value numeral.whole < 2 ^ 64 then some (value numeral.whole) else none :=
    parseU64_digits numeral.nonempty numeral.wholeDigits
  have scale : (10 : Nat) ^ 3 = 1000 := by norm_num
  rw [numeral.ceil_denotes, scale]
  unfold parseDurationMs
  rw [String.toList_ofList, split_chars]
  simp only [List.isEmpty_eq_false_iff.2 numeral.nonempty, wholeDigits, behindDigits, Bool.not_true,
    Bool.or_self, Bool.false_eq_true, if_false, seconds]
  by_cases fits : value numeral.whole < 2 ^ 64
  · simp only [fits, if_true, fractionMillis_eq numeral.behind_digits, Option.bind_eq_bind,
      Option.bind_some]
    by_cases base : value numeral.whole * 1000 < 2 ^ 64
    · simp only [u64CheckedMul, base, if_true, Option.bind_some, u64CheckedAdd]
      by_cases total : value numeral.whole * 1000 + roundedUp 3 numeral.behind < 2 ^ 64
      · rw [if_pos total]
        by_cases positive : 0 < value numeral.whole * 1000 + roundedUp 3 numeral.behind
        · rw [Option.filter_some, if_pos (decide_eq_true positive), if_pos ⟨positive, total⟩]
          rfl
        · rw [Option.filter_some, if_neg (by simpa using positive),
            if_neg fun both => positive both.1]
          rfl
      · rw [if_neg total, if_neg fun both => total both.2]
        rfl
    · have beyond : ¬ (value numeral.whole * 1000 + roundedUp 3 numeral.behind < 2 ^ 64) :=
        fun total => base (lt_of_le_of_lt (Nat.le_add_right _ _) total)
      rw [u64CheckedMul, if_neg base, if_neg fun both => beyond both.2]
      rfl
  · have beyond : ¬ (value numeral.whole * 1000 + roundedUp 3 numeral.behind < 2 ^ 64) := by omega
    rw [if_neg fits, if_neg fun both => beyond both.2]

/-- Whatever is read is a numeral. -/
theorem numeral_of_parseDurationMs {text : String} {ms : Nat}
    (read : parseDurationMs text = .ok ms) :
    ∃ numeral : Numeral, String.ofList numeral.chars = text := by
  unfold parseDurationMs at read
  dsimp only at read
  split at read
  · cases read
  · rename_i checked
    simp only [Bool.or_eq_true, Bool.not_eq_true', not_or, Bool.not_eq_false,
      List.isEmpty_iff, List.all_eq_true, isDigit_eq] at checked
    obtain ⟨numeral, chars⟩ := exists_numeral checked.1.1 checked.1.2 checked.2
    exact ⟨numeral, by rw [chars, String.ofList_toList]⟩

/-- **A duration is read exactly.**  A text is accepted if and only if it is a numeral whose
value is positive and fits into `u64` milliseconds, and is then the value rounded up. -/
theorem parseDurationMs_iff (text : String) :
    (∀ ms, parseDurationMs text = .ok ms ↔
      ∃ numeral : Numeral, String.ofList numeral.chars = text ∧
        0 < numeral.denotes ∧ ⌈numeral.denotes * 1000⌉₊ < 2 ^ 64 ∧
        ms = ⌈numeral.denotes * 1000⌉₊) ∧
    (∀ error, parseDurationMs text = .error error → error = .invalidProbe) := by
  have scale : (1000 : ℚ) = 10 ^ 3 := by norm_num
  rw [scale]
  constructor
  · intro ms
    constructor
    · intro read
      obtain ⟨numeral, rfl⟩ := numeral_of_parseDurationMs read
      rw [parseDurationMs_numeral] at read
      split at read
      · rename_i fits
        cases read
        exact ⟨numeral, rfl, (numeral.denotes_pos_iff 3).2 fits.1, fits.2, rfl⟩
      · cases read
    · rintro ⟨numeral, rfl, positive, fits, rfl⟩
      rw [parseDurationMs_numeral, if_pos ⟨(numeral.denotes_pos_iff 3).1 positive, fits⟩]
  · intro error refused
    unfold parseDurationMs at refused
    dsimp only at refused
    split at refused
    · cases refused
      rfl
    · split at refused
      · cases refused
        rfl
      · unfold orInvalid at refused
        split at refused
        · cases refused
          rfl
        · cases refused

theorem bind_ok {α β : Type} {first : Except MediaError α} {next : α → Except MediaError β}
    {b : β} (ran : first >>= next = .ok b) : ∃ a, first = .ok a ∧ next a = .ok b := by
  cases first with
  | error error => cases ran
  | ok a => exact ⟨a, rfl, ran⟩

/-- **The report carries the exact duration**: that of the container, or of the first video
stream where the container has none. -/
theorem inspection_duration {request : VideoProbeRequest} {raw : RawFfprobeOutput}
    {inspection : VideoInspection} (reported : videoInspectionFromRaw request raw = .ok inspection) :
    ∃ format primary text, raw.format = some format ∧
      raw.streams.find? (fun stream => stream.codecType == some "video") = some primary ∧
      format.duration.or primary.duration = some text ∧
      parseDurationMs text = .ok inspection.probe.durationMs := by
  unfold videoInspectionFromRaw at reported
  obtain ⟨format, hasFormat, reported⟩ := bind_ok reported
  obtain ⟨container, -, reported⟩ := bind_ok reported
  obtain ⟨-, -, reported⟩ := bind_ok reported
  obtain ⟨totalStreams, -, reported⟩ := bind_ok reported
  obtain ⟨videoStreams, -, reported⟩ := bind_ok reported
  obtain ⟨primary, isPrimary, reported⟩ := bind_ok reported
  obtain ⟨codec, -, reported⟩ := bind_ok reported
  obtain ⟨-, -, reported⟩ := bind_ok reported
  obtain ⟨text, hasText, reported⟩ := bind_ok reported
  obtain ⟨durationMs, read, reported⟩ := bind_ok reported
  obtain ⟨width, -, reported⟩ := bind_ok reported
  obtain ⟨height, -, reported⟩ := bind_ok reported
  cases reported
  exact ⟨format, primary, text, orInvalid_ok hasFormat, orInvalid_ok isPrimary,
    orInvalid_ok hasText, read⟩

end MediaBooster.Media
