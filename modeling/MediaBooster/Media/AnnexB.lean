/-
# Media.AnnexB -- H.264 samples, from length prefixes to start codes

An MP4 sample holds its NAL units behind length prefixes; the decoder takes them behind start
codes.  `avcc_to_annex_b` goes over the sample with a cursor.  `avccToAnnexB_iff`: it ends on
every input, no index leaves the sample and no size its integer type, and it succeeds exactly
on a sequence of non-empty units within the limits, whose conversion is what it returns.

Sizes are `usize` values of 64 bits and a slice is no longer than `isize::MAX`.  That there is
memory for the output is taken for granted.
-/
import MediaBooster.Domain.Primitives
import MediaBooster.Media.Format
import MediaBooster.Theory.Framing
import MediaBooster.Theory.Loops

namespace MediaBooster.Media

set_option autoImplicit false

open MediaBooster.Domain MediaBooster.Theory.Framing MediaBooster.Theory.Loops

/-! ## The conversion -/

/-- `ANNEX_B_START_CODE`. -/
def annexBStartCode : List UInt8 := [0, 0, 0, 1]

/-- The arguments of `avcc_to_annex_b`. -/
structure Avcc where
  input : List UInt8
  nalLengthSize : Nat
  maxNals : Nat
  maxOutputBytes : Nat
  /-- A slice is no longer than `isize::MAX`. -/
  slice : input.length < 2 ^ 63
  outputFits : maxOutputBytes < 2 ^ 64

/-- `&input[start..stop]`. -/
def sliceOf (bytes : List UInt8) (start stop : Nat) : Except Stop (List UInt8) :=
  if start ≤ stop ∧ stop ≤ bytes.length then .ok ((bytes.take stop).drop start)
  else .error .panicked

/-- `append_annex_b_nal`. -/
def appendAnnexBNal (output nal : List UInt8) (maxOutputBytes : Nat) : Except Stop (List UInt8) := do
  let newLen ← orFail .fallbackLimit
    (((u64CheckedAdd output.length annexBStartCode.length).bind fun length =>
      u64CheckedAdd length nal.length).filter fun length => decide (length ≤ maxOutputBytes))
  let _additional ← minus newLen output.length
  return output ++ annexBStartCode ++ nal

/-- The local variables of the loop. -/
structure Scan where
  cursor : Nat
  nals : Nat
  output : List UInt8
deriving DecidableEq

/-- The loop over the bytes of a length prefix. -/
def readLength (bytes : List UInt8) : Option Nat :=
  bytes.foldlM (fun length byte =>
    (u64CheckedMul length 256).bind fun value => u64CheckedAdd value byte.toNat) 0

/-- One round of the loop of `avcc_to_annex_b`. -/
def readNal (avcc : Avcc) (scan : Scan) : Except Stop Scan := do
  let lengthEnd ← orFail .fallbackDecode
    ((u64CheckedAdd scan.cursor avcc.nalLengthSize).filter fun stop =>
      decide (stop ≤ avcc.input.length))
  let lengthBytes ← sliceOf avcc.input scan.cursor lengthEnd
  let length ← orFail .fallbackLimit (readLength lengthBytes)
  orFail .fallbackDecode (if length = 0 then none else some ())
  let nalEnd ← orFail .fallbackDecode
    ((u64CheckedAdd lengthEnd length).filter fun stop => decide (stop ≤ avcc.input.length))
  let nals ← plus scan.nals 1
  orFail .fallbackLimit (if avcc.maxNals < nals then none else some ())
  let nal ← sliceOf avcc.input lengthEnd nalEnd
  let output ← appendAnnexBNal scan.output nal avcc.maxOutputBytes
  return ⟨nalEnd, nals, output⟩

/-- `avcc_to_annex_b`, with its loop going round at most `fuel` times. -/
def avccToAnnexB (avcc : Avcc) (fuel : Nat) : Option (Except Stop (List UInt8)) :=
  if avcc.input.isEmpty || !([1, 2, 4].contains avcc.nalLengthSize) then
    some (.error (.failed .fallbackDecode))
  else
    (run (fun scan => decide (scan.cursor < avcc.input.length)) (readNal avcc) fuel ⟨0, 0, []⟩).map
      fun ended => do
        let scan ← ended
        if scan.output.isEmpty then .error (.failed .fallbackDecode) else return scan.output

/-! ## What a sample is -/

/-- The units behind start codes. -/
def annexB {size : Nat} (units : List (Frame size)) : List UInt8 :=
  units.flatMap fun unit => annexBStartCode ++ unit.payload

/-- The sample is a sequence of non-empty units within the limits, and this its conversion. -/
structure Converts (avcc : Avcc) (units : List (Frame avcc.nalLengthSize)) (output : List UInt8) :
    Prop where
  sizes : avcc.nalLengthSize = 1 ∨ avcc.nalLengthSize = 2 ∨ avcc.nalLengthSize = 4
  nonempty : units ≠ []
  count : units.length ≤ avcc.maxNals
  reads : avcc.input = units.flatMap Frame.bytes
  writes : output = annexB units
  small : output.length ≤ avcc.maxOutputBytes

theorem annexB_append {size : Nat} (units : List (Frame size)) (unit : Frame size) :
    annexB (units ++ [unit]) = annexB units ++ annexBStartCode ++ unit.payload := by
  unfold annexB
  rw [List.flatMap_append, List.flatMap_singleton, List.append_assoc]

/-! ## One round -/

/-- The loop over a short prefix never leaves its integer type. -/
theorem readLength_eq {bytes : List UInt8} (short : bytes.length ≤ 4) :
    readLength bytes = some (beValue bytes) := by
  have within : ∀ (bytes : List UInt8) (init : Nat), (init + 1) * 256 ^ bytes.length ≤ 2 ^ 64 →
      bytes.foldlM (fun length byte =>
          (u64CheckedMul length 256).bind fun value => u64CheckedAdd value byte.toNat) init =
        some (bytes.foldl (fun value byte => value * 256 + byte.toNat) init) := by
    intro bytes
    induction bytes with
    | nil =>
        intro init _
        rfl
    | cons byte rest ih =>
        intro init fits
        have small : byte.toNat < 256 := byte.toNat_lt
        have later : (init * 256 + byte.toNat + 1) * 256 ^ rest.length ≤ 2 ^ 64 := by
          refine le_trans (Nat.mul_le_mul_right _ (?_ : _ ≤ (init + 1) * 256)) ?_
          · omega
          · rw [List.length_cons, pow_succ] at fits
            rw [Nat.mul_assoc, Nat.mul_comm 256]
            exact fits
        have one : 1 ≤ 256 ^ rest.length :=
          Nat.one_le_two_pow.trans (Nat.pow_le_pow_left (by decide) _)
        have sum : init * 256 + byte.toNat < 2 ^ 64 := by
          have below := Nat.mul_le_mul_left (init * 256 + byte.toNat + 1) one
          omega
        have product : init * 256 < 2 ^ 64 := lt_of_le_of_lt (Nat.le_add_right _ _) sum
        rw [List.foldlM_cons, u64CheckedMul, if_pos product, Option.bind_some, u64CheckedAdd,
          if_pos sum]
        exact ih _ later
  refine within bytes 0 ?_
  rw [Nat.zero_add, Nat.one_mul]
  exact le_trans (Nat.pow_le_pow_right (by decide) short) (by omega)

/-- A limit that is reached is an error. -/
theorem appendAnnexBNal_eq (output nal : List UInt8) {maxOutputBytes : Nat}
    (fits : maxOutputBytes < 2 ^ 64) :
    appendAnnexBNal output nal maxOutputBytes =
      if output.length + 4 + nal.length ≤ maxOutputBytes then
        .ok (output ++ annexBStartCode ++ nal)
      else .error (.failed .fallbackLimit) := by
  have code : annexBStartCode.length = 4 := rfl
  unfold appendAnnexBNal
  rw [code]
  by_cases small : output.length + 4 + nal.length ≤ maxOutputBytes
  · have first : u64CheckedAdd output.length 4 = some (output.length + 4) := if_pos (by omega)
    have second : u64CheckedAdd (output.length + 4) nal.length =
        some (output.length + 4 + nal.length) := if_pos (by omega)
    have more : minus (output.length + 4 + nal.length) output.length =
        .ok (output.length + 4 + nal.length - output.length) := if_pos (by omega)
    rw [first, Option.bind_some, second, Option.filter_some, if_pos (decide_eq_true small),
      if_pos small]
    show (minus _ _ >>= fun _ => _) = _
    rw [more]
    rfl
  · rw [if_neg small]
    have none : ((u64CheckedAdd output.length 4).bind fun length =>
        u64CheckedAdd length nal.length).filter
          (fun length => decide (length ≤ maxOutputBytes)) = none := by
      rw [Option.filter_eq_none_iff]
      intro length found
      obtain ⟨sum, first, second⟩ := Option.bind_eq_some_iff.1 found
      obtain ⟨rfl, -⟩ := u64CheckedAdd_eq_some.1 first
      obtain ⟨rfl, -⟩ := u64CheckedAdd_eq_some.1 second
      simpa using small
    rw [none]
    rfl

section Round

variable {avcc : Avcc} {scan : Scan}

/-- A round that comes to a unit takes it over, unless a limit is reached. -/
theorem readNal_frame (sizes : avcc.nalLengthSize ≤ 4) (inside : scan.cursor ≤ avcc.input.length)
    (counted : scan.nals ≤ scan.cursor) {frame : Frame avcc.nalLengthSize} {rest : List UInt8}
    (starts : avcc.input.drop scan.cursor = frame.bytes ++ rest) :
    readNal avcc scan =
      if scan.nals + 1 ≤ avcc.maxNals ∧
          scan.output.length + 4 + frame.payload.length ≤ avcc.maxOutputBytes then
        .ok ⟨scan.cursor + frame.bytes.length, scan.nals + 1,
          scan.output ++ annexBStartCode ++ frame.payload⟩
      else .error (.failed .fallbackLimit) := by
  have slice := avcc.slice
  have outputFits := avcc.outputFits
  have whole : frame.bytes.length + rest.length = avcc.input.length - scan.cursor := by
    rw [← List.length_append, ← starts, List.length_drop]
  have parts := frame.length_bytes
  have some := frame.payload_pos
  have header : (avcc.input.take (scan.cursor + avcc.nalLengthSize)).drop scan.cursor =
      frame.header := by
    rw [List.drop_take, Nat.add_sub_cancel_left, starts, frame.take_header]
  have payload : (avcc.input.take (scan.cursor + avcc.nalLengthSize + frame.payload.length)).drop
      (scan.cursor + avcc.nalLengthSize) = frame.payload := by
    rw [List.drop_take, Nat.add_sub_cancel_left, ← List.drop_drop, starts, frame.take_payload]
  have prefixEnd : u64CheckedAdd scan.cursor avcc.nalLengthSize =
      Option.some (scan.cursor + avcc.nalLengthSize) := if_pos (by omega)
  have prefixInside : scan.cursor + avcc.nalLengthSize ≤ avcc.input.length := by omega
  have unitEnd : u64CheckedAdd (scan.cursor + avcc.nalLengthSize) frame.payload.length =
      Option.some (scan.cursor + avcc.nalLengthSize + frame.payload.length) := if_pos (by omega)
  have unitInside :
      scan.cursor + avcc.nalLengthSize + frame.payload.length ≤ avcc.input.length := by omega
  have announced : readLength frame.header = Option.some frame.payload.length := by
    rw [readLength_eq (by rw [frame.sized]; exact sizes), frame.announced]
  have next : scan.cursor + avcc.nalLengthSize + frame.payload.length =
      scan.cursor + frame.bytes.length := by omega
  have one : plus scan.nals 1 = .ok (scan.nals + 1) := if_pos (by omega)
  have readsHeader : sliceOf avcc.input scan.cursor (scan.cursor + avcc.nalLengthSize) =
      .ok frame.header := by
    rw [sliceOf, if_pos ⟨by omega, prefixInside⟩, header]
  have readsPayload : sliceOf avcc.input (scan.cursor + avcc.nalLengthSize)
      (scan.cursor + avcc.nalLengthSize + frame.payload.length) = .ok frame.payload := by
    rw [sliceOf, if_pos ⟨by omega, unitInside⟩, payload]
  have notEmpty : ¬ frame.payload.length = 0 := by omega
  unfold readNal
  simp only [prefixEnd, prefixInside, readsHeader, announced, notEmpty, unitEnd, unitInside, one,
    readsPayload, appendAnnexBNal_eq _ _ outputFits, Option.filter_some, decide_true, if_true,
    if_false, orFail, bind, Except.bind, pure, Except.pure]
  by_cases count : scan.nals + 1 ≤ avcc.maxNals
  · have notOver : ¬ avcc.maxNals < scan.nals + 1 := by omega
    simp only [notOver, if_false, count, true_and]
    by_cases small : scan.output.length + 4 + frame.payload.length ≤ avcc.maxOutputBytes
    · simp only [small, if_true, next]
    · simp only [small, if_false]
  · have beyond : avcc.maxNals < scan.nals + 1 := by omega
    simp only [beyond, if_true, count, false_and, if_false]

/-- A round that does not come to a unit fails. -/
theorem readNal_no_frame (sizes : avcc.nalLengthSize ≤ 4)
    (inside : scan.cursor ≤ avcc.input.length)
    (none : ¬ ∃ (frame : Frame avcc.nalLengthSize) (rest : List UInt8),
      avcc.input.drop scan.cursor = frame.bytes ++ rest) :
    readNal avcc scan = .error (.failed .fallbackDecode) := by
  have slice := avcc.slice
  have prefixEnd : u64CheckedAdd scan.cursor avcc.nalLengthSize =
      some (scan.cursor + avcc.nalLengthSize) := if_pos (by omega)
  have length : (avcc.input.drop scan.cursor).length = avcc.input.length - scan.cursor :=
    List.length_drop
  unfold readNal
  by_cases prefixInside : scan.cursor + avcc.nalLengthSize ≤ avcc.input.length
  · have header : (avcc.input.take (scan.cursor + avcc.nalLengthSize)).drop scan.cursor =
        (avcc.input.drop scan.cursor).take avcc.nalLengthSize := by
      rw [List.drop_take, Nat.add_sub_cancel_left]
    have readsHeader : sliceOf avcc.input scan.cursor (scan.cursor + avcc.nalLengthSize) =
        .ok ((avcc.input.drop scan.cursor).take avcc.nalLengthSize) := by
      rw [sliceOf, if_pos ⟨by omega, prefixInside⟩, header]
    have short : ((avcc.input.drop scan.cursor).take avcc.nalLengthSize).length ≤ 4 := by
      rw [List.length_take]
      omega
    simp only [prefixEnd, prefixInside, readsHeader, readLength_eq short, Option.filter_some,
      decide_true, if_true, orFail, bind, Except.bind]
    by_cases empty : beValue ((avcc.input.drop scan.cursor).take avcc.nalLengthSize) = 0
    · simp only [empty, if_true]
    · have tooLong : ¬ scan.cursor + avcc.nalLengthSize +
          beValue ((avcc.input.drop scan.cursor).take avcc.nalLengthSize) ≤ avcc.input.length := by
        intro fits
        obtain ⟨frame, starts, -⟩ := @exists_frame avcc.nalLengthSize
          (avcc.input.drop scan.cursor) (by omega) empty (by omega)
        exact none ⟨frame, _, starts⟩
      have refused : (u64CheckedAdd (scan.cursor + avcc.nalLengthSize)
          (beValue ((avcc.input.drop scan.cursor).take avcc.nalLengthSize))).filter
            (fun stop => decide (stop ≤ avcc.input.length)) = Option.none := by
        rw [Option.filter_eq_none_iff]
        intro stop sum
        obtain ⟨rfl, -⟩ := u64CheckedAdd_eq_some.1 sum
        simpa using tooLong
      simp only [empty, if_false, refused]
  · simp only [prefixEnd, prefixInside, Option.filter_some, decide_false, Bool.false_eq_true,
      if_false, orFail, bind, Except.bind]

end Round

/-! ## The loop -/

/-- The bytes before the cursor are the units taken over so far. -/
structure Scanned (avcc : Avcc) (scan : Scan) (units : List (Frame avcc.nalLengthSize)) : Prop where
  inside : scan.cursor ≤ avcc.input.length
  reads : avcc.input.take scan.cursor = units.flatMap Frame.bytes
  counted : scan.nals = units.length
  writes : scan.output = annexB units
  count : units.length ≤ avcc.maxNals
  small : scan.output.length ≤ avcc.maxOutputBytes

/-- Every unit takes a byte at least. -/
theorem length_le_flatMap {size : Nat} (units : List (Frame size)) :
    units.length ≤ (units.flatMap Frame.bytes).length := by
  induction units with
  | nil => exact Nat.le_refl 0
  | cons unit rest ih =>
      have some := unit.payload_pos
      rw [List.flatMap_cons, List.length_append, List.length_cons, unit.length_bytes]
      omega

theorem Scanned.nals_le {avcc : Avcc} {scan : Scan} {units : List (Frame avcc.nalLengthSize)}
    (scanned : Scanned avcc scan units) : scan.nals ≤ scan.cursor := by
  have most := length_le_flatMap units
  rw [← scanned.reads, List.length_take, min_eq_left scanned.inside] at most
  rw [scanned.counted]
  exact most

section Loop

variable {avcc : Avcc}

/-- The state once the next unit is taken over. -/
theorem Scanned.next {scan : Scan} {units : List (Frame avcc.nalLengthSize)}
    (scanned : Scanned avcc scan units) {frame : Frame avcc.nalLengthSize} {rest : List UInt8}
    (starts : avcc.input.drop scan.cursor = frame.bytes ++ rest)
    (limits : scan.nals + 1 ≤ avcc.maxNals ∧
      scan.output.length + 4 + frame.payload.length ≤ avcc.maxOutputBytes) :
    Scanned avcc ⟨scan.cursor + frame.bytes.length, scan.nals + 1,
      scan.output ++ annexBStartCode ++ frame.payload⟩ (units ++ [frame]) := by
  have whole : frame.bytes.length + rest.length = avcc.input.length - scan.cursor := by
    rw [← List.length_append, ← starts, List.length_drop]
  have some := frame.payload_pos
  have parts := frame.length_bytes
  have inside := scanned.inside
  refine ⟨?_, ?_, ?_, ?_, ?_, ?_⟩
  · show scan.cursor + frame.bytes.length ≤ avcc.input.length
    omega
  · show avcc.input.take (scan.cursor + frame.bytes.length) = _
    rw [List.take_add, scanned.reads, starts, List.take_left, List.flatMap_append,
      List.flatMap_singleton]
  · show scan.nals + 1 = _
    rw [scanned.counted, List.length_append]
    rfl
  · show scan.output ++ annexBStartCode ++ frame.payload = _
    rw [scanned.writes, annexB_append]
  · rw [List.length_append, ← scanned.counted]
    exact limits.1
  · show (scan.output ++ annexBStartCode ++ frame.payload).length ≤ _
    rw [List.length_append, List.length_append]
    exact limits.2

/-- **A round takes one more unit over.** -/
theorem Scanned.step {scan next : Scan} {units : List (Frame avcc.nalLengthSize)}
    (sizes : avcc.nalLengthSize ≤ 4) (scanned : Scanned avcc scan units)
    (turns : readNal avcc scan = .ok next) :
    (∃ unit, Scanned avcc next (units ++ [unit])) ∧ scan.cursor < next.cursor := by
  by_cases starts : ∃ (frame : Frame avcc.nalLengthSize) (rest : List UInt8),
      avcc.input.drop scan.cursor = frame.bytes ++ rest
  · obtain ⟨frame, rest, starts⟩ := starts
    rw [readNal_frame sizes scanned.inside scanned.nals_le starts] at turns
    split at turns
    · rename_i limits
      cases turns
      have some := frame.payload_pos
      have parts := frame.length_bytes
      refine ⟨⟨frame, scanned.next starts limits⟩, ?_⟩
      show scan.cursor < scan.cursor + frame.bytes.length
      omega
    · cases turns
  · rw [readNal_no_frame sizes scanned.inside starts] at turns
    cases turns

/-- No round leaves the sample or its integer types. -/
theorem Scanned.not_panicked {scan : Scan} {units : List (Frame avcc.nalLengthSize)}
    (sizes : avcc.nalLengthSize ≤ 4) (scanned : Scanned avcc scan units) :
    readNal avcc scan ≠ .error .panicked := by
  by_cases starts : ∃ (frame : Frame avcc.nalLengthSize) (rest : List UInt8),
      avcc.input.drop scan.cursor = frame.bytes ++ rest
  · obtain ⟨frame, rest, starts⟩ := starts
    rw [readNal_frame sizes scanned.inside scanned.nals_le starts]
    split <;> simp
  · rw [readNal_no_frame sizes scanned.inside starts]
    simp

theorem scanned_start : Scanned avcc ⟨0, 0, []⟩ [] :=
  ⟨Nat.zero_le _, rfl, rfl, rfl, Nat.zero_le _, Nat.zero_le _⟩

/-- The test of the loop. -/
def unread (avcc : Avcc) (scan : Scan) : Bool := decide (scan.cursor < avcc.input.length)

/-- **From where the cursor stands, the loop takes over the units that follow.** -/
theorem run_units (sizes : avcc.nalLengthSize ≤ 4) {output : List UInt8}
    {units : List (Frame avcc.nalLengthSize)} (converts : Converts avcc units output) :
    ∀ (todo done : List (Frame avcc.nalLengthSize)) (scan : Scan), done ++ todo = units →
      Scanned avcc scan done → scan.cursor = (done.flatMap Frame.bytes).length →
      ∃ last, run (unread avcc) (readNal avcc) (todo.length + 1) scan = some (.ok last) ∧
        last.output = output := by
  intro todo
  induction todo with
  | nil =>
      intro done scan all scanned position
      rw [List.append_nil] at all
      have ends : unread avcc scan = false := by
        unfold unread
        rw [position, all, ← converts.reads]
        simp
      exact ⟨scan, run_stop ends 0, by rw [scanned.writes, all, converts.writes]⟩
  | cons unit rest ih =>
      intro done scan all scanned position
      have some := unit.payload_pos
      have parts := unit.length_bytes
      have input : avcc.input =
          done.flatMap Frame.bytes ++ (unit.bytes ++ rest.flatMap Frame.bytes) := by
        rw [converts.reads, ← all, List.flatMap_append, List.flatMap_cons]
      have starts : avcc.input.drop scan.cursor = unit.bytes ++ rest.flatMap Frame.bytes := by
        rw [input, position, List.drop_left]
      have goes : unread avcc scan = true := by
        have length := congrArg List.length starts
        rw [List.length_drop, List.length_append] at length
        unfold unread
        rw [decide_eq_true_eq]
        omega
      have whole : annexB units = annexB (done ++ [unit]) ++ annexB rest := by
        unfold annexB
        rw [← List.flatMap_append, List.append_assoc, List.singleton_append, all]
      have limits : scan.nals + 1 ≤ avcc.maxNals ∧
          scan.output.length + 4 + unit.payload.length ≤ avcc.maxOutputBytes := by
        constructor
        · have count := converts.count
          rw [← all, List.length_append, List.length_cons] at count
          rw [scanned.counted]
          omega
        · have small := converts.small
          rw [converts.writes, whole, annexB_append, ← scanned.writes, List.length_append,
            List.length_append, List.length_append] at small
          have code : annexBStartCode.length = 4 := rfl
          omega
      have turns := readNal_frame sizes scanned.inside scanned.nals_le starts
      rw [if_pos limits] at turns
      rw [List.length_cons, run_next goes turns]
      refine ih (done ++ [unit]) _ (by rw [← all, List.append_assoc]; rfl)
        (scanned.next starts limits) ?_
      show scan.cursor + unit.bytes.length = _
      rw [position, List.flatMap_append, List.flatMap_singleton, List.length_append]

/-- The loop ends on every sample, after no more rounds than the sample has bytes. -/
theorem loop_ends (sizes : avcc.nalLengthSize ≤ 4) : ∃ outcome,
    (∀ fuel, avcc.input.length < fuel →
      run (unread avcc) (readNal avcc) fuel ⟨0, 0, []⟩ = some outcome) ∧
    outcome ≠ .error .panicked ∧
    ∀ last, outcome = .ok last → ∃ units, Scanned avcc last units ∧ unread avcc last = false := by
  have keeps : ∀ scan next, (∃ units, Scanned avcc scan units) → unread avcc scan = true →
      readNal avcc scan = .ok next → ∃ units, Scanned avcc next units := by
    rintro scan next ⟨units, scanned⟩ - turns
    obtain ⟨⟨unit, later⟩, -⟩ := scanned.step sizes turns
    exact ⟨_, later⟩
  have falls : ∀ scan next, (∃ units, Scanned avcc scan units) → unread avcc scan = true →
      readNal avcc scan = .ok next →
      avcc.input.length - next.cursor < avcc.input.length - scan.cursor := by
    rintro scan next ⟨units, scanned⟩ goes turns
    obtain ⟨-, further⟩ := scanned.step sizes turns
    have unfinished := of_decide_eq_true goes
    omega
  obtain ⟨outcome, ran⟩ := exists_run (fun scan => avcc.input.length - scan.cursor) keeps falls
    (avcc.input.length + 1) ⟨0, 0, []⟩ ⟨[], scanned_start⟩ (Nat.lt_succ_self _)
  refine ⟨outcome, ?_, ?_, ?_⟩
  · intro fuel enough
    obtain ⟨extra, rfl⟩ := Nat.exists_eq_add_of_le (Nat.succ_le_of_lt enough)
    exact run_mono extra _ _ ran
  · rintro rfl
    obtain ⟨scan, ⟨units, scanned⟩, -, panicked⟩ := run_error_of keeps _ _ ⟨[], scanned_start⟩ ran
    exact scanned.not_panicked sizes panicked
  · rintro last rfl
    obtain ⟨⟨units, scanned⟩, ends⟩ := run_ok keeps _ _ _ ⟨[], scanned_start⟩ ran
    exact ⟨units, scanned, ends⟩

end Loop

/-- The admitted prefix sizes. -/
theorem size_admitted {avcc : Avcc} : [1, 2, 4].contains avcc.nalLengthSize = true ↔
    avcc.nalLengthSize = 1 ∨ avcc.nalLengthSize = 2 ∨ avcc.nalLengthSize = 4 := by
  simp

/-- **The conversion is exact.**  On every input it ends, after no more rounds than there are
bytes, without leaving a bound; and it succeeds if and only if the input is a sequence of
non-empty length-prefixed units within the limits, with those units behind start codes. -/
theorem avccToAnnexB_iff (avcc : Avcc) : ∃ outcome,
    (∀ fuel, avcc.input.length < fuel → avccToAnnexB avcc fuel = some outcome) ∧
    outcome ≠ .error .panicked ∧
    ∀ output, outcome = .ok output ↔ ∃ units, Converts avcc units output := by
  by_cases admitted : avcc.input ≠ [] ∧
      (avcc.nalLengthSize = 1 ∨ avcc.nalLengthSize = 2 ∨ avcc.nalLengthSize = 4)
  · obtain ⟨nonempty, sizes⟩ := admitted
    have small : avcc.nalLengthSize ≤ 4 := by omega
    have enters :
        ¬ ((avcc.input.isEmpty || !([1, 2, 4].contains avcc.nalLengthSize)) = true) := by
      rw [size_admitted.2 sizes, List.isEmpty_eq_false_iff.2 nonempty]
      decide
    obtain ⟨outcome, ran, clean, scanned⟩ := loop_ends small
    refine ⟨outcome >>= fun scan =>
      if scan.output.isEmpty then .error (.failed .fallbackDecode) else return scan.output,
      ?_, ?_, ?_⟩
    · intro fuel enough
      unfold avccToAnnexB
      rw [if_neg enters]
      show (run (unread avcc) (readNal avcc) fuel ⟨0, 0, []⟩).map _ = _
      rw [ran fuel enough]
      rfl
    · cases outcome with
      | error stop => simpa [bind, Except.bind] using clean
      | ok last =>
          simp only [bind, Except.bind]
          split <;> simp [pure, Except.pure]
    · intro output
      constructor
      · intro succeeded
        cases outcome with
        | error stop => cases succeeded
        | ok last =>
            obtain ⟨units, found, ends⟩ := scanned last rfl
            simp only [bind, Except.bind] at succeeded
            split at succeeded
            · cases succeeded
            · rename_i something
              cases succeeded
              have atEnd : ¬ last.cursor < avcc.input.length := of_decide_eq_false ends
              have reads := found.reads
              rw [List.take_of_length_le (by omega)] at reads
              refine ⟨units, sizes, ?_, found.count, reads, found.writes, found.small⟩
              rintro rfl
              exact nonempty reads
      · rintro ⟨units, converts⟩
        obtain ⟨last, reached, rfl⟩ :=
          run_units small converts units [] ⟨0, 0, []⟩ rfl scanned_start rfl
        have same := run_mono (avcc.input.length + 1) _ _ reached
        rw [ran _ (by omega)] at same
        cases same
        have something : last.output.isEmpty = false := by
          rw [List.isEmpty_eq_false_iff, ← List.length_pos_iff, converts.writes]
          obtain ⟨unit, rest, rfl⟩ := List.exists_cons_of_ne_nil converts.nonempty
          show 0 < (annexBStartCode ++ unit.payload ++ annexB rest).length
          have code : annexBStartCode.length = 4 := rfl
          rw [List.length_append, List.length_append]
          omega
        show (if last.output.isEmpty = true then _ else _) = _
        rw [something]
        rfl
  · have refuses : (avcc.input.isEmpty || !([1, 2, 4].contains avcc.nalLengthSize)) = true := by
      rw [not_and_or, ← size_admitted, Bool.not_eq_true] at admitted
      obtain empty | wrong := admitted
      · rw [not_ne_iff] at empty
        rw [empty]
        rfl
      · rw [wrong, Bool.not_false, Bool.or_true]
    refine ⟨.error (.failed .fallbackDecode), ?_, by simp, ?_⟩
    · intro fuel _
      unfold avccToAnnexB
      rw [if_pos refuses]
    · intro output
      constructor
      · intro succeeded
        cases succeeded
      · rintro ⟨units, converts⟩
        refine absurd ⟨?_, converts.sizes⟩ admitted
        intro empty
        have reads := converts.reads
        rw [empty] at reads
        have some := length_le_flatMap units
        rw [← reads] at some
        exact converts.nonempty (List.length_eq_zero_iff.1 (Nat.le_zero.1 some))

end MediaBooster.Media
