/-
# Theory.Framing -- byte strings cut into length-prefixed frames

A `Frame size` is a header of `size` bytes that announces, most significant byte first, how
long the payload behind it is.  A string that is long enough for its first header and for what
that announces starts with a frame (`exists_frame`), and of a string that starts with a frame a
reader finds the header and the payload by counting (`take_header`, `drop_header`,
`take_payload`).

`beBytes` writes such a header for a number, and `beValue` reads it back (`beValue_beBytes`).
-/
import Mathlib.Data.List.Basic
import Mathlib.Tactic.Ring

namespace MediaBooster.Theory.Framing

set_option autoImplicit false

/-- The number that bytes stand for, the most significant one first. -/
def beValue (bytes : List UInt8) : Nat :=
  bytes.foldl (fun value byte => value * 256 + byte.toNat) 0

/-- The last bytes of a number, so many of them, the most significant one first. -/
def beBytes : Nat → Nat → List UInt8
  | 0, _ => []
  | width + 1, value => beBytes width (value / 256) ++ [UInt8.ofNat value]

@[simp] theorem beBytes_length (width value : Nat) : (beBytes width value).length = width := by
  induction width generalizing value with
  | zero => rfl
  | succ width ih => rw [beBytes, List.length_append, ih, List.length_singleton]

theorem beValue_append (bytes : List UInt8) (byte : UInt8) :
    beValue (bytes ++ [byte]) = beValue bytes * 256 + byte.toNat := by
  unfold beValue
  rw [List.foldl_append, List.foldl_cons, List.foldl_nil]

/-- A number that fits is read back from its bytes. -/
theorem beValue_beBytes {width value : Nat} (fits : value < 256 ^ width) :
    beValue (beBytes width value) = value := by
  induction width generalizing value with
  | zero =>
      rw [Nat.pow_zero] at fits
      rw [Nat.lt_one_iff.1 fits]
      rfl
  | succ width ih =>
      have high : value / 256 < 256 ^ width := by
        rw [Nat.pow_succ] at fits
        exact Nat.div_lt_of_lt_mul (by omega)
      have low : (UInt8.ofNat value).toNat = value % 256 := rfl
      rw [beBytes, beValue_append, ih high, low]
      omega

/-- Numbers that fit are told apart by their bytes. -/
theorem beBytes_inj {width m n : Nat} (fits : m < 256 ^ width) (fits' : n < 256 ^ width)
    (same : beBytes width m = beBytes width n) : m = n := by
  rw [← beValue_beBytes fits, same, beValue_beBytes fits']

/-- A non-empty payload behind a header of so many bytes that announces its length. -/
structure Frame (size : Nat) where
  header : List UInt8
  payload : List UInt8
  sized : header.length = size
  announced : beValue header = payload.length
  nonempty : payload ≠ []

namespace Frame

variable {size : Nat}

/-- The frame as it is sent. -/
def bytes (frame : Frame size) : List UInt8 := frame.header ++ frame.payload

theorem length_bytes (frame : Frame size) : frame.bytes.length = size + frame.payload.length := by
  rw [bytes, List.length_append, frame.sized]

theorem payload_pos (frame : Frame size) : 0 < frame.payload.length :=
  List.length_pos_iff.2 frame.nonempty

theorem take_header (frame : Frame size) (rest : List UInt8) :
    (frame.bytes ++ rest).take size = frame.header := by
  rw [bytes, List.append_assoc]
  exact List.take_left' frame.sized

theorem drop_header (frame : Frame size) (rest : List UInt8) :
    (frame.bytes ++ rest).drop size = frame.payload ++ rest := by
  rw [bytes, List.append_assoc]
  exact List.drop_left' frame.sized

theorem take_payload (frame : Frame size) (rest : List UInt8) :
    ((frame.bytes ++ rest).drop size).take frame.payload.length = frame.payload := by
  rw [drop_header, List.take_left]

end Frame

/-- **A string with room for what its first header announces starts with a frame.** -/
theorem exists_frame {size : Nat} {bytes : List UInt8} (hasHeader : size ≤ bytes.length)
    (announces : beValue (bytes.take size) ≠ 0)
    (hasPayload : size + beValue (bytes.take size) ≤ bytes.length) :
    ∃ frame : Frame size, bytes = frame.bytes ++ bytes.drop (size + beValue (bytes.take size)) ∧
      frame.header = bytes.take size ∧
      frame.payload = (bytes.drop size).take (beValue (bytes.take size)) := by
  have sized : (bytes.take size).length = size := by
    rw [List.length_take]
    omega
  have payload : ((bytes.drop size).take (beValue (bytes.take size))).length =
      beValue (bytes.take size) := by
    rw [List.length_take, List.length_drop]
    omega
  refine ⟨⟨bytes.take size, (bytes.drop size).take (beValue (bytes.take size)), sized, payload.symm,
    ?_⟩, ?_, rfl, rfl⟩
  · rw [← List.length_pos_iff, payload]
    omega
  · show bytes = (bytes.take size ++ (bytes.drop size).take _) ++ _
    rw [List.append_assoc, ← List.drop_drop, List.take_append_drop, List.take_append_drop]

end MediaBooster.Theory.Framing
