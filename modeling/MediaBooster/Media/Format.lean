/-
# Media.Format -- the encoded formats, and how media work fails

A source is handled by the format its own bytes show, never by its name.  The class of a
format must match the class the upload was reserved for.
-/
import MediaBooster.Domain.Upload

namespace MediaBooster.Media

set_option autoImplicit false

open MediaBooster.Domain

/-- Supported encoded format, determined from file bytes. -/
inductive MediaFormat
  | jpeg | png | gif | webp | avif | heif | mp4 | quickTime | webm
deriving DecidableEq

namespace MediaFormat

/-- `MediaFormat::kind`. -/
def kind : MediaFormat → MediaKind
  | .jpeg | .png | .gif | .webp | .avif | .heif => .image
  | .mp4 | .quickTime | .webm => .video

/-- `MediaFormat::content_type`. -/
def contentType : MediaFormat → String
  | .jpeg => "image/jpeg"
  | .png => "image/png"
  | .gif => "image/gif"
  | .webp => "image/webp"
  | .avif => "image/avif"
  | .heif => "image/heif"
  | .mp4 => "video/mp4"
  | .quickTime => "video/quicktime"
  | .webm => "video/webm"

end MediaFormat

/-- Native media failure. -/
inductive MediaError
  | invalidRequest (message : String)
  | unsupportedSignature
  | declaredKindMismatch
  | containerMismatch
  | unsupportedCodec (codec : String)
  | invalidProbe
  | fallbackLimit
  | fallbackDecode
deriving DecidableEq

/-! ## Checked and unchecked steps -/

/-- How a step ends without a result: with an error, or with the panic of an index out of range
or of an operation that leaves its integer type. -/
inductive Stop
  | failed (error : MediaError)
  | panicked
deriving DecidableEq

/-- `ok_or`. -/
def orFail {α : Type} (error : MediaError) : Option α → Except Stop α
  | none => .error (.failed error)
  | some a => .ok a

section Steps

variable {α β : Type}

theorem ok_bind (a : α) (next : α → Except Stop β) : (Except.ok a >>= next) = next a := rfl

theorem error_bind (stop : Stop) (next : α → Except Stop β) :
    (Except.error stop >>= next) = .error stop := rfl

theorem orFail_some (error : MediaError) (a : α) : orFail error (some a) = .ok a := rfl

theorem orFail_none (error : MediaError) :
    orFail error (none : Option α) = .error (.failed error) := rfl

end Steps

/-- A `u64` or `usize` sum the code does not check. -/
def plus (a b : Nat) : Except Stop Nat := if a + b < 2 ^ 64 then .ok (a + b) else .error .panicked

/-- A difference the code does not check. -/
def minus (a b : Nat) : Except Stop Nat := if b ≤ a then .ok (a - b) else .error .panicked

/-- A `u64` product the code does not check. -/
def times (a b : Nat) : Except Stop Nat := if a * b < 2 ^ 64 then .ok (a * b) else .error .panicked

/-- A quotient, which has no value for the divisor zero. -/
def quotient (a b : Nat) : Except Stop Nat := if b = 0 then .error .panicked else .ok (a / b)

end MediaBooster.Media
