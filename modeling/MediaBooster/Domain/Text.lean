/-
# Domain.Text -- cutting a text at a character, reading unsigned numbers

`str::split_once` cuts at the first occurrence of the separator and gives nothing where there
is none (`splitOnce_eq_some`, `splitOnce_eq_none`).  `str::parse::<u64>` reads digits behind an
optional `+`.
-/
import MediaBooster.Domain.Primitives
import Mathlib.Data.List.Basic

namespace MediaBooster.Domain

set_option autoImplicit false

/-- `str::split_once`. -/
def splitOnce (separator : Char) : List Char → Option (List Char × List Char)
  | [] => none
  | c :: rest =>
      if c = separator then some ([], rest)
      else (splitOnce separator rest).map fun (before, after) => (c :: before, after)

theorem splitOnce_eq_none {separator : Char} {text : List Char} :
    splitOnce separator text = none ↔ separator ∉ text := by
  induction text with
  | nil => simp [splitOnce]
  | cons c rest ih =>
      by_cases found : c = separator
      · simp [splitOnce, found]
      · simp [splitOnce, found, ih, Ne.symm found]

theorem splitOnce_append {separator : Char} {before : List Char} (absent : separator ∉ before)
    (after : List Char) :
    splitOnce separator (before ++ separator :: after) = some (before, after) := by
  induction before with
  | nil => simp [splitOnce]
  | cons c rest ih =>
      rw [List.mem_cons, not_or] at absent
      simp [splitOnce, Ne.symm absent.1, ih absent.2]

theorem splitOnce_eq_some {separator : Char} {text before after : List Char} :
    splitOnce separator text = some (before, after) ↔
      text = before ++ separator :: after ∧ separator ∉ before := by
  constructor
  · intro cut
    induction text generalizing before with
    | nil => cases cut
    | cons c rest ih =>
        by_cases found : c = separator
        · simp only [splitOnce, found, if_true, Option.some.injEq, Prod.mk.injEq] at cut
          obtain ⟨rfl, rfl⟩ := cut
          exact ⟨by rw [found]; rfl, by simp⟩
        · simp only [splitOnce, found, if_false, Option.map_eq_some_iff, Prod.exists,
            Prod.mk.injEq] at cut
          obtain ⟨before', after', later, rfl, rfl⟩ := cut
          obtain ⟨rfl, absent⟩ := ih later
          exact ⟨rfl, by simp [absent, Ne.symm found]⟩
  · rintro ⟨rfl, absent⟩
    exact splitOnce_append absent after

/-- The text behind an optional `+`. -/
def unsigned : List Char → List Char
  | '+' :: rest => rest
  | text => text

/-- `str::parse::<u64>`. -/
def parseU64 (text : List Char) : Option Nat :=
  let digits := unsigned text
  if digits.isEmpty || !digits.all isAsciiDigit then none
  else
    let value := Nat.ofDigitChars 10 digits 0
    if value < 2 ^ 64 then some value else none

theorem isDigit_eq (c : Char) : isAsciiDigit c = c.isDigit := by
  cases plain : c.isDigit with
  | true => exact isAsciiDigit_of_isDigit plain
  | false =>
      cases ascii : isAsciiDigit c with
      | false => rfl
      | true =>
          have digit : c.isDigit = true := by
            unfold isAsciiDigit at ascii
            unfold Char.isDigit
            rw [Bool.and_eq_true, decide_eq_true_eq, decide_eq_true_eq] at ascii ⊢
            exact ascii
          rw [plain] at digit
          cases digit

/-- Digits alone are read as the number they stand for. -/
theorem parseU64_digits {text : List Char} (nonempty : text ≠ [])
    (digits : ∀ c ∈ text, c.isDigit = true) :
    parseU64 text =
      if Nat.ofDigitChars 10 text 0 < 2 ^ 64 then some (Nat.ofDigitChars 10 text 0) else none := by
  have all : text.all isAsciiDigit = true := by
    rw [List.all_eq_true]
    intro c member
    rw [isDigit_eq, digits c member]
  have noSign : unsigned text = text := by
    unfold unsigned
    split
    · exact absurd (digits '+' List.mem_cons_self) (by decide)
    · rfl
  simp [parseU64, noSign, nonempty, all]

end MediaBooster.Domain
