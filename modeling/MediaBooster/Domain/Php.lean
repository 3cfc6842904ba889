/-
# Domain.Php -- what the adapters' PHP computes with

A text stands for the bytes of a PHP string in UTF-8.  `preg_match` is here for patterns between
`^` and `$` that say which class each character is of; the `$` of PCRE also matches before a final
line feed.

`Mixed` is a value decoded from JSON, an associative array with its keys in order.
-/
import Mathlib.Data.List.Basic

namespace MediaBooster.Domain

set_option autoImplicit false

/-- `strtoupper`. -/
def strtoupper (text : String) : String := String.ofList (text.toList.map Char.toUpper)

/-- `strtolower`. -/
def strtolower (text : String) : String := String.ofList (text.toList.map Char.toLower)

/-- Only a capital letter has another lower case. -/
theorem toLower_of_not_upper {c : Char} (other : ¬ (c.val ≥ 'A'.val ∧ c.val ≤ 'Z'.val)) :
    c.toLower = c := by
  unfold Char.toLower
  rw [dif_neg other]

theorem toLower_toLower (c : Char) : c.toLower.toLower = c.toLower := by
  by_cases upper : c.val ≥ 'A'.val ∧ c.val ≤ 'Z'.val
  · refine toLower_of_not_upper ?_
    unfold Char.toLower
    rw [dif_pos upper]
    rintro ⟨-, above⟩
    have lower := upper.1
    have bound := upper.2
    simp only [UInt32.le_iff_toNat_le, UInt32.toNat_add, ge_iff_le] at lower bound above
    simp at lower bound above
    omega
  · rw [toLower_of_not_upper upper, toLower_of_not_upper upper]

/-- Lower case is lower case. -/
@[simp] theorem strtolower_strtolower (text : String) :
    strtolower (strtolower text) = strtolower text := by
  unfold strtolower
  rw [String.toList_ofList, List.map_map]
  congr 2
  funext c
  exact toLower_toLower c

theorem strtolower_append (first second : String) :
    strtolower (first ++ second) = strtolower first ++ strtolower second := by
  unfold strtolower
  rw [String.toList_append, List.map_append, String.ofList_append]

/-- `=` under `utf8mb4_unicode_ci`, of texts in ASCII. -/
def collates (first second : String) : Bool := strtolower first == strtolower second

/-! ## Patterns -/

/-- The whole text is of the class, and as long as the quantifier says. -/
def pregWhole (inClass : Char → Bool) (least : Nat) (most : Option Nat) (text : List Char) : Bool :=
  text.all inClass && decide (least ≤ text.length) && most.all fun most => decide (text.length ≤ most)

/-- `preg_match` of `^[…]{least,most}$`: `$` matches at the end, and before a final line feed. -/
def pregMatch (inClass : Char → Bool) (least : Nat) (most : Option Nat) (text : List Char) : Bool :=
  pregWhole inClass least most text ||
    (text.getLast? == some '\n' && pregWhole inClass least most text.dropLast)

section Patterns

variable {inClass : Char → Bool} {least : Nat} {most : Option Nat} {text : List Char}

/-- Without a final line feed, a pattern that matches is about the whole text. -/
theorem pregWhole_of_match (matched : pregMatch inClass least most text = true)
    (ends : text.getLast? ≠ some '\n') : pregWhole inClass least most text = true := by
  unfold pregMatch at matched
  rw [Bool.or_eq_true, Bool.and_eq_true, beq_iff_eq] at matched
  exact matched.resolve_right fun both => ends both.1

theorem all_of_pregWhole (whole : pregWhole inClass least most text = true) :
    text.all inClass = true ∧ least ≤ text.length ∧ ∀ bound, most = some bound → text.length ≤ bound := by
  unfold pregWhole at whole
  rw [Bool.and_eq_true, Bool.and_eq_true, decide_eq_true_eq] at whole
  refine ⟨whole.1.1, whole.1.2, ?_⟩
  rintro bound rfl
  exact of_decide_eq_true whole.2

end Patterns

/-- The characters are of these classes, one each. -/
def ofClasses : List (Char → Bool) → List Char → Bool
  | [], [] => true
  | inClass :: classes, c :: text => inClass c && ofClasses classes text
  | _, _ => false

/-- `preg_match` of `^[…][…]…$`. -/
def pregMatchClasses (classes : List (Char → Bool)) (text : List Char) : Bool :=
  ofClasses classes text || (text.getLast? == some '\n' && ofClasses classes text.dropLast)

/-- `[a-fA-F0-9]`. -/
def isHex (c : Char) : Bool :=
  c.isDigit || (decide ('a' ≤ c) && decide (c ≤ 'f')) || (decide ('A' ≤ c) && decide (c ≤ 'F'))

/-- `^[a-fA-F0-9]{8}-[a-fA-F0-9]{4}-[1-8][a-fA-F0-9]{3}-[89abAB][a-fA-F0-9]{3}-[a-fA-F0-9]{12}$`. -/
def uuidClasses : List (Char → Bool) :=
  List.replicate 8 isHex ++ [fun c => c == '-'] ++ List.replicate 4 isHex ++ [fun c => c == '-'] ++
    [fun c => decide ('1' ≤ c) && decide (c ≤ '8')] ++ List.replicate 3 isHex ++ [fun c => c == '-'] ++
    [fun c => ['8', '9', 'a', 'b', 'A', 'B'].contains c] ++ List.replicate 3 isHex ++
    [fun c => c == '-'] ++ List.replicate 12 isHex

/-- The text matches the adapters' pattern of a UUID. -/
def isUuid (text : String) : Bool := pregMatchClasses uuidClasses text.toList

/-- `[a-f0-9]`. -/
def isLowerHex (c : Char) : Bool := c.isDigit || (decide ('a' ≤ c) && decide (c ≤ 'f'))

/-- `^[a-f0-9]{8}-[a-f0-9]{4}-[1-8][a-f0-9]{3}-[89ab][a-f0-9]{3}-[a-f0-9]{12}$`. -/
def lowerUuidClasses : List (Char → Bool) :=
  List.replicate 8 isLowerHex ++ [fun c => c == '-'] ++ List.replicate 4 isLowerHex ++
    [fun c => c == '-'] ++ [fun c => decide ('1' ≤ c) && decide (c ≤ '8')] ++
    List.replicate 3 isLowerHex ++ [fun c => c == '-'] ++
    [fun c => ['8', '9', 'a', 'b'].contains c] ++ List.replicate 3 isLowerHex ++
    [fun c => c == '-'] ++ List.replicate 12 isLowerHex

/-- The text matches the pattern of a UUID in lower case. -/
def isLowerUuid (text : String) : Bool := pregMatchClasses lowerUuidClasses text.toList

/-- `explode(',', …)` of the characters. -/
def explodeChars : List Char → List (List Char)
  | [] => [[]]
  | c :: rest =>
      match explodeChars rest with
      | [] => [[c]]
      | first :: others => if c = ',' then [] :: first :: others else (c :: first) :: others

/-- `explode(',', …)`. -/
def explode (text : String) : List String := (explodeChars text.toList).map String.ofList

/-! ## Decoded values -/

/-- A PHP value that came out of `json_decode`. -/
inductive Mixed
  | null
  | bool (value : Bool)
  | int (value : Int)
  | float
  | text (value : String)
  | list (items : List Mixed)
  | map (entries : List (String × Mixed))

namespace Mixed

/-- `is_array`. -/
def isArray : Mixed → Bool
  | .list _ | .map _ => true
  | _ => false

/-- `$value[key] ?? null`. -/
def field (value : Mixed) (key : String) : Mixed :=
  match value with
  | .map entries => (entries.find? fun entry => entry.1 == key).elim .null Prod.snd
  | _ => .null

/-- The text, of a value that `is_string`. -/
def text? : Mixed → Option String
  | .text value => some value
  | _ => none

/-- The integer, of a value that `is_int`. -/
def int? : Mixed → Option Int
  | .int value => some value
  | _ => none

/-- The items, of a value that `is_array` and `array_is_list`. -/
def list? : Mixed → Option (List Mixed)
  | .list items => some items
  | _ => none

end Mixed

end MediaBooster.Domain
