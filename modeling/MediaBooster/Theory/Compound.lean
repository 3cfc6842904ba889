/-
# Theory.Compound -- compound queries

The rows of a `SELECT` that is compounded of several.  The operators all bind equally and
associate to the left: each combines everything before it with the next query.

* `mem_combine`: which rows an operator leaves.
* `differences_eq_nil`: two differences in one compound query without parentheses.  The second
  one takes its rows from the first as well, so what only the first table has is lost.
-/
import Mathlib.Data.List.Dedup

namespace MediaBooster.Theory.Compound

set_option autoImplicit false

variable {ρ : Type} [DecidableEq ρ]

/-- An operator of a compound query. -/
inductive Operator
  | unionAll
  | except
deriving DecidableEq

/-- The rows of one operator: `EXCEPT` gives each row once, `UNION ALL` keeps all of them. -/
def Operator.combine : Operator → List ρ → List ρ → List ρ
  | .unionAll, left, right => left ++ right
  | .except, left, right => (left.filter fun row => !right.contains row).dedup

/-- A compound query, combined from the left. -/
def compound (first : List ρ) : List (Operator × List ρ) → List ρ
  | [] => first
  | (operator, rows) :: rest => compound (operator.combine first rows) rest

theorem mem_combine {operator : Operator} {left right : List ρ} {row : ρ} :
    row ∈ operator.combine left right ↔
      match operator with
      | .unionAll => row ∈ left ∨ row ∈ right
      | .except => row ∈ left ∧ row ∉ right := by
  cases operator with
  | unionAll => exact List.mem_append
  | except => simp [Operator.combine]

/-- **Two differences in one compound query.**  Of `left EXCEPT right UNION ALL right EXCEPT left`
no row is left exactly when every row of `right` is in `left`. -/
theorem differences_eq_nil {left right : List ρ} :
    compound left [(.except, right), (.unionAll, right), (.except, left)] = [] ↔
      ∀ row ∈ right, row ∈ left := by
  rw [List.eq_nil_iff_forall_not_mem]
  simp only [compound, mem_combine]
  constructor
  · intro none row member
    by_contra missing
    exact none row ⟨.inr member, missing⟩
  · rintro covered row ⟨⟨inside, -⟩ | member, missing⟩
    · exact missing inside
    · exact missing (covered row member)

end MediaBooster.Theory.Compound
