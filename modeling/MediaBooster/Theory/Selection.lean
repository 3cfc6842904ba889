/-
# Theory.Selection -- the first rows of a table

`firstOf` is what `SELECT … WHERE hit ORDER BY order LIMIT limit` answers, and `First` says
what such an answer is good for, without the sorting: it holds eligible rows only, in order,
at most `limit` of them, and an eligible row is left out only where the answer is full and
every row in it comes no later.

A batched delete removes the answer from the table.  `First.pending` is the count it leaves,
so batch after batch gets to the end, and `First.eq_nil` says what the end is: no eligible
row is left.
-/
import Mathlib.Data.List.Sort
import MediaBooster.Theory.Table

namespace MediaBooster.Theory.Selection

set_option autoImplicit false

open MediaBooster.Theory.Table

universe u v

variable {α : Type u} {κ : Type v} [LinearOrder κ]

/-- `SELECT … WHERE hit ORDER BY order LIMIT limit`. -/
def firstOf (order : α → κ) (limit : Nat) (hit : α → Bool) (rows : List α) : List α :=
  ((rows.filter hit).insertionSort fun a b => order a ≤ order b).take limit

/-- `chosen` are the first `limit` eligible rows. -/
structure First (order : α → κ) (limit : Nat) (eligible : α → Prop) (rows chosen : List α) :
    Prop where
  distinct : chosen.Nodup
  sorted : chosen.Pairwise fun a b => order a ≤ order b
  among : ∀ row ∈ chosen, row ∈ rows ∧ eligible row
  bounded : chosen.length ≤ limit
  first : ∀ row ∈ rows, eligible row → row ∉ chosen →
    chosen.length = limit ∧ ∀ earlier ∈ chosen, order earlier ≤ order row

variable {order : α → κ} {limit : Nat} {rows chosen : List α}

/-- **What the query answers.** -/
theorem firstOf_first {hit : α → Bool} {eligible : α → Prop}
    (reads : ∀ row, hit row = true ↔ eligible row) (nodup : rows.Nodup) :
    First order limit eligible rows (firstOf order limit hit rows) := by
  have members : ∀ row, row ∈ (rows.filter hit).insertionSort (fun a b => order a ≤ order b) ↔
      row ∈ rows ∧ eligible row := by
    intro row
    rw [List.mem_insertionSort, List.mem_filter, reads]
  have sorted : ((rows.filter hit).insertionSort fun a b => order a ≤ order b).Pairwise
      fun a b => order a ≤ order b := by
    have : Std.Total fun a b : α => order a ≤ order b := ⟨fun a b => le_total _ _⟩
    have : IsTrans α fun a b => order a ≤ order b := ⟨fun _ _ _ => le_trans⟩
    exact List.pairwise_insertionSort _ _
  have distinct : ((rows.filter hit).insertionSort fun a b => order a ≤ order b).Nodup :=
    (List.perm_insertionSort _ _).nodup_iff.2 (nodup.filter hit)
  have split := List.take_append_drop limit
    ((rows.filter hit).insertionSort fun a b => order a ≤ order b)
  constructor
  case distinct => exact distinct.sublist (List.take_sublist _ _)
  case sorted => exact sorted.sublist (List.take_sublist _ _)
  case among =>
    intro row member
    exact (members row).1 (List.mem_of_mem_take member)
  case bounded => exact List.length_take_le _ _
  case first =>
    intro row there wanted left
    have listed := (members row).2 ⟨there, wanted⟩
    rw [← split] at listed sorted
    rcases List.mem_append.1 listed with taken | dropped
    · exact absurd taken left
    · constructor
      · have some := List.length_pos_of_mem dropped
        rw [List.length_drop] at some
        show (List.take limit _).length = limit
        rw [List.length_take]
        omega
      · intro earlier member
        exact (List.pairwise_append.1 sorted).2.2 earlier member row dropped

/-! ## Picking rows by their keys -/

section Keys

variable {ι : Type v} [BEq ι] [LawfulBEq ι] {key : α → ι}

/-- `WHERE key IN (…)` picks the rows the keys were taken from. -/
theorem picked_iff (keyed : KeyedBy key rows) (among : ∀ row ∈ chosen, row ∈ rows) {row : α}
    (there : row ∈ rows) : (chosen.map key).contains (key row) = true ↔ row ∈ chosen := by
  rw [List.contains_iff_mem, List.mem_map]
  constructor
  · rintro ⟨other, member, same⟩
    rw [← keyed.eq_of_key (among other member) there same]
    exact member
  · exact fun member => ⟨row, member, rfl⟩

theorem length_picked (keyed : KeyedBy key rows) (distinct : chosen.Nodup)
    (among : ∀ row ∈ chosen, row ∈ rows) :
    (rows.filter fun row => (chosen.map key).contains (key row)).length = chosen.length := by
  refine List.Perm.length_eq ?_
  have nodup : rows.Nodup := List.Nodup.of_map key keyed
  rw [List.perm_ext_iff_of_nodup (nodup.filter _) distinct]
  intro row
  rw [List.mem_filter]
  constructor
  · exact fun member => (picked_iff keyed among member.1).1 member.2
  · exact fun member => ⟨among row member, (picked_iff keyed among (among row member)).2 member⟩

/-- The keys of the picked rows are the keys that were given. -/
theorem any_picked (among : ∀ row ∈ chosen, row ∈ rows) (wanted : ι) :
    ((rows.filter fun row => (chosen.map key).contains (key row)).any fun row =>
      key row == wanted) = (chosen.map key).contains wanted := by
  rw [Bool.eq_iff_iff, List.any_eq_true, List.contains_iff_mem]
  constructor
  · rintro ⟨row, member, same⟩
    rw [← eq_of_beq same, ← List.contains_iff_mem]
    exact (List.mem_filter.1 member).2
  · intro member
    obtain ⟨row, picked, same⟩ := List.mem_map.1 member
    refine ⟨row, List.mem_filter.2 ⟨among row picked, ?_⟩, beq_iff_eq.2 same⟩
    rw [List.contains_iff_mem, same]
    exact member

end Keys

namespace First

variable {eligible : α → Prop}

/-- An answer is empty only where nothing is eligible. -/
theorem eq_nil (first : First order limit eligible rows []) (positive : 0 < limit) :
    ∀ row ∈ rows, ¬ eligible row := by
  intro row there wanted
  have full := (first.first row there wanted List.not_mem_nil).1
  rw [List.length_nil] at full
  omega

/-- What is left to delete after the answer was. -/
theorem pending {hit gone : α → Bool} (first : First order limit eligible rows chosen)
    (reads : ∀ row, hit row = true ↔ eligible row) (nodup : rows.Nodup)
    (picks : ∀ row ∈ rows, gone row = true ↔ row ∈ chosen) :
    ((deleteWhere gone rows).filter hit).length + chosen.length = (rows.filter hit).length := by
  have there : ((rows.filter hit).filter gone).Perm chosen := by
    rw [List.perm_ext_iff_of_nodup ((nodup.filter _).filter _) first.distinct]
    intro row
    rw [List.mem_filter, List.mem_filter]
    constructor
    · exact fun member => (picks row member.1.1).1 member.2
    · intro member
      obtain ⟨stored, wanted⟩ := first.among row member
      exact ⟨⟨stored, (reads row).2 wanted⟩, (picks row stored).2 member⟩
  have parts := List.length_eq_length_filter_add (l := rows.filter hit) gone
  have swapped : (deleteWhere gone rows).filter hit =
      (rows.filter hit).filter fun row => !gone row := by
    rw [deleteWhere, List.filter_filter, List.filter_filter]
    exact List.filter_congr fun row _ => Bool.and_comm _ _
  rw [swapped, parts, there.length_eq]
  omega

/-- **Urgent rows are taken first.**  Where they stand before all others and some of them are left
out, the answer is full of urgent rows; so those left out and a full answer are no more than there
were. -/
theorem urgent_left {hurry : α → Bool} {left : List α}
    (first : First order limit eligible rows chosen)
    (ahead : ∀ a b, eligible a → order a ≤ order b → hurry b = true → hurry a = true)
    (wanted : ∀ row ∈ rows, hurry row = true → eligible row) (distinct : left.Nodup)
    (among : ∀ row ∈ left, row ∈ rows ∧ hurry row = true ∧ row ∉ chosen) (some_ : left ≠ []) :
    left.length + limit ≤ (rows.filter hurry).length := by
  obtain ⟨row, rest, rfl⟩ := List.exists_cons_of_ne_nil some_
  obtain ⟨there, urgent, out⟩ := among row List.mem_cons_self
  obtain ⟨full, before⟩ := first.first row there (wanted row there urgent) out
  have apart : ((row :: rest) ++ chosen).Nodup :=
    List.nodup_append.2 ⟨distinct, first.distinct, fun a member b taken same =>
      (among a member).2.2 (same ▸ taken)⟩
  have within : (row :: rest) ++ chosen ⊆ rows.filter hurry := by
    intro other member
    obtain left_ | taken := List.mem_append.1 member
    · exact List.mem_filter.2 ⟨(among other left_).1, (among other left_).2.1⟩
    · exact List.mem_filter.2 ⟨(first.among other taken).1,
        ahead _ _ (first.among other taken).2 (before other taken) urgent⟩
  have count := (List.subperm_of_subset apart within).length_le
  rw [List.length_append, full] at count
  exact count

end First

end MediaBooster.Theory.Selection
