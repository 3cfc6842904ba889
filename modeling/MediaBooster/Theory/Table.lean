/-
# Theory.Table -- relational tables as lists of rows

A table is the list of its rows, in insertion order.  `UPDATE … WHERE` is
`updateWhere`, `DELETE … WHERE` is `deleteWhere`, a `PRIMARY KEY` or `UNIQUE`
constraint is `KeyedBy`, and `touched` lists the old and the new version of the
rows an update reaches, which is what row triggers are given.

Two kinds of facts are used by every table built on this: keys survive updates
that do not change them, and the total of a weight over the rows changes by the
weights of the touched rows only (`total_updateWhere`, `total_deleteWhere`).
The second is what an aggregate kept by triggers computes: a trigger that adds
the change of one row keeps its reading equal to the total
(`foldlM_reading`).
-/
import Mathlib.Algebra.BigOperators.Group.List.Basic
import Mathlib.Data.List.Forall2
import Mathlib.Data.List.Nodup
import Mathlib.Tactic.Abel

namespace MediaBooster.Theory.Table

set_option autoImplicit false

universe u v w

variable {α : Type u} {κ : Type v}

/-! ## Statements -/

/-- `UPDATE rows SET change WHERE matches`. -/
def updateWhere (hit : α → Bool) (change : α → α) (rows : List α) : List α :=
  rows.map fun row => if hit row then change row else row

/-- `DELETE FROM rows WHERE hit`. -/
def deleteWhere (hit : α → Bool) (rows : List α) : List α :=
  rows.filter fun row => !hit row

/-- The rows an update reaches, before and after it. -/
def touched (hit : α → Bool) (change : α → α) (rows : List α) : List (α × α) :=
  (rows.filter hit).map fun row => (row, change row)

theorem mem_updateWhere {hit : α → Bool} {change : α → α} {rows : List α} {row' : α} :
    row' ∈ updateWhere hit change rows ↔
      ∃ row ∈ rows, row' = if hit row then change row else row := by
  simp only [updateWhere, List.mem_map, eq_comm]

theorem mem_deleteWhere {hit : α → Bool} {rows : List α} {row : α} :
    row ∈ deleteWhere hit rows ↔ row ∈ rows ∧ hit row = false := by
  simp [deleteWhere]

theorem mem_touched {hit : α → Bool} {change : α → α} {rows : List α} {pair : α × α} :
    pair ∈ touched hit change rows ↔
      ∃ row ∈ rows, hit row = true ∧ pair = (row, change row) := by
  simp only [touched, List.mem_map, List.mem_filter, and_assoc, eq_comm]

theorem touched_eq_nil_iff {hit : α → Bool} {change : α → α} {rows : List α} :
    touched hit change rows = [] ↔ ∀ row ∈ rows, hit row = false := by
  simp [touched, List.filter_eq_nil_iff]

/-- An update that reaches no row leaves the table as it is. -/
theorem updateWhere_of_untouched {hit : α → Bool} {change : α → α} {rows : List α}
    (untouched : ∀ row ∈ rows, hit row = false) : updateWhere hit change rows = rows := by
  calc updateWhere hit change rows = rows.map id :=
        List.map_congr_left fun row member => by simp [untouched row member]
    _ = rows := List.map_id rows

theorem deleteWhere_of_untouched {hit : α → Bool} {rows : List α}
    (untouched : ∀ row ∈ rows, hit row = false) : deleteWhere hit rows = rows :=
  List.filter_eq_self.2 fun row member => by simp [untouched row member]

theorem updateWhere_congr {hit hit' : α → Bool} {change : α → α} {rows : List α}
    (same : ∀ row ∈ rows, hit row = hit' row) :
    updateWhere hit change rows = updateWhere hit' change rows :=
  List.map_congr_left fun row member => by rw [same row member]

/-- Updating the same rows twice is one update, when the first leaves them reached. -/
theorem updateWhere_updateWhere {hit : α → Bool} {change change' : α → α} {rows : List α}
    (stays : ∀ row, hit (change row) = hit row) :
    updateWhere hit change' (updateWhere hit change rows) =
      updateWhere hit (fun row => change' (change row)) rows := by
  rw [updateWhere, updateWhere, updateWhere, List.map_map]
  refine List.map_congr_left fun row _ => ?_
  by_cases reached : hit row = true
  · simp [reached, stays]
  · simp [reached]

/-- Updating two disjoint sets of rows alike is one update. -/
theorem updateWhere_or {hit hit' : α → Bool} {change : α → α} {rows : List α}
    (stays : ∀ row, hit' (change row) = hit' row)
    (apart : ∀ row ∈ rows, hit row = true → hit' row = false) :
    updateWhere hit' change (updateWhere hit change rows) =
      updateWhere (fun row => hit row || hit' row) change rows := by
  rw [updateWhere, updateWhere, updateWhere, List.map_map]
  refine List.map_congr_left fun row member => ?_
  by_cases reached : hit row = true
  · simp [reached, stays, apart row member reached]
  · simp [reached]

/-- An update moves each row by `Moves`, in place. -/
theorem forall₂_updateWhere {Moves : α → α → Prop} {hit : α → Bool} {change : α → α}
    {rows : List α} (stays : ∀ row, Moves row row)
    (moves : ∀ row ∈ rows, hit row = true → Moves row (change row)) :
    List.Forall₂ Moves rows (updateWhere hit change rows) := by
  refine List.forall₂_map_right_iff.2 (List.forall₂_same.2 fun row member => ?_)
  by_cases reached : hit row = true
  · simpa [reached] using moves row member reached
  · simpa [reached] using stays row

theorem forall₂_mem_right {β : Type w} {Moves : α → β → Prop} {rows : List α} {rows' : List β}
    (moved : List.Forall₂ Moves rows rows') {row' : β} (member : row' ∈ rows') :
    ∃ row ∈ rows, Moves row row' := by
  induction moved with
  | nil => cases member
  | cons head _ ih =>
      rcases List.mem_cons.1 member with rfl | inTail
      · exact ⟨_, List.mem_cons_self, head⟩
      · obtain ⟨row, there, moves⟩ := ih inTail
        exact ⟨row, List.mem_cons_of_mem _ there, moves⟩

theorem forall₂_mem_left {β : Type w} {Moves : α → β → Prop} {rows : List α} {rows' : List β}
    (moved : List.Forall₂ Moves rows rows') {row : α} (member : row ∈ rows) :
    ∃ row' ∈ rows', Moves row row' := by
  induction moved with
  | nil => cases member
  | cons head _ ih =>
      rcases List.mem_cons.1 member with rfl | inTail
      · exact ⟨_, List.mem_cons_self, head⟩
      · obtain ⟨row', there, moves⟩ := ih inTail
        exact ⟨row', List.mem_cons_of_mem _ there, moves⟩

theorem forall₂_trans {Moves : α → α → Prop} (trans : ∀ a b c, Moves a b → Moves b c → Moves a c)
    {rows middle rows' : List α} (first : List.Forall₂ Moves rows middle)
    (second : List.Forall₂ Moves middle rows') : List.Forall₂ Moves rows rows' := by
  induction first generalizing rows' with
  | nil =>
      cases second
      exact .nil
  | cons head _ ih =>
      cases second with
      | cons head' tail' => exact .cons (trans _ _ _ head head') (ih tail')

/-! ## Keys -/

/-- No two rows share a key: a `PRIMARY KEY` or `UNIQUE` constraint. -/
def KeyedBy (key : α → κ) (rows : List α) : Prop := (rows.map key).Nodup

theorem KeyedBy.nil (key : α → κ) : KeyedBy key [] := List.nodup_nil

theorem KeyedBy.eq_of_key {key : α → κ} {rows : List α} (keyed : KeyedBy key rows)
    {row row' : α} (member : row ∈ rows) (member' : row' ∈ rows) (same : key row = key row') :
    row = row' :=
  List.inj_on_of_nodup_map keyed member member' same

theorem KeyedBy.updateWhere {key : α → κ} {rows : List α} (keyed : KeyedBy key rows)
    {hit : α → Bool} {change : α → α} (keeps : ∀ row, key (change row) = key row) :
    KeyedBy key (updateWhere hit change rows) := by
  have same : (Table.updateWhere hit change rows).map key = rows.map key := by
    rw [Table.updateWhere, List.map_map]
    refine List.map_congr_left fun row _ => ?_
    by_cases reached : hit row = true <;> simp [reached, keeps]
  simpa [KeyedBy, same] using keyed

/-- Keys survive a move of the rows that keeps each row's key. -/
theorem KeyedBy.of_forall₂ {key : α → κ} {Moves : α → α → Prop} {rows rows' : List α}
    (moved : List.Forall₂ Moves rows rows') (keeps : ∀ a b, Moves a b → key b = key a)
    (keyed : KeyedBy key rows) : KeyedBy key rows' := by
  have same : rows'.map key = rows.map key := by
    clear keyed
    induction moved with
    | nil => rfl
    | cons head _ ih => rw [List.map_cons, List.map_cons, keeps _ _ head, ih]
  rw [KeyedBy, same]
  exact keyed

theorem KeyedBy.filter {key : α → κ} {rows : List α} (keyed : KeyedBy key rows)
    (keep : α → Bool) : KeyedBy key (rows.filter keep) :=
  List.Nodup.sublist (List.filter_sublist.map key) keyed

theorem KeyedBy.deleteWhere {key : α → κ} {rows : List α} (keyed : KeyedBy key rows)
    (hit : α → Bool) : KeyedBy key (deleteWhere hit rows) :=
  keyed.filter _

theorem KeyedBy.concat {key : α → κ} {rows : List α} (keyed : KeyedBy key rows) {row : α}
    (fresh : ∀ other ∈ rows, key other ≠ key row) : KeyedBy key (rows ++ [row]) := by
  simp only [KeyedBy, List.map_append, List.map_cons, List.map_nil]
  refine List.nodup_append.2 ⟨keyed, List.nodup_singleton _, ?_⟩
  rintro k inRows _ inLast rfl
  obtain ⟨other, member, rfl⟩ := List.mem_map.1 inRows
  exact fresh other member (List.mem_singleton.1 inLast)

/-- A statement pinned to one key reaches at most one row. -/
theorem KeyedBy.length_touched_le_one {key : α → κ} {rows : List α} (keyed : KeyedBy key rows)
    {hit : α → Bool} (change : α → α) {k : κ} (pinned : ∀ row, hit row = true → key row = k) :
    (touched hit change rows).length ≤ 1 := by
  rw [touched, List.length_map]
  have nodup : ((rows.filter hit).map key).Nodup := keyed.filter hit
  match filtered : rows.filter hit with
  | [] => simp
  | [row] => simp
  | row :: row' :: rest =>
      rw [filtered] at nodup
      have at_k : ∀ x ∈ rows.filter hit, key x = k := fun x member =>
        pinned x (List.mem_filter.1 member).2
      have : key row = key row' := by
        rw [at_k row (by simp [filtered]), at_k row' (by simp [filtered])]
      simp [this] at nodup

/-- A statement pinned to one key reaches no row or one. -/
theorem KeyedBy.touched_pinned {key : α → κ} {rows : List α} (keyed : KeyedBy key rows)
    {hit : α → Bool} (change : α → α) {k : κ} (pinned : ∀ row, hit row = true → key row = k) :
    (touched hit change rows = [] ∧ ∀ row ∈ rows, hit row = false) ∨
      ((touched hit change rows).length = 1 ∧ ∃ row ∈ rows, hit row = true) := by
  by_cases none : touched hit change rows = []
  · exact .inl ⟨none, touched_eq_nil_iff.1 none⟩
  · have atMost := keyed.length_touched_le_one change pinned
    have positive := List.length_pos_iff.2 none
    refine .inr ⟨by omega, ?_⟩
    by_contra absent
    push Not at absent
    exact none (touched_eq_nil_iff.2 fun row member => by simpa using absent row member)

theorem find?_eq_some_of_key [DecidableEq κ] {key : α → κ} {rows : List α}
    (keyed : KeyedBy key rows) {row : α} (member : row ∈ rows) :
    rows.find? (fun other => decide (key other = key row)) = some row := by
  have found : (rows.find? fun other => decide (key other = key row)).isSome := by
    rw [List.find?_isSome]
    exact ⟨row, member, by simp⟩
  obtain ⟨other, there⟩ := Option.isSome_iff_exists.1 found
  have same : key other = key row := by simpa using List.find?_some there
  rw [there, keyed.eq_of_key (List.mem_of_find?_eq_some there) member same]

theorem find?_updateWhere {hit : α → Bool} {change : α → α} {rows : List α} {wanted : α → Bool}
    (keeps : ∀ row, hit row = true → wanted (change row) = wanted row) :
    (updateWhere hit change rows).find? wanted =
      (rows.find? wanted).map fun row => if hit row then change row else row := by
  have same : (wanted ∘ fun row => if hit row then change row else row) = wanted := by
    funext row
    by_cases reached : hit row = true
    · simp [reached, keeps row reached]
    · simp [reached]
  rw [updateWhere, List.find?_map, same]

theorem KeyedBy.find?_deleteWhere [DecidableEq κ] {key : α → κ} {rows : List α}
    (keyed : KeyedBy key rows) (hit : α → Bool) (k : κ) :
    (Table.deleteWhere hit rows).find? (fun row => decide (key row = k)) =
      (rows.find? fun row => decide (key row = k)).filter fun row => !hit row := by
  induction rows with
  | nil => rfl
  | cons row rows ih =>
      obtain ⟨fresh, keyedRest⟩ := List.nodup_cons.1 keyed
      have rest := ih keyedRest
      simp only [Table.deleteWhere] at rest ⊢
      by_cases here : key row = k
      · rw [List.find?_cons_of_pos (by simp [here])]
        by_cases reached : hit row = true
        · have absent : (rows.find? fun row => decide (key row = k)) = none := by
            rw [List.find?_eq_none]
            intro other member same
            apply fresh
            rw [here, ← (of_decide_eq_true same)]
            exact List.mem_map_of_mem member
          rw [List.filter_cons_of_neg (by simp [reached]), rest, absent]
          simp [Option.filter, reached]
        · rw [List.filter_cons_of_pos (by simp [reached]), List.find?_cons_of_pos (by simp [here])]
          simp [Option.filter, reached]
      · rw [List.find?_cons_of_neg (by simp [here]), ← rest]
        by_cases reached : hit row = true
        · rw [List.filter_cons_of_neg (by simp [reached])]
        · rw [List.filter_cons_of_pos (by simp [reached]), List.find?_cons_of_neg (by simp [here])]

/-! ## Totals -/

section Totals

variable {M : Type w} [AddCommGroup M]

/-- `SUM(weight)` over the rows. -/
def total (weight : α → M) (rows : List α) : M := (rows.map weight).sum

@[simp] theorem total_nil (weight : α → M) : total weight ([] : List α) = 0 := rfl

@[simp] theorem total_cons (weight : α → M) (row : α) (rows : List α) :
    total weight (row :: rows) = weight row + total weight rows := rfl

@[simp] theorem total_append (weight : α → M) (rows rows' : List α) :
    total weight (rows ++ rows') = total weight rows + total weight rows' := by
  simp [total]

theorem total_updateWhere (weight : α → M) (hit : α → Bool) (change : α → α) (rows : List α) :
    total weight (updateWhere hit change rows) =
      total weight rows + total (fun pair => weight pair.2 - weight pair.1)
        (touched hit change rows) := by
  induction rows with
  | nil => simp [updateWhere, touched]
  | cons row rows ih =>
      simp only [updateWhere, touched] at ih ⊢
      by_cases reached : hit row = true
      · rw [List.filter_cons_of_pos reached]
        simp only [List.map_cons, reached, if_true, total_cons, ih]
        abel
      · rw [List.filter_cons_of_neg reached]
        simp only [List.map_cons, reached, total_cons, ih]
        simp [add_assoc]

theorem total_deleteWhere (weight : α → M) (hit : α → Bool) (rows : List α) :
    total weight (deleteWhere hit rows) = total weight rows - total weight (rows.filter hit) := by
  induction rows with
  | nil => simp [deleteWhere]
  | cons row rows ih =>
      simp only [deleteWhere] at ih
      by_cases reached : hit row = true
      · simp [deleteWhere, reached, ih]
      · simp only [deleteWhere, reached, total_cons, List.filter_cons, Bool.not_false, if_true, ih]
        simp [add_sub_assoc]

theorem total_neg (weight : α → M) (rows : List α) :
    total (fun row => -weight row) rows = -total weight rows := by
  rw [total, total, List.sum_neg, List.map_map]
  rfl

/-- **An aggregate kept by row triggers.**  If one firing changes the reading by
the row's delta and leaves the rest of the statement as sound as it was, the
statement's firings change the reading by the total of the deltas. -/
theorem foldlM_reading {σ : Type v} {ε : Type v} {β : Type u} {trigger : σ → β → Except ε σ}
    (reading : σ → M) (delta : β → M) (Sound : σ → List β → Prop)
    (fires : ∀ s b rest t, Sound s (b :: rest) → trigger s b = .ok t →
      reading t = reading s + delta b ∧ Sound t rest)
    {rows : List β} {s t : σ} (sound : Sound s rows) (ran : rows.foldlM trigger s = .ok t) :
    reading t = reading s + total delta rows ∧ Sound t [] := by
  induction rows generalizing s with
  | nil =>
      cases ran
      exact ⟨by simp, sound⟩
  | cons row rows ih =>
      rw [List.foldlM_cons] at ran
      cases first : trigger s row with
      | error e =>
          rw [first] at ran
          cases ran
      | ok middle =>
          rw [first] at ran
          obtain ⟨moved, soundRest⟩ := fires s row rows middle sound first
          obtain ⟨rest, soundEnd⟩ := ih soundRest ran
          refine ⟨?_, soundEnd⟩
          rw [rest, moved, total_cons, add_assoc]

end Totals

/-- What one firing preserves, all of a statement's firings preserve. -/
theorem foldlM_preserves {σ : Type v} {ε : Type v} {β : Type u} {trigger : σ → β → Except ε σ}
    {Holds : σ → Prop} {rows : List β}
    (fires : ∀ s, ∀ b ∈ rows, ∀ t, trigger s b = .ok t → Holds s → Holds t)
    {s t : σ} (ran : rows.foldlM trigger s = .ok t) (holds : Holds s) : Holds t := by
  induction rows generalizing s with
  | nil =>
      cases ran
      exact holds
  | cons row rows ih =>
      rw [List.foldlM_cons] at ran
      cases first : trigger s row with
      | error e => rw [first] at ran; cases ran
      | ok middle =>
          rw [first] at ran
          exact ih (fun s b member => fires s b (List.mem_cons_of_mem _ member)) ran
            (fires s row List.mem_cons_self middle first holds)

end MediaBooster.Theory.Table
