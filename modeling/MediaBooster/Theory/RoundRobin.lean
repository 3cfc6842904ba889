/-
# Theory.RoundRobin -- serving whoever was served longest ago

Everyone has the number of their last turn, 0 before the first, and whoever is served
gets the next number.  A step serves someone whose last turn is earliest among those
who are eligible at that moment; who is eligible may change from step to step.

* `served_in_turn`: while `a` is eligible, nobody else is served twice before `a` is.
* `round`: while everyone in a set and nobody else is eligible, as many consecutive
  turns as the set has members serve each member exactly once.
-/
import Mathlib.Data.Finset.Card
import Mathlib.Data.List.Infix
import Mathlib.Data.List.TakeWhile
import MediaBooster.Theory.Run

namespace MediaBooster.Theory.RoundRobin

set_option autoImplicit false

open MediaBooster.Theory.Run

universe u

variable {κ : Type u}

/-- The number of everyone's last turn, and the next number to be given. -/
structure Turns (κ : Type u) where
  last : κ → Int
  next : Int

/-- A turn: who was served, and who could have been. -/
structure Turn (κ : Type u) where
  served : κ
  eligible : Finset κ

namespace Turns

/-- The numbers given so far are below the next one. -/
def Numbered (turns : Turns κ) : Prop := ∀ a, turns.last a < turns.next

variable [DecidableEq κ]

/-- Give the next number to `a`. -/
def give (turns : Turns κ) (a : κ) : Turns κ :=
  ⟨Function.update turns.last a turns.next, turns.next + 1⟩

@[simp] theorem give_last_self (turns : Turns κ) (a : κ) : (turns.give a).last a = turns.next :=
  Function.update_self ..

@[simp] theorem give_last_of_ne (turns : Turns κ) {a b : κ} (other : b ≠ a) :
    (turns.give a).last b = turns.last b :=
  Function.update_of_ne other ..

theorem Numbered.give {turns : Turns κ} (numbered : turns.Numbered) (a : κ) :
    (turns.give a).Numbered := by
  intro b
  have below : turns.last b < turns.next + 1 := Int.lt_add_one_of_le (le_of_lt (numbered b))
  by_cases same : b = a
  · rw [same, give_last_self]
    exact Int.lt_succ turns.next
  · rw [give_last_of_ne turns same]
    exact below

end Turns

/-- One step: a turn, or none. -/
inductive Step [DecidableEq κ] : Turns κ → Option (Turn κ) → Turns κ → Prop
  | serve {turns : Turns κ} {turn : Turn κ} (eligible : turn.served ∈ turn.eligible)
      (first : ∀ other ∈ turn.eligible, turns.last turn.served ≤ turns.last other) :
      Step turns (some turn) (turns.give turn.served)
  | idle (turns : Turns κ) : Step turns none turns

/-- Who was served, in order. -/
def served (labels : List (Option (Turn κ))) : List κ := (labels.filterMap id).map Turn.served

@[simp] theorem served_none (labels : List (Option (Turn κ))) :
    served (none :: labels) = served labels := rfl

@[simp] theorem served_some (turn : Turn κ) (labels : List (Option (Turn κ))) :
    served (some turn :: labels) = turn.served :: served labels := rfl

/-- Cutting the turns cuts the run. -/
theorem served_eq_append {labels : List (Option (Turn κ))} {first second : List κ}
    (cut : served labels = first ++ second) :
    ∃ labels₁ labels₂, labels = labels₁ ++ labels₂ ∧ served labels₁ = first ∧
      served labels₂ = second := by
  obtain ⟨turns₁, turns₂, turns, rfl, rfl⟩ := List.map_eq_append_iff.1 cut
  obtain ⟨labels₁, labels₂, rfl, rfl, rfl⟩ := List.filterMap_eq_append_iff.1 turns
  exact ⟨labels₁, labels₂, rfl, rfl, rfl⟩

variable [DecidableEq κ] {turns turns' : Turns κ} {labels : List (Option (Turn κ))}

theorem Step.numbered {label : Option (Turn κ)} (step : Step turns label turns')
    (numbered : turns.Numbered) : turns'.Numbered := by
  cases step with
  | serve eligible first => exact numbered.give _
  | idle => exact numbered

/-- **Turns are fair.**  While `a` is eligible, nobody is served twice before `a` is. -/
theorem served_in_turn (run : Trace Step turns labels turns') (numbered : turns.Numbered) {a : κ}
    (eligible : ∀ turn, some turn ∈ labels → a ∈ turn.eligible) :
    ((served labels).takeWhile (· ≠ a)).Nodup := by
  -- whoever is served before `a` had their last turn no later than `a` had
  suffices both : ((served labels).takeWhile (· ≠ a)).Nodup ∧
      ∀ b ∈ (served labels).takeWhile (· ≠ a), turns.last b ≤ turns.last a from both.1
  induction run with
  | nil => exact ⟨List.nodup_nil, fun _ member => nomatch member⟩
  | @cons turns _ _ label labels step rest ih =>
      obtain ⟨nodup, earlier⟩ := ih (step.numbered numbered) fun turn member =>
        eligible turn (List.mem_cons_of_mem _ member)
      cases step with
      | idle => exact ⟨nodup, earlier⟩
      | @serve turn member first =>
          rw [served_some]
          by_cases own : turn.served = a
          · rw [List.takeWhile_cons_of_neg (by simpa using own)]
            exact ⟨List.nodup_nil, fun _ member => nomatch member⟩
          rw [List.takeWhile_cons_of_pos (by simpa using own)]
          have kept : (turns.give turn.served).last a = turns.last a :=
            turns.give_last_of_ne (Ne.symm own)
          have later : ∀ b ∈ (served labels).takeWhile (· ≠ a), b ≠ turn.served := by
            rintro b there rfl
            have bound := earlier _ there
            rw [kept, Turns.give_last_self] at bound
            exact absurd (numbered a) (not_lt.2 bound)
          refine ⟨List.nodup_cons.2 ⟨fun again => later _ again rfl, nodup⟩, fun b there => ?_⟩
          rcases List.mem_cons.1 there with rfl | there
          · exact first a (eligible turn List.mem_cons_self)
          · have bound := earlier b there
            rwa [kept, turns.give_last_of_ne (later b there)] at bound

/-! ## Rounds -/

/-- A list with a repetition, cut at two equal entries. -/
theorem exists_repeated : ∀ {l : List κ}, ¬l.Nodup → ∃ x b y z, l = x ++ b :: (y ++ b :: z)
  | [], repeated => absurd List.nodup_nil repeated
  | b :: l, repeated => by
      by_cases again : b ∈ l
      · obtain ⟨y, z, rfl⟩ := List.append_of_mem again
        exact ⟨[], b, y, z, rfl⟩
      · have inside : ¬l.Nodup := fun nodup => repeated (List.nodup_cons.2 ⟨again, nodup⟩)
        obtain ⟨x, c, y, z, rfl⟩ := exists_repeated inside
        exact ⟨b :: x, c, y, z, rfl⟩

/-- **Rounds.**  While the members of `everyone` and nobody else are eligible, as many
consecutive turns as there are members serve each of them exactly once. -/
theorem round (run : Trace Step turns labels turns') (numbered : turns.Numbered)
    {everyone : Finset κ} (steady : ∀ turn, some turn ∈ labels → turn.eligible = everyone)
    {window : List κ} (consecutive : window <:+: served labels)
    (length : window.length = everyone.card) :
    window.Nodup ∧ window.toFinset = everyone := by
  obtain ⟨before, after, whole⟩ := consecutive
  have nodup : window.Nodup := by
    by_contra repeated
    obtain ⟨x, b, y, z, rfl⟩ := exists_repeated repeated
    -- between two turns of `b` everyone else has one
    have between : everyone.erase b ⊆ y.toFinset := by
      intro a member
      obtain ⟨other, member⟩ := Finset.mem_erase.1 member
      rw [List.mem_toFinset]
      by_contra skipped
      have cut : served labels = (before ++ x) ++ (b :: (y ++ b :: (z ++ after))) := by
        simp [← whole]
      obtain ⟨labels₁, labels₂, rfl, -, rest⟩ := served_eq_append cut
      obtain ⟨middle, first, second⟩ := run.split
      have fair := served_in_turn second
        (first.keeps (P := Turns.Numbered) (fun _ _ _ step => step.numbered) numbered)
        (a := a) fun turn there => by
          rw [steady turn (List.mem_append_right _ there)]
          exact member
      rw [rest, List.takeWhile_cons_of_pos (by simpa using Ne.symm other),
        List.takeWhile_append_of_pos (fun c there => by
          simpa using fun same : c = a => skipped (same ▸ there)),
        List.takeWhile_cons_of_pos (by simpa using Ne.symm other)] at fair
      simp at fair
    have many := Finset.card_le_card between
    have few := y.toFinset_card_le
    have erased := Finset.pred_card_le_card_erase (s := everyone) (a := b)
    simp only [List.length_append, List.length_cons] at length
    omega
  refine ⟨nodup, Finset.eq_of_subset_of_card_le ?_ ?_⟩
  · intro a member
    have there : a ∈ served labels := by
      rw [← whole]
      simp [List.mem_toFinset.1 member]
    obtain ⟨turn, listed, rfl⟩ := List.mem_map.1 there
    obtain ⟨label, listed, rfl⟩ := List.mem_filterMap.1 listed
    rw [← steady turn listed]
    obtain ⟨s, t, step⟩ := run.step_of_mem listed
    cases step with
    | serve eligible first => exact eligible
  · rw [List.toFinset_card_of_nodup nodup, length]

end MediaBooster.Theory.RoundRobin
