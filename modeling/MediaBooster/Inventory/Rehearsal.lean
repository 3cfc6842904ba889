/-
# Inventory.Rehearsal -- a world whose listings are cut into pages

The provider of `Service.Rehearsal` lists a prefix at once.  This one lists as many keys as it is
asked for and says whether it left any out, so that a scan takes several pages.
-/
import MediaBooster.Service.Rehearsal

namespace MediaBooster.Storage.Provider

set_option autoImplicit false

/-- The first page of what a listing is asked for. -/
def listing (p : Provider) (bucket keyPrefix : String) (startAfter : Option String)
    (maxKeys : Nat) : Option ListOutput :=
  if maxKeys = 0 then none
  else some (p.page bucket ((p.soughtKeys bucket keyPrefix startAfter).take maxKeys)
    (decide (maxKeys < (p.soughtKeys bucket keyPrefix startAfter).length)))

/-- A page in order leaves out only what comes after its last key. -/
theorem lists_take {p : Provider} {bucket keyPrefix : String} {startAfter : Option String}
    {maxKeys : Nat} (some : maxKeys ≠ 0) :
    p.Lists bucket keyPrefix startAfter maxKeys
      ((p.soughtKeys bucket keyPrefix startAfter).take maxKeys)
      (decide (maxKeys < (p.soughtKeys bucket keyPrefix startAfter).length)) := by
  have whole : p.Lists bucket keyPrefix startAfter (p.soughtKeys bucket keyPrefix startAfter).length
      (p.soughtKeys bucket keyPrefix startAfter) false := lists_soughtKeys (Nat.le_refl _)
  generalize p.soughtKeys bucket keyPrefix startAfter = keys at whole ⊢
  have ascending : (keys.take maxKeys ++ keys.drop maxKeys).Pairwise (· < ·) := by
    rw [List.take_append_drop]
    exact whole.ascending
  refine ⟨by simp, (List.pairwise_append.1 ascending).1,
    fun key member => whole.stored key (List.mem_of_mem_take member), ?_, ?_⟩
  · intro key stored sought
    obtain listed | ⟨cut, -⟩ := whole.complete key stored sought
    · rw [← List.take_append_drop maxKeys keys] at listed
      obtain early | late := List.mem_append.1 listed
      · exact .inl early
      · have long : maxKeys < keys.length := by
          by_contra short
          rw [List.drop_eq_nil_of_le (Nat.le_of_not_lt short)] at late
          cases late
        refine .inr ⟨decide_eq_true long, ?_⟩
        cases last : (keys.take maxKeys).getLast? with
        | none =>
            have empty := congrArg List.length (List.getLast?_eq_none_iff.1 last)
            rw [List.length_take, List.length_nil] at empty
            omega
        | some last' =>
            exact ⟨last', rfl,
              (List.pairwise_append.1 ascending).2.2 last' (List.mem_of_getLast? last) key late⟩
    · cases cut
  · intro cut empty
    have long := of_decide_eq_true cut
    have none := congrArg List.length empty
    rw [List.length_take, List.length_nil] at none
    omega

end MediaBooster.Storage.Provider

namespace MediaBooster.Inventory

set_option autoImplicit false

open MediaBooster.Domain MediaBooster.Storage MediaBooster.Store MediaBooster.Service
open MediaBooster.Theory.Run MediaBooster.Theory.Threads

/-! ## The world -/

/-- The answer of a world in which nothing fails and listings are cut. -/
def respondPaging (nanos : Int) (w : World) : (ask : Ask) → Option (Answer ask × World)
  | .provider (.listObjectsV2 bucket keyPrefix startAfter maxKeys) =>
      (w.provider.listing bucket keyPrefix startAfter maxKeys).map fun output => (.ok output, w)
  | ask => w.respond nanos ask

theorem respondPaging_answers {nanos : Int} {w w' : World} {ask : Ask} {answer : Answer ask}
    (responded : respondPaging nanos w ask = some (answer, w')) : w.Answers ask answer w' := by
  unfold respondPaging at responded
  split at responded
  · rename_i bucket keyPrefix startAfter maxKeys
    obtain ⟨output, listed, same⟩ := Option.map_eq_some_iff.1 responded
    cases same
    unfold Provider.listing at listed
    split at listed
    · cases listed
    · rename_i positive
      cases listed
      exact ⟨w.provider, .performed (.listed (Provider.lists_take positive)), rfl⟩
  · exact World.respond_answers responded

/-- The responder of that world. -/
def paging (d : Deployment) (nanos : Int) : Responder d.machine where
  respond := fun w ask => respondPaging nanos w ask
  allowed := fun _ _ _ _ responded => respondPaging_answers responded
  occur := World.occur
  moves := fun _ _ _ occurred => World.occur_moves occurred

/-! ## Schedules -/

/-- A schedule, one exchange of a thread, another schedule and one more exchange, each under
a condition of its own. -/
theorem paging_stages {d : Deployment} {nanos : Int} {clock : OffsetDateTime} {i j : Nat}
    {first once second last : SystemState → SystemLabel → Bool}
    {before between : List (Command ServiceCall Event)}
    (played : (((((paging d nanos).performAll first before ⟨.initial (.fresh clock), []⟩).bind
      ((paging d nanos).exchange once i)).bind
        ((paging d nanos).performAll second between)).bind
          ((paging d nanos).exchange last j)).isSome = true) :
    ∃ labels, ∃ s : SystemState, ∃ label, ∃ t : SystemState, ∃ labels', ∃ u : SystemState,
      ∃ label', ∃ v : SystemState,
        Trace (Responder.MeetingStep d.machine first) (.initial (.fresh clock)) labels s ∧
        Responder.MeetingStep d.machine once s label t ∧
        Trace (Responder.MeetingStep d.machine second) t labels' u ∧
        Responder.MeetingStep d.machine last u label' v := by
  obtain ⟨final, led⟩ := Option.isSome_iff_exists.1 played
  obtain ⟨third, led, fourth⟩ := Option.bind_eq_some_iff.1 led
  obtain ⟨next, led, between⟩ := Option.bind_eq_some_iff.1 led
  obtain ⟨stage, before, exchanged⟩ := Option.bind_eq_some_iff.1 led
  obtain ⟨stands, labels, run⟩ := Responder.performAll_runs
    ⟨rfl, fun _ _ _ there => by simp [State.initial] at there⟩ before
  obtain ⟨stands, label, step⟩ := Responder.exchange_runs stands exchanged
  obtain ⟨stands, labels', run'⟩ := Responder.performAll_runs stands between
  obtain ⟨-, label', step'⟩ := Responder.exchange_runs stands fourth
  exact ⟨labels, stage.state, label, next.state, labels', third.state, label', final.state, run,
    step, run', step'⟩

/-! ## Three images, page by page -/

theorem narrow_valid :
    ({ sampleInventoryPolicy with pageSize := 1 } : InventoryPolicy).isValid = true := by decide

/-- The sample deployment with a page of one key. -/
def narrowDeployment : Deployment :=
  { sampleDeployment with
    inventoryPolicy := { sampleInventoryPolicy with pageSize := 1 }
    inventoryValid := narrow_valid }

/-- The raw key of an upload that is reserved. -/
def imageKey (number : Nat) : String := rawKeyText "g5" ⟨numbered number⟩

/-- Reserve three images, and store some of them. -/
def storeImages (numbers : List Nat) : List (Command ServiceCall Event) :=
  .start (.createBatch ⟨"g5", [⟨"a", .image, 100, "image/png"⟩, ⟨"b", .image, 100, "image/png"⟩,
    ⟨"c", .image, 100, "image/png"⟩]⟩) :: .run 0 10 ::
      numbers.map fun number => .happen (.put "raw" (imageKey number) 100)

/-- A pass up to where it saves its first cursor. -/
def passOf (thread : Nat) : List (Command ServiceCall Event) :=
  [.start (.inventory .audit), .run thread 5]

end MediaBooster.Inventory
