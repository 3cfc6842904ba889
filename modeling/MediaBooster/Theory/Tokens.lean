/-
# Theory.Tokens -- what a thread draws is its own

Threads draw tokens and use them in later requests.  A token is never drawn twice, and no
request of a thread uses a token it has not drawn, or has used before; that much is a rule of
every program, as long as what it draws is `Distinct`.  Then no two requests of a run use the same token, whichever threads they
belong to (`Tokens.Sound.unused`).
-/
import MediaBooster.Theory.Threads

namespace MediaBooster.Theory.Threads

set_option autoImplicit false

variable {Ask : Type} {Answer : Ask → Type} {ν κ σ τ : Type}

/-- Where tokens come from and where they go. -/
structure TokenUse (Answer : Ask → Type) (τ : Type) where
  drawn : Exchange Answer → Option τ
  used : Ask → List τ

namespace TokenUse

variable (tokens : TokenUse Answer τ)

/-- The token was drawn in the past. -/
def Drew (past : List (Exchange Answer)) (token : τ) : Prop :=
  ∃ exchange ∈ past, tokens.drawn exchange = some token

/-- The token was used in the past. -/
def Used (past : List (Exchange Answer)) (token : τ) : Prop :=
  ∃ exchange ∈ past, token ∈ tokens.used exchange.1

/-- The past draws no token twice. -/
def Distinct (past : List (Exchange Answer)) : Prop := (past.filterMap tokens.drawn).Nodup

/-- A request uses own tokens only, and each for the first time. -/
def Owns (past : List (Exchange Answer)) (request : Ask) : Prop :=
  ∀ token ∈ tokens.used request, tokens.Drew past token ∧ ¬ tokens.Used past token

variable {tokens} {past : List (Exchange Answer)} {token : τ}

theorem drew_iff : tokens.Drew past token ↔ token ∈ past.filterMap tokens.drawn := by
  rw [List.mem_filterMap]
  rfl

theorem distinct_append {exchange : Exchange Answer} :
    tokens.Distinct (past ++ [exchange]) ↔
      tokens.Distinct past ∧ ∀ token, tokens.drawn exchange = some token →
        ¬ tokens.Drew past token := by
  unfold Distinct
  rw [List.filterMap_append]
  cases drawn : tokens.drawn exchange with
  | none =>
      rw [List.filterMap_cons_none drawn, List.filterMap_nil, List.append_nil]
      simp
  | some token =>
      rw [List.filterMap_cons_some drawn, List.filterMap_nil, List.nodup_append]
      simp only [drew_iff, Option.some.injEq, forall_eq', List.nodup_cons, List.not_mem_nil,
        not_false_eq_true, List.nodup_nil, and_self, true_and, List.mem_singleton]
      refine and_congr_right fun _ => ⟨fun apart member => apart token member token rfl rfl, ?_⟩
      rintro new other member _ rfl rfl
      exact new member

theorem Distinct.of_append {more : List (Exchange Answer)}
    (distinct : tokens.Distinct (past ++ more)) : tokens.Distinct past := by
  unfold Distinct at distinct
  rw [List.filterMap_append] at distinct
  exact (List.nodup_append.1 distinct).1

theorem Drew.append {more : List (Exchange Answer)} (drew : tokens.Drew past token) :
    tokens.Drew (past ++ more) token := by
  obtain ⟨exchange, member, drawn⟩ := drew
  exact ⟨exchange, List.mem_append_left _ member, drawn⟩

theorem Used.append {more : List (Exchange Answer)} (used : tokens.Used past token) :
    tokens.Used (past ++ more) token := by
  obtain ⟨exchange, member, names⟩ := used
  exact ⟨exchange, List.mem_append_left _ member, names⟩

end TokenUse

/-- A machine whose threads draw tokens from `taken`, each at most once, and use their own. -/
structure Tokens (M : Machine Answer ν κ σ) (τ : Type) extends TokenUse Answer τ where
  taken : σ → τ → Prop
  fresh : ∀ s request answer t token, M.answers s request answer t →
    drawn ⟨request, answer⟩ = some token → ¬ taken s token ∧ taken t token
  grows : ∀ s request answer t token, M.answers s request answer t → taken s token → taken t token
  stays : ∀ s event t token, M.moves s event t → taken s token → taken t token
  owns : ∀ call, Follows (fun past request => toTokenUse.Distinct past →
    toTokenUse.Owns past request) (fun _ _ => True) [] (M.program call)

namespace Tokens

variable {M : Machine Answer ν κ σ} {tokens : Tokens M τ}
variable {s t : State Answer ν σ} {label : Label Answer ν κ}

/-- Drawn tokens are taken, no token is drawn twice, and threads use what they drew. -/
structure Sound (tokens : Tokens M τ) (s : State Answer ν σ) : Prop where
  taken : ∀ i token, tokens.Drew (s.past i) token → tokens.taken s.shared token
  distinct : ∀ i, tokens.Distinct (s.past i)
  apart : ∀ i j token, tokens.Drew (s.past i) token → tokens.Drew (s.past j) token → i = j
  own : ∀ i token, tokens.Used (s.past i) token → tokens.Drew (s.past i) token

/-- A token used in some thread's past. -/
def Spent (tokens : Tokens M τ) (s : State Answer ν σ) (token : τ) : Prop :=
  ∃ i, tokens.Used (s.past i) token

theorem sound_initial (shared : σ) : tokens.Sound (.initial shared) where
  taken := by
    rintro i token ⟨exchange, member, -⟩
    cases member
  distinct := fun _ => List.nodup_nil
  apart := by
    rintro i j token ⟨exchange, member, -⟩
    cases member
  own := by
    rintro i token ⟨exchange, member, -⟩
    cases member

theorem drew_cases {i : Nat} {token : τ} (step : M.Step s label t)
    (drew : tokens.Drew (t.past i) token) :
    tokens.Drew (s.past i) token ∨
      ∃ exchange, label = .asked i exchange ∧ tokens.drawn exchange = some token := by
  obtain ⟨exchange, heard, drawn⟩ := drew
  obtain old | asked := step.heard_cases heard
  · exact .inl ⟨exchange, old, drawn⟩
  · exact .inr ⟨exchange, asked, drawn⟩

theorem used_cases {i : Nat} {token : τ} (step : M.Step s label t)
    (used : tokens.Used (t.past i) token) :
    tokens.Used (s.past i) token ∨
      ∃ exchange, label = .asked i exchange ∧ token ∈ tokens.used exchange.1 := by
  obtain ⟨exchange, heard, names⟩ := used
  obtain old | asked := step.heard_cases heard
  · exact .inl ⟨exchange, old, names⟩
  · exact .inr ⟨exchange, asked, names⟩

theorem taken_step {token : τ} (step : M.Step s label t) (taken : tokens.taken s.shared token) :
    tokens.taken t.shared token := by
  obtain ⟨i, exchange, -, answered⟩ | ⟨event, -, moved⟩ | ⟨same, -⟩ := step.shared_cases
  · exact tokens.grows _ _ _ _ _ answered taken
  · exact tokens.stays _ _ _ _ moved taken
  · rw [same]
    exact taken

/-- A token drawn in a step was not taken before it. -/
theorem drawn_fresh {i : Nat} {exchange : Exchange Answer} {token : τ}
    (step : M.Step s (.asked i exchange) t) (drawn : tokens.drawn exchange = some token) :
    ¬ tokens.taken s.shared token ∧ tokens.taken t.shared token := by
  obtain ⟨call, next, asked⟩ := step.asked_cases
  exact tokens.fresh _ _ _ _ _ asked.answered drawn

theorem Sound.step (sound : tokens.Sound s) (step : M.Step s label t) : tokens.Sound t where
  taken := by
    intro i token drew
    obtain old | ⟨exchange, rfl, drawn⟩ := drew_cases step drew
    · exact taken_step step (sound.taken i token old)
    · exact (drawn_fresh step drawn).2
  distinct := by
    intro i
    rw [step.past]
    obtain quiet | ⟨exchange, rfl⟩ := label.heard_eq i
    · rw [quiet, List.append_nil]
      exact sound.distinct i
    · rw [Label.heard, if_pos rfl, TokenUse.distinct_append]
      refine ⟨sound.distinct i, fun token drawn drew => ?_⟩
      exact (drawn_fresh step drawn).1 (sound.taken i token drew)
  apart := by
    intro i j token first second
    obtain old | ⟨exchange, rfl, drawn⟩ := drew_cases step first
    · obtain old' | ⟨exchange, rfl, drawn⟩ := drew_cases step second
      · exact sound.apart i j token old old'
      · exact absurd (sound.taken i token old) (drawn_fresh step drawn).1
    · obtain old' | ⟨exchange', same, -⟩ := drew_cases step second
      · exact absurd (sound.taken j token old') (drawn_fresh step drawn).1
      · cases same
        rfl
  own := by
    intro i token used
    obtain old | ⟨exchange, rfl, names⟩ := used_cases step used
    · rw [step.past]
      exact (sound.own i token old).append
    · obtain ⟨call, -, owns⟩ := step.obeys tokens.owns
      rw [step.past]
      exact (owns (sound.distinct i) token names).1.append

/-- **No token is used twice.** -/
theorem Sound.unused {i : Nat} {exchange : Exchange Answer} {token : τ} (sound : tokens.Sound s)
    (step : M.Step s (.asked i exchange) t) (names : token ∈ tokens.used exchange.1) :
    ¬ tokens.Spent s token := by
  rintro ⟨j, used⟩
  obtain ⟨call, -, owns⟩ := step.obeys tokens.owns
  obtain ⟨drew, unused⟩ := owns (sound.distinct i) token names
  obtain rfl := sound.apart i j token drew (sound.own j token used)
  exact unused used

theorem Spent.step {token : τ} (spent : tokens.Spent s token) (step : M.Step s label t) :
    tokens.Spent t token := by
  obtain ⟨i, used⟩ := spent
  refine ⟨i, ?_⟩
  rw [step.past]
  exact used.append

end Tokens

end MediaBooster.Theory.Threads
