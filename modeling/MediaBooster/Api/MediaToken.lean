/-
# Api.MediaToken -- the query of a public media URL

A public media URL carries when it expires and a signature.  `parse_token_query` goes over the
parameters of the query and takes each of the two once.

`Exact` is the grammar the two values are meant to have.  The loop takes an `expires` that is
no number for one that has not come yet, so it lets a later one through:
`parseTokenQuery_exact_iff` says that the loop and the grammar agree on every query but those
with exactly one signature whose last `expires` alone is a number, behind others that are not
(`Ambiguous`).
-/
import MediaBooster.Auth.Request
import MediaBooster.Domain.Text

namespace MediaBooster.Api

set_option autoImplicit false

open MediaBooster.Auth MediaBooster.Domain

/-! ## Parsing -/

/-- `PublicToken`. -/
structure PublicToken where
  expiresAt : Int
  signature : String
deriving DecidableEq

/-- The guard on a signature: 43 to 128 letters, digits, `-` and `_`. -/
def validSignature (value : String) : Bool :=
  decide (43 ≤ value.utf8ByteSize ∧ value.utf8ByteSize ≤ 128) &&
    allChars (fun c => isAsciiAlphanumeric c || c == '-' || c == '_') value

/-- What the loop has found so far. -/
structure Found where
  expiresAt : Option Int
  signature : Option String
deriving DecidableEq

/-- One round of the loop, with the pair cut at its first `=`. -/
def parsePair (found : Found) (pair : List Char) : Option Found := do
  let (key, value) ← splitOnce '=' pair
  if key = "expires".toList && found.expiresAt.isNone then
    return { found with expiresAt := parseI64 (String.ofList value) }
  else if key = "signature".toList && found.signature.isNone &&
      validSignature (String.ofList value) then
    return { found with signature := some (String.ofList value) }
  else none

/-- `parse_token_query`. -/
def parseTokenQuery (query : Option String) : Option PublicToken := do
  let query ← query
  let found ← (query.toList.splitOn '&').foldlM parsePair ⟨none, none⟩
  let expiresAt ← found.expiresAt
  let signature ← found.signature
  return { expiresAt, signature }

/-! ## The grammar -/

/-- One `expires` with a number and one signature, in either order, and nothing else. -/
def Exact (query : String) (token : PublicToken) : Prop :=
  validSignature token.signature = true ∧ ∃ expires, parseI64 expires = some token.expiresAt ∧
    (query = "expires=" ++ expires ++ "&signature=" ++ token.signature ∨
      query = "signature=" ++ token.signature ++ "&expires=" ++ expires)

/-- What a parameter is. -/
inductive Pair
  | expires (value : Option Int)
  | signature (value : String)
  | other
deriving DecidableEq

/-- What a parameter is, by its key and its value. -/
def classify (pair : List Char) : Pair :=
  match splitOnce '=' pair with
  | none => .other
  | some (key, value) =>
      if key = "expires".toList then .expires (parseI64 (String.ofList value))
      else if key = "signature".toList && validSignature (String.ofList value) then
        .signature (String.ofList value)
      else .other

/-- The parameters of a query. -/
def parameters (query : String) : List Pair := (query.toList.splitOn '&').map classify

/-- The values of the `expires` parameters. -/
def expiresValues (pairs : List Pair) : List (Option Int) :=
  pairs.filterMap fun pair => match pair with
    | .expires value => some value
    | _ => none

/-- The signatures. -/
def signatures (pairs : List Pair) : List String :=
  pairs.filterMap fun pair => match pair with
    | .signature value => some value
    | _ => none

/-- Several `expires` parameters, of which the last one alone is a number, next to one
signature and nothing else. -/
def Ambiguous (query : String) : Prop :=
  Pair.other ∉ parameters query ∧ (signatures (parameters query)).length = 1 ∧
    ∃ wrong expiresAt, 0 < wrong ∧
      expiresValues (parameters query) = List.replicate wrong none ++ [some expiresAt]

/-! ## The loop over the parameters -/

/-- The round, by what the parameter is. -/
def takePair (found : Found) : Pair → Option Found
  | .expires value =>
      if found.expiresAt.isNone then some { found with expiresAt := value } else none
  | .signature value =>
      if found.signature.isNone then some { found with signature := some value } else none
  | .other => none

theorem parsePair_eq (found : Found) (pair : List Char) :
    parsePair found pair = takePair found (classify pair) := by
  unfold parsePair classify
  cases splitOnce '=' pair with
  | none => rfl
  | some parts =>
      obtain ⟨key, value⟩ := parts
      show (if _ then _ else _) = takePair found (if _ then _ else _)
      by_cases expires : key = "expires".toList
      · have notSignature : ¬ "expires".toList = "signature".toList := by decide
        simp only [expires, decide_true, Bool.true_and, if_true, takePair, notSignature, decide_false,
          Bool.false_and, Bool.false_eq_true, if_false]
        rfl
      · simp only [expires, decide_false, Bool.false_and, Bool.false_eq_true, if_false]
        by_cases signature : key = "signature".toList
        · by_cases valid : validSignature (String.ofList value) = true
          · simp only [signature, valid, decide_true, Bool.true_and, Bool.and_true, if_true, takePair]
            rfl
          · rw [Bool.not_eq_true] at valid
            simp only [valid, Bool.and_false, Bool.false_eq_true, if_false, takePair]
        · simp only [signature, decide_false, Bool.false_and, Bool.false_eq_true, if_false, takePair]

theorem foldlM_parsePair (pairs : List (List Char)) : ∀ found,
    pairs.foldlM parsePair found = (pairs.map classify).foldlM takePair found := by
  induction pairs with
  | nil =>
      intro found
      rfl
  | cons pair rest ih =>
      intro found
      rw [List.foldlM_cons, List.map_cons, List.foldlM_cons, parsePair_eq]
      congr 1
      funext next
      exact ih next

/-- Values before which there are none that are numbers: all of them, or all but the last. -/
def LastCounts (values : List (Option Int)) (last : Option Int) : Prop :=
  ∃ wrong, values = List.replicate wrong none ++ last.toList.map some

theorem lastCounts_nil {last : Option Int} : LastCounts [] last ↔ last = none := by
  constructor
  · rintro ⟨wrong, split⟩
    have parts := List.append_eq_nil_iff.1 split.symm
    cases last with
    | none => rfl
    | some expiresAt => cases parts.2
  · rintro rfl
    exact ⟨0, rfl⟩

theorem lastCounts_none {values : List (Option Int)} {last : Option Int} :
    LastCounts (none :: values) last ↔ LastCounts values last := by
  constructor
  · rintro ⟨wrong, split⟩
    cases wrong with
    | zero => cases last <;> cases split
    | succ wrong =>
        rw [List.replicate_succ, List.cons_append, List.cons.injEq] at split
        exact ⟨wrong, split.2⟩
  · rintro ⟨wrong, rfl⟩
    exact ⟨wrong + 1, rfl⟩

theorem lastCounts_some {expiresAt : Int} {values : List (Option Int)} {last : Option Int} :
    LastCounts (some expiresAt :: values) last ↔ last = some expiresAt ∧ values = [] := by
  constructor
  · rintro ⟨wrong, split⟩
    cases wrong with
    | zero =>
        cases last with
        | none => cases split
        | some expiresAt =>
            cases split
            exact ⟨rfl, rfl⟩
    | succ wrong => cases split
  · rintro ⟨rfl, rfl⟩
    exact ⟨0, rfl⟩

/-- What there is to find for one of the two fields, from where it stands. -/
def TakesExpires (now last : Option Int) (values : List (Option Int)) : Prop :=
  match now with
  | none => LastCounts values last
  | some expiresAt => last = some expiresAt ∧ values = []

def TakesSignature (now last : Option String) (values : List String) : Prop :=
  match now with
  | none => last.toList = values
  | some signature => last = some signature ∧ values = []

/-- **What the loop takes**: no other parameter, one signature at most, and a number for
`expires` at the end only. -/
theorem foldlM_takePair (pairs : List Pair) : ∀ found last : Found,
    pairs.foldlM takePair found = some last ↔
      Pair.other ∉ pairs ∧ TakesSignature found.signature last.signature (signatures pairs) ∧
        TakesExpires found.expiresAt last.expiresAt (expiresValues pairs) := by
  induction pairs with
  | nil =>
      rintro ⟨expiresAt, signature⟩ ⟨expiresAt', signature'⟩
      have values : expiresValues [] = [] ∧ signatures [] = [] := ⟨rfl, rfl⟩
      show some _ = some _ ↔ _
      rw [values.1, values.2]
      constructor
      · rintro ⟨rfl, rfl⟩
        refine ⟨List.not_mem_nil, ?_, ?_⟩
        · cases signature with
          | none => exact rfl
          | some signature => exact ⟨rfl, rfl⟩
        · cases expiresAt with
          | none => exact lastCounts_nil.2 rfl
          | some expiresAt => exact ⟨rfl, rfl⟩
      · rintro ⟨-, takesSignature, takesExpires⟩
        have sameSignature : signature' = signature := by
          cases signature with
          | none => exact Option.toList_eq_nil_iff.1 takesSignature
          | some signature => exact takesSignature.1
        have sameExpires : expiresAt' = expiresAt := by
          cases expiresAt with
          | none => exact lastCounts_nil.1 takesExpires
          | some expiresAt => exact takesExpires.1
        rw [sameSignature, sameExpires]
  | cons pair rest ih =>
      rintro ⟨expiresAt, signature⟩ last
      rw [List.foldlM_cons]
      cases pair with
      | other =>
          show none = some last ↔ _
          simp
      | expires value =>
          cases expiresAt with
          | some already =>
              show none = some last ↔ _
              simp [TakesExpires, expiresValues]
          | none =>
              show rest.foldlM takePair ⟨value, signature⟩ = some last ↔ _
              rw [ih]
              cases value with
              | none => simp [TakesExpires, expiresValues, signatures, lastCounts_none]
              | some value => simp [TakesExpires, expiresValues, signatures, lastCounts_some]
      | signature value =>
          cases signature with
          | some already =>
              show none = some last ↔ _
              simp [TakesSignature, signatures]
          | none =>
              show rest.foldlM takePair ⟨expiresAt, some value⟩ = some last ↔ _
              rw [ih]
              have first : signatures (.signature value :: rest) = value :: signatures rest := rfl
              have values : expiresValues (.signature value :: rest) = expiresValues rest := rfl
              rw [first, values]
              have signed : TakesSignature (some value) last.signature (signatures rest) ↔
                  TakesSignature none last.signature (value :: signatures rest) := by
                cases last.signature with
                | none => simp [TakesSignature]
                | some signature =>
                    simp only [TakesSignature, Option.some.injEq, Option.toList_some,
                      List.cons.injEq]
                    exact and_congr_right fun _ => eq_comm
              rw [signed, List.mem_cons]
              simp

/-- **Which queries are accepted, and as what.** -/
theorem parseTokenQuery_iff (query : String) (token : PublicToken) :
    parseTokenQuery (some query) = some token ↔
      Pair.other ∉ parameters query ∧ signatures (parameters query) = [token.signature] ∧
        LastCounts (expiresValues (parameters query)) (some token.expiresAt) := by
  have last : parseTokenQuery (some query) = some token ↔
      (parameters query).foldlM takePair ⟨none, none⟩ =
        some ⟨some token.expiresAt, some token.signature⟩ := by
    unfold parameters parseTokenQuery
    rw [← foldlM_parsePair]
    show ((query.toList.splitOn '&').foldlM parsePair ⟨none, none⟩).bind _ = _ ↔ _
    cases (query.toList.splitOn '&').foldlM parsePair ⟨none, none⟩ with
    | none => simp
    | some found =>
        obtain ⟨expiresAt, signature⟩ := found
        obtain ⟨expiresAt', signature'⟩ := token
        cases expiresAt <;> cases signature <;> simp
  rw [last, foldlM_takePair]
  show _ ∧ [token.signature] = _ ∧ _ ↔ _
  rw [eq_comm]
  rfl

/-! ## Parameters as text -/

theorem classify_expires {pair : List Char} {value : Option Int} :
    classify pair = .expires value ↔
      ∃ text, pair = "expires=".toList ++ text ∧ parseI64 (String.ofList text) = value := by
  constructor
  · intro is
    unfold classify at is
    split at is
    · cases is
    · rename_i key text cut
      split at is
      · rename_i named
        cases is
        obtain ⟨rfl, -⟩ := splitOnce_eq_some.1 cut
        exact ⟨text, by rw [named]; rfl, rfl⟩
      · split at is <;> cases is
  · rintro ⟨text, rfl, rfl⟩
    have cut : splitOnce '=' ("expires=".toList ++ text) = some ("expires".toList, text) :=
      splitOnce_append (show '=' ∉ "expires".toList by decide) text
    unfold classify
    rw [cut]
    rfl

theorem classify_signature {pair : List Char} {value : String} :
    classify pair = .signature value ↔
      pair = "signature=".toList ++ value.toList ∧ validSignature value = true := by
  constructor
  · intro is
    unfold classify at is
    split at is
    · cases is
    · rename_i key text cut
      split at is
      · cases is
      · split at is
        · rename_i named
          rw [Bool.and_eq_true, decide_eq_true_eq] at named
          cases is
          obtain ⟨rfl, -⟩ := splitOnce_eq_some.1 cut
          refine ⟨?_, named.2⟩
          rw [named.1, String.toList_ofList (l := text)]
          rfl
        · cases is
  · rintro ⟨rfl, valid⟩
    have cut : splitOnce '=' ("signature=".toList ++ value.toList) =
        some ("signature".toList, value.toList) :=
      splitOnce_append (show '=' ∉ "signature".toList by decide) value.toList
    have notExpires : ¬ "signature".toList = "expires".toList := by decide
    unfold classify
    rw [cut]
    show (if _ then _ else _) = _
    rw [if_neg notExpires, String.ofList_toList, valid]
    rfl

/-- A number has no separator in it. -/
theorem parseI64_chars {text : String} {n : Int} (parsed : parseI64 text = some n) :
    '&' ∉ text.toList := by
  intro member
  have notDigit : ∀ chars : List Char, '&' ∈ chars → (chars.isEmpty || !chars.all isAsciiDigit) = true := by
    intro chars inside
    rw [Bool.or_eq_true]
    right
    rw [Bool.not_eq_true', List.all_eq_false]
    exact ⟨'&', inside, by decide⟩
  unfold parseI64 at parsed
  dsimp only at parsed
  split at parsed
  · rename_i chars text
    rw [text] at member
    have inside : '&' ∈ chars := by simpa using member
    rw [notDigit chars inside] at parsed
    cases parsed
  · rename_i chars text
    rw [text] at member
    have inside : '&' ∈ chars := by simpa using member
    rw [notDigit chars inside] at parsed
    cases parsed
  · rw [notDigit _ member] at parsed
    cases parsed

theorem validSignature_chars {value : String} (valid : validSignature value = true) :
    '&' ∉ value.toList := by
  intro member
  rw [validSignature, Bool.and_eq_true] at valid
  have letter := List.all_eq_true.1 valid.2 '&' member
  exact absurd letter (by decide)

/-- Two parameters, as text. -/
theorem parameters_pair (query : String) {first second : List Char} (noFirst : '&' ∉ first)
    (noSecond : '&' ∉ second) (text : query.toList = first ++ '&' :: second) :
    parameters query = [classify first, classify second] := by
  have joined : query.toList = ['&'].intercalate [first, second] := by
    rw [text]
    simp [List.intercalate]
  unfold parameters
  rw [joined, List.splitOn_intercalate]
  · rfl
  · intro piece member
    rcases List.mem_cons.1 member with rfl | member
    · exact noFirst
    · rw [List.mem_singleton] at member
      rw [member]
      exact noSecond
  · simp

/-- **The grammar, by the parameters.** -/
theorem exact_iff (query : String) (token : PublicToken) :
    Exact query token ↔
      parameters query = [.expires (some token.expiresAt), .signature token.signature] ∨
        parameters query = [.signature token.signature, .expires (some token.expiresAt)] := by
  have sep : ∀ key : String, '&' ∉ key.toList → ∀ text : List Char, '&' ∉ text →
      '&' ∉ key.toList ++ text := by
    intro key noKey text noText
    rw [List.mem_append, not_or]
    exact ⟨noKey, noText⟩
  constructor
  · rintro ⟨valid, expires, parsed, rfl | rfl⟩
    · left
      have cut := parameters_pair ("expires=" ++ expires ++ "&signature=" ++ token.signature)
        (sep "expires=" (by decide) _ (parseI64_chars parsed))
        (sep "signature=" (by decide) _ (validSignature_chars valid)) (by simp)
      rw [cut, classify_expires.2 ⟨expires.toList, rfl, by rw [String.ofList_toList, parsed]⟩,
        classify_signature.2 ⟨rfl, valid⟩]
    · right
      have cut := parameters_pair ("signature=" ++ token.signature ++ "&expires=" ++ expires)
        (sep "signature=" (by decide) _ (validSignature_chars valid))
        (sep "expires=" (by decide) _ (parseI64_chars parsed)) (by simp)
      rw [cut, classify_expires.2 ⟨expires.toList, rfl, by rw [String.ofList_toList, parsed]⟩,
        classify_signature.2 ⟨rfl, valid⟩]
  · have joined : ['&'].intercalate (query.toList.splitOn '&') = query.toList :=
      List.intercalate_splitOn '&'
    intro two
    have pieces : ∃ first second, query.toList.splitOn '&' = [first, second] := by
      unfold parameters at two
      match query.toList.splitOn '&', two with
      | [first, second], _ => exact ⟨first, second, rfl⟩
      | [], two => simp at two
      | [_], two => simp at two
      | _ :: _ :: _ :: _, two => simp at two
    obtain ⟨first, second, cut⟩ := pieces
    have text : query.toList = first ++ '&' :: second := by
      rw [← joined, cut]
      simp [List.intercalate]
    unfold parameters at two
    rw [cut] at two
    simp only [List.map_cons, List.map_nil, List.cons.injEq, and_true] at two
    rcases two with ⟨isExpires, isSignature⟩ | ⟨isSignature, isExpires⟩
    · obtain ⟨expires, rfl, parsed⟩ := classify_expires.1 isExpires
      obtain ⟨rfl, valid⟩ := classify_signature.1 isSignature
      refine ⟨valid, String.ofList expires, parsed, Or.inl ?_⟩
      rw [← String.toList_inj, text]
      simp
    · obtain ⟨expires, rfl, parsed⟩ := classify_expires.1 isExpires
      obtain ⟨rfl, valid⟩ := classify_signature.1 isSignature
      refine ⟨valid, String.ofList expires, parsed, Or.inr ?_⟩
      rw [← String.toList_inj, text]
      simp

/-- Without other parameters, signatures alone are what is left. -/
theorem only_signatures {pairs : List Pair} (noOther : Pair.other ∉ pairs)
    (noExpires : expiresValues pairs = []) : pairs = (signatures pairs).map .signature := by
  induction pairs with
  | nil => rfl
  | cons pair rest ih =>
      rw [List.mem_cons, not_or] at noOther
      cases pair with
      | other => exact absurd rfl noOther.1
      | expires value => cases noExpires
      | signature value =>
          have later : expiresValues rest = [] := noExpires
          show Pair.signature value :: rest = .signature value :: (signatures rest).map .signature
          rw [← ih noOther.2 later]

/-- Without other parameters, and with one of each of the two, there are these two. -/
theorem one_of_each {pairs : List Pair} {value : Option Int} {signature : String}
    (noOther : Pair.other ∉ pairs) (oneSignature : signatures pairs = [signature])
    (oneExpires : expiresValues pairs = [value]) :
    pairs = [.expires value, .signature signature] ∨
      pairs = [.signature signature, .expires value] := by
  cases pairs with
  | nil => cases oneExpires
  | cons pair rest =>
      rw [List.mem_cons, not_or] at noOther
      cases pair with
      | other => exact absurd rfl noOther.1
      | expires first =>
          left
          have parts : first :: expiresValues rest = [value] := oneExpires
          rw [List.cons.injEq] at parts
          have signed : signatures rest = [signature] := oneSignature
          rw [only_signatures noOther.2 parts.2, signed, parts.1]
          rfl
      | signature first =>
          right
          have parts : first :: signatures rest = [signature] := oneSignature
          rw [List.cons.injEq] at parts
          have expires : expiresValues rest = [value] := oneExpires
          cases rest with
          | nil => cases expires
          | cons pair rest =>
              rw [List.mem_cons, not_or] at noOther
              cases pair with
              | other => exact absurd rfl noOther.2.1
              | signature second => cases parts.2
              | expires second =>
                  have last : second :: expiresValues rest = [value] := expires
                  rw [List.cons.injEq] at last
                  have none : signatures rest = [] := parts.2
                  rw [only_signatures noOther.2.2 last.2, none, parts.1, last.1]
                  rfl

/-- **When the query of a media URL is read by its grammar**: exactly on the queries that are not
ambiguous. -/
theorem parseTokenQuery_exact_iff (query : String) :
    (∀ token, parseTokenQuery (some query) = some token ↔ Exact query token) ↔
      ¬ Ambiguous query := by
  constructor
  · rintro agrees ⟨noOther, oneSignature, wrong, expiresAt, some, values⟩
    obtain ⟨signature, signed⟩ := List.length_eq_one_iff.1 oneSignature
    have accepted := (parseTokenQuery_iff query ⟨expiresAt, signature⟩).2
      ⟨noOther, signed, wrong, values⟩
    have one : (expiresValues (parameters query)).length = 1 := by
      obtain two | two := (exact_iff query _).1 ((agrees _).1 accepted)
      · rw [two]
        rfl
      · rw [two]
        rfl
    rw [values, List.length_append, List.length_replicate, List.length_singleton] at one
    omega
  · intro clear token
    rw [parseTokenQuery_iff, exact_iff]
    constructor
    · rintro ⟨noOther, signed, wrong, values⟩
      have first : wrong = 0 := by
        by_contra more
        exact clear ⟨noOther, by rw [signed]; rfl, wrong, token.expiresAt, by omega, values⟩
      rw [first] at values
      exact one_of_each noOther signed values
    · rintro (two | two)
      · rw [two]
        exact ⟨by simp, rfl, 0, rfl⟩
      · rw [two]
        exact ⟨by simp, rfl, 0, rfl⟩

/-- A query with a second chance: the first `expires` is no number. -/
def secondChance : String :=
  "expires=soon&expires=1700000300&signature=abcdefghijklmnopqrstuvwxyzABCDEFGH012345678"

/-- The token it is taken for. -/
def secondChanceToken : PublicToken :=
  ⟨1700000300, "abcdefghijklmnopqrstuvwxyzABCDEFGH012345678"⟩

theorem secondChance_parameters : parameters secondChance =
    [.expires none, .expires (some 1700000300),
      .signature "abcdefghijklmnopqrstuvwxyzABCDEFGH012345678"] := by decide +kernel

/-- **A duplicate is let through**: the query with two `expires` parameters gets its token,
although it is not of the grammar. -/
theorem secondChance_accepted : parseTokenQuery (some secondChance) = some secondChanceToken ∧
    ¬ Exact secondChance secondChanceToken ∧ Ambiguous secondChance := by
  refine ⟨?_, ?_, ?_⟩
  · rw [parseTokenQuery_iff, secondChance_parameters]
    exact ⟨by decide, rfl, 1, rfl⟩
  · rw [exact_iff, secondChance_parameters]
    simp
  · refine ⟨?_, ?_, 1, 1700000300, by decide, ?_⟩
    · rw [secondChance_parameters]
      decide
    · rw [secondChance_parameters]
      rfl
    · rw [secondChance_parameters]
      rfl

end MediaBooster.Api
