/-
# Auth.Signer -- the adapter's signer and the service's verifier

`HmacRequestSigner` is the PHP class that signs the adapter's requests.  A text stands for the
bytes of a PHP string in UTF-8; what is not UTF-8 is refused by every pattern but the secret's,
and no configuration holds such a secret.

The signer's patterns end in `$`, which also matches before a final line feed, and the signer
upper-cases the method; the verifier does neither.  `signer_agrees`: what is signed is verified
exactly where no signed field ends in a line feed and the method was upper case; and it is
authenticated exactly where, besides, the configured skew is not zero.
-/
import MediaBooster.Auth.Canonical
import MediaBooster.Auth.Replay
import MediaBooster.Config.Settings
import MediaBooster.Domain.Php

namespace MediaBooster.Auth

set_option autoImplicit false

open MediaBooster.Config MediaBooster.Domain MediaBooster.Store MediaBooster.Theory.Table
open MediaBooster.Theory.Transaction

/-! ## What PHP computes with -/

/-- A digit of `base64_encode`. -/
def base64Digit (value : Nat) : Char :=
  if value < 26 then Char.ofNat (value + 65)
  else if value < 52 then Char.ofNat (value + 71)
  else if value < 62 then Char.ofNat (value - 4)
  else if value = 62 then '+'
  else '/'

/-- `base64_encode`. -/
def base64Encode : List UInt8 → List Char
  | [] => []
  | [a] => [base64Digit (a.toNat / 4), base64Digit (a.toNat % 4 * 16), '=', '=']
  | [a, b] =>
      [base64Digit (a.toNat / 4), base64Digit (a.toNat % 4 * 16 + b.toNat / 16),
        base64Digit (b.toNat % 16 * 4), '=']
  | a :: b :: c :: rest =>
      base64Digit (a.toNat / 4) :: base64Digit (a.toNat % 4 * 16 + b.toNat / 16) ::
        base64Digit (b.toNat % 16 * 4 + c.toNat / 64) :: base64Digit (c.toNat % 64) ::
        base64Encode rest

/-- `strtr($text, '+/', '-_')`. -/
def strtr (text : List Char) : List Char :=
  text.map fun c => if c = '+' then '-' else if c = '/' then '_' else c

/-- `rtrim($text, '=')`. -/
def rtrim (text : List Char) : List Char := (text.reverse.dropWhile (· == '=')).reverse

/-! ## The signer -/

namespace HmacRequestSigner

/-- `canonicalPayload`. -/
def canonicalPayload (keyId : String) (timestamp : Int) (nonce method pathAndQuery bodyHash : String) :
    String :=
  String.intercalate "\n"
    ["G7MB-HMAC-SHA256", keyId, toString timestamp, nonce, method, pathAndQuery, bodyHash]

/-- The letters of a key id. -/
def isKeyIdChar (c : Char) : Bool := isAsciiAlphanumeric c || c == '-' || c == '_'

/-- The digits of a digest. -/
def isHexDigit (c : Char) : Bool := isAsciiDigit c || (decide ('a' ≤ c) && decide (c ≤ 'f'))

/-- `/^\/[\x21-\x7e]{0,8191}$/`. -/
def isPathAndQuery : List Char → Bool
  | '/' :: rest => pregMatch isAsciiGraphic 0 (some 8191) rest
  | _ => false

/-- `assertFields`: the message of its exception. -/
def assertFields (keyId secret method pathAndQuery nonce bodyHash : String) : Except String Unit :=
  if !pregMatch isKeyIdChar 1 (some 128) keyId.toList then .error "invalid HMAC key id"
  else if secret.utf8ByteSize < 32 ∨ 256 < secret.utf8ByteSize then
    .error "invalid HMAC secret length"
  else if !pregMatch isAsciiUppercase 1 none method.toList then .error "invalid HTTP method"
  else if !isPathAndQuery pathAndQuery.toList then .error "invalid path and query"
  else if nonce.utf8ByteSize < 16 ∨ 128 < nonce.utf8ByteSize ∨
      pregMatch isAsciiGraphic 1 none nonce.toList = false then .error "invalid request nonce"
  else if !pregMatch isHexDigit 64 (some 64) bodyHash.toList then
    .error "invalid request body digest"
  else .ok ()

/-- The signature of a payload. -/
def signature (crypto : Crypto) (secret canonical : String) : String :=
  String.ofList (rtrim (strtr (base64Encode (crypto.hmacSha256 secret canonical))))

/-- `sign`, with the timestamp and the nonce given or drawn. -/
def sign (crypto : Crypto) (keyId secret method pathAndQuery : String) (body : List UInt8)
    (timestamp : Int) (nonce : String) : Except String HeaderMap := do
  let method := strtoupper method
  let bodyHash := crypto.sha256Hex body
  assertFields keyId secret method pathAndQuery nonce bodyHash
  let canonical := canonicalPayload keyId timestamp nonce method pathAndQuery bodyHash
  return [("x-g7mb-key-id", keyId), ("x-g7mb-timestamp", toString timestamp),
    ("x-g7mb-nonce", nonce), ("x-g7mb-content-sha256", bodyHash),
    ("x-g7mb-signature", signature crypto secret canonical)]

end HmacRequestSigner

/-- What the signer is called with. -/
structure Signing where
  keyId : String
  secret : String
  method : String
  pathAndQuery : String
  body : List UInt8
  timestamp : Int
  nonce : String
  lower : i64Min ≤ timestamp
  upper : timestamp ≤ i64Max

/-- The headers of a call, or the message of its exception. -/
def Signing.sign (signing : Signing) (crypto : Crypto) : Except String HeaderMap :=
  HmacRequestSigner.sign crypto signing.keyId signing.secret signing.method signing.pathAndQuery
    signing.body signing.timestamp signing.nonce

/-- The signed request that some headers, a method and a path make. -/
def readSigned (headers : HeaderMap) (method pathAndQuery : String) : Option SignedRequest := do
  let keyId ← headers.lookup "x-g7mb-key-id"
  let timestampText ← headers.lookup "x-g7mb-timestamp"
  let timestamp ← parseI64 timestampText
  let nonce ← headers.lookup "x-g7mb-nonce"
  let bodySha256 ← headers.lookup "x-g7mb-content-sha256"
  let signature ← headers.lookup "x-g7mb-signature"
  return ⟨keyId, timestamp, nonce, method, pathAndQuery, bodySha256, signature⟩

/-- The API as it is started with accepted settings. -/
def apiAuth (settings : AuthSettings) : ApiAuth :=
  ⟨settings.keyId, settings.tenantId, settings.hmacSecret, settings.allowedSkewSeconds⟩

/-- PHP and Rust agree on base64url and SHA-256. -/
structure Crypto.Agrees (crypto : Crypto) : Prop where
  decodes : ∀ secret canonical,
    crypto.decodeBase64Url (HmacRequestSigner.signature crypto secret canonical) =
      some (crypto.hmacSha256 secret canonical)
  digest : ∀ body, sha256Token (crypto.sha256Hex body) = true

/-! ## Final line feeds -/

/-- A text that ends in a line feed. -/
def EndsLine (text : String) : Prop := text.toList.getLast? = some '\n'

instance (text : String) : Decidable (EndsLine text) := inferInstanceAs (Decidable (_ = _))

/-- A text of a class without the line feed does not end in one. -/
theorem not_endsLine {inClass : Char → Bool} {text : String} (refuses : inClass '\n' = false)
    (all : allChars inClass text = true) : ¬ EndsLine text := by
  intro ends
  exact oneLine_of_allChars refuses all (List.mem_of_getLast? ends)

/-- What is signed is what a server that sees the method `sent` reads: no field ends in a line
feed, and the method is upper case. -/
structure Signing.SentAsSigned (signing : Signing) (sent : String) : Prop where
  keyId : ¬ EndsLine signing.keyId
  nonce : ¬ EndsLine signing.nonce
  method : ¬ EndsLine sent
  pathAndQuery : ¬ EndsLine signing.pathAndQuery
  upperCase : strtoupper sent = sent

/-! ## Texts of ASCII characters -/

/-- As many bytes as characters at most, where all are ASCII. -/
theorem utf8ByteSize_le_length {text : String} (ascii : ∀ c ∈ text.toList, c ≤ '~') :
    text.utf8ByteSize ≤ text.toList.length := by
  have bytes : ∀ chars : List Char, (∀ c ∈ chars, c ≤ '~') →
      (String.ofList chars).utf8ByteSize ≤ chars.length := by
    intro chars
    induction chars with
    | nil => exact fun _ => Nat.le_refl _
    | cons c chars ih =>
        intro ascii
        have one : (String.ofList [c]).utf8ByteSize = 1 := by
          rw [show String.ofList [c] = String.singleton c from rfl, String.utf8ByteSize_singleton]
          have small := ascii c List.mem_cons_self
          exact Char.utf8Size_eq_one_iff.2 (Nat.le_trans small (by decide))
        have rest := ih fun d member => ascii d (List.mem_cons_of_mem _ member)
        have split : String.ofList (c :: chars) = String.ofList [c] ++ String.ofList chars := by
          rw [← String.ofList_append, List.singleton_append]
        rw [split, String.utf8ByteSize_append, List.length_cons]
        omega
  have listed := bytes text.toList ascii
  rw [String.ofList_toList] at listed
  exact listed

theorem toUpper_of_upper {c : Char} (upper : isAsciiUppercase c = true) : c.toUpper = c := by
  unfold isAsciiUppercase at upper
  rw [Bool.and_eq_true, decide_eq_true_eq, decide_eq_true_eq] at upper
  unfold Char.toUpper
  rw [dif_neg]
  rintro ⟨low, -⟩
  have small : c.val ≤ 'Z'.val := upper.2
  exact absurd (UInt32.le_trans low small) (by decide)

theorem strtoupper_of_upper {text : String} (upper : allChars isAsciiUppercase text = true) :
    strtoupper text = text := by
  have same : text.toList.map Char.toUpper = text.toList.map id :=
    List.map_congr_left fun c member => toUpper_of_upper (List.all_eq_true.1 upper c member)
  unfold strtoupper
  rw [same, List.map_id, String.ofList_toList]

theorem le_tilde_of_graphic {c : Char} (graphic : isAsciiGraphic c = true) : c ≤ '~' := by
  unfold isAsciiGraphic at graphic
  rw [Bool.and_eq_true, decide_eq_true_eq, decide_eq_true_eq] at graphic
  exact graphic.2

theorem graphic_of_range {c low high : Char} (range : low ≤ c ∧ c ≤ high) (above : '!' ≤ low)
    (below : high ≤ '~') : isAsciiGraphic c = true := by
  unfold isAsciiGraphic
  rw [Bool.and_eq_true, decide_eq_true_eq, decide_eq_true_eq]
  exact ⟨le_trans above range.1, le_trans range.2 below⟩

theorem graphic_of_keyIdChar {c : Char} (letter : HmacRequestSigner.isKeyIdChar c = true) :
    isAsciiGraphic c = true := by
  simp only [HmacRequestSigner.isKeyIdChar, isAsciiAlphanumeric, isAsciiDigit, isAsciiUppercase,
    isAsciiLowercase, Bool.or_eq_true, Bool.and_eq_true, decide_eq_true_eq, beq_iff_eq] at letter
  obtain (((digit | upper) | lower) | rfl) | rfl := letter
  · exact graphic_of_range digit (by decide) (by decide)
  · exact graphic_of_range upper (by decide) (by decide)
  · exact graphic_of_range lower (by decide) (by decide)
  · decide
  · decide

theorem graphic_of_hexDigit {c : Char} (digit : HmacRequestSigner.isHexDigit c = true) :
    isAsciiGraphic c = true := by
  simp only [HmacRequestSigner.isHexDigit, isAsciiDigit, Bool.or_eq_true, Bool.and_eq_true,
    decide_eq_true_eq] at digit
  obtain decimal | letter := digit
  · exact graphic_of_range decimal (by decide) (by decide)
  · exact graphic_of_range letter (by decide) (by decide)

/-- What is of a visible class is visible. -/
theorem allChars_graphic {inClass : Char → Bool} {text : String}
    (visible : ∀ c, inClass c = true → isAsciiGraphic c = true)
    (all : allChars inClass text = true) : allChars isAsciiGraphic text = true :=
  List.all_eq_true.2 fun c member => visible c (List.all_eq_true.1 all c member)

/-! ## Numbers as text -/

/-- The digits of a number read back. -/
theorem digits_repr (n : Nat) :
    (Nat.toDigits 10 n).all isAsciiDigit = true ∧
      (Nat.toDigits 10 n).foldl (fun n c => n * 10 + (c.toNat - '0'.toNat)) 0 = n := by
  constructor
  · refine List.all_eq_true.2 fun c member => ?_
    exact isAsciiDigit_of_isDigit (Nat.isDigit_of_mem_toDigits (by decide) (by decide) member)
  · have read := Nat.ofDigitChars_ten_toDigits (n := n)
    rw [Nat.ofDigitChars_eq_foldl] at read
    simpa only [Nat.mul_comm] using read

/-- A timestamp that PHP writes is the timestamp Rust reads. -/
theorem parseI64_toString {n : Int} (lower : i64Min ≤ n) (upper : n ≤ i64Max) :
    parseI64 (toString n) = some n := by
  cases n with
  | ofNat n =>
      obtain ⟨digits, value⟩ := digits_repr n
      have text : (toString (Int.ofNat n)).toList = Nat.toDigits 10 n := Nat.toList_repr
      unfold parseI64
      rw [text]
      cases written : Nat.toDigits 10 n with
      | nil => exact absurd written Nat.toDigits_ne_nil
      | cons c rest =>
          rw [written] at digits value
          have first : isAsciiDigit c = true := (List.all_eq_true.1 digits) c List.mem_cons_self
          have read : (if (c :: rest).isEmpty || !(c :: rest).all isAsciiDigit then none
              else some ((c :: rest).foldl (fun n c => n * 10 + (c.toNat - '0'.toNat)) 0)) = some n := by
            rw [digits, value]
            rfl
          dsimp only
          split
          · rename_i negative
            obtain ⟨rfl, -⟩ := List.cons.inj negative
            exact absurd first (by decide)
          · rename_i positive
            obtain ⟨rfl, -⟩ := List.cons.inj positive
            exact absurd first (by decide)
          · rw [read]
            show Option.filter _ (some (Int.ofNat n)) = some (Int.ofNat n)
            rw [Option.filter_some, if_pos]
            simpa using ⟨lower, upper⟩
  | negSucc n =>
      obtain ⟨digits, value⟩ := digits_repr (n + 1)
      have text : (toString (Int.negSucc n)).toList = '-' :: Nat.toDigits 10 (n + 1) := by
        show ("-" ++ (n + 1).repr).toList = _
        rw [String.toList_append, Nat.toList_repr]
        rfl
      unfold parseI64
      rw [text]
      dsimp only
      have nonempty : (Nat.toDigits 10 (n + 1)).isEmpty = false := by
        cases written : Nat.toDigits 10 (n + 1) with
        | nil => exact absurd written Nat.toDigits_ne_nil
        | cons => rfl
      simp only [digits, value, nonempty, Bool.not_true, Bool.or_self, Bool.false_eq_true, if_false]
      show Option.filter _ (some (Int.negSucc n)) = some (Int.negSucc n)
      rw [Option.filter_some, if_pos]
      simpa using ⟨lower, upper⟩

/-! ## Headers -/

theorem graphic_base64Digit (value : Nat) : isAsciiGraphic (base64Digit value) = true := by
  by_cases small : value < 64
  · have checked : ∀ value : Fin 64, isAsciiGraphic (base64Digit value) = true := by decide
    exact checked ⟨value, small⟩
  · have slash : base64Digit value = '/' := by
      unfold base64Digit
      rw [if_neg (by omega), if_neg (by omega), if_neg (by omega), if_neg (by omega)]
    rw [slash]
    decide

theorem graphic_base64Encode (bytes : List UInt8) :
    ∀ c ∈ base64Encode bytes, isAsciiGraphic c = true := by
  have equals : isAsciiGraphic '=' = true := by decide
  fun_induction base64Encode bytes with
  | case1 => exact fun _ member => by cases member
  | case2 a => simp [graphic_base64Digit, equals]
  | case3 a b => simp [graphic_base64Digit, equals]
  | case4 a b c rest ih => simpa [graphic_base64Digit] using ih

/-- A signature is visible ASCII. -/
theorem graphic_signature (crypto : Crypto) (secret canonical : String) :
    allChars isAsciiGraphic (HmacRequestSigner.signature crypto secret canonical) = true := by
  unfold allChars HmacRequestSigner.signature
  rw [String.toList_ofList, List.all_eq_true]
  intro c member
  have kept : c ∈ strtr (base64Encode (crypto.hmacSha256 secret canonical)) := by
    unfold rtrim at member
    exact List.mem_reverse.1 ((List.dropWhile_sublist _).subset (List.mem_reverse.1 member))
  obtain ⟨digit, inside, rfl⟩ := List.mem_map.1 kept
  have graphic := graphic_base64Encode _ digit inside
  split
  · decide
  · split
    · decide
    · exact graphic

theorem graphic_toString (n : Int) : allChars isAsciiGraphic (toString n) = true := by
  have digits : ∀ n : Nat, ∀ c ∈ Nat.toDigits 10 n, isAsciiGraphic c = true := by
    intro n c member
    have digit := (List.all_eq_true.1 (digits_repr n).1) c member
    unfold isAsciiDigit at digit
    rw [Bool.and_eq_true, decide_eq_true_eq, decide_eq_true_eq] at digit
    exact graphic_of_range digit (by decide) (by decide)
  unfold allChars
  rw [List.all_eq_true]
  intro c member
  cases n with
  | ofNat n =>
      rw [show (toString (Int.ofNat n)).toList = Nat.toDigits 10 n from Nat.toList_repr] at member
      exact digits n c member
  | negSucc n =>
      rw [show toString (Int.negSucc n) = "-" ++ (n + 1).repr from rfl, String.toList_append,
        List.mem_append, Nat.toList_repr] at member
      obtain sign | digit := member
      · rw [List.mem_singleton.1 (show c ∈ ['-'] from sign)]
        decide
      · exact digits _ c digit

theorem requiredHeader_eq {headers : HeaderMap} {name value : String}
    (found : headers.lookup name = some value) (graphic : allChars isAsciiGraphic value = true) :
    requiredHeader headers name = .ok value := by
  unfold requiredHeader
  rw [found]
  have visible : allChars
      (fun c => c == '\t' || (decide (' ' ≤ c) && decide (c ≤ '~'))) value = true := by
    refine List.all_eq_true.2 fun c member => ?_
    have inside := List.all_eq_true.1 graphic c member
    unfold isAsciiGraphic at inside
    rw [Bool.and_eq_true, decide_eq_true_eq, decide_eq_true_eq] at inside
    rw [Bool.or_eq_true, Bool.and_eq_true, decide_eq_true_eq, decide_eq_true_eq]
    exact .inr ⟨le_trans (by decide) inside.1, inside.2⟩
  dsimp only
  rw [visible]
  rfl

theorem requiredHeader_ok {headers : HeaderMap} {name value read : String}
    (found : headers.lookup name = some value) (required : requiredHeader headers name = .ok read) :
    read = value := by
  unfold requiredHeader at required
  rw [found] at required
  dsimp only at required
  split at required
  · exact (Except.ok.inj required).symm
  · cases required

/-- A nonce the store does not have is consumed, where the reservation outlives the call. -/
theorem consume_unused {keyId nonce : String} {now expiresAt : OffsetDateTime} {store : SqliteStore}
    (named : keyId.isEmpty = false ∧ keyId.utf8ByteSize ≤ 128)
    (sized : 16 ≤ nonce.utf8ByteSize ∧ nonce.utf8ByteSize ≤ 128) (later : ¬ expiresAt ≤ now)
    (unused : ∀ row ∈ store.requestNonces, row.identity ≠ (keyId, nonce)) :
    ∃ store', consume keyId nonce now expiresAt store = (.ok (), store') := by
  have inserts : ∀ store' : SqliteStore, (∀ row ∈ store'.requestNonces, row.identity ≠ (keyId, nonce)) →
      ∃ store'', store'.insertNonceOrIgnore ⟨keyId, nonce, expiresAt.unixTimestamp⟩ =
        .ok (1, store'') := by
    intro store' apart
    unfold SqliteStore.insertNonceOrIgnore
    rw [if_neg]
    · exact ⟨_, rfl⟩
    · rw [List.any_eq_true]
      rintro ⟨row, member, same⟩
      rw [Bool.and_eq_true, beq_iff_eq, beq_iff_eq] at same
      exact apart row member (Prod.ext same.1 same.2)
  obtain ⟨store', inserted⟩ := inserts
    { store with requestNonces := deleteWhere (fun row : RequestNonceRow =>
        decide (row.expiresAt ≤ now.unixTimestamp)) store.requestNonces }
    fun row member => unused row (List.mem_of_mem_filter member)
  have checked : (!keyId.isEmpty && decide (keyId.utf8ByteSize ≤ 128) &&
      decide (16 ≤ nonce.utf8ByteSize) && decide (nonce.utf8ByteSize ≤ 128) &&
      !decide (expiresAt ≤ now)) = true := by
    rw [named.1, decide_eq_true named.2, decide_eq_true sized.1, decide_eq_true sized.2,
      decide_eq_false later]
    rfl
  refine ⟨store', ?_⟩
  simp only [consume, call_bind_eq_ok, call_ensure_eq_ok, commit_eq_ok, bind_eq_ok,
    execute_eq_ok, ensure_eq_ok]
  exact ⟨(), store, ⟨checked, rfl⟩, _, _, rfl, 1, store', inserted, rfl, rfl⟩

/-! ## What is signed -/

namespace Signing

variable {crypto : Crypto} {signing : Signing} {headers : HeaderMap} {sent : String}

/-- The signed request of a call, as a server that sees the method `sent` reads it. -/
def presented (signing : Signing) (crypto : Crypto) (sent : String) : SignedRequest :=
  let digest := crypto.sha256Hex signing.body
  ⟨signing.keyId, signing.timestamp, signing.nonce, sent, signing.pathAndQuery, digest,
    HmacRequestSigner.signature crypto signing.secret
      (HmacRequestSigner.canonicalPayload signing.keyId signing.timestamp signing.nonce
        (strtoupper signing.method) signing.pathAndQuery digest)⟩

/-- A call that does not throw has passed its checks. -/
theorem sign_ok (sent : String) (signs : signing.sign crypto = .ok headers) :
    HmacRequestSigner.assertFields signing.keyId signing.secret (strtoupper signing.method)
        signing.pathAndQuery signing.nonce (crypto.sha256Hex signing.body) = .ok () ∧
      headers = [("x-g7mb-key-id", signing.keyId), ("x-g7mb-timestamp", toString signing.timestamp),
        ("x-g7mb-nonce", signing.nonce), ("x-g7mb-content-sha256", crypto.sha256Hex signing.body),
        ("x-g7mb-signature", (signing.presented crypto sent).signature)] := by
  unfold sign HmacRequestSigner.sign at signs
  dsimp only at signs
  cases checked : HmacRequestSigner.assertFields signing.keyId signing.secret
      (strtoupper signing.method) signing.pathAndQuery signing.nonce
      (crypto.sha256Hex signing.body) with
  | error message =>
      rw [checked] at signs
      cases signs
  | ok =>
      rw [checked] at signs
      exact ⟨rfl, (Except.ok.inj signs).symm⟩

theorem readSigned_presented (signs : signing.sign crypto = .ok headers) :
    readSigned headers sent signing.pathAndQuery = some (signing.presented crypto sent) := by
  obtain ⟨-, rfl⟩ := sign_ok sent signs
  have timestamp : parseI64 signing.timestamp.repr = some signing.timestamp :=
    parseI64_toString signing.lower signing.upper
  unfold readSigned
  simp [List.lookup, timestamp]
  rfl

/-- What the checks of the signer say. -/
structure Asserted (signing : Signing) : Prop where
  keyId : pregMatch HmacRequestSigner.isKeyIdChar 1 (some 128) signing.keyId.toList = true
  secret : 32 ≤ signing.secret.utf8ByteSize ∧ signing.secret.utf8ByteSize ≤ 256
  method : pregMatch isAsciiUppercase 1 none (strtoupper signing.method).toList = true
  pathAndQuery : HmacRequestSigner.isPathAndQuery signing.pathAndQuery.toList = true
  sized : 16 ≤ signing.nonce.utf8ByteSize ∧ signing.nonce.utf8ByteSize ≤ 128
  nonce : pregMatch isAsciiGraphic 1 none signing.nonce.toList = true

theorem asserted_of_sign (signs : signing.sign crypto = .ok headers) : Asserted signing := by
  obtain ⟨passed, -⟩ := sign_ok signing.method signs
  unfold HmacRequestSigner.assertFields at passed
  split at passed
  · cases passed
  rename_i keyId
  split at passed
  · cases passed
  rename_i secret
  split at passed
  · cases passed
  rename_i method
  split at passed
  · cases passed
  rename_i path
  split at passed
  · cases passed
  rename_i nonce
  rw [not_or, not_or, Bool.not_eq_false] at nonce
  refine ⟨by simpa using keyId, ?_, by simpa using method, by simpa using path, ?_, nonce.2.2⟩
  · omega
  · omega

/-- A path that does not end in a line feed is a slash and at most 8191 visible characters. -/
theorem Asserted.path (asserted : Asserted signing) (ends : ¬ EndsLine signing.pathAndQuery) :
    ∃ rest, signing.pathAndQuery.toList = '/' :: rest ∧
      (∀ c ∈ signing.pathAndQuery.toList, isAsciiGraphic c = true) ∧ rest.length ≤ 8191 := by
  have path := asserted.pathAndQuery
  unfold EndsLine at ends
  unfold HmacRequestSigner.isPathAndQuery at path
  split at path
  · rename_i rest slash
    rw [slash] at ends
    have away : rest.getLast? ≠ some '\n' := by
      intro last
      rw [List.getLast?_cons, last] at ends
      exact ends rfl
    obtain ⟨graphic, -, most⟩ := all_of_pregWhole (pregWhole_of_match path away)
    refine ⟨rest, slash, ?_, most 8191 rfl⟩
    rw [slash]
    intro c member
    obtain rfl | inside := List.mem_cons.1 member
    · decide
    · exact List.all_eq_true.1 graphic c inside
  · cases path

/-- The fields of a call are valid exactly where they are sent as they were signed. -/
theorem validField_presented (agrees : crypto.Agrees) (asserted : Asserted signing)
    (upper : strtoupper sent = strtoupper signing.method) :
    validField (signing.presented crypto sent) = true ↔ signing.SentAsSigned sent := by
  have keyIdChar : HmacRequestSigner.isKeyIdChar '\n' = false := by decide
  have graphic : isAsciiGraphic '\n' = false := by decide
  have capital : isAsciiUppercase '\n' = false := by decide
  constructor
  · intro valid
    simp only [validField, narrowToken, Bool.and_eq_true] at valid
    obtain ⟨⟨⟨⟨⟨⟨⟨⟨⟨⟨-, keyId⟩, -⟩, -⟩, nonce⟩, -⟩, method⟩, -⟩, -⟩, path⟩, -⟩ := valid
    exact ⟨not_endsLine keyIdChar keyId, not_endsLine graphic nonce, not_endsLine capital method,
      not_endsLine graphic path, strtoupper_of_upper method⟩
  · intro same
    obtain ⟨keyId, keyLeast, keyMost⟩ :=
      all_of_pregWhole (pregWhole_of_match asserted.keyId same.keyId)
    obtain ⟨nonce, -, -⟩ := all_of_pregWhole (pregWhole_of_match asserted.nonce same.nonce)
    have method := asserted.method
    rw [← upper, same.upperCase] at method
    obtain ⟨method, methodLeast, -⟩ := all_of_pregWhole (pregWhole_of_match method same.method)
    obtain ⟨rest, slash, path, most⟩ := asserted.path same.pathAndQuery
    have keySize := utf8ByteSize_le_length fun c member =>
      le_tilde_of_graphic (graphic_of_keyIdChar (List.all_eq_true.1 keyId c member))
    have pathSize := utf8ByteSize_le_length fun c member => le_tilde_of_graphic (path c member)
    have keyMost := keyMost 128 rfl
    have nonempty : ∀ text : String, 1 ≤ text.toList.length → text.isEmpty = false := by
      intro text long
      rw [← Bool.not_eq_true, String.isEmpty_iff]
      rintro rfl
      exact absurd long (by decide)
    simp only [validField, narrowToken, Bool.and_eq_true, Bool.not_eq_true', beq_iff_eq,
      decide_eq_true_eq]
    refine ⟨⟨⟨⟨⟨⟨⟨⟨⟨⟨⟨nonempty _ keyLeast, keySize.trans keyMost⟩, keyId⟩, asserted.sized.1⟩,
      asserted.sized.2⟩, nonce⟩, nonempty _ methodLeast⟩, method⟩, ?_⟩, ?_⟩,
      List.all_eq_true.2 path⟩, agrees.digest _⟩
    · show signing.pathAndQuery.toList.head? = some '/'
      rw [slash]
      rfl
    · show signing.pathAndQuery.utf8ByteSize ≤ 8192
      rw [slash, List.length_cons] at pathSize
      omega

/-- The signer and the verifier write the same payload. -/
theorem canonicalPayload_presented (crypto : Crypto) (upper : strtoupper sent = strtoupper signing.method)
    (same : strtoupper sent = sent) :
    (signing.presented crypto sent).canonicalPayload =
      HmacRequestSigner.canonicalPayload signing.keyId signing.timestamp signing.nonce
        (strtoupper signing.method) signing.pathAndQuery (crypto.sha256Hex signing.body) := by
  have head : "G7MB-HMAC-SHA256" ++ "\n" = "G7MB-HMAC-SHA256\n" := by decide
  rw [← upper, same]
  unfold SignedRequest.canonicalPayload
  rw [← head]
  rfl

/-- **What is signed is verified exactly where it is sent as it was signed.** -/
theorem verify_presented (agrees : crypto.Agrees) (asserted : Asserted signing)
    (upper : strtoupper sent = strtoupper signing.method) {now skew : Int}
    (fresh : ((now - signing.timestamp).natAbs : Int) ≤ skew) :
    verify crypto (signing.presented crypto sent) signing.secret now skew = .ok () ↔
      signing.SentAsSigned sent := by
  have decoded := agrees.decodes signing.secret (HmacRequestSigner.canonicalPayload signing.keyId
    signing.timestamp signing.nonce (strtoupper signing.method) signing.pathAndQuery
    (crypto.sha256Hex signing.body))
  rw [← validField_presented agrees asserted upper]
  constructor
  · exact fun verified => (verify_ok decoded verified).1
  · intro valid
    have sentAs := (validField_presented agrees asserted upper).1 valid
    have payload := canonicalPayload_presented crypto upper sentAs.upperCase
    have bounds := asserted.secret
    unfold verify
    rw [if_neg (by
        show ¬ (skew < 0 ∨ ((now - signing.timestamp).natAbs : Int) > skew)
        omega), valid]
    rw [if_neg (by decide), if_neg (not_not.2 bounds)]
    rw [payload]
    simp only [presented, decoded, if_true]

/-- The headers a request carries are the call's own, whatever others it has. -/
theorem lookup_headers (sent : String) (signs : signing.sign crypto = .ok headers)
    (others : HeaderMap) :
    (headers ++ others).lookup "x-g7mb-key-id" = some signing.keyId ∧
    (headers ++ others).lookup "x-g7mb-timestamp" = some (toString signing.timestamp) ∧
    (headers ++ others).lookup "x-g7mb-nonce" = some signing.nonce ∧
    (headers ++ others).lookup "x-g7mb-content-sha256" = some (crypto.sha256Hex signing.body) ∧
    (headers ++ others).lookup "x-g7mb-signature" =
      some (signing.presented crypto sent).signature := by
  obtain ⟨-, rfl⟩ := sign_ok sent signs
  refine ⟨?_, ?_, ?_, ?_, ?_⟩ <;> simp [List.lookup]

/-- The request of a call, with whatever other headers it has, at a server that sees the method
`sent`. -/
def request (signing : Signing) (headers others : HeaderMap) (sent : String) : ApiRequest :=
  ⟨headers ++ others, signing.body, sent, signing.pathAndQuery⟩

/-- **What is signed under the configured key is authenticated exactly where it is sent as it was
signed, and the reservation of its nonce outlives the call.** -/
theorem authenticate_presented (agrees : crypto.Agrees) (signs : signing.sign crypto = .ok headers)
    (upper : strtoupper sent = strtoupper signing.method) {settings : AuthSettings}
    (ownKey : settings.keyId = signing.keyId) (ownSecret : settings.hmacSecret = signing.secret)
    {others : HeaderMap} {store : SqliteStore} {verifyAt consumeAt : OffsetDateTime}
    (fresh : ((verifyAt.unixTimestamp - signing.timestamp).natAbs : Int) ≤ settings.allowedSkewSeconds)
    (unused : ∀ row ∈ store.requestNonces, row.identity ≠ (signing.keyId, signing.nonce)) :
    (authenticateRequest crypto ⟨some (apiAuth settings), true⟩
        (signing.request headers others sent) verifyAt consumeAt store).1 = .ok settings.tenantId ↔
      signing.SentAsSigned sent ∧ 0 < settings.allowedSkewSeconds ∧
        (consumeAt.checkedAddSeconds settings.allowedSkewSeconds).isSome = true := by
  have asserted := asserted_of_sign signs
  obtain ⟨keyId, timestamp, nonce, digest, signature⟩ := lookup_headers sent signs others
  have parsed := parseI64_toString signing.lower signing.upper
  constructor
  · intro authenticated
    obtain ⟨store', ran⟩ : ∃ store', authenticateRequest crypto ⟨some (apiAuth settings), true⟩
        (signing.request headers others sent) verifyAt consumeAt store = (.ok settings.tenantId, store') :=
      ⟨_, Prod.ext authenticated rfl⟩
    obtain ⟨auth, signed, expiresAt, presents, verified, fits, consumed, -⟩ :=
      authenticateRequest_ok_iff.1 ran
    obtain rfl : apiAuth settings = auth := Option.some.inj presents.configured
    have same : signed = signing.presented crypto sent := by
      obtain ⟨text, hasText, read⟩ := presents.timestamp
      obtain rfl := requiredHeader_ok timestamp hasText
      have sentKey := requiredHeader_ok keyId presents.keyId
      have sentNonce := requiredHeader_ok nonce presents.nonce
      have sentDigest := requiredHeader_ok digest presents.bodySha256
      have sentSignature := requiredHeader_ok signature presents.signature
      have sentTimestamp := Option.some.inj (read.symm.trans parsed)
      have sentMethod := presents.method
      have sentPath := presents.pathAndQuery
      cases signed
      simp only at sentKey sentNonce sentDigest sentSignature sentTimestamp sentMethod sentPath
      subst sentKey sentNonce sentDigest sentSignature sentTimestamp sentMethod sentPath
      rfl
    rw [same] at verified
    rw [show (apiAuth settings).secret = signing.secret from ownSecret] at verified
    refine ⟨(verify_presented agrees asserted upper fresh).1 verified, ?_, ?_⟩
    · have later := (consume_ok_checked consumed).2.2
      obtain ⟨added, -⟩ := OffsetDateTime.checkedAddSeconds_eq_some fits
      rw [OffsetDateTime.le_def, added] at later
      show 0 < settings.allowedSkewSeconds
      have skew : (apiAuth settings).allowedSkewSeconds = (settings.allowedSkewSeconds : Int) := rfl
      omega
    · rw [show ((settings.allowedSkewSeconds : Nat) : Int) = (apiAuth settings).allowedSkewSeconds
        from rfl, fits]
      rfl
  · rintro ⟨same, positive, fits⟩
    obtain ⟨expiresAt, added⟩ := Option.isSome_iff_exists.1 fits
    have valid := (validField_presented agrees asserted upper).2 same
    have verified := (verify_presented agrees asserted upper fresh).2 same
    simp only [validField, narrowToken, Bool.and_eq_true] at valid
    obtain ⟨⟨⟨⟨⟨⟨⟨⟨⟨⟨⟨named, short⟩, letters⟩, -⟩, -⟩, graphic⟩, -⟩, -⟩, -⟩, -⟩, -⟩, hexadecimal⟩ := valid
    have keyGraphic : allChars isAsciiGraphic signing.keyId = true :=
      allChars_graphic (fun _ => graphic_of_keyIdChar) letters
    have digestGraphic : allChars isAsciiGraphic (crypto.sha256Hex signing.body) = true := by
      unfold sha256Token at hexadecimal
      rw [Bool.and_eq_true] at hexadecimal
      exact allChars_graphic (fun _ => graphic_of_hexDigit) hexadecimal.2
    have later : ¬ expiresAt ≤ consumeAt := by
      obtain ⟨nanos, -⟩ := OffsetDateTime.checkedAddSeconds_eq_some added
      rw [OffsetDateTime.le_def, nanos]
      omega
    obtain ⟨store', consumed⟩ := consume_unused ⟨by simpa using named, of_decide_eq_true short⟩
      asserted.sized later unused
    have ran : authenticateRequest crypto ⟨some (apiAuth settings), true⟩
        (signing.request headers others sent) verifyAt consumeAt store =
          (.ok settings.tenantId, store') := by
      refine authenticateRequest_ok_iff.2 ⟨apiAuth settings, signing.presented crypto sent, expiresAt,
        { configured := rfl, durable := rfl, ownKey := ownKey.symm, body := rfl, method := rfl
          pathAndQuery := rfl
          keyId := requiredHeader_eq keyId keyGraphic
          timestamp := ⟨_, requiredHeader_eq timestamp (graphic_toString _), parsed⟩
          nonce := requiredHeader_eq nonce graphic
          bodySha256 := requiredHeader_eq digest digestGraphic
          signature := requiredHeader_eq signature (graphic_signature _ _ _) }, ?_, added, consumed, rfl⟩
      rw [show (apiAuth settings).secret = signing.secret from ownSecret]
      exact verified
    rw [ran]

end Signing

/-- **The signer and the verifier agree on what is sent as it was signed, and on nothing else.**
For every call of the signer that does not throw, and every method that upper-cases to the one it
signs: at every time within the skew the headers are verified exactly where no field ends in a line
feed and the method is upper case; and under every accepted configuration with this key and secret
the request is authenticated, its nonce unused, exactly where moreover the configured skew is not
zero (and the clock has room for it). -/
theorem signer_agrees (crypto : Crypto) (agrees : crypto.Agrees) (signing : Signing)
    (headers : HeaderMap) (signs : signing.sign crypto = .ok headers) (sent : String)
    (upper : strtoupper sent = strtoupper signing.method) :
    (∀ now skew : Int, ((now - signing.timestamp).natAbs : Int) ≤ skew →
      ((∃ request, readSigned headers sent signing.pathAndQuery = some request ∧
          verify crypto request signing.secret now skew = .ok ()) ↔ signing.SentAsSigned sent)) ∧
    ∀ settings : AuthSettings, settings.violates = false → settings.keyId = signing.keyId →
      settings.hmacSecret = signing.secret → ∀ others store verifyAt consumeAt,
        ((verifyAt.unixTimestamp - signing.timestamp).natAbs : Int) ≤ settings.allowedSkewSeconds →
        (∀ row ∈ SqliteStore.requestNonces store, row.identity ≠ (signing.keyId, signing.nonce)) →
        ((authenticateRequest crypto ⟨some (apiAuth settings), true⟩
            (signing.request headers others sent) verifyAt consumeAt store).1 =
              .ok settings.tenantId ↔
          signing.SentAsSigned sent ∧ 0 < settings.allowedSkewSeconds ∧
            (consumeAt.checkedAddSeconds settings.allowedSkewSeconds).isSome = true) := by
  constructor
  · intro now skew fresh
    rw [Signing.readSigned_presented signs]
    constructor
    · rintro ⟨request, same, verified⟩
      cases same
      exact (Signing.verify_presented agrees (Signing.asserted_of_sign signs) upper fresh).1 verified
    · exact fun same => ⟨_, rfl,
        (Signing.verify_presented agrees (Signing.asserted_of_sign signs) upper fresh).2 same⟩
  · intro settings _ ownKey ownSecret others store verifyAt consumeAt fresh unused
    exact Signing.authenticate_presented agrees signs upper ownKey ownSecret fresh unused

/-! ## Samples -/

/-- The HMAC of the sample request. -/
def sampleHmac : List UInt8 :=
  [29, 137, 221, 76, 248, 51, 87, 99, 30, 142, 200, 167, 78, 252, 106, 116, 51, 185, 78, 79, 71, 243,
    83, 217, 232, 121, 76, 244, 81, 166, 144, 166]

/-- The digests of the sample request, whatever is asked for. -/
def agreeingCrypto : Crypto where
  decodeBase64Url := sampleCrypto.decodeBase64Url
  hmacSha256 _ _ := sampleHmac
  sha256Hex _ := sampleCrypto.sha256Hex []

set_option maxRecDepth 4000 in
theorem sampleHmac_text : String.ofList (rtrim (strtr (base64Encode sampleHmac))) =
    "HYndTPgzV2MejsinTvxqdDO5Tk9H81PZ6HlM9FGmkKY" := by decide

theorem agreeingCrypto_agrees : agreeingCrypto.Agrees where
  decodes secret canonical := by
    show sampleCrypto.decodeBase64Url (String.ofList (rtrim (strtr (base64Encode sampleHmac)))) =
      some sampleHmac
    rw [sampleHmac_text]
    decide
  digest _ := by
    show sha256Token (sampleCrypto.sha256Hex []) = true
    decide

theorem sampleTimestamp_fits : i64Min ≤ 1700000000 ∧ (1700000000 : Int) ≤ i64Max := by decide

/-- The sample request, with some nonce. -/
def sampleSigning (nonce : String) : Signing where
  keyId := "g5-primary"
  secret := "0123456789abcdef0123456789abcdef"
  method := "GET"
  pathAndQuery := "/v1/capabilities"
  body := []
  timestamp := 1700000000
  nonce := nonce
  lower := sampleTimestamp_fits.1
  upper := sampleTimestamp_fits.2

/-- Settings of the sample key, with some skew. -/
def sampleSettings (allowedSkewSeconds : Nat) : AuthSettings :=
  ⟨"g5-primary", "g5", "0123456789abcdef0123456789abcdef", allowedSkewSeconds⟩

/-- The headers of the sample request. -/
def sampleHeaders (nonce : String) : HeaderMap :=
  [("x-g7mb-key-id", "g5-primary"), ("x-g7mb-timestamp", "1700000000"), ("x-g7mb-nonce", nonce),
    ("x-g7mb-content-sha256", "e3b0c44298fc1c149afbf4c8996fb92427ae41e4649b934ca495991b7852b855"),
    ("x-g7mb-signature", "HYndTPgzV2MejsinTvxqdDO5Tk9H81PZ6HlM9FGmkKY")]

theorem sampleSigning_signs :
    (sampleSigning "0123456789abcdef").sign agreeingCrypto = .ok (sampleHeaders "0123456789abcdef") := by
  decide

/-- A nonce that ends in a line feed is signed. -/
theorem lineFeed_signs :
    (sampleSigning "0123456789abcde\n").sign agreeingCrypto = .ok (sampleHeaders "0123456789abcde\n") := by
  decide

/-- A request whose nonce ends in a line feed is signed and not verified; and under a skew of zero,
which the settings admit, no request is authenticated, in the second it is signed for. -/
theorem signer_disagrees :
    (agreeingCrypto.Agrees ∧
      (sampleSigning "0123456789abcde\n").sign agreeingCrypto =
        .ok (sampleHeaders "0123456789abcde\n") ∧
      ¬ ∃ request, readSigned (sampleHeaders "0123456789abcde\n") "GET" "/v1/capabilities" =
          some request ∧
        verify agreeingCrypto request "0123456789abcdef0123456789abcdef" 1700000000 300 = .ok ()) ∧
    (sampleSigning "0123456789abcdef").sign agreeingCrypto = .ok (sampleHeaders "0123456789abcdef") ∧
      (sampleSettings 0).violates = false ∧
      (authenticateRequest agreeingCrypto ⟨some (apiAuth (sampleSettings 0)), true⟩
        ((sampleSigning "0123456789abcdef").request (sampleHeaders "0123456789abcdef") [] "GET")
        (sampleArrival 0).verifyAt (sampleArrival 0).consumeAt SqliteStore.migrated).1 ≠ .ok "g5" := by
  refine ⟨⟨agreeingCrypto_agrees, lineFeed_signs, ?_⟩, sampleSigning_signs, by decide, ?_⟩
  · rintro ⟨request, read, verified⟩
    rw [show "/v1/capabilities" = (sampleSigning "0123456789abcde\n").pathAndQuery from rfl,
      Signing.readSigned_presented lineFeed_signs] at read
    cases read
    have asserted := Signing.asserted_of_sign lineFeed_signs
    have upper : strtoupper "GET" = strtoupper (sampleSigning "0123456789abcde\n").method := rfl
    have same := (Signing.verify_presented agreeingCrypto_agrees asserted upper (by decide)).1 verified
    exact same.nonce (by decide)
  · intro authenticated
    have ownKey : (sampleSettings 0).keyId = (sampleSigning "0123456789abcdef").keyId := rfl
    have same := (Signing.authenticate_presented agreeingCrypto_agrees sampleSigning_signs
      rfl ownKey rfl (by decide) fun _ member => absurd member List.not_mem_nil).1 authenticated
    exact absurd same.2.1 (by decide)

/-- The sample request is verified in the last second of the skew, and authenticated. -/
theorem signer_agrees_sample :
    (∃ request, readSigned (sampleHeaders "0123456789abcdef") "GET" "/v1/capabilities" = some request ∧
      verify agreeingCrypto request "0123456789abcdef0123456789abcdef" 1700000300 300 = .ok ()) ∧
    (authenticateRequest agreeingCrypto ⟨some (apiAuth (sampleSettings 300)), true⟩
      ((sampleSigning "0123456789abcdef").request (sampleHeaders "0123456789abcdef") [] "GET")
      (sampleArrival 0).verifyAt (sampleArrival 0).consumeAt SqliteStore.migrated).1 = .ok "g5" := by
  have same : (sampleSigning "0123456789abcdef").SentAsSigned "GET" := by
    constructor <;> decide
  obtain ⟨verifies, authenticates⟩ := signer_agrees agreeingCrypto agreeingCrypto_agrees
    (sampleSigning "0123456789abcdef") _ sampleSigning_signs "GET" rfl
  exact ⟨(verifies 1700000300 300 (by decide)).2 same,
    (authenticates (sampleSettings 300) (by decide) rfl rfl [] SqliteStore.migrated (sampleArrival 0).verifyAt
      (sampleArrival 0).consumeAt (by decide) fun _ member => absurd member List.not_mem_nil).2 ⟨same, by decide, by decide⟩⟩

end MediaBooster.Auth
