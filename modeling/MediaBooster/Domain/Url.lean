/-
# Domain.Url -- IP addresses as texts, and parsed URLs

What the code reads off a URL is what the `url` crate's parser left of it: the scheme, the user
info, the host as a text, the port where it is not the scheme's own, and the fragment.  A `Url`
carries what the parser guarantees of these: the host of an `http` or `https` URL is a lower-case
name, an IPv4 address in dotted decimal, or an IPv6 address between brackets.  Which names it
accepts is a parameter (`DomainNames`).

`ipIsLoopback` is `str::parse::<IpAddr>` followed by `is_loopback`.  It reads every IPv4 host
(`ipIsLoopback_ipv4`) and no IPv6 host, for `parse` takes no brackets (`ipIsLoopback_bracket`).
-/
import MediaBooster.Domain.Keys
import MediaBooster.Domain.Text

namespace MediaBooster.Domain

set_option autoImplicit false

/-! ## IPv4 addresses -/

/-- An IPv4 address, byte by byte. -/
structure Ipv4Addr where
  a : Fin 256
  b : Fin 256
  c : Fin 256
  d : Fin 256
deriving DecidableEq

/-- A number in decimal digits. -/
def decimal (n : Nat) : List Char := Nat.toDigits 10 n

/-- `Ipv4Addr::to_string`. -/
def Ipv4Addr.text (address : Ipv4Addr) : List Char :=
  decimal address.a ++ '.' :: (decimal address.b ++ '.' ::
    (decimal address.c ++ '.' :: decimal address.d))

/-- One number of an IPv4 address: at most three digits, none of them a leading zero. -/
def parseOctet (digits : List Char) : Option (Fin 256) :=
  let value := Nat.ofDigitChars 10 digits 0
  if digits = [] ∨ 3 < digits.length ∨ digits.all isAsciiDigit = false ∨
      (digits.head? = some '0' ∧ 1 < digits.length) then none
  else if small : value < 256 then some ⟨value, small⟩ else none

/-- `str::parse::<Ipv4Addr>`. -/
def parseIpv4 (text : List Char) : Option Ipv4Addr := do
  let (a, rest) ← splitOnce '.' text
  let (b, rest) ← splitOnce '.' rest
  let (c, d) ← splitOnce '.' rest
  return ⟨← parseOctet a, ← parseOctet b, ← parseOctet c, ← parseOctet d⟩

theorem decimal_digits {n : Nat} {c : Char} (member : c ∈ decimal n) : isAsciiDigit c = true :=
  isAsciiDigit_of_isDigit (Nat.isDigit_of_mem_toDigits (by decide) (by decide) member)

theorem decimal_ne_nil (n : Nat) : decimal n ≠ [] := Nat.toDigits_ne_nil

/-- A character that is no digit is in no number. -/
theorem not_mem_decimal {n : Nat} {c : Char} (other : isAsciiDigit c = false) : c ∉ decimal n := by
  intro member
  rw [decimal_digits member] at other
  cases other

theorem decimal_inj {m n : Nat} (same : decimal m = decimal n) : m = n := by
  have read : ∀ n, Nat.ofDigitChars 10 (decimal n) 0 = n := fun n => Nat.ofDigitChars_ten_toDigits
  rw [← read m, same, read n]

theorem parseOctet_decimal (octet : Fin 256) : parseOctet (decimal octet) = some octet := by
  have table : ∀ octet : Fin 256, parseOctet (decimal octet) = some octet := by decide +kernel
  exact table octet

/-- **An IPv4 address is read back from its text.** -/
theorem parseIpv4_text (address : Ipv4Addr) : parseIpv4 address.text = some address := by
  have dotless : ∀ n, '.' ∉ decimal n := fun n => not_mem_decimal (by decide)
  unfold parseIpv4 Ipv4Addr.text
  simp [splitOnce_append (dotless _), parseOctet_decimal]

/-- The text of an address has three dots. -/
theorem Ipv4Addr.text_dots (address : Ipv4Addr) : address.text.count '.' = 3 := by
  have dotless : ∀ n, (decimal n).count '.' = 0 := fun n =>
    List.count_eq_zero.2 (not_mem_decimal (by decide))
  simp [Ipv4Addr.text, dotless]

/-- The characters of an address are digits and dots. -/
theorem Ipv4Addr.text_chars {address : Ipv4Addr} {c : Char} (member : c ∈ address.text) :
    isAsciiDigit c = true ∨ c = '.' := by
  simp only [Ipv4Addr.text, List.mem_append, List.mem_cons] at member
  rcases member with digit | dot | digit | dot | digit | dot | digit
  all_goals first | exact .inl (decimal_digits digit) | exact .inr dot

theorem parseOctet_digits {digits : List Char} {octet : Fin 256}
    (read : parseOctet digits = some octet) : digits.all isAsciiDigit = true := by
  unfold parseOctet at read
  dsimp only at read
  split at read
  · cases read
  · rename_i sound
    simp only [not_or, Bool.not_eq_false] at sound
    exact sound.2.2.1

/-- A text with another character than digits and dots is no address. -/
theorem parseIpv4_other {text : List Char} {c : Char} (member : c ∈ text)
    (digit : isAsciiDigit c = false) (dot : c ≠ '.') : parseIpv4 text = none := by
  cases parsed : parseIpv4 text with
  | none => rfl
  | some address =>
      exfalso
      simp only [parseIpv4, Option.bind_eq_bind, Option.bind_eq_some_iff, Prod.exists,
        splitOnce_eq_some] at parsed
      obtain ⟨a, _, ⟨rfl, -⟩, b, _, ⟨rfl, -⟩, c', d, ⟨rfl, -⟩, _, first, _, second, _, third, _,
        fourth, -⟩ := parsed
      have absent : ∀ {digits octet}, parseOctet digits = some octet → c ∉ digits := by
        intro digits octet read there
        rw [List.all_eq_true.1 (parseOctet_digits read) c there] at digit
        cases digit
      simp [absent first, absent second, absent third, absent fourth, dot] at member

/-! ## IPv6 addresses -/

/-- An IPv6 address, segment by segment. -/
structure Ipv6Addr where
  segments : Fin 8 → Fin 65536

/-- The segments in their order. -/
def Ipv6Addr.toList (address : Ipv6Addr) : List Nat := List.ofFn fun i => (address.segments i).val

/-- `Ipv6Addr::is_loopback`. -/
def Ipv6Addr.isLoopback (address : Ipv6Addr) : Bool := address.toList == [0, 0, 0, 0, 0, 0, 0, 1]

/-- Segments between colons. -/
def colonText : List Nat → List Char
  | [] => []
  | [segment] => Nat.toDigits 16 segment
  | segment :: rest => Nat.toDigits 16 segment ++ ':' :: colonText rest

/-- The first of the longest runs of zeros: where it starts, and how long it is. -/
def longestZeros : List Nat → Nat × Nat
  | [] => (0, 0)
  | segment :: rest =>
      let later := longestZeros rest
      let here := ((segment :: rest).takeWhile (· == 0)).length
      if later.2 ≤ here then (0, here) else (later.1 + 1, later.2)

/-- The text of an IPv6 address in a URL: two or more zeros in a row are left out, once. -/
def Ipv6Addr.text (address : Ipv6Addr) : List Char :=
  let run := longestZeros address.toList
  if run.2 < 2 then colonText address.toList
  else colonText (address.toList.take run.1) ++ ':' :: ':' ::
    colonText (address.toList.drop (run.1 + run.2))

/-- A lower-case hexadecimal digit or a colon. -/
def isAddressChar (c : Char) : Bool :=
  isAsciiDigit c || (decide ('a' ≤ c) && decide (c ≤ 'f')) || c == ':'

theorem colonText_chars {segments : List Nat} : (colonText segments).all isAddressChar = true := by
  have digits : ∀ n, (Nat.toDigits 16 n).all isAddressChar = true := by
    intro n
    induction n using Nat.strongRecOn with
    | ind n ih =>
        have last : ∀ d < 16, isAddressChar (Nat.digitChar d) = true := by decide
        rw [Nat.toDigits_eq_if (by decide)]
        split
        · rename_i small
          simp [last n small]
        · rename_i large
          simp [ih (n / 16) (by omega), last (n % 16) (Nat.mod_lt n (by decide))]
  fun_induction colonText segments with
  | case1 => rfl
  | case2 segment => exact digits segment
  | case3 segment rest _ ih =>
      rw [List.all_append, List.all_cons, digits, ih]
      rfl

/-- The characters of an address are digits and colons, and a colon is among them. -/
theorem Ipv6Addr.text_chars (address : Ipv6Addr) :
    address.text.all isAddressChar = true ∧ ':' ∈ address.text := by
  unfold Ipv6Addr.text
  dsimp only
  split
  · refine ⟨colonText_chars, ?_⟩
    simp [Ipv6Addr.toList, List.ofFn_succ, colonText]
  · refine ⟨?_, by simp⟩
    rw [List.all_append, List.all_cons, List.all_cons, colonText_chars, colonText_chars]
    rfl

/-! ## Reading an IPv6 address -/

/-- `text.split(separator)`. -/
def splitAll (separator : Char) : List Char → List (List Char)
  | [] => [[]]
  | c :: rest =>
      if c = separator then [] :: splitAll separator rest
      else
        match splitAll separator rest with
        | [] => [[c]]
        | part :: parts => (c :: part) :: parts

/-- The value of a hexadecimal digit in either case. -/
def hexValue (c : Char) : Option Nat :=
  if isAsciiDigit c then some (c.toNat - '0'.toNat)
  else if 'a' ≤ c ∧ c ≤ 'f' then some (c.toNat - 'a'.toNat + 10)
  else if 'A' ≤ c ∧ c ≤ 'F' then some (c.toNat - 'A'.toNat + 10)
  else none

/-- One segment: one to four hexadecimal digits. -/
def readGroup (digits : List Char) : Option Nat := do
  let values ← digits.mapM hexValue
  if digits = [] ∨ 4 < digits.length then none
  else some (values.foldl (fun value digit => value * 16 + digit) 0)

/-- Segments; the last two may be written as an IPv4 address. -/
def readGroups : List (List Char) → Option (List Nat)
  | [] => some []
  | [last] =>
      match readGroup last with
      | some segment => some [segment]
      | none => (parseIpv4 last).map fun address =>
          [address.a * 256 + address.b, address.c * 256 + address.d]
  | group :: rest => do
      let segment ← readGroup group
      let segments ← readGroups rest
      return segment :: segments

/-- What stands before the first `::`, and behind it. -/
def splitDouble : List Char → Option (List Char × List Char)
  | ':' :: ':' :: rest => some ([], rest)
  | [] => none
  | c :: rest => (splitDouble rest).map fun (before, after) => (c :: before, after)

/-- `str::parse::<Ipv6Addr>`. -/
def parseIpv6 (text : List Char) : Option (List Nat) :=
  match splitDouble text with
  | none => (readGroups (splitAll ':' text)).filter (·.length == 8)
  | some (before, after) => do
      let front ← if before = [] then some [] else (splitAll ':' before).mapM readGroup
      let back ← if after = [] then some [] else readGroups (splitAll ':' after)
      if front.length + back.length ≤ 7 then
        some (front ++ List.replicate (8 - (front.length + back.length)) 0 ++ back)
      else none

/-- `str::parse::<IpAddr>` and `is_loopback`. -/
def ipIsLoopback (text : List Char) : Bool :=
  match parseIpv4 text with
  | some address => address.a == 127
  | none => parseIpv6 text == some [0, 0, 0, 0, 0, 0, 0, 1]

/-- A text that starts with no digit starts with no group. -/
theorem readGroup_head {c : Char} {rest : List Char} (other : hexValue c = none) :
    readGroup (c :: rest) = none := by
  simp [readGroup, List.mapM_cons, other]

theorem splitAll_head {separator c : Char} {rest : List Char} (other : c ≠ separator) :
    ∃ part parts, splitAll separator (c :: rest) = (c :: part) :: parts := by
  rw [splitAll, if_neg other]
  split
  · exact ⟨[], [], rfl⟩
  · exact ⟨_, _, rfl⟩

theorem splitAll_absent {separator : Char} {text : List Char} (absent : separator ∉ text) :
    splitAll separator text = [text] := by
  induction text with
  | nil => rfl
  | cons c rest ih =>
      rw [List.mem_cons, not_or] at absent
      rw [splitAll, if_neg (Ne.symm absent.1), ih absent.2]

theorem splitDouble_absent {text : List Char} (absent : ':' ∉ text) : splitDouble text = none := by
  fun_induction splitDouble text with
  | case1 => simp at absent
  | case2 => rfl
  | case3 c rest _ ih =>
      rw [List.mem_cons, not_or] at absent
      rw [ih absent.2]
      rfl

/-- A text without a colon is no IPv6 address. -/
theorem parseIpv6_absent {text : List Char} (absent : ':' ∉ text) : parseIpv6 text = none := by
  rw [parseIpv6, splitDouble_absent absent, splitAll_absent absent]
  unfold readGroups
  cases readGroup text with
  | some segment => rfl
  | none =>
      cases parseIpv4 text with
      | none => rfl
      | some address => rfl

/-- A text that starts with neither a digit nor a colon is no IPv6 address. -/
theorem parseIpv6_head {c : Char} {rest : List Char} (other : hexValue c = none) (colon : c ≠ ':')
    (digit : isAsciiDigit c = false) (dot : c ≠ '.') : parseIpv6 (c :: rest) = none := by
  have groups : ∀ part parts, readGroups ((c :: part) :: parts) = none := by
    intro part parts
    cases parts with
    | nil =>
        have none : parseIpv4 (c :: part) = none :=
          parseIpv4_other List.mem_cons_self digit dot
        simp [readGroups, readGroup_head other, none]
    | cons => simp [readGroups, readGroup_head other]
  obtain ⟨part, parts, cut⟩ : ∃ part parts, splitAll ':' (c :: rest) = (c :: part) :: parts :=
    splitAll_head colon
  unfold parseIpv6
  split
  · rw [cut, groups]
    rfl
  · rename_i before after doubled
    obtain ⟨more, rfl⟩ : ∃ more, before = c :: more := by
      unfold splitDouble at doubled
      split at doubled
      · rename_i same
        exact absurd (List.cons.inj same).1 colon
      · cases doubled
      · rename_i same
        obtain ⟨rfl, rfl⟩ := List.cons.inj same
        obtain ⟨⟨front, back⟩, -, same⟩ := Option.map_eq_some_iff.1 doubled
        exact ⟨front, (Prod.mk.inj same).1.symm⟩
    obtain ⟨part, parts, cut⟩ : ∃ part parts, splitAll ':' (c :: more) = (c :: part) :: parts :=
      splitAll_head colon
    simp [cut, List.mapM_cons, readGroup_head other]

/-- **No text between brackets is an address.** -/
theorem ipIsLoopback_bracket (rest : List Char) : ipIsLoopback ('[' :: rest) = false := by
  have four : parseIpv4 ('[' :: rest) = none :=
    parseIpv4_other List.mem_cons_self (by decide) (by decide)
  have six : parseIpv6 ('[' :: rest) = none :=
    parseIpv6_head (by decide) (by decide) (by decide) (by decide)
  rw [ipIsLoopback, four, six]
  rfl

/-- An IPv4 address is a loopback address by its first byte. -/
theorem ipIsLoopback_ipv4 (address : Ipv4Addr) :
    ipIsLoopback address.text = (address.a == 127) := by
  rw [ipIsLoopback, parseIpv4_text]

/-- A text without a colon that is no IPv4 address is no loopback address. -/
theorem ipIsLoopback_name {text : List Char} (absent : ':' ∉ text) (four : parseIpv4 text = none) :
    ipIsLoopback text = false := by
  rw [ipIsLoopback, four, parseIpv6_absent absent]
  rfl

/-! ## Hosts -/

/-- The names a URL parser leaves as hosts of `http` and `https` URLs. -/
structure DomainNames where
  accepts : List Char → Bool
  /-- A name is written in lower case, and has no colon and no bracket. -/
  clean : ∀ name, accepts name = true → ∀ c ∈ name,
    isAsciiUppercase c = false ∧ c ≠ ':' ∧ c ≠ '['
  /-- A host that ends in a number is an IPv4 address and no name. -/
  unnumbered : ∀ name, accepts name = true → parseIpv4 name = none

variable {names : DomainNames}

/-- `url::Host`. -/
inductive Host (names : DomainNames)
  | domain (name : List Char) (accepted : names.accepts name = true)
  | ipv4 (address : Ipv4Addr)
  | ipv6 (address : Ipv6Addr)

namespace Host

/-- The host as `Url::host_str` gives it. -/
def text : Host names → List Char
  | domain name _ => name
  | ipv4 address => address.text
  | ipv6 address => '[' :: (address.text ++ [']'])

/-- The host is this machine. -/
def IsLoopback : Host names → Prop
  | domain name _ => name = "localhost".toList
  | ipv4 address => address.a = 127
  | ipv6 address => address.isLoopback = true

/-- The host is an IPv6 address. -/
def IsIpv6 : Host names → Prop
  | ipv6 _ => True
  | _ => False

/-- `str::to_ascii_lowercase`. -/
def lowered (text : List Char) : List Char := text.map Char.toLower

theorem toLower_eq {c : Char} (lower : isAsciiUppercase c = false) : c.toLower = c := by
  have apart : ¬ (c.val ≥ 'A'.val ∧ c.val ≤ 'Z'.val) := by
    intro both
    simp only [isAsciiUppercase, Bool.and_eq_false_iff, decide_eq_false_iff_not] at lower
    rcases lower with low | high
    · exact low both.1
    · exact high both.2
  unfold Char.toLower
  rw [dif_neg apart]

theorem not_uppercase {c : Char} (apart : c.toNat < 65 ∨ 90 < c.toNat) :
    isAsciiUppercase c = false := by
  rw [isAsciiUppercase, Bool.and_eq_false_iff, decide_eq_false_iff_not, decide_eq_false_iff_not]
  rcases apart with low | high
  · exact .inl fun above => absurd (UInt32.le_iff_toNat_le.1 above) (Nat.not_le.2 low)
  · exact .inr fun below => absurd (UInt32.le_iff_toNat_le.1 below) (Nat.not_le.2 high)

theorem digit_lower {c : Char} (digit : isAsciiDigit c = true) : isAsciiUppercase c = false := by
  simp only [isAsciiDigit, Bool.and_eq_true, decide_eq_true_eq] at digit
  have below : c.toNat ≤ 57 := UInt32.le_iff_toNat_le.1 digit.2
  exact not_uppercase (.inl (by omega))

theorem addressChar_lower {c : Char} (address : isAddressChar c = true) :
    isAsciiUppercase c = false := by
  simp only [isAddressChar, Bool.or_eq_true, Bool.and_eq_true, decide_eq_true_eq,
    beq_iff_eq] at address
  rcases address with (digit | ⟨above, -⟩) | colon
  · exact digit_lower digit
  · have high : 97 ≤ c.toNat := UInt32.le_iff_toNat_le.1 above
    exact not_uppercase (.inr (by omega))
  · rw [colon]
    decide

/-- Hosts are written in lower case. -/
theorem text_lower (host : Host names) : lowered host.text = host.text := by
  have same : ∀ {text : List Char}, (∀ c ∈ text, isAsciiUppercase c = false) →
      lowered text = text := by
    intro text lower
    refine (List.map_congr_left fun c member => toLower_eq (lower c member)).trans ?_
    exact List.map_id' text
  cases host with
  | domain name accepted => exact same fun c member => (names.clean name accepted c member).1
  | ipv4 address =>
      apply same
      intro c member
      rcases address.text_chars member with digit | rfl
      · exact digit_lower digit
      · decide
  | ipv6 address =>
      apply same
      intro c member
      simp only [text, List.mem_cons, List.mem_append, List.not_mem_nil, or_false] at member
      rcases member with rfl | member | rfl
      · decide
      · exact addressChar_lower (List.all_eq_true.1 address.text_chars.1 c member)
      · decide

/-- Only an IPv6 address has a colon. -/
theorem colon_mem {host : Host names} : ':' ∈ host.text ↔ host.IsIpv6 := by
  cases host with
  | domain name accepted =>
      exact iff_of_false (fun member => (names.clean name accepted _ member).2.1 rfl) id
  | ipv4 address =>
      refine iff_of_false (fun member => ?_) id
      rcases address.text_chars member with digit | dot
      · exact absurd digit (by decide)
      · exact absurd dot (by decide)
  | ipv6 address =>
      refine iff_of_true (List.mem_cons_of_mem _ ?_) trivial
      exact List.mem_append_left _ address.text_chars.2

/-- Only an IPv6 address starts with a bracket. -/
theorem bracket_head {host : Host names} : host.text.head? = some '[' ↔ host.IsIpv6 := by
  have absent : '[' ∉ host.text → ¬ host.text.head? = some '[' := by
    intro absent first
    exact absent (List.mem_of_mem_head? first)
  cases host with
  | domain name accepted =>
      refine iff_of_false (absent fun member => ?_) id
      exact (names.clean name accepted _ member).2.2 rfl
  | ipv4 address =>
      refine iff_of_false (absent fun member => ?_) id
      rcases address.text_chars member with digit | dot
      · exact absurd digit (by decide)
      · exact absurd dot (by decide)
  | ipv6 address => exact iff_of_true rfl trivial

/-- An IPv6 address has no dot. -/
theorem IsIpv6.dotless {host : Host names} (six : host.IsIpv6) : '.' ∉ host.text := by
  cases host with
  | domain => exact six.elim
  | ipv4 => exact six.elim
  | ipv6 address =>
      simp only [text, List.mem_cons, List.mem_append, List.not_mem_nil, or_false]
      rintro (dot | member | dot)
      · exact absurd dot (by decide)
      · exact absurd (List.all_eq_true.1 address.text_chars.1 _ member) (by decide)
      · exact absurd dot (by decide)

/-- The text of an IPv6 address ends with a bracket. -/
theorem IsIpv6.ends {host : Host names} (six : host.IsIpv6) :
    ∃ front, host.text = front ++ [']'] := by
  cases host with
  | domain => exact six.elim
  | ipv4 => exact six.elim
  | ipv6 address => exact ⟨'[' :: address.text, rfl⟩

/-- The check `host == "localhost"` and `str::parse::<IpAddr>` as the code puts them together. -/
def seemsLoopback (text : List Char) : Bool := text == "localhost".toList || ipIsLoopback text

/-- **The check finds every loopback host but the IPv6 one.** -/
theorem seemsLoopback_iff {host : Host names} :
    seemsLoopback host.text = true ↔ host.IsLoopback ∧ ¬ host.IsIpv6 := by
  cases host with
  | domain name accepted =>
      have colon : ':' ∉ name := fun member => (names.clean name accepted _ member).2.1 rfl
      have other : ipIsLoopback name = false :=
        ipIsLoopback_name colon (names.unnumbered name accepted)
      simp [seemsLoopback, text, IsLoopback, IsIpv6, other]
  | ipv4 address =>
      have other : (address.text == "localhost".toList) = false := by
        rw [beq_eq_false_iff_ne]
        intro same
        have letter : 'l' ∈ address.text := by
          rw [same]
          decide
        rcases address.text_chars letter with digit | dot
        · exact absurd digit (by decide)
        · exact absurd dot (by decide)
      rw [seemsLoopback, text, other, Bool.false_or, ipIsLoopback_ipv4, beq_iff_eq]
      simp [IsLoopback, IsIpv6]
  | ipv6 address =>
      have other : (text (.ipv6 address : Host names) == "localhost".toList) = false := by
        rw [beq_eq_false_iff_ne]
        intro same
        have head : some '[' = some 'l' := congrArg List.head? same
        cases head
      rw [seemsLoopback, other, Bool.false_or, text, ipIsLoopback_bracket]
      simp [IsIpv6]

end Host

/-! ## URLs -/

/-- A parsed URL; its path and its query are what nobody looks at. -/
structure Url (names : DomainNames) where
  scheme : String
  username : String
  password : Option String
  /-- `Url::host_str`. -/
  host : Option (List Char)
  /-- `Url::port`. -/
  port : Option (Fin 65536)
  path : String
  query : Option String
  fragment : Option String
  /-- A web URL has a host. -/
  hosted : scheme = "http" ∨ scheme = "https" → ∃ h : Host names, host = some h.text
  /-- The port of the scheme is left out. -/
  unusual : (scheme = "http" → port ≠ some 80) ∧ (scheme = "https" → port ≠ some 443)

end MediaBooster.Domain
