import Mathlib.Data.Nat.Digits.Defs
import Mathlib.Data.List.TakeWhile
import DexKnight.Core.Configuration

/-! Endpoint URLs are accepted exactly by their grammar. The parser looks for `://`, for
the first slash, for `@` and for two colons one after another, each by a search of its
own; the grammar says what a URL looks like, and both read the same endpoint from it. -/
namespace DexKnight.EndpointGrammar
open Core.Configuration

/-! ## The grammar -/

/-- The number that decimal digits stand for. -/
def decimal (digits : List Char) : Nat :=
  Nat.ofDigits 10 (digits.reverse.map fun c => c.toNat - '0'.toNat)

/-- A port as it is written: decimal digits, with or without leading zeros. -/
structure Port (digits : List Char) : Prop where
  present : digits ≠ []
  chars : ∀ c ∈ digits, '0' ≤ c ∧ c ≤ '9'
  positive : 1 ≤ decimal digits
  bounded : decimal digits ≤ 65535

/-- A URL in its parts. The port comes with its colon or not at all. -/
structure Written where
  scheme : List Char
  host : List Char
  port : Option (List Char)
  rest : List Char

namespace Written

def authority (written : Written) : List Char :=
  written.host ++ written.port.elim [] (':' :: ·)

def text (written : Written) : String :=
  String.ofList (written.scheme ++ "://".toList ++ written.authority ++ written.rest)

/-- What the parts may be, for a protocol with these two schemes. -/
structure Legal (plain secure : String) (written : Written) : Prop where
  scheme : toLower written.scheme = plain ∨ toLower written.scheme = secure
  host : written.host ≠ []
  hostChars : '/' ∉ written.host ∧ ':' ∉ written.host ∧ '@' ∉ written.host
  port : ∀ digits, written.port = some digits → Port digits
  rest : written.rest = [] ∨ written.rest.head? = some '/'

/-- The endpoint that the parts describe. -/
def endpoint (secure : String) (written : Written) : Endpoint where
  scheme := toLower written.scheme
  host := String.ofList written.host
  port := (written.port.map String.ofList).getD
    (if toLower written.scheme = secure then "443" else "80")
  target := if written.rest = [] then "/" else String.ofList written.rest
  useTls := toLower written.scheme = secure

end Written

/-- The URLs of a protocol with these two schemes, each with its endpoint. -/
def Grammar (plain secure : String) (url : String) (endpoint : Endpoint) : Prop :=
  ∃ written : Written, written.Legal plain secure ∧ url = written.text ∧
    endpoint = written.endpoint secure

/-- An endpoint put together again as a URL. -/
def assemble (endpoint : Endpoint) : String :=
  endpoint.scheme ++ "://" ++ endpoint.host ++ ":" ++ endpoint.port ++ endpoint.target

/-! ## Ports -/

theorem decimal_append (digits : List Char) (c : Char) :
    decimal (digits ++ [c]) = 10 * decimal digits + (c.toNat - '0'.toNat) := by
  simp [decimal, Nat.ofDigits_cons, Nat.add_comm]

theorem readDecimal_eq_some {before after : List Char} {value : Nat} :
    readDecimal after (decimal before) = some value ↔
      (∀ c ∈ after, '0' ≤ c ∧ c ≤ '9') ∧ value = decimal (before ++ after) := by
  induction after generalizing before with
  | nil => simp [readDecimal, eq_comm]
  | cons c after ih =>
    rw [readDecimal, ← decimal_append, List.forall_mem_cons]
    split
    · next digit =>
      rw [ih, List.append_assoc, List.singleton_append]
      simp [digit]
    · next other => simp [other]

/-- `is_valid_port` reads the whole text as a number and keeps sixteen bits. -/
theorem isValidPort_iff {digits : List Char} :
    isValidPort (String.ofList digits) = true ↔ Port digits := by
  have read := @readDecimal_eq_some [] digits
  rw [isValidPort, String.toList_ofList]
  cases digits with
  | nil => exact ⟨fun valid => Bool.noConfusion valid, fun port => absurd rfl port.present⟩
  | cons first others =>
    dsimp only
    constructor
    · intro valid
      split at valid
      · cases valid
      · next value isRead =>
        obtain ⟨digits, rfl⟩ := read.mp isRead
        rw [Bool.and_eq_true, decide_eq_true_eq, decide_eq_true_eq] at valid
        exact ⟨List.cons_ne_nil _ _, digits, valid.2, Nat.le_of_lt_succ valid.1⟩
    · intro port
      have isRead := read.mpr ⟨port.chars, rfl⟩
      rw [show readDecimal (first :: others) 0 = _ from isRead]
      rw [Bool.and_eq_true, decide_eq_true_eq, decide_eq_true_eq]
      exact ⟨Nat.lt_succ_of_le port.bounded, port.positive⟩

theorem Port.no_colon {digits : List Char} (port : Port digits) : ':' ∉ digits := by
  intro inside
  exact absurd (port.chars ':' inside) (by decide)

/-! ## Separators -/

section Cut

variable {α : Type} [DecidableEq α] {stop : α} {before after : List α}

/-- A list cut at the first occurrence of an element: it stays with what follows. -/
theorem cut_eq (stop : α) (text : List α) :
    text = text.takeWhile (· ≠ stop) ++ text.dropWhile (· ≠ stop) ∧
      stop ∉ text.takeWhile (· ≠ stop) ∧
      (text.dropWhile (· ≠ stop) = [] ∨ (text.dropWhile (· ≠ stop)).head? = some stop) := by
  refine ⟨List.takeWhile_append_dropWhile.symm, ?_, ?_⟩
  · intro inside
    simpa using List.mem_takeWhile_imp inside
  · cases isRest : text.dropWhile (· ≠ stop) with
    | nil => exact .inl rfl
    | cons first others =>
      have stopped := List.head?_dropWhile_not (· ≠ stop) text
      rw [isRest] at stopped
      right
      simpa using stopped

theorem cut_append (outside : stop ∉ before) (boundary : after = [] ∨ after.head? = some stop) :
    (before ++ after).takeWhile (· ≠ stop) = before ∧
      (before ++ after).dropWhile (· ≠ stop) = after := by
  have inside : ∀ value ∈ before, decide (value ≠ stop) = true := by
    intro value member
    exact decide_eq_true fun same => outside (same ▸ member)
  rw [List.takeWhile_append_of_pos inside, List.dropWhile_append_of_pos inside]
  cases after with
  | nil => simp
  | cons first others =>
    obtain rfl : first = stop := by simpa using boundary
    simp

end Cut

/-- The scheme ends at the first `://`. -/
theorem splitScheme_eq {text scheme rest : List Char} (split : splitScheme text = some (scheme, rest)) :
    text = scheme ++ "://".toList ++ rest := by
  fun_induction splitScheme text generalizing scheme with
  | case1 => cases split
  | case2 rest =>
    cases split
    rfl
  | case3 c others _ ih =>
    obtain ⟨⟨scheme, rest⟩, isSplit, same⟩ := Option.map_eq_some_iff.mp split
    cases same
    rw [ih isSplit]
    rfl

theorem splitScheme_append {scheme : List Char} (noColon : ':' ∉ scheme) (rest : List Char) :
    splitScheme (scheme ++ "://".toList ++ rest) = some (scheme, rest) := by
  induction scheme with
  | nil => rfl
  | cons c scheme ih =>
    rw [List.mem_cons, not_or] at noColon
    have other : c ≠ ':' := fun same => noColon.1 same.symm
    rw [List.cons_append, List.cons_append, splitScheme, ih noColon.2]
    · rfl
    · intro tail same
      exact absurd same other

/-- The test for an empty target never fires. -/
theorem parseUrlParts_eq (text : List Char) :
    parseUrlParts text =
      if text.takeWhile (· ≠ '/') = [] ∨ '@' ∈ text.takeWhile (· ≠ '/') then none
      else some ⟨text.takeWhile (· ≠ '/'),
        if text.dropWhile (· ≠ '/') = [] then ['/'] else text.dropWhile (· ≠ '/')⟩ := by
  rw [parseUrlParts]
  cases text.dropWhile (· ≠ '/') with
  | nil => simp
  | cons first others => simp

/-- `parse_url_parts` cuts at the first slash. -/
theorem parseUrlParts_eq_some {text : List Char} {parts : UrlParts} :
    parseUrlParts text = some parts ↔ ∃ rest, text = parts.authority ++ rest ∧
      parts.authority ≠ [] ∧ '/' ∉ parts.authority ∧ '@' ∉ parts.authority ∧
      (rest = [] ∨ rest.head? = some '/') ∧ parts.target = if rest = [] then ['/'] else rest := by
  rw [parseUrlParts_eq]
  constructor
  · intro parsed
    obtain ⟨whole, noSlash, boundary⟩ := cut_eq '/' text
    split at parsed
    · cases parsed
    · next present =>
      cases parsed
      rw [not_or] at present
      exact ⟨_, whole, present.1, noSlash, present.2, boundary, rfl⟩
  · obtain ⟨authority, target⟩ := parts
    rintro ⟨rest, rfl, present, noSlash, noAt, boundary, rfl⟩
    obtain ⟨before, after⟩ := cut_append noSlash boundary
    rw [before, after, if_neg]
    rw [not_or]
    exact ⟨present, noAt⟩

/-- `parse_host_port` cuts at the only colon there may be. -/
theorem parseHostPort_eq_some {authority : List Char} {defaultPort : String} {found : HostPort}
    (valid : isValidPort defaultPort = true) :
    parseHostPort authority defaultPort = some found ↔
      ∃ host port, authority = host ++ port.elim [] (':' :: ·) ∧ host ≠ [] ∧ ':' ∉ host ∧
        (∀ digits, port = some digits → Port digits) ∧
        found = ⟨String.ofList host, (port.map String.ofList).getD defaultPort⟩ := by
  constructor
  · intro parsed
    obtain ⟨whole, noColon, boundary⟩ := cut_eq ':' authority
    rw [parseHostPort] at parsed
    dsimp only at parsed
    split at parsed
    · next isRest =>
      split at parsed
      · cases parsed
      · next present =>
        cases parsed
        rw [not_or, String.ofList_eq_empty_iff] at present
        rw [isRest] at whole
        exact ⟨_, none, whole, present.1, noColon, by simp, rfl⟩
    · next first digits isRest =>
      split at parsed
      · cases parsed
      · split at parsed
        · cases parsed
        · next present =>
          cases parsed
          rw [not_or, String.ofList_eq_empty_iff, not_not, isValidPort_iff] at present
          rw [isRest] at whole boundary
          obtain rfl : first = ':' := by simpa using boundary
          refine ⟨_, some digits, whole, present.1, noColon, ?_, rfl⟩
          rintro _ ⟨⟩
          exact present.2
  · rintro ⟨host, port, rfl, present, noColon, isPort, rfl⟩
    have boundary : port.elim [] (':' :: ·) = [] ∨ (port.elim [] (':' :: ·)).head? = some ':' := by
      cases port <;> simp
    obtain ⟨before, after⟩ := cut_append noColon boundary
    rw [parseHostPort]
    dsimp only
    rw [before, after]
    cases port with
    | none => simp [present, valid]
    | some digits =>
      have port := isPort digits rfl
      simp [present, isValidPort_iff.mpr port, port.no_colon]

/-! ## Endpoints -/

/-- Two schemes that a protocol can have: lower case, without a colon, and different. -/
structure Schemes (plain secure : String) : Prop where
  apart : plain ≠ secure
  plainColon : ':' ∉ plain.toList
  secureColon : ':' ∉ secure.toList
  plainLower : toLower plain.toList = plain
  secureLower : toLower secure.toList = secure

theorem restSchemes : Schemes "http" "https" := by
  constructor <;> decide

theorem wsSchemes : Schemes "ws" "wss" := by
  constructor <;> decide

theorem colon_mem_toLower {text : List Char} (inside : ':' ∈ text) : ':' ∈ (toLower text).toList := by
  rw [toLower, String.toList_ofList]
  exact List.mem_map.mpr ⟨':', inside, by decide⟩

variable {plain secure url : String} {endpoint : Endpoint}

theorem parseScheme_eq_some {schemeRaw : List Char} {info : SchemeInfo} (schemes : Schemes plain secure) :
    parseScheme plain secure schemeRaw = some info ↔
      (toLower schemeRaw = plain ∨ toLower schemeRaw = secure) ∧
        info = ⟨toLower schemeRaw, if toLower schemeRaw = secure then "443" else "80",
          toLower schemeRaw = secure⟩ := by
  have apart := schemes.apart
  rw [parseScheme]
  split
  · next isPlain => simp [isPlain, apart, eq_comm]
  · next other =>
    split
    · next isSecure => simp [isSecure, eq_comm]
    · next unknown => simp [other, unknown]

theorem Written.Legal.no_colon {written : Written} (legal : written.Legal plain secure)
    (schemes : Schemes plain secure) : ':' ∉ written.scheme := by
  intro inside
  have lowered := colon_mem_toLower inside
  obtain isPlain | isSecure := legal.scheme
  · exact schemes.plainColon (isPlain ▸ lowered)
  · exact schemes.secureColon (isSecure ▸ lowered)

theorem defaultPort_valid (tls : Prop) [Decidable tls] :
    isValidPort (if tls then "443" else "80") = true := by
  split <;> decide

theorem ofList_target (rest : List Char) :
    String.ofList (if rest = [] then ['/'] else rest) =
      if rest = [] then "/" else String.ofList rest := by
  split <;> rfl

/-- Only a colon and digits come after the host. -/
theorem Written.Legal.not_mem_authority {written : Written} (legal : written.Legal plain secure) {c : Char}
    (outside : c ∉ written.host) (notColon : c ≠ ':') (other : ¬('0' ≤ c ∧ c ≤ '9')) :
    c ∉ written.authority := by
  rw [authority, List.mem_append, not_or]
  refine ⟨outside, ?_⟩
  cases isPort : written.port with
  | none => simp
  | some digits =>
    simp only [Option.elim_some, List.mem_cons, not_or]
    exact ⟨notColon, fun inside => other ((legal.port digits isPort).chars c inside)⟩

/-- Every URL of the grammar is accepted, with its endpoint. -/
theorem Written.Legal.accepted {written : Written} (legal : written.Legal plain secure)
    (schemes : Schemes plain secure) :
    endpointOf (parseScheme plain secure) written.text = some (written.endpoint secure) := by
  have split : splitScheme written.text.toList =
      some (written.scheme, written.authority ++ written.rest) := by
    rw [text, String.toList_ofList, List.append_assoc]
    exact splitScheme_append (legal.no_colon schemes) _
  have scheme := (parseScheme_eq_some schemes).mpr ⟨legal.scheme, rfl⟩
  obtain ⟨noSlash, noColon, noAt⟩ := legal.hostChars
  have present : written.authority ≠ [] := by
    simp [authority, legal.host]
  have parts : parseUrlParts (written.authority ++ written.rest) =
      some ⟨written.authority, if written.rest = [] then ['/'] else written.rest⟩ := by
    refine parseUrlParts_eq_some.mpr ⟨written.rest, rfl, present, ?_, ?_, legal.rest, rfl⟩
    · exact legal.not_mem_authority noSlash (by decide) (by decide)
    · exact legal.not_mem_authority noAt (by decide) (by decide)
  have hostPort := (parseHostPort_eq_some (defaultPort_valid (toLower written.scheme = secure))).mpr
    ⟨written.host, written.port, rfl, legal.host, noColon, legal.port, rfl⟩
  simp only [endpointOf, parseEndpoint, split, scheme, parts, Option.bind_eq_bind, Option.bind_some,
    ne_eq, not_true_eq_false, if_false]
  rw [authority, hostPort, Option.bind_some, ofList_target]
  rfl

/-- What is accepted is a URL of the grammar. -/
theorem grammar_of_endpointOf (schemes : Schemes plain secure)
    (parsed : endpointOf (parseScheme plain secure) url = some endpoint) :
    Grammar plain secure url endpoint := by
  obtain ⟨⟨schemeRaw, after⟩, split, parsed⟩ := Option.bind_eq_some_iff.mp parsed
  obtain ⟨scheme, isScheme, parsed⟩ := Option.bind_eq_some_iff.mp parsed
  obtain ⟨known, rfl⟩ := (parseScheme_eq_some schemes).mp isScheme
  rw [parseEndpoint, split, Option.bind_eq_bind, Option.bind_some] at parsed
  dsimp only at parsed
  rw [if_neg (not_not.mpr rfl)] at parsed
  obtain ⟨parts, isParts, parsed⟩ := Option.bind_eq_some_iff.mp parsed
  obtain ⟨found, isFound, same⟩ := Option.bind_eq_some_iff.mp parsed
  obtain ⟨rest, whole, _, noSlash, noAt, boundary, isTarget⟩ := parseUrlParts_eq_some.mp isParts
  obtain ⟨host, port, isAuthority, present, noColon, isPort, rfl⟩ :=
    (parseHostPort_eq_some (defaultPort_valid _)).mp isFound
  have hostChars {c : Char} (outside : c ∉ parts.authority) : c ∉ host := by
    intro inside
    rw [isAuthority] at outside
    exact outside (List.mem_append_left _ inside)
  refine ⟨⟨schemeRaw, host, port, rest⟩,
    ⟨known, present, ⟨hostChars noSlash, noColon, hostChars noAt⟩, isPort, boundary⟩, ?_, ?_⟩
  · have isText := splitScheme_eq split
    rw [whole, isAuthority] at isText
    rw [Written.text, ← String.ofList_toList (s := url), isText]
    simp [Written.authority]
  · cases same
    rw [isTarget, ofList_target]
    rfl

theorem endpointOf_eq_some (schemes : Schemes plain secure) :
    endpointOf (parseScheme plain secure) url = some endpoint ↔ Grammar plain secure url endpoint := by
  constructor
  · exact grammar_of_endpointOf schemes
  · rintro ⟨written, legal, rfl, rfl⟩
    exact legal.accepted schemes

@[simp] theorem Written.endpoint_scheme (written : Written) :
    (written.endpoint secure).scheme = toLower written.scheme := rfl

@[simp] theorem Written.endpoint_host (written : Written) :
    (written.endpoint secure).host = String.ofList written.host := rfl

/-- An endpoint cut into parts: its port is always written out. -/
def Written.ofEndpoint (endpoint : Endpoint) : Written where
  scheme := endpoint.scheme.toList
  host := endpoint.host.toList
  port := some endpoint.port.toList
  rest := endpoint.target.toList

theorem Written.ofEndpoint_text (endpoint : Endpoint) :
    (Written.ofEndpoint endpoint).text = assemble endpoint := by
  apply String.toList_injective
  simp [Written.ofEndpoint, Written.text, Written.authority, assemble]

theorem Written.ofEndpoint_endpoint (lowered : toLower endpoint.scheme.toList = endpoint.scheme)
    (target : endpoint.target.toList ≠ []) (tls : endpoint.useTls = decide (endpoint.scheme = secure)) :
    (Written.ofEndpoint endpoint).endpoint secure = endpoint := by
  obtain ⟨scheme, host, port, rest, useTls⟩ := endpoint
  dsimp only at lowered target tls
  simp [Written.ofEndpoint, Written.endpoint, lowered, target, tls]

namespace Written.Legal

variable {written : Written} (legal : written.Legal plain secure)
include legal

theorem lowered (schemes : Schemes plain secure) :
    toLower (written.endpoint secure).scheme.toList = (written.endpoint secure).scheme := by
  rw [endpoint_scheme]
  obtain isPlain | isSecure := legal.scheme
  · rw [isPlain, schemes.plainLower]
  · rw [isSecure, schemes.secureLower]

theorem endpoint_port : Port (written.endpoint secure).port.toList := by
  rw [← isValidPort_iff, String.ofList_toList, endpoint]
  cases isPort : written.port with
  | none => exact defaultPort_valid _
  | some digits => exact isValidPort_iff.mpr (legal.port digits isPort)

theorem endpoint_target : (written.endpoint secure).target.toList.head? = some '/' := by
  dsimp only [endpoint]
  split
  · rfl
  · next present =>
    rw [String.toList_ofList]
    exact legal.rest.resolve_left present

/-- Put together again, an endpoint has its scheme in lower case and its port written out. -/
theorem ofEndpoint (schemes : Schemes plain secure) :
    (Written.ofEndpoint (written.endpoint secure)).Legal plain secure := by
  constructor
  · dsimp only [Written.ofEndpoint]
    rw [legal.lowered schemes]
    exact legal.scheme
  · simpa [Written.ofEndpoint] using legal.host
  · simpa [Written.ofEndpoint] using legal.hostChars
  · rintro _ ⟨⟩
    exact legal.endpoint_port
  · exact .inr legal.endpoint_target

end Written.Legal

theorem grammar_assemble (schemes : Schemes plain secure) (accepted : Grammar plain secure url endpoint) :
    Grammar plain secure (assemble endpoint) endpoint := by
  obtain ⟨written, legal, rfl, rfl⟩ := accepted
  refine ⟨_, legal.ofEndpoint schemes, (Written.ofEndpoint_text _).symm, ?_⟩
  have target : (written.endpoint secure).target.toList ≠ [] := by
    intro empty
    have slash := legal.endpoint_target
    rw [empty] at slash
    cases slash
  have tls : (written.endpoint secure).useTls = decide ((written.endpoint secure).scheme = secure) := by
    rw [Written.endpoint_scheme, Written.endpoint]
  exact (Written.ofEndpoint_endpoint (legal.lowered schemes) target tls).symm

/-- **Endpoint URLs are accepted exactly by their grammar.** -/
theorem endpoint_urls_follow_grammar :
    (∀ url endpoint, parseRestEndpoint url = some endpoint ↔ Grammar "http" "https" url endpoint) ∧
    (∀ url endpoint, parseWsEndpoint url = some endpoint ↔ Grammar "ws" "wss" url endpoint) ∧
    (∀ url endpoint, parseRestEndpoint url = some endpoint →
      parseRestEndpoint (assemble endpoint) = some endpoint) ∧
    (∀ url endpoint, parseWsEndpoint url = some endpoint →
      parseWsEndpoint (assemble endpoint) = some endpoint) := by
  have rest (url : String) (endpoint : Endpoint) :
      parseRestEndpoint url = some endpoint ↔ Grammar "http" "https" url endpoint :=
    endpointOf_eq_some restSchemes
  have ws (url : String) (endpoint : Endpoint) :
      parseWsEndpoint url = some endpoint ↔ Grammar "ws" "wss" url endpoint :=
    endpointOf_eq_some wsSchemes
  refine ⟨rest, ws, ?_, ?_⟩
  · intro url endpoint parsed
    exact (rest _ _).mpr (grammar_assemble restSchemes ((rest _ _).mp parsed))
  · intro url endpoint parsed
    exact (ws _ _).mpr (grammar_assemble wsSchemes ((ws _ _).mp parsed))

theorem endpoint_urls_follow_grammar_padded_port :
    parseRestEndpoint "HTTPS://node:0443/a@b:c" = some ⟨"https", "node", "0443", "/a@b:c", true⟩ ∧
    parseRestEndpoint "https://node:0443/a@b:c" = some ⟨"https", "node", "0443", "/a@b:c", true⟩ := by
  have parsed : parseRestEndpoint "HTTPS://node:0443/a@b:c" =
      some ⟨"https", "node", "0443", "/a@b:c", true⟩ := by decide +kernel
  have again := endpoint_urls_follow_grammar.2.2.1 _ _ parsed
  exact ⟨parsed, again⟩

end DexKnight.EndpointGrammar
