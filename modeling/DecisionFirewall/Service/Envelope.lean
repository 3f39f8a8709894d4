import DecisionFirewall.Lib.Latin1
import DecisionFirewall.Lib.Prog
import DecisionFirewall.Phase3.Identity

/-!
# The HTTP Envelope

`service.py`, `_bearer_credential` and `_request_body`: what the synthetic service checks
of a request before it looks at the body. Header values are Latin-1 texts, and the body
stream answers a read with bytes, with something else or with an exception.

- §1 the environ
- §2 operations and exceptions
- §3 the credential of a request
- §4 the body of a request
- §5 the rules of the envelope
-/

namespace DecisionFirewall.Service

open Lib Phase3

/-! ## §1 The environ -/

/-- The exceptions that the application tells apart. -/
inductive Raised where
  | permission
  | envelope (status code : String)
  | validation (reasonCode : String)
  | ledger (reasonCode : String)
  | other
  deriving DecidableEq, Repr

/-- What a read of the body stream gives. -/
inductive Chunk where
  | bytes (body : Bytes)
  | object
  | raised (e : Raised)
  deriving DecidableEq, Repr

/-- The members of a WSGI environ that the application reads. A stream without `read` is
absent. -/
structure Environ where
  requestMethod : Option Latin1
  pathInfo : Option Latin1
  queryString : Option Latin1
  xRequestId : Option Latin1
  authorization : Option Latin1
  transferEncoding : Option Latin1
  contentEncoding : Option Latin1
  contentType : Option Latin1
  contentLength : Option Latin1
  input : Option (Nat → Chunk)

/-! ## §2 Operations and exceptions -/

variable {F : Type}

/-- What the application asks of the stream and of the firewall behind it. -/
inductive Op where
  | read (length : Nat)
  | loadDecisionRequest (body : Bytes)
  | lookupRequestResult (body credential : Bytes)
  | processJson (body credential : Bytes)
  | readinessSnapshot

/-- The answers to the operations. -/
def Ans (F : Type) : Op → Type
  | .read _ => Chunk
  | .loadDecisionRequest _ => Except Raised (DecisionRequest F)
  | .lookupRequestResult .. => Except Raised (Option Dict)
  | .processJson .. => Except Raised Unit
  | .readinessSnapshot => Except Raised Dict

/-- An exception, and whether processing had started when it was raised. -/
structure Failure where
  raised : Raised
  processingStarted : Bool
  deriving DecidableEq, Repr

/-- A part of the application. -/
abbrev Run (F α : Type) := Prog Op (Ans F) Failure α

/-- Raises before processing has started. -/
def refuse {α : Type} (e : Raised) : Run F α := .raise ⟨e, false⟩

/-- The value of an answer, or its exception. -/
def settle {α : Type} (processingStarted : Bool) (answer : Except Raised α) : Run F α :=
  .ofExcept (answer.mapError (⟨·, processingStarted⟩))

/-- The exchanges with the firewall and its durable state. -/
structure Storage (F σ : Type) where
  loadDecisionRequest : Bytes → σ → Except Raised (DecisionRequest F)
  lookupRequestResult : Bytes → Bytes → σ → Except Raised (Option Dict) × σ
  processJson : Bytes → Bytes → σ → Except Raised Unit × σ
  readinessSnapshot : σ → Except Raised Dict × σ

/-- The lengths that were read of the stream, and the durable state. -/
abbrev Touched (σ : Type) := List Nat × σ

/-- The stream answers reads, the storage everything else. -/
def Storage.answer {σ : Type} (storage : Storage F σ) (input : Option (Nat → Chunk)) :
    Touched σ → (o : Op) → Option (Ans F o) × Touched σ
  | (reads, s), .read length => (input.map (· length), reads ++ [length], s)
  | (reads, s), .loadDecisionRequest body => (some (storage.loadDecisionRequest body s), reads, s)
  | (reads, s), .lookupRequestResult body credential =>
    let (answer, s') := storage.lookupRequestResult body credential s
    (some answer, reads, s')
  | (reads, s), .processJson body credential =>
    let (answer, s') := storage.processJson body credential s
    (some answer, reads, s')
  | (reads, s), .readinessSnapshot =>
    let (answer, s') := storage.readinessSnapshot s
    (some answer, reads, s')

/-! ## §3 The credential of a request -/

def MAX_AUTHORIZATION_BYTES : Nat := 1024

/-- A character of `BEARER_TOKEN`. -/
def isTokenChar (b : UInt8) : Bool :=
  65 ≤ b && b ≤ 90 || 97 ≤ b && b ≤ 122 || 48 ≤ b && b ≤ 57 ||
    b == 46 || b == 95 || b == 126 || b == 45

/-- `BEARER_TOKEN.fullmatch(credential)`. -/
def IsBearerToken (credential : Bytes) : Prop :=
  43 ≤ credential.length ∧ credential.length ≤ 512 ∧ ∀ b ∈ credential, isTokenChar b = true

instance (credential : Bytes) : Decidable (IsBearerToken credential) :=
  inferInstanceAs (Decidable (_ ∧ _ ∧ _))

/-- `hmac.compare_digest` of two texts; `none` is a `TypeError`. -/
def compareDigest (a b : Latin1) : Option Bool :=
  if a.IsAscii ∧ b.IsAscii then some (a == b) else none

/-- `_bearer_credential`. -/
def bearerCredential (environ : Environ) : Except Raised Bytes :=
  match environ.authorization with
  | none => .error .permission
  | some value =>
    if MAX_AUTHORIZATION_BYTES < value.utf8Length then .error .permission
    else match value.splitOnce 32 with
      | none => .error .permission
      | some (scheme, token) =>
        match compareDigest scheme.lower (Latin1.ofString "bearer") with
        | none => .error .other
        | some false => .error .permission
        | some true =>
          if ¬ token.IsAscii then .error .permission
          else if ¬ IsBearerToken token then .error .permission
          else .ok token

/-- The header is a bearer scheme, a space and this credential. -/
def Environ.HoldsCredential (environ : Environ) (credential : Bytes) : Prop :=
  ∃ scheme : Latin1, environ.authorization = some (scheme ++ 32 :: credential) ∧
    scheme.lower = Latin1.ofString "bearer" ∧ IsBearerToken credential

/-- The header is within its bound, and a character outside ASCII stands before its
first space. -/
def Environ.SchemeUnreadable (environ : Environ) : Prop :=
  ∃ scheme token : Latin1, environ.authorization = some (scheme ++ 32 :: token) ∧
    Latin1.utf8Length (scheme ++ 32 :: token) ≤ MAX_AUTHORIZATION_BYTES ∧
      32 ∉ scheme ∧ ¬ Latin1.IsAscii scheme

theorem isAscii_bearer : (Latin1.ofString "bearer").IsAscii := by
  rw [show Latin1.ofString "bearer" = [98, 101, 97, 114, 101, 114] from rfl]
  simp [Latin1.IsAscii]

theorem IsBearerToken.isAscii {credential : Bytes} (h : IsBearerToken credential) :
    Latin1.IsAscii credential := by
  intro b hb
  have hchar := h.2.2 b hb
  simp only [isTokenChar, Bool.or_eq_true, Bool.and_eq_true, decide_eq_true_eq, beq_iff_eq,
    UInt8.le_iff_toNat_le, UInt8.lt_iff_toNat_lt, ← UInt8.toNat_inj, UInt8.reduceToNat] at hchar ⊢
  omega

/-- A bearer scheme has no space, is ASCII and has six characters. -/
theorem bearer_scheme {scheme : Latin1} (h : scheme.lower = Latin1.ofString "bearer") :
    scheme.IsAscii ∧ scheme.length = 6 ∧ 32 ∉ scheme := by
  refine ⟨?_, ?_, ?_⟩
  · rw [← Latin1.isAscii_lower_iff, h]
    exact isAscii_bearer
  · have hlength := congrArg List.length h
    rwa [Latin1.lower, List.length_map] at hlength
  · intro hspace
    have hmem : Latin1.lowerChar 32 ∈ scheme.lower := List.mem_map_of_mem hspace
    rw [h] at hmem
    exact absurd hmem (by decide)

/-- The check of a header within its bound that has a space. -/
theorem bearerCredential_of_split {environ : Environ} {scheme token : Latin1}
    (hvalue : environ.authorization = some (scheme ++ 32 :: token))
    (hsize : Latin1.utf8Length (scheme ++ 32 :: token) ≤ MAX_AUTHORIZATION_BYTES)
    (hspace : 32 ∉ scheme) :
    bearerCredential environ =
      if ¬ scheme.IsAscii then .error .other
      else if scheme.lower = Latin1.ofString "bearer" ∧ IsBearerToken token then .ok token
      else .error .permission := by
  have hsplit : Latin1.splitOnce 32 (scheme ++ 32 :: token) = some (scheme, token) :=
    Latin1.splitOnce_eq_some.mpr ⟨rfl, hspace⟩
  simp only [bearerCredential, hvalue, if_neg (Nat.not_lt.mpr hsize), hsplit]
  by_cases hascii : scheme.IsAscii
  · have hdigest : compareDigest scheme.lower (Latin1.ofString "bearer") =
        some (scheme.lower == Latin1.ofString "bearer") :=
      if_pos ⟨Latin1.isAscii_lower_iff.mpr hascii, isAscii_bearer⟩
    rw [hdigest, if_neg (not_not.mpr hascii)]
    by_cases hscheme : scheme.lower = Latin1.ofString "bearer"
    · rw [beq_iff_eq.mpr hscheme]
      by_cases htoken : IsBearerToken token
      · simp only [htoken.isAscii, htoken, hscheme, not_true_eq_false, if_false, and_self, if_true]
      · simp only [htoken, hscheme, not_false_eq_true, if_true, and_false, if_false, ite_self]
    · rw [beq_eq_false_iff_ne.mpr hscheme,
        if_neg fun h : scheme.lower = Latin1.ofString "bearer" ∧ _ => hscheme h.1]
  · have hdigest : compareDigest scheme.lower (Latin1.ofString "bearer") = none :=
      if_neg fun h => hascii (Latin1.isAscii_lower_iff.mp h.1)
    rw [hdigest, if_pos hascii]

/-- Every other header is refused. -/
theorem bearerCredential_of_unsplit {environ : Environ}
    (h : ¬ ∃ scheme token : Latin1, environ.authorization = some (scheme ++ 32 :: token) ∧
      Latin1.utf8Length (scheme ++ 32 :: token) ≤ MAX_AUTHORIZATION_BYTES ∧ 32 ∉ scheme) :
    bearerCredential environ = .error .permission := by
  unfold bearerCredential
  cases hvalue : environ.authorization with
  | none => rfl
  | some value =>
    by_cases hsize : MAX_AUTHORIZATION_BYTES < value.utf8Length
    · simp only [if_pos hsize]
    · simp only [if_neg hsize]
      cases hsplit : value.splitOnce 32 with
      | none => rfl
      | some parts =>
        obtain ⟨scheme, token⟩ := parts
        obtain ⟨rfl, hspace⟩ := Latin1.splitOnce_eq_some.mp hsplit
        exact absurd ⟨scheme, token, hvalue, Nat.not_lt.mp hsize, hspace⟩ h

/-- A bearer credential is within the bound of the header. -/
theorem utf8Length_bearer {scheme credential : Latin1}
    (hscheme : scheme.lower = Latin1.ofString "bearer") (h : IsBearerToken credential) :
    Latin1.utf8Length (scheme ++ 32 :: credential) ≤ MAX_AUTHORIZATION_BYTES := by
  obtain ⟨hascii, hlength, -⟩ := bearer_scheme hscheme
  have hvalue : Latin1.IsAscii (scheme ++ 32 :: credential) := by
    intro b hb
    rcases List.mem_append.mp hb with hb | hb
    · exact hascii b hb
    · rcases List.mem_cons.mp hb with rfl | hb
      · decide
      · exact h.isAscii b hb
  rw [Latin1.utf8Length_of_isAscii hvalue, List.length_append, List.length_cons, hlength]
  have hbound := h.2.1
  unfold MAX_AUTHORIZATION_BYTES
  omega

/-- The check returns the credential that the header holds. -/
theorem bearerCredential_eq_ok {environ : Environ} {credential : Bytes} :
    bearerCredential environ = .ok credential ↔ environ.HoldsCredential credential := by
  constructor
  · intro h
    by_cases hsplit : ∃ scheme token : Latin1, environ.authorization = some (scheme ++ 32 :: token) ∧
        Latin1.utf8Length (scheme ++ 32 :: token) ≤ MAX_AUTHORIZATION_BYTES ∧ 32 ∉ scheme
    · obtain ⟨scheme, token, hvalue, hsize, hspace⟩ := hsplit
      rw [bearerCredential_of_split hvalue hsize hspace] at h
      by_cases hascii : scheme.IsAscii
      · rw [if_neg (not_not.mpr hascii)] at h
        by_cases hheld : scheme.lower = Latin1.ofString "bearer" ∧ IsBearerToken token
        · rw [if_pos hheld] at h
          cases h
          exact ⟨scheme, hvalue, hheld.1, hheld.2⟩
        · rw [if_neg hheld] at h
          cases h
      · rw [if_pos hascii] at h
        cases h
    · rw [bearerCredential_of_unsplit hsplit] at h
      cases h
  · rintro ⟨scheme, hvalue, hscheme, htoken⟩
    obtain ⟨hascii, -, hspace⟩ := bearer_scheme hscheme
    rw [bearerCredential_of_split hvalue (utf8Length_bearer hscheme htoken) hspace,
      if_neg (not_not.mpr hascii), if_pos ⟨hscheme, htoken⟩]

/-- Comparing the scheme raises where the scheme cannot be compared. -/
theorem bearerCredential_of_unreadable {environ : Environ} (h : environ.SchemeUnreadable) :
    bearerCredential environ = .error .other := by
  obtain ⟨scheme, token, hvalue, hsize, hspace, hascii⟩ := h
  rw [bearerCredential_of_split hvalue hsize hspace, if_pos hascii]

/-- Every other header without a credential is refused. -/
theorem bearerCredential_of_readable {environ : Environ} (h : ¬ environ.SchemeUnreadable)
    (hheld : ∀ credential, ¬ environ.HoldsCredential credential) :
    bearerCredential environ = .error .permission := by
  by_cases hsplit : ∃ scheme token : Latin1, environ.authorization = some (scheme ++ 32 :: token) ∧
      Latin1.utf8Length (scheme ++ 32 :: token) ≤ MAX_AUTHORIZATION_BYTES ∧ 32 ∉ scheme
  · obtain ⟨scheme, token, hvalue, hsize, hspace⟩ := hsplit
    have hascii : scheme.IsAscii := by
      by_contra hascii
      exact h ⟨scheme, token, hvalue, hsize, hspace, hascii⟩
    rw [bearerCredential_of_split hvalue hsize hspace, if_neg (not_not.mpr hascii),
      if_neg fun hp => hheld token ⟨scheme, hvalue, hp.1, hp.2⟩]
  · exact bearerCredential_of_unsplit hsplit

/-! ## §4 The body of a request -/

def MAX_REQUEST_BYTES : Nat := 1024 * 1024

/-- The media type of `CONTENT_TYPE`, without its parameters. -/
def Environ.mediaType (environ : Environ) : Latin1 :=
  Latin1.lower (Latin1.strip ((environ.contentType.getD []).takeWhile (· ≠ 59)))

/-- `_request_body`, once the announced length is a number. -/
def readBody (environ : Environ) (length : Nat) : Run F Bytes :=
  if MAX_REQUEST_BYTES < length then
    refuse (.envelope "413 Payload Too Large" "REQUEST_TOO_LARGE")
  else if length < 1 then
    refuse (.envelope "400 Bad Request" "REQUEST_BODY_EMPTY")
  else if environ.input.isNone then
    refuse (.envelope "400 Bad Request" "REQUEST_BODY_UNAVAILABLE")
  else .call (.read length) fun
    | .bytes body =>
      if body.length ≠ length then
        refuse (.envelope "400 Bad Request" "CONTENT_LENGTH_MISMATCH")
      else .ret body
    | .object => refuse (.envelope "400 Bad Request" "CONTENT_LENGTH_MISMATCH")
    | .raised e => refuse e

/-- `_request_body`. -/
def requestBody (environ : Environ) : Run F Bytes :=
  if environ.transferEncoding.getD [] ≠ [] then
    refuse (.envelope "400 Bad Request" "TRANSFER_ENCODING_PROHIBITED")
  else if environ.contentEncoding.getD [] ≠ [] then
    refuse (.envelope "415 Unsupported Media Type" "CONTENT_ENCODING_PROHIBITED")
  else if environ.mediaType ≠ Latin1.ofString "application/json" then
    refuse (.envelope "415 Unsupported Media Type" "CONTENT_TYPE_UNSUPPORTED")
  else match environ.contentLength with
    | none => refuse (.envelope "400 Bad Request" "CONTENT_LENGTH_INVALID")
    | some rawLength =>
      if ¬ rawLength.IsDecimal then
        refuse (.envelope "400 Bad Request" "CONTENT_LENGTH_INVALID")
      else match rawLength.int? with
        | none => refuse .other
        | some length => readBody environ length

/-! ## §5 The rules of the envelope -/

/-- The stream does not give this many bytes. A read that raises gives no bytes to count. -/
def Environ.Differs (environ : Environ) (length : Nat) : Prop :=
  match environ.input with
  | none => True
  | some read => match read length with
    | .bytes body => body.length ≠ length
    | .object => True
    | .raised _ => False

/-- The announced length is zero, above the limit or not that of the body. -/
def Environ.LengthViolated (environ : Environ) (length : Nat) : Prop :=
  length = 0 ∨ MAX_REQUEST_BYTES < length ∨ environ.Differs length

/-- The announced length is absent, not decimal or wrong. -/
def Environ.LengthRulesViolated (environ : Environ) : Prop :=
  ∀ digits, environ.contentLength = some digits → digits.IsDecimal →
    environ.LengthViolated digits.decimalValue

/-- The body is encoded or of another media type. -/
def Environ.TypeRulesViolated (environ : Environ) : Prop :=
  environ.transferEncoding.getD [] ≠ [] ∨ environ.contentEncoding.getD [] ≠ [] ∨
    environ.mediaType ≠ Latin1.ofString "application/json"

/-- A rule of the envelope is violated. -/
def Environ.Violated (environ : Environ) : Prop :=
  environ.TypeRulesViolated ∨ environ.LengthRulesViolated

/-- The announced length is decimal, of more digits than `int` reads, and wrong. -/
def Environ.LengthUnreadable (environ : Environ) : Prop :=
  ¬ environ.TypeRulesViolated ∧ ∃ digits, environ.contentLength = some digits ∧
    digits.IsDecimal ∧ Latin1.MAX_STR_DIGITS < digits.length ∧
      environ.LengthViolated digits.decimalValue

/-- The status is a client error. -/
def IsClientError (status : String) : Prop :=
  ∃ a b rest, status.toList = '4' :: a :: b :: ' ' :: rest ∧ a.isDigit ∧ b.isDigit

theorem isClientError_badRequest : IsClientError "400 Bad Request" :=
  ⟨'0', '0', "Bad Request".toList, rfl, rfl, rfl⟩

theorem isClientError_unsupportedMediaType : IsClientError "415 Unsupported Media Type" :=
  ⟨'1', '5', "Unsupported Media Type".toList, rfl, rfl, rfl⟩

theorem isClientError_payloadTooLarge : IsClientError "413 Payload Too Large" :=
  ⟨'1', '3', "Payload Too Large".toList, rfl, rfl, rfl⟩

/-- The run ends with a client error of the envelope, and the durable state is as it was. -/
def Refuses {σ α : Type} (storage : Storage F σ) (environ : Environ) (s : σ) (p : Run F α) : Prop :=
  ∃ status code reads, p.exec (storage.answer environ.input) ([], s) =
    (.raised ⟨.envelope status code, false⟩, reads, s) ∧ IsClientError status

section Rules

variable {σ : Type} {storage : Storage F σ} {environ : Environ} {s : σ}

theorem refuses_refuse {α : Type} {status code : String} (h : IsClientError status) :
    Refuses storage environ s (refuse (.envelope status code) : Run F α) :=
  ⟨status, code, [], rfl, h⟩

/-- A read of the stream leaves the durable state as it is. -/
theorem exec_read {α : Type} {read : Nat → Chunk} (hinput : environ.input = some read)
    {length : Nat} {k : Chunk → Run F α} :
    Prog.exec (storage.answer environ.input) (.call (.read length) k) ([], s) =
      (k (read length)).exec (storage.answer environ.input) ([length], s) := by
  rw [hinput]
  rfl

/-- A length that breaks a rule is refused, at the latest when the stream has been read. -/
theorem refuses_readBody {length : Nat} (h : environ.LengthViolated length) :
    Refuses storage environ s (readBody environ length) := by
  unfold readBody
  by_cases hlarge : MAX_REQUEST_BYTES < length
  · rw [if_pos hlarge]
    exact refuses_refuse isClientError_payloadTooLarge
  rw [if_neg hlarge]
  by_cases hempty : length < 1
  · rw [if_pos hempty]
    exact refuses_refuse isClientError_badRequest
  rw [if_neg hempty]
  have hdiffers : environ.Differs length := by
    rcases h with h | h | h
    · omega
    · exact absurd h hlarge
    · exact h
  cases hinput : environ.input with
  | none => exact refuses_refuse isClientError_badRequest
  | some read =>
    simp only [Environ.Differs, hinput] at hdiffers
    refine ⟨"400 Bad Request", "CONTENT_LENGTH_MISMATCH", [length], ?_, isClientError_badRequest⟩
    rw [if_neg (by simp)]
    refine (exec_read hinput).trans ?_
    cases hchunk : read length with
    | bytes body =>
      simp only [hchunk] at hdiffers
      simp only [if_pos hdiffers]
      rfl
    | object => rfl
    | raised e => simp only [hchunk] at hdiffers

/-- A violation is refused, unless the announced length cannot be read. -/
theorem refuses_requestBody (h : environ.Violated) (hlength : ¬ environ.LengthUnreadable) :
    Refuses storage environ s (requestBody environ) := by
  unfold requestBody
  by_cases htransfer : environ.transferEncoding.getD [] ≠ []
  · rw [if_pos htransfer]
    exact refuses_refuse isClientError_badRequest
  rw [if_neg htransfer]
  by_cases hcontent : environ.contentEncoding.getD [] ≠ []
  · rw [if_pos hcontent]
    exact refuses_refuse isClientError_unsupportedMediaType
  rw [if_neg hcontent]
  by_cases htype : environ.mediaType ≠ Latin1.ofString "application/json"
  · rw [if_pos htype]
    exact refuses_refuse isClientError_unsupportedMediaType
  rw [if_neg htype]
  have htyped : ¬ environ.TypeRulesViolated :=
    not_or.mpr ⟨htransfer, not_or.mpr ⟨hcontent, htype⟩⟩
  cases hraw : environ.contentLength with
  | none => exact refuses_refuse isClientError_badRequest
  | some digits =>
    by_cases hdecimal : digits.IsDecimal
    · have hviolated := h.resolve_left htyped digits hraw hdecimal
      have hdigits : ¬ Latin1.MAX_STR_DIGITS < digits.length := fun hlong =>
        hlength ⟨htyped, digits, hraw, hdecimal, hlong, hviolated⟩
      simp only [not_true_eq_false, hdecimal, if_false, Latin1.int?, if_neg hdigits]
      exact refuses_readBody hviolated
    · simp only [hdecimal, not_false_eq_true, if_true]
      exact refuses_refuse isClientError_badRequest

/-- A length of too many digits is no client error. -/
theorem requestBody_of_unreadable (h : environ.LengthUnreadable) :
    (requestBody environ : Run F Bytes) = refuse .other := by
  obtain ⟨htyped, digits, hraw, hdecimal, hlong, -⟩ := h
  obtain ⟨htransfer, hrest⟩ := not_or.mp htyped
  obtain ⟨hcontent, htype⟩ := not_or.mp hrest
  unfold requestBody
  rw [if_neg htransfer, if_neg hcontent, if_neg htype]
  simp only [hraw, hdecimal, not_true_eq_false, if_false, Latin1.int?, if_pos hlong]

end Rules

end DecisionFirewall.Service
