import DecisionFirewall.Phase3.Recomputation
import DecisionFirewall.Service.Envelope

/-!
# The Synthetic HTTP Service

`service.py`, `DecisionFirewallService.__call__`: routing, authentication, the envelope, the
submission or lookup behind it, and the response to every exception.

- §1 responses
- §2 the application
- §3 calls on a durable state
- §4 what the envelope decides
-/

namespace DecisionFirewall.Service

open Lib Phase3

variable {F : Type}

/-! ## §1 Responses -/

def SERVICE_RESPONSE_VERSION : String := "stage-a-synthetic-http-v1"

def RUNTIME_PROFILE : String := "STAGE_A_SYNTHETIC_ONLY"

def EXECUTION_MODE : String := "synthetic_simulation"

/-- What `start_response` is told, and the body as a value. -/
structure Response where
  status : String
  headers : List (String × String)
  body : Dict

/-- `_respond`. -/
def respond (status : String) (payload : Dict) (correlation : String)
    (headers : List (String × String) := []) : Response :=
  let base : Dict := [("schema_version", .str SERVICE_RESPONSE_VERSION),
    ("runtime_profile", .str RUNTIME_PROFILE)]
  let body := (base.update payload).update [("correlation_id", .str correlation)]
  { status := status
    headers := [("Content-Type", "application/json"),
      ("Content-Length", toString (canonicalJson (.obj body)).utf8ByteSize),
      ("Cache-Control", "no-store"), ("Pragma", "no-cache"),
      ("X-Content-Type-Options", "nosniff"), ("Referrer-Policy", "no-referrer"),
      ("X-Request-ID", correlation)] ++ headers
    body := body }

/-- `_error`. -/
def error (status code correlation : String) (lookupRequired : Bool := false)
    (headers : List (String × String) := []) : Response :=
  respond status [("error", .obj [("code", .str code), ("automatic_retry_permitted", .bool false),
    ("lookup_required", .bool lookupRequired)])] correlation headers

/-- The response to a request without a registered credential. -/
def unauthorized (correlation : String) : Response :=
  error "401 Unauthorized" "AUTHENTICATION_REQUIRED" correlation false
    [("WWW-Authenticate", "Bearer realm=\"adf-synthetic\"")]

/-- The response to an exception. -/
def Failure.response (failure : Failure) (correlation : String) : Response :=
  match failure.raised with
  | .permission => unauthorized correlation
  | .envelope status code => error status code correlation
  | .validation reasonCode =>
    error "422 Unprocessable Entity" reasonCode correlation failure.processingStarted
  | .ledger reasonCode =>
    if "AUTHENTICATION".toList <:+: reasonCode.toList then unauthorized correlation
    else
      error (if "CONFLICT".toList <:+: reasonCode.toList then "409 Conflict"
        else "503 Service Unavailable") reasonCode correlation failure.processingStarted
  | .other =>
    error "503 Service Unavailable" "SERVICE_UNAVAILABLE" correlation failure.processingStarted

/-! ## §2 The application -/

/-- A character of `CORRELATION_ID`, behind the first one. -/
def isCorrelationChar (b : UInt8) : Bool :=
  65 ≤ b && b ≤ 90 || 97 ≤ b && b ≤ 122 || 48 ≤ b && b ≤ 57 ||
    b == 46 || b == 95 || b == 58 || b == 45

/-- `CORRELATION_ID.fullmatch(supplied)`. -/
def IsCorrelationId (supplied : Latin1) : Prop :=
  supplied ≠ [] ∧ supplied.length ≤ 128 ∧ (∀ b ∈ supplied, isCorrelationChar b = true) ∧
    ∀ b ∈ supplied.head?, b ≠ 46 ∧ b ≠ 95 ∧ b ≠ 58 ∧ b ≠ 45

instance (supplied : Latin1) : Decidable (IsCorrelationId supplied) :=
  inferInstanceAs (Decidable (_ ∧ _ ∧ _ ∧ _))

/-- `uuid.uuid4()`, for the correlation and for the resolution of the credential. -/
structure Fresh where
  correlation : String
  resolution : String

/-- `_correlation_id`. -/
def correlationId (fresh : Fresh) (environ : Environ) : String :=
  match environ.xRequestId with
  | some supplied =>
    if IsCorrelationId supplied then supplied.toText else "adf-" ++ fresh.correlation
  | none => "adf-" ++ fresh.correlation

/-- The routes of the application with their methods. -/
def KNOWN_ROUTES : List (String × String) :=
  [("/livez", "GET"), ("/readyz", "GET"), ("/v1/synthetic/requests", "POST"),
    ("/v1/synthetic/request-results:lookup", "POST")]

/-- The identity boundary of the firewall behind the application. -/
structure Boundary where
  lib : Primitives
  sha256 : Bytes → String
  resolver : TrustedPrincipalResolver

namespace Boundary

variable (boundary : Boundary)

/-- `authenticate_transport_credential`. -/
def authenticateTransportCredential (fresh : Fresh) (credential : Bytes) :
    Except Raised AuthenticatedPrincipal :=
  match boundary.resolver.resolve boundary.lib boundary.sha256
      ("resolution-" ++ fresh.resolution) credential with
  | .error _ => .error (.ledger "TRANSPORT_AUTHENTICATION_FAILED")
  | .ok resolution => match boundary.resolver.verifyResolution boundary.lib resolution with
    | none => .error (.ledger "TRANSPORT_AUTHENTICATION_FAILED")
    | some principal => .ok principal

end Boundary

/-- The member is this text. -/
def isText (d : Dict) (name text : String) : Bool :=
  match d.get name with
  | .str s => s == text
  | _ => false

/-- `d.get(name) is value`. -/
def isBool (d : Dict) (name : String) (value : Bool) : Bool :=
  match d.get name with
  | .bool b => b == value
  | _ => false

/-- `_validate_synthetic_request`. -/
def validateSyntheticRequest (body : Bytes) : Run F Unit :=
  .call (.loadDecisionRequest body) fun answer => (settle false answer).bind fun request =>
    if !isText request.context "environment" "synthetic_soc_demo" ||
        !isBool request.context "live_action" false ||
        request.evidence.any (fun item => !isBool item.payload "synthetic" true) then
      refuse (.validation "SYNTHETIC_PROFILE_REQUIRED")
    else .ret ()

/-- `lookup_request_result`. -/
def lookupRequestResult (processingStarted : Bool) (body credential : Bytes) :
    Run F (Option Dict) :=
  .call (.lookupRequestResult body credential) (settle processingStarted)

/-- `process_json`. -/
def processJson (body credential : Bytes) : Run F Unit :=
  .call (.processJson body credential) (settle true)

/-- A submission is looked up, and processed where it has no result yet. -/
def submit (body credential : Bytes) : Run F (Option Dict) :=
  (lookupRequestResult false body credential).bind fun
    | some existing => .ret (some existing)
    | none => (processJson body credential).bind fun _ => lookupRequestResult true body credential

/-- What the two routes for requests do with a body. -/
def answerBody (path correlation : String) (body credential : Bytes) : Run F Response :=
  if ":lookup".toList <:+ path.toList then
    (lookupRequestResult false body credential).bind fun
      | none => .ret (error "404 Not Found" "RESULT_NOT_FOUND" correlation)
      | some existing => .ret (respond "200 OK"
          [("operation", .str "REQUEST_RESULT_LOOKUP"), ("result", .obj existing)] correlation)
  else
    (submit body credential).bind fun
      | none => .ret (error "503 Service Unavailable" "TERMINAL_RESULT_NOT_DURABLE" correlation true)
      | some existing => .ret (respond "200 OK"
          [("operation", .str "SUBMIT_AND_LOOKUP"), ("result", .obj existing)] correlation)

section Call

variable (boundary : Boundary) (fresh : Fresh) (environ : Environ)

/-- The routes that need a credential. -/
def authenticated (path correlation : String) : Run F Response :=
  (settle false (bearerCredential environ)).bind fun credential =>
    (settle false (boundary.authenticateTransportCredential fresh credential)).bind fun _ =>
      (requestBody environ).bind fun body =>
        (validateSyntheticRequest body).bind fun _ =>
          answerBody path correlation body credential

/-- The body of `__call__`, once the route is known. -/
def dispatch (path correlation : String) : Run F Response :=
  if path = "/livez" then
    .ret (respond "200 OK" [("status", .str "LIVE"), ("execution_mode", .str EXECUTION_MODE),
      ("live_actions_enabled", .bool false)] correlation)
  else if path = "/readyz" then
    .call .readinessSnapshot fun answer => (settle false answer).bind fun snapshot =>
      .ret (respond (if isText snapshot "status" "READY" then "200 OK"
        else "503 Service Unavailable") snapshot correlation)
  else authenticated boundary fresh environ path correlation

/-- `__call__`: no exception leaves it. -/
def call : Prog Op (Ans F) Empty Response :=
  let correlation := correlationId fresh environ
  let path := (environ.pathInfo.getD []).toText
  if environ.queryString.getD [] ≠ [] then
    .ret (error "400 Bad Request" "QUERY_PROHIBITED" correlation)
  else match KNOWN_ROUTES.lookup path with
    | none => .ret (error "404 Not Found" "NOT_FOUND" correlation)
    | some expectedMethod =>
      if (environ.requestMethod.getD []).toText ≠ expectedMethod then
        .ret (error "405 Method Not Allowed" "METHOD_NOT_ALLOWED" correlation false
          [("Allow", expectedMethod)])
      else (dispatch boundary fresh environ path correlation).attempt.bind fun
        | .ok response => .ret response
        | .error failure => .ret (failure.response correlation)

end Call

/-! ## §3 Calls on a durable state -/

section Serve

variable {σ : Type} (boundary : Boundary) (storage : Storage F σ) (fresh : Fresh)
  (environ : Environ) (s : σ)

/-- A call, with what it touched. -/
def serve : Prog.Outcome Empty Response × Touched σ :=
  (call boundary fresh environ : Prog Op (Ans F) Empty Response).exec
    (storage.answer environ.input) ([], s)

/-- A POST to a route for requests, without a query. -/
structure Environ.IsPost (environ : Environ) : Prop where
  query : environ.queryString.getD [] = []
  method : (environ.requestMethod.getD []).toText = "POST"
  route : (environ.pathInfo.getD []).toText = "/v1/synthetic/requests" ∨
    (environ.pathInfo.getD []).toText = "/v1/synthetic/request-results:lookup"

/-- The header holds a credential that the resolver knows. -/
def Environ.Authenticated (environ : Environ) (boundary : Boundary) : Prop :=
  ∃ credential, environ.HoldsCredential credential ∧
    (boundary.resolver.records.lookup (boundary.sha256 credential)).isSome = true

/-- Without a known credential the answer is 401 and nothing is touched; with one, every
violation of the envelope is answered with a client error, and the durable state stays. -/
structure EnvelopeAnswered : Prop where
  unknown : ¬ environ.Authenticated boundary →
    ∃ response, serve boundary storage fresh environ s = (.returned response, [], s) ∧
      response.status = "401 Unauthorized"
  violated : environ.Authenticated boundary → environ.Violated →
    ∃ response reads, serve boundary storage fresh environ s = (.returned response, reads, s) ∧
      IsClientError response.status

variable {boundary storage fresh environ s}

/-- An exception of a request becomes the response to it. -/
theorem serve_of_raised (hpost : environ.IsPost) (failure : Failure) {touched : Touched σ}
    (h : (authenticated boundary fresh environ (environ.pathInfo.getD []).toText
      (correlationId fresh environ) : Run F Response).exec (storage.answer environ.input) ([], s) =
        (.raised failure, touched)) :
    serve boundary storage fresh environ s =
      (.returned (failure.response (correlationId fresh environ)), touched) := by
  have hroute : KNOWN_ROUTES.lookup (environ.pathInfo.getD []).toText = some "POST" ∧
      (environ.pathInfo.getD []).toText ≠ "/livez" ∧
        (environ.pathInfo.getD []).toText ≠ "/readyz" := by
    rcases hpost.route with hroute | hroute
    · rw [hroute]
      decide
    · rw [hroute]
      decide
  unfold serve call dispatch
  simp only [hpost.query, ne_eq, not_true_eq_false, if_false, hroute.1, hpost.method,
    hroute.2.1, hroute.2.2]
  rw [Prog.exec_bind, Prog.exec_attempt, h]
  rfl

/-- A credential that the resolver does not know is not authenticated. -/
theorem authenticate_of_unknown {credential : Bytes}
    (h : (boundary.resolver.records.lookup (boundary.sha256 credential)).isSome = false) :
    boundary.authenticateTransportCredential fresh credential =
      .error (.ledger "TRANSPORT_AUTHENTICATION_FAILED") := by
  have hnone := Option.isSome_eq_false_iff.mp h
  unfold Boundary.authenticateTransportCredential TrustedPrincipalResolver.resolve
  rw [Option.isNone_iff_eq_none.mp hnone]
  by_cases hlength : credential.length < 32
  · rw [if_pos hlength]
  · rw [if_neg hlength]

/-- A known credential resolves to its principal. -/
theorem authenticate_of_known {credential : Bytes} (htoken : IsBearerToken credential)
    (h : (boundary.resolver.records.lookup (boundary.sha256 credential)).isSome = true) :
    ∃ principal, boundary.authenticateTransportCredential fresh credential = .ok principal := by
  obtain ⟨principal, hprincipal⟩ := Option.isSome_iff_exists.mp h
  have hlength : ¬ credential.length < 32 := by
    have hbound := htoken.1
    omega
  refine ⟨principal, ?_⟩
  unfold Boundary.authenticateTransportCredential TrustedPrincipalResolver.resolve
  rw [if_neg hlength, hprincipal]
  simp only [TrustedPrincipalResolver.verifyResolution_resolution]

/-- The request of a known credential goes on to its body. -/
theorem authenticated_of_authenticated (fresh : Fresh) (h : environ.Authenticated boundary)
    (path correlation : String) : ∃ credential,
      (authenticated boundary fresh environ path correlation : Run F Response) =
        (requestBody environ).bind fun body => (validateSyntheticRequest body).bind fun _ =>
          answerBody path correlation body credential := by
  obtain ⟨credential, hheld, hknown⟩ := h
  have htoken : IsBearerToken credential := by
    obtain ⟨scheme, -, -, htoken⟩ := hheld
    exact htoken
  obtain ⟨principal, hprincipal⟩ :
      ∃ principal, boundary.authenticateTransportCredential fresh credential = .ok principal :=
    authenticate_of_known htoken hknown
  refine ⟨credential, ?_⟩
  unfold authenticated
  rw [bearerCredential_eq_ok.mpr hheld]
  simp only [settle, Except.mapError, Prog.ofExcept, Prog.bind_ret, hprincipal]

/-! ## §4 What the envelope decides -/

/-- A scheme that cannot be compared is answered as a failure of the service. -/
theorem serve_of_schemeUnreadable (hpost : environ.IsPost) (h : environ.SchemeUnreadable) :
    serve boundary storage fresh environ s =
      (.returned ((⟨.other, false⟩ : Failure).response (correlationId fresh environ)), [], s) := by
  apply serve_of_raised hpost ⟨.other, false⟩
  unfold authenticated
  rw [bearerCredential_of_unreadable h]
  rfl

/-- Every other request without a known credential is answered with 401. -/
theorem serve_of_unknown (hpost : environ.IsPost) (hreadable : ¬ environ.SchemeUnreadable)
    (h : ¬ environ.Authenticated boundary) :
    serve boundary storage fresh environ s =
      (.returned (unauthorized (correlationId fresh environ)), [], s) := by
  by_cases hheld : ∃ credential, environ.HoldsCredential credential
  · obtain ⟨credential, hheld⟩ := hheld
    have hunknown : (boundary.resolver.records.lookup (boundary.sha256 credential)).isSome = false :=
      Bool.eq_false_iff.mpr fun hknown => h ⟨credential, hheld, hknown⟩
    have hraised : (authenticated boundary fresh environ (environ.pathInfo.getD []).toText
        (correlationId fresh environ) : Run F Response).exec (storage.answer environ.input) ([], s) =
          (.raised ⟨.ledger "TRANSPORT_AUTHENTICATION_FAILED", false⟩, ([], s)) := by
      unfold authenticated
      rw [bearerCredential_eq_ok.mpr hheld]
      simp only [settle, Except.mapError, Prog.ofExcept, Prog.bind_ret,
        authenticate_of_unknown hunknown]
      rfl
    have hreason : "AUTHENTICATION".toList <:+: "TRANSPORT_AUTHENTICATION_FAILED".toList := by
      decide
    refine (serve_of_raised hpost _ hraised).trans ?_
    simp only [Failure.response, if_pos hreason]
  · have hnone := not_exists.mp hheld
    apply serve_of_raised hpost ⟨.permission, false⟩
    unfold authenticated
    rw [bearerCredential_of_readable hreadable hnone]
    rfl

/-- A length of too many digits is answered as a failure of the service. -/
theorem serve_of_lengthUnreadable (hpost : environ.IsPost) (h : environ.Authenticated boundary)
    (hlength : environ.LengthUnreadable) :
    serve boundary storage fresh environ s =
      (.returned ((⟨.other, false⟩ : Failure).response (correlationId fresh environ)), [], s) := by
  apply serve_of_raised hpost ⟨.other, false⟩
  obtain ⟨credential, hrun⟩ := authenticated_of_authenticated fresh h
    (environ.pathInfo.getD []).toText (correlationId fresh environ)
  rw [hrun, requestBody_of_unreadable hlength]
  rfl

/-- Every other violation is answered with a client error. -/
theorem serve_of_violated (hpost : environ.IsPost) (h : environ.Authenticated boundary)
    (hviolated : environ.Violated) (hlength : ¬ environ.LengthUnreadable) :
    ∃ response reads, serve boundary storage fresh environ s = (.returned response, reads, s) ∧
      IsClientError response.status := by
  obtain ⟨credential, hrun⟩ := authenticated_of_authenticated fresh h
    (environ.pathInfo.getD []).toText (correlationId fresh environ)
  have hrefuses : Refuses storage environ s (requestBody environ) :=
    refuses_requestBody hviolated hlength
  obtain ⟨status, code, reads, hbody, hstatus⟩ := hrefuses
  refine ⟨_, reads, serve_of_raised hpost ⟨.envelope status code, false⟩ ?_, hstatus⟩
  rw [hrun, Prog.exec_bind, hbody]

theorem not_isClientError_serviceUnavailable : ¬ IsClientError "503 Service Unavailable" := by
  rintro ⟨a, b, rest, h, -⟩
  have hhead : some '5' = some '4' := congrArg List.head? h
  exact absurd hhead (by decide)

/-- A length that cannot be read is a violation. -/
theorem violated_of_lengthUnreadable (h : environ.LengthUnreadable) : environ.Violated := by
  obtain ⟨-, digits, hdigits, -, -, hviolated⟩ := h
  refine .inr fun digits' hdigits' _ => ?_
  rw [hdigits] at hdigits'
  cases hdigits'
  exact hviolated

/-- The credential of a header without a readable scheme is not known. -/
theorem not_authenticated_of_schemeUnreadable (h : environ.SchemeUnreadable) :
    ¬ environ.Authenticated boundary := by
  rintro ⟨credential, hheld, -⟩
  have hok := bearerCredential_eq_ok.mpr hheld
  rw [bearerCredential_of_unreadable h] at hok
  cases hok

/-- A scheme that cannot be compared is not answered with 401. -/
theorem not_answered_of_schemeUnreadable (hpost : environ.IsPost) (h : environ.SchemeUnreadable) :
    ¬ EnvelopeAnswered boundary storage fresh environ s := by
  intro hanswered
  obtain ⟨response, hserve, hstatus⟩ :=
    hanswered.unknown (not_authenticated_of_schemeUnreadable h)
  rw [serve_of_schemeUnreadable hpost h] at hserve
  cases hserve
  have hstatus : "503 Service Unavailable" = "401 Unauthorized" := hstatus
  exact absurd hstatus (by decide)

/-- A length that cannot be read is not answered with a client error. -/
theorem not_answered_of_lengthUnreadable (hpost : environ.IsPost)
    (h : environ.Authenticated boundary) (hlength : environ.LengthUnreadable) :
    ¬ EnvelopeAnswered boundary storage fresh environ s := by
  intro hanswered
  obtain ⟨response, reads, hserve, hstatus⟩ :=
    hanswered.violated h (violated_of_lengthUnreadable hlength)
  rw [serve_of_lengthUnreadable hpost h hlength] at hserve
  cases hserve
  exact not_isClientError_serviceUnavailable hstatus

end Serve

/-- A call meets the property of its envelope exactly where the scheme of the header can be
compared and no known caller announces a wrong length in too many digits. -/
theorem envelopeAnswered_iff {σ : Type} {boundary : Boundary} {storage : Storage F σ}
    {fresh : Fresh} {environ : Environ} {s : σ} (hpost : environ.IsPost) :
    EnvelopeAnswered boundary storage fresh environ s ↔
      ¬ environ.SchemeUnreadable ∧
        ¬ (environ.Authenticated boundary ∧ environ.LengthUnreadable) := by
  constructor
  · intro h
    exact ⟨fun hscheme => not_answered_of_schemeUnreadable hpost hscheme h,
      fun hlength => not_answered_of_lengthUnreadable hpost hlength.1 hlength.2 h⟩
  · rintro ⟨hscheme, hlength⟩
    exact {
      unknown := fun hunknown => ⟨_, serve_of_unknown hpost hscheme hunknown, rfl⟩
      violated := fun hknown hviolated =>
        serve_of_violated hpost hknown hviolated fun hlong => hlength ⟨hknown, hlong⟩ }

/-- A registered caller, under a digest function that knows no other credential. -/
def exampleBoundary : Boundary where
  lib := plainPrimitives
  sha256 _ := zeros
  resolver := exampleResolver

/-- A firewall that has nothing to answer. -/
def idleStorage : Storage ℚ Unit where
  loadDecisionRequest _ _ := .error (.validation "REQUEST_JSON_INVALID")
  lookupRequestResult _ _ _ := (.ok none, ())
  processJson _ _ _ := (.ok (), ())
  readinessSnapshot _ := (.ok [("status", .str "READY")], ())

def exampleFresh : Fresh := ⟨"1", "2"⟩

/-- A submission with this header, this length and no body. -/
def examplePost (authorization contentLength : Latin1) : Environ where
  requestMethod := some (Latin1.ofString "POST")
  pathInfo := some (Latin1.ofString "/v1/synthetic/requests")
  queryString := some []
  xRequestId := none
  authorization := some authorization
  transferEncoding := none
  contentEncoding := none
  contentType := some (Latin1.ofString "application/json")
  contentLength := some contentLength
  input := some fun _ => .bytes []

theorem examplePost_isPost (authorization contentLength : Latin1) :
    (examplePost authorization contentLength).IsPost :=
  ⟨rfl, by rfl, .inl (by rfl)⟩

def exampleCredential : Bytes := List.replicate 43 85

theorem isBearerToken_exampleCredential : IsBearerToken exampleCredential := by
  refine ⟨by decide, by decide, fun b hb => ?_⟩
  rw [List.eq_of_mem_replicate hb]
  rfl

theorem examplePost_authenticated (contentLength : Latin1) :
    (examplePost (Latin1.ofString "Bearer" ++ 32 :: exampleCredential)
      contentLength).Authenticated exampleBoundary :=
  ⟨exampleCredential, ⟨Latin1.ofString "Bearer", rfl, by rfl, isBearerToken_exampleCredential⟩,
    by decide⟩

/-- A length of zeros in too many digits cannot be read. -/
theorem examplePost_lengthUnreadable (authorization : Latin1) {n : Nat}
    (h : Latin1.MAX_STR_DIGITS < n) :
    (examplePost authorization (List.replicate n 48)).LengthUnreadable := by
  refine ⟨?_, List.replicate n 48, rfl, Latin1.isDecimal_zeros (Nat.zero_lt_of_lt h), ?_, ?_⟩
  · rintro (htransfer | hcontent | htype)
    · exact htransfer rfl
    · exact hcontent rfl
    · exact htype (by rfl)
  · rwa [List.length_replicate]
  · exact .inl (Latin1.decimalValue_zeros n)

/-- A caller without a credential and a registered caller, both answered with 503. -/
theorem unreadable_header_unavailable :
    ¬ EnvelopeAnswered exampleBoundary idleStorage exampleFresh
        (examplePost [233, 32, 120] [50]) () ∧
      ¬ EnvelopeAnswered exampleBoundary idleStorage exampleFresh
        (examplePost (Latin1.ofString "Bearer" ++ 32 :: exampleCredential)
          (List.replicate 4301 48)) () := by
  have hscheme : (examplePost [233, 32, 120] [50]).SchemeUnreadable :=
    ⟨[233], [120], rfl, by simp [Latin1.utf8Length, MAX_AUTHORIZATION_BYTES], by simp,
      by simp [Latin1.IsAscii]⟩
  exact ⟨not_answered_of_schemeUnreadable (examplePost_isPost _ _) hscheme,
    not_answered_of_lengthUnreadable (examplePost_isPost _ _) (examplePost_authenticated _)
      (examplePost_lengthUnreadable _ (by decide))⟩

/-- A request without a scheme is one with the property. -/
theorem envelopeAnswered_example :
    EnvelopeAnswered exampleBoundary idleStorage exampleFresh (examplePost [120] [50]) () ↔
      ¬ (examplePost [120] [50]).SchemeUnreadable ∧
        ¬ ((examplePost [120] [50]).Authenticated exampleBoundary ∧
          (examplePost [120] [50]).LengthUnreadable) :=
  envelopeAnswered_iff (examplePost_isPost _ _)

end DecisionFirewall.Service
