import EvoomGuard.RoundLedger.Errors

/-!
`append_exact_request`: one POST of the retained bytes and the class of its outcome. The transport
and the splitting of a URL are arguments. A success or conflict response outside the wire contract
is not reported as an unknown commit state.
-/

namespace EvoomGuard.RoundLedger

open Lib Lib.Checks Lib.Framing
open EvoomGuard.RemoteSigner (hasExactly isText)

/-- What `urllib.parse.urlsplit` finds in a URL; reading the port may raise. -/
structure SplitUrl where
  scheme : Text
  netloc : Text
  hostname : Option Text
  port : Option (Option Nat)
  path : Text
  query : Text
  fragment : Text
  username : Option Text
  password : Option Text

def isPlainHttps (endpoint : Text) (parsed : SplitUrl) : Bool :=
  parsed.scheme == "https" && !(parsed.hostname.getD []).isEmpty && parsed.query.isEmpty &&
    parsed.fragment.isEmpty && parsed.username.isNone && parsed.password.isNone &&
    !endpoint.contains '%' && !endpoint.contains '\\'

def hasUnsafeSegments (path : Text) : Bool :=
  (path.zip (path.drop 1)).contains ('/', '/') ||
    (Text.split '/' path).any fun part => part == "." || part == ".."

def validateEndpoint (endpoint : Text) (parsed : SplitUrl) :
    Except LedgerClientError (Text × Text) := do
  refuse (parsed.port = none ∨ parsed.port = some (some 0))
    (protocolError "ledger endpoint port is invalid")
  refuse (isPlainHttps endpoint parsed = false)
    (protocolError "ledger endpoint must be a plain https URL")
  refuse (hasUnsafeSegments parsed.path = true)
    (protocolError "ledger endpoint path contains unsafe segments")
  refuse (parsed.path ≠ "/transitions" ∧ parsed.path ≠ "/v1/transitions")
    (protocolError "ledger endpoint path must be /transitions or /v1/transitions")
  return ("https://" ++ parsed.netloc, "/v1")

structure HttpResponse where
  status : Int
  headers : List (Text × Text)
  body : Bytes

def resultHeader : Text := "x-evoom-ledger-result"

def proofLevelHeader : Text := "x-evoom-ledger-proof-level"

def referenceProofLevel : Text := "reference-pilot"

def conflictCodes : List Text :=
  names ["idempotency_mismatch", "signer_mismatch", "cas_conflict", "slot_conflict"]

/-- The first header that an earlier one already names. -/
def repeatedHeader : List Text → List (Text × Text) → Option Text
  | _, [] => none
  | seen, (name, _) :: rest =>
    if seen.contains name then some name else repeatedHeader (name :: seen) rest

def headerMap (response : HttpResponse) : Except LedgerClientError (List (Text × Text)) :=
  match repeatedHeader [] response.headers with
  | some name => .error (.protocol ("duplicate response header: " ++ name))
  | none => .ok response.headers

def requireCommonHeaders (headers : List (Text × Text)) (body : Bytes) :
    Except LedgerClientError Unit := do
  refuse (headers.lookup "content-type".toList ≠ some "application/json".toList)
    (protocolError "ledger response content-type is invalid")
  refuse (headers.lookup "cache-control".toList ≠ some "no-store".toList)
    (protocolError "ledger response cache-control is invalid")
  refuse (headers.lookup proofLevelHeader ≠ some referenceProofLevel)
    (protocolError "ledger response proof-level header is invalid")
  let length := headers.lookup "content-length".toList
  refuse (length.isSome = true ∧ length ≠ some (JsonCodec.natText body.length))
    (protocolError "ledger response content-length is inconsistent")

section Exchange

variable (readFloat : Text → Rat) (floatText : Rat → Text)

def errorBody (body : Bytes) : Except LedgerClientError (Text × Text) := do
  let document ← parseCanonicalDocument readFloat "error body" maxResponseBytes body
  refuse ((hasExactly (names ["error", "proof_level"]) document &&
    isText referenceProofLevel (entry document "proof_level")) = false)
    (protocolError "ledger error body shape is invalid")
  match entry document "error" with
  | .object error => do
      refuse (hasExactly (names ["code", "message"]) error = false)
        (protocolError "ledger error body shape is invalid")
      let code ← textField (fun _ => true) "ledger error body shape is invalid" (entry error "code")
      let message ← textField (fun _ => true) "ledger error body shape is invalid"
        (entry error "message")
      let written ← canonicalJsonBytes floatText (.object document)
      refuse (body ≠ written) (protocolError "ledger error body is not canonical")
      return (code, message)
  | _ => .error (protocolError "ledger error body shape is invalid")

/-- 4xx statuses are definite non-commits, except the retryable trio. -/
def isDefiniteRejection (status : Int) : Bool :=
  decide (400 ≤ status ∧ status ≤ 499) && !(status == 408 || status == 425 || status == 429)

def rejectionDetail (response : HttpResponse) : Text :=
  match errorBody readFloat floatText response.body with
  | .ok (code, message) => code ++ ": " ++ message
  | .error _ => "http " ++ JsonCodec.intText response.status

/-- A definitively committed transition. -/
structure AppendOutcome where
  created : Bool
  receiptBytes : Bytes

def expectedMarker (status : Int) : Text :=
  if status = 201 then "created" else "replayed"

variable (key : PinnedKey) (requestBytes : Bytes)

def acceptSuccess (response : HttpResponse) : Except LedgerClientError AppendOutcome := do
  let headers ← headerMap response
  requireCommonHeaders headers response.body
  refuse (headers.lookup resultHeader ≠ some (expectedMarker response.status))
    (protocolError "ledger result marker is inconsistent")
  let _ ← verifyReceipt readFloat floatText key response.body requestBytes
  return ⟨response.status == 201, response.body⟩

def readConflict (response : HttpResponse) : Except LedgerClientError (Text × Text) := do
  let headers ← headerMap response
  requireCommonHeaders headers response.body
  refuse ((headers.lookup resultHeader).isSome = true)
    (protocolError "conflict responses never carry a result marker")
  let (code, message) ← errorBody readFloat floatText response.body
  refuse (code ∉ conflictCodes) (.protocol ("unknown ledger conflict code: " ++ code))
  return (code, message)

/-- The outcome of one exchange; a transport that raised leaves the text of its exception. -/
def classify : Except Text HttpResponse → Except LedgerClientError AppendOutcome
  | .error failure => .error (.ambiguous ("transport failure: " ++ failure))
  | .ok response =>
    if response.status = 200 ∨ response.status = 201 then
      acceptSuccess readFloat floatText key requestBytes response
    else if response.status = 409 then
      match readConflict readFloat floatText response with
      | .ok (code, message) => .error (.conflict code message)
      | .error problem => .error problem
    else if isDefiniteRejection response.status then
      .error (.rejected (rejectionDetail readFloat floatText response))
    else
      .error (.ambiguous ("unexpected ledger response status " ++
        JsonCodec.intText response.status))

structure SentRequest where
  method : Text
  url : Text
  headers : List (Text × Text)
  body : Bytes

inductive AppendError where
  | client (error : LedgerClientError)
  | invalidUrl

variable (urlsplit : Text → Option SplitUrl) (transport : SentRequest → Except Text HttpResponse)
  (endpoint : Text)

def textOf : Json → Text
  | .string text => text
  | _ => []

/-- What is handed to the transport, unless the request or the endpoint is refused before. -/
def prepareRequest : Except AppendError SentRequest :=
  match parseCanonicalRequest readFloat floatText requestBytes with
  | .error problem => .error (.client problem)
  | .ok request =>
    match urlsplit endpoint with
    | none => .error .invalidUrl
    | some parsed =>
      match validateEndpoint endpoint parsed with
      | .error problem => .error (.client problem)
      | .ok _ => .ok
          { method := "POST"
            url := endpoint
            headers := [("Accept", "application/json"),
              ("Content-Type", "application/json"),
              ("Idempotency-Key", textOf (entry request "idempotency_key")),
              ("Content-Length", JsonCodec.natText requestBytes.length)]
            body := requestBytes }

def appendExactRequest : Except AppendError AppendOutcome :=
  match prepareRequest readFloat floatText requestBytes urlsplit endpoint with
  | .error problem => .error problem
  | .ok sent =>
    match classify readFloat floatText key requestBytes (transport sent) with
    | .error problem => .error (.client problem)
    | .ok outcome => .ok outcome

end Exchange

section

variable (readFloat : Text → Rat) (floatText : Rat → Text) (key : PinnedKey) (requestBytes : Bytes)

/-- A verified outcome, a definite refusal, or an unknown commit state. -/
inductive Settled (exchange : Except Text HttpResponse) :
    Except LedgerClientError AppendOutcome → Prop where
  | committed (response : HttpResponse) (outcome : AppendOutcome) (receipt : List (Text × Json)) :
      exchange = .ok response → outcome.receiptBytes = response.body →
        verifyReceipt readFloat floatText key outcome.receiptBytes requestBytes = .ok receipt →
          Settled exchange (.ok outcome)
  | conflict (response : HttpResponse) (code message : Text) : exchange = .ok response →
      400 ≤ response.status ∧ response.status ≤ 499 → Settled exchange (.error (.conflict code message))
  | rejected (response : HttpResponse) (message : Text) : exchange = .ok response →
      400 ≤ response.status ∧ response.status ≤ 499 → Settled exchange (.error (.rejected message))
  | ambiguous (message : Text) : Settled exchange (.error (.ambiguous message))

/-- Every header named once, the common headers, and the marker the status calls for. -/
def markedAs (marker : Option Text) (response : HttpResponse) : Prop :=
  repeatedHeader [] response.headers = none ∧
    requireCommonHeaders response.headers response.body = .ok () ∧
      response.headers.lookup resultHeader = marker

/-- A response inside the wire contract: a 200 or 201 with a receipt of the retained request, a 409
with a canonical error body of a known code; nothing is asked of other responses. -/
def InContract (response : HttpResponse) : Prop :=
  (response.status = 200 ∨ response.status = 201 →
    markedAs (some (expectedMarker response.status)) response ∧
      ∃ receipt, verifyReceipt readFloat floatText key response.body requestBytes = .ok receipt) ∧
  (response.status = 409 → markedAs none response ∧
    ∃ code message, errorBody readFloat floatText response.body = .ok (code, message) ∧
      code ∈ conflictCodes)

variable (response : HttpResponse)

theorem header_map_ok (headers : List (Text × Text)) :
    headerMap response = .ok headers ↔
      repeatedHeader [] response.headers = none ∧ headers = response.headers := by
  unfold headerMap
  cases repeatedHeader [] response.headers with
  | some name => simp
  | none => simp [eq_comm]

theorem accept_success_ok (outcome : AppendOutcome) :
    acceptSuccess readFloat floatText key requestBytes response = .ok outcome ↔
      markedAs (some (expectedMarker response.status)) response ∧
        (∃ receipt, verifyReceipt readFloat floatText key response.body requestBytes = .ok receipt) ∧
          outcome = ⟨response.status == 201, response.body⟩ := by
  unfold acceptSuccess markedAs
  simp only [bind_ok, pure_ok, refuse_ok, header_map_ok, not_not]
  constructor
  · intro accepted
    rcases accepted with ⟨headers, ⟨distinct, same⟩, _, common, _, marker, receipt, verified, made⟩
    subst same
    exact ⟨⟨distinct, common, marker⟩, ⟨receipt, verified⟩, made.symm⟩
  · intro accepted
    rcases accepted with ⟨⟨distinct, common, marker⟩, ⟨receipt, verified⟩, made⟩
    exact ⟨_, ⟨distinct, rfl⟩, (), common, (), marker, receipt, verified, made.symm⟩

theorem read_conflict_ok (code message : Text) :
    readConflict readFloat floatText response = .ok (code, message) ↔
      markedAs none response ∧ errorBody readFloat floatText response.body = .ok (code, message) ∧
        code ∈ conflictCodes := by
  unfold readConflict markedAs
  simp only [bind_ok, pure_ok, refuse_ok, header_map_ok, not_not, Bool.not_eq_true,
    Option.isSome_eq_false_iff, Option.isNone_iff_eq_none]
  constructor
  · intro read
    rcases read with ⟨headers, ⟨distinct, same⟩, _, common, _, marker, ⟨otherCode, otherMessage⟩,
      named, _, known, made⟩
    subst same
    cases made
    exact ⟨⟨distinct, common, marker⟩, named, known⟩
  · intro read
    rcases read with ⟨⟨distinct, common, marker⟩, named, known⟩
    exact ⟨_, ⟨distinct, rfl⟩, (), common, (), marker, (code, message), named, (), known, rfl⟩

theorem header_map_raises :
    Raises LedgerClientError.isDocument (headerMap response) := by
  unfold headerMap
  split
  · exact raises_error trivial
  · exact raises_ok _

theorem common_headers_raises (headers : List (Text × Text)) (body : Bytes) :
    Raises LedgerClientError.isDocument (requireCommonHeaders headers body) := by
  unfold requireCommonHeaders
  refine raises_bind (raises_refuse trivial) ?_
  intro _
  refine raises_bind (raises_refuse trivial) ?_
  intro _
  exact raises_bind (raises_refuse trivial) fun _ => raises_refuse trivial

theorem accept_success_raises :
    Raises LedgerClientError.isDocument
      (acceptSuccess readFloat floatText key requestBytes response) := by
  unfold acceptSuccess
  apply raises_bind (header_map_raises response)
  intro headers
  apply raises_bind (common_headers_raises headers response.body)
  intro _
  refine raises_bind (raises_refuse trivial) ?_
  intro _
  exact raises_bind (verify_receipt_raises _ _ _ _ _) fun _ => raises_pure _

theorem error_body_raises (body : Bytes) :
    Raises LedgerClientError.isDocument (errorBody readFloat floatText body) := by
  apply raises_document
  unfold errorBody
  apply raises_bind (document_raises _ _ _ _)
  intro document
  refine raises_bind (raises_refuse trivial) ?_
  intro _
  split
  · refine raises_bind (raises_refuse trivial) ?_
    intro _
    apply raises_bind (text_field_raises _ _ _)
    intro code
    apply raises_bind (text_field_raises _ _ _)
    intro message
    apply raises_bind (canonical_raises _ _)
    intro written
    exact raises_bind (raises_refuse trivial) fun _ => raises_pure _
  · exact raises_error trivial

theorem read_conflict_raises :
    Raises LedgerClientError.isDocument (readConflict readFloat floatText response) := by
  unfold readConflict
  apply raises_bind (header_map_raises response)
  intro headers
  apply raises_bind (common_headers_raises headers response.body)
  intro _
  refine raises_bind (raises_refuse trivial) ?_
  intro _
  apply raises_bind (error_body_raises _ _ _)
  intro named
  exact raises_bind (raises_refuse trivial) fun _ => raises_pure _

theorem settled_no_document (exchange : Except Text HttpResponse) (problem : LedgerClientError)
    (settled : Settled readFloat floatText key requestBytes exchange (.error problem)) :
    ¬problem.isDocument := by
  cases settled <;> exact id

theorem classify_settled_iff (exchange : Except Text HttpResponse) :
    Settled readFloat floatText key requestBytes exchange
        (classify readFloat floatText key requestBytes exchange) ↔
      ∀ response, exchange = .ok response →
        InContract readFloat floatText key requestBytes response := by
  cases exchange with
  | error failure =>
    simp only [reduceCtorEq, false_implies, implies_true, iff_true]
    exact .ambiguous _
  | ok response =>
    simp only [Except.ok.injEq, forall_eq', classify]
    split
    · next success =>
        have other : response.status ≠ 409 := by omega
        simp only [InContract, success, other, forall_const, false_implies, and_true]
        constructor
        · intro settled
          cases accepted : acceptSuccess readFloat floatText key requestBytes response with
          | error problem =>
            rw [accepted] at settled
            exact absurd (accept_success_raises _ _ _ _ response problem accepted)
              (settled_no_document _ _ _ _ _ problem settled)
          | ok outcome =>
            have facts := (accept_success_ok _ _ _ _ response outcome).mp accepted
            exact ⟨facts.1, facts.2.1⟩
        · intro conforming
          have accepted := (accept_success_ok readFloat floatText key requestBytes response
            ⟨response.status == 201, response.body⟩).mpr ⟨conforming.1, conforming.2, rfl⟩
          rcases conforming.2 with ⟨receipt, verified⟩
          rw [accepted]
          exact .committed response _ receipt rfl rfl verified
    · next other =>
        split
        · next conflict =>
            have refusal : 400 ≤ response.status ∧ response.status ≤ 499 := by omega
            have asked : InContract readFloat floatText key requestBytes response ↔
                markedAs none response ∧ ∃ code message,
                  errorBody readFloat floatText response.body = .ok (code, message) ∧
                    code ∈ conflictCodes :=
              ⟨fun conforming => conforming.2 conflict,
                fun conforming => ⟨fun success => absurd success other, fun _ => conforming⟩⟩
            rw [asked]
            cases read : readConflict readFloat floatText response with
            | error problem =>
              constructor
              · intro settled
                exact absurd (read_conflict_raises _ _ response problem read)
                  (settled_no_document _ _ _ _ _ problem settled)
              · intro conforming
                rcases conforming with ⟨marked, code, message, named, known⟩
                rw [(read_conflict_ok _ _ response code message).mpr
                  ⟨marked, named, known⟩] at read
                cases read
            | ok named =>
              rcases named with ⟨code, message⟩
              have facts := (read_conflict_ok _ _ response code message).mp read
              constructor
              · intro _
                exact ⟨facts.1, code, message, facts.2⟩
              · intro _
                exact .conflict response code message rfl refusal
        · next noConflict =>
            simp only [InContract, other, noConflict, false_implies, and_self, iff_true]
            split
            · next definite =>
                rw [isDefiniteRejection, Bool.and_eq_true, decide_eq_true_iff] at definite
                exact .rejected response _ rfl definite.1
            · exact .ambiguous _

end

def sampleDigest : Text := List.replicate 64 '0'

def sampleTransition : List (Text × Json) :=
  [("compare_and_swap", .object [("expected_previous_receipt_sha256", .null),
      ("expected_sequence", .int 0)]),
    ("idempotency_key", .string sampleDigest),
    ("input_sha256", .string sampleDigest),
    ("ledger_id", .string "field-ledger"),
    ("previous_state", .null),
    ("schema_version", .string requestSchema),
    ("signature_domain", .string signatureDomain),
    ("signature_purpose", .string signaturePurpose),
    ("slot_id", .string sampleDigest),
    ("state", .string "RESERVED")]

def sampleText : Text := JsonCodec.dumps false (fun _ => []) (.object sampleTransition)

def sampleEndpoint : Text := "https://ledger.example/v1/transitions"

def sampleUrl : SplitUrl where
  scheme := "https"
  netloc := "ledger.example"
  hostname := some "ledger.example"
  port := some none
  path := "/v1/transitions"
  query := []
  fragment := []
  username := none
  password := none

theorem sample_document :
    parseCanonicalDocument (fun _ => 0) "request" maxRequestBytes (utf8 sampleText) =
      .ok sampleTransition := by
  have sorted : JsonCodec.sortKeys (.object sampleTransition) = .object sampleTransition := rfl
  have plain : JsonCodec.plain (fun value => value == 0) (.object sampleTransition) = true := by
    decide +kernel
  have zero : ∀ value : Int, (value == 0) = true →
      (numberHooks fun _ => 0).parseInt (JsonCodec.intText value) = .ok value := by
    intro value known
    rw [beq_iff_eq] at known
    subst known
    rfl
  have loaded : JsonCodec.loads (numberHooks fun _ => 0) sampleText =
      .ok (.object sampleTransition) := by
    have read := @JsonCodec.loads_encode false (fun _ => []) _ _ zero _ plain [] rfl
    rw [List.append_nil] at read
    rw [sampleText, JsonCodec.dumps, sorted]
    exact read
  have bounds : ((utf8 sampleText).isEmpty ||
      decide (maxRequestBytes < (utf8 sampleText).length)) = false := by
    decide +kernel
  unfold parseCanonicalDocument
  rw [bounds, utf8_decode_encode]
  simp only [Bool.false_eq_true, if_false]
  rw [loaded]

theorem sample_parsed :
    parseCanonicalRequest (fun _ => 0) (fun _ => []) (utf8 sampleText) = .ok sampleTransition := by
  have validated : validateRequest (fun _ => []) sampleTransition = .ok () := by
    cases checked : validateRequest (fun _ => []) sampleTransition with
    | ok done => rfl
    | error problem =>
      have passes : (validateRequest (fun _ => []) sampleTransition).isOk = true := by
        decide +kernel
      rw [checked] at passes
      cases passes
  have valid : validateJsonValue 0 (.object sampleTransition) = .ok () := rfl
  unfold parseCanonicalRequest
  simp only [bind_ok, pure_ok, refuse_ok, not_not]
  refine ⟨sampleTransition, sample_document, (), validated, utf8 sampleText, ?_, (), rfl, rfl⟩
  unfold canonicalJsonBytes
  rw [valid]
  rfl

variable (readFloat : Text → Rat) (floatText : Rat → Text) (urlsplit : Text → Option SplitUrl)

theorem prepare_ok (requestBytes : Bytes) (endpoint : Text)
    (request : List (Text × Json)) (parsed : SplitUrl) (origin : Text × Text)
    (read : parseCanonicalRequest readFloat floatText requestBytes = .ok request)
    (located : urlsplit endpoint = some parsed)
    (accepted : validateEndpoint endpoint parsed = .ok origin) :
    ∃ sent, prepareRequest readFloat floatText requestBytes urlsplit endpoint = .ok sent := by
  unfold prepareRequest
  rw [read, located]
  simp only
  rw [accepted]
  exact ⟨_, rfl⟩

theorem sample_prepared : ∃ sent, prepareRequest (fun _ => 0) (fun _ => []) (utf8 sampleText)
    (fun _ => some sampleUrl) sampleEndpoint = .ok sent :=
  prepare_ok _ _ _ _ _ _ sampleUrl _ sample_parsed rfl rfl

/-- Once the request is handed to the transport, the call ends in a verified outcome, a definite
refusal or an unknown commit state exactly when the transport raises or answers inside the
contract. -/
theorem append_settled_iff (key : PinnedKey)
    (transport : SentRequest → Except Text HttpResponse) (requestBytes : Bytes) (endpoint : Text)
    (sent : SentRequest)
    (handed : prepareRequest readFloat floatText requestBytes urlsplit endpoint = .ok sent) :
    (∃ result, Settled readFloat floatText key requestBytes (transport sent) result ∧
      appendExactRequest readFloat floatText key requestBytes urlsplit transport endpoint =
        result.mapError .client) ↔
      ∀ response, transport sent = .ok response →
        InContract readFloat floatText key requestBytes response := by
  rw [← classify_settled_iff]
  have called : appendExactRequest readFloat floatText key requestBytes urlsplit transport endpoint =
      (classify readFloat floatText key requestBytes (transport sent)).mapError .client := by
    unfold appendExactRequest
    rw [handed]
    simp only
    cases classify readFloat floatText key requestBytes (transport sent) <;> rfl
  rw [called]
  constructor
  · intro settled
    rcases settled with ⟨result, known, same⟩
    have equal : classify readFloat floatText key requestBytes (transport sent) = result := by
      cases classified : classify readFloat floatText key requestBytes (transport sent) with
      | error problem =>
        rw [classified] at same
        cases result with
        | error other =>
          cases same
          rfl
        | ok outcome => cases same
      | ok outcome =>
        rw [classified] at same
        cases result with
        | error other => cases same
        | ok other =>
          cases same
          rfl
    rw [equal]
    exact known
  · intro settled
    exact ⟨_, settled, rfl⟩

def lostReply : SentRequest → Except Text HttpResponse := fun _ => .error "timed out"

theorem lost_reply_is_settled : ∃ sent, prepareRequest (fun _ => 0) (fun _ => [])
    (utf8 sampleText) (fun _ => some sampleUrl) sampleEndpoint = .ok sent ∧
      ∃ result, Settled (fun _ => 0) (fun _ => []) ⟨[], fun _ _ => true⟩ (utf8 sampleText)
        (lostReply sent) result ∧
          appendExactRequest (fun _ => 0) (fun _ => []) ⟨[], fun _ _ => true⟩ (utf8 sampleText)
            (fun _ => some sampleUrl) lostReply sampleEndpoint = result.mapError .client := by
  rcases sample_prepared with ⟨sent, handed⟩
  refine ⟨sent, handed, ?_⟩
  rw [append_settled_iff _ _ _ _ _ _ _ sent handed]
  intro response answered
  cases answered

/-- A 201 whose headers are lost, as behind a rewriting proxy. -/
def bareCreated : SentRequest → Except Text HttpResponse := fun _ => .ok ⟨201, [], []⟩

theorem bare_created_raises (key : PinnedKey) (requestBytes : Bytes) (endpoint : Text)
    (sent : SentRequest)
    (handed : prepareRequest readFloat floatText requestBytes urlsplit endpoint = .ok sent) :
    appendExactRequest readFloat floatText key requestBytes urlsplit bareCreated endpoint =
      .error (.client (protocolError "ledger response content-type is invalid")) := by
  unfold appendExactRequest
  rw [handed]
  rfl

theorem bare_created_is_a_protocol_error : ∃ sent, prepareRequest (fun _ => 0) (fun _ => [])
    (utf8 sampleText) (fun _ => some sampleUrl) sampleEndpoint = .ok sent ∧
      bareCreated sent = .ok ⟨201, [], []⟩ ∧
      appendExactRequest (fun _ => 0) (fun _ => []) ⟨[], fun _ _ => true⟩ (utf8 sampleText)
        (fun _ => some sampleUrl) bareCreated sampleEndpoint =
          .error (.client (protocolError "ledger response content-type is invalid")) ∧
      ¬∃ result, Settled (fun _ => 0) (fun _ => []) ⟨[], fun _ _ => true⟩ (utf8 sampleText)
        (bareCreated sent) result ∧
          appendExactRequest (fun _ => 0) (fun _ => []) ⟨[], fun _ _ => true⟩ (utf8 sampleText)
            (fun _ => some sampleUrl) bareCreated sampleEndpoint = result.mapError .client := by
  rcases sample_prepared with ⟨sent, handed⟩
  have raised := bare_created_raises _ _ _ ⟨[], fun _ _ => true⟩ _ _ sent handed
  refine ⟨sent, handed, rfl, raised, ?_⟩
  intro settled
  rcases settled with ⟨result, known, same⟩
  rw [raised] at same
  cases result with
  | ok outcome => cases same
  | error problem =>
    cases same
    exact settled_no_document _ _ _ _ _ _ known trivial

end EvoomGuard.RoundLedger
