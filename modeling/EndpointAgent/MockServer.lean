import EndpointAgent.Json.Struct
import EndpointAgent.Retry

/-!
# The mock bootstrap server

The repository's mock API server and the agent's side of the exchange with it. In
`callBootstrapAPI` the agent posts `json.Marshal` of its `BootstrapRequest`; `handleBootstrap`
decodes the body, checks the two credentials it knows, and answers with
`json.NewEncoder(w).Encode` of a `BootstrapResponse`, or with `http.Error` and a status; the
agent decodes a 200 body into its own `BootstrapResponse`.

Over the bytes on the wire, one exchange comes to the registration the server is for
(`register`): refused unless the credentials are the server's, otherwise the identity it issued,
whatever the strings of the request and of the certificates hold (`callBootstrapAPI_exchange`).
-/

set_option autoImplicit false

namespace EndpointAgent

open Json

/-! ## The agent's side -/

namespace BootstrapRequest

/-- The members `json.Marshal` writes for a request: the fields in declaration order under their
tags. -/
def members (req : BootstrapRequest) : List (String × String) :=
  [("org_id", req.orgID), ("install_token", req.installToken), ("hostname", req.hostname),
    ("os", req.os), ("arch", req.arch), ("agent_version", req.agentVersion)]

/-- `json.Marshal(req)` in `callBootstrapAPI`. -/
def marshal (req : BootstrapRequest) : Bytes := marshalStrings req.members

end BootstrapRequest

namespace BootstrapResponse

/-- The fields of `identity.BootstrapResponse` as the decoder stores them. A certificate is kept
as the bytes `saveCertificates` writes; `Policy` and `ExpiresAt` are decoded but not kept, since
nothing of the agent reads them. -/
def fields : List (StringField BootstrapResponse) :=
  [⟨"agent_id", fun resp s => { resp with agentID := s }⟩,
    ⟨"api_base_url", fun resp s => { resp with apiBaseURL := s }⟩,
    ⟨"certificate", fun resp s => { resp with certificate := Utf8.encode s.data }⟩,
    ⟨"private_key", fun resp s => { resp with privateKey := Utf8.encode s.data }⟩,
    ⟨"ca_cert", fun resp s => { resp with caCert := Utf8.encode s.data }⟩,
    ⟨"policy", fun resp _ => resp⟩,
    ⟨"expires_at", fun resp _ => resp⟩]

/-- The zero response `callBootstrapAPI` decodes into. -/
def zero : BootstrapResponse := ⟨"", "", [], [], []⟩

/-- `json.NewDecoder(httpResp.Body).Decode(&resp)`. -/
def decode (body : Bytes) : Except GoError BootstrapResponse :=
  decodeStruct "BootstrapResponse" "identity.BootstrapResponse" fields zero body

end BootstrapResponse

/-- `string(bodyBytes)`. Go keeps the bytes as they are; every body the mock server writes is
UTF-8, which decoding keeps as it is. -/
def bodyText (body : Bytes) : String := String.mk (Utf8.decode body)

/-! ## The server -/

namespace MockServer

/-- The server's `BootstrapResponse`. -/
structure BootstrapResponse where
  agentID : String
  apiBaseURL : String
  certificate : String
  privateKey : String
  caCert : String
  policy : String
  expiresAt : String

/-- The members `json.Marshal` writes for a response. -/
def BootstrapResponse.members (resp : BootstrapResponse) : List (String × String) :=
  [("agent_id", resp.agentID), ("api_base_url", resp.apiBaseURL), ("certificate", resp.certificate),
    ("private_key", resp.privateKey), ("ca_cert", resp.caCert), ("policy", resp.policy),
    ("expires_at", resp.expiresAt)]

/-- The fields of the server's `BootstrapRequest`, which has the agent's tags. -/
def requestFields : List (StringField BootstrapRequest) :=
  [⟨"org_id", fun req s => { req with orgID := s }⟩,
    ⟨"install_token", fun req s => { req with installToken := s }⟩,
    ⟨"hostname", fun req s => { req with hostname := s }⟩,
    ⟨"os", fun req s => { req with os := s }⟩,
    ⟨"arch", fun req s => { req with arch := s }⟩,
    ⟨"agent_version", fun req s => { req with agentVersion := s }⟩]

/-- The zero request the handler decodes into. -/
def zeroRequest : BootstrapRequest := ⟨"", "", "", "", "", ""⟩

/-- `json.NewDecoder(r.Body).Decode(&req)`. -/
def decodeRequest (body : Bytes) : Except GoError BootstrapRequest :=
  decodeStruct "BootstrapRequest" "main.BootstrapRequest" requestFields zeroRequest body

/-- What the handler meets besides the request. -/
structure ServerEnv where
  /-- `time.Now().Unix()` when the agent ID is made. -/
  unix : Int
  /-- `expiresAt.Format(time.RFC3339)`, a year after the request. -/
  expiresAt : String
  /-- `generateMockCertificates(agentID)`: the PEM texts of the agent certificate, of its key
  and of the CA certificate. -/
  certificates : String → Except GoError (String × String × String)

/-- What the handler writes: a status and a body. -/
structure Reply where
  status : Nat
  body : Bytes

/-- `http.Error(w, message, code)`: the message on a line of its own. -/
def httpError (message : String) (code : Nat) : Reply := ⟨code, Utf8.encode (message ++ "\n").data⟩

/-- `json.NewEncoder(w).Encode(resp)` as the first write: status 200, the encoding and a
newline. -/
def encodeResponse (resp : BootstrapResponse) : Reply := ⟨200, marshalStrings resp.members ++ [ascii '\n']⟩

/-- `handleBootstrap`. -/
def handleBootstrap (srv : ServerEnv) (method : String) (body : Bytes) : Reply :=
  if method ≠ "POST" then httpError "Method not allowed" 405
  else
    match decodeRequest body with
    | .error _ => httpError "Invalid request body" 400
    | .ok req =>
      if req.orgID ≠ "test-org" then httpError "Invalid organization ID" 401
      else if req.installToken ≠ "test-token-123" then httpError "Invalid install token" 401
      else
        let agentID := "agent-" ++ toString srv.unix
        match srv.certificates agentID with
        | .error _ => httpError "Internal server error" 500
        | .ok (cert, key, caCert) =>
          encodeResponse ⟨agentID, "http://localhost:8080", cert, key, caCert,
            "\x7b\"version\": \"1.0\", \"rules\": []\x7d", srv.expiresAt⟩

/-- One `callBootstrapAPI` answered by the mock server: the status, the body as text, and the
body decoded into the agent's response. -/
def exchange (srv : ServerEnv) (req : BootstrapRequest) : BootstrapOutcome :=
  let reply := handleBootstrap srv "POST" req.marshal
  .answered reply.status (bodyText reply.body) (EndpointAgent.BootstrapResponse.decode reply.body)

/-! ## The registration -/

/-- The identity the server issues to an agent, as the agent keeps it. -/
def issued (agentID cert key caCert : String) : EndpointAgent.BootstrapResponse :=
  ⟨agentID, "http://localhost:8080", Utf8.encode cert.data, Utf8.encode key.data, Utf8.encode caCert.data⟩

/-- What registering with the mock server comes to: refused unless the credentials are the
server's, otherwise the identity issued under an agent ID made from the server's clock. -/
def register (srv : ServerEnv) (req : BootstrapRequest) : Except GoError EndpointAgent.BootstrapResponse :=
  if req.orgID ≠ "test-org" then .error (bootstrapRefusal 401 "Invalid organization ID\n")
  else if req.installToken ≠ "test-token-123" then .error (bootstrapRefusal 401 "Invalid install token\n")
  else
    match srv.certificates ("agent-" ++ toString srv.unix) with
    | .error _ => .error (bootstrapRefusal 500 "Internal server error\n")
    | .ok (cert, key, caCert) => .ok (issued ("agent-" ++ toString srv.unix) cert key caCert)

/-- The server reads back every field the agent sent. -/
private theorem decodeRequest_marshal (req : BootstrapRequest) : decodeRequest req.marshal = .ok req := by
  rw [decodeRequest, BootstrapRequest.marshal, ← List.append_nil (marshalStrings _),
    decodeStruct_marshalStrings _ _ _ _ _ (fun _ mem => by cases mem)]
  simp [requestFields, storeString, findField, BootstrapRequest.members, zeroRequest]

/-- The agent reads back the identity the server encoded. -/
private theorem decode_encodeResponse (resp : BootstrapResponse) :
    EndpointAgent.BootstrapResponse.decode (encodeResponse resp).body =
      .ok ⟨resp.agentID, resp.apiBaseURL, Utf8.encode resp.certificate.data, Utf8.encode resp.privateKey.data,
        Utf8.encode resp.caCert.data⟩ := by
  rw [EndpointAgent.BootstrapResponse.decode, encodeResponse,
    decodeStruct_marshalStrings _ _ _ _ _ (fun _ mem => by cases mem; exact .inr (.inr (.inr rfl)))]
  rfl

private theorem bodyText_httpError (message : String) (code : Nat) : bodyText (httpError message code).body = message ++ "\n" := by
  rw [bodyText, httpError, Utf8.decode_encode]

/-- An `http.Error` answer other than 200 is refused with its status and message. -/
private theorem callBootstrapAPI_httpError {message : String} {code : Nat} (refused : code ≠ 200)
    (decoded : Except GoError EndpointAgent.BootstrapResponse) :
    callBootstrapAPI (.answered (httpError message code).status (bodyText (httpError message code).body) decoded) =
      .error (bootstrapRefusal code (message ++ "\n")) := by
  rw [bodyText_httpError]
  simp [callBootstrapAPI, httpError, refused, bootstrapRefusal]

/-- The handler on the agent's request: the credentials, then the certificates. -/
private theorem handleBootstrap_marshal (srv : ServerEnv) (req : BootstrapRequest) :
    handleBootstrap srv "POST" req.marshal =
      if req.orgID ≠ "test-org" then httpError "Invalid organization ID" 401
      else if req.installToken ≠ "test-token-123" then httpError "Invalid install token" 401
      else
        match srv.certificates ("agent-" ++ toString srv.unix) with
        | .error _ => httpError "Internal server error" 500
        | .ok (cert, key, caCert) =>
          encodeResponse ⟨"agent-" ++ toString srv.unix, "http://localhost:8080", cert, key, caCert,
            "\x7b\"version\": \"1.0\", \"rules\": []\x7d", srv.expiresAt⟩ := by
  rw [handleBootstrap, if_neg (not_not.mpr rfl), decodeRequest_marshal]

/-- One exchange with the mock server, over the bytes on the wire, is the registration: the
agent's strings reach the server and the server's strings reach the agent unchanged. -/
theorem callBootstrapAPI_exchange (srv : ServerEnv) (req : BootstrapRequest) :
    callBootstrapAPI (exchange srv req) = register srv req := by
  rw [exchange, handleBootstrap_marshal, register]
  by_cases org : req.orgID = "test-org"
  · by_cases token : req.installToken = "test-token-123"
    · simp only [org, token, ne_eq, not_true_eq_false, if_false]
      cases srv.certificates ("agent-" ++ toString srv.unix) with
      | error err => exact callBootstrapAPI_httpError (by decide) _
      | ok pems =>
        obtain ⟨cert, key, caCert⟩ := pems
        dsimp only
        rw [decode_encodeResponse]
        simp [encodeResponse, callBootstrapAPI, issued]
    · simp only [org, token, ne_eq, not_true_eq_false, not_false_eq_true, if_false, if_true]
      exact callBootstrapAPI_httpError (by decide) _
  · simp only [org, ne_eq, not_false_eq_true, if_true]
    exact callBootstrapAPI_httpError (by decide) _

end MockServer

end EndpointAgent
