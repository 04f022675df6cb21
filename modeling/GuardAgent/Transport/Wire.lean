import GuardAgent.Config
import GuardAgent.Encryption
import GuardAgent.Foundation.Halving
import GuardAgent.Foundation.Program
import GuardAgent.Utils

/-!
# Requests, responses and the operations of the transport

What the transport asks of its surroundings: the local limiter, the breaker, the
HTTP client, its counters, the error hook, the clock and the random source. A
request and a body also record the items they carry, which no code reads.
-/

namespace GuardAgent

open Foundation

/-- What the transport takes from crates besides the encryption: serialization,
compression, HMAC-SHA256, the parser of acknowledgements, the debug rendering of
strings, the header check and the construction of the HTTP client. -/
structure Crates extends CipherSuite where
  toVec : Value → Bytes
  gzip : Bytes → Bytes
  hmac : Bytes → Bytes → Bytes
  parseAck : String → Option TelemetryAck
  debugText : String → String
  headerValid : String → Bool
  buildClient : Except String Unit

def agentVersion : String := "3.2.2"

/-- A serialized body; `carried` is ghost. -/
structure Body (Item : Type) where
  bytes : Bytes
  carried : List Item

/-- A `POST` request; `carried` is ghost. -/
structure Request (Item : Type) where
  url : String
  wireBody : Bytes
  gzipped : Bool
  signature : Option String
  carried : List Item

/-- What the HTTP client reports for a request: that no response arrived, or a
response whose body could be read or not. -/
inductive HttpReply where
  | clientError (message : String)
  | response (status : ℕ) (retryAfter : Option String) (body : Except String String)

/-- The operations of the transport. -/
inductive TransportOp (Item : Type) where
  /-- `RateLimiter::acquire`. -/
  | acquire
  /-- `RateLimiter::retry_after`. -/
  | retryAfter
  /-- `CircuitBreaker::admit`. -/
  | breakerAdmit
  | recordSuccess
  | recordFailure
  | sleep (seconds : ℚ)
  | post (request : Request Item)
  | get (url : String)
  | countRequestSent
  | countRequestFailed
  | countBytes (count : ℕ)
  | fireHook (stage : ErrorStage) (error : GuardAgentError)
  | generateBatchId
  | utcNow
  | randBytes
  /-- Ghost: a call of `send_with_retry` returned. -/
  | sent (send : Sent Item)

/-- The answers to the operations. -/
def TransportOp.Answer {Item : Type} : TransportOp Item → Type
  | acquire => Bool
  | retryAfter => ℚ
  | breakerAdmit => Bool
  | recordSuccess => Unit
  | recordFailure => Unit
  | sleep _ => Unit
  | post _ => HttpReply
  | get _ => HttpReply
  | countRequestSent => Unit
  | countRequestFailed => Unit
  | countBytes _ => Unit
  | fireHook _ _ => Unit
  | generateBatchId => String
  | utcNow => String
  | randBytes => Nonce
  | sent _ => Unit

/-- The signature of the transport's programs. -/
def transportSignature (Item : Type) : Signature := ⟨TransportOp Item, TransportOp.Answer⟩

abbrev TransportEvent (Item : Type) : Type := (transportSignature Item).Event

abbrev TransportProgram (Item α : Type) : Type := Program (transportSignature Item) α

abbrev perform {Item : Type} (op : TransportOp Item) : TransportProgram Item op.Answer :=
  @Program.call (transportSignature Item) op

/-- `SendOutcome`. -/
inductive SendOutcome where
  | accepted
  | permanentDrop (statusCode : ℕ) (detail : String)
  | failed (error : GuardAgentError)
  deriving DecidableEq

def SendOutcome.isConfirmed : SendOutcome → Bool
  | accepted => true
  | permanentDrop _ _ => true
  | failed _ => false

/-- `TooLargeSignal`. -/
structure TooLargeSignal where
  detail : String
  deriving DecidableEq

/-- `AttemptResult`. -/
inductive AttemptResult where
  | accepted
  | partialFailure (errors : List String)
  | permanent (statusCode : ℕ) (detail : String)
  | tooLarge (detail : String)
  | rateLimited (retryAfterSeconds : ℚ)
  | retryable (error : GuardAgentError)
  deriving DecidableEq

/-- `BatchItems`: the variant and its items. -/
structure BatchItems (Item : Type) where
  kind : Kind
  items : List Item

/-- `BatchItems::label`. -/
def Kind.label : Kind → String
  | .events => "events"
  | .metrics => "metrics"

namespace BatchItems

variable {Item : Type}

/-- `BatchItems::split`. -/
def split (batch : BatchItems Item) : BatchItems Item × BatchItems Item :=
  let midpoint := batch.items.length / 2
  ({ batch with items := batch.items.take midpoint },
    { batch with items := batch.items.drop midpoint })

/-- `BatchItems::items_value`, for items with these documents. -/
def itemsValue (render : Item → Value) (batch : BatchItems Item) : Value :=
  .array (batch.items.map render)

/-- The `events` and `metrics` members of an envelope. -/
def members (render : Item → Value) (batch : BatchItems Item) : List (String × Value) :=
  match batch.kind with
  | .events => [("events", batch.itemsValue render), ("metrics", .array [])]
  | .metrics => [("events", .array []), ("metrics", batch.itemsValue render)]

end BatchItems

def nonRetryableStatusCodes : List ℕ := [400, 404, 422]
def maxRetryAfterSecs : ℚ := 300
def maxRetryBackoffSecs : ℚ := 60
def defaultRetryAfterSecs : ℚ := 60
def retryAfterHeaderMaxLen : ℕ := 32

/-- `HttpTransport`: what it is configured with. -/
structure HttpTransport where
  config : AgentConfig
  encryptor : Option PayloadEncryptor

variable (crates : Crates)

/-- `sign_payload`. -/
def signPayload (body : Bytes) (secret : Option String) : Option String :=
  secret.map fun secret =>
    "v1=" ++ String.join ((crates.hmac (utf8 secret) body).map fun byte =>
      String.ofList ((Nat.toDigits 16 byte.toNat).leftpad 2 '0'))

namespace HttpTransport

/-- `parse_ack`. -/
def parseAck (bodyText : String) : AttemptResult :=
  match crates.parseAck bodyText with
  | some ack =>
      let errors := ack.errors.getD []
      if ack.success = some false ∨ errors ≠ [] then .partialFailure errors else .accepted
  | none => .retryable (.transport "200 response with unparseable JSON body")

/-- `classify_response`. -/
def classifyResponse (status : ℕ) (bodyText url : String) (retryAfter : Option String) :
    AttemptResult :=
  if status = 200 then parseAck crates bodyText
  else if 201 ≤ status ∧ status ≤ 299 then .accepted
  else if status = 429 then
    .rateLimited (parseRetryAfterSeconds retryAfter defaultRetryAfterSecs)
  else if status = 413 then .tooLarge (summarizeResponseBody bodyText)
  else if status ∈ nonRetryableStatusCodes then
    .permanent status (summarizeResponseBody bodyText)
  else if status = 401 ∨ status = 403 then
    .retryable (.transport s!"Authentication failed: {status} for POST {url}")
  else if 500 ≤ status ∧ status ≤ 599 then
    .retryable (.transport
      s!"Server error {status} for POST {url}: {summarizeResponseBody bodyText}")
  else
    .retryable (.transport
      s!"Client error {status} for POST {url}: {summarizeResponseBody bodyText}")

/-- The classification of a reply: a response whose body could not be read is
retryable, whatever its status. -/
def classifyAttempt (url : String) : HttpReply → AttemptResult
  | .clientError message =>
      .retryable (.transport s!"HTTP client error for POST {url}: {message}")
  | .response _ _ (.error message) =>
      .retryable (.transport s!"Failed to read response body for POST {url}: {message}")
  | .response status retryAfter (.ok bodyText) =>
      classifyResponse crates status bodyText url
        (retryAfter.map (takeChars retryAfterHeaderMaxLen))

variable {Item : Type} (transport : HttpTransport)

/-- `maybe_compress`. -/
def maybeCompress (body : Bytes) : Bytes × Bool :=
  if transport.config.compressionEnabled = true ∧
      transport.config.compressionThreshold ≤ body.length then (crates.gzip body, true)
  else (body, false)

/-- The request `attempt` makes. -/
def request (label : String) (body : Body Item) : Request Item where
  url := s!"{transport.config.endpoint}/api/v1/{label}"
  wireBody := (transport.maybeCompress crates body.bytes).1
  gzipped := (transport.maybeCompress crates body.bytes).2
  signature := signPayload crates body.bytes transport.config.payloadSigningSecret
  carried := body.carried

/-- `attempt`. -/
def attempt (label : String) (body : Body Item) : TransportProgram Item AttemptResult := do
  let request := transport.request crates label body
  perform (.countBytes request.wireBody.length)
  let reply : HttpReply ← perform (.post request)
  match reply with
  | .clientError _ => pure ()
  | .response _ _ _ => perform .countRequestSent
  return classifyAttempt crates request.url reply

end HttpTransport

end GuardAgent
