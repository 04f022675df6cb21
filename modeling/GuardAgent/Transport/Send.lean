import GuardAgent.Transport.Wire

/-!
# Sending batches

The retry loop, the plaintext path with its split on `413`, the encrypted path,
status pushes and the construction of the transport.
-/

namespace GuardAgent

open Foundation

/-- What a call of `send_with_retry` returns. -/
abbrev SendResult := Except TooLargeSignal SendOutcome

/-- How a call of `send_with_retry` was answered. -/
def SendResult.reply : SendResult → Reply
  | .ok .accepted => .acknowledged
  | .ok (.permanentDrop _ _) => .rejected
  | .ok (.failed _) => .failed
  | .error _ => .tooLarge

namespace HttpTransport

variable {Item : Type} (crates : Crates) (transport : HttpTransport)

/-- `sleep_backoff`. -/
def sleepBackoff (attempt : ℕ) : TransportProgram Item Unit :=
  perform (.sleep
    (calculateBackoffDelay attempt transport.config.backoffFactor maxRetryBackoffSecs))

/-- The loop of `send_with_retry`, with `remaining` attempts to go. -/
def retryLoop (label : String) (body : Body Item) :
    (attempt remaining : ℕ) → TransportProgram Item SendResult
  | _, 0 => return .ok (.failed (.transport "retry loop exited unexpectedly"))
  | attempt, remaining + 1 => do
      let acquired : Bool ← perform .acquire
      if !acquired then
        -- A blocked call consumes the attempt, also the last one.
        let retryAfter : ℚ ← perform .retryAfter
        perform (.sleep retryAfter)
        retryLoop label body (attempt + 1) remaining
      else
        let admitted : Bool ← perform .breakerAdmit
        if !admitted then
          let error := GuardAgentError.transport "Circuit breaker is OPEN"
          if remaining = 0 then
            perform .countRequestFailed
            perform (.fireHook .transportSend error)
            return .ok (.failed error)
          else
            transport.sleepBackoff attempt
            retryLoop label body (attempt + 1) remaining
        else
          match ← transport.attempt crates label body with
          | .accepted =>
              perform .recordSuccess
              return .ok .accepted
          | .partialFailure errors =>
              perform .recordSuccess
              let listed := ", ".intercalate (errors.map crates.debugText)
              return .ok (.failed (.transport
                s!"Server acknowledged {label} batch with partial failure: [{listed}]"))
          | .permanent statusCode detail => return .ok (.permanentDrop statusCode detail)
          | .tooLarge detail => return .error ⟨detail⟩
          | .rateLimited retryAfterSeconds =>
              perform .recordFailure
              if remaining = 0 then
                perform .countRequestFailed
                let error := GuardAgentError.rateLimited retryAfterSeconds
                perform (.fireHook .transportSend error)
                return .ok (.failed error)
              else
                perform (.sleep (min retryAfterSeconds maxRetryAfterSecs))
                retryLoop label body (attempt + 1) remaining
          | .retryable error =>
              perform .recordFailure
              if remaining = 0 then
                perform .countRequestFailed
                perform (.fireHook .transportSend error)
                return .ok (.failed error)
              else
                transport.sleepBackoff attempt
                retryLoop label body (attempt + 1) remaining

/-- `send_with_retry`. -/
def sendWithRetry (label : String) (body : Body Item) : TransportProgram Item SendResult := do
  let result ← transport.retryLoop crates label body 0 transport.config.totalAttempts
  perform (.sent ⟨body.carried, result.reply⟩)
  return result

/-- Report a permanent rejection and return it. -/
def reportPermanent (statusCode : ℕ) (detail : String) : TransportProgram Item SendOutcome := do
  perform (.fireHook .transportSend (.permanent statusCode detail))
  return .permanentDrop statusCode detail

/-- Report a payload that is too large and drop it. -/
def reportTooLarge (detail : String) : TransportProgram Item SendOutcome := do
  perform (.fireHook .transportSend (.payloadTooLarge detail))
  return .permanentDrop 413 detail

variable (render : Item → Value)

/-- The envelope of `build_batch_body`. -/
def batchEnvelope (batch : BatchItems Item) (batchId createdAt : String) : Value :=
  .ofMembers ([("project_id", .string transport.config.payloadProjectId)] ++
    batch.members render ++ [
    ("batch_id", .string batchId),
    ("created_at", .string createdAt),
    ("compressed", .bool false),
    ("agent_version", .string agentVersion),
    ("guard_version", .ofOption .string transport.config.guardVersion),
    ("guard_core_version", .ofOption .string transport.config.guardCoreVersion)])

/-- `build_batch_body`. -/
def buildBatchBody (batch : BatchItems Item) : TransportProgram Item (Body Item) := do
  let batchId : String ← perform .generateBatchId
  let createdAt : String ← perform .utcNow
  return ⟨crates.toVec (transport.batchEnvelope render batch batchId createdAt), batch.items⟩

/-- The document that is encrypted. -/
def sealedPayload (batch : BatchItems Item) : Value := .ofMembers (batch.members render)

/-- The envelope of `send_batch_encrypted`. -/
def encryptedEnvelope (encryptedPayload batchId : String) : Value :=
  .ofMembers [
    ("encrypted_payload", .string encryptedPayload),
    ("batch_id", .string batchId),
    ("agent_version", .string agentVersion),
    ("guard_version", .ofOption .string transport.config.guardVersion),
    ("guard_core_version", .ofOption .string transport.config.guardCoreVersion)]

/-- `send_batch_encrypted`; a batch that is too large is dropped, not split. -/
def sendBatchEncrypted (encryptor : PayloadEncryptor) (batch : BatchItems Item) :
    TransportProgram Item SendOutcome := do
  let nonce : Nonce ← perform .randBytes
  match encryptor.encrypt crates.toCipherSuite nonce (sealedPayload render batch) none with
  | .error error =>
      perform (.fireHook .encryption error)
      return .failed error
  | .ok encryptedPayload =>
      let batchId : String ← perform .generateBatchId
      let body := ⟨crates.toVec (transport.encryptedEnvelope encryptedPayload batchId), batch.items⟩
      match ← transport.sendWithRetry crates "events/encrypted" body with
      | .ok (.permanentDrop statusCode detail) => reportPermanent statusCode detail
      | .ok outcome => return outcome
      | .error tooLarge => reportTooLarge tooLarge.detail

mutual

/-- `send_batch`. -/
def sendBatch (batch : BatchItems Item) : TransportProgram Item SendOutcome :=
  match transport.encryptor with
  | some encryptor => transport.sendBatchEncrypted crates render encryptor batch
  | none => do
      let body ← transport.buildBatchBody crates render batch
      match ← transport.sendWithRetry crates batch.kind.label body with
      | .ok (.permanentDrop statusCode detail) => reportPermanent statusCode detail
      | .ok outcome => return outcome
      | .error tooLarge => splitOrDrop batch tooLarge.detail
  termination_by 2 * batch.items.length + 1

/-- `split_or_drop`. -/
def splitOrDrop (batch : BatchItems Item) (detail : String) : TransportProgram Item SendOutcome :=
  if batch.items.length ≤ 1 then reportTooLarge detail
  else do
    let leftOutcome ← sendBatch batch.split.1
    if leftOutcome.isConfirmed then sendBatch batch.split.2 else return leftOutcome
  termination_by 2 * batch.items.length
  decreasing_by
  all_goals
    simp only [BatchItems.split, List.length_take, List.length_drop]
    omega

end

/-- `send_status`, for a serialized status. -/
def sendStatus (status : Bytes) : TransportProgram Item SendOutcome := do
  match ← transport.sendWithRetry crates "status" ⟨status, []⟩ with
  | .ok outcome => return outcome
  | .error tooLarge =>
      let error := GuardAgentError.payloadTooLarge tooLarge.detail
      perform (.fireHook .transportSend error)
      return .failed error

/-- The encryption set-up of `HttpTransport::new`: an empty key counts as none. -/
def initEncryption (config : AgentConfig) (nonce : Nonce) :
    Except GuardAgentError (Option PayloadEncryptor) :=
  match config.projectEncryptionKey with
  | none => .ok none
  | some key =>
      if key = "" then .ok none
      else match PayloadEncryptor.new crates.toCipherSuite key with
        | .error error => .error error
        | .ok encryptor =>
            if encryptor.verifyKey crates.toCipherSuite nonce then .ok (some encryptor)
            else .error (.encryptionConfig
              "Encryption round-trip failed at startup; refusing plaintext fallback")

/-- The values of the default headers that are not constants. -/
def headerValues (config : AgentConfig) (installId : String) : List String :=
  [s!"guard-agent-rs/{agentVersion}", config.apiKey, installId] ++ config.projectId.toList

/-- `HttpTransport::new`. -/
def new (config : AgentConfig) (installId : String) (nonce : Nonce) :
    Except GuardAgentError HttpTransport :=
  if (headerValues config installId).all crates.headerValid then
    match crates.buildClient with
    | .error error => .error (.transport s!"failed to build HTTP client: {error}")
    | .ok () => (initEncryption crates config nonce).map fun encryptor => ⟨config, encryptor⟩
  else .error (.transport "header value contains invalid characters")

end HttpTransport

end GuardAgent
