import GuardAgent.Transport.Send

/-!
# Fetching the rules

The `GET` of the dynamic rules, with its own retry loop and its own classification of
responses.
-/

namespace GuardAgent

open Foundation

/-- `GetAttempt`. -/
inductive GetAttempt where
  | ok (value : Value)
  | rateLimited (retryAfterSeconds : ℚ)
  | retryable (error : GuardAgentError)

/-- `Value::is_object`. -/
def Value.isObject : Value → Bool
  | .object _ => true
  | _ => false

namespace HttpTransport

variable {Item : Type} (crates : Crates) (transport : HttpTransport)

/-- `classify_get_attempt`. -/
def classifyGetAttempt (url : String) : HttpReply → GetAttempt
  | .clientError message =>
      .retryable (.transport s!"HTTP client error for GET {url}: {message}")
  | .response _ _ (.error message) =>
      .retryable (.transport s!"Failed to read response body for GET {url}: {message}")
  | .response status retryAfter (.ok bodyText) =>
      if 200 ≤ status ∧ status < 300 then
        match crates.fromSlice (utf8 bodyText) with
        | some value => .ok value
        | none => .retryable (.transport
            s!"GET {url} returned status {status} with unparseable JSON body")
      else if status = 429 then
        .rateLimited (parseRetryAfterSeconds
          (retryAfter.map (takeChars retryAfterHeaderMaxLen)) defaultRetryAfterSecs)
      else
        .retryable (.transport
          s!"Client error {status} for GET {url}: {summarizeResponseBody bodyText}")

/-- `get_attempt`. -/
def getAttempt (url : String) : TransportProgram Item GetAttempt := do
  let reply : HttpReply ← perform (.get url)
  return classifyGetAttempt crates url reply

/-- The loop of `get_with_retry`, with `remaining` attempts to go. -/
def getLoop (url : String) : (attempt remaining : ℕ) → TransportProgram Item (Option Value)
  | _, 0 => return none
  | attempt, remaining + 1 => do
      let acquired : Bool ← perform .acquire
      if !acquired then
        let retryAfter : ℚ ← perform .retryAfter
        perform (.sleep retryAfter)
        getLoop url (attempt + 1) remaining
      else
        let admitted : Bool ← perform .breakerAdmit
        if !admitted then
          if remaining = 0 then
            perform .countRequestFailed
            return none
          else
            transport.sleepBackoff attempt
            getLoop url (attempt + 1) remaining
        else
          match ← getAttempt crates url with
          | .ok value =>
              perform .recordSuccess
              if value.isObject then
                perform .countRequestSent
                return some value
              else
                -- Any other document counts as failed and is retried at once.
                perform .countRequestFailed
                getLoop url (attempt + 1) remaining
          | .rateLimited retryAfterSeconds =>
              perform .recordFailure
              if remaining = 0 then
                perform .countRequestFailed
                return none
              else
                perform (.sleep (min retryAfterSeconds maxRetryAfterSecs))
                getLoop url (attempt + 1) remaining
          | .retryable _ =>
              perform .recordFailure
              if remaining = 0 then
                perform .countRequestFailed
                return none
              else
                transport.sleepBackoff attempt
                getLoop url (attempt + 1) remaining

/-- `get_with_retry`. -/
def getWithRetry (label : String) : TransportProgram Item (Option Value) :=
  transport.getLoop crates s!"{transport.config.endpoint}/api/v1/{label}" 0
    transport.config.totalAttempts

/-- `fetch_rules`, for rules that are read from a document by `serde_json`. -/
def fetchRules {DynamicRules : Type} (fromValue : Value → Option DynamicRules) :
    TransportProgram Item (Option DynamicRules) := do
  match ← transport.getWithRetry crates "rules" with
  | none => return none
  | some value => return fromValue value

end HttpTransport

end GuardAgent
