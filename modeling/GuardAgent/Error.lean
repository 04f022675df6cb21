import GuardAgent.Text

/-! # Errors of the agent -/

namespace GuardAgent

/-- `GuardAgentError`; the wrapped `serde_json` error is its text. -/
inductive GuardAgentError where
  | config (problems : List String)
  | bufferFull (capacity : ℕ)
  | rateLimited (retryAfterSeconds : ℚ)
  | permanent (statusCode : ℕ) (detail : String)
  | payloadTooLarge (detail : String)
  | transport (message : String)
  | serialization (message : String)
  | redis (message : String)
  | encryption (message : String)
  | encryptionConfig (message : String)
  deriving DecidableEq

/-- Stages passed to the `on_error` hook. -/
inductive ErrorStage where
  | transportSend
  | flushEvents
  | flushMetrics
  | encryption
  deriving DecidableEq

end GuardAgent
