import GuardAgent.Error

/-!
# Configuration

The fields of `AgentConfig` that the agent reads, with their defaults, and the
validation `GuardAgent::new` performs. Lengths of strings are counted in bytes, as
`str::len` does.
-/

namespace GuardAgent

/-- What to do with an item that does not fit into its buffer. -/
inductive BufferOverflowPolicy where
  | drop
  | block
  | raise
  deriving DecidableEq

/-- Settings of the built-in Redis backend. -/
structure RedisConfig where
  url : String
  keyPrefix : String
  commandTimeoutMs : ℕ

structure AgentConfig where
  apiKey : String
  endpoint : String
  projectId : Option String
  bufferSize : ℕ
  flushInterval : ℕ
  statusInterval : ℕ
  dynamicRuleInterval : ℕ
  highWatermarkRatio : ℚ
  maxConcurrentFlushes : ℕ
  bufferOverflowPolicy : BufferOverflowPolicy
  enableEvents : Bool
  enableMetrics : Bool
  retryAttempts : ℕ
  timeout : ℕ
  backoffFactor : ℚ
  sensitiveHeaders : List String
  guardVersion : Option String
  guardCoreVersion : Option String
  compressionEnabled : Bool
  compressionThreshold : ℕ
  installId : Option String
  payloadSigningSecret : Option String
  projectEncryptionKey : Option String
  redis : Option RedisConfig

def minStatusIntervalSecs : ℕ := 60
def minDynamicRuleIntervalSecs : ℕ := 60
def minApiKeyLen : ℕ := 10

def defaultSensitiveHeaders : List String :=
  ["authorization", "proxy-authorization", "cookie", "x-api-key"]

namespace AgentConfig

/-- `AgentConfig::new`. -/
def new (apiKey : String) : AgentConfig where
  apiKey := apiKey
  endpoint := "https://api.guard-core.com"
  projectId := none
  bufferSize := 100
  flushInterval := 30
  statusInterval := 300
  dynamicRuleInterval := 300
  highWatermarkRatio := 4 / 5
  maxConcurrentFlushes := 1
  bufferOverflowPolicy := .drop
  enableEvents := true
  enableMetrics := true
  retryAttempts := 3
  timeout := 30
  backoffFactor := 1
  sensitiveHeaders := defaultSensitiveHeaders
  guardVersion := none
  guardCoreVersion := none
  compressionEnabled := true
  compressionThreshold := 1024
  installId := none
  payloadSigningSecret := none
  projectEncryptionKey := none
  redis := none

/-- Trim the endpoint, strip trailing slashes and a legacy `/api/v1` suffix;
with the problems found. -/
def normalizeEndpoint (config : AgentConfig) : AgentConfig × List String :=
  let trimmed := trim config.endpoint
  if trimmed.isEmpty then
    ({ config with endpoint := trimmed }, ["endpoint must not be empty"])
  else
    let slashless := trimEndMatches trimmed '/'
    let withoutSlash := match stripSuffix slashless "/api/v1" with
      | none => slashless
      | some stripped => trimEndMatches stripped '/'
    let problems :=
      if !startsWith withoutSlash "http://" && !startsWith withoutSlash "https://" then
        ["endpoint must start with http:// or https://"]
      else
        let host := (afterOnce "://".toList withoutSlash.toList).getD []
        if host.isEmpty || host.head? == some '/' then ["endpoint must include a host"] else []
    ({ config with endpoint := withoutSlash }, problems)

/-- Check the numeric ranges. -/
def validateNumeric (config : AgentConfig) : List String :=
  (if config.bufferSize = 0 then ["buffer_size must be greater than 0"] else []) ++
  (if config.flushInterval = 0 then ["flush_interval must be greater than 0"] else []) ++
  (if config.statusInterval < minStatusIntervalSecs then
    [s!"status_interval must be at least {minStatusIntervalSecs} seconds"] else []) ++
  (if config.dynamicRuleInterval < minDynamicRuleIntervalSecs then
    [s!"dynamic_rule_interval must be at least {minDynamicRuleIntervalSecs} seconds"] else []) ++
  (if config.timeout = 0 then ["timeout must be greater than 0"] else []) ++
  (if config.backoffFactor ≤ 0 then ["backoff_factor must be greater than 0"] else []) ++
  (if config.highWatermarkRatio ≤ 0 ∨ 1 < config.highWatermarkRatio then
    ["high_watermark_ratio must be within (0, 1]"] else []) ++
  (if config.maxConcurrentFlushes = 0 then
    ["max_concurrent_flushes must be at least 1"] else [])

/-- Check the optional sections. -/
def validateOptional (config : AgentConfig) : List String :=
  match config.redis with
  | some redis => if (trim redis.url).isEmpty then ["redis.url must not be empty"] else []
  | none => []

/-- Normalize the endpoint in place and report every problem; the configuration
is changed in both cases. -/
def validate (config : AgentConfig) : AgentConfig × Except GuardAgentError Unit :=
  let keyProblems :=
    if config.apiKey.utf8ByteSize < minApiKeyLen then
      [s!"api_key must be at least {minApiKeyLen} characters long"] else []
  let (normalized, endpointProblems) := config.normalizeEndpoint
  let problems := keyProblems ++ endpointProblems ++ normalized.validateNumeric ++
    normalized.validateOptional
  (normalized, if problems.isEmpty then .ok () else .error (.config problems))

/-- The project identifier of batch payloads. -/
def payloadProjectId (config : AgentConfig) : String :=
  config.projectId.getD "default"

/-- Attempts of one send: `retry_attempts.saturating_add(1)` on a `u32`. -/
def totalAttempts (config : AgentConfig) : ℕ :=
  min (config.retryAttempts + 1) (2 ^ 32 - 1)

/-- A configuration differing from the default in none of the checked fields. -/
example : (AgentConfig.new "test-api-key-1234").validate.2 = .ok () := by decide +kernel

end AgentConfig

end GuardAgent
