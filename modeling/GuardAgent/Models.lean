import GuardAgent.Json

/-!
# Wire models

The records the agent buffers and their JSON documents. Identifiers and
timestamps stand for themselves in rendered form.
-/

namespace GuardAgent

/-- The two kinds of telemetry, buffered and flushed independently. -/
inductive Kind where
  | events
  | metrics
  deriving DecidableEq

/-- `MetricType`. -/
inductive MetricType where
  | requestCount
  | responseTime
  | errorRate
  | bandwidthUsage
  | threatLevel
  | blockRate
  | cacheHitRate
  deriving DecidableEq

/-- `MetricType::as_str`, also the serialized name. -/
def MetricType.asStr : MetricType → String
  | .requestCount => "request_count"
  | .responseTime => "response_time"
  | .errorRate => "error_rate"
  | .bandwidthUsage => "bandwidth_usage"
  | .threatLevel => "threat_level"
  | .blockRate => "block_rate"
  | .cacheHitRate => "cache_hit_rate"

structure SecurityEvent where
  idempotencyKey : String
  timestamp : String
  eventType : String
  ipAddress : String
  country : Option String
  userAgent : Option String
  endpoint : Option String
  method : Option String
  decoratorType : Option String
  ruleType : Option String
  patternMatched : Option String
  handlerName : Option String
  actionTaken : String
  reason : String
  statusCode : Option ℕ
  responseTime : Option F64
  metadata : Value
  deriving DecidableEq

/-- `SecurityEvent::new`, with the key and the time it draws. -/
def SecurityEvent.new (idempotencyKey timestamp eventType : String) : SecurityEvent where
  idempotencyKey := idempotencyKey
  timestamp := timestamp
  eventType := eventType
  ipAddress := ""
  country := none
  userAgent := none
  endpoint := none
  method := none
  decoratorType := none
  ruleType := none
  patternMatched := none
  handlerName := none
  actionTaken := ""
  reason := ""
  statusCode := none
  responseTime := none
  metadata := .object []

/-- The JSON document of an event. -/
def SecurityEvent.toValue (event : SecurityEvent) : Value :=
  .ofMembers [
    ("idempotency_key", .string event.idempotencyKey),
    ("timestamp", .string event.timestamp),
    ("event_type", .string event.eventType),
    ("ip_address", .string event.ipAddress),
    ("country", .ofOption .string event.country),
    ("user_agent", .ofOption .string event.userAgent),
    ("endpoint", .ofOption .string event.endpoint),
    ("method", .ofOption .string event.method),
    ("decorator_type", .ofOption .string event.decoratorType),
    ("rule_type", .ofOption .string event.ruleType),
    ("pattern_matched", .ofOption .string event.patternMatched),
    ("handler_name", .ofOption .string event.handlerName),
    ("action_taken", .string event.actionTaken),
    ("reason", .string event.reason),
    ("status_code", .ofOption (fun code => .number (.posInt code)) event.statusCode),
    ("response_time", .ofOption .ofF64 event.responseTime),
    ("metadata", event.metadata)]

/-- The tags are a `BTreeMap`, kept in the order of their keys. -/
structure SecurityMetric where
  timestamp : String
  metricType : MetricType
  value : F64
  endpoint : Option String
  tags : List (String × String)
  deriving DecidableEq

/-- `SecurityMetric::new`, with the time it draws. -/
def SecurityMetric.new (timestamp : String) (metricType : MetricType) (value : F64) :
    SecurityMetric where
  timestamp := timestamp
  metricType := metricType
  value := value
  endpoint := none
  tags := []

/-- The JSON document of a metric. -/
def SecurityMetric.toValue (metric : SecurityMetric) : Value :=
  .ofMembers [
    ("timestamp", .string metric.timestamp),
    ("metric_type", .string metric.metricType.asStr),
    ("value", .ofF64 metric.value),
    ("endpoint", .ofOption .string metric.endpoint),
    ("tags", .object (metric.tags.map fun tag => (tag.1, .string tag.2)))]

/-- The items of each kind. -/
def Telemetry : Kind → Type
  | .events => SecurityEvent
  | .metrics => SecurityMetric

instance : (kind : Kind) → DecidableEq (Telemetry kind)
  | .events => inferInstanceAs (DecidableEq SecurityEvent)
  | .metrics => inferInstanceAs (DecidableEq SecurityMetric)

/-- The JSON document of an item. -/
def Telemetry.toValue : (kind : Kind) → Telemetry kind → Value
  | .events, event => SecurityEvent.toValue event
  | .metrics, metric => SecurityMetric.toValue metric

/-- Acknowledgement body of the ingestion API. -/
structure TelemetryAck where
  success : Option Bool
  errors : Option (List String)

end GuardAgent
