import GuardAgent.Agent.Persisted
import GuardAgent.RedactedEntries

/-!
# The bridge

The facade hands the agent its events and metrics through `GuardAgentTelemetry`. Two entries
of the metadata of an event become fields of their own. Besides these, what redaction hides
makes no difference to any run of the agent (`GuardAgentTelemetry.run_iff_of_alike`), and
everything else makes a difference to the item (`Redactor.redact_toAgentEvent_eq_iff`).
-/

namespace GuardAgent

open Foundation

/-- What the bridge reads of an event of `guard_core_rs`. -/
structure FacadeSecurityEvent where
  timestamp : String
  eventType : String
  ipAddress : String
  country : Option String
  userAgent : Option String
  endpoint : Option String
  method : Option String
  decoratorType : Option String
  ruleType : Option String
  handlerName : Option String
  actionTaken : String
  reason : String
  responseTime : Option F64
  metadata : List (String × Value)

/-- A metric of `guard_core_rs`. -/
structure FacadeSecurityMetric where
  timestamp : String
  metricType : String
  value : F64
  endpoint : Option String
  tags : List (String × String)

/-- `TelemetryError`. -/
structure TelemetryError where
  message : String
  deriving DecidableEq

/-- `MetricType::from_str_name`. -/
def MetricType.fromStrName : String → Option MetricType
  | "request_count" => some .requestCount
  | "response_time" => some .responseTime
  | "error_rate" => some .errorRate
  | "bandwidth_usage" => some .bandwidthUsage
  | "threat_level" => some .threatLevel
  | "block_rate" => some .blockRate
  | "cache_hit_rate" => some .cacheHitRate
  | _ => none

/-- `Value::as_i64`. -/
def Value.asI64 : Value → Option ℤ
  | .number (.posInt value) => if value < 2 ^ 63 then some value else none
  | .number (.negInt value) => some value
  | _ => none

namespace GuardAgentTelemetry

def stringKwarg (metadata : List (String × Value)) (key : String) : Option String :=
  (metadata.lookup key).bind Field.asString

/-- The reading of `status_code`, which is one only if it fits `u16`. -/
def codeKwarg (metadata : List (String × Value)) (key : String) : Option ℕ :=
  ((metadata.lookup key).bind Value.asI64).bind fun code =>
    if 0 ≤ code ∧ code < 2 ^ 16 then some code.toNat else none

/-- `to_agent_event`, with the key and the time that `SecurityEvent::new` draws. -/
def toAgentEvent (idempotencyKey now : String) (event : FacadeSecurityEvent) : SecurityEvent :=
  { SecurityEvent.new idempotencyKey now event.eventType with
    timestamp := event.timestamp
    eventType := event.eventType
    ipAddress := event.ipAddress
    country := event.country
    userAgent := event.userAgent
    endpoint := event.endpoint
    method := event.method
    decoratorType := event.decoratorType
    ruleType := event.ruleType
    patternMatched := stringKwarg event.metadata "pattern_matched"
    handlerName := event.handlerName
    actionTaken := event.actionTaken
    reason := event.reason
    statusCode := codeKwarg event.metadata "status_code"
    responseTime := event.responseTime
    metadata := .object event.metadata }

def toAgentMetric (metric : FacadeSecurityMetric) : Except TelemetryError SecurityMetric :=
  match MetricType.fromStrName metric.metricType with
  | none => .error ⟨s!"unknown metric type '{metric.metricType}': the wire model accepts the " ++
      "seven METRIC_* types"⟩
  | some metricType => .ok
      { timestamp := metric.timestamp
        metricType := metricType
        value := metric.value
        endpoint := metric.endpoint
        tags := metric.tags }

/-- A call of `send_event` or `send_metric` of the facade. -/
inductive Call where
  | sendEvent (event : FacadeSecurityEvent) (idempotencyKey now : String)
  | sendMetric (metric : FacadeSecurityMetric)

/-- What the call spawns. -/
def Call.spawned : Call → Except TelemetryError Arrival
  | .sendEvent event idempotencyKey now =>
      .ok (.trySend .events (toAgentEvent idempotencyKey now event))
  | .sendMetric metric => (toAgentMetric metric).map (.trySend .metrics ·)

/-- The agent with the calls of the facade, and what these were answered. -/
def machine (agent : Agent) : Machine
    (Pool Shared Task × List (Except TelemetryError Unit)) (Call ⊕ PoolLabel Arrival Choice) where
  step? state label :=
    match label with
    | .inl call =>
        match call.spawned with
        | .error error => some (state.1, state.2 ++ [.error error])
        | .ok arrival => (agent.machine.step? state.1 (.arrive arrival)).map
            fun pool => (pool, state.2 ++ [.ok ()])
    | .inr label => (agent.machine.step? state.1 label).map fun pool => (pool, state.2)

end GuardAgentTelemetry

/-- The names of the wire model are read, and no others. -/
theorem MetricType.fromStrName_eq_some_iff (name : String) (metricType : MetricType) :
    fromStrName name = some metricType ↔ name = metricType.asStr := by
  constructor
  · intro read
    unfold fromStrName at read
    split at read <;> cases read <;> rfl
  · rintro rfl
    cases metricType <;> rfl

namespace Value

/-- A scalar is read from its head. -/
theorem asString_eq_of_head {value other : Value} (heads : value.head = other.head) :
    Field.asString value = Field.asString other := by
  cases value <;> cases other <;> first | rfl | cases heads <;> rfl

/-- What a value is read as by `as_i64` depends on its head only. -/
theorem asI64_eq_of_head {value other : Value} (heads : value.head = other.head) :
    value.asI64 = other.asI64 := by
  cases value <;> cases other <;> first | rfl | cases heads <;> rfl

/-- The entry of a key is the child at the first position of the key. -/
theorem lookup_eq_child? (entries : List (String × Value)) (key : String) :
    (entries.lookup key).map (some key, ·) =
      (object entries).child? ((entries.map Prod.fst).idxOf key) := by
  rw [child?]
  induction entries with
  | nil => rfl
  | cons entry entries ih =>
      rw [List.lookup_cons, List.map_cons, List.idxOf_cons]
      by_cases here : entry.1 = key
      · subst here
        simp only [BEq.rfl, cond_true, Option.map_some, List.getElem?_cons_zero]
      · simp only [beq_eq_false_iff_ne.mpr here, beq_eq_false_iff_ne.mpr (Ne.symm here),
          cond_false, List.getElem?_cons_succ]
        exact ih

end Value

namespace Redactor

variable (redactor : Redactor)

/-- Objects that agree outside what is replaced have entries of one head at a plain key. -/
theorem lookup_head_of_agree {levels : ℕ} {entries others : List (String × Value)} {key : String}
    (agree : Value.AgreeOutside (redactor.isSensitive · = true) (levels + 1)
      (.object entries) (.object others))
    (plain : redactor.isSensitive key = false) :
    (entries.lookup key).map Value.head = (others.lookup key).map Value.head := by
  have top := Option.some.inj (agree [] .of_nil)
  have keys : entries.map Prod.fst = others.map Prod.fst := Value.Head.object.inj top
  -- Both are read at one position, where the labels agree.
  have found := Value.lookup_eq_child? entries key
  have found' := Value.lookup_eq_child? others key
  rw [← keys] at found'
  have labels := congrArg (·.label? ((entries.map Prod.fst).idxOf key)) top
  simp only [Value.label?_head, ← found, ← found', Option.map_map] at labels
  cases held : entries.lookup key with
  | none =>
      rw [held, Option.map_none] at labels
      rw [Option.map_none, Option.map_eq_none_iff.mp labels.symm, Option.map_none]
  | some value =>
      rw [held, Option.map_some] at found labels
      obtain ⟨other, held', -⟩ := Option.map_eq_some_iff.mp labels.symm
      rw [held', Option.map_some] at found'
      have unhidden : ∀ label ∈ some key, ¬ redactor.isSensitive label = true := by
        intro label same
        obtain rfl := Option.some.inj same
        exact Bool.eq_false_iff.mp plain
      have heads := agree _ ((Value.spared_cons unhidden found.symm).mpr .of_nil)
      rw [Value.headAt?_of_child found.symm, Value.headAt?_of_child found'.symm] at heads
      rw [held', Option.map_some, Option.map_some]
      exact heads

/-- So they have the same scalar there. -/
theorem lookup_bind_of_agree {α : Type} {read : Value → Option α}
    (scalar : ∀ value other : Value, value.head = other.head → read value = read other)
    {levels : ℕ} {entries others : List (String × Value)} {key : String}
    (agree : Value.AgreeOutside (redactor.isSensitive · = true) (levels + 1)
      (.object entries) (.object others))
    (plain : redactor.isSensitive key = false) :
    (entries.lookup key).bind read = (others.lookup key).bind read := by
  have heads := redactor.lookup_head_of_agree agree plain
  cases held : entries.lookup key with
  | none =>
      rw [held, Option.map_none] at heads
      rw [Option.map_eq_none_iff.mp heads.symm]
  | some value =>
      rw [held, Option.map_some] at heads
      obtain ⟨other, held', same⟩ := Option.map_eq_some_iff.mp heads.symm
      rw [held', Option.bind_some, Option.bind_some]
      exact scalar value other same.symm

end Redactor

/-- The events differ only in what redaction hides, and not in the two entries that become
fields. -/
structure FacadeSecurityEvent.Alike (redactor : Redactor) (event other : FacadeSecurityEvent) :
    Prop where
  fields : { event with metadata := other.metadata } = other
  hidden : Value.AgreeOutside (redactor.isSensitive · = true) maxRedactDepth
    (.object event.metadata) (.object other.metadata)
  pattern : redactor.isSensitive "pattern_matched" = true →
    GuardAgentTelemetry.stringKwarg event.metadata "pattern_matched" =
      GuardAgentTelemetry.stringKwarg other.metadata "pattern_matched"
  code : redactor.isSensitive "status_code" = true →
    GuardAgentTelemetry.codeKwarg event.metadata "status_code" =
      GuardAgentTelemetry.codeKwarg other.metadata "status_code"

/-- The metrics differ only in the values of sensitive tags. -/
structure FacadeSecurityMetric.Alike (redactor : Redactor)
    (metric other : FacadeSecurityMetric) : Prop where
  fields : { metric with tags := other.tags } = other
  hidden : List.Forall₂
    (fun tag tag' => tag.1 = tag'.1 ∧ (redactor.isSensitive tag.1 = false → tag.2 = tag'.2))
    metric.tags other.tags

namespace Redactor

variable (redactor : Redactor) (idempotencyKey now : String)

/-- Events that differ only in what redaction hides become one item. -/
theorem redact_toAgentEvent_of_alike {event other : FacadeSecurityEvent}
    (alike : event.Alike redactor other) :
    redactor.redact .events (GuardAgentTelemetry.toAgentEvent idempotencyKey now event) =
      redactor.redact .events (GuardAgentTelemetry.toAgentEvent idempotencyKey now other) := by
  obtain ⟨timestamp, eventType, ipAddress, country, userAgent, endpoint, method, decoratorType,
    ruleType, handlerName, actionTaken, reason, responseTime, metadata⟩ := event
  obtain ⟨timestamp', eventType', ipAddress', country', userAgent', endpoint', method',
    decoratorType', ruleType', handlerName', actionTaken', reason', responseTime',
    metadata'⟩ := other
  obtain ⟨fields, hidden, pattern, code⟩ := alike
  obtain ⟨rfl, rfl, rfl, rfl, rfl, rfl, rfl, rfl, rfl, rfl, rfl, rfl, rfl, -⟩ :=
    FacadeSecurityEvent.mk.inj fields
  have pattern' : GuardAgentTelemetry.stringKwarg metadata "pattern_matched" =
      GuardAgentTelemetry.stringKwarg metadata' "pattern_matched" := by
    cases sensitive : redactor.isSensitive "pattern_matched" with
    | true => exact pattern sensitive
    | false =>
        rw [GuardAgentTelemetry.stringKwarg, GuardAgentTelemetry.stringKwarg,
          redactor.lookup_bind_of_agree (fun _ _ => Value.asString_eq_of_head) hidden sensitive]
  have code' : GuardAgentTelemetry.codeKwarg metadata "status_code" =
      GuardAgentTelemetry.codeKwarg metadata' "status_code" := by
    cases sensitive : redactor.isSensitive "status_code" with
    | true => exact code sensitive
    | false =>
        rw [GuardAgentTelemetry.codeKwarg, GuardAgentTelemetry.codeKwarg,
          redactor.lookup_bind_of_agree (fun _ _ => Value.asI64_eq_of_head) hidden sensitive]
  exact (SecurityEvent.mk.injEq ..).mpr ⟨rfl, rfl, rfl, rfl, rfl, rfl, rfl, rfl, rfl, rfl,
    pattern', rfl, rfl, rfl, code', rfl, redactor.redactInner_eq_of_agree _ _ _ hidden⟩

/-- **What an event leaves to see**: events of the facade become one item exactly if they differ
only in what redaction hides. -/
theorem redact_toAgentEvent_eq_iff (event other : FacadeSecurityEvent) :
    redactor.redact .events (GuardAgentTelemetry.toAgentEvent idempotencyKey now event) =
        redactor.redact .events (GuardAgentTelemetry.toAgentEvent idempotencyKey now other) ↔
      event.Alike redactor other := by
  refine ⟨fun same => ?_, redactor.redact_toAgentEvent_of_alike idempotencyKey now⟩
  obtain ⟨timestamp, eventType, ipAddress, country, userAgent, endpoint, method, decoratorType,
    ruleType, handlerName, actionTaken, reason, responseTime, metadata⟩ := event
  obtain ⟨timestamp', eventType', ipAddress', country', userAgent', endpoint', method',
    decoratorType', ruleType', handlerName', actionTaken', reason', responseTime',
    metadata'⟩ := other
  obtain ⟨_, rfl, rfl, rfl, rfl, rfl, rfl, rfl, rfl, rfl, pattern, rfl, rfl, rfl, code, rfl,
    hidden⟩ := SecurityEvent.mk.inj same
  exact ⟨rfl, redactor.agree_of_redactInner_eq _ _ _ hidden, fun _ => pattern, fun _ => code⟩

/-- Tags are redacted alike exactly if their keys agree, and their values under keys that are not
sensitive. -/
theorem redactTags_eq_iff (tags others : List (String × String)) :
    redactor.redactTags tags = redactor.redactTags others ↔
      List.Forall₂ (fun tag other =>
        tag.1 = other.1 ∧ (redactor.isSensitive tag.1 = false → tag.2 = other.2)) tags others := by
  rw [redactTags, redactTags, ← List.forall₂_eq_eq_eq, List.forall₂_map_left_iff,
    List.forall₂_map_right_iff]
  have entry (tag other : String × String) :
      ((tag.1, if redactor.isSensitive tag.1 then redactedPlaceholder else tag.2) =
          (other.1, if redactor.isSensitive other.1 then redactedPlaceholder else other.2)) ↔
        tag.1 = other.1 ∧ (redactor.isSensitive tag.1 = false → tag.2 = other.2) := by
    rw [Prod.mk.injEq]
    refine and_congr_right fun same => ?_
    rw [← same]
    cases redactor.isSensitive tag.1
    · simp only [Bool.false_eq_true, ↓reduceIte, forall_const]
    · simp only [↓reduceIte, Bool.true_eq_false, false_imp_iff]
  exact ⟨fun all => all.imp fun tag other => (entry tag other).mp,
    fun all => all.imp fun tag other => (entry tag other).mpr⟩

/-- Metrics that differ only in the values of sensitive tags are refused with one error or
become one item. -/
theorem toAgentMetric_of_alike {metric other : FacadeSecurityMetric}
    (alike : metric.Alike redactor other) :
    (∃ error, GuardAgentTelemetry.toAgentMetric metric = .error error ∧
      GuardAgentTelemetry.toAgentMetric other = .error error) ∨
    ∃ item item', GuardAgentTelemetry.toAgentMetric metric = .ok item ∧
      GuardAgentTelemetry.toAgentMetric other = .ok item' ∧
      redactor.redact .metrics item = redactor.redact .metrics item' := by
  obtain ⟨timestamp, metricType, value, endpoint, tags⟩ := metric
  obtain ⟨timestamp', metricType', value', endpoint', tags'⟩ := other
  obtain ⟨fields, hidden⟩ := alike
  obtain ⟨rfl, rfl, rfl, rfl, -⟩ := FacadeSecurityMetric.mk.inj fields
  simp only [GuardAgentTelemetry.toAgentMetric]
  cases MetricType.fromStrName metricType with
  | none => exact Or.inl ⟨_, rfl, rfl⟩
  | some metricType =>
      refine Or.inr ⟨_, _, rfl, rfl, ?_⟩
      exact (SecurityMetric.mk.injEq ..).mpr
        ⟨rfl, rfl, rfl, rfl, (redactor.redactTags_eq_iff tags tags').mpr hidden⟩

end Redactor

namespace GuardAgentTelemetry

/-- The calls differ only in what redaction hides. -/
inductive Call.Alike (redactor : Redactor) : Call → Call → Prop
  | sendEvent {event other : FacadeSecurityEvent} (idempotencyKey now : String) :
      event.Alike redactor other →
      Alike redactor (.sendEvent event idempotencyKey now) (.sendEvent other idempotencyKey now)
  | sendMetric {metric other : FacadeSecurityMetric} : metric.Alike redactor other →
      Alike redactor (.sendMetric metric) (.sendMetric other)

/-- The labels are one, or alike calls. -/
inductive Alike (redactor : Redactor) :
    Call ⊕ PoolLabel Arrival Choice → Call ⊕ PoolLabel Arrival Choice → Prop
  | call {call other : Call} : call.Alike redactor other → Alike redactor (.inl call) (.inl other)
  | label (label : PoolLabel Arrival Choice) : Alike redactor (.inr label) (.inr label)

variable {agent : Agent}

/-- An item is redacted before anything else is done with it. -/
theorem step_trySend {kind : Kind} {item other : Telemetry kind}
    (same : agent.redactor.redact kind item = agent.redactor.redact kind other)
    (pool : Pool Shared Task) :
    agent.machine.step? pool (.arrive (.trySend kind item)) =
      agent.machine.step? pool (.arrive (.trySend kind other)) := by
  have arrived : Arrival.arrive? agent (.trySend kind item) pool.shared =
      Arrival.arrive? agent (.trySend kind other) pool.shared := by
    rw [Arrival.arrive?, Arrival.arrive?, same]
  simp only [Agent.machine, Threads.machine, Agent.threads, arrived]

/-- Inputs that differ in what is redacted make the same step. -/
theorem step_of_alike (state : Pool Shared Task × List (Except TelemetryError Unit))
    (first second : Call ⊕ PoolLabel Arrival Choice) (alike : Alike agent.redactor first second) :
    (machine agent).step? state first = (machine agent).step? state second := by
  cases alike with
  | label label => rfl
  | call alike =>
      cases alike with
      | sendEvent idempotencyKey now alike =>
          have same := agent.redactor.redact_toAgentEvent_of_alike idempotencyKey now alike
          exact congrArg (Option.map fun pool => (pool, state.2 ++ [.ok ()]))
            (step_trySend same state.1)
      | sendMetric alike =>
          simp only [machine, Call.spawned]
          rcases agent.redactor.toAgentMetric_of_alike alike with
            ⟨error, refused, refused'⟩ | ⟨item, item', made, made', same⟩
          · rw [refused, refused']
          · rw [made, made']
            exact congrArg (Option.map fun pool => (pool, state.2 ++ [.ok ()]))
              (step_trySend same state.1)

/-- **What redaction hides makes no difference**: if calls of the facade are replaced by alike
ones, the agent does and answers the same, whatever else happens between them. -/
theorem run_iff_of_alike (agent : Agent)
    (labels labels' : List (Call ⊕ PoolLabel Arrival Choice))
    (alike : List.Forall₂ (Alike agent.redactor) labels labels')
    (source target : Pool Shared Task × List (Except TelemetryError Unit)) :
    (machine agent).Run source labels target ↔ (machine agent).Run source labels' target :=
  Machine.run_iff_of_forall₂ step_of_alike alike

/-- Two events with different credentials are buffered as one. -/
theorem run_iff_of_alike_credentials :
    let agent := Agent.sample (AgentConfig.new "test-api-key-1234") []
    let event (credentials : String) : FacadeSecurityEvent :=
      { timestamp := "2026-01-01T00:00:00Z", eventType := "ip_blocked", ipAddress := "10.0.0.9"
        country := none, userAgent := none, endpoint := none, method := none
        decoratorType := none, ruleType := none, handlerName := some "ip_ban"
        actionTaken := "logged_only", reason := "", responseTime := none
        metadata := [("authorization", .string credentials), ("status_code",
          .number (.posInt 403))] }
    let labels (credentials : String) : List (Call ⊕ PoolLabel Arrival Choice) :=
      [.inl (.sendEvent (event credentials) "key-1" "2026-01-01T00:00:01Z"), .inr (offlineAct 0)]
    ∃ state, (machine agent).Run (⟨agent.initial fun _ => ∅, []⟩, []) (labels "Basic YTpi") state ∧
      (machine agent).Run (⟨agent.initial fun _ => ∅, []⟩, []) (labels "Basic Yzpk") state ∧
      (state.1.shared.columns .events).buffer.length = 1 := by
  intro agent event labels
  obtain ⟨state, run, checked⟩ := @Machine.exists_run _ _ (machine agent)
    (⟨agent.initial fun _ => ∅, []⟩, []) (labels "Basic YTpi")
    (fun state => (state.1.shared.columns .events).buffer.length = 1) (by decide +kernel)
  have hidden := agent.redactor.agree_of_redactInner_eq maxRedactDepth
    (.object (event "Basic YTpi").metadata) (.object (event "Basic Yzpk").metadata)
    (by decide +kernel)
  have alike : List.Forall₂ (Alike agent.redactor) (labels "Basic YTpi") (labels "Basic Yzpk") :=
    .cons (.call (.sendEvent _ _ ⟨rfl, hidden, fun _ => rfl, fun _ => rfl⟩))
      (.cons (.label _) .nil)
  exact ⟨state, run, (run_iff_of_alike agent _ _ alike _ _).mp run, of_decide_eq_true checked⟩

end GuardAgentTelemetry

end GuardAgent
