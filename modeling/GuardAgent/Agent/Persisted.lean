import GuardAgent.Agent.Conservation
import GuardAgent.Canonical

/-!
# Records that are persisted and reloaded

`persist_item` writes an item as `serde_json` renders its type, and the reload reads the
text into the type again. Every item has a record, but the record of a metric whose value is
not finite has `null` where the reader wants a number, and that of an event whose metadata
nests too deep is past the recursion limit of the reader. All others are reloaded, without a
response time that is not finite (`Agent.reload_persisted`).
-/

namespace GuardAgent

open JsonText

/-- How `serde_json` writes and reads numbers, and how identifiers and timestamps are read
to their rendered form. -/
structure SerdeJson where
  numberText : Number → String
  readNumber : String → Option Number
  readUuid : String → Option String
  readTimestamp : String → Option String

/-- `from_str` refuses the 128th open container. -/
def recursionLimit : ℕ := 127

/-- The names of the derived `MetricType`. -/
def MetricType.ofName (name : String) : Option MetricType :=
  [.requestCount, .responseTime, .errorRate, .bandwidthUsage, .threatLevel, .blockRate,
    .cacheHitRate].find? fun metricType => metricType.asStr = name

/-- `f64::is_finite`. -/
def F64.isFinite : F64 → Bool
  | .finite _ => true
  | .nan => false
  | .infinite _ => false

namespace Field

variable {α : Type}

/-- The value of a field, if it is there. A field that is there twice is an error. -/
def read (name : String) (fields : List (String × Value)) : Option (Option Value) :=
  match fields.filter fun field => field.1 = name with
  | [] => some none
  | [field] => some (some field.2)
  | _ => none

/-- A field that has to be there. -/
def required (name : String) (decode : Value → Option α) (fields : List (String × Value)) :
    Option α :=
  (read name fields).bind fun value => value.bind decode

def decodeOption (decode : Value → Option α) : Value → Option (Option α)
  | .null => some none
  | value => (decode value).map some

/-- A field of an optional type; one that is missing is `None`. -/
def optional (name : String) (decode : Value → Option α) (fields : List (String × Value)) :
    Option (Option α) :=
  (read name fields).bind fun value => decodeOption decode (value.getD .null)

def asString : Value → Option String
  | .string text => some text
  | _ => none

def asU16 : Value → Option ℕ
  | .number (.posInt value) => if value < 2 ^ 16 then some value else none
  | _ => none

def asF64 : Value → Option F64
  | .number (.posInt value) => some (.finite value)
  | .number (.negInt value) => some (.finite value)
  | .number (.float value) => some (.finite value)
  | _ => none

/-- A unit variant is its name, or an object of its name and `null`. -/
def asMetricType : Value → Option MetricType
  | .string name => MetricType.ofName name
  | .object [(name, .null)] => MetricType.ofName name
  | _ => none

def asTags : Value → Option (List (String × String))
  | .object entries => entries.mapM fun (key, entry) => (asString entry).map fun text => (key, text)
  | _ => none

variable {name : String} {value : Value} {decode : Value → Option α}
  {fields : List (String × Value)}

/-- A field is found where it is, if the names are distinct. -/
theorem read_of_getElem? (distinct : (fields.map Prod.fst).Nodup) (position : ℕ)
    (listed : fields[position]? = some (name, value)) : read name fields = some (some value) := by
  obtain ⟨before, after, rfl⟩ := List.append_of_mem (List.mem_of_getElem? listed)
  rw [List.map_append, List.map_cons, List.nodup_middle, List.nodup_cons,
    ← List.map_append] at distinct
  have others : ∀ field ∈ before ++ after, ¬ field.1 = name := fun field member same =>
    distinct.1 (List.mem_map.mpr ⟨field, member, same⟩)
  rw [List.forall_mem_append] at others
  have found : (before ++ (name, value) :: after).filter (fun field => field.1 = name) =
      [(name, value)] := by
    have first := List.filter_eq_nil_iff.mpr fun field member =>
      decide_eq_true_iff.not.mpr (others.1 field member)
    have last := List.filter_eq_nil_iff.mpr fun field member =>
      decide_eq_true_iff.not.mpr (others.2 field member)
    rw [List.filter_append, first, List.nil_append,
      List.filter_cons_of_pos (by exact decide_eq_true rfl), last]
  rw [read, found]

/-- A required field is decoded from the member at its position when the names are distinct. -/
theorem required_of_getElem? (distinct : (fields.map Prod.fst).Nodup) (position : ℕ)
    (listed : fields[position]? = some (name, value)) :
    required name decode fields = decode value := by
  rw [required, read_of_getElem? distinct position listed]
  rfl

/-- An optional field is decoded from the member at its position when the names are distinct. -/
theorem optional_of_getElem? (distinct : (fields.map Prod.fst).Nodup) (position : ℕ)
    (listed : fields[position]? = some (name, value)) :
    optional name decode fields = decodeOption decode value := by
  rw [optional, read_of_getElem? distinct position listed]
  rfl

/-- An optional value is read back if every value is, and none is written as `null`. -/
theorem decodeOption_ofOption {render : α → Value} {value : Option α}
    (decoded : ∀ inner ∈ value, decode (render inner) = some inner)
    (filled : ∀ inner ∈ value, render inner ≠ .null) :
    decodeOption decode (.ofOption render value) = some value := by
  cases value with
  | none => rfl
  | some inner =>
      rw [Value.ofOption, decodeOption.eq_2 _ _ (filled inner rfl), decoded inner rfl]
      rfl

/-- An optional text is read back. -/
theorem decodeOption_string (text : Option String) :
    decodeOption asString (.ofOption .string text) = some text :=
  decodeOption_ofOption (fun _ _ => rfl) fun _ _ => Value.noConfusion

/-- An optional float is read back if it is finite, and is absent if it is not. -/
theorem decodeOption_f64 (value : Option F64) :
    decodeOption asF64 (.ofOption .ofF64 value) = some (value.filter F64.isFinite) := by
  rcases value with _ | _ | _ | _ <;> rfl

/-- Tags are read back. -/
theorem asTags_object (tags : List (String × String)) :
    asTags (.object (tags.map fun tag => (tag.1, .string tag.2))) = some tags := by
  have read : (tags.map fun tag => (tag.1, Value.string tag.2)).mapM
      (fun (key, entry) => (asString entry).map fun text => (key, text)) = some tags := by
    induction tags with
    | nil => rfl
    | cons tag tags ih => rw [List.map_cons, List.mapM_cons, ih]; rfl
  exact read

end Field

/-- The fields of an event in their order. -/
def SecurityEvent.members (event : SecurityEvent) : List (String × Value) := [
  ("idempotency_key", .string event.idempotencyKey),
  ("timestamp", .string event.timestamp),
  ("event_type", .string event.eventType),
  ("ip_address", .string event.ipAddress),
  ("country", .ofOption .string event.country),
  ("user_agent", .ofOption .string event.userAgent),
  ("endpoint", .ofOption .string event.endpoint),
  ("method", .ofOption .string event.method),
  ("decorator_type", .ofOption .string event.decoratorType),
  ("rule_type", .ofOption .string event.ruleType),
  ("pattern_matched", .ofOption .string event.patternMatched),
  ("handler_name", .ofOption .string event.handlerName),
  ("action_taken", .string event.actionTaken),
  ("reason", .string event.reason),
  ("status_code", .ofOption (fun code => .number (.posInt code)) event.statusCode),
  ("response_time", .ofOption .ofF64 event.responseTime),
  ("metadata", event.metadata)]

def SecurityEvent.fieldNames : List String := [
  "idempotency_key", "timestamp", "event_type", "ip_address", "country", "user_agent",
  "endpoint", "method", "decorator_type", "rule_type", "pattern_matched", "handler_name",
  "action_taken", "reason", "status_code", "response_time", "metadata"]

/-- The derived `Deserialize` of an event. -/
def SecurityEvent.ofFields (serde : SerdeJson) (fields : List (String × Value)) :
    Option SecurityEvent := do
  let idempotencyKey ← Field.required "idempotency_key" Field.asString fields
  let idempotencyKey ← serde.readUuid idempotencyKey
  let timestamp ← Field.required "timestamp" Field.asString fields
  let timestamp ← serde.readTimestamp timestamp
  let eventType ← Field.required "event_type" Field.asString fields
  let ipAddress ← Field.required "ip_address" Field.asString fields
  let country ← Field.optional "country" Field.asString fields
  let userAgent ← Field.optional "user_agent" Field.asString fields
  let endpoint ← Field.optional "endpoint" Field.asString fields
  let method ← Field.optional "method" Field.asString fields
  let decoratorType ← Field.optional "decorator_type" Field.asString fields
  let ruleType ← Field.optional "rule_type" Field.asString fields
  let patternMatched ← Field.optional "pattern_matched" Field.asString fields
  let handlerName ← Field.optional "handler_name" Field.asString fields
  let actionTaken ← Field.required "action_taken" Field.asString fields
  let reason ← Field.required "reason" Field.asString fields
  let statusCode ← Field.optional "status_code" Field.asU16 fields
  let responseTime ← Field.optional "response_time" Field.asF64 fields
  let metadata ← Field.required "metadata" some fields
  some { idempotencyKey, timestamp, eventType, ipAddress, country, userAgent, endpoint, method,
         decoratorType, ruleType, patternMatched, handlerName, actionTaken, reason, statusCode,
         responseTime, metadata }

/-- The fields of a metric in their order. -/
def SecurityMetric.members (metric : SecurityMetric) : List (String × Value) := [
  ("timestamp", .string metric.timestamp),
  ("metric_type", .string metric.metricType.asStr),
  ("value", .ofF64 metric.value),
  ("endpoint", .ofOption .string metric.endpoint),
  ("tags", .object (metric.tags.map fun tag => (tag.1, .string tag.2)))]

def SecurityMetric.fieldNames : List String :=
  ["timestamp", "metric_type", "value", "endpoint", "tags"]

/-- The derived `Deserialize` of a metric. -/
def SecurityMetric.ofFields (serde : SerdeJson) (fields : List (String × Value)) :
    Option SecurityMetric := do
  let timestamp ← Field.required "timestamp" Field.asString fields
  let timestamp ← serde.readTimestamp timestamp
  let metricType ← Field.required "metric_type" Field.asMetricType fields
  let value ← Field.required "value" Field.asF64 fields
  let endpoint ← Field.optional "endpoint" Field.asString fields
  let tags ← Field.required "tags" Field.asTags fields
  some { timestamp, metricType, value, endpoint, tags }

/-- The members of an item's record. -/
def Telemetry.members : (kind : Kind) → Telemetry kind → List (String × Value)
  | .events, event => SecurityEvent.members event
  | .metrics, metric => SecurityMetric.members metric

namespace SerdeJson

variable (serde : SerdeJson)

/-- The rendering of `to_string`: as in canonical JSON up to `~`, and nothing past it is
escaped. -/
def writer : Writer where
  escape c := if 0x7e < c.toNat then [c] else (escapeChar c).toList
  number number := (serde.numberText number).toList

/-- `to_string` of an item, as `persist_item` calls it. -/
def toRecord (kind : Kind) (item : Telemetry kind) : String :=
  String.ofList (serde.writer.write (.object (Telemetry.members kind item)))

/-- The fields of a struct: the members of an object, or the items of an array under the
names of the fields. -/
def readFields (names : List String) (text : String) : Option (List (String × Value)) :=
  if (skipSpace text.toList).head? = some '[' then
    match parse serde.readNumber (some recursionLimit) text with
    | some (.array items) => if items.length = names.length then some (names.zip items) else none
    | _ => none
  else parseMembers serde.readNumber (some recursionLimit) text

/-- `from_str` of an item, as the reload calls it. -/
def fromRecord : (kind : Kind) → String → Option (Telemetry kind)
  | .events, text =>
      (serde.readFields SecurityEvent.fieldNames text).bind (SecurityEvent.ofFields serde)
  | .metrics, text =>
      (serde.readFields SecurityMetric.fieldNames text).bind (SecurityMetric.ofFields serde)

/-- Finite floats and integers are written as tokens that read back as them. -/
def Lawful : Prop :=
  ∀ number : Number, number.Representable → serde.writer.Prints serde.readNumber number

/-- The writer escapes strings as the reader undoes it. -/
theorem escapes_writer : serde.writer.Escapes := by
  intro c rest
  by_cases past : 0x7e < c.toNat
  · have escape : serde.writer.escape c = [c] := if_pos past
    have differs {other : Char} (low : other.toNat ≤ 0x7e) : c ≠ other := fun same =>
      absurd low (not_le.mpr (same ▸ past))
    rw [escape, List.singleton_append]
    exact readChar_plain (differs (by decide)) (differs (by decide)) (by omega) rest
  · have escape : serde.writer.escape c = (escapeChar c).toList := if_neg past
    rw [escape]
    exact readChar_escapeChar c rest

end SerdeJson

/-- A value of `f64`. -/
def F64.Representable : F64 → Prop
  | .finite value => (Number.float value).Representable
  | .nan => True
  | .infinite _ => True

/-- The fields of an event are values of their types. -/
structure SecurityEvent.Valid (serde : SerdeJson) (event : SecurityEvent) : Prop where
  idempotencyKey : serde.readUuid event.idempotencyKey = some event.idempotencyKey
  timestamp : serde.readTimestamp event.timestamp = some event.timestamp
  statusCode : ∀ code ∈ event.statusCode, code < 2 ^ 16
  responseTime : ∀ time ∈ event.responseTime, time.Representable
  metadata : event.metadata.WellFormed Number.Representable

/-- The fields of a metric are values of their types. -/
structure SecurityMetric.Valid (serde : SerdeJson) (metric : SecurityMetric) : Prop where
  timestamp : serde.readTimestamp metric.timestamp = some metric.timestamp
  value : metric.value.Representable
  tags : metric.tags.Pairwise fun earlier later => earlier.1 < later.1

/-- The event with no response time if it is not finite. -/
def SecurityEvent.reloaded (event : SecurityEvent) : SecurityEvent :=
  { event with responseTime := event.responseTime.filter F64.isFinite }

namespace Telemetry

/-- An item is a value of its type. -/
def Valid (serde : SerdeJson) : (kind : Kind) → Telemetry kind → Prop
  | .events, event => SecurityEvent.Valid serde event
  | .metrics, metric => SecurityMetric.Valid serde metric

/-- What the record of an item stands for. -/
def reloaded : (kind : Kind) → Telemetry kind → Telemetry kind
  | .events, event => SecurityEvent.reloaded event
  | .metrics, metric => metric

/-- The metadata of an event opens few enough containers; the value of a metric is
finite. -/
def reloadable : (kind : Kind) → Telemetry kind → Bool
  | .events, (event : SecurityEvent) => event.metadata.depth < recursionLimit
  | .metrics, (metric : SecurityMetric) => metric.value.isFinite

end Telemetry

namespace Value

variable {α : Type} {admits : Number → Prop} {render : α → Value}

/-- An optional value is well formed if its content is. -/
theorem wellFormed_ofOption {value : Option α}
    (wellFormed : ∀ inner ∈ value, (render inner).WellFormed admits) :
    (ofOption render value).WellFormed admits := by
  cases value with
  | none => exact .null
  | some inner => exact wellFormed inner rfl

/-- A representable float is well formed. -/
theorem wellFormed_ofF64 {value : F64} (representable : value.Representable) :
    (ofF64 value).WellFormed Number.Representable := by
  cases value with
  | finite value => exact .number representable
  | nan => exact .null
  | infinite _ => exact .null

/-- An optional value whose contents are flat is flat. -/
theorem depth_ofOption (flat : ∀ inner, (render inner).depth = 0) (value : Option α) :
    (ofOption render value).depth = 0 := by
  cases value with
  | none => rfl
  | some inner => exact flat inner

/-- A float is flat. -/
theorem depth_ofF64 (value : F64) : (ofF64 value).depth = 0 := by
  cases value <;> rfl

/-- Tags are flat. -/
theorem depthEntries_tags (tags : List (String × String)) :
    depthEntries (tags.map fun tag => (tag.1, .string tag.2)) = 0 := by
  induction tags with
  | nil => rfl
  | cons tag tags ih =>
      have flat : (string tag.2).depth = 0 := rfl
      rw [List.map_cons, depthEntries, ih, flat, max_self]

end Value

/-- A `u16` is an integer that `serde_json` can write. -/
theorem Number.representable_of_u16 {value : ℕ} (small : value < 2 ^ 16) :
    (Number.posInt value).Representable :=
  lt_trans small (Nat.pow_lt_pow_right (by decide) (by decide))

namespace SecurityEvent

variable {serde : SerdeJson} {event : SecurityEvent}

/-- The members of a valid event are well formed. -/
theorem wellFormed_members (valid : event.Valid serde) :
    ∀ member ∈ event.members, member.2.WellFormed Number.Representable := by
  have text (value : Option String) :
      (Value.ofOption .string value).WellFormed Number.Representable :=
    Value.wellFormed_ofOption fun _ _ => .string _
  have code := Value.wellFormed_ofOption fun code present =>
    Value.WellFormed.number (Number.representable_of_u16 (valid.statusCode code present))
  have time := Value.wellFormed_ofOption fun time present =>
    Value.wellFormed_ofF64 (valid.responseTime time present)
  simp only [members, List.forall_mem_cons, List.not_mem_nil, false_imp_iff, implies_true, and_true]
  exact ⟨.string _, .string _, .string _, .string _, text _, text _, text _, text _, text _,
    text _, text _, text _, .string _, .string _, code, time, valid.metadata⟩

/-- An event is as deep as its metadata. -/
theorem depthEntries_members : Value.depthEntries event.members = event.metadata.depth := by
  have text (value : Option String) : (Value.ofOption .string value).depth = 0 :=
    Value.depth_ofOption (fun _ => rfl) value
  have code : (Value.ofOption (fun code => .number (.posInt code)) event.statusCode).depth = 0 :=
    Value.depth_ofOption (fun _ => rfl) event.statusCode
  have time := Value.depth_ofOption Value.depth_ofF64 event.responseTime
  simp only [members, Value.depthEntries, text, code, time, Value.depth, zero_max, max_zero]

/-- No member of an event is there twice. -/
theorem nodup_members : (event.members.map Prod.fst).Nodup := by
  have names : event.members.map Prod.fst = fieldNames := rfl
  rw [names]
  decide

/-- The members of an event are read as the event. -/
theorem ofFields_members (valid : event.Valid serde) :
    ofFields serde event.members = some event.reloaded := by
  have code : Field.decodeOption Field.asU16
      (.ofOption (fun code => .number (.posInt code)) event.statusCode) = some event.statusCode :=
    Field.decodeOption_ofOption (fun code present => if_pos (valid.statusCode code present))
      fun _ _ => Value.noConfusion
  have distinct := @nodup_members event
  rw [ofFields, Field.required_of_getElem? distinct 0 rfl,
    Field.required_of_getElem? distinct 1 rfl, Field.required_of_getElem? distinct 2 rfl,
    Field.required_of_getElem? distinct 3 rfl, Field.optional_of_getElem? distinct 4 rfl,
    Field.optional_of_getElem? distinct 5 rfl, Field.optional_of_getElem? distinct 6 rfl,
    Field.optional_of_getElem? distinct 7 rfl, Field.optional_of_getElem? distinct 8 rfl,
    Field.optional_of_getElem? distinct 9 rfl, Field.optional_of_getElem? distinct 10 rfl,
    Field.optional_of_getElem? distinct 11 rfl, Field.required_of_getElem? distinct 12 rfl,
    Field.required_of_getElem? distinct 13 rfl, Field.optional_of_getElem? distinct 14 rfl,
    Field.optional_of_getElem? distinct 15 rfl, Field.required_of_getElem? distinct 16 rfl]
  simp only [Field.asString, Field.decodeOption_string, Field.decodeOption_f64, code,
    Option.bind_eq_bind, Option.bind_some, valid.idempotencyKey, valid.timestamp]
  rfl

end SecurityEvent

/-- A metric type is read back from its name. -/
theorem MetricType.ofName_asStr (metricType : MetricType) :
    ofName metricType.asStr = some metricType := by
  cases metricType <;> decide

namespace SecurityMetric

variable {serde : SerdeJson} {metric : SecurityMetric}

/-- The members of a valid metric are well formed. -/
theorem wellFormed_members (valid : metric.Valid serde) :
    ∀ member ∈ metric.members, member.2.WellFormed Number.Representable := by
  have endpoint : (Value.ofOption .string metric.endpoint).WellFormed Number.Representable :=
    Value.wellFormed_ofOption fun _ _ => .string _
  have tags : (Value.object (metric.tags.map fun tag => (tag.1, .string tag.2))).WellFormed
      Number.Representable := by
    refine .object (List.pairwise_map.mpr valid.tags) fun entry member => ?_
    obtain ⟨tag, -, rfl⟩ := List.mem_map.mp member
    exact .string _
  simp only [members, List.forall_mem_cons, List.not_mem_nil, false_imp_iff, implies_true, and_true]
  exact ⟨.string _, .string _, Value.wellFormed_ofF64 valid.value, endpoint, tags⟩

/-- The members of a metric are of depth one, by its tags. -/
theorem depthEntries_members : Value.depthEntries metric.members = 1 := by
  have endpoint : (Value.ofOption .string metric.endpoint).depth = 0 :=
    Value.depth_ofOption (fun _ => rfl) metric.endpoint
  simp only [members, Value.depthEntries, endpoint, Value.depth_ofF64, Value.depth,
    Value.depthEntries_tags, zero_max, zero_add, max_zero]

/-- No member of a metric is there twice. -/
theorem nodup_members : (metric.members.map Prod.fst).Nodup := by
  have names : metric.members.map Prod.fst = fieldNames := rfl
  rw [names]
  decide

/-- The members of a metric are read as the metric if its value is finite. The `null` of
another value is no number. -/
theorem ofFields_members (valid : metric.Valid serde) :
    ofFields serde metric.members = if metric.value.isFinite then some metric else none := by
  have distinct := @nodup_members metric
  have named : Field.asMetricType (.string metric.metricType.asStr) = some metric.metricType :=
    metric.metricType.ofName_asStr
  have value : Field.asF64 (.ofF64 metric.value) =
      if metric.value.isFinite then some metric.value else none := by
    cases metric.value <;> rfl
  rw [ofFields, Field.required_of_getElem? distinct 0 rfl,
    Field.required_of_getElem? distinct 1 rfl, Field.required_of_getElem? distinct 2 rfl,
    Field.optional_of_getElem? distinct 3 rfl, Field.required_of_getElem? distinct 4 rfl]
  simp only [Field.asString, named, value, Field.decodeOption_string, Field.asTags_object,
    Option.bind_eq_bind, Option.bind_some, valid.timestamp]
  cases metric.value.isFinite <;> rfl

end SecurityMetric

namespace SerdeJson

variable {serde : SerdeJson}

/-- The members of a struct are read from what was written of them, if their nesting
allows. -/
theorem readFields_write (lawful : serde.Lawful) (names : List String)
    {members : List (String × Value)}
    (wellFormed : ∀ member ∈ members, member.2.WellFormed Number.Representable) :
    serde.readFields names (String.ofList (serde.writer.write (.object members))) =
      if Value.depthEntries members < recursionLimit then some members else none := by
  have opened : (skipSpace (String.ofList (serde.writer.write (.object members))).toList).head? ≠
      some '[' := by
    rw [String.toList_ofList]
    cases members <;> exact nofun
  rw [readFields, if_neg opened, parseMembers_write serde.escapes_writer fun member listed =>
    (wellFormed member listed).mono lawful]
  simp only [fits, Option.all_some, decide_eq_true_eq, Nat.succ_le_iff]

/-- **What the record of an item is read as.** -/
theorem fromRecord_toRecord (lawful : serde.Lawful) : (kind : Kind) → {item : Telemetry kind} →
    Telemetry.Valid serde kind item →
    serde.fromRecord kind (serde.toRecord kind item) =
      if Telemetry.reloadable kind item then some (Telemetry.reloaded kind item) else none
  | .events, (event : SecurityEvent), (valid : event.Valid serde) => by
      have fields := readFields_write lawful SecurityEvent.fieldNames
        (SecurityEvent.wellFormed_members valid)
      rw [SecurityEvent.depthEntries_members] at fields
      by_cases shallow : event.metadata.depth < recursionLimit
      · rw [if_pos shallow] at fields
        have read : (serde.readFields SecurityEvent.fieldNames
            (String.ofList (serde.writer.write (.object event.members)))).bind
              (SecurityEvent.ofFields serde) = some event.reloaded := by
          rw [fields, Option.bind_some, SecurityEvent.ofFields_members valid]
        exact read.trans (if_pos (decide_eq_true shallow)).symm
      · rw [if_neg shallow] at fields
        have unread : (serde.readFields SecurityEvent.fieldNames
            (String.ofList (serde.writer.write (.object event.members)))).bind
              (SecurityEvent.ofFields serde) = none := by
          rw [fields, Option.bind_none]
        exact unread.trans (if_neg (decide_eq_true_iff.not.mpr shallow)).symm
  | .metrics, (metric : SecurityMetric), (valid : metric.Valid serde) => by
      have fields := readFields_write lawful SecurityMetric.fieldNames
        (SecurityMetric.wellFormed_members valid)
      rw [SecurityMetric.depthEntries_members, if_pos (by decide)] at fields
      have read : (serde.readFields SecurityMetric.fieldNames
          (String.ofList (serde.writer.write (.object metric.members)))).bind
            (SecurityMetric.ofFields serde) =
              if metric.value.isFinite then some metric else none := by
        rw [fields, Option.bind_some, SecurityMetric.ofFields_members valid]
      exact read

end SerdeJson

section Actions

variable {kind : Kind} {agent : Agent} {choice : Choice} {common : Common} {column : Column kind}
  {key value : String}

/-- Where the store took it, the record of the item is there. -/
theorem SendPhase.act?_persisting {item : Telemetry kind} (stored : choice.stored = .ok) :
    ∃ written : Column kind, written.records.lookup key = some (agent.toRecord kind item) ∧
      (SendPhase.persisting item key).act? agent choice common column =
        some (common, written, .pushing item (some key), []) := by
  refine ⟨{ column with records := column.records.setKey .ok key (agent.toRecord kind item) },
    AList.lookup_insert _, ?_⟩
  rw [SendPhase.act?, stored]
  rfl

/-- A record is taken up as what it is read as, and skipped if it is not read. -/
theorem LoadPhase.act?_getting {keys : List String} (stored : choice.stored = .ok)
    (present : column.records.lookup key = some value) :
    (LoadPhase.getting (key :: keys)).act? agent choice common column =
      some (common, column, match agent.fromRecord kind value with
        | none => .getting keys
        | some item => .loaded key item keys) := by
  have found : (column.records.getKey choice.stored key).bind id = some value := by
    rw [stored, Records.getKey, present]
    rfl
  rw [LoadPhase.act?, found]
  cases read : agent.fromRecord kind value <;> simp only [read]

end Actions

/-- **A persisted record is reloaded exactly if its item is reloadable.** What `persist_item`
wrote for an item is, when the reload comes to its key and the record is still there, taken
up as the item without a response time that is not finite. -/
theorem Agent.reload_persisted {serde : SerdeJson} (lawful : serde.Lawful) {agent : Agent}
    (writes : agent.toRecord = serde.toRecord) (reads : agent.fromRecord = serde.fromRecord)
    {kind : Kind} {item : Telemetry kind} (valid : Telemetry.Valid serde kind item)
    {persisting : Choice} (persisted : persisting.stored = .ok) (common : Common)
    (column : Column kind) (key : String) :
    ∃ written, (SendPhase.persisting item key).act? agent persisting common column =
        some (common, written, .pushing item (some key), []) ∧
      ∀ (reading : Choice) (common' : Common) (column' : Column kind) (keys : List String),
        reading.stored = .ok → column'.records.lookup key = written.records.lookup key →
        ((LoadPhase.getting (key :: keys)).act? agent reading common' column' =
            some (common', column', .loaded key (Telemetry.reloaded kind item) keys) ↔
          Telemetry.reloadable kind item) := by
  obtain ⟨written, record, pushed⟩ := @SendPhase.act?_persisting kind agent persisting common column
    key item persisted
  refine ⟨written, pushed, fun reading common' column' keys answered kept => ?_⟩
  have read := SerdeJson.fromRecord_toRecord lawful kind valid
  rw [LoadPhase.act?_getting answered (kept.trans record), writes, reads, read]
  by_cases reloadable : Telemetry.reloadable kind item
  · simp only [reloadable, ↓reduceIte]
  · rw [if_neg reloadable]
    exact iff_of_false nofun reloadable

namespace SerdeJson

/-- Integers are written and read as they are, floats as in the sample of the canonical text;
every text is an identifier or a timestamp. -/
def sample : SerdeJson where
  numberText number := String.ofList (CipherSuite.numberToken number)
  readNumber := CipherSuite.readNumberToken
  readUuid := some
  readTimestamp := some

/-- The sample crates keep the laws of the parameter. -/
theorem sample_lawful : sample.Lawful := by
  intro number representable
  have token : sample.writer.number number = CipherSuite.numberToken number := String.toList_ofList
  rw [Writer.Prints, token]
  exact ⟨CipherSuite.numberToken_ne_nil number, CipherSuite.isNumberChar_numberToken number,
    CipherSuite.readNumberToken_parts number representable⟩

/-- An agent with records in the form of the sample. -/
def sampleAgent : Agent :=
  { Agent.sample (AgentConfig.new "test-api-key-1234") [] with
    toRecord := sample.toRecord
    fromRecord := sample.fromRecord }

/-- An event with a response time that is not a number. -/
def sampleEvent : SecurityEvent :=
  { SecurityEvent.new "67e55044-10b1-426f-9247-bb680e5fe0c8" "2026-01-01T00:00:00Z"
      "rate_limited" with
    reason := "é\n\"~\x7f"
    statusCode := some 429
    responseTime := some .nan
    metadata := .object [("hits", .array [.number (.posInt 7), .null]), ("path", .string "/")] }

/-- The sample event's fields are values of their types. -/
theorem sampleEvent_valid : sampleEvent.Valid sample where
  idempotencyKey := rfl
  timestamp := rfl
  statusCode := by decide
  responseTime := by
    rintro time ⟨⟩
    trivial
  metadata := by
    refine .object (by decide) ?_
    rw [List.forall_mem_cons, List.forall_mem_singleton]
    refine ⟨.array ?_, .string _⟩
    rw [List.forall_mem_cons, List.forall_mem_singleton]
    exact ⟨.number (Number.representable_of_u16 (by decide)), .null⟩

/-- A metric that is no number. -/
def sampleNan : SecurityMetric :=
  .new "2026-01-01T00:00:00Z" .responseTime .nan

def sampleNanRecord : String :=
  "\x7b\"timestamp\":\"2026-01-01T00:00:00Z\",\"metric_type\":\"response_time\"," ++
    "\"value\":null,\"endpoint\":null,\"tags\":\x7b\x7d\x7d"

/-- The fields of the metric that is not a number are values of their types too. -/
theorem sampleNan_valid : sampleNan.Valid sample where
  timestamp := rfl
  value := trivial
  tags := .nil

end SerdeJson

/-- An event with an escaped reason and nested metadata is reloaded without its response
time. -/
theorem Agent.reload_persisted_event :
    let agent := SerdeJson.sampleAgent
    let common := (agent.initial fun _ => ∅).toCommon
    let choice := Choice.sample 1700000000000000000 .ok fun _ => .clientError "connection refused"
    let key := "event_1700000000000000000_67e55044"
    let event : Telemetry .events := SerdeJson.sampleEvent
    ∃ written, (SendPhase.persisting event key).act? agent choice common (.initial ∅) =
        some (common, written, .pushing event (some key), []) ∧
      (LoadPhase.getting [key]).act? agent choice common written =
        some (common, written, .loaded key
          ({ SerdeJson.sampleEvent with responseTime := none } : SecurityEvent) []) := by
  intro agent common choice key event
  obtain ⟨written, persisted, reloaded⟩ := @Agent.reload_persisted SerdeJson.sample
    SerdeJson.sample_lawful agent rfl rfl .events event SerdeJson.sampleEvent_valid choice rfl
    common (.initial ∅) key
  exact ⟨written, persisted, (reloaded choice common written [] rfl rfl).mpr (by decide)⟩

/-- The record of a metric that is no number is skipped. -/
theorem Agent.skip_persisted_nan :
    SerdeJson.sample.Lawful ∧ SerdeJson.sampleNan.Valid SerdeJson.sample ∧
    let agent := SerdeJson.sampleAgent
    let common := (agent.initial fun _ => ∅).toCommon
    let choice := Choice.sample 1700000000000000000 .ok fun _ => .clientError "connection refused"
    let key := "metric_1700000000000000000_67e55044"
    let metric : Telemetry .metrics := SerdeJson.sampleNan
    ∃ written, (SendPhase.persisting metric key).act? agent choice common (.initial ∅) =
        some (common, written, .pushing metric (some key), []) ∧
      written.records.lookup key = some SerdeJson.sampleNanRecord ∧
      (LoadPhase.getting [key]).act? agent choice common written =
        some (common, written, .getting []) := by
  refine ⟨SerdeJson.sample_lawful, SerdeJson.sampleNan_valid, ?_⟩
  intro agent common choice key metric
  have text : agent.toRecord .metrics metric = SerdeJson.sampleNanRecord := by decide +kernel
  have unread : agent.fromRecord .metrics SerdeJson.sampleNanRecord = none := by decide +kernel
  obtain ⟨written, record, pushed⟩ := @SendPhase.act?_persisting .metrics agent choice common
    (.initial ∅) key metric rfl
  rw [text] at record
  refine ⟨written, pushed, record, ?_⟩
  rw [LoadPhase.act?_getting rfl record, unread]

end GuardAgent
