import GuardAgent.Agent.Loops
import GuardAgent.Codec

/-!
# Dynamic rules

The document of rules a server answers with, and the payload the facade carries them in. Each
member may be missing, and then has its default; members of other names are ignored, and a known
member of another type fails the parse.
-/

namespace GuardAgent

/-- The rendering of timestamps, and the parser that reads it. -/
structure Chrono where
  DateTime : Type
  parse : String → Option DateTime
  render : DateTime → String
  parse_render : ∀ time, parse (render time) = some time

/-- Timestamps that stand for themselves. -/
def Chrono.verbatim : Chrono where
  DateTime := String
  parse := some
  render text := text
  parse_render _ := rfl

/-- `DynamicRules`. -/
structure DynamicRules (DateTime : Type) where
  ruleId : String
  version : UInt64
  timestamp : DateTime
  expiresAt : Option DateTime
  ttl : UInt64
  ipBlacklist : List String
  ipWhitelist : List String
  ipBanDuration : UInt64
  blockedCountries : List String
  whitelistCountries : List String
  globalRateLimit : Option UInt64
  globalRateWindow : Option UInt64
  endpointRateLimits : Std.ExtTreeMap String (UInt64 × UInt64)
  blockedCloudProviders : Std.ExtTreeSet String
  blockedUserAgents : List String
  suspiciousPatterns : List String
  enablePenetrationDetection : Option Bool
  enableIpBanning : Option Bool
  enableRateLimiting : Option Bool
  autoBanThreshold : Option UInt64
  autoBanDuration : Option UInt64
  enableRateLimitAutoBan : Option Bool
  emergencyMode : Bool
  emergencyWhitelist : List String
  emergencyWhitelistOnly : Bool
  message : Option String

namespace DynamicRules

/-- `DynamicRules::default`, with the time it draws. -/
def default {DateTime : Type} (now : DateTime) : DynamicRules DateTime where
  ruleId := "default-rule"
  version := 1
  timestamp := now
  expiresAt := none
  ttl := 300
  ipBlacklist := []
  ipWhitelist := []
  ipBanDuration := 3600
  blockedCountries := []
  whitelistCountries := []
  globalRateLimit := none
  globalRateWindow := none
  endpointRateLimits := ∅
  blockedCloudProviders := ∅
  blockedUserAgents := []
  suspiciousPatterns := []
  enablePenetrationDetection := none
  enableIpBanning := none
  enableRateLimiting := none
  autoBanThreshold := none
  autoBanDuration := none
  enableRateLimitAutoBan := none
  emergencyMode := false
  emergencyWhitelist := []
  emergencyWhitelistOnly := false
  message := none

variable (chrono : Chrono)

/-- `DateTime<Utc>`. -/
def dateTime : Codec chrono.DateTime := .text chrono.parse chrono.render chrono.parse_render

def strings : Codec (List String) := .list .string

def optionalU64 : Codec (Option UInt64) := .option .u64 nofun

def optionalBool : Codec (Option Bool) := .option .bool nofun

/-- The members, under their names; a missing one is as in `DynamicRules::default`. -/
def members (now : chrono.DateTime) :=
  let default := default now
  Record.cons "rule_id" .string default.ruleId
  (.cons "version" .u64 default.version
  (.cons "timestamp" (dateTime chrono) default.timestamp
  (.cons "expires_at" (.option (dateTime chrono) nofun) default.expiresAt
  (.cons "ttl" .u64 default.ttl
  (.cons "ip_blacklist" strings default.ipBlacklist
  (.cons "ip_whitelist" strings default.ipWhitelist
  (.cons "ip_ban_duration" .u64 default.ipBanDuration
  (.cons "blocked_countries" strings default.blockedCountries
  (.cons "whitelist_countries" strings default.whitelistCountries
  (.cons "global_rate_limit" optionalU64 default.globalRateLimit
  (.cons "global_rate_window" optionalU64 default.globalRateWindow
  (.cons "endpoint_rate_limits" (.map (.pair .u64 .u64)) default.endpointRateLimits
  (.cons "blocked_cloud_providers" (.set .string) default.blockedCloudProviders
  (.cons "blocked_user_agents" strings default.blockedUserAgents
  (.cons "suspicious_patterns" strings default.suspiciousPatterns
  (.cons "enable_penetration_detection" optionalBool default.enablePenetrationDetection
  (.cons "enable_ip_banning" optionalBool default.enableIpBanning
  (.cons "enable_rate_limiting" optionalBool default.enableRateLimiting
  (.cons "auto_ban_threshold" optionalU64 default.autoBanThreshold
  (.cons "auto_ban_duration" optionalU64 default.autoBanDuration
  (.cons "enable_rate_limit_auto_ban" optionalBool default.enableRateLimitAutoBan
  (.cons "emergency_mode" .bool default.emergencyMode
  (.cons "emergency_whitelist" strings default.emergencyWhitelist
  (.cons "emergency_whitelist_only" .bool default.emergencyWhitelistOnly
  (.cons "message" (.option .string nofun) default.message .nil)))))))))))))))))))))))))

/-- The rules as a record. -/
def record (now : chrono.DateTime) :=
  (members chrono now).transport (β := DynamicRules chrono.DateTime) {
  toFun := fun (ruleId, version, timestamp, expiresAt, ttl, ipBlacklist, ipWhitelist, ipBanDuration,
    blockedCountries, whitelistCountries, globalRateLimit, globalRateWindow, endpointRateLimits,
    blockedCloudProviders, blockedUserAgents, suspiciousPatterns, enablePenetrationDetection,
    enableIpBanning, enableRateLimiting, autoBanThreshold, autoBanDuration, enableRateLimitAutoBan,
    emergencyMode, emergencyWhitelist, emergencyWhitelistOnly, message, ()) =>
    { ruleId, version, timestamp, expiresAt, ttl, ipBlacklist, ipWhitelist, ipBanDuration,
      blockedCountries, whitelistCountries, globalRateLimit, globalRateWindow, endpointRateLimits,
      blockedCloudProviders, blockedUserAgents, suspiciousPatterns, enablePenetrationDetection,
      enableIpBanning, enableRateLimiting, autoBanThreshold, autoBanDuration,
      enableRateLimitAutoBan, emergencyMode, emergencyWhitelist, emergencyWhitelistOnly, message }
  invFun rules :=
    (rules.ruleId, rules.version, rules.timestamp, rules.expiresAt, rules.ttl, rules.ipBlacklist,
      rules.ipWhitelist, rules.ipBanDuration, rules.blockedCountries, rules.whitelistCountries,
      rules.globalRateLimit, rules.globalRateWindow, rules.endpointRateLimits,
      rules.blockedCloudProviders, rules.blockedUserAgents, rules.suspiciousPatterns,
      rules.enablePenetrationDetection, rules.enableIpBanning, rules.enableRateLimiting,
      rules.autoBanThreshold, rules.autoBanDuration, rules.enableRateLimitAutoBan,
      rules.emergencyMode, rules.emergencyWhitelist, rules.emergencyWhitelistOnly, rules.message,
      ())
  left_inv _ := rfl
  right_inv _ := rfl }

/-- `serde_json::from_value::<DynamicRules>` of an object. -/
def fromValue (now : chrono.DateTime) (document : Value) : Option (DynamicRules chrono.DateTime) :=
  (record chrono now).fromValue document

variable {chrono}

/-- `serde_json::to_value`. -/
def toValue (rules : DynamicRules chrono.DateTime) : Value :=
  (record chrono rules.timestamp).toValue rules

/-- `GuardAgentTelemetry::serialize_rules`. -/
def serializeRules (rules : DynamicRules chrono.DateTime) : Except String (Option Value) :=
  .ok (some rules.toValue)

/-- How the agent reads and caches rules. -/
def format (now : chrono.DateTime) : RulesFormat (DynamicRules chrono.DateTime) where
  fromValue := fromValue chrono now
  ttl rules := rules.ttl.toNat

example (now : chrono.DateTime) : fromValue chrono now (.object []) = some (default now) := rfl

example (now : chrono.DateTime) : fromValue chrono now (.object [("ttl", .string "60")]) = none :=
  rfl

/-- What is written does not depend on the defaults. -/
theorem toValue_eq (now : chrono.DateTime) (rules : DynamicRules chrono.DateTime) :
    rules.toValue = (record chrono now).toValue rules := rfl

/-- The document of rules is well formed. -/
theorem wellFormed_toValue (rules : DynamicRules chrono.DateTime) :
    rules.toValue.WellFormed Number.Representable :=
  (record chrono rules.timestamp).wellFormed_toValue rules

/-- The document of rules is at most three levels deep. -/
theorem depth_toValue (rules : DynamicRules chrono.DateTime) : rules.toValue.depth ≤ 3 :=
  (record chrono rules.timestamp).depth_toValue rules

/-- **The rules survive their documents.** The payload that carries rules is read as the same
rules, also from its text, at whatever time; it nests at most three containers. An object is
read exactly if the known members it has are of their types, and then as its known members
with the defaults of the missing ones. -/
theorem serializeRules_read (chrono : Chrono) (now : chrono.DateTime) :
    (∀ rules : DynamicRules chrono.DateTime, ∃ payload,
      rules.serializeRules = .ok (some payload) ∧ fromValue chrono now payload = some rules ∧
      ∀ (writer : JsonText.Writer) (readNumber : String → Option Number) (levels : Option ℕ),
        writer.Escapes → (∀ number : Number, number.Representable →
          writer.Prints readNumber number) → (∀ limit ∈ levels, 3 ≤ limit) →
        JsonText.parse readNumber levels (String.ofList (writer.write payload)) = some payload) ∧
    ∀ entries : List (String × Value),
      ((fromValue chrono now (.object entries)).isSome = true ↔
        ∀ field ∈ (record chrono now).fields, ∀ held, entries.lookup field.name = some held →
          field.admits held = true) ∧
      fromValue chrono now ((record chrono now).fill entries) =
        fromValue chrono now (.object entries) := by
  refine ⟨fun rules => ⟨rules.toValue, rfl, ?_, ?_⟩, fun entries => ⟨?_, ?_⟩⟩
  · rw [toValue_eq now]
    exact (record chrono now).fromValue_toValue rules
  · intro writer readNumber levels escapes prints limits
    have wellFormed := (rules.wellFormed_toValue).mono prints
    have fits : JsonText.fits levels rules.toValue.depth = true := by
      cases levels with
      | none => rfl
      | some limit => exact decide_eq_true (rules.depth_toValue.trans (limits limit rfl))
    rw [JsonText.parse_write escapes wellFormed, if_pos fits]
  · exact (record chrono now).isSome_fromValue
  · exact (record chrono now).fromValue_fill entries

/-- The default rules, from a text of at most 128 nested containers. -/
theorem serializeRules_read_default :
    let rules : DynamicRules Chrono.verbatim.DateTime := default "2026-01-01T00:00:00Z"
    ∃ payload, rules.serializeRules = .ok (some payload) ∧
      fromValue .verbatim "2026-06-30T12:00:00Z" payload = some rules ∧
      JsonText.parse CipherSuite.readNumberToken (some 128)
        (String.ofList (CipherSuite.lawfulSample.canonicalWriter.write payload)) =
          some payload := by
  intro rules
  obtain ⟨payload, serialized, read, texts⟩ :=
    (serializeRules_read .verbatim "2026-06-30T12:00:00Z").1 rules
  refine ⟨payload, serialized, read, texts _ _ _ (CipherSuite.escapes_canonicalWriter _)
    CipherSuite.lawfulSample_lawful.prints ?_⟩
  rintro _ ⟨⟩
  decide

end DynamicRules

end GuardAgent
