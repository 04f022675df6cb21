import GuardAgent.Agent.Buffer
import GuardAgent.Transport.Exchanges
import Mathlib.Data.List.AList
import Mathlib.Data.List.Sort

/-!
# The state of the agent

What the agent shares between its tasks: per kind a buffer with its counters and the
records of that kind in the attached store, and once for both kinds the lock of the
core, the flush permits, the clock and the running flag. An item gets a number when it
enters a buffer. The history of the items and the exchanges with the server are
recorded as well; no code reads the numbers, the history or the exchanges.
-/

namespace GuardAgent

open Foundation

/-- An item with its number among the items of its kind that entered a buffer. -/
structure Occurrence (kind : Kind) where
  serial : ℕ
  item : Telemetry kind
  deriving DecidableEq

/-- A buffered item of a kind, with its key. -/
abbrev Entry (kind : Kind) : Type := BufferedItem (Occurrence kind)

/-- The records of one namespace of the store, without their expiry. -/
abbrev Records : Type := AList fun _ : String => String

/-- How the store answers an operation. A failed one may have taken effect for some of
its keys, as a command does that timed out. -/
inductive StoreReply where
  | ok
  | failed (applied : List String)

namespace StoreReply

def succeeded : StoreReply → Bool
  | ok => true
  | failed _ => false

/-- The operation took effect for the key. -/
def affects : StoreReply → String → Bool
  | ok, _ => true
  | failed applied, key => applied.contains key

end StoreReply

namespace Records

/-- `RedisHandler::set_key`. -/
def setKey (reply : StoreReply) (key value : String) (records : Records) : Records :=
  if reply.affects key then records.insert key value else records

/-- `RedisHandler::get_key`; `none` when it fails. -/
def getKey (reply : StoreReply) (key : String) (records : Records) : Option (Option String) :=
  if reply.succeeded then some (records.lookup key) else none

/-- `RedisHandler::delete_keys`. -/
def deleteKeys (reply : StoreReply) (keys : List String) (records : Records) : Records :=
  (keys.filter reply.affects).foldl (fun records key => records.erase key) records

/-- `RedisHandler::list_keys`, sorted as both stores have it; `none` when it fails. -/
def listKeys (reply : StoreReply) (records : Records) : Option (List String) :=
  if reply.succeeded then some (records.keys.insertionSort (· ≤ ·)) else none

/-- `RedisHandler::clear_namespace`. -/
def clearNamespace (reply : StoreReply) (records : Records) : Records :=
  deleteKeys reply records.keys records

end Records

/-- Everything of one kind: its buffer and counters in the core, its records in the
store, and the history of its items. -/
structure Column (kind : Kind) where
  buffer : List (Entry kind)
  flushed : ℕ
  dropped : ℕ
  sent : ℕ
  failed : ℕ
  failureStreak : ℕ
  retryAfter : Option ℚ
  records : Records
  /-- Ghost: the items that entered the buffer, in order. -/
  entered : List (Entry kind)
  /-- Ghost: how many of them were reloaded from the store. -/
  reloaded : ℕ
  /-- Ghost: the items of accepted batches. -/
  accepted : List (Entry kind)
  /-- Ghost: the items of permanently dropped batches. -/
  rejected : List (Entry kind)
  /-- Ghost: the evicted items. -/
  evicted : List (Entry kind)
  /-- Ghost: the items wiped by `clear_buffer`. -/
  wiped : List (Entry kind)
  /-- Ghost: the exchanges with the server about items of this kind. -/
  wire : List (Exchange (Occurrence kind))

namespace Column

variable {kind : Kind}

/-- Nothing buffered and nothing counted, over the records of a store. -/
def initial (records : Records) : Column kind where
  buffer := []
  flushed := 0
  dropped := 0
  sent := 0
  failed := 0
  failureStreak := 0
  retryAfter := none
  records := records
  entered := []
  reloaded := 0
  accepted := []
  rejected := []
  evicted := []
  wiped := []
  wire := []

/-- The item enters at the back of the buffer. -/
def pushBack (item : Telemetry kind) (key : Option String) (column : Column kind) :
    Column kind :=
  let entry := ⟨⟨column.entered.length, item⟩, key⟩
  { column with buffer := column.buffer ++ [entry], entered := column.entered ++ [entry] }

/-- The oldest item is evicted and counted as dropped. -/
def evictFront (victim : Entry kind) (rest : List (Entry kind)) (column : Column kind) :
    Column kind :=
  { column with
    buffer := rest
    dropped := column.dropped + 1
    evicted := column.evicted ++ [victim] }

def drain (column : Column kind) : Batch (Occurrence kind) × Column kind :=
  let (batch, buffer, flushed) := GuardAgent.drain column.buffer column.flushed
  (batch, { column with buffer := buffer, flushed := flushed })

/-- Requeue a failed batch; with the keys of the evicted items. -/
def requeue (capacity : ℕ) (batch : Batch (Occurrence kind)) (column : Column kind) :
    Column kind × List (Option String) :=
  let requeued := GuardAgent.requeue capacity column.buffer batch column.dropped
  ({ column with
    buffer := requeued.deque
    dropped := requeued.dropped
    evicted := column.evicted ++ requeued.evicted }, requeued.evicted.map BufferedItem.redisKey)

/-- `clear` of the buffer. -/
def wipe (column : Column kind) : Column kind :=
  { column with buffer := [], wiped := column.wiped ++ column.buffer }

end Column

/-- What is shared by both kinds. -/
structure Common where
  redisHandler : Bool
  redisPersistFailures : ℕ
  lastFlushInstant : Option ℚ
  loopFailures : ℕ
  /-- A task holds the lock of the core across an await. -/
  locked : Bool
  flushPermits : ℕ
  now : ℚ
  running : Bool

structure Shared extends Common where
  columns : (kind : Kind) → Column kind

namespace Shared

/-- Replace what both kinds share and what belongs to one kind. -/
def update (kind : Kind) (common : Common) (column : Column kind) (shared : Shared) : Shared where
  toCommon := common
  columns := Function.update shared.columns kind column

/-- The changed column is the new one. -/
@[simp] theorem update_self (kind : Kind) (common : Common) (column : Column kind)
    (shared : Shared) : (shared.update kind common column).columns kind = column :=
  Function.update_self ..

/-- The other column is as before. -/
theorem update_of_ne {kind other : Kind} (different : other ≠ kind) (common : Common)
    (column : Column kind) (shared : Shared) :
    (shared.update kind common column).columns other = shared.columns other :=
  Function.update_of_ne different ..

end Shared

/-- What the environment answers to one action: the clock reading and the UUID of a
generated key, the reply of the store, and the answer to an operation of the transport. -/
structure Choice where
  nanos : ℕ
  uuid : String
  stored : StoreReply
  respond : (kind : Kind) → (op : TransportOp (Occurrence kind)) → op.Answer

/-- What an agent is built from; records are written and read by `serde_json`. -/
structure Agent where
  crates : Crates
  config : AgentConfig
  transport : HttpTransport
  redactor : Redactor
  toRecord : (kind : Kind) → Telemetry kind → String
  fromRecord : (kind : Kind) → String → Option (Telemetry kind)

namespace Agent

/-- `GuardAgent::new`, for a resolved install identifier. -/
def new (crates : Crates) (toLowercase : String → String)
    (toRecord : (kind : Kind) → Telemetry kind → String)
    (fromRecord : (kind : Kind) → String → Option (Telemetry kind))
    (config : AgentConfig) (installId : String) (nonce : Nonce) : Except GuardAgentError Agent :=
  match config.validate with
  | (_, .error error) => .error error
  | (config, .ok ()) =>
      (HttpTransport.new crates config installId nonce).map fun transport =>
        { crates := crates
          config := config
          transport := transport
          redactor := .new toLowercase config.sensitiveHeaders
          toRecord := toRecord
          fromRecord := fromRecord }

variable (agent : Agent)

/-- The state of a new agent, over the records of a store. -/
def initial (records : Kind → Records) : Shared where
  columns kind := .initial (records kind)
  redisHandler := false
  redisPersistFailures := 0
  lastFlushInstant := none
  loopFailures := 0
  locked := false
  flushPermits := max agent.config.maxConcurrentFlushes 1
  now := 0
  running := false

/-- `send_batch` for drained items. -/
def sendBatch (kind : Kind) (items : List (Occurrence kind)) :
    TransportProgram (Occurrence kind) SendOutcome :=
  agent.transport.sendBatch agent.crates
    (fun occurrence => Telemetry.toValue kind occurrence.item) ⟨kind, items⟩

/-- Items of this kind are buffered at all. -/
def enabled : Kind → Bool
  | .events => agent.config.enableEvents
  | .metrics => agent.config.enableMetrics

/-- `watermark_threshold`. -/
def watermarkThreshold : ℚ := agent.config.bufferSize * agent.config.highWatermarkRatio

end Agent

/-- The prefix of generated keys. -/
def Kind.keyPrefix : Kind → String
  | .events => "event"
  | .metrics => "metric"

/-- The keys the agent deletes: those present and not empty. -/
def liveKeys (keys : List (Option String)) : List String :=
  (keys.filterMap id).filter fun key => !key.isEmpty

end GuardAgent
