import GuardAgent.Agent.State
import GuardAgent.Foundation.Machine

/-!
# The tasks of the agent

Every call and every spawned task is a thread whose actions are the stretches between
awaits. An action that takes the lock of the core waits while another task holds it
across an await.
-/

namespace GuardAgent

open Foundation

def partialFailureMaxBackoffSecs : ℚ := 300

/-- `try_send_event` and `try_send_metric`, after redaction. -/
inductive SendPhase (kind : Kind) where
  /-- About to lock the core. -/
  | enqueue (item : Telemetry kind)
  /-- Awaits `set_key`; holds the lock. -/
  | persisting (item : Telemetry kind) (key : String)
  /-- Persisted or not; holds the lock. -/
  | pushing (item : Telemetry kind) (key : Option String)
  /-- Awaits `delete_keys` for an evicted item; holds the lock. -/
  | forgetting (item : Telemetry kind) (key : String)
  | returned (result : Except GuardAgentError Unit)
  | panicked

/-- `flush_events` and `flush_metrics`. -/
inductive FlushPhase (kind : Kind) where
  | start
  | gated (gate : Option ℚ)
  | draining
  | stamping (batch : Batch (Occurrence kind))
  /-- In `send_batch`, of which `trace` is done and `rest` remains. -/
  | sending (batch : Batch (Occurrence kind)) (trace : List (TransportEvent (Occurrence kind)))
      (rest : TransportProgram (Occurrence kind) SendOutcome)
  /-- In `confirm_keys`; afterwards the batch may be counted as sent. -/
  | confirming (keys : List (Option String)) (sent : Option ℕ)
  | deleting (live : List String) (sent : Option ℕ)
  | recordingSent (count : ℕ)
  | requeueing (batch : Batch (Occurrence kind))
  | recordingFailed (count : ℕ) (evicted : List (Option String))
  | finished

/-- The part of `reload_from_redis` for one kind; holds the lock. -/
inductive LoadPhase (kind : Kind) where
  | listing
  | getting (keys : List String)
  /-- A record was read; the buffer may have to make room. -/
  | loaded (key : String) (item : Telemetry kind) (keys : List String)
  /-- Awaits `delete_keys` for an evicted item. -/
  | forgetting (victim key : String) (item : Telemetry kind) (keys : List String)
  | appending (key : String) (item : Telemetry kind) (keys : List String)
  | finished

inductive Task where
  | send (kind : Kind) (phase : SendPhase kind)
  /-- `flush_buffer`, waiting for a permit. -/
  | flushBuffer
  /-- A flush triggered by the watermark or the timer. -/
  | gatedFlush
  /-- `flush_if_needed`; holds a permit. -/
  | flushIfNeeded
  /-- `do_flush`; holds a permit. -/
  | flush (kind : Kind) (phase : FlushPhase kind)
  | clearBuffer
  | clearNamespace (kind : Kind)
  | start
  /-- Awaits the connection of the built-in backend. A connected backend takes the place of an
  attached handler; the agent has one set of records all the same, so that what is said of runs
  with both is said of a backend that holds the records of the attached store. -/
  | connect
  /-- `reload_from_redis`, before it holds the lock. -/
  | reload
  | lockForReload
  | load (kind : Kind) (phase : LoadPhase kind)
  | finished

/-- What can happen from outside. -/
inductive Arrival where
  | trySend (kind : Kind) (item : Telemetry kind)
  | flushBuffer
  /-- The flush loop ticks. -/
  | flushTick
  | clearBuffer
  | start
  /-- `stop` clears the running flag. -/
  | stop
  | attachRedisHandler
  /-- A record reaches the end of its time to live. -/
  | expire (kind : Kind) (key : String)
  | elapse (seconds : ℚ)

variable (agent : Agent)

/-- The action of a send. Pushing may start a gated flush. -/
def SendPhase.act? {kind : Kind} (phase : SendPhase kind) (choice : Choice) (common : Common)
    (column : Column kind) : Option (Common × Column kind × SendPhase kind × List Task) :=
  let started (pushed : Column kind) : List Task :=
    if agent.watermarkThreshold ≤ pushed.buffer.length ∧ common.running = true then [.gatedFlush]
    else []
  match phase with
  | .enqueue item =>
      if common.locked then none
      else if column.buffer.length < agent.config.bufferSize then
        if common.redisHandler then
          let key := generateShortKey kind.keyPrefix choice.nanos choice.uuid
          some ({ common with locked := true }, column, .persisting item key, [])
        else
          let pushed := column.pushBack item none
          some (common, pushed, .returned (.ok ()), started pushed)
      else match agent.config.bufferOverflowPolicy with
        | .drop =>
            match column.buffer with
            | [] => some (common, column, .panicked, [])
            | victim :: rest =>
                let evicted := column.evictFront victim rest
                match liveKeys [victim.redisKey] with
                | [] => some (common, evicted, .enqueue item, [])
                | key :: _ =>
                    if common.redisHandler then
                      some ({ common with locked := true }, evicted, .forgetting item key, [])
                    else some (common, evicted, .enqueue item, [])
        | .raise =>
            some (common, column, .returned (.error (.bufferFull agent.config.bufferSize)), [])
        | .block => some (common, column, .enqueue item, [])
  | .persisting item key =>
      let written := { column with
        records := column.records.setKey choice.stored key (agent.toRecord kind item) }
      if choice.stored.succeeded then some (common, written, .pushing item (some key), [])
      else some ({ common with redisPersistFailures := common.redisPersistFailures + 1 }, written,
        .pushing item none, [])
  | .pushing item key =>
      let pushed := column.pushBack item key
      some ({ common with locked := false }, pushed, .returned (.ok ()), started pushed)
  | .forgetting item key =>
      some ({ common with locked := false },
        { column with records := column.records.deleteKeys choice.stored [key] },
        .enqueue item, [])
  | .returned _ => none
  | .panicked => none

/-- What follows `confirm_keys`. -/
def FlushPhase.afterConfirm {kind : Kind} : Option ℕ → FlushPhase kind
  | some count => .recordingSent count
  | none => .finished

/-- The action of a flush of one kind. -/
def FlushPhase.act? {kind : Kind} (phase : FlushPhase kind) (choice : Choice) (common : Common)
    (column : Column kind) : Option (Common × Column kind × FlushPhase kind) :=
  match phase with
  | .start => if common.locked then none else some (common, column, .gated column.retryAfter)
  | .gated gate =>
      if gate.any fun opens => common.now < opens then some (common, column, .finished)
      else some (common, column, .draining)
  | .draining =>
      if common.locked then none
      else
        let (batch, drained) := column.drain
        some (common, drained, if batch.items = [] then .finished else .stamping batch)
  | .stamping batch =>
      if common.locked then none
      else some ({ common with lastFlushInstant := some common.now }, column,
        .sending batch [] (agent.sendBatch kind batch.items))
  | .sending batch trace (.perform op next) =>
      let answer := choice.respond kind op
      let event : TransportEvent (Occurrence kind) := ⟨op, answer⟩
      some (common, { column with wire := column.wire ++ (exchange? event).toList },
        .sending batch (trace ++ [event]) (next answer))
  | .sending batch _ (.done .accepted) =>
      some (common, { column with accepted := column.accepted ++ batch.entries },
        .confirming batch.keys (some batch.items.length))
  | .sending batch _ (.done (.permanentDrop _ _)) =>
      some (common, { column with rejected := column.rejected ++ batch.entries },
        .confirming batch.keys none)
  | .sending batch _ (.done (.failed _)) => some (common, column, .requeueing batch)
  | .confirming keys sent =>
      match liveKeys keys with
      | [] => some (common, column, .afterConfirm sent)
      | key :: live =>
          if common.locked then none
          else if common.redisHandler then some (common, column, .deleting (key :: live) sent)
          else some (common, column, .afterConfirm sent)
  | .deleting live sent =>
      some (common, { column with records := column.records.deleteKeys choice.stored live },
        .afterConfirm sent)
  | .recordingSent count =>
      if common.locked then none
      else some (common,
        { column with sent := column.sent + count, failureStreak := 0, retryAfter := none },
        .finished)
  | .requeueing batch =>
      if common.locked then none
      else
        let (requeued, evicted) := column.requeue agent.config.bufferSize batch
        some (common, requeued, .recordingFailed batch.items.length evicted)
  | .recordingFailed count evicted =>
      if common.locked then none
      else
        let streak := min (column.failureStreak + 1) (2 ^ 32 - 1)
        let delay := calculateBackoffDelay (streak - 1) agent.config.flushInterval
          partialFailureMaxBackoffSecs
        some ({ common with loopFailures := common.loopFailures + 1 },
          { column with
            failed := column.failed + count
            failureStreak := streak
            retryAfter := some (common.now + delay) }, .confirming evicted none)
  | .finished => none

/-- The action of a reload of one kind. -/
def LoadPhase.act? {kind : Kind} (phase : LoadPhase kind) (choice : Choice) (common : Common)
    (column : Column kind) : Option (Common × Column kind × LoadPhase kind) :=
  match phase with
  | .listing =>
      match column.records.listKeys choice.stored with
      | some keys => some (common, column, .getting keys)
      | none => some (common, column, .finished)
  | .getting [] => some (common, column, .finished)
  | .getting (key :: keys) =>
      match (column.records.getKey choice.stored key).bind id with
      | none => some (common, column, .getting keys)
      | some value =>
          match agent.fromRecord kind value with
          | none => some (common, column, .getting keys)
          | some item => some (common, column, .loaded key item keys)
  | .loaded key item keys =>
      if agent.config.bufferSize ≤ column.buffer.length then
        match column.buffer with
        | [] => some (common, column, .appending key item keys)
        | victim :: rest =>
            let evicted := column.evictFront victim rest
            match liveKeys [victim.redisKey] with
            | [] => some (common, evicted, .appending key item keys)
            | forgotten :: _ =>
                if common.redisHandler then
                  some (common, evicted, .forgetting forgotten key item keys)
                else some (common, evicted, .appending key item keys)
      else some (common, column, .appending key item keys)
  | .forgetting victim key item keys =>
      some (common, { column with records := column.records.deleteKeys choice.stored [victim] },
        .appending key item keys)
  | .appending key item keys =>
      let pushed := column.pushBack item (some key)
      some (common, { pushed with reloaded := pushed.reloaded + 1 }, .getting keys)
  | .finished => none

/-- The next action of a task. -/
def Task.act? (task : Task) (choice : Choice) (shared : Shared) :
    Option (Shared × Task × List Task) :=
  match task with
  | .send kind phase =>
      (phase.act? agent choice shared.toCommon (shared.columns kind)).map
        fun (common, column, phase, started) =>
          (shared.update kind common column, .send kind phase, started)
  | .flushBuffer =>
      if shared.flushPermits = 0 then none
      else some ({ shared with flushPermits := shared.flushPermits - 1 },
        .flush .events .start, [])
  | .gatedFlush =>
      if shared.flushPermits = 0 then some (shared, .finished, [])
      else some ({ shared with flushPermits := shared.flushPermits - 1 }, .flushIfNeeded, [])
  | .flushIfNeeded =>
      if shared.locked then none
      else
        let total := (shared.columns .events).buffer.length +
          (shared.columns .metrics).buffer.length
        let elapsed := shared.lastFlushInstant.all fun last =>
          (agent.config.flushInterval : ℚ) ≤ shared.now - last
        if total ≠ 0 ∧ (elapsed = true ∨ agent.watermarkThreshold ≤ total) then
          some (shared, .flush .events .start, [])
        else some ({ shared with flushPermits := shared.flushPermits + 1 }, .finished, [])
  | .flush kind phase =>
      match phase with
      | .finished =>
          match kind with
          | .events => some (shared, .flush .metrics .start, [])
          | .metrics => some ({ shared with flushPermits := shared.flushPermits + 1 },
              .finished, [])
      | phase =>
          (phase.act? agent choice shared.toCommon (shared.columns kind)).map
            fun (common, column, phase) => (shared.update kind common column, .flush kind phase, [])
  | .clearBuffer =>
      if shared.locked then none
      else some ({ shared with columns := fun kind => (shared.columns kind).wipe },
        if shared.redisHandler then .clearNamespace .events else .finished, [])
  | .clearNamespace kind =>
      let column := shared.columns kind
      some (shared.update kind shared.toCommon
        { column with records := column.records.clearNamespace choice.stored },
        match kind with
        | .events => .clearNamespace .metrics
        | .metrics => .finished, [])
  | .start =>
      if shared.running then some (shared, .finished, [])
      else some ({ shared with running := true },
        if agent.config.redis.isSome then .connect else .reload, [])
  | .connect =>
      -- the handler may be another one afterwards, over the same records
      if shared.locked then none
      else some ({ shared with
        redisHandler := shared.redisHandler || choice.stored.succeeded }, .reload, [])
  | .reload =>
      if shared.locked then none
      else some (shared, if shared.redisHandler then .lockForReload else .finished, [])
  | .lockForReload =>
      if shared.locked then none
      else some ({ shared with locked := true }, .load .events .listing, [])
  | .load kind phase =>
      match phase with
      | .finished =>
          match kind with
          | .events => some (shared, .load .metrics .listing, [])
          | .metrics => some ({ shared with locked := false }, .finished, [])
      | phase =>
          (phase.act? agent choice shared.toCommon (shared.columns kind)).map
            fun (common, column, phase) => (shared.update kind common column, .load kind phase, [])
  | .finished => none

/-- What an arrival changes at once, and the task it starts. -/
def Arrival.arrive? (arrival : Arrival) (shared : Shared) : Option (Shared × List Task) :=
  match arrival with
  | .trySend kind item =>
      some (shared, if agent.enabled kind then
        [.send kind (.enqueue (agent.redactor.redact kind item))] else [])
  | .flushBuffer => some (shared, [.flushBuffer])
  | .flushTick => some (shared, [.gatedFlush])
  | .clearBuffer => some (shared, [.clearBuffer])
  | .start => some (shared, [.start])
  | .stop => some ({ shared with running := false }, [])
  | .attachRedisHandler =>
      if shared.locked then none else some ({ shared with redisHandler := true }, [])
  | .expire kind key =>
      let column := shared.columns kind
      some (shared.update kind shared.toCommon
        { column with records := column.records.erase key }, [])
  | .elapse seconds =>
      if 0 ≤ seconds then some ({ shared with now := shared.now + seconds }, []) else none

/-- The tasks of the agent over its shared state. -/
def Agent.threads : Threads Shared Task Arrival Choice where
  arrive? := Arrival.arrive? agent
  act? := Task.act? agent

/-- All interleavings of the tasks. -/
def Agent.machine : Machine (Pool Shared Task) (PoolLabel Arrival Choice) :=
  agent.threads.machine

end GuardAgent
