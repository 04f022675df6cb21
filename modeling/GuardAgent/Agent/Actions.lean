import GuardAgent.Agent.Tasks

/-!
# What the actions of a task can be

One constructor for each branch of the code, with the conditions under which it is taken
and what it changes. Every action is one of these (`Task.act?_acts`).
-/

namespace GuardAgent

open Foundation

variable (agent : Agent) {kind : Kind}

/-- The gated flush that a push starts at the watermark. -/
def startedByPush (common : Common) (pushed : Column kind) : List Task :=
  if agent.watermarkThreshold ≤ pushed.buffer.length ∧ common.running = true then [.gatedFlush]
  else []

/-- The actions of a send. -/
inductive SendPhase.Acts (choice : Choice) (common : Common) (column : Column kind) :
    SendPhase kind → Common → Column kind → SendPhase kind → List Task → Prop where
  | persist (item : Telemetry kind) : common.locked = false →
      column.buffer.length < agent.config.bufferSize → common.redisHandler = true →
      Acts choice common column (.enqueue item) { common with locked := true } column
        (.persisting item (generateShortKey kind.keyPrefix choice.nanos choice.uuid)) []
  | push (item : Telemetry kind) : common.locked = false →
      column.buffer.length < agent.config.bufferSize → common.redisHandler = false →
      Acts choice common column (.enqueue item) common (column.pushBack item none)
        (.returned (.ok ())) (startedByPush agent common (column.pushBack item none))
  | panic (item : Telemetry kind) : common.locked = false →
      agent.config.bufferSize ≤ column.buffer.length →
      agent.config.bufferOverflowPolicy = .drop → column.buffer = [] →
      Acts choice common column (.enqueue item) common column .panicked []
  | evict (item : Telemetry kind) (victim : Entry kind) (rest : List (Entry kind)) :
      common.locked = false → agent.config.bufferSize ≤ column.buffer.length →
      agent.config.bufferOverflowPolicy = .drop → column.buffer = victim :: rest →
      liveKeys [victim.redisKey] = [] ∨ common.redisHandler = false →
      Acts choice common column (.enqueue item) common (column.evictFront victim rest)
        (.enqueue item) []
  | evictKeyed (item : Telemetry kind) (victim : Entry kind) (rest : List (Entry kind))
      (key : String) : common.locked = false →
      agent.config.bufferSize ≤ column.buffer.length →
      agent.config.bufferOverflowPolicy = .drop → column.buffer = victim :: rest →
      liveKeys [victim.redisKey] = [key] → common.redisHandler = true →
      Acts choice common column (.enqueue item) { common with locked := true }
        (column.evictFront victim rest) (.forgetting item key) []
  | refuse (item : Telemetry kind) : common.locked = false →
      agent.config.bufferSize ≤ column.buffer.length →
      agent.config.bufferOverflowPolicy = .raise →
      Acts choice common column (.enqueue item) common column
        (.returned (.error (.bufferFull agent.config.bufferSize))) []
  | wait (item : Telemetry kind) : common.locked = false →
      agent.config.bufferSize ≤ column.buffer.length →
      agent.config.bufferOverflowPolicy = .block →
      Acts choice common column (.enqueue item) common column (.enqueue item) []
  | persisted (item : Telemetry kind) (key : String) : choice.stored.succeeded = true →
      Acts choice common column (.persisting item key) common
        { column with
          records := column.records.setKey choice.stored key (agent.toRecord kind item) }
        (.pushing item (some key)) []
  | unpersisted (item : Telemetry kind) (key : String) : choice.stored.succeeded = false →
      Acts choice common column (.persisting item key)
        { common with redisPersistFailures := common.redisPersistFailures + 1 }
        { column with
          records := column.records.setKey choice.stored key (agent.toRecord kind item) }
        (.pushing item none) []
  | pushed (item : Telemetry kind) (key : Option String) :
      Acts choice common column (.pushing item key) { common with locked := false }
        (column.pushBack item key) (.returned (.ok ()))
        (startedByPush agent common (column.pushBack item key))
  | forgot (item : Telemetry kind) (key : String) :
      Acts choice common column (.forgetting item key) { common with locked := false }
        { column with records := column.records.deleteKeys choice.stored [key] }
        (.enqueue item) []

/-- The actions of a flush of one kind. -/
inductive FlushPhase.Acts (choice : Choice) (common : Common) (column : Column kind) :
    FlushPhase kind → Common → Column kind → FlushPhase kind → Prop where
  | read : common.locked = false →
      Acts choice common column .start common column (.gated column.retryAfter)
  | closed (opens : ℚ) : common.now < opens →
      Acts choice common column (.gated (some opens)) common column .finished
  | passed (gate : Option ℚ) : (∀ opens ∈ gate, opens ≤ common.now) →
      Acts choice common column (.gated gate) common column .draining
  | drainedNone : common.locked = false → column.buffer = [] →
      Acts choice common column .draining common column.drain.2 .finished
  | drained : common.locked = false → column.buffer ≠ [] →
      Acts choice common column .draining common column.drain.2 (.stamping column.drain.1)
  | stamped (batch : Batch (Occurrence kind)) : common.locked = false →
      Acts choice common column (.stamping batch)
        { common with lastFlushInstant := some common.now } column
        (.sending batch [] (agent.sendBatch kind batch.items))
  | performed (batch : Batch (Occurrence kind)) (trace : List (TransportEvent (Occurrence kind)))
      (op : TransportOp (Occurrence kind))
      (next : op.Answer → TransportProgram (Occurrence kind) SendOutcome) :
      Acts choice common column (.sending batch trace (.perform op next)) common
        { column with wire := column.wire ++ (exchange? ⟨op, choice.respond kind op⟩).toList }
        (.sending batch (trace ++ [⟨op, choice.respond kind op⟩]) (next (choice.respond kind op)))
  | accepted (batch : Batch (Occurrence kind)) (trace : List (TransportEvent (Occurrence kind))) :
      Acts choice common column (.sending batch trace (.done .accepted)) common
        { column with accepted := column.accepted ++ batch.entries }
        (.confirming batch.keys (some batch.items.length))
  | rejected (batch : Batch (Occurrence kind)) (trace : List (TransportEvent (Occurrence kind)))
      (statusCode : ℕ) (detail : String) :
      Acts choice common column (.sending batch trace (.done (.permanentDrop statusCode detail)))
        common { column with rejected := column.rejected ++ batch.entries }
        (.confirming batch.keys none)
  | failed (batch : Batch (Occurrence kind)) (trace : List (TransportEvent (Occurrence kind)))
      (error : GuardAgentError) :
      Acts choice common column (.sending batch trace (.done (.failed error))) common column
        (.requeueing batch)
  | confirmedNone (keys : List (Option String)) (sent : Option ℕ) :
      liveKeys keys = [] ∨ common.locked = false ∧ common.redisHandler = false →
      Acts choice common column (.confirming keys sent) common column (.afterConfirm sent)
  | confirmed (keys : List (Option String)) (sent : Option ℕ) : liveKeys keys ≠ [] →
      common.locked = false → common.redisHandler = true →
      Acts choice common column (.confirming keys sent) common column
        (.deleting (liveKeys keys) sent)
  | deleted (live : List String) (sent : Option ℕ) :
      Acts choice common column (.deleting live sent) common
        { column with records := column.records.deleteKeys choice.stored live }
        (.afterConfirm sent)
  | recordedSent (count : ℕ) : common.locked = false →
      Acts choice common column (.recordingSent count) common
        { column with sent := column.sent + count, failureStreak := 0, retryAfter := none }
        .finished
  | requeued (batch : Batch (Occurrence kind)) : common.locked = false →
      Acts choice common column (.requeueing batch) common
        (column.requeue agent.config.bufferSize batch).1
        (.recordingFailed batch.items.length (column.requeue agent.config.bufferSize batch).2)
  | recordedFailed (count : ℕ) (evicted : List (Option String)) (streak : ℕ) :
      common.locked = false → streak = min (column.failureStreak + 1) (2 ^ 32 - 1) →
      Acts choice common column (.recordingFailed count evicted)
        { common with loopFailures := common.loopFailures + 1 }
        { column with
          failed := column.failed + count
          failureStreak := streak
          retryAfter := some (common.now + calculateBackoffDelay (streak - 1)
            agent.config.flushInterval partialFailureMaxBackoffSecs) }
        (.confirming evicted none)

/-- The actions of a reload of one kind. -/
inductive LoadPhase.Acts (choice : Choice) (common : Common) (column : Column kind) :
    LoadPhase kind → Column kind → LoadPhase kind → Prop where
  | listed (keys : List String) : Acts choice common column .listing column (.getting keys)
  | unlisted : Acts choice common column .listing column .finished
  | none : Acts choice common column (.getting []) column .finished
  | skipped (key : String) (keys : List String) :
      Acts choice common column (.getting (key :: keys)) column (.getting keys)
  | got (key value : String) (item : Telemetry kind) (keys : List String) :
      (column.records.getKey choice.stored key).bind id = some value →
      agent.fromRecord kind value = some item →
      Acts choice common column (.getting (key :: keys)) column (.loaded key item keys)
  | room (key : String) (item : Telemetry kind) (keys : List String) :
      column.buffer.length < agent.config.bufferSize ∨ column.buffer = [] →
      Acts choice common column (.loaded key item keys) column (.appending key item keys)
  | evict (key : String) (item : Telemetry kind) (keys : List String) (victim : Entry kind)
      (rest : List (Entry kind)) : agent.config.bufferSize ≤ column.buffer.length →
      column.buffer = victim :: rest →
      liveKeys [victim.redisKey] = [] ∨ common.redisHandler = false →
      Acts choice common column (.loaded key item keys) (column.evictFront victim rest)
        (.appending key item keys)
  | evictKeyed (key : String) (item : Telemetry kind) (keys : List String) (victim : Entry kind)
      (rest : List (Entry kind)) (forgotten : String) :
      agent.config.bufferSize ≤ column.buffer.length → column.buffer = victim :: rest →
      liveKeys [victim.redisKey] = [forgotten] → common.redisHandler = true →
      Acts choice common column (.loaded key item keys) (column.evictFront victim rest)
        (.forgetting forgotten key item keys)
  | forgot (victim key : String) (item : Telemetry kind) (keys : List String) :
      Acts choice common column (.forgetting victim key item keys)
        { column with records := column.records.deleteKeys choice.stored [victim] }
        (.appending key item keys)
  | appended (key : String) (item : Telemetry kind) (keys : List String) :
      Acts choice common column (.appending key item keys)
        { column.pushBack item (some key) with
          reloaded := (column.pushBack item (some key)).reloaded + 1 } (.getting keys)

variable {agent} {choice : Choice} {common common' : Common} {column column' : Column kind}

/-- Of a single key at most one is in use. -/
theorem liveKeys_singleton {key : Option String} {live : String} {others : List String}
    (found : liveKeys [key] = live :: others) : liveKeys [key] = [live] := by
  have short : (liveKeys [key]).length ≤ 1 :=
    (List.length_filter_le _ _).trans (List.length_filterMap_le _ _)
  rw [found, List.length_cons] at short
  have alone : others = [] := List.eq_nil_of_length_eq_zero (by omega)
  rw [found, alone]

/-- What a send computes is one of the listed actions of a send. -/
theorem SendPhase.act?_acts {phase after : SendPhase kind} {started : List Task}
    (acted : phase.act? agent choice common column = some (common', column', after, started)) :
    phase.Acts agent choice common column common' column' after started := by
  cases phase with
  | enqueue item =>
      simp only [act?] at acted
      split at acted
      · cases acted
      next unlocked =>
      have free : common.locked = false := Bool.eq_false_iff.mpr unlocked
      split at acted
      · next room =>
          split at acted
          · next handler =>
              cases acted
              exact .persist item free room handler
          · next handler =>
              cases acted
              exact .push item free room (Bool.eq_false_iff.mpr handler)
      next full =>
      have many := Nat.le_of_not_lt full
      split at acted
      · next drops =>
          split at acted
          · next empty =>
              cases acted
              exact .panic item free many drops empty
          · next victim rest front =>
              split at acted
              · next none =>
                  cases acted
                  exact .evict item victim rest free many drops front (Or.inl none)
              · next key others live =>
                  split at acted
                  · next handler =>
                      cases acted
                      exact .evictKeyed item victim rest key free many drops front
                        (liveKeys_singleton live) handler
                  · next handler =>
                      cases acted
                      exact .evict item victim rest free many drops front
                        (Or.inr (Bool.eq_false_iff.mpr handler))
      · next raises =>
          cases acted
          exact .refuse item free many raises
      · next blocks =>
          cases acted
          exact .wait item free many blocks
  | persisting item key =>
      simp only [act?] at acted
      split at acted
      · next stored =>
          cases acted
          exact .persisted item key stored
      · next failed =>
          cases acted
          exact .unpersisted item key (Bool.eq_false_iff.mpr failed)
  | pushing item key =>
      cases acted
      exact .pushed item key
  | forgetting item key =>
      cases acted
      exact .forgot item key
  | returned result => cases acted
  | panicked => cases acted

/-- Each of these is an action of the code. -/
theorem SendPhase.act?_of_acts {phase after : SendPhase kind} {started : List Task}
    (acts : phase.Acts agent choice common column common' column' after started) :
    phase.act? agent choice common column = some (common', column', after, started) := by
  cases acts with
  | persist item free room handler => simp only [act?, free, room, handler, ↓reduceIte,
      Bool.false_eq_true]
  | push item free room handler =>
      simp only [act?, free, room, handler, ↓reduceIte, Bool.false_eq_true]
      rfl
  | panic item free full drops empty =>
      simp only [act?, free, Nat.not_lt.mpr full, drops, ↓reduceIte, Bool.false_eq_true]
      rw [empty]
  | evict item victim rest free full drops front unkeyed =>
      simp only [act?, free, Nat.not_lt.mpr full, drops, ↓reduceIte, Bool.false_eq_true]
      rw [front]
      rcases unkeyed with none | handler
      · simp only [none]
      · simp only [handler, Bool.false_eq_true, ↓reduceIte]
        split <;> rfl
  | evictKeyed item victim rest key free full drops front live handler =>
      simp only [act?, free, Nat.not_lt.mpr full, drops, ↓reduceIte, Bool.false_eq_true]
      rw [front]
      simp only [live, handler, ↓reduceIte]
  | refuse item free full raises =>
      simp only [act?, free, Nat.not_lt.mpr full, raises, ↓reduceIte, Bool.false_eq_true]
  | wait item free full blocks =>
      simp only [act?, free, Nat.not_lt.mpr full, blocks, ↓reduceIte, Bool.false_eq_true]
  | persisted item key stored => simp only [act?, stored, ↓reduceIte]
  | unpersisted item key failed => simp only [act?, failed, ↓reduceIte, Bool.false_eq_true]
  | pushed item key => rfl
  | forgot item key => rfl

/-- What a flush computes is one of the listed actions of a flush. -/
theorem FlushPhase.act?_acts {phase after : FlushPhase kind}
    (acted : phase.act? agent choice common column = some (common', column', after)) :
    phase.Acts agent choice common column common' column' after := by
  -- The phases that lock the core act only when it is free.
  cases phase with
  | start =>
      obtain ⟨locked, same⟩ := Option.ite_none_left_eq_some.mp acted
      cases same
      exact .read (Bool.eq_false_iff.mpr locked)
  | gated gate =>
      simp only [act?] at acted
      split at acted
      · next closed =>
          cases acted
          obtain ⟨opens, rfl, early⟩ := (Option.any_eq_true ..).mp closed
          exact .closed opens (of_decide_eq_true early)
      · next opened =>
          cases acted
          refine .passed gate fun opens gated => not_lt.mp fun early => opened ?_
          exact (Option.any_eq_true ..).mpr ⟨opens, gated, decide_eq_true early⟩
  | draining =>
      obtain ⟨locked, same⟩ := Option.ite_none_left_eq_some.mp acted
      have free := Bool.eq_false_iff.mpr locked
      change some (common, column.drain.2, if column.drain.1.items = [] then FlushPhase.finished
        else .stamping column.drain.1) = _ at same
      by_cases empty : column.buffer = []
      · have none : column.drain.1.items = [] := by
          change column.buffer.map BufferedItem.item = []
          rw [empty]
          rfl
        rw [if_pos none] at same
        cases same
        exact .drainedNone free empty
      · have some : column.drain.1.items ≠ [] := by
          intro none
          exact empty (List.map_eq_nil_iff.mp none)
        rw [if_neg some] at same
        cases same
        exact .drained free empty
  | stamping batch =>
      obtain ⟨locked, same⟩ := Option.ite_none_left_eq_some.mp acted
      cases same
      exact .stamped batch (Bool.eq_false_iff.mpr locked)
  | sending batch trace rest =>
      cases rest with
      | perform op next =>
          cases acted
          exact .performed batch trace op next
      | done outcome =>
          cases outcome with
          | accepted =>
              cases acted
              exact .accepted batch trace
          | permanentDrop statusCode detail =>
              cases acted
              exact .rejected batch trace statusCode detail
          | failed error =>
              cases acted
              exact .failed batch trace error
  | confirming keys sent =>
      simp only [act?] at acted
      split at acted
      · next none =>
          cases acted
          exact .confirmedNone keys sent (Or.inl none)
      · next key live found =>
          obtain ⟨locked, same⟩ := Option.ite_none_left_eq_some.mp acted
          have free := Bool.eq_false_iff.mpr locked
          split at same
          · next handler =>
              cases same
              rw [← found]
              refine .confirmed keys sent ?_ free handler
              rw [found]
              exact List.cons_ne_nil _ _
          · next handler =>
              cases same
              exact .confirmedNone keys sent (Or.inr ⟨free, Bool.eq_false_iff.mpr handler⟩)
  | deleting live sent =>
      cases acted
      exact .deleted live sent
  | recordingSent count =>
      obtain ⟨locked, same⟩ := Option.ite_none_left_eq_some.mp acted
      cases same
      exact .recordedSent count (Bool.eq_false_iff.mpr locked)
  | requeueing batch =>
      obtain ⟨locked, same⟩ := Option.ite_none_left_eq_some.mp acted
      cases same
      exact .requeued batch (Bool.eq_false_iff.mpr locked)
  | recordingFailed count evicted =>
      obtain ⟨locked, same⟩ := Option.ite_none_left_eq_some.mp acted
      cases same
      exact .recordedFailed count evicted _ (Bool.eq_false_iff.mpr locked) rfl
  | finished => cases acted

/-- Each listed action of a flush is what the flush computes. -/
theorem FlushPhase.act?_of_acts {phase after : FlushPhase kind}
    (acts : phase.Acts agent choice common column common' column' after) :
    phase.act? agent choice common column = some (common', column', after) := by
  cases acts with
  | closed opens early => simp only [act?, Option.any_some, early, decide_true, ↓reduceIte]
  | passed gate opened =>
      have passes : (gate.any fun opens => common.now < opens) = false := by
        apply Bool.eq_false_iff.mpr
        intro closed
        obtain ⟨opens, gated, early⟩ := (Option.any_eq_true ..).mp closed
        exact not_lt.mpr (opened opens gated) (of_decide_eq_true early)
      simp only [act?, passes, ↓reduceIte, Bool.false_eq_true]
  | drainedNone free empty =>
      have none : column.drain.1.items = [] := by
        change column.buffer.map BufferedItem.item = []
        rw [empty]
        rfl
      simp only [act?, free, none, ↓reduceIte, Bool.false_eq_true]
  | drained free some =>
      have some' : column.drain.1.items ≠ [] := fun none => some (List.map_eq_nil_iff.mp none)
      simp only [act?, free, some', ↓reduceIte, Bool.false_eq_true]
  | confirmedNone keys sent unkeyed =>
      rcases unkeyed with none | ⟨free, handler⟩
      · simp only [act?, none]
      · simp only [act?, free, handler, ↓reduceIte, Bool.false_eq_true]
        split <;> rfl
  | confirmed keys sent some free handler =>
      obtain ⟨key, live, found⟩ := List.exists_cons_of_ne_nil some
      simp only [act?, found, free, handler, ↓reduceIte, Bool.false_eq_true]
  | recordedFailed count evicted streak free same =>
      simp only [act?, free, same, ↓reduceIte, Bool.false_eq_true]
  | read free => simp only [act?, free, ↓reduceIte, Bool.false_eq_true]
  | stamped batch free => simp only [act?, free, ↓reduceIte, Bool.false_eq_true]
  | recordedSent count free => simp only [act?, free, ↓reduceIte, Bool.false_eq_true]
  | requeued batch free => simp only [act?, free, ↓reduceIte, Bool.false_eq_true]
  | _ => rfl

/-- What a reload computes is one of its listed actions; the shared part of the state is kept. -/
theorem LoadPhase.act?_acts {phase after : LoadPhase kind}
    (acted : phase.act? agent choice common column = some (common', column', after)) :
    common' = common ∧ phase.Acts agent choice common column column' after := by
  cases phase with
  | listing =>
      simp only [act?] at acted
      split at acted
      · next keys _ =>
          cases acted
          exact ⟨rfl, .listed keys⟩
      · cases acted
        exact ⟨rfl, .unlisted⟩
  | getting keys =>
      cases keys with
      | nil =>
          cases acted
          exact ⟨rfl, .none⟩
      | cons key keys =>
          simp only [act?] at acted
          split at acted
          · cases acted
            exact ⟨rfl, .skipped key keys⟩
          · next value found =>
              split at acted
              · cases acted
                exact ⟨rfl, .skipped key keys⟩
              · next item read =>
                  cases acted
                  exact ⟨rfl, .got key value item keys found read⟩
  | loaded key item keys =>
      simp only [act?] at acted
      split at acted
      · next full =>
          split at acted
          · next empty =>
              cases acted
              exact ⟨rfl, .room key item keys (Or.inr empty)⟩
          · next victim rest front =>
              split at acted
              · next none =>
                  cases acted
                  exact ⟨rfl, .evict key item keys victim rest full front (Or.inl none)⟩
              · next forgotten others live =>
                  split at acted
                  · next handler =>
                      cases acted
                      exact ⟨rfl, .evictKeyed key item keys victim rest forgotten full front
                        (liveKeys_singleton live) handler⟩
                  · next handler =>
                      cases acted
                      exact ⟨rfl, .evict key item keys victim rest full front
                        (Or.inr (Bool.eq_false_iff.mpr handler))⟩
      · next room =>
          cases acted
          exact ⟨rfl, .room key item keys (Or.inl (Nat.lt_of_not_le room))⟩
  | forgetting victim key item keys =>
      cases acted
      exact ⟨rfl, .forgot victim key item keys⟩
  | appending key item keys =>
      cases acted
      exact ⟨rfl, .appended key item keys⟩
  | finished => cases acted

namespace Task

/-- An unfinished flush acts on the column of its own kind. -/
theorem act?_flush {other : Kind} (phase : FlushPhase other) (ongoing : phase ≠ .finished)
    (choice : Choice) (shared : Shared) :
    act? agent (.flush other phase) choice shared =
      (phase.act? agent choice shared.toCommon (shared.columns other)).map
        fun (common, column, phase) =>
          (shared.update other common column, .flush other phase, []) := by
  cases phase with
  | finished => exact (ongoing rfl).elim
  | _ => rfl

/-- An unfinished reload acts on the column of its own kind. -/
theorem act?_load {other : Kind} (phase : LoadPhase other) (ongoing : phase ≠ .finished)
    (choice : Choice) (shared : Shared) :
    act? agent (.load other phase) choice shared =
      (phase.act? agent choice shared.toCommon (shared.columns other)).map
        fun (common, column, phase) =>
          (shared.update other common column, .load other phase, []) := by
  cases phase with
  | finished => exact (ongoing rfl).elim
  | _ => rfl

end Task

/-- A task and the shared state around one of its actions. -/
inductive Task.Acts (agent : Agent) (choice : Choice) (shared : Shared) :
    Task → Shared → Task → List Task → Prop where
  | send (kind : Kind) (phase after : SendPhase kind) (common : Common) (column : Column kind)
      (started : List Task) :
      phase.Acts agent choice shared.toCommon (shared.columns kind) common column after started →
      Acts agent choice shared (.send kind phase) (shared.update kind common column)
        (.send kind after) started
  | flush (kind : Kind) (phase after : FlushPhase kind) (common : Common) (column : Column kind) :
      phase.Acts agent choice shared.toCommon (shared.columns kind) common column after →
      Acts agent choice shared (.flush kind phase) (shared.update kind common column)
        (.flush kind after) []
  | flushMetrics : Acts agent choice shared (.flush .events .finished) shared
      (.flush .metrics .start) []
  | flushed : Acts agent choice shared (.flush .metrics .finished)
      { shared with flushPermits := shared.flushPermits + 1 } .finished []
  | load (kind : Kind) (phase after : LoadPhase kind) (column : Column kind) :
      phase.Acts agent choice shared.toCommon (shared.columns kind) column after →
      Acts agent choice shared (.load kind phase) (shared.update kind shared.toCommon column)
        (.load kind after) []
  | loadMetrics : Acts agent choice shared (.load .events .finished) shared
      (.load .metrics .listing) []
  | reloaded : Acts agent choice shared (.load .metrics .finished)
      { shared with locked := false } .finished []
  | permitted : shared.flushPermits ≠ 0 → Acts agent choice shared .flushBuffer
      { shared with flushPermits := shared.flushPermits - 1 } (.flush .events .start) []
  | gatedPermitted : shared.flushPermits ≠ 0 → Acts agent choice shared .gatedFlush
      { shared with flushPermits := shared.flushPermits - 1 } .flushIfNeeded []
  | unpermitted : shared.flushPermits = 0 → Acts agent choice shared .gatedFlush shared .finished []
  | needed : shared.locked = false → Acts agent choice shared .flushIfNeeded shared
      (.flush .events .start) []
  | unneeded : shared.locked = false → Acts agent choice shared .flushIfNeeded
      { shared with flushPermits := shared.flushPermits + 1 } .finished []
  | cleared : shared.locked = false → Acts agent choice shared .clearBuffer
      { shared with columns := fun kind => (shared.columns kind).wipe }
      (if shared.redisHandler then .clearNamespace .events else .finished) []
  | clearedNamespace (kind : Kind) : Acts agent choice shared (.clearNamespace kind)
      (shared.update kind shared.toCommon { shared.columns kind with
        records := (shared.columns kind).records.clearNamespace choice.stored })
      (match kind with
        | .events => .clearNamespace .metrics
        | .metrics => .finished) []
  | running : shared.running = true → Acts agent choice shared .start shared .finished []
  | start : shared.running = false → Acts agent choice shared .start
      { shared with running := true } (if agent.config.redis.isSome then .connect else .reload) []
  | connect : shared.locked = false → Acts agent choice shared .connect
      { shared with redisHandler := shared.redisHandler || choice.stored.succeeded } .reload []
  | reload : shared.locked = false → Acts agent choice shared .reload shared
      (if shared.redisHandler then .lockForReload else .finished) []
  | lockForReload : shared.locked = false → Acts agent choice shared .lockForReload
      { shared with locked := true } (.load .events .listing) []

/-- **Every action is one of these.** -/
theorem Task.act?_acts {task after : Task} {shared shared' : Shared} {started : List Task}
    (acted : task.act? agent choice shared = some (shared', after, started)) :
    task.Acts agent choice shared shared' after started := by
  cases task with
  | send kind phase =>
      obtain ⟨⟨common, column, phase', begun⟩, moved, same⟩ := Option.map_eq_some_iff.mp acted
      cases same
      exact .send kind phase phase' common column _ (phase.act?_acts moved)
  | flush kind phase =>
      by_cases done : phase = .finished
      · subst done
        cases kind with
        | events =>
            cases acted
            exact .flushMetrics
        | metrics =>
            cases acted
            exact .flushed
      · rw [act?_flush phase done] at acted
        obtain ⟨⟨common, column, phase'⟩, moved, same⟩ := Option.map_eq_some_iff.mp acted
        cases same
        exact .flush kind phase phase' common column (phase.act?_acts moved)
  | load kind phase =>
      by_cases done : phase = .finished
      · subst done
        cases kind with
        | events =>
            cases acted
            exact .loadMetrics
        | metrics =>
            cases acted
            exact .reloaded
      · rw [act?_load phase done] at acted
        obtain ⟨⟨common, column, phase'⟩, moved, same⟩ := Option.map_eq_some_iff.mp acted
        cases same
        obtain ⟨rfl, acts⟩ := phase.act?_acts moved
        exact .load kind phase phase' column acts
  | flushBuffer =>
      obtain ⟨free, same⟩ := Option.ite_none_left_eq_some.mp acted
      cases same
      exact .permitted free
  | gatedFlush =>
      simp only [act?] at acted
      split at acted
      · next none =>
          cases acted
          exact .unpermitted none
      · next some =>
          cases acted
          exact .gatedPermitted some
  | flushIfNeeded =>
      obtain ⟨locked, same⟩ := Option.ite_none_left_eq_some.mp acted
      have free := Bool.eq_false_iff.mpr locked
      split at same
      · cases same
        exact .needed free
      · cases same
        exact .unneeded free
  | clearBuffer =>
      obtain ⟨locked, same⟩ := Option.ite_none_left_eq_some.mp acted
      cases same
      exact .cleared (Bool.eq_false_iff.mpr locked)
  | clearNamespace kind =>
      cases acted
      exact .clearedNamespace kind
  | start =>
      simp only [act?] at acted
      split at acted
      · next running =>
          cases acted
          exact .running running
      · next idle =>
          cases acted
          exact .start (Bool.eq_false_iff.mpr idle)
  | connect =>
      obtain ⟨locked, same⟩ := Option.ite_none_left_eq_some.mp acted
      cases same
      exact .connect (Bool.eq_false_iff.mpr locked)
  | reload =>
      obtain ⟨locked, same⟩ := Option.ite_none_left_eq_some.mp acted
      cases same
      exact .reload (Bool.eq_false_iff.mpr locked)
  | lockForReload =>
      obtain ⟨locked, same⟩ := Option.ite_none_left_eq_some.mp acted
      cases same
      exact .lockForReload (Bool.eq_false_iff.mpr locked)
  | finished => cases acted

/-- The send is about to begin. -/
def SendPhase.fresh : SendPhase kind → Bool
  | .enqueue _ => true
  | _ => false

/-- The flush is about to begin. -/
def FlushPhase.fresh : FlushPhase kind → Bool
  | .start => true
  | _ => false

/-- The reload is about to begin. -/
def LoadPhase.fresh : LoadPhase kind → Bool
  | .listing => true
  | _ => false

/-- The flush is over. -/
def FlushPhase.done : FlushPhase kind → Bool
  | .finished => true
  | _ => false

/-- The reload is over. -/
def LoadPhase.done : LoadPhase kind → Bool
  | .finished => true
  | _ => false

/-- The next action of the task is not about this kind. -/
def Task.Idle (kind : Kind) : Task → Prop
  | .send other _ => other ≠ kind
  | .flush other phase => other = kind → phase.done = true
  | .load other phase => other = kind → phase.done = true
  | .clearBuffer => False
  | .clearNamespace other => other ≠ kind
  | _ => True

/-- The task has not begun with this kind. -/
def Task.Fresh (kind : Kind) : Task → Prop
  | .send other phase => other = kind → phase.fresh = true
  | .flush other phase => other = kind → phase.fresh = true
  | .load other phase => other = kind → phase.fresh = true
  | _ => True

/-- A task and what belongs to one kind around one of its actions. -/
inductive Task.ActsOn (agent : Agent) (choice : Choice) (shared : Shared) (kind : Kind)
    (shared' : Shared) : Task → Task → Prop where
  | send (phase after : SendPhase kind) (started : List Task) :
      phase.Acts agent choice shared.toCommon (shared.columns kind) shared'.toCommon
        (shared'.columns kind) after started →
      ActsOn agent choice shared kind shared' (.send kind phase) (.send kind after)
  | flush (phase after : FlushPhase kind) :
      phase.Acts agent choice shared.toCommon (shared.columns kind) shared'.toCommon
        (shared'.columns kind) after →
      ActsOn agent choice shared kind shared' (.flush kind phase) (.flush kind after)
  | load (phase after : LoadPhase kind) :
      phase.Acts agent choice shared.toCommon (shared.columns kind) (shared'.columns kind) after →
      ActsOn agent choice shared kind shared' (.load kind phase) (.load kind after)
  | wipe (after : Task) : shared'.columns kind = (shared.columns kind).wipe →
      after.Fresh kind → ActsOn agent choice shared kind shared' .clearBuffer after
  | clear (after : Task) (records : Records) :
      shared'.columns kind = { shared.columns kind with records := records } →
      after.Fresh kind → ActsOn agent choice shared kind shared' (.clearNamespace kind) after
  | other (task after : Task) : task.Idle kind → shared'.columns kind = shared.columns kind →
      after.Fresh kind → ActsOn agent choice shared kind shared' task after

/-- **What an action does to one kind.** -/
theorem Task.Acts.on {task after : Task} {shared shared' : Shared} {started : List Task}
    (acts : task.Acts agent choice shared shared' after started) (kind : Kind) :
    task.ActsOn agent choice shared kind shared' after := by
  cases acts with
  | send other phase after common column started acts =>
      by_cases here : other = kind
      · subst here
        refine .send phase after started ?_
        rw [Shared.update_self]
        exact acts
      · exact .other _ _ here (Shared.update_of_ne (Ne.symm here) ..) fun same => (here same).elim
  | flush other phase after common column acts =>
      by_cases here : other = kind
      · subst here
        refine .flush phase after ?_
        rw [Shared.update_self]
        exact acts
      · exact .other _ _ (fun same => (here same).elim) (Shared.update_of_ne (Ne.symm here) ..)
          fun same => (here same).elim
  | load other phase after column acts =>
      by_cases here : other = kind
      · subst here
        refine .load phase after ?_
        rw [Shared.update_self]
        exact acts
      · exact .other _ _ (fun same => (here same).elim) (Shared.update_of_ne (Ne.symm here) ..)
          fun same => (here same).elim
  | cleared _ =>
      refine .wipe _ rfl ?_
      split <;> trivial
  | clearedNamespace other =>
      have fresh : (match other with
          | .events => Task.clearNamespace .metrics
          | .metrics => .finished).Fresh kind := by
        cases other <;> trivial
      by_cases here : other = kind
      · subst here
        exact .clear _ _ (Shared.update_self ..) fresh
      · exact .other _ _ here (Shared.update_of_ne (Ne.symm here) ..) fresh
  | start _ =>
      refine .other _ _ trivial rfl ?_
      split <;> trivial
  | reload _ =>
      refine .other _ _ trivial rfl ?_
      split <;> trivial
  | flushMetrics => exact .other _ _ (fun _ => rfl) rfl fun _ => rfl
  | loadMetrics => exact .other _ _ (fun _ => rfl) rfl fun _ => rfl
  | flushed => exact .other _ _ (fun _ => rfl) rfl trivial
  | reloaded => exact .other _ _ (fun _ => rfl) rfl trivial
  | permitted _ => exact .other _ _ trivial rfl fun _ => rfl
  | needed _ => exact .other _ _ trivial rfl fun _ => rfl
  | lockForReload _ => exact .other _ _ trivial rfl fun _ => rfl
  | _ => exact .other _ _ trivial rfl trivial

/-- Time passes between the actions only. -/
theorem Task.Acts.now {task after : Task} {shared shared' : Shared} {started : List Task}
    (acts : task.Acts agent choice shared shared' after started) : shared'.now = shared.now := by
  cases acts with
  | send kind phase after common column started acts => cases acts <;> rfl
  | flush kind phase after common column acts => cases acts <;> rfl
  | _ => rfl

/-- Time does not go back with an arrival. -/
theorem Arrival.arrive?_now {arrival : Arrival} {shared shared' : Shared} {started : List Task}
    (arrived : arrival.arrive? agent shared = some (shared', started)) :
    shared.now ≤ shared'.now := by
  cases arrival with
  | attachRedisHandler =>
      obtain ⟨_, same⟩ := Option.ite_none_left_eq_some.mp arrived
      cases same
      exact le_rfl
  | elapse seconds =>
      obtain ⟨positive, same⟩ := Option.ite_none_right_eq_some.mp arrived
      cases same
      exact le_add_of_nonneg_right positive
  | _ =>
      cases arrived
      exact le_rfl

/-- What an arrival does to one kind, and the tasks it starts. -/
theorem Arrival.arrive?_on {arrival : Arrival} {shared shared' : Shared} {started : List Task}
    (arrived : arrival.arrive? agent shared = some (shared', started)) (kind : Kind) :
    (∃ records, shared'.columns kind = { shared.columns kind with records := records }) ∧
      ∀ task ∈ started, task.Fresh kind := by
  cases arrival with
  | trySend other item =>
      cases arrived
      refine ⟨⟨_, rfl⟩, fun task member => ?_⟩
      split at member
      · rw [List.mem_singleton.mp member]
        exact fun _ => rfl
      · cases member
  | expire other key =>
      cases arrived
      refine ⟨?_, fun task member => (List.not_mem_nil member).elim⟩
      by_cases here : other = kind
      · subst here
        exact ⟨_, Shared.update_self ..⟩
      · exact ⟨_, Shared.update_of_ne (Ne.symm here) ..⟩
  | attachRedisHandler =>
      obtain ⟨_, same⟩ := Option.ite_none_left_eq_some.mp arrived
      cases same
      exact ⟨⟨_, rfl⟩, fun task member => (List.not_mem_nil member).elim⟩
  | elapse seconds =>
      obtain ⟨_, same⟩ := Option.ite_none_right_eq_some.mp arrived
      cases same
      exact ⟨⟨_, rfl⟩, fun task member => (List.not_mem_nil member).elim⟩
  | stop =>
      cases arrived
      exact ⟨⟨_, rfl⟩, fun task member => (List.not_mem_nil member).elim⟩
  | _ =>
      cases arrived
      refine ⟨⟨_, rfl⟩, fun task member => ?_⟩
      rw [List.mem_singleton.mp member]
      trivial

/-- A task starts at most a gated flush. -/
theorem Task.act?_started {task after : Task} {shared shared' : Shared} {started : List Task}
    (acted : task.act? agent choice shared = some (shared', after, started)) :
    started = [] ∨ started = [.gatedFlush] := by
  have pushed {kind : Kind} (common : Common) (column : Column kind) :
      startedByPush agent common column = [] ∨
        startedByPush agent common column = [.gatedFlush] := by
    unfold startedByPush
    split
    · exact Or.inr rfl
    · exact Or.inl rfl
  cases Task.act?_acts acted with
  | send kind phase after common column started acts =>
      cases acts with
      | push item _ _ _ => exact pushed _ _
      | pushed item key => exact pushed _ _
      | _ => exact Or.inl rfl
  | _ => exact Or.inl rfl

/-- A task that an action starts has not begun with any kind. -/
theorem Task.act?_started_fresh {task after : Task} {shared shared' : Shared}
    {started : List Task} (acted : task.act? agent choice shared = some (shared', after, started))
    (kind : Kind) : ∀ task ∈ started, task.Fresh kind := by
  intro task member
  rcases Task.act?_started acted with none | one
  · rw [none] at member
    exact (List.not_mem_nil member).elim
  · rw [one] at member
    rw [List.mem_singleton.mp member]
    trivial

/-- **What a step does to one kind.** -/
theorem Agent.step_on {pool next : Pool Shared Task} {label : PoolLabel Arrival Choice}
    (stepped : agent.machine.step? pool label = some next) (kind : Kind) :
    (∃ arrival started, label = .arrive arrival ∧
      next.tasks = pool.tasks ++ started ∧ (∀ task ∈ started, task.Fresh kind) ∧
      arrival.arrive? agent pool.shared = some (next.shared, started) ∧
      ∃ records, next.shared.columns kind = { pool.shared.columns kind with records := records }) ∨
    ∃ tid choice task after started, label = .run tid choice ∧ pool.tasks[tid]? = some task ∧
      next.tasks = pool.tasks.set tid after ++ started ∧ (∀ task ∈ started, task.Fresh kind) ∧
      task.Acts agent choice pool.shared next.shared after started ∧
      task.ActsOn agent choice pool.shared kind next.shared after := by
  rcases Threads.step_cases stepped with ⟨arrival, shared, started, rfl, arrived, rfl⟩ |
    ⟨tid, choice, task, shared, after, started, rfl, present, acted, rfl⟩
  · obtain ⟨same, fresh⟩ := Arrival.arrive?_on arrived kind
    exact Or.inl ⟨arrival, started, rfl, rfl, fresh, arrived, same⟩
  · have acts := Task.act?_acts acted
    exact Or.inr ⟨tid, choice, task, after, started, rfl, present, rfl,
      Task.act?_started_fresh acted kind, acts, acts.on kind⟩

end GuardAgent
