import GuardAgent.Foundation.Simulation
import GuardAgent.Agent.Capacity

/-!
# The agent without its store

`storeless` forgets the store: the keys of the items, the records, the lock that is held
across operations of the store, and the tasks that only await it. What remains of a run is a
run of the agent with no store attached (`Agent.failOpen`), as long as nothing is reloaded.
-/

namespace GuardAgent

open Foundation

variable {T : Type} {kind : Kind}

/-- The entry without its key. -/
def BufferedItem.storeless (entry : BufferedItem T) : BufferedItem T :=
  { entry with redisKey := none }

/-- The batch without its keys. -/
def Batch.storeless (batch : Batch T) : Batch T where
  items := batch.items
  keys := batch.keys.map fun _ => none
  aligned := by rw [List.length_map, batch.aligned]

/-- The column without keys and records. -/
def Column.storeless (column : Column kind) : Column kind :=
  { column with
    buffer := column.buffer.map .storeless
    records := ∅
    entered := column.entered.map .storeless
    accepted := column.accepted.map .storeless
    rejected := column.rejected.map .storeless
    evicted := column.evicted.map .storeless
    wiped := column.wiped.map .storeless }

/-- No store is attached, and nobody waits for one. -/
def Common.storeless (common : Common) : Common :=
  { common with redisHandler := false, redisPersistFailures := 0, locked := false }

def Shared.storeless (shared : Shared) : Shared where
  toCommon := shared.toCommon.storeless
  columns kind := (shared.columns kind).storeless

/-- A send that awaits the store has not buffered its item yet. -/
def SendPhase.storeless : SendPhase kind → SendPhase kind
  | .persisting item _ => .enqueue item
  | .pushing item _ => .enqueue item
  | .forgetting item _ => .enqueue item
  | phase => phase

/-- A flush that awaits the store has confirmed its keys. -/
def FlushPhase.storeless : FlushPhase kind → FlushPhase kind
  | .stamping batch => .stamping batch.storeless
  | .sending batch trace rest => .sending batch.storeless trace rest
  | .confirming keys sent => .confirming (keys.map fun _ => none) sent
  | .deleting _ sent => .afterConfirm sent
  | .requeueing batch => .requeueing batch.storeless
  | .recordingFailed count evicted => .recordingFailed count (evicted.map fun _ => none)
  | phase => phase

/-- A task that only awaits the store has nothing left to do. -/
def Task.storeless : Task → Task
  | .send kind phase => .send kind phase.storeless
  | .flush kind phase => .flush kind phase.storeless
  | .clearNamespace _ => .finished
  | .connect => .reload
  | .lockForReload => .finished
  | .load _ _ => .finished
  | task => task

/-- What is left of the agent's state without the store. -/
def storelessPool (pool : Pool Shared Task) : Pool Shared Task where
  shared := pool.shared.storeless
  tasks := pool.tasks.map .storeless

/-- The agent configured without a store. -/
def Agent.storeless (agent : Agent) : Agent :=
  { agent with config := { agent.config with redis := none } }

/-- Without keys there is nothing to delete. -/
theorem liveKeys_storeless {α : Type*} (keys : List α) :
    liveKeys (keys.map fun _ => none) = [] := by
  induction keys with
  | nil => rfl
  | cons key keys ih => exact ih

section Operations

/-! What an operation on a buffer does is the same without the keys. -/

/-- Taking the keys from a batch takes them from its entries. -/
theorem Batch.entries_storeless (batch : Batch T) :
    batch.storeless.entries = batch.entries.map .storeless := by
  obtain ⟨items, keys, aligned⟩ := batch
  change List.zipWith BufferedItem.mk items (keys.map fun _ => none) =
    (List.zipWith BufferedItem.mk items keys).map BufferedItem.storeless
  rw [List.zipWith_map_right, List.map_zipWith]
  rfl

/-- The requeue loop never looks at a key. -/
theorem requeueItem_storeless (capacity : ℕ) (deque evicted : List (BufferedItem T))
    (dropped : ℕ) (entry : BufferedItem T) :
    requeueItem capacity ⟨deque.map .storeless, dropped, evicted.map .storeless⟩ entry.storeless =
      ⟨(requeueItem capacity ⟨deque, dropped, evicted⟩ entry).deque.map .storeless,
        (requeueItem capacity ⟨deque, dropped, evicted⟩ entry).dropped,
        (requeueItem capacity ⟨deque, dropped, evicted⟩ entry).evicted.map .storeless⟩ := by
  unfold requeueItem
  simp only [List.length_map, List.getLast?_map]
  by_cases full : capacity ≤ deque.length
  · simp only [full, ↓reduceIte]
    cases deque.getLast? with
    | none => rfl
    | some victim =>
        simp only [Option.map_some, List.map_cons, List.map_append, List.map_nil,
          List.map_dropLast]
  · simp only [full, ↓reduceIte, List.map_cons]

/-- Requeuing goes on alike without keys. -/
theorem requeue_storeless (capacity : ℕ) (deque : List (BufferedItem T)) (batch : Batch T)
    (dropped : ℕ) :
    requeue capacity (deque.map .storeless) batch.storeless dropped =
      ⟨(requeue capacity deque batch dropped).deque.map .storeless,
        (requeue capacity deque batch dropped).dropped,
        (requeue capacity deque batch dropped).evicted.map .storeless⟩ := by
  have folded (entries deque evicted : List (BufferedItem T)) (dropped : ℕ) :
      (entries.map BufferedItem.storeless).foldl (requeueItem capacity)
          ⟨deque.map .storeless, dropped, evicted.map .storeless⟩ =
        ⟨(entries.foldl (requeueItem capacity) ⟨deque, dropped, evicted⟩).deque.map .storeless,
          (entries.foldl (requeueItem capacity) ⟨deque, dropped, evicted⟩).dropped,
          (entries.foldl (requeueItem capacity) ⟨deque, dropped, evicted⟩).evicted.map
            .storeless⟩ := by
    induction entries generalizing deque evicted dropped with
    | nil => rfl
    | cons entry entries ih =>
        rw [List.map_cons, List.foldl_cons, List.foldl_cons, requeueItem_storeless]
        exact ih _ _ _
  rw [requeue, Batch.entries_storeless, ← List.map_reverse]
  exact folded batch.entries.reverse deque [] dropped

namespace Column

variable (column : Column kind)

/-- Pushing an item goes on alike without its key. -/
theorem pushBack_storeless (item : Telemetry kind) (key : Option String) :
    (column.pushBack item key).storeless = column.storeless.pushBack item none := by
  simp only [pushBack, storeless, List.map_append, List.map_cons, List.map_nil, List.length_map,
    BufferedItem.storeless]

/-- Evicting the oldest item goes on alike without keys. -/
theorem evictFront_storeless (victim : Entry kind) (rest : List (Entry kind)) :
    (column.evictFront victim rest).storeless =
      column.storeless.evictFront victim.storeless (rest.map .storeless) := by
  simp only [evictFront, storeless, List.map_append, List.map_cons, List.map_nil]

/-- Draining goes on alike without keys. -/
theorem drain_storeless :
    column.storeless.drain = (column.drain.1.storeless, column.drain.2.storeless) := by
  simp only [drain, GuardAgent.drain, storeless, Batch.storeless, List.length_map, List.map_map,
    List.map_nil]
  rfl

/-- Requeuing into a column goes on alike without keys. -/
theorem requeue_storeless (capacity : ℕ) (batch : Batch (Occurrence kind)) :
    column.storeless.requeue capacity batch.storeless =
      ((column.requeue capacity batch).1.storeless,
        (column.requeue capacity batch).2.map fun _ => none) := by
  simp only [requeue, storeless, GuardAgent.requeue_storeless, List.map_append, List.map_map]
  rfl

/-- Noting accepted items goes on alike without keys. -/
theorem accepted_storeless (batch : Batch (Occurrence kind)) :
    { column with accepted := column.accepted ++ batch.entries }.storeless =
      { column.storeless with
        accepted := column.storeless.accepted ++ batch.storeless.entries } := by
  simp only [storeless, List.map_append, Batch.entries_storeless]

/-- Noting rejected items goes on alike without keys. -/
theorem rejected_storeless (batch : Batch (Occurrence kind)) :
    { column with rejected := column.rejected ++ batch.entries }.storeless =
      { column.storeless with
        rejected := column.storeless.rejected ++ batch.storeless.entries } := by
  simp only [storeless, List.map_append, Batch.entries_storeless]

/-- Clearing goes on alike without keys. -/
theorem wipe_storeless : column.wipe.storeless = column.storeless.wipe := by
  simp only [wipe, storeless, List.map_append, List.map_nil]

end Column

namespace Shared

variable (shared : Shared)

/-- Changing one column goes on alike without keys and records. -/
theorem update_storeless (common : Common) (column : Column kind) :
    (shared.update kind common column).storeless =
      shared.storeless.update kind common.storeless column.storeless := by
  apply congrArg (Shared.mk common.storeless)
  funext other
  by_cases here : other = kind
  · subst here
    rw [update_self]
    exact (update_self other common.storeless _ shared.storeless).symm
  · rw [update_of_ne here]
    exact (update_of_ne here common.storeless _ shared.storeless).symm

/-- An update that changes nothing but the store. -/
theorem update_storeless_eq {common : Common} {column : Column kind}
    (common_same : common.storeless = shared.toCommon.storeless)
    (column_same : column.storeless = (shared.columns kind).storeless) :
    (shared.update kind common column).storeless = shared.storeless := by
  rw [update_storeless, common_same, column_same]
  exact congrArg (Shared.mk _) (Function.update_eq_self ..)

end Shared

end Operations

variable {agent : Agent} {choice : Choice} {common common' : Common} {column column' : Column kind}

/-- A push starts the same gated flush. -/
theorem startedByPush_storeless (common : Common) (pushed : Column kind) :
    startedByPush agent.storeless common.storeless pushed.storeless =
      startedByPush agent common pushed := by
  simp only [startedByPush, Column.storeless, List.length_map]
  rfl

/-- **An action of a send** awaits the store, or is the action without it. -/
theorem SendPhase.Acts.storeless {phase after : SendPhase kind} {started : List Task}
    (acts : phase.Acts agent choice common column common' column' after started)
    (room : phase.needsRoom = true → column.buffer.length < agent.config.bufferSize) :
    (common'.storeless = common.storeless ∧ column'.storeless = column.storeless ∧
        after.storeless = phase.storeless ∧ started = []) ∨
      phase.storeless.Acts agent.storeless choice common.storeless column.storeless
        common'.storeless column'.storeless after.storeless started := by
  have length : column.storeless.buffer.length = column.buffer.length := List.length_map ..
  -- Without the store, the item is pushed where there is room.
  have pushes {key : Option String} (item : Telemetry kind)
      (free : column.buffer.length < agent.config.bufferSize) :
      (SendPhase.enqueue item).Acts agent.storeless choice common.storeless column.storeless
        common.storeless (column.pushBack item key).storeless (.returned (.ok ()))
        (startedByPush agent common (column.pushBack item key)) := by
    rw [← startedByPush_storeless, Column.pushBack_storeless]
    exact .push item rfl (length ▸ free) rfl
  -- Without keys, an eviction has nothing to await.
  have evicts (item : Telemetry kind) {victim : Entry kind} {rest : List (Entry kind)}
      (full : agent.config.bufferSize ≤ column.buffer.length)
      (drops : agent.config.bufferOverflowPolicy = .drop)
      (front : column.buffer = victim :: rest) :
      (SendPhase.enqueue item).Acts agent.storeless choice common.storeless column.storeless
        common.storeless (column.evictFront victim rest).storeless (.enqueue item) [] := by
    have front' : column.storeless.buffer = victim.storeless :: rest.map .storeless := by
      rw [Column.storeless, front, List.map_cons]
    rw [Column.evictFront_storeless]
    exact .evict item _ _ rfl (length ▸ full) drops front' (Or.inr rfl)
  cases acts with
  | push item _ free _ => exact Or.inr (pushes item free)
  | panic item _ full drops empty =>
      have empty' : column.storeless.buffer = [] := by
        rw [Column.storeless, empty, List.map_nil]
      exact Or.inr (.panic item rfl (length ▸ full) drops empty')
  | evict item victim rest _ full drops front _ => exact Or.inr (evicts item full drops front)
  | evictKeyed item victim rest key _ full drops front _ _ =>
      exact Or.inr (evicts item full drops front)
  | refuse item _ full raises => exact Or.inr (.refuse item rfl (length ▸ full) raises)
  | wait item _ full blocks => exact Or.inr (.wait item rfl (length ▸ full) blocks)
  | pushed item key => exact Or.inr (pushes item (room rfl))
  | _ => exact Or.inl ⟨rfl, rfl, rfl, rfl⟩

/-- What follows `confirm_keys` has no keys. -/
theorem FlushPhase.afterConfirm_storeless (sent : Option ℕ) :
    (FlushPhase.afterConfirm sent : FlushPhase kind).storeless = .afterConfirm sent := by
  cases sent with
  | none => rfl
  | some count => rfl

/-- **An action of a flush** awaits the store, or is the action without it. -/
theorem FlushPhase.Acts.storeless {phase after : FlushPhase kind}
    (acts : phase.Acts agent choice common column common' column' after) :
    (common'.storeless = common.storeless ∧ column'.storeless = column.storeless ∧
        after.storeless = phase.storeless) ∨
      phase.storeless.Acts agent.storeless choice common.storeless column.storeless
        common'.storeless column'.storeless after.storeless := by
  cases acts with
  | read _ => exact Or.inr (.read rfl)
  | closed opens early => exact Or.inr (.closed opens early)
  | passed gate opened => exact Or.inr (.passed gate opened)
  | drainedNone _ empty =>
      have drained : FlushPhase.draining.Acts agent.storeless choice common.storeless
          column.storeless common.storeless column.storeless.drain.2 .finished :=
        .drainedNone rfl (List.map_eq_nil_iff.mpr empty)
      rw [Column.drain_storeless] at drained
      exact Or.inr drained
  | drained _ some =>
      have drained : FlushPhase.draining.Acts agent.storeless choice common.storeless
          column.storeless common.storeless column.storeless.drain.2
          (.stamping column.storeless.drain.1) :=
        .drained rfl fun none => some (List.map_eq_nil_iff.mp none)
      rw [Column.drain_storeless] at drained
      exact Or.inr drained
  | stamped batch _ => exact Or.inr (.stamped batch.storeless rfl)
  | performed batch trace op next => exact Or.inr (.performed batch.storeless trace op next)
  | accepted batch trace =>
      rw [Column.accepted_storeless]
      exact Or.inr (.accepted batch.storeless trace)
  | rejected batch trace statusCode detail =>
      rw [Column.rejected_storeless]
      exact Or.inr (.rejected batch.storeless trace statusCode detail)
  | failed batch trace error => exact Or.inr (.failed batch.storeless trace error)
  | confirmedNone keys sent _ =>
      rw [afterConfirm_storeless]
      exact Or.inr (.confirmedNone _ sent (Or.inl (liveKeys_storeless keys)))
  | confirmed keys sent _ _ _ =>
      exact Or.inr (.confirmedNone _ sent (Or.inl (liveKeys_storeless keys)))
  | deleted live sent => exact Or.inl ⟨rfl, rfl, afterConfirm_storeless sent⟩
  | recordedSent count _ => exact Or.inr (.recordedSent count rfl)
  | requeued batch _ =>
      have requeued := @requeued agent.storeless kind choice common.storeless column.storeless
        batch.storeless rfl
      rw [Column.requeue_storeless] at requeued
      exact Or.inr requeued
  | recordedFailed count evicted streak _ same =>
      exact Or.inr (.recordedFailed count _ streak rfl same)

/-- The reload is about to buffer a record. -/
def LoadPhase.hasRecord : LoadPhase kind → Bool
  | .loaded _ _ _ => true
  | .forgetting _ _ _ _ => true
  | .appending _ _ _ => true
  | _ => false

def Task.hasRecord : Task → Bool
  | .load _ phase => phase.hasRecord
  | _ => false

/-- The action reads a record of the store that the agent can buffer. -/
def Task.findsRecord (agent : Agent) (choice : Choice) (shared : Shared) : Task → Bool
  | .load kind (.getting (key :: _)) =>
      (((shared.columns kind).records.getKey choice.stored key).bind id).any
        fun value => (agent.fromRecord kind value).isSome
  | _ => false

/-- A reload that finds no record leaves the buffer as it is. -/
theorem LoadPhase.Acts.unchanged {phase after : LoadPhase kind}
    (acts : phase.Acts agent choice common column column' after)
    (none : phase.hasRecord = false) (unread : ∀ key keys, phase = .getting (key :: keys) →
      ((column.records.getKey choice.stored key).bind id).any
        (fun value => (agent.fromRecord kind value).isSome) = false) :
    column' = column ∧ after.hasRecord = false := by
  cases acts with
  | listed keys => exact ⟨rfl, rfl⟩
  | unlisted => exact ⟨rfl, rfl⟩
  | none => exact ⟨rfl, rfl⟩
  | skipped key keys => exact ⟨rfl, rfl⟩
  | got key value item keys found read =>
      have unread := unread key keys rfl
      rw [found, Option.any_some, read] at unread
      cases unread
  | _ => cases none

/-- The buffered totals do not depend on the keys. -/
theorem Task.flushIfNeeded_storeless {after : Task} {shared shared' : Shared}
    {started : List Task}
    (acted : Task.flushIfNeeded.act? agent choice shared = some (shared', after, started)) :
    Task.flushIfNeeded.act? agent.storeless choice shared.storeless =
      some (shared'.storeless, after.storeless, started) := by
  obtain ⟨_, same⟩ := Option.ite_none_left_eq_some.mp acted
  have length (kind : Kind) : (shared.storeless.columns kind).buffer.length =
      (shared.columns kind).buffer.length := List.length_map ..
  simp only [Task.act?, length]
  split at same
  · next needed =>
      cases same
      exact if_pos needed
  · next unneeded =>
      cases same
      exact if_neg unneeded

/-- **An action of a task** awaits the store, or is the action without it. -/
theorem Task.act?_storeless {task after : Task} {shared shared' : Shared} {started : List Task}
    (acted : task.act? agent choice shared = some (shared', after, started))
    (room : ∀ kind, task.NeedsRoom kind →
      (shared.columns kind).buffer.length < agent.config.bufferSize)
    (none : task.hasRecord = false) (unread : task.findsRecord agent choice shared = false) :
    (shared'.storeless = shared.storeless ∧ after.storeless = task.storeless ∧ started = []) ∨
      task.storeless.act? agent.storeless choice shared.storeless =
        some (shared'.storeless, after.storeless, started) := by
  cases Task.act?_acts acted with
  | send kind phase after common column started acts =>
      rcases acts.storeless fun needs => room kind ⟨rfl, needs⟩ with
        ⟨common_same, column_same, phase_same, rfl⟩ | acts
      · refine Or.inl ⟨shared.update_storeless_eq common_same column_same, ?_, rfl⟩
        exact congrArg (Task.send kind) phase_same
      · right
        rw [Shared.update_storeless]
        change Option.map _ (phase.storeless.act? agent.storeless choice shared.toCommon.storeless
          (shared.columns kind).storeless) = _
        rw [SendPhase.act?_of_acts acts]
        rfl
  | flush kind phase after common column acts =>
      rcases acts.storeless with ⟨common_same, column_same, phase_same⟩ | acts
      · refine Or.inl ⟨shared.update_storeless_eq common_same column_same, ?_, rfl⟩
        exact congrArg (Task.flush kind) phase_same
      · right
        have performed := FlushPhase.act?_of_acts acts
        have ongoing : phase.storeless ≠ .finished := by
          intro ended
          rw [ended] at performed
          cases performed
        rw [Shared.update_storeless, Task.storeless, Task.act?_flush _ ongoing]
        change Option.map _ (phase.storeless.act? agent.storeless choice shared.toCommon.storeless
          (shared.columns kind).storeless) = _
        rw [performed]
        rfl
  | load kind phase after column acts =>
      obtain ⟨rfl, _⟩ := acts.unchanged none fun key keys same => by
        subst same
        exact unread
      exact Or.inl ⟨shared.update_storeless_eq rfl rfl, rfl, rfl⟩
  | flushMetrics => exact Or.inr rfl
  | flushed => exact Or.inr rfl
  | loadMetrics => exact Or.inl ⟨rfl, rfl, rfl⟩
  | reloaded => exact Or.inl ⟨rfl, rfl, rfl⟩
  | permitted free => exact Or.inr (if_neg free)
  | gatedPermitted free => exact Or.inr (if_neg free)
  | unpermitted busy => exact Or.inr (if_pos busy)
  | needed _ => exact Or.inr (flushIfNeeded_storeless acted)
  | unneeded _ => exact Or.inr (flushIfNeeded_storeless acted)
  | cleared _ =>
      have wiped : (fun kind => (shared.columns kind).storeless.wipe) =
          fun kind => (shared.columns kind).wipe.storeless :=
        funext fun kind => (shared.columns kind).wipe_storeless.symm
      have idle : (if shared.redisHandler then Task.clearNamespace .events
          else .finished).storeless = .finished := by
        split <;> rfl
      rw [idle]
      exact Or.inr (congrArg (fun columns =>
        some (Shared.mk shared.toCommon.storeless columns, Task.finished, [])) wiped)
  | clearedNamespace kind =>
      refine Or.inl ⟨shared.update_storeless_eq rfl rfl, ?_, rfl⟩
      cases kind <;> rfl
  | running running => exact Or.inr (if_pos running)
  | start idle =>
      have waits : (if agent.config.redis.isSome then Task.connect else .reload).storeless =
          .reload := by
        split <;> rfl
      rw [waits]
      exact Or.inr (if_neg (Bool.eq_false_iff.mp idle))
  | connect _ => exact Or.inl ⟨rfl, rfl, rfl⟩
  | reload _ =>
      have idle : (if shared.redisHandler then Task.lockForReload else .finished).storeless =
          .finished := by
        split <;> rfl
      rw [idle]
      exact Or.inr rfl
  | lockForReload _ => exact Or.inl ⟨rfl, rfl, rfl⟩

/-- The arrival concerns the store only. -/
def Arrival.ofStore : Arrival → Bool
  | .attachRedisHandler => true
  | .expire _ _ => true
  | _ => false

/-- The label is something that happens from outside, though not to the store. -/
def PoolLabel.fromOutside : PoolLabel Arrival Choice → Bool
  | .arrive arrival => !arrival.ofStore
  | .run _ _ => false

/-- An arrival is one of the store, which the storeless agent does not see, or arrives there too. -/
theorem Arrival.arrive?_storeless {arrival : Arrival} {shared shared' : Shared}
    {started : List Task} (arrived : arrival.arrive? agent shared = some (shared', started)) :
    (arrival.ofStore = true ∧ shared'.storeless = shared.storeless ∧ started = []) ∨
      arrival.arrive? agent.storeless shared.storeless =
        some (shared'.storeless, started.map .storeless) := by
  cases arrival with
  | trySend kind item =>
      cases arrived
      have same : agent.storeless.enabled kind = agent.enabled kind := by
        cases kind <;> rfl
      right
      simp only [arrive?, same]
      split <;> rfl
  | attachRedisHandler =>
      obtain ⟨_, same⟩ := Option.ite_none_left_eq_some.mp arrived
      cases same
      exact Or.inl ⟨rfl, rfl, rfl⟩
  | expire kind key =>
      cases arrived
      exact Or.inl ⟨rfl, shared.update_storeless_eq rfl rfl, rfl⟩
  | elapse seconds =>
      obtain ⟨positive, same⟩ := Option.ite_none_right_eq_some.mp arrived
      cases same
      exact Or.inr (if_pos positive)
  | _ =>
      cases arrived
      exact Or.inr rfl

/-- The step reads a record of the store that the agent can buffer. -/
def Agent.findsRecord (agent : Agent) (pool : Pool Shared Task) : PoolLabel Arrival Choice → Bool
  | .arrive _ => false
  | .run tid choice => pool.tasks[tid]?.any fun task => task.findsRecord agent choice pool.shared

/-- A task that has not begun has no record. -/
theorem Task.hasRecord_of_fresh {task : Task} (fresh : ∀ kind, task.Fresh kind) :
    task.hasRecord = false := by
  cases task with
  | load kind phase =>
      have begins := fresh kind rfl
      cases phase with
      | listing => rfl
      | _ => cases begins
  | _ => rfl

/-- An action that reads no record leads to no task that has one. -/
theorem Task.Acts.hasRecord {task after : Task} {shared shared' : Shared} {started : List Task}
    (acts : task.Acts agent choice shared shared' after started)
    (none : task.hasRecord = false) (unread : task.findsRecord agent choice shared = false) :
    after.hasRecord = false := by
  cases acts with
  | load kind phase after column acts =>
      exact (acts.unchanged none fun key keys same => by
        subst same
        exact unread).2
  | cleared _ => split <;> rfl
  | clearedNamespace kind => cases kind <;> rfl
  | start _ => split <;> rfl
  | reload _ => split <;> rfl
  | _ => rfl

/-- The buffers fit, and no reload is about to buffer a record. -/
structure Unread (agent : Agent) (pool : Pool Shared Task) : Prop where
  fits : Fits agent pool
  unread : ∀ task ∈ pool.tasks, task.hasRecord = false

namespace Unread

variable {pool next : Pool Shared Task} {label : PoolLabel Arrival Choice}

/-- A new agent has no reload going on. -/
theorem initial (records : Kind → Records) : Unread agent ⟨agent.initial records, []⟩ where
  fits := Fits.initial records
  unread := fun _ member => (List.not_mem_nil member).elim

/-- A step that finds no record keeps it so. -/
theorem step (positive : 0 < agent.config.bufferSize) (unread : Unread agent pool)
    (allowed : agent.findsRecord pool label = false)
    (stepped : agent.machine.step? pool label = some next) : Unread agent next := by
  refine ⟨unread.fits.step positive stepped, ?_⟩
  rcases Threads.step_cases stepped with ⟨arrival, shared, started, rfl, arrived, rfl⟩ |
    ⟨tid, choice, task, shared, after, started, rfl, present, acted, rfl⟩
  · intro task member
    rcases List.mem_append.mp member with old | new
    · exact unread.unread task old
    · exact Task.hasRecord_of_fresh fun kind => (Arrival.arrive?_on arrived kind).2 task new
  · rw [Agent.findsRecord, present, Option.any_some] at allowed
    intro other member
    rcases Pool.mem_acted_cases member with rfl | old | new
    · exact (Task.act?_acts acted).hasRecord (unread.unread task (List.mem_of_getElem? present))
        allowed
    · exact unread.unread other old
    · exact Task.hasRecord_of_fresh fun kind => Task.act?_started_fresh acted kind other new

end Unread

/-- **The agent without its store** is simulated step by step. -/
theorem Agent.storeless_simulation (positive : 0 < agent.config.bufferSize) :
    Simulation agent.machine agent.storeless.machine storelessPool (Unread agent)
      (fun pool label => agent.findsRecord pool label = false)
      (fun pool _ => pool.shared.redisHandler = false) PoolLabel.fromOutside where
  kept := fun unread allowed stepped => unread.step positive allowed stepped
  step := by
    intro pool next label unread allowed stepped
    rcases Threads.step_cases stepped with ⟨arrival, shared, started, rfl, arrived, rfl⟩ |
      ⟨tid, choice, task, shared, after, started, rfl, present, acted, rfl⟩
    · rcases Arrival.arrive?_storeless arrived with ⟨ofStore, same, rfl⟩ | arrives
      · refine Or.inl ⟨congrArg not ofStore, ?_⟩
        simp only [storelessPool, same, List.append_nil]
      · refine Or.inr ⟨rfl, ?_⟩
        simp only [storelessPool, List.map_append]
        exact Threads.step_of_arrive arrives
    · have member := List.mem_of_getElem? present
      rw [Agent.findsRecord, present, Option.any_some] at allowed
      rcases Task.act?_storeless acted (fun kind => unread.fits.room kind task member)
        (unread.unread task member) allowed with ⟨same, waits, rfl⟩ | acts
      -- The task only awaited the store.
      · obtain ⟨bound, here⟩ := List.getElem?_eq_some_iff.mp present
        refine Or.inl ⟨rfl, ?_⟩
        simp only [storelessPool, same, List.append_nil, List.map_set, waits]
        rw [← List.map_set, ← here, List.set_getElem_self]
      · refine Or.inr ⟨rfl, ?_⟩
        have started_same : started.map Task.storeless = started := by
          rcases Task.act?_started acted with rfl | rfl <;> rfl
        have present' : (pool.tasks.map Task.storeless)[tid]? = some task.storeless := by
          rw [List.getElem?_map, present, Option.map_some]
        simp only [storelessPool, List.map_append, List.map_set, started_same]
        exact Threads.step_of_act present' acts

/-- What an agent shows of one kind, store aside. -/
structure ColumnView (kind : Kind) where
  buffer : List (Occurrence kind)
  flushed : ℕ
  dropped : ℕ
  sent : ℕ
  failed : ℕ
  failureStreak : ℕ
  retryAfter : Option ℚ
  wire : List (Exchange (Occurrence kind))

/-- What an agent shows, store aside: its buffers and counters, the results of the sends,
and per flush the batch it has handed to the transport, with what the transport has done. -/
structure View where
  columns : (kind : Kind) → ColumnView kind
  loopFailures : ℕ
  lastFlushInstant : Option ℚ
  running : Bool
  results : List (Option (Except GuardAgentError Unit))
  handed : List (Option ((kind : Kind) ×
    List (Occurrence kind) × List (TransportEvent (Occurrence kind))))

def Column.view (column : Column kind) : ColumnView kind where
  buffer := column.buffer.map BufferedItem.item
  flushed := column.flushed
  dropped := column.dropped
  sent := column.sent
  failed := column.failed
  failureStreak := column.failureStreak
  retryAfter := column.retryAfter
  wire := column.wire

/-- What `try_send_event` or `try_send_metric` has returned. -/
def Task.result : Task → Option (Except GuardAgentError Unit)
  | .send _ (.returned result) => some result
  | _ => none

/-- The batch that `send_batch` was called with and the trace of that call so far. -/
def Task.handed : Task → Option ((kind : Kind) ×
    List (Occurrence kind) × List (TransportEvent (Occurrence kind)))
  | .flush kind (.sending batch trace _) => some ⟨kind, batch.items, trace⟩
  | _ => none

def poolView (pool : Pool Shared Task) : View where
  columns kind := (pool.shared.columns kind).view
  loopFailures := pool.shared.loopFailures
  lastFlushInstant := pool.shared.lastFlushInstant
  running := pool.shared.running
  results := pool.tasks.map Task.result
  handed := pool.tasks.map Task.handed

/-- Without a store the task has the same result. -/
theorem Task.result_storeless (task : Task) : task.storeless.result = task.result := by
  cases task with
  | send kind phase => cases phase <;> rfl
  | _ => rfl

/-- Without a store the task is handed the same item. -/
theorem Task.handed_storeless (task : Task) : task.storeless.handed = task.handed := by
  cases task with
  | flush kind phase =>
      cases phase with
      | deleting live sent => cases sent <;> rfl
      | _ => rfl
  | _ => rfl

/-- The store is not seen. -/
theorem poolView_storeless (pool : Pool Shared Task) :
    poolView (storelessPool pool) = poolView pool := by
  have buffers (kind : Kind) : (pool.shared.columns kind).storeless.view =
      (pool.shared.columns kind).view := by
    simp only [Column.view, Column.storeless, List.map_map]
    rfl
  have results : (pool.tasks.map Task.storeless).map Task.result = pool.tasks.map Task.result := by
    rw [List.map_map]
    exact List.map_congr_left fun task _ => task.result_storeless
  have handed : (pool.tasks.map Task.storeless).map Task.handed = pool.tasks.map Task.handed := by
    rw [List.map_map]
    exact List.map_congr_left fun task _ => task.handed_storeless
  have columns := funext buffers
  simp only [poolView, storelessPool, results, handed]
  exact congrArg (fun columns => View.mk columns _ _ _ _ _) columns

namespace Agent

/-- **Persistence is fail-open.** Over every store, and whatever its replies, a run in which
nothing is reloaded shows what a run of the agent without a store shows. -/
theorem failOpen (agent : Agent) (positive : 1 ≤ agent.config.bufferSize)
    (records : Kind → Records) (labels : List (PoolLabel Arrival Choice))
    (pool : Pool Shared Task)
    (run : agent.machine.RunUnder (fun pool label => agent.findsRecord pool label = false)
      ⟨agent.initial records, []⟩ labels pool) :
    ∃ kept, kept.Sublist labels ∧
      kept.filter PoolLabel.fromOutside = labels.filter PoolLabel.fromOutside ∧
      agent.storeless.machine.RunUnder (fun pool _ => pool.shared.redisHandler = false)
        ⟨agent.storeless.initial fun _ => ∅, []⟩ kept (storelessPool pool) ∧
      Stutters
        (agent.storeless.machine.observed poolView ⟨agent.storeless.initial fun _ => ∅, []⟩ kept)
        (agent.machine.observed poolView ⟨agent.initial records, []⟩ labels) :=
  (storeless_simulation positive).run (fun pool => (poolView_storeless pool).symm) run
    (.initial records)

/-- A store that fails to write the first item and to delete the others: an item is evicted
from a buffer of one, and the flush of the last one is accepted. -/
theorem failOpen_of_broken_store :
    let agent := Agent.sample { AgentConfig.new "test-api-key-1234" with bufferSize := 1 } []
    let start : Pool Shared Task := ⟨agent.initial fun _ => ∅, []⟩
    let storelessStart : Pool Shared Task := ⟨agent.storeless.initial fun _ => ∅, []⟩
    ∃ labels pool,
      agent.machine.RunUnder (fun pool label => agent.findsRecord pool label = false) start labels
        pool ∧
      pool.shared.redisPersistFailures = 1 ∧ (pool.shared.columns .metrics).dropped = 2 ∧
      (pool.shared.columns .metrics).sent = 1 ∧
      ∃ kept, kept.Sublist labels ∧
        kept.filter PoolLabel.fromOutside = labels.filter PoolLabel.fromOutside ∧
        agent.storeless.machine.RunUnder (fun pool _ => pool.shared.redisHandler = false)
          storelessStart kept (storelessPool pool) ∧
        Stutters (agent.storeless.machine.observed poolView storelessStart kept)
          (agent.machine.observed poolView start labels) := by
  intro agent start storelessStart
  let act (stored : StoreReply) (tid : ℕ) : PoolLabel Arrival Choice :=
    .run tid (.sample 1700000000000000000 stored fun _ => .response 201 none (.ok ""))
  let labels := [.arrive .attachRedisHandler, .arrive (.trySend .metrics (sampleMetric 1 []))] ++
    List.replicate 3 (act (.failed []) 0) ++ [.arrive (.trySend .metrics (sampleMetric 2 []))] ++
    List.replicate 4 (act .ok 1) ++ [.arrive (.trySend .metrics (sampleMetric 3 []))] ++
    List.replicate 2 (act (.failed []) 2) ++ List.replicate 3 (act .ok 2) ++
    [.arrive .flushBuffer] ++ List.replicate 22 (act (.failed []) 3)
  obtain ⟨pool, run, checked⟩ := @Machine.exists_runUnder _ _ agent.machine
    (fun pool label => agent.findsRecord pool label = false) _ start labels
    (fun pool => pool.shared.redisPersistFailures = 1 ∧
      (pool.shared.columns .metrics).dropped = 2 ∧ (pool.shared.columns .metrics).sent = 1)
    (by decide +kernel)
  obtain ⟨failures, dropped, sent⟩ := of_decide_eq_true checked
  exact ⟨labels, pool, run, failures, dropped, sent,
    failOpen agent (by decide) _ labels pool run⟩

end Agent

end GuardAgent
