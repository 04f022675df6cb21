import GuardAgent.Agent.Capacity
import GuardAgent.Agent.Permits
import GuardAgent.Foundation.Stamped

/-!
# The age order of the buffers

Items are numbered as they enter a buffer. A requeue puts its batch in front of what was
buffered since, so the buffers are in the order of the numbers in every run in which all
that is buffered then is younger than the batch (`Agent.age_order`). With one flush at a
time that is so in every run (`Agent.requeuesOlder_of_single`); with two it is not
(`Agent.requeue_out_of_order`).
-/

namespace GuardAgent

open Foundation

variable {agent : Agent} {kind : Kind}

/-- The number of an entry. -/
def BufferedItem.serial (entry : Entry kind) : ℕ := entry.item.serial

/-- The entries are in the order of their numbers, all given out before `bound`. -/
abbrev Aged (bound : ℕ) (entries : List (Entry kind)) : Prop :=
  Stamped BufferedItem.serial bound entries

/-- The batch whose items the flush has not disposed of. -/
def FlushPhase.batch? : FlushPhase kind → Option (Batch (Occurrence kind))
  | .stamping batch => some batch
  | .sending batch _ _ => some batch
  | .requeueing batch => some batch
  | _ => none

/-- The task is a flush that has this batch. -/
def Task.Holds (kind : Kind) (batch : Batch (Occurrence kind)) (task : Task) : Prop :=
  ∃ phase : FlushPhase kind, task = .flush kind phase ∧ phase.batch? = some batch

/-- A task that requeues a batch now finds only younger items in the buffer. -/
def Task.RequeuesOlder (shared : Shared) : Task → Prop
  | .flush kind (.requeueing batch) => ∀ entry ∈ batch.entries,
      ∀ other ∈ (shared.columns kind).buffer, entry.serial < other.serial
  | _ => True

instance (shared : Shared) (task : Task) : Decidable (task.RequeuesOlder shared) := by
  unfold Task.RequeuesOlder
  split <;> infer_instance

/-- Whenever a failed batch is requeued, all that is buffered entered after it. -/
def Agent.RequeuesOlder (pool : Pool Shared Task) (label : PoolLabel Arrival Choice) : Prop :=
  match label with
  | .run tid _ => ∀ task ∈ pool.tasks[tid]?, task.RequeuesOlder pool.shared
  | .arrive _ => True

instance (pool : Pool Shared Task) (label : PoolLabel Arrival Choice) :
    Decidable (Agent.RequeuesOlder pool label) :=
  match label with
  | .run tid _ =>
      inferInstanceAs (Decidable (∀ task ∈ pool.tasks[tid]?, task.RequeuesOlder pool.shared))
  | .arrive _ => .isTrue trivial

/-- The buffer is in the order of the numbers. -/
def Column.Ordered (column : Column kind) : Prop := Aged column.entered.length column.buffer

variable {choice : Choice} {common common' : Common} {column column' : Column kind}

/-- The newest item goes to the end of the buffer, in order. -/
theorem Column.Ordered.pushBack (ordered : column.Ordered) (item : Telemetry kind)
    (key : Option String) : (column.pushBack item key).Ordered := by
  have next := @Stamped.snoc _ _ _ _ ordered ⟨⟨column.entered.length, item⟩, key⟩ rfl
  rw [Ordered]
  simp only [Column.pushBack, List.length_append, List.length_singleton]
  exact next

/-- Taking the oldest item out keeps the order. -/
theorem Column.Ordered.evictFront (ordered : column.Ordered) {victim : Entry kind}
    {rest : List (Entry kind)} (front : column.buffer = victim :: rest) :
    (column.evictFront victim rest).Ordered := by
  rw [Ordered, front] at ordered
  exact ordered.sublist (List.sublist_cons_self _ _)

/-- A send keeps the order. -/
theorem SendPhase.Acts.ordered {phase after : SendPhase kind} {started : List Task}
    (acts : phase.Acts agent choice common column common' column' after started)
    (ordered : column.Ordered) :
    column'.Ordered ∧ column.entered.length ≤ column'.entered.length := by
  have pushes (item : Telemetry kind) (key : Option String) :
      (column.pushBack item key).Ordered ∧
        column.entered.length ≤ (column.pushBack item key).entered.length := by
    refine ⟨ordered.pushBack item key, ?_⟩
    simp only [Column.pushBack, List.length_append, List.length_singleton]
    exact Nat.le_succ _
  cases acts with
  | push item _ _ _ => exact pushes item none
  | pushed item key => exact pushes item key
  | evict _ _ _ _ _ _ front _ => exact ⟨ordered.evictFront front, le_rfl⟩
  | evictKeyed _ _ _ _ _ _ _ front _ _ => exact ⟨ordered.evictFront front, le_rfl⟩
  | _ => exact ⟨ordered, le_rfl⟩

/-- So does a reload. -/
theorem LoadPhase.Acts.ordered {phase after : LoadPhase kind}
    (acts : phase.Acts agent choice common column column' after) (ordered : column.Ordered) :
    column'.Ordered ∧ column.entered.length ≤ column'.entered.length := by
  cases acts with
  | evict _ _ _ _ _ _ front _ => exact ⟨ordered.evictFront front, le_rfl⟩
  | evictKeyed _ _ _ _ _ _ _ front _ _ => exact ⟨ordered.evictFront front, le_rfl⟩
  | appended key item keys =>
      refine ⟨ordered.pushBack item (some key), ?_⟩
      simp only [Column.pushBack, List.length_append, List.length_singleton]
      exact Nat.le_succ _
  | _ => exact ⟨ordered, le_rfl⟩

/-- A flush keeps the order when the batch it requeues is older than all that is buffered. -/
theorem FlushPhase.Acts.ordered {phase after : FlushPhase kind}
    (positive : 0 < agent.config.bufferSize)
    (acts : phase.Acts agent choice common column common' column' after)
    (bounded : column.buffer.length ≤ agent.config.bufferSize) (ordered : column.Ordered)
    (held : ∀ batch ∈ phase.batch?, Aged column.entered.length batch.entries)
    (older : ∀ batch, phase = .requeueing batch → ∀ entry ∈ batch.entries,
      ∀ other ∈ column.buffer, entry.serial < other.serial) :
    column'.Ordered ∧ column'.entered = column.entered ∧
      ∀ batch ∈ after.batch?, Aged column.entered.length batch.entries := by
  have none {phase : FlushPhase kind} (unheld : phase.batch? = none) :
      ∀ batch ∈ phase.batch?, Aged column.entered.length batch.entries := by
    intro batch member
    rw [unheld] at member
    cases member
  cases acts with
  | drainedNone _ _ => exact ⟨.nil, rfl, none rfl⟩
  | drained _ _ =>
      refine ⟨.nil, rfl, fun batch same => ?_⟩
      cases same
      have entries : column.drain.1.entries = column.buffer :=
        entries_drain column.buffer column.flushed
      rw [entries]
      exact ordered
  | stamped batch _ => exact ⟨ordered, rfl, held⟩
  | performed batch trace op next => exact ⟨ordered, rfl, held⟩
  | failed batch trace error => exact ⟨ordered, rfl, held⟩
  | requeued batch _ =>
      refine ⟨?_, rfl, none rfl⟩
      have joined := (held batch rfl).append ordered (older batch rfl)
      rw [Column.Ordered]
      simp only [Column.requeue, requeue_eq positive _ bounded]
      exact joined.sublist (List.take_sublist _ _)
  | confirmedNone keys sent _ => cases sent <;> exact ⟨ordered, rfl, none rfl⟩
  | deleted live sent => cases sent <;> exact ⟨ordered, rfl, none rfl⟩
  | _ => exact ⟨ordered, rfl, none rfl⟩

/-- The order of one kind: the buffer, and the batches in flight, each for itself. -/
structure AgeOrder (kind : Kind) (pool : Pool Shared Task) : Prop where
  ordered : (pool.shared.columns kind).Ordered
  held : ∀ task ∈ pool.tasks, ∀ batch, task.Holds kind batch →
    Aged (pool.shared.columns kind).entered.length batch.entries

/-- A task that has not begun holds no batch. -/
theorem Task.Fresh.not_holds {task : Task} (fresh : task.Fresh kind)
    (batch : Batch (Occurrence kind)) : ¬ task.Holds kind batch := by
  intro holds
  obtain ⟨phase, rfl, found⟩ := holds
  cases phase with
  | start => cases found
  | _ => cases fresh rfl

/-- An action keeps the order of one kind. -/
theorem Task.ActsOn.ordered {task after : Task} {shared shared' : Shared}
    (positive : 0 < agent.config.bufferSize)
    (acts : task.ActsOn agent choice shared kind shared' after)
    (bounded : (shared.columns kind).buffer.length ≤ agent.config.bufferSize)
    (ordered : (shared.columns kind).Ordered)
    (held : ∀ batch, task.Holds kind batch →
      Aged (shared.columns kind).entered.length batch.entries)
    (older : task.RequeuesOlder shared) :
    (shared'.columns kind).Ordered ∧
      (shared.columns kind).entered.length ≤ (shared'.columns kind).entered.length ∧
      ∀ batch, after.Holds kind batch →
        Aged (shared'.columns kind).entered.length batch.entries := by
  cases acts with
  | send phase after started acts =>
      obtain ⟨kept, more⟩ := acts.ordered ordered
      refine ⟨kept, more, fun batch holds => ?_⟩
      obtain ⟨_, same, _⟩ := holds
      cases same
  | load phase after acts =>
      obtain ⟨kept, more⟩ := acts.ordered ordered
      refine ⟨kept, more, fun batch holds => ?_⟩
      obtain ⟨_, same, _⟩ := holds
      cases same
  | flush phase after acts =>
      have own := fun batch same => held batch ⟨phase, rfl, same⟩
      have front : ∀ batch, phase = .requeueing batch → ∀ entry ∈ batch.entries,
          ∀ other ∈ (shared.columns kind).buffer, entry.serial < other.serial := by
        rintro batch rfl
        exact older
      obtain ⟨kept, same, holds⟩ := acts.ordered positive bounded ordered own front
      rw [same]
      refine ⟨kept, le_rfl, fun batch holding => ?_⟩
      obtain ⟨_, named, found⟩ := holding
      cases named
      exact holds batch found
  | wipe _ same fresh =>
      rw [same]
      exact ⟨.nil, le_rfl, fun batch holds => (fresh.not_holds batch holds).elim⟩
  | clear _ records same fresh =>
      rw [same]
      exact ⟨ordered, le_rfl, fun batch holds => (fresh.not_holds batch holds).elim⟩
  | other _ _ _ same fresh =>
      rw [same]
      exact ⟨ordered, le_rfl, fun batch holds => (fresh.not_holds batch holds).elim⟩

namespace AgeOrder

variable {pool next : Pool Shared Task} {label : PoolLabel Arrival Choice}

/-- A new agent's buffer is in order. -/
theorem initial (records : Kind → Records) : AgeOrder kind ⟨agent.initial records, []⟩ :=
  ⟨.nil, fun _ member => (List.not_mem_nil member).elim⟩

/-- **A step keeps the order**, unless it requeues a batch in front of older items. -/
theorem step (positive : 0 < agent.config.bufferSize) (order : AgeOrder kind pool)
    (fits : Fits agent pool) (older : Agent.RequeuesOlder pool label)
    (stepped : agent.machine.step? pool label = some next) : AgeOrder kind next := by
  rcases Agent.step_on stepped kind with ⟨arrival, started, rfl, tasks, fresh, _, records, same⟩ |
    ⟨tid, choice, task, after, started, rfl, present, tasks, fresh, _, acts⟩
  · refine ⟨?_, fun task member batch holds => ?_⟩
    · rw [same]
      exact order.ordered
    · rw [tasks] at member
      rw [same]
      rcases List.mem_append.mp member with old | new
      · exact order.held task old batch holds
      · exact ((fresh task new).not_holds batch holds).elim
  · obtain ⟨kept, more, own⟩ := acts.ordered positive (fits.bounded kind) order.ordered
      (order.held task (List.mem_of_getElem? present)) (older task present)
    refine ⟨kept, fun other member batch holds => ?_⟩
    rw [tasks] at member
    rcases Pool.mem_acted_cases member with rfl | old | new
    · exact own batch holds
    · exact (order.held other old batch holds).mono more
    · exact ((fresh other new).not_holds batch holds).elim

end AgeOrder

/-- What pushing adds to the buffer is new. -/
theorem Column.buffered_pushBack (item : Telemetry kind) (key : Option String) :
    ∀ entry ∈ (column.pushBack item key).buffer,
      entry ∈ column.buffer ∨ column.entered.length ≤ entry.serial := by
  intro entry member
  rcases List.mem_append.mp member with old | new
  · exact Or.inl old
  · rw [List.mem_singleton.mp new]
    exact Or.inr le_rfl

/-- Taking the front item out adds nothing to the buffer. -/
theorem Column.buffered_of_front {victim : Entry kind} {rest : List (Entry kind)}
    (front : column.buffer = victim :: rest) : ∀ entry ∈ rest,
      entry ∈ column.buffer ∨ column.entered.length ≤ entry.serial := by
  intro entry member
  rw [front]
  exact Or.inl (List.mem_cons_of_mem _ member)

/-- What a send buffers is new. -/
theorem SendPhase.Acts.buffered {phase after : SendPhase kind} {started : List Task}
    (acts : phase.Acts agent choice common column common' column' after started) :
    ∀ entry ∈ column'.buffer, entry ∈ column.buffer ∨ column.entered.length ≤ entry.serial := by
  cases acts with
  | push item _ _ _ => exact Column.buffered_pushBack item none
  | pushed item key => exact Column.buffered_pushBack item key
  | evict _ _ _ _ _ _ front _ => exact Column.buffered_of_front front
  | evictKeyed _ _ _ _ _ _ _ front _ _ => exact Column.buffered_of_front front
  | _ => exact fun _ => Or.inl

/-- So is what a reload buffers. -/
theorem LoadPhase.Acts.buffered {phase after : LoadPhase kind}
    (acts : phase.Acts agent choice common column column' after) :
    ∀ entry ∈ column'.buffer, entry ∈ column.buffer ∨ column.entered.length ≤ entry.serial := by
  cases acts with
  | evict _ _ _ _ _ _ front _ => exact Column.buffered_of_front front
  | evictKeyed _ _ _ _ _ _ _ front _ _ => exact Column.buffered_of_front front
  | appended key item keys => exact Column.buffered_pushBack item (some key)
  | _ => exact fun _ => Or.inl

/-- The batches in flight are older than all that is buffered. -/
def Younger (kind : Kind) (pool : Pool Shared Task) : Prop :=
  ∀ task ∈ pool.tasks, ∀ batch, task.Holds kind batch → ∀ entry ∈ batch.entries,
    ∀ other ∈ (pool.shared.columns kind).buffer, entry.serial < other.serial

/-- A flush that holds a batch has one permit. -/
theorem Task.Holds.permits {task : Task} {batch : Batch (Occurrence kind)}
    (holds : task.Holds kind batch) : task.permits = 1 := by
  obtain ⟨phase, rfl, _⟩ := holds
  rfl

/-- The flush that acts has a batch afterwards that is older than all that is buffered. -/
theorem FlushPhase.Acts.younger {phase after : FlushPhase kind}
    (acts : phase.Acts agent choice common column common' column' after)
    (younger : ∀ batch ∈ phase.batch?, ∀ entry ∈ batch.entries,
      ∀ other ∈ column.buffer, entry.serial < other.serial) :
    ∀ batch ∈ after.batch?, ∀ entry ∈ batch.entries,
      ∀ other ∈ column'.buffer, entry.serial < other.serial := by
  intro batch found
  cases acts with
  | drained _ _ => exact fun _ _ _ member => (List.not_mem_nil member).elim
  | stamped _ _ => exact younger batch found
  | performed _ _ _ _ => exact younger batch found
  | failed _ _ _ => exact younger batch found
  | confirmedNone _ sent _ => cases sent <;> cases found
  | deleted _ sent => cases sent <;> cases found
  | _ => cases found

/-- With one permit the batches in flight stay older. -/
theorem Younger.step {pool next : Pool Shared Task} {label : PoolLabel Arrival Choice}
    (younger : Younger kind pool) (order : AgeOrder kind pool) (permitted : Permitted agent pool)
    (single : agent.config.maxConcurrentFlushes ≤ 1)
    (stepped : agent.machine.step? pool label = some next) : Younger kind next := by
  rcases Agent.step_on stepped kind with ⟨arrival, started, rfl, tasks, fresh, _, records, same⟩ |
    ⟨tid, choice, task, after, started, rfl, present, tasks, fresh, _, acts⟩
  · intro task member batch holds
    rw [tasks] at member
    rw [same]
    rcases List.mem_append.mp member with old | new
    · exact younger task old batch holds
    · exact ((fresh task new).not_holds batch holds).elim
  · obtain ⟨others, split, replaced⟩ := exists_rest_of_getElem? present
    -- What another task holds stays older when the buffer only gets what is new.
    have keeps (new : ∀ entry ∈ (next.shared.columns kind).buffer,
        entry ∈ (pool.shared.columns kind).buffer ∨
          (pool.shared.columns kind).entered.length ≤ entry.serial)
        (own : ∀ batch, ¬ after.Holds kind batch) : Younger kind next := by
      intro other member batch holds entry inside buffered there
      rw [tasks] at member
      rcases Pool.mem_acted_cases member with rfl | old | begun
      · exact (own batch holds).elim
      · rcases new buffered there with before | late
        · exact younger other old batch holds entry inside buffered before
        · exact ((order.held other old batch holds).below entry inside).trans_le late
      · exact ((fresh other begun).not_holds batch holds).elim
    cases acts with
    | send phase after started acts =>
        refine keeps acts.buffered fun batch holds => ?_
        obtain ⟨_, same, _⟩ := holds
        cases same
    | load phase after acts =>
        refine keeps acts.buffered fun batch holds => ?_
        obtain ⟨_, same, _⟩ := holds
        cases same
    | wipe _ same fresh =>
        refine keeps (fun entry member => ?_) fresh.not_holds
        rw [same] at member
        exact (List.not_mem_nil member).elim
    | clear _ records same fresh =>
        refine keeps (fun entry member => ?_) fresh.not_holds
        rw [same] at member
        exact Or.inl member
    | other _ _ _ same fresh =>
        refine keeps (fun entry member => ?_) fresh.not_holds
        rw [same] at member
        exact Or.inl member
    | flush phase after acts =>
        have mine := acts.younger fun batch found =>
          younger _ (List.mem_of_getElem? present) batch ⟨phase, rfl, found⟩
        have alone := permitted.alone single rfl split
        intro other member batch holds
        rw [tasks] at member
        rcases List.mem_append.mp member with old | new
        · rw [← Multiset.mem_coe, replaced, Multiset.mem_cons] at old
          rcases old with rfl | old
          · obtain ⟨_, named, found⟩ := holds
            cases named
            exact mine batch found
          · have none := alone other old
            rw [holds.permits] at none
            cases none
        · exact ((fresh other new).not_holds batch holds).elim

namespace Agent

/-- With one flush at a time, every requeue finds only younger items in the buffer. -/
theorem requeuesOlder_of_single (agent : Agent) (positive : 1 ≤ agent.config.bufferSize)
    (single : agent.config.maxConcurrentFlushes ≤ 1) (records : Kind → Records)
    {labels : List (PoolLabel Arrival Choice)} {pool : Pool Shared Task}
    (run : agent.machine.Run ⟨agent.initial records, []⟩ labels pool) :
    agent.machine.RunUnder Agent.RequeuesOlder ⟨agent.initial records, []⟩ labels pool := by
  refine run.strengthen (fun pool => Fits agent pool ∧ Permitted agent pool ∧
    ∀ kind, AgeOrder kind pool ∧ Younger kind pool) ⟨.initial records, .initial records,
      fun kind => ⟨.initial records, fun _ member => (List.not_mem_nil member).elim⟩⟩ ?_
  intro before label next held _ stepped
  obtain ⟨fits, permitted, orders⟩ := held
  have older : Agent.RequeuesOlder before label := by
    cases label with
    | arrive arrival => trivial
    | run tid choice =>
        intro task present
        unfold Task.RequeuesOlder
        split
        · next kind batch =>
            exact (orders kind).2 _ (List.mem_of_getElem? present) batch ⟨_, rfl, rfl⟩
        · trivial
  refine ⟨older, fits.step positive stepped, permitted.step stepped, fun kind => ⟨?_, ?_⟩⟩
  · exact (orders kind).1.step positive fits older stepped
  · exact (orders kind).2.step (orders kind).1 permitted single stepped

/-- **The buffers are in acceptance order**, in every run that requeues no batch in front of
older items. Then the drop policy evicts the oldest item, and a requeue evicts the newest. -/
theorem age_order (agent : Agent) (positive : 1 ≤ agent.config.bufferSize)
    (records : Kind → Records) (kind : Kind) (labels : List (PoolLabel Arrival Choice))
    (pool : Pool Shared Task)
    (run : agent.machine.RunUnder Agent.RequeuesOlder ⟨agent.initial records, []⟩ labels pool) :
    (pool.shared.columns kind).buffer.Pairwise (fun first second => first.serial < second.serial) ∧
    (∀ tid choice next item, pool.tasks[tid]? = some (.send kind (.enqueue item)) →
      agent.machine.step? pool (.run tid choice) = some next →
      (next.shared.columns kind).evicted = (pool.shared.columns kind).evicted ∨
      ∃ victim ∈ (pool.shared.columns kind).buffer,
        (next.shared.columns kind).evicted = (pool.shared.columns kind).evicted ++ [victim] ∧
        ∀ entry ∈ (pool.shared.columns kind).buffer, victim.serial ≤ entry.serial) ∧
    ∀ tid choice next batch, pool.tasks[tid]? = some (.flush kind (.requeueing batch)) →
      Agent.RequeuesOlder pool (.run tid choice) →
      agent.machine.step? pool (.run tid choice) = some next →
      ∃ victims, (next.shared.columns kind).evicted =
          (pool.shared.columns kind).evicted ++ victims ∧
        ∀ victim ∈ victims, ∀ entry ∈ (next.shared.columns kind).buffer,
          entry.serial < victim.serial := by
  obtain ⟨fits, order⟩ := run.invariant (fun pool => Fits agent pool ∧ AgeOrder kind pool)
    ⟨.initial records, .initial records⟩ fun before label next held older stepped =>
      ⟨held.1.step positive stepped, held.2.step positive held.1 older stepped⟩
  refine ⟨order.ordered.increasing, ?_, ?_⟩
  · intro tid choice next item sending stepped
    rcases Agent.step_on stepped kind with ⟨_, _, label, _⟩ |
      ⟨_, _, task, after, started, label, present, _, _, _, acts⟩
    · cases label
    · cases label
      rw [sending] at present
      cases present
      have oldest {victim : Entry kind} {rest : List (Entry kind)}
          (front : (pool.shared.columns kind).buffer = victim :: rest) :
          ∀ entry ∈ (pool.shared.columns kind).buffer, victim.serial ≤ entry.serial := by
        have ordered := order.ordered
        rw [Column.Ordered, front] at ordered
        rw [front]
        exact ordered.front_le
      cases acts with
      | send phase after started acts =>
          generalize next.shared.toCommon = common at acts
          generalize next.shared.columns kind = column at acts ⊢
          cases acts with
          | evict _ victim rest _ _ _ front _ =>
              refine Or.inr ⟨victim, ?_, rfl, oldest front⟩
              rw [front]
              exact List.mem_cons_self
          | evictKeyed _ victim rest _ _ _ _ front _ _ =>
              refine Or.inr ⟨victim, ?_, rfl, oldest front⟩
              rw [front]
              exact List.mem_cons_self
          | _ => exact Or.inl rfl
      | other _ _ _ same _ => exact Or.inl (congrArg Column.evicted same)
  · intro tid choice next batch requeues older stepped
    rcases Agent.step_on stepped kind with ⟨_, _, label, _⟩ |
      ⟨_, _, task, after, started, label, present, _, _, _, acts⟩
    · cases label
    · cases label
      have front := older _ requeues
      rw [requeues] at present
      cases present
      cases acts with
      | flush phase after acts =>
          generalize next.shared.toCommon = common at acts
          generalize next.shared.columns kind = column at acts ⊢
          cases acts with
          | requeued _ _ =>
              have held := order.held _ (List.mem_of_getElem? requeues) batch ⟨_, rfl, rfl⟩
              have joined := held.append order.ordered front
              refine ⟨_, rfl, ?_⟩
              simp only [Column.requeue, requeue_eq positive _ (fits.bounded kind)]
              intro victim gone entry kept
              exact joined.take_lt_drop _ entry kept victim (List.mem_reverse.mp gone)
      | other _ _ _ same _ =>
          refine ⟨[], ?_, fun victim member => (List.not_mem_nil member).elim⟩
          rw [same, List.append_nil]

/-- Two flushes have an item each, and fail in this order. -/
def failInTurn (first second : ℕ) : List (PoolLabel Arrival Choice) :=
  [.arrive (.trySend .metrics (sampleMetric 1 [])), offlineAct 0, .arrive .flushBuffer] ++
    List.replicate 9 (offlineAct 1) ++
    [.arrive (.trySend .metrics (sampleMetric 2 [])), offlineAct 2, .arrive .flushBuffer] ++
    List.replicate 9 (offlineAct 3) ++ List.replicate 14 (offlineAct first) ++
    List.replicate 14 (offlineAct second)

/-- The younger of two batches fails first: the older one is put in front of it. -/
theorem age_order_of_two :
    let agent := Agent.sample { AgentConfig.new "test-api-key-1234" with
      maxConcurrentFlushes := 2, retryAttempts := 0 } []
    ∃ pool, agent.machine.RunUnder Agent.RequeuesOlder ⟨agent.initial fun _ => ∅, []⟩
        (failInTurn 3 1) pool ∧
      (pool.shared.columns .metrics).buffer.length = 2 ∧
      (pool.shared.columns .metrics).buffer.Pairwise fun first second =>
        first.serial < second.serial := by
  intro agent
  obtain ⟨pool, run, checked⟩ := @Machine.exists_runUnder _ _ agent.machine
    Agent.RequeuesOlder _ ⟨agent.initial fun _ => ∅, []⟩ (failInTurn 3 1)
    (fun pool => (pool.shared.columns .metrics).buffer.length = 2) (by decide +kernel)
  exact ⟨pool, run, of_decide_eq_true checked,
    (age_order agent (by decide) _ .metrics _ pool run).1⟩

/-- The older of two batches fails first: the younger one is put in front of it, and a full
buffer then evicts the younger item. -/
theorem requeue_out_of_order :
    let agent := Agent.sample { AgentConfig.new "test-api-key-1234" with
      bufferSize := 2, maxConcurrentFlushes := 2, retryAttempts := 0 } []
    ∃ pool next, agent.machine.Run ⟨agent.initial fun _ => ∅, []⟩ (failInTurn 1 3) pool ∧
      (pool.shared.columns .metrics).buffer.map BufferedItem.serial = [1, 0] ∧
      agent.machine.Run pool [.arrive (.trySend .metrics (sampleMetric 3 [])), offlineAct 4] next ∧
      (next.shared.columns .metrics).evicted.map BufferedItem.serial = [1] := by
  intro agent
  obtain ⟨pool, run, checked⟩ := @Machine.exists_run _ _ agent.machine
    ⟨agent.initial fun _ => ∅, []⟩ (failInTurn 1 3)
    (fun pool => decide ((pool.shared.columns .metrics).buffer.map BufferedItem.serial = [1, 0]) &&
      (agent.machine.run? pool
        [.arrive (.trySend .metrics (sampleMetric 3 [])), offlineAct 4]).any
          fun next : Pool Shared Task =>
          decide ((next.shared.columns .metrics).evicted.map BufferedItem.serial = [1]))
    (by decide +kernel)
  obtain ⟨order, later⟩ := (Bool.and_eq_true ..).mp checked
  obtain ⟨next, run', evicted⟩ := Machine.exists_run later
  exact ⟨pool, next, run, of_decide_eq_true order, run', of_decide_eq_true evicted⟩

end Agent

end GuardAgent
