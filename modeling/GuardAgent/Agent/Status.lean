import GuardAgent.Agent.Capacity
import GuardAgent.Transport.CircuitBreaker

/-!
# Status and health

What `get_status` reports and `health_check` answers in a state of the agent. No item is lost to a
full buffer, refused or kept waiting but in a state that they report
(`Agent.overflow_reported`).
-/

namespace GuardAgent

open Foundation

def degradedBufferRatio : ℚ := 9 / 10
def healthBufferRatio : ℚ := 95 / 100
def degradedFailureRate : ℚ := 1 / 10
def healthFailureRateMax : ℚ := 1 / 2

/-- `AgentHealth`. -/
inductive AgentHealth where
  | healthy
  | degraded
  | failed
  deriving DecidableEq

/-- `AgentStatus`. -/
structure AgentStatus where
  timestamp : String
  status : AgentHealth
  uptime : ℚ
  eventsSent : ℕ
  eventsFailed : ℕ
  bufferSize : ℕ
  lastFlush : Option String
  errors : List String

/-- What a status is computed from besides the core. -/
structure StatusInputs where
  timestamp : String
  uptime : ℚ
  lastFlush : Option String
  breakerState : CircuitBreakerState
  /-- `{:.1}`. -/
  oneDecimal : ℚ → String

namespace Shared

variable (shared : Shared)

/-- How many items of both kinds are buffered. -/
def buffered : ℕ :=
  (shared.columns .events).buffer.length + (shared.columns .metrics).buffer.length

/-- `failure_rate`. -/
def failureRate : ℚ :=
  let failed := (shared.columns .events).failed + (shared.columns .metrics).failed
  let total := (shared.columns .events).sent + (shared.columns .metrics).sent + failed
  failed / max total 1

end Shared

namespace Agent

variable (agent : Agent) (inputs : StatusInputs) (shared : Shared)

/-- `compute_status`. -/
def computeStatus : AgentStatus :=
  let breakerOpen : Bool := inputs.breakerState = .open
  let nearlyFull : Bool := agent.config.bufferSize * degradedBufferRatio ≤ shared.buffered
  let failing : Bool := degradedFailureRate < shared.failureRate
  { timestamp := inputs.timestamp
    status := if breakerOpen || nearlyFull || failing then .degraded else .healthy
    uptime := inputs.uptime
    eventsSent := (shared.columns .events).sent
    eventsFailed := (shared.columns .events).failed
    bufferSize := shared.buffered
    lastFlush := inputs.lastFlush
    errors :=
      (if breakerOpen then ["Transport circuit breaker is open"] else []) ++
      (if nearlyFull then ["Buffer nearly full"] else []) ++
      (if failing then
        [s!"High failure rate: {inputs.oneDecimal (shared.failureRate * 100)}%"] else []) }

/-- `health_check`. -/
def healthCheck : Bool :=
  if !shared.running then false
  else if inputs.breakerState = .open then false
  else if agent.config.bufferSize * healthBufferRatio ≤ shared.buffered then false
  else decide (shared.failureRate ≤ healthFailureRateMax)

variable {agent inputs shared}

/-- A status is degraded exactly when it gives a reason, and is never failed. -/
theorem computeStatus_degraded :
    ((agent.computeStatus inputs shared).status = .degraded ↔
      (agent.computeStatus inputs shared).errors ≠ []) ∧
      (agent.computeStatus inputs shared).status ≠ .failed := by
  dsimp only [computeStatus]
  generalize decide (inputs.breakerState = .open) = breakerOpen
  generalize decide ((agent.config.bufferSize : ℚ) * degradedBufferRatio ≤ shared.buffered) =
    nearlyFull
  generalize decide (degradedFailureRate < shared.failureRate) = failing
  cases breakerOpen <;> cases nearlyFull <;> cases failing <;>
    simp only [Bool.or_self, Bool.or_true, Bool.or_false, Bool.false_eq_true, ↓reduceIte,
      List.append_nil, List.nil_append, List.cons_append, ne_eq, reduceCtorEq, not_true_eq_false,
      not_false_eq_true, and_self]

variable (agent shared) in
/-- The status and the health check show that the buffers are nearly full. -/
def ReportsFull : Prop :=
  ∀ inputs, (agent.computeStatus inputs shared).status = .degraded ∧
    "Buffer nearly full" ∈ (agent.computeStatus inputs shared).errors ∧
    agent.healthCheck inputs shared = false

/-- One full buffer is enough. -/
theorem reportsFull_of_full {kind : Kind}
    (full : agent.config.bufferSize ≤ (shared.columns kind).buffer.length) :
    agent.ReportsFull shared := by
  intro inputs
  have most : agent.config.bufferSize ≤ shared.buffered := by
    cases kind
    · exact full.trans (Nat.le_add_right _ _)
    · exact full.trans (Nat.le_add_left _ _)
  have ratio {part : ℚ} (least : part ≤ 1) :
      (agent.config.bufferSize : ℚ) * part ≤ shared.buffered :=
    (mul_le_of_le_one_right (Nat.cast_nonneg _) least).trans (Nat.cast_le.mpr most)
  have nearly := ratio (show degradedBufferRatio ≤ 1 by norm_num [degradedBufferRatio])
  have unhealthy := ratio (show healthBufferRatio ≤ 1 by norm_num [healthBufferRatio])
  have listed : "Buffer nearly full" ∈ (agent.computeStatus inputs shared).errors := by
    simp only [computeStatus, nearly, decide_true, ↓reduceIte, List.mem_append,
      List.mem_singleton, true_or, or_true]
  refine ⟨?_, listed, ?_⟩
  · exact computeStatus_degraded.1.mpr (List.ne_nil_of_mem listed)
  · simp only [healthCheck, unhealthy, ↓reduceIte, ite_self]

end Agent

variable {agent : Agent} {kind : Kind} {choice : Choice} {common common' : Common}
  {column column' : Column kind}

/-- The send waits for room or was refused. -/
def SendPhase.isHeldUp : SendPhase kind → Bool
  | .enqueue _ => true
  | .returned (.error _) => true
  | _ => false

/-- A send evicts, refuses or waits at a full buffer only. -/
theorem SendPhase.Acts.full {phase after : SendPhase kind} {started : List Task}
    (acts : phase.Acts agent choice common column common' column' after started)
    (lossy : column.dropped < column'.dropped ∨
      (∃ item, phase = .enqueue item) ∧ after.isHeldUp = true) :
    agent.config.bufferSize ≤ column.buffer.length := by
  cases acts with
  | panic item _ full _ _ => exact full
  | evict item victim rest _ full _ _ _ => exact full
  | evictKeyed item victim rest key _ full _ _ _ _ => exact full
  | refuse item _ full _ => exact full
  | wait item _ full _ => exact full
  | forgot item key =>
      rcases lossy with more | ⟨⟨other, same⟩, _⟩
      · exact (lt_irrefl _ more).elim
      · cases same
  | _ =>
      rcases lossy with more | ⟨_, held⟩
      · exact (lt_irrefl _ more).elim
      · cases held

/-- A flush drops items only to leave a full buffer. -/
theorem FlushPhase.Acts.full {phase after : FlushPhase kind}
    (positive : 0 < agent.config.bufferSize)
    (acts : phase.Acts agent choice common column common' column' after)
    (bounded : column.buffer.length ≤ agent.config.bufferSize)
    (more : column.dropped < column'.dropped) :
    agent.config.bufferSize ≤ column'.buffer.length := by
  cases acts with
  | requeued batch _ =>
      have closed := requeue_eq positive _ bounded batch column.dropped
      change column.dropped < (GuardAgent.requeue _ _ _ _).dropped at more
      change _ ≤ (GuardAgent.requeue _ _ _ _).deque.length
      rw [closed] at more ⊢
      have long : agent.config.bufferSize ≤ (batch.entries ++ column.buffer).length := by
        dsimp only at more
        omega
      rw [List.length_take, Nat.min_eq_left long]
  | _ => exact (lt_irrefl _ more).elim

/-- A reload evicts from a full buffer only. -/
theorem LoadPhase.Acts.full {phase after : LoadPhase kind}
    (acts : phase.Acts agent choice common column column' after)
    (more : column.dropped < column'.dropped) :
    agent.config.bufferSize ≤ column.buffer.length := by
  cases acts with
  | evict key item keys victim rest full _ _ => exact full
  | evictKeyed key item keys victim rest forgotten full _ _ _ => exact full
  | _ => exact (lt_irrefl _ more).elim

namespace Agent

/-- **No item is dropped, refused or kept waiting unreported**: whenever a counter of dropped
items grows, the status and the health check show nearly full buffers just before or just after;
and they show them whenever a send finds no room, whatever else runs. -/
theorem overflow_reported (agent : Agent) (positive : 1 ≤ agent.config.bufferSize)
    (records : Kind → Records) (labels : List (PoolLabel Arrival Choice))
    (pool next : Pool Shared Task) (run : agent.machine.Run ⟨agent.initial records, []⟩ labels pool)
    (label : PoolLabel Arrival Choice) (stepped : agent.machine.step? pool label = some next)
    (kind : Kind) :
    ((pool.shared.columns kind).dropped < (next.shared.columns kind).dropped →
      agent.ReportsFull pool.shared ∨ agent.ReportsFull next.shared) ∧
    ∀ tid choice item after, label = .run tid choice →
      pool.tasks[tid]? = some (.send kind (.enqueue item)) →
      next.tasks[tid]? = some (.send kind after) → after.isHeldUp = true →
      agent.ReportsFull pool.shared := by
  have fits := run.invariant (Fits agent) (.initial records)
    fun _ _ _ fits _ stepped => fits.step positive stepped
  rcases step_on stepped kind with ⟨arrival, started, rfl, _, _, _, records, same⟩ |
    ⟨tid, choice, task, after, started, rfl, present, tasks, _, _, acts⟩
  -- Nothing that arrives buffers or drops an item.
  · refine ⟨fun more => ?_, fun tid choice item after same => ?_⟩
    · rw [same] at more
      exact (lt_irrefl _ more).elim
    · cases same
  · constructor
    · intro more
      cases acts with
      | send phase after started acts =>
          exact Or.inl (reportsFull_of_full (acts.full (Or.inl more)))
      | flush phase after acts =>
          exact Or.inr (reportsFull_of_full (acts.full positive (fits.bounded kind) more))
      | load phase after acts => exact Or.inl (reportsFull_of_full (acts.full more))
      | wipe after same _ =>
          rw [same] at more
          exact (lt_irrefl _ more).elim
      | clear after records same _ =>
          rw [same] at more
          exact (lt_irrefl _ more).elim
      | other task after _ same _ =>
          rw [same] at more
          exact (lt_irrefl _ more).elim
    · intro acting answered item phase ran waiting found held
      cases ran
      cases present.symm.trans waiting
      have inside : tid < pool.tasks.length := (List.getElem?_eq_some_iff.mp present).choose
      rw [tasks, List.getElem?_append_left (by rwa [List.length_set]),
        List.getElem?_set_self inside] at found
      cases found
      cases acts with
      | send phase after started acts =>
          exact reportsFull_of_full (acts.full (Or.inr ⟨⟨item, rfl⟩, held⟩))
      | other task after idle _ _ => exact (idle rfl).elim

/-- The second metric finds no room in a buffer of one item. -/
theorem overflow_reported_drop :
    let agent := Agent.sample { AgentConfig.new "test-api-key-1234" with bufferSize := 1 } []
    let labels := [.arrive (.trySend .metrics (sampleMetric 1 [])), offlineAct 0,
      .arrive (.trySend .metrics (sampleMetric 2 []))]
    ∃ pool next, agent.machine.Run ⟨agent.initial fun _ => ∅, []⟩ labels pool ∧
      agent.machine.step? pool (offlineAct 1) = some next ∧
      (next.shared.columns .metrics).dropped = 1 ∧
      (agent.ReportsFull pool.shared ∨ agent.ReportsFull next.shared) := by
  intro agent labels
  let drops (pool next : Pool Shared Task) : Bool :=
    decide ((pool.shared.columns .metrics).dropped = 0 ∧
      (next.shared.columns .metrics).dropped = 1)
  obtain ⟨pool, run, checked⟩ := @Machine.exists_run _ _ agent.machine
    ⟨agent.initial fun _ => ∅, []⟩ labels
    (fun pool => (agent.machine.step? pool (offlineAct 1)).any (drops pool)) (by decide +kernel)
  obtain ⟨next, stepped, dropped⟩ := (Option.any_eq_true _ _).mp checked
  obtain ⟨none, one⟩ := of_decide_eq_true dropped
  refine ⟨pool, next, run, stepped, one, ?_⟩
  have reported := overflow_reported agent (by decide) _ labels pool next run _ stepped .metrics
  refine reported.1 ?_
  rw [none, one]
  exact Nat.zero_lt_one

end Agent

end GuardAgent
