import GuardAgent.Agent.Tasks
import GuardAgent.Transport.Rules

/-!
# Status pushes and polls of the rules

What the status loop and the rules loop do at a tick, and the calls `push_status` and
`get_dynamic_rules`, next to the tasks of the agent. Their actions take the lock of the core
for a moment only; the body of a status is whatever is computed then.
-/

namespace GuardAgent

open Foundation

/-- How the documents of rules are read, and their time to live in seconds. -/
structure RulesFormat (Rules : Type) where
  fromValue : Value → Option Rules
  ttl : Rules → ℕ

/-- What the core has about the rules. -/
structure RulesCache (Rules : Type) where
  cachedRules : Option Rules
  rulesLastUpdate : Option ℚ
  rulesFetched : ℕ

/-- What the core has about the two loops. -/
structure LoopState (Rules : Type) extends RulesCache Rules where
  statusConsecutiveFailures : ℕ
  lastStatusPushOk : Option Bool
  /-- `loop_failures.status`. -/
  statusFailures : ℕ
  /-- `loop_failures.rules`. -/
  rulesFailures : ℕ

def LoopState.initial {Rules : Type} : LoopState Rules where
  cachedRules := none
  rulesLastUpdate := none
  rulesFetched := 0
  statusConsecutiveFailures := 0
  lastStatusPushOk := none
  statusFailures := 0
  rulesFailures := 0

/-- `u32::saturating_add` of one. -/
def saturatingSucc (count : ℕ) : ℕ := min (count + 1) (2 ^ 32 - 1)

/-- `push_status_once`. -/
inductive StatusPhase where
  /-- About to lock the core. -/
  | computing
  | sending (rest : TransportProgram Unit SendOutcome)
  | recording (outcome : SendOutcome)
  | finished

/-- `fetch_dynamic_rules_once`. -/
inductive FetchPhase (Rules : Type) where
  | start
  /-- Has read the clock; about to lock the core. -/
  | checking (now : ℚ)
  | fetching (rest : TransportProgram Unit (Option Rules))
  | installing (fetched : Option Rules)
  | returned (rules : Option Rules)

inductive LoopTask (Rules : Type) where
  | pushStatus (phase : StatusPhase)
  /-- A tick of the rules loop. -/
  | pollRules (phase : FetchPhase Rules)
  | getDynamicRules (phase : FetchPhase Rules)
  | finished

/-- What starts a task: a tick of a loop, or a call. -/
inductive LoopArrival where
  | pushStatus
  | pollRules
  | getDynamicRules

/-- The serialized status that is computed, and the answers to the operations of the transport. -/
structure LoopChoice where
  status : Bytes
  respond : (op : TransportOp Unit) → op.Answer

variable {Rules : Type} (agent : Agent) (format : RulesFormat Rules)

/-- The action of a status push. -/
def StatusPhase.act? (phase : StatusPhase) (choice : LoopChoice) (common : Common)
    (state : LoopState Rules) : Option (LoopState Rules × StatusPhase) :=
  match phase with
  | .computing =>
      if common.locked then none
      else some (state, .sending (agent.transport.sendStatus agent.crates choice.status))
  | .sending (.perform op next) => some (state, .sending (next (choice.respond op)))
  | .sending (.done outcome) => some (state, .recording outcome)
  | .recording outcome =>
      if common.locked then none
      else if outcome.isConfirmed then
        some ({ state with
          statusConsecutiveFailures := 0
          statusFailures := 0
          lastStatusPushOk := some true }, .finished)
      else
        some ({ state with
          statusConsecutiveFailures := saturatingSucc state.statusConsecutiveFailures
          statusFailures := saturatingSucc state.statusFailures
          lastStatusPushOk := some false }, .finished)
  | .finished => none

/-- The action of a fetch; a cached document that is younger than its time to live is served. -/
def FetchPhase.act? (phase : FetchPhase Rules) (choice : LoopChoice) (common : Common)
    (cache : RulesCache Rules) : Option (RulesCache Rules × FetchPhase Rules) :=
  match phase with
  | .start => some (cache, .checking common.now)
  | .checking now =>
      if common.locked then none
      else
        let ttl := (cache.cachedRules.map format.ttl).getD 0
        -- `duration_since` saturates at zero.
        let fresh := cache.rulesLastUpdate.any fun last => max (now - last) 0 < ttl
        match if fresh then cache.cachedRules else none with
        | some rules => some (cache, .returned (some rules))
        | none => some (cache, .fetching (agent.transport.fetchRules agent.crates format.fromValue))
  | .fetching (.perform op next) => some (cache, .fetching (next (choice.respond op)))
  | .fetching (.done fetched) => some (cache, .installing fetched)
  | .installing fetched =>
      if common.locked then none
      else match fetched with
        | some rules =>
            some (⟨some rules, some common.now, cache.rulesFetched + 1⟩, .returned fetched)
        | none => some (cache, .returned none)
  | .returned _ => none

/-- The next action of a task; a tick of the rules loop ends by counting. -/
def LoopTask.act? (task : LoopTask Rules) (choice : LoopChoice) (common : Common)
    (state : LoopState Rules) : Option (LoopState Rules × LoopTask Rules × List (LoopTask Rules)) :=
  match task with
  | .pushStatus phase =>
      (phase.act? agent choice common state).map fun (state, phase) =>
        (state, .pushStatus phase, [])
  | .pollRules (.returned outcome) =>
      if common.locked then none
      else some ({ state with
        rulesFailures := if outcome.isSome then 0 else saturatingSucc state.rulesFailures },
        .finished, [])
  | .pollRules phase =>
      (phase.act? agent format choice common state.toRulesCache).map fun (cache, phase) =>
        ({ state with toRulesCache := cache }, .pollRules phase, [])
  | .getDynamicRules phase =>
      (phase.act? agent format choice common state.toRulesCache).map fun (cache, phase) =>
        ({ state with toRulesCache := cache }, .getDynamicRules phase, [])
  | .finished => none

def LoopArrival.task : LoopArrival → LoopTask Rules
  | pushStatus => .pushStatus .computing
  | pollRules => .pollRules .start
  | getDynamicRules => .getDynamicRules .start

/-- The tasks, while the agent is in this state. -/
def Agent.loopThreads (common : Common) :
    Threads (LoopState Rules) (LoopTask Rules) LoopArrival LoopChoice where
  arrive? arrival state := some (state, [arrival.task])
  act? task choice state := task.act? agent format choice common state

/-- All interleavings with the tasks of the agent. -/
def Agent.looping : Machine (Pool Shared Task × Pool (LoopState Rules) (LoopTask Rules))
    (PoolLabel Arrival Choice ⊕ PoolLabel LoopArrival LoopChoice) :=
  agent.machine.beside fun pool => (agent.loopThreads format pool.shared.toCommon).machine

end GuardAgent
