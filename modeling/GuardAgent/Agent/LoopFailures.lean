import GuardAgent.Agent.Durability
import GuardAgent.Agent.Loops

/-!
# The counters of consecutive failures

The counters of status pushes and of rules polls are the numbers of failures since the last
success. That of flushes is never reset, so it is such a number only as long as no batch is
accepted after one has failed (`Agent.loop_failures`).
-/

namespace GuardAgent

open Foundation

/-- Failures since the last success. -/
def consecutiveFailures (outcomes : List Bool) : ℕ :=
  (outcomes.rtakeWhile (!·)).length

/-- Before any run of the loop there is no failure. -/
@[simp] theorem consecutiveFailures_nil : consecutiveFailures [] = 0 := rfl

/-- A success ends the failures in a row. -/
theorem consecutiveFailures_success (outcomes : List Bool) :
    consecutiveFailures (outcomes ++ [true]) = 0 := by
  rw [consecutiveFailures, List.rtakeWhile_concat_neg _ _ _ (by decide)]
  rfl

/-- A failure adds one to the failures in a row. -/
theorem consecutiveFailures_failure (outcomes : List Bool) :
    consecutiveFailures (outcomes ++ [false]) = consecutiveFailures outcomes + 1 := by
  rw [consecutiveFailures, List.rtakeWhile_concat_pos _ _ _ (by decide), List.length_append]
  rfl

/-- A saturating counter of consecutive failures. -/
def saturated (outcomes : List Bool) : ℕ :=
  min (consecutiveFailures outcomes) (2 ^ 32 - 1)

/-- A success resets the counter. -/
theorem saturated_success (outcomes : List Bool) : saturated (outcomes ++ [true]) = 0 := by
  rw [saturated, consecutiveFailures_success]
  rfl

/-- A failure adds one to the counter, up to its largest value. -/
theorem saturated_failure (outcomes : List Bool) :
    saturated (outcomes ++ [false]) = saturatingSucc (saturated outcomes) := by
  rw [saturated, saturated, saturatingSucc, consecutiveFailures_failure]
  omega

/-- The outcomes that were recorded, of which the true ones are successes. -/
structure Outcomes where
  flush : List Bool
  status : List Bool
  rules : List Bool

/-- The outcome of a batch that the next action of the task records: that it was accepted, or
that it failed. -/
def Task.flushOutcome? : Task → Option Bool
  | .flush _ (.recordingSent _) => some true
  | .flush _ (.recordingFailed _ _) => some false
  | _ => none

variable {Rules : Type}

/-- The outcome of a status push that the next action of the task records. -/
def LoopTask.statusOutcome? : LoopTask Rules → Option Bool
  | .pushStatus (.recording outcome) => some outcome.isConfirmed
  | _ => none

/-- The outcome of a poll of the rules that the next action of the task records. -/
def LoopTask.rulesOutcome? : LoopTask Rules → Option Bool
  | .pollRules (.returned outcome) => some outcome.isSome
  | _ => none

/-- The states of the agent with its loops. -/
abbrev LoopingState (Rules : Type) : Type :=
  Pool Shared Task × Pool (LoopState Rules) (LoopTask Rules)

abbrev LoopingLabel : Type := PoolLabel Arrival Choice ⊕ PoolLabel LoopArrival LoopChoice

namespace Outcomes

/-- Record the outcomes of a step. -/
def observe (past : Outcomes) (before : LoopingState Rules) (label : LoopingLabel)
    (_ : LoopingState Rules) : Outcomes :=
  match label with
  | .inl (.run tid _) =>
      { past with flush := past.flush ++ (before.1.tasks[tid]?.bind Task.flushOutcome?).toList }
  | .inr (.run tid _) =>
      { past with
        status := past.status ++ (before.2.tasks[tid]?.bind LoopTask.statusOutcome?).toList
        rules := past.rules ++ (before.2.tasks[tid]?.bind LoopTask.rulesOutcome?).toList }
  | _ => past

end Outcomes

namespace Agent

variable (agent : Agent) (format : RulesFormat Rules)

/-- A new agent, over the records of a store. -/
def initialLooping (records : Kind → Records) : LoopingState Rules :=
  (⟨agent.initial records, []⟩, ⟨.initial, []⟩)

/-- The outcomes recorded in a run. -/
def outcomes (records : Kind → Records) (labels : List LoopingLabel) : Outcomes :=
  (agent.looping format).history Outcomes.observe ⟨[], [], []⟩ (agent.initialLooping records) labels

end Agent

/-- `loop_failures.flush`, to which one is added without saturation. -/
def Shared.flushFailures (shared : Shared) : ℕ := shared.loopFailures % 2 ^ 32

/-- The step records no acceptance over a count that is not zero, and no failure over the
greatest count. -/
def KeepsCount (state : LoopingState Rules) : LoopingLabel → Prop
  | .inl (.run tid _) => ∀ success ∈ state.1.tasks[tid]?.bind Task.flushOutcome?,
      if success then state.1.shared.flushFailures = 0
      else state.1.shared.flushFailures < 2 ^ 32 - 1
  | _ => True

variable {agent : Agent} {format : RulesFormat Rules}

/-- A flush adds one to the counter when it records a failure, and never resets it. -/
theorem Task.Acts.loopFailures {task after : Task} {choice : Choice} {shared shared' : Shared}
    {started : List Task} (acts : task.Acts agent choice shared shared' after started) :
    shared'.loopFailures = shared.loopFailures +
      if task.flushOutcome? = some false then 1 else 0 := by
  cases acts with
  | send kind phase after common column started acts => cases acts <;> rfl
  | flush kind phase after common column acts => cases acts <;> rfl
  | _ => rfl

/-- Arrivals leave the counter of the flush loop alone. -/
theorem Arrival.arrive?_loopFailures {arrival : Arrival} {shared shared' : Shared}
    {started : List Task} (arrived : arrival.arrive? agent shared = some (shared', started)) :
    shared'.loopFailures = shared.loopFailures := by
  cases arrival with
  | attachRedisHandler =>
      obtain ⟨_, same⟩ := Option.ite_none_left_eq_some.mp arrived
      cases same
      rfl
  | elapse seconds =>
      obtain ⟨_, same⟩ := Option.ite_none_right_eq_some.mp arrived
      cases same
      rfl
  | _ =>
      cases arrived
      rfl

/-- A counter after an outcome, if one is recorded. -/
def counted (outcome? : Option Bool) (count : ℕ) : ℕ :=
  match outcome? with
  | none => count
  | some true => 0
  | some false => saturatingSucc count

/-- One more outcome, if there is one, is counted onto the counter. -/
theorem saturated_append (outcomes : List Bool) (outcome? : Option Bool) :
    saturated (outcomes ++ outcome?.toList) = counted outcome? (saturated outcomes) := by
  match outcome? with
  | none => exact congrArg saturated (List.append_nil _)
  | some true => exact saturated_success outcomes
  | some false => exact saturated_failure outcomes

/-- An action of the status loop counts its outcome and leaves the rules loop's counter alone. -/
theorem StatusPhase.act?_counts {phase after : StatusPhase} {choice : LoopChoice} {common : Common}
    {state state' : LoopState Rules}
    (acted : phase.act? agent choice common state = some (state', after)) :
    state'.statusFailures = counted (LoopTask.statusOutcome? (.pushStatus phase : LoopTask Rules))
      state.statusFailures ∧ state'.rulesFailures = state.rulesFailures := by
  cases phase with
  | computing =>
      obtain ⟨_, same⟩ := Option.ite_none_left_eq_some.mp acted
      cases same
      exact ⟨rfl, rfl⟩
  | sending rest =>
      cases rest <;> cases acted <;> exact ⟨rfl, rfl⟩
  | recording outcome =>
      obtain ⟨_, same⟩ := Option.ite_none_left_eq_some.mp acted
      split at same
      · next confirmed =>
          cases same
          exact ⟨by rw [LoopTask.statusOutcome?, confirmed, counted], rfl⟩
      · next failed =>
          cases same
          exact ⟨by rw [LoopTask.statusOutcome?, Bool.eq_false_iff.mpr failed, counted], rfl⟩
  | finished => cases acted

/-- Only a recording action counts. -/
theorem LoopTask.act?_counts {task after : LoopTask Rules} {choice : LoopChoice} {common : Common}
    {state state' : LoopState Rules} {started : List (LoopTask Rules)}
    (acted : task.act? agent format choice common state = some (state', after, started)) :
    state'.statusFailures = counted task.statusOutcome? state.statusFailures ∧
      state'.rulesFailures = counted task.rulesOutcome? state.rulesFailures := by
  cases task with
  | pushStatus phase =>
      obtain ⟨⟨_, _⟩, pushed, same⟩ := Option.map_eq_some_iff.mp acted
      cases same
      exact phase.act?_counts pushed
  | pollRules phase =>
      cases phase with
      | returned outcome =>
          obtain ⟨_, same⟩ := Option.ite_none_left_eq_some.mp acted
          cases same
          refine ⟨rfl, ?_⟩
          cases outcome <;> rfl
      | _ =>
          simp only [act?] at acted
          obtain ⟨_, _, same⟩ := Option.map_eq_some_iff.mp acted
          cases same
          exact ⟨rfl, rfl⟩
  | getDynamicRules phase =>
      obtain ⟨_, _, same⟩ := Option.map_eq_some_iff.mp acted
      cases same
      exact ⟨rfl, rfl⟩
  | finished => cases acted

/-- The loops count their failures since the last success. -/
structure LoopsAgree (state : LoopingState Rules) (past : Outcomes) : Prop where
  status : state.2.shared.statusFailures = saturated past.status
  rules : state.2.shared.rulesFailures = saturated past.rules

/-- The counter of flushes is that of failures since the last acceptance. -/
def FlushAgrees (state : LoopingState Rules) (past : Outcomes) : Prop :=
  state.1.shared.flushFailures = saturated past.flush

/-- A step keeps the counters in agreement with the outcomes. -/
theorem LoopsAgree.step {state next : LoopingState Rules} {past : Outcomes} {label : LoopingLabel}
    (agree : LoopsAgree state past)
    (stepped : (agent.looping format).step? state label = some next) :
    LoopsAgree next (past.observe state label next) := by
  rcases Machine.beside_cases stepped with ⟨move, pool, rfl, moved, rfl⟩ |
    ⟨move, pool, rfl, moved, rfl⟩
  · cases move <;> exact ⟨agree.status, agree.rules⟩
  · rcases Threads.step_cases moved with ⟨arrival, shared, started, rfl, arrived, rfl⟩ |
      ⟨tid, choice, task, shared, after, started, rfl, present, acted, rfl⟩
    · cases arrived
      exact ⟨agree.status, agree.rules⟩
    · obtain ⟨status, rules⟩ := LoopTask.act?_counts acted
      constructor
      · simp only [Outcomes.observe, present, Option.bind_some, saturated_append, ← agree.status]
        exact status
      · simp only [Outcomes.observe, present, Option.bind_some, saturated_append, ← agree.rules]
        exact rules

/-- **Which steps keep the counter of flushes.** -/
theorem FlushAgrees.step_iff {state next : LoopingState Rules} {past : Outcomes}
    {label : LoopingLabel} (agrees : FlushAgrees state past)
    (stepped : (agent.looping format).step? state label = some next) :
    FlushAgrees next (past.observe state label next) ↔ KeepsCount state label := by
  rcases Machine.beside_cases stepped with ⟨move, pool, rfl, moved, rfl⟩ |
    ⟨move, pool, rfl, moved, rfl⟩
  · rcases Threads.step_cases moved with ⟨arrival, shared, started, rfl, arrived, rfl⟩ |
      ⟨tid, choice, task, shared, after, started, rfl, present, acted, rfl⟩
    · refine iff_of_true ?_ trivial
      change shared.loopFailures % 2 ^ 32 = _
      rw [Arrival.arrive?_loopFailures arrived]
      exact agrees
    · have counts := (Task.act?_acts acted).loopFailures
      have before : state.1.shared.loopFailures % 2 ^ 32 = saturated past.flush := agrees
      simp only [FlushAgrees, KeepsCount, Outcomes.observe, Shared.flushFailures, present,
        Option.bind_some, saturated_append, counts, ← before]
      cases outcome : task.flushOutcome? with
      | none => simp [counted]
      | some success =>
          cases success with
          | true => simp [counted]
          | false =>
              simp only [counted, saturatingSucc, Option.mem_some_iff, forall_eq', ↓reduceIte,
                Bool.false_eq_true]
              omega
  · refine iff_of_true ?_ trivial
    cases move <;> exact agrees

instance (state : LoopingState Rules) (label : LoopingLabel) : Decidable (KeepsCount state label) :=
  match label with
  | .inl (.run tid _) => inferInstanceAs (Decidable
      (∀ success ∈ state.1.tasks[tid]?.bind Task.flushOutcome?,
        if success = true then state.1.shared.flushFailures = 0
        else state.1.shared.flushFailures < 2 ^ 32 - 1))
  | .inl (.arrive _) => .isTrue trivial
  | .inr _ => .isTrue trivial

namespace Agent

/-- **The counters of consecutive failures.** In every run of the agent with its loops the
counters of status pushes and of polls are the saturating numbers of failures since the last
success. That of flushes is as long as no acceptance is recorded over a failure and no count
overflows, and a step breaks it exactly when it does one of these. -/
theorem loop_failures (agent : Agent) (format : RulesFormat Rules) (records : Kind → Records)
    (labels : List LoopingLabel) (state : LoopingState Rules)
    (run : (agent.looping format).Run (agent.initialLooping records) labels state) :
    let past := agent.outcomes format records labels
    state.2.shared.statusFailures = saturated past.status ∧
    state.2.shared.rulesFailures = saturated past.rules ∧
    ((agent.looping format).RunUnder KeepsCount (agent.initialLooping records) labels state →
      state.1.shared.flushFailures = saturated past.flush) ∧
    (state.1.shared.flushFailures = saturated past.flush → ∀ label next,
      (agent.looping format).step? state label = some next →
      (next.1.shared.flushFailures = saturated (past.observe state label next).flush ↔
        KeepsCount state label)) := by
  intro past
  have loops : LoopsAgree state past :=
    run.history_invariant LoopsAgree ⟨rfl, rfl⟩ fun _ _ _ _ agree _ stepped => agree.step stepped
  refine ⟨loops.status, loops.rules, fun keeps => ?_, fun agrees label next stepped => ?_⟩
  · exact keeps.history_invariant FlushAgrees rfl
      fun _ _ _ _ agrees keeps stepped => (agrees.step_iff stepped).mpr keeps
  · exact FlushAgrees.step_iff agrees stepped

/-- A format without rules. -/
def noRules : RulesFormat ℕ := ⟨fun _ => none, id⟩

/-- Send a metric and flush it to a server that cannot be reached. -/
def failedFlush : List LoopingLabel :=
  ([.arrive (.trySend .metrics (sampleMetric 1 [])), offlineAct 0, .arrive .flushBuffer] ++
    List.replicate 24 (offlineAct 1)).map .inl

/-- Flush it to a server that accepts it, after the pause. -/
def acceptedFlush : List LoopingLabel :=
  .inl (.arrive (.elapse 300)) :: .inl (.arrive .flushBuffer) ::
    List.replicate 21 (.inl (sampleAct 2))

/-- A batch fails. -/
theorem loop_failures_of_failed_flush :
    let agent := Agent.sample { AgentConfig.new "test-api-key-1234" with retryAttempts := 0 } []
    ∃ state, (agent.looping noRules).Run (agent.initialLooping fun _ => ∅) failedFlush state ∧
      state.1.shared.flushFailures = 1 ∧
      state.1.shared.flushFailures =
        saturated (agent.outcomes noRules (fun _ => ∅) failedFlush).flush := by
  intro agent
  obtain ⟨state, run, checked⟩ := @Machine.exists_runUnder _ _ (agent.looping noRules) KeepsCount _
    (agent.initialLooping fun _ => ∅) failedFlush
    (fun state => state.1.shared.flushFailures = 1) (by decide +kernel)
  obtain ⟨_, _, keeps, _⟩ := loop_failures agent noRules _ failedFlush state run.run
  exact ⟨state, run.run, of_decide_eq_true checked, keeps run⟩

/-- A batch fails, and the next flush is accepted: the counter stays at one. -/
theorem flush_failures_kept :
    let agent := Agent.sample { AgentConfig.new "test-api-key-1234" with retryAttempts := 0 } []
    let labels := failedFlush ++ acceptedFlush
    ∃ state, (agent.looping noRules).Run (agent.initialLooping fun _ => ∅) labels state ∧
      (state.1.shared.columns .metrics).sent = 1 ∧ state.1.shared.flushFailures = 1 ∧
      saturated (agent.outcomes noRules (fun _ => ∅) labels).flush = 0 := by
  intro agent labels
  obtain ⟨state, run, checked⟩ := @Machine.exists_run _ _ (agent.looping noRules)
    (agent.initialLooping fun _ => ∅) labels
    (fun state => (state.1.shared.columns .metrics).sent = 1 ∧ state.1.shared.flushFailures = 1)
    (by decide +kernel)
  obtain ⟨sent, kept⟩ := of_decide_eq_true checked
  exact ⟨state, run, sent, kept, by decide +kernel⟩

end Agent

end GuardAgent
