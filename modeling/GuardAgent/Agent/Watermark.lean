import GuardAgent.Agent.Conservation

/-!
# The watermark of a send and that of a flush

A send starts a gated flush when the buffer of its own kind meets the watermark, while a gated
flush and the documentation look at both buffers together. The two tests agree on a send
exactly when its own buffer meets the watermark or both together do not
(`Agent.watermarks_agree`).
-/

namespace GuardAgent

open Foundation

variable {agent : Agent}

/-- Items of both kinds in the buffers. -/
def Shared.occupancy (shared : Shared) : ℕ :=
  (shared.columns .events).buffer.length + (shared.columns .metrics).buffer.length

def Task.isGatedFlush : Task → Bool
  | .gatedFlush => true
  | _ => false

/-- An accepted send: the occupancy of its own buffer and of both after the insert, and whether
it started a gated flush. -/
structure AcceptedSend where
  own : ℕ
  combined : ℕ
  spawned : Bool
  deriving DecidableEq

/-- The send started a gated flush when its own buffer met the watermark. -/
def AcceptedSend.OwnWatermark (agent : Agent) (accepted : AcceptedSend) : Prop :=
  (accepted.spawned = true ↔ agent.watermarkThreshold ≤ accepted.own) ∧
    accepted.own ≤ accepted.combined

/-- The send that a step of a running agent accepts. -/
def acceptedSend? (before : Pool Shared Task) (label : PoolLabel Arrival Choice)
    (after : Pool Shared Task) : Option AcceptedSend :=
  match label with
  | .arrive _ => none
  | .run tid _ =>
      match after.tasks[tid]? with
      | some (.send kind (.returned (.ok ()))) =>
          if after.shared.running then
            some ⟨(after.shared.columns kind).buffer.length, after.shared.occupancy,
              (after.tasks.drop before.tasks.length).any Task.isGatedFlush⟩
          else none
      | _ => none

namespace Agent

variable (agent) in
/-- The sends that a run accepts while the agent is running, in turn. -/
def acceptedSends (records : Kind → Records) (labels : List (PoolLabel Arrival Choice)) :
    List AcceptedSend :=
  agent.machine.history
    (fun past before label after => past ++ (acceptedSend? before label after).toList) []
    ⟨agent.initial records, []⟩ labels

/-- One buffer has at most as many items as both together. -/
theorem own_le_occupancy (shared : Shared) (kind : Kind) :
    (shared.columns kind).buffer.length ≤ shared.occupancy := by
  cases kind with
  | events => exact Nat.le_add_right _ _
  | metrics => exact Nat.le_add_left _ _

/-- A push starts a gated flush when its own buffer meets the watermark. -/
theorem startedByPush_any {kind : Kind} {common : Common} {pushed : Column kind}
    (running : common.running = true) :
    (startedByPush agent common pushed).any Task.isGatedFlush = true ↔
      agent.watermarkThreshold ≤ pushed.buffer.length := by
  by_cases meets : agent.watermarkThreshold ≤ pushed.buffer.length
  · rw [startedByPush, if_pos ⟨meets, running⟩]
    exact iff_of_true rfl meets
  · rw [startedByPush, if_neg fun both => meets both.1]
    exact iff_of_false Bool.false_ne_true meets

/-- What a send that has just been accepted did. -/
theorem acceptedSend?_ownWatermark {before after : Pool Shared Task}
    {label : PoolLabel Arrival Choice} {accepted : AcceptedSend}
    (stepped : agent.machine.step? before label = some after)
    (observed : acceptedSend? before label after = some accepted) :
    accepted.OwnWatermark agent := by
  rcases Threads.step_cases stepped with ⟨arrival, shared, started, rfl, arrived, rfl⟩ |
    ⟨tid, choice, task, shared, acted, started, rfl, present, moved, rfl⟩
  · cases observed
  · simp only [acceptedSend?, Pool.getElem?_acted present] at observed
    split at observed
    · next kind returned =>
        obtain rfl := Option.some.inj returned
        obtain ⟨running, found⟩ := Option.ite_none_right_eq_some.mp observed
        obtain rfl := Option.some.inj found
        refine ⟨?_, own_le_occupancy shared kind⟩
        have begun : (before.tasks.set tid (.send kind (.returned (.ok ()))) ++ started).drop
            before.tasks.length = started := by
          rw [← List.length_set, List.drop_left]
        rw [begun]
        -- Only the two pushes end in a send that has returned.
        generalize same : Task.send kind (.returned (.ok ())) = after at moved
        cases Task.act?_acts moved with
        | send _ phase _ common column _ acts =>
            cases same
            rw [Shared.update_self]
            cases acts with
            | push item free room handler => exact startedByPush_any running
            | pushed item key => exact startedByPush_any running
        | cleared _ => split at same <;> cases same
        | clearedNamespace other => cases other <;> cases same
        | start _ => split at same <;> cases same
        | reload _ => split at same <;> cases same
        | _ => cases same
    · cases observed

/-- **When the two watermark tests agree.** An accepted send of a running agent starts a gated
flush if and only if both buffers together meet the watermark, exactly when its own buffer
meets it alone or both together do not. -/
theorem watermarks_agree (agent : Agent) (records : Kind → Records)
    (labels : List (PoolLabel Arrival Choice)) (pool : Pool Shared Task)
    (run : agent.machine.Run ⟨agent.initial records, []⟩ labels pool) :
    ∀ accepted ∈ agent.acceptedSends records labels,
      ((accepted.spawned = true ↔ agent.watermarkThreshold ≤ accepted.combined) ↔
        agent.watermarkThreshold ≤ accepted.own ∨
          accepted.combined < agent.watermarkThreshold) := by
  have own : ∀ accepted ∈ agent.acceptedSends records labels, accepted.OwnWatermark agent := by
    refine run.history_invariant (fun _ past => ∀ accepted ∈ past,
      AcceptedSend.OwnWatermark agent accepted) (fun _ none => (List.not_mem_nil none).elim) ?_
    intro before past label after agreed _ stepped accepted member
    rcases List.mem_append.mp member with earlier | now
    · exact agreed accepted earlier
    · exact acceptedSend?_ownWatermark stepped (Option.mem_toList.mp now)
  intro accepted member
  obtain ⟨spawned, below⟩ := own accepted member
  have below : (accepted.own : ℚ) ≤ accepted.combined := by exact_mod_cast below
  rw [spawned]
  constructor
  · intro agree
    rcases le_or_gt agent.watermarkThreshold accepted.combined with meets | short
    · exact Or.inl (agree.mpr meets)
    · exact Or.inr short
  · rintro (alone | short)
    · exact iff_of_true alone (alone.trans below)
    · exact iff_of_false (not_le.mpr (below.trans_lt short)) (not_le.mpr short)

/-- The second item of a buffer of two meets the watermark with its own kind. -/
theorem watermarks_agree_at_capacity :
    let agent := Agent.sample { AgentConfig.new "test-api-key-1234" with bufferSize := 2 } []
    let accepted : AcceptedSend := ⟨2, 2, true⟩
    ∃ labels pool, agent.machine.Run ⟨agent.initial fun _ => ∅, []⟩ labels pool ∧
      accepted ∈ agent.acceptedSends (fun _ => ∅) labels ∧
      (accepted.spawned = true ↔ agent.watermarkThreshold ≤ accepted.combined) := by
  intro agent accepted
  let labels := [.arrive .start, offlineAct 0, .arrive (.trySend .metrics (sampleMetric 1 [])),
    offlineAct 1, .arrive (.trySend .metrics (sampleMetric 2 [])), offlineAct 2]
  have sent : accepted ∈ agent.acceptedSends (fun _ => ∅) labels := by decide +kernel
  obtain ⟨pool, run, _⟩ := @Machine.exists_run _ _ agent.machine
    ⟨agent.initial fun _ => ∅, []⟩ labels (fun _ => true) (by decide +kernel)
  exact ⟨labels, pool, run, sent,
    (watermarks_agree agent _ labels pool run accepted sent).mpr (Or.inl (by decide +kernel))⟩

/-- An event and a metric together meet the watermark of two, and neither starts a flush. -/
theorem watermarks_disagree :
    let agent := Agent.sample { AgentConfig.new "test-api-key-1234" with
      bufferSize := 2, highWatermarkRatio := 1 } []
    let accepted : AcceptedSend := ⟨1, 2, false⟩
    ∃ labels pool, agent.machine.Run ⟨agent.initial fun _ => ∅, []⟩ labels pool ∧
      accepted ∈ agent.acceptedSends (fun _ => ∅) labels ∧
      ¬ (accepted.spawned = true ↔ agent.watermarkThreshold ≤ accepted.combined) := by
  intro agent accepted
  let labels := [.arrive .start, offlineAct 0,
    .arrive (.trySend .events (SecurityEvent.new "event-1" "2026-01-01T00:00:00Z" "ip_banned")),
    offlineAct 1, .arrive (.trySend .metrics (sampleMetric 1 [])), offlineAct 2]
  obtain ⟨pool, run, _⟩ := @Machine.exists_run _ _ agent.machine
    ⟨agent.initial fun _ => ∅, []⟩ labels (fun _ => true) (by decide +kernel)
  exact ⟨labels, pool, run, by decide +kernel, by decide +kernel⟩

end Agent

end GuardAgent
