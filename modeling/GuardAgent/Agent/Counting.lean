import GuardAgent.Agent.Resend
import GuardAgent.Transport.Acknowledged

/-!
# The counters of sent items

A flush whose batch was accepted counts the whole batch as sent, and one whose batch was
dropped counts nothing. So it counts what the server acknowledged exactly when the replies
that finished parts of the batch were uniform (`Agent.sent_counts`).
-/

namespace GuardAgent

open Foundation

variable {agent : Agent} {kind : Kind}

/-- The growth of the counter of sent items over the steps of one task. -/
def observeSent (kind : Kind) (tid growth : ℕ) (before : Pool Shared Task)
    (label : PoolLabel Arrival Choice) (after : Pool Shared Task) : ℕ :=
  match label with
  | .run other _ =>
      if other = tid then
        growth + ((after.shared.columns kind).sent - (before.shared.columns kind).sent)
      else growth
  | .arrive _ => growth

/-- By how much the steps of one task let the counter of sent items grow in a run. -/
def Agent.sentBy (agent : Agent) (kind : Kind) (tid : ℕ) (source : Pool Shared Task)
    (labels : List (PoolLabel Arrival Choice)) : ℕ :=
  agent.machine.history (observeSent kind tid) 0 source labels

/-- The task is in the flush of this kind, where this holds of it, or past it. -/
inductive Task.Within (kind : Kind) (holds : FlushPhase kind → Prop) : Task → Prop where
  | flush (phase : FlushPhase kind) : holds phase → Within kind holds (.flush kind phase)
  | metrics (phase : FlushPhase .metrics) : kind = .events →
      Within kind holds (.flush .metrics phase)
  | finished : Within kind holds .finished

/-- A relation of the phases of a flush to its growth that all its actions keep. -/
structure GrowthRule (agent : Agent) (holds : FlushPhase kind → ℕ → Prop) : Prop where
  kept : ∀ {choice : Choice} {common common' : Common} {column column' : Column kind}
    {phase after : FlushPhase kind} {growth : ℕ},
    phase.Acts agent choice common column common' column' after → holds phase growth →
    holds after (growth + (column'.sent - column.sent))

/-- An action of a task in or past the flush keeps a bound on what the counter may still grow by. -/
theorem Task.Acts.within {holds : FlushPhase kind → ℕ → Prop} (rule : GrowthRule agent holds)
    {task after : Task} {choice : Choice} {shared shared' : Shared} {started : List Task}
    (acts : task.Acts agent choice shared shared' after started) {growth : ℕ}
    (within : task.Within kind fun phase => holds phase growth) :
    after.Within kind fun phase =>
      holds phase (growth + ((shared'.columns kind).sent - (shared.columns kind).sent)) := by
  cases within with
  | flush phase held =>
      cases acts with
      | flush _ _ after common column acts =>
          rw [Shared.update_self]
          exact .flush after (rule.kept acts held)
      | flushMetrics => exact .metrics _ rfl
      | flushed => exact .finished
  | metrics phase first =>
      cases acts with
      | flush _ _ after common column acts => exact .metrics after first
      | flushed => exact .finished
  | finished => cases acts

/-- What a flush relates to its growth at one phase it relates at every later one. -/
theorem GrowthRule.run {holds : FlushPhase kind → ℕ → Prop} (rule : GrowthRule agent holds)
    {source target : Pool Shared Task} {labels : List (PoolLabel Arrival Choice)}
    (run : agent.machine.Run source labels target) {tid : ℕ} {phase after : FlushPhase kind}
    (starts : source.tasks[tid]? = some (.flush kind phase)) (initial : holds phase 0)
    (ends : target.tasks[tid]? = some (.flush kind after)) :
    holds after (agent.sentBy kind tid source labels) := by
  have kept : ∃ task, target.tasks[tid]? = some task ∧
      task.Within kind fun phase => holds phase (agent.sentBy kind tid source labels) := by
    refine run.history_invariant (fun pool growth => ∃ task, pool.tasks[tid]? = some task ∧
      task.Within kind fun phase => holds phase growth) ⟨_, starts, .flush phase initial⟩ ?_
    intro before growth label next held _ stepped
    obtain ⟨task, present, within⟩ := held
    rcases Threads.step_cases stepped with ⟨arrival, shared, started, rfl, arrived, rfl⟩ |
      ⟨other, choice, moving, shared, after, started, rfl, there, acted, rfl⟩
    · obtain ⟨bound, _⟩ := List.getElem?_eq_some_iff.mp present
      exact ⟨task, (List.getElem?_append_left bound).trans present, within⟩
    · by_cases here : other = tid
      · subst here
        rw [present] at there
        cases there
        refine ⟨after, Pool.getElem?_acted present after, ?_⟩
        simp only [observeSent, ↓reduceIte]
        exact (Task.act?_acts acted).within rule within
      · refine ⟨task, Pool.getElem?_other present (Ne.symm here) after, ?_⟩
        simp only [observeSent, here, ↓reduceIte]
        exact within
  obtain ⟨task, present, within⟩ := kept
  rw [ends] at present
  cases present
  cases within with
  | flush _ held => exact held
  | metrics _ first => cases first

/-- The flush has not learnt the outcome of `send_batch`. -/
def FlushPhase.early : FlushPhase kind → Bool
  | .start => true
  | .gated _ => true
  | .draining => true
  | .stamping _ => true
  | .sending _ _ _ => true
  | _ => false

/-- What the flush will still count as sent, once `send_batch` has returned. -/
def FlushPhase.uncounted : FlushPhase kind → ℕ
  | .sending batch _ (.done .accepted) => batch.items.length
  | .confirming _ sent => sent.getD 0
  | .deleting _ sent => sent.getD 0
  | .recordingSent count => count
  | _ => 0

/-- The call of `send_batch` has returned. -/
def FlushPhase.returned : FlushPhase kind → Bool
  | .sending _ _ (.done _) => true
  | phase => !phase.early

/-- After the confirmation the outcome is known, and only the accepted items are left to count. -/
theorem FlushPhase.afterConfirm_cases (sent : Option ℕ) :
    (afterConfirm sent : FlushPhase kind).early = false ∧
      (afterConfirm sent : FlushPhase kind).uncounted = sent.getD 0 := by
  cases sent with
  | none => exact ⟨rfl, rfl⟩
  | some count => exact ⟨rfl, rfl⟩

/-- A flush that has learnt the outcome has seen the call return. -/
theorem FlushPhase.returned_of_early {phase : FlushPhase kind} (late : phase.early = false) :
    phase.returned = true := by
  cases phase with
  | sending batch trace rest => cases late
  | _ => exact congrArg Bool.not late

/-- Until the flush learns the outcome it counts nothing. -/
theorem early_rule :
    GrowthRule agent fun (phase : FlushPhase kind) growth => phase.early = true → growth = 0 := by
  constructor
  intro choice common common' column column' phase after growth acts none early
  cases acts with
  | confirmedNone keys sent _ =>
      rw [(FlushPhase.afterConfirm_cases sent).1] at early
      cases early
  | deleted live sent =>
      rw [(FlushPhase.afterConfirm_cases sent).1] at early
      cases early
  | read _ => simpa using none rfl
  | passed _ _ => simpa using none rfl
  | drained _ _ => simpa [Column.drain] using none rfl
  | stamped _ _ => simpa using none rfl
  | performed _ _ _ _ => simpa using none rfl
  | _ => cases early

/-- Afterwards the flush counts what the outcome tells it to count. -/
theorem returned_rule (count : ℕ) : GrowthRule agent fun (phase : FlushPhase kind) growth =>
    phase.returned = true ∧ growth + phase.uncounted = count := by
  constructor
  intro choice common common' column column' phase after growth acts held
  obtain ⟨returned, counts⟩ := held
  have quiet (same : column'.sent = column.sent) (still : after.uncounted = phase.uncounted) :
      growth + (column'.sent - column.sent) + after.uncounted = count := by
    rw [same, Nat.sub_self, Nat.add_zero, still]
    exact counts
  cases acts with
  | accepted _ _ => exact ⟨rfl, quiet rfl rfl⟩
  | rejected _ _ _ _ => exact ⟨rfl, quiet rfl rfl⟩
  | failed _ _ _ => exact ⟨rfl, quiet rfl rfl⟩
  | confirmedNone keys sent _ =>
      obtain ⟨late, same⟩ := @FlushPhase.afterConfirm_cases kind sent
      exact ⟨FlushPhase.returned_of_early late, quiet rfl same⟩
  | confirmed _ _ _ _ _ => exact ⟨rfl, quiet rfl rfl⟩
  | deleted live sent =>
      obtain ⟨late, same⟩ := @FlushPhase.afterConfirm_cases kind sent
      exact ⟨FlushPhase.returned_of_early late, quiet rfl same⟩
  | recordedSent recorded _ =>
      refine ⟨rfl, ?_⟩
      rw [Nat.add_sub_cancel_left]
      exact counts
  | requeued batch _ => exact ⟨rfl, quiet rfl rfl⟩
  | recordedFailed _ _ _ _ _ => exact ⟨rfl, quiet rfl rfl⟩
  | _ => cases returned

/-- A run with a flush of one kind: it starts, `send_batch` confirms its batch, and it
finishes. -/
structure ConfirmedFlush (agent : Agent) (kind : Kind) where
  records : Kind → Records
  tid : ℕ
  before : List (PoolLabel Arrival Choice)
  during : List (PoolLabel Arrival Choice)
  after : List (PoolLabel Arrival Choice)
  begun : Pool Shared Task
  returned : Pool Shared Task
  ended : Pool Shared Task
  batch : Batch (Occurrence kind)
  trace : List (TransportEvent (Occurrence kind))
  outcome : SendOutcome
  reached : agent.machine.Run ⟨agent.initial records, []⟩ before begun
  starts : begun.tasks[tid]? = some (.flush kind .start)
  calls : agent.machine.Run begun during returned
  returns : returned.tasks[tid]? = some (.flush kind (.sending batch trace (.done outcome)))
  confirmed : outcome.isConfirmed = true
  finishes : agent.machine.Run returned after ended
  ends : ended.tasks[tid]? = some (.flush kind .finished)

namespace ConfirmedFlush

/-- By how much the flush lets the counter of sent items grow. -/
def growth (flush : ConfirmedFlush agent kind) : ℕ :=
  agent.sentBy kind flush.tid flush.begun (flush.during ++ flush.after)

/-- An accepted batch is counted whole, a dropped one not at all. -/
theorem growth_eq (flush : ConfirmedFlush agent kind) :
    flush.growth = if flush.outcome = .accepted then flush.batch.items.length else 0 := by
  have opening := early_rule.run flush.calls flush.starts (fun _ => rfl) flush.returns rfl
  have closing :=
    (returned_rule _).run flush.finishes flush.returns ⟨rfl, Nat.zero_add _⟩ flush.ends
  have counted : flush.growth =
      (FlushPhase.sending flush.batch flush.trace (.done flush.outcome)).uncounted := by
    rw [growth, Agent.sentBy, flush.calls.history_append]
    change agent.machine.history _ (agent.sentBy kind flush.tid flush.begun flush.during) _ _ = _
    rw [opening]
    exact closing.2
  rw [counted]
  have confirmed := flush.confirmed
  cases outcome : flush.outcome with
  | accepted => rfl
  | permanentDrop statusCode detail => rfl
  | failed error =>
      rw [outcome] at confirmed
      cases confirmed

/-- The flush of metrics that a task is in. -/
def phase? (tid : ℕ) (pool : Pool Shared Task) : Option (FlushPhase .metrics) :=
  match pool.tasks[tid]? with
  | some (.flush .metrics phase) => some phase
  | _ => none

/-- The phase that is found is that of the metrics flush of this task. -/
theorem of_phase? {tid : ℕ} {pool : Pool Shared Task} {phase : FlushPhase .metrics}
    (found : phase? tid pool = some phase) : pool.tasks[tid]? = some (.flush .metrics phase) := by
  unfold phase? at found
  split at found
  · next there =>
      cases found
      exact there
  · cases found

/-- Such a flush can be exhibited by performing its run. -/
theorem exists_of_run (agent : Agent) (records : Kind → Records) (tid : ℕ)
    (before during after : List (PoolLabel Arrival Choice))
    (check : ℕ → Batch (Occurrence .metrics) → List (TransportEvent (Occurrence .metrics)) → Bool)
    (performed : (agent.machine.run? ⟨agent.initial records, []⟩ before).any (fun begun =>
      ((phase? tid begun).any fun phase => match phase with
        | .start => true
        | _ => false) &&
      (agent.machine.run? begun during).any fun returned =>
        ((phase? tid returned).any fun phase => match phase with
          | .sending batch trace (.done outcome) => outcome.isConfirmed &&
              check (agent.sentBy .metrics tid begun (during ++ after)) batch trace
          | _ => false) &&
        (agent.machine.run? returned after).any fun ended =>
          (phase? tid ended).any fun phase => match phase with
            | .finished => true
            | _ => false) = true) :
    ∃ flush : ConfirmedFlush agent .metrics,
      check flush.growth flush.batch flush.trace = true := by
  obtain ⟨begun, reached, first⟩ := Machine.exists_run performed
  obtain ⟨starting, first⟩ := (Bool.and_eq_true ..).mp first
  obtain ⟨phase₁, starts, started⟩ := (Option.any_eq_true ..).mp starting
  obtain ⟨returned, calls, second⟩ := Machine.exists_run first
  obtain ⟨returning, second⟩ := (Bool.and_eq_true ..).mp second
  obtain ⟨phase₂, returns, confirmed⟩ := (Option.any_eq_true ..).mp returning
  obtain ⟨ended, finishes, third⟩ := Machine.exists_run second
  obtain ⟨phase₃, ends, finished⟩ := (Option.any_eq_true ..).mp third
  split at started
  · split at confirmed
    · next batch trace outcome =>
        split at finished
        · obtain ⟨confirmed, checked⟩ := (Bool.and_eq_true ..).mp confirmed
          exact ⟨⟨records, tid, before, during, after, begun, returned, ended, batch, trace,
            outcome, reached, of_phase? starts, calls, of_phase? returns, confirmed, finishes,
            of_phase? ends⟩, checked⟩
        · cases finished
    · cases confirmed
  · cases started

end ConfirmedFlush

namespace Agent

/-- **A flush counts as sent what the server acknowledged**, in every run, exactly when the
replies that finished parts of its batch were all acknowledgements or none was. -/
theorem sent_counts (agent : Agent) (kind : Kind) (flush : ConfirmedFlush agent kind) :
    flush.growth = (delivered agent.crates flush.trace flush.batch.items).length ↔
      Uniform agent.crates flush.trace := by
  obtain ⟨booked, traced⟩ := agent.traced flush.records (flush.reached.trans flush.calls) kind
  rw [flush.growth_eq]
  apply HttpTransport.sendBatch_counts ⟨kind, flush.batch.items⟩ (booked.nodup_batch flush.returns)
  · exact traced.reached flush.tid flush.batch flush.trace _ flush.returns
  · exact flush.confirmed

/-- Two items are too large together. When the first is rejected and the second accepted,
both are counted; the other way around, none is. -/
theorem sent_miscounts :
    let agent := Agent.sample { AgentConfig.new "test-api-key-1234" with retryAttempts := 0 } []
    (∃ flush : ConfirmedFlush agent .metrics, flush.growth = 2 ∧
      (delivered agent.crates flush.trace flush.batch.items).length = 1) ∧
    ∃ flush : ConfirmedFlush agent .metrics, flush.growth = 0 ∧
      (delivered agent.crates flush.trace flush.batch.items).length = 1 := by
  intro agent
  let act (first second tid : ℕ) : PoolLabel Arrival Choice :=
    .run tid (.sample 1700000000000000000 .ok
      (HttpReply.single fun serial => if serial = 0 then first else second))
  let before (first second : ℕ) : List (PoolLabel Arrival Choice) :=
    [.arrive (.trySend .metrics (sampleMetric 1 [])), act first second 0,
      .arrive (.trySend .metrics (sampleMetric 2 [])), act first second 1,
      .arrive .flushBuffer] ++ List.replicate 5 (act first second 2)
  constructor
  · obtain ⟨flush, checked⟩ := ConfirmedFlush.exists_of_run agent (fun _ => ∅) 2 (before 400 201)
      (List.replicate 30 (act 400 201 2)) (List.replicate 3 (act 400 201 2))
      (fun growth batch trace => growth = 2 ∧
        (delivered agent.crates trace batch.items).length = 1) (by decide +kernel)
    exact ⟨flush, of_decide_eq_true checked⟩
  · obtain ⟨flush, checked⟩ := ConfirmedFlush.exists_of_run agent (fun _ => ∅) 2 (before 201 400)
      (List.replicate 30 (act 201 400 2)) (List.replicate 2 (act 201 400 2))
      (fun growth batch trace => growth = 0 ∧
        (delivered agent.crates trace batch.items).length = 1) (by decide +kernel)
    exact ⟨flush, of_decide_eq_true checked⟩

end Agent

end GuardAgent
