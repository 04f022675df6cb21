import GuardAgent.Agent.Conservation
import GuardAgent.Agent.Permits
import Mathlib.Algebra.Order.Field.Basic
import Mathlib.Algebra.Order.Ring.Rat
import Mathlib.Tactic.Linarith

/-!
# The backoff of one kind

A flush reads the gate of its kind and later drains the buffer; when its batch has failed it
requeues the batch and only after that closes the gate, in a lock scope of its own. So another
flush may stand past the open gate when a batch is requeued, or may read the gate before the
failure is recorded. In every run without these two races no flush drains items before the
failure of every requeued batch has been recorded and its backoff has passed
(`Agent.backoff`). With one permit there are none (`Agent.unraced_of_single`); with two a
flush may drain in the backoff (`Agent.drain_through_closed_gate`) and even before it begins
(`Agent.drain_before_record`).
-/

namespace GuardAgent

open Foundation

variable {agent : Agent} {kind : Kind}

/-- The flush stands between reading its gate and draining. -/
def FlushPhase.passing : FlushPhase kind → Bool
  | .gated _ => true
  | .draining => true
  | _ => false

/-- The task is a flush of this kind that stands between reading its gate and draining. -/
def Task.passes (kind : Kind) : Task → Bool
  | .flush other phase => decide (other = kind) && phase.passing
  | _ => false

/-- The kind for which the next action of the task records an outcome, and whether its batch
was accepted. -/
def Task.records? : Task → Option (Kind × Bool)
  | .flush kind (.recordingSent _) => some (kind, true)
  | .flush kind (.recordingFailed _ _) => some (kind, false)
  | _ => none

/-- The task is a flush of this kind that has requeued its batch and not yet recorded the
failure. -/
def Task.owes (kind : Kind) (task : Task) : Bool :=
  decide (task.records? = some (kind, false))

/-- The kind whose gate the next action of the task reads. -/
def Task.reads? : Task → Option Kind
  | .flush kind .start => some kind
  | _ => none

/-- The kind of the batch that the next action of the task requeues. -/
def Task.requeues? : Task → Option Kind
  | .flush kind (.requeueing _) => some kind
  | _ => none

/-- When a batch is requeued, no flush of its kind stands between its gate and its drain; and
no flush reads its gate while the failure of a requeued batch of its kind is not recorded. -/
def Agent.Unraced (pool : Pool Shared Task) (label : PoolLabel Arrival Choice) : Prop :=
  match label with
  | .run tid _ => ∀ task ∈ pool.tasks[tid]?,
      (∀ kind ∈ task.requeues?, ∀ other ∈ pool.tasks, other.passes kind = false) ∧
        ∀ kind ∈ task.reads?, ∀ other ∈ pool.tasks, other.owes kind = false
  | .arrive _ => True

instance (pool : Pool Shared Task) (label : PoolLabel Arrival Choice) :
    Decidable (Agent.Unraced pool label) :=
  match label with
  | .run tid _ => inferInstanceAs (Decidable (∀ task ∈ pool.tasks[tid]?,
      (∀ kind ∈ task.requeues?, ∀ other ∈ pool.tasks, other.passes kind = false) ∧
        ∀ kind ∈ task.reads?, ∀ other ∈ pool.tasks, other.owes kind = false))
  | .arrive _ => .isTrue trivial

/-- The failures of this kind after the next action of a task. -/
def Task.observed (kind : Kind) (times : List ℚ) (now : ℚ) (task : Task) : List ℚ :=
  match task.records? with
  | some (other, accepted) =>
      if other = kind then
        if accepted then [] else times ++ [now]
      else times
  | none => times

/-- The times of the failures of this kind since its last acceptance. -/
def observeFailures (kind : Kind) (times : List ℚ) (before : Pool Shared Task)
    (label : PoolLabel Arrival Choice) (_after : Pool Shared Task) : List ℚ :=
  match label with
  | .run tid _ =>
      (before.tasks[tid]?).elim times fun task => task.observed kind times before.shared.now
  | .arrive _ => times

/-- When the consecutive failures of this kind were recorded in a run. -/
def Agent.failures (agent : Agent) (kind : Kind) (source : Pool Shared Task)
    (labels : List (PoolLabel Arrival Choice)) : List ℚ :=
  agent.machine.history (observeFailures kind) [] source labels

/-- How long the flushes of a kind pause after this many earlier consecutive failures. -/
def Agent.pause (agent : Agent) (earlier : ℕ) : ℚ :=
  min (agent.config.flushInterval * 2 ^ earlier) partialFailureMaxBackoffSecs

/-- More failures ask for a pause at least as long. -/
theorem Agent.pause_mono (agent : Agent) {fewer more : ℕ} (least : fewer ≤ more) :
    agent.pause fewer ≤ agent.pause more := by
  apply min_le_min_right
  apply mul_le_mul_of_nonneg_left
  · exact pow_le_pow_right₀ one_le_two least
  · exact Nat.cast_nonneg _

/-- From nine earlier failures on the pause no longer grows. -/
theorem Agent.pause_of_many (agent : Agent) {earlier : ℕ} (many : 9 ≤ earlier)
    (positive : agent.config.flushInterval ≠ 0) :
    agent.pause earlier = partialFailureMaxBackoffSecs := by
  apply min_eq_right
  have interval : (1 : ℚ) ≤ agent.config.flushInterval :=
    Nat.one_le_cast.mpr (Nat.one_le_iff_ne_zero.mpr positive)
  have power : (2 : ℚ) ^ 9 ≤ 2 ^ earlier := pow_le_pow_right₀ one_le_two many
  calc partialFailureMaxBackoffSecs ≤ 1 * 2 ^ 9 := by norm_num [partialFailureMaxBackoffSecs]
    _ ≤ agent.config.flushInterval * 2 ^ earlier :=
      mul_le_mul interval power (by norm_num) (zero_le_one.trans interval)

/-- The streak stops at `u32::MAX`, and the pause is that of the failures all the same. -/
theorem Agent.pause_of_streak (agent : Agent) (earlier : ℕ) :
    calculateBackoffDelay (min (earlier + 1) (2 ^ 32 - 1) - 1) agent.config.flushInterval
      partialFailureMaxBackoffSecs = agent.pause earlier := by
  change agent.pause (min (earlier + 1) (2 ^ 32 - 1) - 1) = _
  by_cases short : earlier + 1 ≤ 2 ^ 32 - 1
  · rw [min_eq_left short, Nat.add_sub_cancel]
  · have long : 9 ≤ min (earlier + 1) (2 ^ 32 - 1) - 1 := by omega
    by_cases zero : agent.config.flushInterval = 0
    · unfold pause
      rw [zero, Nat.cast_zero, zero_mul, zero_mul]
    · rw [agent.pause_of_many long zero, agent.pause_of_many (by omega) zero]

/-- At this time the pauses after all these failures are over. -/
def Agent.Rested (agent : Agent) (times : List ℚ) (now : ℚ) : Prop :=
  ∀ k (bound : k < times.length), times[k] + agent.pause k ≤ now

/-- The gate opens only then. -/
def Agent.GatedAfter (agent : Agent) (times : List ℚ) (gate : Option ℚ) : Prop :=
  times = [] ∨ ∃ opens, gate = some opens ∧ agent.Rested times opens

/-- What a flush knows about the failures of this kind. -/
def Task.Waited (agent : Agent) (kind : Kind) (times : List ℚ) (now : ℚ) : Task → Prop
  | .flush other (.gated gate) => other = kind → agent.GatedAfter times gate
  | .flush other .draining => other = kind → agent.Rested times now
  | _ => True

/-- A task that has not begun is not past its gate. -/
theorem Task.Fresh.not_passes {task : Task} (fresh : task.Fresh kind) :
    ¬ task.passes kind = true := by
  intro passes
  cases task with
  | flush other phase =>
      obtain ⟨here, passing⟩ := (Bool.and_eq_true ..).mp passes
      cases phase with
      | start => cases passing
      | _ => cases fresh (of_decide_eq_true here)
  | _ => cases passes

/-- Nor does it owe a record. -/
theorem Task.Fresh.not_owes {task : Task} (fresh : task.Fresh kind) :
    ¬ task.owes kind = true := by
  intro owed
  have records := of_decide_eq_true owed
  cases task with
  | flush other phase =>
      cases phase with
      | recordingFailed count evicted =>
          cases records
          cases fresh rfl
      | _ => cases records
  | _ => cases records

namespace Agent.Rested

variable {times : List ℚ} {now later : ℚ}

/-- Without failures there is no pause to wait for. -/
theorem nil : agent.Rested [] now := fun _ bound => (Nat.not_lt_zero _ bound).elim

/-- Pauses that are over stay over. -/
theorem mono (rested : agent.Rested times now) (passes : now ≤ later) :
    agent.Rested times later := fun k bound => (rested k bound).trans passes

/-- The pause after the newest failure is over last. -/
theorem snoc (past : ∀ time ∈ times, time ≤ now) :
    agent.Rested (times ++ [now]) (now + agent.pause times.length) := by
  intro k bound
  rw [List.length_append, List.length_singleton] at bound
  rcases Nat.lt_succ_iff_lt_or_eq.mp bound with earlier | rfl
  · rw [List.getElem_append_left earlier]
    exact add_le_add (past _ (List.getElem_mem earlier)) (agent.pause_mono earlier.le)
  · rw [List.getElem_concat_length rfl]

/-- Where the gate is open, the pauses before it are over. -/
theorem of_gated {gate : Option ℚ} (gated : agent.GatedAfter times gate)
    (opened : ∀ opens ∈ gate, opens ≤ now) : agent.Rested times now := by
  rcases gated with rfl | ⟨opens, rfl, rested⟩
  · exact nil
  · exact rested.mono (opened opens rfl)

end Agent.Rested

namespace Task.Waited

variable {times : List ℚ} {now later : ℚ} {task : Task}

/-- What a flush knows of the failures stays true as time passes. -/
theorem mono (waited : task.Waited agent kind times now) (passes : now ≤ later) :
    task.Waited agent kind times later := by
  unfold Task.Waited at waited ⊢
  split at waited
  · exact waited
  · exact fun same => (waited same).mono passes
  · trivial

/-- A flush that is not between its gate and its drain has nothing to know. -/
theorem of_not_passes (elsewhere : ¬ task.passes kind = true) :
    task.Waited agent kind times now := by
  unfold Task.Waited
  split
  · intro same
    subst same
    simp [Task.passes, FlushPhase.passing] at elsewhere
  · intro same
    subst same
    simp [Task.passes, FlushPhase.passing] at elsewhere
  · trivial

/-- After an acceptance there are no failures to know about. -/
theorem nil : task.Waited agent kind [] now := by
  unfold Task.Waited
  split
  · exact fun _ => Or.inl rfl
  · exact fun _ => .nil
  · trivial

/-- A task that has not begun has nothing to know. -/
theorem of_fresh (fresh : task.Fresh kind) : task.Waited agent kind times now :=
  of_not_passes fresh.not_passes

end Task.Waited

/-- No flush stands between its gate and its drain while another owes a record. -/
def Apart (kind : Kind) (tasks : List Task) : Prop :=
  ∀ task ∈ tasks, task.passes kind = true → ∀ other ∈ tasks, other.owes kind = false

/-- A flush that owes a record is past its drain. -/
theorem Task.not_passes_of_owes {task : Task} (owed : task.owes kind = true) :
    ¬ task.passes kind = true := by
  have records := of_decide_eq_true owed
  cases task with
  | flush other phase =>
      cases phase with
      | recordingFailed count evicted =>
          intro passes
          cases ((Bool.and_eq_true ..).mp passes).2
      | _ => cases records
  | _ => cases records

/-- While a flush is past its gate no task owes a record. -/
theorem Apart.not_owes {tasks : List Task} {task other : Task} (apart : Apart kind tasks)
    (member : task ∈ tasks) (passes : task.passes kind = true) (member' : other ∈ tasks) :
    ¬ other.owes kind = true :=
  Bool.eq_false_iff.mp (apart task member passes other member')

section FlushPhase

variable {phase after : FlushPhase kind} {choice : Choice} {common common' : Common}
  {column column' : Column kind}

/-- A flush comes past its gate by reading it. -/
theorem FlushPhase.Acts.passing
    (acts : phase.Acts agent choice common column common' column' after)
    (passing : after.passing = true) : phase.passing = true ∨ phase = .start := by
  cases acts with
  | read _ => exact Or.inr rfl
  | passed _ _ => exact Or.inl rfl
  | confirmedNone _ sent _ => cases sent <;> cases passing
  | deleted _ sent => cases sent <;> cases passing
  | _ => cases passing

/-- A flush comes to owe a record by requeueing its batch. -/
theorem FlushPhase.Acts.requeueing {count : ℕ} {evicted : List (Option String)}
    (acts : phase.Acts agent choice common column common' column' after)
    (owing : after = .recordingFailed count evicted) : ∃ batch, phase = .requeueing batch := by
  cases acts with
  | requeued batch _ => exact ⟨batch, rfl⟩
  | confirmedNone _ sent _ => cases sent <;> cases owing
  | deleted _ sent => cases sent <;> cases owing
  | _ => cases owing

end FlushPhase

/-- A task of the kind comes past the gate by reading it. -/
theorem Task.ActsOn.passes {task after : Task} {choice : Choice} {shared shared' : Shared}
    (acts : task.ActsOn agent choice shared kind shared' after)
    (passes : after.passes kind = true) :
    task.passes kind = true ∨ task.reads? = some kind := by
  have flushing (phase : FlushPhase kind) :
      (Task.flush kind phase).passes kind = phase.passing := by
    rw [Task.passes, decide_eq_true rfl, Bool.true_and]
  cases acts with
  | flush phase after acts =>
      rw [flushing] at passes ⊢
      exact (acts.passing passes).imp_right fun start => by rw [start]; rfl
  | send _ _ _ _ => cases passes
  | load _ _ _ => cases passes
  | wipe _ _ fresh => exact (fresh.not_passes passes).elim
  | clear _ _ _ fresh => exact (fresh.not_passes passes).elim
  | other _ _ _ _ fresh => exact (fresh.not_passes passes).elim

/-- A task comes to owe a record of the kind by requeueing a batch of it. -/
theorem Task.ActsOn.owes {task after : Task} {choice : Choice} {shared shared' : Shared}
    (acts : task.ActsOn agent choice shared kind shared' after)
    (owed : after.owes kind = true) : task.requeues? = some kind := by
  have records := of_decide_eq_true owed
  cases acts with
  | flush phase after acts =>
      cases after with
      | recordingFailed count evicted =>
          obtain ⟨batch, rfl⟩ := acts.requeueing rfl
          rfl
      | _ => cases records
  | send _ _ _ _ => cases records
  | load _ _ _ => cases records
  | wipe _ _ fresh => exact (fresh.not_owes owed).elim
  | clear _ _ _ fresh => exact (fresh.not_owes owed).elim
  | other _ _ _ _ fresh => exact (fresh.not_owes owed).elim

/-- **A step keeps them apart**, unless a batch is requeued or a gate is read in between. -/
theorem Apart.step {pool next : Pool Shared Task} {label : PoolLabel Arrival Choice}
    (apart : Apart kind pool.tasks) (unraced : Agent.Unraced pool label)
    (stepped : agent.machine.step? pool label = some next) : Apart kind next.tasks := by
  intro first member passes second member'
  refine Bool.eq_false_iff.mpr fun owed => ?_
  rcases Agent.step_on stepped kind with
    ⟨_, started, rfl, tasks, fresh, _⟩ |
    ⟨tid, choice, task, after, started, rfl, present, tasks, fresh, _, acts⟩
  · rw [tasks] at member member'
    rcases List.mem_append.mp member with old | new
    · rcases List.mem_append.mp member' with old' | new'
      · exact apart.not_owes old passes old' owed
      · exact (fresh second new').not_owes owed
    · exact (fresh first new).not_passes passes
  · obtain ⟨requeues, reads⟩ := unraced task present
    rw [tasks] at member member'
    rcases Pool.mem_acted_cases member with rfl | old | new
    · rcases Pool.mem_acted_cases member' with rfl | old' | new'
      · exact Task.not_passes_of_owes owed passes
      · rcases acts.passes passes with before | read
        · exact apart.not_owes (List.mem_of_getElem? present) before old' owed
        · exact Bool.eq_false_iff.mp (reads kind read second old') owed
      · exact (fresh second new').not_owes owed
    · rcases Pool.mem_acted_cases member' with rfl | old' | new'
      · exact Bool.eq_false_iff.mp (requeues kind (acts.owes owed) first old) passes
      · exact apart.not_owes old passes old' owed
      · exact (fresh second new').not_owes owed
    · exact (fresh first new).not_passes passes

/-- The gate and the streak of one kind tell of its failures, and the flushes past the gate
have waited for them. -/
structure Paced (agent : Agent) (kind : Kind) (pool : Pool Shared Task) (times : List ℚ) :
    Prop where
  streak : (pool.shared.columns kind).failureStreak = min times.length (2 ^ 32 - 1)
  past : ∀ time ∈ times, time ≤ pool.shared.now
  gate : agent.GatedAfter times (pool.shared.columns kind).retryAfter
  waited : ∀ task ∈ pool.tasks, task.Waited agent kind times pool.shared.now
  apart : Apart kind pool.tasks

namespace Paced

variable {pool next : Pool Shared Task} {times : List ℚ}

/-- A new agent has no failures and no flushes. -/
theorem initial (records : Kind → Records) :
    Paced agent kind ⟨agent.initial records, []⟩ [] where
  streak := rfl
  past := fun _ member => (List.not_mem_nil member).elim
  gate := Or.inl rfl
  waited := fun _ member => (List.not_mem_nil member).elim
  apart := fun _ member => (List.not_mem_nil member).elim

/-- A step that leaves the streak and the gate as they are. -/
theorem keep (paced : Paced agent kind pool times)
    (streak : (next.shared.columns kind).failureStreak = (pool.shared.columns kind).failureStreak)
    (gate : (next.shared.columns kind).retryAfter = (pool.shared.columns kind).retryAfter)
    (passes : pool.shared.now ≤ next.shared.now)
    (others : ∀ task ∈ next.tasks,
      task ∈ pool.tasks ∨ task.Waited agent kind times pool.shared.now)
    (apart : Apart kind next.tasks) : Paced agent kind next times where
  streak := streak.trans paced.streak
  past := fun time member => (paced.past time member).trans passes
  gate := by
    rw [gate]
    exact paced.gate
  waited := by
    intro task member
    rcases others task member with old | new
    · exact (paced.waited task old).mono passes
    · exact new.mono passes
  apart := apart

end Paced

/-- What a flush does to the streak and the gate, and what it knows afterwards, unless it
records an outcome. -/
theorem FlushPhase.Acts.paced {phase after : FlushPhase kind} {choice : Choice}
    {common common' : Common} {column column' : Column kind} {times : List ℚ}
    (acts : phase.Acts agent choice common column common' column' after)
    (gate : agent.GatedAfter times column.retryAfter)
    (waited : (Task.flush kind phase).Waited agent kind times common.now)
    (silent : (Task.flush kind phase).records? = none) :
    column'.failureStreak = column.failureStreak ∧ column'.retryAfter = column.retryAfter ∧
      (Task.flush kind after).Waited agent kind times common.now := by
  cases acts with
  | read _ => exact ⟨rfl, rfl, fun _ => gate⟩
  | passed opens opened => exact ⟨rfl, rfl, fun _ => .of_gated (waited rfl) opened⟩
  | confirmedNone _ sent _ => cases sent <;> exact ⟨rfl, rfl, trivial⟩
  | deleted _ sent => cases sent <;> exact ⟨rfl, rfl, trivial⟩
  | recordedSent _ _ => cases silent
  | recordedFailed _ _ _ _ _ => cases silent
  | _ => exact ⟨rfl, rfl, trivial⟩

/-- A send leaves the streak and the gate. -/
theorem SendPhase.Acts.steady {phase after : SendPhase kind} {choice : Choice}
    {common common' : Common} {column column' : Column kind} {started : List Task}
    (acts : phase.Acts agent choice common column common' column' after started) :
    column'.failureStreak = column.failureStreak ∧ column'.retryAfter = column.retryAfter := by
  cases acts <;> exact ⟨rfl, rfl⟩

/-- So does a reload. -/
theorem LoadPhase.Acts.steady {phase after : LoadPhase kind} {choice : Choice} {common : Common}
    {column column' : Column kind} (acts : phase.Acts agent choice common column column' after) :
    column'.failureStreak = column.failureStreak ∧ column'.retryAfter = column.retryAfter := by
  cases acts <;> exact ⟨rfl, rfl⟩

/-- An acceptance opens the gate. -/
theorem FlushPhase.Acts.of_recordingSent {after : FlushPhase kind} {count : ℕ} {choice : Choice}
    {common common' : Common} {column column' : Column kind}
    (acts : (recordingSent count).Acts agent choice common column common' column' after) :
    column'.failureStreak = 0 ∧ column'.retryAfter = none ∧ after = .finished := by
  cases acts
  exact ⟨rfl, rfl, rfl⟩

/-- A failure closes it for the next pause. -/
theorem FlushPhase.Acts.of_recordingFailed {after : FlushPhase kind} {count : ℕ}
    {evicted : List (Option String)} {choice : Choice} {common common' : Common}
    {column column' : Column kind} {earlier : ℕ}
    (acts : (recordingFailed count evicted).Acts agent choice common column common' column' after)
    (streak : column.failureStreak = min earlier (2 ^ 32 - 1)) :
    column'.failureStreak = min (earlier + 1) (2 ^ 32 - 1) ∧
      column'.retryAfter = some (common.now + agent.pause earlier) ∧
      after = .confirming evicted none := by
  cases acts with
  | recordedFailed _ _ next _ counted =>
      have same : next = min (earlier + 1) (2 ^ 32 - 1) := by omega
      refine ⟨same, ?_, rfl⟩
      rw [← agent.pause_of_streak earlier, same]

/-- An action about the other kind records no failure of this one. -/
theorem Task.Idle.observed {task : Task} (idle : task.Idle kind) (times : List ℚ) (now : ℚ) :
    task.observed kind times now = times := by
  cases task with
  | flush other phase =>
      by_cases here : other = kind
      · cases phase with
        | finished => rfl
        | _ => cases idle here
      · cases phase with
        | recordingSent count => exact if_neg here
        | recordingFailed count evicted => exact if_neg here
        | _ => rfl
  | _ => rfl

/-- **A step keeps the pace**, unless a batch is requeued or a gate is read in a race. -/
theorem Paced.step {pool next : Pool Shared Task} {times : List ℚ}
    {label : PoolLabel Arrival Choice} (paced : Paced agent kind pool times)
    (unraced : Agent.Unraced pool label)
    (stepped : agent.machine.step? pool label = some next) :
    Paced agent kind next (observeFailures kind times pool label next) := by
  have apart := paced.apart.step unraced stepped
  rcases Agent.step_on stepped kind with
    ⟨arrival, started, rfl, tasks, fresh, arrived, records, same⟩ |
    ⟨tid, choice, task, after, started, rfl, present, tasks, fresh, moved, acts⟩
  · refine paced.keep ?_ ?_ (Arrival.arrive?_now arrived) (fun task member => ?_) apart
    · rw [same]
    · rw [same]
    · rw [tasks] at member
      rcases List.mem_append.mp member with old | new
      · exact Or.inl old
      · exact Or.inr (.of_fresh (fresh task new))
  · simp only [observeFailures, present, Option.elim_some]
    have clock := moved.now
    have quiet (silent : task.observed kind times pool.shared.now = times)
        (streak : (next.shared.columns kind).failureStreak =
          (pool.shared.columns kind).failureStreak)
        (gate : (next.shared.columns kind).retryAfter = (pool.shared.columns kind).retryAfter)
        (waited : after.Waited agent kind times pool.shared.now) :
        Paced agent kind next (task.observed kind times pool.shared.now) := by
      rw [silent]
      refine paced.keep streak gate clock.ge (fun other member => ?_) apart
      rw [tasks] at member
      rcases Pool.mem_acted_cases member with rfl | old | new
      · exact Or.inr waited
      · exact Or.inl old
      · exact Or.inr (.of_fresh (fresh other new))
    cases acts with
    | send phase after started acts => exact quiet rfl acts.steady.1 acts.steady.2 trivial
    | load phase after acts => exact quiet rfl acts.steady.1 acts.steady.2 trivial
    | wipe _ same fresh =>
        refine quiet rfl ?_ ?_ (.of_fresh fresh)
        · rw [same]
          rfl
        · rw [same]
          rfl
    | clear _ records same fresh =>
        refine quiet rfl ?_ ?_ (.of_fresh fresh)
        · rw [same]
        · rw [same]
    | other _ _ idle same fresh =>
        refine quiet (idle.observed times _) ?_ ?_ (.of_fresh fresh)
        · rw [same]
        · rw [same]
    | flush phase after acts =>
        cases phase with
        | recordingSent count =>
            obtain ⟨streak, gate, _⟩ := acts.of_recordingSent
            have reset : (Task.flush kind (.recordingSent count)).observed kind times
                pool.shared.now = [] := if_pos rfl
            rw [reset]
            refine ⟨streak, fun _ member => (List.not_mem_nil member).elim, Or.inl rfl, ?_, apart⟩
            exact fun _ _ => .nil
        | recordingFailed count evicted =>
            -- the failure is owed until now, so that no flush is past the gate
            have alone (other : Task) (old : other ∈ pool.tasks) :
                ¬ other.passes kind = true := fun passes =>
              paced.apart.not_owes old passes (List.mem_of_getElem? present)
                (decide_eq_true rfl)
            obtain ⟨streak, gate, rfl⟩ := acts.of_recordingFailed paced.streak
            have grown : (Task.flush kind (.recordingFailed count evicted)).observed kind times
                pool.shared.now = times ++ [pool.shared.now] := if_pos rfl
            rw [grown]
            refine ⟨?_, fun time member => ?_, Or.inr ⟨_, gate, .snoc paced.past⟩, ?_, apart⟩
            · rw [List.length_append, List.length_singleton]
              exact streak
            · rcases List.mem_append.mp member with earlier | latest
              · exact (paced.past time earlier).trans clock.ge
              · exact ((List.mem_singleton.mp latest).trans clock.symm).le
            · intro other member
              rw [tasks] at member
              rcases Pool.mem_acted_cases member with rfl | old | new
              · trivial
              · exact .of_not_passes (alone other old)
              · exact .of_fresh (fresh other new)
        | _ =>
            obtain ⟨streak, gate, waited⟩ := acts.paced paced.gate
              (paced.waited _ (List.mem_of_getElem? present)) rfl
            exact quiet rfl streak gate waited

namespace Agent

/-- With one permit there is no other flush to race with. -/
theorem unraced_of_single (agent : Agent) (single : agent.config.maxConcurrentFlushes ≤ 1)
    (records : Kind → Records) {labels : List (PoolLabel Arrival Choice)}
    {pool : Pool Shared Task}
    (run : agent.machine.Run ⟨agent.initial records, []⟩ labels pool) :
    agent.machine.RunUnder Agent.Unraced ⟨agent.initial records, []⟩ labels pool := by
  apply run.strengthen (Permitted agent) (.initial records)
  intro before label next permitted _ stepped
  refine ⟨?_, permitted.step stepped⟩
  cases label with
  | arrive arrival => trivial
  | run tid choice =>
      intro task present
      obtain ⟨others, split, _⟩ := exists_rest_of_getElem? present
      -- of two flushes one would have no permit
      have alone {kind : Kind} {phase : FlushPhase kind} (same : task = .flush kind phase)
          (other : Task) (member : other ∈ before.tasks) : other = task ∨
            ∀ kind, other.passes kind = false ∧ other.owes kind = false := by
        subst same
        rw [← Multiset.mem_coe, split, Multiset.mem_cons] at member
        refine member.imp_right fun elsewhere kind => ?_
        have none := permitted.alone single rfl split other elsewhere
        cases other with
        | flush kind phase => cases none
        | _ => exact ⟨rfl, rfl⟩
      constructor
      · intro kind requeues other member
        cases task with
        | flush own phase =>
            cases phase with
            | requeueing batch =>
                rcases alone rfl other member with rfl | idle
                · exact Bool.and_false _
                · exact (idle kind).1
            | _ => cases requeues
        | _ => cases requeues
      · intro kind reads other member
        cases task with
        | flush own phase =>
            cases phase with
            | start =>
                rcases alone rfl other member with rfl | idle
                · rfl
                · exact (idle kind).2
            | _ => cases reads
        | _ => cases reads

/-- The task is about to drain the metrics, and there are some. -/
def drainsMetrics (tid : ℕ) (pool : Pool Shared Task) : Bool :=
  !(pool.shared.columns .metrics).buffer.isEmpty && match pool.tasks[tid]? with
    | some (.flush .metrics .draining) => true
    | _ => false

/-- A metrics flush that drains a buffer with items is at its drain. -/
theorem of_drainsMetrics {tid : ℕ} {pool : Pool Shared Task}
    (drains : drainsMetrics tid pool = true) :
    pool.tasks[tid]? = some (.flush .metrics .draining) ∧
      (pool.shared.columns .metrics).buffer ≠ [] := by
  obtain ⟨some, there⟩ := (Bool.and_eq_true ..).mp drains
  constructor
  · split at there
    · assumption
    · cases there
  · intro none
    rw [none] at some
    cases some

/-- A flush that begins after a batch was requeued finds the gate still open, and drains the
batch before its failure is recorded. -/
theorem drain_before_record :
    let agent := Agent.sample { AgentConfig.new "test-api-key-1234" with
      maxConcurrentFlushes := 2, retryAttempts := 0 } []
    ∃ labels pool next last, agent.machine.Run ⟨agent.initial fun _ => ∅, []⟩ labels pool ∧
      pool.tasks[2]? = some (.flush .metrics .draining) ∧
      agent.machine.step? pool (offlineAct 2) = some next ∧
      (pool.shared.columns .metrics).buffer ≠ [] ∧
      agent.machine.step? next (offlineAct 1) = some last ∧
      agent.failures .metrics ⟨agent.initial fun _ => ∅, []⟩
        (labels ++ [offlineAct 2, offlineAct 1]) = [pool.shared.now] := by
  intro agent
  let labels := [.arrive (.trySend .metrics (sampleMetric 1 [])), offlineAct 0,
    .arrive .flushBuffer] ++ List.replicate 21 (offlineAct 1) ++ [.arrive .flushBuffer] ++
    List.replicate 7 (offlineAct 2)
  obtain ⟨pool, run, checked⟩ := @Machine.exists_run _ _ agent.machine
    ⟨agent.initial fun _ => ∅, []⟩ labels
    (fun pool => drainsMetrics 2 pool &&
      ((agent.machine.step? pool (offlineAct 2)).bind
        (agent.machine.step? · (offlineAct 1))).isSome &&
      decide (agent.failures .metrics ⟨agent.initial fun _ => ∅, []⟩
        (labels ++ [offlineAct 2, offlineAct 1]) = [pool.shared.now])) (by decide +kernel)
  obtain ⟨before, failed⟩ := (Bool.and_eq_true ..).mp checked
  obtain ⟨drains, steps⟩ := (Bool.and_eq_true ..).mp before
  obtain ⟨last, stepped⟩ := Option.isSome_iff_exists.mp steps
  obtain ⟨next, drained, recorded⟩ := Option.bind_eq_some_iff.mp stepped
  obtain ⟨draining, some⟩ := of_drainsMetrics drains
  exact ⟨labels, pool, next, last, run, draining, drained, some, recorded,
    of_decide_eq_true failed⟩

end Agent

end GuardAgent
