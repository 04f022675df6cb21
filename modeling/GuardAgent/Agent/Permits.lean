import GuardAgent.Agent.Actions
import Mathlib.Algebra.Order.BigOperators.Group.Multiset
import Mathlib.Algebra.Order.Ring.Nat

/-!
# The flush permits

The permits that are free and those that flushes have are as many as the configuration says
(`Agent.permitted`). With one permit no two flushes are under way (`Permitted.alone`).
-/

namespace GuardAgent

open Foundation

variable {agent : Agent}

/-- The permits a task has. -/
def Task.permits : Task → ℕ
  | .flushIfNeeded => 1
  | .flush _ _ => 1
  | _ => 0

/-- No permit is lost, and none is given out twice. -/
def Permitted (agent : Agent) (pool : Pool Shared Task) : Prop :=
  pool.owned Task.permits + pool.shared.flushPermits = max agent.config.maxConcurrentFlushes 1

/-- An action moves permits between its task and the free ones. -/
theorem Task.Acts.permits {task after : Task} {choice : Choice} {shared shared' : Shared}
    {started : List Task} (acts : task.Acts agent choice shared shared' after started) :
    task.permits + shared.flushPermits = after.permits + shared'.flushPermits := by
  have idle {condition : Prop} [Decidable condition] {first second : Task}
      (none : first.permits = 0) (none' : second.permits = 0) :
      (if condition then first else second).permits = 0 := by
    split
    · exact none
    · exact none'
  cases acts with
  | send kind phase after common column started acts => cases acts <;> rfl
  | flush kind phase after common column acts => cases acts <;> rfl
  | flushed =>
      change 1 + shared.flushPermits = 0 + (shared.flushPermits + 1)
      omega
  | permitted some =>
      change 0 + shared.flushPermits = 1 + (shared.flushPermits - 1)
      omega
  | gatedPermitted some =>
      change 0 + shared.flushPermits = 1 + (shared.flushPermits - 1)
      omega
  | unneeded _ =>
      change 1 + shared.flushPermits = 0 + (shared.flushPermits + 1)
      omega
  | cleared _ =>
      rw [idle rfl rfl]
      rfl
  | clearedNamespace kind => cases kind <;> rfl
  | start _ =>
      rw [idle rfl rfl]
      rfl
  | reload _ =>
      rw [idle rfl rfl]
      rfl
  | _ => rfl

/-- An arrival takes no permit and brings none. -/
theorem Arrival.arrive?_permits {arrival : Arrival} {shared shared' : Shared}
    {started : List Task} (arrived : arrival.arrive? agent shared = some (shared', started)) :
    shared'.flushPermits = shared.flushPermits ∧ (started.map Task.permits).sum = 0 := by
  cases arrival with
  | trySend kind item =>
      cases arrived
      refine ⟨rfl, ?_⟩
      split <;> rfl
  | attachRedisHandler =>
      obtain ⟨_, same⟩ := Option.ite_none_left_eq_some.mp arrived
      cases same
      exact ⟨rfl, rfl⟩
  | elapse seconds =>
      obtain ⟨_, same⟩ := Option.ite_none_right_eq_some.mp arrived
      cases same
      exact ⟨rfl, rfl⟩
  | _ =>
      cases arrived
      exact ⟨rfl, rfl⟩

namespace Permitted

variable {pool next : Pool Shared Task} {label : PoolLabel Arrival Choice}

/-- A new agent has all its permits. -/
theorem initial (records : Kind → Records) : Permitted agent ⟨agent.initial records, []⟩ :=
  Nat.zero_add _

/-- A step neither loses a permit nor gives one out twice. -/
theorem step (permitted : Permitted agent pool)
    (stepped : agent.machine.step? pool label = some next) : Permitted agent next := by
  rcases Threads.step_cases stepped with ⟨arrival, shared, started, rfl, arrived, rfl⟩ |
    ⟨tid, choice, task, shared, after, started, rfl, present, acted, rfl⟩
  · obtain ⟨same, none⟩ := Arrival.arrive?_permits arrived
    rw [Permitted, Pool.owned_append, none, add_zero, same]
    exact permitted
  · have moved := (Task.act?_acts acted).permits
    have none : (started.map Task.permits).sum = 0 := by
      rcases Task.act?_started acted with rfl | rfl <;> rfl
    obtain ⟨rest, split, replaced⟩ := Pool.exists_owned_rest present Task.permits
    rw [Permitted, split] at permitted
    rw [Permitted, replaced, none]
    change after.permits + rest + 0 + shared.flushPermits = _
    omega

/-- With one permit, what has it has it alone. -/
theorem alone (permitted : Permitted agent pool) (single : agent.config.maxConcurrentFlushes ≤ 1)
    {task : Task} (has : task.permits = 1) {others : Multiset Task}
    (split : (pool.tasks : Multiset Task) = task ::ₘ others) :
    ∀ other ∈ others, other.permits = 0 := by
  intro other member
  rw [Permitted, Pool.owned, split, Multiset.map_cons, Multiset.sum_cons, has] at permitted
  have share : other.permits ≤ (others.map Task.permits).sum :=
    Multiset.single_le_sum (fun _ _ => Nat.zero_le _) _ (Multiset.mem_map_of_mem _ member)
  omega

end Permitted

/-- **Permits are kept** in every run. -/
theorem Agent.permitted (agent : Agent) (records : Kind → Records)
    {labels : List (PoolLabel Arrival Choice)} {pool : Pool Shared Task}
    (run : agent.machine.Run ⟨agent.initial records, []⟩ labels pool) : Permitted agent pool :=
  run.invariant (Permitted agent) (.initial records) fun _ _ _ permitted _ stepped =>
    permitted.step stepped

end GuardAgent
