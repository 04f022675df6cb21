import GuardAgent.Agent.Conservation

/-!
# The capacity of the buffers

A task that holds the lock of the core across an await holds it alone, and room that it
made or found is still there when it buffers its item. So no buffer exceeds its capacity and
no send finds a full buffer empty (`Agent.capacity`).
-/

namespace GuardAgent

open Foundation

variable {agent : Agent} {kind : Kind}

/-- The send holds the lock of the core. -/
def SendPhase.holdsLock : SendPhase kind → Bool
  | .persisting _ _ => true
  | .pushing _ _ => true
  | .forgetting _ _ => true
  | _ => false

/-- The task holds the lock of the core. -/
def Task.holdsLock : Task → Bool
  | .send _ phase => phase.holdsLock
  | .load _ _ => true
  | _ => false

/-- The send has found room for its item. -/
def SendPhase.needsRoom : SendPhase kind → Bool
  | .persisting _ _ => true
  | .pushing _ _ => true
  | _ => false

/-- The reload has made room for its item. -/
def LoadPhase.needsRoom : LoadPhase kind → Bool
  | .forgetting _ _ _ _ => true
  | .appending _ _ _ => true
  | _ => false

/-- The task will buffer an item of this kind without looking for room again. -/
def Task.NeedsRoom (kind : Kind) : Task → Prop
  | .send other phase => other = kind ∧ phase.needsRoom = true
  | .load other phase => other = kind ∧ phase.needsRoom = true
  | _ => False

/-- The share a task has in the lock. -/
def Task.lock (task : Task) : ℕ := if task.holdsLock then 1 else 0

/-- A task that counts on room in the buffer holds the lock. -/
theorem Task.NeedsRoom.holdsLock {task : Task} (needs : task.NeedsRoom kind) :
    task.holdsLock = true := by
  cases task with
  | send other phase =>
      obtain ⟨rfl, room⟩ := needs
      cases phase with
      | persisting item key => rfl
      | pushing item key => rfl
      | _ => cases room
  | load other phase => rfl
  | _ => exact needs.elim

/-- What the capacity asks of a buffer and of the tasks. -/
structure Fits (agent : Agent) (pool : Pool Shared Task) : Prop where
  /-- The lock is held by one task, or by none when it is free. -/
  exclusive : pool.owned Task.lock = if pool.shared.locked then 1 else 0
  bounded : ∀ kind, (pool.shared.columns kind).buffer.length ≤ agent.config.bufferSize
  room : ∀ kind, ∀ task ∈ pool.tasks, task.NeedsRoom kind →
    (pool.shared.columns kind).buffer.length < agent.config.bufferSize
  sound : ∀ kind, .send kind .panicked ∉ pool.tasks

/-- A task that holds nothing, whichever it is, has no share. -/
theorem Task.lock_ite {condition : Prop} [Decidable condition] {first second : Task}
    (idle : first.lock = 0) (idle' : second.lock = 0) :
    (if condition then first else second).lock = 0 := by
  split
  · exact idle
  · exact idle'

/-- What an action does to the lock. -/
theorem Task.Acts.lock {task after : Task} {choice : Choice} {shared shared' : Shared}
    {started : List Task} (acts : task.Acts agent choice shared shared' after started)
    (held : task.holdsLock = true → shared.locked = true) :
    task.lock + (if shared'.locked then 1 else 0) =
      after.lock + (if shared.locked then 1 else 0) := by
  cases acts with
  | send kind phase after common column started acts =>
      cases acts <;> simp_all [Task.lock, Task.holdsLock, SendPhase.holdsLock, Shared.update]
  | flush kind phase after common column acts => cases acts <;> rfl
  | reloaded => simp_all [Task.lock, Task.holdsLock]
  | cleared _ =>
      rw [Task.lock_ite rfl rfl]
      rfl
  | clearedNamespace kind => cases kind <;> rfl
  | start _ =>
      rw [Task.lock_ite rfl rfl]
      rfl
  | reload _ =>
      rw [Task.lock_ite rfl rfl]
      rfl
  | lockForReload _ => simp_all [Task.lock, Task.holdsLock]
  | _ => rfl

/-- While another task holds the lock, an action leaves all buffers as they are. -/
theorem Task.Acts.buffer_of_locked {task after : Task} {choice : Choice}
    {shared shared' : Shared} {started : List Task}
    (acts : task.Acts agent choice shared shared' after started)
    (idle : task.holdsLock = false) (locked : shared.locked = true) (kind : Kind) :
    (shared'.columns kind).buffer = (shared.columns kind).buffer := by
  have updated {other : Kind} {common : Common} {column : Column other}
      (same : column.buffer = (shared.columns other).buffer) :
      ((shared.update other common column).columns kind).buffer =
        (shared.columns kind).buffer := by
    by_cases here : other = kind
    · subst here
      rw [Shared.update_self, same]
    · rw [Shared.update_of_ne (Ne.symm here)]
  cases acts with
  | send other phase after common column started acts =>
      apply updated
      cases acts <;> simp_all [Task.holdsLock, SendPhase.holdsLock]
  | flush other phase after common column acts =>
      apply updated
      cases acts <;> first | rfl | simp_all
  | load other phase after column acts => cases idle
  | cleared unlocked => simp_all
  | clearedNamespace other => exact updated rfl
  | _ => rfl

variable {choice : Choice} {common common' : Common} {column column' : Column kind}

/-- What is asked of the buffer around an action of a task. -/
def Column.FitsFor (agent : Agent) (needsRoom : Bool) (column : Column kind) : Prop :=
  column.buffer.length ≤ agent.config.bufferSize ∧
    (needsRoom = true → column.buffer.length < agent.config.bufferSize)

/-- A send buffers its item only where there is room, and makes room by evicting. -/
theorem SendPhase.Acts.fits {phase after : SendPhase kind} {started : List Task}
    (acts : phase.Acts agent choice common column common' column' after started)
    (fits : column.FitsFor agent phase.needsRoom) : column'.FitsFor agent after.needsRoom := by
  obtain ⟨bounded, room⟩ := fits
  have pushes {key : Option String} {item : Telemetry kind}
      (free : column.buffer.length < agent.config.bufferSize) :
      (column.pushBack item key).FitsFor agent false := by
    refine ⟨?_, Bool.noConfusion⟩
    rw [Column.pushBack, List.length_append, List.length_singleton]
    exact free
  have evicts {victim : Entry kind} {rest : List (Entry kind)}
      (front : column.buffer = victim :: rest) :
      (column.evictFront victim rest).FitsFor agent false := by
    refine ⟨?_, Bool.noConfusion⟩
    rw [front, List.length_cons] at bounded
    exact Nat.le_of_succ_le bounded
  cases acts with
  | persist item _ free _ => exact ⟨bounded, fun _ => free⟩
  | push item _ free _ => exact pushes free
  | evict item victim rest _ _ _ front _ => exact evicts front
  | evictKeyed item victim rest key _ _ _ front _ _ => exact evicts front
  | persisted item key _ => exact ⟨bounded, fun _ => room rfl⟩
  | unpersisted item key _ => exact ⟨bounded, fun _ => room rfl⟩
  | pushed item key => exact pushes (room rfl)
  | _ => exact ⟨bounded, Bool.noConfusion⟩

/-- A flush drains the buffer, or requeues as much as fits. -/
theorem FlushPhase.Acts.fits {phase after : FlushPhase kind}
    (positive : 0 < agent.config.bufferSize)
    (acts : phase.Acts agent choice common column common' column' after)
    (bounded : column.buffer.length ≤ agent.config.bufferSize) :
    column'.buffer.length ≤ agent.config.bufferSize := by
  cases acts with
  | drainedNone _ _ => exact Nat.zero_le _
  | drained _ _ => exact Nat.zero_le _
  | requeued batch _ =>
      simp only [Column.requeue, requeue_eq positive _ bounded]
      exact List.length_take_le _ _
  | _ => exact bounded

/-- A reload makes room before it buffers an item. -/
theorem LoadPhase.Acts.fits {phase after : LoadPhase kind}
    (positive : 0 < agent.config.bufferSize)
    (acts : phase.Acts agent choice common column column' after)
    (fits : column.FitsFor agent phase.needsRoom) : column'.FitsFor agent after.needsRoom := by
  obtain ⟨bounded, room⟩ := fits
  have evicts {victim : Entry kind} {rest : List (Entry kind)}
      (front : column.buffer = victim :: rest) :
      (column.evictFront victim rest).FitsFor agent true := by
    rw [front, List.length_cons] at bounded
    exact ⟨Nat.le_of_succ_le bounded, fun _ => bounded⟩
  cases acts with
  | room key item keys free =>
      refine ⟨bounded, fun _ => ?_⟩
      rcases free with free | empty
      · exact free
      · rw [empty]
        exact positive
  | evict key item keys victim rest _ front _ => exact evicts front
  | evictKeyed key item keys victim rest forgotten _ front _ _ => exact evicts front
  | forgot victim key item keys => exact ⟨bounded, fun _ => room rfl⟩
  | appended key item keys =>
      refine ⟨?_, Bool.noConfusion⟩
      change (column.buffer ++ [_]).length ≤ _
      rw [List.length_append, List.length_singleton]
      exact room rfl
  | _ => exact ⟨bounded, Bool.noConfusion⟩

/-- An action keeps the buffers within their capacity, and finds or makes room for what it
will buffer without looking again. -/
theorem Task.Acts.fits {task after : Task} {shared shared' : Shared} {started : List Task}
    (positive : 0 < agent.config.bufferSize)
    (acts : task.Acts agent choice shared shared' after started)
    (bounded : ∀ kind, (shared.columns kind).buffer.length ≤ agent.config.bufferSize)
    (room : ∀ kind, task.NeedsRoom kind →
      (shared.columns kind).buffer.length < agent.config.bufferSize) (kind : Kind) :
    (shared'.columns kind).buffer.length ≤ agent.config.bufferSize ∧
      (after.NeedsRoom kind →
        (shared'.columns kind).buffer.length < agent.config.bufferSize) := by
  cases acts with
  | send other phase after common column started acts =>
      by_cases here : other = kind
      · subst here
        rw [Shared.update_self]
        have fits := acts.fits ⟨bounded other, fun needs => room other ⟨rfl, needs⟩⟩
        exact ⟨fits.1, fun needs => fits.2 needs.2⟩
      · rw [Shared.update_of_ne (Ne.symm here)]
        exact ⟨bounded kind, fun needs => (here needs.1).elim⟩
  | flush other phase after common column acts =>
      refine ⟨?_, False.elim⟩
      by_cases here : other = kind
      · subst here
        rw [Shared.update_self]
        exact acts.fits positive (bounded other)
      · rw [Shared.update_of_ne (Ne.symm here)]
        exact bounded kind
  | load other phase after column acts =>
      by_cases here : other = kind
      · subst here
        rw [Shared.update_self]
        have fits := acts.fits positive ⟨bounded other, fun needs => room other ⟨rfl, needs⟩⟩
        exact ⟨fits.1, fun needs => fits.2 needs.2⟩
      · rw [Shared.update_of_ne (Ne.symm here)]
        exact ⟨bounded kind, fun needs => (here needs.1).elim⟩
  | loadMetrics => exact ⟨bounded kind, fun needs => Bool.noConfusion needs.2⟩
  | lockForReload _ => exact ⟨bounded kind, fun needs => Bool.noConfusion needs.2⟩
  | cleared _ =>
      refine ⟨Nat.zero_le _, fun needs => ?_⟩
      split at needs <;> exact needs.elim
  | clearedNamespace other =>
      constructor
      · by_cases here : other = kind
        · subst here
          rw [Shared.update_self]
          exact bounded other
        · rw [Shared.update_of_ne (Ne.symm here)]
          exact bounded kind
      · intro needs
        cases other <;> exact needs.elim
  | start _ =>
      refine ⟨bounded kind, fun needs => ?_⟩
      split at needs <;> exact needs.elim
  | reload _ =>
      refine ⟨bounded kind, fun needs => ?_⟩
      split at needs <;> exact needs.elim
  | _ => exact ⟨bounded kind, False.elim⟩

/-- No action finds a full buffer empty. -/
theorem Task.Acts.sound {task after : Task} {shared shared' : Shared} {started : List Task}
    (positive : 0 < agent.config.bufferSize)
    (acts : task.Acts agent choice shared shared' after started) (kind : Kind) :
    after ≠ .send kind .panicked := by
  intro panicked
  cases acts with
  | send other phase after common column started acts =>
      cases panicked
      cases acts with
      | panic item _ many _ empty =>
          rw [empty, List.length_nil] at many
          omega
  | cleared _ => split at panicked <;> cases panicked
  | clearedNamespace other => cases other <;> cases panicked
  | start _ => split at panicked <;> cases panicked
  | reload _ => split at panicked <;> cases panicked
  | _ => cases panicked

/-- An arrival keeps lock and buffers, and starts tasks that hold no lock. -/
theorem Arrival.arrive?_fits {arrival : Arrival} {shared shared' : Shared} {started : List Task}
    (arrived : arrival.arrive? agent shared = some (shared', started)) :
    shared'.locked = shared.locked ∧
      (∀ kind, (shared'.columns kind).buffer = (shared.columns kind).buffer) ∧
      ∀ task ∈ started, task.lock = 0 ∧ (∀ kind, ¬ task.NeedsRoom kind) ∧
        ∀ kind, task ≠ .send kind .panicked := by
  cases arrival with
  | trySend other item =>
      cases arrived
      refine ⟨rfl, fun _ => rfl, fun task member => ?_⟩
      split at member
      · rw [List.mem_singleton.mp member]
        exact ⟨rfl, fun _ needs => Bool.noConfusion needs.2, fun _ same => by cases same⟩
      · cases member
  | expire other key =>
      cases arrived
      refine ⟨rfl, fun kind => ?_, fun task member => (List.not_mem_nil member).elim⟩
      by_cases here : other = kind
      · subst here
        rw [Shared.update_self]
      · rw [Shared.update_of_ne (Ne.symm here)]
  | attachRedisHandler =>
      obtain ⟨_, same⟩ := Option.ite_none_left_eq_some.mp arrived
      cases same
      exact ⟨rfl, fun _ => rfl, fun task member => (List.not_mem_nil member).elim⟩
  | elapse seconds =>
      obtain ⟨_, same⟩ := Option.ite_none_right_eq_some.mp arrived
      cases same
      exact ⟨rfl, fun _ => rfl, fun task member => (List.not_mem_nil member).elim⟩
  | stop =>
      cases arrived
      exact ⟨rfl, fun _ => rfl, fun task member => (List.not_mem_nil member).elim⟩
  | _ =>
      cases arrived
      refine ⟨rfl, fun _ => rfl, fun task member => ?_⟩
      rw [List.mem_singleton.mp member]
      exact ⟨rfl, fun _ => False.elim, fun _ => Task.noConfusion⟩

namespace Fits

variable {pool next : Pool Shared Task} {label : PoolLabel Arrival Choice}

/-- The empty buffers of a new agent fit. -/
theorem initial (records : Kind → Records) : Fits agent ⟨agent.initial records, []⟩ where
  exclusive := rfl
  bounded := fun _ => Nat.zero_le _
  room := fun _ _ member => (List.not_mem_nil member).elim
  sound := fun _ => List.not_mem_nil

/-- A started task holds no lock, needs no room and has not panicked. -/
theorem started_idle {started : List Task} (begun : started = [] ∨ started = [.gatedFlush]) :
    ∀ task ∈ started, task.lock = 0 ∧ (∀ kind, ¬ task.NeedsRoom kind) ∧
      ∀ kind, task ≠ .send kind .panicked := by
  intro task member
  rcases begun with rfl | rfl
  · exact (List.not_mem_nil member).elim
  · rw [List.mem_singleton.mp member]
    exact ⟨rfl, fun _ => False.elim, fun _ => Task.noConfusion⟩

/-- A step keeps the buffers within their capacity. -/
theorem step (positive : 0 < agent.config.bufferSize) (fits : Fits agent pool)
    (stepped : agent.machine.step? pool label = some next) : Fits agent next := by
  obtain ⟨exclusive, bounded, room, sound⟩ := fits
  have unshared (started : List Task) (idle : ∀ task ∈ started, task.lock = 0) :
      (started.map Task.lock).sum = 0 := by
    apply List.sum_eq_zero
    intro share member
    obtain ⟨task, new, rfl⟩ := List.mem_map.mp member
    exact idle task new
  rcases Threads.step_cases stepped with ⟨arrival, shared, started, rfl, arrived, rfl⟩ |
    ⟨tid, choice, task, shared, after, started, rfl, present, acted, rfl⟩
  · obtain ⟨locked, buffers, idle⟩ := Arrival.arrive?_fits arrived
    have none := unshared started fun task new => (idle task new).1
    refine ⟨?_, fun kind => ?_, fun kind task member needs => ?_, fun kind member => ?_⟩
    · rw [Pool.owned_append, none, add_zero, locked]
      exact exclusive
    · rw [buffers]
      exact bounded kind
    · rw [buffers]
      rcases List.mem_append.mp member with old | new
      · exact room kind task old needs
      · exact ((idle task new).2.1 kind needs).elim
    · rcases List.mem_append.mp member with old | new
      · exact sound kind old
      · exact (idle _ new).2.2 kind rfl
  · have acts := Task.act?_acts acted
    have idle := started_idle (Task.act?_started acted)
    have none := unshared started fun task new => (idle task new).1
    obtain ⟨others, split, replaced⟩ := exists_rest_of_getElem? present
    have shares : task.lock + (others.map Task.lock).sum =
        if pool.shared.locked then 1 else 0 := by
      rw [← exclusive, Pool.owned, split, Multiset.map_cons, Multiset.sum_cons]
    have held : task.holdsLock = true → pool.shared.locked = true := by
      intro holds
      rw [Task.lock, if_pos holds] at shares
      by_contra free
      rw [if_neg free] at shares
      omega
    refine ⟨?_, fun kind => ?_, fun kind other member needs => ?_, fun kind member => ?_⟩
    · have moved := acts.lock held
      rw [Pool.owned_append, none, add_zero, Pool.owned, replaced, Multiset.map_cons,
        Multiset.sum_cons]
      change after.lock + (others.map Task.lock).sum = if shared.locked then 1 else 0
      omega
    · have acting := fun kind => room kind task (List.mem_of_getElem? present)
      exact (acts.fits positive bounded acting kind).1
    · rcases List.mem_append.mp member with old | new
      · rw [← Multiset.mem_coe, replaced, Multiset.mem_cons] at old
        rcases old with rfl | old
        · have acting := fun kind => room kind task (List.mem_of_getElem? present)
          exact (acts.fits positive bounded acting kind).2 needs
        -- Another task that needs room holds the lock, so this one changed no buffer.
        · have present' : other ∈ pool.tasks := by
            rw [← Multiset.mem_coe, split]
            exact Multiset.mem_cons_of_mem old
          have share : other.lock ≤ (others.map Task.lock).sum :=
            Multiset.single_le_sum (fun _ _ => Nat.zero_le _) _ (Multiset.mem_map_of_mem _ old)
          rw [Task.lock, if_pos needs.holdsLock] at share
          have locked : pool.shared.locked = true := by
            by_contra free
            rw [if_neg free] at shares
            omega
          have waits : task.holdsLock = false := by
            by_contra holds
            rw [Task.lock, if_pos (Bool.eq_true_of_not_eq_false holds), if_pos locked] at shares
            omega
          rw [acts.buffer_of_locked waits locked kind]
          exact room kind other present' needs
      · exact ((idle other new).2.1 kind needs).elim
    · rcases List.mem_append.mp member with old | new
      · rcases List.mem_or_eq_of_mem_set old with before | same
        · exact sound kind before
        · exact acts.sound positive kind same.symm
      · exact (idle _ new).2.2 kind rfl

end Fits

namespace Agent

/-- **No buffer exceeds its capacity, and no send panics**, in every run over every store. -/
theorem capacity (agent : Agent) (positive : 1 ≤ agent.config.bufferSize)
    (records : Kind → Records) (labels : List (PoolLabel Arrival Choice))
    (pool : Pool Shared Task) (run : agent.machine.Run ⟨agent.initial records, []⟩ labels pool) :
    ∀ kind, (pool.shared.columns kind).buffer.length ≤ agent.config.bufferSize ∧
      .send kind .panicked ∉ pool.tasks := by
  have fits := run.invariant (Fits agent) (.initial records)
    fun _ _ _ fits _ stepped => fits.step positive stepped
  exact fun kind => ⟨fits.bounded kind, fits.sound kind⟩

/-- Two records are reloaded into a buffer of one item, a flush drains it, another item is
sent, and the flush fails: two of the three items are evicted. -/
theorem capacity_of_one :
    let known := [sampleMetric 1 [], sampleMetric 2 []]
    let agent := Agent.sample { AgentConfig.new "test-api-key-1234" with
      bufferSize := 1, retryAttempts := 0 } known
    let records (kind : Kind) : Records := match kind with
      | .events => ∅
      | .metrics => Records.setKey .ok "metric_1_a" (SecurityMetric.sampleText (sampleMetric 1 []))
          (AList.singleton "metric_2_b" (SecurityMetric.sampleText (sampleMetric 2 [])))
    ∃ labels pool, agent.machine.Run ⟨agent.initial records, []⟩ labels pool ∧
      (pool.shared.columns .metrics).dropped = 2 ∧
      (pool.shared.columns .metrics).buffer.length ≤ 1 ∧ .send .metrics .panicked ∉ pool.tasks := by
  intro known agent records
  let labels := [.arrive .attachRedisHandler, .arrive .start] ++ List.replicate 16 (offlineAct 0) ++
    [.arrive .flushBuffer] ++ List.replicate 9 (offlineAct 1) ++
    [.arrive (.trySend .metrics (sampleMetric 3 []))] ++ List.replicate 3 (offlineAct 2) ++
    List.replicate 16 (offlineAct 1)
  obtain ⟨pool, run, checked⟩ := @Machine.exists_run _ _ agent.machine
    ⟨agent.initial records, []⟩ labels
    (fun pool => (pool.shared.columns .metrics).dropped = 2) (by decide +kernel)
  exact ⟨labels, pool, run, of_decide_eq_true checked,
    capacity agent (by decide) records labels pool run .metrics⟩

end Agent

end GuardAgent
