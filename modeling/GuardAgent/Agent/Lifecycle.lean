import GuardAgent.Foundation.Machine
import Mathlib.Data.Fintype.Basic

/-!
# Start and stop

Calls of `start` and `stop` and the background loops they spawn, notify and join. The
running flag and the registered handles are changed in different steps. As long as
handles are taken and loops are spawned in the order that `Lifecycle.Ordered` asks for,
the agent is running exactly when one set of loops is live, whenever no call is in
progress (`Lifecycle.agreement`). A `start` between two steps of a `stop`, or the other
way round, breaks it (`Lifecycle.disagreement_in_window`).
-/

namespace GuardAgent

open Foundation

/-- The fields of `LoopHandles`. -/
inductive LoopName where
  | flush
  | status
  | rules
  deriving DecidableEq

instance : Fintype LoopName where
  elems := {.flush, .status, .rules}
  complete name := by cases name <;> decide

/-- Where a background loop is. -/
inductive LoopPhase where
  /-- About to wait, for the first time or after the work of a tick. -/
  | busy
  /-- Waits for its timer or the notification. -/
  | waiting
  /-- Was notified while it waited. -/
  | notified
  /-- Its timer elapsed; it reads the running flag next. -/
  | ticked
  /-- It broke out of its loop, or was aborted. -/
  | ended
  deriving DecidableEq

/-- The loops that one `start` spawned. -/
abbrev LoopSet : Type := LoopName → LoopPhase

/-- The next step of `flush_loop`, `status_loop` and `rules_loop`. A notified loop whose
timer has elapsed as well may take either branch of `select!`. -/
def LoopPhase.act? (running elapsed : Bool) : LoopPhase → Option LoopPhase
  | .busy => some .waiting
  | .waiting => if elapsed then some .ticked else none
  | .notified => some (if elapsed then .ticked else .ended)
  | .ticked => some (if running then .busy else .ended)
  | .ended => none

/-- `notify_waiters` reaches the loops that wait at the moment. -/
def LoopPhase.notify : LoopPhase → LoopPhase
  | .waiting => .notified
  | phase => phase

/-- The running flag and the registered handles, with all loops spawned so far. -/
structure Lifecycle where
  running : Bool
  /-- `loops`: whose handles are registered. -/
  handles : Option ℕ
  sets : List LoopSet

/-- A call of `start` or `stop`. -/
inductive LifecycleCall where
  /-- `start`, about to swap the running flag. -/
  | start
  /-- `start` connects and reloads, and then looks at the handles. -/
  | reloading
  /-- `stop`, about to clear the running flag. -/
  | stop
  | notifying
  | taking
  /-- Joins the loops whose handles it took, and aborts them. -/
  | joining (set : ℕ)
  /-- Waits for flushes in flight, and flushes once more. -/
  | flushing
  | returned
  deriving DecidableEq

/-- What can happen from outside: calls, and the steps of the loops. -/
inductive LifecycleArrival where
  | start
  | stop
  | loop (set : ℕ) (name : LoopName) (elapsed : Bool)

/-- The next action of a call. -/
def LifecycleCall.act? (call : LifecycleCall) (timedOut : Bool) (state : Lifecycle) :
    Option (Lifecycle × LifecycleCall × List LifecycleCall) :=
  match call with
  | .start =>
      if state.running then some (state, .returned, [])
      else some ({ state with running := true }, .reloading, [])
  | .reloading =>
      match state.handles with
      | some _ => some (state, .returned, [])
      | none => some ({ state with
          handles := some state.sets.length
          sets := state.sets ++ [fun _ => .busy] }, .returned, [])
  | .stop => some ({ state with running := false }, .notifying, [])
  | .notifying =>
      some ({ state with sets := state.sets.map fun loops => LoopPhase.notify ∘ loops },
        .taking, [])
  | .taking =>
      match state.handles with
      | some set => some ({ state with handles := none }, .joining set, [])
      | none => some (state, .flushing, [])
  | .joining set =>
      if timedOut = true ∨ ∀ loops ∈ state.sets[set]?, ∀ name, loops name = .ended then
        some ({ state with sets := state.sets.set set fun _ => .ended }, .flushing, [])
      else none
  | .flushing => some (state, .returned, [])
  | .returned => none

def LifecycleArrival.arrive? (arrival : LifecycleArrival) (state : Lifecycle) :
    Option (Lifecycle × List LifecycleCall) :=
  match arrival with
  | .start => some (state, [.start])
  | .stop => some (state, [.stop])
  | .loop set name elapsed => do
      let loops ← state.sets[set]?
      let phase ← (loops name).act? state.running elapsed
      return ({ state with sets := state.sets.set set (Function.update loops name phase) }, [])

/-- All interleavings of calls and loops. -/
def lifecycle : Threads Lifecycle LifecycleCall LifecycleArrival Bool where
  arrive? := LifecycleArrival.arrive?
  act? := LifecycleCall.act?

namespace Lifecycle

/-- The state of a new agent. -/
def initial : Lifecycle where
  running := false
  handles := none
  sets := []

/-- All three loops of the set are live. -/
def Live (loops : LoopSet) : Prop := ∀ name, loops name ≠ .ended

/-- No loop of the set is live. -/
def Ended (loops : LoopSet) : Prop := ∀ name, loops name = .ended

instance (loops : LoopSet) : Decidable (Live loops) :=
  inferInstanceAs (Decidable (∀ name, loops name ≠ .ended))

instance (loops : LoopSet) : Decidable (Ended loops) :=
  inferInstanceAs (Decidable (∀ name, loops name = .ended))

/-- Exactly one set is live, and no loop of any other. -/
def OneLive (state : Lifecycle) : Prop :=
  ∃ (id : ℕ) (loops : LoopSet), state.sets[id]? = some loops ∧ Live loops ∧
    ∀ (other : ℕ) (others : LoopSet), other ≠ id → state.sets[other]? = some others → Ended others

/-- A `stop` has cleared the flag and not yet taken the handles. -/
def Stopping (calls : List LifecycleCall) : Prop := .notifying ∈ calls ∨ .taking ∈ calls

/-- A `start` has set the flag and not yet looked at the handles. -/
def Starting (calls : List LifecycleCall) : Prop := .reloading ∈ calls

/-- Handles are taken from a running agent only while a `start` is on its way to spawn
loops, and loops are spawned for a stopped agent only while a `stop` is on its way to
take them. -/
def Ordered (pool : Pool Lifecycle LifecycleCall) (label : PoolLabel LifecycleArrival Bool) :
    Prop :=
  match label with
  | .run tid _ =>
      (pool.tasks[tid]? = some .taking → pool.shared.running = true → Starting pool.tasks) ∧
      (pool.tasks[tid]? = some .reloading → pool.shared.handles = none →
        pool.shared.running = false → Stopping pool.tasks)
  | .arrive _ => True

instance (pool : Pool Lifecycle LifecycleCall) (label : PoolLabel LifecycleArrival Bool) :
    Decidable (Ordered pool label) :=
  match label with
  | .run tid _ => inferInstanceAs (Decidable (
      (pool.tasks[tid]? = some .taking → pool.shared.running = true → .reloading ∈ pool.tasks) ∧
      (pool.tasks[tid]? = some .reloading → pool.shared.handles = none →
        pool.shared.running = false → .notifying ∈ pool.tasks ∨ .taking ∈ pool.tasks)))
  | .arrive _ => .isTrue trivial

/-- The loop goes on when it finds the agent running. -/
def Going (loops : LoopSet) : Prop := ∀ name, loops name ≠ .notified ∧ loops name ≠ .ended

/-- What holds at every step, also while calls are in progress. -/
structure Orderly (pool : Pool Lifecycle LifecycleCall) : Prop where
  idle : pool.shared.running = false → pool.shared.handles ≠ none → Stopping pool.tasks
  missing : pool.shared.running = true → pool.shared.handles = none → Starting pool.tasks
  owned : ∀ (id : ℕ) (loops : LoopSet), pool.shared.sets[id]? = some loops → ¬ Ended loops →
    pool.shared.handles = some id ∨ .joining id ∈ pool.tasks
  going : ∀ (id : ℕ) (loops : LoopSet), pool.shared.handles = some id →
    pool.shared.sets[id]? = some loops →
    Going loops ∨ Stopping pool.tasks
  registered : ∀ id, pool.shared.handles = some id → id < pool.shared.sets.length
  released : ∀ id, .joining id ∈ pool.tasks → pool.shared.handles ≠ some id ∧
    id < pool.shared.sets.length

/-- A loop that goes on goes on, while the agent is running. -/
theorem act?_going {phase after : LoopPhase} {elapsed : Bool}
    (acted : phase.act? true elapsed = some after) (going : phase ≠ .notified) :
    after ≠ .notified ∧ after ≠ .ended := by
  cases phase with
  | busy =>
      cases acted
      exact ⟨nofun, nofun⟩
  | waiting =>
      simp only [LoopPhase.act?] at acted
      split at acted
      · cases acted
        exact ⟨nofun, nofun⟩
      · cases acted
  | notified => exact (going rfl).elim
  | ticked =>
      cases acted
      exact ⟨nofun, nofun⟩
  | ended => cases acted

namespace Orderly

variable {pool : Pool Lifecycle LifecycleCall} (orderly : Orderly pool)

/-- A stopped agent has no loops and no calls. -/
theorem initial : Orderly ⟨Lifecycle.initial, []⟩ where
  idle _ registered := (registered rfl).elim
  missing running := by cases running
  owned id loops spawned := by cases spawned
  going id loops registered := by cases registered
  registered id registered := by cases registered
  released id joining := by cases joining

include orderly

/-- A call that begins changes nothing yet. -/
theorem call {call : LifecycleCall} (fresh : ∀ id, call ≠ .joining id) :
    Orderly ⟨pool.shared, pool.tasks ++ [call]⟩ := by
  have more {other : LifecycleCall} (member : other ∈ pool.tasks) : other ∈ pool.tasks ++ [call] :=
    List.mem_append_left _ member
  refine ⟨fun stopped registered => ?_, fun running none => ?_, fun id loops spawned live => ?_,
    fun id loops registered spawned => ?_, orderly.registered, fun id joining => ?_⟩
  · exact (orderly.idle stopped registered).imp more more
  · exact more (orderly.missing running none)
  · exact (orderly.owned id loops spawned live).imp_right more
  · exact (orderly.going id loops registered spawned).imp_right fun stopping =>
      stopping.imp more more
  · rcases List.mem_append.mp joining with old | new
    · exact orderly.released id old
    · exact (fresh id (List.mem_singleton.mp new).symm).elim

/-- A step of a loop keeps it. -/
theorem loop {set : ℕ} {name : LoopName} {elapsed : Bool} {loops : LoopSet} {phase : LoopPhase}
    (spawned : pool.shared.sets[set]? = some loops)
    (acted : (loops name).act? pool.shared.running elapsed = some phase) :
    Orderly ⟨{ pool.shared with
      sets := pool.shared.sets.set set (Function.update loops name phase) }, pool.tasks⟩ := by
  have changed {id : ℕ} {found : LoopSet}
      (there : (pool.shared.sets.set set (Function.update loops name phase))[id]? = some found) :
      id = set ∧ found = Function.update loops name phase ∨
        id ≠ set ∧ pool.shared.sets[id]? = some found := by
    rw [List.getElem?_set] at there
    split at there
    · next same =>
        split at there
        · exact Or.inl ⟨same.symm, (Option.some.inj there).symm⟩
        · cases there
    · next different => exact Or.inr ⟨Ne.symm different, there⟩
  refine ⟨orderly.idle, orderly.missing, fun id found there live => ?_,
    fun id found registered there => ?_, fun id registered => ?_, fun id joining => ?_⟩
  · rcases changed there with ⟨same, updated⟩ | ⟨_, before⟩
    · subst same
      refine orderly.owned id loops spawned fun ended => ?_
      rw [ended name] at acted
      cases acted
    · exact orderly.owned id found before live
  · rcases changed there with ⟨same, updated⟩ | ⟨_, before⟩
    · subst same updated
      cases flag : pool.shared.running with
      | false =>
          have present : pool.shared.handles ≠ none := by
            change pool.shared.handles = some id at registered
            rw [registered]
            exact nofun
          exact Or.inr (orderly.idle flag present)
      | true =>
          refine (orderly.going id loops registered spawned).imp_left fun going other => ?_
          rw [flag] at acted
          by_cases here : other = name
          · subst here
            rw [Function.update_self]
            exact act?_going acted (going other).1
          · rw [Function.update_of_ne here]
            exact going other
    · exact orderly.going id found registered before
  · rw [List.length_set]
    exact orderly.registered id registered
  · rw [List.length_set]
    exact orderly.released id joining

/-- A call whose action is in no window keeps it, when the shared state stays. -/
theorem quiet {tid : ℕ} {call after : LifecycleCall} (present : pool.tasks[tid]? = some call)
    (outside : call ≠ .notifying ∧ call ≠ .taking ∧ ∀ id, call ≠ .joining id)
    (missing : pool.shared.running = true → pool.shared.handles = none → call ≠ .reloading)
    (fresh : ∀ id, after ≠ .joining id) :
    Orderly ⟨pool.shared, pool.tasks.set tid after ++ []⟩ := by
  have kept {other : LifecycleCall} (member : other ∈ pool.tasks) (different : call ≠ other) :
      other ∈ pool.tasks.set tid after ++ [] :=
    Pool.mem_acted present member (Ne.symm different) after []
  have stays (stopping : Stopping pool.tasks) : Stopping (pool.tasks.set tid after ++ []) :=
    stopping.imp (fun member => kept member outside.1) fun member => kept member outside.2.1
  refine ⟨fun stopped registered => ?_, fun running none => ?_, fun id loops spawned live => ?_,
    fun id loops registered spawned => ?_, orderly.registered, fun id joining => ?_⟩
  · exact stays (orderly.idle stopped registered)
  · exact kept (orderly.missing running none) (missing running none)
  · refine (orderly.owned id loops spawned live).imp_right fun member => ?_
    exact kept member (outside.2.2 id)
  · exact (orderly.going id loops registered spawned).imp_right stays
  · rcases Pool.mem_acted_cases joining with same | old | new
    · exact (fresh id same.symm).elim
    · exact orderly.released id old
    · cases new

/-- A `start` sets the flag. -/
theorem swap {tid : ℕ} (present : pool.tasks[tid]? = some .start) :
    Orderly ⟨{ pool.shared with running := true }, pool.tasks.set tid .reloading ++ []⟩ := by
  have kept {other : LifecycleCall} (member : other ∈ pool.tasks) (different : other ≠ .start) :
      other ∈ pool.tasks.set tid .reloading ++ [] :=
    Pool.mem_acted present member different _ []
  refine ⟨fun stopped => Bool.noConfusion stopped, fun _ _ => ?_,
    fun id loops spawned live => ?_, fun id loops registered spawned => ?_,
    orderly.registered, fun id joining => ?_⟩
  · exact List.mem_of_getElem? (Pool.getElem?_acted present _)
  · exact (orderly.owned id loops spawned live).imp_right fun member => kept member nofun
  · refine (orderly.going id loops registered spawned).imp_right fun stopping => ?_
    exact stopping.imp (fun member => kept member nofun) fun member => kept member nofun
  · rcases Pool.mem_acted_cases joining with same | old | new
    · cases same
    · exact orderly.released id old
    · cases new

/-- A `start` spawns loops, for a running agent or while a `stop` is on its way to take
their handles. -/
theorem spawn {tid : ℕ} (present : pool.tasks[tid]? = some .reloading)
    (none : pool.shared.handles = none)
    (window : pool.shared.running = false → Stopping pool.tasks) :
    Orderly ⟨{ pool.shared with
      handles := some pool.shared.sets.length
      sets := pool.shared.sets ++ [fun _ => .busy] }, pool.tasks.set tid .returned ++ []⟩ := by
  have kept {other : LifecycleCall} (member : other ∈ pool.tasks) (different : other ≠ .reloading) :
      other ∈ pool.tasks.set tid .returned ++ [] :=
    Pool.mem_acted present member different _ []
  have changed {id : ℕ} {found : LoopSet}
      (there : (pool.shared.sets ++ [fun _ => LoopPhase.busy])[id]? = some found) :
      id = pool.shared.sets.length ∧ found = (fun _ => .busy) ∨
        pool.shared.sets[id]? = some found := by
    rw [List.getElem?_append] at there
    split at there
    · exact Or.inr there
    · next beyond =>
        rw [List.getElem?_singleton] at there
        split at there
        · exact Or.inl ⟨by omega, (Option.some.inj there).symm⟩
        · cases there
  refine ⟨fun stopped _ => ?_, fun _ vacant => (Option.some_ne_none _ vacant).elim,
    fun id loops spawned live => ?_, fun id loops registered spawned => ?_,
    fun id registered => ?_, fun id joining => ?_⟩
  · exact (window stopped).imp (fun member => kept member nofun) fun member => kept member nofun
  · rcases changed spawned with ⟨same, _⟩ | before
    · exact Or.inl (congrArg some same.symm)
    · refine (orderly.owned id loops before live).imp ?_ fun member => kept member nofun
      intro registered
      rw [none] at registered
      cases registered
  · rcases changed spawned with ⟨_, rfl⟩ | before
    · exact Or.inl fun _ => ⟨nofun, nofun⟩
    · obtain ⟨bound, _⟩ := List.getElem?_eq_some_iff.mp before
      cases registered
      exact (Nat.lt_irrefl _ bound).elim
  · cases registered
    rw [List.length_append]
    exact Nat.lt_succ_self _
  · rcases Pool.mem_acted_cases joining with same | old | new
    · cases same
    · have bound := (orderly.released id old).2
      refine ⟨fun same => ?_, ?_⟩
      · cases same
        exact Nat.lt_irrefl _ bound
      · rw [List.length_append]
        exact Nat.lt_succ_of_lt bound
    · cases new

/-- A `stop` clears the flag. -/
theorem clear {tid : ℕ} (present : pool.tasks[tid]? = some .stop) :
    Orderly ⟨{ pool.shared with running := false }, pool.tasks.set tid .notifying ++ []⟩ := by
  have kept {other : LifecycleCall} (member : other ∈ pool.tasks) (different : other ≠ .stop) :
      other ∈ pool.tasks.set tid .notifying ++ [] :=
    Pool.mem_acted present member different _ []
  have stopping : Stopping (pool.tasks.set tid .notifying ++ []) :=
    Or.inl (List.mem_of_getElem? (Pool.getElem?_acted present _))
  refine ⟨fun _ _ => stopping, nofun, fun id loops spawned live => ?_,
    fun id loops registered spawned => Or.inr stopping, orderly.registered, fun id joining => ?_⟩
  · exact (orderly.owned id loops spawned live).imp_right fun member => kept member nofun
  · rcases Pool.mem_acted_cases joining with same | old | new
    · cases same
    · exact orderly.released id old
    · cases new

/-- A `stop` notifies the loops. -/
theorem notify {tid : ℕ} (present : pool.tasks[tid]? = some .notifying) :
    Orderly ⟨{ pool.shared with
      sets := pool.shared.sets.map fun loops => LoopPhase.notify ∘ loops },
      pool.tasks.set tid .taking ++ []⟩ := by
  have kept {other : LifecycleCall} (member : other ∈ pool.tasks) (different : other ≠ .notifying) :
      other ∈ pool.tasks.set tid .taking ++ [] :=
    Pool.mem_acted present member different _ []
  have stopping : Stopping (pool.tasks.set tid .taking ++ []) :=
    Or.inr (List.mem_of_getElem? (Pool.getElem?_acted present _))
  refine ⟨fun _ _ => stopping, fun running none => ?_, fun id loops spawned live => ?_,
    fun id loops registered spawned => Or.inr stopping, fun id registered => ?_,
    fun id joining => ?_⟩
  · exact kept (orderly.missing running none) nofun
  · obtain ⟨before, there, rfl⟩ := Option.map_eq_some_iff.mp (List.getElem?_map ▸ spawned)
    refine (orderly.owned id before there fun ended => live fun name => ?_).imp_right fun member =>
      kept member nofun
    change (before name).notify = .ended
    rw [ended name]
    rfl
  · rw [List.length_map]
    exact orderly.registered id registered
  · rcases Pool.mem_acted_cases joining with same | old | new
    · cases same
    · rw [List.length_map]
      exact orderly.released id old
    · cases new

/-- A `stop` takes handles, of an agent that is stopped or that a `start` is about to
spawn loops for. -/
theorem take {tid set : ℕ} (present : pool.tasks[tid]? = some .taking)
    (registered : pool.shared.handles = some set)
    (window : pool.shared.running = true → Starting pool.tasks) :
    Orderly ⟨{ pool.shared with handles := none }, pool.tasks.set tid (.joining set) ++ []⟩ := by
  have kept {other : LifecycleCall} (member : other ∈ pool.tasks) (different : other ≠ .taking) :
      other ∈ pool.tasks.set tid (.joining set) ++ [] :=
    Pool.mem_acted present member different _ []
  refine ⟨fun _ registered => (registered rfl).elim, fun running _ => kept (window running) nofun,
    fun id loops spawned live => ?_, nofun, nofun, fun id joining => ⟨nofun, ?_⟩⟩
  · rcases orderly.owned id loops spawned live with mine | member
    · rw [registered] at mine
      cases mine
      exact Or.inr (List.mem_of_getElem? (Pool.getElem?_acted present _))
    · exact Or.inr (kept member nofun)
  · rcases Pool.mem_acted_cases joining with same | old | new
    · cases same
      exact orderly.registered _ registered
    · exact (orderly.released id old).2
    · cases new

/-- A `stop` finds no handles. -/
theorem takeNone {tid : ℕ} (present : pool.tasks[tid]? = some .taking)
    (none : pool.shared.handles = none) :
    Orderly ⟨pool.shared, pool.tasks.set tid .flushing ++ []⟩ := by
  have kept {other : LifecycleCall} (member : other ∈ pool.tasks) (different : other ≠ .taking) :
      other ∈ pool.tasks.set tid .flushing ++ [] :=
    Pool.mem_acted present member different _ []
  refine ⟨fun _ registered => (registered none).elim, fun running _ => ?_,
    fun id loops spawned live => ?_, fun id loops registered => ?_, orderly.registered,
    fun id joining => ?_⟩
  · exact kept (orderly.missing running none) nofun
  · exact (orderly.owned id loops spawned live).imp_right fun member => kept member nofun
  · rw [none] at registered
    cases registered
  · rcases Pool.mem_acted_cases joining with same | old | new
    · cases same
    · exact orderly.released id old
    · cases new

/-- A `stop` has joined or aborted the loops whose handles it took. -/
theorem join {tid set : ℕ} (present : pool.tasks[tid]? = some (.joining set)) :
    Orderly ⟨{ pool.shared with sets := pool.shared.sets.set set fun _ => .ended },
      pool.tasks.set tid .flushing ++ []⟩ := by
  have kept {other : LifecycleCall} (member : other ∈ pool.tasks)
      (different : other ≠ .joining set) : other ∈ pool.tasks.set tid .flushing ++ [] :=
    Pool.mem_acted present member different _ []
  have stays (stopping : Stopping pool.tasks) : Stopping (pool.tasks.set tid .flushing ++ []) :=
    stopping.imp (fun member => kept member nofun) fun member => kept member nofun
  have mine := (orderly.released set (List.mem_of_getElem? present)).1
  refine ⟨fun stopped registered => stays (orderly.idle stopped registered), fun running none => ?_,
    fun id loops spawned live => ?_, fun id loops registered spawned => ?_,
    fun id registered => ?_, fun id joining => ?_⟩
  · exact kept (orderly.missing running none) nofun
  · by_cases here : id = set
    · subst here
      obtain ⟨_, _, rfl⟩ := Option.map_eq_some_iff.mp (List.getElem?_set_self' ▸ spawned)
      exact (live fun _ => rfl).elim
    · rw [List.getElem?_set_ne (Ne.symm here)] at spawned
      refine (orderly.owned id loops spawned live).imp_right fun member =>
        kept member fun same => ?_
      cases same
      exact here rfl
  · have elsewhere : id ≠ set := fun same => mine (same ▸ registered)
    rw [List.getElem?_set_ne (Ne.symm elsewhere)] at spawned
    exact (orderly.going id loops registered spawned).imp_right stays
  · rw [List.length_set]
    exact orderly.registered id registered
  · rcases Pool.mem_acted_cases joining with same | old | new
    · cases same
    · rw [List.length_set]
      exact orderly.released id old
    · cases new

/-- **Every ordered step keeps it.** -/
theorem step {label : PoolLabel LifecycleArrival Bool} {next : Pool Lifecycle LifecycleCall}
    (ordered : Ordered pool label) (stepped : lifecycle.machine.step? pool label = some next) :
    Orderly next := by
  rcases Threads.step_cases stepped with ⟨arrival, shared, started, rfl, arrived, rfl⟩ |
    ⟨tid, timedOut, call, shared, after, started, rfl, present, acted, rfl⟩
  · cases arrival with
    | start =>
        cases arrived
        exact orderly.call fun _ => nofun
    | stop =>
        cases arrived
        exact orderly.call fun _ => nofun
    | loop set name elapsed =>
        obtain ⟨loops, spawned, rest⟩ := Option.bind_eq_some_iff.mp arrived
        obtain ⟨phase, acted, same⟩ := Option.bind_eq_some_iff.mp rest
        cases same
        rw [List.append_nil]
        exact orderly.loop spawned acted
  · cases call with
    | start =>
        simp only [lifecycle, LifecycleCall.act?] at acted
        split at acted
        · next running =>
            cases acted
            exact orderly.quiet present ⟨nofun, nofun, nofun⟩ (fun _ _ => nofun) nofun
        · cases acted
          exact orderly.swap present
    | reloading =>
        simp only [lifecycle, LifecycleCall.act?] at acted
        split at acted
        · next set registered =>
            cases acted
            refine orderly.quiet present ⟨nofun, nofun, nofun⟩ (fun _ none => ?_) nofun
            rw [registered] at none
            cases none
        · next none =>
            cases acted
            exact orderly.spawn present none (ordered.2 present none)
    | stop =>
        cases acted
        exact orderly.clear present
    | notifying =>
        cases acted
        exact orderly.notify present
    | taking =>
        simp only [lifecycle, LifecycleCall.act?] at acted
        split at acted
        · next set registered =>
            cases acted
            exact orderly.take present registered (ordered.1 present)
        · next none =>
            cases acted
            exact orderly.takeNone present none
    | joining set =>
        simp only [lifecycle, LifecycleCall.act?] at acted
        split at acted
        · cases acted
          exact orderly.join present
        · cases acted
    | flushing =>
        cases acted
        exact orderly.quiet present ⟨nofun, nofun, nofun⟩ (fun _ _ => nofun) nofun
    | returned => cases acted

/-- What it says when no call is in progress. -/
theorem agrees (returned : ∀ call ∈ pool.tasks, call = .returned) :
    (pool.shared.running = true ↔ OneLive pool.shared) ∧
    (pool.shared.running = false → ∀ loops ∈ pool.shared.sets, Ended loops) := by
  have still : ¬ Stopping pool.tasks := by
    rintro (notifying | taking)
    · cases returned _ notifying
    · cases returned _ taking
  have stopped (flag : pool.shared.running = false) : ∀ loops ∈ pool.shared.sets, Ended loops := by
    intro loops member
    obtain ⟨id, spawned⟩ := List.mem_iff_getElem?.mp member
    by_contra live
    rcases orderly.owned id loops spawned live with registered | joining
    · have present : pool.shared.handles ≠ none := by
        rw [registered]
        exact nofun
      exact still (orderly.idle flag present)
    · cases returned _ joining
  refine ⟨⟨fun flag => ?_, fun one => ?_⟩, stopped⟩
  · cases registered : pool.shared.handles with
    | none => cases returned _ (orderly.missing flag registered)
    | some id =>
        have bound := orderly.registered id registered
        have spawned := List.getElem?_eq_getElem bound
        have going := (orderly.going id _ registered spawned).resolve_right still
        refine ⟨id, _, spawned, fun name => (going name).2, fun other loops different there => ?_⟩
        by_contra live
        rcases orderly.owned other loops there live with mine | joining
        · rw [registered] at mine
          exact different (Option.some.inj mine).symm
        · cases returned _ joining
  · obtain ⟨id, loops, spawned, live, _⟩ := one
    by_contra idle
    have ended := stopped (Bool.eq_false_iff.mpr idle) loops (List.mem_of_getElem? spawned)
    exact live .flush (ended .flush)

end Orderly

/-- **The flag agrees with the loops** whenever no call is in progress, in every run
whose steps are ordered. -/
theorem agreement (labels : List (PoolLabel LifecycleArrival Bool))
    (pool : Pool Lifecycle LifecycleCall)
    (run : lifecycle.machine.RunUnder Ordered ⟨initial, []⟩ labels pool)
    (returned : ∀ call ∈ pool.tasks, call = .returned) :
    (pool.shared.running = true ↔ OneLive pool.shared) ∧
    (pool.shared.running = false → ∀ loops ∈ pool.shared.sets, Ended loops) := by
  have orderly := run.invariant Orderly .initial
    fun _ _ _ orderly ordered stepped => orderly.step ordered stepped
  exact orderly.agrees returned

/-- Each loop of a set takes a step. -/
def loopSteps (set : ℕ) : List (PoolLabel LifecycleArrival Bool) :=
  [.arrive (.loop set .flush false), .arrive (.loop set .status false),
    .arrive (.loop set .rules false)]

/-- A `start` swaps the flag within a `stop`, and spawns loops after the old ones are
taken: the new set is live in the end. -/
theorem agreement_of_restart :
    ∃ labels pool, lifecycle.machine.RunUnder Ordered ⟨initial, []⟩ labels pool ∧
      pool.shared.running = true ∧ pool.shared.sets.length = 2 ∧ OneLive pool.shared := by
  let labels : List (PoolLabel LifecycleArrival Bool) := [.arrive .start, .run 0 false,
    .run 0 false] ++ loopSteps 0 ++ [.arrive .stop, .run 1 false, .arrive .start, .run 2 false,
    .run 1 false, .run 1 false, .run 2 false] ++ loopSteps 0 ++ [.run 1 false, .run 1 false]
  obtain ⟨pool, run, checked⟩ := @Machine.exists_runUnder _ _ lifecycle.machine Ordered _
    ⟨initial, []⟩ labels
    (fun pool => (pool.shared.running = true ∧ pool.shared.sets.length = 2) ∧
      ∀ call ∈ pool.tasks, call = .returned) (by decide +kernel)
  obtain ⟨⟨running, two⟩, returned⟩ := of_decide_eq_true checked
  exact ⟨labels, pool, run, running, two, (agreement labels pool run returned).1.mp running⟩

/-- A `start` between two steps of a `stop` leaves a running agent without loops, and a
`stop` between two steps of a `start` leaves a stopped agent with a live set. -/
theorem disagreement_in_window :
    (∃ labels pool, lifecycle.machine.Run ⟨initial, []⟩ labels pool ∧
      (∀ call ∈ pool.tasks, call = .returned) ∧ pool.shared.running = true ∧
      ¬ OneLive pool.shared) ∧
    ∃ labels pool, lifecycle.machine.Run ⟨initial, []⟩ labels pool ∧
      (∀ call ∈ pool.tasks, call = .returned) ∧ pool.shared.running = false ∧
      ∃ loops ∈ pool.shared.sets, Live loops := by
  constructor
  · let labels : List (PoolLabel LifecycleArrival Bool) := [.arrive .start, .run 0 false,
      .run 0 false] ++ loopSteps 0 ++ [.arrive .stop, .run 1 false, .arrive .start, .run 2 false,
      .run 2 false, .run 1 false, .run 1 false] ++ loopSteps 0 ++ [.run 1 false, .run 1 false]
    obtain ⟨pool, run, checked⟩ := @Machine.exists_run _ _ lifecycle.machine ⟨initial, []⟩ labels
      (fun pool => (∀ call ∈ pool.tasks, call = .returned) ∧ pool.shared.running = true ∧
        ∀ loops ∈ pool.shared.sets, Ended loops) (by decide +kernel)
    obtain ⟨returned, running, ended⟩ := of_decide_eq_true checked
    refine ⟨labels, pool, run, returned, running, fun one => ?_⟩
    obtain ⟨id, loops, spawned, live, _⟩ := one
    exact live .flush (ended loops (List.mem_of_getElem? spawned) .flush)
  · let labels : List (PoolLabel LifecycleArrival Bool) := [.arrive .start, .run 0 false,
      .arrive .stop, .run 1 false, .run 1 false, .run 1 false, .run 1 false, .run 0 false]
    obtain ⟨pool, run, checked⟩ := @Machine.exists_run _ _ lifecycle.machine ⟨initial, []⟩ labels
      (fun pool => (∀ call ∈ pool.tasks, call = .returned) ∧ pool.shared.running = false ∧
        ∃ loops ∈ pool.shared.sets, Live loops) (by decide +kernel)
    exact ⟨labels, pool, run, of_decide_eq_true checked⟩

end Lifecycle

end GuardAgent
