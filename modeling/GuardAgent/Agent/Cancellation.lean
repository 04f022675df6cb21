import GuardAgent.Agent.Calls

/-!
# Dropped flushes

A caller of `flush_buffer` may drop the future at any of its awaits, and so may a caller of
`stop`, whose last await is a flush. The drained batch is a local of that future. So a drop
keeps the items exactly when the flush holds none that the server has not answered
(`Agent.drops_keep`).
-/

namespace GuardAgent

open Foundation

/-- The agent and the tasks that run a call of `flush_buffer`. -/
structure Cancellable where
  pool : Pool Shared Task
  callers : List ℕ

/-- A step of the agent, or a caller drops a call of `flush_buffer`; the reply is that of the
store to a deletion which is cut off. -/
inductive CallerLabel where
  | step (label : PoolLabel Arrival Choice)
  | drop (tid : ℕ) (stored : StoreReply)

/-- The operation suspends the task. -/
def TransportOp.awaits {Item : Type} : TransportOp Item → Bool
  | .sleep _ => true
  | .post _ => true
  | .get _ => true
  | _ => false

variable {kind : Kind}

/-- The flush can be suspended here. -/
def FlushPhase.awaits : FlushPhase kind → Bool
  | .gated _ => false
  | .sending _ _ (.perform op _) => op.awaits
  | .sending _ _ (.done _) => false
  | .confirming keys _ => !(liveKeys keys).isEmpty
  -- In `retention_description`, after a failure.
  | .finished => true
  | _ => true

/-- What dropping a flush changes of its column: a deletion may have taken effect. -/
def FlushPhase.cutOff (stored : StoreReply) (column : Column kind) :
    FlushPhase kind → Column kind
  | .deleting live _ => { column with records := column.records.deleteKeys stored live }
  | _ => column

/-- Dropping a call of `flush_buffer` gives its permit back. -/
def Task.drop? (stored : StoreReply) (shared : Shared) : Task → Option Shared
  | .flushBuffer => some shared
  | .flush kind phase =>
      if phase.awaits then
        some (shared.update kind { shared.toCommon with flushPermits := shared.flushPermits + 1 }
          (phase.cutOff stored (shared.columns kind)))
      else none
  | _ => none

/-- The machine of the agent and its callers. -/
def Agent.cancellable (agent : Agent) : Machine Cancellable CallerLabel where
  step? state := fun
    | .step label => (agent.machine.step? state.pool label).map fun next =>
        ⟨next, match label with
          | .arrive .flushBuffer => state.callers ++ [state.pool.tasks.length]
          | _ => state.callers⟩
    | .drop tid stored =>
        if tid ∈ state.callers then
          (state.pool.tasks[tid]?).bind fun task =>
            (task.drop? stored state.pool.shared).map fun shared =>
              ⟨⟨shared, state.pool.tasks.set tid .finished⟩, state.callers⟩
        else none

/-- The items that a flush has drained and neither confirmed nor requeued. -/
def FlushPhase.held : FlushPhase kind → List (Entry kind)
  | .stamping batch => batch.entries
  | .sending batch _ _ => batch.entries
  | .requeueing batch => batch.entries
  | _ => []

/-- The server has acknowledged or permanently rejected the item. -/
def Column.answered (crates : Crates) (column : Column kind) (item : Occurrence kind) : Bool :=
  column.wire.any fun exchange => decide (item ∈ Exchange.disposed crates exchange)

/-- The flush that is dropped holds no item that the server has not answered. -/
def Agent.spares (agent : Agent) (state : Cancellable) : CallerLabel → Bool
  | .step _ => true
  | .drop tid _ =>
      match state.pool.tasks[tid]? with
      | some (.flush kind phase) => phase.held.all fun entry =>
          (state.pool.shared.columns kind).answered agent.crates entry.item
      | _ => true

/-- The item is buffered, in the batch of a flush that goes on, confirmed, evicted or wiped,
unless the server has answered it. -/
def Retains (agent : Agent) (kind : Kind) (pool : Pool Shared Task) (entry : Entry kind) : Prop :=
  (∃ place, entry ∈ (ledger kind pool).custody place) ∨
    (pool.shared.columns kind).answered agent.crates entry.item = true

/-- So is every item that the call held when it was dropped. -/
def RetainsHeld (agent : Agent) (state : Cancellable) (tid : ℕ) (next : Cancellable) : Prop :=
  ∀ (kind : Kind) (phase : FlushPhase kind), state.pool.tasks[tid]? = some (.flush kind phase) →
    ∀ entry ∈ phase.held, Retains agent kind next.pool entry

variable {agent : Agent}

/-- An item is answered exactly if one of the exchanges disposes of it. -/
theorem Column.answered_iff {column : Column kind} {item : Occurrence kind} :
    column.answered agent.crates item = true ↔
      ∃ exchange ∈ column.wire, item ∈ Exchange.disposed agent.crates exchange := by
  simp only [answered, List.any_eq_true, decide_eq_true_eq]

/-- Exchanges are not forgotten. -/
theorem Agent.step_wire {pool next : Pool Shared Task} {label : PoolLabel Arrival Choice}
    (stepped : agent.machine.step? pool label = some next) (kind : Kind) :
    (pool.shared.columns kind).wire ⊆ (next.shared.columns kind).wire := by
  have calls : CallStep agent kind pool label next := agent.step_calls stepped
  cases calls with
  | quiet history _ _ =>
      rw [history.wire]
      exact List.Subset.refl _
  | operation tid batch trace op rest answer _ _ _ same =>
      rw [same]
      exact List.subset_append_left _ _
  | outcome tid choice batch trace outcome _ _ _ wire _ =>
      rw [wire]
      exact List.Subset.refl _

/-- An item that is answered stays answered as exchanges are added. -/
theorem Column.answered_mono {before after : Column kind} (wire : before.wire ⊆ after.wire)
    {item : Occurrence kind} (answered : before.answered agent.crates item = true) :
    after.answered agent.crates item = true := by
  obtain ⟨exchange, made, finished⟩ := answered_iff.mp answered
  exact answered_iff.mpr ⟨exchange, wire made, finished⟩

/-- Dropping a task changes nothing of a column but the records. -/
theorem Task.drop?_columns {task : Task} {stored : StoreReply} {shared shared' : Shared}
    (dropped : task.drop? stored shared = some shared') (kind : Kind) :
    ∃ records, shared'.columns kind = { shared.columns kind with records := records } := by
  cases task with
  | flushBuffer =>
      cases dropped
      exact ⟨_, rfl⟩
  | flush other phase =>
      obtain ⟨_, same⟩ := Option.ite_none_right_eq_some.mp dropped
      cases same
      by_cases here : other = kind
      · subst here
        rw [Shared.update_self]
        cases phase <;> exact ⟨_, rfl⟩
      · exact ⟨_, Shared.update_of_ne (Ne.symm here) ..⟩
  | _ => cases dropped

/-- What the dropped task held is in no place any more; the other items stay where they are. -/
theorem Task.drop?_custody {pool : Pool Shared Task} {tid : ℕ} {task : Task}
    {stored : StoreReply} {shared : Shared} (present : pool.tasks[tid]? = some task)
    (dropped : task.drop? stored pool.shared = some shared) (kind : Kind) :
    (ledger kind ⟨shared, pool.tasks.set tid .finished⟩).custody +
        Pi.single .inFlight (task.stake kind).inFlight = (ledger kind pool).custody := by
  obtain ⟨records, same⟩ := Task.drop?_columns dropped kind
  obtain ⟨rest, owned, replaced⟩ := Pool.exists_owned_rest present (Task.stake kind)
  have left : (⟨shared, pool.tasks.set tid .finished⟩ : Pool Shared Task).owned
      (Task.stake kind) = rest := by
    have acted := replaced shared .finished []
    rw [List.append_nil] at acted
    rw [acted, List.map_nil, List.sum_nil, add_zero]
    exact zero_add rest
  funext place
  simp only [ledger, left, owned, same]
  cases place with
  | inFlight =>
      simp only [Pi.add_apply, Pi.single_eq_same]
      exact add_comm _ _
  | _ => simp [Ledger.custody, Column.ledger]

/-- Dropping a task takes just its items in flight out of all places. -/
theorem Task.drop?_total {pool : Pool Shared Task} {tid : ℕ} {task : Task}
    {stored : StoreReply} {shared : Shared} (present : pool.tasks[tid]? = some task)
    (dropped : task.drop? stored pool.shared = some shared) (kind : Kind) :
    ∑ place, (ledger kind ⟨shared, pool.tasks.set tid .finished⟩).custody place +
        (task.stake kind).inFlight = ∑ place, (ledger kind pool).custody place := by
  rw [← Task.drop?_custody present dropped kind]
  simp only [Pi.add_apply, Finset.sum_add_distrib, Finset.sum_pi_single', Finset.mem_univ,
    ↓reduceIte]

/-- The items of one kind are where they can be, or gone. -/
structure Accounted (kind : Kind) (pool : Pool Shared Task) (gone : Multiset (Entry kind)) :
    Prop where
  numbered : (ledger kind pool).Numbered
  total : ∑ place, (ledger kind pool).custody place + gone =
    ((pool.shared.columns kind).entered : Multiset (Entry kind))

namespace Accounted

variable {pool next : Pool Shared Task} {gone : Multiset (Entry kind)}

/-- Nothing of a new agent is gone. -/
theorem initial (records : Kind → Records) : Accounted kind ⟨agent.initial records, []⟩ 0 := by
  have booked : (ledger kind ⟨agent.initial records, []⟩).Booked :=
    Ledger.initial_booked agent records
  exact ⟨booked.serials, (add_zero _).trans booked.total⟩

/-- What has not gone is in a place. -/
theorem exists_place (accounted : Accounted kind pool gone) {entry : Entry kind}
    (entered : entry ∈ (pool.shared.columns kind).entered) :
    (∃ place, entry ∈ (ledger kind pool).custody place) ∨ entry ∈ gone := by
  rw [← Multiset.mem_coe, ← accounted.total, Multiset.mem_add] at entered
  rcases entered with there | gone
  · obtain ⟨place, _, present⟩ := Multiset.mem_sum.mp there
    exact Or.inl ⟨place, present⟩
  · exact Or.inr gone

/-- In a step of the agent nothing goes. -/
theorem step (accounted : Accounted kind pool gone) {label : PoolLabel Arrival Choice}
    (stepped : agent.machine.step? pool label = some next) : Accounted kind next gone := by
  have move := agent.step_ledger stepped (agent.permits_open pool label)
    (fun task _ => task.sends_any) kind
  obtain ⟨admitted, moves, entered⟩ := move.carried
  refine ⟨move.numbered accounted.numbered, ?_⟩
  change _ = ((ledger kind next).entered : Multiset (Entry kind))
  rw [moves.total, entered, add_right_comm, accounted.total]
  rfl

variable {tid : ℕ} {task : Task} {stored : StoreReply} {shared : Shared}

/-- In a drop, what the task held goes. -/
theorem drop (accounted : Accounted kind pool gone) (present : pool.tasks[tid]? = some task)
    (dropped : task.drop? stored pool.shared = some shared) :
    Accounted kind ⟨shared, pool.tasks.set tid .finished⟩ ((task.stake kind).inFlight + gone) := by
  obtain ⟨records, same⟩ := Task.drop?_columns dropped kind
  have entered : (shared.columns kind).entered = (pool.shared.columns kind).entered := by
    rw [same]
  constructor
  · change ((shared.columns kind).entered.map fun entry => entry.item.serial) =
      List.range (shared.columns kind).entered.length
    rw [entered]
    exact accounted.numbered
  · rw [← add_assoc, Task.drop?_total present dropped, accounted.total, entered]

/-- What has gone is in no place: no item is held twice. -/
theorem not_placed (accounted : Accounted kind pool gone) {entry : Entry kind}
    (member : entry ∈ gone) (place : Place) : entry ∉ (ledger kind pool).custody place := by
  intro there
  have distinct : (pool.shared.columns kind).entered.Nodup :=
    List.Nodup.of_map _ accounted.numbered.nodup_items
  rw [← Multiset.coe_nodup, ← accounted.total] at distinct
  have present := Multiset.mem_sum.mpr ⟨place, Finset.mem_univ place, there⟩
  exact Multiset.disjoint_left.mp (Multiset.nodup_add.mp distinct).2.2 present member

end Accounted

/-- The stake of a flush in flight is what it holds. -/
theorem FlushPhase.held_eq (phase : FlushPhase kind) :
    phase.stake.inFlight = (phase.held : Multiset (Entry kind)) := by
  cases phase <;> rfl

/-- What a task that can be dropped holds of one kind. -/
theorem Task.drop?_held {task : Task} {stored : StoreReply} {shared shared' : Shared}
    (dropped : task.drop? stored shared = some shared') {entry : Entry kind} :
    entry ∈ (task.stake kind).inFlight ↔
      ∃ phase : FlushPhase kind, task = .flush kind phase ∧ entry ∈ phase.held := by
  cases task with
  | flushBuffer =>
      constructor
      · exact fun held => (Multiset.notMem_zero entry held).elim
      · rintro ⟨phase, same, _⟩
        cases same
  | flush other phase =>
      by_cases here : other = kind
      · subst here
        rw [Task.stake_flush, phase.held_eq, Multiset.mem_coe]
        constructor
        · exact fun held => ⟨phase, rfl, held⟩
        · rintro ⟨_, same, held⟩
          cases same
          exact held
      · rw [Task.stake_flush_of_ne here]
        constructor
        · exact fun held => (Multiset.notMem_zero entry held).elim
        · rintro ⟨_, same, _⟩
          cases same
          exact (here rfl).elim
  | _ => cases dropped

namespace Agent

/-- A drop spares the items exactly if the dropped flush holds answered ones only. -/
theorem spares_iff {state : Cancellable} {tid : ℕ} {stored : StoreReply} :
    agent.spares state (.drop tid stored) = true ↔
      ∀ (kind : Kind) (phase : FlushPhase kind),
        state.pool.tasks[tid]? = some (.flush kind phase) → ∀ entry ∈ phase.held,
          (state.pool.shared.columns kind).answered agent.crates entry.item = true := by
  simp only [spares]
  split
  · next kind phase present =>
      rw [List.all_eq_true]
      constructor
      · intro spared other phase' same
        rw [present] at same
        cases same
        exact spared
      · exact fun spared => spared kind phase present
  · next other =>
      exact iff_of_true rfl fun kind phase present => (other kind phase present).elim

/-- Dropping a caller runs the task's drop and finishes the task. -/
theorem cancellable_drop {state next : Cancellable} {tid : ℕ} {stored : StoreReply}
    (stepped : agent.cancellable.step? state (.drop tid stored) = some next) :
    ∃ task shared, state.pool.tasks[tid]? = some task ∧
      task.drop? stored state.pool.shared = some shared ∧
      next = ⟨⟨shared, state.pool.tasks.set tid .finished⟩, state.callers⟩ := by
  obtain ⟨_, found⟩ := Option.ite_none_right_eq_some.mp stepped
  obtain ⟨task, present, moved⟩ := Option.bind_eq_some_iff.mp found
  obtain ⟨shared, dropped, same⟩ := Option.map_eq_some_iff.mp moved
  exact ⟨task, shared, present, dropped, same.symm⟩

/-- In a step nothing goes but what a dropped flush held, and exchanges stay known. -/
theorem accounted_step {state next : Cancellable} {label : CallerLabel}
    {gone : Multiset (Entry kind)} (accounted : Accounted kind state.pool gone)
    (stepped : agent.cancellable.step? state label = some next) :
    (state.pool.shared.columns kind).wire ⊆ (next.pool.shared.columns kind).wire ∧
      ∃ more, Accounted kind next.pool (more + gone) ∧
        (agent.spares state label = true → ∀ entry ∈ more,
          (state.pool.shared.columns kind).answered agent.crates entry.item = true) := by
  cases label with
  | step label =>
      obtain ⟨pool, moved, rfl⟩ := Option.map_eq_some_iff.mp stepped
      refine ⟨agent.step_wire moved kind, 0, ?_, fun _ entry none => ?_⟩
      · rw [zero_add]
        exact accounted.step moved
      · exact (Multiset.notMem_zero entry none).elim
  | drop tid stored =>
      obtain ⟨task, shared, present, dropped, rfl⟩ := cancellable_drop stepped
      obtain ⟨records, same⟩ := Task.drop?_columns dropped kind
      constructor
      · simp only [same]
        exact List.Subset.refl _
      · refine ⟨_, accounted.drop present dropped, fun spared entry member => ?_⟩
        obtain ⟨phase, rfl, inside⟩ := (Task.drop?_held dropped).mp member
        exact spares_iff.mp spared kind phase present entry inside

variable {records : Kind → Records} {labels : List CallerLabel} {state : Cancellable}

/-- At any time each item of a kind is where it can be, or gone. -/
theorem accounted (agent : Agent)
    (run : agent.cancellable.Run ⟨⟨agent.initial records, []⟩, []⟩ labels state) (kind : Kind) :
    ∃ gone, Accounted kind state.pool gone := by
  refine run.invariant (fun state => ∃ gone, Accounted kind state.pool gone)
    ⟨0, .initial records⟩ ?_
  intro state label next held _ stepped
  obtain ⟨gone, held⟩ := held
  obtain ⟨_, more, accounted, _⟩ := accounted_step held stepped
  exact ⟨_, accounted⟩

/-- When all drops spare what they should, only what was answered has gone. -/
theorem accounted_of_spares (agent : Agent)
    (run : agent.cancellable.RunUnder (fun state label => agent.spares state label = true)
      ⟨⟨agent.initial records, []⟩, []⟩ labels state) (kind : Kind) :
    ∃ gone, Accounted kind state.pool gone ∧ ∀ entry ∈ gone,
      (state.pool.shared.columns kind).answered agent.crates entry.item = true := by
  refine run.invariant (fun state => ∃ gone, Accounted kind state.pool gone ∧ ∀ entry ∈ gone,
      (state.pool.shared.columns kind).answered agent.crates entry.item = true)
    ⟨0, .initial records, fun entry none => (Multiset.notMem_zero entry none).elim⟩ ?_
  intro state label next held spared stepped
  obtain ⟨gone, held, answered⟩ := held
  obtain ⟨wire, more, accounted, spares⟩ := accounted_step held stepped
  refine ⟨_, accounted, fun entry member => ?_⟩
  apply Column.answered_mono wire
  rcases Multiset.mem_add.mp member with dropping | before
  · exact spares spared entry dropping
  · exact answered entry before

/-- **Dropping a flush.** A drop keeps what the flush held if and only if the server has answered
all of it, and a run whose drops all do loses no item. -/
theorem drops_keep (agent : Agent) (records : Kind → Records) (labels : List CallerLabel)
    (state : Cancellable)
    (run : agent.cancellable.Run ⟨⟨agent.initial records, []⟩, []⟩ labels state) :
    (∀ tid stored next, agent.cancellable.step? state (.drop tid stored) = some next →
      (RetainsHeld agent state tid next ↔ agent.spares state (.drop tid stored) = true)) ∧
    (agent.cancellable.RunUnder (fun state label => agent.spares state label = true)
        ⟨⟨agent.initial records, []⟩, []⟩ labels state →
      ∀ kind, ∀ entry ∈ (state.pool.shared.columns kind).entered,
        Retains agent kind state.pool entry) := by
  constructor
  · intro tid stored next stepped
    obtain ⟨task, shared, present, dropped, rfl⟩ := cancellable_drop stepped
    rw [spares_iff]
    constructor
    · intro retained kind phase there entry inside
      obtain ⟨records, same⟩ := Task.drop?_columns dropped kind
      rcases retained kind phase there entry inside with ⟨place, placed⟩ | answered
      -- The item has gone, so it is in no place.
      · obtain ⟨gone, accounted⟩ := agent.accounted run kind
        rw [present] at there
        have gone := (Task.drop?_held dropped).mpr ⟨phase, Option.some.inj there, inside⟩
        exact ((accounted.drop present dropped).not_placed
          (Multiset.mem_add.mpr (Or.inl gone)) place placed).elim
      · simp only [same] at answered
        exact answered
    · intro spared kind phase there entry inside
      obtain ⟨records, same⟩ := Task.drop?_columns dropped kind
      right
      simp only [same]
      exact spared kind phase there entry inside
  · intro spared kind entry entered
    obtain ⟨gone, accounted, answered⟩ := agent.accounted_of_spares spared kind
    rcases accounted.exists_place entered with placed | member
    · exact Or.inl placed
    · exact Or.inr (answered entry member)

/-- The call is dropped before it drains; a second one sends the item and is dropped before it
counts it. -/
theorem drops_keep_before_draining :
    let agent := Agent.sample { AgentConfig.new "test-api-key-1234" with retryAttempts := 0 } []
    ∃ labels state,
      agent.cancellable.RunUnder (fun state label => agent.spares state label = true)
        ⟨⟨agent.initial fun _ => ∅, []⟩, []⟩ labels state ∧
      (state.pool.shared.columns .metrics).accepted.length = 1 ∧
      (state.pool.shared.columns .metrics).sent = 0 ∧
      ∀ entry ∈ (state.pool.shared.columns .metrics).entered,
        Retains agent .metrics state.pool entry := by
  intro agent
  let act (tid : ℕ) : CallerLabel :=
    .step (.run tid (.sample 1700000000000000000 .ok fun _ => .response 201 none (.ok "")))
  let labels := [.step (.arrive (.trySend .metrics (sampleMetric 1 []))), act 0,
    .step (.arrive .flushBuffer)] ++ List.replicate 7 (act 1) ++
    [.drop 1 .ok, .step (.arrive .flushBuffer)] ++ List.replicate 20 (act 2) ++ [.drop 2 .ok]
  obtain ⟨state, run, checked⟩ := @Machine.exists_runUnder _ _ agent.cancellable
    (fun state label => agent.spares state label = true) _
    ⟨⟨agent.initial fun _ => ∅, []⟩, []⟩ labels
    (fun state => (state.pool.shared.columns .metrics).accepted.length = 1 ∧
      (state.pool.shared.columns .metrics).sent = 0) (by decide +kernel)
  obtain ⟨accepted, sent⟩ := of_decide_eq_true checked
  exact ⟨labels, state, run, accepted, sent,
    (drops_keep agent _ labels state run.run).2 run .metrics⟩

/-- The call is dropped while its request is on the way: the item is in no place, and no server
has answered it. -/
theorem lost_by_drop :
    let agent := Agent.sample { AgentConfig.new "test-api-key-1234" with retryAttempts := 0 } []
    ∃ labels state,
      agent.cancellable.Run ⟨⟨agent.initial fun _ => ∅, []⟩, []⟩ labels state ∧
      ∃ entry ∈ (state.pool.shared.columns .metrics).entered,
        ¬ Retains agent .metrics state.pool entry := by
  intro agent
  let act (tid : ℕ) : CallerLabel :=
    .step (.run tid (.sample 1700000000000000000 .ok fun _ => .response 201 none (.ok "")))
  let labels := [.step (.arrive (.trySend .metrics (sampleMetric 1 []))), act 0,
    .step (.arrive .flushBuffer)] ++ List.replicate 14 (act 1) ++ [.drop 1 .ok]
  obtain ⟨state, run, checked⟩ := @Machine.exists_run _ _ agent.cancellable
    ⟨⟨agent.initial fun _ => ∅, []⟩, []⟩ labels
    (fun state => (state.pool.shared.columns .metrics).entered.length = 1 ∧
      (∑ place, (ledger .metrics state.pool).custody place).card = 0 ∧
      (state.pool.shared.columns .metrics).wire.length = 0) (by decide +kernel)
  obtain ⟨entered, nowhere, unsent⟩ := of_decide_eq_true checked
  obtain ⟨entry, alone⟩ := List.length_eq_one_iff.mp entered
  have member : entry ∈ (state.pool.shared.columns .metrics).entered := by
    rw [alone]
    exact List.mem_singleton_self entry
  refine ⟨labels, state, run, entry, member, fun retained => ?_⟩
  rcases retained with ⟨place, there⟩ | answered
  · have some := Multiset.mem_sum.mpr ⟨place, Finset.mem_univ place, there⟩
    rw [Multiset.card_eq_zero.mp nowhere] at some
    exact Multiset.notMem_zero entry some
  · obtain ⟨exchange, made, _⟩ := Column.answered_iff.mp answered
    rw [List.eq_nil_of_length_eq_zero unsent] at made
    exact List.not_mem_nil made

end Agent

end GuardAgent
