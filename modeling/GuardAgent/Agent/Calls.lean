import GuardAgent.Agent.Conservation

/-!
# Calls of `send_batch`

What a step of the agent does to the calls of `send_batch` of one kind and to the
exchanges they made (`Agent.step_calls`): a call goes on with its next operation, a call
returns, or all calls and exchanges stay as they are. So every exchange was made by a
call, for items that entered the buffer (`Agent.traced`).
-/

namespace GuardAgent

open Foundation

/-- The history of one kind that this module is about is the same. -/
structure Column.SameHistory {kind : Kind} (before after : Column kind) : Prop where
  wire : after.wire = before.wire
  accepted : after.accepted = before.accepted
  rejected : after.rejected = before.rejected

/-- The task is in a call of `send_batch` for this kind. -/
def Task.IsSending (kind : Kind) (task : Task) : Prop :=
  ∃ batch trace rest, task = .flush kind (.sending batch trace rest)

/-- What an action of a task does to the exchanges and the confirmed items of one kind. -/
inductive Task.Wires (agent : Agent) (kind : Kind) (task : Task) (before : Column kind)
    (after : Task) (column : Column kind) : Prop where
  | quiet : before.SameHistory column → ¬ task.IsSending kind →
      (∀ batch trace rest, after = .flush kind (.sending batch trace rest) →
        trace = [] ∧ rest = agent.sendBatch kind batch.items) →
      Wires agent kind task before after column
  | operation (batch : Batch (Occurrence kind)) (trace : List (TransportEvent (Occurrence kind)))
      (op : TransportOp (Occurrence kind))
      (next : op.Answer → TransportProgram (Occurrence kind) SendOutcome) (answer : op.Answer) :
      task = .flush kind (.sending batch trace (.perform op next)) →
      after = .flush kind (.sending batch (trace ++ [⟨op, answer⟩]) (next answer)) →
      column = { before with wire := before.wire ++ (exchange? ⟨op, answer⟩).toList } →
      Wires agent kind task before after column
  | outcome (batch : Batch (Occurrence kind)) (trace : List (TransportEvent (Occurrence kind)))
      (outcome : SendOutcome) : task = .flush kind (.sending batch trace (.done outcome)) →
      ¬ after.IsSending kind → column.wire = before.wire →
      (∀ entry, entry ∈ column.accepted ++ column.rejected ↔
        entry ∈ before.accepted ++ before.rejected ∨
          outcome.isConfirmed = true ∧ entry ∈ batch.entries) →
      Wires agent kind task before after column

variable {agent : Agent} {kind : Kind}

variable {choice : Choice} {common common' : Common} {column column' : Column kind}

/-- A send leaves the history of `send_batch` as it is. -/
theorem SendPhase.Acts.sameHistory {phase after : SendPhase kind} {started : List Task}
    (acts : phase.Acts agent choice common column common' column' after started) :
    column.SameHistory column' := by
  cases acts <;> exact ⟨rfl, rfl, rfl⟩

/-- A reload leaves the history of `send_batch` as it is. -/
theorem LoadPhase.Acts.sameHistory {phase after : LoadPhase kind}
    (acts : phase.Acts agent choice common column column' after) : column.SameHistory column' := by
  cases acts <;> exact ⟨rfl, rfl, rfl⟩

/-- The flush is in a call of `send_batch`. -/
def FlushPhase.isSending : FlushPhase kind → Bool
  | .sending _ _ _ => true
  | _ => false

/-- A flush outside a call of `send_batch` is not sending. -/
theorem FlushPhase.not_sending {phase : FlushPhase kind} (idle : phase.isSending = false) :
    ¬ (Task.flush kind phase).IsSending kind := by
  intro sending
  obtain ⟨batch, trace, rest, same⟩ := sending
  cases same
  cases idle

/-- A task that has not begun is not sending. -/
theorem Task.Fresh.not_sending {task : Task} (fresh : task.Fresh kind) :
    ¬ task.IsSending kind := by
  intro sending
  obtain ⟨batch, trace, rest, rfl⟩ := sending
  cases fresh rfl

/-- A task whose next action is about the other kind is not sending for this one. -/
theorem Task.Idle.not_sending {task : Task} (idle : task.Idle kind) : ¬ task.IsSending kind := by
  intro sending
  obtain ⟨batch, trace, rest, rfl⟩ := sending
  cases idle rfl

/-- An action that leaves the history and leads to no call. -/
theorem Task.Wires.of_unsent {task after : Task} {column column' : Column kind}
    (history : column.SameHistory column') (idle : ¬ task.IsSending kind)
    (unsent : ¬ after.IsSending kind) : task.Wires agent kind column after column' := by
  refine .quiet history idle ?_
  intro batch trace rest same
  exact (unsent ⟨batch, trace, rest, same⟩).elim

/-- The actions of a flush change the exchanges and the confirmed items only as described. -/
theorem FlushPhase.Acts.wires {phase after : FlushPhase kind}
    (acts : phase.Acts agent choice common column common' column' after) :
    (Task.flush kind phase).Wires agent kind column (.flush kind after) column' := by
  have quiet (history : column.SameHistory column') (idle : phase.isSending = false)
      (unsent : after.isSending = false) :
      (Task.flush kind phase).Wires agent kind column (.flush kind after) column' :=
    .of_unsent history (not_sending idle) (not_sending unsent)
  have confirmed (sent : Option ℕ) :
      (FlushPhase.afterConfirm sent : FlushPhase kind).isSending = false := by
    cases sent <;> rfl
  cases acts with
  | stamped batch _ =>
      refine .quiet ⟨rfl, rfl, rfl⟩ (not_sending rfl) ?_
      intro batch trace rest same
      cases same
      exact ⟨rfl, rfl⟩
  | performed batch trace op next =>
      exact .operation batch trace op next (choice.respond kind op) rfl rfl rfl
  | accepted batch trace =>
      refine .outcome batch trace .accepted rfl (not_sending rfl) rfl fun entry => ?_
      simp only [List.mem_append, SendOutcome.isConfirmed, true_and]
      tauto
  | rejected batch trace statusCode detail =>
      refine .outcome batch trace (.permanentDrop statusCode detail) rfl (not_sending rfl) rfl
        fun entry => ?_
      simp only [List.mem_append, SendOutcome.isConfirmed, true_and]
      tauto
  | failed batch trace error =>
      refine .outcome batch trace (.failed error) rfl (not_sending rfl) rfl fun entry => ?_
      simp only [List.mem_append, SendOutcome.isConfirmed, Bool.false_eq_true, false_and, or_false]
  | confirmedNone keys sent _ => exact quiet ⟨rfl, rfl, rfl⟩ rfl (confirmed sent)
  | deleted live sent => exact quiet ⟨rfl, rfl, rfl⟩ rfl (confirmed sent)
  | _ => exact quiet ⟨rfl, rfl, rfl⟩ rfl rfl

/-- **What an action does to the exchanges.** -/
theorem Task.Acts.wires {task after : Task} {shared shared' : Shared} {started : List Task}
    (acts : task.Acts agent choice shared shared' after started) :
    task.Wires agent kind (shared.columns kind) after (shared'.columns kind) := by
  have send (phase : SendPhase kind) : ¬ (Task.send kind phase).IsSending kind := by
    rintro ⟨batch, trace, rest, same⟩
    cases same
  have load (phase : LoadPhase kind) : ¬ (Task.load kind phase).IsSending kind := by
    rintro ⟨batch, trace, rest, same⟩
    cases same
  have clear (task : Task) (other : task = .clearBuffer ∨ task = .clearNamespace kind) :
      ¬ task.IsSending kind := by
    rintro ⟨batch, trace, rest, rfl⟩
    rcases other with same | same <;> cases same
  cases acts.on kind with
  | send phase after started sending =>
      exact .of_unsent sending.sameHistory (send phase) (send after)
  | flush phase after flushing => exact flushing.wires
  | load phase after loading =>
      exact .of_unsent loading.sameHistory (load phase) (load after)
  | wipe after same fresh =>
      rw [same]
      exact .of_unsent ⟨rfl, rfl, rfl⟩ (clear _ (Or.inl rfl)) fresh.not_sending
  | clear after records same fresh =>
      rw [same]
      exact .of_unsent ⟨rfl, rfl, rfl⟩ (clear _ (Or.inr rfl)) fresh.not_sending
  | other task after idle same fresh =>
      rw [same]
      exact .of_unsent ⟨rfl, rfl, rfl⟩ idle.not_sending fresh.not_sending

/-- What was accepted or rejected is in the place of confirmed items. -/
theorem Ledger.mem_confirmed {pool : Pool Shared Task} {entry : Entry kind}
    (confirmed : entry ∈ (pool.shared.columns kind).accepted ++
      (pool.shared.columns kind).rejected) : entry ∈ (ledger kind pool).custody .confirmed := by
  change entry ∈ ((_ : List (Entry kind)) : Multiset (Entry kind)) + _
  rw [Multiset.coe_add]
  exact Multiset.mem_coe.mpr confirmed

namespace Ledger.Booked

variable {pool : Pool Shared Task} (booked : (ledger kind pool).Booked)
  {tid : ℕ} {batch : Batch (Occurrence kind)} {trace : List (TransportEvent (Occurrence kind))}
  {rest : TransportProgram (Occurrence kind) SendOutcome}
  (sending : pool.tasks[tid]? = some (.flush kind (.sending batch trace rest)))

include booked

/-- An entry that is at some place has entered. -/
theorem mem_entered {entry : Entry kind} {place : Place}
    (there : entry ∈ (ledger kind pool).custody place) : entry ∈ (ledger kind pool).entered := by
  have inside : entry ∈ ∑ place, (ledger kind pool).custody place :=
    Multiset.mem_sum.mpr ⟨place, Finset.mem_univ place, there⟩
  rw [booked.total] at inside
  exact Multiset.mem_coe.mp inside

/-- No two entries are of one item. -/
theorem eq_of_item {entry other : Entry kind} (entered : entry ∈ (ledger kind pool).entered)
    (entered' : other ∈ (ledger kind pool).entered) (same : entry.item = other.item) :
    entry = other :=
  List.inj_on_of_nodup_map booked.nodup_items entered entered' same

omit booked in
include sending in
/-- The items of a call in progress are in flight. -/
theorem inFlight_of_sending {entry : Entry kind} (member : entry ∈ batch.entries) :
    entry ∈ (ledger kind pool).inFlight := by
  have flying : (ledger kind pool).inFlight = pool.owned fun task => (task.stake kind).inFlight :=
    Pool.map_owned (Stake.flying kind) pool (Task.stake kind)
  rw [flying, Pool.mem_owned]
  refine ⟨_, List.mem_of_getElem? sending, ?_⟩
  rw [Task.stake_flush]
  exact Multiset.mem_coe.mpr member

omit booked in
include sending in
/-- Each item of a call in progress is that of an entry in flight. -/
theorem exists_entry {item : Occurrence kind} (member : item ∈ batch.items) :
    ∃ entry ∈ batch.entries, entry.item = item ∧
      entry ∈ (ledger kind pool).custody .inFlight := by
  rw [← batch.map_item_entries] at member
  obtain ⟨entry, inside, same⟩ := List.mem_map.mp member
  exact ⟨entry, inside, same, inFlight_of_sending sending inside⟩

include sending

/-- A call in progress has no item twice. -/
theorem nodup_batch : batch.items.Nodup := by
  obtain ⟨others, split, _⟩ := Pool.exists_owned_rest sending fun task => (task.stake kind).inFlight
  have flying : (ledger kind pool).inFlight = pool.owned fun task => (task.stake kind).inFlight :=
    Pool.map_owned (Stake.flying kind) pool (Task.stake kind)
  have part : (batch.entries : Multiset (Entry kind)) ≤ (ledger kind pool).inFlight := by
    rw [flying, split, Task.stake_flush]
    exact Multiset.le_add_right _ _
  have held : (ledger kind pool).inFlight ≤
      ((ledger kind pool).entered : Multiset (Entry kind)) := by
    rw [← booked.total]
    exact Finset.single_le_sum (fun _ _ => Multiset.zero_le _) (Finset.mem_univ Place.inFlight)
  have items := @Multiset.map_le_map _ _ BufferedItem.item _ _ (part.trans held)
  rw [Multiset.map_coe, Multiset.map_coe, batch.map_item_entries] at items
  exact Multiset.coe_nodup.mp
    (Multiset.nodup_of_le items (Multiset.coe_nodup.mpr booked.nodup_items))

/-- What is being sent is nowhere else. -/
theorem not_elsewhere {item : Occurrence kind} (member : item ∈ batch.items) {entry : Entry kind}
    {place : Place} (there : entry ∈ (ledger kind pool).custody place) (same : entry.item = item) :
    place = .inFlight := by
  obtain ⟨other, _, same', flying⟩ := exists_entry sending member
  have equal := booked.eq_of_item (booked.mem_entered there) (booked.mem_entered flying)
    (same.trans same'.symm)
  subst equal
  exact (booked.existsUnique_place (booked.mem_entered there)).unique there flying

/-- No item is sent by two calls at once. -/
theorem same_call {item : Occurrence kind} (member : item ∈ batch.items) {tid' : ℕ}
    {batch' : Batch (Occurrence kind)} {trace' : List (TransportEvent (Occurrence kind))}
    {rest' : TransportProgram (Occurrence kind) SendOutcome}
    (sending' : pool.tasks[tid']? = some (.flush kind (.sending batch' trace' rest')))
    (member' : item ∈ batch'.items) : tid = tid' := by
  obtain ⟨entry, inside, same, flying⟩ := exists_entry sending member
  obtain ⟨entry', inside', same', flying'⟩ := exists_entry sending' member'
  have equal := booked.eq_of_item (booked.mem_entered flying) (booked.mem_entered flying')
    (same.trans same'.symm)
  subst equal
  have unique := booked.existsUnique_batch flying
  refine unique.unique ⟨_, sending, ?_⟩ ⟨_, sending', ?_⟩
  · rw [Task.stake_flush]
    exact Multiset.mem_coe.mpr inside
  · rw [Task.stake_flush]
    exact Multiset.mem_coe.mpr inside'

end Ledger.Booked

/-- What a step does to the calls and the exchanges of one kind. -/
inductive CallStep (agent : Agent) (kind : Kind) (pool : Pool Shared Task)
    (label : PoolLabel Arrival Choice) (next : Pool Shared Task) : Prop where
  | quiet : (pool.shared.columns kind).SameHistory (next.shared.columns kind) →
      (∀ (tid : ℕ) (task : Task), task.IsSending kind → pool.tasks[tid]? = some task →
        next.tasks[tid]? = some task) →
      (∀ (tid : ℕ) (batch : _) (trace : _) (rest : _),
        next.tasks[tid]? = some (.flush kind (.sending batch trace rest)) →
        pool.tasks[tid]? = some (.flush kind (.sending batch trace rest)) ∨
          trace = [] ∧ rest = agent.sendBatch kind batch.items) →
      CallStep agent kind pool label next
  | operation (tid : ℕ) (batch : Batch (Occurrence kind))
      (trace : List (TransportEvent (Occurrence kind))) (op : TransportOp (Occurrence kind))
      (rest : op.Answer → TransportProgram (Occurrence kind) SendOutcome) (answer : op.Answer) :
      pool.tasks[tid]? = some (.flush kind (.sending batch trace (.perform op rest))) →
      next.tasks[tid]? =
        some (.flush kind (.sending batch (trace ++ [⟨op, answer⟩]) (rest answer))) →
      (∀ (other : ℕ) (batch : _) (trace : _) (rest : _), other ≠ tid →
        (pool.tasks[other]? = some (.flush kind (.sending batch trace rest)) ↔
          next.tasks[other]? = some (.flush kind (.sending batch trace rest)))) →
      next.shared.columns kind = { pool.shared.columns kind with
        wire := (pool.shared.columns kind).wire ++ (exchange? ⟨op, answer⟩).toList } →
      CallStep agent kind pool label next
  | outcome (tid : ℕ) (choice : Choice) (batch : Batch (Occurrence kind))
      (trace : List (TransportEvent (Occurrence kind))) (outcome : SendOutcome) :
      label = .run tid choice →
      pool.tasks[tid]? = some (.flush kind (.sending batch trace (.done outcome))) →
      (∀ (other : ℕ) (batch : _) (trace : _) (rest : _),
        (next.tasks[other]? = some (.flush kind (.sending batch trace rest)) ↔
          other ≠ tid ∧ pool.tasks[other]? = some (.flush kind (.sending batch trace rest)))) →
      (next.shared.columns kind).wire = (pool.shared.columns kind).wire →
      (∀ entry,
        entry ∈ (next.shared.columns kind).accepted ++ (next.shared.columns kind).rejected ↔
          entry ∈ (pool.shared.columns kind).accepted ++ (pool.shared.columns kind).rejected ∨
            outcome.isConfirmed = true ∧ entry ∈ batch.entries) →
      CallStep agent kind pool label next

/-- **What a step does to the calls and the exchanges.** -/
theorem Agent.step_calls {pool next : Pool Shared Task} {label : PoolLabel Arrival Choice}
    (stepped : agent.machine.step? pool label = some next) :
    CallStep agent kind pool label next := by
  rcases Threads.step_cases stepped with ⟨arrival, shared, started, rfl, arrived, rfl⟩ |
    ⟨tid, choice, task, shared, after, started, rfl, present, acted, rfl⟩
  · obtain ⟨⟨records, same⟩, fresh⟩ := Arrival.arrive?_on arrived kind
    have history : (pool.shared.columns kind).SameHistory (shared.columns kind) := by
      rw [same]
      exact ⟨rfl, rfl, rfl⟩
    refine .quiet history (fun other found _ there => ?_) ?_
    · obtain ⟨bound, _⟩ := List.getElem?_eq_some_iff.mp there
      rw [List.getElem?_append_left bound, there]
    · intro other batch trace rest calling
      rw [List.getElem?_append] at calling
      split at calling
      · exact Or.inl calling
      · have begins := fresh _ (List.mem_of_getElem? calling)
        exact (begins.not_sending ⟨batch, trace, rest, rfl⟩).elim
  · have fresh := Task.act?_started_fresh acted kind
    have others (other : ℕ) (found : Task) (elsewhere : other ≠ tid)
        (sends : found.IsSending kind) : pool.tasks[other]? = some found ↔
          (pool.tasks.set tid after ++ started)[other]? = some found := by
      constructor
      · exact fun there => Pool.getElem?_other there elsewhere after
      · intro there
        rcases Pool.getElem?_acted_cases there with ⟨same, _⟩ | ⟨_, before⟩ | begun
        · exact (elsewhere same).elim
        · exact before
        · exact ((fresh found begun).not_sending sends).elim
    have mine := @Pool.getElem?_acted _ _ started tid _ present after
    have wires : task.Wires agent kind (pool.shared.columns kind) after (shared.columns kind) :=
      (Task.act?_acts acted).wires
    cases wires with
    | quiet history rests starts =>
        refine .quiet history (fun other found sends there => ?_) ?_
        · have elsewhere : other ≠ tid := by
            intro same
            subst same
            rw [present] at there
            cases there
            exact rests sends
          exact (others other found elsewhere sends).mp there
        · intro other batch trace rest calling
          by_cases here : other = tid
          · subst here
            rw [mine] at calling
            exact Or.inr (starts batch trace rest (Option.some.inj calling))
          · exact Or.inl ((others other _ here ⟨batch, trace, rest, rfl⟩).mpr calling)
    | operation batch trace op rest answer doing done same =>
        subst doing done
        exact .operation tid batch trace op rest answer present mine
          (fun other batch trace rest here => others other _ here ⟨batch, trace, rest, rfl⟩) same
    | outcome batch trace outcome doing rests wire confirmed =>
        subst doing
        refine .outcome tid choice batch trace outcome rfl present ?_ wire confirmed
        intro other batch' trace' rest'
        by_cases here : other = tid
        · subst here
          simp only [ne_eq, not_true_eq_false, false_and, iff_false]
          intro calling
          rw [mine] at calling
          exact rests ⟨batch', trace', rest', Option.some.inj calling⟩
        · have before := others other _ here ⟨batch', trace', rest', rfl⟩
          simp only [ne_eq, here, not_false_eq_true, true_and]
          exact before.symm

/-- The moves of a ledger only add to the items that entered. -/
theorem Ledger.Move.mem_entered {guards : Guards kind} {before after : Ledger kind}
    (move : Ledger.Move agent guards before after) {entry : Entry kind}
    (entered : entry ∈ before.entered) : entry ∈ after.entered := by
  obtain ⟨admitted, _, same⟩ := move.carried
  have more : entry ∈ (after.entered : Multiset (Entry kind)) := by
    rw [same]
    exact Multiset.mem_add.mpr (Or.inl (Multiset.mem_coe.mpr entered))
  exact Multiset.mem_coe.mp more

/-- Every call that has not returned is a partial execution of `send_batch`, and every
exchange was made by a call for items that entered. -/
structure Traced (agent : Agent) (kind : Kind) (pool : Pool Shared Task) : Prop where
  reached : ∀ (tid : ℕ) (batch : _) (trace : _) (rest : _),
    pool.tasks[tid]? = some (.flush kind (.sending batch trace rest)) →
    (agent.sendBatch kind batch.items).Reaches trace rest
  made : ∀ exchange ∈ (pool.shared.columns kind).wire, ∃ items trace rest,
    (agent.sendBatch kind items).Reaches trace rest ∧ exchange ∈ exchanges trace ∧
    ∀ item ∈ items, ∃ entry ∈ (ledger kind pool).entered, entry.item = item

/-- A new agent has made no call. -/
theorem Traced.initial (agent : Agent) (records : Kind → Records) :
    Traced agent kind ⟨agent.initial records, []⟩ := by
  refine ⟨fun tid batch trace rest calling => ?_, fun exchange made => ?_⟩
  · cases calling
  · cases made

/-- A step keeps the account of the calls. -/
theorem Traced.step {pool next : Pool Shared Task} {label : PoolLabel Arrival Choice}
    (traced : Traced agent kind pool) (booked : (ledger kind pool).Booked)
    (stepped : agent.machine.step? pool label = some next) : Traced agent kind next := by
  have move := agent.step_ledger stepped (agent.permits_open pool label)
    (fun task _ => task.sends_any) kind
  have earlier (exchange : _) (made : exchange ∈ (pool.shared.columns kind).wire) :
      ∃ items trace rest, (agent.sendBatch kind items).Reaches trace rest ∧
        exchange ∈ exchanges trace ∧
        ∀ item ∈ items, ∃ entry ∈ (ledger kind next).entered, entry.item = item := by
    obtain ⟨items, trace, rest, reached, inside, entered⟩ := traced.made exchange made
    refine ⟨items, trace, rest, reached, inside, fun item member => ?_⟩
    obtain ⟨entry, present, same⟩ := entered item member
    exact ⟨entry, move.mem_entered present, same⟩
  cases agent.step_calls stepped with
  | quiet history kept begun =>
      refine ⟨fun tid batch trace rest calling => ?_, fun exchange made => ?_⟩
      · rcases begun tid batch trace rest calling with before | ⟨started, first⟩
        · exact traced.reached tid batch trace rest before
        · rw [started, first]
          exact .refl _
      · rw [history.wire] at made
        exact earlier exchange made
  | operation tid batch trace op rest answer sending sent others same =>
      have reached := (traced.reached tid batch trace _ sending).snoc answer
      refine ⟨fun other batch' trace' rest' calling => ?_, fun exchange made => ?_⟩
      · by_cases here : other = tid
        · subst here
          rw [sent] at calling
          cases calling
          exact reached
        · exact traced.reached other batch' trace' rest' ((others other _ _ _ here).mpr calling)
      · rw [same] at made
        rcases List.mem_append.mp made with before | now
        · exact earlier exchange before
        · refine ⟨batch.items, _, _, reached, ?_, fun item member => ?_⟩
          · rw [exchanges_append]
            refine List.mem_append_right _ (List.mem_filterMap.mpr ⟨_, ?_,
              Option.mem_toList.mp now⟩)
            exact List.mem_singleton_self _
          · obtain ⟨entry, _, item, flying⟩ := Ledger.Booked.exists_entry sending member
            exact ⟨entry, move.mem_entered (booked.mem_entered flying), item⟩
  | outcome tid choice batch trace outcome ran sending elsewhere wire confirmed =>
      refine ⟨fun other batch' trace' rest' calling => ?_, fun exchange made => ?_⟩
      · exact traced.reached other batch' trace' rest' ((elsewhere other _ _ _).mp calling).2
      · rw [wire] at made
        exact earlier exchange made

/-- A step keeps the books and the traces. -/
theorem Agent.step_traced (agent : Agent) {pool next : Pool Shared Task}
    {label : PoolLabel Arrival Choice} (booked : (ledger kind pool).Booked)
    (traced : Traced agent kind pool)
    (stepped : agent.machine.step? pool label = some next) :
    (ledger kind next).Booked ∧ Traced agent kind next := by
  have move := agent.step_ledger stepped (agent.permits_open pool label)
    (fun task _ => task.sends_any) kind
  exact ⟨move.booked booked, traced.step booked stepped⟩

/-- **Every exchange was made by a call of `send_batch`**, for items that entered. -/
theorem Agent.traced (agent : Agent) (records : Kind → Records)
    {labels : List (PoolLabel Arrival Choice)} {pool : Pool Shared Task}
    (run : agent.machine.Run ⟨agent.initial records, []⟩ labels pool) (kind : Kind) :
    (ledger kind pool).Booked ∧ Traced agent kind pool := by
  refine run.invariant (fun pool => (ledger kind pool).Booked ∧ Traced agent kind pool)
    ⟨Ledger.initial_booked agent records, .initial agent records⟩ ?_
  intro before label after held _ stepped
  exact agent.step_traced held.1 held.2 stepped

end GuardAgent
