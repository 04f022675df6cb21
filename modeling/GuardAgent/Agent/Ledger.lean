import GuardAgent.Agent.Actions

/-!
# The ledger of one kind

What the agent is about, for one kind: which items are where, which keys are in use,
and what was counted. Each task has a stake in it: the items of a batch in flight, the
keys it is writing, the records it is about to buffer, the keys it is about to delete,
the drained items it has not counted yet, and the send that returned `Ok`. Whatever a
task does, the ledger makes one of a few moves (`Agent.step_ledger`).
-/

namespace GuardAgent

open Foundation

/-- The stake of a task. -/
@[ext] structure Stake (kind : Kind) where
  inFlight : Multiset (Entry kind) := 0
  writing : Multiset String := 0
  arriving : Multiset (String × Telemetry kind) := 0
  doomed : Multiset String := 0
  unrecorded : ℕ := 0
  returned : ℕ := 0

namespace Stake

variable {kind : Kind}

instance : Zero (Stake kind) := ⟨{}⟩

instance : Add (Stake kind) where
  add first second :=
    { inFlight := first.inFlight + second.inFlight
      writing := first.writing + second.writing
      arriving := first.arriving + second.arriving
      doomed := first.doomed + second.doomed
      unrecorded := first.unrecorded + second.unrecorded
      returned := first.returned + second.returned }

variable (first second : Stake kind)

@[simp] theorem zero_inFlight : (0 : Stake kind).inFlight = 0 := rfl
@[simp] theorem zero_writing : (0 : Stake kind).writing = 0 := rfl
@[simp] theorem zero_arriving : (0 : Stake kind).arriving = 0 := rfl
@[simp] theorem zero_doomed : (0 : Stake kind).doomed = 0 := rfl
@[simp] theorem zero_unrecorded : (0 : Stake kind).unrecorded = 0 := rfl
@[simp] theorem zero_returned : (0 : Stake kind).returned = 0 := rfl

@[simp] theorem add_inFlight : (first + second).inFlight = first.inFlight + second.inFlight := rfl
@[simp] theorem add_writing : (first + second).writing = first.writing + second.writing := rfl
@[simp] theorem add_arriving : (first + second).arriving = first.arriving + second.arriving := rfl
@[simp] theorem add_doomed : (first + second).doomed = first.doomed + second.doomed := rfl
@[simp] theorem add_unrecorded :
    (first + second).unrecorded = first.unrecorded + second.unrecorded := rfl
@[simp] theorem add_returned : (first + second).returned = first.returned + second.returned := rfl

instance : AddCommMonoid (Stake kind) where
  add_assoc _ _ _ := Stake.ext (add_assoc ..) (add_assoc ..) (add_assoc ..) (add_assoc ..)
    (add_assoc ..) (add_assoc ..)
  zero_add _ := Stake.ext (zero_add _) (zero_add _) (zero_add _) (zero_add _) (zero_add _)
    (zero_add _)
  add_zero _ := Stake.ext (add_zero _) (add_zero _) (add_zero _) (add_zero _) (add_zero _)
    (add_zero _)
  add_comm _ _ := Stake.ext (add_comm ..) (add_comm ..) (add_comm ..) (add_comm ..) (add_comm ..)
    (add_comm ..)
  nsmul := nsmulRec

end Stake

variable {kind : Kind}

def SendPhase.stake : SendPhase kind → Stake kind
  | .persisting _ key => { writing := {key} }
  | .pushing item (some key) => { arriving := {(key, item)} }
  | .forgetting _ key => { doomed := {key} }
  | .returned (.ok ()) => { returned := 1 }
  | _ => 0

def FlushPhase.stake : FlushPhase kind → Stake kind
  | .stamping batch => { inFlight := batch.entries, unrecorded := batch.items.length }
  | .sending batch _ _ => { inFlight := batch.entries, unrecorded := batch.items.length }
  | .requeueing batch => { inFlight := batch.entries, unrecorded := batch.items.length }
  | .confirming keys sent => { doomed := liveKeys keys, unrecorded := sent.getD 0 }
  | .deleting live sent => { doomed := live, unrecorded := sent.getD 0 }
  | .recordingSent count => { unrecorded := count }
  | .recordingFailed count evicted => { doomed := liveKeys evicted, unrecorded := count }
  | _ => 0

def LoadPhase.stake : LoadPhase kind → Stake kind
  | .loaded key item _ => { arriving := {(key, item)} }
  | .forgetting victim key item _ => { arriving := {(key, item)}, doomed := {victim} }
  | .appending key item _ => { arriving := {(key, item)} }
  | _ => 0

/-- The stake of a task in what belongs to one kind. -/
def Task.stake (kind : Kind) : Task → Stake kind
  | .send other phase => if same : other = kind then same ▸ phase.stake else 0
  | .flush other phase => if same : other = kind then same ▸ phase.stake else 0
  | .load other phase => if same : other = kind then same ▸ phase.stake else 0
  | _ => 0

/-- The items, keys, records and counters of one kind, with all stakes together. -/
structure Ledger (kind : Kind) extends Stake kind where
  buffer : List (Entry kind)
  flushed : ℕ
  dropped : ℕ
  sent : ℕ
  failed : ℕ
  records : Records
  entered : List (Entry kind)
  reloaded : ℕ
  accepted : List (Entry kind)
  rejected : List (Entry kind)
  evicted : List (Entry kind)
  wiped : List (Entry kind)

def Column.ledger (column : Column kind) (stake : Stake kind) : Ledger kind where
  toStake := stake
  buffer := column.buffer
  flushed := column.flushed
  dropped := column.dropped
  sent := column.sent
  failed := column.failed
  records := column.records
  entered := column.entered
  reloaded := column.reloaded
  accepted := column.accepted
  rejected := column.rejected
  evicted := column.evicted
  wiped := column.wiped

/-- The ledger of the whole agent. -/
def ledger (kind : Kind) (pool : Pool Shared Task) : Ledger kind :=
  (pool.shared.columns kind).ledger (pool.owned (Task.stake kind))

/-- What may happen to the items, keys and records of one kind: which items are sent, which
keys are generated, which records are loaded with which items, whether all are cleared, and
which expire. -/
structure Guards (kind : Kind) where
  send : Telemetry kind → Prop
  mint : String → Prop
  load : String → Telemetry kind → Prop
  clear : Prop
  expire : String → Prop

/-- The keys of entries that the agent deletes. -/
def keysOf (entries : List (Entry kind)) : List String :=
  liveKeys (entries.map BufferedItem.redisKey)

namespace Ledger

variable (agent : Agent) (guards : Guards kind)

/-- The moves of a ledger. -/
inductive Move (ledger : Ledger kind) : Ledger kind → Prop where
  | stay : Move ledger ledger
  /-- An item is buffered without a record. -/
  | enter (item : Telemetry kind) : guards.send item → Move ledger
      { ledger with
        toStake := { returned := 1 } + ledger.toStake
        buffer := ledger.buffer ++ [⟨⟨ledger.entered.length, item⟩, none⟩]
        entered := ledger.entered ++ [⟨⟨ledger.entered.length, item⟩, none⟩] }
  | mint (key : String) : guards.mint key →
      Move ledger { ledger with toStake := { writing := {key} } + ledger.toStake }
  | write (rest : Stake kind) (key : String) (item : Telemetry kind) : guards.send item →
      ledger.toStake = { writing := {key} } + rest → Move ledger
        { ledger with
          toStake := { arriving := {(key, item)} } + rest
          records := ledger.records.setKey .ok key (agent.toRecord kind item) }
  | writeFailed (rest : Stake kind) (key : String) (item : Telemetry kind)
      (applied : List String) : guards.send item →
      ledger.toStake = { writing := {key} } + rest → Move ledger
        { ledger with
          toStake := rest
          records := ledger.records.setKey (.failed applied) key (agent.toRecord kind item) }
  | load (key value : String) (item : Telemetry kind) :
      ledger.records.lookup key = some value → agent.fromRecord kind value = some item →
      guards.load key item →
      Move ledger { ledger with toStake := { arriving := {(key, item)} } + ledger.toStake }
  /-- An item is buffered that has a record. -/
  | arrive (rest : Stake kind) (key : String) (item : Telemetry kind) (returned reloaded : ℕ) :
      returned + reloaded = 1 → ledger.toStake = { arriving := {(key, item)} } + rest →
      Move ledger
        { ledger with
          toStake := { returned := returned } + rest
          reloaded := ledger.reloaded + reloaded
          buffer := ledger.buffer ++ [⟨⟨ledger.entered.length, item⟩, some key⟩]
          entered := ledger.entered ++ [⟨⟨ledger.entered.length, item⟩, some key⟩] }
  | evict (victim : Entry kind) (buffer : List (Entry kind)) (doomed : List String)
      (after : Stake kind) : ledger.buffer = victim :: buffer →
      doomed = [] ∨ doomed = keysOf [victim] → after = { doomed := doomed } + ledger.toStake →
      Move ledger
        { ledger with
          toStake := after
          buffer := buffer
          dropped := ledger.dropped + 1
          evicted := ledger.evicted ++ [victim] }
  | drain : Move ledger
      { ledger with
        toStake := { inFlight := ledger.buffer, unrecorded := ledger.buffer.length } +
          ledger.toStake
        buffer := []
        flushed := ledger.flushed + ledger.buffer.length }
  | accept (rest : Stake kind) (batch : List (Entry kind)) :
      ledger.toStake = { inFlight := batch, unrecorded := batch.length } + rest → Move ledger
        { ledger with
          toStake := { doomed := keysOf batch, unrecorded := batch.length } + rest
          accepted := ledger.accepted ++ batch }
  | reject (rest : Stake kind) (batch : List (Entry kind)) :
      ledger.toStake = { inFlight := batch, unrecorded := batch.length } + rest → Move ledger
        { ledger with
          toStake := { doomed := keysOf batch } + rest
          rejected := ledger.rejected ++ batch }
  | requeue (rest : Stake kind) (batch buffer victims : List (Entry kind)) :
      ledger.toStake = { inFlight := batch, unrecorded := batch.length } + rest →
      (buffer : Multiset (Entry kind)) + victims = ledger.buffer + batch → Move ledger
        { ledger with
          toStake := { doomed := keysOf victims, unrecorded := batch.length } + rest
          buffer := buffer
          dropped := ledger.dropped + victims.length
          evicted := ledger.evicted ++ victims }
  | recordSent (rest : Stake kind) (count : ℕ) : ledger.toStake = { unrecorded := count } + rest →
      Move ledger { ledger with toStake := rest, sent := ledger.sent + count }
  | recordFailed (rest : Stake kind) (count : ℕ) : ledger.toStake = { unrecorded := count } + rest →
      Move ledger { ledger with toStake := rest, failed := ledger.failed + count }
  | delete (rest : Stake kind) (keys : List String) (reply : StoreReply) :
      ledger.toStake = { doomed := keys } + rest → Move ledger
        { ledger with toStake := rest, records := ledger.records.deleteKeys reply keys }
  /-- Keys are not deleted after all. -/
  | spare (rest : Stake kind) (keys : List String) : ledger.toStake = { doomed := keys } + rest →
      Move ledger { ledger with toStake := rest }
  | wipe : Move ledger { ledger with buffer := [], wiped := ledger.wiped ++ ledger.buffer }
  | clear (reply : StoreReply) : guards.clear →
      Move ledger { ledger with records := ledger.records.clearNamespace reply }
  | expire (key : String) : guards.expire key →
      Move ledger { ledger with records := ledger.records.erase key }

end Ledger

/-- The guards admit the key that the next action of a send generates. -/
def SendPhase.Permits (phase : SendPhase kind) (agent : Agent) (guards : Guards kind)
    (choice : Choice) (common : Common) (column : Column kind) : Prop :=
  match phase with
  | .enqueue _ => common.redisHandler = true → column.buffer.length < agent.config.bufferSize →
      guards.mint (generateShortKey kind.keyPrefix choice.nanos choice.uuid)
  | _ => True

/-- The guards admit the record that the next action of a reload loads. -/
def LoadPhase.Permits (phase : LoadPhase kind) (agent : Agent) (guards : Guards kind)
    (column : Column kind) : Prop :=
  match phase with
  | .getting (key :: _) =>
      ∀ item ∈ (column.records.lookup key).bind (agent.fromRecord kind), guards.load key item
  | _ => True

/-- The guards admit the next action of a task. -/
def Task.Permits (task : Task) (agent : Agent) (guards : (kind : Kind) → Guards kind)
    (choice : Choice) (shared : Shared) : Prop :=
  match task with
  | .send kind phase =>
      phase.Permits agent (guards kind) choice shared.toCommon (shared.columns kind)
  | .load kind phase => phase.Permits agent (guards kind) (shared.columns kind)
  | .clearNamespace kind => (guards kind).clear
  | _ => True

/-- The guards admit the next step of the agent. -/
def Agent.Permits (agent : Agent) (guards : (kind : Kind) → Guards kind)
    (pool : Pool Shared Task) (label : PoolLabel Arrival Choice) : Prop :=
  match label with
  | .run tid choice => ∀ task ∈ pool.tasks[tid]?, task.Permits agent guards choice pool.shared
  | .arrive (.expire kind key) => (guards kind).expire key
  | .arrive _ => True

/-- The item that a send has not buffered yet. -/
def SendPhase.item? : SendPhase kind → Option (Telemetry kind)
  | .enqueue item => some item
  | .persisting item _ => some item
  | .pushing item _ => some item
  | .forgetting item _ => some item
  | .returned _ => none
  | .panicked => none

/-- What is about to be buffered by a send is such an item. -/
def Task.Sends (items : (kind : Kind) → Telemetry kind → Prop) : Task → Prop
  | .send kind phase => ∀ item ∈ phase.item?, items kind item
  | _ => True

variable {agent : Agent} {guards : Guards kind}

/-- A share with doomed keys and counts splits into the doomed keys and the rest. -/
theorem Stake.doomed_unrecorded (doomed : Multiset String) (count : ℕ) (rest : Stake kind) :
    ({ doomed := doomed, unrecorded := count } : Stake kind) + rest =
      { doomed := doomed } + ({ unrecorded := count } + rest) := by
  ext1
  · simp only [add_inFlight, zero_add]
  · simp only [add_writing, zero_add]
  · simp only [add_arriving, zero_add]
  · simp only [add_doomed, zero_add]
  · simp only [add_unrecorded, zero_add]
  · simp only [add_returned, zero_add]

/-- The keys of a batch's entries are the keys in use of the batch. -/
theorem keysOf_entries (batch : Batch (Occurrence kind)) :
    keysOf batch.entries = liveKeys batch.keys := by
  rw [keysOf, batch.map_redisKey_entries]

/-- After the confirmation a flush has its accepted items left to count. -/
theorem FlushPhase.stake_afterConfirm (sent : Option ℕ) :
    (FlushPhase.afterConfirm sent : FlushPhase kind).stake = { unrecorded := sent.getD 0 } := by
  cases sent with
  | none => rfl
  | some count => rfl

/-- A reload that is about to forget a victim dooms its key and goes on as the one that appends. -/
theorem LoadPhase.stake_forgetting (victim key : String) (item : Telemetry kind)
    (keys : List String) (rest : Stake kind) :
    (LoadPhase.forgetting victim key item keys).stake + rest =
      { doomed := ([victim] : List String) } + ((appending key item keys).stake + rest) := by
  ext1
  · simp only [stake, Stake.add_inFlight, zero_add]
  · simp only [stake, Stake.add_writing, zero_add]
  · simp only [stake, Stake.add_arriving, zero_add]
  · simp only [stake, Stake.add_doomed, zero_add, Multiset.coe_singleton]
  · simp only [stake, Stake.add_unrecorded, zero_add]
  · simp only [stake, Stake.add_returned, zero_add]

/-- An action of a send is a move of the ledger. -/
theorem SendPhase.Acts.move {phase after : SendPhase kind} {choice : Choice}
    {common common' : Common} {column column' : Column kind} {started : List Task}
    (acts : phase.Acts agent choice common column common' column' after started)
    (permits : phase.Permits agent guards choice common column)
    (sends : ∀ item ∈ phase.item?, guards.send item) (rest : Stake kind) :
    Ledger.Move agent guards (column.ledger (phase.stake + rest))
      (column'.ledger (after.stake + rest)) := by
  cases acts with
  | persist item _ room handler =>
      simp only [SendPhase.stake, zero_add]
      exact .mint _ (permits handler room)
  | push item _ _ _ =>
      simp only [SendPhase.stake, zero_add]
      exact .enter item (sends item rfl)
  | evict item victim others _ _ _ front _ =>
      simp only [SendPhase.stake, zero_add]
      exact .evict victim others [] rest front (Or.inl rfl) (zero_add rest).symm
  | evictKeyed item victim others key _ _ _ front live _ =>
      simp only [SendPhase.stake, zero_add]
      exact .evict victim others [key] _ front (Or.inr live.symm) rfl
  | persisted item key succeeded =>
      cases stored : choice.stored with
      | ok => exact .write rest key item (sends item rfl) rfl
      | failed applied =>
          rw [stored] at succeeded
          cases succeeded
  | unpersisted item key failed =>
      cases stored : choice.stored with
      | ok =>
          rw [stored] at failed
          cases failed
      | failed applied =>
          simp only [SendPhase.stake, zero_add]
          exact .writeFailed rest key item applied (sends item rfl) rfl
  | pushed item key =>
      cases key with
      | none =>
          simp only [SendPhase.stake, zero_add]
          exact .enter item (sends item rfl)
      | some key => exact .arrive rest key item 1 0 rfl rfl
  | forgot item key =>
      simp only [SendPhase.stake, zero_add]
      exact .delete rest [key] choice.stored rfl
  | _ => exact .stay

/-- An action of a flush is a move of the ledger. -/
theorem FlushPhase.Acts.move {phase after : FlushPhase kind} {choice : Choice}
    {common common' : Common} {column column' : Column kind}
    (acts : phase.Acts agent choice common column common' column' after) (rest : Stake kind) :
    Ledger.Move agent guards (column.ledger (phase.stake + rest))
      (column'.ledger (after.stake + rest)) := by
  cases acts with
  | drainedNone _ vacant =>
      have same : column.drain.2 = column := by
        simp only [Column.drain, GuardAgent.drain, vacant, List.length_nil, Nat.add_zero]
        rw [← vacant]
      rw [same]
      exact .stay
  | drained _ _ =>
      have entries : column.drain.1.entries = column.buffer := entries_drain _ column.flushed
      have length : column.drain.1.items.length = column.buffer.length := List.length_map ..
      simp only [FlushPhase.stake, entries, length, zero_add]
      exact .drain
  | accepted batch trace =>
      simp only [FlushPhase.stake, Option.getD_some, ← batch.length_entries, ← keysOf_entries]
      exact .accept rest batch.entries rfl
  | rejected batch trace statusCode detail =>
      simp only [FlushPhase.stake, Option.getD_none, ← batch.length_entries, ← keysOf_entries]
      exact .reject rest batch.entries rfl
  | confirmedNone keys sent _ =>
      rw [stake_afterConfirm]
      exact .spare _ (liveKeys keys) (Stake.doomed_unrecorded ..)
  | deleted live sent =>
      rw [stake_afterConfirm]
      exact .delete _ live choice.stored (Stake.doomed_unrecorded ..)
  | recordedSent count _ =>
      simp only [FlushPhase.stake, zero_add]
      exact .recordSent rest count rfl
  | requeued batch _ =>
      obtain ⟨balance, counted⟩ := requeue_balance agent.config.bufferSize column.buffer batch
        column.dropped
      simp only [FlushPhase.stake, Column.requeue, Column.ledger, counted, ← batch.length_entries]
      exact .requeue rest batch.entries _ _ rfl balance
  | recordedFailed count evicted streak _ _ =>
      simp only [FlushPhase.stake, Option.getD_none]
      refine .recordFailed _ count ?_
      apply (Stake.doomed_unrecorded ..).trans
      exact add_left_comm ..
  | _ => exact .stay

/-- An action of a reload is a move of the ledger. -/
theorem LoadPhase.Acts.move {phase after : LoadPhase kind} {choice : Choice} {common : Common}
    {column column' : Column kind}
    (acts : phase.Acts agent choice common column column' after)
    (permits : phase.Permits agent guards column) (rest : Stake kind) :
    Ledger.Move agent guards (column.ledger (phase.stake + rest))
      (column'.ledger (after.stake + rest)) := by
  cases acts with
  | got key value item keys read parsed =>
      have found : column.records.lookup key = some value := by
        unfold Records.getKey at read
        split at read
        · exact read
        · cases read
      have loaded : item ∈ (column.records.lookup key).bind (agent.fromRecord kind) := by
        rw [found]
        exact parsed
      simp only [LoadPhase.stake, zero_add]
      exact .load key value item found parsed (permits item loaded)
  | evict key item keys victim others _ front _ =>
      exact .evict victim others [] _ front (Or.inl rfl) (zero_add _).symm
  | evictKeyed key item keys victim others forgotten _ front live _ =>
      refine .evict victim others [forgotten] _ front (Or.inr live.symm) ?_
      exact LoadPhase.stake_forgetting ..
  | forgot victim key item keys =>
      exact .delete _ [victim] choice.stored (LoadPhase.stake_forgetting ..)
  | appended key item keys => exact .arrive rest key item 0 1 rfl rfl
  | _ => exact .stay

namespace Task

/-- A send has the share of its phase in its own kind. -/
@[simp] theorem stake_send (phase : SendPhase kind) : stake kind (.send kind phase) = phase.stake :=
  dif_pos rfl

/-- A flush has the share of its phase in its own kind. -/
@[simp] theorem stake_flush (phase : FlushPhase kind) :
    stake kind (.flush kind phase) = phase.stake :=
  dif_pos rfl

/-- A reload has the share of its phase in its own kind. -/
@[simp] theorem stake_load (phase : LoadPhase kind) : stake kind (.load kind phase) = phase.stake :=
  dif_pos rfl

/-- A send has no share in the other kind. -/
theorem stake_send_of_ne {other : Kind} (different : other ≠ kind) (phase : SendPhase other) :
    stake kind (.send other phase) = 0 :=
  dif_neg different

/-- A flush has no share in the other kind. -/
theorem stake_flush_of_ne {other : Kind} (different : other ≠ kind) (phase : FlushPhase other) :
    stake kind (.flush other phase) = 0 :=
  dif_neg different

/-- A reload has no share in the other kind. -/
theorem stake_load_of_ne {other : Kind} (different : other ≠ kind) (phase : LoadPhase other) :
    stake kind (.load other phase) = 0 :=
  dif_neg different

/-- A task that has not begun with this kind has no stake in it. -/
theorem stake_of_fresh {task : Task} (fresh : task.Fresh kind) : stake kind task = 0 := by
  cases task with
  | send other phase =>
      by_cases here : other = kind
      · subst here
        have begins := fresh rfl
        rw [stake_send]
        cases phase with
        | enqueue item => rfl
        | _ => cases begins
      · exact stake_send_of_ne here phase
  | flush other phase =>
      by_cases here : other = kind
      · subst here
        have begins := fresh rfl
        rw [stake_flush]
        cases phase with
        | start => rfl
        | _ => cases begins
      · exact stake_flush_of_ne here phase
  | load other phase =>
      by_cases here : other = kind
      · subst here
        have begins := fresh rfl
        rw [stake_load]
        cases phase with
        | listing => rfl
        | _ => cases begins
      · exact stake_load_of_ne here phase
  | _ => rfl

/-- Nor has one whose next action is not about it. -/
theorem stake_of_idle {task : Task} (idle : task.Idle kind) : stake kind task = 0 := by
  cases task with
  | send other phase => exact stake_send_of_ne idle phase
  | flush other phase =>
      by_cases here : other = kind
      · subst here
        have ended := idle rfl
        rw [stake_flush]
        cases phase with
        | finished => rfl
        | _ => cases ended
      · exact stake_flush_of_ne here phase
  | load other phase =>
      by_cases here : other = kind
      · subst here
        have ended := idle rfl
        rw [stake_load]
        cases phase with
        | finished => rfl
        | _ => cases ended
      · exact stake_load_of_ne here phase
  | _ => rfl

variable {task after : Task} {choice : Choice} {shared shared' : Shared} {started : List Task}

variable {guards : (kind : Kind) → Guards kind}

/-- Whatever a task does next, the ledger makes a move. -/
theorem Acts.move (acts : task.Acts agent choice shared shared' after started)
    (permits : task.Permits agent guards choice shared)
    (sends : task.Sends fun kind => (guards kind).send) (rest : Stake kind) :
    Ledger.Move agent (guards kind) ((shared.columns kind).ledger (task.stake kind + rest))
      ((shared'.columns kind).ledger (after.stake kind + rest)) := by
  cases acts.on kind with
  | send phase after started sending =>
      rw [stake_send, stake_send]
      exact sending.move permits sends rest
  | flush phase after flushing =>
      rw [stake_flush, stake_flush]
      exact flushing.move rest
  | load phase after loading =>
      rw [stake_load, stake_load]
      exact loading.move permits rest
  | wipe after same fresh =>
      rw [same, stake_of_fresh fresh]
      exact .wipe
  | clear after records _ fresh =>
      rw [stake_of_fresh fresh]
      cases acts with
      | clearedNamespace =>
          rw [Shared.update_self]
          exact .clear choice.stored permits
  | other task after idle same fresh =>
      rw [same, stake_of_idle idle, stake_of_fresh fresh]
      exact .stay

end Task

/-- Every kind of arrival has no stake. -/
theorem Arrival.arrive?_move {arrival : Arrival} {shared shared' : Shared} {started : List Task}
    (arrived : arrival.arrive? agent shared = some (shared', started))
    (permitted : ∀ key, arrival = .expire kind key → guards.expire key) (stake : Stake kind) :
    Ledger.Move agent guards ((shared.columns kind).ledger stake)
      ((shared'.columns kind).ledger stake) := by
  cases arrival with
  | expire other key =>
      cases arrived
      by_cases here : other = kind
      · subst here
        rw [Shared.update_self]
        exact .expire key (permitted key rfl)
      · rw [Shared.update_of_ne (Ne.symm here)]
        exact .stay
  | attachRedisHandler =>
      simp only [arrive?] at arrived
      split at arrived
      · cases arrived
      · cases arrived
        exact .stay
  | elapse seconds =>
      simp only [arrive?] at arrived
      split at arrived
      · cases arrived
        exact .stay
      · cases arrived
  | _ =>
      cases arrived
      exact .stay

/-- Tasks that have not begun have no stake together. -/
theorem Task.sum_stake_of_fresh {started : List Task} (fresh : ∀ task ∈ started, task.Fresh kind) :
    (started.map (Task.stake kind)).sum = 0 := by
  apply List.sum_eq_zero
  intro share member
  obtain ⟨task, begun, rfl⟩ := List.mem_map.mp member
  exact Task.stake_of_fresh (fresh task begun)

/-- A send keeps its item until it is buffered. -/
theorem SendPhase.Acts.item {phase after : SendPhase kind} {choice : Choice}
    {common common' : Common} {column column' : Column kind} {started : List Task}
    (acts : phase.Acts agent choice common column common' column' after started) :
    after.item? = none ∨ after.item? = phase.item? := by
  cases acts with
  | push item _ _ _ => exact Or.inl rfl
  | panic item _ _ _ _ => exact Or.inl rfl
  | refuse item _ _ _ => exact Or.inl rfl
  | pushed item key => exact Or.inl rfl
  | _ => exact Or.inr rfl

/-- A task that sends such items goes on sending such ones. -/
theorem Task.Acts.sends {items : (kind : Kind) → Telemetry kind → Prop} {task after : Task}
    {choice : Choice} {shared shared' : Shared} {started : List Task}
    (acts : task.Acts agent choice shared shared' after started) (sends : task.Sends items) :
    after.Sends items := by
  cases acts with
  | send kind phase after common column started acts =>
      intro item inside
      rcases acts.item with done | kept
      · rw [done] at inside
        cases inside
      · exact sends item (kept ▸ inside)
  | cleared _ => split <;> trivial
  | clearedNamespace kind => cases kind <;> trivial
  | start _ => split <;> trivial
  | reload _ => split <;> trivial
  | _ => trivial

/-- Nothing is asked of the items. -/
theorem Task.sends_any (task : Task) : task.Sends fun _ _ => True := by
  cases task with
  | send kind phase => exact fun _ _ => trivial
  | _ => trivial

/-- What the arrival sends is, redacted, such an item. -/
def Arrival.Sends (items : (kind : Kind) → Telemetry kind → Prop) (agent : Agent) :
    Arrival → Prop
  | .trySend kind item => items kind (agent.redactor.redact kind item)
  | _ => True

/-- Only such items are on their way if only such items are sent. -/
theorem Agent.step_sends {items : (kind : Kind) → Telemetry kind → Prop}
    {pool next : Pool Shared Task} {label : PoolLabel Arrival Choice}
    (stepped : agent.machine.step? pool label = some next)
    (arriving : ∀ arrival, label = .arrive arrival → arrival.Sends items agent)
    (sends : ∀ task ∈ pool.tasks, task.Sends items) : ∀ task ∈ next.tasks, task.Sends items := by
  obtain ⟨arrival, shared, started, rfl, arrived, rfl⟩ |
    ⟨tid, choice, task, shared, after, started, rfl, present, acted, rfl⟩ :=
    Threads.step_cases stepped
  · intro task member
    cases List.mem_append.mp member with
    | inl old => exact sends task old
    | inr new =>
        have sent := arriving arrival rfl
        cases arrival with
        | trySend kind item =>
            cases arrived
            split at new
            · obtain rfl := List.mem_singleton.mp new
              intro other same
              cases same
              exact sent
            · cases new
        | _ =>
            simp only [Agent.threads, Arrival.arrive?] at arrived
            grind [Task.Sends]
  · intro other member
    rcases Pool.mem_acted_cases member with rfl | old | new
    · exact (Task.act?_acts acted).sends (sends task (List.mem_of_getElem? present))
    · exact sends other old
    · rcases Task.act?_started acted with none | one
      · rw [none] at new
        cases new
      · rw [one] at new
        rw [List.mem_singleton.mp new]
        trivial

/-- **Every step of the agent is a move of the ledger.** -/
theorem Agent.step_ledger {guards : (kind : Kind) → Guards kind} {pool next : Pool Shared Task}
    {label : PoolLabel Arrival Choice} (stepped : agent.machine.step? pool label = some next)
    (permits : agent.Permits guards pool label)
    (sends : ∀ task ∈ pool.tasks, task.Sends fun kind => (guards kind).send) (kind : Kind) :
    Ledger.Move agent (guards kind) (ledger kind pool) (ledger kind next) := by
  obtain ⟨arrival, shared, started, rfl, arrived, rfl⟩ |
    ⟨tid, choice, task, shared, after, started, rfl, present, acted, rfl⟩ :=
    Threads.step_cases stepped
  · have quiet := Task.sum_stake_of_fresh (Arrival.arrive?_on arrived kind).2
    simp only [ledger, Pool.owned_append, quiet, add_zero]
    refine Arrival.arrive?_move arrived (fun key same => ?_) _
    subst same
    exact permits
  · obtain ⟨rest, before, replaced⟩ := Pool.exists_owned_rest present (Task.stake kind)
    have quiet := Task.sum_stake_of_fresh (Task.act?_started_fresh acted kind)
    simp only [ledger, before, replaced, quiet, add_zero]
    have sent := sends task (List.mem_of_getElem? present)
    exact (Task.act?_acts acted).move (permits task present) sent rest

namespace Records

variable {records : Records} {key other value : String}

/-- What is found after a write was written or was there before. -/
theorem lookup_of_setKey {written : String} {reply : StoreReply}
    (found : (records.setKey reply other written).lookup key = some value) :
    value = written ∨ records.lookup key = some value := by
  unfold setKey at found
  split at found
  · by_cases same : key = other
    · subst same
      rw [AList.lookup_insert] at found
      exact Or.inl (Option.some.inj found).symm
    · rw [AList.lookup_insert_ne same] at found
      exact Or.inr found
  · exact Or.inr found

/-- What is found after an erasure was there before. -/
theorem lookup_of_erase (found : AList.lookup key (AList.erase other records) = some value) :
    records.lookup key = some value := by
  by_cases same : key = other
  · subst same
    rw [AList.lookup_erase] at found
    cases found
  · rwa [AList.lookup_erase_ne same] at found

/-- What is found after a deletion was there before. -/
theorem lookup_of_deleteKeys {reply : StoreReply} {keys : List String}
    (found : (records.deleteKeys reply keys).lookup key = some value) :
    records.lookup key = some value := by
  unfold deleteKeys at found
  generalize keys.filter reply.affects = gone at found
  induction gone generalizing records with
  | nil => exact found
  | cons first gone ih => exact lookup_of_erase (ih found)

end Records

namespace Ledger

variable {before after : Ledger kind} {values : String → Prop}

/-- Every record has such a value. -/
def Stores (ledger : Ledger kind) (values : String → Prop) : Prop :=
  ∀ key value, ledger.records.lookup key = some value → values value

/-- **Only records of items that the guards admit are written.** -/
theorem Move.stores (move : Move agent guards before after)
    (written : ∀ item, guards.send item → values (agent.toRecord kind item))
    (stores : before.Stores values) : after.Stores values := by
  intro key value found
  cases move with
  | write rest other item sent staked =>
      cases Records.lookup_of_setKey found with
      | inl new => exact new ▸ written item sent
      | inr old => exact stores key value old
  | writeFailed rest other item applied sent staked =>
      cases Records.lookup_of_setKey found with
      | inl new => exact new ▸ written item sent
      | inr old => exact stores key value old
  | delete rest keys reply staked => exact stores key value (Records.lookup_of_deleteKeys found)
  | clear reply permitted => exact stores key value (Records.lookup_of_deleteKeys found)
  | expire gone permitted => exact stores key value (Records.lookup_of_erase found)
  | _ => exact stores key value found

end Ledger

end GuardAgent
