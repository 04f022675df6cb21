import GuardAgent.Agent.Durability

/-!
# The overflow policies over a sequence of calls

Calls of one kind, one after the other, on an agent that does not flush. Each of them
returns; under `Drop` the buffer slides over the items, under `Raise` it keeps the first ones,
and the store has the records of the buffered items and those that a failed operation left
behind (`Agent.overflow_policies`).
-/

namespace GuardAgent

open Foundation

variable {agent : Agent} {kind : Kind}

/-- How a send was answered. -/
def Task.result? : Task → Option (Except GuardAgentError Unit)
  | .send _ (.returned result) => some result
  | _ => none

/-- No call is running in the task. -/
def Task.isIdle : Task → Bool
  | .send _ (.returned _) => true
  | .gatedFlush => true
  | _ => false

/-- A record of the store. -/
abbrev StoredRecord : Type := Sigma fun _ : String => String

/-- The record of an item that was persisted. -/
def Agent.record? (agent : Agent) (entry : Entry kind) : Option StoredRecord :=
  entry.redisKey.map fun key => ⟨key, agent.toRecord kind entry.item.item⟩

/-- What an observer of the calls records. -/
structure CallLog (kind : Kind) where
  /-- The items sent, as they are buffered. -/
  items : List (Telemetry kind)
  /-- The actions of the calls. -/
  actions : ℕ
  /-- The shared state when the last call began. -/
  begun : Shared
  /-- The records that a failed `set_key` wrote nevertheless. -/
  strays : List StoredRecord
  /-- The evicted items whose `delete_keys` did not delete the record. -/
  undeleted : List (Entry kind)
  /-- The evicted items whose `delete_keys` failed. -/
  failedDeletes : List (Entry kind)

namespace CallLog

/-- What the observer makes of the action of a send; the item being forgotten is the one evicted
last. -/
def act {sent : Kind} (agent : Agent) (choice : Choice) (evicted : List (Entry kind))
    (phase : SendPhase sent) (log : CallLog kind) : CallLog kind :=
  let log := { log with actions := log.actions + 1 }
  match phase with
  | .persisting item key =>
      if choice.stored.succeeded = false ∧ choice.stored.affects key = true then
        { log with strays := log.strays ++ [⟨key, agent.toRecord sent item⟩] }
      else log
  | .forgetting _ key =>
      { log with
        undeleted := if choice.stored.affects key then log.undeleted
          else log.undeleted ++ evicted.getLast?.toList
        failedDeletes := if choice.stored.succeeded then log.failedDeletes
          else log.failedDeletes ++ evicted.getLast?.toList }
  | _ => log

def observe (agent : Agent) (log : CallLog kind) (before : Pool Shared Task)
    (label : PoolLabel Arrival Choice) (_ : Pool Shared Task) : CallLog kind :=
  match label with
  | .arrive (.trySend sent item) =>
      if same : sent = kind then
        { log with items := log.items ++ [agent.redactor.redact kind (same ▸ item)]
                   begun := before.shared }
      else log
  | .arrive _ => log
  | .run tid choice =>
      match before.tasks[tid]? with
      | some (.send _ phase) => log.act agent choice (before.shared.columns kind).evicted phase
      | _ => log

end CallLog

namespace Agent

/-- What is recorded of the calls of a run. -/
def callLog (agent : Agent) (kind : Kind) (start : Shared)
    (labels : List (PoolLabel Arrival Choice)) : CallLog kind :=
  agent.machine.history (CallLog.observe agent) ⟨[], 0, start, [], [], []⟩ ⟨start, []⟩ labels

/-- The send generates a key only when it has no record. -/
def Mints (agent : Agent) (choice : Choice) (shared : Shared) : Task → Prop
  | .send kind (.enqueue _) => shared.redisHandler = true →
      (shared.columns kind).buffer.length < agent.config.bufferSize →
      generateShortKey kind.keyPrefix choice.nanos choice.uuid ∉ (shared.columns kind).records
  | .send _ _ => True
  | _ => False

/-- A call of this kind begins when the one before has returned, and only calls run. -/
def Calls (agent : Agent) (kind : Kind) (pool : Pool Shared Task) :
    PoolLabel Arrival Choice → Prop
  | .arrive (.trySend sent _) => sent = kind ∧ ∀ task ∈ pool.tasks, task.isIdle = true
  | .arrive _ => False
  | .run tid choice => ∀ task ∈ pool.tasks[tid]?, agent.Mints choice pool.shared task

/-- The items that are buffered at all. -/
def kept (agent : Agent) (items : List (Telemetry kind)) : List (Telemetry kind) :=
  match agent.config.bufferOverflowPolicy with
  | .raise => items.take agent.config.bufferSize
  | _ => items

/-- How the call of this index is answered. -/
def answer (agent : Agent) (index : ℕ) : Except GuardAgentError Unit :=
  if agent.config.bufferOverflowPolicy = .raise ∧ agent.config.bufferSize ≤ index then
    .error (.bufferFull agent.config.bufferSize)
  else .ok ()

end Agent

/-- The buffer has slid over the items that entered it. -/
structure Column.Slid (agent : Agent) (items : List (Telemetry kind)) (column : Column kind) :
    Prop where
  entered : column.entered.map (fun entry => entry.item.item) = agent.kept items
  buffer : column.buffer = column.entered.drop column.dropped
  evicted : column.evicted = column.entered.take column.dropped

/-- As far as the capacity asks. -/
structure Column.Settled (agent : Agent) (items : List (Telemetry kind)) (column : Column kind) :
    Prop extends column.Slid agent items where
  dropped : column.dropped = column.entered.length - agent.config.bufferSize

/-- So far, or with room for one more item. -/
structure Column.Sliding (agent : Agent) (items : List (Telemetry kind)) (column : Column kind) :
    Prop extends column.Slid agent items where
  dropped : column.dropped = column.entered.length - agent.config.bufferSize ∨
    agent.config.bufferOverflowPolicy = .drop ∧
      column.dropped = column.entered.length + 1 - agent.config.bufferSize

/-- The store has the records of the buffered items, those left behind, and these. -/
def CallLog.Stored (agent : Agent) (log : CallLog kind) (column : Column kind)
    (pending : List StoredRecord) : Prop :=
  (column.records.entries : Multiset StoredRecord) = column.buffer.filterMap agent.record? +
    log.undeleted.filterMap agent.record? + log.strays + pending

/-- A key in use was generated, for a store. -/
def Key.Valid (common : Common) (key : String) : Prop :=
  key ≠ "" ∧ common.redisHandler = true

/-- What holds of a call in each of its phases, after these calls. -/
def SendPhase.Calling (agent : Agent) (log : CallLog kind) (before : List (Telemetry kind))
    (item : Telemetry kind) (common : Common) (column : Column kind) : SendPhase kind → Prop
  | .enqueue sent => sent = item ∧ common.locked = false ∧ column.Sliding agent before ∧
      log.Stored agent column []
  | .persisting sent key => sent = item ∧ common.locked = true ∧ column.Sliding agent before ∧
      column.buffer.length < agent.config.bufferSize ∧ log.Stored agent column [] ∧
      key ∉ column.records ∧ Key.Valid common key
  | .pushing sent key => sent = item ∧ common.locked = true ∧ column.Sliding agent before ∧
      column.buffer.length < agent.config.bufferSize ∧
      log.Stored agent column (key.map fun key => ⟨key, agent.toRecord kind item⟩).toList ∧
      ∀ name ∈ key, Key.Valid common name
  | .forgetting sent key => sent = item ∧ common.locked = true ∧ column.Sliding agent before ∧
      column.buffer.length < agent.config.bufferSize ∧ agent.config.bufferOverflowPolicy = .drop ∧
      ∃ victim, column.evicted.getLast? = some victim ∧ victim.redisKey = some key ∧
        log.Stored agent column [⟨key, agent.toRecord kind victim.item.item⟩]
  | .returned result => common.locked = false ∧ column.Settled agent (before ++ [item]) ∧
      log.Stored agent column [] ∧ result = agent.answer before.length
  | .panicked => False

/-- How many actions the call takes at most. -/
def SendPhase.rank (agent : Agent) (column : Column kind) : SendPhase kind → ℕ
  | .enqueue _ => if column.buffer.length < agent.config.bufferSize then 3 else 5
  | .forgetting _ _ => 4
  | .persisting _ _ => 2
  | .pushing _ _ => 1
  | .returned _ => 0
  | .panicked => 0

/-- Every key in the buffer is a valid one. -/
def Column.Keyed (common : Common) (column : Column kind) : Prop :=
  ∀ entry ∈ column.buffer, ∀ key ∈ entry.redisKey, Key.Valid common key

/-- A generated key is a valid one when a store is attached. -/
theorem Key.valid_mint {common : Common} (handler : common.redisHandler = true) (nanos : ℕ)
    (uuid : String) : Key.Valid common (generateShortKey kind.keyPrefix nanos uuid) := by
  refine ⟨fun empty => ?_, handler⟩
  have short := congrArg String.length empty
  cases kind <;> simp [generateShortKey, Kind.keyPrefix] at short

/-- A valid key is in use. -/
theorem Key.Valid.live {common : Common} {key : String} (valid : Key.Valid common key) :
    liveKeys [some key] = [key] := by
  have full : (!key.isEmpty) = true := by
    rw [Bool.not_eq_true', Bool.eq_false_iff]
    exact fun empty => valid.1 (String.isEmpty_iff.mp empty)
  exact List.filter_cons_of_pos full

section Queue

variable {items : List (Telemetry kind)} {item : Telemetry kind} {column : Column kind}

/-- As many items entered as were kept. -/
theorem Column.Slid.length (slid : column.Slid agent items) :
    column.entered.length = (agent.kept items).length := by
  rw [← slid.entered, List.length_map]

/-- The buffer has what entered and was not dropped. -/
theorem Column.Slid.length_buffer (slid : column.Slid agent items) :
    column.buffer.length = column.entered.length - column.dropped := by
  rw [slid.buffer, List.length_drop]

/-- An eviction slides on by one item. -/
theorem Column.Slid.evict {victim : Entry kind} {rest : List (Entry kind)}
    (slid : column.Slid agent items) (front : column.buffer = victim :: rest) :
    (column.evictFront victim rest).Slid agent items := by
  have here := slid.buffer.symm.trans front
  refine ⟨slid.entered, ?_, ?_⟩
  · change rest = column.entered.drop (column.dropped + 1)
    rw [← List.drop_drop, here, List.drop_one, List.tail_cons]
  · change column.evicted ++ [victim] = column.entered.take (column.dropped + 1)
    rw [List.take_add, here, slid.evicted, List.take_succ_cons, List.take_zero]

/-- A push appends an item that is kept. -/
theorem Column.Slid.push (slid : column.Slid agent items) (key : Option String)
    (within : column.dropped ≤ column.entered.length)
    (keeps : agent.kept (items ++ [item]) = agent.kept items ++ [item]) :
    (column.pushBack item key).Slid agent (items ++ [item]) := by
  refine ⟨?_, ?_, ?_⟩
  · rw [keeps, ← slid.entered]
    exact List.map_append
  · change column.buffer ++ _ = (column.entered ++ _).drop column.dropped
    rw [List.drop_append_of_le_length within, ← slid.buffer]
  · change column.evicted = (column.entered ++ _).take column.dropped
    rw [List.take_append_of_le_length within, slid.evicted]

/-- Only the kept items matter to how far the buffer has slid. -/
theorem Column.Slid.mono {items' : List (Telemetry kind)} (slid : column.Slid agent items)
    (same : agent.kept items' = agent.kept items) : column.Slid agent items' :=
  ⟨slid.entered.trans same.symm, slid.buffer, slid.evicted⟩

/-- Under the policy to refuse, the first items are kept, up to the capacity. -/
theorem Agent.length_kept_of_raise (raises : agent.config.bufferOverflowPolicy = .raise) :
    (agent.kept items).length = min agent.config.bufferSize items.length := by
  rw [kept, raises, List.length_take]

/-- What there is room for is kept. -/
theorem Column.Sliding.keeps (sliding : column.Sliding agent items)
    (room : column.buffer.length < agent.config.bufferSize) (item : Telemetry kind) :
    agent.kept (items ++ [item]) = agent.kept items ++ [item] := by
  cases policy : agent.config.bufferOverflowPolicy with
  | raise =>
      have length := sliding.length
      have buffered := sliding.length_buffer
      have dropped := sliding.dropped
      rw [agent.length_kept_of_raise policy] at length
      rw [policy] at dropped
      have few : items.length < agent.config.bufferSize := by
        rcases dropped with none | ⟨drops, _⟩
        · omega
        · cases drops
      rw [Agent.kept, Agent.kept, policy]
      dsimp only
      rw [List.take_of_length_le few.le, List.take_of_length_le]
      rw [List.length_append, List.length_singleton]
      exact few
  | drop => rw [Agent.kept, Agent.kept, policy]
  | block => rw [Agent.kept, Agent.kept, policy]

/-- What `Raise` refuses is not kept. -/
theorem Column.Sliding.refuses (sliding : column.Sliding agent items)
    (full : agent.config.bufferSize ≤ column.buffer.length)
    (raises : agent.config.bufferOverflowPolicy = .raise) (item : Telemetry kind) :
    agent.kept (items ++ [item]) = agent.kept items ∧ agent.config.bufferSize ≤ items.length := by
  have length := sliding.length
  have buffered := sliding.length_buffer
  rw [agent.length_kept_of_raise raises] at length
  have many : agent.config.bufferSize ≤ items.length := by omega
  refine ⟨?_, many⟩
  rw [Agent.kept, Agent.kept, raises]
  exact List.take_append_of_le_length many

/-- A buffer that has slid as far as the capacity asks is a sliding one. -/
theorem Column.Settled.sliding (settled : column.Settled agent items) :
    column.Sliding agent items := ⟨settled.toSlid, Or.inl settled.dropped⟩

/-- A full buffer has not made room. -/
theorem Column.Sliding.full (sliding : column.Sliding agent items)
    (positive : 0 < agent.config.bufferSize)
    (full : agent.config.bufferSize ≤ column.buffer.length) : column.Settled agent items := by
  refine ⟨sliding.toSlid, ?_⟩
  have buffered := sliding.length_buffer
  have dropped := sliding.dropped
  omega

/-- An eviction makes room. -/
theorem Column.Sliding.evict {victim : Entry kind} {rest : List (Entry kind)}
    (sliding : column.Sliding agent items) (positive : 0 < agent.config.bufferSize)
    (full : agent.config.bufferSize ≤ column.buffer.length)
    (drops : agent.config.bufferOverflowPolicy = .drop) (front : column.buffer = victim :: rest) :
    (column.evictFront victim rest).Sliding agent items ∧
      (column.evictFront victim rest).buffer.length < agent.config.bufferSize := by
  have settled := (sliding.full positive full).dropped
  have buffered := sliding.length_buffer
  have length := congrArg List.length front
  rw [List.length_cons] at length
  refine ⟨⟨sliding.toSlid.evict front, Or.inr ⟨drops, ?_⟩⟩, ?_⟩
  · change column.dropped + 1 = column.entered.length + 1 - agent.config.bufferSize
    omega
  · change rest.length < agent.config.bufferSize
    omega

/-- The records do not matter for that. -/
theorem Column.Sliding.records (sliding : column.Sliding agent items) (records : Records) :
    ({ column with records := records } : Column kind).Sliding agent items :=
  ⟨⟨sliding.entered, sliding.buffer, sliding.evicted⟩, sliding.dropped⟩

/-- A push fills the room. -/
theorem Column.Sliding.push (sliding : column.Sliding agent items)
    (room : column.buffer.length < agent.config.bufferSize) (item : Telemetry kind)
    (key : Option String) : (column.pushBack item key).Settled agent (items ++ [item]) := by
  have buffered := sliding.length_buffer
  have dropped := sliding.dropped
  refine ⟨sliding.toSlid.push key (by omega) (sliding.keeps room item), ?_⟩
  change column.dropped = (column.entered ++ _).length - agent.config.bufferSize
  rw [List.length_append, List.length_singleton]
  omega

end Queue

section Store

variable {log : CallLog kind} {column : Column kind} {key text : String}

/-- A record under a new key. -/
theorem CallLog.Stored.write (stored : log.Stored agent column []) (new : key ∉ column.records)
    (text : String) :
    log.Stored agent { column with records := column.records.insert key text } [⟨key, text⟩] := by
  unfold Stored at stored ⊢
  rw [AList.entries_insert_of_notMem new, ← Multiset.cons_coe, stored, Multiset.coe_nil, add_zero,
    Multiset.coe_singleton, ← Multiset.singleton_add, add_comm]

/-- A record that is not held. -/
theorem CallLog.Stored.stray {record : StoredRecord} (stored : log.Stored agent column [record]) :
    { log with strays := log.strays ++ [record] }.Stored agent column [] := by
  unfold Stored at stored ⊢
  rw [stored, ← Multiset.coe_add, Multiset.coe_nil, add_zero, add_assoc]

/-- The record of an item that is buffered. -/
theorem CallLog.Stored.push {item : Telemetry kind} {key : Option String}
    (stored : log.Stored agent column
      (key.map fun key => ⟨key, agent.toRecord kind item⟩).toList) :
    log.Stored agent (column.pushBack item key) [] := by
  have pushed : (column.pushBack item key).buffer.filterMap agent.record? =
      column.buffer.filterMap agent.record? ++
        (key.map fun key => ⟨key, agent.toRecord kind item⟩).toList := by
    refine List.filterMap_append.trans (congrArg _ ?_)
    cases key <;> rfl
  unfold Stored at stored ⊢
  rw [pushed, ← Multiset.coe_add, Multiset.coe_nil, add_zero]
  refine Eq.trans stored ?_
  ac_rfl

/-- The record of an item that is evicted. -/
theorem CallLog.Stored.evict {victim : Entry kind} {rest : List (Entry kind)}
    (stored : log.Stored agent column []) (front : column.buffer = victim :: rest) :
    log.Stored agent (column.evictFront victim rest) (agent.record? victim).toList := by
  have split : column.buffer.filterMap agent.record? =
      (agent.record? victim).toList ++ rest.filterMap agent.record? := by
    rw [front, List.filterMap_cons]
    cases agent.record? victim <;> rfl
  unfold Stored at stored ⊢
  rw [split, ← Multiset.coe_add, Multiset.coe_nil, add_zero] at stored
  refine Eq.trans stored ?_
  change _ = (rest.filterMap agent.record? : Multiset StoredRecord) + _ + _ + _
  ac_rfl

/-- A record that is deleted. -/
theorem CallLog.Stored.erase (stored : log.Stored agent column [⟨key, text⟩]) :
    log.Stored agent { column with records := column.records.erase key } [] := by
  unfold Stored at stored ⊢
  rw [Multiset.coe_singleton, add_comm, Multiset.singleton_add] at stored
  simp only [Multiset.coe_add, Multiset.cons_coe, Multiset.coe_eq_coe] at stored ⊢
  rw [List.append_nil]
  exact (stored.kerase column.records.nodupKeys).trans (.of_eq (List.kerase_cons_eq rfl))

/-- A record that is not deleted. -/
theorem CallLog.Stored.leave {victim : Entry kind} {record : StoredRecord}
    (stored : log.Stored agent column [record]) (recorded : agent.record? victim = some record) :
    { log with undeleted := log.undeleted ++ [victim] }.Stored agent column [] := by
  have left : (log.undeleted ++ [victim]).filterMap agent.record? =
      log.undeleted.filterMap agent.record? ++ [record] := by
    rw [List.filterMap_append, List.filterMap_cons_some recorded]
    rfl
  unfold Stored at stored ⊢
  dsimp only
  rw [stored, left, ← Multiset.coe_add, Multiset.coe_nil, add_zero]
  ac_rfl

end Store

/-- Deleting one key erases it exactly if the reply says that it took effect. -/
theorem Records.deleteKeys_singleton (records : Records) (reply : StoreReply) (key : String) :
    records.deleteKeys reply [key] = if reply.affects key then records.erase key else records := by
  unfold deleteKeys
  by_cases affected : reply.affects key = true
  · rw [List.filter_cons_of_pos affected, if_pos affected]
    rfl
  · rw [List.filter_cons_of_neg affected, if_neg affected]
    rfl

/-- An operation that succeeded took effect for every key. -/
theorem StoreReply.affects_of_succeeded {reply : StoreReply} (succeeded : reply.succeeded = true)
    (key : String) : reply.affects key = true := by
  cases reply with
  | ok => rfl
  | failed applied => cases succeeded

section Phases

variable {choice : Choice} {log : CallLog kind} {before : List (Telemetry kind)}
  {item : Telemetry kind} {common common' : Common} {column column' : Column kind}
  {phase after : SendPhase kind} {started : List Task}

/-- A call that finds room is answered with success. -/
theorem Column.Sliding.answer (sliding : column.Sliding agent before)
    (room : column.buffer.length < agent.config.bufferSize) :
    agent.answer before.length = .ok () := by
  refine if_neg fun ⟨raises, many⟩ => ?_
  have length := sliding.length
  have buffered := sliding.length_buffer
  have dropped := sliding.dropped
  rw [agent.length_kept_of_raise raises] at length
  rw [raises] at dropped
  rcases dropped with none | ⟨drops, _⟩
  · omega
  · cases drops

/-- Pushing an item under a valid key keeps the keys valid. -/
theorem Column.Keyed.push (keyed : column.Keyed common) (item : Telemetry kind)
    {key : Option String} (valid : ∀ name ∈ key, Key.Valid common name) :
    (column.pushBack item key).Keyed common := by
  intro entry member
  rcases List.mem_append.mp member with earlier | new
  · exact keyed entry earlier
  · rw [List.mem_singleton.mp new]
    exact valid

/-- Evicting the front item keeps the keys valid. -/
theorem Column.Keyed.evict {victim : Entry kind} {rest : List (Entry kind)}
    (keyed : column.Keyed common) (front : column.buffer = victim :: rest) :
    (column.evictFront victim rest).Keyed common := by
  intro entry member
  apply keyed entry
  rw [front]
  exact List.mem_cons_of_mem victim member

/-- Whether an evicted item has a record is what its key says. -/
theorem Column.Keyed.front {victim : Entry kind} {rest : List (Entry kind)}
    (keyed : column.Keyed common) (front : column.buffer = victim :: rest) :
    victim.redisKey = none ∨ ∃ key, victim.redisKey = some key ∧
      liveKeys [victim.redisKey] = [key] ∧ common.redisHandler = true := by
  have valid := keyed victim (by simp [front])
  cases named : victim.redisKey with
  | none => exact Or.inl rfl
  | some key => exact Or.inr ⟨key, rfl, (valid key named).live, (valid key named).2⟩

/-- **What one action of a call does**, whatever the store answers. -/
theorem SendPhase.Acts.calling
    (acts : phase.Acts agent choice common column common' column' after started)
    (positive : 0 < agent.config.bufferSize) (policy : agent.config.bufferOverflowPolicy ≠ .block)
    (mints : ∀ sent, phase = .enqueue sent → common.redisHandler = true →
      column.buffer.length < agent.config.bufferSize →
      generateShortKey kind.keyPrefix choice.nanos choice.uuid ∉ column.records)
    (calling : phase.Calling agent log before item common column) (keyed : column.Keyed common) :
    after.Calling agent (log.act agent choice column.evicted phase) before item common' column' ∧
      column'.Keyed common' ∧ after.rank agent column' < phase.rank agent column := by
  cases acts with
  | persist sent free room handler =>
      obtain ⟨rfl, _, sliding, stored⟩ := calling
      refine ⟨⟨rfl, rfl, sliding, room, stored, mints sent rfl handler room,
        Key.valid_mint handler ..⟩, keyed, ?_⟩
      simp only [rank, if_pos room]
      decide
  | push sent free room handler =>
      obtain ⟨rfl, _, sliding, stored⟩ := calling
      refine ⟨⟨free, sliding.push room sent none, stored.push, (sliding.answer room).symm⟩,
        keyed.push sent (fun _ none => by cases none), ?_⟩
      simp only [rank, if_pos room]
      decide
  | panic sent free full drops empty =>
      rw [empty] at full
      exact absurd full (Nat.not_le.mpr positive)
  | evict sent victim rest free full drops front unkeyed =>
      obtain ⟨rfl, _, sliding, stored⟩ := calling
      obtain ⟨sliding, room⟩ := sliding.evict positive full drops front
      have keyless : victim.redisKey = none := by
        rcases keyed.front front with none | ⟨key, _, live, handler⟩
        · exact none
        · rw [live, handler] at unkeyed
          rcases unkeyed with none | none <;> cases none
      have left := stored.evict front
      rw [Agent.record?, keyless] at left
      refine ⟨⟨rfl, free, sliding, left⟩, keyed.evict front, ?_⟩
      simp only [rank]
      rw [if_pos room, if_neg (Nat.not_lt.mpr full)]
      decide
  | evictKeyed sent victim rest key free full drops front live handler =>
      obtain ⟨rfl, _, sliding, stored⟩ := calling
      obtain ⟨sliding, room⟩ := sliding.evict positive full drops front
      have named : victim.redisKey = some key := by
        rcases keyed.front front with none | ⟨other, named, only, _⟩
        · rw [none] at live
          cases live
        · rw [named, (List.cons.inj (only.symm.trans live)).1]
      have left := stored.evict front
      rw [Agent.record?, named] at left
      refine ⟨⟨rfl, rfl, sliding, room, drops, victim, List.getLast?_concat, named, left⟩,
        keyed.evict front, ?_⟩
      simp only [rank, if_neg (Nat.not_lt.mpr full)]
      decide
  | refuse sent free full raises =>
      obtain ⟨rfl, _, sliding, stored⟩ := calling
      obtain ⟨same, many⟩ := sliding.refuses full raises sent
      have settled := sliding.full positive full
      refine ⟨⟨free, ⟨settled.toSlid.mono same, settled.dropped⟩, stored,
        (if_pos ⟨raises, many⟩).symm⟩, keyed, ?_⟩
      simp only [rank, if_neg (Nat.not_lt.mpr full)]
      decide
  | wait sent free full blocks => exact absurd blocks policy
  | persisted sent key succeeded =>
      obtain ⟨rfl, locked, sliding, room, stored, new, valid⟩ := calling
      have written := stored.write new (agent.toRecord kind sent)
      simp only [CallLog.act, Records.setKey, succeeded, StoreReply.affects_of_succeeded succeeded,
        Bool.true_eq_false, false_and, ↓reduceIte]
      refine ⟨⟨rfl, locked, sliding.records _, room, written, ?_⟩, keyed, Nat.lt_succ_self 1⟩
      exact fun name same => Option.some.inj same ▸ valid
  | unpersisted sent key failed =>
      obtain ⟨rfl, locked, sliding, room, stored, new, valid⟩ := calling
      have written := stored.write new (agent.toRecord kind sent)
      refine ⟨⟨rfl, locked, sliding.records _, room, ?_, fun _ none => by cases none⟩, keyed,
        Nat.lt_succ_self 1⟩
      by_cases affected : choice.stored.affects key = true
      · simp only [CallLog.act, Records.setKey, failed, affected, and_self, ↓reduceIte]
        exact written.stray
      · simp only [CallLog.act, Records.setKey, affected, Bool.false_eq_true, and_false, ↓reduceIte]
        exact stored
  | pushed sent key =>
      obtain ⟨rfl, _, sliding, room, stored, valid⟩ := calling
      exact ⟨⟨rfl, sliding.push room sent key, stored.push, (sliding.answer room).symm⟩,
        keyed.push sent valid, Nat.zero_lt_one⟩
  | forgot sent key =>
      obtain ⟨rfl, _, sliding, room, _, victim, last, named, stored⟩ := calling
      refine ⟨⟨rfl, rfl, sliding.records _, ?_⟩, keyed, ?_⟩
      · rw [Records.deleteKeys_singleton]
        by_cases affected : choice.stored.affects key = true
        · simp only [CallLog.act, affected, ↓reduceIte]
          exact stored.erase
        · simp only [CallLog.act, affected, last]
          exact stored.leave (congrArg (Option.map _) named)
      · simp only [rank, if_pos room]
        decide

/-- A call that is refused has done nothing. -/
theorem SendPhase.Acts.refused {error : GuardAgentError}
    (acts : phase.Acts agent choice common column common' column' (.returned (.error error))
      started) :
    (∃ sent, phase = .enqueue sent) ∧ common' = common ∧ column' = column := by
  cases acts with
  | refuse sent free full raises => exact ⟨⟨sent, rfl⟩, rfl, rfl⟩

/-- Under `Raise` no call looks for room twice. -/
theorem SendPhase.Acts.enqueues_once {sent : Telemetry kind}
    (acts : phase.Acts agent choice common column common' column' (.enqueue sent) started)
    (raises : agent.config.bufferOverflowPolicy = .raise)
    (calling : phase.Calling agent log before item common column) : False := by
  generalize same : SendPhase.enqueue sent = after at acts
  cases acts with
  | evict item victim rest free full drops front unkeyed =>
      rw [raises] at drops
      cases drops
  | wait item free full blocks =>
      rw [raises] at blocks
      cases blocks
  | forgot item key =>
      obtain ⟨_, _, _, _, drops, _⟩ := calling
      rw [raises] at drops
      cases drops
  | _ => cases same

/-- Only a call that returns starts a flush. -/
theorem SendPhase.Acts.started_of_running
    (acts : phase.Acts agent choice common column common' column' after started)
    (running : ∀ result, after ≠ .returned result) : started = [] := by
  cases acts with
  | push sent free room handler => exact absurd rfl (running _)
  | pushed sent key => exact absurd rfl (running _)
  | _ => rfl

end Phases

namespace CallLog

variable {sent : Kind} (choice : Choice) (evicted : List (Entry kind)) (phase : SendPhase sent)
  (log : CallLog kind)

/-- An action of a call adds no item. -/
theorem items_act : (log.act agent choice evicted phase).items = log.items := by
  cases phase with
  | persisting item key =>
      simp only [act]
      split <;> rfl
  | _ => rfl

/-- An action of a call begins no call. -/
theorem begun_act : (log.act agent choice evicted phase).begun = log.begun := by
  cases phase with
  | persisting item key =>
      simp only [act]
      split <;> rfl
  | _ => rfl

/-- An action of a call is counted. -/
theorem actions_act : (log.act agent choice evicted phase).actions = log.actions + 1 := by
  cases phase with
  | persisting item key =>
      simp only [act]
      split <;> rfl
  | _ => rfl

end CallLog

/-- A column put back as it is changes nothing. -/
theorem Shared.update_eq_self (shared : Shared) (kind : Kind) :
    shared.update kind shared.toCommon (shared.columns kind) = shared := by
  rw [update, Function.update_eq_self]

/-- All calls have returned. -/
structure AtRest (agent : Agent) (log : CallLog kind) (pool : Pool Shared Task) : Prop where
  idle : ∀ task ∈ pool.tasks, task.isIdle = true
  answered : pool.tasks.filterMap Task.result? = (List.range log.items.length).map agent.answer
  unlocked : pool.shared.locked = false
  settled : (pool.shared.columns kind).Settled agent log.items
  stored : log.Stored agent (pool.shared.columns kind) []
  keyed : (pool.shared.columns kind).Keyed pool.shared.toCommon
  actions : log.actions ≤ 5 * log.items.length
  refused : agent.config.bufferOverflowPolicy = .raise →
    agent.config.bufferSize < log.items.length → pool.shared = log.begun

/-- One call is running. -/
structure Busy (agent : Agent) (log : CallLog kind) (pool : Pool Shared Task)
    (earlier : List Task) (before : List (Telemetry kind)) (item : Telemetry kind)
    (phase : SendPhase kind) : Prop where
  tasks : pool.tasks = earlier ++ [.send kind phase]
  idle : ∀ task ∈ earlier, task.isIdle = true
  answered : earlier.filterMap Task.result? = (List.range before.length).map agent.answer
  items : log.items = before ++ [item]
  calling : phase.Calling agent log before item pool.shared.toCommon (pool.shared.columns kind)
  keyed : (pool.shared.columns kind).Keyed pool.shared.toCommon
  running : ∀ result, phase ≠ .returned result
  actions : log.actions + phase.rank agent (pool.shared.columns kind) ≤ 5 * log.items.length
  refused : agent.config.bufferOverflowPolicy = .raise → (∃ sent, phase = .enqueue sent) →
    pool.shared = log.begun

/-- A call begins. -/
theorem AtRest.call {log : CallLog kind} {pool : Pool Shared Task} (rest : AtRest agent log pool)
    (item : Telemetry kind) :
    Busy agent { log with items := log.items ++ [item], begun := pool.shared }
      ⟨pool.shared, pool.tasks ++ [.send kind (.enqueue item)]⟩ pool.tasks log.items item
      (.enqueue item) where
  tasks := rfl
  idle := rest.idle
  answered := rest.answered
  items := rfl
  calling := ⟨rfl, rest.unlocked, rest.settled.sliding, rest.stored⟩
  keyed := rest.keyed
  running := fun _ same => by cases same
  actions := by
    have few := rest.actions
    have rank : (SendPhase.enqueue item).rank agent (pool.shared.columns kind) ≤ 5 := by
      simp only [SendPhase.rank]
      split <;> decide
    simp only [List.length_append, List.length_singleton]
    omega
  refused := fun _ _ => rfl

/-- A call acts. -/
theorem Busy.act {log : CallLog kind} {pool : Pool Shared Task} {earlier : List Task}
    {before : List (Telemetry kind)} {item : Telemetry kind} {phase after : SendPhase kind}
    {choice : Choice} {common : Common} {column : Column kind} {started : List Task}
    (busy : Busy agent log pool earlier before item phase)
    (positive : 0 < agent.config.bufferSize) (policy : agent.config.bufferOverflowPolicy ≠ .block)
    (mints : agent.Mints choice pool.shared (.send kind phase))
    (acts : phase.Acts agent choice pool.shared.toCommon (pool.shared.columns kind) common column
      after started) (begun : started = [] ∨ started = [.gatedFlush]) :
    let next : Pool Shared Task :=
      ⟨pool.shared.update kind common column, earlier ++ [.send kind after] ++ started⟩
    let log := log.act agent choice (pool.shared.columns kind).evicted phase
    AtRest agent log next ∨ Busy agent log next earlier before item after := by
  intro next log'
  obtain ⟨calling, keyed, fewer⟩ := acts.calling positive policy
    (fun sent same => by
      subst same
      exact mints) busy.calling busy.keyed
  have actions : log'.actions + after.rank agent column ≤ 5 * log.items.length := by
    have bound := busy.actions
    rw [CallLog.actions_act]
    omega
  have items : log'.items = before ++ [item] := (CallLog.items_act ..).trans busy.items
  have here : next.shared.columns kind = column := Shared.update_self ..
  by_cases returns : ∃ result, after = .returned result
  · obtain ⟨result, rfl⟩ := returns
    obtain ⟨unlocked, settled, stored, rfl⟩ := calling
    have many : log'.items.length = before.length + 1 := by
      rw [items, List.length_append, List.length_singleton]
    refine Or.inl ⟨?_, ?_, unlocked, ?_, ?_, ?_, ?_, ?_⟩
    · intro task member
      rcases List.mem_append.mp member with settled | new
      · rcases List.mem_append.mp settled with earlier | here
        · exact busy.idle task earlier
        · rw [List.mem_singleton.mp here]
          rfl
      · rcases begun with rfl | rfl
        · cases new
        · rw [List.mem_singleton.mp new]
          rfl
    · have unanswered : started.filterMap Task.result? = [] := by
        rcases begun with rfl | rfl <;> rfl
      rw [many, List.range_succ, List.map_append, ← busy.answered, List.filterMap_append,
        List.filterMap_append, unanswered, List.append_nil]
      rfl
    · rw [here, items]
      exact settled
    · rw [here]
      exact stored
    · rw [here]
      exact keyed
    · rw [CallLog.items_act]
      exact actions
    · intro raises beyond
      have refused : agent.answer before.length =
          .error (.bufferFull agent.config.bufferSize) := if_pos ⟨raises, by omega⟩
      rw [refused] at acts
      obtain ⟨enqueued, rfl, rfl⟩ := acts.refused
      rw [CallLog.begun_act, ← busy.refused raises enqueued]
      exact Shared.update_eq_self ..
  · have running : ∀ result, after ≠ .returned result := fun result same => returns ⟨result, same⟩
    obtain rfl := acts.started_of_running running
    refine Or.inr ⟨List.append_nil _, busy.idle, busy.answered, items, ?_, ?_, running, ?_, ?_⟩
    · rw [here]
      exact calling
    · rw [here]
      exact keyed
    · rw [here, CallLog.items_act]
      exact actions
    · rintro raises ⟨sent, rfl⟩
      exact (acts.enqueues_once raises busy.calling).elim

/-- All calls have returned, or one is running. -/
def InCalls (agent : Agent) (log : CallLog kind) (pool : Pool Shared Task) : Prop :=
  AtRest agent log pool ∨ ∃ earlier before item phase, Busy agent log pool earlier before item phase

/-- The running call is not idle. -/
theorem Busy.not_idle {log : CallLog kind} {pool : Pool Shared Task} {earlier : List Task}
    {before : List (Telemetry kind)} {item : Telemetry kind} {phase : SendPhase kind}
    (busy : Busy agent log pool earlier before item phase) :
    ¬ ∀ task ∈ pool.tasks, task.isIdle = true := by
  intro idle
  have here : (Task.send kind phase).isIdle = true := idle _ (by simp [busy.tasks])
  cases phase with
  | returned result => exact busy.running result rfl
  | _ => cases here

/-- Whatever is answered, the running call acts. -/
theorem Busy.acts {log : CallLog kind} {pool : Pool Shared Task} {earlier : List Task}
    {before : List (Telemetry kind)} {item : Telemetry kind} {phase : SendPhase kind}
    (busy : Busy agent log pool earlier before item phase) (choice : Choice) :
    (agent.machine.step? pool (.run earlier.length choice)).isSome := by
  have present : pool.tasks[earlier.length]? = some (.send kind phase) := by
    rw [busy.tasks, List.getElem?_concat_length]
  have calling := busy.calling
  have acts : (phase.act? agent choice pool.shared.toCommon (pool.shared.columns kind)).isSome := by
    cases phase with
    | enqueue sent =>
        obtain ⟨_, free, _⟩ := calling
        simp only [SendPhase.act?, free, Bool.false_eq_true, ↓reduceIte]
        repeat' split
        all_goals rfl
    | persisting sent key =>
        simp only [SendPhase.act?]
        split <;> rfl
    | pushing sent key => rfl
    | forgetting sent key => rfl
    | returned result => exact (busy.running result rfl).elim
    | panicked => exact calling.elim
  obtain ⟨⟨common, column, after, started⟩, acted⟩ := Option.isSome_iff_exists.mp acts
  have moved : agent.threads.act? (.send kind phase) choice pool.shared =
      some (pool.shared.update kind common column, .send kind after, started) :=
    congrArg (Option.map _) acted
  exact Option.isSome_iff_exists.mpr ⟨_, Threads.step_of_act present moved⟩

/-- A call that has returned does not act, and nothing else than calls does. -/
theorem Agent.Mints.not_idle {choice : Choice} {task after : Task} {shared shared' : Shared}
    {started : List Task} (mints : agent.Mints choice shared task) (idle : task.isIdle = true)
    (acted : task.act? agent choice shared = some (shared', after, started)) : False := by
  cases task with
  | send sent phase =>
      cases phase with
      | returned result => cases acted
      | _ => cases idle
  | gatedFlush => exact mints
  | _ => cases idle

/-- **Calls one after the other.** -/
theorem InCalls.step {log : CallLog kind} {pool next : Pool Shared Task}
    {label : PoolLabel Arrival Choice} (enabled : agent.enabled kind = true)
    (positive : 0 < agent.config.bufferSize) (policy : agent.config.bufferOverflowPolicy ≠ .block)
    (calls : InCalls agent log pool) (allowed : agent.Calls kind pool label)
    (stepped : agent.machine.step? pool label = some next) :
    InCalls agent (log.observe agent pool label next) next := by
  rcases Threads.step_cases stepped with ⟨arrival, shared, started, rfl, arrived, rfl⟩ |
    ⟨tid, choice, task, shared, after, started, rfl, present, moved, rfl⟩
  · cases arrival with
    | trySend sent item =>
        obtain ⟨rfl, idle⟩ := allowed
        rcases calls with rest | ⟨earlier, before, sent', phase, busy⟩
        · cases arrived
          simp only [CallLog.observe, enabled, ↓reduceIte, ↓reduceDIte]
          exact Or.inr ⟨_, _, _, _, rest.call _⟩
        · exact (busy.not_idle idle).elim
    | _ => exact allowed.elim
  · have mints := allowed task present
    rcases calls with rest | ⟨earlier, before, item, phase, busy⟩
    · have idle := rest.idle task (List.mem_of_getElem? present)
      exact (mints.not_idle idle moved).elim
    · have there := present
      rw [busy.tasks, List.getElem?_append] at there
      split at there
      · exact (mints.not_idle (busy.idle task (List.mem_of_getElem? there)) moved).elim
      · next beyond =>
          obtain ⟨within, same⟩ := List.getElem?_eq_some_iff.mp there
          rw [List.length_singleton, Nat.lt_one_iff] at within
          obtain rfl : tid = earlier.length := by omega
          obtain rfl : task = .send kind phase := by
            rw [← same]
            exact List.getElem_singleton _
          have here : pool.tasks.set earlier.length after = earlier ++ [after] := by
            rw [busy.tasks, List.set_append_right _ _ le_rfl, Nat.sub_self, List.set_cons_zero]
          simp only [CallLog.observe, present, here]
          have acted : Task.act? agent (.send kind phase) choice pool.shared =
              some (shared, after, started) := moved
          have begun := Task.act?_started acted
          cases Task.act?_acts acted with
          | send _ _ after common column _ acts =>
              exact (busy.act positive policy mints acts begun).imp_right fun busy =>
                ⟨_, _, _, _, busy⟩

/-- Nothing of this kind was buffered, counted or stored yet. -/
structure Shared.Vacant (kind : Kind) (shared : Shared) : Prop where
  unlocked : shared.locked = false
  column : shared.columns kind = .initial ∅

/-- Before the first call the agent is at rest. -/
theorem Shared.Vacant.atRest {start : Shared} (vacant : start.Vacant kind) :
    AtRest agent (⟨[], 0, start, [], [], []⟩ : CallLog kind) ⟨start, []⟩ where
  idle := fun _ none => (List.not_mem_nil none).elim
  answered := rfl
  unlocked := vacant.unlocked
  settled := by
    rw [vacant.column]
    refine ⟨⟨?_, rfl, rfl⟩, (Nat.zero_sub _).symm⟩
    rw [Agent.kept]
    split
    · exact List.take_nil.symm
    · rfl
  stored := by
    rw [vacant.column]
    rfl
  keyed := by
    rw [vacant.column]
    exact fun _ none => (List.not_mem_nil none).elim
  actions := le_rfl
  refused := fun _ many => (Nat.not_lt_zero _ many).elim

/-- A failed operation had no effect. -/
def StoreReply.plain : StoreReply → Bool
  | ok => true
  | failed applied => applied.isEmpty

/-- A store that only works or fails took effect exactly if it succeeded. -/
theorem StoreReply.affects_of_plain {reply : StoreReply} (effectless : reply.plain = true)
    (key : String) : reply.affects key = reply.succeeded := by
  cases reply with
  | ok => rfl
  | failed applied =>
      rw [List.isEmpty_iff.mp effectless]
      rfl

/-- The operations of the store that fail have no effect. -/
def plain : PoolLabel Arrival Choice → Bool
  | .arrive _ => true
  | .run _ choice => choice.stored.plain

/-- With such a store an action leaves no stray record, and no record undeleted but by a failure. -/
theorem CallLog.act_plain {sent : Kind} {choice : Choice} {log : CallLog kind}
    (effectless : choice.stored.plain = true) (evicted : List (Entry kind)) (phase : SendPhase sent)
    (left : log.strays = [] ∧ log.undeleted = log.failedDeletes) :
    (log.act agent choice evicted phase).strays = [] ∧
      (log.act agent choice evicted phase).undeleted =
        (log.act agent choice evicted phase).failedDeletes := by
  cases phase with
  | persisting item key =>
      simp only [act, StoreReply.affects_of_plain effectless]
      rw [if_neg fun both => Bool.false_ne_true (both.1.symm.trans both.2)]
      exact left
  | forgetting item key =>
      simp only [act, StoreReply.affects_of_plain effectless, left.2, and_true]
      exact left.1
  | _ => exact left

/-- With such a store a step leaves no stray record, and no record undeleted but by a failure. -/
theorem CallLog.observe_plain {log : CallLog kind} {before after : Pool Shared Task}
    {label : PoolLabel Arrival Choice} (effectless : plain label = true)
    (left : log.strays = [] ∧ log.undeleted = log.failedDeletes) :
    (log.observe agent before label after).strays = [] ∧
      (log.observe agent before label after).undeleted =
        (log.observe agent before label after).failedDeletes := by
  cases label with
  | arrive arrival =>
      cases arrival with
      | trySend sent item =>
          simp only [observe]
          split <;> exact left
      | _ => exact left
  | run tid choice =>
      simp only [observe]
      split
      · exact act_plain effectless _ _ left
      · exact left

instance (choice : Choice) (shared : Shared) (task : Task) :
    Decidable (agent.Mints choice shared task) :=
  match task with
  | .send _ (.enqueue _) => inferInstanceAs (Decidable (_ → _ → ¬ _ ∈ AList.keys _))
  | .send _ (.persisting _ _) => .isTrue trivial
  | .send _ (.pushing _ _) => .isTrue trivial
  | .send _ (.forgetting _ _) => .isTrue trivial
  | .send _ (.returned _) => .isTrue trivial
  | .send _ .panicked => .isTrue trivial
  | .flushBuffer => .isFalse id
  | .gatedFlush => .isFalse id
  | .flushIfNeeded => .isFalse id
  | .flush _ _ => .isFalse id
  | .clearBuffer => .isFalse id
  | .clearNamespace _ => .isFalse id
  | .start => .isFalse id
  | .connect => .isFalse id
  | .reload => .isFalse id
  | .lockForReload => .isFalse id
  | .load _ _ => .isFalse id
  | .finished => .isFalse id

instance (pool : Pool Shared Task) (label : PoolLabel Arrival Choice) :
    Decidable (agent.Calls kind pool label) :=
  match label with
  | .run tid choice =>
      inferInstanceAs (Decidable (∀ task ∈ pool.tasks[tid]?, agent.Mints choice pool.shared task))
  | .arrive (.trySend _ _) => inferInstanceAs (Decidable (_ ∧ ∀ task ∈ pool.tasks, _))
  | .arrive (.expire _ _) => .isFalse id
  | .arrive .flushBuffer => .isFalse id
  | .arrive .flushTick => .isFalse id
  | .arrive .clearBuffer => .isFalse id
  | .arrive .start => .isFalse id
  | .arrive .stop => .isFalse id
  | .arrive .attachRedisHandler => .isFalse id
  | .arrive (.elapse _) => .isFalse id

namespace Agent

/-- When failed operations have no effect, what is left behind is what failed to be deleted. -/
theorem callLog_plain {start : Shared} {labels : List (PoolLabel Arrival Choice)}
    {pool : Pool Shared Task}
    (run : agent.machine.RunUnder (agent.Calls kind) ⟨start, []⟩ labels pool)
    (effectless : ∀ label ∈ labels, plain label = true) :
    (agent.callLog kind start labels).strays = [] ∧
      (agent.callLog kind start labels).undeleted =
        (agent.callLog kind start labels).failedDeletes := by
  refine (run.with_labels effectless).history_invariant
    (fun _ (log : CallLog kind) => log.strays = [] ∧ log.undeleted = log.failedDeletes)
    ⟨rfl, rfl⟩ ?_
  intro before log label after left allowed _
  exact CallLog.observe_plain allowed.2 left

/-- **The overflow policies over runs.** Of calls of one kind one after the other, without a
flush, each returns after at most five actions, whatever the store answers. Under `Drop` all
are accepted, the last items stay in the buffer and the others are counted; under `Raise` the
first ones stay, and a call that is refused changes nothing. The records are those of the
buffered items and of the evicted items that were not deleted, and those that a failed
`set_key` wrote; when failed operations have no effect, they are those of the buffered items
and of the evicted items whose `delete_keys` failed. -/
theorem overflow_policies (agent : Agent) (kind : Kind) (enabled : agent.enabled kind = true)
    (positive : 0 < agent.config.bufferSize) (policy : agent.config.bufferOverflowPolicy ≠ .block)
    (start : Shared) (vacant : start.Vacant kind) (labels : List (PoolLabel Arrival Choice))
    (pool : Pool Shared Task)
    (run : agent.machine.RunUnder (agent.Calls kind) ⟨start, []⟩ labels pool) :
    let log := agent.callLog kind start labels
    let column := pool.shared.columns kind
    let count := log.items.length
    let capacity := agent.config.bufferSize
    let results := pool.tasks.filterMap Task.result?
    let buffered := column.buffer.map fun entry => entry.item.item
    log.actions ≤ 5 * count ∧
    ((∀ task ∈ pool.tasks, task.isIdle = true) ∨
      ∃ tid, ∀ choice, (agent.machine.step? pool (.run tid choice)).isSome) ∧
    ((∀ task ∈ pool.tasks, task.isIdle = true) →
      (agent.config.bufferOverflowPolicy = .drop →
        results = List.replicate count (.ok ()) ∧ buffered = log.items.drop (count - capacity) ∧
        column.dropped = count - capacity) ∧
      (agent.config.bufferOverflowPolicy = .raise →
        results = (List.range count).map (fun index =>
          if capacity ≤ index then .error (.bufferFull capacity) else .ok ()) ∧
        buffered = log.items.take capacity ∧ column.dropped = 0 ∧
        (capacity < count → pool.shared = log.begun)) ∧
      (column.records.entries : Multiset StoredRecord) = column.buffer.filterMap agent.record? +
        log.undeleted.filterMap agent.record? + log.strays ∧
      ((∀ label ∈ labels, plain label = true) →
        (column.records.entries : Multiset StoredRecord) = column.buffer.filterMap agent.record? +
          log.failedDeletes.filterMap agent.record?)) := by
  intro log column count capacity results buffered
  have calls : InCalls agent log pool :=
    run.history_invariant (fun pool log => InCalls agent log pool) (Or.inl vacant.atRest)
      fun _ _ _ _ calls allowed stepped => calls.step enabled positive policy allowed stepped
  refine ⟨?_, ?_, fun idle => ?_⟩
  · rcases calls with rest | ⟨_, _, _, _, busy⟩
    · exact rest.actions
    · exact (Nat.le_add_right _ _).trans busy.actions
  · rcases calls with rest | ⟨_, _, _, _, busy⟩
    · exact Or.inl rest.idle
    · exact Or.inr ⟨_, busy.acts⟩
  · have rest : AtRest agent log pool := by
      rcases calls with rest | ⟨_, _, _, _, busy⟩
      · exact rest
      · exact (busy.not_idle idle).elim
    have settled := rest.settled
    have entered : column.entered.map (fun entry => entry.item.item) = agent.kept log.items :=
      settled.entered
    have same : buffered = (agent.kept log.items).drop column.dropped := by
      rw [← entered, ← List.map_drop, ← settled.buffer]
    have length : column.entered.length = (agent.kept log.items).length := settled.length
    have dropped : column.dropped = column.entered.length - capacity := settled.dropped
    have stored := rest.stored
    rw [CallLog.Stored, Multiset.coe_nil, add_zero] at stored
    refine ⟨fun drops => ?_, fun raises => ?_, stored, fun effectless => ?_⟩
    · have all : agent.kept log.items = log.items := by
        rw [kept, drops]
      rw [all] at same length
      rw [length] at dropped
      refine ⟨rest.answered.trans ?_, dropped ▸ same, dropped⟩
      have accepted : agent.answer = fun _ => .ok () := by
        funext index
        exact if_neg fun both => by
          rw [drops] at both
          cases both.1
      rw [accepted, List.map_const', List.length_range]
    · have few : (agent.kept log.items).length ≤ capacity := by
        rw [length_kept_of_raise raises]
        exact Nat.min_le_left _ _
      have none : column.dropped = 0 := by omega
      have first : agent.kept log.items = log.items.take capacity := by
        rw [kept, raises]
      refine ⟨rest.answered.trans ?_, ?_, none, rest.refused raises⟩
      · refine List.map_congr_left fun index _ => ?_
        simp only [answer, raises, true_and]
        rfl
      · rw [same, none, List.drop_zero, first]
    · obtain ⟨none, undeleted⟩ : log.strays = [] ∧ log.undeleted = log.failedDeletes :=
        callLog_plain run effectless
      rw [stored, none, undeleted, Multiset.coe_nil, add_zero]

/-- A buffer of one item over a store whose second operation, the `delete_keys` of the evicted
item, fails. -/
theorem overflow_policies_of_failed_delete :
    let agent := Agent.sample { AgentConfig.new "test-api-key-1234" with bufferSize := 1 } []
    let start := { agent.initial fun _ => ∅ with redisHandler := true }
    ∃ labels pool, agent.machine.RunUnder (agent.Calls .metrics) ⟨start, []⟩ labels pool ∧
      pool.tasks.filterMap Task.result? = [.ok (), .ok ()] ∧
      (pool.shared.columns .metrics).dropped = 1 ∧
      ((pool.shared.columns .metrics).records.entries : Multiset StoredRecord) =
        (pool.shared.columns .metrics).buffer.filterMap agent.record? +
          (agent.callLog .metrics start labels).failedDeletes.filterMap agent.record? ∧
      (pool.shared.columns .metrics).records.entries.length = 2 := by
  intro agent start
  let act (tid nanos : ℕ) (stored : StoreReply) : PoolLabel Arrival Choice :=
    .run tid (.sample nanos stored fun _ => .clientError "connection refused")
  let labels := [.arrive (.trySend .metrics (sampleMetric 1 [])), act 0 1 .ok, act 0 1 .ok,
    act 0 1 .ok, .arrive (.trySend .metrics (sampleMetric 2 [])), act 1 2 .ok,
    act 1 2 (.failed []), act 1 2 .ok, act 1 2 .ok, act 1 2 .ok]
  obtain ⟨pool, run, checked⟩ := @Machine.exists_runUnder _ _ agent.machine (agent.Calls .metrics) _
    ⟨start, []⟩ labels
    (fun pool => (∀ task ∈ pool.tasks, task.isIdle = true) ∧
      (pool.shared.columns .metrics).records.entries.length = 2) (by decide +kernel)
  obtain ⟨idle, two⟩ := of_decide_eq_true checked
  have sent : (agent.callLog .metrics start labels).items.length = 2 := by decide +kernel
  have spec := overflow_policies agent .metrics rfl (by decide) (by decide) start ⟨rfl, rfl⟩ labels
    pool run
  obtain ⟨_, _, returned⟩ := spec
  obtain ⟨drops, _, _, stored⟩ := returned idle
  obtain ⟨results, _, dropped⟩ := drops rfl
  rw [sent] at results dropped
  exact ⟨labels, pool, run, results, dropped, stored (by decide), two⟩

end Agent

end GuardAgent
