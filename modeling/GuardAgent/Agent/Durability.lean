import GuardAgent.Agent.Conservation

/-!
# Durability

What is held under a key has its record in the store, and no two items are held under
one key, as long as nothing is generated, loaded or cleared against the keys in memory
(`Ledger.careful`). Reloading and clearing go against them
(`Agent.reload_of_buffered_key`, `Agent.clear_of_persisted_key`).
-/

namespace GuardAgent

open Foundation

namespace Records

variable {records : Records} {key other : String}

/-- A record that was set is found under its key. -/
theorem lookup_setKey (records : Records) (key value : String) :
    (records.setKey .ok key value).lookup key = some value :=
  AList.lookup_insert records

/-- Setting a record leaves the other keys alone. -/
theorem lookup_setKey_of_ne (different : other ≠ key) (reply : StoreReply) (value : String) :
    (records.setKey reply key value).lookup other = records.lookup other := by
  unfold setKey
  split
  · exact AList.lookup_insert_ne different
  · rfl

/-- Deleting keys leaves the other keys alone. -/
theorem lookup_deleteKeys_of_notMem {keys : List String} (kept : key ∉ keys)
    (reply : StoreReply) : (records.deleteKeys reply keys).lookup key = records.lookup key := by
  unfold deleteKeys
  have spared : key ∉ keys.filter reply.affects := fun member =>
    kept (List.mem_of_mem_filter member)
  generalize keys.filter reply.affects = gone at spared ⊢
  induction gone generalizing records with
  | nil => rfl
  | cons first gone ih =>
      rw [List.foldl_cons, ih fun member => spared (List.mem_cons_of_mem first member)]
      exact AList.lookup_erase_ne fun same => spared (same ▸ List.mem_cons_self)

end Records

namespace Ledger

variable {kind : Kind}

/-- Items under keys. -/
abbrev Keyed (kind : Kind) : Type := Multiset (String × Telemetry kind)

def Keyed.keys (pairs : Keyed kind) : Multiset String := pairs.map Prod.fst

/-- What some entries hold under a key. -/
def keyed (entries : Multiset (Entry kind)) : Keyed kind :=
  entries.filterMap fun entry => entry.redisKey.map fun key => (key, entry.item.item)

/-- What is held under a key: buffered, in flight, or about to be buffered. -/
def held (ledger : Ledger kind) : Keyed kind :=
  keyed ledger.buffer + keyed ledger.inFlight + ledger.arriving

/-- All keys in memory, also those that are about to be written or deleted. -/
def keys (ledger : Ledger kind) : Multiset String :=
  ledger.writing + Keyed.keys ledger.held + ledger.doomed

/-- No key is in memory twice, and what is held under a key has its record, which stands
for the item. -/
structure Durable (standsFor : String → Telemetry kind → Prop) (ledger : Ledger kind) :
    Prop where
  distinct : ledger.keys.Nodup
  recorded : ∀ pair ∈ ledger.held, ∃ value, ledger.records.lookup pair.1 = some value ∧
    standsFor value pair.2

/-- A generated key is new in memory, a record whose key is in memory is neither loaded nor
expires, and the records are cleared only when nothing is held under a key. -/
def careful (sends : Telemetry kind → Prop) (ledger : Ledger kind) : Guards kind where
  send := sends
  mint key := key ∉ ledger.keys
  load key _ := key ∉ ledger.keys
  clear := ledger.held = 0
  expire key := key ∉ ledger.keys

namespace Keyed

variable (first second : Keyed kind)

/-- Nothing has no keys. -/
@[simp] theorem keys_zero : keys (0 : Keyed kind) = 0 := rfl

/-- The keys of a sum are those of its parts. -/
@[simp] theorem keys_add : keys (first + second) = keys first + keys second := Multiset.map_add ..

/-- One item under a key has that key. -/
@[simp] theorem keys_singleton (key : String) (item : Telemetry kind) :
    keys ({(key, item)} : Keyed kind) = {key} := rfl

/-- The key of a member is among the keys. -/
theorem mem_keys {pairs : Keyed kind} {pair : String × Telemetry kind} (member : pair ∈ pairs) :
    pair.1 ∈ pairs.keys := Multiset.mem_map_of_mem Prod.fst member

end Keyed

/-- No entries hold nothing under a key. -/
@[simp] theorem keyed_zero : keyed (0 : Multiset (Entry kind)) = 0 := rfl

/-- What a sum of entries holds is what its parts hold. -/
@[simp] theorem keyed_add (first second : Multiset (Entry kind)) :
    keyed (first + second) = keyed first + keyed second :=
  Multiset.filterMap_add ..

/-- What two lists of entries hold in a row is what each of them holds. -/
@[simp] theorem keyed_append (first second : List (Entry kind)) :
    keyed ((first ++ second : List (Entry kind)) : Multiset (Entry kind)) =
      keyed (first : Multiset (Entry kind)) + keyed (second : Multiset (Entry kind)) := by
  rw [← Multiset.coe_add, keyed_add]

/-- An entry without a key holds nothing under a key. -/
@[simp] theorem keyed_none (occurrence : Occurrence kind) :
    keyed ({⟨occurrence, none⟩} : Multiset (Entry kind)) = 0 := rfl

/-- An entry with a key holds its item under it. -/
@[simp] theorem keyed_some (occurrence : Occurrence kind) (key : String) :
    keyed ({⟨occurrence, some key⟩} : Multiset (Entry kind)) = {(key, occurrence.item)} := rfl

/-- What is held by a list is what its head and its tail hold. -/
theorem keyed_cons (entry : Entry kind) (entries : List (Entry kind)) :
    keyed ((entry :: entries : List (Entry kind)) : Multiset (Entry kind)) =
      keyed {entry} + keyed (entries : Multiset (Entry kind)) :=
  keyed_append [entry] entries

/-- An item is held under a key exactly if an entry has both. -/
theorem mem_keyed {entries : Multiset (Entry kind)} {pair : String × Telemetry kind} :
    pair ∈ keyed entries ↔ ∃ entry ∈ entries, entry.redisKey = some pair.1 ∧
      entry.item.item = pair.2 := by
  simp only [keyed, Multiset.mem_filterMap, Option.map_eq_some_iff]
  constructor
  · intro member
    obtain ⟨entry, inside, key, found, same⟩ := member
    subst same
    exact ⟨entry, inside, found, rfl⟩
  · intro member
    obtain ⟨entry, inside, found, same⟩ := member
    exact ⟨entry, inside, pair.1, found, Prod.ext rfl same⟩

/-- The keys that entries let go of are among those they were held under. -/
theorem keysOf_le (entries : List (Entry kind)) : ((keysOf entries : List String) :
    Multiset String) ≤ Keyed.keys (keyed (entries : Multiset (Entry kind))) := by
  have names : Keyed.keys (keyed (entries : Multiset (Entry kind))) =
      ((entries.map BufferedItem.redisKey).filterMap id : List String) := by
    rw [Keyed.keys, keyed, Multiset.map_filterMap, Multiset.filterMap_coe, List.filterMap_map]
    congr 2
    funext entry
    exact Option.map_map .. |>.trans (Option.map_id' ..)
  rw [names]
  exact Multiset.coe_le.mpr List.filter_sublist.subperm

/-- What a share holds under a key. -/
def heldBy (share : Stake kind) : Keyed kind := keyed share.inFlight + share.arriving

/-- The keys of a share. -/
def keysBy (share : Stake kind) : Multiset String :=
  share.writing + (heldBy share).keys + share.doomed

/-- What two shares hold together is what each of them holds. -/
theorem heldBy_add (share rest : Stake kind) :
    heldBy (share + rest) = heldBy share + heldBy rest := by
  simp only [heldBy, Stake.add_inFlight, Stake.add_arriving, keyed_add]
  ac_rfl

/-- The keys of two shares together are those of each of them. -/
theorem keysBy_add (share rest : Stake kind) :
    keysBy (share + rest) = keysBy share + keysBy rest := by
  simp only [keysBy, heldBy_add, Keyed.keys_add, Stake.add_writing, Stake.add_doomed]
  ac_rfl

/-- What is held is in the buffer or with the tasks. -/
theorem held_eq (ledger : Ledger kind) :
    ledger.held = keyed (ledger.buffer : Multiset (Entry kind)) + heldBy ledger.toStake :=
  add_assoc ..

/-- The keys in memory are in the buffer or with the tasks. -/
theorem keys_eq (ledger : Ledger kind) :
    ledger.keys = Keyed.keys (keyed (ledger.buffer : Multiset (Entry kind))) +
      keysBy ledger.toStake := by
  simp only [keys, held_eq, keysBy, Keyed.keys_add]
  ac_rfl

variable {agent : Agent} {standsFor : String → Telemetry kind → Prop}
  {sends : Telemetry kind → Prop} {before after : Ledger kind}

/-- Keys that leave memory do no harm. -/
theorem Durable.shrink (durable : Durable standsFor before) (keys : after.keys ≤ before.keys)
    (held : after.held ≤ before.held)
    (kept : ∀ pair ∈ after.held, after.records.lookup pair.1 = before.records.lookup pair.1) :
    Durable standsFor after := by
  refine ⟨Multiset.nodup_of_le keys durable.distinct, fun pair member => ?_⟩
  obtain ⟨value, found, read⟩ := durable.recorded pair (Multiset.mem_of_le held member)
  exact ⟨value, (kept pair member).trans found, read⟩

/-- What is held under a key is buffered, in flight or arriving. -/
theorem mem_held {ledger : Ledger kind} {pair : String × Telemetry kind} :
    pair ∈ ledger.held ↔ (pair ∈ keyed (ledger.buffer : Multiset (Entry kind)) ∨
      pair ∈ keyed ledger.inFlight) ∨ pair ∈ ledger.arriving := by
  rw [held, Multiset.mem_add, Multiset.mem_add]

/-- A share and the buffer may be traded for others that together name and hold no more. -/
theorem Durable.trade {share share' rest : Stake kind} (durable : Durable standsFor before)
    (staked : before.toStake = share + rest) (traded : after.toStake = share' + rest)
    (records : after.records = before.records)
    (keys : Keyed.keys (keyed (after.buffer : Multiset (Entry kind))) + keysBy share' ≤
      Keyed.keys (keyed (before.buffer : Multiset (Entry kind))) + keysBy share)
    (held : keyed (after.buffer : Multiset (Entry kind)) + heldBy share' ≤
      keyed (before.buffer : Multiset (Entry kind)) + heldBy share) :
    Durable standsFor after := by
  refine durable.shrink ?_ ?_ fun pair _ => by rw [records]
  · rw [keys_eq, keys_eq, staked, traded, keysBy_add, keysBy_add, ← add_assoc, ← add_assoc]
    exact add_le_add_left keys (keysBy rest)
  · rw [held_eq, held_eq, staked, traded, heldBy_add, heldBy_add, ← add_assoc, ← add_assoc]
    exact add_le_add_left held (heldBy rest)

/-- What a share holds is no longer held when the share is given up. -/
theorem Durable.release {share rest : Stake kind} {records : Records}
    (durable : Durable standsFor before) (staked : before.toStake = share + rest)
    (kept : ∀ pair ∈ before.held, records.lookup pair.1 = before.records.lookup pair.1) :
    Durable standsFor { before with toStake := rest, records := records } := by
  have held : ({ before with toStake := rest, records := records } : Ledger kind).held ≤
      before.held := by
    rw [held_eq, held_eq, staked, heldBy_add]
    exact add_le_add_right (Multiset.le_add_left ..) _
  refine durable.shrink ?_ held fun pair member => kept pair (Multiset.mem_of_le held member)
  rw [keys_eq, keys_eq, staked, keysBy_add]
  exact add_le_add_right (Multiset.le_add_left ..) _

/-- The keys of a batch that was disposed of are about to be deleted. -/
theorem Durable.dispose {rest : Stake kind} {batch : List (Entry kind)} (count : ℕ)
    (durable : Durable standsFor before)
    (staked : before.toStake = { inFlight := batch, unrecorded := batch.length } + rest) :
    Durable standsFor
      { before with toStake := { doomed := keysOf batch, unrecorded := count } + rest } := by
  refine durable.trade staked rfl rfl ?_ ?_
  · simpa only [keysBy, heldBy, keyed_zero, add_zero, zero_add, Keyed.keys_zero] using
      add_le_add_right (keysOf_le batch) _
  · simp only [heldBy, keyed_zero, add_zero]
    exact Multiset.le_add_right ..

/-- A key that is being written is not held. -/
theorem Durable.ne_of_writing (durable : Durable standsFor before) {key : String}
    (writing : key ∈ before.writing) {pair : String × Telemetry kind}
    (member : pair ∈ before.held) : pair.1 ≠ key := by
  intro same
  have apart := (Multiset.nodup_add.mp (Multiset.nodup_add.mp durable.distinct).1).2.2
  exact Multiset.disjoint_left.mp apart writing (same ▸ Keyed.mem_keys member)

/-- A key that is about to be deleted is not held. -/
theorem Durable.ne_of_doomed (durable : Durable standsFor before) {key : String}
    (doomed : key ∈ before.doomed) {pair : String × Telemetry kind}
    (member : pair ∈ before.held) : pair.1 ≠ key := by
  intro same
  have apart := (Multiset.nodup_add.mp durable.distinct).2.2
  have held : key ∈ Keyed.keys before.held := same ▸ Keyed.mem_keys member
  exact Multiset.disjoint_left.mp apart (Multiset.mem_add.mpr (Or.inr held)) doomed

/-- A share may name a key that is new. -/
theorem Durable.fresh {share : Stake kind} {key : String} (durable : Durable standsFor before)
    (one : keysBy share = {key}) (fresh : key ∉ before.keys) :
    ({ before with toStake := share + before.toStake } : Ledger kind).keys.Nodup := by
  have same : ({ before with toStake := share + before.toStake } : Ledger kind).keys =
      key ::ₘ before.keys := by
    rw [keys_eq, keys_eq, keysBy_add, one, ← Multiset.singleton_add]
    exact add_left_comm ..
  rw [same]
  exact Multiset.nodup_cons.mpr ⟨fresh, durable.distinct⟩

/-- A new key can be held when its record yields the item. -/
theorem Durable.hold (durable : Durable standsFor before) (key : String) (item : Telemetry kind)
    (distinct : after.keys.Nodup)
    (held : ∀ pair ∈ after.held, pair = (key, item) ∨ pair ∈ before.held ∧
      after.records.lookup pair.1 = before.records.lookup pair.1)
    (found : ∃ value, after.records.lookup key = some value ∧ standsFor value item) :
    Durable standsFor after := by
  refine ⟨distinct, fun pair member => ?_⟩
  cases held pair member with
  | inl new =>
      subst new
      exact found
  | inr old =>
      obtain ⟨value, present, read⟩ := durable.recorded pair old.1
      exact ⟨value, old.2.trans present, read⟩

/-- **Careful moves keep the records.** -/
theorem Move.durable (move : Move agent (before.careful sends) before after)
    (written : ∀ item, sends item → standsFor (agent.toRecord kind item) item)
    (loaded : ∀ value item, agent.fromRecord kind value = some item → standsFor value item)
    (durable : Durable standsFor before) : Durable standsFor after := by
  cases move with
  | stay => exact durable
  | enter item sent =>
      refine durable.trade (zero_add _).symm rfl rfl ?_ ?_
      · simp [keysBy, heldBy]
      · simp [heldBy]
  | mint key fresh =>
      exact ⟨durable.fresh rfl fresh, fun pair member =>
        durable.recorded pair (by simpa [held] using member)⟩
  | write rest key item sent staked =>
      have writing : key ∈ before.writing := by simp [staked]
      have distinct := durable.distinct
      rw [keys_eq, staked, keysBy_add] at distinct
      refine durable.hold key item ?_ (fun pair member => ?_)
        ⟨_, Records.lookup_setKey .., written item sent⟩
      · rw [keys_eq, keysBy_add]
        exact distinct
      · have old : pair = (key, item) ∨ pair ∈ before.held := by
          simp only [mem_held, staked, Stake.add_inFlight, Stake.add_arriving, zero_add,
            Multiset.mem_add, Multiset.mem_singleton] at member ⊢
          tauto
        refine old.imp_right fun inside => ⟨inside, ?_⟩
        exact Records.lookup_setKey_of_ne (durable.ne_of_writing writing inside) _ _
  | writeFailed rest key item applied sent staked =>
      have writing : key ∈ before.writing := by simp [staked]
      refine durable.release staked fun pair inside => ?_
      exact Records.lookup_setKey_of_ne (durable.ne_of_writing writing inside) _ _
  | load key value item read parsed fresh =>
      refine durable.hold key item (durable.fresh rfl fresh) (fun pair member => ?_)
        ⟨value, read, loaded value item parsed⟩
      simp only [mem_held, Stake.add_inFlight, Stake.add_arriving, zero_add, Multiset.mem_add,
        Multiset.mem_singleton] at member ⊢
      tauto
  | arrive rest key item returned reloaded one staked =>
      refine durable.trade staked rfl rfl ?_ ?_
      · simp [keysBy, heldBy]
      · simp [heldBy]
  | evict victim buffer doomed stake buffered forgotten staked =>
      have forgetting : (doomed : Multiset String) ≤
          Keyed.keys (keyed ({victim} : Multiset (Entry kind))) := by
        cases forgotten with
        | inl none => simp only [none, Multiset.coe_nil, Multiset.zero_le]
        | inr all =>
            rw [all]
            exact keysOf_le [victim]
      refine durable.trade (zero_add _).symm staked rfl ?_ ?_
      · rw [buffered, keyed_cons, Keyed.keys_add, add_comm (Keyed.keys (keyed {victim}))]
        simpa [keysBy, heldBy] using forgetting
      · simp [heldBy, buffered, keyed_cons]
  | drain =>
      refine durable.trade (zero_add _).symm rfl rfl ?_ ?_
      · simp [keysBy, heldBy]
      · simp [heldBy]
  | accept rest batch staked =>
      have disposed := durable.dispose batch.length staked
      exact ⟨disposed.distinct, disposed.recorded⟩
  | reject rest batch staked =>
      have disposed := durable.dispose 0 staked
      exact ⟨disposed.distinct, disposed.recorded⟩
  | requeue rest batch buffer victims staked balance =>
      have same := congrArg keyed balance
      simp only [keyed_add] at same
      refine durable.trade staked rfl rfl ?_ ?_
      · have balanced := congrArg Keyed.keys same
        simp only [Keyed.keys_add] at balanced
        simpa [keysBy, heldBy, ← balanced] using keysOf_le victims
      · simp [heldBy, ← same]
  | recordSent rest count staked =>
      have released := durable.release staked fun _ _ => rfl
      exact ⟨released.distinct, released.recorded⟩
  | recordFailed rest count staked =>
      have released := durable.release staked fun _ _ => rfl
      exact ⟨released.distinct, released.recorded⟩
  | delete rest keys reply staked =>
      refine durable.release staked fun pair inside => ?_
      refine Records.lookup_deleteKeys_of_notMem (fun gone => ?_) reply
      have doomed : pair.1 ∈ before.doomed := by simp [staked, gone]
      exact durable.ne_of_doomed doomed inside rfl
  | spare rest keys staked =>
      exact durable.release staked fun _ _ => rfl
  | wipe =>
      refine durable.trade (zero_add _).symm (zero_add _).symm rfl ?_ ?_
      · simp [keysBy, heldBy]
      · simp [heldBy]
  | clear reply empty =>
      have empty : before.held = 0 := empty
      refine ⟨durable.distinct, fun pair member => ?_⟩
      have inside : pair ∈ before.held := member
      rw [empty] at inside
      exact (Multiset.notMem_zero pair inside).elim
  | expire key unused =>
      refine durable.shrink le_rfl le_rfl fun pair member => ?_
      refine AList.lookup_erase_ne fun same => unused ?_
      have inside : pair.1 ∈ Keyed.keys before.held := Keyed.mem_keys member
      exact Multiset.mem_add.mpr (Or.inl (Multiset.mem_add.mpr (Or.inr (same ▸ inside))))

/-- The keys of what is held are those of the entries. -/
theorem keys_keyed (entries : Multiset (Entry kind)) :
    Keyed.keys (keyed entries) = entries.filterMap BufferedItem.redisKey := by
  rw [Keyed.keys, keyed, Multiset.map_filterMap]
  congr 1
  funext entry
  exact Option.map_map .. |>.trans (Option.map_id' ..)

/-- A new agent has nothing in memory. -/
theorem initial_durable (agent : Agent) (records : Kind → Records) :
    (ledger kind ⟨agent.initial records, []⟩).Durable standsFor :=
  ⟨Multiset.nodup_zero, fun pair member => (Multiset.notMem_zero pair member).elim⟩

/-- What is buffered or in flight under a key has its record. -/
theorem Durable.record {ledger : Ledger kind} (durable : Durable standsFor ledger)
    {entry : Entry kind} (present : entry ∈ ledger.buffer ∨ entry ∈ ledger.inFlight)
    {key : String} (named : entry.redisKey = some key) :
    ∃ value, ledger.records.lookup key = some value ∧ standsFor value entry.item.item := by
  have inside : (key, entry.item.item) ∈ ledger.held := by
    refine mem_held.mpr (Or.inl (present.imp (fun buffered => ?_) fun flying => ?_))
    · exact mem_keyed.mpr ⟨entry, buffered, named, rfl⟩
    · exact mem_keyed.mpr ⟨entry, flying, named, rfl⟩
  exact durable.recorded _ inside

/-- A buffered item or one in flight has its record. -/
theorem Durable.lookup {ledger : Ledger kind} (durable : Durable standsFor ledger)
    {entry : Entry kind} (present : entry ∈ ledger.buffer ∨ entry ∈ ledger.inFlight)
    {key : String} (named : entry.redisKey = some key) : (ledger.records.lookup key).isSome := by
  obtain ⟨value, found, _⟩ := durable.record present named
  exact Option.isSome_iff_exists.mpr ⟨value, found⟩

end Ledger

section Permits

variable (agent : Agent) (guards : (kind : Kind) → Guards kind)
  [∀ kind key, Decidable ((guards kind).mint key)]
  [∀ kind key item, Decidable ((guards kind).load key item)]
  [∀ kind, Decidable (guards kind).clear] [∀ kind key, Decidable ((guards kind).expire key)]

instance (kind : Kind) (phase : SendPhase kind) (choice : Choice) (common : Common)
    (column : Column kind) : Decidable (phase.Permits agent (guards kind) choice common column) :=
  match phase with
  | .enqueue _ => inferInstanceAs (Decidable (_ → _ → (guards kind).mint _))
  | .persisting _ _ => .isTrue trivial
  | .pushing _ _ => .isTrue trivial
  | .forgetting _ _ => .isTrue trivial
  | .returned _ => .isTrue trivial
  | .panicked => .isTrue trivial

instance (kind : Kind) (phase : LoadPhase kind) (column : Column kind) :
    Decidable (phase.Permits agent (guards kind) column) :=
  match phase with
  | .listing => .isTrue trivial
  | .getting [] => .isTrue trivial
  | .getting (_ :: _) => inferInstanceAs (Decidable (∀ item ∈ _, (guards kind).load _ item))
  | .loaded _ _ _ => .isTrue trivial
  | .forgetting _ _ _ _ => .isTrue trivial
  | .appending _ _ _ => .isTrue trivial
  | .finished => .isTrue trivial

instance (task : Task) (choice : Choice) (shared : Shared) :
    Decidable (task.Permits agent guards choice shared) :=
  match task with
  | .send kind phase => inferInstanceAs (Decidable (phase.Permits agent (guards kind) _ _ _))
  | .load kind phase => inferInstanceAs (Decidable (phase.Permits agent (guards kind) _))
  | .clearNamespace kind => inferInstanceAs (Decidable (guards kind).clear)
  | .flushBuffer => .isTrue trivial
  | .gatedFlush => .isTrue trivial
  | .flushIfNeeded => .isTrue trivial
  | .flush _ _ => .isTrue trivial
  | .clearBuffer => .isTrue trivial
  | .start => .isTrue trivial
  | .connect => .isTrue trivial
  | .reload => .isTrue trivial
  | .lockForReload => .isTrue trivial
  | .finished => .isTrue trivial

instance (pool : Pool Shared Task) (label : PoolLabel Arrival Choice) :
    Decidable (agent.Permits guards pool label) :=
  match label with
  | .run tid choice =>
      inferInstanceAs (Decidable (∀ task ∈ pool.tasks[tid]?, task.Permits agent guards choice _))
  | .arrive (.expire kind key) => inferInstanceAs (Decidable ((guards kind).expire key))
  | .arrive (.trySend _ _) => .isTrue trivial
  | .arrive .flushBuffer => .isTrue trivial
  | .arrive .flushTick => .isTrue trivial
  | .arrive .clearBuffer => .isTrue trivial
  | .arrive .start => .isTrue trivial
  | .arrive .stop => .isTrue trivial
  | .arrive .attachRedisHandler => .isTrue trivial
  | .arrive (.elapse _) => .isTrue trivial

end Permits

section Careful

variable {kind : Kind} (sends : Telemetry kind → Prop) (ledger : Ledger kind)

instance (key : String) : Decidable ((ledger.careful sends).mint key) :=
  inferInstanceAs (Decidable (key ∉ ledger.keys))

instance (key : String) (item : Telemetry kind) :
    Decidable ((ledger.careful sends).load key item) :=
  inferInstanceAs (Decidable (key ∉ ledger.keys))

instance : Decidable (ledger.careful sends).clear :=
  decidable_of_iff (ledger.held.card = 0) Multiset.card_eq_zero

instance (key : String) : Decidable ((ledger.careful sends).expire key) :=
  inferInstanceAs (Decidable (key ∉ ledger.keys))

end Careful

/-- The task has returned. -/
def Task.isDone : Task → Bool
  | .send _ (.returned _) => true
  | .finished => true
  | _ => false

namespace Agent

/-- The step is careful with the keys and records of both kinds. -/
def Careful (agent : Agent) (pool : Pool Shared Task) (label : PoolLabel Arrival Choice) : Prop :=
  agent.Permits (fun kind => (ledger kind pool).careful fun _ => True) pool label

instance (agent : Agent) (pool : Pool Shared Task) (label : PoolLabel Arrival Choice) :
    Decidable (agent.Careful pool label) :=
  inferInstanceAs (Decidable (agent.Permits
    (fun kind => (ledger kind pool).careful fun _ => True) pool label))

/-- **Careful runs stay durable.** The records of items that are sent, and the records that
are loaded, stand for their items. -/
theorem durable (agent : Agent) (records : Kind → Records)
    {items : (kind : Kind) → Telemetry kind → Prop}
    {standsFor : (kind : Kind) → String → Telemetry kind → Prop}
    (written : ∀ kind item, items kind item → standsFor kind (agent.toRecord kind item) item)
    (loaded : ∀ kind value item, agent.fromRecord kind value = some item →
      standsFor kind value item)
    {labels : List (PoolLabel Arrival Choice)} {pool : Pool Shared Task}
    (run : agent.machine.RunUnder (fun pool label => agent.Careful pool label ∧
      ∀ arrival, label = .arrive arrival → arrival.Sends items agent)
      ⟨agent.initial records, []⟩ labels pool)
    (kind : Kind) : (ledger kind pool).Durable (standsFor kind) := by
  have kept := run.invariant (fun pool => (ledger kind pool).Durable (standsFor kind) ∧
    ∀ task ∈ pool.tasks, task.Sends items) ⟨Ledger.initial_durable agent records, by simp⟩ ?_
  · exact kept.1
  · intro before label after durable careful stepped
    have permits : agent.Permits (fun kind => (ledger kind before).careful (items kind)) before
        label := careful.1
    have move := agent.step_ledger stepped permits durable.2 kind
    exact ⟨move.durable (written kind) (loaded kind) durable.1,
      agent.step_sends stepped careful.2 durable.2⟩

/-- In a run of careful steps every keyed item has its record. -/
theorem durable_of_careful (agent : Agent) (records : Kind → Records)
    {labels : List (PoolLabel Arrival Choice)} {pool : Pool Shared Task}
    (run : agent.machine.RunUnder agent.Careful ⟨agent.initial records, []⟩ labels pool)
    (kind : Kind) : (ledger kind pool).Durable fun _ _ => True := by
  have careful := run.mono (fun pool label careful => (⟨careful, fun arrival _ => ?_⟩ :
    agent.Careful pool label ∧ ∀ arrival, label = .arrive arrival →
      arrival.Sends (fun _ _ => True) agent))
  · exact agent.durable records (fun _ _ _ => trivial) (fun _ _ _ _ => trivial) careful kind
  · cases arrival <;> trivial

/-- **Careful runs hold no key twice, and no key without its record**, also when records
were reloaded. -/
theorem reload_keeps_records (agent : Agent) (records : Kind → Records)
    (labels : List (PoolLabel Arrival Choice)) (pool : Pool Shared Task)
    (run : agent.machine.RunUnder agent.Careful ⟨agent.initial records, []⟩ labels pool)
    (kind : Kind) :
    (((pool.shared.columns kind).buffer + (ledger kind pool).inFlight :
      Multiset (Entry kind)).filterMap BufferedItem.redisKey).Nodup ∧
    ∀ entry ∈ (pool.shared.columns kind).buffer, ∀ key, entry.redisKey = some key →
      ((pool.shared.columns kind).records.lookup key).isSome := by
  have durable := agent.durable_of_careful records run kind
  refine ⟨?_, fun entry buffered key named => durable.lookup (Or.inl buffered) named⟩
  rw [← Ledger.keys_keyed, Ledger.keyed_add]
  have held := (Multiset.nodup_add.mp (Multiset.nodup_add.mp durable.distinct).1).2.1
  rw [Ledger.held, Ledger.Keyed.keys_add] at held
  exact (Multiset.nodup_add.mp held).1

/-- The store performs every operation, and no record expires. -/
def healthy : PoolLabel Arrival Choice → Bool
  | .run _ choice => choice.stored.succeeded
  | .arrive (.expire _ _) => false
  | .arrive _ => true

/-- The action of a task over a store that performs it. -/
def sampleAct (tid : ℕ) : PoolLabel Arrival Choice :=
  .run tid (.sample 1700000000000000000 .ok fun _ => .response 201 none (.ok ""))

/-- One record is reloaded at the start, and then an item is sent. -/
theorem reload_keeps_records_at_start :
    let metric := sampleMetric 1 []
    let agent := Agent.sample (AgentConfig.new "test-api-key-1234") [metric]
    let records (kind : Kind) : Records := match kind with
      | .events => ∅
      | .metrics => AList.singleton "metric_1600000000000000000_c56a4180" metric.sampleText
    ∃ labels pool,
      agent.machine.RunUnder agent.Careful ⟨agent.initial records, []⟩ labels pool ∧
      (pool.shared.columns .metrics).buffer.length = 2 ∧
      (((pool.shared.columns .metrics).buffer + (ledger .metrics pool).inFlight :
        Multiset (Entry .metrics)).filterMap BufferedItem.redisKey).Nodup := by
  intro metric agent records
  let labels := [.arrive .attachRedisHandler, .arrive .start] ++ List.replicate 12 (sampleAct 0) ++
    [.arrive (.trySend .metrics (sampleMetric 2 []))] ++ List.replicate 3 (sampleAct 1)
  obtain ⟨pool, run, checked⟩ := @Machine.exists_runUnder _ _ agent.machine agent.Careful _
    ⟨agent.initial records, []⟩ labels
    (fun pool => (pool.shared.columns .metrics).buffer.length = 2) (by decide +kernel)
  exact ⟨labels, pool, run, of_decide_eq_true checked,
    (reload_keeps_records agent records labels pool run .metrics).1⟩

/-- A start after a send loads the record of the item that is still buffered: its key is
buffered twice, and with a buffer of one item its record is deleted. -/
theorem reload_of_buffered_key :
    let agent (capacity : ℕ) := Agent.sample
      { AgentConfig.new "test-api-key-1234" with bufferSize := capacity } [sampleMetric 1 []]
    let key := "metric_1700000000000000000_67e55044"
    (∃ labels pool,
      (agent 2).machine.Run ⟨(agent 2).initial fun _ => ∅, []⟩ labels pool ∧
      (∀ label ∈ labels, healthy label = true) ∧
      pool.tasks.all Task.isDone = true ∧
      (pool.shared.columns .metrics).buffer.map BufferedItem.redisKey = [some key, some key]) ∧
    ∃ labels pool,
      (agent 1).machine.Run ⟨(agent 1).initial fun _ => ∅, []⟩ labels pool ∧
      (∀ label ∈ labels, healthy label = true) ∧
      pool.tasks.all Task.isDone = true ∧
      (pool.shared.columns .metrics).buffer.map BufferedItem.redisKey = [some key] ∧
      (pool.shared.columns .metrics).records.lookup key = none := by
  intro agent key
  let sent := [.arrive .attachRedisHandler, .arrive (.trySend .metrics (sampleMetric 1 []))] ++
    List.replicate 3 (sampleAct 0) ++ [.arrive .start]
  constructor
  · let labels := sent ++ List.replicate 12 (sampleAct 1)
    obtain ⟨pool, run, checked⟩ := @Machine.exists_run _ _ (agent 2).machine
      ⟨(agent 2).initial fun _ => ∅, []⟩ labels
      (fun pool => pool.tasks.all Task.isDone = true ∧
        (pool.shared.columns .metrics).buffer.map BufferedItem.redisKey = [some key, some key])
      (by decide +kernel)
    exact ⟨labels, pool, run, by decide +kernel, of_decide_eq_true checked⟩
  · let labels := sent ++ List.replicate 13 (sampleAct 1)
    obtain ⟨pool, run, checked⟩ := @Machine.exists_run _ _ (agent 1).machine
      ⟨(agent 1).initial fun _ => ∅, []⟩ labels
      (fun pool => pool.tasks.all Task.isDone = true ∧
        (pool.shared.columns .metrics).buffer.map BufferedItem.redisKey = [some key] ∧
        (pool.shared.columns .metrics).records.lookup key = none)
      (by decide +kernel)
    exact ⟨labels, pool, run, by decide +kernel, of_decide_eq_true checked⟩

/-- **Careful runs keep the record of every item that is held under a key**, also while
the buffer is cleared. -/
theorem clear_keeps_records (agent : Agent) (records : Kind → Records)
    (labels : List (PoolLabel Arrival Choice)) (pool : Pool Shared Task)
    (run : agent.machine.RunUnder agent.Careful ⟨agent.initial records, []⟩ labels pool)
    (kind : Kind) (entry : Entry kind)
    (present : entry ∈ (pool.shared.columns kind).buffer ∨ entry ∈ (ledger kind pool).inFlight)
    (key : String) (named : entry.redisKey = some key) :
    ((pool.shared.columns kind).records.lookup key).isSome :=
  (agent.durable_of_careful records run kind).lookup present named

/-- The buffer is cleared before an item is sent. -/
theorem clear_keeps_records_before_send :
    let agent := Agent.sample (AgentConfig.new "test-api-key-1234") []
    let key := "metric_1700000000000000000_67e55044"
    ∃ labels pool,
      agent.machine.RunUnder agent.Careful ⟨agent.initial fun _ => ∅, []⟩ labels pool ∧
      PoolLabel.arrive .clearBuffer ∈ labels ∧
      (∃ entry ∈ (pool.shared.columns .metrics).buffer, entry.redisKey = some key) ∧
      ((pool.shared.columns .metrics).records.lookup key).isSome := by
  intro agent key
  let labels := [.arrive .attachRedisHandler, .arrive .clearBuffer] ++
    List.replicate 3 (sampleAct 0) ++ [.arrive (.trySend .metrics (sampleMetric 2 []))] ++
    List.replicate 3 (sampleAct 1)
  obtain ⟨pool, run, checked⟩ := @Machine.exists_runUnder _ _ agent.machine agent.Careful _
    ⟨agent.initial fun _ => ∅, []⟩ labels
    (fun pool => ∃ entry ∈ (pool.shared.columns .metrics).buffer, entry.redisKey = some key)
    (by decide +kernel)
  obtain ⟨entry, buffered, named⟩ := of_decide_eq_true checked
  refine ⟨labels, pool, run, by simp [labels], ⟨entry, buffered, named⟩, ?_⟩
  exact clear_keeps_records agent _ labels pool run .metrics entry (Or.inl buffered) key named

/-- An item that is sent between the two wipes of a clear stays buffered without its
record. -/
theorem clear_of_persisted_key :
    let agent := Agent.sample (AgentConfig.new "test-api-key-1234") []
    let key := "metric_1700000000000000000_67e55044"
    ∃ labels pool,
      agent.machine.Run ⟨agent.initial fun _ => ∅, []⟩ labels pool ∧
      (∀ label ∈ labels, healthy label = true) ∧
      pool.tasks.all Task.isDone = true ∧
      (pool.shared.columns .metrics).buffer.map BufferedItem.redisKey = [some key] ∧
      (pool.shared.columns .metrics).records.lookup key = none := by
  intro agent key
  let labels := [.arrive .attachRedisHandler, .arrive .clearBuffer, sampleAct 0,
    .arrive (.trySend .metrics (sampleMetric 2 [])), sampleAct 1, sampleAct 1, sampleAct 1,
    sampleAct 0, sampleAct 0]
  obtain ⟨pool, run, checked⟩ := @Machine.exists_run _ _ agent.machine
    ⟨agent.initial fun _ => ∅, []⟩ labels
    (fun pool => pool.tasks.all Task.isDone = true ∧
      (pool.shared.columns .metrics).buffer.map BufferedItem.redisKey = [some key] ∧
      (pool.shared.columns .metrics).records.lookup key = none)
    (by decide +kernel)
  exact ⟨labels, pool, run, by decide +kernel, of_decide_eq_true checked⟩

end Agent

end GuardAgent
