import GuardAgent.Agent.Ledger
import GuardAgent.Foundation.Custody
import GuardAgent.Transport.Delivery

/-!
# Conservation

An item that entered a buffer is in the buffer, in flight, confirmed, evicted or wiped,
and in exactly one of these places; the counters count what their names say
(`Agent.conservation`). The moves of the ledger are hand-overs among the places.
-/

namespace GuardAgent

open Foundation

/-- Where an item can be that entered the buffer. -/
inductive Place where
  | buffered
  | inFlight
  | confirmed
  | evicted
  | wiped
  deriving DecidableEq

instance : Fintype Place where
  elems := {.buffered, .inFlight, .confirmed, .evicted, .wiped}
  complete place := by cases place <;> decide

/-- How an item gets from place to place. -/
inductive Place.Handed : Place → Place → Prop where
  | drain : Handed .buffered .inFlight
  | evict : Handed .buffered .evicted
  | wipe : Handed .buffered .wiped
  | confirm : Handed .inFlight .confirmed
  | requeue : Handed .inFlight .buffered

namespace Ledger

variable {kind : Kind}

def custody (ledger : Ledger kind) : Custody Place (Entry kind)
  | .buffered => ledger.buffer
  | .inFlight => ledger.inFlight
  | .confirmed => ledger.accepted + ledger.rejected
  | .evicted => ledger.evicted
  | .wiped => ledger.wiped

/-- Items are admitted to the buffer as they enter, and else handed over. -/
def Carried (before after : Ledger kind) : Prop :=
  ∃ admitted, Moves .buffered Place.Handed before.custody admitted after.custody ∧
    (after.entered : Multiset (Entry kind)) = before.entered + admitted

namespace Carried

variable {before middle after : Ledger kind}

/-- Where nothing moves, the items are carried. -/
theorem of_same (same : after.custody = before.custody)
    (entered : after.entered = before.entered) : Carried before after :=
  ⟨0, by rw [same]; exact .refl _, by rw [entered, add_zero]⟩

/-- An item that enters and is buffered is carried. -/
theorem of_entry (entry : Entry kind)
    (same : after.custody = before.custody + Pi.single .buffered {entry})
    (entered : after.entered = before.entered ++ [entry]) : Carried before after := by
  refine ⟨0 + {entry}, ?_, ?_⟩
  · rw [same]
    exact .enter _ (.refl _)
  · rw [entered, ← Multiset.coe_add, Multiset.coe_singleton, zero_add]

/-- A handover between places that may hand over carries the items. -/
theorem of_handOver {source target : Place} (moved : Multiset (Entry kind))
    (legal : Place.Handed source target)
    (handed : HandOver source target moved before.custody after.custody)
    (entered : after.entered = before.entered) : Carried before after :=
  ⟨0, .handOver (.refl _) legal handed, by rw [entered, add_zero]⟩

/-- Two changes in turn that carry the items carry them together. -/
theorem trans (first : Carried before middle) (second : Carried middle after) :
    Carried before after := by
  obtain ⟨admitted, moves, entered⟩ := first
  obtain ⟨later, moves', entered'⟩ := second
  exact ⟨admitted + later, moves.trans moves', by rw [entered', entered, add_assoc]⟩

end Carried

variable {agent : Agent} {guards : Guards kind} {before after : Ledger kind}

/-- Only what is in flight can differ from one stake to another. -/
theorem custody_of_inFlight (ledger : Ledger kind) (stake : Stake kind)
    (same : stake.inFlight = ledger.inFlight) :
    ({ ledger with toStake := stake } : Ledger kind).custody = ledger.custody := by
  funext place
  cases place with
  | inFlight => exact same
  | _ => rfl

/-- A share in nothing that is in flight can be given up. -/
theorem custody_of_rest {ledger : Ledger kind} {share rest : Stake kind}
    (staked : ledger.toStake = share + rest) (idle : share.inFlight = 0) :
    ({ ledger with toStake := rest } : Ledger kind).custody = ledger.custody := by
  have flying : ledger.inFlight = share.inFlight + rest.inFlight :=
    congrArg Stake.inFlight staked
  apply custody_of_inFlight ledger rest
  rw [flying, idle, zero_add]

/-- **Every move carries the items.** -/
theorem Move.carried (move : Move agent guards before after) : Carried before after := by
  cases move with
  | stay => exact .of_same rfl rfl
  | enter item sent =>
      refine .of_entry _ ?_ rfl
      funext place
      cases place <;> simp [custody, ← Multiset.coe_add]
  | mint key minted => exact .of_same (custody_of_inFlight _ _ (zero_add _)) rfl
  | write rest key item sent staked =>
      have flying : before.inFlight = 0 + rest.inFlight := congrArg Stake.inFlight staked
      have same := custody_of_inFlight before ({ arriving := {(key, item)} } + rest) flying.symm
      exact .of_same same rfl
  | writeFailed rest key item applied sent staked => exact .of_same (custody_of_rest staked rfl) rfl
  | load key value item read parsed permitted =>
      exact .of_same (custody_of_inFlight _ _ (zero_add _)) rfl
  | arrive rest key item returned reloaded one staked =>
      have flying : before.inFlight = 0 + rest.inFlight := congrArg Stake.inFlight staked
      refine .of_entry _ ?_ rfl
      funext place
      cases place <;> simp [custody, flying, ← Multiset.coe_add]
  | evict victim buffer doomed stake buffered _ staked =>
      have front : (before.buffer : Multiset (Entry kind)) = buffer + {victim} := by
        rw [buffered, add_comm]
        rfl
      refine .of_handOver {victim} .evict ?_ rfl
      funext place
      cases place <;> simp [custody, front, staked, ← Multiset.coe_add]
  | drain =>
      refine .of_handOver before.buffer .drain ?_ rfl
      funext place
      cases place <;> simp [custody, add_comm]
  | accept rest batch staked =>
      have flying : before.inFlight = batch + rest.inFlight := congrArg Stake.inFlight staked
      refine .of_handOver batch .confirm ?_ rfl
      funext place
      cases place <;> simp [custody, flying, add_comm, add_assoc, ← Multiset.coe_add]
  | reject rest batch staked =>
      have flying : before.inFlight = batch + rest.inFlight := congrArg Stake.inFlight staked
      refine .of_handOver batch .confirm ?_ rfl
      funext place
      cases place <;> simp [custody, flying, add_comm, add_left_comm, ← Multiset.coe_add]
  | requeue rest batch buffer victims staked balance =>
      have flying : before.inFlight = batch + rest.inFlight := congrArg Stake.inFlight staked
      have returned : Carried before
          { before with toStake := rest, buffer := before.buffer ++ batch } := by
        refine .of_handOver batch .requeue ?_ rfl
        funext place
        cases place <;> simp [custody, flying, add_comm, ← Multiset.coe_add]
      refine returned.trans (.of_handOver victims .evict ?_ rfl)
      funext place
      cases place <;> simp [custody, balance, ← Multiset.coe_add]
  | recordSent rest count staked => exact .of_same (custody_of_rest staked rfl) rfl
  | recordFailed rest count staked => exact .of_same (custody_of_rest staked rfl) rfl
  | delete rest keys reply staked => exact .of_same (custody_of_rest staked rfl) rfl
  | spare rest keys staked => exact .of_same (custody_of_rest staked rfl) rfl
  | wipe =>
      refine .of_handOver before.buffer .wipe ?_ rfl
      funext place
      cases place <;> simp [custody]
  | clear reply permitted => exact .of_same rfl rfl
  | expire key permitted => exact .of_same rfl rfl

/-- The numbers are given out in order. -/
def Numbered (ledger : Ledger kind) : Prop :=
  ledger.entered.map (fun entry => entry.item.serial) = List.range ledger.entered.length

/-- Every change of the ledger gives out the numbers in order. -/
theorem Move.numbered (move : Move agent guards before after) (numbered : Numbered before) :
    Numbered after := by
  unfold Numbered at numbered
  cases move with
  | enter item sent => simp [Numbered, numbered, List.range_succ]
  | arrive rest key item returned reloaded one staked =>
      simp [Numbered, numbered, List.range_succ]
  | _ => exact numbered

/-- The numbers make the items distinct. -/
theorem Numbered.nodup_items {ledger : Ledger kind} (numbered : Numbered ledger) :
    (ledger.entered.map BufferedItem.item).Nodup := by
  have serials : ((ledger.entered.map BufferedItem.item).map Occurrence.serial).Nodup := by
    rw [List.map_map]
    exact numbered ▸ List.nodup_range
  exact List.Nodup.of_map _ serials

/-- The numbers are given out in order, and the counters count what their names say. -/
structure Counted (ledger : Ledger kind) : Prop where
  serials : ledger.entered.map (fun entry => entry.item.serial) = List.range ledger.entered.length
  entered : ledger.entered.length = ledger.returned + ledger.reloaded
  dropped : ledger.dropped = ledger.evicted.length
  flushed : ledger.flushed =
    ledger.sent + ledger.failed + ledger.rejected.length + ledger.unrecorded

/-- Every change of the ledger keeps the counters right. -/
theorem Move.counted (move : Move agent guards before after) (counted : Counted before) :
    Counted after := by
  have serials : Numbered after := move.numbered counted.serials
  obtain ⟨_, entered, dropped, flushed⟩ := counted
  cases move with
  | stay => exact ⟨serials, entered, dropped, flushed⟩
  | clear reply permitted => exact ⟨serials, entered, dropped, flushed⟩
  | expire key permitted => exact ⟨serials, entered, dropped, flushed⟩
  | wipe => exact ⟨serials, entered, dropped, flushed⟩
  | enter item sent =>
      refine ⟨serials, ?_, dropped, ?_⟩
      · simp only [List.length_append, List.length_singleton, Stake.add_returned]
        omega
      · simpa using flushed
  | arrive rest key item returned reloaded one staked =>
      rw [staked] at entered flushed
      refine ⟨serials, ?_, dropped, ?_⟩
      · simp only [List.length_append, List.length_singleton, Stake.add_returned] at entered ⊢
        omega
      · simpa using flushed
  | drain =>
      refine ⟨serials, ?_, dropped, ?_⟩
      · simpa using entered
      · simp only [Stake.add_unrecorded]
        omega
  | evict victim buffer doomed stake buffered _ staked =>
      subst staked
      refine ⟨serials, by simpa using entered, ?_, by simpa using flushed⟩
      simp only [List.length_append, List.length_singleton]
      omega
  | mint key minted =>
      exact ⟨serials, by simpa using entered, dropped, by simpa using flushed⟩
  | load key value item read parsed permitted =>
      exact ⟨serials, by simpa using entered, dropped, by simpa using flushed⟩
  | requeue rest batch buffer victims staked balance =>
      rw [staked] at entered flushed
      refine ⟨serials, by simpa using entered, ?_, by simpa using flushed⟩
      simp only [List.length_append]
      omega
  | write rest key item sent staked =>
      rw [staked] at entered flushed
      exact ⟨serials, by simpa using entered, dropped, by simpa using flushed⟩
  | accept rest batch staked =>
      rw [staked] at entered flushed
      exact ⟨serials, by simpa using entered, dropped, by simpa using flushed⟩
  | writeFailed rest key item applied sent staked =>
      rw [staked] at entered flushed
      exact ⟨serials, by simpa using entered, dropped, by simpa using flushed⟩
  | delete rest keys reply staked =>
      rw [staked] at entered flushed
      exact ⟨serials, by simpa using entered, dropped, by simpa using flushed⟩
  | spare rest keys staked =>
      rw [staked] at entered flushed
      exact ⟨serials, by simpa using entered, dropped, by simpa using flushed⟩
  | reject rest batch staked =>
      rw [staked] at entered flushed
      refine ⟨serials, by simpa using entered, dropped, ?_⟩
      simp only [List.length_append, Stake.add_unrecorded] at flushed ⊢
      omega
  | recordSent rest count staked =>
      rw [staked] at entered flushed
      refine ⟨serials, by simpa using entered, dropped, ?_⟩
      simp only [Stake.add_unrecorded] at flushed ⊢
      omega
  | recordFailed rest count staked =>
      rw [staked] at entered flushed
      refine ⟨serials, by simpa using entered, dropped, ?_⟩
      simp only [Stake.add_unrecorded] at flushed ⊢
      omega

/-- The places hold what entered, and the counters agree. -/
structure Booked (ledger : Ledger kind) : Prop extends Counted ledger where
  total : ∑ place, ledger.custody place = (ledger.entered : Multiset (Entry kind))

/-- Every change of the ledger keeps the books. -/
theorem Move.booked (move : Move agent guards before after) (booked : Booked before) :
    Booked after := by
  obtain ⟨admitted, moves, entered⟩ := move.carried
  refine ⟨move.counted booked.toCounted, ?_⟩
  rw [moves.total, booked.total, entered]

/-- The books of a new agent are right. -/
theorem initial_booked (agent : Agent) (records : Kind → Records) :
    (ledger kind ⟨agent.initial records, []⟩).Booked := by
  refine ⟨⟨rfl, rfl, rfl, rfl⟩, Finset.sum_eq_zero fun place _ => ?_⟩
  cases place <;> rfl

/-- No number is given out twice. -/
theorem Booked.nodup_items {ledger : Ledger kind} (booked : Booked ledger) :
    (ledger.entered.map BufferedItem.item).Nodup :=
  Numbered.nodup_items booked.serials

/-- No entry is at two places, or at one place twice. -/
theorem Booked.nodup {ledger : Ledger kind} (booked : Booked ledger) :
    (∑ place, ledger.custody place).Nodup := by
  rw [booked.total, Multiset.coe_nodup]
  exact List.Nodup.of_map _ booked.nodup_items

/-- What entered is in one place. -/
theorem Booked.existsUnique_place {ledger : Ledger kind} (booked : Booked ledger)
    {entry : Entry kind} (entered : entry ∈ ledger.entered) :
    ∃! place, entry ∈ ledger.custody place :=
  Foundation.existsUnique_place booked.nodup (booked.total ▸ Multiset.mem_coe.mpr entered)

end Ledger

/-- What is in flight, as a measure of stakes. -/
def Stake.flying (kind : Kind) : Stake kind →+ Multiset (Entry kind) where
  toFun := Stake.inFlight
  map_zero' := rfl
  map_add' _ _ := rfl

/-- Every guard is open. -/
def Guards.open (kind : Kind) : Guards kind where
  send _ := True
  mint _ := True
  load _ _ := True
  clear := True
  expire _ := True

/-- The open guards permit every step. -/
theorem Agent.permits_open (agent : Agent) (pool : Pool Shared Task)
    (label : PoolLabel Arrival Choice) : agent.Permits .open pool label := by
  unfold Agent.Permits
  split
  · intro task _
    unfold Task.Permits SendPhase.Permits LoadPhase.Permits
    split
    · split
      · exact fun _ _ => trivial
      · trivial
    · split
      · exact fun _ _ => trivial
      · trivial
    · trivial
    · trivial
  · trivial
  · trivial

/-- The accounts of one kind are in order. -/
structure Conserved (kind : Kind) (pool : Pool Shared Task) : Prop where
  /-- Every item that entered is in exactly one place. -/
  placed : ∀ entry ∈ (ledger kind pool).entered,
    ∃! place, entry ∈ (ledger kind pool).custody place
  /-- The places hold what entered, and nothing else. -/
  total : ∑ place, (ledger kind pool).custody place = (ledger kind pool).entered
  /-- No item is held twice. -/
  distinct : ∀ place, ((ledger kind pool).custody place).Nodup
  /-- What is in flight is in the batch of one task. -/
  batch : ∀ entry ∈ (ledger kind pool).inFlight,
    ∃! tid : ℕ, ∃ task, pool.tasks[tid]? = some task ∧ entry ∈ (task.stake kind).inFlight
  /-- What entered was sent or reloaded. -/
  entered : (ledger kind pool).entered.length =
    (ledger kind pool).returned + (ledger kind pool).reloaded
  dropped : (ledger kind pool).dropped = (ledger kind pool).evicted.length
  flushed : (ledger kind pool).flushed = (ledger kind pool).sent + (ledger kind pool).failed +
    (ledger kind pool).rejected.length + (ledger kind pool).unrecorded

/-- What is in flight is in the batch of one task. -/
theorem Ledger.Booked.existsUnique_batch {kind : Kind} {pool : Pool Shared Task}
    (booked : (ledger kind pool).Booked) {entry : Entry kind}
    (inFlight : entry ∈ (ledger kind pool).inFlight) :
    ∃! tid : ℕ, ∃ task, pool.tasks[tid]? = some task ∧ entry ∈ (task.stake kind).inFlight := by
  have flying : (ledger kind pool).inFlight = pool.owned fun task => (task.stake kind).inFlight :=
    Pool.map_owned (Stake.flying kind) pool (Task.stake kind)
  have once : (pool.owned fun task => (task.stake kind).inFlight).Nodup :=
    flying ▸ nodup_place booked.nodup .inFlight
  exact Pool.existsUnique_owner once (flying ▸ inFlight)

/-- The books are in order in every state the agent reaches. -/
theorem Agent.booked (agent : Agent) (records : Kind → Records)
    {labels : List (PoolLabel Arrival Choice)} {pool : Pool Shared Task}
    (run : agent.machine.Run ⟨agent.initial records, []⟩ labels pool) (kind : Kind) :
    (ledger kind pool).Booked := by
  refine run.invariant (fun pool => (ledger kind pool).Booked)
    (Ledger.initial_booked agent records) ?_
  intro before label after booked _ stepped
  have move := agent.step_ledger stepped (agent.permits_open before label)
    (fun task _ => task.sends_any) kind
  exact move.booked booked

/-- A metric without endpoint. -/
def sampleMetric (value : ℚ) (tags : List (String × String)) : SecurityMetric :=
  { SecurityMetric.new "2026-01-01T00:00:00Z" .requestCount (.finite value) with tags := tags }

/-- The text `serde_json` writes for a metric with a whole value. -/
def SecurityMetric.sampleText (metric : SecurityMetric) : String :=
  let value := match metric.value with
    | .finite value => s!"{value.num}.0"
    | _ => "null"
  let endpoint := match metric.endpoint with
    | some endpoint => s!"\"{endpoint}\""
    | none => "null"
  let tags := ",".intercalate (metric.tags.map fun tag => s!"\"{tag.1}\":\"{tag.2}\"")
  s!"\x7b\"timestamp\":\"{metric.timestamp}\",\"metric_type\":\"{metric.metricType.asStr}\"," ++
    s!"\"value\":{value},\"endpoint\":{endpoint},\"tags\":\x7b{tags}\x7d\x7d"

/-- The environment of an action that reads this clock, with one reply of the store and
one way to answer requests. -/
def Choice.sample (nanos : ℕ) (stored : StoreReply)
    (reply : {kind : Kind} → Request (Occurrence kind) → HttpReply) : Choice where
  nanos := nanos
  uuid := "67e55044-10b1-426f-9247-bb680e5fe0c8"
  stored := stored
  respond _ := TransportOp.admitting reply

/-- An action of a task that reaches no server. -/
def offlineAct (tid : ℕ) : PoolLabel Arrival Choice :=
  .run tid (.sample 1700000000000000000 .ok fun _ => .clientError "connection refused")

namespace Agent

/-- An agent over the crates on the inputs of the runs considered here; it can load
these metrics. -/
def sample (config : AgentConfig) (known : List SecurityMetric) : Agent where
  crates := .sample []
  config := config
  transport := ⟨config, none⟩
  redactor := .new (fun text => String.ofList (text.toList.map Char.toLower))
    config.sensitiveHeaders
  toRecord
    | .events, event => (CipherSuite.sample []).canonicalJson (SecurityEvent.toValue event)
    | .metrics, metric => SecurityMetric.sampleText metric
  fromRecord
    | .events, _ => none
    | .metrics, text => known.find? fun metric => SecurityMetric.sampleText metric == text

/-- **No item is lost, duplicated or miscounted**, whatever the interleaving. -/
theorem conservation (agent : Agent) (records : Kind → Records) (kind : Kind)
    (labels : List (PoolLabel Arrival Choice)) (pool : Pool Shared Task)
    (run : agent.machine.Run ⟨agent.initial records, []⟩ labels pool) : Conserved kind pool := by
  have booked := agent.booked records run kind
  have placed (entry : Entry kind) (entered : entry ∈ (ledger kind pool).entered) :=
    booked.existsUnique_place entered
  have batch (entry : Entry kind) (flying : entry ∈ (ledger kind pool).inFlight) :=
    booked.existsUnique_batch flying
  exact ⟨placed, booked.total, nodup_place booked.nodup, batch, booked.entered, booked.dropped,
    booked.flushed⟩

/-- A buffer of one item: the second send evicts the first item, and a flush has
drained the second. -/
theorem conservation_of_eviction :
    let agent := Agent.sample { AgentConfig.new "test-api-key-1234" with bufferSize := 1 } []
    ∃ labels pool, agent.machine.Run ⟨agent.initial fun _ => ∅, []⟩ labels pool ∧
      Conserved .metrics pool ∧ (pool.shared.columns .metrics).entered.length = 2 ∧
      (pool.shared.columns .metrics).dropped = 1 ∧ (pool.shared.columns .metrics).flushed = 1 := by
  intro agent
  let act (tid : ℕ) : PoolLabel Arrival Choice :=
    .run tid (.sample 1700000000000000000 .ok fun _ => .response 201 none (.ok ""))
  let labels := [.arrive (.trySend .metrics (sampleMetric 1 [])), act 0,
    .arrive (.trySend .metrics (sampleMetric 2 [])), act 1, act 1, .arrive .flushBuffer] ++
    List.replicate 8 (act 2)
  obtain ⟨pool, run, checked⟩ := @Machine.exists_run _ _ agent.machine
    ⟨agent.initial fun _ => ∅, []⟩ labels
    (fun pool => (pool.shared.columns .metrics).entered.length = 2 ∧
      (pool.shared.columns .metrics).dropped = 1 ∧ (pool.shared.columns .metrics).flushed = 1)
    (by decide +kernel)
  exact ⟨labels, pool, run, conservation agent _ .metrics labels pool run,
    of_decide_eq_true checked⟩

end Agent

end GuardAgent
