import GuardAgent.Agent.Persisted
import GuardAgent.Agent.Redaction
import GuardAgent.Transport.Receiver

/-!
# From a send to the server

Every item that enters a buffer is the redaction of one that was sent in the run, or was read
from a record that was in the store when the run began or that the run wrote
(`Agent.entered_origin`). So from every request of every run the ingestion side reads
documents of such items, and from each document the item (`Agent.ingests_entered`).
-/

namespace GuardAgent

open Foundation JsonText

section Documents

variable {name key : String} {value : Value} {fields fields' : List (String × Value)}

/-- A field is read in whatever order the fields are. -/
theorem Field.read_perm (perm : fields.Perm fields') : read name fields = read name fields' := by
  have found : (fields.filter fun field => field.1 = name).Perm
      (fields'.filter fun field => field.1 = name) := perm.filter _
  unfold read
  generalize fields.filter (fun field => field.1 = name) = first at found
  generalize fields'.filter (fun field => field.1 = name) = second at found
  match first, found with
  | [], found => rw [List.nil_perm.mp found]
  | [field], found => rw [List.singleton_perm.mp found]
  | field :: other :: rest, found =>
      match second, found.length_eq with
      | _ :: _ :: _, _ => rfl

/-- An event is read alike in any order of its members. -/
theorem SecurityEvent.ofFields_perm (serde : SerdeJson) (perm : fields.Perm fields') :
    ofFields serde fields = ofFields serde fields' := by
  simp only [ofFields, Field.required, Field.optional, Field.read_perm perm]

/-- A metric is read alike in any order of its members. -/
theorem SecurityMetric.ofFields_perm (serde : SerdeJson) (perm : fields.Perm fields') :
    ofFields serde fields = ofFields serde fields' := by
  simp only [ofFields, Field.required, Field.optional, Field.read_perm perm]

namespace Value

/-- A new member is inserted somewhere among the others. -/
theorem insertEntry_perm (fresh : key ∉ fields.map Prod.fst) :
    (insertEntry key value fields).Perm ((key, value) :: fields) := by
  induction fields with
  | nil => exact List.Perm.refl _
  | cons field fields ih =>
      rw [List.map_cons, List.mem_cons, not_or] at fresh
      rw [insertEntry]
      split
      · exact List.Perm.refl _
      · rw [if_neg fresh.1]
        exact ((ih fresh.2).cons field).trans (List.Perm.swap ..)

/-- Members of distinct keys are all kept. -/
theorem ofMembers_perm {members : List (String × Value)} (distinct : (members.map Prod.fst).Nodup) :
    ∃ entries, ofMembers members = .object entries ∧ entries.Perm members := by
  have inserted (past future : List (String × Value))
      (distinct : ((past ++ future).map Prod.fst).Nodup) :
      (future.foldl (fun entries member => insertEntry member.1 member.2 entries) past).Perm
        (past ++ future) := by
    induction future generalizing past with
    | nil => rw [List.foldl_nil, List.append_nil]
    | cons member future ih =>
        have middle : ((member :: (past ++ future)).map Prod.fst).Nodup :=
          (List.perm_middle.map Prod.fst).nodup_iff.mp distinct
        have fresh : member.1 ∉ past.map Prod.fst := fun held =>
          (List.nodup_cons.mp middle).1 (List.map_append ▸ List.mem_append_left _ held)
        have placed := (@insertEntry_perm _ member.2 _ fresh).append_right future
        rw [List.foldl_cons]
        refine (ih _ ((placed.map Prod.fst).nodup_iff.mpr middle)).trans ?_
        exact placed.trans List.perm_middle.symm
  exact ⟨_, rfl, inserted [] members distinct⟩

end Value

end Documents

namespace Telemetry

/-- The derived `Deserialize`, from a document. -/
def ofValue (serde : SerdeJson) : (kind : Kind) → Value → Option (Telemetry kind)
  | .events, .object entries => SecurityEvent.ofFields serde entries
  | .metrics, .object entries => SecurityMetric.ofFields serde entries
  | _, _ => none

/-- The document of the item is one of its type: the value of a metric is finite. -/
def isFinite : (kind : Kind) → Telemetry kind → Bool
  | .events, _ => true
  | .metrics, (metric : SecurityMetric) => metric.value.isFinite

variable {serde : SerdeJson}

/-- What the document of an item is read as. -/
theorem ofValue_toValue : (kind : Kind) → {item : Telemetry kind} → Valid serde kind item →
    ofValue serde kind (toValue kind item) =
      if isFinite kind item then some (reloaded kind item) else none
  | .events, (event : SecurityEvent), (valid : event.Valid serde) => by
      obtain ⟨entries, same, perm⟩ := Value.ofMembers_perm (@SecurityEvent.nodup_members event)
      change ofValue serde .events (.ofMembers event.members) = some event.reloaded
      rw [same]
      exact (SecurityEvent.ofFields_perm serde perm).trans (SecurityEvent.ofFields_members valid)
  | .metrics, (metric : SecurityMetric), (valid : metric.Valid serde) => by
      obtain ⟨entries, same, perm⟩ := Value.ofMembers_perm (@SecurityMetric.nodup_members metric)
      change ofValue serde .metrics (.ofMembers metric.members) =
        if metric.value.isFinite then some metric else none
      rw [same]
      exact (SecurityMetric.ofFields_perm serde perm).trans
        (SecurityMetric.ofFields_members valid)

/-- The document of a valid item is well formed. -/
theorem wellFormed_toValue : (kind : Kind) → {item : Telemetry kind} → Valid serde kind item →
    (toValue kind item).WellFormed Number.Representable
  | .events, (_ : SecurityEvent), valid =>
      Value.wellFormed_ofMembers (SecurityEvent.wellFormed_members valid)
  | .metrics, (_ : SecurityMetric), valid =>
      Value.wellFormed_ofMembers (SecurityMetric.wellFormed_members valid)

end Telemetry

namespace Redactor

variable (redactor : Redactor) {serde : SerdeJson}

/-- Redaction keeps the keys of every object in their order. -/
theorem wellFormed_redactInner {admits : Number → Prop} (levels : ℕ) {value : Value}
    (wellFormed : value.WellFormed admits) :
    (redactor.redactInner levels value).WellFormed admits := by
  induction levels generalizing value with
  | zero => rwa [redactInner]
  | succ levels ih =>
      cases wellFormed with
      | null => exact .null
      | bool flag => exact .bool flag
      | number admitted => exact .number admitted
      | string text => exact .string text
      | array held =>
          rw [redactInner, redactItems_eq_map]
          refine .array fun item member => ?_
          obtain ⟨original, inside, rfl⟩ := List.mem_map.mp member
          exact ih (held original inside)
      | object increasing held =>
          rw [redactInner, redactEntries_eq_map]
          refine .object (List.pairwise_map.mpr increasing) fun entry member => ?_
          obtain ⟨original, inside, rfl⟩ := List.mem_map.mp member
          dsimp only
          split
          · exact .string _
          · exact ih (held original inside)

/-- Redaction does not touch what a record loses. -/
theorem redact_reloaded : (kind : Kind) → (item : Telemetry kind) →
    redactor.redact kind (Telemetry.reloaded kind item) =
      Telemetry.reloaded kind (redactor.redact kind item)
  | .events, (_ : SecurityEvent) => rfl
  | .metrics, (_ : SecurityMetric) => rfl

/-- What the record of a redacted item stands for is redacted. -/
theorem covers_reloaded (kind : Kind) (item : Telemetry kind) :
    redactor.Covers kind (Telemetry.reloaded kind (redactor.redact kind item)) := by
  refine (redactor.redact_eq_self_iff kind _).mp ?_
  rw [redact_reloaded, redact_redact]

/-- A redacted item is a value of its type. -/
theorem valid_redact : (kind : Kind) → {item : Telemetry kind} → Telemetry.Valid serde kind item →
    Telemetry.Valid serde kind (redactor.redact kind item)
  | .events, (_ : SecurityEvent), (valid : SecurityEvent.Valid serde _) =>
      show SecurityEvent.Valid serde _ from
      { idempotencyKey := valid.idempotencyKey
        timestamp := valid.timestamp
        statusCode := valid.statusCode
        responseTime := valid.responseTime
        metadata := redactor.wellFormed_redactInner maxRedactDepth valid.metadata }
  | .metrics, (_ : SecurityMetric), (valid : SecurityMetric.Valid serde _) =>
      show SecurityMetric.Valid serde _ from
      { timestamp := valid.timestamp
        value := valid.value
        tags := List.pairwise_map.mpr valid.tags }

end Redactor

/-- Only such items are sent and loaded. -/
def Agent.loading (items : (kind : Kind) → Telemetry kind → Prop) (kind : Kind) : Guards kind where
  send item := items kind item
  mint _ := True
  load _ item := items kind item
  clear := True
  expire _ := True

/-- What is sent is a value of its type. -/
def Arrival.Valid (serde : SerdeJson) : Arrival → Prop
  | .trySend kind item => Telemetry.Valid serde kind item
  | _ => True

namespace Agent

variable {agent : Agent} {serde : SerdeJson} {items : (kind : Kind) → Telemetry kind → Prop}

/-- The record was in the store when the run began, or is that of an item sent in it. -/
def Recorded (agent : Agent) (records : Kind → Records) (labels : List (PoolLabel Arrival Choice))
    (kind : Kind) (record : String) : Prop :=
  (∃ key, (records kind).lookup key = some record) ∨
    ∃ sent, .arrive (.trySend kind sent) ∈ labels ∧
      record = agent.toRecord kind (agent.redactor.redact kind sent)

/-- The item is the redaction of one that was sent, or was read from a record of the run. -/
def Origin (agent : Agent) (records : Kind → Records) (labels : List (PoolLabel Arrival Choice))
    (kind : Kind) (item : Telemetry kind) : Prop :=
  (∃ sent, .arrive (.trySend kind sent) ∈ labels ∧ item = agent.redactor.redact kind sent) ∨
    ∃ record, agent.Recorded records labels kind record ∧ agent.fromRecord kind record = some item

/-- What is asked of the items that are loaded may be replaced by what follows from it. -/
theorem permits_of_loads {items' : (kind : Kind) → Telemetry kind → Prop} {pool : Pool Shared Task}
    {label : PoolLabel Arrival Choice} (permits : agent.Permits (loading items) pool label)
    (follows : ∀ kind item, items kind item → items' kind item) :
    agent.Permits (loading items') pool label := by
  cases label with
  | arrive arrival => cases arrival <;> exact trivial
  | run tid choice =>
      intro task present
      have permitted := permits task present
      cases task with
      | send kind phase => cases phase <;> exact permitted
      | load kind phase =>
          cases phase with
          | getting keys =>
              cases keys with
              | nil => trivial
              | cons key keys => exact fun item read => follows kind item (permitted item read)
          | _ => trivial
      | _ => trivial

/-- Every item that is loaded is a value of its type. -/
def LoadsValid (serde : SerdeJson) (agent : Agent) (pool : Pool Shared Task)
    (label : PoolLabel Arrival Choice) : Prop :=
  agent.Permits (loading (Telemetry.Valid serde)) pool label

/-- **What enters a buffer is the redaction of what was sent, or was read from a record of
the run.** -/
theorem entered_origin (records : Kind → Records) {labels : List (PoolLabel Arrival Choice)}
    {pool : Pool Shared Task}
    (run : agent.machine.RunUnder (agent.LoadsValid serde) ⟨agent.initial records, []⟩ labels pool)
    (typed : ∀ arrival, .arrive arrival ∈ labels → arrival.Valid serde) (kind : Kind) :
    ∀ entry ∈ (ledger kind pool).entered, agent.Origin records labels kind entry.item.item ∧
      Telemetry.Valid serde kind entry.item.item := by
  let given (kind : Kind) (item : Telemetry kind) : Prop :=
    (∃ sent, .arrive (.trySend kind sent) ∈ labels ∧ item = agent.redactor.redact kind sent) ∧
      Telemetry.Valid serde kind item
  have sends : ∀ label ∈ labels, ∀ arrival, label = .arrive arrival →
      arrival.Sends given agent := by
    rintro label member arrival rfl
    cases arrival with
    | trySend kind item =>
        exact ⟨⟨item, member, rfl⟩, agent.redactor.valid_redact kind (typed _ member)⟩
    | _ => trivial
  have kept := (run.with_labels sends).invariant
    (fun pool => ((ledger kind pool).Made (fun item => agent.Origin records labels kind item ∧
        Telemetry.Valid serde kind item) ∧
      (ledger kind pool).Stores (agent.Recorded records labels kind)) ∧
      ∀ task ∈ pool.tasks, task.Sends given)
    ⟨⟨⟨by simp [ledger, Column.ledger, initial, Column.initial],
      by simp [ledger, Column.ledger]⟩, fun key value found => Or.inl ⟨key, found⟩⟩, by simp⟩ ?_
  · exact kept.1.1.entered
  · rintro before label after ⟨⟨made, stores⟩, held⟩ allowed stepped
    have permits : agent.Permits (fun kind =>
        { loading (Telemetry.Valid serde) kind with send := given kind }) before label := allowed.1
    have move := agent.step_ledger stepped permits held kind
    refine ⟨⟨move.made (fun item sent => ⟨Or.inl sent.1, sent.2⟩) ?_ made, move.stores ?_ stores⟩,
      agent.step_sends stepped allowed.2 held⟩
    · exact fun key value item found read valid =>
        ⟨Or.inr ⟨value, stores key value found, read⟩, valid⟩
    · rintro item ⟨⟨sent, member, rfl⟩, -⟩
      exact Or.inr ⟨sent, member, rfl⟩

/-- **The ingestion side reads what was sent, redacted.** In every run whose items are values
of their types, the receiver reads from every request the documents of items that were sent
in the run, redacted, and possibly reloaded since, or that were read from records that were in
the store when the run began. A document is read as its item, without a response time that is
not finite; that of a metric with such a value is not read at all. -/
theorem ingests_entered {gunzip : Bytes → Option Bytes}
    (lawful : agent.crates.Lawful gunzip serde.writer serde.readNumber)
    (writes : agent.toRecord = serde.toRecord) (reads : agent.fromRecord = serde.fromRecord)
    (records : Kind → Records) {labels : List (PoolLabel Arrival Choice)}
    {pool : Pool Shared Task}
    (run : agent.machine.RunUnder (agent.LoadsValid serde) ⟨agent.initial records, []⟩ labels pool)
    (typed : ∀ arrival, .arrive arrival ∈ labels → arrival.Valid serde) (kind : Kind) :
    ∀ exchange ∈ (pool.shared.columns kind).wire, ∃ items : List (Telemetry kind),
      (agent.transport.receiver gunzip).receive agent.crates exchange.1 =
        some (Delivery.only (items.map (Telemetry.toValue kind)) kind) ∧
      ∀ item ∈ items,
        ((∃ sent, .arrive (.trySend kind sent) ∈ labels ∧
            (item = agent.redactor.redact kind sent ∨
              item = Telemetry.reloaded kind (agent.redactor.redact kind sent)) ∧
            agent.redactor.Covers kind item) ∨
          ∃ key record, (records kind).lookup key = some record ∧
            agent.fromRecord kind record = some item) ∧
        Telemetry.ofValue serde kind (Telemetry.toValue kind item) =
          if Telemetry.isFinite kind item then some (Telemetry.reloaded kind item) else none := by
  intro exchange made
  obtain ⟨posted, entered⟩ := (agent.traced records run.run kind).2.posts exchange made
  have origin : ∀ occurrence ∈ exchange.1.carried,
      agent.Origin records labels kind occurrence.item ∧
        Telemetry.Valid serde kind occurrence.item := by
    intro occurrence carried
    obtain ⟨entry, present, rfl⟩ := entered occurrence carried
    exact entered_origin records run typed kind entry present
  refine ⟨exchange.1.carried.map Occurrence.item, ?_, fun item member => ?_⟩
  · rw [List.map_map]
    exact lawful.receive_of_posts posted fun occurrence carried =>
      Telemetry.wellFormed_toValue kind (origin occurrence carried).2
  · obtain ⟨occurrence, carried, rfl⟩ := List.mem_map.mp member
    obtain ⟨source, valid⟩ := origin occurrence carried
    refine ⟨?_, Telemetry.ofValue_toValue kind valid⟩
    rcases source with ⟨sent, arrived, same⟩ |
      ⟨record, ⟨key, stored⟩ | ⟨sent, arrived, rfl⟩, read⟩
    · refine Or.inl ⟨sent, arrived, Or.inl same, ?_⟩
      refine (agent.redactor.redact_eq_self_iff kind _).mp ?_
      rw [same, agent.redactor.redact_redact]
    · exact Or.inr ⟨key, record, stored, read⟩
    · have redacted := agent.redactor.valid_redact kind (typed _ arrived)
      rw [writes, reads, SerdeJson.fromRecord_toRecord lawful.prints kind redacted] at read
      obtain ⟨_, same⟩ := Option.ite_none_right_eq_some.mp read
      obtain same := (Option.some.inj same).symm
      refine Or.inl ⟨sent, arrived, Or.inr same, ?_⟩
      rw [same]
      exact agent.redactor.covers_reloaded kind sent

/-- The agent with records in the form of the sample, over crates that write the same form. -/
def receivedSample : Agent :=
  { SerdeJson.sampleAgent with crates := .lawfulSample SerdeJson.sample.writer }

/-- The sample event with a sensitive entry in its metadata. -/
def sensitiveSample : SecurityEvent :=
  { SerdeJson.sampleEvent with
    metadata := .object [("authorization", .string "Bearer 1234"), ("path", .string "/")] }

/-- The sensitive sample's fields are values of their types. -/
theorem sensitiveSample_valid : sensitiveSample.Valid SerdeJson.sample where
  idempotencyKey := rfl
  timestamp := rfl
  statusCode := by decide
  responseTime := by
    rintro time ⟨⟩
    trivial
  metadata := by
    refine .object (by decide) ?_
    rw [List.forall_mem_cons, List.forall_mem_singleton]
    exact ⟨.string _, .string _⟩

section Decidable

variable (kind : Kind)

instance (key : String) : Decidable ((loading (fun _ _ => False) kind).mint key) := .isTrue trivial

instance (key : String) (item : Telemetry kind) :
    Decidable ((loading (fun _ _ => False) kind).load key item) := .isFalse id

instance : Decidable (loading (fun _ _ => False) kind).clear := .isTrue trivial

instance (key : String) : Decidable ((loading (fun _ _ => False) kind).expire key) :=
  .isTrue trivial

end Decidable

/-- Two events are sent, one with a sensitive entry, and posted at once: the receiver reads
both. -/
theorem ingests_entered_pair :
    ∃ labels pool, receivedSample.machine.Run ⟨receivedSample.initial fun _ => ∅, []⟩ labels pool ∧
      ∃ exchange ∈ (pool.shared.columns .events).wire, exchange.1.carried.length = 2 ∧
        ∃ items : List (Telemetry .events),
          (receivedSample.transport.receiver some).receive receivedSample.crates exchange.1 =
            some (Delivery.only (items.map (Telemetry.toValue .events)) .events) ∧
          ∀ item ∈ items, receivedSample.redactor.Covers .events item := by
  let labels : List (PoolLabel Arrival Choice) :=
    [.arrive (.trySend .events SerdeJson.sampleEvent), .arrive (.trySend .events sensitiveSample),
      sampleAct 0, sampleAct 1, .arrive .flushBuffer] ++ List.replicate 11 (sampleAct 2)
  have lawful : receivedSample.crates.Lawful some SerdeJson.sample.writer
      SerdeJson.sample.readNumber :=
    Crates.lawfulSample_lawful SerdeJson.sample.escapes_writer SerdeJson.sample_lawful
  obtain ⟨pool, run, checked⟩ := @Machine.exists_runUnder _ _ receivedSample.machine
    (receivedSample.Permits (loading fun _ _ => False)) _ ⟨receivedSample.initial fun _ => ∅, []⟩
    labels
    (fun pool => ∃ exchange ∈ (pool.shared.columns .events).wire, exchange.1.carried.length = 2)
    (by decide +kernel)
  obtain ⟨exchange, made, both⟩ := of_decide_eq_true checked
  have valid : receivedSample.machine.RunUnder (receivedSample.LoadsValid SerdeJson.sample)
      ⟨receivedSample.initial fun _ => ∅, []⟩ labels pool :=
    run.mono fun _ _ permits => permits_of_loads permits fun _ _ => False.elim
  have typed : ∀ arrival, PoolLabel.arrive arrival ∈ labels →
      arrival.Valid SerdeJson.sample := by
    intro arrival member
    simp only [labels, List.mem_append, List.mem_cons, List.not_mem_nil, or_false,
      PoolLabel.arrive.injEq, List.mem_replicate, sampleAct, reduceCtorEq, and_false,
      false_or] at member
    rcases member with rfl | rfl | rfl
    · exact SerdeJson.sampleEvent_valid
    · exact sensitiveSample_valid
    · trivial
  obtain ⟨items, read, origin⟩ :=
    ingests_entered lawful rfl rfl (fun _ => ∅) valid typed .events exchange made
  refine ⟨labels, pool, run.run, exchange, made, both, items, read, fun item member => ?_⟩
  obtain ⟨⟨_, _, _, covered⟩ | ⟨_, _, stored, _⟩, _⟩ := origin item member
  · exact covered
  · cases stored

end Agent

end GuardAgent
