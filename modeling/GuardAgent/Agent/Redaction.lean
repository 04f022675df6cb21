import GuardAgent.Agent.Durability
import GuardAgent.Agent.Sealing

/-!
# Redaction

What is sent is redacted before it is buffered, but what is reloaded is not. As long as
every record that is loaded has an item the redactor leaves unchanged, all buffered and
all posted items are redacted (`Agent.keeps_redacted`). A record that was written under
an older configuration need not be so (`Agent.reload_of_unredacted_record`).
-/

namespace GuardAgent

open Foundation

/-- Every sensitive entry of the item is replaced, as deep as redaction goes. -/
def Redactor.Covers (redactor : Redactor) : (kind : Kind) → Telemetry kind → Prop
  | .events, (event : SecurityEvent) => ∀ key entry,
      event.metadata.Within maxRedactDepth key entry → redactor.isSensitive key = true →
        entry = .string redactedPlaceholder
  | .metrics, (metric : SecurityMetric) => ∀ tag ∈ metric.tags,
      redactor.isSensitive tag.1 = true → tag.2 = redactedPlaceholder

/-- **The redactor leaves an item unchanged exactly when it covers it.** -/
theorem Redactor.redact_eq_self_iff (redactor : Redactor) : (kind : Kind) →
    (item : Telemetry kind) → (redactor.redact kind item = item ↔ redactor.Covers kind item)
  | .events, (event : SecurityEvent) => by
      refine Iff.trans ?_ (redactor.redactValue_eq_self_iff event.metadata)
      constructor
      · exact fun same => congrArg SecurityEvent.metadata same
      · intro same
        exact congrArg (fun metadata => ({ event with metadata := metadata } : SecurityEvent)) same
  | .metrics, (metric : SecurityMetric) => by
      refine Iff.trans ?_ (redactor.redactTags_eq_self_iff metric.tags)
      constructor
      · exact fun same => congrArg SecurityMetric.tags same
      · intro same
        exact congrArg (fun tags => ({ metric with tags := tags } : SecurityMetric)) same

namespace Ledger

variable {kind : Kind} {agent : Agent} {guards : Guards kind} {items : Telemetry kind → Prop}
  {before after : Ledger kind}

/-- Everything that entered or is about to enter is such an item. -/
structure Made (items : Telemetry kind → Prop) (ledger : Ledger kind) : Prop where
  entered : ∀ entry ∈ ledger.entered, items entry.item.item
  arriving : ∀ pair ∈ ledger.arriving, items pair.2

/-- What buffers nothing new and has no new records to buffer keeps it. -/
theorem Made.of_le (made : Made items before) (entered : after.entered = before.entered)
    (arriving : after.arriving ≤ before.arriving) : Made items after := by
  refine ⟨?_, fun pair member => made.arriving pair (Multiset.mem_of_le arriving member)⟩
  rw [entered]
  exact made.entered

/-- An item that enters has to be such an item. -/
theorem Made.enter (made : Made items before) {entry : Entry kind} (fits : items entry.item.item)
    (entered : after.entered = before.entered ++ [entry])
    (arriving : after.arriving ≤ before.arriving) : Made items after := by
  refine ⟨fun other member => ?_, fun pair member => ?_⟩
  · rw [entered] at member
    rcases List.mem_append.mp member with old | new
    · exact made.entered other old
    · obtain rfl := List.mem_singleton.mp new
      exact fits
  · exact made.arriving pair (Multiset.mem_of_le arriving member)

/-- What gives up a stake and buffers nothing new keeps it. -/
theorem Made.of_rest (made : Made items before) {stake rest : Stake kind}
    (staked : before.toStake = stake + rest) (entered : after.entered = before.entered)
    (arriving : after.arriving ≤ rest.arriving) : Made items after := by
  refine made.of_le entered (arriving.trans ?_)
  rw [staked]
  exact Multiset.le_add_left _ _

/-- An item that is about to enter has to be such an item. -/
theorem Made.arrive (made : Made items before) (key : String) {item : Telemetry kind}
    (fits : items item) (entered : after.entered = before.entered)
    (arriving : after.arriving ≤ {(key, item)} + before.arriving) : Made items after := by
  refine ⟨?_, fun pair member => ?_⟩
  · rw [entered]
    exact made.entered
  · rcases Multiset.mem_add.mp (Multiset.mem_of_le arriving member) with new | old
    · obtain rfl := Multiset.mem_singleton.mp new
      exact fits
    · exact made.arriving pair old

/-- **Only items that the guards admit enter.** -/
theorem Move.made (move : Move agent guards before after)
    (sent : ∀ item, guards.send item → items item)
    (loaded : ∀ key value item, before.records.lookup key = some value →
      agent.fromRecord kind value = some item → guards.load key item → items item)
    (made : Made items before) : Made items after := by
  cases move with
  | enter item permitted => exact made.enter (sent item permitted) rfl (zero_add _).le
  | arrive rest key item returned reloaded one staked =>
      have arriving : before.arriving = {(key, item)} + rest.arriving :=
        congrArg Stake.arriving staked
      have fits : items item := made.arriving (key, item) (by simp [arriving])
      refine @made.enter _ _ _ _ ⟨_, some key⟩ fits rfl ?_
      rw [arriving]
      exact (zero_add _).le.trans (Multiset.le_add_left _ _)
  | write rest key item permitted staked =>
      have arriving : before.arriving = 0 + rest.arriving := congrArg Stake.arriving staked
      refine made.arrive key (sent item permitted) rfl ?_
      rw [arriving, zero_add]
      exact le_rfl
  | load key value item read parsed permitted =>
      exact made.arrive key (loaded key value item read parsed permitted) rfl le_rfl
  | stay => exact made
  | mint key minted => exact made.of_le rfl (zero_add _).le
  | evict victim buffer doomed stake buffered _ staked =>
      subst staked
      exact made.of_le rfl (zero_add _).le
  | drain => exact made.of_le rfl (zero_add _).le
  | wipe => exact made.of_le rfl le_rfl
  | clear reply permitted => exact made.of_le rfl le_rfl
  | expire key permitted => exact made.of_le rfl le_rfl
  | writeFailed rest key item applied permitted staked => exact made.of_rest staked rfl le_rfl
  | accept rest batch staked => exact made.of_rest staked rfl (zero_add _).le
  | reject rest batch staked => exact made.of_rest staked rfl (zero_add _).le
  | requeue rest batch buffer victims staked balance =>
      exact made.of_rest staked rfl (zero_add _).le
  | recordSent rest count staked => exact made.of_rest staked rfl le_rfl
  | recordFailed rest count staked => exact made.of_rest staked rfl le_rfl
  | delete rest keys reply staked => exact made.of_rest staked rfl le_rfl
  | spare rest keys staked => exact made.of_rest staked rfl le_rfl

end Ledger

/-- Only items that the redactor leaves unchanged are sent and loaded. -/
def Agent.redacting (agent : Agent) (kind : Kind) : Guards kind where
  send item := agent.redactor.redact kind item = item
  mint _ := True
  load _ item := agent.redactor.redact kind item = item
  clear := True
  expire _ := True

/-- The redactor leaves the item of every record unchanged that the step loads. -/
def Agent.LoadsRedacted (agent : Agent) (pool : Pool Shared Task)
    (label : PoolLabel Arrival Choice) : Prop :=
  agent.Permits agent.redacting pool label

section Decidable

variable (agent : Agent) (kind : Kind)

instance (key : String) : Decidable ((agent.redacting kind).mint key) := .isTrue trivial

instance (key : String) (item : Telemetry kind) :
    Decidable ((agent.redacting kind).load key item) :=
  inferInstanceAs (Decidable (agent.redactor.redact kind item = item))

instance : Decidable (agent.redacting kind).clear := .isTrue trivial

instance (key : String) : Decidable ((agent.redacting kind).expire key) := .isTrue trivial

instance (pool : Pool Shared Task) (label : PoolLabel Arrival Choice) :
    Decidable (agent.LoadsRedacted pool label) :=
  inferInstanceAs (Decidable (agent.Permits agent.redacting pool label))

end Decidable

namespace Agent

/-- What entered was redacted. -/
theorem entered_redacted (agent : Agent) (records : Kind → Records)
    {labels : List (PoolLabel Arrival Choice)} {pool : Pool Shared Task}
    (run : agent.machine.RunUnder agent.LoadsRedacted ⟨agent.initial records, []⟩ labels pool)
    (kind : Kind) : ∀ entry ∈ (ledger kind pool).entered,
      agent.redactor.redact kind entry.item.item = entry.item.item := by
  have kept := run.invariant
    (fun pool => (ledger kind pool).Made (fun item => agent.redactor.redact kind item = item) ∧
      ∀ task ∈ pool.tasks, task.Sends fun kind item => agent.redactor.redact kind item = item)
    ⟨⟨by simp [ledger, Column.ledger, initial, Column.initial],
      by simp [ledger, Column.ledger]⟩, by simp⟩ ?_
  · exact kept.1.entered
  · intro before label after held permits stepped
    have move := agent.step_ledger stepped permits held.2 kind
    refine ⟨move.made (fun _ => id) (fun _ _ _ _ _ => id) held.1, ?_⟩
    refine agent.step_sends stepped (fun arrival _ => ?_) held.2
    cases arrival with
    | trySend other item => exact agent.redactor.redact_redact other item
    | _ => trivial

/-- **As long as only redacted records are loaded, all that is buffered, in flight or
posted is redacted.** -/
theorem keeps_redacted (agent : Agent) (records : Kind → Records)
    (labels : List (PoolLabel Arrival Choice)) (pool : Pool Shared Task)
    (run : agent.machine.RunUnder agent.LoadsRedacted ⟨agent.initial records, []⟩ labels pool)
    (kind : Kind) :
    (∀ entry, entry ∈ (pool.shared.columns kind).buffer ∨ entry ∈ (ledger kind pool).inFlight →
      agent.redactor.redact kind entry.item.item = entry.item.item) ∧
    ∀ exchange ∈ (pool.shared.columns kind).wire,
      agent.transport.Posts agent.crates Occurrence.document kind exchange.1 ∧
      ∀ occurrence ∈ exchange.1.carried, agent.redactor.Covers kind occurrence.item := by
  have redacted := agent.entered_redacted records run kind
  obtain ⟨booked, traced⟩ := agent.traced records run.run kind
  refine ⟨fun entry held => redacted entry ?_, fun exchange made => ?_⟩
  · rcases held with buffered | flying
    · exact @Ledger.Booked.mem_entered _ _ booked _ .buffered (Multiset.mem_coe.mpr buffered)
    · exact @Ledger.Booked.mem_entered _ _ booked _ .inFlight flying
  · obtain ⟨posted, entered⟩ := traced.posts exchange made
    refine ⟨posted, fun occurrence carried => ?_⟩
    obtain ⟨entry, present, rfl⟩ := entered occurrence carried
    exact (agent.redactor.redact_eq_self_iff kind _).mp (redacted entry present)

/-- A store with the record of one metric. -/
def metricRecord (metric : SecurityMetric) : Kind → Records
  | .events => ∅
  | .metrics => AList.singleton "metric_1600000000000000000_c56a4180" metric.sampleText

/-- A redacted record is reloaded, a metric is sent, and both are posted. -/
theorem keeps_redacted_at_start :
    let metric := sampleMetric 1 [("authorization", redactedPlaceholder)]
    let agent := Agent.sample (AgentConfig.new "test-api-key-1234") [metric]
    ∃ labels pool,
      agent.machine.RunUnder agent.LoadsRedacted ⟨agent.initial (metricRecord metric), []⟩ labels
        pool ∧
      ∃ exchange ∈ (pool.shared.columns .metrics).wire, exchange.1.carried.length = 2 ∧
        ∀ occurrence ∈ exchange.1.carried, agent.redactor.Covers .metrics occurrence.item := by
  intro metric agent
  let labels := [.arrive .attachRedisHandler, .arrive .start] ++ List.replicate 12 (sampleAct 0) ++
    [.arrive (.trySend .metrics (sampleMetric 2 [("Authorization", "secret")]))] ++
    List.replicate 3 (sampleAct 1) ++ [.arrive .flushBuffer] ++ List.replicate 15 (sampleAct 2)
  obtain ⟨pool, run, checked⟩ := @Machine.exists_runUnder _ _ agent.machine agent.LoadsRedacted _
    ⟨agent.initial (metricRecord metric), []⟩ labels
    (fun pool => ∃ exchange ∈ (pool.shared.columns .metrics).wire, exchange.1.carried.length = 2)
    (by decide +kernel)
  obtain ⟨exchange, made, both⟩ := of_decide_eq_true checked
  have redacted := (keeps_redacted agent _ labels pool run .metrics).2 exchange made
  exact ⟨labels, pool, run, exchange, made, both, redacted.2⟩

/-- A record with a sensitive tag is buffered as it is, and posted in the clear. -/
theorem reload_of_unredacted_record :
    let metric := sampleMetric 1 [("authorization", "secret")]
    let agent := Agent.sample (AgentConfig.new "test-api-key-1234") [metric]
    (∃ labels pool,
      agent.machine.Run ⟨agent.initial (metricRecord metric), []⟩ labels pool ∧
      ∃ entry ∈ (pool.shared.columns .metrics).buffer,
        agent.redactor.redact .metrics entry.item.item ≠ entry.item.item) ∧
    ∃ labels pool,
      agent.machine.Run ⟨agent.initial (metricRecord metric), []⟩ labels pool ∧
      ∃ exchange ∈ (pool.shared.columns .metrics).wire,
        agent.transport.PostsPlain agent.crates Occurrence.document .metrics exchange.1 ∧
        ∃ occurrence ∈ exchange.1.carried, ¬ agent.redactor.Covers .metrics occurrence.item := by
  intro metric agent
  let started := [.arrive .attachRedisHandler, .arrive .start] ++ List.replicate 12 (sampleAct 0)
  constructor
  · obtain ⟨pool, run, checked⟩ := @Machine.exists_run _ _ agent.machine
      ⟨agent.initial (metricRecord metric), []⟩ started
      (fun pool => ∃ entry ∈ (pool.shared.columns .metrics).buffer,
        agent.redactor.redact .metrics entry.item.item ≠ entry.item.item) (by decide +kernel)
    exact ⟨started, pool, run, of_decide_eq_true checked⟩
  · let labels := started ++ [.arrive .flushBuffer] ++ List.replicate 15 (sampleAct 1)
    obtain ⟨pool, run, checked⟩ := @Machine.exists_run _ _ agent.machine
      ⟨agent.initial (metricRecord metric), []⟩ labels
      (fun pool => ∃ exchange ∈ (pool.shared.columns .metrics).wire,
        ∃ occurrence ∈ exchange.1.carried,
          agent.redactor.redact .metrics occurrence.item ≠ occurrence.item) (by decide +kernel)
    obtain ⟨exchange, made, occurrence, carried, exposed⟩ := of_decide_eq_true checked
    have posted := agent.posts _ run .metrics exchange made
    exact ⟨labels, pool, run, exchange, made, posted, occurrence, carried,
      mt (agent.redactor.redact_eq_self_iff .metrics _).mpr exposed⟩

end Agent

end GuardAgent
