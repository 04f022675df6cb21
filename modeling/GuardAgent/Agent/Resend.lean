import GuardAgent.Agent.Calls

/-!
# What is finished is not sent again

An item that a request finished is not requeued and not requested again, in every run
whose calls of `send_batch` do not fail after part of their batch was finished
(`Agent.finished_not_resent`). A batch that was split can fail so
(`Agent.resend_of_split_batch`).
-/

namespace GuardAgent

open Foundation

variable {agent : Agent} {kind : Kind}

/-- In a call of `send_batch` that runs or has returned, no request repeats what an earlier
one finished, and all carry items of the batch. -/
theorem Agent.sendBatch_exchanges (plaintext : agent.transport.encryptor = none)
    {items : List (Occurrence kind)} {trace : List (TransportEvent (Occurrence kind))}
    {rest : TransportProgram (Occurrence kind) SendOutcome}
    (reached : (agent.sendBatch kind items).Reaches trace rest) (distinct : items.Nodup) :
    ((exchanges trace).Pairwise fun earlier later =>
      ∀ item ∈ Exchange.disposed agent.crates earlier, item ∉ later.1.carried) ∧
    ∀ exchange ∈ exchanges trace, ∀ item ∈ exchange.1.carried, item ∈ items := by
  obtain ⟨later, outcome, run⟩ := reached.of_run (TransportOp.admitting fun _ => .clientError "")
  obtain ⟨halving, calls, _⟩ := HttpTransport.sendBatch_ensures plaintext _ _ _ run
  have whole := calls.pairwise_disposed (halving.pairwise_finished distinct)
  rw [exchanges_append] at whole
  refine ⟨(List.pairwise_append.mp whole).1, fun exchange member item carried => ?_⟩
  have present : exchange ∈ exchanges (trace ++ later) := by
    rw [exchanges_append]
    exact List.mem_append_left _ member
  obtain ⟨sent, made, same, _⟩ := calls.exists_sent exchange present
  have part := halving.batch_infix sent made
  exact part.subset (same ▸ carried)

/-- What an exchange disposes of is what its request carried. -/
theorem Exchange.disposed_subset {Item : Type} {crates : Crates} (exchange : Exchange Item) :
    ∀ item ∈ Exchange.disposed crates exchange, item ∈ exchange.1.carried := by
  intro item finished
  unfold Exchange.disposed at finished
  split at finished
  · exact finished
  · cases finished

/-- A finished item was confirmed, or the call that finished it has not returned. -/
def Settled (agent : Agent) (kind : Kind) (pool : Pool Shared Task) (item : Occurrence kind) :
    Prop :=
  (∃ entry ∈ (pool.shared.columns kind).accepted ++ (pool.shared.columns kind).rejected,
    entry.item = item) ∨
  ∃ (tid : ℕ) (batch : _) (trace : _) (rest : _),
    pool.tasks[tid]? = some (.flush kind (.sending batch trace rest)) ∧
    item ∈ disposed agent.crates trace

/-- What was finished is settled and was not requested again. -/
structure Unrepeated (agent : Agent) (kind : Kind) (pool : Pool Shared Task) : Prop where
  distinct : (pool.shared.columns kind).wire.Pairwise fun earlier later =>
    ∀ item ∈ Exchange.disposed agent.crates earlier, item ∉ later.1.carried
  settled : ∀ exchange ∈ (pool.shared.columns kind).wire,
    ∀ item ∈ Exchange.disposed agent.crates exchange, Settled agent kind pool item

/-- A call of `send_batch` that returns now has not finished items and then, in its last
attempt, none. -/
def Task.unmixed (crates : Crates) : Task → Bool
  | .flush _ (.sending _ trace (.done _)) =>
      (attempts crates trace).all (fun items => items.isEmpty) ||
        (attempts crates trace).getLast?.any fun items => !items.isEmpty
  | _ => true

/-- No call of `send_batch` returns after its last attempt finished nothing and an earlier
one did. -/
def Agent.Unmixed (agent : Agent) (pool : Pool Shared Task) (label : PoolLabel Arrival Choice) :
    Prop :=
  match label with
  | .run tid _ => ∀ task ∈ pool.tasks[tid]?, task.unmixed agent.crates = true
  | .arrive _ => True

instance (agent : Agent) (pool : Pool Shared Task) (label : PoolLabel Arrival Choice) :
    Decidable (agent.Unmixed pool label) :=
  match label with
  | .run tid _ => inferInstanceAs
      (Decidable (∀ task ∈ pool.tasks[tid]?, task.unmixed agent.crates = true))
  | .arrive _ => .isTrue trivial

/-- A failed call whose attempts are not mixed has finished nothing. -/
theorem Agent.disposed_of_failed (plaintext : agent.transport.encryptor = none)
    {batch : Batch (Occurrence kind)} {trace : List (TransportEvent (Occurrence kind))}
    {error : GuardAgentError}
    (run : (agent.sendBatch kind batch.items).Run trace (.failed error))
    (unmixed : (Task.flush kind (.sending batch trace (.done (.failed error)))).unmixed
      agent.crates = true) : disposed agent.crates trace = [] := by
  have handled := HttpTransport.sendBatch_ensures plaintext _ _ _ run
  have last := handled.lastFailed rfl
  rw [← flatten_attempts, List.flatten_eq_nil_iff]
  simp only [Task.unmixed, last, Option.any_some, List.isEmpty_nil, Bool.not_true, Bool.or_false,
    List.all_eq_true, List.isEmpty_iff] at unmixed
  exact unmixed

/-- What is settled stays so while confirmed items stay confirmed, when the calls that
have not returned keep what they finished. -/
theorem Settled.mono {before after : Pool Shared Task} {item : Occurrence kind}
    (settled : Settled agent kind before item)
    (confirmed : ∀ entry ∈ (before.shared.columns kind).accepted ++
      (before.shared.columns kind).rejected, entry ∈ (after.shared.columns kind).accepted ++
      (after.shared.columns kind).rejected)
    (ongoing : ∀ (tid : ℕ) (batch : _) (trace : _) (rest : _),
      before.tasks[tid]? = some (.flush kind (.sending batch trace rest)) →
      item ∈ disposed agent.crates trace → Settled agent kind after item) :
    Settled agent kind after item := by
  rcases settled with ⟨entry, member, same⟩ | ⟨tid, batch, trace, rest, sending, finished⟩
  · exact Or.inl ⟨entry, confirmed entry member, same⟩
  · exact ongoing tid batch trace rest sending finished

/-- Where the history is the same, what was confirmed stays confirmed. -/
theorem Column.SameHistory.confirmed {before after : Column kind}
    (history : before.SameHistory after) :
    ∀ entry ∈ before.accepted ++ before.rejected, entry ∈ after.accepted ++ after.rejected := by
  intro entry member
  rw [history.accepted, history.rejected]
  exact member

/-- The items that a call has finished are of its batch. -/
theorem Traced.batch_of_disposed {pool : Pool Shared Task} (traced : Traced agent kind pool)
    (plaintext : agent.transport.encryptor = none) (booked : (ledger kind pool).Booked) {tid : ℕ}
    {batch : Batch (Occurrence kind)} {trace : List (TransportEvent (Occurrence kind))}
    {rest : TransportProgram (Occurrence kind) SendOutcome}
    (sending : pool.tasks[tid]? = some (.flush kind (.sending batch trace rest)))
    {item : Occurrence kind} (finished : item ∈ disposed agent.crates trace) :
    item ∈ batch.items := by
  obtain ⟨exchange, made, member⟩ := List.mem_flatMap.mp finished
  have reached := traced.reached tid batch trace rest sending
  have carried := (agent.sendBatch_exchanges plaintext reached (booked.nodup_batch sending)).2
  exact carried exchange made item (exchange.disposed_subset item member)

/-- The next request of a call has nothing that is settled. -/
theorem Traced.not_settled {pool : Pool Shared Task} (traced : Traced agent kind pool)
    (plaintext : agent.transport.encryptor = none) (booked : (ledger kind pool).Booked) {tid : ℕ}
    {batch : Batch (Occurrence kind)} {trace : List (TransportEvent (Occurrence kind))}
    {rest : TransportProgram (Occurrence kind) SendOutcome}
    (sending : pool.tasks[tid]? = some (.flush kind (.sending batch trace rest)))
    {event : TransportEvent (Occurrence kind)}
    {later : TransportProgram (Occurrence kind) SendOutcome}
    (reached : (agent.sendBatch kind batch.items).Reaches (trace ++ [event]) later)
    {exchange : Exchange (Occurrence kind)} (made : exchange? event = some exchange)
    {item : Occurrence kind} (carried : item ∈ exchange.1.carried) :
    ¬ Settled agent kind pool item := by
  have latest : exchanges (trace ++ [event]) = exchanges trace ++ [exchange] := by
    rw [exchanges_append]
    simp only [exchanges, List.filterMap_cons, made, List.filterMap_nil]
  obtain ⟨apart, inside⟩ :=
    agent.sendBatch_exchanges plaintext reached (booked.nodup_batch sending)
  rw [latest] at apart inside
  have member : item ∈ batch.items := inside exchange (by simp) item carried
  intro settled
  rcases settled with ⟨entry, confirmed, same⟩ | ⟨other, batch', trace', rest', calling, finished⟩
  · cases booked.not_elsewhere sending member (Ledger.mem_confirmed confirmed) same
  · have owned := traced.batch_of_disposed plaintext booked calling finished
    have same := booked.same_call sending member calling owned
    subst same
    rw [sending] at calling
    cases calling
    obtain ⟨earlier, before, finished⟩ := List.mem_flatMap.mp finished
    have repeated := (List.pairwise_append.mp apart).2.2 earlier before exchange (by simp)
    exact repeated item finished carried

namespace Unrepeated

variable {pool next : Pool Shared Task}

/-- A new agent has requested nothing. -/
theorem initial (records : Kind → Records) :
    Unrepeated agent kind ⟨agent.initial records, []⟩ := by
  refine ⟨.nil, fun exchange made => ?_⟩
  cases made

/-- **Every step keeps it, unless a call returns whose attempts are mixed.** -/
theorem step (unrepeated : Unrepeated agent kind pool)
    (plaintext : agent.transport.encryptor = none) (booked : (ledger kind pool).Booked)
    (traced : Traced agent kind pool) {label : PoolLabel Arrival Choice}
    (unmixed : agent.Unmixed pool label)
    (stepped : agent.machine.step? pool label = some next) : Unrepeated agent kind next := by
  cases agent.step_calls stepped with
  | quiet history kept begun =>
      refine ⟨?_, fun exchange made item finished => ?_⟩
      · rw [history.wire]
        exact unrepeated.distinct
      · rw [history.wire] at made
        apply (unrepeated.settled exchange made item finished).mono history.confirmed
        intro tid batch trace rest sending member
        have goes := kept tid _ ⟨batch, trace, rest, rfl⟩ sending
        exact Or.inr ⟨tid, batch, trace, rest, goes, member⟩
  | operation tid batch trace op rest answer sending sent others same =>
      have reached := (traced.reached tid batch trace _ sending).snoc answer
      -- What the other calls finished, and what this one did before, stays settled.
      have kept (item : Occurrence kind) (settled : Settled agent kind pool item) :
          Settled agent kind next item := by
        refine settled.mono ?_ ?_
        · intro entry member
          rw [same]
          exact member
        · intro other batch' trace' rest' calling member
          by_cases here : other = tid
          · subst here
            rw [sending] at calling
            cases calling
            refine Or.inr ⟨other, batch, _, _, sent, ?_⟩
            rw [disposed, exchanges_append, List.flatMap_append]
            exact List.mem_append_left _ member
          · have goes := (others other _ _ _ here).mp calling
            exact Or.inr ⟨other, batch', trace', rest', goes, member⟩
      refine ⟨?_, fun exchange made item finished => ?_⟩
      · rw [same]
        refine List.pairwise_append.mpr ⟨unrepeated.distinct, ?_, ?_⟩
        · cases exchange? (⟨op, answer⟩ : TransportEvent (Occurrence kind)) with
          | none => exact .nil
          | some exchange => exact List.pairwise_singleton _ _
        · intro earlier before exchange made item finished carried
          have settled := unrepeated.settled earlier before item finished
          exact traced.not_settled plaintext booked sending reached (Option.mem_toList.mp made)
            carried settled
      · rw [same] at made
        rcases List.mem_append.mp made with before | now
        · exact kept item (unrepeated.settled exchange before item finished)
        · refine Or.inr ⟨tid, batch, _, _, sent, ?_⟩
          rw [disposed, exchanges_append, List.flatMap_append]
          refine List.mem_append_right _ (List.mem_flatMap.mpr ⟨exchange, ?_, finished⟩)
          exact List.mem_filterMap.mpr ⟨_, List.mem_singleton_self _, Option.mem_toList.mp now⟩
  | outcome tid choice batch trace outcome ran sending elsewhere wire confirmed =>
      subst ran
      refine ⟨?_, fun exchange made item finished => ?_⟩
      · rw [wire]
        exact unrepeated.distinct
      · rw [wire] at made
        refine (unrepeated.settled exchange made item finished).mono ?_ ?_
        · exact fun entry member => (confirmed entry).mpr (Or.inl member)
        · intro other batch' trace' rest' calling member
          by_cases here : other = tid
          · subst here
            rw [sending] at calling
            cases calling
            have owned := traced.batch_of_disposed plaintext booked sending member
            cases outcome with
            | failed error =>
                have run := traced.reached other batch trace _ sending
                rw [agent.disposed_of_failed plaintext run (unmixed _ sending)] at member
                cases member
            | accepted =>
                obtain ⟨entry, inside, same, _⟩ := Ledger.Booked.exists_entry sending owned
                exact Or.inl ⟨entry, (confirmed entry).mpr (Or.inr ⟨rfl, inside⟩), same⟩
            | permanentDrop statusCode detail =>
                obtain ⟨entry, inside, same, _⟩ := Ledger.Booked.exists_entry sending owned
                exact Or.inl ⟨entry, (confirmed entry).mpr (Or.inr ⟨rfl, inside⟩), same⟩
          · have goes := (elsewhere other _ _ _).mpr ⟨here, calling⟩
            exact Or.inr ⟨other, batch', trace', rest', goes, member⟩

/-- A buffered item was not finished. -/
theorem not_finished (unrepeated : Unrepeated agent kind pool)
    (plaintext : agent.transport.encryptor = none) (booked : (ledger kind pool).Booked)
    (traced : Traced agent kind pool) {entry : Entry kind}
    (buffered : entry ∈ (pool.shared.columns kind).buffer) {exchange : Exchange (Occurrence kind)}
    (made : exchange ∈ (pool.shared.columns kind).wire) :
    entry.item ∉ Exchange.disposed agent.crates exchange := by
  intro finished
  have there : entry ∈ (ledger kind pool).custody .buffered := Multiset.mem_coe.mpr buffered
  rcases unrepeated.settled exchange made _ finished with
    ⟨other, confirmed, same⟩ | ⟨tid, batch, trace, rest, calling, member⟩
  · have elsewhere := Ledger.mem_confirmed confirmed
    have equal := booked.eq_of_item (booked.mem_entered elsewhere) (booked.mem_entered there) same
    subst equal
    cases (booked.existsUnique_place (booked.mem_entered there)).unique there elsewhere
  · have owned := traced.batch_of_disposed plaintext booked calling member
    cases booked.not_elsewhere calling owned there rfl

end Unrepeated

/-- The answer of a server for which two items are too large together. -/
def HttpReply.single (status : ℕ → ℕ) (request : Request (Occurrence kind)) : HttpReply :=
  match request.carried with
  | [item] => .response (status item.serial) none (.ok "")
  | _ => .response 413 none (.ok "")

namespace Agent

/-- **What is finished is neither requested nor buffered again**, when no call of
`send_batch` returns after finishing only a part of its batch. -/
theorem finished_not_resent (agent : Agent) (plaintext : agent.transport.encryptor = none)
    (records : Kind → Records) (kind : Kind) (labels : List (PoolLabel Arrival Choice))
    (pool : Pool Shared Task)
    (run : agent.machine.RunUnder agent.Unmixed ⟨agent.initial records, []⟩ labels pool) :
    ((pool.shared.columns kind).wire.Pairwise fun earlier later =>
      ∀ item ∈ Exchange.disposed agent.crates earlier, item ∉ later.1.carried) ∧
    ∀ exchange ∈ (pool.shared.columns kind).wire,
      ∀ item ∈ Exchange.disposed agent.crates exchange,
        ∀ entry ∈ (pool.shared.columns kind).buffer, entry.item ≠ item := by
  have kept := run.invariant
    (fun pool => ((ledger kind pool).Booked ∧ Traced agent kind pool) ∧ Unrepeated agent kind pool)
    ⟨⟨Ledger.initial_booked agent records, .initial agent records⟩, .initial records⟩
    (fun before label after held unmixed stepped => by
      obtain ⟨⟨booked, traced⟩, unrepeated⟩ := held
      exact ⟨agent.step_traced booked traced stepped,
        unrepeated.step plaintext booked traced unmixed stepped⟩)
  obtain ⟨⟨booked, traced⟩, unrepeated⟩ := kept
  refine ⟨unrepeated.distinct, fun exchange made item finished entry buffered same => ?_⟩
  subst same
  exact unrepeated.not_finished plaintext booked traced buffered made finished

/-- An item is requeued after a `500` and sent again; nothing was finished before. -/
theorem finished_not_resent_after_failure :
    let agent := Agent.sample { AgentConfig.new "test-api-key-1234" with retryAttempts := 0 } []
    ∃ labels pool,
      agent.machine.RunUnder agent.Unmixed ⟨agent.initial fun _ => ∅, []⟩ labels pool ∧
      (pool.shared.columns .metrics).wire.length = 2 ∧
      (pool.shared.columns .metrics).wire.Pairwise fun earlier later =>
        ∀ item ∈ Exchange.disposed agent.crates earlier, item ∉ later.1.carried := by
  intro agent
  let act (tid status : ℕ) : PoolLabel Arrival Choice :=
    .run tid (.sample 1700000000000000000 .ok (HttpReply.single fun _ => status))
  let labels := [.arrive (.trySend .metrics (sampleMetric 1 [])), act 0 201,
    .arrive .flushBuffer] ++ List.replicate 25 (act 1 500) ++
    [.arrive (.elapse 300), .arrive .flushBuffer] ++ List.replicate 20 (act 2 201)
  obtain ⟨pool, run, checked⟩ := @Machine.exists_runUnder _ _ agent.machine agent.Unmixed _
    ⟨agent.initial fun _ => ∅, []⟩ labels
    (fun pool => (pool.shared.columns .metrics).wire.length = 2) (by decide +kernel)
  exact ⟨labels, pool, run, of_decide_eq_true checked,
    (finished_not_resent agent rfl _ .metrics labels pool run).1⟩

/-- Two items are too large together; the first is accepted alone and the second fails.
Then both are buffered again, and the next flush requests both again. -/
theorem resend_of_split_batch :
    let agent := Agent.sample { AgentConfig.new "test-api-key-1234" with retryAttempts := 0 } []
    (∃ labels pool, agent.machine.Run ⟨agent.initial fun _ => ∅, []⟩ labels pool ∧
      ∃ exchange ∈ (pool.shared.columns .metrics).wire,
        exchange.2.acknowledged agent.crates = true ∧
        ∃ item ∈ Exchange.disposed agent.crates exchange,
          ∃ entry ∈ (pool.shared.columns .metrics).buffer, entry.item = item) ∧
    ∃ labels pool, agent.machine.Run ⟨agent.initial fun _ => ∅, []⟩ labels pool ∧
      (pool.shared.columns .metrics).wire.map
        (fun exchange => exchange.1.carried.map Occurrence.serial) = [[0, 1], [0], [1], [0, 1]] ∧
      ¬ (pool.shared.columns .metrics).wire.Pairwise fun earlier later =>
        ∀ item ∈ Exchange.disposed agent.crates earlier, item ∉ later.1.carried := by
  intro agent
  let act (tid : ℕ) : PoolLabel Arrival Choice := .run tid (.sample 1700000000000000000 .ok
    (HttpReply.single fun serial => if serial = 0 then 201 else 500))
  let failed := [.arrive (.trySend .metrics (sampleMetric 1 [])), act 0,
    .arrive (.trySend .metrics (sampleMetric 2 [])), act 1, .arrive .flushBuffer] ++
    List.replicate 42 (act 2)
  constructor
  · obtain ⟨pool, run, checked⟩ := @Machine.exists_run _ _ agent.machine
      ⟨agent.initial fun _ => ∅, []⟩ failed
      (fun pool => ∃ exchange ∈ (pool.shared.columns .metrics).wire,
        exchange.2.acknowledged agent.crates = true ∧
        ∃ item ∈ Exchange.disposed agent.crates exchange,
          ∃ entry ∈ (pool.shared.columns .metrics).buffer, entry.item = item)
      (by decide +kernel)
    exact ⟨failed, pool, run, of_decide_eq_true checked⟩
  · let labels := failed ++ [.arrive (.elapse 300), .arrive .flushBuffer] ++
      List.replicate 15 (act 3)
    obtain ⟨pool, run, checked⟩ := @Machine.exists_run _ _ agent.machine
      ⟨agent.initial fun _ => ∅, []⟩ labels
      (fun pool => (pool.shared.columns .metrics).wire.map
          (fun exchange => exchange.1.carried.map Occurrence.serial) = [[0, 1], [0], [1], [0, 1]] ∧
        ¬ (pool.shared.columns .metrics).wire.Pairwise fun earlier later =>
          ∀ item ∈ Exchange.disposed agent.crates earlier, item ∉ later.1.carried)
      (by decide +kernel)
    exact ⟨labels, pool, run, of_decide_eq_true checked⟩

end Agent

end GuardAgent
