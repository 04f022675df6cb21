import GuardAgent.Agent.Backoff
import GuardAgent.Agent.Calls
import GuardAgent.Agent.Recovery
import GuardAgent.Foundation.Surroundings
import GuardAgent.Transport.Exhaustion
import GuardAgent.Transport.Receiver

/-!
# What a flush delivers

While every request is admitted and acknowledged, no batch comes back: a flush of a kind whose
gate is open takes everything that is buffered when it drains, and the buffer never again holds
an item from before. So when `flush_buffer` returns, what was buffered at the call was accepted,
unless the drop policy evicted it or another flush has just drained it
(`Agent.flush_delivers`).
-/

namespace GuardAgent

open Foundation Program

/-- An answer that lets a send through: a request is admitted, and a post is acknowledged. -/
def TransportOp.Welcomes {Item : Type} (crates : Crates) :
    (op : TransportOp Item) → op.Answer → Prop
  | .acquire, admitted => admitted = true
  | .breakerAdmit, admitted => admitted = true
  | .post request, reply => HttpTransport.classifyAttempt crates request.url reply = .accepted
  | _, _ => True

/-- AES-GCM encrypts every message. -/
def Crates.Seals (crates : Crates) : Prop :=
  ∀ (key : Bytes) (nonce : Nonce) (message associated : Bytes), key.length = keySize →
    ∃ ciphertext, crates.encrypt key nonce message associated = .ok ciphertext

namespace HttpTransport

variable {Item : Type} {crates : Crates} {transport : HttpTransport} {render : Item → Value}

/-- The first attempt is accepted. -/
theorem sendWithRetry_leads (label : String) (body : Body Item) :
    (transport.sendWithRetry crates label body).Leads (TransportOp.Welcomes crates)
      (· = .ok .accepted) := by
  have attempted : (transport.attempt crates label body).Leads (TransportOp.Welcomes crates)
      (· = .accepted) := by
    refine leads_call.mpr fun _ _ => leads_call.mpr fun reply accepted => ?_
    cases reply with
    | clientError message => exact accepted
    | response status retryAfter text => exact leads_call.mpr fun _ _ => accepted
  have attempts : transport.config.totalAttempts = transport.config.totalAttempts - 1 + 1 :=
    (Nat.sub_add_cancel (totalAttempts_pos transport.config)).symm
  refine @Leads.bind _ _ _ _ (· = .ok .accepted) _ _ _ ?_ ?_
  · rw [attempts]
    unfold retryLoop
    refine leads_call.mpr fun acquired granted => ?_
    cases granted
    refine leads_call.mpr fun admitted granted => ?_
    cases granted
    refine Leads.bind attempted ?_
    rintro _ rfl
    exact leads_call.mpr fun _ _ => rfl
  · rintro _ rfl
    exact leads_call.mpr fun _ _ => rfl

/-- **A send that is let through is accepted**, encrypted or not. -/
theorem sendBatch_leads (seals : crates.Seals) (batch : BatchItems Item) :
    (transport.sendBatch crates render batch).Leads (TransportOp.Welcomes crates)
      (· = .accepted) := by
  unfold sendBatch
  split
  · next encryptor _ =>
      refine leads_call.mpr fun nonce _ => ?_
      obtain ⟨ciphertext, encrypted⟩ := seals encryptor.key nonce
        (utf8 (crates.canonicalJson (sealedPayload render batch))) (utf8 "") encryptor.size
      have done : encryptor.encrypt crates.toCipherSuite nonce (sealedPayload render batch) none =
          .ok (crates.base64Encode (nonce.val ++ ciphertext)) := by
        unfold PayloadEncryptor.encrypt
        rw [Option.getD_none, encrypted]
      dsimp only
      rw [done]
      refine leads_call.mpr fun batchId _ => Leads.bind (sendWithRetry_leads _ _) ?_
      rintro _ rfl
      rfl
  · have built : (buildBatchBody crates transport render batch).Leads
        (TransportOp.Welcomes crates) fun _ => True :=
      leads_call.mpr fun _ _ => leads_call.mpr fun _ _ => trivial
    refine Leads.bind built fun body _ => Leads.bind (sendWithRetry_leads _ body) ?_
    rintro _ rfl
    rfl

end HttpTransport

variable {agent : Agent} {kind : Kind}

/-- A flush that is let through does not return its batch to the buffer. -/
def FlushPhase.Calm (crates : Crates) (now : ℚ) : FlushPhase kind → Prop
  | .gated gate => ∀ opens ∈ gate, opens ≤ now
  | .sending _ _ rest => rest.Leads (TransportOp.Welcomes crates) (· = .accepted)
  | .confirming _ sent => sent.isSome = true
  | .deleting _ sent => sent.isSome = true
  | .requeueing _ => False
  | .recordingFailed _ _ => False
  | _ => True

/-- The task sends, or flushes and is let through. -/
def Task.Calm (crates : Crates) (kind : Kind) (now : ℚ) : Task → Prop
  | .send _ _ => True
  | .flushBuffer => True
  | .gatedFlush => True
  | .flushIfNeeded => True
  | .flush other phase => other = kind → phase.Calm crates now
  | .finished => True
  | _ => False

/-- The task is a send, or over. -/
def Task.onlySends : Task → Bool
  | .send _ _ => true
  | .finished => true
  | _ => false

/-- The task is going to drain the buffer of this kind. -/
def Task.Ahead (kind : Kind) : Task → Prop
  | .flushBuffer => True
  | .flush other phase =>
      if other = kind then phase = .start ∨ phase.passing = true else other = .events
  | _ => False

/-- The step is let through, and nobody clears the buffers or starts the agent. -/
def Agent.Welcomes (agent : Agent) (_ : Pool Shared Task) : PoolLabel Arrival Choice → Prop
  | .arrive arrival => arrival ≠ .clearBuffer ∧ arrival ≠ .start
  | .run _ choice => ∀ kind op, TransportOp.Welcomes agent.crates op (choice.respond kind op)

/-- What a calm step does to one kind: no gate closes, and the buffer takes in new items only. -/
structure Column.Serves (agent : Agent) (before after : Column kind) : Prop where
  gate : ∀ opens ∈ after.retryAfter, opens ∈ before.retryAfter
  rejected : after.rejected = before.rejected
  wiped : after.wiped = before.wiped
  evicted : agent.config.bufferOverflowPolicy ≠ .drop → after.evicted = before.evicted
  entered : before.entered ⊆ after.entered
  buffer : ∀ entry ∈ after.buffer, entry ∈ before.buffer ∨ entry ∉ before.entered

namespace Column.Serves

variable {before after column : Column kind}

/-- A change of the records and of the history serves the kind. -/
theorem of_kept (records : Records) (accepted : List (Entry kind))
    (wire : List (Exchange (Occurrence kind))) : column.Serves agent
      { column with records := records, accepted := accepted, wire := wire } :=
  ⟨fun _ same => same, rfl, rfl, fun _ => rfl, List.Subset.refl _, fun _ => Or.inl⟩

/-- To change nothing serves the kind. -/
theorem refl : column.Serves agent column := of_kept _ _ _

/-- Two changes in turn that serve the kind serve it together. -/
theorem trans {middle : Column kind} (first : before.Serves agent middle)
    (second : middle.Serves agent after) : before.Serves agent after where
  gate opens member := first.gate opens (second.gate opens member)
  rejected := second.rejected.trans first.rejected
  wiped := second.wiped.trans first.wiped
  evicted keeps := (second.evicted keeps).trans (first.evicted keeps)
  entered := List.Subset.trans first.entered second.entered
  buffer entry member := by
    rcases second.buffer entry member with old | fresh
    · exact first.buffer entry old
    · exact Or.inr fun entered => fresh (first.entered entered)

/-- A pushed item has a number of its own. -/
theorem push (numbered : column.entered.map (fun entry => entry.item.serial) =
      List.range column.entered.length) (item : Telemetry kind) (key : Option String) :
    column.Serves agent (column.pushBack item key) := by
  refine ⟨fun _ same => same, rfl, rfl, fun _ => rfl, List.subset_append_left _ _, ?_⟩
  intro entry member
  rcases List.mem_append.mp member with old | new
  · exact Or.inl old
  · refine Or.inr fun entered => ?_
    have serial := List.mem_map_of_mem (f := fun entry => entry.item.serial) entered
    rw [numbered, List.mem_singleton.mp new, List.mem_range] at serial
    exact lt_irrefl _ serial

/-- Evicting the oldest item serves the kind when the policy is to drop. -/
theorem evict {victim : Entry kind} {rest : List (Entry kind)}
    (drops : agent.config.bufferOverflowPolicy = .drop) (front : column.buffer = victim :: rest) :
    column.Serves agent (column.evictFront victim rest) where
  gate _ same := same
  rejected := rfl
  wiped := rfl
  evicted keeps := (keeps drops).elim
  entered := List.Subset.refl _
  buffer _ member := Or.inl (front ▸ List.mem_cons_of_mem _ member)

/-- A drain serves the kind. -/
theorem drain : column.Serves agent column.drain.2 where
  gate _ same := same
  rejected := rfl
  wiped := rfl
  evicted _ := rfl
  entered := List.Subset.refl _
  buffer _ member := (List.not_mem_nil member).elim

end Column.Serves

/-- The actions of a send serve the kind. -/
theorem SendPhase.Acts.serves {phase after : SendPhase kind} {choice : Choice}
    {common common' : Common} {column column' : Column kind} {started : List Task}
    (acts : phase.Acts agent choice common column common' column' after started)
    (numbered : column.entered.map (fun entry => entry.item.serial) =
      List.range column.entered.length) : column.Serves agent column' := by
  cases acts with
  | push item _ _ _ => exact .push numbered item none
  | pushed item key => exact .push numbered item key
  | evict item victim rest _ _ drops front _ => exact .evict drops front
  | evictKeyed item victim rest key _ _ drops front _ _ => exact .evict drops front
  | _ => exact .of_kept _ _ _

/-- A calm flush serves its kind, and stays calm. -/
theorem FlushPhase.Acts.serves {phase after : FlushPhase kind} {choice : Choice}
    {common common' : Common} {column column' : Column kind}
    (acts : phase.Acts agent choice common column common' column' after)
    (seals : agent.crates.Seals)
    (welcomes : ∀ op, TransportOp.Welcomes agent.crates op (choice.respond kind op))
    (gate : ∀ opens ∈ column.retryAfter, opens ≤ common.now)
    (calm : phase.Calm agent.crates common.now) :
    column.Serves agent column' ∧ after.Calm agent.crates common'.now := by
  have later {sent : Option ℕ} (sends : sent.isSome = true) :
      (afterConfirm sent : FlushPhase kind).Calm agent.crates common.now := by
    obtain ⟨count, rfl⟩ := Option.isSome_iff_exists.mp sends
    trivial
  cases acts with
  | read _ => exact ⟨.of_kept _ _ _, gate⟩
  | closed opens early => exact ⟨.of_kept _ _ _, trivial⟩
  | passed gate _ => exact ⟨.of_kept _ _ _, trivial⟩
  | drainedNone _ _ => exact ⟨.drain, trivial⟩
  | drained _ _ => exact ⟨.drain, trivial⟩
  | stamped batch _ => exact ⟨.of_kept _ _ _, HttpTransport.sendBatch_leads seals _⟩
  | performed batch trace op next =>
      exact ⟨.of_kept _ _ _, calm _ (welcomes op)⟩
  | accepted batch trace =>
      exact ⟨.of_kept _ _ _, rfl⟩
  | rejected batch trace statusCode detail => cases calm
  | failed batch trace error => cases calm
  | confirmedNone keys sent _ => exact ⟨.of_kept _ _ _, later calm⟩
  | confirmed keys sent _ _ _ => exact ⟨.of_kept _ _ _, calm⟩
  | deleted live sent => exact ⟨.of_kept _ _ _, later calm⟩
  | recordedSent count _ =>
      exact ⟨⟨fun _ none => (Option.not_mem_none _ none).elim, rfl, rfl, fun _ => rfl,
        List.Subset.refl _, fun _ => Or.inl⟩, trivial⟩
  | requeued batch _ => exact calm.elim
  | recordedFailed count evicted streak _ _ => exact calm.elim

namespace Task

variable {task after : Task} {choice : Choice} {shared shared' : Shared} {started : List Task}

/-- A task that is let through stays so as time passes. -/
theorem Calm.mono {now later : ℚ} (calm : task.Calm agent.crates kind now) (passes : now ≤ later) :
    task.Calm agent.crates kind later := by
  cases task with
  | flush other phase =>
      intro same
      have phaseCalm := calm same
      cases phase with
      | gated gate => exact fun opens member => (phaseCalm opens member).trans passes
      | _ => exact phaseCalm
  | _ => exact calm

/-- A calm task serves the kind, and stays calm. -/
theorem Acts.serves (acts : task.Acts agent choice shared shared' after started)
    (seals : agent.crates.Seals)
    (welcomes : ∀ kind op, TransportOp.Welcomes agent.crates op (choice.respond kind op))
    (numbered : (shared.columns kind).entered.map (fun entry => entry.item.serial) =
      List.range (shared.columns kind).entered.length)
    (gate : ∀ opens ∈ (shared.columns kind).retryAfter, opens ≤ shared.now)
    (calm : task.Calm agent.crates kind shared.now) :
    (shared.columns kind).Serves agent (shared'.columns kind) ∧
      after.Calm agent.crates kind shared'.now := by
  cases acts with
  | send other phase after common column started acts =>
      refine ⟨?_, trivial⟩
      by_cases here : other = kind
      · subst here
        rw [Shared.update_self]
        exact acts.serves numbered
      · rw [Shared.update_of_ne (Ne.symm here)]
        exact .refl
  | flush other phase after common column acts =>
      by_cases here : other = kind
      · subst here
        obtain ⟨serves, later⟩ := acts.serves seals (welcomes other) gate (calm rfl)
        rw [Shared.update_self]
        exact ⟨serves, fun _ => later⟩
      · rw [Shared.update_of_ne (Ne.symm here)]
        exact ⟨.refl, fun same => (here same).elim⟩
  | flushMetrics => exact ⟨.refl, fun _ => trivial⟩
  | permitted _ => exact ⟨.refl, fun _ => trivial⟩
  | needed _ => exact ⟨.refl, fun _ => trivial⟩
  | flushed => exact ⟨.refl, trivial⟩
  | gatedPermitted _ => exact ⟨.refl, trivial⟩
  | unpermitted _ => exact ⟨.refl, trivial⟩
  | unneeded _ => exact ⟨.refl, trivial⟩
  | _ => exact calm.elim

/-- A calm flush that is going to drain goes on, or drains. -/
theorem Acts.ahead (acts : task.Acts agent choice shared shared' after started)
    (calm : task.Calm agent.crates kind shared.now) (ahead : task.Ahead kind) :
    after.Ahead kind ∨ (shared'.columns kind).buffer = [] := by
  cases acts with
  | flush other phase after common column acts =>
      by_cases here : other = kind
      · subst here
        simp only [Ahead, ↓reduceIte] at ahead ⊢
        rw [Shared.update_self]
        cases acts with
        | read _ => exact Or.inl (Or.inr rfl)
        | closed opens early => exact (not_lt.mpr (calm rfl opens rfl) early).elim
        | passed gate _ => exact Or.inl (Or.inr rfl)
        | drainedNone _ _ => exact Or.inr rfl
        | drained _ _ => exact Or.inr rfl
        | _ => rcases ahead with same | same <;> cases same
      · simp only [Ahead, here, ↓reduceIte] at ahead ⊢
        exact Or.inl ahead
  | flushMetrics =>
      cases kind with
      | events => rcases ahead with same | same <;> cases same
      | metrics => exact Or.inl (Or.inl rfl)
  | flushed =>
      cases kind with
      | events => cases ahead
      | metrics => rcases ahead with same | same <;> cases same
  | permitted _ =>
      cases kind with
      | events => exact Or.inl (Or.inl rfl)
      | metrics => exact Or.inl rfl
  | _ => exact ahead.elim

end Task

/-- An arrival that neither clears nor starts brings calm tasks only. -/
theorem Arrival.arrive?_calm {arrival : Arrival} {shared shared' : Shared} {started : List Task}
    (arrived : arrival.arrive? agent shared = some (shared', started))
    (keeps : arrival ≠ .clearBuffer) (stays : arrival ≠ .start) :
    ∀ task ∈ started, task.Calm agent.crates kind shared'.now := by
  intro task member
  have fresh := (Arrival.arrive?_on arrived kind).2 task member
  cases arrival with
  | trySend other item =>
      cases arrived
      split at member
      · rw [List.mem_singleton.mp member]
        trivial
      · cases member
  | flushBuffer =>
      cases arrived
      rw [List.mem_singleton.mp member]
      trivial
  | flushTick =>
      cases arrived
      rw [List.mem_singleton.mp member]
      trivial
  | clearBuffer => exact (keeps rfl).elim
  | start => exact (stays rfl).elim
  | stop =>
      cases arrived
      cases member
  | expire other key =>
      cases arrived
      cases member
  | attachRedisHandler =>
      obtain ⟨_, same⟩ := Option.ite_none_left_eq_some.mp arrived
      cases same
      cases member
  | elapse seconds =>
      obtain ⟨_, same⟩ := Option.ite_none_right_eq_some.mp arrived
      cases same
      cases member

/-- The kind has been served from a column on, and the call is going to drain or has drained. -/
structure Delivers (agent : Agent) (kind : Kind) (start : Column kind) (tid : ℕ)
    (pool : Pool Shared Task) : Prop where
  booked : (ledger kind pool).Booked
  calm : ∀ task ∈ pool.tasks, task.Calm agent.crates kind pool.shared.now
  gate : ∀ opens ∈ (pool.shared.columns kind).retryAfter, opens ≤ pool.shared.now
  served : start.Serves agent (pool.shared.columns kind)
  drained : (∃ task, pool.tasks[tid]? = some task ∧ task.Ahead kind) ∨
    ∀ entry ∈ start.entered, entry ∉ (pool.shared.columns kind).buffer

/-- A step that is let through keeps what the awaited flush needs. -/
theorem Delivers.step {start : Column kind} {tid : ℕ} {pool next : Pool Shared Task}
    {label : PoolLabel Arrival Choice} (delivers : Delivers agent kind start tid pool)
    (seals : agent.crates.Seals) (welcomes : agent.Welcomes pool label)
    (stepped : agent.machine.step? pool label = some next) :
    Delivers agent kind start tid next := by
  obtain ⟨booked, calm, gate, served, drained⟩ := delivers
  have move := agent.step_ledger stepped (agent.permits_open pool label)
    (fun task _ => task.sends_any) kind
  -- What was drained stays out of the buffer.
  have gone (serves : (pool.shared.columns kind).Serves agent (next.shared.columns kind))
      (out : ∀ entry ∈ start.entered, entry ∉ (pool.shared.columns kind).buffer) :
      ∀ entry ∈ start.entered, entry ∉ (next.shared.columns kind).buffer := by
    intro entry entered inside
    rcases serves.buffer entry inside with old | fresh
    · exact out entry entered old
    · exact fresh (served.entered entered)
  rcases Threads.step_cases stepped with ⟨arrival, shared, started, rfl, arrived, rfl⟩ |
    ⟨other, choice, task, shared, after, started, rfl, present, acted, rfl⟩
  · have passes := Arrival.arrive?_now arrived
    obtain ⟨⟨records, same⟩, _⟩ := Arrival.arrive?_on arrived kind
    have serves : (pool.shared.columns kind).Serves agent (shared.columns kind) := by
      rw [same]
      exact .of_kept _ _ _
    refine ⟨move.booked booked, ?_, ?_, served.trans serves, drained.imp ?_ (gone serves)⟩
    · intro task member
      rcases List.mem_append.mp member with old | new
      · exact (calm task old).mono passes
      · exact Arrival.arrive?_calm arrived welcomes.1 welcomes.2 task new
    · exact fun opens member => (gate opens (serves.gate opens member)).trans passes
    · rintro ⟨task, present, ahead⟩
      obtain ⟨bound, _⟩ := List.getElem?_eq_some_iff.mp present
      exact ⟨task, (List.getElem?_append_left bound).trans present, ahead⟩
  · have acts := Task.act?_acts acted
    obtain ⟨serves, later⟩ := acts.serves seals welcomes booked.serials gate
      (calm task (List.mem_of_getElem? present))
    refine ⟨move.booked booked, ?_, ?_, served.trans serves, ?_⟩
    · intro found member
      rcases Pool.mem_acted_cases member with rfl | old | new
      · exact later
      · rw [acts.now]
        exact calm found old
      · rcases Task.act?_started acted with none | one
        · rw [none] at new
          cases new
        · rw [one, List.mem_singleton] at new
          rw [new]
          trivial
    · rw [acts.now]
      exact fun opens member => gate opens (serves.gate opens member)
    · rcases drained with ⟨call, there, ahead⟩ | out
      · by_cases here : tid = other
        · subst here
          rw [present] at there
          cases there
          rcases acts.ahead (calm task (List.mem_of_getElem? present)) ahead with going | empty
          · exact Or.inl ⟨after, Pool.getElem?_acted present after, going⟩
          · refine Or.inr fun entry _ inside => ?_
            rw [empty] at inside
            cases inside
        · exact Or.inl ⟨call, Pool.getElem?_other there here after, ahead⟩
      · exact Or.inr (gone serves out)

namespace Agent

/-- **A flush delivers what is buffered.** Take any state in which only sends are in progress and
the gate of the kind is open, call `flush_buffer`, and let sends, flushes and anything but
`clear_buffer` and `start` go on beside it, in any order, while every request is admitted and
acknowledged. When the call has returned, every item of the kind that was buffered is in an
accepted batch, unless the drop policy evicted it or another flush holds it. -/
theorem flush_delivers (agent : Agent) (seals : agent.crates.Seals) (kind : Kind)
    (records : Kind → Records) (past labels : List (PoolLabel Arrival Choice))
    (source target : Pool Shared Task)
    (run : agent.machine.Run ⟨agent.initial records, []⟩ past source)
    (sends : ∀ task ∈ source.tasks, task.onlySends = true)
    (opened : ∀ opens ∈ (source.shared.columns kind).retryAfter, opens ≤ source.shared.now)
    (flush : agent.machine.RunUnder agent.Welcomes source (.arrive .flushBuffer :: labels) target)
    (returned : target.tasks[source.tasks.length]? = some .finished) :
    ∀ entry ∈ (source.shared.columns kind).buffer,
      entry ∈ (target.shared.columns kind).accepted ∨
      agent.config.bufferOverflowPolicy = .drop ∧ entry ∈ (target.shared.columns kind).evicted ∨
      ∃ task ∈ target.tasks, entry ∈ (task.stake kind).inFlight := by
  have booked := agent.booked records run kind
  have delivers : Delivers agent kind (source.shared.columns kind) source.tasks.length target := by
    cases flush with
    | @cons _ middle _ _ _ _ called rest =>
        have same : middle = ⟨source.shared, source.tasks ++ [.flushBuffer]⟩ := by
          cases called
          rfl
        subst same
        have move := agent.step_ledger called (agent.permits_open source _)
          (fun task _ => task.sends_any) kind
        refine rest.invariant (Delivers agent kind _ _) ⟨move.booked booked, ?_, opened, .refl, ?_⟩
          fun _ _ _ delivers welcomes stepped => delivers.step seals welcomes stepped
        · intro task member
          rcases List.mem_append.mp member with old | new
          · have only := sends task old
            cases task with
            | send other phase => trivial
            | finished => trivial
            | _ => cases only
          · rw [List.mem_singleton.mp new]
            trivial
        · exact Or.inl ⟨.flushBuffer, List.getElem?_concat_length, trivial⟩
  have out : ∀ entry ∈ (source.shared.columns kind).entered,
      entry ∉ (target.shared.columns kind).buffer := by
    rcases delivers.drained with ⟨task, there, ahead⟩ | out
    · rw [returned] at there
      cases there
      exact ahead.elim
    · exact out
  intro entry buffered
  have here : entry ∈ (ledger kind source).custody .buffered := buffered
  have entered := booked.mem_entered here
  -- At the call the item was in no other place.
  have alone (place : Place) (elsewhere : place ≠ .buffered) :
      entry ∉ (ledger kind source).custody place :=
    fun there => elsewhere ((booked.existsUnique_place entered).unique there here)
  obtain ⟨place, there, -⟩ :=
    delivers.booked.existsUnique_place (delivers.served.entered entered)
  cases place with
  | buffered => exact (out entry entered there).elim
  | inFlight =>
      have flying : (ledger kind target).inFlight =
          target.owned fun task => (task.stake kind).inFlight :=
        Pool.map_owned (Stake.flying kind) target (Task.stake kind)
      change entry ∈ (ledger kind target).inFlight at there
      rw [flying, Pool.mem_owned] at there
      exact Or.inr (Or.inr there)
  | confirmed =>
      rcases Multiset.mem_add.mp there with accepted | rejected
      · exact Or.inl accepted
      · change entry ∈ ((target.shared.columns kind).rejected : Multiset (Entry kind)) at rejected
        rw [delivers.served.rejected] at rejected
        exact (alone .confirmed nofun (Multiset.mem_add.mpr (Or.inr rejected))).elim
  | evicted =>
      by_cases drops : agent.config.bufferOverflowPolicy = .drop
      · exact Or.inr (Or.inl ⟨drops, there⟩)
      · change entry ∈ ((target.shared.columns kind).evicted : Multiset (Entry kind)) at there
        rw [delivers.served.evicted drops] at there
        exact (alone .evicted nofun there).elim
  | wiped =>
      change entry ∈ ((target.shared.columns kind).wiped : Multiset (Entry kind)) at there
      rw [delivers.served.wiped] at there
      exact (alone .wiped nofun there).elim

/-- A metric that is buffered is delivered while another one is sent. -/
theorem flush_delivers_metric :
    let agent := { Agent.sample (AgentConfig.new "test-api-key-1234") [] with
      crates := .canonicalSample }
    ∃ past labels source target, agent.machine.Run ⟨agent.initial fun _ => ∅, []⟩ past source ∧
      agent.machine.RunUnder agent.Welcomes source (.arrive .flushBuffer :: labels) target ∧
      (source.shared.columns .metrics).buffer.length = 1 ∧
      (target.shared.columns .metrics).buffer.length = 1 ∧
      ∀ entry ∈ (source.shared.columns .metrics).buffer,
        entry ∈ (target.shared.columns .metrics).accepted ∨
        agent.config.bufferOverflowPolicy = .drop ∧
          entry ∈ (target.shared.columns .metrics).evicted ∨
        ∃ task ∈ target.tasks, entry ∈ (task.stake .metrics).inFlight := by
  intro agent
  let choice : Choice := .sample 1700000000000000000 .ok fun _ => .response 201 none (.ok "")
  let send (value : ℚ) : PoolLabel Arrival Choice :=
    .arrive (.trySend .metrics (sampleMetric value []))
  let past := [send 1, .run 0 choice]
  let labels := List.replicate 9 (.run 1 choice) ++ [send 2, .run 2 choice] ++
    List.replicate 13 (.run 1 choice)
  have seals : agent.crates.Seals := fun key nonce message associated size =>
    (Crates.canonicalSample_lawful.suite.opens key nonce message associated size).imp
      fun _ opens => opens.1
  have welcome (tid : ℕ) (pool : Pool Shared Task) : agent.Welcomes pool (.run tid choice) := by
    intro kind op
    cases op <;> first | rfl | trivial
  have welcomes : ∀ label ∈ .arrive .flushBuffer :: labels, ∀ pool, agent.Welcomes pool label := by
    intro label member
    simp only [labels, List.mem_cons, List.mem_append, List.mem_replicate, List.not_mem_nil,
      or_false] at member
    rcases member with rfl | (⟨-, rfl⟩ | rfl | rfl) | ⟨-, rfl⟩
    · exact fun _ => ⟨(fun same => by cases same), (fun same => by cases same)⟩
    · exact welcome 1
    · exact fun _ => ⟨(fun same => by cases same), (fun same => by cases same)⟩
    · exact welcome 2
    · exact welcome 1
  let buffered (pool : Pool Shared Task) : ℕ := (pool.shared.columns .metrics).buffer.length
  let check (source target : Pool Shared Task) : Bool :=
    decide (buffered source = 1 ∧ buffered target = 1 ∧
      (source.shared.columns .metrics).retryAfter = none ∧
      (∀ task ∈ source.tasks, task.onlySends = true) ∧
      (target.tasks[source.tasks.length]?).any Task.isFinished = true)
  obtain ⟨source, before, later⟩ := @Machine.exists_run _ _ agent.machine
    ⟨agent.initial fun _ => ∅, []⟩ past (fun source =>
      (agent.machine.run? source (.arrive .flushBuffer :: labels)).any (check source))
    (by decide +kernel)
  obtain ⟨target, run, checked⟩ := Machine.exists_run later
  obtain ⟨one, another, gate, sends, ended⟩ := of_decide_eq_true checked
  have returned : target.tasks[source.tasks.length]? = some .finished := by
    obtain ⟨task, present, isFinished⟩ := (Option.any_eq_true _ _).mp ended
    exact Task.eq_finished isFinished ▸ present
  have flush := (run.with_labels welcomes).mono fun pool _ met => met.2 pool
  refine ⟨past, labels, source, target, before, flush, one, another,
    flush_delivers agent seals .metrics (fun _ => ∅) past labels source target before sends ?_ flush
      returned⟩
  intro opens shut
  rw [gate] at shut
  cases shut

end Agent

end GuardAgent
