import GuardAgent.Agent.RulesCache
import GuardAgent.DynamicRules
import GuardAgent.Transport.Receiver

/-!
# Where the rules come from

A fetch returns what it reads from the one document it accepts, and nothing if it accepts none
(`HttpTransport.fetchRules_documents`). So whatever rules the agent caches, serves or returns,
in any interleaving, a server answered with them in this run (`Agent.rules_fetched`).
-/

namespace GuardAgent

open Foundation

variable {Rules : Type}

/-- The object a server answered an exchange with, if the exchange was for this URL and
succeeded. -/
def rulesDocument? (crates : Crates) (url : String) : TransportEvent Unit → Option Value
  | ⟨.get asked, reply⟩ =>
      if asked = url then
        match HttpTransport.classifyGetAttempt crates url reply with
        | .ok value => if value.isObject then some value else none
        | _ => none
      else none
  | _ => none

def rulesDocuments (crates : Crates) (url : String) (trace : List (TransportEvent Unit)) :
    List Value :=
  trace.filterMap (rulesDocument? crates url)

/-- The URL of an endpoint of the API. -/
def HttpTransport.apiUrl (transport : HttpTransport) (label : String) : String :=
  s!"{transport.config.endpoint}/api/v1/{label}"

/-- An accepted document is an object in the body of a response of success. -/
theorem of_rulesDocument? {crates : Crates} {url : String} {event : TransportEvent Unit}
    {document : Value} (accepted : rulesDocument? crates url event = some document) :
    ∃ status retryAfter body entries, event = ⟨.get url, .response status retryAfter (.ok body)⟩ ∧
      (200 ≤ status ∧ status < 300) ∧ crates.fromSlice (utf8 body) = some document ∧
      document = .object entries := by
  obtain ⟨op, reply⟩ := event
  cases op with
  | get asked =>
      obtain ⟨rfl, answered⟩ := Option.ite_none_right_eq_some.mp accepted
      split at answered
      · next value classified =>
          obtain ⟨object, same⟩ := Option.ite_none_right_eq_some.mp answered
          cases same
          obtain ⟨entries, rfl⟩ : ∃ entries, document = .object entries := by
            cases document with
            | object entries => exact ⟨entries, rfl⟩
            | _ => cases object
          cases (reply : HttpReply) with
          | clientError message => cases classified
          | response status retryAfter body =>
              cases body with
              | error message => cases classified
              | ok body =>
                  rw [HttpTransport.classifyGetAttempt] at classified
                  split at classified
                  · next success =>
                      split at classified
                      · next parsed =>
                          cases classified
                          exact ⟨status, retryAfter, body, entries, rfl, success, parsed, rfl⟩
                      · cases classified
                  · split at classified <;> cases classified
      · cases answered
  | _ => cases accepted

namespace HttpTransport

variable {crates : Crates} {transport : HttpTransport} {url : String}

/-- A pause before the next attempt, or none after the last one. -/
theorem ensures_retry {remaining : ℕ} {delay : ℚ} {loop : TransportProgram Unit (Option Value)}
    {post : List (TransportEvent Unit) → Option Value → Prop}
    (stops : post [⟨.countRequestFailed, ()⟩] none)
    (goes : loop.Ensures fun later => post (⟨.sleep delay, ()⟩ :: later)) :
    (if remaining = 0 then do
        perform .countRequestFailed
        return none
      else do
        perform (.sleep delay)
        loop : TransportProgram Unit (Option Value)).Ensures post := by
  split
  · exact Program.ensures_call fun _ => Program.ensures_done stops
  · exact Program.ensures_call fun _ => goes

/-- The loop accepts at most one document, and returns it; the induction is on the attempts it has
left. -/
theorem getLoop_documents (attempt remaining : ℕ) :
    (transport.getLoop crates url attempt remaining).Ensures fun trace result =>
      rulesDocuments crates url trace = result.toList := by
  induction remaining generalizing attempt with
  | zero => exact Program.ensures_done rfl
  | succ remaining ih =>
      unfold getLoop
      refine Program.ensures_call fun acquired => ?_
      cases (acquired : Bool) with
      | false =>
          exact Program.ensures_call fun _ => Program.ensures_call fun _ => ih (attempt + 1)
      | true =>
          refine Program.ensures_call fun admitted => ?_
          cases (admitted : Bool) with
          | false => exact ensures_retry rfl (ih (attempt + 1))
          | true =>
              refine Program.ensures_call fun reply => ?_
              have served : rulesDocument? crates url ⟨.get url, reply⟩ =
                  match classifyGetAttempt crates url reply with
                  | .ok value => if value.isObject then some value else none
                  | _ => none := if_pos rfl
              have goes (later : List (TransportEvent Unit)) :
                  rulesDocuments crates url
                    (⟨.acquire, true⟩ :: ⟨.breakerAdmit, true⟩ :: ⟨.get url, reply⟩ :: later) =
                      (rulesDocument? crates url ⟨.get url, reply⟩).toList ++
                        rulesDocuments crates url later := by
                cases document : rulesDocument? crates url ⟨.get url, reply⟩ with
                | none => exact List.filterMap_cons_none document
                | some value => exact List.filterMap_cons_some document
              have retries (refused : rulesDocument? crates url ⟨.get url, reply⟩ = none)
                  {later : List (TransportEvent Unit)} {result : Option Value}
                  (same : rulesDocuments crates url later = result.toList) :
                  rulesDocuments crates url
                    (⟨.acquire, true⟩ :: ⟨.breakerAdmit, true⟩ :: ⟨.get url, reply⟩ :: later) =
                      result.toList := by
                rw [goes, refused]
                exact same
              cases classified : classifyGetAttempt crates url reply with
              | ok value =>
                  rw [classified] at served
                  refine Program.ensures_call fun _ => ?_
                  by_cases object : value.isObject = true
                  · simp only [object, ↓reduceIte] at served ⊢
                    refine Program.ensures_call fun _ => Program.ensures_done ?_
                    rw [goes, served]
                    rfl
                  · simp only [object, Bool.false_eq_true, ↓reduceIte] at served ⊢
                    exact Program.ensures_call fun _ => (ih (attempt + 1)).mono fun _ _ same =>
                      retries served same
              | rateLimited retryAfterSeconds =>
                  rw [classified] at served
                  exact Program.ensures_call fun _ => ensures_retry (retries served rfl)
                    ((ih (attempt + 1)).mono fun _ _ same => retries served same)
              | retryable error =>
                  rw [classified] at served
                  exact Program.ensures_call fun _ => ensures_retry (retries served rfl)
                    ((ih (attempt + 1)).mono fun _ _ same => retries served same)

/-- **A fetch returns what it reads from the one document it accepts.** -/
theorem fetchRules_documents (fromValue : Value → Option Rules) :
    (transport.fetchRules crates fromValue).Ensures fun trace result =>
      ∃ accepted : Option Value,
        rulesDocuments crates (transport.apiUrl "rules") trace = accepted.toList ∧
          result = accepted.bind fromValue := by
  refine Program.ensures_bind (getLoop_documents 0 transport.config.totalAttempts) ?_
  intro before accepted served
  rw [← List.append_nil before] at served
  cases accepted with
  | none => exact Program.ensures_done ⟨none, served, rfl⟩
  | some document => exact Program.ensures_done ⟨some document, served, rfl⟩

end HttpTransport

/-- The operation of the transport that the next action of a fetch performs. -/
def FetchPhase.performs? : FetchPhase Rules → Option (TransportOp Unit)
  | .fetching (.perform op _) => some op
  | _ => none

/-- The operation of the transport that the next action of a task performs. -/
def LoopTask.performs? : LoopTask Rules → Option (TransportOp Unit)
  | .pushStatus (.sending (.perform op _)) => some op
  | .pollRules phase | .getDynamicRules phase => phase.performs?
  | _ => none

/-- The exchange of an operation with its answer. -/
def LoopChoice.exchange (choice : LoopChoice) (op : TransportOp Unit) : TransportEvent Unit :=
  ⟨op, choice.respond op⟩

/-- Record what a step of the tasks of the loops does on the transport. -/
def exchanged (past : List (TransportEvent Unit)) (before : LoopingState Rules)
    (label : LoopingLabel) (_ : LoopingState Rules) : List (TransportEvent Unit) :=
  match label with
  | .inr (.run tid choice) =>
      past ++ ((before.2.tasks[tid]?.bind LoopTask.performs?).map choice.exchange).toList
  | _ => past

/-- What the tasks of the loops did on the transport in a run. -/
def Agent.exchanges (agent : Agent) (format : RulesFormat Rules) (records : Kind → Records)
    (labels : List LoopingLabel) : List (TransportEvent Unit) :=
  (agent.looping format).history exchanged [] (agent.initialLooping records) labels

section Provenance

variable (agent : Agent) (format : RulesFormat Rules)

/-- A server answered with a document that is read as these rules. -/
def Served (past : List (TransportEvent Unit)) (rules : Rules) : Prop :=
  ∃ document ∈ rulesDocuments agent.crates (agent.transport.apiUrl "rules") past,
    format.fromValue document = some rules

/-- What is known of a fetch in a phase. -/
def FetchPhase.Sourced (past : List (TransportEvent Unit)) : FetchPhase Rules → Prop
  | .fetching rest => ∃ trace,
      (agent.transport.fetchRules agent.crates format.fromValue).Reaches trace rest ∧
        ∀ event ∈ trace, event ∈ past
  | .installing outcome | .returned outcome => ∀ rules ∈ outcome, Served agent format past rules
  | _ => True

/-- The rules that are cached, and those a call has, were served. -/
structure Sourced (state : LoopingState Rules) (past : List (TransportEvent Unit)) : Prop where
  cache : ∀ rules ∈ state.2.shared.cachedRules, Served agent format past rules
  calls : ∀ task ∈ state.2.tasks, ∀ phase ∈ task.fetchPhase?, phase.Sourced agent format past

end Provenance

variable {agent : Agent} {format : RulesFormat Rules} {past : List (TransportEvent Unit)}

/-- Rules that were served stay so as exchanges are added. -/
theorem Served.append {rules : Rules} (served : Served agent format past rules)
    (later : List (TransportEvent Unit)) : Served agent format (past ++ later) rules := by
  obtain ⟨document, member, read⟩ := served
  refine ⟨document, ?_, read⟩
  rw [rulesDocuments, List.filterMap_append]
  exact List.mem_append_left _ member

namespace FetchPhase

/-- What is known of a fetch stays true as exchanges are added. -/
theorem Sourced.append {phase : FetchPhase Rules} (sourced : phase.Sourced agent format past)
    (later : List (TransportEvent Unit)) : phase.Sourced agent format (past ++ later) := by
  cases phase with
  | fetching rest =>
      obtain ⟨trace, reached, recorded⟩ := sourced
      exact ⟨trace, reached, fun event member => List.mem_append_left _ (recorded event member)⟩
  | installing outcome => exact fun rules held => (sourced rules held).append later
  | returned outcome => exact fun rules held => (sourced rules held).append later
  | start => trivial
  | checking now => trivial

/-- One action of a fetch keeps that its rules and the cached ones were served. -/
theorem act?_sourced {phase after : FetchPhase Rules} {choice : LoopChoice} {common : Common}
    {cache cache' : RulesCache Rules}
    (acted : phase.act? agent format choice common cache = some (cache', after))
    (sourced : phase.Sourced agent format past)
    (cached : ∀ rules ∈ cache.cachedRules, Served agent format past rules) :
    after.Sourced agent format (past ++ (phase.performs?.map choice.exchange).toList) ∧
      ∀ rules ∈ cache'.cachedRules,
        Served agent format (past ++ (phase.performs?.map choice.exchange).toList) rules := by
  have kept (rules : Rules) (held : rules ∈ cache.cachedRules) :=
    (cached rules held).append (phase.performs?.map choice.exchange).toList
  cases phase with
  | start =>
      cases acted
      exact ⟨trivial, kept⟩
  | checking start =>
      obtain ⟨_, looked⟩ := Option.ite_none_left_eq_some.mp acted
      split at looked
      · next rules found =>
          obtain ⟨-, held⟩ := Option.ite_none_right_eq_some.mp found
          cases looked
          refine ⟨?_, kept⟩
          rintro _ ⟨⟩
          exact kept rules held
      · cases looked
        exact ⟨⟨[], .refl _, fun _ member => (List.not_mem_nil member).elim⟩, kept⟩
  | fetching rest =>
      obtain ⟨trace, reached, recorded⟩ := sourced
      cases rest with
      | perform op next =>
          cases acted
          refine ⟨⟨trace ++ [choice.exchange op], reached.snoc _, fun event member => ?_⟩, kept⟩
          exact (List.mem_append.mp member).elim
            (fun earlier => List.mem_append_left _ (recorded event earlier))
            (fun last => List.mem_append_right _ last)
      | done outcome =>
          cases acted
          obtain ⟨accepted, documents, result⟩ :=
            HttpTransport.fetchRules_documents format.fromValue trace outcome reached
          refine ⟨fun rules held => ?_, kept⟩
          obtain ⟨document, rfl, read⟩ := Option.bind_eq_some_iff.mp (result.symm.trans held)
          have member :
              document ∈ rulesDocuments agent.crates (agent.transport.apiUrl "rules") trace :=
            documents ▸ List.mem_singleton_self document
          obtain ⟨event, performed, accepted⟩ := List.mem_filterMap.mp member
          refine Served.append ⟨document, ?_, read⟩ _
          exact List.mem_filterMap.mpr ⟨event, recorded event performed, accepted⟩
  | installing outcome =>
      obtain ⟨_, locked⟩ := Option.ite_none_left_eq_some.mp acted
      cases outcome with
      | none =>
          cases locked
          exact ⟨(fun _ held => by cases held), kept⟩
      | some rules =>
          cases locked
          have served (other : Rules) (held : other ∈ some rules) :=
            (sourced other held).append []
          exact ⟨served, served⟩
  | returned outcome => cases acted

end FetchPhase

/-- An action of a task is one of its fetch, or leaves the cache and has no fetch after it. -/
theorem LoopTask.act?_sourced {task after : LoopTask Rules} {choice : LoopChoice} {common : Common}
    {state state' : LoopState Rules} {started : List (LoopTask Rules)}
    (acted : task.act? agent format choice common state = some (state', after, started))
    (sourced : ∀ phase ∈ task.fetchPhase?, phase.Sourced agent format past)
    (cached : ∀ rules ∈ state.cachedRules, Served agent format past rules) :
    let later := past ++ (task.performs?.map choice.exchange).toList
    started = [] ∧ (∀ phase ∈ after.fetchPhase?, phase.Sourced agent format later) ∧
      ∀ rules ∈ state'.cachedRules, Served agent format later rules := by
  intro later
  have kept (same : state'.toRulesCache = state.toRulesCache) (rules : Rules)
      (held : rules ∈ state'.cachedRules) : Served agent format later rules :=
    (cached rules (same ▸ held)).append _
  cases task with
  | pushStatus phase =>
      obtain ⟨⟨_, _⟩, pushed, same⟩ := Option.map_eq_some_iff.mp acted
      cases same
      exact ⟨rfl, (fun _ held => by cases held), kept (StatusPhase.act?_cache pushed)⟩
  | getDynamicRules phase =>
      obtain ⟨⟨cache, phase'⟩, moved, same⟩ := Option.map_eq_some_iff.mp acted
      cases same
      obtain ⟨call, cache⟩ := FetchPhase.act?_sourced moved (sourced phase rfl) cached
      exact ⟨rfl, fun _ held => Option.some.inj held ▸ call, cache⟩
  | pollRules phase =>
      cases phase with
      | returned outcome =>
          obtain ⟨_, same⟩ := Option.ite_none_left_eq_some.mp acted
          cases same
          exact ⟨rfl, (fun _ held => by cases held), kept rfl⟩
      | _ =>
          simp only [act?] at acted
          obtain ⟨⟨cache, phase'⟩, moved, same⟩ := Option.map_eq_some_iff.mp acted
          cases same
          obtain ⟨call, cache⟩ := FetchPhase.act?_sourced moved (sourced _ rfl) cached
          exact ⟨rfl, fun _ held => Option.some.inj held ▸ call, cache⟩
  | finished => cases acted

namespace Sourced

variable {state next : LoopingState Rules} {label : LoopingLabel}

/-- A new agent has cached nothing. -/
theorem initial (agent : Agent) (format : RulesFormat Rules) (records : Kind → Records) :
    Sourced agent format (agent.initialLooping records) [] where
  cache := nofun
  calls := nofun

/-- A step keeps the rules that are cached, or held by a call, served ones. -/
theorem step (sourced : Sourced agent format state past)
    (stepped : (agent.looping format).step? state label = some next) :
    Sourced agent format next (exchanged past state label next) := by
  rcases Machine.beside_cases stepped with ⟨move, pool, rfl, moved, rfl⟩ |
    ⟨move, pool, rfl, moved, rfl⟩
  · exact ⟨sourced.cache, sourced.calls⟩
  · rcases Threads.step_cases moved with ⟨arrival, shared, started, rfl, arrived, rfl⟩ |
      ⟨tid, choice, task, shared, after, started, rfl, present, acted, rfl⟩
    · cases arrived
      refine ⟨sourced.cache, fun task member phase held => ?_⟩
      rcases List.mem_append.mp member with there | new
      · exact sourced.calls task there phase held
      · -- A new call is about to begin.
        obtain rfl := List.mem_singleton.mp new
        cases arrival <;> cases held <;> trivial
    · have there := List.mem_of_getElem? present
      obtain ⟨rfl, call, cache⟩ :=
        LoopTask.act?_sourced acted (sourced.calls task there) sourced.cache
      have events : exchanged past state (.inr (.run tid choice))
          (state.1, ⟨shared, state.2.tasks.set tid after ++ []⟩) =
            past ++ (task.performs?.map choice.exchange).toList := by
        simp only [exchanged, present, Option.bind_some]
      rw [events]
      refine ⟨cache, fun other member phase held => ?_⟩
      rw [List.append_nil] at member
      rcases List.mem_or_eq_of_mem_set member with old | rfl
      · exact (sourced.calls other old phase held).append _
      · exact call phase held

end Sourced

namespace Agent

/-- **Rules come from the server.** In every run of the agent with its loops, the rules that are
cached and those a call returns were read from an object that a server answered a `GET` of
`/api/v1/rules` with, in this run, with a status of success. -/
theorem rules_fetched (agent : Agent) (format : RulesFormat Rules) (records : Kind → Records)
    (labels : List LoopingLabel) (state : LoopingState Rules)
    (run : (agent.looping format).Run (agent.initialLooping records) labels state) (rules : Rules)
    (known : state.2.shared.cachedRules = some rules ∨
      ∃ task ∈ state.2.tasks, task.fetchPhase? = some (.returned (some rules))) :
    ∃ status retryAfter body entries,
      ⟨.get (agent.transport.apiUrl "rules"), .response status retryAfter (.ok body)⟩ ∈
        agent.exchanges format records labels ∧ 200 ≤ status ∧ status < 300 ∧
      agent.crates.fromSlice (utf8 body) = some (.object entries) ∧
      format.fromValue (.object entries) = some rules := by
  have sourced : Sourced agent format state (agent.exchanges format records labels) :=
    run.history_invariant (Sourced agent format) (.initial agent format records)
      fun _ _ _ _ sourced _ stepped => sourced.step stepped
  have served : Served agent format (agent.exchanges format records labels) rules := by
    rcases known with cached | ⟨task, member, returned⟩
    · exact sourced.cache rules cached
    · exact sourced.calls task member _ returned rules rfl
  obtain ⟨document, member, read⟩ := served
  obtain ⟨event, performed, accepted⟩ := List.mem_filterMap.mp member
  obtain ⟨status, retryAfter, body, entries, rfl, ⟨least, most⟩, parsed, rfl⟩ :=
    of_rulesDocument? accepted
  exact ⟨status, retryAfter, body, entries, performed, least, most, parsed, read⟩

/-- An action of a call to which a server would answer with rules. -/
def fetchAct : LoopingLabel :=
  .inr (.run 0 ⟨[], fun
    | .get _ => .response 200 none (.ok "\x7b\"ttl\":60,\"emergency_mode\":true\x7d")
    | op => TransportOp.admitting (fun _ => .clientError "connection refused") op⟩)

/-- A call fetches rules that state two members. -/
theorem rules_fetched_emergency :
    let agent := { Agent.sample (AgentConfig.new "test-api-key-1234") [] with
      crates := .canonicalSample }
    let format := @DynamicRules.format .verbatim "2026-01-01T00:00:00Z"
    let labels := .inr (.arrive .getDynamicRules) :: List.replicate 9 fetchAct
    ∃ state rules, (agent.looping format).Run (agent.initialLooping fun _ => ∅) labels state ∧
      state.2.shared.cachedRules = some rules ∧
      rules.ttl = 60 ∧ rules.emergencyMode = true ∧ rules.version = 1 ∧
      ∃ status retryAfter body entries,
        ⟨.get (agent.transport.apiUrl "rules"), .response status retryAfter (.ok body)⟩ ∈
          agent.exchanges format (fun _ => ∅) labels ∧ 200 ≤ status ∧ status < 300 ∧
        agent.crates.fromSlice (utf8 body) = some (.object entries) ∧
        format.fromValue (.object entries) = some rules := by
  intro agent format labels
  let asked (rules : DynamicRules Chrono.verbatim.DateTime) : Bool :=
    decide (rules.ttl = 60 ∧ rules.emergencyMode = true ∧ rules.version = 1)
  obtain ⟨state, run, checked⟩ := @Machine.exists_run _ _ (agent.looping format)
    (agent.initialLooping fun _ => ∅) labels (fun state => state.2.shared.cachedRules.any asked)
    (by decide +kernel)
  obtain ⟨rules, cached, facts⟩ := (Option.any_eq_true _ _).mp checked
  obtain ⟨ttl, emergency, version⟩ := of_decide_eq_true facts
  exact ⟨state, rules, run, cached, ttl, emergency, version,
    rules_fetched agent format (fun _ => ∅) labels state run rules (Or.inl cached)⟩

end Agent

end GuardAgent
