import GuardAgent.Agent.LoopFailures

/-!
# The cache of the rules

What the calls of `get_dynamic_rules` and the polls of the rules loop do with the cache, as
the events of a run. The cache holds what was installed last, a call that fetches returns
what it fetched, and one that does not returns a document that was fresh when it began
(`Agent.dynamic_rules_cache`).
-/

namespace GuardAgent

open Foundation

variable {Rules : Type}

/-- What a call or a poll does, by the task that makes it. -/
inductive RulesEvent (Rules : Type) where
  /-- It reads the clock. -/
  | began (tid : ℕ) (time : ℚ)
  /-- Its fetch ends. -/
  | fetched (tid : ℕ) (outcome : Option Rules)
  | installed (rules : Rules) (time : ℚ)
  | returned (tid : ℕ) (outcome : Option Rules)
  deriving DecidableEq

namespace RulesEvent

def installed? : RulesEvent Rules → Option (Rules × ℚ)
  | installed rules time => some (rules, time)
  | _ => none

/-- The documents that were installed, with their times. -/
def installs (past : List (RulesEvent Rules)) : List (Rules × ℚ) :=
  past.filterMap installed?

/-- The cache that installing them leaves. -/
def cacheOf (past : List (RulesEvent Rules)) : RulesCache Rules where
  cachedRules := (installs past).getLast?.map Prod.fst
  rulesLastUpdate := (installs past).getLast?.map Prod.snd
  rulesFetched := (installs past).length

/-- The fetch of this call has not ended. -/
def Unfetched (tid : ℕ) (past : List (RulesEvent Rules)) : Prop :=
  ∀ outcome, fetched tid outcome ∉ past

/-- The events of an action that leads from one phase to another. -/
def ofAction (tid : ℕ) (now : ℚ) : FetchPhase Rules → FetchPhase Rules → List (RulesEvent Rules)
  | .start, .checking _ => [.began tid now]
  | .checking _, .returned outcome => [.returned tid outcome]
  | .fetching _, .installing outcome => [.fetched tid outcome]
  | .installing (some rules), .returned outcome =>
      [.installed rules now, .returned tid outcome]
  | .installing none, .returned outcome => [.returned tid outcome]
  | _, _ => []

end RulesEvent

/-- The fetch a task is in. -/
def LoopTask.fetchPhase? : LoopTask Rules → Option (FetchPhase Rules)
  | .pollRules phase | .getDynamicRules phase => some phase
  | _ => none

namespace RulesEvent

/-- Record the events of a step. -/
def observe (past : List (RulesEvent Rules)) (before : LoopingState Rules)
    (label : LoopingLabel) (next : LoopingState Rules) : List (RulesEvent Rules) :=
  match label with
  | .inr (.run tid _) =>
      match before.2.tasks[tid]?.bind LoopTask.fetchPhase?,
        next.2.tasks[tid]?.bind LoopTask.fetchPhase? with
      | some phase, some after => past ++ ofAction tid before.1.shared.now phase after
      | _, _ => past
  | _ => past

end RulesEvent

/-- The events of a run. -/
def Agent.rulesEvents (agent : Agent) (format : RulesFormat Rules) (records : Kind → Records)
    (labels : List LoopingLabel) : List (RulesEvent Rules) :=
  (agent.looping format).history RulesEvent.observe [] (agent.initialLooping records) labels

namespace FetchPhase

/-- What an action of a fetch can be. -/
inductive Acts (format : RulesFormat Rules) (now : ℚ) (cache : RulesCache Rules) :
    FetchPhase Rules → RulesCache Rules → FetchPhase Rules → Prop where
  | start : Acts format now cache .start cache (.checking now)
  | serve (start last : ℚ) (rules : Rules) : cache.cachedRules = some rules →
      cache.rulesLastUpdate = some last → max (start - last) 0 < format.ttl rules →
      Acts format now cache (.checking start) cache (.returned (some rules))
  | fetch (start : ℚ) (rest : TransportProgram Unit (Option Rules)) :
      Acts format now cache (.checking start) cache (.fetching rest)
  | exchange (rest after : TransportProgram Unit (Option Rules)) :
      Acts format now cache (.fetching rest) cache (.fetching after)
  | receive (outcome : Option Rules) :
      Acts format now cache (.fetching (.done outcome)) cache (.installing outcome)
  | install (rules : Rules) : Acts format now cache (.installing (some rules))
      ⟨some rules, some now, cache.rulesFetched + 1⟩ (.returned (some rules))
  | fail : Acts format now cache (.installing none) cache (.returned none)

variable {agent : Agent} {format : RulesFormat Rules}

/-- What a fetch computes is one of its listed actions. -/
theorem act?_acts {phase after : FetchPhase Rules} {choice : LoopChoice} {common : Common}
    {cache cache' : RulesCache Rules}
    (acted : phase.act? agent format choice common cache = some (cache', after)) :
    phase.Acts format common.now cache cache' after := by
  cases phase with
  | start =>
      cases acted
      exact .start
  | checking start =>
      obtain ⟨_, looked⟩ := Option.ite_none_left_eq_some.mp acted
      split at looked
      · next rules found =>
          obtain ⟨fresh, cached⟩ := Option.ite_none_right_eq_some.mp found
          cases updated : cache.rulesLastUpdate with
          | none =>
              rw [updated] at fresh
              cases fresh
          | some last =>
              rw [updated, Option.any_some, cached, Option.map_some, Option.getD_some,
                decide_eq_true_eq] at fresh
              cases looked
              exact .serve start last rules cached updated fresh
      · cases looked
        exact .fetch start _
  | fetching rest =>
      cases rest with
      | done outcome =>
          cases acted
          exact .receive outcome
      | perform op next =>
          cases acted
          exact .exchange _ _
  | installing outcome =>
      obtain ⟨_, locked⟩ := Option.ite_none_left_eq_some.mp acted
      cases outcome with
      | none =>
          cases locked
          exact .fail
      | some rules =>
          cases locked
          exact .install rules
  | returned outcome => cases acted

end FetchPhase

/-- A status push does not touch the cache. -/
theorem StatusPhase.act?_cache {agent : Agent} {phase after : StatusPhase} {choice : LoopChoice}
    {common : Common} {state state' : LoopState Rules}
    (acted : phase.act? agent choice common state = some (state', after)) :
    state'.toRulesCache = state.toRulesCache := by
  cases phase with
  | computing =>
      obtain ⟨_, same⟩ := Option.ite_none_left_eq_some.mp acted
      cases same
      rfl
  | sending rest => cases rest <;> cases acted <;> rfl
  | recording outcome =>
      obtain ⟨_, recorded⟩ := Option.ite_none_left_eq_some.mp acted
      split at recorded <;> cases recorded <;> rfl
  | finished => cases acted

/-- An action of a task is one of its fetch, or does not change the cache. -/
theorem LoopTask.act?_fetches {agent : Agent} {format : RulesFormat Rules}
    {task after : LoopTask Rules} {choice : LoopChoice} {common : Common}
    {state state' : LoopState Rules} {started : List (LoopTask Rules)}
    (acted : task.act? agent format choice common state = some (state', after, started)) :
    started = [] ∧
      ((∃ phase phase', task.fetchPhase? = some phase ∧ after.fetchPhase? = some phase' ∧
          phase.Acts format common.now state.toRulesCache state'.toRulesCache phase') ∨
        after.fetchPhase? = none ∧ state'.toRulesCache = state.toRulesCache) := by
  cases task with
  | pushStatus phase =>
      obtain ⟨⟨_, _⟩, pushed, same⟩ := Option.map_eq_some_iff.mp acted
      cases same
      exact ⟨rfl, .inr ⟨rfl, StatusPhase.act?_cache pushed⟩⟩
  | pollRules phase =>
      cases phase with
      | returned outcome =>
          obtain ⟨_, same⟩ := Option.ite_none_left_eq_some.mp acted
          cases same
          exact ⟨rfl, .inr ⟨rfl, rfl⟩⟩
      | _ =>
          simp only [act?] at acted
          obtain ⟨⟨_, _⟩, fetched, same⟩ := Option.map_eq_some_iff.mp acted
          cases same
          exact ⟨rfl, .inl ⟨_, _, rfl, rfl, FetchPhase.act?_acts fetched⟩⟩
  | getDynamicRules phase =>
      obtain ⟨⟨_, _⟩, fetched, same⟩ := Option.map_eq_some_iff.mp acted
      cases same
      exact ⟨rfl, .inl ⟨_, _, rfl, rfl, FetchPhase.act?_acts fetched⟩⟩
  | finished => cases acted

namespace RulesEvent

variable {format : RulesFormat Rules} {past : List (RulesEvent Rules)} {tid : ℕ}

/-- Why a call may return this after these events. -/
structure Due (format : RulesFormat Rules) (past : List (RulesEvent Rules)) (tid : ℕ)
    (outcome : Option Rules) : Prop where
  own : ∀ result, fetched tid result ∈ past → outcome = result
  fresh : Unfetched tid past → ∃ rules start last, outcome = some rules ∧
    began tid start ∈ past ∧ (installs past).getLast? = some (rules, last) ∧
    max (start - last) 0 < format.ttl rules

/-- Whatever was returned was due. -/
def Explained (format : RulesFormat Rules) (past : List (RulesEvent Rules)) : Prop :=
  ∀ before tid outcome, before ++ [returned tid outcome] <+: past → Due format before tid outcome

/-- What is known of a call in a phase. -/
def Agrees (past : List (RulesEvent Rules)) (tid : ℕ) : FetchPhase Rules → Prop
  | .start | .fetching _ => Unfetched tid past
  | .checking start => began tid start ∈ past ∧ Unfetched tid past
  | .installing outcome =>
      fetched tid outcome ∈ past ∧ ∀ other, fetched tid other ∈ past → other = outcome
  | .returned _ => True

/-- One more event that is due where it returns keeps everything explained. -/
theorem Explained.concat (explained : Explained format past) {event : RulesEvent Rules}
    (due : ∀ tid outcome, event = returned tid outcome → Due format past tid outcome) :
    Explained format (past ++ [event]) := by
  intro before tid outcome split
  rcases List.prefix_concat_iff.mp split with whole | earlier
  · obtain ⟨rfl, last⟩ := List.append_inj' whole rfl
    exact due tid outcome (List.cons.inj last).1.symm
  · exact explained before tid outcome earlier

/-- An event that installs nothing leaves the cache. -/
theorem cacheOf_concat {event : RulesEvent Rules} (other : event.installed? = none) :
    cacheOf (past ++ [event]) = cacheOf past := by
  have same : installs (past ++ [event]) = installs past := by
    rw [installs, List.filterMap_append, List.filterMap_cons_none other, List.filterMap_nil,
      List.append_nil, installs]
  rw [cacheOf, same, cacheOf]

/-- An event that installs rules caches them with their time and counts the fetch. -/
theorem cacheOf_installed (rules : Rules) (time : ℚ) :
    cacheOf (past ++ [installed rules time]) =
      ⟨some rules, some time, (cacheOf past).rulesFetched + 1⟩ := by
  have more : installs (past ++ [installed rules time]) = installs past ++ [(rules, time)] :=
    List.filterMap_append
  rw [cacheOf, more, List.getLast?_concat, List.length_append]
  rfl

/-- A fetch goes on as long as no event ends it. -/
theorem Unfetched.concat (unfetched : Unfetched tid past) {event : RulesEvent Rules}
    (other : ∀ outcome, event ≠ fetched tid outcome) : Unfetched tid (past ++ [event]) := by
  intro outcome member
  rcases List.mem_append.mp member with earlier | last
  · exact unfetched outcome earlier
  · exact other outcome (List.mem_singleton.mp last).symm

/-- A call whose fetch has ended with this may return it. -/
theorem Due.of_own {outcome : Option Rules} (ended : fetched tid outcome ∈ past)
    (once : ∀ other, fetched tid other ∈ past → other = outcome) : Due format past tid outcome where
  own := fun result member => (once result member).symm
  fresh := fun unfetched => absurd ended (unfetched outcome)

/-- One action of a fetch keeps what is known. -/
theorem agrees_of_acts {now : ℚ} {phase after : FetchPhase Rules} {cache : RulesCache Rules}
    (acts : phase.Acts format now (cacheOf past) cache after) (agrees : Agrees past tid phase)
    (explained : Explained format past) :
    cache = cacheOf (past ++ ofAction tid now phase after) ∧
      Agrees (past ++ ofAction tid now phase after) tid after ∧
      Explained format (past ++ ofAction tid now phase after) := by
  cases acts with
  | start =>
      exact ⟨(cacheOf_concat rfl).symm, ⟨List.mem_concat_self, Unfetched.concat agrees nofun⟩,
        explained.concat fun _ _ => nofun⟩
  | serve start last rules cached updated young =>
      refine ⟨(cacheOf_concat rfl).symm, trivial, explained.concat ?_⟩
      rintro _ _ ⟨⟩
      refine ⟨fun result member => absurd member (agrees.2 result), fun _ =>
        ⟨rules, start, last, rfl, agrees.1, ?_, young⟩⟩
      obtain ⟨⟨_, _⟩, there, rfl⟩ := Option.map_eq_some_iff.mp cached
      obtain ⟨_, there', rfl⟩ := Option.map_eq_some_iff.mp updated
      rw [there] at there' ⊢
      cases there'
      rfl
  | fetch start rest =>
      have quiet : ofAction tid now (.checking start) (.fetching rest) = [] := rfl
      rw [quiet, List.append_nil]
      exact ⟨rfl, agrees.2, explained⟩
  | exchange rest after =>
      have quiet : ofAction tid now (.fetching rest) (.fetching after) = [] := rfl
      rw [quiet, List.append_nil]
      exact ⟨rfl, agrees, explained⟩
  | receive outcome =>
      refine ⟨(cacheOf_concat rfl).symm, ⟨List.mem_concat_self, fun other member => ?_⟩,
        explained.concat fun _ _ => nofun⟩
      rcases List.mem_append.mp member with earlier | last
      · exact absurd earlier (agrees other)
      · cases List.mem_singleton.mp last
        rfl
  | install rules =>
      have split : past ++ ofAction tid now (.installing (some rules)) (.returned (some rules)) =
          (past ++ [.installed rules now]) ++ [.returned tid (some rules)] := by
        rw [List.append_assoc]
        rfl
      have before : Explained format (past ++ [.installed rules now]) :=
        explained.concat fun _ _ => nofun
      rw [split, cacheOf_concat rfl, cacheOf_installed]
      refine ⟨rfl, trivial, before.concat ?_⟩
      rintro _ _ ⟨⟩
      refine .of_own (List.mem_append_left _ agrees.1) fun other member => agrees.2 other ?_
      exact (List.mem_append.mp member).resolve_right (by simp)
  | fail =>
      refine ⟨(cacheOf_concat rfl).symm, trivial, explained.concat ?_⟩
      rintro _ _ ⟨⟩
      exact .of_own agrees.1 agrees.2

/-- The events of an action are its own. -/
theorem eq_of_fetched_mem_ofAction {now : ℚ} {phase after : FetchPhase Rules} {other : ℕ}
    {outcome : Option Rules} (member : fetched other outcome ∈ ofAction tid now phase after) :
    other = tid := by
  unfold ofAction at member
  split at member
  case h_3 =>
    cases List.mem_singleton.mp member
    rfl
  all_goals simp at member

/-- What is known of a call stays true as events of other calls are added. -/
theorem Agrees.append {phase : FetchPhase Rules} (agrees : Agrees past tid phase)
    {events : List (RulesEvent Rules)} (others : Unfetched tid events) :
    Agrees (past ++ events) tid phase := by
  have unfetched (before : Unfetched tid past) : Unfetched tid (past ++ events) :=
    fun outcome member => (List.mem_append.mp member).elim (before outcome) (others outcome)
  cases phase with
  | start => exact unfetched agrees
  | checking start => exact ⟨List.mem_append_left _ agrees.1, unfetched agrees.2⟩
  | fetching rest => exact unfetched agrees
  | installing outcome =>
      exact ⟨List.mem_append_left _ agrees.1, fun other member =>
        agrees.2 other ((List.mem_append.mp member).resolve_right (others other))⟩
  | returned outcome => trivial

end RulesEvent

open RulesEvent

/-- The cache and the calls are as the events say. -/
structure CacheAgrees (format : RulesFormat Rules) (state : LoopingState Rules)
    (past : List (RulesEvent Rules)) : Prop where
  cache : state.2.shared.toRulesCache = cacheOf past
  calls : ∀ tid task phase, state.2.tasks[tid]? = some task → task.fetchPhase? = some phase →
    Agrees past tid phase
  known : ∀ tid outcome, fetched tid outcome ∈ past → tid < state.2.tasks.length
  explained : Explained format past

namespace CacheAgrees

variable {agent : Agent} {format : RulesFormat Rules} {state next : LoopingState Rules}
  {past : List (RulesEvent Rules)} {label : LoopingLabel}

/-- A new agent has cached nothing and has no calls. -/
theorem initial (agent : Agent) (format : RulesFormat Rules) (records : Kind → Records) :
    CacheAgrees format (agent.initialLooping records) [] where
  cache := rfl
  calls := nofun
  known := nofun
  explained := fun _ _ _ split => absurd (List.prefix_nil.mp split) (by simp)

/-- A step keeps cache and calls in agreement with the events. -/
theorem step (agrees : CacheAgrees format state past)
    (stepped : (agent.looping format).step? state label = some next) :
    CacheAgrees format next (observe past state label next) := by
  rcases Machine.beside_cases stepped with ⟨move, pool, rfl, moved, rfl⟩ |
    ⟨move, pool, rfl, moved, rfl⟩
  · cases move <;> exact ⟨agrees.cache, agrees.calls, agrees.known, agrees.explained⟩
  · rcases Threads.step_cases moved with ⟨arrival, shared, started, rfl, arrived, rfl⟩ |
      ⟨tid, choice, task, shared, after, started, rfl, present, acted, rfl⟩
    · cases arrived
      refine ⟨agrees.cache, fun tid task phase there fetching => ?_, fun tid outcome member => ?_,
        agrees.explained⟩
      · rw [List.getElem?_append] at there
        split at there
        · exact agrees.calls tid task phase there fetching
        · next fresh =>
            -- A new call is about to begin.
            have unfetched : Unfetched tid past := fun outcome member =>
              fresh (agrees.known tid outcome member)
            obtain rfl := List.mem_singleton.mp (List.mem_of_getElem? there)
            cases arrival <;> cases fetching <;> exact unfetched
      · rw [List.length_append]
        exact Nat.lt_add_right _ (agrees.known tid outcome member)
    · obtain ⟨rfl, fetch | same⟩ := LoopTask.act?_fetches acted
      · obtain ⟨phase, phase', here, there, acts⟩ := fetch
        have events : observe past state (.inr (.run tid choice))
            (state.1, ⟨shared, state.2.tasks.set tid after ++ []⟩) =
              past ++ ofAction tid state.1.shared.now phase phase' := by
          simp only [observe, present, Pool.getElem?_acted present after, Option.bind_some, here,
            there]
        rw [agrees.cache] at acts
        obtain ⟨cached, call, explained⟩ :=
          agrees_of_acts acts (agrees.calls tid task phase present here) agrees.explained
        rw [events]
        refine ⟨cached, fun tid' task' phase'' found fetching => ?_, fun tid' outcome member => ?_,
          explained⟩
        · rcases Pool.getElem?_acted_cases found with ⟨rfl, rfl⟩ | ⟨different, found⟩ | new
          · obtain rfl := Option.some.inj (there.symm.trans fetching)
            exact call
          · exact (agrees.calls tid' task' phase'' found fetching).append fun outcome member =>
              different (eq_of_fetched_mem_ofAction member)
          · cases new
        · rw [List.append_nil, List.length_set]
          rcases List.mem_append.mp member with earlier | new
          · exact agrees.known tid' outcome earlier
          · rw [eq_of_fetched_mem_ofAction new]
            exact (List.getElem?_eq_some_iff.mp present).1
      · have quiet : observe past state (.inr (.run tid choice))
            (state.1, ⟨shared, state.2.tasks.set tid after ++ []⟩) = past := by
          simp only [observe, present, Pool.getElem?_acted present after, Option.bind_some, same.1]
          cases task.fetchPhase? <;> rfl
        rw [quiet]
        refine ⟨same.2.trans agrees.cache, fun tid' task' phase found fetching => ?_,
          fun tid' outcome member => ?_, agrees.explained⟩
        · rcases Pool.getElem?_acted_cases found with ⟨rfl, rfl⟩ | ⟨different, found⟩ | new
          · cases same.1.symm.trans fetching
          · exact agrees.calls tid' task' phase found fetching
          · cases new
        · rw [List.append_nil, List.length_set]
          exact agrees.known tid' outcome member

/-- A call whose fetch failed does not change the cache any more. -/
theorem kept_of_failed (agrees : CacheAgrees format state past) {tid : ℕ} {choice : LoopChoice}
    (stepped : (agent.looping format).step? state (.inr (.run tid choice)) = some next)
    (failed : fetched tid none ∈ past) :
    next.2.shared.toRulesCache = state.2.shared.toRulesCache := by
  rcases Machine.beside_cases stepped with ⟨move, pool, other, -⟩ | ⟨move, pool, same, moved, rfl⟩
  · cases other
  · cases same
    rcases Threads.step_cases moved with ⟨arrival, shared, started, other, -⟩ |
      ⟨_, choice, task, shared, after, started, same, present, acted, rfl⟩
    · cases other
    · cases same
      obtain ⟨-, ⟨phase, phase', here, -, acts⟩ | ⟨-, kept⟩⟩ := LoopTask.act?_fetches acted
      · have call := agrees.calls tid task phase present here
        change shared.toRulesCache = state.2.shared.toRulesCache
        generalize shared.toRulesCache = cache at acts
        cases acts with
        | install rules => cases call.2 none failed
        | _ => rfl
      · exact kept

end CacheAgrees

namespace Agent

/-- **The cache of the rules.** In every run of the agent with its loops there is a cached
document exactly when there is a time of its installation, and when one was ever installed,
and `rules_fetched` is the number of documents installed. A call that fetched returns what
it fetched; another returns the document installed last, which was younger than its time to
live when the call began. A call whose fetch failed leaves the cache as it is. -/
theorem dynamic_rules_cache (agent : Agent) (format : RulesFormat Rules)
    (records : Kind → Records) (labels : List LoopingLabel) (state : LoopingState Rules)
    (run : (agent.looping format).Run (agent.initialLooping records) labels state) :
    let past := agent.rulesEvents format records labels
    let cache := state.2.shared.toRulesCache
    (cache.cachedRules.isSome ↔ cache.rulesLastUpdate.isSome) ∧
    (cache.rulesLastUpdate.isSome ↔ 0 < cache.rulesFetched) ∧
    cache.rulesFetched = (installs past).length ∧
    (∀ before tid outcome, before ++ [returned tid outcome] <+: past →
      (∀ result, fetched tid result ∈ before → outcome = result) ∧
      ((∀ result, fetched tid result ∉ before) → ∃ rules start last, outcome = some rules ∧
        began tid start ∈ before ∧ (installs before).getLast? = some (rules, last) ∧
        max (start - last) 0 < format.ttl rules)) ∧
    ∀ tid choice next, (agent.looping format).step? state (.inr (.run tid choice)) = some next →
      fetched tid none ∈ past → next.2.shared.toRulesCache = cache := by
  intro past cache
  have agrees : CacheAgrees format state past :=
    run.history_invariant (CacheAgrees format) (.initial agent format records)
      fun _ _ _ _ agrees _ stepped => agrees.step stepped
  have known : cache = cacheOf past := agrees.cache
  refine ⟨?_, ?_, congrArg RulesCache.rulesFetched known, fun before tid outcome split => ?_,
    fun tid choice next => agrees.kept_of_failed⟩
  · rw [known, cacheOf, Option.isSome_map, Option.isSome_map]
  · rw [known, cacheOf, Option.isSome_map, List.getLast?_isSome,
      List.length_pos_iff]
  · exact ⟨(agrees.explained before tid outcome split).own,
      (agrees.explained before tid outcome split).fresh⟩

/-- Documents of which only the time to live counts, and which do not state it. -/
def defaultRules : RulesFormat ℕ := ⟨fun value => if value.isObject then some 300 else none, id⟩

/-- An action of a call to which a server would answer with a document. -/
def rulesAct (tid : ℕ) : LoopingLabel :=
  .inr (.run tid ⟨[], fun
    | .get _ => .response 200 none (.ok "\x7b\"test\":\"verification\"\x7d")
    | op => TransportOp.admitting (fun _ => .clientError "connection refused") op⟩)

/-- Two calls, ten seconds apart: the second is served from the cache. -/
theorem dynamic_rules_cache_served :
    let agent := Agent.sample (AgentConfig.new "test-api-key-1234") []
    let labels := .inr (.arrive .getDynamicRules) :: List.replicate 9 (rulesAct 0) ++
      [.inl (.arrive (.elapse 10)), .inr (.arrive .getDynamicRules), rulesAct 1, rulesAct 1]
    ∃ state, (agent.looping defaultRules).Run (agent.initialLooping fun _ => ∅) labels state ∧
      agent.rulesEvents defaultRules (fun _ => ∅) labels = [.began 0 0, .fetched 0 (some 300),
        .installed 300 0, .returned 0 (some 300), .began 1 10, .returned 1 (some 300)] ∧
      state.2.shared.rulesFetched = 1 := by
  intro agent labels
  obtain ⟨state, run, checked⟩ := @Machine.exists_run _ _ (agent.looping defaultRules)
    (agent.initialLooping fun _ => ∅) labels (fun _ => true) (by decide +kernel)
  have events : agent.rulesEvents defaultRules (fun _ => ∅) labels = [.began 0 0,
      .fetched 0 (some 300), .installed 300 0, .returned 0 (some 300), .began 1 10,
      .returned 1 (some 300)] := by decide +kernel
  obtain ⟨-, -, counted, -⟩ := dynamic_rules_cache agent defaultRules _ labels state run
  rw [events] at counted
  exact ⟨state, run, events, counted⟩

end Agent

end GuardAgent
