import GuardAgent.Foundation.Machine
import GuardAgent.Transport.CircuitBreaker
import GuardAgent.Transport.Delivery
import GuardAgent.Transport.RateLimiter
import GuardAgent.Transport.Rules

/-!
# Callers that share a transport

Batch sends, status pushes and fetches of the rules run concurrently over one breaker and
one limiter. The calls the breaker receives, in their order, are recorded with their
callers; no code reads the record. Which requests are admitted while the outcome of a probe
is not recorded is the subject of `Client.single_probe`.
-/

namespace GuardAgent

open Foundation

inductive Method where
  | get
  | post
  deriving DecidableEq

/-- A reply, with the method of the request it answers. -/
structure Response where
  method : Method
  reply : HttpReply

/-- The reply an operation received, if it is a request. -/
def response? {Item : Type} : TransportEvent Item → Option Response
  | ⟨.post _, reply⟩ => some ⟨.post, reply⟩
  | ⟨.get _, reply⟩ => some ⟨.get, reply⟩
  | _ => none

/-- A call of the breaker. -/
structure BreakerEvent where
  caller : ℕ
  time : ℚ
  call : BreakerCall
  answer : BreakerAnswer
  /-- The last reply that the caller received. -/
  response : Option Response

def BreakerEvent.timed (event : BreakerEvent) : Timed BreakerCall := (event.time, event.call)

def rateLimitMaxCalls : ℕ := 100
def rateLimitWindowSecs : ℚ := 60

/-- What the callers of a transport share. -/
structure TransportState where
  breaker : CircuitBreaker
  rateLimiter : RateLimiter
  now : ℚ
  /-- Ghost: the number of callers so far. -/
  callers : ℕ
  /-- Ghost: the calls of the breaker, in order. -/
  history : List BreakerEvent
  /-- Ghost: the replies of the server, in order. -/
  responses : List Response

/-- A call in progress; its number and its last reply are ghost. -/
structure Caller (Item : Type) where
  id : ℕ
  program : TransportProgram Item Unit
  response : Option Response

namespace TransportState

def initial : TransportState where
  breaker := .default
  rateLimiter := .new rateLimitMaxCalls rateLimitWindowSecs
  now := 0
  callers := 0
  history := []
  responses := []

variable {Item : Type} (caller : Caller Item)

/-- The breaker answers a call. -/
def ask (call : BreakerCall) (state : TransportState) : BreakerAnswer × TransportState :=
  let (answer, breaker) := CircuitBreaker.object.perform state.breaker (state.now, call)
  (answer, { state with
    breaker := breaker
    history := state.history ++ [⟨caller.id, state.now, call, answer, caller.response⟩] })

/-- An operation is answered by the breaker, by the limiter or from outside. -/
def perform (state : TransportState) (respond : (op : TransportOp Item) → op.Answer) :
    (op : TransportOp Item) → op.Answer × TransportState
  | .acquire =>
      let (acquired, rateLimiter) := state.rateLimiter.acquire state.now
      (acquired, { state with rateLimiter := rateLimiter })
  | .retryAfter => (state.rateLimiter.retryAfter state.now, state)
  | .breakerAdmit =>
      let (answer, state) := state.ask caller .admits
      (decide (answer = .admitted true), state)
  | .recordSuccess => ((), (state.ask caller .recordSuccess).2)
  | .recordFailure => ((), (state.ask caller .recordFailure).2)
  | op =>
      let answer := respond op
      (answer, { state with responses := state.responses ++ (response? ⟨op, answer⟩).toList })

end TransportState

/-- A transport with the formats of what it sends and receives. -/
structure Client (Item DynamicRules : Type) where
  crates : Crates
  transport : HttpTransport
  render : Item → Value
  fromValue : Value → Option DynamicRules

/-- The calls of a transport. -/
inductive TransportCall (Item : Type) where
  | sendBatch (batch : BatchItems Item)
  | sendStatus (status : Bytes)
  | fetchRules

/-- What can happen to a transport from outside. -/
inductive TransportArrival (Item : Type) where
  | call (call : TransportCall Item)
  | elapse (seconds : ℚ)

namespace Client

variable {Item DynamicRules : Type} (client : Client Item DynamicRules)

/-- The program of a call, without its result. -/
def program : TransportCall Item → TransportProgram Item Unit
  | .sendBatch batch => do
      let _ ← client.transport.sendBatch client.crates client.render batch
  | .sendStatus status => do
      let _ ← client.transport.sendStatus client.crates status
  | .fetchRules => do
      let _ ← client.transport.fetchRules client.crates client.fromValue

/-- The callers of a transport. A sleep may end at any time. -/
def callers : Threads TransportState (Caller Item) (TransportArrival Item)
    ((op : TransportOp Item) → op.Answer) where
  arrive? arrival state :=
    match arrival with
    | .call call => some ({ state with callers := state.callers + 1 },
        [⟨state.callers, client.program call, none⟩])
    | .elapse seconds =>
        if 0 ≤ seconds then some ({ state with now := state.now + seconds }, []) else none
  act? caller respond state :=
    match caller.program with
    | .done _ => none
    | .perform op next =>
        let (answer, after) := state.perform caller respond op
        some (after, { caller with
          program := next answer
          response := (response? ⟨op, answer⟩).or caller.response }, [])

/-- All interleavings of the callers. -/
def machine : Machine (Pool TransportState (Caller Item))
    (PoolLabel (TransportArrival Item) ((op : TransportOp Item) → op.Answer)) :=
  client.callers.machine

end Client

namespace TransportState

variable {Item : Type}

/-- How an operation of a caller is answered: the breaker is asked, or neither it nor its
record changes. -/
inductive Performs (caller : Caller Item) (state : TransportState) (op : TransportOp Item)
    (answer : op.Answer) : TransportState → Prop where
  | quiet {after : TransportState} : after.breaker = state.breaker →
      after.history = state.history → after.now = state.now → op ≠ .recordFailure →
      after.responses = state.responses ++ (response? ⟨op, answer⟩).toList →
      Performs caller state op answer after
  | asked (call : BreakerCall) : (call = .recordFailure → op = .recordFailure) →
      response? ⟨op, answer⟩ = none → Performs caller state op answer (state.ask caller call).2

/-- What an operation does to the state is one of the listed actions. -/
theorem perform_performs (caller : Caller Item) (state : TransportState)
    (respond : (op : TransportOp Item) → op.Answer) (op : TransportOp Item) :
    state.Performs caller op (state.perform caller respond op).1
      (state.perform caller respond op).2 := by
  cases op with
  | breakerAdmit => exact .asked .admits nofun rfl
  | recordSuccess => exact .asked .recordSuccess nofun rfl
  | recordFailure => exact .asked .recordFailure (fun _ => rfl) rfl
  | acquire => exact .quiet rfl rfl rfl nofun (List.append_nil _).symm
  | retryAfter => exact .quiet rfl rfl rfl nofun (List.append_nil _).symm
  | _ => exact .quiet rfl rfl rfl nofun rfl

/-- What the record says of the breaker. -/
structure Recorded (state : TransportState) : Prop where
  replayed : state.breaker =
    CircuitBreaker.object.replay .default (state.history.map BreakerEvent.timed)
  ordered : InOrder (state.history.map BreakerEvent.timed)
  past : ∀ event ∈ state.history, event.time ≤ state.now
  answered : ∀ before event after, state.history = before ++ event :: after →
    event.answer = (CircuitBreaker.object.perform
      (CircuitBreaker.object.replay .default (before.map BreakerEvent.timed)) event.timed).1

/-- Nothing is recorded in the beginning. -/
theorem Recorded.initial : TransportState.initial.Recorded where
  replayed := rfl
  ordered := .nil
  past := fun _ member => (List.not_mem_nil member).elim
  answered := by
    intro before event after same
    exact (List.append_ne_nil_of_right_ne_nil _ (List.cons_ne_nil _ _) same.symm).elim

/-- A question to the breaker is recorded with it. -/
theorem Recorded.asked {state : TransportState} (recorded : state.Recorded)
    (caller : Caller Item) (call : BreakerCall) : (state.ask caller call).2.Recorded := by
  obtain ⟨replayed, ordered, past, answered⟩ := recorded
  refine ⟨?_, ?_, ?_, ?_⟩
  · change (CircuitBreaker.object.perform state.breaker (state.now, call)).2 = _
    simp only [ask, List.map_append, List.map_cons, List.map_nil, BreakerEvent.timed]
    rw [CircuitBreaker.object.replay_concat, replayed]
  · simp only [ask, List.map_append, List.map_cons, List.map_nil, InOrder]
    refine List.pairwise_append.mpr ⟨ordered, List.pairwise_singleton _ _, ?_⟩
    intro earlier before later here
    obtain ⟨event, inside, rfl⟩ := List.mem_map.mp before
    rw [List.mem_singleton.mp here]
    exact past event inside
  · intro event member
    rcases List.mem_append.mp member with earlier | last
    · exact past event earlier
    · rw [List.mem_singleton.mp last]
      exact le_rfl
  · intro before event after same
    rcases List.eq_nil_or_concat after with none | ⟨others, last, rfl⟩
    · subst none
      obtain ⟨rfl, one⟩ := List.append_inj' same rfl
      cases one
      rw [← replayed]
      rfl
    · rw [List.concat_eq_append, ← List.cons_append, ← List.append_assoc] at same
      exact answered before event others (List.append_inj' same rfl).1

/-- Every operation keeps the record right. -/
theorem Recorded.performs {state after : TransportState} {caller : Caller Item}
    {op : TransportOp Item} {answer : op.Answer} (recorded : state.Recorded)
    (performs : state.Performs caller op answer after) : after.Recorded := by
  cases performs with
  | quiet breaker history now _ _ =>
      refine ⟨?_, ?_, ?_, ?_⟩
      · rw [breaker, history, recorded.replayed]
      · rw [history]
        exact recorded.ordered
      · rw [history, now]
        exact recorded.past
      · rw [history]
        exact recorded.answered
  | asked call _ _ => exact recorded.asked caller call

end TransportState

namespace Client

variable {Item DynamicRules : Type} {client : Client Item DynamicRules}
  {pool next : Pool TransportState (Caller Item)}
  {label : PoolLabel (TransportArrival Item) ((op : TransportOp Item) → op.Answer)}

/-- What a step of the callers can be. -/
theorem step_cases (stepped : client.machine.step? pool label = some next) :
    (∃ call, next = ⟨{ pool.shared with callers := pool.shared.callers + 1 },
      pool.tasks ++ [⟨pool.shared.callers, client.program call, none⟩]⟩) ∨
    (∃ seconds, 0 ≤ seconds ∧
      next = ⟨{ pool.shared with now := pool.shared.now + seconds }, pool.tasks⟩) ∨
    ∃ (tid : ℕ) (caller : Caller Item) (op : TransportOp Item)
      (rest : op.Answer → TransportProgram Item Unit) (answer : op.Answer)
      (after : TransportState), pool.tasks[tid]? = some caller ∧
      caller.program = .perform op rest ∧ pool.shared.Performs caller op answer after ∧
      next = ⟨after, pool.tasks.set tid { caller with
        program := rest answer
        response := (response? ⟨op, answer⟩).or caller.response }⟩ := by
  rcases Threads.step_cases stepped with ⟨arrival, shared, started, rfl, arrived, rfl⟩ |
    ⟨tid, respond, caller, shared, after, started, rfl, present, acted, rfl⟩
  · cases arrival with
    | call call =>
        cases arrived
        exact Or.inl ⟨call, rfl⟩
    | elapse seconds =>
        simp only [callers] at arrived
        split at arrived
        · next forward =>
            cases arrived
            rw [List.append_nil]
            exact Or.inr (Or.inl ⟨seconds, forward, rfl⟩)
        · cases arrived
  · cases doing : caller.program with
    | done value =>
        simp only [callers, doing] at acted
        cases acted
    | perform op rest =>
        simp only [callers, doing] at acted
        cases acted
        rw [List.append_nil]
        exact Or.inr (Or.inr ⟨tid, caller, op, rest, _, _, present, doing,
          pool.shared.perform_performs caller respond op, rfl⟩)

/-- A step keeps the record right. -/
theorem step_recorded (stepped : client.machine.step? pool label = some next)
    (recorded : pool.shared.Recorded) : next.shared.Recorded := by
  rcases step_cases stepped with ⟨call, rfl⟩ | ⟨seconds, forward, rfl⟩ |
    ⟨tid, caller, op, rest, answer, after, present, doing, performs, rfl⟩
  · exact ⟨recorded.replayed, recorded.ordered, recorded.past, recorded.answered⟩
  · refine ⟨recorded.replayed, recorded.ordered, fun event member => ?_, recorded.answered⟩
    have before := recorded.past event member
    change event.time ≤ pool.shared.now + seconds
    linarith
  · exact recorded.performs performs

/-- **The breaker is asked at nondecreasing times**, and answers as its record says. -/
theorem recorded (client : Client Item DynamicRules)
    {labels : List (PoolLabel (TransportArrival Item) ((op : TransportOp Item) → op.Answer))}
    (run : client.machine.Run ⟨.initial, []⟩ labels pool) : pool.shared.Recorded := by
  refine run.invariant (fun pool => pool.shared.Recorded) .initial ?_
  intro before label after recorded _ stepped
  exact step_recorded stepped recorded

end Client

end GuardAgent
