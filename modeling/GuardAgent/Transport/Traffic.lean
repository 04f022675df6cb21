import GuardAgent.Foundation.Tickets
import GuardAgent.Transport.Attempts
import GuardAgent.Transport.Probes
import Mathlib.Data.Rat.Floor

/-!
# How many requests the callers of a transport make

Every request of a batch send, a status push or a fetch is preceded by an acquire of its own
that the limiter granted, and by an admission of its own. So whatever the callers and the
answers, the requests of a stretch of a run are bounded by the windows of the limiter
(`Client.rate_limited`), and while the circuit stays open the callers together make no more
than the calls that were in progress (`Client.silent_while_open`).
-/

namespace GuardAgent

open Foundation Program

variable {Item : Type}

def TransportOp.isRequest : TransportOp Item → Bool
  | .post _ => true
  | .get _ => true
  | _ => false

/-- Each request uses up an acquire that was granted. -/
def acquiring (Item : Type) : Ticketing (transportSignature Item) where
  uses := TransportOp.isRequest
  grants
    | ⟨.acquire, acquired⟩ => acquired
    | _ => false

/-- Each request uses up an admission. -/
def admitting (Item : Type) : Ticketing (transportSignature Item) where
  uses := TransportOp.isRequest
  grants
    | ⟨.breakerAdmit, admitted⟩ => admitted
    | _ => false

/-- Before a request the limiter and the breaker are asked, and one of them grants it. -/
structure Screens (ticketing : Ticketing (transportSignature Item)) : Prop where
  uses : ticketing.uses = TransportOp.isRequest
  grants : (ticketing.grants ⟨.breakerAdmit, true⟩ || ticketing.grants ⟨.acquire, true⟩) = true

/-- What is no request uses up no grant. -/
theorem Screens.free {ticketing : Ticketing (transportSignature Item)} (screens : Screens ticketing)
    {op : TransportOp Item} (quiet : op.isRequest = false) : ticketing.uses op = false := by
  rw [screens.uses]
  exact quiet

/-- The grants of the limiter screen the requests. -/
theorem screens_acquiring : Screens (acquiring Item) := ⟨rfl, rfl⟩

/-- The admissions of the breaker screen the requests. -/
theorem screens_admitting : Screens (admitting Item) := ⟨rfl, rfl⟩

namespace HttpTransport

variable {crates : Crates} {transport : HttpTransport} {held : Bool}
  {ticketing : Ticketing (transportSignature Item)}

/-- What both loops do with an attempt that the limiter and the breaker let through. -/
theorem admission_ticketed {Result : Type} {loop refused admitted : TransportProgram Item Result}
    (screens : Screens ticketing) (again : loop.Ticketed ticketing false)
    (gaveUp : refused.Ticketed ticketing false) (through : admitted.Ticketed ticketing true) :
    (do
      let acquired : Bool ← perform .acquire
      if !acquired then
        let retryAfter : ℚ ← perform .retryAfter
        perform (.sleep retryAfter)
        loop
      else
        let permitted : Bool ← perform .breakerAdmit
        if !permitted then refused else admitted :
          TransportProgram Item Result).Ticketed ticketing false := by
  have free {op : TransportOp Item} (quiet : op.isRequest = false) : ticketing.uses op = false :=
    screens.free quiet
  refine .grant (free rfl) fun acquired => ?_
  cases (acquired : Bool) with
  | false => exact .call (free rfl) fun _ => .call (free rfl) fun _ => again
  | true =>
      refine .grant (free rfl) fun permitted => ?_
      cases (permitted : Bool) with
      | false => exact gaveUp.mono
      | true =>
          rw [Bool.or_false, screens.grants]
          exact through

/-- Each round of `send_with_retry` makes its request with a grant. -/
theorem retryLoop_ticketed (screens : Screens ticketing) (label : String) (body : Body Item)
    (index budget : ℕ) :
    (transport.retryLoop crates label body index budget).Ticketed ticketing false := by
  have free {op : TransportOp Item} (quiet : op.isRequest = false) : ticketing.uses op = false :=
    screens.free quiet
  induction budget generalizing index with
  | zero => trivial
  | succ budget ih =>
      have paused {error : GuardAgentError} {delay : ℚ} :
          (if budget = 0 then do
              perform .countRequestFailed
              perform (.fireHook .transportSend error)
              return .ok (.failed error)
            else do
              perform (.sleep delay)
              transport.retryLoop crates label body (index + 1) budget :
              TransportProgram Item SendResult).Ticketed ticketing false := by
        split
        · exact .call (free rfl) fun _ => .call (free rfl) fun _ => trivial
        · exact .call (free rfl) fun _ => ih (index + 1)
      rw [retryLoop_succ]
      refine admission_ticketed screens (ih (index + 1)) paused ?_
      have attempted : (transport.attempt crates label body).Ticketed ticketing true := by
        refine .grant (free rfl) fun _ => ?_
        rw [Bool.or_true]
        refine .use fun reply => ?_
        cases (reply : HttpReply) with
        | clientError message => trivial
        | response status retryAfter body => exact .call (free rfl) fun _ => trivial
      refine attempted.bind fun result => ?_
      cases result with
      | accepted => exact .call (free rfl) fun _ => trivial
      | partialFailure errors => exact .call (free rfl) fun _ => trivial
      | permanent statusCode detail => trivial
      | tooLarge detail => trivial
      | rateLimited seconds => exact .call (free rfl) fun _ => paused
      | retryable error => exact .call (free rfl) fun _ => paused

/-- Each round of `get_with_retry` makes its request with a grant. -/
theorem getLoop_ticketed (screens : Screens ticketing) (url : String) (index budget : ℕ) :
    (@getLoop Item crates transport url index budget).Ticketed ticketing false := by
  have free {op : TransportOp Item} (quiet : op.isRequest = false) : ticketing.uses op = false :=
    screens.free quiet
  induction budget generalizing index with
  | zero => trivial
  | succ budget ih =>
      have paused {delay : ℚ} :
          (if budget = 0 then do
              perform .countRequestFailed
              return none
            else do
              perform (.sleep delay)
              transport.getLoop crates url (index + 1) budget :
              TransportProgram Item (Option Value)).Ticketed ticketing false := by
        split
        · exact .call (free rfl) fun _ => trivial
        · exact .call (free rfl) fun _ => ih (index + 1)
      rw [getLoop_succ]
      refine admission_ticketed screens (ih (index + 1)) paused ?_
      have attempted : (@getAttempt Item crates url).Ticketed ticketing true :=
        .use fun _ => trivial
      refine attempted.bind fun result => ?_
      cases result with
      | ok value =>
          refine .call (free rfl) fun _ => ?_
          split
          · exact .call (free rfl) fun _ => trivial
          · exact .call (free rfl) fun _ => ih (index + 1)
      | rateLimited seconds => exact .call (free rfl) fun _ => paused
      | retryable error => exact .call (free rfl) fun _ => paused

/-- A call of `send_with_retry` makes its requests with a grant each. -/
theorem sendWithRetry_ticketed (screens : Screens ticketing) (label : String) (body : Body Item) :
    (transport.sendWithRetry crates label body).Ticketed ticketing false :=
  (retryLoop_ticketed screens label body 0 _).bind fun _ =>
    .call (screens.free rfl) fun _ => trivial

/-- Reporting an error needs no grant. -/
theorem report_ticketed (screens : Screens ticketing) (error : GuardAgentError)
    (outcome : SendOutcome) :
    (do
      perform (.fireHook .transportSend error)
      return outcome : TransportProgram Item SendOutcome).Ticketed ticketing false :=
  .call (screens.free rfl) fun _ => trivial

/-- A batch send makes no request without asking. The induction is on the number of items. -/
theorem sendBatch_ticketed (screens : Screens ticketing) (render : Item → Value)
    (batch : BatchItems Item) :
    (transport.sendBatch crates render batch).Ticketed ticketing false := by
  induction size : batch.items.length using Nat.strong_induction_on generalizing batch with
  | _ count ih =>
      unfold sendBatch
      cases transport.encryptor with
      | some encryptor =>
          refine .call (screens.free rfl) fun nonce => ?_
          dsimp only
          split
          · exact .call (screens.free rfl) fun _ => trivial
          · refine .call (screens.free rfl) fun batchId => ?_
            refine (sendWithRetry_ticketed screens _ _).bind fun result => ?_
            match result with
            | .ok .accepted => trivial
            | .ok (.permanentDrop statusCode detail) => exact report_ticketed screens _ _
            | .ok (.failed error) => trivial
            | .error tooLarge => exact report_ticketed screens _ _
      | none =>
          have built : (buildBatchBody crates transport render batch).Ticketed ticketing false :=
            .call (screens.free rfl) fun _ => .call (screens.free rfl) fun _ => trivial
          refine built.bind fun body => (sendWithRetry_ticketed screens _ _).bind fun result => ?_
          match result with
          | .ok .accepted => trivial
          | .ok (.permanentDrop statusCode detail) => exact report_ticketed screens _ _
          | .ok (.failed error) => trivial
          | .error tooLarge =>
              change (splitOrDrop crates transport render batch tooLarge.detail).Ticketed _ _
              unfold splitOrDrop
              by_cases single : batch.items.length ≤ 1
              · rw [if_pos single]
                exact report_ticketed screens _ _
              · have left : batch.split.1.items.length < count := by
                  simp only [BatchItems.split, List.length_take]
                  omega
                have right : batch.split.2.items.length < count := by
                  simp only [BatchItems.split, List.length_drop]
                  omega
                rw [if_neg single]
                refine (ih _ left batch.split.1 rfl).bind fun leftOutcome => ?_
                split
                · exact ih _ right batch.split.2 rfl
                · trivial

end HttpTransport

namespace Client

variable {DynamicRules : Type} {client : Client Item DynamicRules}

/-- No call makes a request without asking. -/
theorem program_ticketed {ticketing : Ticketing (transportSignature Item)}
    (screens : Screens ticketing) (call : TransportCall Item) :
    (client.program call).Ticketed ticketing false := by
  cases call with
  | sendBatch batch =>
      exact (HttpTransport.sendBatch_ticketed screens _ _).bind fun _ => trivial
  | sendStatus status =>
      refine .bind ?_ fun _ => trivial
      refine (HttpTransport.sendWithRetry_ticketed screens _ _).bind fun result => ?_
      cases result with
      | ok outcome => trivial
      | error tooLarge => exact HttpTransport.report_ticketed screens _ _
  | fetchRules =>
      refine .bind ?_ fun _ => trivial
      refine (HttpTransport.getLoop_ticketed screens _ _ _).bind fun fetched => ?_
      cases fetched <;> trivial

/-- What an observer records of the callers: their operations with the answers and the times. -/
def observe (past : List (ℚ × TransportEvent Item)) (pool : Pool TransportState (Caller Item))
    (label : PoolLabel (TransportArrival Item) ((op : TransportOp Item) → op.Answer))
    (_ : Pool TransportState (Caller Item)) : List (ℚ × TransportEvent Item) :=
  match label with
  | .arrive _ => past
  | .run tid respond =>
      match pool.tasks[tid]? with
      | none => past
      | some caller =>
          match caller.program with
          | .done _ => past
          | .perform op _ =>
              past ++ [(pool.shared.now, ⟨op, (pool.shared.perform caller respond op).1⟩)]

variable {pool next : Pool TransportState (Caller Item)}
  {label : PoolLabel (TransportArrival Item) ((op : TransportOp Item) → op.Answer)}

/-- What a step of the callers can be, and what is observed of it. -/
theorem step_observed (stepped : client.machine.step? pool label = some next) :
    (∃ call, next = ⟨{ pool.shared with callers := pool.shared.callers + 1 },
        pool.tasks ++ [⟨pool.shared.callers, client.program call, none⟩]⟩ ∧
      ∀ past, observe past pool label next = past) ∨
    (∃ seconds, 0 ≤ seconds ∧
      next = ⟨{ pool.shared with now := pool.shared.now + seconds }, pool.tasks⟩ ∧
      ∀ past, observe past pool label next = past) ∨
    ∃ (tid : ℕ) (caller : Caller Item) (op : TransportOp Item)
      (rest : op.Answer → TransportProgram Item Unit)
      (respond : (op : TransportOp Item) → op.Answer) (response : Option Response),
      pool.tasks[tid]? = some caller ∧ caller.program = .perform op rest ∧
      next = ⟨(pool.shared.perform caller respond op).2, pool.tasks.set tid
        ⟨caller.id, rest (pool.shared.perform caller respond op).1, response⟩⟩ ∧
      ∀ past, observe past pool label next =
        past ++ [(pool.shared.now, ⟨op, (pool.shared.perform caller respond op).1⟩)] := by
  rcases Threads.step_cases stepped with ⟨arrival, shared, started, rfl, arrived, rfl⟩ |
    ⟨tid, respond, caller, shared, after, started, rfl, present, acted, rfl⟩
  · cases arrival with
    | call call =>
        cases arrived
        exact Or.inl ⟨call, rfl, fun _ => rfl⟩
    | elapse seconds =>
        simp only [callers] at arrived
        split at arrived
        · next forward =>
            cases arrived
            rw [List.append_nil]
            exact Or.inr (Or.inl ⟨seconds, forward, rfl, fun _ => rfl⟩)
        · cases arrived
  · cases doing : caller.program with
    | done value =>
        simp only [callers, doing] at acted
        cases acted
    | perform op rest =>
        simp only [callers, doing] at acted
        cases acted
        rw [List.append_nil]
        refine Or.inr (Or.inr
          ⟨tid, caller, op, rest, respond, _, present, doing, rfl, fun past => ?_⟩)
        simp only [observe, present, doing]

end Client

/-- The call of the caller has not returned. -/
def Caller.isActive (caller : Caller Item) : Bool :=
  match caller.program with
  | .done _ => false
  | .perform _ _ => true

/-- A call of the limiter. -/
def limiterCall? : ℚ × TransportEvent Item → Option (Timed LimiterCall)
  | (now, ⟨.acquire, _⟩) => some (now, .acquire)
  | (now, ⟨.retryAfter, _⟩) => some (now, .retryAfter)
  | _ => none

namespace TransportState

variable (caller : Caller Item) (state : TransportState)
  (respond : (op : TransportOp Item) → op.Answer) (op : TransportOp Item)

/-- An operation takes no time. -/
theorem perform_now : (state.perform caller respond op).2.now = state.now := by
  cases op <;> rfl

/-- An operation that is a request has one response. -/
theorem perform_responses : (state.perform caller respond op).2.responses.length =
    state.responses.length + op.isRequest.toNat := by
  cases op with
  | post request => exact List.length_append
  | get url => exact List.length_append
  | acquire => rfl
  | retryAfter => rfl
  | breakerAdmit => rfl
  | recordSuccess => rfl
  | recordFailure => rfl
  | _ => exact congrArg List.length (List.append_nil _)

/-- The limiter is asked, or does not change. -/
theorem perform_limiter :
    (state.perform caller respond op).2.rateLimiter = RateLimiter.object.replay state.rateLimiter
      (limiterCall? (state.now, ⟨op, (state.perform caller respond op).1⟩)).toList := by
  cases op <;> rfl

/-- A grant of the limiter is one of its admissions. -/
theorem perform_granted :
    state.rateLimiter.admissions
      (limiterCall? (state.now, ⟨op, (state.perform caller respond op).1⟩)).toList =
    if (acquiring Item).grants ⟨op, (state.perform caller respond op).1⟩ then [state.now]
    else [] := by
  cases op with
  | acquire =>
      change (if _ then _ else _) = if (state.rateLimiter.acquire state.now).1 then _ else _
      simp [RateLimiter.object, RateLimiter.admissions]
  | retryAfter => rfl
  | _ => rfl

/-- An admission of the breaker is recorded. -/
theorem perform_admitted : ∃ calls,
    (state.perform caller respond op).2.history = state.history ++ calls ∧
    calls.countP (fun event => event.answer = .admitted true) =
      ((admitting Item).grants ⟨op, (state.perform caller respond op).1⟩).toNat := by
  cases op with
  | breakerAdmit =>
      refine ⟨_, rfl, ?_⟩
      change List.countP _ [_] = (decide ((state.ask caller .admits).1 = .admitted true)).toNat
      rw [List.countP_singleton, Bool.toNat, Bool.cond_eq_ite]
      rfl
  | recordSuccess => exact ⟨_, rfl, rfl⟩
  | recordFailure => exact ⟨_, rfl, rfl⟩
  | _ => exact ⟨[], (List.append_nil _).symm, rfl⟩

end TransportState

namespace Client

variable {DynamicRules : Type} {client : Client Item DynamicRules}
  {ticketing : Ticketing (transportSignature Item)}
  {middle pool next : Pool TransportState (Caller Item)}
  {later : List (ℚ × TransportEvent Item)}

/-- What was observed of a stretch of a run. -/
structure Traffic (ticketing : Ticketing (transportSignature Item))
    (middle pool : Pool TransportState (Caller Item)) (later : List (ℚ × TransportEvent Item)) :
    Prop where
  passed : middle.shared.now ≤ pool.shared.now
  within : ∀ event ∈ later, middle.shared.now ≤ event.1 ∧ event.1 ≤ pool.shared.now
  ordered : later.Pairwise fun earlier event => earlier.1 ≤ event.1
  ticketed : ∀ caller ∈ pool.tasks, caller.program.Ticketed ticketing true
  /-- Every request is paid for by a ticket of the stretch, or by one held before it. -/
  paid : pool.owned (fun caller => caller.program.tickets ticketing) +
      later.countP (fun event => event.2.1.isRequest) ≤
    middle.owned (fun caller => caller.program.tickets ticketing) +
      later.countP fun event => ticketing.grants event.2
  answered : pool.shared.responses.length =
    middle.shared.responses.length + later.countP fun event => event.2.1.isRequest
  limited : pool.shared.rateLimiter =
    RateLimiter.object.replay middle.shared.rateLimiter (later.filterMap limiterCall?)
  granted : middle.shared.rateLimiter.admissions (later.filterMap limiterCall?) =
    (later.filter fun event => (acquiring Item).grants event.2).map Prod.fst
  admitted : ∃ calls, pool.shared.history = middle.shared.history ++ calls ∧
    calls.countP (fun event => event.answer = .admitted true) =
      later.countP fun event => (admitting Item).grants event.2

namespace Traffic

/-- Nothing was observed of an empty stretch. -/
theorem nil (ticketed : ∀ caller ∈ middle.tasks, caller.program.Ticketed ticketing true) :
    Traffic ticketing middle middle [] where
  passed := le_rfl
  within := fun _ none => (List.not_mem_nil none).elim
  ordered := .nil
  ticketed := ticketed
  paid := le_rfl
  answered := rfl
  limited := rfl
  granted := rfl
  admitted := ⟨[], (List.append_nil _).symm, rfl⟩

/-- A step lengthens the stretch. -/
theorem step (screens : Screens ticketing)
    {label : PoolLabel (TransportArrival Item) ((op : TransportOp Item) → op.Answer)}
    (traffic : Traffic ticketing middle pool later)
    (stepped : client.machine.step? pool label = some next) :
    Traffic ticketing middle next (observe later pool label next) := by
  rcases step_observed stepped with ⟨call, rfl, observed⟩ | ⟨seconds, forward, rfl, observed⟩ |
    ⟨tid, caller, op, rest, respond, response, present, doing, rfl, observed⟩
  · -- A new caller holds no ticket.
    rw [observed]
    have fresh := @program_ticketed _ _ client _ screens call
    refine { traffic with ticketed := ?_, paid := ?_ }
    · intro caller member
      rcases List.mem_append.mp member with old | new
      · exact traffic.ticketed caller old
      · rw [List.mem_singleton.mp new]
        exact fresh.mono
    · rw [Pool.owned_append]
      simp only [List.map_cons, List.map_nil, List.sum_cons, List.sum_nil, fresh.tickets_eq]
      exact traffic.paid
  · rw [observed]
    have longer : pool.shared.now ≤ pool.shared.now + seconds := by linarith
    exact { traffic with
      passed := traffic.passed.trans longer
      within := fun event member =>
        ⟨(traffic.within event member).1, (traffic.within event member).2.trans longer⟩ }
  · rw [observed]
    generalize answered : (pool.shared.perform caller respond op).1 = answer
    have own := traffic.ticketed caller (List.mem_of_getElem? present)
    rw [doing] at own
    obtain ⟨kept, pays⟩ := tickets_next own answer
    rw [screens.uses] at pays
    obtain ⟨others, owned, replaced⟩ := Pool.exists_owned_rest present
      fun caller : Caller Item => caller.program.tickets ticketing
    have count (counts : ℚ × TransportEvent Item → Bool) (event : ℚ × TransportEvent Item) :
        (later ++ [event]).countP counts = later.countP counts + (counts event).toNat := by
      rw [List.countP_append, List.countP_singleton, Bool.toNat, Bool.cond_eq_ite]
    have limiter (event : ℚ × TransportEvent Item) : (later ++ [event]).filterMap limiterCall? =
        later.filterMap limiterCall? ++ (limiterCall? event).toList := by
      rw [List.filterMap_append]
      cases found : limiterCall? event with
      | none => rw [List.filterMap_cons_none found]; rfl
      | some call => rw [List.filterMap_cons_some found]; rfl
    refine ⟨?_, ?_, ?_, ?_, ?_, ?_, ?_, ?_, ?_⟩
    · rw [TransportState.perform_now]
      exact traffic.passed
    · rw [TransportState.perform_now]
      intro event member
      rcases List.mem_append.mp member with old | new
      · exact traffic.within event old
      · rw [List.mem_singleton.mp new]
        exact ⟨traffic.passed, le_rfl⟩
    · refine List.pairwise_append.mpr ⟨traffic.ordered, List.pairwise_singleton _ _, ?_⟩
      intro earlier member event new
      rw [List.mem_singleton.mp new]
      exact (traffic.within earlier member).2
    · intro other member
      rcases List.mem_or_eq_of_mem_set member with old | rfl
      · exact traffic.ticketed other old
      · exact kept
    · have tasks := replaced (pool.shared.perform caller respond op).2
        ⟨caller.id, rest answer, response⟩ []
      have paid := traffic.paid
      rw [List.append_nil, List.map_nil, List.sum_nil] at tasks
      rw [owned, doing] at paid
      rw [tasks, count, count]
      dsimp only
      omega
    · rw [TransportState.perform_responses, traffic.answered, count, Nat.add_assoc]
    · rw [TransportState.perform_limiter, limiter, RateLimiter.object.replay_append,
        traffic.limited, answered]
    · rw [limiter, RateLimiter.admissions_append, traffic.granted, ← traffic.limited, ← answered,
        TransportState.perform_granted, List.filter_append, List.map_append, List.filter_cons]
      split <;> rfl
    · obtain ⟨calls, recorded, counted⟩ := traffic.admitted
      obtain ⟨more, recorded', counted'⟩ := pool.shared.perform_admitted caller respond op
      refine ⟨calls ++ more, ?_, ?_⟩
      · rw [recorded', recorded, List.append_assoc]
      · rw [List.countP_append, counted, counted', count, answered]

end Traffic

/-- What is observed from a state on whose callers do not make a request without asking. -/
theorem traffic (screens : Screens ticketing)
    {labels : List (PoolLabel (TransportArrival Item) ((op : TransportOp Item) → op.Answer))}
    (ticketed : ∀ caller ∈ middle.tasks, caller.program.Ticketed ticketing true)
    (run : client.machine.Run middle labels pool) :
    Traffic ticketing middle pool (client.machine.history observe [] middle labels) :=
  run.history_invariant (fun pool later => Traffic ticketing middle pool later) (.nil ticketed)
    fun _ _ _ _ traffic _ stepped => traffic.step screens stepped

/-- The calls in progress have at most one grant each. -/
theorem owned_tickets_le (pool : Pool TransportState (Caller Item)) :
    pool.owned (fun caller => caller.program.tickets ticketing) ≤
      pool.tasks.countP Caller.isActive := by
  obtain ⟨shared, tasks⟩ := pool
  simp only [Pool.owned, Multiset.map_coe, Multiset.sum_coe]
  induction tasks with
  | nil => exact le_rfl
  | cons caller tasks ih =>
      rw [List.map_cons, List.sum_cons, List.countP_cons, Nat.add_comm]
      refine Nat.add_le_add ih ?_
      cases doing : caller.program with
      | done value =>
          rw [Ticketed.tickets_eq (by trivial)]
          exact Nat.zero_le _
      | perform op rest =>
          have active : caller.isActive = true := by rw [Caller.isActive, doing]
          rw [if_pos active]
          exact tickets_le_one _

/-- A call of the limiter is observed at its time. -/
theorem limiterCall?_time {event : ℚ × TransportEvent Item} {call : Timed LimiterCall}
    (found : limiterCall? event = some call) : call.1 = event.1 := by
  obtain ⟨now, op, answer⟩ := event
  cases op <;> cases found <;> rfl

/-- What two selections cover together is at most as long as both. -/
theorem length_filter_le_add {α : Type*} {list : List α} {whole first second : α → Bool}
    (covered : ∀ a, whole a = true → first a = true ∨ second a = true) :
    (list.filter whole).length ≤ (list.filter first).length + (list.filter second).length := by
  induction list with
  | nil => exact Nat.zero_le _
  | cons a list ih =>
      have here := covered a
      simp only [List.filter_cons]
      split_ifs <;> grind

/-- An interval is covered by as many windows as it takes. -/
theorem length_filter_le_windows {times : List ℚ} {width : ℚ} {limit : ℕ} (positive : 0 < width)
    (within : ∀ window : ℚ → Bool,
      (∀ first second, window first = true → window second = true → second - first < width) →
      (times.filter window).length ≤ limit) (start stop : ℚ) :
    (times.filter fun time => start ≤ time ∧ time ≤ stop).length ≤
      limit * (⌊(stop - start) / width⌋₊ + 1) := by
  have covered (count : ℕ) :
      (times.filter fun time => start ≤ time ∧ time < start + count * width).length ≤
        limit * count := by
    induction count with
    | zero =>
        rw [List.filter_eq_nil_iff.mpr]
        · exact Nat.zero_le _
        · intro time _
          simp
    | succ count ih =>
        have one : (times.filter fun time =>
            start + count * width ≤ time ∧ time < start + (count + 1) * width).length ≤ limit := by
          refine within _ fun first second inside inside' => ?_
          simp only [decide_eq_true_eq] at inside inside'
          linarith
        refine (length_filter_le_add (fun time inside => ?_)).trans (Nat.add_le_add ih one)
        simp only [decide_eq_true_eq, Nat.cast_add, Nat.cast_one] at inside ⊢
        rcases lt_or_ge time (start + count * width) with early | late
        · exact Or.inl ⟨inside.1, early⟩
        · exact Or.inr ⟨late, inside.2⟩
  refine le_trans (List.Sublist.length_le (List.monotone_filter_right _ ?_)) (covered _)
  intro time inside
  have long := Nat.lt_floor_add_one ((stop - start) / width)
  rw [div_lt_iff₀ positive] at long
  simp only [decide_eq_true_eq, Nat.cast_add, Nat.cast_one] at inside ⊢
  exact ⟨inside.1, by linarith⟩

/-- **The rate of all callers together is limited.** However batch sends, status pushes and
fetches interleave, and whatever is answered, in any stretch of a run the requests are at most as
many as the calls in progress at its beginning and the limit for each window it touches. So
`100 * (⌊t / 60⌋ + 1)` requests at most are made in the first `t` seconds. -/
theorem rate_limited (client : Client Item DynamicRules)
    (first second : List (PoolLabel (TransportArrival Item) ((op : TransportOp Item) → op.Answer)))
    (middle target : Pool TransportState (Caller Item))
    (before : client.machine.Run ⟨.initial, []⟩ first middle)
    (after : client.machine.Run middle second target) :
    target.shared.responses.length ≤ middle.shared.responses.length +
      middle.tasks.countP Caller.isActive + rateLimitMaxCalls *
        (⌊(target.shared.now - middle.shared.now) / rateLimitWindowSecs⌋₊ + 1) := by
  have start := traffic (@screens_acquiring Item) (fun _ none => (List.not_mem_nil none).elim)
    before
  have stretch := traffic (@screens_acquiring Item) start.ticketed after
  generalize client.machine.history observe [] ⟨.initial, []⟩ first = earlier at start
  generalize client.machine.history observe [] middle second = later at stretch
  have ordered : InOrder ((earlier ++ later).filterMap limiterCall?) := by
    have events : (earlier ++ later).Pairwise fun event other => event.1 ≤ other.1 :=
      List.pairwise_append.mpr ⟨start.ordered, stretch.ordered, fun event member other member' =>
        (start.within event member).2.trans (stretch.within other member').1⟩
    refine events.filterMap limiterCall? fun event other ordered call found call' found' => ?_
    rw [limiterCall?_time found, limiterCall?_time found']
    exact ordered
  have tracked := RateLimiter.tracks rateLimitMaxCalls rateLimitWindowSecs _ ordered
  have windows := length_filter_le_windows (by decide +kernel) tracked.within middle.shared.now
    target.shared.now
  have grants : (later.countP fun event => (acquiring Item).grants event.2) ≤
      rateLimitMaxCalls *
        (⌊(target.shared.now - middle.shared.now) / rateLimitWindowSecs⌋₊ + 1) := by
    have all : (middle.shared.rateLimiter.admissions (later.filterMap limiterCall?)).filter
        (fun time => middle.shared.now ≤ time ∧ time ≤ target.shared.now) =
        middle.shared.rateLimiter.admissions (later.filterMap limiterCall?) := by
      refine List.filter_eq_self.mpr fun time member => ?_
      rw [stretch.granted] at member
      obtain ⟨event, inside, rfl⟩ := List.mem_map.mp member
      exact decide_eq_true (stretch.within event (List.mem_of_mem_filter inside))
    refine le_trans ?_ windows
    have limiter : middle.shared.rateLimiter = _ := start.limited
    rw [List.filterMap_append, RateLimiter.admissions_append, List.filter_append,
      List.length_append]
    change _ ≤ _ + ((RateLimiter.object.replay TransportState.initial.rateLimiter
      (earlier.filterMap limiterCall?)).admissions _ |>.filter _).length
    rw [← limiter, all, stretch.granted, List.length_map, List.countP_eq_length_filter]
    exact Nat.le_add_left _ _
  have held := @owned_tickets_le _ (acquiring Item) middle
  have paid := stretch.paid
  have answered := stretch.answered
  omega

/-- A status push and a fetch of the rules in the first minute. -/
theorem rate_limited_minute :
    ∃ labels target, sample.machine.Run ⟨.initial, []⟩ labels target ∧
      target.shared.responses.length = 2 ∧
      target.shared.responses.length ≤ 0 + 0 + rateLimitMaxCalls *
        (⌊(target.shared.now - 0) / rateLimitWindowSecs⌋₊ + 1) := by
  let labels := .arrive (.call (.sendStatus [])) :: failing 0 8 ++
    [.arrive (.elapse 30), .arrive (.call .fetchRules)] ++ failing 1 3
  obtain ⟨target, run, checked⟩ := @Machine.exists_run _ _ sample.machine ⟨.initial, []⟩ labels
    (fun target => target.shared.responses.length = 2) (by decide +kernel)
  exact ⟨labels, target, run, of_decide_eq_true checked,
    rate_limited sample [] labels ⟨.initial, []⟩ target (.nil _) run⟩

/-- While no success is recorded, the failures that keep the circuit open are joined by later
ones. -/
theorem refuses_of_unclosed {state : TransportState} (recorded : state.Recorded)
    {before between after : List BreakerEvent} (same : state.history = before ++ between ++ after)
    (unclosed : ∀ event ∈ between, event.call ≠ .recordSuccess) {time now : ℚ}
    (refuses : Refuses failureThreshold recoveryWindow (recentFailures before) now)
    (sooner : time ≤ now) :
    Refuses failureThreshold recoveryWindow (recentFailures (before ++ between)) time := by
  obtain ⟨many, last, latest, within⟩ := refuses
  have none : ¬ ∃ call ∈ between.map BreakerEvent.timed, call.2 = .recordSuccess := by
    rintro ⟨_, member, success⟩
    obtain ⟨event, inside, rfl⟩ := List.mem_map.mp member
    exact unclosed event inside success
  rw [recentFailures, List.map_append, failuresSince_append, if_neg none]
  change max failureThreshold.toNat 1 ≤ (recentFailures before).length at many
  refine ⟨many.trans ?_, ?_⟩
  · rw [List.length_append]
    exact Nat.le_add_left _ _
  rw [List.head?_append]
  cases found : (failuresSince (between.map BreakerEvent.timed)).head? with
  | none => exact ⟨last, latest, by linarith⟩
  | some failure =>
      refine ⟨failure, rfl, ?_⟩
      -- The failure of the stretch is not older than the last one before it.
      have old := mem_of_mem_failuresSince (List.mem_of_head? latest)
      have new := mem_of_mem_failuresSince (List.mem_of_head? found)
      have ordered := recorded.ordered
      rw [same, List.map_append, List.map_append] at ordered
      have newer := (List.pairwise_append.mp (List.pairwise_append.mp ordered).1).2.2 _ old _ new
      dsimp only at newer
      linarith

/-- **An open circuit silences the callers.** Take any stretch of a run in which no success is
recorded, and at whose end the recovery window of the failures before it has not elapsed. In it
no more requests are made than calls were in progress at its beginning, and at its end the
circuit is open. -/
theorem silent_while_open (client : Client Item DynamicRules)
    (first second : List (PoolLabel (TransportArrival Item) ((op : TransportOp Item) → op.Answer)))
    (middle target : Pool TransportState (Caller Item))
    (before : client.machine.Run ⟨.initial, []⟩ first middle)
    (after : client.machine.Run middle second target)
    (opened : Refuses failureThreshold recoveryWindow (recentFailures middle.shared.history)
      target.shared.now)
    (unclosed : ∀ event ∈ target.shared.history.drop middle.shared.history.length,
      event.call ≠ .recordSuccess) :
    target.shared.responses.length ≤
      middle.shared.responses.length + middle.tasks.countP Caller.isActive ∧
    target.shared.breaker.state target.shared.now = .open := by
  have start := traffic (@screens_admitting Item) (fun _ none => (List.not_mem_nil none).elim)
    before
  have stretch := traffic (@screens_admitting Item) start.ticketed after
  have recorded := client.recorded (before.trans after)
  obtain ⟨calls, same, counted⟩ := stretch.admitted
  rw [same, List.drop_left] at unclosed
  constructor
  · have refused : calls.countP (fun event => event.answer = .admitted true) = 0 := by
      refine List.countP_eq_zero.mpr fun event member => ?_
      obtain ⟨between, rest, rfl⟩ := List.mem_iff_append.mp member
      rw [← List.append_assoc] at same
      have refuses := refuses_of_unclosed recorded same
        (fun earlier inside => unclosed earlier (List.mem_append_left _ inside)) opened
        (recorded.past event (by rw [same]; simp))
      have tracks := CircuitBreaker.tracks failureThreshold recoveryWindow
        ((middle.shared.history ++ between).map BreakerEvent.timed)
      have shut := (not_congr (tracks.admits_iff event.time)).mpr (not_not.mpr refuses)
      have answer := recorded.answered _ event rest same
      rw [decide_eq_true_eq, answer]
      intro granted
      refine shut ?_
      cases asked : event.call with
      | admits =>
          simp only [CircuitBreaker.object, BreakerEvent.timed, asked,
            BreakerAnswer.admitted.injEq] at granted
          exact granted
      | _ =>
          simp only [CircuitBreaker.object, BreakerEvent.timed, asked, reduceCtorEq] at granted
    have held := @owned_tickets_le _ (admitting Item) middle
    have paid := stretch.paid
    have answered := stretch.answered
    omega
  · have tracks := CircuitBreaker.tracks failureThreshold recoveryWindow
      (target.shared.history.map BreakerEvent.timed)
    have past : ∀ call ∈ target.shared.history.map BreakerEvent.timed,
        call.1 ≤ target.shared.now := by
      intro call member
      obtain ⟨event, inside, rfl⟩ := List.mem_map.mp member
      exact recorded.past event inside
    rw [recorded.replayed]
    refine (tracks.state_eq past).2.mpr ?_
    rw [← List.append_nil (middle.shared.history ++ calls)] at same
    have refuses := refuses_of_unclosed recorded same unclosed opened le_rfl
    rw [List.append_nil] at same
    rw [same]
    exact refuses

/-- Five pushes fail to connect while a sixth has been admitted: it makes its request, and a
fetch of the rules is refused. -/
theorem silent_while_open_late :
    ∃ first second middle target, sample.machine.Run ⟨.initial, []⟩ first middle ∧
      sample.machine.Run middle second target ∧
      target.shared.responses.length = middle.shared.responses.length + 1 ∧
      target.shared.responses.length ≤
        middle.shared.responses.length + middle.tasks.countP Caller.isActive ∧
      target.shared.breaker.state target.shared.now = .open := by
  let first := .arrive (.call (.sendStatus [])) :: failing 0 3 ++ fiveFailures 1
  let second := .arrive (.elapse 30) :: failing 0 2 ++ .arrive (.call .fetchRules) :: failing 6 2
  let check (middle target : Pool TransportState (Caller ℕ)) : Bool := decide
    (target.shared.responses.length = middle.shared.responses.length + 1 ∧
      (failureLimit ≤ (recentFailures middle.shared.history).length ∧
        ∃ last ∈ (recentFailures middle.shared.history).head?,
          target.shared.now - last < recoveryWindow) ∧
      ∀ event ∈ target.shared.history.drop middle.shared.history.length,
        event.call ≠ .recordSuccess)
  obtain ⟨middle, before, later⟩ := @Machine.exists_run _ _ sample.machine ⟨.initial, []⟩ first
    (fun middle => (sample.machine.run? middle second).any (check middle)) (by decide +kernel)
  obtain ⟨target, after, checked⟩ := Machine.exists_run later
  obtain ⟨more, opened, unclosed⟩ := of_decide_eq_true checked
  exact ⟨first, second, middle, target, before, after, more,
    silent_while_open sample first second middle target before after opened unclosed⟩

end Client

end GuardAgent
