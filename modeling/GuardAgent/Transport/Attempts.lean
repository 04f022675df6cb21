import GuardAgent.Foundation.Retry
import GuardAgent.Transport.Exchanges
import GuardAgent.Transport.Rules

/-!
# The attempts of the two retry loops

`send_with_retry` and `get_with_retry` are retry loops: their executions are exactly the
rounds of `HttpTransport.sending` and `HttpTransport.fetching`, which say for the outcome
of an attempt what is performed and whether the call returns
(`HttpTransport.sendWithRetry_run`, `HttpTransport.getWithRetry_run`).
-/

namespace GuardAgent

open Foundation Program Retry

/-- What an attempt comes to: the limiter blocks it, the breaker refuses it, or the HTTP
client reports. -/
inductive AttemptOutcome where
  | blocked (retryAfter : ℚ)
  | refused
  | answered (reply : HttpReply)

variable {Item : Type}

def outcome? : TransportEvent Item → Option AttemptOutcome
  | ⟨.retryAfter, seconds⟩ => some (.blocked seconds)
  | ⟨.breakerAdmit, admitted⟩ => bif (admitted : Bool) then none else some .refused
  | ⟨.post _, reply⟩ => some (.answered reply)
  | ⟨.get _, reply⟩ => some (.answered reply)
  | _ => none

/-- The outcomes of the attempts of a trace, in turn. -/
def outcomes (trace : List (TransportEvent Item)) : List AttemptOutcome :=
  trace.filterMap outcome?

/-- The outcomes of two traces in a row are those of each of them. -/
@[simp] theorem outcomes_append (first second : List (TransportEvent Item)) :
    outcomes (first ++ second) = outcomes first ++ outcomes second :=
  List.filterMap_append

namespace HttpTransport

variable (crates : Crates) (transport : HttpTransport)

/-- `calculate_backoff_delay` for an attempt. -/
def backoff (index : ℕ) : ℚ :=
  calculateBackoffDelay index transport.config.backoffFactor maxRetryBackoffSecs

/-- What the loops perform before an attempt is admitted, or when it is not. -/
def blockedEvents (retryAfter : ℚ) : List (TransportEvent Item) :=
  [⟨.acquire, false⟩, ⟨.retryAfter, retryAfter⟩, ⟨.sleep retryAfter, ()⟩]

/-- A failed attempt is followed by a sleep, or is the last. -/
def pause (last : Bool) (gaveUp : List (TransportEvent Item)) (delay : ℚ) :
    List (TransportEvent Item) :=
  if last then gaveUp else [⟨.sleep delay, ()⟩]

/-- A send that gives up. -/
def gaveUp (error : GuardAgentError) : List (TransportEvent Item) :=
  [⟨.countRequestFailed, ()⟩, ⟨.fireHook .transportSend error, ()⟩]

def breakerOpen : GuardAgentError := .transport "Circuit breaker is OPEN"

/-- What a send performs after an attempt with this result. -/
def sendSettles (index : ℕ) (last : Bool) : AttemptResult → List (TransportEvent Item)
  | .accepted => [⟨.recordSuccess, ()⟩]
  | .partialFailure _ => [⟨.recordSuccess, ()⟩]
  | .permanent _ _ => []
  | .tooLarge _ => []
  | .rateLimited seconds => ⟨.recordFailure, ()⟩ ::
      pause last (gaveUp (.rateLimited seconds)) (min seconds maxRetryAfterSecs)
  | .retryable error => ⟨.recordFailure, ()⟩ :: pause last (gaveUp error) (transport.backoff index)

/-- Its value, if it returns then. -/
def sendStops (label : String) (last : Bool) : AttemptResult → Option SendResult
  | .accepted => some (.ok .accepted)
  | .partialFailure errors =>
      let listed := ", ".intercalate (errors.map crates.debugText)
      some (.ok (.failed (.transport
        s!"Server acknowledged {label} batch with partial failure: [{listed}]")))
  | .permanent statusCode detail => some (.ok (.permanentDrop statusCode detail))
  | .tooLarge detail => some (.error ⟨detail⟩)
  | .rateLimited seconds => if last then some (.ok (.failed (.rateLimited seconds))) else none
  | .retryable error => if last then some (.ok (.failed error)) else none

/-- What happens between the admission of an attempt and its classification. -/
def postEvents (label : String) (body : Body Item) (reply : HttpReply) :
    List (TransportEvent Item) :=
  let request := transport.request crates label body
  [⟨.acquire, true⟩, ⟨.breakerAdmit, true⟩, ⟨.countBytes request.wireBody.length, ()⟩,
    ⟨.post request, reply⟩] ++
  match reply with
  | .clientError _ => []
  | .response _ _ _ => [⟨.countRequestSent, ()⟩]

/-- The loop of `send_with_retry`. -/
def sending (label : String) (body : Body Item) :
    Retry AttemptOutcome (TransportEvent Item) SendResult where
  events index last
    | .blocked retryAfter => blockedEvents retryAfter
    | .refused => [⟨.acquire, true⟩, ⟨.breakerAdmit, false⟩] ++
        pause last (gaveUp breakerOpen) (transport.backoff index)
    | .answered reply => transport.postEvents crates label body reply ++
        transport.sendSettles index last
          (classifyAttempt crates (transport.request crates label body).url reply)
  stops last
    | .blocked _ => none
    | .refused => if last then some (.ok (.failed breakerOpen)) else none
    | .answered reply => sendStops crates label last
        (classifyAttempt crates (transport.request crates label body).url reply)
  exhausted := .ok (.failed (.transport "retry loop exited unexpectedly"))

/-- What a fetch performs after an attempt with this result. -/
def fetchSettles (index : ℕ) (last : Bool) : GetAttempt → List (TransportEvent Item)
  | .ok value => [⟨.recordSuccess, ()⟩,
      if value.isObject then ⟨.countRequestSent, ()⟩ else ⟨.countRequestFailed, ()⟩]
  | .rateLimited seconds => ⟨.recordFailure, ()⟩ ::
      pause last [⟨.countRequestFailed, ()⟩] (min seconds maxRetryAfterSecs)
  | .retryable _ => ⟨.recordFailure, ()⟩ ::
      pause last [⟨.countRequestFailed, ()⟩] (transport.backoff index)

/-- Its value, if it returns then. -/
def fetchStops (last : Bool) : GetAttempt → Option (Option Value)
  | .ok value => if value.isObject then some (some value) else none
  | .rateLimited _ => if last then some none else none
  | .retryable _ => if last then some none else none

/-- The loop of `get_with_retry`. -/
def fetching (url : String) : Retry AttemptOutcome (TransportEvent Item) (Option Value) where
  events index last
    | .blocked retryAfter => blockedEvents retryAfter
    | .refused => [⟨.acquire, true⟩, ⟨.breakerAdmit, false⟩] ++
        pause last [⟨.countRequestFailed, ()⟩] (transport.backoff index)
    | .answered reply => [⟨.acquire, true⟩, ⟨.breakerAdmit, true⟩, ⟨.get url, reply⟩] ++
        transport.fetchSettles index last (classifyGetAttempt crates url reply)
  stops last
    | .blocked _ => none
    | .refused => if last then some none else none
    | .answered reply => fetchStops last (classifyGetAttempt crates url reply)
  exhausted := none

/-- Before an attempt the limiter and the breaker are asked, in both loops. -/
theorem admission_run {Result : Type} {trace : List (TransportEvent Item)} {result : Result}
    {loop refused admitted : TransportProgram Item Result} :
    (do
      let acquired : Bool ← perform .acquire
      if !acquired then
        let retryAfter : ℚ ← perform .retryAfter
        perform (.sleep retryAfter)
        loop
      else
        let permitted : Bool ← perform .breakerAdmit
        if !permitted then refused else admitted : TransportProgram Item Result).Run trace result ↔
      (∃ retryAfter later, trace = blockedEvents retryAfter ++ later ∧ loop.Run later result) ∨
      (∃ later, trace = [⟨.acquire, true⟩, ⟨.breakerAdmit, false⟩] ++ later ∧
        refused.Run later result) ∨
      ∃ later, trace = [⟨.acquire, true⟩, ⟨.breakerAdmit, true⟩] ++ later ∧
        admitted.Run later result := by
  constructor
  · intro run
    obtain ⟨acquired, _, rfl, acquiring⟩ := run_call_bind.mp run
    cases (acquired : Bool) with
    | false =>
        obtain ⟨retryAfter, _, rfl, waiting⟩ := run_call_bind.mp acquiring
        obtain ⟨_, later, rfl, slept⟩ := run_call_bind.mp waiting
        exact .inl ⟨retryAfter, later, rfl, slept⟩
    | true =>
        obtain ⟨permitted, later, rfl, admitting⟩ := run_call_bind.mp acquiring
        cases (permitted : Bool) with
        | false => exact .inr (.inl ⟨later, rfl, admitting⟩)
        | true => exact .inr (.inr ⟨later, rfl, admitting⟩)
  · rintro (⟨retryAfter, later, rfl, slept⟩ | ⟨later, rfl, remains⟩ | ⟨later, rfl, remains⟩)
    · exact run_call_bind.mpr ⟨false, _, rfl, run_call_bind.mpr ⟨retryAfter, _, rfl,
        run_call_bind.mpr ⟨(), later, rfl, slept⟩⟩⟩
    · exact run_call_bind.mpr ⟨true, _, rfl, run_call_bind.mpr ⟨false, _, rfl, remains⟩⟩
    · exact run_call_bind.mpr ⟨true, _, rfl, run_call_bind.mpr ⟨true, _, rfl, remains⟩⟩

section Sending

variable {crates transport} {label : String} {body : Body Item}
  {trace : List (TransportEvent Item)} {result : SendResult}

/-- An attempt runs with any reply, and its result is the classification of the reply. -/
theorem attempt_run {attempted : AttemptResult} :
    (transport.attempt crates label body).Run trace attempted ↔
      ∃ reply, trace = (transport.postEvents crates label body reply).drop 2 ∧
        attempted = classifyAttempt crates (transport.request crates label body).url reply := by
  unfold attempt
  constructor
  · intro run
    obtain ⟨_, _, rfl, counted⟩ := run_call_bind.mp run
    obtain ⟨reply, _, rfl, posted⟩ := run_call_bind.mp counted
    refine ⟨reply, ?_⟩
    cases (reply : HttpReply) with
    | clientError message =>
        obtain ⟨rfl, rfl⟩ := run_done.mp posted
        exact ⟨rfl, rfl⟩
    | response status retryAfter body =>
        obtain ⟨_, _, rfl, sent⟩ := run_call_bind.mp posted
        obtain ⟨rfl, rfl⟩ := run_done.mp sent
        exact ⟨rfl, rfl⟩
  · rintro ⟨reply, rfl, rfl⟩
    refine run_call_bind.mpr ⟨(), _, rfl, run_call_bind.mpr ⟨reply, _, rfl, ?_⟩⟩
    cases reply with
    | clientError message => exact run_done.mpr ⟨rfl, rfl⟩
    | response status retryAfter body =>
        exact run_call_bind.mpr ⟨(), _, rfl, run_done.mpr ⟨rfl, rfl⟩⟩

/-- What follows a failed attempt of a send. -/
theorem sendPause_settles {remaining : ℕ} {error : GuardAgentError} {delay : ℚ}
    {loop : TransportProgram Item SendResult} :
    (if remaining = 0 then do
        perform .countRequestFailed
        perform (.fireHook .transportSend error)
        return .ok (.failed error)
      else do
        perform (.sleep delay)
        loop : TransportProgram Item SendResult).Settles
      (pause (remaining == 0) (gaveUp error) delay)
      (if remaining == 0 then some (.ok (.failed error)) else none) loop := by
  cases remaining with
  | zero => exact settles_call (fun _ => rfl) (settles_call (fun _ => rfl) (settles_done _))
  | succ remaining => exact settles_call (fun _ => rfl) settles_loop

variable (crates transport label body) in
/-- What a send does after an attempt with this result. -/
def afterAttempt (index budget : ℕ) : AttemptResult → TransportProgram Item SendResult
  | .accepted => do
      perform .recordSuccess
      return .ok .accepted
  | .partialFailure errors => do
      perform .recordSuccess
      let listed := ", ".intercalate (errors.map crates.debugText)
      return .ok (.failed (.transport
        s!"Server acknowledged {label} batch with partial failure: [{listed}]"))
  | .permanent statusCode detail => return .ok (.permanentDrop statusCode detail)
  | .tooLarge detail => return .error ⟨detail⟩
  | .rateLimited seconds => do
      perform .recordFailure
      if budget = 0 then
        perform .countRequestFailed
        perform (.fireHook .transportSend (.rateLimited seconds))
        return .ok (.failed (.rateLimited seconds))
      else
        perform (.sleep (min seconds maxRetryAfterSecs))
        transport.retryLoop crates label body (index + 1) budget
  | .retryable error => do
      perform .recordFailure
      if budget = 0 then
        perform .countRequestFailed
        perform (.fireHook .transportSend error)
        return .ok (.failed error)
      else
        perform (.sleep (transport.backoff index))
        transport.retryLoop crates label body (index + 1) budget

/-- One round of `send_with_retry`, with the remaining ones after it. -/
theorem retryLoop_succ (index budget : ℕ) :
    transport.retryLoop crates label body index (budget + 1) = (do
      let acquired : Bool ← perform .acquire
      if !acquired then
        let retryAfter : ℚ ← perform .retryAfter
        perform (.sleep retryAfter)
        transport.retryLoop crates label body (index + 1) budget
      else
        let admitted : Bool ← perform .breakerAdmit
        if !admitted then
          if budget = 0 then
            perform .countRequestFailed
            perform (.fireHook .transportSend breakerOpen)
            return .ok (.failed breakerOpen)
          else
            perform (.sleep (transport.backoff index))
            transport.retryLoop crates label body (index + 1) budget
        else
          let attempted ← transport.attempt crates label body
          transport.afterAttempt crates label body index budget attempted) := by
  rw [retryLoop]
  congr

/-- After an attempt `send_with_retry` ends, or pauses and goes on with the next one. -/
theorem afterAttempt_settles (index budget : ℕ) (attempted : AttemptResult) :
    (transport.afterAttempt crates label body index budget attempted).Settles
      (transport.sendSettles index (budget == 0) attempted)
      (sendStops crates label (budget == 0) attempted)
      (transport.retryLoop crates label body (index + 1) budget) := by
  cases attempted with
  | accepted => exact settles_call (fun _ => rfl) (settles_done _)
  | partialFailure errors => exact settles_call (fun _ => rfl) (settles_done _)
  | permanent statusCode detail => exact settles_done _
  | tooLarge detail => exact settles_done _
  | rateLimited seconds => exact settles_call (fun _ => rfl) sendPause_settles
  | retryable error => exact settles_call (fun _ => rfl) sendPause_settles

/-- The executions of the loop are its rounds. -/
theorem retryLoop_run {index budget : ℕ} :
    (transport.retryLoop crates label body index budget).Run trace result ↔
      ∃ found, (transport.sending crates label body).Rounds index budget found trace result := by
  induction budget generalizing index trace result with
  | zero =>
      constructor
      · intro run
        obtain ⟨rfl, rfl⟩ := run_done.mp run
        exact ⟨[], .exhausted index⟩
      · rintro ⟨_, rounds⟩
        cases rounds
        exact .refl _
  | succ budget ih =>
      have rest : (transport.retryLoop crates label body (index + 1) budget).Run =
          fun later value => ∃ found,
            (transport.sending crates label body).Rounds (index + 1) budget found later value :=
        funext fun later => funext fun value => propext ih
      rw [exists_rounds_succ, ← rest, retryLoop_succ, admission_run]
      constructor
      · rintro (⟨retryAfter, later, rfl, slept⟩ | ⟨_, rfl, pausing⟩ | ⟨_, rfl, admitting⟩)
        · exact ⟨.blocked retryAfter, later, rfl, slept⟩
        · obtain ⟨later, rfl, remains⟩ := (sendPause_settles _ _).mp pausing
          exact ⟨.refused, later, rfl, remains⟩
        · obtain ⟨_, attempted, _, rfl, posted, settling⟩ := run_bind.mp admitting
          obtain ⟨reply, rfl, rfl⟩ := attempt_run.mp posted
          obtain ⟨later, rfl, remains⟩ := (afterAttempt_settles _ _ _ _ _).mp settling
          refine ⟨.answered reply, later, ?_, remains⟩
          simp only [sending, List.append_assoc]
          rfl
      · rintro ⟨outcome, later, rfl, remains⟩
        cases outcome with
        | blocked retryAfter => exact .inl ⟨retryAfter, later, rfl, remains⟩
        | refused =>
            exact .inr (.inl ⟨_, rfl, (sendPause_settles _ _).mpr ⟨later, rfl, remains⟩⟩)
        | answered reply =>
            have settling := (afterAttempt_settles index budget _ _ _).mpr ⟨later, rfl, remains⟩
            have posted := run_bind.mpr ⟨_, _, _, rfl, attempt_run.mpr ⟨reply, rfl, rfl⟩, settling⟩
            simp only [sending, List.append_assoc]
            exact .inr (.inr ⟨_, rfl, posted⟩)

end Sending

section Fetching

variable {crates transport} {url : String} {trace : List (TransportEvent Item)}
  {result : Option Value}

/-- What follows a failed attempt of a fetch. -/
theorem fetchPause_settles {remaining : ℕ} {delay : ℚ}
    {loop : TransportProgram Item (Option Value)} :
    (if remaining = 0 then do
        perform .countRequestFailed
        return none
      else do
        perform (.sleep delay)
        loop : TransportProgram Item (Option Value)).Settles
      (pause (remaining == 0) [⟨.countRequestFailed, ()⟩] delay)
      (if remaining == 0 then some none else none) loop := by
  cases remaining with
  | zero => exact settles_call (fun _ => rfl) (settles_done _)
  | succ remaining => exact settles_call (fun _ => rfl) settles_loop

variable (crates transport url) in
/-- What a fetch does after an attempt with this result. -/
def afterGetAttempt (index budget : ℕ) : GetAttempt → TransportProgram Item (Option Value)
  | .ok value => do
      perform .recordSuccess
      if value.isObject then
        perform .countRequestSent
        return some value
      else
        perform .countRequestFailed
        transport.getLoop crates url (index + 1) budget
  | .rateLimited seconds => do
      perform .recordFailure
      if budget = 0 then
        perform .countRequestFailed
        return none
      else
        perform (.sleep (min seconds maxRetryAfterSecs))
        transport.getLoop crates url (index + 1) budget
  | .retryable _ => do
      perform .recordFailure
      if budget = 0 then
        perform .countRequestFailed
        return none
      else
        perform (.sleep (transport.backoff index))
        transport.getLoop crates url (index + 1) budget

/-- One round of `get_with_retry`, with the remaining ones after it. -/
theorem getLoop_succ (index budget : ℕ) :
    @getLoop Item crates transport url index (budget + 1) = (do
      let acquired : Bool ← perform .acquire
      if !acquired then
        let retryAfter : ℚ ← perform .retryAfter
        perform (.sleep retryAfter)
        transport.getLoop crates url (index + 1) budget
      else
        let admitted : Bool ← perform .breakerAdmit
        if !admitted then
          if budget = 0 then
            perform .countRequestFailed
            return none
          else
            perform (.sleep (transport.backoff index))
            transport.getLoop crates url (index + 1) budget
        else
          let attempted ← getAttempt crates url
          transport.afterGetAttempt crates url index budget attempted) := by
  rw [getLoop]
  congr

/-- After an attempt `get_with_retry` ends, or goes on with the next one. -/
theorem afterGetAttempt_settles (index budget : ℕ) (attempted : GetAttempt) :
    (transport.afterGetAttempt crates url index budget attempted).Settles
      (transport.fetchSettles index (budget == 0) attempted)
      (fetchStops (budget == 0) attempted)
      (@getLoop Item crates transport url (index + 1) budget) := by
  cases attempted with
  | ok value =>
      simp only [afterGetAttempt, fetchSettles, fetchStops]
      by_cases object : value.isObject = true
      · simp only [object, ↓reduceIte]
        exact settles_call (fun _ => rfl) (settles_call (fun _ => rfl) (settles_done _))
      · simp only [object, Bool.false_eq_true, ↓reduceIte]
        exact settles_call (fun _ => rfl) (settles_call (fun _ => rfl) settles_loop)
  | rateLimited seconds => exact settles_call (fun _ => rfl) fetchPause_settles
  | retryable error => exact settles_call (fun _ => rfl) fetchPause_settles

/-- The executions of the loop are its rounds. -/
theorem getLoop_run {index budget : ℕ} :
    (transport.getLoop crates url index budget).Run trace result ↔
      ∃ found, (transport.fetching crates url).Rounds index budget found trace result := by
  induction budget generalizing index trace result with
  | zero =>
      constructor
      · intro run
        obtain ⟨rfl, rfl⟩ := run_done.mp run
        exact ⟨[], .exhausted index⟩
      · rintro ⟨_, rounds⟩
        cases rounds
        exact .refl _
  | succ budget ih =>
      have rest : (transport.getLoop crates url (index + 1) budget).Run =
          fun later value => ∃ found,
            (@fetching Item crates transport url).Rounds (index + 1) budget found later value :=
        funext fun later => funext fun value => propext ih
      rw [exists_rounds_succ, ← rest, getLoop_succ, admission_run]
      constructor
      · rintro (⟨retryAfter, later, rfl, slept⟩ | ⟨_, rfl, pausing⟩ | ⟨_, rfl, admitting⟩)
        · exact ⟨.blocked retryAfter, later, rfl, slept⟩
        · obtain ⟨later, rfl, remains⟩ := (fetchPause_settles _ _).mp pausing
          exact ⟨.refused, later, rfl, remains⟩
        · obtain ⟨reply, _, rfl, settling⟩ := run_call_bind.mp admitting
          obtain ⟨later, rfl, remains⟩ := (afterGetAttempt_settles _ _ _ _ _).mp settling
          exact ⟨.answered reply, later, rfl, remains⟩
      · rintro ⟨outcome, later, rfl, remains⟩
        cases outcome with
        | blocked retryAfter => exact .inl ⟨retryAfter, later, rfl, remains⟩
        | refused =>
            exact .inr (.inl ⟨_, rfl, (fetchPause_settles _ _).mpr ⟨later, rfl, remains⟩⟩)
        | answered reply =>
            have settling := (afterGetAttempt_settles index budget _ _ _).mpr ⟨later, rfl, remains⟩
            exact .inr (.inr ⟨_, rfl, run_call_bind.mpr ⟨reply, _, rfl, settling⟩⟩)

end Fetching

section Outcomes

/-- A pause has no outcome. -/
theorem outcomes_pause (last : Bool) {gaveUp : List (TransportEvent Item)}
    (quiet : outcomes gaveUp = []) (delay : ℚ) : outcomes (pause last gaveUp delay) = [] := by
  cases last with
  | false => rfl
  | true => exact quiet

/-- A round of a send shows its outcome. -/
theorem sending_outcomes (label : String) (body : Body Item) (index : ℕ) (last : Bool)
    (outcome : AttemptOutcome) :
    outcomes ((transport.sending crates label body).events index last outcome) = [outcome] := by
  cases outcome with
  | blocked retryAfter => rfl
  | refused =>
      rw [sending, outcomes_append, outcomes_pause last rfl]
      rfl
  | answered reply =>
      have posted : outcomes (transport.postEvents crates label body reply) =
          [.answered reply] := by
        cases reply <;> rfl
      have settled (attempted : AttemptResult) :
          outcomes (@sendSettles Item transport index last attempted) = [] := by
        cases attempted with
        | rateLimited seconds => exact outcomes_pause last rfl _
        | retryable error => exact outcomes_pause last rfl _
        | _ => rfl
      rw [sending, outcomes_append, posted, settled, List.append_nil]

/-- So does a round of a fetch. -/
theorem fetching_outcomes (url : String) (index : ℕ) (last : Bool) (outcome : AttemptOutcome) :
    outcomes ((@fetching Item crates transport url).events index last outcome) = [outcome] := by
  cases outcome with
  | blocked retryAfter => rfl
  | refused =>
      rw [fetching, outcomes_append, outcomes_pause last rfl]
      rfl
  | answered reply =>
      have settled (attempted : GetAttempt) :
          outcomes (@fetchSettles Item transport index last attempted) = [] := by
        cases attempted with
        | ok value =>
            simp only [fetchSettles]
            split <;> rfl
        | rateLimited seconds => exact outcomes_pause last rfl _
        | retryable error => exact outcomes_pause last rfl _
      rw [fetching, outcomes_append, settled]
      rfl

variable {crates transport}

/-- The report of a send shows no outcome. -/
theorem outcomes_of_rounds {label : String} {body : Body Item} {budget : ℕ}
    {found : List AttemptOutcome} {looped : List (TransportEvent Item)} {result : SendResult}
    (rounds : (transport.sending crates label body).Rounds 0 budget found looped result)
    (send : Sent Item) : outcomes (looped ++ [⟨.sent send, ()⟩]) = found := by
  rw [outcomes_append, ← rounds.filterMap_trace (sending_outcomes crates transport label body)]
  exact List.append_nil _

/-- The executions of `send_with_retry`. -/
theorem sendWithRetry_run {label : String} {body : Body Item}
    {trace : List (TransportEvent Item)} {result : SendResult} :
    (transport.sendWithRetry crates label body).Run trace result ↔
      ∃ looped, trace = looped ++ [⟨.sent ⟨body.carried, result.reply⟩, ()⟩] ∧
        (transport.sending crates label body).Rounds 0 transport.config.totalAttempts
          (outcomes trace) looped result := by
  constructor
  · intro run
    obtain ⟨looped, value, _, rfl, looping, reporting⟩ := run_bind.mp run
    obtain ⟨_, _, rfl, reported⟩ := run_call_bind.mp reporting
    obtain ⟨rfl, rfl⟩ := run_done.mp reported
    obtain ⟨found, rounds⟩ := retryLoop_run.mp looping
    exact ⟨looped, rfl, (outcomes_of_rounds rounds _).symm ▸ rounds⟩
  · rintro ⟨looped, rfl, rounds⟩
    exact run_bind.mpr ⟨looped, result, _, rfl, retryLoop_run.mpr ⟨_, rounds⟩,
      run_call_bind.mpr ⟨(), _, rfl, .refl _⟩⟩

/-- The executions of `get_with_retry`. -/
theorem getWithRetry_run {label : String} {trace : List (TransportEvent Item)}
    {result : Option Value} :
    (transport.getWithRetry crates label).Run trace result ↔
      (transport.fetching crates s!"{transport.config.endpoint}/api/v1/{label}").Rounds 0
        transport.config.totalAttempts (outcomes trace) trace result := by
  constructor
  · intro run
    obtain ⟨found, rounds⟩ := getLoop_run.mp run
    rw [← rounds.filterMap_trace (fetching_outcomes crates transport _)] at rounds
    exact rounds
  · exact fun rounds => getLoop_run.mpr ⟨_, rounds⟩

end Outcomes

end HttpTransport

end GuardAgent
