import GuardAgent.Transport.Attempts
import GuardAgent.Transport.Delivery

/-!
# How a call uses up its attempts

A send is a search for the first outcome with a verdict (`HttpTransport.sendWithRetry_spec`).
When it finds none its attempts run out; whether that is counted as a failed request depends
on the last of them, and for a fetch also on the documents it received
(`HttpTransport.exhaustion_counted`).
-/

namespace GuardAgent

open Foundation Program Retry

variable {Item : Type} {crates : Crates} {transport : HttpTransport}

/-- How a call of `send_with_retry` ends, without the texts. -/
inductive Verdict where
  | accepted
  | failed
  | permanentDrop (statusCode : ℕ)
  | tooLarge
  deriving DecidableEq

def SendResult.verdict : SendResult → Verdict
  | .ok .accepted => .accepted
  | .ok (.permanentDrop statusCode _) => .permanentDrop statusCode
  | .ok (.failed _) => .failed
  | .error _ => .tooLarge

/-- What a response whose body could be read decides. -/
def AttemptOutcome.verdict? (crates : Crates) : AttemptOutcome → Option Verdict
  | .answered (.response status _ (.ok bodyText)) =>
      if status = 200 then
        (crates.parseAck bodyText).map fun ack =>
          if ack.success ≠ some false ∧ ack.errors.getD [] = [] then .accepted else .failed
      else if 201 ≤ status ∧ status ≤ 299 then some .accepted
      else if status = 400 ∨ status = 404 ∨ status = 422 then some (.permanentDrop status)
      else if status = 413 then some .tooLarge
      else none
  | _ => none

def AttemptResult.verdict? : AttemptResult → Option Verdict
  | .accepted => some .accepted
  | .partialFailure _ => some .failed
  | .permanent statusCode _ => some (.permanentDrop statusCode)
  | .tooLarge _ => some .tooLarge
  | .rateLimited _ => none
  | .retryable _ => none

namespace HttpTransport

variable {label : String} {body : Body Item}

/-- The verdict of an attempt agrees with the status and the body of the response. -/
theorem classifyAttempt_verdict (url : String) (reply : HttpReply) :
    (classifyAttempt crates url reply).verdict? =
      (AttemptOutcome.answered reply).verdict? crates := by
  cases reply with
  | clientError message => rfl
  | response status retryAfter body =>
      cases body with
      | error message => rfl
      | ok bodyText =>
          simp only [classifyAttempt, classifyResponse, AttemptOutcome.verdict?]
          by_cases ok : status = 200
          · simp only [ok, parseAck, ↓reduceIte]
            cases crates.parseAck bodyText with
            | none => rfl
            | some ack =>
                dsimp only [Option.map_some]
                by_cases complete : ack.success ≠ some false ∧ ack.errors.getD [] = []
                · rw [if_pos complete, if_neg (by tauto)]
                  rfl
                · rw [if_neg complete, if_pos (by tauto)]
                  rfl
          · simp only [ok, ↓reduceIte, nonRetryableStatusCodes, List.mem_cons, List.not_mem_nil,
              or_false]
            split_ifs <;> first | rfl | omega

/-- A verdict stops a send, and the last attempt does. -/
theorem sendStops_verdict {last : Bool} {attempted : AttemptResult} {value : SendResult}
    (stops : sendStops crates label last attempted = some value) :
    attempted.verdict? = some value.verdict ∨
      attempted.verdict? = none ∧ last = true ∧ value.verdict = .failed := by
  cases attempted with
  | rateLimited seconds =>
      obtain ⟨final, same⟩ := Option.ite_none_right_eq_some.mp stops
      cases same
      exact Or.inr ⟨rfl, final, rfl⟩
  | retryable error =>
      obtain ⟨final, same⟩ := Option.ite_none_right_eq_some.mp stops
      cases same
      exact Or.inr ⟨rfl, final, rfl⟩
  | _ =>
      cases stops
      exact Or.inl rfl

/-- An attempt that the loop goes on after has no verdict. -/
theorem verdict?_of_continues {last : Bool} {attempted : AttemptResult}
    (continues : sendStops crates label last attempted = none) : attempted.verdict? = none := by
  cases attempted with
  | rateLimited seconds => rfl
  | retryable error => rfl
  | _ => cases continues

/-- A send is decided by the verdicts. -/
theorem sending_decides (label : String) (body : Body Item) :
    (transport.sending crates label body).Decides (AttemptOutcome.verdict? crates)
      SendResult.verdict .failed where
  stopped := by
    intro last outcome value stops
    cases outcome with
    | blocked retryAfter => cases stops
    | refused =>
        obtain ⟨final, same⟩ := Option.ite_none_right_eq_some.mp stops
        cases same
        exact Or.inr ⟨rfl, final, rfl⟩
    | answered reply =>
        rw [← classifyAttempt_verdict]
        exact sendStops_verdict stops
  continued := by
    intro last outcome stops
    cases outcome with
    | blocked retryAfter => rfl
    | refused => rfl
    | answered reply =>
        rw [← classifyAttempt_verdict]
        exact verdict?_of_continues stops
  exhausted := rfl

/-- No more requests than attempts. -/
theorem length_exchanges_le (trace : List (TransportEvent Item)) :
    (exchanges trace).length ≤ (outcomes trace).length := by
  induction trace with
  | nil => exact le_rfl
  | cons event trace ih =>
      rw [show event :: trace = [event] ++ trace from rfl, exchanges_append, outcomes_append,
        List.length_append, List.length_append]
      refine Nat.add_le_add ?_ ih
      obtain ⟨op, answer⟩ := event
      cases op with
      | post request => exact le_rfl
      | _ => exact Nat.zero_le _

/-- Only a response whose body could be read is accepted, and a `200` only when it parses. -/
theorem accepted_of_verdict? {outcome : AttemptOutcome}
    (accepted : outcome.verdict? crates = some .accepted) :
    ∃ status retryAfter bodyText, outcome = .answered (.response status retryAfter (.ok bodyText)) ∧
      (201 ≤ status ∧ status ≤ 299 ∨ status = 200 ∧ ∃ ack ∈ crates.parseAck bodyText,
        ack.success ≠ some false ∧ ack.errors.getD [] = []) := by
  match outcome with
  | .answered (.response status retryAfter (.ok bodyText)) =>
      refine ⟨status, retryAfter, bodyText, rfl, ?_⟩
      simp only [AttemptOutcome.verdict?] at accepted
      split_ifs at accepted with ok success permanent large
      · obtain ⟨ack, parsed, complete⟩ := Option.map_eq_some_iff.mp accepted
        refine Or.inr ⟨ok, ack, parsed, ?_⟩
        by_contra incomplete
        rw [if_neg incomplete] at complete
        cases complete
      · exact Or.inl success
      · cases accepted
      · cases accepted

/-- **The retry loop against its specification.** Whatever outcomes are assigned to the
attempts, `send_with_retry` returns, and whenever its attempts have these outcomes it stops
at the first that has a verdict, with that verdict, and fails when its budget has none. -/
theorem sendWithRetry_spec (crates : Crates) (transport : HttpTransport) (label : String)
    (body : Body Item) (bounded : transport.config.retryAttempts < 2 ^ 32 - 1)
    (assigned : ℕ → AttemptOutcome) :
    (∃ trace result, (transport.sendWithRetry crates label body).Run trace result ∧
      Follows assigned (outcomes trace)) ∧
    ∀ trace result, (transport.sendWithRetry crates label body).Run trace result →
      Follows assigned (outcomes trace) →
      (exchanges trace).length ≤ transport.config.retryAttempts + 1 ∧
      (∀ found ≤ transport.config.retryAttempts,
        (∀ earlier < found, (assigned earlier).verdict? crates = none) →
        ∀ verdict, (assigned found).verdict? crates = some verdict →
          (outcomes trace).length = found + 1 ∧ result.verdict = verdict) ∧
      ((∀ each ≤ transport.config.retryAttempts, (assigned each).verdict? crates = none) →
        (outcomes trace).length = transport.config.retryAttempts + 1 ∧
          result.verdict = .failed) ∧
      (result = .ok .accepted → ∃ status retryAfter bodyText,
        (outcomes trace).getLast? = some (.answered (.response status retryAfter (.ok bodyText))) ∧
        (201 ≤ status ∧ status ≤ 299 ∨
          status = 200 ∧ ∃ ack ∈ crates.parseAck bodyText,
            ack.success ≠ some false ∧ ack.errors.getD [] = [])) := by
  have budget : transport.config.totalAttempts = transport.config.retryAttempts + 1 :=
    Nat.min_eq_left (by omega)
  constructor
  · obtain ⟨found, looped, result, rounds, follows⟩ :=
      @exists_rounds _ _ _ (transport.sending crates label body) assigned 0
        transport.config.totalAttempts
    have same := outcomes_of_rounds rounds ⟨body.carried, result.reply⟩
    exact ⟨_, result, sendWithRetry_run.mpr ⟨looped, rfl, same.symm ▸ rounds⟩, same.symm ▸ follows⟩
  · intro trace result run follows
    obtain ⟨looped, same, rounds⟩ := sendWithRetry_run.mp run
    rw [budget] at rounds
    obtain ⟨stopped, exhausted⟩ := rounds.search (sending_decides label body) follows
    refine ⟨(length_exchanges_le trace).trans rounds.length_le, stopped, exhausted, ?_⟩
    rintro rfl
    rcases rounds.decided (sending_decides label body) with ⟨before, outcome, ended, _, _, judged⟩ |
      ⟨_, _, failed⟩
    · rw [ended, List.getLast?_concat]
      obtain ⟨status, retryAfter, bodyText, rfl, acknowledged⟩ := accepted_of_verdict? judged
      exact ⟨status, retryAfter, bodyText, rfl, acknowledged⟩
    · cases failed

/-- The breaker refuses, the limiter blocks, and the last attempt is accepted. -/
theorem sendWithRetry_spec_three :
    let transport : HttpTransport :=
      ⟨{ AgentConfig.new "test-api-key-1234" with retryAttempts := 2 }, none⟩
    ∃ trace result, (transport.sendWithRetry (.sample []) "events" ⟨[], [0]⟩).Run trace result ∧
      (outcomes trace).length = 3 ∧ result.verdict = .accepted := by
  intro transport
  let assigned : ℕ → AttemptOutcome
    | 0 => .refused
    | 1 => .blocked 1
    | _ => .answered (.response 201 none (.ok ""))
  obtain ⟨⟨trace, result, run, follows⟩, spec⟩ :=
    sendWithRetry_spec (.sample []) transport "events" ⟨[], [0]⟩ (by decide) assigned
  obtain ⟨_, stopped, _⟩ := spec trace result run follows
  refine ⟨trace, result, run, stopped 2 le_rfl ?_ .accepted rfl⟩
  intro earlier before
  match earlier with
  | 0 => rfl
  | 1 => rfl

end HttpTransport

section Counting

/-- `requests_failed` is incremented. -/
def TransportOp.countsFailed : TransportOp Item → Bool
  | .countRequestFailed => true
  | _ => false

/-- The `on_error` hook is fired. -/
def TransportOp.firesHook : TransportOp Item → Bool
  | .fireHook _ _ => true
  | _ => false

def requestsFailed (trace : List (TransportEvent Item)) : ℕ :=
  trace.countP fun event => TransportOp.countsFailed event.1

def hooksFired (trace : List (TransportEvent Item)) : ℕ :=
  trace.countP fun event => TransportOp.firesHook event.1

variable (crates)

/-- No attempt had a verdict. -/
def RanOut (outcomes : List AttemptOutcome) : Prop :=
  ∀ outcome ∈ outcomes, outcome.verdict? crates = none

instance (outcomes : List AttemptOutcome) : Decidable (RanOut crates outcomes) :=
  inferInstanceAs (Decidable (∀ outcome ∈ outcomes, outcome.verdict? crates = none))

/-- A send whose attempts ran out is counted and reported once, an accepted one not. -/
def SendCounted (trace : List (TransportEvent Item)) (result : SendResult) : Prop :=
  (result.verdict = .failed → RanOut crates (outcomes trace) →
    requestsFailed trace = 1 ∧ hooksFired trace = 1) ∧
  (result = .ok .accepted → requestsFailed trace = 0)

/-- A fetch whose attempts ran out is counted once, any other not. -/
def FetchCounted (trace : List (TransportEvent Item)) (result : Option Value) : Prop :=
  (result = none → requestsFailed trace = 1) ∧ (result ≠ none → requestsFailed trace = 0)

def AttemptOutcome.isBlocked : AttemptOutcome → Bool
  | .blocked _ => true
  | _ => false

/-- The document of a `2xx`, if it parses. -/
def AttemptOutcome.document? : AttemptOutcome → Option Value
  | .answered (.response status _ (.ok bodyText)) =>
      if 200 ≤ status ∧ status < 300 then crates.fromSlice (utf8 bodyText) else none
  | _ => none

/-- A document that the fetch returns. -/
def AttemptOutcome.rules? (outcome : AttemptOutcome) : Option Value :=
  (outcome.document? crates).filter Value.isObject

/-- A document that is none of rules. -/
def AttemptOutcome.isStray (outcome : AttemptOutcome) : Bool :=
  (outcome.document? crates).any fun value => !value.isObject

/-- The last attempt of a send is not blocked by the limiter. -/
def EndsUnblocked (outcomes : List AttemptOutcome) : Prop :=
  ∀ last ∈ outcomes.getLast?, last.isBlocked = false

instance (outcomes : List AttemptOutcome) : Decidable (EndsUnblocked outcomes) :=
  inferInstanceAs (Decidable (∀ last ∈ outcomes.getLast?, last.isBlocked = false))

/-- No stray document was received, and the last attempt was not blocked; or there was one, and
the attempts ran out with it or with a blocked one. -/
def FetchCounts (outcomes : List AttemptOutcome) : Prop :=
  if outcomes.any fun outcome => (outcome.rules? crates).isSome then
    outcomes.countP (·.isStray crates) = 0
  else
    outcomes.countP (·.isStray crates) = 0 ∧ EndsUnblocked outcomes ∨
    outcomes.countP (·.isStray crates) = 1 ∧
      ∀ last ∈ outcomes.getLast?, last.isBlocked = true ∨ last.isStray crates = true

instance (outcomes : List AttemptOutcome) : Decidable (FetchCounts crates outcomes) :=
  inferInstanceAs (Decidable (if outcomes.any fun outcome => (outcome.rules? crates).isSome then
      outcomes.countP (·.isStray crates) = 0
    else
      outcomes.countP (·.isStray crates) = 0 ∧ EndsUnblocked outcomes ∨
      outcomes.countP (·.isStray crates) = 1 ∧
        ∀ last ∈ outcomes.getLast?, last.isBlocked = true ∨ last.isStray crates = true))

end Counting

namespace HttpTransport

variable {label : String} {body : Body Item} {url : String} {trace : List (TransportEvent Item)}

/-- The counted failures of two traces in a row add up. -/
@[simp] theorem requestsFailed_append (first second : List (TransportEvent Item)) :
    requestsFailed (first ++ second) = requestsFailed first + requestsFailed second :=
  List.countP_append

/-- The hooks fired in two traces in a row add up. -/
@[simp] theorem hooksFired_append (first second : List (TransportEvent Item)) :
    hooksFired (first ++ second) = hooksFired first + hooksFired second :=
  List.countP_append

/-- A round of a send counts and reports when it is the last and gives up. -/
theorem sending_counts (index : ℕ) (last : Bool) (outcome : AttemptOutcome) :
    requestsFailed ((transport.sending crates label body).events index last outcome) =
        (if last && !outcome.isBlocked && (outcome.verdict? crates).isNone then 1 else 0) ∧
    hooksFired ((transport.sending crates label body).events index last outcome) =
        if last && !outcome.isBlocked && (outcome.verdict? crates).isNone then 1 else 0 := by
  cases outcome with
  | blocked retryAfter => cases last <;> exact ⟨rfl, rfl⟩
  | refused => cases last <;> exact ⟨rfl, rfl⟩
  | answered reply =>
      have posted : requestsFailed (transport.postEvents crates label body reply) = 0 ∧
          hooksFired (transport.postEvents crates label body reply) = 0 := by
        cases reply <;> exact ⟨rfl, rfl⟩
      simp only [sending, requestsFailed_append, hooksFired_append, posted.1, posted.2,
        ← classifyAttempt_verdict (transport.request crates label body).url]
      generalize classifyAttempt crates (transport.request crates label body).url reply = attempted
      cases attempted <;> cases last <;> exact ⟨rfl, rfl⟩

variable (url) in
/-- What a fetch makes of a response agrees with its status and its body. -/
theorem classifyGetAttempt_document (reply : HttpReply) :
    (AttemptOutcome.answered reply).document? crates =
      match classifyGetAttempt crates url reply with
      | .ok value => some value
      | _ => none := by
  cases reply with
  | clientError message => rfl
  | response status retryAfter body =>
      cases body with
      | error message => rfl
      | ok bodyText =>
          simp only [AttemptOutcome.document?, classifyGetAttempt]
          split_ifs with success
          · cases crates.fromSlice (utf8 bodyText) <;> rfl
          · rfl
          · rfl

/-- A round of a fetch counts a stray document, and giving up. -/
theorem fetching_counts (index : ℕ) (last : Bool) (outcome : AttemptOutcome) :
    requestsFailed ((@fetching Item crates transport url).events index last outcome) =
      if outcome.isStray crates ||
        (last && !outcome.isBlocked && (outcome.rules? crates).isNone) then 1 else 0 := by
  cases outcome with
  | blocked retryAfter => cases last <;> rfl
  | refused => cases last <;> rfl
  | answered reply =>
      simp only [fetching, requestsFailed_append, AttemptOutcome.isStray, AttemptOutcome.rules?,
        classifyGetAttempt_document url]
      generalize classifyGetAttempt crates url reply = attempted
      cases attempted with
      | ok value =>
          simp only [fetchSettles, Option.any_some, Option.filter_some]
          by_cases object : value.isObject = true
          · simp only [object, ↓reduceIte]
            cases last <;> rfl
          · simp only [object, Bool.false_eq_true, ↓reduceIte]
            cases last <;> rfl
      | rateLimited seconds => cases last <;> rfl
      | retryable error => cases last <;> rfl

/-- There is always a first attempt. -/
theorem exists_budget (config : AgentConfig) : ∃ budget, config.totalAttempts = budget + 1 := by
  refine ⟨config.totalAttempts - 1, (Nat.sub_add_cancel ?_).symm⟩
  exact le_min (Nat.succ_le_succ (Nat.zero_le _)) (by decide)

/-- The last round of a send, and what was counted. -/
theorem exists_last_sent {result : SendResult}
    (run : (transport.sendWithRetry crates label body).Run trace result) :
    ∃ before outcome, ∃ last : Bool, outcomes trace = before ++ [outcome] ∧
      requestsFailed trace =
        (if last && !outcome.isBlocked && (outcome.verdict? crates).isNone then 1 else 0) ∧
      hooksFired trace =
        (if last && !outcome.isBlocked && (outcome.verdict? crates).isNone then 1 else 0) ∧
      (outcome.verdict? crates = some result.verdict ∨
        outcome.verdict? crates = none ∧ last = true ∧ result.verdict = .failed) := by
  obtain ⟨looped, same, rounds⟩ := sendWithRetry_run.mp run
  obtain ⟨budget, attempts⟩ := exists_budget transport.config
  rw [attempts] at rounds
  obtain ⟨before, outcome, found, _, _, performed, ends⟩ := rounds.exists_last
  have decides : (transport.sending crates label body).Decides _ _ _ := sending_decides label body
  have counts := fun index last outcome =>
    @sending_counts Item crates transport label body index last outcome
  refine ⟨before, outcome, before.length == budget, found, ?_, ?_, ?_⟩
  · have none : requestsFailed ((transport.sending crates label body).continuing 0 before).flatten =
        before.countP fun _ => false :=
      countP_continuing (fun index outcome => (counts index false outcome).1) 0 before
    rw [same, performed, requestsFailed_append, requestsFailed_append, none, (counts ..).1]
    exact (Nat.add_zero _).trans (by simp)
  · have none : hooksFired ((transport.sending crates label body).continuing 0 before).flatten =
        before.countP fun _ => false :=
      countP_continuing (fun index outcome => (counts index false outcome).2) 0 before
    rw [same, performed, hooksFired_append, hooksFired_append, none, (counts ..).2]
    exact (Nat.add_zero _).trans (by simp)
  · rcases ends with stopped | ⟨continues, used, rfl⟩
    · exact decides.stopped stopped
    · exact Or.inr ⟨decides.continued continues, beq_iff_eq.mpr used, decides.exhausted⟩

/-- A send is counted once unless its last attempt is blocked. -/
theorem sendWithRetry_counted {result : SendResult}
    (run : (transport.sendWithRetry crates label body).Run trace result) :
    SendCounted crates trace result ↔
      (RanOut crates (outcomes trace) → EndsUnblocked (outcomes trace)) := by
  obtain ⟨before, outcome, last, found, failed, hooks, ends⟩ := exists_last_sent run
  have ending (ranOut : RanOut crates (outcomes trace)) :
      outcome.verdict? crates = none ∧ last = true ∧ result.verdict = .failed := by
    have undecided : outcome.verdict? crates = none := by
      apply ranOut
      rw [found]
      exact List.mem_append_right _ (List.mem_singleton_self _)
    rcases ends with judged | final
    · rw [undecided] at judged
      cases judged
    · exact final
  have unblocked : EndsUnblocked (outcomes trace) ↔ outcome.isBlocked = false := by
    rw [EndsUnblocked, found, List.getLast?_concat]
    simp
  rw [SendCounted, unblocked, failed, hooks]
  constructor
  · rintro ⟨counted, _⟩ ranOut
    obtain ⟨undecided, final, failed⟩ := ending ranOut
    obtain ⟨once, _⟩ := counted failed ranOut
    by_contra blocked
    simp [Bool.not_eq_false _ ▸ blocked] at once
  · intro counts
    constructor
    · intro _ ranOut
      obtain ⟨undecided, final, _⟩ := ending ranOut
      simp [undecided, final, counts ranOut]
    · rintro rfl
      rcases ends with judged | ⟨_, _, failed⟩
      · simp [judged]
      · cases failed

/-- The first rules stop a fetch. -/
theorem fetching_decides (url : String) :
    (@fetching Item crates transport url).Decides
      (fun outcome => (outcome.rules? crates).map some) id none where
  stopped := by
    intro last outcome value stops
    cases outcome with
    | blocked retryAfter => cases stops
    | refused =>
        obtain ⟨final, same⟩ := Option.ite_none_right_eq_some.mp stops
        cases same
        exact Or.inr ⟨rfl, final, rfl⟩
    | answered reply =>
        simp only [AttemptOutcome.rules?, classifyGetAttempt_document url]
        simp only [fetching] at stops
        generalize classifyGetAttempt crates url reply = attempted at stops
        cases attempted with
        | ok document =>
            obtain ⟨object, same⟩ := Option.ite_none_right_eq_some.mp stops
            cases same
            left
            rw [Option.filter_some, if_pos object]
            rfl
        | rateLimited seconds =>
            obtain ⟨final, same⟩ := Option.ite_none_right_eq_some.mp stops
            cases same
            exact Or.inr ⟨rfl, final, rfl⟩
        | retryable error =>
            obtain ⟨final, same⟩ := Option.ite_none_right_eq_some.mp stops
            cases same
            exact Or.inr ⟨rfl, final, rfl⟩
  continued := by
    intro last outcome stops
    cases outcome with
    | blocked retryAfter => rfl
    | refused => rfl
    | answered reply =>
        simp only [AttemptOutcome.rules?, classifyGetAttempt_document url]
        simp only [fetching] at stops
        generalize classifyGetAttempt crates url reply = attempted at stops
        cases attempted with
        | ok document =>
            have stray : ¬ document.isObject = true := by
              intro object
              exact Option.some_ne_none _ ((if_pos object).symm.trans stops)
            rw [Option.filter_some, if_neg stray]
            rfl
        | rateLimited seconds => rfl
        | retryable error => rfl
  exhausted := rfl

/-- The last round of a fetch, and what was counted. -/
theorem exists_last_fetched {result : Option Value}
    (run : (transport.getWithRetry crates label).Run trace result) :
    ∃ before outcome, ∃ last : Bool, outcomes trace = before ++ [outcome] ∧
      (∀ earlier ∈ before, earlier.rules? crates = none) ∧
      requestsFailed trace = before.countP (·.isStray crates) +
        (if outcome.isStray crates ||
          (last && !outcome.isBlocked && (outcome.rules? crates).isNone) then 1 else 0) ∧
      ((outcome.rules? crates).map some = some result ∨
        outcome.rules? crates = none ∧ last = true ∧ result = none) := by
  have rounds := getWithRetry_run.mp run
  obtain ⟨budget, attempts⟩ := exists_budget transport.config
  rw [attempts] at rounds
  obtain ⟨before, outcome, found, _, continued, performed, ends⟩ := rounds.exists_last
  generalize s!"{transport.config.endpoint}/api/v1/{label}" = url at *
  have decides : (@fetching Item crates transport url).Decides _ _ _ := fetching_decides url
  have counts := fun index last outcome =>
    @fetching_counts Item crates transport url index last outcome
  refine ⟨before, outcome, before.length == budget, found,
    fun earlier member => Option.map_eq_none_iff.mp (decides.continued (continued earlier member)),
    ?_, ?_⟩
  · have strays :
        requestsFailed ((@fetching Item crates transport url).continuing 0 before).flatten =
          before.countP (·.isStray crates) := by
      apply countP_continuing
      intro index outcome
      have counted := counts index false outcome
      rw [Bool.false_and, Bool.false_and, Bool.or_false] at counted
      exact counted
    rw [performed, requestsFailed_append, strays, counts]
  · rcases ends with stopped | ⟨continues, used, rfl⟩
    · rcases decides.stopped stopped with judged | ⟨none, final, failed⟩
      · exact Or.inl judged
      · exact Or.inr ⟨Option.map_eq_none_iff.mp none, final, failed⟩
    · exact Or.inr ⟨Option.map_eq_none_iff.mp (decides.continued continues),
        beq_iff_eq.mpr used, rfl⟩

/-- A fetch is counted as it should be when it counts no stray document, or one in place of
its end. -/
theorem getWithRetry_counted {result : Option Value}
    (run : (transport.getWithRetry crates label).Run trace result) :
    FetchCounted trace result ↔ FetchCounts crates (outcomes trace) := by
  obtain ⟨before, outcome, last, found, earlier, failed, ends⟩ := exists_last_fetched run
  have none : before.any (fun outcome => (outcome.rules? crates).isSome) = false := by
    rw [List.any_eq_false]
    intro other member
    rw [earlier other member]
    exact Bool.false_ne_true
  have blocked : outcome.isBlocked = true → outcome.isStray crates = false := by
    intro blocked
    cases outcome <;> first | rfl | cases blocked
  have total : (before ++ [outcome]).countP (·.isStray crates) =
      before.countP (·.isStray crates) + if outcome.isStray crates then 1 else 0 := by
    rw [List.countP_append, List.countP_singleton]
  simp only [FetchCounts, EndsUnblocked, found, total, List.any_append, none, Bool.false_or,
    List.any_cons, List.any_nil, Bool.or_false, List.getLast?_concat, Option.mem_some, forall_eq',
    FetchCounted, failed]
  rcases ends with judged | ⟨undecided, rfl, rfl⟩
  · obtain ⟨rules, fetched, rfl⟩ := Option.map_eq_some_iff.mp judged
    have straight : outcome.isStray crates = false := by
      obtain ⟨documented, object⟩ := Option.filter_eq_some_iff.mp fetched
      rw [AttemptOutcome.isStray, documented, Option.any_some, object]
      rfl
    simp [fetched, straight]
  · rw [undecided]
    cases stray : outcome.isStray crates <;> cases stopped : outcome.isBlocked
    · simp
    · simp
    · simp
    · rw [blocked stopped] at stray
      cases stray

/-- **When exhaustion is counted once.** A send whose attempts ran out is counted and reported
once exactly when its last attempt was not blocked by the limiter; a fetch is counted as it
should be exactly when `FetchCounts` holds of its outcomes. -/
theorem exhaustion_counted (crates : Crates) (transport : HttpTransport) (label : String)
    (body : Body Item) :
    (∀ trace result, (transport.sendWithRetry crates label body).Run trace result →
      (SendCounted crates trace result ↔
        (RanOut crates (outcomes trace) → EndsUnblocked (outcomes trace)))) ∧
    (∀ (trace : List (TransportEvent Item)) (result : Option Value),
      (transport.getWithRetry crates label).Run trace result →
        (FetchCounted trace result ↔ FetchCounts crates (outcomes trace))) :=
  ⟨fun _ _ => sendWithRetry_counted, fun _ _ => getWithRetry_counted⟩

/-- Surroundings in which the limiter blocks every attempt. -/
def blocking : (op : TransportOp ℕ) → op.Answer
  | .acquire => false
  | op => TransportOp.admitting (fun _ => .clientError "connection refused") op

/-- Surroundings in which every attempt receives this reply. -/
def replying (reply : HttpReply) : (op : TransportOp ℕ) → op.Answer
  | .get _ => reply
  | op => TransportOp.admitting (fun _ => reply) op

/-- A transport that tries as often. -/
def trying (retryAttempts : ℕ) : HttpTransport :=
  ⟨{ AgentConfig.new "test-api-key-1234" with retryAttempts := retryAttempts }, none⟩

/-- Crates that read a document that is not an object. -/
def listing : Crates :=
  { Crates.sample [] with
    fromSlice := fun bytes => if bytes = utf8 "[]" then some (.array []) else none }

/-- A send and a fetch that fail to connect. -/
theorem exhaustion_counted_disconnected :
    (∃ trace result, ((trying 1).sendWithRetry listing "events" ⟨[], [0]⟩).Run trace result ∧
      requestsFailed trace = 1 ∧ hooksFired trace = 1) ∧
    (∃ (trace : List (TransportEvent ℕ)) (result : Option Value),
      ((trying 1).getWithRetry listing "events").Run trace result ∧ requestsFailed trace = 1) := by
  obtain ⟨sends, fetches⟩ := @exhaustion_counted ℕ listing (trying 1) "events" ⟨[], [0]⟩
  constructor
  · obtain ⟨trace, result, run, checked⟩ := @exists_run _ _
      (fun _ => replying (.clientError "connection refused"))
      ((trying 1).sendWithRetry listing "events" ⟨[], [0]⟩)
      (fun trace result => result.verdict = .failed ∧ RanOut listing (outcomes trace) ∧
        EndsUnblocked (outcomes trace)) (by decide +kernel)
    obtain ⟨failed, ranOut, unblocked⟩ := of_decide_eq_true checked
    exact ⟨trace, result, run, ((sends trace result run).mpr fun _ => unblocked).1 failed ranOut⟩
  · obtain ⟨trace, result, run, checked⟩ := @exists_run _ _
      (fun _ => replying (.clientError "connection refused"))
      (@getWithRetry ℕ listing (trying 1) "events")
      (fun trace result => result = none ∧ FetchCounts listing (outcomes trace)) (by decide +kernel)
    obtain ⟨failed, counts⟩ := of_decide_eq_true checked
    exact ⟨trace, result, run, ((fetches trace result run).mpr counts).1 failed⟩

/-- The limiter blocks the last attempt of a send, and the rules fetched are `[]` twice: the one
is not counted and not reported, the other counted twice. -/
theorem exhaustion_miscounted :
    (∃ trace result, ((trying 0).sendWithRetry listing "events" ⟨[], [0]⟩).Run trace result ∧
      result.verdict = .failed ∧ RanOut listing (outcomes trace) ∧ requestsFailed trace = 0 ∧
      hooksFired trace = 0) ∧
    (∃ (trace : List (TransportEvent ℕ)) (result : Option Value),
      ((trying 1).getWithRetry listing "rules").Run trace result ∧ result = none ∧
      requestsFailed trace = 2) := by
  constructor
  · obtain ⟨trace, result, run, checked⟩ := @exists_run _ _ (fun _ => blocking)
      ((trying 0).sendWithRetry listing "events" ⟨[], [0]⟩)
      (fun trace result => result.verdict = .failed ∧ RanOut listing (outcomes trace) ∧
        requestsFailed trace = 0 ∧ hooksFired trace = 0) (by decide +kernel)
    exact ⟨trace, result, run, of_decide_eq_true checked⟩
  · obtain ⟨trace, result, run, checked⟩ := @exists_run _ _
      (fun _ => replying (.response 200 none (.ok "[]")))
      (@getWithRetry ℕ listing (trying 1) "rules")
      (fun trace result => result = none ∧ requestsFailed trace = 2) (by decide +kernel)
    exact ⟨trace, result, run, of_decide_eq_true checked⟩

end HttpTransport

end GuardAgent
