import GuardAgent.Transport.Exhaustion

/-!
# How the attempts of a call are spaced

Between two HTTP attempts a call sleeps once for the reply it received, and once more for
each attempt in between that the limiter or the breaker did not admit. A send always does;
a fetch does as long as no document that is not an object is followed by a further attempt
(`HttpTransport.retries_spaced`).
-/

namespace GuardAgent

open Foundation Program Retry

variable {Item : Type} {crates : Crates} {transport : HttpTransport}

/-- The reply of an HTTP attempt. -/
def reply? : TransportEvent Item → Option HttpReply
  | ⟨.post _, reply⟩ => some reply
  | ⟨.get _, reply⟩ => some reply
  | _ => none

def replies (trace : List (TransportEvent Item)) : List HttpReply :=
  trace.filterMap reply?

/-- The seconds the call sleeps. -/
def sleep? : TransportEvent Item → Option ℚ
  | ⟨.sleep seconds, _⟩ => some seconds
  | _ => none

def finiteNumber? (text : String) : Option ℚ :=
  match parseF64 (trim text) with
  | some (.finite number) => some number
  | _ => none

/-- The seconds a `Retry-After` header asks for. -/
def retryAfterSecs (header : Option String) : ℚ :=
  match header.bind fun text => finiteNumber? (takeChars 32 text) with
  | none => 60
  | some seconds => if seconds < 0 then 0 else seconds

namespace HttpTransport

variable (transport) in
/-- What is to be waited after a reply that does not end the call. -/
def delay (index : ℕ) (reply : HttpReply) : ℚ :=
  let backoff := min (transport.config.backoffFactor * 2 ^ index) 60
  match reply with
  | .clientError _ => backoff
  | .response _ _ (.error _) => backoff
  | .response status retryAfter (.ok _) =>
      if status = 429 then min (retryAfterSecs retryAfter) 300 else backoff

variable (transport) in
/-- What is to be waited after an attempt that does not end the call. -/
def wait (index : ℕ) : AttemptOutcome → ℚ
  | .blocked retryAfter => retryAfter
  | .refused => min (transport.config.backoffFactor * 2 ^ index) 60
  | .answered reply => transport.delay index reply

variable (transport) in
/-- Between two consecutive HTTP attempts the call sleeps for the reply to the first, and then
for the attempts in between that were blocked or refused. -/
def Spaced (trace : List (TransportEvent Item)) : Prop :=
  ∀ before first between second after reply next,
    trace = before ++ first :: between ++ second :: after →
    reply? first = some reply → reply? second = some next →
    (∀ event ∈ between, reply? event = none) →
    between.filterMap sleep? = transport.delay (outcomes before).length reply ::
      (outcomes between).mapIdx fun round outcome =>
        transport.wait ((outcomes before).length + 1 + round) outcome

/-- The header is read as its seconds, up to its largest length. -/
theorem parseRetryAfterSeconds_eq (header : Option String) :
    parseRetryAfterSeconds (header.map (takeChars retryAfterHeaderMaxLen)) defaultRetryAfterSecs =
      retryAfterSecs header := by
  cases header with
  | none => rfl
  | some text =>
      simp only [parseRetryAfterSeconds, retryAfterSecs, retryAfterHeaderMaxLen, finiteNumber?,
        Option.map_some, Option.bind_some]
      cases parseF64 (trim (takeChars 32 text)) with
      | none => rfl
      | some number =>
          cases number with
          | finite seconds =>
              dsimp only
              split_ifs with negative
              · exact max_eq_right negative.le
              · exact max_eq_left (not_lt.mp negative)
          | nan => rfl
          | infinite sign => rfl

section Sending

variable {label : String} {body : Body Item}

variable (transport) in
/-- How long a send sleeps after an attempt with this result. -/
def sendDelay? (index : ℕ) : AttemptResult → Option ℚ
  | .rateLimited seconds => some (min seconds maxRetryAfterSecs)
  | .retryable _ => some (transport.backoff index)
  | _ => none

/-- The delay after a response is the one that its status and header ask for. -/
theorem classifyResponse_delay {index status : ℕ} {retryAfter : Option String}
    {bodyText url : String} {delay : ℚ}
    (sleeps : transport.sendDelay? index (classifyResponse crates status bodyText url
      (retryAfter.map (takeChars retryAfterHeaderMaxLen))) = some delay) :
    transport.delay index (.response status retryAfter (.ok bodyText)) = delay := by
  simp only [HttpTransport.delay]
  rw [classifyResponse] at sleeps
  by_cases limited : status = 429
  · rw [if_pos limited, ← parseRetryAfterSeconds_eq]
    rw [if_neg (by omega), if_neg (by omega), if_pos limited] at sleeps
    exact Option.some.inj sleeps
  · rw [if_neg limited]
    rw [if_neg limited] at sleeps
    split_ifs at sleeps with ok
    · rw [parseAck] at sleeps
      cases parsed : crates.parseAck bodyText with
      | none =>
          rw [parsed] at sleeps
          exact Option.some.inj sleeps
      | some ack =>
          rw [parsed] at sleeps
          dsimp only at sleeps
          split_ifs at sleeps <;> cases sleeps
    all_goals first | exact Option.some.inj sleeps | cases sleeps

/-- The delay after a send attempt is the one that its reply asks for. -/
theorem classifyAttempt_delay {index : ℕ} {url : String} {reply : HttpReply} {delay : ℚ}
    (sleeps : transport.sendDelay? index (classifyAttempt crates url reply) = some delay) :
    transport.delay index reply = delay := by
  cases reply with
  | clientError message => exact Option.some.inj sleeps
  | response status retryAfter body =>
      cases body with
      | error message => exact Option.some.inj sleeps
      | ok bodyText => exact classifyResponse_delay sleeps

/-- A send that goes on sleeps. -/
theorem sendSettles_sleeps {index : ℕ} {attempted : AttemptResult}
    (continues : sendStops crates label false attempted = none) :
    ∃ delay, transport.sendDelay? index attempted = some delay ∧
      (@sendSettles Item transport index false attempted).filterMap sleep? = [delay] := by
  cases attempted with
  | rateLimited seconds => exact ⟨_, rfl, rfl⟩
  | retryable error => exact ⟨_, rfl, rfl⟩
  | _ => cases continues

/-- A round of a send that goes on waits once. -/
theorem sending_waits {index : ℕ} {outcome : AttemptOutcome}
    (continues : (transport.sending crates label body).stops false outcome = none) :
    ((transport.sending crates label body).events index false outcome).filterMap sleep? =
      [transport.wait index outcome] := by
  cases outcome with
  | blocked retryAfter => rfl
  | refused => rfl
  | answered reply =>
      obtain ⟨delay, sleeps, slept⟩ := @sendSettles_sleeps Item _ transport _ index _ continues
      have posting : (transport.postEvents crates label body reply).filterMap sleep? = [] := by
        cases reply <;> rfl
      simp only [sending, List.filterMap_append, posting, slept, wait, classifyAttempt_delay sleeps,
        List.nil_append]

/-- A round of a send shows its outcome, and sleeps after it. -/
theorem sending_shows : (transport.sending crates label body).Shows outcome? sleep? where
  once := sending_outcomes crates transport label body
  first := by
    intro index last outcome
    cases outcome with
    | blocked retryAfter => exact ⟨[⟨.acquire, false⟩], _, _, rfl, rfl, rfl⟩
    | refused => exact ⟨[⟨.acquire, true⟩], _, _, rfl, rfl, rfl⟩
    | answered reply =>
        exact ⟨[⟨.acquire, true⟩, ⟨.breakerAdmit, true⟩, ⟨.countBytes _, ()⟩], _, _, rfl, rfl, rfl⟩

end Sending

section Fetching

variable {url : String}

variable (transport) in
/-- How long a fetch sleeps after an attempt with this result. -/
def fetchDelay? (index : ℕ) : GetAttempt → Option ℚ
  | .rateLimited seconds => some (min seconds maxRetryAfterSecs)
  | .retryable _ => some (transport.backoff index)
  | .ok _ => none

/-- The delay after a fetch attempt is the one that its reply asks for. -/
theorem classifyGetAttempt_delay {index : ℕ} {reply : HttpReply} {delay : ℚ}
    (sleeps : transport.fetchDelay? index (classifyGetAttempt crates url reply) = some delay) :
    transport.delay index reply = delay := by
  match reply with
  | .clientError message => exact Option.some.inj sleeps
  | .response status retryAfter (.error message) => exact Option.some.inj sleeps
  | .response status retryAfter (.ok bodyText) =>
      simp only [HttpTransport.delay]
      rw [classifyGetAttempt] at sleeps
      by_cases limited : status = 429
      · rw [if_pos limited, ← parseRetryAfterSeconds_eq]
        rw [if_neg (by omega), if_pos limited] at sleeps
        exact Option.some.inj sleeps
      · rw [if_neg limited]
        rw [if_neg limited] at sleeps
        split_ifs at sleeps with ok
        · cases read : crates.fromSlice (utf8 bodyText) with
          | none =>
              rw [read] at sleeps
              exact Option.some.inj sleeps
          | some value =>
              rw [read] at sleeps
              cases sleeps
        · exact Option.some.inj sleeps

/-- A fetch that goes on sleeps, unless it received a stray document. -/
theorem fetching_sleeps {index : ℕ} {reply : HttpReply}
    (continues : (@fetching Item crates transport url).stops false (.answered reply) = none) :
    ((@fetching Item crates transport url).events index false (.answered reply)).filterMap sleep? =
      if (AttemptOutcome.answered reply).isStray crates then []
      else [transport.delay index reply] := by
  simp only [AttemptOutcome.isStray, classifyGetAttempt_document url]
  simp only [fetching] at continues
  simp only [fetching, List.filterMap_append]
  cases attempted : classifyGetAttempt crates url reply with
  | ok value =>
      rw [attempted] at continues
      have stray : value.isObject = false := by
        by_contra object
        rw [Bool.not_eq_false] at object
        exact Option.some_ne_none _ ((if_pos object).symm.trans continues)
      simp only [fetchSettles, Option.any_some, stray]
      rfl
  | rateLimited seconds =>
      have sleeps := congrArg (transport.fetchDelay? index) attempted
      rw [classifyGetAttempt_delay sleeps]
      rfl
  | retryable error =>
      have sleeps := congrArg (transport.fetchDelay? index) attempted
      rw [classifyGetAttempt_delay sleeps]
      rfl

/-- A round of a fetch shows its outcome, and sleeps after it. -/
theorem fetching_shows : (@fetching Item crates transport url).Shows outcome? sleep? where
  once := fetching_outcomes crates transport url
  first := by
    intro index last outcome
    cases outcome with
    | blocked retryAfter => exact ⟨[⟨.acquire, false⟩], _, _, rfl, rfl, rfl⟩
    | refused => exact ⟨[⟨.acquire, true⟩], _, _, rfl, rfl, rfl⟩
    | answered reply => exact ⟨[⟨.acquire, true⟩, ⟨.breakerAdmit, true⟩], _, _, rfl, rfl, rfl⟩

end Fetching

/-- A reply is the outcome of an attempt, and no sleep. -/
theorem outcome?_of_reply? {event : TransportEvent Item} {reply : HttpReply}
    (replied : reply? event = some reply) :
    outcome? event = some (.answered reply) ∧ sleep? event = none := by
  obtain ⟨op, answer⟩ := event
  cases op <;> cases replied <;> exact ⟨rfl, rfl⟩

/-- Without an HTTP attempt all attempts were blocked or refused. -/
theorem unanswered {between : List (TransportEvent Item)}
    (silent : ∀ event ∈ between, reply? event = none) :
    ∀ outcome ∈ outcomes between, ∀ reply, outcome ≠ .answered reply := by
  rintro outcome member reply rfl
  obtain ⟨event, performed, shown⟩ := List.mem_filterMap.mp member
  have none := silent event performed
  obtain ⟨op, answer⟩ := event
  cases op with
  | breakerAdmit => cases answer <;> cases shown
  | post request => cases none
  | get url => cases none
  | _ => cases shown

variable (transport) in
/-- Between two HTTP attempts a loop sleeps as it does for the reply to the first, and then for
the attempts in between. -/
theorem slept_between {Value : Type} {loop : Retry AttemptOutcome (TransportEvent Item) Value}
    (shows : loop.Shows outcome? sleep?)
    (blocks : ∀ index retryAfter, loop.events index false (.blocked retryAfter) =
      blockedEvents retryAfter)
    (refuses : ∀ index, loop.events index false .refused =
      [⟨.acquire, true⟩, ⟨.breakerAdmit, false⟩, ⟨.sleep (transport.backoff index), ()⟩])
    {budget : ℕ} {found : List AttemptOutcome} {value : Value}
    {before between after : List (TransportEvent Item)} {first second : TransportEvent Item}
    {reply next : HttpReply}
    (rounds : loop.Rounds 0 budget found (before ++ first :: between ++ second :: after) value)
    (replied : reply? first = some reply) (again : reply? second = some next)
    (silent : ∀ event ∈ between, reply? event = none) :
    between.filterMap sleep? =
        (loop.events (outcomes before).length false (.answered reply)).filterMap sleep? ++
          (outcomes between).mapIdx (fun round outcome =>
            transport.wait ((outcomes before).length + 1 + round) outcome) ∧
      loop.stops false (.answered reply) = none := by
  obtain ⟨shown, awake⟩ := outcome?_of_reply? replied
  obtain ⟨slept, continued⟩ :=
    rounds.paused_between shows shown (outcome?_of_reply? again).1 awake
  have waits : ∀ outcome ∈ outcomes between, ∀ index,
      (loop.events index false outcome).filterMap sleep? = [transport.wait index outcome] := by
    intro outcome member index
    cases outcome with
    | blocked retryAfter =>
        rw [blocks]
        rfl
    | refused =>
        rw [refuses]
        rfl
    | answered reply => exact absurd rfl (unanswered silent _ member reply)
  rw [Nat.zero_add] at slept
  exact ⟨slept.trans (congrArg _ (filterMap_continuing waits _)), continued⟩

/-- The attempts of a send are spaced. -/
theorem sendWithRetry_spaced {label : String} {body : Body Item}
    {trace : List (TransportEvent Item)} {result : SendResult}
    (run : (transport.sendWithRetry crates label body).Run trace result) :
    transport.Spaced trace := by
  intro before first between second after reply next split replied again silent
  obtain ⟨looped, same, rounds⟩ := sendWithRetry_run.mp run
  rw [split] at rounds same
  -- The report of the send is not an HTTP attempt.
  obtain ⟨closing, rfl⟩ : ∃ closing, looped = before ++ first :: between ++ second :: closing := by
    rcases split_append same.symm with found | ⟨later, _, reported⟩
    · exact found
    · cases later with
      | nil =>
          obtain ⟨rfl, _⟩ := List.cons.inj reported
          cases again
      | cons _ later => exact absurd (List.cons.inj reported).2 (by simp)
  obtain ⟨slept, continued⟩ := slept_between transport sending_shows
    (fun _ _ => rfl) (fun _ => rfl) rounds replied again silent
  rw [slept, sending_waits continued]
  rfl

/-- Between two attempts of a fetch the first reply is waited for, unless it was a stray document,
and then each blocked round. -/
theorem getWithRetry_slept {label : String} {before between after : List (TransportEvent Item)}
    {first second : TransportEvent Item} {reply next : HttpReply} {result : Option Value}
    (run : (transport.getWithRetry crates label).Run
      (before ++ first :: between ++ second :: after) result)
    (replied : reply? first = some reply) (again : reply? second = some next)
    (silent : ∀ event ∈ between, reply? event = none) :
    between.filterMap sleep? =
      (if (AttemptOutcome.answered reply).isStray crates then []
        else [transport.delay (outcomes before).length reply]) ++
        (outcomes between).mapIdx fun round outcome =>
          transport.wait ((outcomes before).length + 1 + round) outcome := by
  obtain ⟨slept, continued⟩ := slept_between transport fetching_shows
    (fun _ _ => rfl) (fun _ => rfl) (getWithRetry_run.mp run) replied again silent
  rw [slept, fetching_sleeps continued]

/-- A reply before the last one has a next one. -/
theorem exists_next {list : List HttpReply} {reply : HttpReply} (member : reply ∈ list.dropLast) :
    ∃ earlier next later, list = earlier ++ reply :: next :: later := by
  obtain ⟨earlier, later, same⟩ := List.mem_iff_append.mp member
  have nonempty : list ≠ [] := by
    rintro rfl
    cases member
  have whole := List.dropLast_concat_getLast nonempty
  rw [same, List.append_assoc] at whole
  cases later with
  | nil => exact ⟨earlier, _, [], whole.symm⟩
  | cons next later => exact ⟨earlier, next, later ++ [list.getLast nonempty], whole.symm⟩

/-- A fetch is spaced as long as it makes no attempt after a stray document. -/
theorem getWithRetry_spaced {label : String} {trace : List (TransportEvent Item)}
    {result : Option Value} (run : (transport.getWithRetry crates label).Run trace result) :
    transport.Spaced trace ↔
      ∀ reply ∈ (replies trace).dropLast,
        (AttemptOutcome.answered reply).isStray crates = false := by
  constructor
  · intro spaced reply member
    obtain ⟨earlier, next, later, same⟩ := exists_next member
    obtain ⟨before, rest, rfl, _, found⟩ := List.filterMap_eq_append_iff.mp same
    obtain ⟨silence, first, following, rfl, _, replied, more⟩ := List.filterMap_eq_cons_iff.mp found
    obtain ⟨between, second, after, rfl, silent, again, _⟩ := List.filterMap_eq_cons_iff.mp more
    have split : before ++ (silence ++ first :: (between ++ second :: after)) =
        (before ++ silence) ++ first :: between ++ second :: after := by
      rw [List.append_assoc, List.append_assoc, List.cons_append]
    rw [split] at run
    by_contra stray
    have slept := getWithRetry_slept run replied again silent
    rw [spaced _ _ _ _ _ _ _ split replied again silent, if_pos (by simpa using stray)] at slept
    simpa using congrArg List.length slept
  · intro straight before first between second after reply next split replied again silent
    subst split
    have shown : replies (before ++ first :: between ++ second :: after) =
        replies before ++ reply :: next :: replies after := by
      rw [replies, List.filterMap_append, List.filterMap_append, List.filterMap_cons_some replied,
        List.filterMap_cons_some again, List.filterMap_eq_nil_iff.mpr silent, List.append_assoc]
      rfl
    have here := straight reply (by rw [shown, List.dropLast_append_cons]; simp)
    rw [getWithRetry_slept run replied again silent, here]
    rfl

/-- **Retries are spaced.** The HTTP attempts of a send are; those of a fetch are exactly when no
document that is not an object is followed by another attempt. -/
theorem retries_spaced (crates : Crates) (transport : HttpTransport) (label : String)
    (body : Body Item) :
    (∀ trace result, (transport.sendWithRetry crates label body).Run trace result →
      transport.Spaced trace) ∧
    (∀ (trace : List (TransportEvent Item)) (result : Option Value),
      (transport.getWithRetry crates label).Run trace result →
        (transport.Spaced trace ↔ ∀ reply ∈ (replies trace).dropLast,
          (AttemptOutcome.answered reply).isStray crates = false)) :=
  ⟨fun _ _ => sendWithRetry_spaced, fun _ _ => getWithRetry_spaced⟩

/-- A send and a fetch that fail to connect twice. -/
theorem retries_spaced_disconnected :
    (∃ trace result, ((trying 1).sendWithRetry listing "events" ⟨[], [0]⟩).Run trace result ∧
      (replies trace).length = 2 ∧ (trying 1).Spaced trace) ∧
    (∃ (trace : List (TransportEvent ℕ)) (result : Option Value),
      ((trying 1).getWithRetry listing "rules").Run trace result ∧
      (replies trace).length = 2 ∧ (trying 1).Spaced trace) := by
  obtain ⟨sends, _⟩ := @retries_spaced ℕ listing (trying 1) "events" ⟨[], [0]⟩
  obtain ⟨_, fetches⟩ := @retries_spaced ℕ listing (trying 1) "rules" ⟨[], [0]⟩
  constructor
  · obtain ⟨trace, result, run, checked⟩ := @exists_run _ _
      (fun _ => replying (.clientError "connection refused"))
      ((trying 1).sendWithRetry listing "events" ⟨[], [0]⟩)
      (fun trace _ => (replies trace).length = 2) (by decide +kernel)
    exact ⟨trace, result, run, of_decide_eq_true checked, sends trace result run⟩
  · obtain ⟨trace, result, run, checked⟩ := @exists_run _ _
      (fun _ => replying (.clientError "connection refused"))
      (@getWithRetry ℕ listing (trying 1) "rules")
      (fun trace _ => (replies trace).length = 2 ∧ ∀ reply ∈ (replies trace).dropLast,
        (AttemptOutcome.answered reply).isStray listing = false) (by decide +kernel)
    obtain ⟨twice, straight⟩ := of_decide_eq_true checked
    exact ⟨trace, result, run, twice, (fetches trace result run).mpr straight⟩

/-- The rules fetched are `[]`, and they are fetched again without a sleep. -/
theorem retries_unspaced :
    ∃ (trace : List (TransportEvent ℕ)) (result : Option Value),
      ((trying 1).getWithRetry listing "rules").Run trace result ∧ (replies trace).length = 2 ∧
      trace.filterMap sleep? = [] ∧ ¬ (trying 1).Spaced trace := by
  obtain ⟨trace, result, run, checked⟩ := @exists_run _ _
    (fun _ => replying (.response 200 none (.ok "[]")))
    (@getWithRetry ℕ listing (trying 1) "rules")
    (fun trace _ => (replies trace).length = 2 ∧ trace.filterMap sleep? = [] ∧
      ¬ ∀ reply ∈ (replies trace).dropLast,
        (AttemptOutcome.answered reply).isStray listing = false) (by decide +kernel)
  obtain ⟨twice, awake, stray⟩ := of_decide_eq_true checked
  exact ⟨trace, result, run, twice, awake, fun spaced =>
    stray ((getWithRetry_spaced run).mp spaced)⟩

end HttpTransport

end GuardAgent
