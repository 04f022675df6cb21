import GuardAgent.Foundation.Weight
import GuardAgent.Transport.Spacing
import GuardAgent.Transport.Traffic

/-!
# What the calls of a transport cost, and what is counted of it

A batch is posted no more often than its halving and the retries allow, and the send sleeps no
longer than the limiter asks and five minutes for each retry (`HttpTransport.sendBatch_budget`).
The counters of the transport agree with what was on the wire whenever no call is in progress
(`Client.counters_agree`).
-/

namespace GuardAgent

open Foundation Program Retry

variable {Item : Type}

/-- An operation beside the attempts: nothing is sent, slept or counted. -/
def TransportOp.isAside : TransportOp Item → Bool
  | .fireHook _ _ => true
  | .generateBatchId => true
  | .utcNow => true
  | .randBytes => true
  | .sent _ => true
  | _ => false

def postWeight : TransportEvent Item → ℚ
  | ⟨.post _, _⟩ => 1
  | _ => 0

/-- Sleeping beyond what the limiter asked for. -/
def sleepWeight : TransportEvent Item → ℚ
  | ⟨.sleep seconds, _⟩ => seconds
  | ⟨.retryAfter, (seconds : ℚ)⟩ => -seconds
  | _ => 0

def countedBytes : TransportEvent Item → ℕ
  | ⟨.countBytes count, _⟩ => count
  | _ => 0

def postedBytes : TransportEvent Item → ℕ
  | ⟨.post request, _⟩ => request.wireBody.length
  | _ => 0

def countedRequests : TransportEvent Item → ℕ
  | ⟨.countRequestSent, _⟩ => 1
  | _ => 0

/-- A post with a response, or a fetch of the document it returns. -/
def answeredRequests (crates : Crates) : TransportEvent Item → ℕ
  | ⟨.post _, .response _ _ _⟩ => 1
  | ⟨.get _, reply⟩ => if ((AttemptOutcome.answered reply).rules? crates).isSome then 1 else 0
  | _ => 0

/-- The lifetime counter `bytes_sent`. -/
def bytesSent (trace : List (TransportEvent Item)) : ℕ := (trace.map countedBytes).sum

/-- The bytes of all bodies that were posted. -/
def bytesPosted (trace : List (TransportEvent Item)) : ℕ := (trace.map postedBytes).sum

/-- The lifetime counter `requests_sent`. -/
def requestsSent (trace : List (TransportEvent Item)) : ℕ := (trace.map countedRequests).sum

def requestsAnswered (crates : Crates) (trace : List (TransportEvent Item)) : ℕ :=
  (trace.map (answeredRequests crates)).sum

/-- Bytes that were counted and not posted. -/
def bytesWeight (event : TransportEvent Item) : ℚ := countedBytes event - postedBytes event

/-- Requests that were counted and not answered. -/
def sentWeight (crates : Crates) (event : TransportEvent Item) : ℚ :=
  countedRequests event - answeredRequests crates event

namespace HttpTransport

variable {crates : Crates} {transport : HttpTransport} {render : Item → Value}
  {weight : TransportEvent Item → ℚ} {early final : ℚ}

/-- The calls of `send_with_retry` that a batch takes at most. -/
def sendLimit (transport : HttpTransport) (batch : BatchItems Item) : ℕ :=
  if transport.encryptor.isSome then 1 else max (2 * batch.items.length - 1) 1

/-- A retry loop costs what its rounds cost. -/
theorem retryLoop_atMost (early_nonneg : 0 ≤ early) (final_nonneg : 0 ≤ final) {label : String}
    {body : Body Item} (round : ∀ index last outcome,
      weigh weight ((transport.sending crates label body).events index last outcome) ≤
        if last then final else early) (index budget : ℕ) :
    (transport.retryLoop crates label body index budget).AtMost weight
      ((budget - 1 : ℕ) * early + final) := by
  intro trace result run
  obtain ⟨_, rounds⟩ := retryLoop_run.mp run
  exact rounds.weigh_le early_nonneg final_nonneg round

/-- A fetch weighs at most what its rounds weigh, the last one apart. -/
theorem getWithRetry_atMost (early_nonneg : 0 ≤ early) (final_nonneg : 0 ≤ final) (label : String)
    (round : ∀ url index last outcome,
      weigh weight ((@fetching Item crates transport url).events index last outcome) ≤
        if last then final else early) :
    (@getWithRetry Item crates transport label).AtMost weight
      ((transport.config.totalAttempts - 1 : ℕ) * early + final) := by
  intro trace result run
  exact (getWithRetry_run.mp run).weigh_le early_nonneg final_nonneg (round _)

section Sending

variable (light : ∀ op : TransportOp Item, op.isAside = true → ∀ answer, weight ⟨op, answer⟩ = 0)
  (early_nonneg : 0 ≤ early) (final_nonneg : 0 ≤ final)
include light early_nonneg final_nonneg

/-- A call of `send_with_retry` weighs at most what its rounds weigh, the last one apart. -/
theorem sendWithRetry_atMost {label : String} {body : Body Item}
    (round : ∀ index last outcome,
      weigh weight ((transport.sending crates label body).events index last outcome) ≤
        if last then final else early) :
    (transport.sendWithRetry crates label body).AtMost weight
      ((transport.config.totalAttempts - 1 : ℕ) * early + final) := by
  refine (AtMost.bind (retryLoop_atMost early_nonneg final_nonneg round 0 _) fun _ => ?_).mono
    (add_zero _).le
  exact .call (light _ rfl) fun _ => atMost_done le_rfl

/-- **A batch costs what its calls of `send_with_retry` cost.** The induction is on the number of
items. -/
theorem sendBatch_atMost (batch : BatchItems Item)
    (round : ∀ label body index last outcome,
      weigh weight ((@sending Item crates transport label body).events index last outcome) ≤
        if last then final else early) :
    (transport.sendBatch crates render batch).AtMost weight
      (transport.sendLimit batch *
        ((transport.config.totalAttempts - 1 : ℕ) * early + final)) := by
  have sends (label : String) (body : Body Item) := sendWithRetry_atMost light early_nonneg
    final_nonneg (round label body)
  have unit_nonneg : 0 ≤ (transport.config.totalAttempts - 1 : ℕ) * early + final := by positivity
  generalize (transport.config.totalAttempts - 1 : ℕ) * early + final = unit at sends unit_nonneg ⊢
  have report (error : GuardAgentError) (outcome : SendOutcome) : (do
      perform (.fireHook .transportSend error)
      return outcome : TransportProgram Item SendOutcome).AtMost weight 0 :=
    .call (light _ rfl) fun _ => atMost_done le_rfl
  induction size : batch.items.length using Nat.strong_induction_on generalizing batch with
  | _ count ih =>
      unfold sendBatch
      cases encrypts : transport.encryptor with
      | some encryptor =>
          have one : transport.sendLimit batch = 1 := by
            rw [sendLimit, encrypts]
            rfl
          rw [one, Nat.cast_one, one_mul]
          refine .call (light .randBytes rfl) fun nonce => ?_
          dsimp only
          split
          · exact .call (light (.fireHook _ _) rfl) fun _ => atMost_done unit_nonneg
          · refine .call (light .generateBatchId rfl) fun batchId => ?_
            refine (AtMost.bind (sends _ _) fun result => ?_).mono (add_zero unit).le
            match result with
            | .ok .accepted => exact atMost_done le_rfl
            | .ok (.permanentDrop statusCode detail) => exact report _ _
            | .ok (.failed error) => exact atMost_done le_rfl
            | .error tooLarge => exact report _ _
      | none =>
          have limit (batch : BatchItems Item) :
              transport.sendLimit batch = max (2 * batch.items.length - 1) 1 := by
            rw [sendLimit, encrypts]
            rfl
          have built : (buildBatchBody crates transport render batch).AtMost weight 0 :=
            .call (light .generateBatchId rfl) fun _ =>
              .call (light .utcNow rfl) fun _ => atMost_done le_rfl
          have others_nonneg : 0 ≤ (transport.sendLimit batch - 1 : ℕ) * unit := by positivity
          have whole : 0 + (unit + (transport.sendLimit batch - 1 : ℕ) * unit) =
              transport.sendLimit batch * unit := by
            have positive : 1 ≤ transport.sendLimit batch := by
              rw [limit]
              exact le_max_right _ _
            rw [Nat.cast_sub positive]
            ring
          rw [← whole]
          refine built.bind fun body => (sends _ _).bind fun result => ?_
          match result with
          | .ok .accepted => exact atMost_done others_nonneg
          | .ok (.permanentDrop statusCode detail) => exact (report _ _).mono others_nonneg
          | .ok (.failed error) => exact atMost_done others_nonneg
          | .error tooLarge =>
              change (splitOrDrop crates transport render batch tooLarge.detail).AtMost _ _
              unfold splitOrDrop
              by_cases single : batch.items.length ≤ 1
              · rw [if_pos single]
                exact (report _ _).mono others_nonneg
              · -- The halves have one send less than the whole batch.
                have left : batch.split.1.items.length = batch.items.length / 2 := by
                  simp only [BatchItems.split, List.length_take]
                  omega
                have right : batch.split.2.items.length =
                    batch.items.length - batch.items.length / 2 := List.length_drop
                have halves : (transport.sendLimit batch.split.1 : ℚ) * unit +
                    transport.sendLimit batch.split.2 * unit =
                    (transport.sendLimit batch - 1 : ℕ) * unit := by
                  rw [← add_mul, ← Nat.cast_add]
                  congr 2
                  simp only [limit, left, right]
                  omega
                rw [if_neg single, ← halves]
                refine (ih _ (by omega) batch.split.1 rfl).bind fun leftOutcome => ?_
                split
                · exact ih _ (by omega) batch.split.2 rfl
                · exact atMost_done (by positivity)

end Sending

section Rounds

variable {label : String} {body : Body Item} {url : String} {index : ℕ} {last : Bool}
  (outcome : AttemptOutcome)

/-- A round posts at most once. -/
theorem post_round :
    weigh postWeight ((transport.sending crates label body).events index last outcome) ≤
      if last then 1 else 1 := by
  rw [ite_self]
  cases outcome with
  | blocked retryAfter => cases last <;> norm_num [sending, blockedEvents, postWeight]
  | refused => cases last <;> norm_num [sending, pause, gaveUp, postWeight]
  | answered reply =>
      have posted : weigh postWeight (transport.postEvents crates label body reply) = 1 := by
        cases reply <;> norm_num [postEvents, postWeight]
      simp only [sending, weigh_append, posted]
      generalize classifyAttempt crates (transport.request crates label body).url reply = attempted
      cases attempted <;> cases last <;>
        norm_num [sendSettles, pause, gaveUp, postWeight]

/-- The backoff is at most five minutes. -/
theorem backoff_le (index : ℕ) : transport.backoff index ≤ 300 :=
  (min_le_right _ _).trans (by norm_num [maxRetryBackoffSecs])

/-- A round sleeps five minutes at most, apart from what the limiter asks for, and not in the end.
-/
theorem sleep_round :
    weigh sleepWeight ((transport.sending crates label body).events index last outcome) ≤
      if last then 0 else 300 := by
  have backoff := transport.backoff_le index
  cases outcome with
  | blocked retryAfter => cases last <;> norm_num [sending, blockedEvents, sleepWeight]
  | refused =>
      cases last with
      | true => norm_num [sending, pause, gaveUp, sleepWeight]
      | false =>
          norm_num [sending, pause, gaveUp, sleepWeight]
          exact backoff
  | answered reply =>
      have posted : weigh sleepWeight (transport.postEvents crates label body reply) = 0 := by
        cases reply <;> norm_num [postEvents, sleepWeight]
      simp only [sending, weigh_append, posted, zero_add]
      generalize classifyAttempt crates (transport.request crates label body).url reply = attempted
      cases last with
      | true => cases attempted <;> norm_num [sendSettles, pause, gaveUp, sleepWeight]
      | false =>
          cases attempted with
          | rateLimited seconds =>
              norm_num [sendSettles, pause, sleepWeight, maxRetryAfterSecs]
          | retryable error =>
              norm_num [sendSettles, pause, sleepWeight]
              exact backoff
          | _ => norm_num [sendSettles, sleepWeight]

end Rounds

end HttpTransport

/-- How long the limiter asks a caller to wait. -/
def wait? : TransportEvent Item → Option ℚ
  | ⟨.retryAfter, seconds⟩ => some seconds
  | _ => none

/-- The weight of a trace is the number of its requests. -/
theorem weigh_postWeight (trace : List (TransportEvent Item)) :
    weigh postWeight trace = (exchanges trace).length := by
  induction trace with
  | nil => rfl
  | cons event trace ih =>
      obtain ⟨op, answer⟩ := event
      rw [weigh_cons, ih]
      cases op with
      | post request =>
          change 1 + _ = (((exchanges trace).length + 1 : ℕ) : ℚ)
          push_cast
          ring
      | _ => exact zero_add _

/-- The weight of a trace is the time it sleeps, without what the limiter asks for. -/
theorem weigh_sleepWeight (trace : List (TransportEvent Item)) :
    weigh sleepWeight trace = (trace.filterMap sleep?).sum - (trace.filterMap wait?).sum := by
  induction trace with
  | nil => exact (sub_self 0).symm
  | cons event trace ih =>
      obtain ⟨op, answer⟩ := event
      rw [weigh_cons, ih]
      cases op with
      | sleep seconds =>
          simp only [List.filterMap_cons, sleep?, wait?, sleepWeight, List.sum_cons]
          ring
      | retryAfter =>
          have shifted (seconds slept waited : ℚ) :
              -seconds + (slept - waited) = slept - (seconds + waited) := by ring
          exact shifted answer _ _
      | _ => exact zero_add _

namespace HttpTransport

/-- **A batch has a budget.** Whatever the server, the limiter and the breaker answer, a batch of
`n` items is posted at most `2n - 1` times for each attempt the retries allow, an encrypted batch
at most once for each; and the send sleeps at most as long as the limiter asks, and five minutes
for each retry. -/
theorem sendBatch_budget (crates : Crates) (transport : HttpTransport) (render : Item → Value)
    (batch : BatchItems Item) {trace : List (TransportEvent Item)} {outcome : SendOutcome}
    (run : (transport.sendBatch crates render batch).Run trace outcome) :
    (exchanges trace).length ≤ transport.sendLimit batch * transport.config.totalAttempts ∧
    (trace.filterMap sleep?).sum ≤ (trace.filterMap wait?).sum +
      transport.sendLimit batch * (transport.config.totalAttempts - 1 : ℕ) * 300 := by
  constructor
  · have posts := @sendBatch_atMost Item crates transport render postWeight 1 1
      (fun op aside _ => by cases op <;> first | rfl | cases aside) zero_le_one zero_le_one batch
      (fun _ _ _ _ outcome => post_round outcome) trace outcome run
    have attempts : transport.config.totalAttempts =
        transport.config.totalAttempts - 1 + 1 :=
      (Nat.sub_add_cancel (totalAttempts_pos transport.config)).symm
    dsimp only at posts
    rw [weigh_postWeight, mul_one, ← Nat.cast_succ, Nat.succ_eq_add_one, ← attempts] at posts
    exact_mod_cast posts
  · have sleeps := @sendBatch_atMost Item crates transport render sleepWeight 300 0
      (fun op aside _ => by cases op <;> first | rfl | cases aside) (by norm_num) le_rfl batch
      (fun _ _ _ _ outcome => sleep_round outcome) trace outcome run
    dsimp only at sleeps
    rw [weigh_sleepWeight, add_zero, ← mul_assoc] at sleeps
    linarith

/-- Three items, each too large with another: five posts, and each fails once before. -/
theorem sendBatch_budget_three :
    ∃ trace outcome, ((trying 1).sendBatch listing naturalDocument ⟨.events, [0, 1, 2]⟩).Run
      trace outcome ∧ (exchanges trace).length = 10 ∧
      (exchanges trace).length ≤ (trying 1).sendLimit (⟨.events, [0, 1, 2]⟩ : BatchItems ℕ) *
        (trying 1).config.totalAttempts ∧
      (trace.filterMap sleep?).sum ≤ (trace.filterMap wait?).sum +
        (trying 1).sendLimit (⟨.events, [0, 1, 2]⟩ : BatchItems ℕ) *
          ((trying 1).config.totalAttempts - 1 : ℕ) * 300 := by
  obtain ⟨trace, outcome, run, checked⟩ := @exists_run _ _
    (fun past => TransportOp.admitting fun request => if (exchanges past).length % 2 = 0
      then .clientError "connection refused"
      else .response (if 1 < request.carried.length then 413 else 201) none (.ok ""))
    ((trying 1).sendBatch listing naturalDocument ⟨.events, [0, 1, 2]⟩)
    (fun trace _ => (exchanges trace).length = 10) (by decide +kernel)
  exact ⟨trace, outcome, run, of_decide_eq_true checked,
    sendBatch_budget listing (trying 1) naturalDocument ⟨.events, [0, 1, 2]⟩ run⟩

end HttpTransport

/-- The operations that a counter may be about. -/
def TransportOp.isTallied : TransportOp Item → Bool
  | .post _ => true
  | .get _ => true
  | .countRequestSent => true
  | .countBytes _ => true
  | _ => false

/-- What is counted of an attempt weighs as much as the attempt, against it. -/
structure Even (crates : Crates) (weight : TransportEvent Item → ℚ) : Prop where
  untallied : ∀ event : TransportEvent Item, TransportOp.isTallied event.1 = false →
    weight event = 0
  posted : ∀ (transport : HttpTransport) label body reply,
    weigh weight (transport.postEvents crates label body reply) = 0
  fetched : ∀ (url : String) (reply : HttpReply), weight ⟨.get url, reply⟩ =
    match HttpTransport.classifyGetAttempt crates url reply with
    | .ok value => if value.isObject then -weight ⟨.countRequestSent, ()⟩ else 0
    | _ => 0

namespace Even

open HttpTransport

variable {crates : Crates} {transport : HttpTransport} {weight : TransportEvent Item → ℚ}

/-- What is neither an attempt nor counted weighs nothing. -/
theorem light (even : Even crates weight) (op : TransportOp Item) (aside : op.isAside = true)
    (answer : op.Answer) : weight ⟨op, answer⟩ = 0 :=
  even.untallied ⟨op, answer⟩ (by cases op <;> first | rfl | cases aside)

/-- The balance is kept when the signs are turned round. -/
theorem neg (even : Even crates weight) : Even crates fun event => -weight event where
  untallied event untallied := by rw [even.untallied event untallied, neg_zero]
  posted _ _ _ _ := by rw [weigh_neg, even.posted, neg_zero]
  fetched url reply := by
    rw [even.fetched]
    split
    · split <;> simp
    · exact neg_zero

/-- The bytes that are counted are those of the attempts. -/
theorem bytes (crates : Crates) : Even crates (@bytesWeight Item) where
  untallied event untallied := by
    obtain ⟨op, answer⟩ := event
    cases op <;> first | exact sub_self _ | cases untallied
  posted transport label body reply := by
    cases reply <;> norm_num [postEvents, bytesWeight, countedBytes, postedBytes]
  fetched url reply := by
    split
    · split <;> norm_num [bytesWeight, countedBytes, postedBytes]
    · norm_num [bytesWeight, countedBytes, postedBytes]

/-- The requests that are counted as sent are the attempts that were accepted. -/
theorem sent (crates : Crates) : Even crates (@sentWeight Item crates) where
  untallied event untallied := by
    obtain ⟨op, answer⟩ := event
    cases op <;> first | exact sub_self _ | cases untallied
  posted transport label body reply := by
    cases reply <;> norm_num [postEvents, sentWeight, countedRequests, answeredRequests]
  fetched url reply := by
    simp only [sentWeight, countedRequests, answeredRequests, AttemptOutcome.rules?,
      classifyGetAttempt_document url]
    cases classifyGetAttempt crates url reply with
    | ok value => cases object : value.isObject <;> simp [object]
    | _ => simp

/-- A trace without attempts and counts weighs nothing. -/
theorem weigh_eq_zero (even : Even crates weight) {trace : List (TransportEvent Item)}
    (untallied : ∀ event ∈ trace, TransportOp.isTallied event.1 = false) :
    weigh weight trace = 0 :=
  Foundation.weigh_eq_zero fun event member => even.untallied event (untallied event member)

/-- A round of a send weighs nothing. -/
theorem sending (even : Even crates weight) (label : String) (body : Body Item) (index : ℕ)
    (last : Bool) (outcome : AttemptOutcome) :
    weigh weight ((transport.sending crates label body).events index last outcome) = 0 := by
  cases outcome with
  | blocked retryAfter =>
      apply even.weigh_eq_zero
      simp [HttpTransport.sending, blockedEvents, TransportOp.isTallied]
  | refused =>
      apply even.weigh_eq_zero
      cases last <;> simp [HttpTransport.sending, pause, gaveUp, TransportOp.isTallied]
  | answered reply =>
      simp only [HttpTransport.sending, weigh_append, even.posted, zero_add]
      apply even.weigh_eq_zero
      generalize classifyAttempt crates (transport.request crates label body).url reply = attempted
      cases attempted <;> cases last <;>
        simp [sendSettles, pause, gaveUp, TransportOp.isTallied]

/-- A round of a fetch weighs nothing. -/
theorem fetching (even : Even crates weight) (url : String) (index : ℕ) (last : Bool)
    (outcome : AttemptOutcome) :
    weigh weight ((transport.fetching crates url).events index last outcome) = 0 := by
  cases outcome with
  | blocked retryAfter =>
      apply even.weigh_eq_zero
      simp [HttpTransport.fetching, blockedEvents, TransportOp.isTallied]
  | refused =>
      apply even.weigh_eq_zero
      cases last <;> simp [HttpTransport.fetching, pause, TransportOp.isTallied]
  | answered reply =>
      let admission : List (TransportEvent Item) := [⟨.acquire, true⟩, ⟨.breakerAdmit, true⟩]
      have admitted : weigh weight admission = 0 :=
        even.weigh_eq_zero (by simp [admission, TransportOp.isTallied])
      have split : (transport.fetching crates url).events index last (.answered reply) =
          admission ++ ⟨.get url, reply⟩ ::
            transport.fetchSettles index last (classifyGetAttempt crates url reply) := rfl
      rw [split, weigh_append, admitted, weigh_cons, even.fetched, zero_add]
      cases classifyGetAttempt crates url reply with
      | ok value =>
          have recorded := even.untallied ⟨.recordSuccess, ()⟩ rfl
          have stray := even.untallied ⟨.countRequestFailed, ()⟩ rfl
          cases object : value.isObject <;>
            simp only [fetchSettles, object, weigh_cons, weigh_nil, recorded, stray,
              Bool.false_eq_true, ↓reduceIte] <;> ring
      | _ =>
          rw [zero_add]
          apply even.weigh_eq_zero
          cases last <;> simp [fetchSettles, pause, TransportOp.isTallied]

end Even

namespace Client

variable {DynamicRules : Type} {client : Client Item DynamicRules}
  {weight : TransportEvent Item → ℚ}

/-- No call weighs more than nothing. -/
theorem program_atMost (even : Even client.crates weight) (call : TransportCall Item) :
    (client.program call).AtMost weight 0 := by
  have done : AtMost weight 0 (pure () : TransportProgram Item Unit) := atMost_done le_rfl
  have round {total : ℚ} (last : Bool) (same : total = 0) : total ≤ if last then 0 else 0 := by
    rw [ite_self, same]
  cases call with
  | sendBatch batch =>
      refine (AtMost.bind (HttpTransport.sendBatch_atMost even.light le_rfl le_rfl batch
        fun label body index last outcome =>
          round last (even.sending label body index last outcome)) fun _ => done).mono ?_
      simp
  | sendStatus status =>
      refine (AtMost.bind (AtMost.bind (HttpTransport.sendWithRetry_atMost even.light le_rfl le_rfl
        fun index last outcome => round last (even.sending _ _ index last outcome))
        fun result => (?_ : AtMost weight 0 _)) fun _ => done).mono ?_
      · cases result with
        | ok outcome => exact atMost_done le_rfl
        | error tooLarge =>
            exact .call (even.light (.fireHook _ _) rfl) fun _ => atMost_done le_rfl
      · simp
  | fetchRules =>
      refine (AtMost.bind (AtMost.bind (HttpTransport.getWithRetry_atMost le_rfl le_rfl "rules"
        fun url index last outcome => round last (even.fetching url index last outcome))
        fun fetched => (?_ : AtMost weight 0 _)) fun _ => done).mono ?_
      · cases fetched <;> exact atMost_done le_rfl
      · simp

/-- Every execution of a call weighs nothing. -/
theorem program_balanced (even : Even client.crates weight) (call : TransportCall Item) :
    (client.program call).Balanced weight 0 :=
  balanced_of_atMost (program_atMost even call) (program_atMost even.neg call)

/-- The answers that settle what a caller has left to perform. -/
def settling : (op : TransportOp Item) → op.Answer :=
  TransportOp.admitting fun _ => .clientError "connection refused"

/-- What is left of a balanced program is its total, with any answers. -/
theorem debt_settling {program : TransportProgram Item Unit} {total : ℚ}
    (balanced : program.Balanced weight total) : program.debt weight settling = total :=
  balanced.debt_eq

/-- What was performed and what is left to perform weigh nothing together. -/
structure Accounts (weight : TransportEvent Item → ℚ) (pool : Pool TransportState (Caller Item))
    (events : List (ℚ × TransportEvent Item)) : Prop where
  balanced : ∀ caller ∈ pool.tasks, ∃ total, caller.program.Balanced weight total
  even : pool.owned (fun caller => caller.program.debt weight settling) +
    weigh weight (events.map Prod.snd) = 0

/-- A step keeps what was performed and what is left in balance. -/
theorem Accounts.step {pool next : Pool TransportState (Caller Item)}
    {label : PoolLabel (TransportArrival Item) ((op : TransportOp Item) → op.Answer)}
    {events : List (ℚ × TransportEvent Item)} (even : Even client.crates weight)
    (accounts : Accounts weight pool events)
    (stepped : client.machine.step? pool label = some next) :
    Accounts weight next (observe events pool label next) := by
  rcases step_observed stepped with ⟨call, rfl, observed⟩ | ⟨seconds, _, rfl, observed⟩ |
    ⟨tid, caller, op, rest, respond, response, present, doing, rfl, observed⟩
  · rw [observed]
    have fresh := program_balanced even call
    constructor
    · intro caller member
      rcases List.mem_append.mp member with old | new
      · exact accounts.balanced caller old
      · rw [List.mem_singleton.mp new]
        exact ⟨0, fresh⟩
    · rw [Pool.owned_append]
      simp only [List.map_cons, List.map_nil, List.sum_cons, List.sum_nil, debt_settling fresh,
        add_zero]
      exact accounts.even
  · rw [observed]
    exact ⟨accounts.balanced, accounts.even⟩
  · rw [observed]
    generalize (pool.shared.perform caller respond op).1 = answer
    obtain ⟨total, balanced⟩ := accounts.balanced caller (List.mem_of_getElem? present)
    obtain ⟨others, owned, replaced⟩ := Pool.exists_owned_rest present
      fun caller : Caller Item => caller.program.debt weight settling
    rw [doing] at balanced
    have later := balanced.next answer
    constructor
    · intro other member
      rcases List.mem_or_eq_of_mem_set member with old | rfl
      · exact accounts.balanced other old
      · exact ⟨_, later⟩
    · have tasks := replaced (pool.shared.perform caller respond op).2
        ⟨caller.id, rest answer, response⟩ []
      have even := accounts.even
      dsimp only at tasks
      rw [List.append_nil, List.map_nil, List.sum_nil, debt_settling later] at tasks
      rw [owned, doing, debt_settling balanced] at even
      rw [tasks, List.map_append, weigh_append, List.map_singleton, weigh_cons, weigh_nil]
      linarith

/-- The balance holds at any time of a run. -/
theorem accounts (even : Even client.crates weight)
    {labels : List (PoolLabel (TransportArrival Item) ((op : TransportOp Item) → op.Answer))}
    {pool : Pool TransportState (Caller Item)}
    (run : client.machine.Run ⟨.initial, []⟩ labels pool) :
    Accounts weight pool (client.machine.history observe [] ⟨.initial, []⟩ labels) := by
  refine run.history_invariant (fun pool events => Accounts weight pool events) ⟨?_, ?_⟩
    fun _ _ _ _ accounts _ stepped => accounts.step even stepped
  · exact fun _ none => (List.not_mem_nil none).elim
  · exact add_zero 0

/-- **The counters agree with the wire.** However the callers interleave and whatever is answered:
when no call is in progress, `requests_sent` is the number of posts that had a response and of
fetches that returned a document, and `bytes_sent` is the length of all bodies that were posted. -/
theorem counters_agree (client : Client Item DynamicRules)
    (labels : List (PoolLabel (TransportArrival Item) ((op : TransportOp Item) → op.Answer)))
    (pool : Pool TransportState (Caller Item))
    (run : client.machine.Run ⟨.initial, []⟩ labels pool)
    (idle : ∀ caller ∈ pool.tasks, caller.isActive = false) :
    let trace := (client.machine.history observe [] ⟨.initial, []⟩ labels).map Prod.snd
    requestsSent trace = requestsAnswered client.crates trace ∧
    bytesSent trace = bytesPosted trace := by
  intro trace
  have settled (weight : TransportEvent Item → ℚ) :
      pool.owned (fun caller => caller.program.debt weight settling) = 0 := by
    refine Multiset.sum_eq_zero fun debt member => ?_
    obtain ⟨caller, inside, rfl⟩ := Multiset.mem_map.mp member
    have returned := idle caller (Multiset.mem_coe.mp inside)
    unfold Caller.isActive at returned
    split at returned
    · next doing =>
        rw [doing]
        rfl
    · cases returned
  have sent := (accounts (Even.sent client.crates) run).even
  have bytes := (accounts (Even.bytes client.crates) run).even
  rw [settled, zero_add] at sent bytes
  have requests :=
    sent.symm.trans (weigh_sub countedRequests (answeredRequests client.crates) trace)
  have lengths := bytes.symm.trans (weigh_sub countedBytes postedBytes trace)
  constructor
  · exact_mod_cast sub_eq_zero.mp requests.symm
  · exact_mod_cast sub_eq_zero.mp lengths.symm

/-- Two pushes at the same time: both are posted, and one has a response. -/
theorem counters_agree_push :
    ∃ labels pool, sample.machine.Run ⟨.initial, []⟩ labels pool ∧
      let trace := (sample.machine.history observe [] ⟨.initial, []⟩ labels).map Prod.snd
      (requestsSent trace = 1 ∧ bytesSent trace = 5) ∧
      requestsSent trace = requestsAnswered sample.crates trace ∧
      bytesSent trace = bytesPosted trace := by
  let labels := .arrive (.call (.sendStatus [1, 2, 3])) :: .arrive (.call (.sendStatus [4, 5])) ::
    failing 0 3 ++ List.replicate 7 (.run 1 (TransportOp.admitting fun _ =>
      .response 201 none (.ok ""))) ++ failing 0 5
  obtain ⟨pool, run, checked⟩ := @Machine.exists_run _ _ sample.machine ⟨.initial, []⟩ labels
    (fun pool => decide (∀ caller ∈ pool.tasks, caller.isActive = false)) (by decide +kernel)
  exact ⟨labels, pool, run, by decide +kernel,
    counters_agree sample labels pool run (of_decide_eq_true checked)⟩

end Client

end GuardAgent
