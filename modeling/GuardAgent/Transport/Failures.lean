import GuardAgent.Transport.Probes

/-!
# Which responses count as failures

A caller records a failure only after a response that is a failure (`Justified`), so the
breaker stays closed while all responses are harmless
(`Client.permanent_errors_never_count`).
-/

namespace GuardAgent

open Foundation Program

/-- A response whose body could be read: of a success that parses where it is parsed or, to a
`POST`, of a permanent client error. -/
def Response.harmless (crates : Crates) : Response → Bool
  | ⟨.post, .response status _ (.ok bodyText)⟩ =>
      status = 413 ∨ status ∈ nonRetryableStatusCodes ∨
        status = 200 ∧ (crates.parseAck bodyText).isSome ∨ 201 ≤ status ∧ status ≤ 299
  | ⟨.get, .response status _ (.ok bodyText)⟩ =>
      (200 ≤ status ∧ status < 300) ∧ (crates.fromSlice (utf8 bodyText)).isSome
  | _ => false

/-- A `POST` was answered with a permanent client error, and the body could be read. -/
def Response.isPermanent : Response → Bool
  | ⟨.post, .response status _ (.ok _)⟩ => status = 400 ∨ status = 404 ∨ status = 413 ∨ status = 422
  | _ => false

/-- A permanent rejection is no failure of the server. -/
theorem Response.harmless_of_isPermanent (crates : Crates) {response : Response}
    (permanent : response.isPermanent = true) : response.harmless crates = true := by
  obtain ⟨method, reply⟩ := response
  cases method with
  | get => cases permanent
  | post =>
      cases reply with
      | clientError message => cases permanent
      | response status retryAfter body =>
          cases body with
          | error message => cases permanent
          | ok bodyText =>
              rcases of_decide_eq_true permanent with rfl | rfl | rfl | rfl <;> rfl

/-- The attempt is recorded as a failure. -/
def AttemptResult.fails : AttemptResult → Bool
  | .rateLimited _ => true
  | .retryable _ => true
  | _ => false

def GetAttempt.fails : GetAttempt → Bool
  | .ok _ => false
  | _ => true

variable {Item : Type} (crates : Crates)

/-- A send attempt records a failure exactly if its response is one. -/
theorem HttpTransport.classifyAttempt_fails (url : String) (reply : HttpReply) :
    (classifyAttempt crates url reply).fails = !(Response.harmless crates ⟨.post, reply⟩) := by
  cases reply with
  | clientError message => rfl
  | response status retryAfter body =>
      cases body with
      | error message => rfl
      | ok bodyText =>
          simp only [classifyAttempt, classifyResponse, Response.harmless]
          by_cases ok : status = 200
          · subst ok
            simp only [parseAck, ↓reduceIte]
            cases crates.parseAck bodyText with
            | none => rfl
            | some ack =>
                dsimp only
                split <;> rfl
          · rw [if_neg ok]
            simp only [ok, false_and, false_or, nonRetryableStatusCodes, List.mem_cons,
              List.not_mem_nil, or_false]
            split_ifs with success limited large permanent denied server <;>
              simp_all [AttemptResult.fails] <;> omega

/-- A fetch attempt records a failure exactly if its response is one. -/
theorem HttpTransport.classifyGetAttempt_fails (url : String) (reply : HttpReply) :
    (classifyGetAttempt crates url reply).fails = !(Response.harmless crates ⟨.get, reply⟩) := by
  cases reply with
  | clientError message => rfl
  | response status retryAfter body =>
      cases body with
      | error message => rfl
      | ok bodyText =>
          simp only [classifyGetAttempt, Response.harmless]
          by_cases success : 200 ≤ status ∧ status < 300
          · rw [if_pos success]
            cases crates.fromSlice (utf8 bodyText) with
            | none => simp [GetAttempt.fails]
            | some value => simp [GetAttempt.fails, success]
          · rw [if_neg success]
            split <;> simp [GetAttempt.fails, success]

/-- The last response of a caller after a trace. -/
def lastResponse (current : Option Response) (trace : List (TransportEvent Item)) :
    Option Response :=
  trace.foldl (fun current event => (response? event).or current) current

/-- The operation records a failure. -/
def TransportOp.recordsFailure : TransportOp Item → Bool
  | .recordFailure => true
  | _ => false

/-- The last response before each failure that is recorded in a trace. -/
def causes : Option Response → List (TransportEvent Item) → List (Option Response)
  | _, [] => []
  | current, event :: trace =>
      match event.1 with
      | .recordFailure => current :: causes current trace
      | _ => causes ((response? event).or current) trace

/-- The causes in two traces in a row are those of each of them, the second from where the first
ended. -/
theorem causes_append (current : Option Response) (first second : List (TransportEvent Item)) :
    causes current (first ++ second) =
      causes current first ++ causes (lastResponse current first) second := by
  induction first generalizing current with
  | nil => rfl
  | cons event first ih =>
      obtain ⟨op, answer⟩ := event
      cases op with
      | recordFailure => exact congrArg (current :: ·) (ih current)
      | _ => exact ih _

/-- Each failure is recorded because of a response that is one. -/
def Blames (current : Option Response) (trace : List (TransportEvent Item)) : Prop :=
  ∀ cause ∈ causes current trace, ∃ response, cause = some response ∧
    response.harmless crates = false

/-- Every failure that the program records follows a response that is one. -/
def Justified {α : Type} (program : TransportProgram Item α) : Prop :=
  program.Ensures fun trace _ => ∀ current, Blames crates current trace

/-- So does every one it records after this response. -/
def JustifiedAfter {α : Type} (response : Response) (program : TransportProgram Item α) : Prop :=
  program.Ensures fun trace _ => Blames crates (some response) trace

variable {crates} {α β : Type}

/-- A program whose failures are justified is so after any response. -/
theorem JustifiedAfter.of_justified {response : Response} {program : TransportProgram Item α}
    (justified : Justified crates program) : JustifiedAfter crates response program :=
  Ensures.mono justified fun _ _ blames => blames _

/-- The rule of recording a failure. -/
theorem JustifiedAfter.recordFailure {response : Response}
    {rest : Unit → TransportProgram Item β} (failing : response.harmless crates = false)
    (later : Justified crates (rest ())) :
    JustifiedAfter crates response (perform .recordFailure >>= rest) := by
  apply ensures_call
  intro _
  refine Ensures.mono later ?_
  intro trace _ blames cause member
  rcases List.mem_cons.mp member with rfl | further
  · exact ⟨response, rfl, failing⟩
  · exact blames _ cause further

namespace Justified

/-- A program that performs nothing records no failure. -/
theorem done (value : α) :
    Justified crates (Program.done value : TransportProgram Item α) :=
  ensures_done fun _ _ member => (List.not_mem_nil member).elim

/-- The rule of any other operation. -/
theorem call {op : TransportOp Item} {rest : op.Answer → TransportProgram Item β}
    (other : op.recordsFailure = false) (later : ∀ answer, Justified crates (rest answer)) :
    Justified crates (perform op >>= rest) := by
  apply ensures_call
  intro answer
  refine Ensures.mono (later answer) ?_
  intro trace _ blames current
  cases op with
  | recordFailure => cases other
  | _ => exact blames _

/-- Two programs in turn record justified failures if each of them does. -/
theorem bind {program : TransportProgram Item α} {rest : α → TransportProgram Item β}
    (first : Justified crates program) (later : ∀ value, Justified crates (rest value)) :
    Justified crates (program >>= rest) := by
  refine ensures_bind first ?_
  intro before value blames
  refine Ensures.mono (later value) ?_
  intro after _ blames' current cause member
  rw [causes_append] at member
  rcases List.mem_append.mp member with earlier | further
  · exact blames current cause earlier
  · exact blames' _ cause further

/-- After the last attempt a loop stops, and otherwise it pauses and goes on. -/
theorem pause {remaining : ℕ} {delay : ℚ} {stop loop : TransportProgram Item β}
    (stops : Justified crates stop) (goes : Justified crates loop) :
    Justified crates (if remaining = 0 then stop else do
      perform (.sleep delay)
      loop) := by
  split
  · exact stops
  · exact .call rfl fun _ => goes

end Justified

namespace HttpTransport

variable {transport : HttpTransport} {label : String} {body : Body Item}

/-- What follows an attempt follows its response. -/
theorem attempt_bind {rest : AttemptResult → TransportProgram Item β}
    (later : ∀ response result, result.fails = !(response.harmless crates) →
      JustifiedAfter crates response (rest result)) :
    Justified crates (transport.attempt crates label body >>= rest) := by
  unfold attempt
  apply ensures_call
  intro _
  apply ensures_call
  intro reply
  have after := later ⟨.post, reply⟩ _ (classifyAttempt_fails crates
    (transport.request crates label body).url reply)
  cases (reply : HttpReply) with
  | clientError message => exact Ensures.mono after fun trace _ blames _ => blames
  | response status retryAfter body =>
      apply ensures_call
      intro _
      exact Ensures.mono after fun trace _ blames _ => blames

/-- A fetch attempt may be followed by what records its failure. -/
theorem getAttempt_bind {url : String} {rest : GetAttempt → TransportProgram Item β}
    (later : ∀ response result, result.fails = !(response.harmless crates) →
      JustifiedAfter crates response (rest result)) :
    Justified crates (getAttempt crates url >>= rest) := by
  apply ensures_call
  intro reply
  have after := later ⟨.get, reply⟩ _ (classifyGetAttempt_fails crates url reply)
  exact Ensures.mono after fun trace _ blames _ => blames

/-- The `POST` loop; the induction is on the attempts to go. -/
theorem retryLoop_justified (attempt remaining : ℕ) :
    Justified crates (transport.retryLoop crates label body attempt remaining) := by
  induction remaining generalizing attempt with
  | zero => exact .done _
  | succ remaining ih =>
      unfold retryLoop
      refine .call rfl fun acquired => ?_
      cases (acquired : Bool) with
      | false => exact .call rfl fun _ => .call rfl fun _ => ih _
      | true =>
          refine .call rfl fun admitted => ?_
          cases (admitted : Bool) with
          | false => exact .pause (.call rfl fun _ => .call rfl fun _ => .done _) (ih _)
          | true =>
              apply attempt_bind
              intro response result agreed
              have failing : result.fails = true → response.harmless crates = false := by
                intro fails
                rw [fails] at agreed
                exact Bool.not_eq_true' _ ▸ agreed.symm
              cases result with
              | accepted => exact .of_justified (.call rfl fun _ => .done _)
              | partialFailure errors => exact .of_justified (.call rfl fun _ => .done _)
              | permanent statusCode detail => exact .of_justified (.done _)
              | tooLarge detail => exact .of_justified (.done _)
              | rateLimited retryAfterSeconds =>
                  apply JustifiedAfter.recordFailure (failing rfl)
                  exact .pause (.call rfl fun _ => .call rfl fun _ => .done _) (ih _)
              | retryable error =>
                  apply JustifiedAfter.recordFailure (failing rfl)
                  exact .pause (.call rfl fun _ => .call rfl fun _ => .done _) (ih _)

/-- The `GET` loop. -/
theorem getLoop_justified (url : String) (attempt remaining : ℕ) :
    Justified crates (@getLoop Item crates transport url attempt remaining) := by
  induction remaining generalizing attempt with
  | zero => exact .done _
  | succ remaining ih =>
      unfold getLoop
      refine .call rfl fun acquired => ?_
      cases (acquired : Bool) with
      | false => exact .call rfl fun _ => .call rfl fun _ => ih _
      | true =>
          refine .call rfl fun admitted => ?_
          cases (admitted : Bool) with
          | false => exact .pause (.call rfl fun _ => .done _) (ih _)
          | true =>
              apply getAttempt_bind
              intro response result agreed
              have failing : result.fails = true → response.harmless crates = false := by
                intro fails
                rw [fails] at agreed
                exact Bool.not_eq_true' _ ▸ agreed.symm
              cases result with
              | ok value =>
                  apply JustifiedAfter.of_justified
                  refine .call rfl fun _ => ?_
                  by_cases object : value.isObject = true
                  · simp only [object]
                    exact .call rfl fun _ => .done _
                  · simp only [object]
                    exact .call rfl fun _ => ih _
              | rateLimited retryAfterSeconds =>
                  apply JustifiedAfter.recordFailure (failing rfl)
                  exact .pause (.call rfl fun _ => .done _) (ih _)
              | retryable error =>
                  apply JustifiedAfter.recordFailure (failing rfl)
                  exact .pause (.call rfl fun _ => .done _) (ih _)

/-- A call of `send_with_retry` records justified failures only. -/
theorem sendWithRetry_justified : Justified crates (transport.sendWithRetry crates label body) :=
  .bind (retryLoop_justified _ _) fun _ => .call rfl fun _ => .done _

variable {render : Item → Value}

/-- Sending an encrypted batch records justified failures only. -/
theorem sendBatchEncrypted_justified (encryptor : PayloadEncryptor) (batch : BatchItems Item) :
    Justified crates (transport.sendBatchEncrypted crates render encryptor batch) := by
  unfold sendBatchEncrypted
  refine .call rfl fun nonce => ?_
  dsimp only
  split
  · exact .call rfl fun _ => .done _
  · refine .call rfl fun batchId => ?_
    apply Justified.bind sendWithRetry_justified
    intro result
    split
    · exact .call rfl fun _ => .done _
    · exact .done _
    · exact .call rfl fun _ => .done _

/-- The induction is on the number of items. -/
theorem sendBatch_justified (batch : BatchItems Item) :
    Justified crates (transport.sendBatch crates render batch) := by
  induction size : batch.items.length using Nat.strong_induction_on generalizing batch with
  | _ size ih =>
      unfold sendBatch
      split
      · exact sendBatchEncrypted_justified _ batch
      · refine .bind (.call rfl fun _ => .call rfl fun _ => .done _) fun body => ?_
        apply Justified.bind sendWithRetry_justified
        intro result
        split
        · exact .call rfl fun _ => .done _
        · exact .done _
        · unfold splitOrDrop
          split
          · exact .call rfl fun _ => .done _
          · next several =>
              apply Justified.bind (ih _ ?_ batch.split.1 rfl)
              · intro leftOutcome
                split
                · apply ih _ ?_ batch.split.2 rfl
                  simp only [BatchItems.split, List.length_drop]
                  omega
                · exact .done _
              · simp only [BatchItems.split, List.length_take]
                omega

/-- Pushing the status records justified failures only. -/
theorem sendStatus_justified (status : Bytes) :
    Justified crates (@sendStatus Item crates transport status) := by
  unfold sendStatus
  refine .bind sendWithRetry_justified fun result => ?_
  split
  · exact .done _
  · exact .call rfl fun _ => .done _

/-- Fetching the rules records justified failures only. -/
theorem fetchRules_justified {DynamicRules : Type} (fromValue : Value → Option DynamicRules) :
    Justified crates (@fetchRules Item crates transport DynamicRules fromValue) := by
  unfold fetchRules getWithRetry
  refine .bind (getLoop_justified _ _ _) fun document => ?_
  split
  · exact .done _
  · exact .done _

end HttpTransport

namespace Client

variable {DynamicRules : Type} (client : Client Item DynamicRules)

/-- So is every call of a client. -/
theorem program_justified (call : TransportCall Item) :
    Justified client.crates (client.program call) := by
  cases call with
  | sendBatch batch => exact .bind (HttpTransport.sendBatch_justified batch) fun _ => .done _
  | sendStatus status => exact .bind (HttpTransport.sendStatus_justified status) fun _ => .done _
  | fetchRules => exact .bind (HttpTransport.fetchRules_justified _) fun _ => .done _

/-- What is left of a call records failures only after responses that are failures. -/
def Blameless (caller : Caller Item) : Prop :=
  ∀ trace rest, caller.program.Reaches trace rest →
    Blames client.crates caller.response trace

/-- Each caller goes on like that, its last response is on record, and so is that of every
failure. -/
structure Attributed (pool : Pool TransportState (Caller Item)) : Prop where
  blameless : ∀ caller ∈ pool.tasks, client.Blameless caller
  received : ∀ caller ∈ pool.tasks, ∀ response ∈ caller.response, response ∈ pool.shared.responses
  attributed : ∀ event ∈ pool.shared.history, event.call = .recordFailure →
    ∃ response ∈ event.response, response ∈ pool.shared.responses ∧
      response.harmless client.crates = false

variable {client} {pool next : Pool TransportState (Caller Item)}
  {label : PoolLabel (TransportArrival Item) ((op : TransportOp Item) → op.Answer)}

/-- A partial execution records no failure that a complete one does not. -/
theorem blameless_of_justified (id : ℕ) {program : TransportProgram Item Unit}
    (justified : Justified client.crates program) : client.Blameless ⟨id, program, none⟩ := by
  intro trace rest reached cause member
  obtain ⟨later, value, run⟩ :=
    reached.of_run (TransportOp.admitting fun _ => .clientError "connection refused")
  apply justified _ value run none cause
  rw [causes_append]
  exact List.mem_append_left _ member

/-- A caller that performs its next operation goes on without blame. -/
theorem Blameless.step {caller : Caller Item} (blameless : client.Blameless caller)
    {op : TransportOp Item} {rest : op.Answer → TransportProgram Item Unit}
    (doing : caller.program = .perform op rest) (answer : op.Answer) :
    client.Blameless { caller with
      program := rest answer
      response := (response? ⟨op, answer⟩).or caller.response } := by
  intro trace residual reached cause member
  have whole : caller.program.Reaches (⟨op, answer⟩ :: trace) residual := by
    rw [doing]
    exact .perform reached
  apply blameless _ residual whole cause
  cases op with
  | recordFailure => exact List.mem_cons_of_mem _ member
  | _ => exact member

/-- Recording a failure blames the last response. -/
theorem Blameless.recordFailure {caller : Caller Item} (blameless : client.Blameless caller)
    {op : TransportOp Item} {rest : op.Answer → TransportProgram Item Unit}
    (doing : caller.program = .perform op rest) (failure : op = .recordFailure)
    (answer : op.Answer) :
    ∃ response ∈ caller.response, response.harmless client.crates = false := by
  subst failure
  have whole : caller.program.Reaches [⟨.recordFailure, answer⟩] (rest answer) := by
    rw [doing]
    exact .perform (.refl _)
  exact blameless _ _ whole caller.response List.mem_cons_self

/-- A step keeps every recorded failure attributed to a response. -/
theorem Attributed.step (attributed : client.Attributed pool)
    (stepped : client.machine.step? pool label = some next) : client.Attributed next := by
  obtain ⟨blameless, received, attributed⟩ := attributed
  rcases step_cases stepped with ⟨call, rfl⟩ | ⟨seconds, _, rfl⟩ |
    ⟨tid, caller, op, rest, answer, after, present, doing, performs, rfl⟩
  · refine ⟨fun caller member => ?_, fun caller member => ?_, attributed⟩
    · rcases List.mem_append.mp member with old | new
      · exact blameless caller old
      · rw [List.mem_singleton.mp new]
        exact blameless_of_justified _ (client.program_justified call)
    · rcases List.mem_append.mp member with old | new
      · exact received caller old
      · rw [List.mem_singleton.mp new]
        exact nofun
  · exact ⟨blameless, received, attributed⟩
  · have acting := List.mem_of_getElem? present
    have more : pool.shared.responses ⊆ after.responses := by
      cases performs with
      | quiet _ _ _ _ responses =>
          rw [responses]
          exact List.subset_append_left _ _
      | asked call _ _ => exact List.Subset.refl _
    refine ⟨fun other member => ?_, fun other member response last => ?_,
      fun event member failure => ?_⟩
    · rcases List.mem_or_eq_of_mem_set member with old | rfl
      · exact blameless other old
      · exact (blameless caller acting).step doing answer
    · rcases List.mem_or_eq_of_mem_set member with old | rfl
      · exact more (received other old response last)
      · rcases Option.or_eq_some_iff.mp last with now | ⟨_, before⟩
        · cases performs with
          | quiet _ _ _ _ responses =>
              rw [responses, now]
              exact List.mem_append_right _ (List.mem_singleton_self _)
          | asked call _ none =>
              rw [none] at now
              cases now
        · exact more (received caller acting response before)
    · have earlier (old : event ∈ pool.shared.history) : ∃ response ∈ event.response,
          response ∈ after.responses ∧ response.harmless client.crates = false := by
        obtain ⟨response, last, there, failing⟩ := attributed event old failure
        exact ⟨response, last, more there, failing⟩
      cases performs with
      | quiet _ history _ _ _ =>
          rw [history] at member
          exact earlier member
      | asked call records _ =>
          rcases List.mem_append.mp member with old | new
          · exact earlier old
          · rw [List.mem_singleton.mp new] at failure ⊢
            obtain ⟨response, last, failing⟩ :=
              (blameless caller acting).recordFailure doing (records failure) answer
            exact ⟨response, last, received caller acting response last, failing⟩

/-- **Permanent client errors never count.** In every run, each failure the breaker counts is
recorded after a response of the same caller that is neither harmless nor a permanent client
error to a `POST`; so while all responses are harmless the circuit stays closed. -/
theorem permanent_errors_never_count (client : Client Item DynamicRules)
    (labels : List (PoolLabel (TransportArrival Item) ((op : TransportOp Item) → op.Answer)))
    (pool : Pool TransportState (Caller Item))
    (run : client.machine.Run ⟨.initial, []⟩ labels pool) :
    (∀ event ∈ pool.shared.history, event.call = .recordFailure →
      ∃ response ∈ event.response, response ∈ pool.shared.responses ∧
        response.isPermanent = false) ∧
    ((∀ response ∈ pool.shared.responses, response.harmless client.crates = true) →
      pool.shared.breaker.openedAt = none ∧
      pool.shared.breaker.state pool.shared.now = .closed) := by
  have attributed : client.Attributed pool := by
    refine run.invariant client.Attributed ⟨fun _ member => (List.not_mem_nil member).elim,
      fun _ member => (List.not_mem_nil member).elim,
      fun _ member => (List.not_mem_nil member).elim⟩ ?_
    intro before label after attributed _ stepped
    exact attributed.step stepped
  refine ⟨fun event member failure => ?_, fun harmless => ?_⟩
  · obtain ⟨response, last, there, failing⟩ := attributed.attributed event member failure
    refine ⟨response, last, there, Bool.eq_false_iff.mpr fun permanent => ?_⟩
    rw [response.harmless_of_isPermanent client.crates permanent] at failing
    cases failing
  · have unfailed : recentFailures pool.shared.history = [] := by
      apply List.eq_nil_iff_forall_not_mem.mpr
      intro time failed
      obtain ⟨event, member, same⟩ := List.mem_map.mp (mem_of_mem_failuresSince failed)
      obtain ⟨response, _, there, failing⟩ :=
        attributed.attributed event member (congrArg Prod.snd same)
      rw [harmless response there] at failing
      cases failing
    have tracks := CircuitBreaker.tracks failureThreshold recoveryWindow
      (pool.shared.history.map BreakerEvent.timed)
    have unopened : pool.shared.breaker.openedAt = none := by
      rw [(client.recorded run).replayed]
      apply Option.eq_none_iff_forall_not_mem.mpr
      intro openedAt opened
      have last := (tracks.opened openedAt opened).1
      rw [show failuresSince _ = [] from unfailed] at last
      cases last
    refine ⟨unopened, ?_⟩
    rw [CircuitBreaker.state, unopened]

/-- Every request of the sample client is answered like this. -/
def answering (reply : HttpReply) : (op : TransportOp ℕ) → op.Answer
  | .get _ => reply
  | op => TransportOp.admitting (fun _ => reply) op

/-- A caller takes as many steps, with this reply to its requests. -/
def answered (reply : HttpReply) (tid count : ℕ) :
    List (PoolLabel (TransportArrival ℕ) ((op : TransportOp ℕ) → op.Answer)) :=
  List.replicate count (.run tid (answering reply))

/-- Six status pushes are answered with `404`, a batch and its halves with `413`, and the
rules are fetched. -/
theorem permanent_errors_never_count_seven :
    ∃ labels pool, sample.machine.Run ⟨.initial, []⟩ labels pool ∧
      pool.shared.responses.length = 10 ∧
      pool.shared.breaker.state pool.shared.now = .closed := by
  let labels := (List.range 6).flatMap (fun tid => .arrive (.call (.sendStatus [])) ::
      answered (.response 404 none (.ok "")) tid 6) ++
    .arrive (.call (.sendBatch ⟨.events, [0, 1]⟩)) ::
      answered (.response 413 none (.ok "")) 6 26 ++
    .arrive (.call .fetchRules) ::
      answered (.response 200 none (.ok Sealing.verification.plaintext)) 7 5
  obtain ⟨pool, run, checked⟩ := @Machine.exists_run _ _ sample.machine ⟨.initial, []⟩ labels
    (fun pool => pool.shared.responses.length = 10 ∧
      ∀ response ∈ pool.shared.responses, response.harmless sample.crates = true)
    (by decide +kernel)
  obtain ⟨ten, harmless⟩ := of_decide_eq_true checked
  exact ⟨labels, pool, run, ten,
    ((sample.permanent_errors_never_count labels pool run).2 harmless).2⟩

/-- A `2xx` whose body could be read. -/
def HttpReply.isSuccess : HttpReply → Bool
  | .response status _ (.ok _) => 200 ≤ status ∧ status ≤ 299
  | _ => false

/-- Five status pushes answered with `200` and a body that is not JSON open the circuit. -/
theorem open_after_unparseable_successes :
    ∃ labels pool, sample.machine.Run ⟨.initial, []⟩ labels pool ∧
      (∀ response ∈ pool.shared.responses, HttpReply.isSuccess response.reply = true) ∧
      pool.shared.breaker.state pool.shared.now = .open := by
  let labels := (List.range 5).flatMap fun tid => .arrive (.call (.sendStatus [])) ::
    answered (.response 200 none (.ok "")) tid 9
  obtain ⟨pool, run, checked⟩ := @Machine.exists_run _ _ sample.machine ⟨.initial, []⟩ labels
    (fun pool => (∀ response ∈ pool.shared.responses,
      HttpReply.isSuccess response.reply = true) ∧
      pool.shared.breaker.state pool.shared.now = .open) (by decide +kernel)
  exact ⟨labels, pool, run, of_decide_eq_true checked⟩

end Client

end GuardAgent
