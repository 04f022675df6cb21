import GuardAgent.Transport.Exchanges

/-!
# What a send disposes of

One call of `send_with_retry` repeats one request, and only the last time can finish
the batch it carries (`Call`). On the plaintext path the calls for a batch are those of
`Foundation.Halving`.
-/

namespace GuardAgent

open Foundation Program

variable {Item : Type} (crates : Crates)

/-- What an exchange disposes of is what the classification of its reply finishes. -/
theorem Exchange.disposed_eq (request : Request Item) (url : String) (reply : HttpReply) :
    Exchange.disposed crates (request, reply) =
      (⟨request.carried, (HttpTransport.classifyAttempt crates url reply).reply⟩ :
        Sent Item).finished := by
  rw [HttpTransport.classifyAttempt_reply, disposed]
  by_cases acknowledged : reply.acknowledged crates
  · simp only [acknowledged, true_or, ↓reduceIte, Sent.finished]
  · by_cases rejected : reply.rejected
    · simp only [acknowledged, rejected, true_or, or_true, Bool.false_eq_true, ↓reduceIte,
        Sent.finished]
    · by_cases tooLarge : reply.tooLarge
      · rcases request.carried with _ | ⟨item, _ | ⟨next, rest⟩⟩
        · simp [acknowledged, rejected, tooLarge, Sent.finished]
        · simp [acknowledged, rejected, tooLarge, Sent.finished]
        · simp [acknowledged, rejected, tooLarge, Sent.finished]
      · simp only [acknowledged, rejected, tooLarge, Bool.false_eq_true, false_and, or_self,
          ↓reduceIte, Sent.finished]

/-- The trace of a call that was answered with `reply`: it makes one request over and
over, and only the last time can have finished the batch. -/
structure Call (request : Request Item) (trace : List (TransportEvent Item)) (reply : Reply) :
    Prop where
  requested : ∀ exchange ∈ exchanges trace, exchange.1 = request
  last : (exchanges trace).Pairwise fun earlier _ => Exchange.disposed crates earlier = []
  finished : disposed crates trace = (⟨request.carried, reply⟩ : Sent Item).finished
  large : ∀ exchange ∈ exchanges trace, exchange.2.tooLarge → reply = .tooLarge
  refused : reply = .failed → ∀ items ∈ attempts crates trace, items = []
  unsent : sends trace = []

/-- The exchanges of several calls, one after another. -/
inductive Calls : List (Exchange Item) → List (Sent Item) → Prop where
  | nil : Calls [] []
  | cons {group rest : List (Exchange Item)} {sent : Sent Item} {later : List (Sent Item)} :
      (∀ exchange ∈ group, exchange.1.carried = sent.batch) →
      (group.Pairwise fun earlier _ => Exchange.disposed crates earlier = []) →
      group.flatMap (Exchange.disposed crates) = sent.finished →
      (∀ exchange ∈ group, exchange.2.tooLarge → sent.reply = .tooLarge) →
      Calls rest later → Calls (group ++ rest) (sent :: later)

/-- A batch was sent with the calls that halving makes for it, and a failure was
that of the last attempt. -/
structure Handled (batch : List Item) (trace : List (TransportEvent Item)) (verdict : Verdict) :
    Prop where
  halving : Halving batch (sends trace) verdict
  calls : Calls crates (exchanges trace) (sends trace)
  lastFailed : verdict = .failed → (attempts crates trace).getLast? = some []

/-- No request is made and none is refused. -/
structure Quiet (trace : List (TransportEvent Item)) : Prop where
  exchanges : exchanges trace = []
  sends : sends trace = []
  attempts : attempts crates trace = []

/-- The trace of a completed call of `send_with_retry`. -/
structure Called (batch : List Item) (trace : List (TransportEvent Item)) (reply : Reply) :
    Prop where
  sends : sends trace = [⟨batch, reply⟩]
  calls : Calls crates (exchanges trace) [⟨batch, reply⟩]
  lastFailed : reply = .failed → (attempts crates trace).getLast? = some []

/-- The verdict an outcome reports. -/
def SendOutcome.verdict : SendOutcome → Verdict
  | .accepted => .accepted
  | .permanentDrop _ _ => .dropped
  | .failed _ => .failed

/-- A confirmed outcome is one whose verdict is not a failure. -/
theorem SendOutcome.isConfirmed_iff (outcome : SendOutcome) :
    outcome.isConfirmed = true ↔ outcome.verdict ≠ .failed := by
  cases outcome with
  | accepted => exact iff_of_true rfl Verdict.noConfusion
  | permanentDrop statusCode detail => exact iff_of_true rfl Verdict.noConfusion
  | failed error => exact iff_of_false Bool.noConfusion fun confirmed => confirmed rfl

variable {crates} {batch : List Item} {first second : List (TransportEvent Item)} {reply : Reply}
  {verdict : Verdict}

namespace Calls

variable {group rest : List (Exchange Item)} {earlier later : List (Sent Item)}

/-- The exchanges of two groups of calls are those of each of them. -/
theorem append (before : Calls crates group earlier) (after : Calls crates rest later) :
    Calls crates (group ++ rest) (earlier ++ later) := by
  induction before with
  | nil => exact after
  | cons carried last finished large _ ih =>
      rw [List.append_assoc, List.cons_append]
      exact .cons carried last finished large ih

/-- The exchanges finish what the calls finish. -/
theorem flatMap_disposed (calls : Calls crates group earlier) :
    group.flatMap (Exchange.disposed crates) = earlier.flatMap Sent.finished := by
  induction calls with
  | nil => rfl
  | cons _ _ finished _ _ ih => rw [List.flatMap_append, List.flatMap_cons, finished, ih]

/-- Every exchange belongs to a call for the items it carries. -/
theorem exists_sent (calls : Calls crates group earlier) :
    ∀ exchange ∈ group, ∃ sent ∈ earlier, exchange.1.carried = sent.batch ∧
      (exchange.2.tooLarge → sent.reply = .tooLarge) := by
  induction calls with
  | nil =>
      intro exchange member
      exact (List.not_mem_nil member).elim
  | cons carried _ _ large _ ih =>
      intro exchange member
      rcases List.mem_append.mp member with here | later
      · exact ⟨_, List.mem_cons_self, carried exchange here, large exchange here⟩
      · obtain ⟨sent, present, same⟩ := ih exchange later
        exact ⟨sent, List.mem_cons_of_mem _ present, same⟩

/-- What a call finished is not requested again, when no later call has it. -/
theorem pairwise_disposed (calls : Calls crates group earlier)
    (distinct : earlier.Pairwise fun before after => ∀ item ∈ before.finished, item ∉ after.batch) :
    group.Pairwise fun before after =>
      ∀ item ∈ Exchange.disposed crates before, item ∉ after.1.carried := by
  induction calls with
  | nil => exact .nil
  | @cons group rest sent later carried last finished _ calls ih =>
      obtain ⟨here, further⟩ := List.pairwise_cons.mp distinct
      refine List.pairwise_append.mpr ⟨?_, ih further, ?_⟩
      · refine last.imp fun nothing item member => ?_
        rw [nothing] at member
        exact (List.not_mem_nil member).elim
      · intro exchange inGroup other inRest item member
        obtain ⟨after, present, same, _⟩ := calls.exists_sent other inRest
        rw [same]
        apply here after present item
        rw [← finished]
        exact List.mem_flatMap.mpr ⟨exchange, inGroup, member⟩

end Calls

namespace Quiet

/-- What sends nothing may come before a call. -/
theorem before (quiet : Quiet crates first) (called : Called crates batch second reply) :
    Called crates batch (first ++ second) reply where
  sends := by rw [sends_append, quiet.sends, called.sends, List.nil_append]
  calls := by
    rw [exchanges_append, quiet.exchanges, List.nil_append]
    exact called.calls
  lastFailed := by
    rw [attempts_append, quiet.attempts, List.nil_append]
    exact called.lastFailed

/-- What sends nothing may come after a call. -/
theorem after (quiet : Quiet crates second) (called : Called crates batch first reply) :
    Called crates batch (first ++ second) reply where
  sends := by rw [sends_append, quiet.sends, called.sends, List.append_nil]
  calls := by
    rw [exchanges_append, quiet.exchanges, List.append_nil]
    exact called.calls
  lastFailed := by
    rw [attempts_append, quiet.attempts, List.append_nil]
    exact called.lastFailed

end Quiet

namespace Called

variable {left right : List (TransportEvent Item)} {after : Verdict}

/-- A call that was not too large, or cannot be halved, handles its batch. -/
theorem whole (called : Called crates batch first reply)
    (kept : reply = .tooLarge → batch.length ≤ 1) : Handled crates batch first reply.verdict where
  halving := by
    rw [called.sends]
    exact .whole kept
  calls := by
    rw [called.sends]
    exact called.calls
  lastFailed := by
    intro failed
    apply called.lastFailed
    cases reply with
    | failed => rfl
    | acknowledged => exact Verdict.noConfusion failed
    | rejected => exact Verdict.noConfusion failed
    | tooLarge => exact Verdict.noConfusion failed

/-- A batch whose left half failed has failed. -/
theorem leftFailed (called : Called crates batch first .tooLarge) (several : 1 < batch.length)
    (half : Handled crates (batch.take (batch.length / 2)) left .failed) :
    Handled crates batch (first ++ left) .failed where
  halving := by
    rw [sends_append, called.sends]
    exact .leftFailed several half.halving
  calls := by
    rw [exchanges_append, sends_append, called.sends]
    exact called.calls.append half.calls
  lastFailed := by
    intro _
    rw [attempts_append, List.getLast?_append, half.lastFailed rfl]
    rfl

/-- A batch whose left half was confirmed ends as its right half does. -/
theorem both (called : Called crates batch first .tooLarge) (several : 1 < batch.length)
    (confirmed : verdict ≠ .failed)
    (leftHalf : Handled crates (batch.take (batch.length / 2)) left verdict)
    (rightHalf : Handled crates (batch.drop (batch.length / 2)) right after) :
    Handled crates batch (first ++ (left ++ right)) after where
  halving := by
    rw [sends_append, sends_append, called.sends, List.singleton_append]
    exact .both several confirmed leftHalf.halving rightHalf.halving
  calls := by
    rw [exchanges_append, exchanges_append, sends_append, sends_append, called.sends]
    exact called.calls.append (leftHalf.calls.append rightHalf.calls)
  lastFailed := by
    intro failed
    rw [attempts_append, attempts_append, List.getLast?_append, List.getLast?_append,
      rightHalf.lastFailed failed]
    rfl

end Called

namespace Call

variable {request : Request Item}

/-- Without an exchange a call has failed. -/
theorem nil : Call crates request [] .failed where
  requested := by
    intro exchange member
    exact (List.not_mem_nil member).elim
  last := .nil
  finished := rfl
  large := by
    intro exchange member
    exact (List.not_mem_nil member).elim
  refused := by
    intro _ items member
    exact (List.not_mem_nil member).elim
  unsent := rfl

/-- A single exchange is a call. -/
theorem single {exchange : Exchange Item} (made : exchanges first = [exchange])
    (requested : exchange.1 = request)
    (finished : Exchange.disposed crates exchange = (⟨request.carried, reply⟩ : Sent Item).finished)
    (large : exchange.2.tooLarge → reply = .tooLarge)
    (attempted : attempts crates first = [Exchange.disposed crates exchange])
    (unsent : sends first = []) : Call crates request first reply where
  requested := by
    intro other member
    rw [made] at member
    obtain rfl := List.mem_singleton.mp member
    exact requested
  last := by
    rw [made]
    exact List.pairwise_singleton _ _
  finished := by
    rw [disposed, made, List.flatMap_singleton, finished]
  large := by
    intro other member
    rw [made] at member
    obtain rfl := List.mem_singleton.mp member
    exact large
  refused := by
    intro failed items member
    rw [attempted, finished, failed] at member
    exact List.mem_singleton.mp member
  unsent := unsent

/-- Operations that are no requests, in front or behind, change nothing. -/
theorem congr (call : Call crates request first reply) (made : exchanges second = exchanges first)
    (attempted : attempts crates second = attempts crates first ∨
      attempts crates second = [] :: attempts crates first)
    (sent : sends second = sends first) : Call crates request second reply where
  requested := by
    rw [made]
    exact call.requested
  last := by
    rw [made]
    exact call.last
  finished := by
    rw [disposed, made]
    exact call.finished
  large := by
    rw [made]
    exact call.large
  refused := by
    intro failed items member
    rcases attempted with same | more
    · exact call.refused failed items (same ▸ member)
    · rw [more] at member
      rcases List.mem_cons.mp member with rfl | earlier
      · rfl
      · exact call.refused failed items earlier
  unsent := sent.trans call.unsent

/-- What makes no exchange may come after the attempts of a call. -/
theorem append_quiet (call : Call crates request first reply) (made : exchanges second = [])
    (attempted : attempts crates second = []) (sent : sends second = []) :
    Call crates request (first ++ second) reply := by
  refine call.congr ?_ (Or.inl ?_) ?_
  · rw [exchanges_append, made, List.append_nil]
  · rw [attempts_append, attempted, List.append_nil]
  · rw [sends_append, sent, List.append_nil]

/-- The limiter and the breaker admitted the call. -/
theorem admitted (call : Call crates request first reply) :
    Call crates request (⟨.acquire, (true : Bool)⟩ :: ⟨.breakerAdmit, (true : Bool)⟩ :: first)
      reply :=
  call.congr rfl (Or.inl rfl) rfl

/-- Failed attempts can precede a call. -/
theorem after (failed : Call crates request first .failed)
    (call : Call crates request second reply) : Call crates request (first ++ second) reply where
  requested := by
    intro exchange member
    rw [exchanges_append, List.mem_append] at member
    rcases member with earlier | later
    · exact failed.requested exchange earlier
    · exact call.requested exchange later
  last := by
    rw [exchanges_append]
    refine List.pairwise_append.mpr ⟨failed.last, call.last, fun exchange earlier _ _ => ?_⟩
    exact List.flatMap_eq_nil_iff.mp failed.finished exchange earlier
  finished := by
    rw [disposed, exchanges_append, List.flatMap_append]
    exact (congrArg (· ++ _) failed.finished).trans call.finished
  large := by
    intro exchange member tooLarge
    rw [exchanges_append, List.mem_append] at member
    rcases member with earlier | later
    · exact Reply.noConfusion (failed.large exchange earlier tooLarge)
    · exact call.large exchange later tooLarge
  refused := by
    intro unanswered items member
    rw [attempts_append, List.mem_append] at member
    rcases member with earlier | later
    · exact failed.refused rfl items earlier
    · exact call.refused unanswered items later
  unsent := by
    rw [sends_append, failed.unsent, call.unsent]
    rfl

end Call

namespace HttpTransport

variable {transport : HttpTransport} {label : String} {body : Body Item}

/-- One attempt is the trace of a call. -/
theorem attempt_ensures : (transport.attempt crates label body).Ensures fun trace result =>
    Call crates (transport.request crates label body) trace result.reply ∧
      attempts crates trace ≠ [] := by
  unfold attempt
  refine ensures_call fun _ => ensures_call fun reply => ?_
  have disposed := Exchange.disposed_eq crates (transport.request crates label body)
    (transport.request crates label body).url reply
  have large := classifyAttempt_tooLarge crates (transport.request crates label body).url reply
  cases (reply : HttpReply) with
  | clientError message =>
      exact ensures_done ⟨.single rfl rfl disposed large rfl rfl, List.cons_ne_nil _ _⟩
  | response status retryAfter body =>
      refine ensures_call fun _ => ensures_done ⟨?_, List.cons_ne_nil _ _⟩
      exact .single rfl rfl disposed large rfl rfl

/-- A send that failed gives up after its last attempt, and otherwise pauses and goes on. -/
theorem ensures_pause {remaining : ℕ} {error : GuardAgentError} {delay : ℚ}
    {loop : TransportProgram Item SendResult}
    {post : List (TransportEvent Item) → SendResult → Prop}
    (stops : post [⟨.countRequestFailed, ()⟩, ⟨.fireHook .transportSend error, ()⟩]
      (.ok (.failed error)))
    (goes : loop.Ensures fun later => post (⟨.sleep delay, ()⟩ :: later)) :
    (if remaining = 0 then do
        perform .countRequestFailed
        perform (.fireHook .transportSend error)
        return .ok (.failed error)
      else do
        perform (.sleep delay)
        loop : TransportProgram Item SendResult).Ensures post := by
  split
  · exact ensures_call fun _ => ensures_call fun _ => ensures_done stops
  · exact ensures_call fun _ => goes

/-- The loop makes a call out of the attempts it has left; the induction is on their
number. -/
theorem retryLoop_ensures (attempt remaining : ℕ) :
    (transport.retryLoop crates label body attempt remaining).Ensures fun trace result =>
      Call crates (transport.request crates label body) trace result.reply ∧
        (0 < remaining → attempts crates trace ≠ []) := by
  induction remaining generalizing attempt with
  | zero => exact ensures_done ⟨.nil, fun positive => (Nat.lt_irrefl 0 positive).elim⟩
  | succ remaining ih =>
      unfold retryLoop
      refine ensures_call fun acquired => ?_
      cases (acquired : Bool) with
      | false =>
          refine ensures_call fun _ => ensures_call fun _ => ?_
          refine (ih (attempt + 1)).mono ?_
          intro trace result made
          exact ⟨made.1.congr rfl (Or.inr rfl) rfl, fun _ => List.cons_ne_nil _ _⟩
      | true =>
          refine ensures_call fun admitted => ?_
          cases (admitted : Bool) with
          | false =>
              refine ensures_pause ⟨Call.nil.congr rfl (Or.inr rfl) rfl,
                fun _ => List.cons_ne_nil _ _⟩ ((ih (attempt + 1)).mono ?_)
              intro trace result made
              exact ⟨made.1.congr rfl (Or.inr rfl) rfl, fun _ => List.cons_ne_nil _ _⟩
          | true =>
              refine ensures_bind attempt_ensures ?_
              intro before result attempt_made
              obtain ⟨made, attempted⟩ := attempt_made
              have nonempty (after : List (TransportEvent Item)) :
                  attempts crates (before ++ after) ≠ [] := by
                rw [attempts_append]
                exact List.append_ne_nil_of_left_ne_nil attempted _
              cases result with
              | accepted =>
                  refine ensures_call fun _ => ensures_done ⟨?_, fun _ => nonempty _⟩
                  exact (made.append_quiet rfl rfl rfl).admitted
              | partialFailure errors =>
                  refine ensures_call fun _ => ensures_done ⟨?_, fun _ => nonempty _⟩
                  exact (made.append_quiet rfl rfl rfl).admitted
              | permanent statusCode detail =>
                  refine ensures_done ⟨?_, fun _ => nonempty _⟩
                  exact (made.append_quiet rfl rfl rfl).admitted
              | tooLarge detail =>
                  refine ensures_done ⟨?_, fun _ => nonempty _⟩
                  exact (made.append_quiet rfl rfl rfl).admitted
              | rateLimited retryAfterSeconds =>
                  refine ensures_call fun _ => ensures_pause
                    ⟨(made.append_quiet rfl rfl rfl).admitted, fun _ => nonempty _⟩
                    ((ih (attempt + 1)).mono ?_)
                  intro trace result later
                  refine ⟨(made.after ?_).admitted, fun _ => nonempty _⟩
                  exact later.1.congr rfl (Or.inl rfl) rfl
              | retryable error =>
                  refine ensures_call fun _ => ensures_pause
                    ⟨(made.append_quiet rfl rfl rfl).admitted, fun _ => nonempty _⟩
                    ((ih (attempt + 1)).mono ?_)
                  intro trace result later
                  refine ⟨(made.after ?_).admitted, fun _ => nonempty _⟩
                  exact later.1.congr rfl (Or.inl rfl) rfl

/-- There is always a first attempt. -/
theorem totalAttempts_pos (config : AgentConfig) : 0 < config.totalAttempts := by
  unfold AgentConfig.totalAttempts
  omega

/-- Every execution of `send_with_retry` is the trace of a call, with one request. -/
theorem sendWithRetry_ensures : (transport.sendWithRetry crates label body).Ensures
    fun trace result => Called crates body.carried trace result.reply ∧
      ∀ exchange ∈ exchanges trace, exchange.1 = transport.request crates label body := by
  refine ensures_bind (retryLoop_ensures 0 transport.config.totalAttempts) ?_
  intro trace result made
  obtain ⟨call, attempted⟩ := made
  refine ensures_call fun _ => ensures_done ⟨⟨?_, ?_, fun failed => ?_⟩, ?_⟩
  · rw [sends_append, call.unsent]
    rfl
  · rw [exchanges_append]
    refine .cons (fun exchange member => ?_) call.last call.finished call.large .nil
    rw [call.requested exchange member]
    rfl
  · have last := List.getLast?_eq_some_getLast (attempted (totalAttempts_pos transport.config))
    rw [attempts_append]
    apply (congrArg List.getLast? (List.append_nil _)).trans
    rw [last, call.refused failed _ (List.getLast_mem _)]
  · rw [exchanges_append]
    intro exchange member
    rcases List.mem_append.mp member with earlier | later
    · exact call.requested exchange earlier
    · exact (List.not_mem_nil later).elim

variable {render : Item → Value}

/-- Building the body sends nothing, and the body carries the batch. -/
theorem buildBatchBody_ensures (batch : BatchItems Item) :
    (transport.buildBatchBody crates render batch).Ensures fun trace body =>
      Quiet crates trace ∧ body.carried = batch.items :=
  ensures_call fun _ => ensures_call fun _ => ensures_done ⟨⟨rfl, rfl, rfl⟩, rfl⟩

variable (crates) in
/-- Reporting a rejected batch sends nothing, and it is dropped. -/
theorem reportPermanent_ensures (statusCode : ℕ) (detail : String) :
    (@reportPermanent Item statusCode detail).Ensures fun trace outcome =>
      Quiet crates trace ∧ outcome = .permanentDrop statusCode detail :=
  ensures_call fun _ => ensures_done ⟨⟨rfl, rfl, rfl⟩, rfl⟩

variable (crates) in
/-- Reporting a batch that is too large sends nothing, and it is dropped. -/
theorem reportTooLarge_ensures (detail : String) :
    (@reportTooLarge Item detail).Ensures fun trace outcome =>
      Quiet crates trace ∧ outcome = .permanentDrop 413 detail :=
  ensures_call fun _ => ensures_done ⟨⟨rfl, rfl, rfl⟩, rfl⟩

/-- **The plaintext path halves.** The induction is on the number of items. -/
theorem sendBatch_ensures (plaintext : transport.encryptor = none) (batch : BatchItems Item) :
    (transport.sendBatch crates render batch).Ensures fun trace outcome =>
      Handled crates batch.items trace outcome.verdict := by
  induction size : batch.items.length using Nat.strong_induction_on generalizing batch with
  | _ size ih =>
      unfold sendBatch
      simp only [plaintext]
      refine ensures_bind (buildBatchBody_ensures batch) ?_
      intro before body prepared
      obtain ⟨built, carried⟩ := prepared
      refine ensures_bind sendWithRetry_ensures ?_
      intro sent result made
      have called := made.1
      rw [carried] at called
      replace called := built.before called
      cases result with
      | ok outcome =>
          cases outcome with
          | accepted =>
              apply ensures_done
              rw [List.append_nil]
              exact called.whole Reply.noConfusion
          | permanentDrop statusCode detail =>
              refine (reportPermanent_ensures crates statusCode detail).mono ?_
              intro after outcome reporting
              obtain ⟨reported, rfl⟩ := reporting
              rw [← List.append_assoc]
              exact (reported.after called).whole Reply.noConfusion
          | failed error =>
              apply ensures_done
              rw [List.append_nil]
              exact called.whole Reply.noConfusion
      | error tooLarge =>
          change (splitOrDrop crates transport render batch tooLarge.detail).Ensures _
          unfold splitOrDrop
          by_cases single : batch.items.length ≤ 1
          · rw [if_pos single]
            refine (reportTooLarge_ensures crates tooLarge.detail).mono ?_
            intro after outcome reporting
            obtain ⟨reported, rfl⟩ := reporting
            rw [← List.append_assoc]
            exact (reported.after called).whole fun _ => single
          · have several := Nat.not_le.mp single
            rw [if_neg single]
            refine ensures_bind (ih _ ?_ batch.split.1 rfl) fun left leftOutcome leftHalf => ?_
            · simp only [BatchItems.split, List.length_take]
              omega
            by_cases confirmed : leftOutcome.isConfirmed
            · rw [if_pos confirmed]
              refine (ih _ ?_ batch.split.2 rfl).mono fun right outcome rightHalf => ?_
              · simp only [BatchItems.split, List.length_drop]
                omega
              rw [← List.append_assoc]
              exact called.both several (leftOutcome.isConfirmed_iff.mp confirmed)
                leftHalf rightHalf
            · have failed := not_not.mp (mt leftOutcome.isConfirmed_iff.mpr confirmed)
              rw [if_neg confirmed]
              apply ensures_done
              rw [List.append_nil, ← List.append_assoc, failed]
              rw [failed] at leftHalf
              exact called.leftFailed several leftHalf

end HttpTransport

end GuardAgent
