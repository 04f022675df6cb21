import GuardAgent.Transport.Send

/-!
# Requests and replies of a send

The exchanges of a trace of the transport, which items each of them finished, and
the calls of `send_with_retry` they were made by.
-/

namespace GuardAgent

open Foundation

variable {Item : Type} (crates : Crates)

namespace HttpReply

/-- A `201` to `299`, or a `200` whose acknowledgement reports no failure. -/
def acknowledged : HttpReply → Bool
  | .response status _ (.ok bodyText) =>
      if status = 200 then
        match crates.parseAck bodyText with
        | some ack => ack.success ≠ some false ∧ ack.errors.getD [] = []
        | none => false
      else 201 ≤ status ∧ status ≤ 299
  | _ => false

/-- A permanent rejection. -/
def rejected : HttpReply → Bool
  | .response status _ (.ok _) => status = 400 ∨ status = 404 ∨ status = 422
  | _ => false

def tooLarge : HttpReply → Bool
  | .response status _ (.ok _) => status = 413
  | _ => false

end HttpReply

/-- A request with its reply. -/
abbrev Exchange (Item : Type) : Type := Request Item × HttpReply

/-- The items an exchange finished. -/
def Exchange.disposed (exchange : Exchange Item) : List Item :=
  if exchange.2.acknowledged crates ∨ exchange.2.rejected ∨
      (exchange.2.tooLarge ∧ exchange.1.carried.length = 1) then exchange.1.carried
  else []

def exchange? : TransportEvent Item → Option (Exchange Item)
  | ⟨.post request, reply⟩ => some (request, reply)
  | _ => none

def send? : TransportEvent Item → Option (Sent Item)
  | ⟨.sent send, _⟩ => some send
  | _ => none

/-- The items an attempt finished: none when the limiter or the breaker refused it. -/
def attempt? : TransportEvent Item → Option (List Item)
  | ⟨.acquire, acquired⟩ => bif (acquired : Bool) then none else some []
  | ⟨.breakerAdmit, admitted⟩ => bif (admitted : Bool) then none else some []
  | ⟨.post request, reply⟩ => some (Exchange.disposed crates (request, reply))
  | _ => none

/-- The exchanges of a trace. -/
def exchanges (trace : List (TransportEvent Item)) : List (Exchange Item) :=
  trace.filterMap exchange?

/-- The completed calls of `send_with_retry`, each with its batch and its result. -/
def sends (trace : List (TransportEvent Item)) : List (Sent Item) :=
  trace.filterMap send?

/-- What each attempt of a trace finished, in turn. -/
def attempts (trace : List (TransportEvent Item)) : List (List Item) :=
  trace.filterMap (attempt? crates)

/-- The items disposed of in a trace, in order. -/
def disposed (trace : List (TransportEvent Item)) : List Item :=
  (exchanges trace).flatMap (Exchange.disposed crates)

/-- The exchanges of two traces in a row are those of each of them. -/
@[simp] theorem exchanges_append (first second : List (TransportEvent Item)) :
    exchanges (first ++ second) = exchanges first ++ exchanges second :=
  List.filterMap_append

/-- The calls of two traces in a row are those of each of them. -/
@[simp] theorem sends_append (first second : List (TransportEvent Item)) :
    sends (first ++ second) = sends first ++ sends second :=
  List.filterMap_append

/-- The attempts of two traces in a row are those of each of them. -/
@[simp] theorem attempts_append (first second : List (TransportEvent Item)) :
    attempts crates (first ++ second) = attempts crates first ++ attempts crates second :=
  List.filterMap_append

/-- What the attempts finished, taken together, is what was disposed of. -/
theorem flatten_attempts (trace : List (TransportEvent Item)) :
    (attempts crates trace).flatten = disposed crates trace := by
  induction trace with
  | nil => rfl
  | cons event trace ih =>
      obtain ⟨op, answer⟩ := event
      cases op with
      | post request =>
          change Exchange.disposed crates _ ++ (attempts crates trace).flatten =
            Exchange.disposed crates _ ++ disposed crates trace
          rw [ih]
      | acquire =>
          cases (answer : Bool) with
          | true => exact ih
          | false => exact ih
      | breakerAdmit =>
          cases (answer : Bool) with
          | true => exact ih
          | false => exact ih
      | _ => exact ih

/-- How a classified attempt was answered. -/
def AttemptResult.reply : AttemptResult → Reply
  | .accepted => .acknowledged
  | .permanent _ _ => .rejected
  | .tooLarge _ => .tooLarge
  | .partialFailure _ => .failed
  | .rateLimited _ => .failed
  | .retryable _ => .failed

namespace HttpTransport

/-- A `200` is read as the acknowledgement that it is. -/
theorem parseAck_reply (bodyText : String) : (parseAck crates bodyText).reply =
    if (HttpReply.response 200 none (.ok bodyText)).acknowledged crates then .acknowledged
    else .failed := by
  simp only [parseAck, HttpReply.acknowledged, ↓reduceIte]
  cases crates.parseAck bodyText with
  | none => rfl
  | some ack =>
      dsimp only
      by_cases partialFailure : ack.success = some false ∨ ack.errors.getD [] ≠ []
      · have unacknowledged : ¬(ack.success ≠ some false ∧ ack.errors.getD [] = []) := by
          rwa [not_and_or, not_not]
        rw [if_pos partialFailure, if_neg (mt of_decide_eq_true unacknowledged)]
        rfl
      · have acknowledged : ack.success ≠ some false ∧ ack.errors.getD [] = [] := by
          rwa [not_or, not_not] at partialFailure
        rw [if_neg partialFailure, if_pos (decide_eq_true acknowledged)]
        rfl

/-- The classification agrees with the status and the body of the reply. -/
theorem classifyAttempt_reply (url : String) (reply : HttpReply) :
    (classifyAttempt crates url reply).reply =
      if reply.acknowledged crates then .acknowledged
      else if reply.rejected then .rejected
      else if reply.tooLarge then .tooLarge else .failed := by
  cases reply with
  | clientError message => rfl
  | response status retryAfter body =>
      cases body with
      | error message => rfl
      | ok bodyText =>
          simp only [classifyAttempt, classifyResponse]
          split
          · next ok =>
              subst ok
              rw [parseAck_reply]
              rfl
          · next other =>
              simp only [HttpReply.acknowledged, HttpReply.rejected, HttpReply.tooLarge, other,
                ↓reduceIte, decide_eq_true_eq, nonRetryableStatusCodes, List.mem_cons,
                List.not_mem_nil, or_false]
              split_ifs <;> first | rfl | omega

/-- A `413` is classified as too large. -/
theorem classifyAttempt_tooLarge (url : String) (reply : HttpReply) (tooLarge : reply.tooLarge) :
    (classifyAttempt crates url reply).reply = .tooLarge := by
  rw [classifyAttempt_reply]
  cases reply with
  | clientError message => exact Bool.noConfusion tooLarge
  | response status retryAfter body =>
      cases body with
      | error message => exact Bool.noConfusion tooLarge
      | ok bodyText =>
          obtain rfl := of_decide_eq_true tooLarge
          rfl

end HttpTransport

end GuardAgent
