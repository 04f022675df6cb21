import GuardAgent.Transport.Splitting

/-!
# What the requests of a send contain

Every request of a call of `send_batch` has the items it carries in its body, either in
the plain envelope or, with a key, only inside the ciphertext
(`HttpTransport.sendBatch_posts`).
-/

namespace GuardAgent

open Foundation Program

variable {Item : Type}

/-- Every request that the program makes is of this kind. -/
def Requests {α : Type} (allowed : Request Item → Prop) (program : TransportProgram Item α) :
    Prop :=
  program.Ensures fun trace _ => ∀ exchange ∈ exchanges trace, allowed exchange.1

namespace Requests

variable {α β : Type} {allowed : Request Item → Prop}

/-- A program makes requests of each wider kind. -/
theorem mono {stronger weaker : Request Item → Prop} {program : TransportProgram Item α}
    (requests : Requests stronger program)
    (implies : ∀ request, stronger request → weaker request) : Requests weaker program :=
  Ensures.mono requests fun _ _ requested exchange member =>
    implies _ (requested exchange member)

/-- A program that performs nothing makes no request. -/
theorem done (value : α) : Requests allowed (Program.done value : TransportProgram Item α) :=
  ensures_done fun _ member => (List.not_mem_nil member).elim

/-- The rule of an operation that is no request. -/
theorem call {op : TransportOp Item} {rest : op.Answer → TransportProgram Item β}
    (silent : ∀ answer : op.Answer, exchange? ⟨op, answer⟩ = none)
    (later : ∀ answer, Requests allowed (rest answer)) :
    Requests allowed (perform op >>= rest) := by
  refine ensures_call fun answer => Ensures.mono (later answer) ?_
  intro trace _ requested exchange member
  simp only [exchanges, List.filterMap_cons, silent answer] at member
  exact requested exchange member

/-- Two programs in turn make requests of a kind if each of them does. -/
theorem bind {program : TransportProgram Item α} {rest : α → TransportProgram Item β}
    (first : Requests allowed program) (later : ∀ value, Requests allowed (rest value)) :
    Requests allowed (program >>= rest) := by
  refine ensures_bind first ?_
  intro before value requested
  refine Ensures.mono (later value) ?_
  intro after _ requested' exchange member
  rw [exchanges_append] at member
  rcases List.mem_append.mp member with earlier | later
  · exact requested exchange earlier
  · exact requested' exchange later

end Requests

namespace HttpTransport

variable (crates : Crates) (transport : HttpTransport) (render : Item → Value)

/-- The request goes to the endpoint of its kind and has its items in the clear. -/
def PostsPlain (kind : Kind) (request : Request Item) : Prop :=
  ∃ batchId createdAt, request = transport.request crates kind.label
    ⟨crates.toVec (transport.batchEnvelope render ⟨kind, request.carried⟩ batchId createdAt),
      request.carried⟩

/-- The request goes to the encrypted endpoint and has its items only inside the
ciphertext. -/
def Seals (encryptor : PayloadEncryptor) (kind : Kind) (request : Request Item) : Prop :=
  ∃ nonce ciphertext batchId,
    crates.encrypt encryptor.key nonce
      (utf8 (crates.canonicalJson (sealedPayload render ⟨kind, request.carried⟩))) (utf8 "") =
        .ok ciphertext ∧
    request = transport.request crates "events/encrypted"
      ⟨crates.toVec (transport.encryptedEnvelope
        (crates.base64Encode (nonce.val ++ ciphertext)) batchId), request.carried⟩

/-- How the request has its items, by whether there is a key. -/
def Posts (kind : Kind) (request : Request Item) : Prop :=
  match transport.encryptor with
  | none => transport.PostsPlain crates render kind request
  | some encryptor => transport.Seals crates render encryptor kind request

variable {crates transport render} {label : String} {body : Body Item}
  {allowed : Request Item → Prop}

/-- A call of `send_with_retry` makes its own request over and over. -/
theorem sendWithRetry_requests (fits : allowed (transport.request crates label body)) :
    Requests allowed (transport.sendWithRetry crates label body) := by
  refine sendWithRetry_ensures.mono ?_
  intro trace result made exchange member
  rw [made.2 exchange member]
  exact fits

/-- Reporting a rejected batch makes no request. -/
theorem reportPermanent_requests (statusCode : ℕ) (detail : String) :
    Requests allowed (reportPermanent statusCode detail) :=
  .call (fun _ => rfl) fun _ => .done _

/-- Reporting a batch that is too large makes no request. -/
theorem reportTooLarge_requests (detail : String) :
    Requests allowed (reportTooLarge detail) :=
  .call (fun _ => rfl) fun _ => .done _

/-- Without a key, every request of a send has a contiguous part of the batch in the clear. The
induction is on the number of items. -/
theorem sendBatch_postsPlain (plaintext : transport.encryptor = none) (batch : BatchItems Item) :
    Requests (fun request => transport.PostsPlain crates render batch.kind request ∧
        request.carried <:+: batch.items)
      (transport.sendBatch crates render batch) := by
  induction size : batch.items.length using Nat.strong_induction_on generalizing batch with
  | _ total ih =>
      unfold sendBatch
      simp only [plaintext]
      unfold buildBatchBody
      refine Requests.call (fun _ => rfl) fun batchId => ?_
      refine Requests.call (fun _ => rfl) fun createdAt => ?_
      refine Requests.bind (sendWithRetry_requests ⟨⟨batchId, createdAt, rfl⟩, List.infix_rfl⟩) ?_
      intro result
      cases result with
      | ok outcome =>
          cases outcome with
          | accepted => exact .done _
          | permanentDrop statusCode detail => exact reportPermanent_requests statusCode detail
          | failed error => exact .done _
      | error tooLarge =>
          change Requests _ (splitOrDrop crates transport render batch tooLarge.detail)
          unfold splitOrDrop
          by_cases single : batch.items.length ≤ 1
          · rw [if_pos single]
            exact reportTooLarge_requests tooLarge.detail
          · have several := Nat.not_le.mp single
            rw [if_neg single]
            have left : batch.split.1.items.length < total := by
              simp only [BatchItems.split, List.length_take]
              omega
            have right : batch.split.2.items.length < total := by
              simp only [BatchItems.split, List.length_drop]
              omega
            refine Requests.bind ((ih _ left batch.split.1 rfl).mono ?_) ?_
            · intro request sent
              exact ⟨sent.1, sent.2.trans (List.take_prefix ..).isInfix⟩
            intro leftOutcome
            by_cases confirmed : leftOutcome.isConfirmed
            · rw [if_pos confirmed]
              refine (ih _ right batch.split.2 rfl).mono ?_
              intro request sent
              exact ⟨sent.1, sent.2.trans (List.drop_suffix ..).isInfix⟩
            · rw [if_neg confirmed]
              exact .done _

/-- With a key, every request of a send is sealed and has the batch. -/
theorem sendBatch_seals {encryptor : PayloadEncryptor}
    (configured : transport.encryptor = some encryptor) (batch : BatchItems Item) :
    Requests (fun request => transport.Seals crates render encryptor batch.kind request ∧
        request.carried = batch.items)
      (transport.sendBatch crates render batch) := by
  unfold sendBatch
  rw [configured]
  change Requests _ (transport.sendBatchEncrypted crates render encryptor batch)
  unfold sendBatchEncrypted
  refine Requests.call (fun _ => rfl) fun nonce => ?_
  split
  · exact .call (fun _ => rfl) fun _ => .done _
  · next encrypted computed =>
      obtain ⟨ciphertext, enciphered, rfl⟩ := PayloadEncryptor.exists_ciphertext computed
      refine Requests.call (fun _ => rfl) fun batchId => ?_
      have sealed : transport.Seals crates render encryptor batch.kind
          (transport.request crates "events/encrypted" ⟨crates.toVec (transport.encryptedEnvelope
            (crates.base64Encode (nonce.val ++ ciphertext)) batchId), batch.items⟩) :=
        ⟨nonce, ciphertext, batchId, enciphered, rfl⟩
      refine Requests.bind (sendWithRetry_requests ⟨sealed, rfl⟩) ?_
      intro result
      cases result with
      | ok outcome =>
          cases outcome with
          | accepted => exact .done _
          | permanentDrop statusCode detail => exact reportPermanent_requests statusCode detail
          | failed error => exact .done _
      | error tooLarge => exact reportTooLarge_requests tooLarge.detail

/-- **Every request of a send has a contiguous part of the batch in its body**, and with a key
only inside the ciphertext. -/
theorem sendBatch_posts (batch : BatchItems Item) :
    Requests (fun request => transport.Posts crates render batch.kind request ∧
        request.carried <:+: batch.items)
      (transport.sendBatch crates render batch) := by
  cases configured : transport.encryptor with
  | none =>
      refine (sendBatch_postsPlain configured batch).mono ?_
      intro request sent
      simpa only [Posts, configured] using sent
  | some encryptor =>
      refine (sendBatch_seals configured batch).mono ?_
      intro request sent
      refine ⟨?_, sent.2 ▸ List.infix_rfl⟩
      simpa only [Posts, configured] using sent.1

end HttpTransport

end GuardAgent
