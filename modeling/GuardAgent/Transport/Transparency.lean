import GuardAgent.Foundation.Surroundings
import GuardAgent.Transport.Delivery

/-!
# Compression and signing are transparent

The compression and the signature change nothing but the bytes of a request and its
headers: what a send asks of its surroundings and what it returns, it does and returns
without them as well (`HttpTransport.sendBatch_transparent`).
-/

namespace GuardAgent

open Foundation Program

variable {Item : Type}

/-- The request without what compression and signing put into it. -/
def Request.unframed (request : Request Item) : Request Item :=
  { request with wireBody := [], gzipped := false, signature := none }

/-- The operation up to the bytes of its request. -/
def TransportOp.unframed : TransportOp Item → TransportOp Item
  | .post request => .post request.unframed
  | .countBytes _ => .countBytes 0
  | op => op

/-- The answers to an operation do not depend on how its body is framed. -/
theorem TransportOp.answer_unframed (op : TransportOp Item) : op.Answer = op.unframed.Answer := by
  cases op <;> rfl

/-- Requests cannot be told apart by their bytes. -/
def unframedView (Item : Type) :
    Signature.View (transportSignature Item) (transportSignature Item) where
  op := TransportOp.unframed
  answer op := Equiv.cast op.answer_unframed

/-- A trace up to the bytes of its requests. -/
def unframed (trace : List (TransportEvent Item)) : List (TransportEvent Item) :=
  trace.map (unframedView Item).event

namespace HttpTransport

/-- The transport with other settings for the compression and the signature. -/
def framed (transport : HttpTransport) (compressionEnabled : Bool) (compressionThreshold : ℕ)
    (payloadSigningSecret : Option String) : HttpTransport :=
  { transport with
    config := { transport.config with
      compressionEnabled := compressionEnabled
      compressionThreshold := compressionThreshold
      payloadSigningSecret := payloadSigningSecret } }

variable {crates : Crates} {transport : HttpTransport} {render : Item → Value}
  {enabled : Bool} {threshold : ℕ} {secret : Option String}

/-- An attempt is the same but for how its body is framed. -/
theorem attempt_alike (label : String) (body : Body Item) :
    Alike (unframedView Item) (transport.attempt crates label body)
      ((transport.framed enabled threshold secret).attempt crates label body) := rfl

/-- The retry loop asks for the same. The induction is on the attempts to go. -/
theorem retryLoop_alike (label : String) (body : Body Item) (attempt remaining : ℕ) :
    Alike (unframedView Item) (transport.retryLoop crates label body attempt remaining)
      ((transport.framed enabled threshold secret).retryLoop crates label body attempt
        remaining) := by
  induction remaining generalizing attempt with
  | zero => exact .refl _
  | succ remaining ih =>
      unfold retryLoop
      refine .call fun acquired => ?_
      cases (acquired : Bool) with
      | false => exact .call fun _ => .call fun _ => ih (attempt + 1)
      | true =>
          refine .call fun admitted => ?_
          cases (admitted : Bool) with
          | false =>
              simp only [Bool.not_false, ↓reduceIte]
              split
              · exact .refl _
              · exact .call fun _ => ih (attempt + 1)
          | true =>
              refine .bind (attempt_alike label body) fun result => ?_
              cases result with
              | accepted => exact .refl _
              | partialFailure errors => exact .refl _
              | permanent statusCode detail => exact .refl _
              | tooLarge detail => exact .refl _
              | rateLimited retryAfterSeconds =>
                  refine .call fun _ => ?_
                  split
                  · exact .refl _
                  · exact .call fun _ => ih (attempt + 1)
              | retryable error =>
                  refine .call fun _ => ?_
                  split
                  · exact .refl _
                  · exact .call fun _ => ih (attempt + 1)

/-- A call of `send_with_retry` is the same but for how its body is framed. -/
theorem sendWithRetry_alike (label : String) (body : Body Item) :
    Alike (unframedView Item) (transport.sendWithRetry crates label body)
      ((transport.framed enabled threshold secret).sendWithRetry crates label body) :=
  .bind (retryLoop_alike label body 0 _) fun _ => .refl _

/-- An encrypted batch is sent alike but for how its body is framed. -/
theorem sendBatchEncrypted_alike (encryptor : PayloadEncryptor) (batch : BatchItems Item) :
    Alike (unframedView Item) (transport.sendBatchEncrypted crates render encryptor batch)
      ((transport.framed enabled threshold secret).sendBatchEncrypted crates render encryptor
        batch) := by
  unfold sendBatchEncrypted
  refine .call fun nonce => ?_
  split
  · exact .refl _
  · refine .call fun batchId => ?_
    exact .bind (sendWithRetry_alike "events/encrypted" _) fun _ => .refl _

/-- A plaintext send and its splits ask for the same. The induction is on the number of
items. -/
theorem sendBatch_alike (batch : BatchItems Item) :
    Alike (unframedView Item) (transport.sendBatch crates render batch)
      ((transport.framed enabled threshold secret).sendBatch crates render batch) := by
  induction size : batch.items.length using Nat.strong_induction_on generalizing batch with
  | _ count ih =>
      unfold sendBatch
      have same : (transport.framed enabled threshold secret).encryptor = transport.encryptor := rfl
      rw [same]
      cases transport.encryptor with
      | some encryptor => exact sendBatchEncrypted_alike encryptor batch
      | none =>
          refine .bind (.refl (buildBatchBody crates transport render batch)) fun body => ?_
          refine .bind (sendWithRetry_alike _ _) fun result => ?_
          cases result with
          | ok outcome => cases outcome <;> exact .refl _
          | error tooLarge =>
              change Alike _ (splitOrDrop crates transport render batch tooLarge.detail)
                (splitOrDrop crates (transport.framed enabled threshold secret) render batch
                  tooLarge.detail)
              unfold splitOrDrop
              by_cases single : batch.items.length ≤ 1
              · rw [if_pos single, if_pos single]
                exact .refl _
              · have left : batch.split.1.items.length < count := by
                  simp only [BatchItems.split, List.length_take]
                  omega
                have right : batch.split.2.items.length < count := by
                  simp only [BatchItems.split, List.length_drop]
                  omega
                rw [if_neg single, if_neg single]
                refine .bind (ih _ left batch.split.1 rfl) fun leftOutcome => ?_
                split
                · exact ih _ right batch.split.2 rfl
                · exact .refl _

/-- **Compression and signing are transparent.** Whatever the compression, its threshold and
the signing secret are set to, a run of a send has a counterpart under any other setting with
the same outcome, in which the surroundings are asked for the same and answer the same, except
that the requests have other bytes and headers. -/
theorem sendBatch_transparent (crates : Crates) (transport : HttpTransport) (render : Item → Value)
    (compressionEnabled : Bool) (compressionThreshold : ℕ) (payloadSigningSecret : Option String)
    (batch : BatchItems Item) {trace : List (TransportEvent Item)} {outcome : SendOutcome}
    (run : (transport.sendBatch crates render batch).Run trace outcome) :
    ∃ trace', unframed trace' = unframed trace ∧
      ((transport.framed compressionEnabled compressionThreshold payloadSigningSecret).sendBatch
        crates render batch).Run trace' outcome :=
  (sendBatch_alike batch).exists_run run

/-- A batch that is split for its size is split without compression as well. -/
theorem sendBatch_transparent_pair :
    let transport : HttpTransport := ⟨AgentConfig.new "test-api-key-1234", none⟩
    let run := (transport.sendBatch (Crates.sample []) naturalDocument ⟨.events, [0, 1]⟩).play
      (fun _ => TransportOp.admitting fun request => .response
        (if 1 < request.carried.length then 413 else 201) none (.ok "")) []
    run.2 = .accepted ∧ ∃ trace', unframed trace' = unframed run.1 ∧
      ((transport.framed false 0 none).sendBatch (Crates.sample []) naturalDocument
        ⟨.events, [0, 1]⟩).Run trace' .accepted := by
  intro transport run
  have accepted : run.2 = .accepted := by decide +kernel
  refine ⟨accepted, ?_⟩
  rw [← accepted]
  exact sendBatch_transparent (Crates.sample []) transport naturalDocument false 0 none
    ⟨.events, [0, 1]⟩ (play_run _ [] _)

end HttpTransport

end GuardAgent
