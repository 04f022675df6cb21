import GuardAgent.Transport.Splitting

/-!
# Delivery guarantees of the transport

Which items of a batch a send disposes of (`HttpTransport.sendBatch_disposes`), and what
becomes of a batch that is too large (`HttpTransport.sendBatch_tooLarge`).
-/

namespace GuardAgent

open Foundation Program

variable {Item : Type}

/-- Surroundings that admit every attempt and answer requests from their content. -/
def TransportOp.admitting (reply : Request Item → HttpReply) :
    (op : TransportOp Item) → op.Answer
  | acquire => true
  | retryAfter => (0 : ℚ)
  | breakerAdmit => true
  | recordSuccess => ()
  | recordFailure => ()
  | sleep _ => ()
  | post request => reply request
  | get url => .clientError s!"unexpected GET {url}"
  | countRequestSent => ()
  | countRequestFailed => ()
  | countBytes _ => ()
  | fireHook _ _ => ()
  | generateBatchId => "1700000000000-0a1b2c3d"
  | utcNow => "2026-01-01T00:00:00Z"
  | randBytes => ⟨List.replicate nonceSize 0, rfl⟩
  | sent _ => ()

/-- The all-zero nonce. -/
def Nonce.zero : Nonce := ⟨List.replicate nonceSize 0, rfl⟩

/-- An encryption under the all-zero key and nonce. -/
structure Sealing where
  plaintext : String
  ciphertext : Bytes
  encoded : String

def Sealing.verification : Sealing where
  plaintext := "\x7b\"test\":\"verification\"\x7d"
  ciphertext := [181, 133, 52, 88, 62, 20, 73, 84, 37, 56, 160, 161, 211, 149, 244, 123, 19, 20,
    106, 165, 89, 132, 87, 27, 171, 230, 122, 157, 129, 30, 217, 3, 9, 174, 135, 51, 29, 105, 252]
  encoded := "AAAAAAAAAAAAAAAAtYU0WD4USVQlOKCh05X0exMUaqVZhFcbq-Z6nYEe2QMJroczHWn8"

def Sealing.pair : Sealing where
  plaintext := "\x7b\"events\":[0,1],\"metrics\":[]\x7d"
  ciphertext := [181, 133, 37, 75, 40, 14, 31, 29, 37, 116, 158, 227, 150, 194, 192, 52, 80, 13,
    102, 190, 69, 207, 73, 7, 243, 152, 174, 211, 8, 63, 18, 30, 120, 88, 30, 199, 93, 186, 91,
    162, 195, 80, 139, 68, 115]
  encoded := "AAAAAAAAAAAAAAAAtYUlSygOHx0ldJ7jlsLANFANZr5Fz0kH85iu0wg_Eh54WB7HXbpbosNQi0Rz"

/-- The encryption crates, on the inputs of the runs considered here. -/
def CipherSuite.sample (known : List Sealing) : CipherSuite where
  base64Encode bytes :=
    ((known.find? fun sealing => bytes == List.replicate nonceSize 0 ++ sealing.ciphertext).map
      Sealing.encoded).getD ""
  base64Decode text :=
    if text = "AAAAAAAAAAAAAAAAAAAAAAAAAAAAAAAAAAAAAAAAAAA" then .ok (List.replicate keySize 0)
    else match known.find? fun sealing => trimEndMatches sealing.encoded '=' == text with
      | some sealing => .ok (List.replicate nonceSize 0 ++ sealing.ciphertext)
      | none => .error "Invalid input"
  encrypt _ _ plaintext _ :=
    match known.find? fun sealing => utf8 sealing.plaintext == plaintext with
    | some sealing => .ok sealing.ciphertext
    | none => .error "aead::Error"
  decrypt _ _ ciphertext _ :=
    match known.find? fun sealing => sealing.ciphertext == ciphertext with
    | some sealing => .ok (utf8 sealing.plaintext)
    | none => .error "aead::Error"
  numberText
    | .posInt value => toString value
    | .negInt value => toString value
    | .float value => s!"{value.num}.0"
  fromSlice bytes :=
    if bytes = utf8 Sealing.verification.plaintext then
      some (.object [("test", .string "verification")])
    else none

/-- The crates, on the inputs of the runs considered here. -/
def Crates.sample (known : List Sealing) : Crates where
  toCipherSuite := .sample known
  toVec value := utf8 ((CipherSuite.sample known).canonicalJson value)
  gzip := id
  hmac _ _ := []
  parseAck _ := none
  debugText text := s!"\"{text}\""
  headerValid text := text.toList.all fun c => 0x20 ≤ c.toNat && c.toNat < 0x7f
  buildClient := .ok ()

def naturalDocument (number : ℕ) : Value := .number (.posInt number)

namespace HttpTransport

variable {crates : Crates} {transport : HttpTransport} {render : Item → Value}

/-- **A confirmed batch is disposed of, a failed one up to a prefix**, each item once
and in order, in at most `2n - 1` calls, each for a contiguous part of the batch;
and every send returns. -/
theorem sendBatch_disposes (plaintext : transport.encryptor = none) (batch : BatchItems Item)
    (nonempty : batch.items ≠ []) :
    (∀ environment, ∃ trace outcome, (trace, outcome) =
        (transport.sendBatch crates render batch).play environment [] ∧
      (transport.sendBatch crates render batch).Run trace outcome) ∧
    ∀ trace outcome, (transport.sendBatch crates render batch).Run trace outcome →
      (outcome.isConfirmed → disposed crates trace = batch.items) ∧
      (¬ outcome.isConfirmed → ∃ count, disposed crates trace = batch.items.take count) ∧
      (sends trace).length ≤ 2 * batch.items.length - 1 ∧
      ∀ sent ∈ sends trace, sent.batch ≠ [] ∧ sent.batch <:+: batch.items := by
  refine ⟨fun environment => ⟨_, _, rfl, play_run environment [] _⟩, fun trace outcome run => ?_⟩
  obtain ⟨halving, calls, _⟩ := sendBatch_ensures plaintext batch trace outcome run
  have finished : disposed crates trace = (sends trace).flatMap Sent.finished :=
    calls.flatMap_disposed
  refine ⟨fun confirmed => ?_, fun failed => ?_, ?_, fun sent member => ⟨?_, ?_⟩⟩
  · rw [finished]
    exact halving.finished_of_confirmed (outcome.isConfirmed_iff.mp confirmed)
  · rw [finished]
    exact halving.finished_of_failed (not_not.mp (mt outcome.isConfirmed_iff.mpr failed))
  · have bounded := halving.length_lt nonempty
    omega
  · exact halving.batch_ne_nil nonempty sent member
  · exact halving.batch_infix sent member

/-- Three items, each too large together with another, and the second rejected alone. -/
theorem sendBatch_disposes_three :
    let transport : HttpTransport := ⟨AgentConfig.new "test-api-key-1234", none⟩
    let run := (transport.sendBatch (Crates.sample []) naturalDocument ⟨.events, [0, 1, 2]⟩).play
      (fun _ => TransportOp.admitting fun request => .response
        (if 1 < request.carried.length then 413 else if request.carried = [1] then 400 else 201)
        none (.ok "")) []
    disposed (Crates.sample []) run.1 = [0, 1, 2] ∧ (sends run.1).length ≤ 5 := by
  intro transport run
  have disposes := (@sendBatch_disposes ℕ (Crates.sample []) transport naturalDocument rfl
    ⟨.events, [0, 1, 2]⟩ (List.cons_ne_nil _ _)).2 run.1 run.2 (play_run _ [] _)
  exact ⟨disposes.1 (by decide +kernel), disposes.2.2.1⟩

/-- What an encrypted send is: the encryption failed, or one call was made for the
whole batch. -/
theorem sendBatchEncrypted_ensures (encryptor : PayloadEncryptor) (batch : BatchItems Item) :
    (transport.sendBatchEncrypted crates render encryptor batch).Ensures fun trace outcome =>
      Quiet crates trace ∨ ∃ reply, Called crates batch.items trace reply ∧
        (reply = .tooLarge → ∃ detail, outcome = .permanentDrop 413 detail) := by
  unfold sendBatchEncrypted
  refine ensures_call fun nonce => ?_
  split
  · exact ensures_call fun _ => ensures_done (Or.inl ⟨rfl, rfl, rfl⟩)
  · apply ensures_call
    intro batchId
    refine ensures_bind sendWithRetry_ensures ?_
    intro sent result made
    have called := made.1
    have drawn : Quiet crates ([⟨.randBytes, nonce⟩, ⟨.generateBatchId, batchId⟩] :
        List (TransportEvent Item)) := ⟨rfl, rfl, rfl⟩
    cases result with
    | ok outcome =>
        cases outcome with
        | accepted =>
            refine ensures_done (Or.inr ⟨.acknowledged, ?_, Reply.noConfusion⟩)
            rw [List.append_nil]
            exact drawn.before called
        | permanentDrop statusCode detail =>
            refine (reportPermanent_ensures crates statusCode detail).mono ?_
            intro after outcome reporting
            obtain ⟨reported, rfl⟩ := reporting
            exact Or.inr ⟨.rejected, drawn.before (reported.after called), Reply.noConfusion⟩
        | failed error =>
            refine ensures_done (Or.inr ⟨.failed, ?_, Reply.noConfusion⟩)
            rw [List.append_nil]
            exact drawn.before called
    | error tooLarge =>
        refine (reportTooLarge_ensures crates tooLarge.detail).mono ?_
        intro after outcome reporting
        obtain ⟨reported, rfl⟩ := reporting
        exact Or.inr ⟨.tooLarge, drawn.before (reported.after called), fun _ => ⟨_, rfl⟩⟩

/-- **What `413` means.** Without a key a batch of several items that is too large is
halved, its left half is sent and, when that was confirmed, its right half; so an item
of a confirmed batch was acknowledged, rejected or too large alone. With a key the
whole batch is dropped. -/
theorem sendBatch_tooLarge (batch : BatchItems Item) (trace : List (TransportEvent Item))
    (outcome : SendOutcome) (run : (transport.sendBatch crates render batch).Run trace outcome) :
    (transport.encryptor = none →
      Halving batch.items (sends trace) outcome.verdict ∧
      (∀ exchange ∈ exchanges trace, exchange.2.tooLarge →
        ⟨exchange.1.carried, .tooLarge⟩ ∈ sends trace) ∧
      (outcome.isConfirmed → ∀ item ∈ batch.items, ∃ exchange ∈ exchanges trace,
        (exchange.2.acknowledged crates ∨ exchange.2.rejected) ∧ item ∈ exchange.1.carried ∨
          exchange.2.tooLarge ∧ exchange.1.carried = [item])) ∧
    (transport.encryptor ≠ none →
      (sends trace).length ≤ 1 ∧
      ∀ exchange ∈ exchanges trace, exchange.2.tooLarge →
        sends trace = [⟨batch.items, .tooLarge⟩] ∧
          ∃ detail, outcome = .permanentDrop 413 detail) := by
  refine ⟨fun plaintext => ?_, fun encrypted => ?_⟩
  · have handled := sendBatch_ensures plaintext batch trace outcome run
    refine ⟨handled.halving, fun exchange member tooLarge => ?_, fun confirmed item member => ?_⟩
    · obtain ⟨sent, present, carried, replied⟩ := handled.calls.exists_sent exchange member
      rw [carried, ← replied tooLarge]
      exact present
    · rw [← handled.halving.finished_of_confirmed (outcome.isConfirmed_iff.mp confirmed),
        ← handled.calls.flatMap_disposed] at member
      obtain ⟨exchange, made, finished⟩ := List.mem_flatMap.mp member
      refine ⟨exchange, made, ?_⟩
      unfold Exchange.disposed at finished
      split at finished
      · next ending =>
          rcases ending with acknowledged | rejected | ⟨tooLarge, single⟩
          · exact Or.inl ⟨Or.inl acknowledged, finished⟩
          · exact Or.inl ⟨Or.inr rejected, finished⟩
          · obtain ⟨only, carried⟩ := List.length_eq_one_iff.mp single
            rw [carried] at finished
            obtain rfl := List.mem_singleton.mp finished
            exact Or.inr ⟨tooLarge, carried⟩
      · exact (List.not_mem_nil finished).elim
  · obtain ⟨encryptor, configured⟩ := Option.ne_none_iff_exists'.mp encrypted
    unfold sendBatch at run
    rw [configured] at run
    rcases sendBatchEncrypted_ensures encryptor batch trace outcome run with
      quiet | ⟨reply, called, dropped⟩
    · refine ⟨?_, fun exchange member => ?_⟩
      · rw [quiet.sends]
        exact Nat.zero_le 1
      · rw [quiet.exchanges] at member
        exact (List.not_mem_nil member).elim
    · refine ⟨?_, fun exchange member tooLarge => ?_⟩
      · rw [called.sends]
        exact Nat.le_refl 1
      · obtain ⟨sent, present, _, replied⟩ := called.calls.exists_sent exchange member
        obtain rfl := List.mem_singleton.mp present
        obtain rfl : reply = .tooLarge := replied tooLarge
        exact ⟨called.sends, dropped rfl⟩

/-- With a key, two items that are too large together are dropped without having been
sent alone. -/
theorem sendBatch_tooLarge_encrypted_pair :
    ∃ (crates : Crates) (transport : HttpTransport) (batch : BatchItems ℕ)
      (trace : List (TransportEvent ℕ)) (outcome : SendOutcome),
      (transport.sendBatch crates naturalDocument batch).Run trace outcome ∧
      outcome = .permanentDrop 413 "" ∧ batch.items = [0, 1] ∧
      (∃ exchange ∈ exchanges trace, exchange.2.tooLarge ∧ exchange.1.carried = [0, 1]) ∧
      ∀ exchange ∈ exchanges trace, ¬ exchange.2.acknowledged crates ∧ ¬ exchange.2.rejected ∧
        exchange.1.carried ≠ [0] ∧ exchange.1.carried ≠ [1] := by
  let transport : HttpTransport :=
    ⟨AgentConfig.new "test-api-key-1234", some ⟨List.replicate keySize 0, rfl⟩⟩
  refine ⟨Crates.sample [.pair], transport, ⟨.events, [0, 1]⟩, _, _, play_run
    (fun _ => TransportOp.admitting fun _ => .response 413 none (.ok "")) [] _, ?_, rfl, ?_, ?_⟩
  · decide +kernel
  · decide +kernel
  · decide +kernel

/-- With the defaults, over a server that takes single items only, three items are halved. -/
theorem sendBatch_tooLarge_three :
    let transport : HttpTransport := ⟨AgentConfig.new "test-api-key-1234", none⟩
    let run := (transport.sendBatch (Crates.sample []) naturalDocument ⟨.events, [0, 1, 2]⟩).play
      (fun _ => TransportOp.admitting fun request => .response
        (if 1 < request.carried.length then 413 else 201) none (.ok "")) []
    Halving [0, 1, 2] (sends run.1) run.2.verdict := by
  intro transport run
  exact ((@sendBatch_tooLarge ℕ (Crates.sample []) transport naturalDocument
    ⟨.events, [0, 1, 2]⟩ run.1 run.2 (play_run _ [] _)).1 rfl).1

end HttpTransport

end GuardAgent
