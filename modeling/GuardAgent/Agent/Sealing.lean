import GuardAgent.Agent.Calls
import GuardAgent.Transport.Bodies

/-!
# What leaves the process

Every request of a run has its items in its body, as `send_batch` puts them there
(`Agent.posts`). So an agent that was built with a key that is not empty posts its items
only inside the ciphertext (`Agent.encryption_fails_closed`); an empty key is no key
(`Agent.plaintext_of_empty_key`).
-/

namespace GuardAgent

open Foundation

/-- The document of an item in the buffer. -/
abbrev Occurrence.document {kind : Kind} (occurrence : Occurrence kind) : Value :=
  Telemetry.toValue kind occurrence.item

/-- Every request of a run has items in its body that entered the buffer. -/
theorem Traced.posts {agent : Agent} {kind : Kind} {pool : Pool Shared Task}
    (traced : Traced agent kind pool) : ∀ exchange ∈ (pool.shared.columns kind).wire,
      agent.transport.Posts agent.crates Occurrence.document kind exchange.1 ∧
      ∀ item ∈ exchange.1.carried, ∃ entry ∈ (ledger kind pool).entered, entry.item = item := by
  intro exchange made
  obtain ⟨items, trace, rest, reached, inside, entered⟩ := traced.made exchange made
  obtain ⟨later, outcome, run⟩ := reached.of_run (TransportOp.admitting fun _ => .clientError "")
  have present : exchange ∈ exchanges (trace ++ later) := by
    rw [exchanges_append]
    exact List.mem_append_left _ inside
  have sent := HttpTransport.sendBatch_posts ⟨kind, items⟩ _ _ run exchange present
  exact ⟨sent.1, fun item member => entered item (sent.2.subset member)⟩

namespace Agent

/-- **Every request has its items in its body**, and with a key only inside the
ciphertext. -/
theorem posts (agent : Agent) (records : Kind → Records) {labels : List (PoolLabel Arrival Choice)}
    {pool : Pool Shared Task} (run : agent.machine.Run ⟨agent.initial records, []⟩ labels pool)
    (kind : Kind) : ∀ exchange ∈ (pool.shared.columns kind).wire,
      agent.transport.Posts agent.crates Occurrence.document kind exchange.1 := by
  intro exchange made
  exact ((agent.traced records run kind).2.posts exchange made).1

end Agent

/-- Normalizing changes nothing but the endpoint. -/
theorem AgentConfig.normalizeEndpoint_eq (config : AgentConfig) : ∃ endpoint problems,
    config.normalizeEndpoint = ({ config with endpoint := endpoint }, problems) := by
  by_cases empty : (trim config.endpoint).isEmpty
  · exact ⟨_, _, if_pos empty⟩
  · exact ⟨_, _, if_neg empty⟩

/-- Validation changes nothing but the endpoint. -/
theorem AgentConfig.validate_eq (config : AgentConfig) :
    ∃ endpoint, config.validate.1 = { config with endpoint := endpoint } := by
  obtain ⟨endpoint, problems, same⟩ := config.normalizeEndpoint_eq
  refine ⟨endpoint, ?_⟩
  simp only [validate, same]

/-- With a key that is not empty there is a transport only when there is an encryptor. -/
theorem HttpTransport.exists_encryptor {crates : Crates} {config : AgentConfig}
    {installId : String} {nonce : Nonce} {transport : HttpTransport} {key : String}
    (configured : config.projectEncryptionKey = some key) (nonempty : key ≠ "")
    (built : HttpTransport.new crates config installId nonce = .ok transport) :
    ∃ encryptor, PayloadEncryptor.new crates.toCipherSuite key = .ok encryptor ∧
      transport = ⟨config, some encryptor⟩ := by
  unfold HttpTransport.new initEncryption at built
  simp only [configured, nonempty, ↓reduceIte] at built
  split at built
  · split at built
    · cases built
    · split at built
      · cases built
      · next encryptor valid =>
          split at built
          · cases built
            exact ⟨encryptor, valid, rfl⟩
          · cases built
  · cases built

/-- An agent that was built with a key that is not empty encrypts under it. -/
theorem Agent.exists_encryptor {crates : Crates} {toLowercase : String → String}
    {toRecord : (kind : Kind) → Telemetry kind → String}
    {fromRecord : (kind : Kind) → String → Option (Telemetry kind)} {config : AgentConfig}
    {installId : String} {nonce : Nonce} {agent : Agent} {key : String}
    (configured : config.projectEncryptionKey = some key) (nonempty : key ≠ "")
    (built : Agent.new crates toLowercase toRecord fromRecord config installId nonce = .ok agent) :
    ∃ encryptor, PayloadEncryptor.new crates.toCipherSuite key = .ok encryptor ∧
      agent.crates = crates ∧ agent.transport = ⟨agent.config, some encryptor⟩ := by
  obtain ⟨endpoint, normalized⟩ := config.validate_eq
  unfold Agent.new at built
  split at built
  · cases built
  · next config' valid =>
      have same : config' = { config with endpoint := endpoint } := by
        rw [← normalized, valid]
      have configured' : config'.projectEncryptionKey = some key := by
        rw [same]
        exact configured
      cases constructed : HttpTransport.new crates config' installId nonce with
      | error error =>
          rw [constructed] at built
          cases built
      | ok transport =>
          rw [constructed] at built
          cases built
          obtain ⟨encryptor, accepted, rfl⟩ :=
            HttpTransport.exists_encryptor configured' nonempty constructed
          exact ⟨encryptor, accepted, rfl, rfl⟩

/-- Encrypted batches go to the endpoint's encrypted events. -/
theorem HttpTransport.url_encrypted {Item : Type} (crates : Crates) (transport : HttpTransport)
    (body : Body Item) : (transport.request crates "events/encrypted" body).url =
      transport.config.endpoint ++ "/api/v1/events/encrypted" :=
  String.append_assoc ..

/-- The encryption of the batch of one metric under the all-zero key and nonce. -/
def Sealing.metric : Sealing where
  plaintext := "\x7b\"events\":[],\"metrics\":[\x7b\"endpoint\":null,\"metric_type\":" ++
    "\"request_count\",\"tags\":\x7b\x7d,\"timestamp\":\"2026-01-01T00:00:00Z\"," ++
    "\"value\":1.0\x7d]\x7d"
  ciphertext := [181, 133, 37, 75, 40, 14, 31, 29, 37, 116, 158, 142, 150, 209, 240, 125, 6, 18,
    106, 169, 68, 132, 16, 47, 170, 128, 144, 224, 17, 118, 90, 231, 179, 62, 147, 18, 35, 63, 141,
    23, 109, 202, 52, 65, 51, 126, 95, 148, 24, 53, 178, 145, 228, 153, 69, 18, 19, 25, 108, 150,
    206, 127, 78, 64, 179, 171, 250, 29, 85, 138, 1, 21, 20, 244, 203, 147, 99, 171, 28, 221, 144,
    141, 61, 217, 173, 171, 213, 89, 135, 209, 108, 68, 110, 124, 47, 157, 153, 204, 90, 253, 95,
    168, 234, 21, 11, 128, 141, 255, 213, 28, 198, 25, 138, 80, 195, 135, 10, 65, 129, 159, 22, 226,
    149, 52, 162, 57, 80, 111, 30, 31, 72, 38, 115, 254, 54, 98, 45, 15, 81, 133, 181, 151, 54, 133,
    70, 18]
  encoded := "AAAAAAAAAAAAAAAAtYUlSygOHx0ldJ6OltHwfQYSaqlEhBAvqoCQ4BF2WuezPpMSIz-NF23KNEEzfl-U" ++
    "GDWykeSZRRITGWyWzn9OQLOr-h1VigEVFPTLk2OrHN2QjT3ZravVWYfRbERufC-dmcxa_V-o6hULgI3_1RzGGYpQw4cK" ++
    "QYGfFuKVNKI5UG8eH0gmc_42Yi0PUYW1lzaFRhI="

/-- The records of the sample agent, under crates that know these encryptions. -/
def Agent.sampleNew (known : List Sealing) (config : AgentConfig) : Except GuardAgentError Agent :=
  let sample := Agent.sample config []
  Agent.new (.sample known) sample.redactor.toLowercase sample.toRecord sample.fromRecord config
    "2c5ea4c0-4067-11e9-8bad-9b1deb4d3b7d" .zero

/-- A metric is sent and flushed. -/
def sampleFlush : List (PoolLabel Arrival Choice) :=
  let act (tid : ℕ) : PoolLabel Arrival Choice :=
    .run tid (.sample 1700000000000000000 .ok fun _ => .response 201 none (.ok ""))
  [.arrive (.trySend .metrics (sampleMetric 1 [])), act 0, .arrive .flushBuffer] ++
    List.replicate 15 (act 1)

namespace Agent

/-- **With a key that is not empty, nothing is posted in the clear**: either no agent is
built, or every request of every run goes to the encrypted endpoint and has its items
only inside the ciphertext under that key. -/
theorem encryption_fails_closed (crates : Crates) (toLowercase : String → String)
    (toRecord : (kind : Kind) → Telemetry kind → String)
    (fromRecord : (kind : Kind) → String → Option (Telemetry kind)) (config : AgentConfig)
    (installId : String) (nonce : Nonce) (key : String)
    (configured : config.projectEncryptionKey = some key) (nonempty : key ≠ "") :
    (∃ error, Agent.new crates toLowercase toRecord fromRecord config installId nonce =
      .error error) ∨
    ∃ agent encryptor,
      Agent.new crates toLowercase toRecord fromRecord config installId nonce = .ok agent ∧
      PayloadEncryptor.new crates.toCipherSuite key = .ok encryptor ∧
      ∀ records labels pool, agent.machine.Run ⟨agent.initial records, []⟩ labels pool →
        ∀ kind, ∀ exchange ∈ (pool.shared.columns kind).wire,
          exchange.1.url = agent.config.endpoint ++ "/api/v1/events/encrypted" ∧
          agent.transport.Seals crates Occurrence.document encryptor kind exchange.1 := by
  cases built : Agent.new crates toLowercase toRecord fromRecord config installId nonce with
  | error error => exact Or.inl ⟨error, rfl⟩
  | ok agent =>
      obtain ⟨encryptor, accepted, same, transport⟩ :=
        Agent.exists_encryptor configured nonempty built
      subst same
      refine Or.inr ⟨agent, encryptor, rfl, accepted, ?_⟩
      intro records labels pool run kind exchange made
      have posted := agent.posts records run kind exchange made
      rw [HttpTransport.Posts, transport] at posted
      rw [transport]
      refine ⟨?_, posted⟩
      obtain ⟨_, _, _, _, requested⟩ := posted
      rw [requested, HttpTransport.url_encrypted]

/-- Under the all-zero key one metric is posted, encrypted. -/
theorem encryption_fails_closed_of_valid_key :
    let config := { AgentConfig.new "test-api-key-1234" with
      projectEncryptionKey := some "AAAAAAAAAAAAAAAAAAAAAAAAAAAAAAAAAAAAAAAAAAA" }
    ∃ agent pool, Agent.sampleNew [.verification, .metric] config = .ok agent ∧
      agent.machine.Run ⟨agent.initial fun _ => ∅, []⟩ sampleFlush pool ∧
      (pool.shared.columns .metrics).wire.length = 1 ∧
      ∀ exchange ∈ (pool.shared.columns .metrics).wire,
        exchange.1.url = agent.config.endpoint ++ "/api/v1/events/encrypted" := by
  intro config
  have checked : (Agent.sampleNew [.verification, .metric] config).toOption.any (fun agent =>
      (agent.machine.run? ⟨agent.initial fun _ => ∅, []⟩ sampleFlush).any fun pool =>
        (pool.shared.columns .metrics).wire.length = 1) = true := by
    decide +kernel
  rcases encryption_fails_closed (.sample [.verification, .metric]) _ _ _ config _ _ _ rfl
    (by decide) with ⟨error, failed⟩ | ⟨agent, encryptor, built, _, closed⟩
  · rw [Agent.sampleNew, failed] at checked
    cases checked
  · rw [Agent.sampleNew, built] at checked
    obtain ⟨pool, run, posted⟩ := Machine.exists_run checked
    exact ⟨agent, pool, built, run, of_decide_eq_true posted,
      fun exchange made => (closed _ _ _ run .metrics exchange made).1⟩

/-- An empty key, which is no key for the encryption, is taken for none: the metric is
posted in the clear. -/
theorem plaintext_of_empty_key :
    let config := { AgentConfig.new "test-api-key-1234" with projectEncryptionKey := some "" }
    (∃ error, PayloadEncryptor.new (CipherSuite.sample []) "" = .error error) ∧
    ∃ agent pool, Agent.sampleNew [] config = .ok agent ∧
      agent.machine.Run ⟨agent.initial fun _ => ∅, []⟩ sampleFlush pool ∧
      ∃ exchange ∈ (pool.shared.columns .metrics).wire, exchange.1.carried ≠ [] ∧
        agent.transport.PostsPlain agent.crates Occurrence.document .metrics exchange.1 := by
  intro config
  refine ⟨⟨_, rfl⟩, ?_⟩
  have checked : (Agent.sampleNew [] config).toOption.any (fun agent =>
      (agent.transport.encryptor.isNone : Bool) &&
      (agent.machine.run? ⟨agent.initial fun _ => ∅, []⟩ sampleFlush).any fun pool =>
        (pool.shared.columns .metrics).wire.any fun exchange => !exchange.1.carried.isEmpty) =
      true := by
    decide +kernel
  cases built : Agent.sampleNew [] config with
  | error error =>
      rw [built] at checked
      cases checked
  | ok agent =>
      rw [built] at checked
      obtain ⟨plaintext, performed⟩ := Bool.and_eq_true_iff.mp checked
      obtain ⟨pool, run, posted⟩ := Machine.exists_run performed
      obtain ⟨exchange, made, carried⟩ := List.any_eq_true.mp posted
      refine ⟨agent, pool, rfl, run, exchange, made, by simpa using carried, ?_⟩
      have contained := agent.posts _ run .metrics exchange made
      rwa [HttpTransport.Posts, Option.isNone_iff_eq_none.mp plaintext] at contained

end Agent

end GuardAgent
