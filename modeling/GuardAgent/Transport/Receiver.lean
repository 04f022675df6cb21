import GuardAgent.Canonical
import GuardAgent.Transport.Acknowledged
import GuardAgent.Transport.Bodies

/-!
# What the ingestion side reads

A receiver undoes what the transport does to a batch: it inflates the body, checks the
signature of the inflated bytes and opens the ciphertext. With crates that keep their law
(`Crates.Lawful`) it reads from every request of a send the documents of the items that the
request carries, of no other kind and in no other form
(`HttpTransport.sendBatch_received`). So an accepted batch of which nothing was rejected is
read once and in order, however it was split and resent
(`HttpTransport.sendBatch_ingested`).
-/

namespace GuardAgent

open Foundation Program JsonText

/-- What the bodies rest on: `to_vec` writes compact JSON, the inflation undoes the
compression, and the encryption keeps its law. So the parser of the receiver has no limit of
nesting, where `from_slice` itself stops at 127 levels. -/
structure Crates.Lawful (crates : Crates) (gunzip : Bytes → Option Bytes) (writer : Writer)
    (readNumber : String → Option Number) : Prop where
  suite : crates.toCipherSuite.Lawful readNumber
  writes : ∀ value, crates.toVec value = utf8 (String.ofList (writer.write value))
  escapes : writer.Escapes
  prints : ∀ number : Number, number.Representable → writer.Prints readNumber number
  inflates : ∀ bytes, gunzip (crates.gzip bytes) = some bytes

/-- The side that ingests: what it is configured with, and how it inflates a body. -/
structure Receiver where
  endpoint : String
  gunzip : Bytes → Option Bytes
  signingSecret : Option String
  encryptor : Option PayloadEncryptor

/-- The documents of both kinds in a payload. -/
structure Delivery where
  events : List Value
  metrics : List Value
  deriving DecidableEq

namespace Delivery

def ofKind (delivery : Delivery) : Kind → List Value
  | .events => delivery.events
  | .metrics => delivery.metrics

/-- The documents of one kind, and none of the other. -/
def only (documents : List Value) : Kind → Delivery
  | .events => ⟨documents, []⟩
  | .metrics => ⟨[], documents⟩

/-- A delivery of one kind has its documents in that kind. -/
@[simp] theorem ofKind_only (kind : Kind) (documents : List Value) :
    (only documents kind).ofKind kind = documents := by
  cases kind <;> rfl

/-- A delivery of one kind has nothing in the other kind. -/
theorem ofKind_only_of_ne {kind other : Kind} (different : other ≠ kind)
    (documents : List Value) : (only documents kind).ofKind other = [] := by
  cases kind <;> cases other <;> first | rfl | exact absurd rfl different

end Delivery

/-- The array under the name of a kind. -/
def Value.documents? (payload : Value) (kind : Kind) : Option (List Value) :=
  match payload.member? kind.label with
  | some (.array items) => some items
  | _ => none

namespace Receiver

variable {Item : Type} (crates : Crates) (receiver : Receiver)

/-- The bytes under the content encoding. -/
def body (request : Request Item) : Option Bytes :=
  if request.gzipped then receiver.gunzip request.wireBody else some request.wireBody

/-- The JSON of a body whose signature is that of the inflated bytes. -/
def envelope (request : Request Item) : Option Value := do
  let body ← receiver.body request
  if request.signature = signPayload crates body receiver.signingSecret then
    crates.fromSlice body
  else none

/-- The payload of an encrypted envelope. -/
def opened (envelope : Value) : Option Value := do
  let encryptor ← receiver.encryptor
  match envelope.member? "encrypted_payload" with
  | some (.string encrypted) => (encryptor.decrypt crates.toCipherSuite encrypted none).toOption
  | _ => none

def address (label : String) : String := s!"{receiver.endpoint}/api/v1/{label}"

/-- The payload of an envelope, by the address it was sent to. -/
def payload (url : String) (envelope : Value) : Option Value :=
  if url = receiver.address "events/encrypted" then receiver.opened crates envelope
  else if url = receiver.address Kind.events.label ∨ url = receiver.address Kind.metrics.label then
    some envelope
  else none

/-- What a request delivers; nothing that only the sender knows is read. -/
def receive (request : Request Item) : Option Delivery := do
  let envelope ← receiver.envelope crates request
  let payload ← receiver.payload crates request.url envelope
  let events ← payload.documents? .events
  let metrics ← payload.documents? .metrics
  some ⟨events, metrics⟩

/-- The documents of a kind in the requests that were acknowledged, in order. -/
def ingested (trace : List (TransportEvent Item)) (kind : Kind) : List Value :=
  (exchanges trace).flatMap fun exchange =>
    if exchange.2.acknowledged crates then
      ((receiver.receive crates exchange.1).map fun delivery => delivery.ofKind kind).getD []
    else []

end Receiver

/-- The receiver that is configured as the transport is. -/
def HttpTransport.receiver (transport : HttpTransport) (gunzip : Bytes → Option Bytes) :
    Receiver where
  endpoint := transport.config.endpoint
  gunzip := gunzip
  signingSecret := transport.config.payloadSigningSecret
  encryptor := transport.encryptor

namespace BatchItems

variable {Item : Type} {render : Item → Value} {batch : BatchItems Item}

/-- The members of a batch are well formed if its items are. -/
theorem wellFormed_members
    (wellFormed : ∀ item ∈ batch.items, (render item).WellFormed Number.Representable) :
    ∀ member ∈ batch.members render, member.2.WellFormed Number.Representable := by
  have listed : (batch.itemsValue render).WellFormed Number.Representable := by
    refine .array fun document member => ?_
    obtain ⟨item, held, rfl⟩ := List.mem_map.mp member
    exact wellFormed item held
  have none : (Value.array []).WellFormed Number.Representable := .array nofun
  unfold members
  cases batch.kind with
  | events => exact List.forall_mem_cons.mpr ⟨listed, List.forall_mem_singleton.mpr none⟩
  | metrics => exact List.forall_mem_cons.mpr ⟨none, List.forall_mem_singleton.mpr listed⟩

end BatchItems

namespace Crates.Lawful

variable {crates : Crates} {gunzip : Bytes → Option Bytes} {writer : Writer}
  {readNumber : String → Option Number} (lawful : crates.Lawful gunzip writer readNumber)
include lawful

/-- What is written is read back. -/
theorem fromSlice_toVec {value : Value} (wellFormed : value.WellFormed Number.Representable) :
    crates.fromSlice (crates.toVec value) = some value := by
  rw [lawful.writes, lawful.suite.parses,
    parse_write lawful.escapes (wellFormed.mono lawful.prints)]
  rfl

variable {Item : Type} {transport : HttpTransport}

/-- The body of a request is what was compressed and signed, whether it was compressed
or not. -/
theorem envelope_request {label : String} {document : Value} {carried : List Item}
    {request : Request Item}
    (made : request = transport.request crates label ⟨crates.toVec document, carried⟩)
    (wellFormed : document.WellFormed Number.Representable) :
    (transport.receiver gunzip).envelope crates request = some document := by
  subst made
  have inflated : (transport.receiver gunzip).body
      (transport.request crates label ⟨crates.toVec document, carried⟩) =
        some (crates.toVec document) := by
    simp only [Receiver.body, HttpTransport.request, HttpTransport.maybeCompress]
    by_cases compressed : transport.config.compressionEnabled = true ∧
        transport.config.compressionThreshold ≤ (crates.toVec document).length
    · simp only [if_pos compressed, ↓reduceIte]
      exact lawful.inflates _
    · simp only [if_neg compressed, Bool.false_eq_true, ↓reduceIte]
  have signed : (transport.request crates label ⟨crates.toVec document, carried⟩).signature =
      signPayload crates (crates.toVec document) (transport.receiver gunzip).signingSecret := rfl
  rw [Receiver.envelope, inflated, Option.bind_eq_bind, Option.bind_some, if_pos signed]
  exact lawful.fromSlice_toVec wellFormed

end Crates.Lawful

namespace HttpTransport

variable {Item : Type} {crates : Crates} {transport : HttpTransport} {render : Item → Value}
  {gunzip : Bytes → Option Bytes}

/-- The documents of an envelope are those of its batch. -/
theorem documents?_batchEnvelope (batch : BatchItems Item) (batchId createdAt : String)
    (kind : Kind) : (transport.batchEnvelope render batch batchId createdAt).documents? kind =
      some ((Delivery.only (batch.items.map render) batch.kind).ofKind kind) := by
  obtain ⟨sort, items⟩ := batch
  rw [Value.documents?, batchEnvelope, Value.member?_ofMembers]
  cases sort <;> cases kind <;> rfl

/-- The documents of an encrypted payload are those of its batch. -/
theorem documents?_sealedPayload (batch : BatchItems Item) (kind : Kind) :
    (sealedPayload render batch).documents? kind =
      some ((Delivery.only (batch.items.map render) batch.kind).ofKind kind) := by
  obtain ⟨sort, items⟩ := batch
  rw [Value.documents?, sealedPayload, Value.member?_ofMembers]
  cases sort <;> cases kind <;> rfl

/-- The envelope of a batch is well formed if its items are. -/
theorem wellFormed_batchEnvelope {batch : BatchItems Item} (batchId createdAt : String)
    (wellFormed : ∀ item ∈ batch.items, (render item).WellFormed Number.Representable) :
    (transport.batchEnvelope render batch batchId createdAt).WellFormed Number.Representable := by
  have text (value : Option String) :
      (Value.ofOption .string value).WellFormed Number.Representable := by
    cases value with
    | none => exact .null
    | some text => exact .string text
  refine Value.wellFormed_ofMembers fun member listed => ?_
  simp only [List.mem_append, List.mem_cons, List.not_mem_nil, or_false] at listed
  rcases listed with (rfl | held) | rfl | rfl | rfl | rfl | rfl | rfl
  · exact .string _
  · exact BatchItems.wellFormed_members wellFormed member held
  · exact .string _
  · exact .string _
  · exact .bool _
  · exact .string _
  · exact text _
  · exact text _

/-- The envelope around an encrypted payload is well formed. -/
theorem wellFormed_encryptedEnvelope (encryptedPayload batchId : String) :
    (transport.encryptedEnvelope encryptedPayload batchId).WellFormed Number.Representable := by
  have text (value : Option String) :
      (Value.ofOption .string value).WellFormed Number.Representable := by
    cases value with
    | none => exact .null
    | some text => exact .string text
  refine Value.wellFormed_ofMembers fun member listed => ?_
  simp only [List.mem_cons, List.not_mem_nil, or_false] at listed
  rcases listed with rfl | rfl | rfl | rfl | rfl
  · exact .string _
  · exact .string _
  · exact .string _
  · exact text _
  · exact text _

end HttpTransport

namespace Receiver

variable {Item : Type} {crates : Crates} {receiver : Receiver}

/-- Different labels have different addresses. -/
theorem address_injective : Function.Injective receiver.address := by
  intro label other same
  simpa only [address, toString, String.append_right_inj] using same

/-- A plain address has its envelope in the clear. -/
theorem payload_plain (kind : Kind) (envelope : Value) :
    receiver.payload crates (receiver.address kind.label) envelope = some envelope := by
  have plain : receiver.address kind.label ≠ receiver.address "events/encrypted" := by
    refine receiver.address_injective.ne ?_
    cases kind <;> decide
  rw [payload, if_neg plain, if_pos]
  cases kind
  · exact Or.inl rfl
  · exact Or.inr rfl

/-- A request is received with the documents that its payload lists. -/
theorem receive_of_payload {request : Request Item} {envelope payload : Value} {kind : Kind}
    {documents : List Value} (read : receiver.envelope crates request = some envelope)
    (addressed : receiver.payload crates request.url envelope = some payload)
    (listed : ∀ other, payload.documents? other =
      some ((Delivery.only documents kind).ofKind other)) :
    receiver.receive crates request = some (Delivery.only documents kind) := by
  rw [receive, read, Option.bind_eq_bind, Option.bind_some, addressed, Option.bind_eq_bind,
    Option.bind_some, listed, listed]
  rfl

end Receiver

namespace Crates.Lawful

variable {Item : Type} {crates : Crates} {gunzip : Bytes → Option Bytes} {writer : Writer}
  {readNumber : String → Option Number} (lawful : crates.Lawful gunzip writer readNumber)
  {transport : HttpTransport} {render : Item → Value} {kind : Kind} {request : Request Item}
include lawful

/-- A request that was posted plain is received with its documents. -/
theorem receive_of_plain (posted : transport.PostsPlain crates render kind request)
    (wellFormed : ∀ item ∈ request.carried, (render item).WellFormed Number.Representable) :
    (transport.receiver gunzip).receive crates request =
      some (Delivery.only (request.carried.map render) kind) := by
  obtain ⟨batchId, createdAt, made⟩ := posted
  have read := lawful.envelope_request made
    (HttpTransport.wellFormed_batchEnvelope batchId createdAt wellFormed)
  have addressed : request.url = (transport.receiver gunzip).address kind.label := by
    rw [made]
    rfl
  exact Receiver.receive_of_payload read (addressed ▸ Receiver.payload_plain kind _)
    (HttpTransport.documents?_batchEnvelope ⟨kind, request.carried⟩ batchId createdAt)

/-- What is only inside the ciphertext is what the receiver opens. -/
theorem receive_of_sealed {encryptor : PayloadEncryptor}
    (configured : transport.encryptor = some encryptor)
    (sealed : transport.Seals crates render encryptor kind request)
    (wellFormed : ∀ item ∈ request.carried, (render item).WellFormed Number.Representable) :
    (transport.receiver gunzip).receive crates request =
      some (Delivery.only (request.carried.map render) kind) := by
  obtain ⟨nonce, ciphertext, batchId, enciphered, made⟩ := sealed
  have read := lawful.envelope_request made (HttpTransport.wellFormed_encryptedEnvelope _ batchId)
  have payload : (HttpTransport.sealedPayload render ⟨kind, request.carried⟩).WellFormed
      Number.Representable :=
    Value.wellFormed_ofMembers (BatchItems.wellFormed_members wellFormed)
  obtain ⟨encrypted, encoded, decrypted⟩ :=
    lawful.suite.decrypt_encrypt encryptor nonce none payload
  rw [PayloadEncryptor.encrypt, Option.getD_none, enciphered] at encoded
  obtain rfl := Except.ok.inj encoded
  refine Receiver.receive_of_payload read ?_
    (HttpTransport.documents?_sealedPayload ⟨kind, request.carried⟩)
  have addressed : request.url = (transport.receiver gunzip).address "events/encrypted" := by
    rw [made]
    rfl
  have framed (encrypted : String) : (transport.encryptedEnvelope encrypted batchId).member?
      "encrypted_payload" = some (.string encrypted) := by
    rw [HttpTransport.encryptedEnvelope, Value.member?_ofMembers]
    rfl
  have key : (transport.receiver gunzip).encryptor = some encryptor := configured
  rw [Receiver.payload, if_pos addressed, Receiver.opened, key, Option.bind_eq_bind,
    Option.bind_some, framed]
  simp only [decrypted, Except.toOption]

/-- **A request is read as the documents of the items it carries.** -/
theorem receive_of_posts (posted : transport.Posts crates render kind request)
    (wellFormed : ∀ item ∈ request.carried, (render item).WellFormed Number.Representable) :
    (transport.receiver gunzip).receive crates request =
      some (Delivery.only (request.carried.map render) kind) := by
  unfold HttpTransport.Posts at posted
  split at posted
  · exact lawful.receive_of_plain posted wellFormed
  · next encryptor configured => exact lawful.receive_of_sealed configured posted wellFormed

end Crates.Lawful

section Acknowledged

variable {Item : Type} {crates : Crates} {trace : List (TransportEvent Item)}

/-- If nothing was dropped, what was finished was acknowledged. -/
theorem acknowledged_eq_disposed
    (undropped : ∀ exchange ∈ exchanges trace, exchange.2.rejected = false ∧
      (exchange.2.tooLarge = true → exchange.1.carried.length ≠ 1)) :
    acknowledged crates trace = disposed crates trace := by
  refine List.flatMap_congr fun exchange member => ?_
  obtain ⟨accepted, split⟩ := undropped exchange member
  have whole : (exchange.2.acknowledged crates = true ∨ exchange.2.rejected = true ∨
      exchange.2.tooLarge = true ∧ exchange.1.carried.length = 1) ↔
        exchange.2.acknowledged crates = true := by
    rw [accepted]
    refine or_iff_left ?_
    rintro (rejected | ⟨tooLarge, single⟩)
    · cases rejected
    · exact split tooLarge single
  rw [Exchange.acknowledged, Exchange.disposed]
  exact if_congr whole.symm rfl rfl

/-- What is read of the acknowledged requests is what they carry. -/
theorem Receiver.ingested_of_received {receiver : Receiver} {render : Item → Value} {kind : Kind}
    (received : ∀ exchange ∈ exchanges trace, receiver.receive crates exchange.1 =
      some (Delivery.only (exchange.1.carried.map render) kind)) :
    receiver.ingested crates trace kind = (acknowledged crates trace).map render ∧
      ∀ other, other ≠ kind → receiver.ingested crates trace other = [] := by
  constructor
  · rw [ingested, acknowledged, List.map_flatMap]
    refine List.flatMap_congr fun exchange member => ?_
    rw [received exchange member, Exchange.acknowledged, Option.map_some, Option.getD_some,
      Delivery.ofKind_only]
    split <;> rfl
  · intro other different
    refine List.flatMap_eq_nil_iff.mpr fun exchange member => ?_
    rw [received exchange member, Option.map_some, Option.getD_some,
      Delivery.ofKind_only_of_ne different, ite_self]

end Acknowledged

/-- The crates with the suite of the canonical sample and a writer. Nothing is compressed or
signed, and no acknowledgement is parsed, in the runs considered here. -/
def Crates.lawfulSample (writer : Writer) : Crates where
  toCipherSuite := .lawfulSample
  toVec value := utf8 (String.ofList (writer.write value))
  gzip := id
  hmac _ _ := []
  parseAck _ := none
  debugText text := s!"\"{text}\""
  headerValid text := text.toList.all fun c => 0x20 ≤ c.toNat && c.toNat < 0x7f
  buildClient := .ok ()

/-- Sample crates around such a writer keep the laws. -/
theorem Crates.lawfulSample_lawful {writer : Writer} (escapes : writer.Escapes)
    (prints : ∀ number : Number, number.Representable →
      writer.Prints CipherSuite.readNumberToken number) :
    (Crates.lawfulSample writer).Lawful some writer CipherSuite.readNumberToken where
  suite := CipherSuite.lawfulSample_lawful
  writes _ := rfl
  escapes := escapes
  prints := prints
  inflates _ := rfl

/-- The crates that write canonical JSON. -/
def Crates.canonicalSample : Crates := .lawfulSample CipherSuite.lawfulSample.canonicalWriter

/-- The sample crates with the canonical writer keep the laws. -/
theorem Crates.canonicalSample_lawful : Crates.canonicalSample.Lawful some
    CipherSuite.lawfulSample.canonicalWriter CipherSuite.readNumberToken :=
  Crates.lawfulSample_lawful (CipherSuite.escapes_canonicalWriter _)
    CipherSuite.lawfulSample_lawful.prints

/-- A document that is a number of 64 bits is well formed. -/
theorem wellFormed_naturalDocument {number : ℕ} (small : number < 2 ^ 64) :
    (naturalDocument number).WellFormed Number.Representable := .number small

namespace HttpTransport

variable {Item : Type} {crates : Crates} {gunzip : Bytes → Option Bytes} {writer : Writer}
  {readNumber : String → Option Number} {transport : HttpTransport} {render : Item → Value}

/-- **The ingestion side reads what was sent.** From every request of every send, first or
repeated, whole or split, compressed or not, signed or not, encrypted or not, the receiver
reads the documents of a contiguous part of the batch, in order, and no documents of the other
kind. Its parser has no limit of nesting (`Crates.Lawful`). -/
theorem sendBatch_received (lawful : crates.Lawful gunzip writer readNumber)
    (batch : BatchItems Item)
    (wellFormed : ∀ item ∈ batch.items, (render item).WellFormed Number.Representable)
    {trace : List (TransportEvent Item)} {outcome : SendOutcome}
    (run : (transport.sendBatch crates render batch).Run trace outcome) :
    ∀ exchange ∈ exchanges trace, exchange.1.carried <:+: batch.items ∧
      (transport.receiver gunzip).receive crates exchange.1 =
        some (Delivery.only (exchange.1.carried.map render) batch.kind) := by
  intro exchange member
  obtain ⟨posted, carried⟩ := sendBatch_posts batch trace outcome run exchange member
  refine ⟨carried, lawful.receive_of_posts posted fun item held => ?_⟩
  exact wellFormed item (carried.subset held)

/-- A batch that is too large is read from the requests for it and for its parts. -/
theorem sendBatch_received_pair :
    let transport : HttpTransport := ⟨AgentConfig.new "test-api-key-1234", none⟩
    let run := (transport.sendBatch Crates.canonicalSample naturalDocument ⟨.metrics, [7, 8]⟩).play
      (fun _ => TransportOp.admitting fun request => .response
        (if 1 < request.carried.length then 413 else 201) none (.ok "")) []
    (exchanges run.1).map (fun exchange => exchange.1.carried) = [[7, 8], [7], [8]] ∧
      ∀ exchange ∈ exchanges run.1,
        (transport.receiver some).receive Crates.canonicalSample exchange.1 =
          some (Delivery.only (exchange.1.carried.map naturalDocument) .metrics) := by
  intro transport run
  have small : ∀ item ∈ [7, 8], (naturalDocument item).WellFormed Number.Representable := by
    intro item member
    refine wellFormed_naturalDocument (lt_of_le_of_lt ?_ (by decide : 8 < 2 ^ 64))
    exact (by decide : ∀ item ∈ [7, 8], item ≤ 8) item member
  refine ⟨by decide +kernel, fun exchange member => ?_⟩
  exact (sendBatch_received Crates.canonicalSample_lawful ⟨.metrics, [7, 8]⟩ small
    (play_run _ [] _) exchange member).2

/-- What was finished of a batch is a prefix of it, and all of it once it is confirmed. -/
theorem sendBatch_prefix (plaintext : transport.encryptor = none) (batch : BatchItems Item)
    {trace : List (TransportEvent Item)} {outcome : SendOutcome}
    (run : (transport.sendBatch crates render batch).Run trace outcome) :
    (∃ count, disposed crates trace = batch.items.take count) ∧
      (outcome.isConfirmed = true → disposed crates trace = batch.items) := by
  obtain ⟨halving, calls, _⟩ := sendBatch_ensures plaintext batch trace outcome run
  have whole (confirmed : outcome.isConfirmed = true) : disposed crates trace = batch.items :=
    calls.flatMap_disposed.trans
      (halving.finished_of_confirmed (outcome.isConfirmed_iff.mp confirmed))
  refine ⟨?_, whole⟩
  by_cases confirmed : outcome.isConfirmed = true
  · exact ⟨batch.items.length, by rw [whole confirmed, List.take_length]⟩
  · obtain ⟨count, prefixed⟩ :=
      halving.finished_of_failed (not_not.mp (mt outcome.isConfirmed_iff.mpr confirmed))
    exact ⟨count, calls.flatMap_disposed.trans prefixed⟩

/-- **What is ingested of a batch.** The documents that the receiver reads from the requests
it acknowledged are those of a part of the batch, in order and each once, and none of the other
kind. If nothing was rejected they are those of a prefix of the batch, and of all of it once it
is accepted. -/
theorem sendBatch_ingested (lawful : crates.Lawful gunzip writer readNumber)
    (batch : BatchItems Item)
    (wellFormed : ∀ item ∈ batch.items, (render item).WellFormed Number.Representable)
    {trace : List (TransportEvent Item)} {outcome : SendOutcome}
    (run : (transport.sendBatch crates render batch).Run trace outcome) :
    (∀ kind, kind ≠ batch.kind → (transport.receiver gunzip).ingested crates trace kind = []) ∧
    (∃ items : List Item, items.Sublist batch.items ∧
      (transport.receiver gunzip).ingested crates trace batch.kind = items.map render) ∧
    ((∀ exchange ∈ exchanges trace, exchange.2.rejected = false ∧
        (exchange.2.tooLarge = true → exchange.1.carried.length ≠ 1)) →
      (∃ count, (transport.receiver gunzip).ingested crates trace batch.kind =
        (batch.items.take count).map render) ∧
      (outcome = .accepted → (transport.receiver gunzip).ingested crates trace batch.kind =
        batch.items.map render)) := by
  have received := sendBatch_received lawful batch wellFormed run
  obtain ⟨same, none⟩ := Receiver.ingested_of_received fun exchange member =>
    (received exchange member).2
  rw [same]
  refine ⟨none, ?_⟩
  cases configured : transport.encryptor with
  | none =>
      obtain ⟨⟨count, prefixed⟩, whole⟩ := sendBatch_prefix configured batch run
      refine ⟨⟨_, ?_, rfl⟩, fun undropped => ?_⟩
      · refine acknowledged_sublist.trans ?_
        rw [prefixed]
        exact List.take_sublist _ _
      · rw [acknowledged_eq_disposed undropped]
        refine ⟨⟨count, congrArg _ prefixed⟩, fun accepted => congrArg _ (whole ?_)⟩
        rw [accepted]
        rfl
  | some encryptor =>
      have encrypted : transport.sendBatch crates render batch =
          transport.sendBatchEncrypted crates render encryptor batch := by
        unfold sendBatch
        simp only [configured]
      rw [encrypted] at run
      rw [sendBatchEncrypted_acknowledged encryptor batch trace outcome run]
      by_cases accepted : outcome = .accepted
      · simp only [if_pos accepted]
        exact ⟨⟨_, .refl _, rfl⟩, fun _ =>
          ⟨⟨batch.items.length, by rw [List.take_length]⟩, fun _ => trivial⟩⟩
      · simp only [if_neg accepted]
        exact ⟨⟨[], List.nil_sublist _, rfl⟩, fun _ =>
          ⟨⟨0, by rw [List.take_zero]⟩, fun held => absurd held accepted⟩⟩

/-- Three items that are too large together are ingested by three of five requests. -/
theorem sendBatch_ingested_three :
    let transport : HttpTransport := ⟨AgentConfig.new "test-api-key-1234", none⟩
    let run := (transport.sendBatch Crates.canonicalSample naturalDocument
      ⟨.events, [0, 1, 2]⟩).play (fun _ => TransportOp.admitting fun request => .response
        (if 1 < request.carried.length then 413 else 201) none (.ok "")) []
    (exchanges run.1).length = 5 ∧
      (transport.receiver some).ingested Crates.canonicalSample run.1 .events =
        [0, 1, 2].map naturalDocument := by
  intro transport run
  have small : ∀ item ∈ [0, 1, 2], (naturalDocument item).WellFormed Number.Representable := by
    intro item member
    refine wellFormed_naturalDocument (lt_of_le_of_lt ?_ (by decide : 2 < 2 ^ 64))
    exact (by decide : ∀ item ∈ [0, 1, 2], item ≤ 2) item member
  refine ⟨by decide +kernel, ?_⟩
  refine ((sendBatch_ingested Crates.canonicalSample_lawful ⟨.events, [0, 1, 2]⟩ small
    (play_run _ [] _)).2.2 ?_).2 ?_
  · decide +kernel
  · decide +kernel

end HttpTransport

end GuardAgent
