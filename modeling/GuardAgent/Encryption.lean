import GuardAgent.Error
import GuardAgent.Json
import Mathlib.Data.List.Sort

/-!
# Payload encryption

Canonical JSON and the AES-256-GCM framing of `PayloadEncryptor`. The base64
alphabet, the cipher and the number rendering come from crates and are taken as a
`CipherSuite`.
-/

namespace GuardAgent

abbrev Bytes := List UInt8

/-- `str::as_bytes`. -/
def utf8 (text : String) : Bytes := text.toUTF8.data.toList

def nonceSize : ℕ := 12
def keySize : ℕ := 32

/-- Length of the authentication tag. -/
def tagSize : ℕ := 16

/-- The bytes drawn by `rand_bytes(NONCE_SIZE)`. -/
abbrev Nonce : Type := { bytes : Bytes // bytes.length = nonceSize }

/-- What the encryption takes from crates: URL-safe base64 (padded encoding,
unpadded decoding), AES-256-GCM by key, nonce, message and associated data, the
rendering of JSON numbers and the JSON parser. -/
structure CipherSuite where
  base64Encode : Bytes → String
  base64Decode : String → Except String Bytes
  encrypt : Bytes → Nonce → Bytes → Bytes → Except String Bytes
  decrypt : Bytes → Bytes → Bytes → Bytes → Except String Bytes
  numberText : Number → String
  fromSlice : Bytes → Option Value

/-- `{code:04x}`. -/
def hex4 (code : ℕ) : String :=
  String.ofList ((Nat.toDigits 16 code).leftpad 4 '0')

/-- One character as Python's `json.dumps` with `ensure_ascii` writes it. -/
def escapeChar (c : Char) : String :=
  if c.toNat = 0x22 then "\\\""
  else if c.toNat = 0x5c then "\\\\"
  else if c.toNat = 0x8 then "\\b"
  else if c.toNat = 0xc then "\\f"
  else if c.toNat = 0xa then "\\n"
  else if c.toNat = 0xd then "\\r"
  else if c.toNat = 0x9 then "\\t"
  else if c.toNat < 0x20 ∨ 0x7e < c.toNat then
    if 0xffff < c.toNat then
      "\\u" ++ hex4 ((c.toNat - 0x10000) / 0x400 + 0xd800) ++
        "\\u" ++ hex4 ((c.toNat - 0x10000) % 0x400 + 0xdc00)
    else "\\u" ++ hex4 c.toNat
  else c.toString

def escapeString (text : String) : String :=
  String.join (text.toList.map escapeChar)

namespace CipherSuite

variable (suite : CipherSuite)

mutual

/-- `write_canonical`. -/
def writeCanonical : Value → String
  | .null => "null"
  | .bool true => "true"
  | .bool false => "false"
  | .number number => suite.numberText number
  | .string text => "\"" ++ escapeString text ++ "\""
  | .array items => "[" ++ ",".intercalate (writeItems items) ++ "]"
  | .object entries =>
      -- The keys are sorted once more, although the map keeps them in order.
      let sorted := (writeEntries entries).insertionSort fun left right => left.1 ≤ right.1
      "\x7b" ++ ",".intercalate (sorted.map fun (key, text) =>
        "\"" ++ escapeString key ++ "\":" ++ text) ++ "\x7d"

def writeItems : List Value → List String
  | [] => []
  | item :: rest => writeCanonical item :: writeItems rest

def writeEntries : List (String × Value) → List (String × String)
  | [] => []
  | (key, entry) :: rest => (key, writeCanonical entry) :: writeEntries rest

end

def canonicalJson (value : Value) : String := suite.writeCanonical value

end CipherSuite

/-- An encryptor holds a key of the right size. -/
structure PayloadEncryptor where
  key : Bytes
  size : key.length = keySize

namespace PayloadEncryptor

variable (suite : CipherSuite)

/-- `PayloadEncryptor::new`. -/
def new (projectKey : String) : Except GuardAgentError PayloadEncryptor :=
  if projectKey.isEmpty then .error (.encryption "Project key cannot be empty")
  else match suite.base64Decode (trimEndMatches projectKey '=') with
    | .error error => .error (.encryption s!"Invalid project key format: {error}")
    | .ok decoded =>
        if size : decoded.length = keySize then .ok ⟨decoded, size⟩
        else .error (.encryption s!"Invalid key size: {decoded.length} bytes, expected {keySize}")

/-- `nonce || ciphertext || tag` in padded base64. -/
def encrypt (encryptor : PayloadEncryptor) (nonce : Nonce) (data : Value)
    (associatedData : Option String) : Except GuardAgentError String :=
  match suite.encrypt encryptor.key nonce (utf8 (suite.canonicalJson data))
      (utf8 (associatedData.getD "")) with
  | .error error => .error (.encryption s!"Failed to encrypt payload: {error}")
  | .ok ciphertext => .ok (suite.base64Encode (nonce.val ++ ciphertext))

/-- What was encrypted is the encoding of a nonce and a ciphertext. -/
theorem exists_ciphertext {suite : CipherSuite} {encryptor : PayloadEncryptor} {nonce : Nonce}
    {data : Value} {associatedData : Option String} {encrypted : String}
    (done : encryptor.encrypt suite nonce data associatedData = .ok encrypted) :
    ∃ ciphertext, suite.encrypt encryptor.key nonce (utf8 (suite.canonicalJson data))
        (utf8 (associatedData.getD "")) = .ok ciphertext ∧
      encrypted = suite.base64Encode (nonce.val ++ ciphertext) := by
  unfold encrypt at done
  split at done
  · cases done
  · next ciphertext computed => exact ⟨ciphertext, computed, (Except.ok.inj done).symm⟩

def decrypt (encryptor : PayloadEncryptor) (encryptedData : String)
    (associatedData : Option String) : Except GuardAgentError Value :=
  let tampered := GuardAgentError.encryption "Invalid or tampered payload"
  match suite.base64Decode (trimEndMatches encryptedData '=') with
  | .error _ => .error tampered
  | .ok combined =>
      if combined.length < nonceSize + tagSize then .error tampered
      else match suite.decrypt encryptor.key (combined.take nonceSize) (combined.drop nonceSize)
          (utf8 (associatedData.getD "")) with
        | .error _ => .error tampered
        | .ok plaintext =>
            match suite.fromSlice plaintext with
            | none => .error tampered
            | some value => .ok value

/-- The encryption of a known document decrypts to that document. -/
def verifyKey (encryptor : PayloadEncryptor) (nonce : Nonce) : Bool :=
  match encryptor.encrypt suite nonce (.object [("test", .string "verification")]) none with
  | .error _ => false
  | .ok encrypted =>
      match encryptor.decrypt suite encrypted none with
      | .ok (.object [(key, .string text)]) => key == "test" && text == "verification"
      | _ => false

end PayloadEncryptor

end GuardAgent
