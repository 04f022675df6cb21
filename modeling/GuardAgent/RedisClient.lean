import GuardAgent.Foundation.Glob
import GuardAgent.Config
import GuardAgent.Encryption
import GuardAgent.Persistence

/-!
# The Redis backend

`RedisClientHandler` of `persistence.rs` keeps the records in a Redis database under
`key_prefix:namespace:key`. `SET`, `GET` and `DEL` name a record by its key; `KEYS`, from
which the handler lists and clears a namespace, reads its argument as a pattern. The
pattern is the beginning of the full keys, not escaped, and `*`. So the handler answers
as the in-memory store does for exactly the prefixes whose patterns match what begins
with them (`RedisClientHandler.answersLikeStore_iff`): those without brackets and
backslashes do (`matchesItself_of_plain`), `guard[1]` does not.

Which keys a pattern matches is a parameter, `glob`; what a Redis server makes of the
special characters is `Redis.glob`. A command fails when the server refuses it; over a
connection that may fail, the handler is `RedisClientHandler.faulty`. `latest` is the last time
that an expiry can name.
-/

namespace GuardAgent

open Foundation

/-- A call of the `RedisHandler` trait on one of the agent's namespaces. -/
inductive RedisHandler.Call where
  | setKey (kind : Kind) (key value : String) (ttlSeconds : ℕ)
  | getKey (kind : Kind) (key : String)
  | deleteKeys (kind : Kind) (keys : List String)
  | listKeys (kind : Kind)
  | clearNamespace (kind : Kind)
  deriving DecidableEq

/-- The call as one of the in-memory store. -/
def RedisHandler.Call.onStore : RedisHandler.Call → InMemoryRedisStore.Call
  | .setKey kind key value ttlSeconds => .setKey kind key value ttlSeconds
  | .getKey kind key => .getKey kind key
  | .deleteKeys kind keys => .deleteKeys kind keys
  | .listKeys kind => .listKeys kind
  | .clearNamespace kind => .clearNamespace kind

/-- The records of a Redis database, under their keys. -/
abbrev Redis : Type := AList fun _ : String => InMemoryRedisStore.Entry

/-- The bytes of a text are those of its characters. -/
theorem utf8_eq (text : String) : utf8 text = text.toList.flatMap String.utf8EncodeChar := by
  rw [utf8, String.toUTF8, ← String.utf8Encode_toList, List.utf8Encode, List.data_toByteArray]

/-- The bytes of a joined text are joined. -/
theorem utf8_append (first second : String) :
    utf8 (first ++ second) = utf8 first ++ utf8 second := by
  rw [utf8_eq, utf8_eq, utf8_eq, String.toList_append, List.flatMap_append]

/-- A byte below 128 encodes a character by itself. -/
theorem toNat_of_mem_utf8EncodeChar {c : Char} {byte : UInt8}
    (member : byte ∈ String.utf8EncodeChar c) (ascii : byte.toNat < 128) :
    byte.toNat = c.toNat := by
  have value : c.toNat = c.val.toNat := rfl
  have narrow {n : ℕ} (is : byte = UInt8.ofNat n) : n < 128 ∨ 256 ≤ n := by
    rw [is, UInt8.toNat_ofNat'] at ascii
    omega
  unfold String.utf8EncodeChar at member
  dsimp only at member
  -- one case for each length of the encoding; in the longer ones all bytes are from 128 on
  split_ifs at member <;> simp only [List.mem_cons, List.not_mem_nil, or_false] at member
  · rw [member, UInt8.toNat_ofNat']
    omega
  · rcases member with is | is <;> have := narrow is <;> omega
  · rcases member with is | is | is <;> have := narrow is <;> omega
  · rcases member with is | is | is | is <;> have := narrow is <;> omega

/-- A byte of ASCII in the bytes of a text is a character of it. -/
theorem mem_of_mem_utf8 {text : String} {c : Char} {byte : UInt8} (member : byte ∈ utf8 text)
    (ascii : byte.toNat < 128) (same : byte.toNat = c.toNat) : c ∈ text.toList := by
  rw [utf8_eq] at member
  obtain ⟨other, among, encoded⟩ := List.mem_flatMap.mp member
  rwa [Char.toNat_inj.mp (same.symm.trans (toNat_of_mem_utf8EncodeChar encoded ascii))]

namespace Redis

/-- `SET key value EX seconds`; `none` when the expiry is not valid. -/
def set (latest now : ℚ) (key value : String) (seconds : ℕ) (database : Redis) : Option Redis :=
  if 0 < seconds ∧ now + seconds ≤ latest then
    some (database.insert key { value, expiresAt := some (now + seconds) })
  else none

/-- `GET key`. -/
def get (now : ℚ) (key : String) (database : Redis) : Option String :=
  (Lapsing.visible TtlMaps.visible now database key).map InMemoryRedisStore.Entry.value

/-- `DEL key ...`. -/
def del (keys : List String) (database : Redis) : Redis :=
  keys.foldl (fun database key => database.erase key) database

/-- `KEYS pattern`. -/
def keys (glob : Bytes → Bytes → Bool) (now : ℚ) (pattern : String) (database : Redis) :
    List String :=
  (Lapsing.visibleKeys TtlMaps.visible now database).filter fun key =>
    glob (utf8 pattern) (utf8 key)

/-- The bytes with a meaning in the patterns of a Redis server. -/
def marks : GlobMarks ℕ where
  star := '*'.toNat
  one := '?'.toNat
  opening := '['.toNat
  closing := ']'.toNat
  negation := '^'.toNat
  range := '-'.toNat
  escape := '\\'.toNat

/-- Which keys a pattern matches on a Redis server. -/
def glob (pattern key : Bytes) : Bool :=
  Glob.isMatch marks (pattern.map UInt8.toNat) (key.map UInt8.toNat)

end Redis

structure RedisClientHandler where
  keyPrefix : String

namespace RedisClientHandler

/-- `RedisClientHandler::connect`, when the server is reached. -/
def connect (config : RedisConfig) : RedisClientHandler where
  keyPrefix := config.keyPrefix

variable (glob : Bytes → Bytes → Bool) (handler : RedisClientHandler)

def fullKey (space key : String) : String :=
  handler.keyPrefix ++ ":" ++ space ++ ":" ++ key

def setKey (latest now : ℚ) (space key value : String) (ttlSeconds : ℕ) (database : Redis) :
    Option Redis :=
  database.set latest now (handler.fullKey space key) value ttlSeconds

def getKey (now : ℚ) (space key : String) (database : Redis) : Option String :=
  database.get now (handler.fullKey space key)

def deleteKeys (space : String) (keys : List String) (database : Redis) : Redis :=
  if keys.isEmpty then database else database.del (keys.map (handler.fullKey space))

def listKeys (now : ℚ) (space : String) (database : Redis) : List String :=
  let start := handler.keyPrefix ++ ":" ++ space ++ ":"
  ((database.keys glob now (start ++ "*")).filterMap (stripPrefix · start)).insertionSort (· ≤ ·)

def clearNamespace (now : ℚ) (space : String) (database : Redis) : Redis :=
  handler.deleteKeys space (handler.listKeys glob now space database) database

/-- The answer to a call, `none` when it fails, and the database it leaves. -/
def perform (latest : ℚ) (database : Redis) :
    Timed RedisHandler.Call → Option InMemoryRedisStore.Answer × Redis
  | (now, .setKey kind key value ttlSeconds) =>
      match handler.setKey latest now kind.space key value ttlSeconds database with
      | some database => (some .done, database)
      | none => (none, database)
  | (now, .getKey kind key) =>
      (some (.value (handler.getKey now kind.space key database)), database)
  | (_, .deleteKeys kind keys) => (some .done, handler.deleteKeys kind.space keys database)
  | (now, .listKeys kind) =>
      (some (.keys (handler.listKeys glob now kind.space database)), database)
  | (now, .clearNamespace kind) =>
      (some .done, handler.clearNamespace glob now kind.space database)

/-- The handler as an object, which is called at times. -/
def client (latest : ℚ) :
    Object Redis (Timed RedisHandler.Call) (Option InMemoryRedisStore.Answer) where
  perform := handler.perform glob latest

/-- The call succeeds: a record is set for some time, and lapses at a time there is. -/
def Succeeds (latest : ℚ) : Timed RedisHandler.Call → Prop
  | (now, .setKey _ _ _ ttlSeconds) => 0 < ttlSeconds ∧ now + ttlSeconds ≤ latest
  | _ => True

instance (latest : ℚ) : DecidablePred (Succeeds latest)
  | (_, .setKey ..) => inferInstanceAs (Decidable (_ ∧ _))
  | (_, .getKey ..) | (_, .deleteKeys ..) | (_, .listKeys ..) | (_, .clearNamespace ..) =>
      inferInstanceAs (Decidable True)

/-- What succeeds on the server is within the range of the clock of the in-memory store. -/
theorem Succeeds.reached {latest : ℚ} {call : Timed RedisHandler.Call}
    (succeeds : Succeeds latest call) :
    InMemoryRedisStore.Reached latest (Prod.map id RedisHandler.Call.onStore call) := by
  obtain ⟨now, call⟩ := call
  cases call with
  | setKey kind key value ttlSeconds => exact Or.inr succeeds.2
  | _ => trivial

/-- The in-memory store, called as the handler is. -/
def inMemory (latest : ℚ) :
    Object InMemoryRedisStore (Timed RedisHandler.Call) (Option InMemoryRedisStore.Answer) :=
  (InMemoryRedisStore.handler latest).adapt (Prod.map id RedisHandler.Call.onStore) some

/-- The separate maps, called as the handler is. -/
def maps : Object TtlMaps (Timed RedisHandler.Call) (Option InMemoryRedisStore.Answer) :=
  TtlMaps.handler.adapt (Prod.map id RedisHandler.Call.onStore) some

/-- On a database without records of the agent, every history of successful calls is
answered as separate maps answer it: `list_keys` with the sorted keys of what was set and
is not deleted, cleared or expired, `get_key` with nothing once it was cleared; and so as
the in-memory store answers it. -/
def AnswersLikeStore : Prop :=
  ∀ (latest : ℚ) (database : Redis) (calls : List (Timed RedisHandler.Call)),
    (∀ (kind : Kind) key, handler.fullKey kind.space key ∉ database) → InOrder calls →
    (∀ call ∈ calls, Succeeds latest call) →
      (handler.client glob latest).answers database calls =
          maps.answers (fun _ => ∅) calls ∧
        (handler.client glob latest).answers database calls = (inMemory latest).answers ∅ calls

/-- As a pattern, the beginning of the full keys of a namespace, followed by the mark for
any text, matches whatever begins with it. -/
def MatchesItself : Prop :=
  ∀ (kind : Kind) (key : String),
    glob (utf8 (handler.fullKey kind.space "*")) (utf8 (handler.fullKey kind.space key))

/-- A full key names one kind and one key, whatever the prefix. -/
theorem fullKey_injective2 :
    Function.Injective2 fun kind : Kind => handler.fullKey kind.space := by
  intro kind other key key' equal
  have spelled (kind : Kind) (key : String) :
      handler.fullKey kind.space key = handler.keyPrefix ++ ":" ++ kind.fullKey key := by
    simp only [fullKey, Kind.fullKey, namespacedKey, String.append_assoc]
  simp only [spelled, String.append_right_inj] at equal
  exact Kind.fullKey_injective2 equal

/-- The database shows the maps under the full keys, whatever else it holds. -/
abbrev Refines (now : ℚ) (database : Redis) (model : TtlMaps) : Prop :=
  Lapsing.Shows TtlMaps.visible (fun kind key => handler.fullKey kind.space key) now database
    model

section Refinement

variable {glob} {handler} {latest now : ℚ} {database : Redis} {model : TtlMaps}

/-- The keys are deleted one after the other; for no keys there is no command. -/
theorem deleteKeys_eq (space : String) (keys : List String) :
    handler.deleteKeys space keys database =
      keys.foldl (fun database key => database.erase (handler.fullKey space key)) database := by
  unfold deleteKeys Redis.del
  rw [List.foldl_map]
  cases keys <;> rfl

/-- What the pattern misses is not under a full key, so that the namespace is listed whole. -/
theorem listKeys_refines (literal : handler.MatchesItself glob)
    (refines : handler.Refines now database model) (kind : Kind) :
    handler.listKeys glob now kind.space database =
      (Lapsing.visibleKeys TtlMaps.visible now (model kind)).insertionSort (· ≤ ·) := by
  let start := handler.keyPrefix ++ ":" ++ kind.space ++ ":"
  have named (full key : String) :
      stripPrefix full start = some key ↔ full = handler.fullKey kind.space key :=
    stripPrefix_eq_some
  have all : (database.keys glob now (start ++ "*")).filterMap (stripPrefix · start) =
      (Lapsing.visibleKeys TtlMaps.visible now database).filterMap (stripPrefix · start) := by
    rw [Redis.keys, List.filterMap_filter]
    refine List.filterMap_congr fun full _ => ?_
    cases read : stripPrefix full start with
    | none => exact ite_self none
    | some key =>
        rw [(named full key).mp read]
        exact if_pos (literal kind key)
  change ((database.keys glob now (start ++ "*")).filterMap
    (stripPrefix · start)).insertionSort (· ≤ ·) = _
  rw [all]
  exact InMemoryRedisStore.insertionSort_eq_of_perm (refines.keys_perm named)

/-- With a pattern that matches itself, `clear_namespace` clears the map of its namespace. -/
theorem clearNamespace_refines (literal : handler.MatchesItself glob)
    (refines : handler.Refines now database model) (kind : Kind) :
    handler.Refines now (handler.clearNamespace glob now kind.space database)
      (Function.update model kind ∅) := by
  rw [clearNamespace, deleteKeys_eq, listKeys_refines literal refines]
  exact refines.erase_shown handler.fullKey_injective2 fun key shown =>
    (List.mem_insertionSort ..).mpr shown

/-- A successful call is answered as the maps answer it, and leaves a database that shows
them. -/
theorem perform_refines (literal : handler.MatchesItself glob) {call : Timed RedisHandler.Call}
    (succeeds : Succeeds latest call) (refines : handler.Refines call.1 database model) :
    ((handler.client glob latest).perform database call).1 =
        (maps.perform model call).1 ∧
      handler.Refines call.1 ((handler.client glob latest).perform database call).2
        (maps.perform model call).2 := by
  obtain ⟨now, call⟩ := call
  simp only [client, maps, Object.adapt, TtlMaps.handler]
  cases call with
  | setKey kind key value ttlSeconds =>
      have granted : 0 < ttlSeconds ∧ now + ttlSeconds ≤ latest := succeeds
      simp only [perform, setKey, Redis.set, if_pos granted, RedisHandler.Call.onStore,
        Prod.map_apply, id, TtlMaps.perform, TtlMaps.expiry, granted.1.ne', if_false]
      exact ⟨trivial, refines.insert handler.fullKey_injective2 kind key _⟩
  | getKey kind key =>
      refine ⟨?_, refines⟩
      have found := refines kind key
      simp only [perform, getKey, Redis.get, found]
      rfl
  | deleteKeys kind keys =>
      refine ⟨rfl, ?_⟩
      simp only [perform, deleteKeys_eq]
      exact refines.erase_all handler.fullKey_injective2 kind keys
  | listKeys kind =>
      refine ⟨?_, refines⟩
      simp only [perform, listKeys_refines literal refines]
      rfl
  | clearNamespace kind => exact ⟨rfl, clearNamespace_refines literal refines kind⟩

/-- With a pattern that matches itself, the handler answers like the store. -/
theorem answersLikeStore_of_matchesItself (literal : handler.MatchesItself glob) :
    handler.AnswersLikeStore glob := by
  intro latest database calls foreign ordered succeed
  have unseen (now : ℚ) : handler.Refines now database fun _ => ∅ := fun kind key => by
    rw [Lapsing.visible, AList.lookup_eq_none.mpr (foreign kind key)]
    rfl
  have refined : (handler.client glob latest).answers database calls =
      maps.answers (fun _ => ∅) calls :=
    answers_eq_of_refines handler.Refines (Succeeds latest)
      (fun passing refines => refines.later (InMemoryRedisStore.visible_of_later passing))
      (fun succeeds refines => perform_refines literal succeeds refines) succeed ordered unseen
  refine ⟨refined, refined.trans ?_⟩
  have ordered' : InOrder (calls.map (Prod.map id RedisHandler.Call.onStore)) :=
    List.pairwise_map.mpr ordered
  have reached : ∀ call ∈ calls.map (Prod.map id RedisHandler.Call.onStore),
      InMemoryRedisStore.Reached latest call :=
    List.forall_mem_map.mpr fun call member => (succeed call member).reached
  rw [maps, inMemory, Object.answers_adapt, Object.answers_adapt,
    (InMemoryRedisStore.answers_eq_iff ordered').mpr reached]

/-- A key that is set is listed, so that its full key was found. -/
theorem matchesItself_of_answersLikeStore (alike : handler.AnswersLikeStore glob) :
    handler.MatchesItself glob := by
  intro kind key
  let record : InMemoryRedisStore.Entry := { value := "", expiresAt := some (0 + (1 : ℕ)) }
  have shown : TtlMaps.visible 0 record = true := by decide +kernel
  have granted : 0 < 1 ∧ (0 : ℚ) + (1 : ℕ) ≤ 1 := by decide +kernel
  have succeed : ∀ call ∈ ([(0, .setKey kind key "" 1), (0, .listKeys kind)] :
      List (Timed RedisHandler.Call)), Succeeds 1 call :=
    List.forall_mem_cons.mpr ⟨granted, List.forall_mem_singleton.mpr trivial⟩
  obtain ⟨answered, -⟩ := alike 1 ∅ [(0, .setKey kind key "" 1), (0, .listKeys kind)]
    (fun _ _ => AList.notMem_empty _) (List.pairwise_pair.mpr le_rfl) succeed
  have listed : handler.listKeys glob 0 kind.space
      (AList.insert (handler.fullKey kind.space key) record ∅) =
        (Lapsing.visibleKeys TtlMaps.visible 0
          (AList.insert key record ∅)).insertionSort (· ≤ ·) := by
    simp only [Object.answers, client, perform, setKey, Redis.set, if_pos granted, maps,
      Object.adapt, TtlMaps.handler, TtlMaps.perform, TtlMaps.expiry, Prod.map_apply, id,
      RedisHandler.Call.onStore, Function.update_self, one_ne_zero, if_false,
      List.cons.injEq, Option.some_inj, InMemoryRedisStore.Answer.keys.injEq, true_and,
      and_true] at answered
    exact answered
  have member : key ∈ handler.listKeys glob 0 kind.space
      (AList.insert (handler.fullKey kind.space key) record ∅) := by
    rw [listed, List.mem_insertionSort, Lapsing.mem_visibleKeys, Lapsing.visible_insert_self,
      Option.filter_some, if_pos shown]
    rfl
  obtain ⟨full, found, read⟩ := List.mem_filterMap.mp ((List.mem_insertionSort ..).mp member)
  rw [stripPrefix_eq_some.mp read] at found
  exact (List.mem_filter.mp found).2

/-- A prefix without brackets and backslashes gives patterns that match themselves. -/
theorem matchesItself_of_plain (bracket : '[' ∉ handler.keyPrefix.toList)
    (backslash : '\\' ∉ handler.keyPrefix.toList) : handler.MatchesItself Redis.glob := by
  intro kind key
  have free {c : Char} (outside : c ∉ handler.keyPrefix.toList)
      (special : c = '[' ∨ c = '\\') : c ∉ (handler.fullKey kind.space "").toList := by
    simp only [fullKey, String.toList_append, List.mem_append, outside, false_or]
    rcases special with rfl | rfl <;> cases kind <;> decide
  have plain : ∀ symbol ∈ (utf8 (handler.fullKey kind.space "")).map UInt8.toNat,
      symbol ≠ Redis.marks.opening ∧ symbol ≠ Redis.marks.escape := by
    intro symbol member
    obtain ⟨byte, among, rfl⟩ := List.mem_map.mp member
    constructor
    · intro same
      exact free bracket (.inl rfl) (mem_of_mem_utf8 among (same.trans_lt (by decide)) same)
    · intro same
      exact free backslash (.inr rfl) (mem_of_mem_utf8 among (same.trans_lt (by decide)) same)
  have spelled (rest : String) : (utf8 (handler.fullKey kind.space rest)).map UInt8.toNat =
      (utf8 (handler.fullKey kind.space "")).map UInt8.toNat ++ (utf8 rest).map UInt8.toNat := by
    rw [← List.map_append, ← utf8_append]
    simp only [fullKey, String.append_assoc, String.append_empty]
  have star : (utf8 "*").map UInt8.toNat = [Redis.marks.star] := by decide +kernel
  rw [Redis.glob, spelled, spelled key, star]
  exact Glob.isMatch_of_plain Redis.marks plain _

/-- A prefix without brackets and backslashes makes the handler answer like the store. -/
theorem answersLikeStore_of_plain (bracket : '[' ∉ handler.keyPrefix.toList)
    (backslash : '\\' ∉ handler.keyPrefix.toList) : handler.AnswersLikeStore Redis.glob :=
  answersLikeStore_of_matchesItself (matchesItself_of_plain bracket backslash)

end Refinement

/-- On a server with any rule for patterns, the handler answers as the store does if and
only if its patterns match what begins with them. -/
theorem answersLikeStore_iff (glob : Bytes → Bytes → Bool) (config : RedisConfig) :
    (connect config).AnswersLikeStore glob ↔ (connect config).MatchesItself glob :=
  ⟨matchesItself_of_answersLikeStore, answersLikeStore_of_matchesItself⟩

/-- A prefix that reads as `guard1` in a pattern. -/
def bracketed : RedisConfig where
  url := "redis://127.0.0.1:6379"
  keyPrefix := "guard[1]"
  commandTimeoutMs := 5000

def bracketedCalls : List (Timed RedisHandler.Call) :=
  [(0, .setKey .events "a" "1" 60), (1, .listKeys .events), (2, .clearNamespace .events),
    (3, .getKey .events "a")]

/-- The record that is set is not listed, and still read after the namespace is cleared. -/
theorem answersLikeStore_bracketed :
    (client Redis.glob (connect bracketed) 100).answers ∅ bracketedCalls =
        [some .done, some (.keys []), some .done, some (.value (some "1"))] ∧
      (inMemory 100).answers ∅ bracketedCalls =
        [some .done, some (.keys ["a"]), some .done, some (.value none)] ∧
      ¬ (connect bracketed).AnswersLikeStore Redis.glob := by
  have client : (client Redis.glob (connect bracketed) 100).answers ∅ bracketedCalls =
      [some .done, some (.keys []), some .done, some (.value (some "1"))] := by decide +kernel
  have store : (inMemory 100).answers ∅ bracketedCalls =
      [some .done, some (.keys ["a"]), some .done, some (.value none)] := by decide +kernel
  refine ⟨client, store, fun alike => ?_⟩
  have same := (alike 100 ∅ bracketedCalls (fun _ _ => AList.notMem_empty _)
    (by unfold InOrder; decide +kernel) (by decide +kernel)).2
  rw [client, store] at same
  exact absurd same (by decide +kernel)

end RedisClientHandler

end GuardAgent
