import GuardAgent.Agent.State
import GuardAgent.RedisClient
import Mathlib.Data.Nat.Cast.Order.Ring

/-!
# The stores behind the records

The state of the agent holds the records of a store without their expiry. An operation has
the effect that its `StoreReply` says, and a record may go at any time. Both stores of
`persistence.rs` keep to this (`Records.store_admits`): the in-memory one, whose operations
do not fail, and the one over a Redis connection, where a command that fails may have been
performed.
-/

namespace GuardAgent

open Foundation

/-- What becomes of a command: the server performs it and `query` returns its answer, or
`query` fails and the server has performed it or has not. -/
inductive CommandFate where
  | answered
  | unanswered
  | lost
  deriving DecidableEq

namespace RedisClientHandler

/-- `query`, for a command that leaves a database and an answer unless the server refuses
it. -/
def query {α : Type} (fate : CommandFate) (command : Option (α × Redis)) (database : Redis) :
    Option α × Redis :=
  match command, fate with
  | some (answer, after), .answered => (some answer, after)
  | some (_, after), .unanswered => (none, after)
  | some _, .lost => (none, database)
  | none, _ => (none, database)

variable (glob : Bytes → Bytes → Bool) (handler : RedisClientHandler)

/-- `delete_keys`, which sends no command for no keys. -/
def attemptDelete (fate : CommandFate) (kind : Kind) (keys : List String) (database : Redis) :
    Option InMemoryRedisStore.Answer × Redis :=
  if keys.isEmpty then (some .done, database)
  else query fate (some (.done, handler.deleteKeys kind.space keys database)) database

/-- A call whose commands, at most two, may fail. -/
def attempt (latest : ℚ) (database : Redis) :
    Timed (RedisHandler.Call × CommandFate × CommandFate) → Option InMemoryRedisStore.Answer × Redis
  | (now, .setKey kind key value ttlSeconds, fate, _) =>
      query fate ((handler.setKey latest now kind.space key value ttlSeconds database).map
        fun after => (.done, after)) database
  | (now, .getKey kind key, fate, _) =>
      query fate (some (.value (handler.getKey now kind.space key database), database)) database
  | (_, .deleteKeys kind keys, fate, _) => handler.attemptDelete fate kind keys database
  | (now, .listKeys kind, fate, _) =>
      query fate (some (.keys (handler.listKeys glob now kind.space database), database)) database
  | (now, .clearNamespace kind, listing, deletion) =>
      match query listing (some (handler.listKeys glob now kind.space database, database))
          database with
      | (none, database) => (none, database)
      | (some keys, database) => handler.attemptDelete deletion kind keys database

/-- The handler over a connection that may fail. -/
def faulty (latest : ℚ) : Object Redis (Timed (RedisHandler.Call × CommandFate × CommandFate))
    (Option InMemoryRedisStore.Answer) where
  perform := handler.attempt glob latest

end RedisClientHandler

namespace Records

/-- An answer of an operation that says no more than that it succeeded. -/
def done (reply : StoreReply) : Option InMemoryRedisStore.Answer :=
  if reply.succeeded then some .done else none

/-- The operations as the agent sees them. -/
def perform (reply : StoreReply) (records : Kind → Records) :
    RedisHandler.Call → Option InMemoryRedisStore.Answer × (Kind → Records)
  | .setKey kind key value _ =>
      (done reply, Function.update records kind ((records kind).setKey reply key value))
  | .getKey kind key => (((records kind).getKey reply key).map .value, records)
  | .deleteKeys kind keys =>
      (done reply, Function.update records kind ((records kind).deleteKeys reply keys))
  | .listKeys kind => (((records kind).listKeys reply).map .keys, records)
  | .clearNamespace kind =>
      (done reply, Function.update records kind ((records kind).clearNamespace reply))

/-- The store as the agent sees it. -/
def store : LooseObject (Kind → Records) RedisHandler.Call (Option InMemoryRedisStore.Answer) where
  changes records after :=
    ∃ kind key, after = Function.update records kind (AList.erase key (records kind))
  performs records call answer after := ∃ reply, perform reply records call = (answer, after)

/-- The records are what the maps show. -/
def Mirror (now : ℚ) (maps : TtlMaps) (records : Kind → Records) : Prop :=
  ∀ kind key, (records kind).lookup key =
    (Lapsing.visible TtlMaps.visible now (maps kind) key).map InMemoryRedisStore.Entry.value

variable {latest now later : ℚ} {maps : TtlMaps} {records : Kind → Records}

/-- Erasing keys one after the other erases these keys and no others. -/
theorem lookup_eraseAll (records : Records) (keys : List String) (key : String) :
    (keys.foldl (fun records key => records.erase key) records).lookup key =
      if key ∈ keys then none else records.lookup key := by
  induction keys generalizing records with
  | nil => rfl
  | cons first keys ih =>
      rw [List.foldl_cons, ih]
      by_cases same : key = first
      · subst same
        rw [AList.lookup_erase, ite_self, if_pos List.mem_cons_self]
      · rw [AList.lookup_erase_ne same]
        simp only [List.mem_cons, same, false_or]

/-- What an operation that fails without any effect leaves. -/
theorem perform_lost (call : RedisHandler.Call) :
    perform (.failed []) records call = (none, records) := by
  have none (keys : List String) : keys.filter (StoreReply.failed []).affects = [] :=
    List.filter_eq_nil_iff.mpr fun _ _ => Bool.false_ne_true
  cases call with
  | setKey kind key value ttlSeconds => exact congrArg (Option.none, ·) (Function.update_eq_self ..)
  | getKey kind key => rfl
  | deleteKeys kind keys =>
      simp only [perform, deleteKeys, none, List.foldl_nil, Function.update_eq_self]
      rfl
  | listKeys kind => rfl
  | clearNamespace kind =>
      simp only [perform, clearNamespace, deleteKeys, none, List.foldl_nil,
        Function.update_eq_self]
      rfl

/-- An operation may have its whole effect and fail. -/
theorem exists_perform_unanswered (records : Kind → Records) (call : RedisHandler.Call) :
    ∃ reply, perform reply records call = (none, (perform .ok records call).2) := by
  have all (keys : List String) :
      keys.filter (StoreReply.failed keys).affects = keys.filter StoreReply.ok.affects := by
    refine List.filter_congr fun key member => ?_
    exact List.contains_iff_mem.mpr member
  cases call with
  | setKey kind key value ttlSeconds =>
      refine ⟨.failed [key], ?_⟩
      have affected : (StoreReply.failed [key]).affects key = true :=
        List.contains_iff_mem.mpr List.mem_cons_self
      simp only [perform, setKey, affected]
      rfl
  | getKey kind key => exact ⟨.failed [], rfl⟩
  | deleteKeys kind keys =>
      refine ⟨.failed keys, ?_⟩
      simp only [perform, deleteKeys, all]
      rfl
  | listKeys kind => exact ⟨.failed [], rfl⟩
  | clearNamespace kind =>
      refine ⟨.failed (records kind).keys, ?_⟩
      simp only [perform, clearNamespace, deleteKeys, all]
      rfl

namespace Mirror

/-- The records stay the mirror when one kind's map and its records are changed alike. -/
theorem update (mirror : Mirror now maps records) (kind : Kind)
    {map : AList fun _ : String => InMemoryRedisStore.Entry} {record : Records}
    (same : ∀ key, record.lookup key =
      (Lapsing.visible TtlMaps.visible now map key).map InMemoryRedisStore.Entry.value) :
    Mirror now (Function.update maps kind map) (Function.update records kind record) := by
  intro other key
  by_cases own : other = kind
  · subst own
    rw [Function.update_self, Function.update_self, same]
  · rw [Function.update_of_ne own, Function.update_of_ne own, mirror]

/-- The records stay the mirror when the same keys are erased on both sides. -/
theorem eraseAll (mirror : Mirror now maps records) (kind : Kind) (keys : List String) :
    Mirror now (Function.update maps kind (keys.foldl (fun map key => map.erase key) (maps kind)))
      (Function.update records kind
        (keys.foldl (fun record key => AList.erase key record) (records kind))) := by
  refine mirror.update kind fun key => ?_
  rw [lookup_eraseAll, Lapsing.visible_erase_all, mirror]
  split <;> rfl

/-- Both sides list the same keys, possibly in another order. -/
theorem keys_perm (mirror : Mirror now maps records) (kind : Kind) :
    (records kind).keys.Perm (Lapsing.visibleKeys TtlMaps.visible now (maps kind)) := by
  refine (List.perm_ext_iff_of_nodup (AList.keys_nodup _)
    (Lapsing.nodup_visibleKeys TtlMaps.visible now _)).mpr fun key => ?_
  rw [← AList.mem_keys, ← AList.lookup_isSome, mirror, Option.isSome_map, Lapsing.mem_visibleKeys]

/-- A call that succeeds is answered as the maps answer it. -/
theorem performed (mirror : Mirror now maps records) (call : RedisHandler.Call) :
    (perform .ok records call).1 =
        some (TtlMaps.handler.perform maps (now, call.onStore)).1 ∧
      Mirror now (TtlMaps.handler.perform maps (now, call.onStore)).2
        (perform .ok records call).2 := by
  cases call with
  | setKey kind key value ttlSeconds =>
      refine ⟨rfl, mirror.update kind fun other => ?_⟩
      have shown : TtlMaps.visible now ⟨value, TtlMaps.expiry now ttlSeconds⟩ = true := by
        refine decide_eq_true fun expiry expires => ?_
        by_cases endless : ttlSeconds = 0
        · rw [TtlMaps.expiry, if_pos endless] at expires
          cases expires
        · rw [TtlMaps.expiry, if_neg endless] at expires
          obtain rfl := Option.some.inj expires
          exact lt_add_of_pos_right now (Nat.cast_pos.mpr (Nat.pos_of_ne_zero endless))
      by_cases same : other = key
      · subst same
        rw [Lapsing.visible_insert_self, Option.filter_some, if_pos shown]
        exact AList.lookup_insert _
      · rw [Lapsing.visible_insert_of_ne TtlMaps.visible same, ← mirror]
        exact AList.lookup_insert_ne same
  | getKey kind key =>
      exact ⟨congrArg (some ∘ InMemoryRedisStore.Answer.value) (mirror kind key), mirror⟩
  | deleteKeys kind keys =>
      refine ⟨rfl, ?_⟩
      have all : keys.filter StoreReply.ok.affects = keys := List.filter_true keys
      simp only [perform, deleteKeys, all]
      exact mirror.eraseAll kind keys
  | listKeys kind =>
      refine ⟨?_, mirror⟩
      have sorted := InMemoryRedisStore.insertionSort_eq_of_perm (mirror.keys_perm kind)
      exact congrArg (some ∘ InMemoryRedisStore.Answer.keys) sorted
  | clearNamespace kind =>
      refine ⟨rfl, mirror.update kind fun key => ?_⟩
      have all : (records kind).keys.filter StoreReply.ok.affects = (records kind).keys :=
        List.filter_true _
      have gone : ((records kind).clearNamespace .ok).lookup key = none := by
        rw [clearNamespace, deleteKeys, all, lookup_eraseAll]
        split
        · rfl
        next missing => exact AList.lookup_eq_none.mpr missing
      rw [gone]
      rfl

/-- As time passes records lapse, which the agent sees as their going. -/
theorem lasts (mirror : Mirror now maps records) (passing : now ≤ later) :
    ∃ records', Relation.ReflTransGen store.changes records records' ∧
      Mirror later maps records' := by
  have erasing (kind : Kind) (keys : List String) (records : Kind → Records) :
      Relation.ReflTransGen store.changes records (Function.update records kind
        (keys.foldl (fun record key => AList.erase key record) (records kind))) := by
    induction keys generalizing records with
    | nil => rw [List.foldl_nil, Function.update_eq_self]
    | cons key keys ih =>
        have rest := ih (Function.update records kind (AList.erase key (records kind)))
        rw [Function.update_self, Function.update_idem] at rest
        exact .head ⟨kind, key, rfl⟩ rest
  let lapsed (kind : Kind) : List String := (records kind).keys.filter fun key =>
    (Lapsing.visible TtlMaps.visible later (maps kind) key).isNone
  let kept (kind : Kind) : Records :=
    (lapsed kind).foldl (fun record key => AList.erase key record) (records kind)
  have both := (erasing .events (lapsed .events) records).trans
    (erasing .metrics (lapsed .metrics) _)
  rw [Function.update_of_ne (by decide)] at both
  have all : Function.update (Function.update records .events (kept .events)) .metrics
      (kept .metrics) = kept := by
    funext kind
    cases kind <;> rfl
  refine ⟨kept, all ▸ both, fun kind key => ?_⟩
  have remains := Lapsing.visible_later TtlMaps.visible
    (InMemoryRedisStore.visible_of_later passing) (maps kind) key
  rw [lookup_eraseAll, mirror, remains]
  cases held : Lapsing.visible TtlMaps.visible now (maps kind) key with
  | none => exact ite_self none
  | some entry =>
      have known : key ∈ (records kind).keys := by
        rw [← AList.mem_keys, ← AList.lookup_isSome, mirror, held]
        rfl
      rw [held] at remains
      by_cases live : TtlMaps.visible later entry = true
      · rw [Option.filter_some, if_pos live] at remains ⊢
        refine if_neg fun gone => ?_
        have none := (List.mem_filter.mp gone).2
        rw [remains] at none
        cases none
      · rw [Option.filter_some, if_neg live] at remains ⊢
        refine if_pos (List.mem_filter.mpr ⟨known, ?_⟩)
        rw [remains]
        rfl

end Mirror

end Records

namespace RedisClientHandler

variable {glob : Bytes → Bytes → Bool} {handler : RedisClientHandler} {latest : ℚ}

/-- A command with a fault fails without effect, works, or takes effect and fails. -/
theorem query_cases {α : Type} (fate : CommandFate) (answer : α) (after database : Redis) :
    query fate (some (answer, after)) database = (none, database) ∨
      query fate (some (answer, after)) database = (some answer, after) ∨
      query fate (some (answer, after)) database = (none, after) := by
  cases fate with
  | answered => exact Or.inr (Or.inl rfl)
  | unanswered => exact Or.inr (Or.inr rfl)
  | lost => exact Or.inl rfl

/-- **What becomes of a call**: it fails and changes nothing, or it is performed, whether or
not it is answered. -/
theorem attempt_cases (database : Redis)
    (call : Timed (RedisHandler.Call × CommandFate × CommandFate)) :
    (handler.faulty glob latest).perform database call = (none, database) ∨
      Succeeds latest (call.1, call.2.1) ∧
        (((handler.faulty glob latest).perform database call =
            (handler.client glob latest).perform database (call.1, call.2.1)) ∨
          (handler.faulty glob latest).perform database call =
            (none, ((handler.client glob latest).perform database (call.1, call.2.1)).2)) := by
  obtain ⟨now, call, first, second⟩ := call
  have deleted (fate : CommandFate) (kind : Kind) (keys : List String) :
      handler.attemptDelete fate kind keys database = (none, database) ∨
        handler.attemptDelete fate kind keys database =
          (some .done, handler.deleteKeys kind.space keys database) ∨
        handler.attemptDelete fate kind keys database =
          (none, handler.deleteKeys kind.space keys database) := by
    unfold attemptDelete
    by_cases empty : keys.isEmpty = true
    · rw [if_pos empty, deleteKeys, if_pos empty]
      exact Or.inr (Or.inl rfl)
    · rw [if_neg empty]
      exact query_cases ..
  cases call with
  | setKey kind key value ttlSeconds =>
      by_cases granted : 0 < ttlSeconds ∧ now + ttlSeconds ≤ latest
      · have written :
            handler.setKey latest now kind.space key value ttlSeconds database = some _ :=
          if_pos granted
        simp only [faulty, attempt, client, perform, written, Option.map_some]
        exact (query_cases ..).imp_right fun cases => ⟨granted, cases⟩
      · have refused : handler.setKey latest now kind.space key value ttlSeconds database = none :=
          if_neg granted
        simp only [faulty, attempt, refused, Option.map_none]
        exact Or.inl (by cases first <;> rfl)
  | getKey kind key =>
      exact (query_cases ..).imp_right fun cases => ⟨trivial, cases⟩
  | deleteKeys kind keys =>
      exact (deleted first kind keys).imp_right fun cases => ⟨trivial, cases⟩
  | listKeys kind =>
      exact (query_cases ..).imp_right fun cases => ⟨trivial, cases⟩
  | clearNamespace kind =>
      cases first with
      | answered =>
          exact (deleted second kind _).imp_right fun cases => ⟨trivial, cases⟩
      | unanswered => exact Or.inl rfl
      | lost => exact Or.inl rfl

end RedisClientHandler

namespace Records

variable {glob : Bytes → Bytes → Bool} {handler : RedisClientHandler} {latest : ℚ}

/-- The records are what the database holds under the keys of the handler. -/
def Shown (handler : RedisClientHandler) (now : ℚ) (database : Redis) (records : Kind → Records) :
    Prop :=
  ∀ kind key, (records kind).lookup key = database.get now (handler.fullKey kind.space key)

/-- An attempted call of the real store, faults included, is one that the agent's model admits. -/
theorem attempt_admitted (literal : handler.MatchesItself glob) {database : Redis}
    {maps : TtlMaps} {records : Kind → Records}
    {call : Timed (RedisHandler.Call × CommandFate × CommandFate)}
    (refines : handler.Refines call.1 database maps) (mirror : Mirror call.1 maps records) :
    ∃ records' maps', store.performs records call.2.1
        ((handler.faulty glob latest).perform database call).1 records' ∧
      handler.Refines call.1 ((handler.faulty glob latest).perform database call).2 maps' ∧
      Mirror call.1 maps' records' := by
  rcases RedisClientHandler.attempt_cases database call with
    same | ⟨succeeds, same | same⟩ <;> rw [same]
  · exact ⟨records, maps, ⟨_, perform_lost call.2.1⟩, refines, mirror⟩
  all_goals
    obtain ⟨answered, next⟩ := RedisClientHandler.perform_refines literal succeeds refines
    obtain ⟨performed, mirrored⟩ := mirror.performed call.2.1
  · refine ⟨_, _, ⟨.ok, Prod.ext (performed.trans answered.symm) rfl⟩, next, mirrored⟩
  · obtain ⟨reply, failed⟩ := exists_perform_unanswered records call.2.1
    exact ⟨_, _, ⟨reply, failed⟩, next, mirrored⟩

/-- What a database shows is what some maps show. -/
theorem Shown.exists_maps {now : ℚ} {database : Redis} {records : Kind → Records}
    (shown : Shown handler now database records) :
    ∃ maps, handler.Refines now database maps ∧ Mirror now maps records := by
  let maps (kind : Kind) := Lapsing.gather TtlMaps.visible (handler.fullKey kind.space) now
    database (records kind).keys
  have refines : handler.Refines now database maps := by
    intro kind key
    rw [Lapsing.visible_gather]
    split
    · rfl
    · next missing =>
      have none := shown kind key
      rw [AList.lookup_eq_none.mpr missing, Redis.get] at none
      exact Option.map_eq_none_iff.mp none.symm
  refine ⟨maps, refines, fun kind key => ?_⟩
  rw [shown, Redis.get, ← refines kind key]

/-- The time at which the record would lapse is within the range of the clock. -/
def Reached (latest : ℚ) (call : Timed RedisHandler.Call) : Prop :=
  InMemoryRedisStore.Reached latest (call.1, call.2.onStore)

/-- **Both stores are what the agent takes them for**: every history of calls is one that the
records admit, over a Redis connection whatever becomes of the commands. -/
theorem store_admits (latest now : ℚ) :
    (∀ (glob : Bytes → Bytes → Bool) (handler : RedisClientHandler),
      handler.MatchesItself glob → ∀ (database : Redis) (records : Kind → Records),
      Shown handler now database records →
      ∀ calls : List (Timed (RedisHandler.Call × CommandFate × CommandFate)), InOrder calls →
      (∀ call ∈ calls, now ≤ call.1) →
      store.Admits records ((calls.map fun call => call.2.1).zip
        ((handler.faulty glob latest).answers database calls))) ∧
    ∀ calls : List (Timed RedisHandler.Call), InOrder calls → (∀ call ∈ calls, now ≤ call.1) →
      (∀ call ∈ calls, Reached latest call) →
      store.Admits (fun _ => ∅) ((calls.map fun call => call.2).zip
        ((RedisClientHandler.inMemory latest).answers ∅ calls)) := by
  constructor
  · intro glob handler literal database records shown calls ordered begun
    refine LooseObject.admits_of_refines (fun call => call.1)
      (fun now database records =>
        ∃ maps, handler.Refines now database maps ∧ Mirror now maps records)
      (fun _ => True) ?_ ?_ (fun _ _ => trivial) begun ordered shown.exists_maps
    · rintro now later database records passing ⟨maps, refines, mirror⟩
      obtain ⟨records', changed, mirrored⟩ := mirror.lasts passing
      exact ⟨records', changed, maps,
        refines.later (InMemoryRedisStore.visible_of_later passing), mirrored⟩
    · rintro database records call - ⟨maps, refines, mirror⟩
      obtain ⟨records', maps', performed, next⟩ := attempt_admitted literal refines mirror
      exact ⟨records', performed, maps', next⟩
  · intro calls ordered begun reached
    refine LooseObject.admits_of_refines (fun call => call)
      (fun now entries records =>
        ∃ maps, InMemoryRedisStore.Refines now entries maps ∧ Mirror now maps records)
      (Reached latest) ?_ ?_ reached begun ordered
      ⟨fun _ => ∅, Lapsing.Houses.empty, fun _ _ => rfl⟩
    · rintro now later entries records passing ⟨maps, refines, mirror⟩
      obtain ⟨records', changed, mirrored⟩ := mirror.lasts passing
      exact ⟨records', changed, maps,
        refines.later (InMemoryRedisStore.visible_of_later passing), mirrored⟩
    · rintro entries records call reaches ⟨maps, refines, mirror⟩
      obtain ⟨answered, next⟩ := @InMemoryRedisStore.perform_refines latest entries maps
        (call.1, call.2.onStore) refines
      have within : InMemoryRedisStore.Reached latest (call.1, call.2.onStore) := reaches
      rw [TtlMaps.clocked, Object.guarded_perform _ _ _ _ within] at answered next
      obtain ⟨performed, mirrored⟩ := mirror.performed call.2
      refine ⟨_, ⟨.ok, Prod.ext ?_ rfl⟩, _, next, mirrored⟩
      exact performed.trans (congrArg some answered.symm)

/-- A record that is written although `set_key` times out, and one that lapses. -/
theorem store_admits_timeout :
    let config : RedisConfig :=
      { url := "redis://127.0.0.1:6379", keyPrefix := "guard", commandTimeoutMs := 5000 }
    let set := RedisHandler.Call.setKey .events "a" "1" 60
    let calls := [(0, set, .unanswered, .lost), (1, .getKey .events "a", .answered, .lost),
      (2, .clearNamespace .events, .answered, .lost)]
    (RedisClientHandler.faulty Redis.glob (.connect config) 100).answers ∅ calls =
        [none, some (.value (some "1")), none] ∧
      store.Admits (fun _ => ∅) [(set, none), (.getKey .events "a", some (.value (some "1"))),
        (.clearNamespace .events, none)] ∧
      store.Admits (fun _ => ∅) [(set, some .done), (.listKeys .events, some (.keys []))] := by
  intro config set calls
  let stored : List (Timed RedisHandler.Call) := [(0, set), (60, .listKeys .events)]
  have answers : (RedisClientHandler.faulty Redis.glob (.connect config) 100).answers ∅ calls =
      [none, some (.value (some "1")), none] := by decide +kernel
  have lapses : (RedisClientHandler.inMemory 100).answers ∅ stored =
      [some .done, some (.keys [])] := by decide +kernel
  have literal : (RedisClientHandler.connect config).MatchesItself Redis.glob :=
    RedisClientHandler.matchesItself_of_plain (by decide) (by decide)
  have reached : ∀ call ∈ stored, Reached 100 call := by
    refine List.forall_mem_cons.mpr ⟨Or.inr ?_, List.forall_mem_singleton.mpr trivial⟩
    decide +kernel
  have admits := store_admits 100 0
  have faulted := admits.1 Redis.glob _ literal ∅ (fun _ => ∅) (fun _ _ => rfl) calls
    (by unfold InOrder; decide +kernel) (by decide +kernel)
  have kept := admits.2 stored (by unfold InOrder; decide +kernel) (by decide +kernel) reached
  rw [answers] at faulted
  rw [lapses] at kept
  exact ⟨answers, faulted, kept⟩

end Records

end GuardAgent
