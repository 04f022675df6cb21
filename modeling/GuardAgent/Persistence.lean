import GuardAgent.Foundation.Object
import GuardAgent.Foundation.Lapsing
import GuardAgent.Text
import GuardAgent.Models
import Mathlib.Data.String.Basic

/-!
# The in-memory store

`InMemoryRedisStore` of `persistence.rs` keeps the records of every namespace in one map,
under `namespace:key`, and removes the expired ones in some of its operations. What it is
for are separate maps, one for each namespace, in which a record is seen while its expiry
lies ahead (`TtlMaps`). Whatever characters the keys have, a full key names one record of
one namespace, since the namespaces have no colon.

The clock of the store has a last instant, `latest`, which the maps know nothing of:
`set_key` panics before it takes the lock when the expiry is past it. So the store answers
as the maps do exactly when every expiry is within the range of the clock
(`refines_ttlMaps`), and as the maps behind that guard in any case (`answers_eq`).
-/

namespace GuardAgent

/-- `NAMESPACE_EVENTS` and `NAMESPACE_METRICS`. -/
def Kind.space : Kind → String
  | .events => "agent_events"
  | .metrics => "agent_metrics"

def namespacedKey (space key : String) : String :=
  space ++ ":" ++ key

/-- No namespace has a colon. -/
theorem Kind.space_colonless (kind : Kind) : ':' ∉ kind.space.toList := by
  cases kind <;> decide

/-- The namespaces differ. -/
theorem Kind.space_injective : Function.Injective Kind.space := by
  intro kind other equal
  cases kind <;> cases other <;> first | rfl | exact absurd equal (by decide)

/-- Two lists cut at their first separator. -/
theorem append_cons_inj {separator : Char} {first second rest rest' : List Char}
    (free : separator ∉ first) (free' : separator ∉ second) :
    first ++ separator :: rest = second ++ separator :: rest' ↔
      first = second ∧ rest = rest' := by
  refine ⟨fun equal => ?_, fun ⟨same, same'⟩ => by rw [same, same']⟩
  induction first generalizing second with
  | nil =>
      cases second with
      | nil => exact ⟨rfl, (List.cons.inj equal).2⟩
      | cons c cs => exact absurd ((List.cons.inj equal).1 ▸ List.mem_cons_self) free'
  | cons c cs ih =>
      cases second with
      | nil => exact absurd ((List.cons.inj equal).1 ▸ List.mem_cons_self) free
      | cons c' cs' =>
          obtain ⟨rfl, tails⟩ := List.cons.inj equal
          obtain ⟨rfl, rests⟩ := ih (fun member => free (List.mem_cons_of_mem _ member))
            (fun member => free' (List.mem_cons_of_mem _ member)) tails
          exact ⟨rfl, rests⟩

/-- Without a colon in the namespaces, a full key has one reading. -/
theorem namespacedKey_inj {space other key key' : String} (colonless : ':' ∉ space.toList)
    (colonless' : ':' ∉ other.toList) :
    namespacedKey space key = namespacedKey other key' ↔ space = other ∧ key = key' := by
  have spelled (space key : String) :
      (namespacedKey space key).toList = space.toList ++ ':' :: key.toList := by
    rw [namespacedKey, String.toList_append, String.toList_append, List.append_assoc]
    rfl
  rw [← String.toList_inj, spelled, spelled, append_cons_inj colonless colonless',
    String.toList_inj, String.toList_inj]

/-- The full key of a record. -/
def Kind.fullKey (kind : Kind) (key : String) : String :=
  namespacedKey kind.space key

/-- A full key names one kind and one key. -/
theorem Kind.fullKey_injective2 : Function.Injective2 Kind.fullKey := by
  intro kind other key key' equal
  obtain ⟨spaces, keys⟩ :=
    (namespacedKey_inj kind.space_colonless other.space_colonless).mp equal
  exact ⟨Kind.space_injective spaces, keys⟩

/-- A full key begins with its own namespace and no other. -/
theorem Kind.startsWith_fullKey (kind other : Kind) (key : String) :
    startsWith (other.fullKey key) (kind.space ++ ":") = decide (other = kind) := by
  rw [Bool.eq_iff_iff, startsWith_iff, decide_eq_true_eq]
  constructor
  · rintro ⟨rest, split⟩
    exact (Kind.fullKey_injective2 split).1
  · rintro rfl
    exact ⟨key, rfl⟩

namespace InMemoryRedisStore

structure Entry where
  value : String
  expiresAt : Option ℚ
  deriving DecidableEq

def Entry.isExpired (entry : Entry) (now : ℚ) : Bool :=
  entry.expiresAt.any fun expiresAt => expiresAt ≤ now

end InMemoryRedisStore

/-- The entries of the store, under their full keys. -/
abbrev InMemoryRedisStore : Type := AList fun _ : String => InMemoryRedisStore.Entry

namespace InMemoryRedisStore

open Foundation

/-- The expiry `set_key` computes; `none` when no `Instant` is that late. -/
def expiresAt? (latest now : ℚ) (ttlSeconds : ℕ) : Option (Option ℚ) :=
  if ttlSeconds = 0 then some none
  else if now + ttlSeconds ≤ latest then some (some (now + ttlSeconds))
  else none

/-- `set_key`; `none` when it panics. -/
def setKey (latest now : ℚ) (space key value : String) (ttlSeconds : ℕ)
    (entries : InMemoryRedisStore) : Option InMemoryRedisStore :=
  (expiresAt? latest now ttlSeconds).map fun expiresAt =>
    entries.insert (namespacedKey space key) { value, expiresAt }

def getKey (now : ℚ) (space key : String) (entries : InMemoryRedisStore) :
    Option String × InMemoryRedisStore :=
  let fullKey := namespacedKey space key
  let entries :=
    if (entries.lookup fullKey).any (·.isExpired now) then entries.erase fullKey else entries
  ((entries.lookup fullKey).map Entry.value, entries)

def deleteKeys (space : String) (keys : List String) (entries : InMemoryRedisStore) :
    InMemoryRedisStore :=
  keys.foldl (fun entries key => entries.erase (namespacedKey space key)) entries

/-- The entries that are not expired, as `list_keys` and `len` retain them. -/
def retainLive (now : ℚ) (entries : InMemoryRedisStore) : InMemoryRedisStore :=
  Lapsing.retain (fun _ entry => !entry.isExpired now) entries

def listKeys (now : ℚ) (space : String) (entries : InMemoryRedisStore) :
    List String × InMemoryRedisStore :=
  let start := space ++ ":"
  let entries := retainLive now entries
  ((entries.keys.filterMap (stripPrefix · start)).insertionSort (· ≤ ·), entries)

def clearNamespace (space : String) (entries : InMemoryRedisStore) : InMemoryRedisStore :=
  Lapsing.retain (fun key _ => !startsWith key (space ++ ":")) entries

def len (now : ℚ) (entries : InMemoryRedisStore) : ℕ × InMemoryRedisStore :=
  let entries := retainLive now entries
  (entries.keys.length, entries)

/-- A call of the store on one of the agent's namespaces. -/
inductive Call where
  | setKey (kind : Kind) (key value : String) (ttlSeconds : ℕ)
  | getKey (kind : Kind) (key : String)
  | deleteKeys (kind : Kind) (keys : List String)
  | listKeys (kind : Kind)
  | clearNamespace (kind : Kind)
  | len
  deriving DecidableEq

/-- The call is one on this namespace. -/
def Call.isOn (kind : Kind) : Call → Bool
  | .setKey on _ _ _ | .getKey on _ | .deleteKeys on _ | .listKeys on | .clearNamespace on =>
      on = kind
  | .len => false

/-- What a call answers; `panicked` when it does not return. -/
inductive Answer where
  | done
  | panicked
  | value (found : Option String)
  | keys (listed : List String)
  | count (records : ℕ)
  deriving DecidableEq

def perform (latest : ℚ) (entries : InMemoryRedisStore) :
    Timed Call → Answer × InMemoryRedisStore
  | (now, .setKey kind key value ttlSeconds) =>
      match setKey latest now kind.space key value ttlSeconds entries with
      | some entries => (.done, entries)
      | none => (.panicked, entries)
  | (now, .getKey kind key) =>
      let (found, entries) := getKey now kind.space key entries
      (.value found, entries)
  | (_, .deleteKeys kind keys) => (.done, deleteKeys kind.space keys entries)
  | (now, .listKeys kind) =>
      let (listed, entries) := listKeys now kind.space entries
      (.keys listed, entries)
  | (_, .clearNamespace kind) => (.done, clearNamespace kind.space entries)
  | (now, .len) =>
      let (records, entries) := len now entries
      (.count records, entries)

/-- The time at which the record is to lapse, if any, is within the range of the clock. -/
def Reached (latest : ℚ) : Timed Call → Prop
  | (now, .setKey _ _ _ ttlSeconds) => ttlSeconds = 0 ∨ now + ttlSeconds ≤ latest
  | _ => True

instance (latest : ℚ) : DecidablePred (Reached latest)
  | (_, .setKey ..) => inferInstanceAs (Decidable (_ ∨ _))
  | (_, .getKey ..) | (_, .deleteKeys ..) | (_, .listKeys ..) | (_, .clearNamespace ..)
  | (_, .len) => inferInstanceAs (Decidable True)

/-- The store as an object, which is called at times. -/
def handler (latest : ℚ) : Object InMemoryRedisStore (Timed Call) Answer where
  perform := perform latest

end InMemoryRedisStore

/-- A separate map for each namespace, from short keys to values with their expiry. -/
abbrev TtlMaps : Type := Kind → AList fun _ : String => InMemoryRedisStore.Entry

namespace TtlMaps

open Foundation InMemoryRedisStore

/-- A record is visible while its expiry, if it has one, lies ahead. -/
def visible (now : ℚ) (record : Entry) : Bool :=
  decide (∀ expiry ∈ record.expiresAt, now < expiry)

/-- When a record that is set now lapses. -/
def expiry (now : ℚ) (ttlSeconds : ℕ) : Option ℚ :=
  if ttlSeconds = 0 then none else some (now + ttlSeconds)

/-- Each call of the maps; every record that is set is stored. -/
def perform (maps : TtlMaps) : Timed Call → Answer × TtlMaps
  | (now, .setKey kind key value ttlSeconds) =>
      let record : Entry := { value, expiresAt := expiry now ttlSeconds }
      (.done, Function.update maps kind ((maps kind).insert key record))
  | (now, .getKey kind key) =>
      (.value ((Lapsing.visible visible now (maps kind) key).map Entry.value), maps)
  | (_, .deleteKeys kind keys) =>
      (.done, Function.update maps kind (keys.foldl (fun map key => map.erase key) (maps kind)))
  | (now, .listKeys kind) =>
      (.keys ((Lapsing.visibleKeys visible now (maps kind)).insertionSort (· ≤ ·)), maps)
  | (_, .clearNamespace kind) => (.done, Function.update maps kind ∅)
  | (now, .len) =>
      (.count ((Lapsing.visibleKeys visible now (maps .events)).length +
        (Lapsing.visibleKeys visible now (maps .metrics)).length), maps)

/-- The maps as an object, which is called at times. -/
def handler : Object TtlMaps (Timed Call) Answer where
  perform := perform

/-- The maps behind the clock of the store, which refuses an expiry out of its range. -/
def clocked (latest : ℚ) : Object TtlMaps (Timed Call) Answer :=
  handler.guarded (Reached latest) .panicked

/-- No call of the maps panics. -/
theorem handler_proper (maps : TtlMaps) (call : Timed Call) :
    (handler.perform maps call).1 ≠ .panicked := by
  obtain ⟨now, call⟩ := call
  cases call <;> exact fun same => by cases same

end TtlMaps

namespace InMemoryRedisStore

open Foundation TtlMaps

/-- What the store drops as expired is what is not visible. -/
theorem visible_eq (now : ℚ) (entry : Entry) : visible now entry = !entry.isExpired now := by
  rcases entry with ⟨value, _ | expiresAt⟩
  · rfl
  · rw [visible, Entry.isExpired, Option.any_some, ← decide_not, decide_eq_decide]
    simp only [Option.mem_some_iff, forall_eq', not_le]

/-- A record that is still visible later is visible now. -/
theorem visible_of_later {now later : ℚ} (passing : now ≤ later) (entry : Entry)
    (shown : visible later entry = true) : visible now entry = true :=
  decide_eq_true fun expiry member =>
    passing.trans_lt (of_decide_eq_true shown expiry member)

/-- `set_key` within the range of the clock. -/
theorem setKey_of_reached {latest now : ℚ} {kind : Kind} {key value : String} {ttlSeconds : ℕ}
    (reached : Reached latest (now, .setKey kind key value ttlSeconds))
    (entries : InMemoryRedisStore) :
    setKey latest now kind.space key value ttlSeconds entries =
      some (entries.insert (kind.fullKey key) { value, expiresAt := expiry now ttlSeconds }) := by
  unfold setKey expiresAt? expiry
  by_cases endless : ttlSeconds = 0
  · rw [if_pos endless, if_pos endless]
    rfl
  · rw [if_neg endless, if_neg endless, if_pos (reached.resolve_left endless)]
    rfl

/-- `set_key` out of the range of the clock. -/
theorem setKey_of_not_reached {latest now : ℚ} {kind : Kind} {key value : String}
    {ttlSeconds : ℕ} (past : ¬ Reached latest (now, .setKey kind key value ttlSeconds))
    (entries : InMemoryRedisStore) :
    setKey latest now kind.space key value ttlSeconds entries = none := by
  obtain ⟨endless, late⟩ := not_or.mp past
  rw [setKey, expiresAt?, if_neg endless, if_neg late]
  rfl

/-- The entries that stay are the visible ones. -/
theorem retainLive_eq (now : ℚ) (entries : InMemoryRedisStore) :
    retainLive now entries = Lapsing.retain (fun _ => visible now) entries := by
  unfold retainLive
  rw [← funext (visible_eq now)]

/-- The order in which the keys are found does not matter once they are sorted. -/
theorem insertionSort_eq_of_perm {found found' : List String} (perm : found.Perm found') :
    found.insertionSort (· ≤ ·) = found'.insertionSort (· ≤ ·) :=
  ((List.perm_insertionSort ..).trans (perm.trans (List.perm_insertionSort ..).symm))
    |>.eq_of_pairwise' (List.pairwise_insertionSort ..) (List.pairwise_insertionSort ..)

/-- The store houses the maps. -/
abbrev Refines (now : ℚ) (entries : InMemoryRedisStore) (maps : TtlMaps) : Prop :=
  Lapsing.Houses visible Kind.fullKey now entries maps

section Refinement

variable {latest now : ℚ} {entries : InMemoryRedisStore} {maps : TtlMaps}

/-- What `get_key` removes was not seen, and what it leaves is. -/
theorem visible_eq_lookup (fullKey : String) :
    Lapsing.visible visible now entries fullKey =
      if (entries.lookup fullKey).any (·.isExpired now) then none
      else entries.lookup fullKey := by
  unfold Lapsing.visible
  rw [funext (visible_eq now)]
  cases entries.lookup fullKey with
  | none => rfl
  | some entry =>
      rw [Option.filter_some, Option.any_some]
      cases entry.isExpired now <;> rfl

/-- `get_key` answers as the map of its namespace, and drops nothing that is seen. -/
theorem getKey_refines (refines : Refines now entries maps) (kind : Kind) (key : String) :
    (getKey now kind.space key entries).1 =
        (Lapsing.visible visible now (maps kind) key).map Entry.value ∧
      Refines now (getKey now kind.space key entries).2 maps := by
  rw [← refines.shown]
  have shown : Lapsing.visible visible now entries (kind.fullKey key) = _ :=
    visible_eq_lookup (kind.fullKey key)
  by_cases expired : (entries.lookup (kind.fullKey key)).any (·.isExpired now) = true
  · rw [if_pos expired] at shown
    have removed : getKey now kind.space key entries =
        (none, entries.erase (kind.fullKey key)) := by
      rw [getKey, ← Kind.fullKey, if_pos expired, AList.lookup_erase]
      rfl
    rw [removed, shown]
    exact ⟨rfl, refines.erase_lapsed shown⟩
  · rw [if_neg expired] at shown
    have left : getKey now kind.space key entries =
        ((entries.lookup (kind.fullKey key)).map Entry.value, entries) := by
      rw [getKey, ← Kind.fullKey, if_neg expired]
    rw [left, shown]
    exact ⟨rfl, refines⟩

/-- `list_keys` answers with the keys of the map of its namespace, sorted. -/
theorem listKeys_refines (refines : Refines now entries maps) (kind : Kind) :
    (listKeys now kind.space entries).1 =
        (Lapsing.visibleKeys visible now (maps kind)).insertionSort (· ≤ ·) ∧
      Refines now (listKeys now kind.space entries).2 maps := by
  have named (full key : String) :
      stripPrefix full (kind.space ++ ":") = some key ↔ full = kind.fullKey key :=
    stripPrefix_eq_some
  unfold listKeys
  rw [retainLive_eq]
  refine ⟨?_, refines.prune⟩
  exact insertionSort_eq_of_perm (refines.shows.keys_perm named)

/-- `clear_namespace` clears the map of its namespace and no other. -/
theorem clearNamespace_refines (refines : Refines now entries maps) (kind : Kind) :
    Refines now (clearNamespace kind.space entries) (Function.update maps kind ∅) := by
  refine refines.clear (fun key => ?_) (fun other key different => ?_)
  · rw [Kind.startsWith_fullKey, decide_eq_true rfl, Bool.not_true]
  · rw [Kind.startsWith_fullKey, decide_eq_false different, Bool.not_false]

/-- `len` counts the records of both maps. -/
theorem len_refines (refines : Refines now entries maps) :
    (len now entries).1 = (Lapsing.visibleKeys visible now (maps .events)).length +
        (Lapsing.visibleKeys visible now (maps .metrics)).length ∧
      Refines now (len now entries).2 maps := by
  unfold len
  rw [retainLive_eq]
  refine ⟨?_, refines.prune⟩
  have distinct : [Kind.events, .metrics].Nodup := by decide
  exact refines.count Kind.fullKey_injective2 distinct fun kind => by cases kind <;> decide

/-- Every call is answered as the maps behind the clock answer it, and leaves a store that
houses them. -/
theorem perform_refines {call : Timed Call} (refines : Refines call.1 entries maps) :
    ((handler latest).perform entries call).1 = ((clocked latest).perform maps call).1 ∧
      Refines call.1 ((handler latest).perform entries call).2
        ((clocked latest).perform maps call).2 := by
  by_cases reached : Reached latest call
  · rw [clocked, Object.guarded_perform _ _ _ _ reached]
    obtain ⟨now, call⟩ := call
    cases call with
    | setKey kind key value ttlSeconds =>
        simp only [handler, perform, setKey_of_reached reached]
        exact ⟨rfl, refines.insert Kind.fullKey_injective2 kind key _⟩
    | getKey kind key =>
        obtain ⟨answered, next⟩ := getKey_refines refines kind key
        exact ⟨congrArg Answer.value answered, next⟩
    | deleteKeys kind keys =>
        exact ⟨rfl, refines.erase_all Kind.fullKey_injective2 kind keys⟩
    | listKeys kind =>
        obtain ⟨answered, next⟩ := listKeys_refines refines kind
        exact ⟨congrArg Answer.keys answered, next⟩
    | clearNamespace kind => exact ⟨rfl, clearNamespace_refines refines kind⟩
    | len =>
        obtain ⟨answered, next⟩ := len_refines refines
        exact ⟨congrArg Answer.count answered, next⟩
  · rw [clocked, Object.guarded_refused _ _ _ _ reached]
    obtain ⟨now, call⟩ := call
    cases call with
    | setKey kind key value ttlSeconds =>
        simp only [handler, perform, setKey_of_not_reached reached]
        exact ⟨trivial, refines⟩
    | _ => exact (reached trivial).elim

/-- A history in order is answered as the maps behind the clock answer it. -/
theorem answers_eq {calls : List (Timed Call)} (ordered : InOrder calls) :
    (handler latest).answers ∅ calls = (clocked latest).answers (fun _ => ∅) calls :=
  answers_eq_of_refines Refines (fun _ => True)
    (fun passing refines => refines.later (visible_of_later passing))
    (fun _ refines => perform_refines refines) (fun _ _ => trivial) ordered
    fun _ => Lapsing.Houses.empty

/-- A history in order is answered as the maps answer it exactly if no expiry is out of the
range of the clock. -/
theorem answers_eq_iff {calls : List (Timed Call)} (ordered : InOrder calls) :
    (handler latest).answers ∅ calls = TtlMaps.handler.answers (fun _ => ∅) calls ↔
      ∀ call ∈ calls, Reached latest call := by
  rw [answers_eq ordered]
  exact Object.answers_guarded_iff _ _ _ handler_proper _ calls

end Refinement

/-- A call that is not on a namespace leaves its map as it is. -/
theorem perform_of_not_isOn {kind : Kind} {call : Timed Call}
    (elsewhere : call.2.isOn kind = false) (maps : TtlMaps) :
    (TtlMaps.handler.perform maps call).2 kind = maps kind := by
  obtain ⟨now, call⟩ := call
  cases call with
  | setKey on _ _ _ | deleteKeys on _ | clearNamespace on =>
      exact Function.update_of_ne (Ne.symm (of_decide_eq_false elsewhere)) ..
  | getKey on key => rfl
  | listKeys on => rfl
  | len => rfl

/-- A call on a namespace depends on its map only. -/
theorem perform_of_isOn {kind : Kind} {call : Timed Call} {maps maps' : TtlMaps}
    (on : call.2.isOn kind = true) (same : maps kind = maps' kind) :
    (TtlMaps.handler.perform maps call).1 = (TtlMaps.handler.perform maps' call).1 ∧
      (TtlMaps.handler.perform maps call).2 kind =
        (TtlMaps.handler.perform maps' call).2 kind := by
  obtain ⟨now, call⟩ := call
  cases call with
  | setKey space _ _ _ | getKey space _ | deleteKeys space _ | listKeys space
  | clearNamespace space =>
      obtain rfl : space = kind := of_decide_eq_true on
      simp only [TtlMaps.handler, TtlMaps.perform, Function.update_self, same, and_self]
  | len => exact absurd on Bool.false_ne_true

/-- Neither map is changed for the other, behind the clock as well. -/
theorem clocked_answersTo (latest : ℚ) (kind : Kind) (calls : List (Timed Call)) :
    (clocked latest).answersTo (fun call => call.2.isOn kind) (fun _ => ∅) calls =
      (clocked latest).answers (fun _ => ∅) (calls.filter fun call => call.2.isOn kind) := by
  refine (clocked latest).answersTo_eq_purged (fun maps : TtlMaps => maps kind)
    (fun maps call elsewhere => ?_) (fun maps maps' call on same => ?_) calls _ _ rfl
  · by_cases reached : Reached latest call
    · rw [clocked, Object.guarded_perform _ _ _ _ reached, perform_of_not_isOn elsewhere]
    · rw [clocked, Object.guarded_refused _ _ _ _ reached]
  · by_cases reached : Reached latest call
    · simp only [clocked, Object.guarded_perform _ _ _ _ reached]
      exact perform_of_isOn on same
    · simp only [clocked, Object.guarded_refused _ _ _ _ reached]
      exact ⟨trivial, same⟩

/-- **The store refines two separate maps** on every history of calls at nondecreasing times
exactly if no record is to lapse past the end of the clock; and the calls on one namespace
are always answered as if no other had been made. -/
theorem refines_ttlMaps (latest : ℚ) (calls : List (Timed Call)) (ordered : InOrder calls) :
    ((handler latest).answers ∅ calls = TtlMaps.handler.answers (fun _ => ∅) calls ↔
        ∀ call ∈ calls, Reached latest call) ∧
      ∀ kind : Kind, (handler latest).answersTo (fun call => call.2.isOn kind) ∅ calls =
        (handler latest).answers ∅ (calls.filter fun call => call.2.isOn kind) := by
  refine ⟨answers_eq_iff ordered, fun kind => ?_⟩
  have refined : (handler latest).answersTo (fun call => call.2.isOn kind) ∅ calls =
      (clocked latest).answersTo (fun call => call.2.isOn kind) (fun _ => ∅) calls := by
    rw [Object.answersTo, Object.answersTo, answers_eq ordered]
  rw [refined, clocked_answersTo, answers_eq (ordered.sublist List.filter_sublist)]

/-- Keys with colons and with the name of the other namespace. The third record has
expired when the events are listed. -/
def sampleCalls : List (Timed Call) :=
  [(0, .setKey .events "agent_metrics:a" "1" 0), (1, .setKey .metrics "a" "2" 5),
    (2, .setKey .events ":" "3" 1), (3, .listKeys .events), (4, .clearNamespace .metrics),
    (5, .len), (5, .getKey .events "agent_metrics:a")]

example : (handler 100).answers ∅ sampleCalls =
    [.done, .done, .done, .keys ["agent_metrics:a"], .done, .count 1,
      .value (some "1")] := by decide +kernel

/-- Both namespaces, keys with colons, a record that lapses, and a namespace that is cleared. -/
theorem refines_ttlMaps_sample :
    (handler 100).answers ∅ sampleCalls = TtlMaps.handler.answers (fun _ => ∅) sampleCalls ∧
      ∀ kind : Kind, (handler 100).answersTo (fun call => call.2.isOn kind) ∅ sampleCalls =
        (handler 100).answers ∅ (sampleCalls.filter fun call => call.2.isOn kind) := by
  have refines := refines_ttlMaps 100 sampleCalls (by unfold InOrder; decide +kernel)
  exact ⟨refines.1.mpr (by decide +kernel), refines.2⟩

/-- The greatest time to live there is, which no clock of 64 bits reaches: the call does not
return, and the record is not stored. -/
theorem setKey_past_the_clock :
    let calls : List (Timed Call) :=
      [(0, .setKey .events "a" "1" (2 ^ 64 - 1)), (1, .getKey .events "a")]
    InOrder calls ∧
      (handler (2 ^ 63 - 1)).answers ∅ calls = [.panicked, .value none] ∧
      TtlMaps.handler.answers (fun _ => ∅) calls = [.done, .value (some "1")] := by
  intro calls
  refine ⟨?_, ?_, ?_⟩
  · unfold InOrder
    decide +kernel
  · decide +kernel
  · decide +kernel

end InMemoryRedisStore

end GuardAgent
