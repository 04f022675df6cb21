import Mathlib.Algebra.Ring.Nat
import Mathlib.Data.List.AList
import Mathlib.Data.List.Sort
import Mathlib.Logic.Function.Basic

/-!
# Maps whose entries lapse

An entry of a map is live up to some time and stays lapsed from then on. What a map shows
at a time (`visible`, `visibleKeys`) is its live entries, whether or not those that have
lapsed were already removed. Several maps may be housed in one, each under its own names
(`Houses`): then one map shows what they show, and keeps doing so when entries are
written, erased, cleared by owner or pruned, and as time passes.
-/

namespace Foundation

namespace Lapsing

variable {Key Entry Time Owner Full : Type*} [DecidableEq Key] [DecidableEq Full]

/-- The entries that pass a test. -/
def retain (keep : Key → Entry → Bool) (map : AList fun _ : Key => Entry) :
    AList fun _ : Key => Entry where
  entries := map.entries.filter fun entry => keep entry.1 entry.2
  nodupKeys := map.nodupKeys.sublist List.filter_sublist

/-- A retained map has the kept entries of the map. -/
theorem lookup_retain (keep : Key → Entry → Bool) (map : AList fun _ : Key => Entry) (key : Key) :
    (retain keep map).lookup key = (map.lookup key).filter (keep key) := by
  ext entry
  rw [← Option.mem_def, AList.mem_lookup_iff, Option.filter_eq_some_iff, ← Option.mem_def,
    AList.mem_lookup_iff]
  exact List.mem_filter

omit [DecidableEq Key] in
/-- Retaining adds no key. -/
theorem mem_of_mem_retain {keep : Key → Entry → Bool} {map : AList fun _ : Key => Entry}
    {key : Key} (member : key ∈ retain keep map) : key ∈ map :=
  (List.filter_sublist.map Sigma.fst).subset member

variable (live : Time → Entry → Bool)

/-- The live entry under a key. -/
def visible (now : Time) (map : AList fun _ : Key => Entry) (key : Key) : Option Entry :=
  (map.lookup key).filter (live now)

/-- The keys of the live entries. -/
def visibleKeys (now : Time) (map : AList fun _ : Key => Entry) : List Key :=
  (retain (fun _ => live now) map).keys

/-- The visible keys are those under which something is seen. -/
theorem mem_visibleKeys {now : Time} {map : AList fun _ : Key => Entry} {key : Key} :
    key ∈ visibleKeys live now map ↔ (visible live now map key).isSome := by
  rw [visibleKeys, ← AList.mem_keys, ← AList.lookup_isSome, lookup_retain, visible]

/-- What is seen is held. -/
theorem mem_of_visible {now : Time} {map : AList fun _ : Key => Entry} {key : Key}
    (shown : (visible live now map key).isSome) : key ∈ map := by
  obtain ⟨entry, found⟩ := Option.isSome_iff_exists.mp shown
  rw [← AList.lookup_isSome, (Option.filter_eq_some_iff.mp found).1]
  rfl

omit [DecidableEq Key] in
/-- No key is visible twice. -/
theorem nodup_visibleKeys (now : Time) (map : AList fun _ : Key => Entry) :
    (visibleKeys live now map).Nodup := AList.keys_nodup _

/-- Under a key that is written, the new entry is seen, if it is live. -/
theorem visible_insert_self (now : Time) (map : AList fun _ : Key => Entry) (key : Key)
    (entry : Entry) :
    visible live now (map.insert key entry) key = (some entry).filter (live now) := by
  rw [visible, AList.lookup_insert]

/-- Writing under one key changes nothing that is seen under another. -/
theorem visible_insert_of_ne {key other : Key} (different : key ≠ other) (now : Time)
    (map : AList fun _ : Key => Entry) (entry : Entry) :
    visible live now (map.insert other entry) key = visible live now map key := by
  rw [visible, AList.lookup_insert_ne different, visible]

/-- Under an erased key nothing is seen. -/
theorem visible_erase_self (now : Time) (map : AList fun _ : Key => Entry) (key : Key) :
    visible live now (map.erase key) key = none := by
  rw [visible, AList.lookup_erase, Option.filter_none]

/-- Erasing one key changes nothing that is seen under another. -/
theorem visible_erase_of_ne {key other : Key} (different : key ≠ other) (now : Time)
    (map : AList fun _ : Key => Entry) :
    visible live now (map.erase other) key = visible live now map key := by
  rw [visible, AList.lookup_erase_ne different, visible]

/-- Erasing an entry that has lapsed changes nothing that is seen. -/
theorem visible_erase_lapsed {now : Time} {map : AList fun _ : Key => Entry} {other : Key}
    (lapsed : visible live now map other = none) (key : Key) :
    visible live now (map.erase other) key = visible live now map key := by
  by_cases same : key = other
  · subst same
    rw [visible_erase_self, lapsed]
  · exact visible_erase_of_ne live same now map

/-- Pruning the entries that have lapsed changes nothing that is seen. -/
theorem visible_prune (now : Time) (map : AList fun _ : Key => Entry) (key : Key) :
    visible live now (retain (fun _ => live now) map) key = visible live now map key := by
  rw [visible, lookup_retain, Option.filter_filter, visible]
  simp only [Bool.and_self]

/-- Retaining changes nothing that is seen under a key whose entries are all kept. -/
theorem visible_retain_of_keep {keep : Key → Entry → Bool} {key : Key}
    (kept : ∀ entry, keep key entry = true) (now : Time) (map : AList fun _ : Key => Entry) :
    visible live now (retain keep map) key = visible live now map key := by
  rw [visible, lookup_retain, visible, funext kept]
  cases map.lookup key <;> rfl

/-- Under a key whose entries are all dropped, nothing is seen. -/
theorem visible_retain_of_drop {keep : Key → Entry → Bool} {key : Key}
    (dropped : ∀ entry, keep key entry = false) (now : Time) (map : AList fun _ : Key => Entry) :
    visible live now (retain keep map) key = none := by
  rw [visible, lookup_retain, funext dropped]
  cases map.lookup key <;> rfl

/-- What is still seen later is the part of what is seen now that is still live. -/
theorem visible_later {now later : Time} (lasting : ∀ entry, live later entry → live now entry)
    (map : AList fun _ : Key => Entry) (key : Key) :
    visible live later map key = (visible live now map key).filter (live later) := by
  rw [visible, visible, Option.filter_filter]
  congr 1
  funext entry
  cases ends : live later entry with
  | true => rw [lasting entry ends]; rfl
  | false => rw [Bool.and_false]

/-- Erasing several keys hides what is under them, and nothing else. -/
theorem visible_erase_all (now : Time) (map : AList fun _ : Key => Entry) (keys : List Key)
    (key : Key) : visible live now (keys.foldl (fun map key => map.erase key) map) key =
      if key ∈ keys then none else visible live now map key := by
  induction keys generalizing map with
  | nil => rfl
  | cons first keys ih =>
      rw [List.foldl_cons, ih]
      by_cases same : key = first
      · subst same
        rw [visible_erase_self, ite_self, if_pos List.mem_cons_self]
      · rw [visible_erase_of_ne live same]
        simp only [List.mem_cons, same, false_or]

/-- The live entries that a map has under the names of some keys. -/
def gather (name : Key → Full) (now : Time) (flat : AList fun _ : Full => Entry)
    (keys : List Key) : AList fun _ : Key => Entry :=
  keys.foldr (fun key map =>
    match visible live now flat (name key) with
    | some entry => map.insert key entry
    | none => map) ∅

/-- The gathered entries show what is seen under the names of these keys. -/
theorem visible_gather (name : Key → Full) (now : Time) (flat : AList fun _ : Full => Entry)
    (keys : List Key) (key : Key) : visible live now (gather live name now flat keys) key =
      if key ∈ keys then visible live now flat (name key) else none := by
  induction keys with
  | nil => rfl
  | cons first keys ih =>
      rw [gather, List.foldr_cons, ← gather]
      simp only [List.mem_cons]
      by_cases same : key = first
      · subst same
        rw [if_pos (Or.inl rfl)]
        cases held : visible live now flat (name key) with
        | none => rw [ih, held, ite_self]
        | some entry =>
            have lives := (Option.filter_eq_some_iff.mp held).2
            rw [visible_insert_self, Option.filter_some, if_pos lives]
      · simp only [same, false_or]
        cases held : visible live now flat (name first) with
        | none => exact ih
        | some entry => rw [visible_insert_of_ne live same, ih]

/-- What is kept when one key of an owner is erased is kept when several are. -/
theorem kept_of_erase_all [DecidableEq Owner] {name : Owner → Key → Full} {owner : Owner}
    {related : (AList fun _ : Full => Entry) → (Owner → AList fun _ : Key => Entry) → Prop}
    (kept : ∀ {flat maps}, related flat maps → ∀ key, related (flat.erase (name owner key))
      (Function.update maps owner ((maps owner).erase key))) (keys : List Key)
    {flat : AList fun _ : Full => Entry} {maps : Owner → AList fun _ : Key => Entry}
    (initial : related flat maps) :
    related (keys.foldl (fun flat key => flat.erase (name owner key)) flat)
      (Function.update maps owner (keys.foldl (fun map key => map.erase key) (maps owner))) := by
  induction keys generalizing flat maps with
  | nil => rwa [List.foldl_nil, List.foldl_nil, Function.update_eq_self]
  | cons key keys ih =>
      have rest := ih (kept initial key)
      rwa [Function.update_self, Function.update_idem] at rest

/-- One map shows what the maps of several owners show, each key under its name. -/
def Shows (name : Owner → Key → Full) (now : Time) (flat : AList fun _ : Full => Entry)
    (maps : Owner → AList fun _ : Key => Entry) : Prop :=
  ∀ owner key, visible live now flat (name owner key) = visible live now (maps owner) key

namespace Shows

variable {live} {name : Owner → Key → Full} {now : Time} {flat : AList fun _ : Full => Entry}
  {maps : Owner → AList fun _ : Key => Entry}

/-- What is shown stays so as time passes. -/
theorem later (shows : Shows live name now flat maps) {later : Time}
    (lasting : ∀ entry, live later entry → live now entry) : Shows live name later flat maps :=
  fun owner key => by
    rw [visible_later live lasting, shows, ← visible_later live lasting]

/-- What a map is changed to when its entries under other names stay as they are. -/
private theorem of_update [DecidableEq Owner] (apart : Function.Injective2 name)
    (shows : Shows live name now flat maps) (owner : Owner) (key : Key)
    {flat' : AList fun _ : Full => Entry} {map' : AList fun _ : Key => Entry}
    (written : visible live now flat' (name owner key) = visible live now map' key)
    (spared : ∀ full, full ≠ name owner key →
      visible live now flat' full = visible live now flat full)
    (spared' : ∀ other, other ≠ key →
      visible live now map' other = visible live now (maps owner) other) :
    Shows live name now flat' (Function.update maps owner map') := fun other key' => by
  by_cases own : other = owner
  · subst own
    rw [Function.update_self]
    by_cases same : key' = key
    · rw [same, written]
    · rw [spared _ fun equal => same (apart equal).2, spared' _ same, shows]
  · rw [Function.update_of_ne own, spared _ fun equal => own (apart equal).1, shows]

/-- An entry written under the name of its key is shown by both. -/
theorem insert [DecidableEq Owner] (apart : Function.Injective2 name)
    (shows : Shows live name now flat maps) (owner : Owner) (key : Key) (entry : Entry) :
    Shows live name now (flat.insert (name owner key) entry)
      (Function.update maps owner ((maps owner).insert key entry)) := by
  refine shows.of_update apart owner key ?_ (fun full different => ?_)
    (fun other different => ?_)
  · rw [visible_insert_self, visible_insert_self]
  · exact visible_insert_of_ne live different now flat entry
  · exact visible_insert_of_ne live different now (maps owner) entry

/-- A key erased under its name is erased for both. -/
theorem erase [DecidableEq Owner] (apart : Function.Injective2 name)
    (shows : Shows live name now flat maps) (owner : Owner) (key : Key) :
    Shows live name now (flat.erase (name owner key))
      (Function.update maps owner ((maps owner).erase key)) := by
  refine shows.of_update apart owner key ?_ (fun full different => ?_)
    (fun other different => ?_)
  · rw [visible_erase_self, visible_erase_self]
  · exact visible_erase_of_ne live different now flat
  · exact visible_erase_of_ne live different now (maps owner)

/-- Several keys of an owner erased under their names are erased for both. -/
theorem erase_all [DecidableEq Owner] (apart : Function.Injective2 name)
    (shows : Shows live name now flat maps) (owner : Owner) (keys : List Key) :
    Shows live name now (keys.foldl (fun flat key => flat.erase (name owner key)) flat)
      (Function.update maps owner (keys.foldl (fun map key => map.erase key) (maps owner))) :=
  kept_of_erase_all (fun shows key => shows.erase apart owner key) keys shows

/-- Erasing what an owner's map shows clears it. -/
theorem erase_shown [DecidableEq Owner] (apart : Function.Injective2 name)
    (shows : Shows live name now flat maps) {owner : Owner} {keys : List Key}
    (complete : ∀ key, key ∈ visibleKeys live now (maps owner) → key ∈ keys) :
    Shows live name now (keys.foldl (fun flat key => flat.erase (name owner key)) flat)
      (Function.update maps owner ∅) := fun other key => by
  rw [shows.erase_all apart owner keys other key]
  by_cases own : other = owner
  · subst own
    rw [Function.update_self, Function.update_self, visible_erase_all]
    split
    case isTrue => rfl
    case isFalse missing =>
      refine Option.isSome_eq_false_iff.mp (Bool.eq_false_iff.mpr fun shown => ?_) |>
        Option.isNone_iff_eq_none.mp
      exact missing (complete key ((mem_visibleKeys live).mpr shown))
  · rw [Function.update_of_ne own, Function.update_of_ne own]

/-- The keys under the names of one owner are the keys of its map. -/
theorem keys_perm (shows : Shows live name now flat maps) {owner : Owner}
    {short : Full → Option Key} (own : ∀ full key, short full = some key ↔ full = name owner key) :
    ((visibleKeys live now flat).filterMap short).Perm (visibleKeys live now (maps owner)) := by
  have injective : ∀ first second key, key ∈ short first → key ∈ short second → first = second :=
    fun first second key read read' =>
      ((own first key).mp read).trans ((own second key).mp read').symm
  refine (List.perm_ext_iff_of_nodup ((nodup_visibleKeys live now flat).filterMap injective)
    (nodup_visibleKeys live now _)).mpr fun key => ?_
  rw [List.mem_filterMap, mem_visibleKeys, ← shows]
  constructor
  · rintro ⟨full, member, read⟩
    rw [(own full key).mp read, mem_visibleKeys] at member
    exact member
  · intro shown
    exact ⟨name owner key, (mem_visibleKeys live).mpr shown, (own _ key).mpr rfl⟩

end Shows

/-- One map houses the maps of several owners, each key under its name: it shows under
the names what they show, and holds nothing else. -/
structure Houses (name : Owner → Key → Full) (now : Time) (flat : AList fun _ : Full => Entry)
    (maps : Owner → AList fun _ : Key => Entry) : Prop where
  shown : ∀ owner key,
    visible live now flat (name owner key) = visible live now (maps owner) key
  named : ∀ full ∈ flat, ∃ owner key, name owner key = full

namespace Houses

variable {live} {name : Owner → Key → Full} {now : Time} {flat : AList fun _ : Full => Entry}
  {maps : Owner → AList fun _ : Key => Entry}

/-- An empty map houses empty maps. -/
theorem empty : Houses live name now ∅ fun _ => ∅ :=
  ⟨fun _ _ => rfl, fun _ member => absurd member (AList.notMem_empty _)⟩

/-- What houses the maps shows what they show. -/
theorem shows (houses : Houses live name now flat maps) : Shows live name now flat maps :=
  houses.shown

/-- Housing lasts as time passes. -/
theorem later (houses : Houses live name now flat maps) {later : Time}
    (lasting : ∀ entry, live later entry → live now entry) :
    Houses live name later flat maps :=
  ⟨houses.shows.later lasting, houses.named⟩

/-- An entry written under the name of its key is housed. -/
theorem insert [DecidableEq Owner] (apart : Function.Injective2 name)
    (houses : Houses live name now flat maps) (owner : Owner) (key : Key) (entry : Entry) :
    Houses live name now (flat.insert (name owner key) entry)
      (Function.update maps owner ((maps owner).insert key entry)) where
  shown := houses.shows.insert apart owner key entry
  named := by
    intro full member
    rcases (AList.mem_insert flat).mp member with rfl | held
    · exact ⟨owner, key, rfl⟩
    · exact houses.named full held

/-- A key erased under its name is erased from what is housed. -/
theorem erase [DecidableEq Owner] (apart : Function.Injective2 name)
    (houses : Houses live name now flat maps) (owner : Owner) (key : Key) :
    Houses live name now (flat.erase (name owner key))
      (Function.update maps owner ((maps owner).erase key)) where
  shown := houses.shows.erase apart owner key
  named := fun full member => houses.named full (AList.mem_erase.mp member).2

/-- Several keys of an owner erased under their names are erased from what is housed. -/
theorem erase_all [DecidableEq Owner] (apart : Function.Injective2 name)
    (houses : Houses live name now flat maps) (owner : Owner) (keys : List Key) :
    Houses live name now (keys.foldl (fun flat key => flat.erase (name owner key)) flat)
      (Function.update maps owner (keys.foldl (fun map key => map.erase key) (maps owner))) :=
  kept_of_erase_all (fun houses key => houses.erase apart owner key) keys houses

/-- A lapsed entry may go. -/
theorem erase_lapsed (houses : Houses live name now flat maps) {full : Full}
    (lapsed : visible live now flat full = none) :
    Houses live name now (flat.erase full) maps where
  shown := fun owner key => by rw [visible_erase_lapsed live lapsed, houses.shown]
  named := fun other member => houses.named other (AList.mem_erase.mp member).2

/-- All lapsed entries may go. -/
theorem prune (houses : Houses live name now flat maps) :
    Houses live name now (retain (fun _ => live now) flat) maps where
  shown := fun owner key => by rw [visible_prune, houses.shown]
  named := fun full member => houses.named full (mem_of_mem_retain member)

/-- Dropping everything under the names of one owner clears its map. -/
theorem clear [DecidableEq Owner] (houses : Houses live name now flat maps) {owner : Owner}
    {keep : Full → Bool} (dropped : ∀ key, keep (name owner key) = false)
    (kept : ∀ other key, other ≠ owner → keep (name other key) = true) :
    Houses live name now (retain (fun full _ => keep full) flat) (Function.update maps owner ∅)
    where
  shown := fun other key => by
    by_cases own : other = owner
    · subst own
      rw [visible_retain_of_drop live fun _ => dropped key, Function.update_self]
      rfl
    · rw [visible_retain_of_keep live fun _ => kept other key own, houses.shown,
        Function.update_of_ne own]
  named := fun full member => houses.named full (mem_of_mem_retain member)

/-- One map shows as many entries as those it houses show together. -/
theorem count (apart : Function.Injective2 name) (houses : Houses live name now flat maps)
    {owners : List Owner} (distinct : owners.Nodup) (complete : ∀ owner, owner ∈ owners) :
    (visibleKeys live now flat).length =
      (owners.map fun owner => (visibleKeys live now (maps owner)).length).sum := by
  have nodup : (owners.flatMap fun owner =>
      (visibleKeys live now (maps owner)).map (name owner)).Nodup := by
    refine List.nodup_flatMap.mpr ⟨fun owner _ => ?_, distinct.imp fun different => ?_⟩
    · exact (nodup_visibleKeys live now _).map (apart.right owner)
    · intro full first second
      obtain ⟨key, -, rfl⟩ := List.mem_map.mp first
      obtain ⟨key', -, equal⟩ := List.mem_map.mp second
      exact different (apart equal).1.symm
  have perm : (visibleKeys live now flat).Perm (owners.flatMap fun owner =>
      (visibleKeys live now (maps owner)).map (name owner)) := by
    refine (List.perm_ext_iff_of_nodup (nodup_visibleKeys live now flat) nodup).mpr fun full => ?_
    rw [mem_visibleKeys, List.mem_flatMap]
    constructor
    · intro shown
      have held : full ∈ flat := mem_of_visible live shown
      obtain ⟨owner, key, rfl⟩ := houses.named full held
      exact ⟨owner, complete owner,
        List.mem_map_of_mem ((mem_visibleKeys live).mpr (houses.shown owner key ▸ shown))⟩
    · rintro ⟨owner, -, member⟩
      obtain ⟨key, shown, rfl⟩ := List.mem_map.mp member
      rwa [houses.shown, ← mem_visibleKeys]
  rw [perm.length_eq, List.length_flatMap]
  simp only [List.length_map]

end Houses

end Lapsing

end Foundation
