import GuardAgent.Canonical
import Mathlib.Data.String.Basic

/-!
# How types are written as JSON values, and read

A codec of a type keeps its law, what is written is read back, and how deep its values nest. The
codec of a record is put together from those of its members; a member that is missing has its
default (`Record.fromValue_fill`), and an object is read exactly if every member that is there is
of its type (`Record.isSome_fromValue`).
-/

namespace GuardAgent

namespace Value

/-- Items of at most some depth have together no more. -/
theorem depthItems_le {items : List Value} {levels : ℕ}
    (shallow : ∀ item ∈ items, item.depth ≤ levels) : depthItems items ≤ levels := by
  induction items with
  | nil => exact Nat.zero_le levels
  | cons item items ih =>
      obtain ⟨first, others⟩ := List.forall_mem_cons.mp shallow
      exact max_le first (ih others)

/-- Members of at most some depth have together no more. -/
theorem depthEntries_le {entries : List (String × Value)} {levels : ℕ}
    (shallow : ∀ entry ∈ entries, entry.2.depth ≤ levels) : depthEntries entries ≤ levels := by
  induction entries with
  | nil => exact Nat.zero_le levels
  | cons entry entries ih =>
      obtain ⟨first, others⟩ := List.forall_mem_cons.mp shallow
      exact max_le first (ih others)

/-- An object is at most one level deeper than its members. -/
theorem depth_ofMembers_le {members : List (String × Value)} {levels : ℕ}
    (shallow : ∀ member ∈ members, member.2.depth ≤ levels) :
    (ofMembers members).depth ≤ levels + 1 := by
  have inserted (entries : List (String × Value))
      (held : ∀ entry ∈ entries, entry.2.depth ≤ levels) :
      ∀ entry ∈ members.foldl (fun entries member => insertEntry member.1 member.2 entries) entries,
        entry.2.depth ≤ levels := by
    induction members generalizing entries with
    | nil => exact held
    | cons member members ih =>
        obtain ⟨first, others⟩ := List.forall_mem_cons.mp shallow
        refine ih others _ fun entry present => ?_
        rcases mem_of_mem_insertEntry present with rfl | old
        · exact first
        · exact held entry old
  exact Nat.succ_le_succ (depthEntries_le (inserted [] nofun))

end Value

/-- A type as JSON values. -/
structure Codec (α : Type) where
  encode : α → Value
  decode : Value → Option α
  /-- How many containers are nested in a value at most. -/
  levels : ℕ
  wellFormed : ∀ value, (encode value).WellFormed Number.Representable
  depth_encode : ∀ value, (encode value).depth ≤ levels
  decode_encode : ∀ value, decode (encode value) = some value

namespace Codec

variable {α β : Type}

/-- A type that is rendered as a text. -/
def text (parse : String → Option α) (render : α → String)
    (parse_render : ∀ value, parse (render value) = some value) : Codec α where
  encode value := .string (render value)
  decode
    | .string text => parse text
    | _ => none
  levels := 0
  wellFormed _ := .string _
  depth_encode _ := le_rfl
  decode_encode := parse_render

def string : Codec String := text some id fun _ => rfl

def bool : Codec Bool where
  encode := .bool
  decode
    | .bool flag => some flag
    | _ => none
  levels := 0
  wellFormed _ := .bool _
  depth_encode _ := le_rfl
  decode_encode _ := rfl

/-- Negative numbers and floating-point numbers are refused. -/
def u64 : Codec UInt64 where
  encode value := .number (.posInt value.toNat)
  decode
    | .number (.posInt value) => some (.ofNat value)
    | _ => none
  levels := 0
  wellFormed value := .number value.toNat_lt
  depth_encode _ := le_rfl
  decode_encode value := congrArg some value.ofNat_toNat

/-- `null` is none. -/
def option (inner : Codec α) (filled : ∀ value, inner.encode value ≠ .null) :
    Codec (Option α) where
  encode := .ofOption inner.encode
  decode
    | .null => some none
    | document => (inner.decode document).map some
  levels := inner.levels
  wellFormed
    | none => .null
    | some held => inner.wellFormed held
  depth_encode
    | none => Nat.zero_le _
    | some held => inner.depth_encode held
  decode_encode value := by
    cases value with
    | none => rfl
    | some held =>
        rw [Value.ofOption]
        split
        · next same => exact (filled held same).elim
        · rw [inner.decode_encode]
          rfl

/-- A list of encoded items is decoded item by item. -/
theorem mapM_decode_map {encode : α → β} {decode : β → Option α}
    (decode_encode : ∀ item, decode (encode item) = some item) (items : List α) :
    (items.map encode).mapM decode = some items := by
  induction items with
  | nil => rfl
  | cons item items ih =>
      rw [List.map_cons, List.mapM_cons, decode_encode, ih]
      rfl

def list (inner : Codec α) : Codec (List α) where
  encode items := .array (items.map inner.encode)
  decode
    | .array documents => documents.mapM inner.decode
    | _ => none
  levels := inner.levels + 1
  wellFormed items := by
    refine .array fun document member => ?_
    obtain ⟨item, -, rfl⟩ := List.mem_map.mp member
    exact inner.wellFormed item
  depth_encode items := by
    refine Nat.succ_le_succ (Value.depthItems_le fun document member => ?_)
    obtain ⟨item, -, rfl⟩ := List.mem_map.mp member
    exact inner.depth_encode item
  decode_encode := mapM_decode_map inner.decode_encode

/-- A `BTreeSet`, as the array of its elements in order; an array may repeat them. -/
def set (inner : Codec String) : Codec (Std.ExtTreeSet String) where
  encode items := inner.list.encode items.toList
  decode document := (inner.list.decode document).map fun items => .ofList items
  levels := inner.list.levels
  wellFormed items := inner.list.wellFormed _
  depth_encode items := inner.list.depth_encode _
  decode_encode items := by
    rw [inner.list.decode_encode, Option.map_some]
    congr 1
    refine Std.ExtTreeSet.ext_mem fun item => ?_
    rw [Std.ExtTreeSet.mem_ofList, List.contains_iff_mem, Std.ExtTreeSet.mem_toList]

/-- A pair, as an array of two. -/
def pair (first : Codec α) (second : Codec β) : Codec (α × β) where
  encode value := .array [first.encode value.1, second.encode value.2]
  decode
    | .array [left, right] => (first.decode left).bind fun left =>
        (second.decode right).map fun right => (left, right)
    | _ => none
  levels := max first.levels second.levels + 1
  wellFormed value := .array (List.forall_mem_cons.mpr
    ⟨first.wellFormed value.1, List.forall_mem_singleton.mpr (second.wellFormed value.2)⟩)
  depth_encode value := Nat.succ_le_succ (Value.depthItems_le (List.forall_mem_cons.mpr
    ⟨le_max_of_le_left (first.depth_encode value.1),
      List.forall_mem_singleton.mpr (le_max_of_le_right (second.depth_encode value.2))⟩))
  decode_encode value := by
    dsimp only
    rw [first.decode_encode, Option.bind_some, second.decode_encode]
    rfl

/-- A sorted map is made again from its entries. -/
theorem ofList_toList (entries : Std.ExtTreeMap String α) :
    Std.ExtTreeMap.ofList entries.toList = entries := by
  refine Std.ExtTreeMap.ext_getElem? fun key => ?_
  cases held : entries[key]? with
  | none =>
      refine Std.ExtTreeMap.getElem?_ofList_of_contains_eq_false ?_
      rw [Std.ExtTreeMap.map_fst_toList_eq_keys, ← Bool.not_eq_true, List.contains_iff_mem,
        Std.ExtTreeMap.mem_keys, Std.ExtTreeMap.mem_iff_isSome_getElem?, held]
      exact Bool.false_ne_true
  | some value =>
      exact Std.ExtTreeMap.getElem?_ofList_of_mem Std.ReflCmp.compare_self
        entries.distinct_keys_toList (Std.ExtTreeMap.mem_toList_iff_getElem?_eq_some.mpr held)

/-- A `BTreeMap`, as the object of its entries. -/
def map (inner : Codec α) : Codec (Std.ExtTreeMap String α) where
  encode entries := .object (entries.toList.map fun entry => (entry.1, inner.encode entry.2))
  decode
    | .object written => (written.mapM fun entry =>
        (inner.decode entry.2).map fun value => (entry.1, value)).map fun entries => .ofList entries
    | _ => none
  levels := inner.levels + 1
  wellFormed entries := by
    refine .object (List.pairwise_map.mpr (entries.ordered_keys_toList.imp fun ordered =>
      compare_lt_iff_lt.mp ordered)) fun written member => ?_
    obtain ⟨entry, -, rfl⟩ := List.mem_map.mp member
    exact inner.wellFormed entry.2
  depth_encode entries := by
    refine Nat.succ_le_succ (Value.depthEntries_le fun written member => ?_)
    obtain ⟨entry, -, rfl⟩ := List.mem_map.mp member
    exact inner.depth_encode entry.2
  decode_encode entries := by
    have read := @mapM_decode_map _ _ (fun entry : String × α => (entry.1, inner.encode entry.2))
      (fun entry => (inner.decode entry.2).map fun value => (entry.1, value))
      (fun entry => congrArg _ (inner.decode_encode entry.2)) entries.toList
    exact (congrArg (Option.map _) read).trans (congrArg some (ofList_toList entries))

/-- A member that may be missing. -/
def member (inner : Codec α) (default : α) : Option Value → Option α
  | none => some default
  | some document => inner.decode document

/-- A missing member is decoded as its default. -/
theorem member_eq (inner : Codec α) (default : α) (document : Option Value) :
    inner.member default document = inner.decode (document.getD (inner.encode default)) := by
  cases document with
  | none => exact (inner.decode_encode default).symm
  | some document => rfl

end Codec

/-- A member of a record: what stands for it where it is missing, and what it may hold. -/
structure Field where
  name : String
  default : Value
  admits : Value → Bool

/-- What a document holds for a member. -/
def Field.held (field : Field) (lookup : String → Option Value) : Value :=
  (lookup field.name).getD field.default

/-- A type as the members of these names of an object, of which any may be missing. -/
structure Record (names : List String) (α : Type) where
  fields : List Field
  write : α → List (String × Value)
  read : (String → Option Value) → Option α
  levels : ℕ
  distinct : names.Nodup
  names_fields : fields.map Field.name = names
  names_write : ∀ value, (write value).map Prod.fst = names
  wellFormed : ∀ value, ∀ member ∈ write value, member.2.WellFormed Number.Representable
  depth_write : ∀ value, ∀ member ∈ write value, member.2.depth ≤ levels
  read_write : ∀ {lookup value}, (∀ member ∈ write value, lookup member.1 = some member.2) →
    read lookup = some value
  read_congr : ∀ {lookup lookup'},
    (∀ field ∈ fields, field.held lookup = field.held lookup') → read lookup = read lookup'
  isSome_read : ∀ lookup,
    (read lookup).isSome = fields.all fun field => field.admits (field.held lookup)
  /-- Every default is of its type. -/
  admits_default : ∀ field ∈ fields, field.admits field.default = true

namespace Record

variable {α β : Type} {names : List String}

def nil : Record [] Unit where
  fields := []
  write _ := []
  read _ := some ()
  levels := 0
  distinct := .nil
  names_fields := rfl
  names_write _ := rfl
  wellFormed _ := nofun
  depth_write _ := nofun
  read_write _ := rfl
  read_congr _ := rfl
  isSome_read _ := rfl
  admits_default := nofun

/-- One more member. -/
def cons (name : String) (codec : Codec α) (default : α) (rest : Record names β)
    (fresh : name ∉ names := by decide) : Record (name :: names) (α × β) where
  fields := ⟨name, codec.encode default, fun document => (codec.decode document).isSome⟩ ::
    rest.fields
  write value := (name, codec.encode value.1) :: rest.write value.2
  read lookup := (codec.member default (lookup name)).bind fun first =>
    (rest.read lookup).map fun others => (first, others)
  levels := max codec.levels rest.levels
  distinct := List.nodup_cons.mpr ⟨fresh, rest.distinct⟩
  names_fields := congrArg _ rest.names_fields
  names_write value := congrArg _ (rest.names_write value.2)
  wellFormed value :=
    List.forall_mem_cons.mpr ⟨codec.wellFormed value.1, rest.wellFormed value.2⟩
  depth_write value := List.forall_mem_cons.mpr ⟨le_max_of_le_left (codec.depth_encode value.1),
    fun member present => le_max_of_le_right (rest.depth_write value.2 member present)⟩
  read_write {lookup value} written := by
    obtain ⟨first, others⟩ := List.forall_mem_cons.mp written
    rw [first, Codec.member, codec.decode_encode, Option.bind_some, rest.read_write others]
    rfl
  read_congr {lookup lookup'} agree := by
    obtain ⟨first, others⟩ := List.forall_mem_cons.mp agree
    have same : codec.member default (lookup name) = codec.member default (lookup' name) := by
      rw [codec.member_eq, codec.member_eq]
      exact congrArg codec.decode first
    rw [same, rest.read_congr others]
  isSome_read lookup := by
    rw [List.all_cons, ← rest.isSome_read, codec.member_eq]
    dsimp only [Field.held]
    cases codec.decode ((lookup name).getD (codec.encode default)) with
    | none => rfl
    | some first => exact Option.isSome_map
  admits_default := by
    refine List.forall_mem_cons.mpr ⟨?_, rest.admits_default⟩
    dsimp only
    rw [codec.decode_encode]
    rfl

/-- The same members, of another type. -/
def transport (record : Record names α) (equiv : α ≃ β) : Record names β where
  fields := record.fields
  write value := record.write (equiv.symm value)
  read lookup := (record.read lookup).map equiv
  levels := record.levels
  distinct := record.distinct
  names_fields := record.names_fields
  names_write value := record.names_write (equiv.symm value)
  wellFormed value := record.wellFormed (equiv.symm value)
  depth_write value := record.depth_write (equiv.symm value)
  read_write {lookup value} written := by
    rw [record.read_write written, Option.map_some, equiv.apply_symm_apply]
  read_congr agree := congrArg _ (record.read_congr agree)
  isSome_read lookup := Option.isSome_map.trans (record.isSome_read lookup)
  admits_default := record.admits_default

variable (record : Record names α)

/-- `serde_json::to_value`. -/
def toValue (value : α) : Value := .ofMembers (record.write value)

/-- `serde_json::from_value`; members of other names are ignored. -/
def fromValue : Value → Option α
  | .object entries => record.read fun name => entries.lookup name
  | _ => none

/-- The known members of an object, and the defaults of the missing ones. -/
def fill (entries : List (String × Value)) : Value := .ofMembers (record.fields.map fun field =>
  (field.name, field.held fun name => entries.lookup name))

/-- A member among distinct names is found under its own. -/
theorem member?_ofMembers_of_mem {members : List (String × Value)} {member : String × Value}
    (distinct : (members.map Prod.fst).Nodup) (present : member ∈ members) :
    (Value.ofMembers members).member? member.1 = some member.2 := by
  obtain ⟨before, after, rfl⟩ := List.append_of_mem present
  rw [List.map_append, List.map_cons] at distinct
  have fresh := (List.nodup_cons.mp (List.nodup_append.mp distinct).2.1).1
  rw [Value.member?_ofMembers, List.lookup_eq_some_iff]
  refine ⟨after.reverse, before.reverse, by simp, fun other later => ?_⟩
  rw [bne_iff_ne]
  exact fun same => fresh (List.mem_map.mpr ⟨other, List.mem_reverse.mp later, same.symm⟩)

/-- **What is written is read back.** -/
theorem fromValue_toValue (value : α) : record.fromValue (record.toValue value) = some value := by
  have distinct : ((record.write value).map Prod.fst).Nodup := by
    rw [record.names_write]
    exact record.distinct
  exact record.read_write fun _ present => member?_ofMembers_of_mem distinct present

/-- The document of a record is well formed. -/
theorem wellFormed_toValue (value : α) :
    (record.toValue value).WellFormed Number.Representable :=
  Value.wellFormed_ofMembers (record.wellFormed value)

/-- The document of a record is at most one level deeper than its fields. -/
theorem depth_toValue (value : α) : (record.toValue value).depth ≤ record.levels + 1 :=
  Value.depth_ofMembers_le (record.depth_write value)

/-- **An object is read exactly if the known members it has are of their types.** -/
theorem isSome_fromValue {entries : List (String × Value)} :
    (record.fromValue (.object entries)).isSome = true ↔ ∀ field ∈ record.fields,
      ∀ held, entries.lookup field.name = some held → field.admits held = true := by
  rw [fromValue, record.isSome_read, List.all_eq_true]
  refine forall₂_congr fun field member => ?_
  rw [Field.held]
  cases entries.lookup field.name with
  | none => exact ⟨fun _ => nofun, fun _ => record.admits_default field member⟩
  | some held => exact ⟨fun admitted _ same => Option.some.inj same ▸ admitted,
      fun each => each held rfl⟩

/-- **An object is read as its known members with the defaults of the missing ones.** -/
theorem fromValue_fill (entries : List (String × Value)) :
    record.fromValue (record.fill entries) = record.fromValue (.object entries) := by
  let filling (field : Field) := (field.name, field.held fun name => entries.lookup name)
  have distinct : ((record.fields.map filling).map Prod.fst).Nodup := by
    have named : Prod.fst ∘ filling = Field.name := rfl
    rw [List.map_map, named, record.names_fields]
    exact record.distinct
  refine record.read_congr fun field member => ?_
  have filled : (record.fill entries).member? field.name = some (filling field).2 :=
    member?_ofMembers_of_mem distinct (List.mem_map_of_mem member)
  have held : (((record.fill entries).member? field.name).getD field.default) =
      field.held fun name => entries.lookup name := by
    rw [filled]
    rfl
  exact held

end Record

end GuardAgent
