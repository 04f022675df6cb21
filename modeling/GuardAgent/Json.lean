import GuardAgent.Text

/-!
# JSON values

`serde_json::Value` with its default map, a `BTreeMap`: the entries of an object
are kept in the order of their keys.
-/

namespace GuardAgent

/-- `serde_json::Number`. -/
inductive Number where
  | posInt (value : ℕ)
  | negInt (value : ℤ)
  | float (value : ℚ)
  deriving DecidableEq

/-- `serde_json::Value`. -/
inductive Value where
  | null
  | bool (value : Bool)
  | number (value : Number)
  | string (value : String)
  | array (items : List Value)
  | object (entries : List (String × Value))

namespace Value

mutual

/-- Equality of values, by their structure. -/
def decEq : (first second : Value) → Decidable (first = second)
  | .null, second => match second with
      | .null => .isTrue rfl
      | .bool _ | .number _ | .string _ | .array _ | .object _ => .isFalse nofun
  | .bool value, second => match second with
      | .bool other => decidable_of_iff (value = other) (by rw [bool.injEq])
      | .null | .number _ | .string _ | .array _ | .object _ => .isFalse nofun
  | .number value, second => match second with
      | .number other => decidable_of_iff (value = other) (by rw [number.injEq])
      | .null | .bool _ | .string _ | .array _ | .object _ => .isFalse nofun
  | .string value, second => match second with
      | .string other => decidable_of_iff (value = other) (by rw [string.injEq])
      | .null | .bool _ | .number _ | .array _ | .object _ => .isFalse nofun
  | .array items, second => match second with
      | .array others =>
          @decidable_of_iff _ (items = others) (by rw [array.injEq]) (decEqItems items others)
      | .null | .bool _ | .number _ | .string _ | .object _ => .isFalse nofun
  | .object entries, second => match second with
      | .object others =>
          @decidable_of_iff _ (entries = others) (by rw [object.injEq])
            (decEqEntries entries others)
      | .null | .bool _ | .number _ | .string _ | .array _ => .isFalse nofun

def decEqItems : (first second : List Value) → Decidable (first = second)
  | [], [] => .isTrue rfl
  | [], _ :: _ => .isFalse nofun
  | _ :: _, [] => .isFalse nofun
  | item :: items, other :: others =>
      @decidable_of_iff _ (item = other ∧ items = others) (by rw [List.cons.injEq])
        (@instDecidableAnd _ _ (decEq item other) (decEqItems items others))

def decEqEntries : (first second : List (String × Value)) → Decidable (first = second)
  | [], [] => .isTrue rfl
  | [], _ :: _ => .isFalse nofun
  | _ :: _, [] => .isFalse nofun
  | (key, entry) :: entries, (other, entry') :: others =>
      @decidable_of_iff _ ((key = other ∧ entry = entry') ∧ entries = others)
        (by rw [List.cons.injEq, Prod.mk.injEq])
        (@instDecidableAnd _ _ (@instDecidableAnd _ _ inferInstance (decEq entry entry'))
          (decEqEntries entries others))

end

instance : DecidableEq Value := decEq

/-- `Map::insert`: the entry goes to its place in key order, or replaces the
entry of an equal key. -/
def insertEntry (key : String) (value : Value) : List (String × Value) → List (String × Value)
  | [] => [(key, value)]
  | (other, held) :: rest =>
      if key < other then (key, value) :: (other, held) :: rest
      else if key = other then (key, value) :: rest
      else (other, held) :: insertEntry key value rest

/-- The `json!` object with these members, inserted in turn. -/
def ofMembers (members : List (String × Value)) : Value :=
  .object (members.foldl (fun entries member => insertEntry member.1 member.2 entries) [])

/-- A `Some` value, or `null`. -/
def ofOption {α : Type} (render : α → Value) : Option α → Value
  | some value => render value
  | none => .null

/-- Floats that are not finite are written as `null`. -/
def ofF64 : F64 → Value
  | .finite value => .number (.float value)
  | .nan => .null
  | .infinite _ => .null

end Value

end GuardAgent
