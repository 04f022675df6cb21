import GuardAgent.Utils

/-!
# Which entries redaction replaces

A value is read along paths of positions, the arrays and the objects on the way both
counting. `Replaced` says in these terms which entries are to be replaced: those of a
sensitive key in an object nested fewer than `levels` levels below the root, unless one
further up is replaced already. `Redactor.redactValue_exact` says that redaction replaces
these and leaves everything else, and that what it produces depends on nothing that lies
under them.
-/

namespace GuardAgent

namespace Value

/-- The child at a position, with its key if it is an entry of an object. -/
def child? : Value → ℕ → Option (Option String × Value)
  | .object entries, position =>
      entries[position]?.map fun entry => (some entry.1, entry.2)
  | .array items, position => items[position]?.map fun item => (none, item)
  | _, _ => none

/-- The value at a path. -/
def get? : Value → List ℕ → Option Value
  | value, [] => some value
  | value, position :: path =>
      (value.child? position).bind fun child => child.2.get? path

/-- A value without what its children hold. -/
inductive Head where
  | null
  | bool (value : Bool)
  | number (value : Number)
  | string (value : String)
  | array (length : ℕ)
  | object (keys : List String)
  deriving DecidableEq

def head : Value → Head
  | .null => .null
  | .bool value => .bool value
  | .number value => .number value
  | .string value => .string value
  | .array items => .array items.length
  | .object entries => .object (entries.map Prod.fst)

/-- The head of the value at a path. -/
def headAt? (value : Value) (path : List ℕ) : Option Head :=
  (value.get? path).map head

/-- At the empty path stands the value itself. -/
theorem headAt?_nil (value : Value) : value.headAt? [] = some value.head := rfl

/-- The head at a path is found child by child. -/
theorem headAt?_cons (value : Value) (position : ℕ) (path : List ℕ) :
    value.headAt? (position :: path) =
      (value.child? position).bind fun child => child.2.headAt? path := by
  rw [headAt?, get?, Option.map_bind]
  rfl

/-- A head and the children determine a value. -/
theorem eq_of_children {value other : Value} (heads : value.head = other.head)
    (children : ∀ position, value.child? position = other.child? position) : value = other := by
  cases value <;> cases other <;> simp only [head, Head.bool.injEq, Head.number.injEq,
    Head.string.injEq, Head.array.injEq, Head.object.injEq, reduceCtorEq] at heads
  case null.null => rfl
  case bool.bool => rw [heads]
  case number.number => rw [heads]
  case string.string => rw [heads]
  case array.array items others =>
      have paired : Function.Injective fun item : Value => ((none : Option String), item) :=
        fun _ _ same => (Prod.mk.inj same).2
      exact congrArg array (List.ext_getElem? fun position =>
        Option.map_injective paired (children position))
  case object.object entries others =>
      have paired : Function.Injective fun entry : String × Value => (some entry.1, entry.2) :=
        fun _ _ same => Prod.ext (Option.some.inj (Prod.mk.inj same).1) (Prod.mk.inj same).2
      exact congrArg object (List.ext_getElem? fun position =>
        Option.map_injective paired (children position))

/-- A child is smaller than its value. -/
theorem sizeOf_child {value child : Value} {label : Option String} {position : ℕ}
    (found : value.child? position = some (label, child)) : sizeOf child < sizeOf value := by
  cases value with
  | object entries =>
      obtain ⟨entry, listed, same⟩ := Option.map_eq_some_iff.mp found
      have smaller := List.sizeOf_lt_of_mem (List.mem_of_getElem? listed)
      obtain ⟨key, held⟩ := entry
      cases same
      simp only [Prod.mk.sizeOf_spec] at smaller
      simp only [object.sizeOf_spec]
      omega
  | array items =>
      obtain ⟨item, listed, same⟩ := Option.map_eq_some_iff.mp found
      have smaller := List.sizeOf_lt_of_mem (List.mem_of_getElem? listed)
      cases same
      simp only [array.sizeOf_spec]
      omega
  | null => cases found
  | bool _ => cases found
  | number _ => cases found
  | string _ => cases found

/-- The label of the child at a position. -/
def Head.label? : Head → ℕ → Option (Option String)
  | .object keys, position => keys[position]?.map some
  | .array length, position => if position < length then some none else none
  | _, _ => none

/-- A head shows the labels of the children. -/
theorem label?_head (value : Value) (position : ℕ) :
    value.head.label? position = (value.child? position).map Prod.fst := by
  cases value with
  | object entries =>
      simp only [head, Head.label?, child?, List.getElem?_map, Option.map_map]
      rfl
  | array items =>
      simp only [head, Head.label?, child?, Option.map_map]
      by_cases inside : position < items.length
      · rw [if_pos inside, List.getElem?_eq_getElem inside]
        rfl
      · rw [if_neg inside, List.getElem?_eq_none (not_lt.mp inside)]
        rfl
  | null => rfl
  | bool _ => rfl
  | number _ => rfl
  | string _ => rfl

/-- The head at a path through a child is found in the child. -/
theorem headAt?_of_child {value child : Value} {label : Option String} {position : ℕ}
    (found : value.child? position = some (label, child)) (path : List ℕ) :
    value.headAt? (position :: path) = child.headAt? path := by
  rw [headAt?_cons, found, Option.bind_some]

/-- Values of one head have the same children as far as those of one position are equal. -/
theorem child?_eq_of_head {value other : Value} (heads : value.head = other.head) (position : ℕ)
    (equal : ∀ label child child', value.child? position = some (label, child) →
      other.child? position = some (label, child') → child = child') :
    value.child? position = other.child? position := by
  have labels : (value.child? position).map Prod.fst = (other.child? position).map Prod.fst := by
    rw [← label?_head, heads, label?_head]
  cases found : value.child? position with
  | none =>
      rw [found, Option.map_none] at labels
      exact (Option.map_eq_none_iff.mp labels.symm).symm
  | some child =>
      rw [found, Option.map_some] at labels
      obtain ⟨child', found', same⟩ := Option.map_eq_some_iff.mp labels.symm
      obtain ⟨label, child⟩ := child
      obtain ⟨label', child'⟩ := child'
      obtain rfl : label' = label := same
      rw [found', equal label' child child' found found']

/-- The heads at all paths determine a value. -/
theorem eq_of_heads (value other : Value)
    (heads : ∀ path, value.headAt? path = other.headAt? path) : value = other := by
  have top : value.head = other.head := Option.some.inj (heads [])
  refine eq_of_children top fun position =>
    child?_eq_of_head top position fun label child child' found found' => ?_
  have smaller := sizeOf_child found
  exact eq_of_heads child child' fun path => by
    rw [← headAt?_of_child found, heads, headAt?_of_child found']
termination_by sizeOf value

section Replaced

variable (sensitive : String → Prop)

/-- The path leads to the entry of a sensitive key, in an object nested fewer than
`levels` levels below the root. -/
def Eligible (levels : ℕ) (value : Value) (path : List ℕ) : Prop :=
  ∃ front position holder key entry, path = front ++ [position] ∧ front.length < levels ∧
    value.get? front = some holder ∧ holder.child? position = some (some key, entry) ∧
    sensitive key

/-- The path leads to an entry to be replaced, the outermost eligible one it leads to. So
none that the entry lies in is replaced (`replaced_iff`). -/
def Replaced (levels : ℕ) (value : Value) (path : List ℕ) : Prop :=
  Eligible sensitive levels value path ∧
    ∀ outer, outer <+: path → outer ≠ path → ¬ Eligible sensitive levels value outer

/-- The path leads to no entry to be replaced, nor into one. -/
def Spared (levels : ℕ) (value : Value) (path : List ℕ) : Prop :=
  ∀ outer, outer <+: path → ¬ Replaced sensitive levels value outer

/-- The values differ only in what entries to be replaced hold. -/
def AgreeOutside (levels : ℕ) (value other : Value) : Prop :=
  ∀ path, Spared sensitive levels value path → value.headAt? path = other.headAt? path

variable {sensitive} {levels : ℕ} {value child : Value} {label : Option String} {position : ℕ}
  {path : List ℕ}

/-- The value itself is not an entry. -/
theorem not_eligible_nil : ¬ Eligible sensitive levels value [] := by
  rintro ⟨front, position, _, _, _, split, -⟩
  exact List.append_ne_nil_of_right_ne_nil front (List.cons_ne_nil position []) split.symm

/-- Without levels no entry is in reach. -/
theorem not_eligible_zero : ¬ Eligible sensitive 0 value path := by
  rintro ⟨front, _, _, _, _, -, short, -⟩
  exact Nat.not_lt_zero _ short

/-- Where there is no child there is no entry. -/
theorem not_eligible_of_missing (missing : value.child? position = none) :
    ¬ Eligible sensitive levels value (position :: path) := by
  rintro ⟨front, last, holder, key, entry, split, -, reached, listed, -⟩
  cases front with
  | nil =>
      obtain ⟨rfl, -⟩ := List.cons.inj split
      obtain rfl := Option.some.inj reached
      rw [missing] at listed
      cases listed
  | cons first rest =>
      obtain ⟨rfl, -⟩ := List.cons.inj split
      rw [get?, missing] at reached
      cases reached

/-- An entry is a sensitive child, or is one further down. -/
theorem eligible_cons (found : value.child? position = some (label, child)) :
    Eligible sensitive (levels + 1) value (position :: path) ↔
      (path = [] ∧ ∃ key ∈ label, sensitive key) ∨ Eligible sensitive levels child path := by
  constructor
  · rintro ⟨front, last, holder, key, entry, split, short, reached, listed, hidden⟩
    cases front with
    | nil =>
        obtain ⟨rfl, rfl⟩ := List.cons.inj split
        obtain rfl := Option.some.inj reached
        rw [found] at listed
        cases listed
        exact .inl ⟨rfl, key, rfl, hidden⟩
    | cons first rest =>
        obtain ⟨rfl, rfl⟩ := List.cons.inj split
        rw [get?, found, Option.bind_some] at reached
        exact .inr ⟨rest, last, holder, key, entry, rfl, Nat.lt_of_succ_lt_succ short, reached,
          listed, hidden⟩
  · rintro (⟨rfl, key, rfl, hidden⟩ | ⟨front, last, holder, key, entry, rfl, short, reached,
      listed, hidden⟩)
    · exact ⟨[], position, value, key, child, rfl, Nat.succ_pos levels, rfl, found, hidden⟩
    · refine ⟨position :: front, last, holder, key, entry, rfl, Nat.succ_lt_succ short, ?_,
        listed, hidden⟩
      rw [get?, found, Option.bind_some, reached]

/-- The value itself is not replaced. -/
theorem not_replaced_nil : ¬ Replaced sensitive levels value [] :=
  fun replaced => not_eligible_nil replaced.1

/-- Without levels nothing is replaced. -/
theorem not_replaced_zero : ¬ Replaced sensitive 0 value path :=
  fun replaced => not_eligible_zero replaced.1

/-- Where there is no child nothing is replaced. -/
theorem not_replaced_of_missing (missing : value.child? position = none) :
    ¬ Replaced sensitive levels value (position :: path) :=
  fun replaced => not_eligible_of_missing missing replaced.1

/-- Of the paths into an entry of a sensitive key, the one to the entry itself is replaced. -/
theorem replaced_cons_of_sensitive {key : String} (hidden : sensitive key)
    (found : value.child? position = some (some key, child)) :
    Replaced sensitive (levels + 1) value (position :: path) ↔ path = [] := by
  have chosen : Eligible sensitive (levels + 1) value [position] :=
    (eligible_cons found).mpr (.inl ⟨rfl, key, rfl, hidden⟩)
  constructor
  · rintro ⟨-, outermost⟩
    by_contra further
    refine outermost [position] ⟨path, rfl⟩ (fun same => further ?_) chosen
    exact (List.cons.inj same).2.symm
  · rintro rfl
    refine ⟨chosen, fun outer inside different => ?_⟩
    rcases List.prefix_cons_iff.mp inside with rfl | ⟨rest, rfl, empty⟩
    · exact not_eligible_nil
    · exact absurd (by rw [List.prefix_nil.mp empty]) different

/-- Any other child decides by itself what is replaced in it. -/
theorem replaced_cons (plain : ∀ key ∈ label, ¬ sensitive key)
    (found : value.child? position = some (label, child)) :
    Replaced sensitive (levels + 1) value (position :: path) ↔
      Replaced sensitive levels child path := by
  have passed (path : List ℕ) : Eligible sensitive (levels + 1) value (position :: path) ↔
      Eligible sensitive levels child path := by
    rw [eligible_cons found]
    exact or_iff_right fun ⟨_, key, labelled, hidden⟩ => plain key labelled hidden
  constructor
  · rintro ⟨chosen, outermost⟩
    refine ⟨(passed path).mp chosen, fun outer inside different eligible => ?_⟩
    exact outermost (position :: outer) (List.prefix_cons_inj position |>.mpr inside)
      (fun same => different (List.cons.inj same).2) ((passed outer).mpr eligible)
  · rintro ⟨chosen, outermost⟩
    refine ⟨(passed path).mpr chosen, fun outer inside different => ?_⟩
    rcases List.prefix_cons_iff.mp inside with rfl | ⟨rest, rfl, within⟩
    · exact not_eligible_nil
    · rw [passed]
      exact outermost rest within fun same => different (congrArg (position :: ·) same)

/-- An eligible entry is replaced itself or lies in one that is. -/
theorem exists_replaced_of_eligible (path : List ℕ)
    (eligible : Eligible sensitive levels value path) :
    ∃ outer, outer <+: path ∧ Replaced sensitive levels value outer := by
  by_cases outermost : ∀ outer, outer <+: path → outer ≠ path →
      ¬ Eligible sensitive levels value outer
  · exact ⟨path, List.prefix_rfl, eligible, outermost⟩
  · push Not at outermost
    obtain ⟨outer, inside, different, chosen⟩ := outermost
    have shorter : outer.length < path.length := lt_of_le_of_ne inside.length_le
      fun same => different (inside.eq_of_length same)
    obtain ⟨first, within, replaced⟩ := exists_replaced_of_eligible outer chosen
    exact ⟨first, within.trans inside, replaced⟩
termination_by path.length

/-- An entry is replaced when it is eligible and not inside one that is replaced. -/
theorem replaced_iff : Replaced sensitive levels value path ↔
    Eligible sensitive levels value path ∧
      ∀ outer, outer <+: path → outer ≠ path → ¬ Replaced sensitive levels value outer := by
  constructor
  · rintro ⟨chosen, outermost⟩
    exact ⟨chosen, fun outer inside different replaced =>
      outermost outer inside different replaced.1⟩
  · rintro ⟨chosen, free⟩
    refine ⟨chosen, fun outer inside different eligible => ?_⟩
    obtain ⟨first, within, replaced⟩ := exists_replaced_of_eligible outer eligible
    refine free first (within.trans inside) (fun same => different ?_) replaced
    subst same
    exact inside.eq_of_length_le within.length_le

/-- The value itself is spared. -/
theorem Spared.of_nil : Spared sensitive levels value [] := by
  intro outer inside
  rw [List.prefix_nil.mp inside]
  exact not_replaced_nil

/-- What is spared in a child of no sensitive key is spared in the value. -/
theorem spared_cons (plain : ∀ key ∈ label, ¬ sensitive key)
    (found : value.child? position = some (label, child)) :
    Spared sensitive (levels + 1) value (position :: path) ↔
      Spared sensitive levels child path := by
  constructor
  · intro spared outer inside replaced
    exact spared (position :: outer) (List.prefix_cons_inj position |>.mpr inside)
      ((replaced_cons plain found).mpr replaced)
  · intro spared outer inside replaced
    rcases List.prefix_cons_iff.mp inside with rfl | ⟨rest, rfl, within⟩
    · exact not_replaced_nil replaced
    · exact spared rest within ((replaced_cons plain found).mp replaced)

end Replaced

end Value

namespace Redactor

open Value

variable (redactor : Redactor)

/-- The key is one of those configured, both trimmed and lowercased, and not blank. -/
def Sensitive (toLowercase : String → String) (sensitiveKeys : List String) (key : String) :
    Prop :=
  ∃ name ∈ sensitiveKeys, toLowercase (trim name) ≠ "" ∧
    toLowercase (trim key) = toLowercase (trim name)

/-- A key is sensitive exactly if a configured key that is not blank agrees with it, trimmed and
lowercased. -/
theorem isSensitive_new_iff (toLowercase : String → String) (sensitiveKeys : List String)
    (key : String) : (new toLowercase sensitiveKeys).isSensitive key = true ↔
      Sensitive toLowercase sensitiveKeys key := by
  rw [isSensitive, List.contains_iff_mem]
  simp only [new, List.mem_filter, List.mem_map, Bool.not_eq_true', Sensitive]
  constructor
  · rintro ⟨⟨name, configured, same⟩, filled⟩
    refine ⟨name, configured, fun blank => ?_, same.symm⟩
    rw [← same, blank] at filled
    cases filled
  · rintro ⟨name, configured, filled, same⟩
    exact ⟨⟨name, configured, same.symm⟩, by rw [same]; simpa using filled⟩

/-- Redaction keeps the head of a value. -/
theorem head_redactInner (levels : ℕ) (value : Value) :
    (redactor.redactInner levels value).head = value.head := by
  cases levels with
  | zero => rw [redactInner]
  | succ levels =>
      cases value with
      | object entries =>
          rw [redactInner, redactEntries_eq_map, head, head, List.map_map]
          rfl
      | array items =>
          rw [redactInner, redactItems_eq_map, head, head, List.length_map]
      | null => simp only [redactInner]
      | bool _ => simp only [redactInner]
      | number _ => simp only [redactInner]
      | string _ => simp only [redactInner]

/-- What redaction makes of a child. -/
def redactChild (levels : ℕ) (child : Option String × Value) : Value :=
  if child.1.any redactor.isSensitive then .string redactedPlaceholder
  else redactor.redactInner levels child.2

/-- Each child is redacted by itself. -/
theorem child?_redactInner (levels : ℕ) (value : Value) (position : ℕ) :
    (redactor.redactInner (levels + 1) value).child? position =
      (value.child? position).map fun child => (child.1, redactor.redactChild levels child) := by
  cases value with
  | object entries =>
      simp only [redactInner, redactEntries_eq_map, child?, List.getElem?_map, Option.map_map]
      rfl
  | array items =>
      simp only [redactInner, redactItems_eq_map, child?, List.getElem?_map, Option.map_map]
      rfl
  | null => simp only [redactInner, child?, Option.map_none]
  | bool _ => simp only [redactInner, child?, Option.map_none]
  | number _ => simp only [redactInner, child?, Option.map_none]
  | string _ => simp only [redactInner, child?, Option.map_none]

/-- A child under a sensitive key is replaced. -/
theorem redactChild_of_sensitive {child : Option String × Value} {key : String} (levels : ℕ)
    (labelled : child.1 = some key) (hidden : redactor.isSensitive key = true) :
    redactor.redactChild levels child = .string redactedPlaceholder := by
  rw [redactChild, labelled, Option.any_some, hidden]
  rfl

/-- A child under no sensitive key is redacted within. -/
theorem redactChild_of_plain {child : Option String × Value} (levels : ℕ)
    (plain : ∀ key ∈ child.1, ¬ redactor.isSensitive key = true) :
    redactor.redactChild levels child = redactor.redactInner levels child.2 := by
  have spared : child.1.any redactor.isSensitive = false :=
    (Option.any_eq_false ..).mpr fun key labelled => Bool.eq_false_iff.mpr (plain key labelled)
  rw [redactChild, spared]
  rfl

/-- A label is the key of an entry to be replaced, or it is not. -/
theorem sensitive_or_plain (label : Option String) :
    (∃ key, label = some key ∧ redactor.isSensitive key = true) ∨
      ∀ key ∈ label, ¬ redactor.isSensitive key = true := by
  by_cases hidden : ∃ key, label = some key ∧ redactor.isSensitive key = true
  · exact .inl hidden
  · exact .inr fun key labelled sensitive => hidden ⟨key, labelled, sensitive⟩

/-- Every entry to be replaced is replaced by the placeholder. -/
theorem get?_of_replaced (path : List ℕ) (levels : ℕ) (value : Value)
    (replaced : Replaced (redactor.isSensitive · = true) levels value path) :
    (redactor.redactInner levels value).get? path = some (.string redactedPlaceholder) := by
  induction path generalizing levels value with
  | nil => exact absurd replaced not_replaced_nil
  | cons position path ih =>
      cases levels with
      | zero => exact absurd replaced not_replaced_zero
      | succ levels =>
          cases found : value.child? position with
          | none => exact absurd replaced (not_replaced_of_missing found)
          | some child =>
              rw [get?, child?_redactInner, found, Option.map_some, Option.bind_some]
              rcases redactor.sensitive_or_plain child.1 with ⟨key, labelled, hidden⟩ | plain
              · have here : value.child? position = some (some key, child.2) := by
                  rw [found, ← labelled]
                rw [(replaced_cons_of_sensitive hidden here).mp replaced]
                rw [redactor.redactChild_of_sensitive levels labelled hidden, get?]
              · rw [redactor.redactChild_of_plain levels plain]
                exact ih levels child.2 ((replaced_cons plain found).mp replaced)

/-- Everything else keeps its head. -/
theorem headAt?_of_spared (path : List ℕ) (levels : ℕ) (value : Value)
    (spared : Spared (redactor.isSensitive · = true) levels value path) :
    (redactor.redactInner levels value).headAt? path = value.headAt? path := by
  induction path generalizing levels value with
  | nil => rw [headAt?_nil, headAt?_nil, head_redactInner]
  | cons position path ih =>
      cases levels with
      | zero => rw [redactInner]
      | succ levels =>
          rw [headAt?_cons, headAt?_cons, child?_redactInner]
          cases found : value.child? position with
          | none => rfl
          | some child =>
              rw [Option.map_some, Option.bind_some, Option.bind_some]
              rcases redactor.sensitive_or_plain child.1 with ⟨key, labelled, hidden⟩ | plain
              · have here : value.child? position = some (some key, child.2) := by
                  rw [found, ← labelled]
                refine absurd ?_ (spared [position] ⟨path, rfl⟩)
                exact (replaced_cons_of_sensitive hidden here).mpr rfl
              · rw [redactor.redactChild_of_plain levels plain]
                exact ih levels child.2 ((spared_cons plain found).mp spared)

/-- Values that differ only in what entries to be replaced hold are redacted to one value. -/
theorem redactInner_eq_of_agree (levels : ℕ) (value other : Value)
    (agree : AgreeOutside (redactor.isSensitive · = true) levels value other) :
    redactor.redactInner levels value = redactor.redactInner levels other := by
  induction levels generalizing value other with
  | zero =>
      rw [eq_of_heads value other fun path => agree path fun _ _ => not_replaced_zero]
  | succ levels ih =>
      have top : value.head = other.head := Option.some.inj (agree [] Spared.of_nil)
      refine eq_of_children (by rw [head_redactInner, head_redactInner, top]) fun position => ?_
      refine child?_eq_of_head (by rw [head_redactInner, head_redactInner, top]) position ?_
      intro label child child' read read'
      rw [child?_redactInner] at read read'
      obtain ⟨⟨held, inner⟩, found, same⟩ := Option.map_eq_some_iff.mp read
      obtain ⟨⟨key?, inner'⟩, found', same'⟩ := Option.map_eq_some_iff.mp read'
      obtain ⟨rfl, rfl⟩ := Prod.mk.inj same
      obtain ⟨rfl, rfl⟩ := Prod.mk.inj same'
      rcases redactor.sensitive_or_plain key? with ⟨key, labelled, hidden⟩ | plain
      · rw [redactor.redactChild_of_sensitive levels labelled hidden,
          redactor.redactChild_of_sensitive levels labelled hidden]
      · rw [redactor.redactChild_of_plain levels plain, redactor.redactChild_of_plain levels plain]
        refine ih inner inner' fun path spared => ?_
        rw [← headAt?_of_child found, ← headAt?_of_child found']
        exact agree (position :: path) ((spared_cons plain found).mpr spared)

/-- Values that are redacted to one value agree outside the entries to be replaced. -/
theorem agree_of_redactInner_eq (levels : ℕ) (value other : Value)
    (same : redactor.redactInner levels value = redactor.redactInner levels other) :
    AgreeOutside (redactor.isSensitive · = true) levels value other := by
  intro path
  induction path generalizing levels value other with
  | nil =>
      intro _
      rw [headAt?_nil, headAt?_nil, ← redactor.head_redactInner levels, same, head_redactInner]
  | cons position path ih =>
      intro spared
      cases levels with
      | zero =>
          rw [redactInner, redactInner] at same
          rw [same]
      | succ levels =>
          have children := congrArg (child? · position) same
          simp only [child?_redactInner] at children
          rw [headAt?_cons, headAt?_cons]
          cases found : value.child? position with
          | none =>
              rw [found, Option.map_none] at children
              rw [Option.map_eq_none_iff.mp children.symm]
          | some child =>
              rw [found, Option.map_some] at children
              obtain ⟨child', found', same'⟩ := Option.map_eq_some_iff.mp children.symm
              obtain ⟨label, child⟩ := child
              obtain ⟨label', child'⟩ := child'
              obtain ⟨rfl, equal⟩ := Prod.mk.inj same'
              rw [found', Option.bind_some, Option.bind_some]
              rcases redactor.sensitive_or_plain label' with ⟨key, rfl, hidden⟩ | plain
              · refine absurd ?_ (spared [position] ⟨path, rfl⟩)
                exact (replaced_cons_of_sensitive hidden found).mpr rfl
              · rw [redactor.redactChild_of_plain levels plain,
                  redactor.redactChild_of_plain levels plain] at equal
                exact ih levels child child' equal.symm ((spared_cons plain found).mp spared)

/-- **Redaction is exact and leaks nothing within its depth.** The entries to be replaced
become the placeholder, everything else stays as it was, redaction does nothing to what it
produced, and what the replaced entries held makes no difference to it. -/
theorem redactValue_exact (toLowercase : String → String) (sensitiveKeys : List String)
    (value : Value) :
    (∀ path, Replaced (Sensitive toLowercase sensitiveKeys) maxRedactDepth value path →
        ((new toLowercase sensitiveKeys).redactValue value).get? path =
          some (.string redactedPlaceholder)) ∧
      (∀ path, Spared (Sensitive toLowercase sensitiveKeys) maxRedactDepth value path →
        ((new toLowercase sensitiveKeys).redactValue value).headAt? path = value.headAt? path) ∧
      (new toLowercase sensitiveKeys).redactValue
          ((new toLowercase sensitiveKeys).redactValue value) =
        (new toLowercase sensitiveKeys).redactValue value ∧
      ∀ other, AgreeOutside (Sensitive toLowercase sensitiveKeys) maxRedactDepth value other →
        (new toLowercase sensitiveKeys).redactValue value =
          (new toLowercase sensitiveKeys).redactValue other := by
  have sensitive : Sensitive toLowercase sensitiveKeys =
      ((new toLowercase sensitiveKeys).isSensitive · = true) :=
    funext fun key => propext (isSensitive_new_iff toLowercase sensitiveKeys key).symm
  rw [sensitive]
  exact ⟨fun path => get?_of_replaced _ path maxRedactDepth value,
    fun path => headAt?_of_spared _ path maxRedactDepth value,
    redactInner_redactInner _ maxRedactDepth value,
    fun other => redactInner_eq_of_agree _ maxRedactDepth value other⟩

end Redactor

end GuardAgent
