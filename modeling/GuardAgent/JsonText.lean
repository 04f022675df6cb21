import GuardAgent.Json
import Mathlib.Data.List.Sort
import Mathlib.Data.String.Basic

/-!
# JSON texts

A parser of the JSON grammar into values, and what it makes of the texts that a writer
produces. The parser refuses more open containers than its limit, if it has one; the
members of an object go to their place in key order, and of two with one key the later
stays. How numbers are read is a parameter.

A writer renders characters and numbers in its own way and has compact separators. Where
each character and number is read back, so is every value whose nesting the limit allows,
and no other (`readValue_write`).
-/

namespace GuardAgent

namespace JsonText

/-- Insignificant whitespace. -/
def isSpace (c : Char) : Bool :=
  c = ' ' || c = '\t' || c = '\n' || c = '\r'

def skipSpace (text : List Char) : List Char :=
  text.dropWhile isSpace

def hexValue (c : Char) : Option ℕ :=
  if '0' ≤ c ∧ c ≤ '9' then some (c.toNat - '0'.toNat)
  else if 'a' ≤ c ∧ c ≤ 'f' then some (c.toNat - 'a'.toNat + 10)
  else if 'A' ≤ c ∧ c ≤ 'F' then some (c.toNat - 'A'.toNat + 10)
  else none

/-- Four hexadecimal digits. -/
def readHex4 : List Char → Option (ℕ × List Char)
  | first :: second :: third :: fourth :: rest => do
      let high ← hexValue first
      let middle ← hexValue second
      let low ← hexValue third
      let last ← hexValue fourth
      some (((high * 16 + middle) * 16 + low) * 16 + last, rest)
  | _ => none

/-- The character of an escape `\uXXXX`, or of two that are a surrogate pair. -/
def readUnicode (text : List Char) : Option (Char × List Char) := do
  let (code, rest) ← readHex4 text
  if 0xd800 ≤ code ∧ code < 0xdc00 then
    match rest with
    | '\\' :: 'u' :: rest =>
        let (low, rest) ← readHex4 rest
        if 0xdc00 ≤ low ∧ low < 0xe000 then
          some (Char.ofNat (0x10000 + (code - 0xd800) * 0x400 + (low - 0xdc00)), rest)
        else none
    | _ => none
  else if 0xdc00 ≤ code ∧ code < 0xe000 then none
  else some (Char.ofNat code, rest)

/-- The character of an escape of two characters. -/
def shortEscape (c : Char) : Option Char :=
  if c = '"' then some '"'
  else if c = '\\' then some '\\'
  else if c = '/' then some '/'
  else if c = 'b' then some '\x08'
  else if c = 'f' then some '\x0c'
  else if c = 'n' then some '\n'
  else if c = 'r' then some '\r'
  else if c = 't' then some '\t'
  else none

/-- One character of a string. -/
def readChar : List Char → Option (Char × List Char)
  | [] => none
  | c :: rest =>
      if c = '\\' then
        match rest with
        | [] => none
        | escaped :: rest =>
            if escaped = 'u' then readUnicode rest
            else (shortEscape escaped).map fun c => (c, rest)
      else if c = '"' ∨ c.toNat < 0x20 then none
      else some (c, rest)

/-- The rest of a string, up to its closing quote. -/
def readString : (fuel : ℕ) → List Char → Option (List Char × List Char)
  | 0, _ => none
  | fuel + 1, text =>
      if text.head? = some '"' then some ([], text.tail)
      else do
        let (c, rest) ← readChar text
        let (body, rest) ← readString fuel rest
        some (c :: body, rest)

def isNumberChar (c : Char) : Bool :=
  c.isDigit || c = '-' || c = '+' || c = '.' || c = 'e' || c = 'E'

/-- One container more is opened; `none` is no limit. -/
def descend : Option ℕ → Option (Option ℕ)
  | none => some none
  | some 0 => none
  | some (levels + 1) => some (some levels)

/-- The member of an object: a key, a colon and what `value` reads. -/
def readMember (value : List Char → Option (Value × List Char)) (text : List Char) :
    Option ((String × Value) × List Char) :=
  match skipSpace text with
  | '"' :: rest => do
      let (key, rest) ← readString rest.length rest
      match skipSpace rest with
      | ':' :: rest => do
          let (entry, rest) ← value rest
          some ((String.ofList key, entry), rest)
      | _ => none
  | _ => none

section Reading

variable (readNumber : String → Option Number)

def readToken (text : List Char) : Option (Value × List Char) :=
  match text with
  | 'n' :: 'u' :: 'l' :: 'l' :: rest => some (.null, rest)
  | 't' :: 'r' :: 'u' :: 'e' :: rest => some (.bool true, rest)
  | 'f' :: 'a' :: 'l' :: 's' :: 'e' :: rest => some (.bool false, rest)
  | '"' :: rest => do
      let (body, rest) ← readString rest.length rest
      some (.string (String.ofList body), rest)
  | text => do
      let number ← readNumber (String.ofList (text.takeWhile isNumberChar))
      some (.number number, text.dropWhile isNumberChar)

mutual

/-- A value at the start of the text, and what is left of the text. -/
def readValue : (fuel : ℕ) → (levels : Option ℕ) → List Char → Option (Value × List Char)
  | 0, _, _ => none
  | fuel + 1, levels, text =>
      match skipSpace text with
      | '[' :: rest => do
          let levels ← descend levels
          match skipSpace rest with
          | ']' :: rest => some (.array [], rest)
          | rest => do
              let (item, rest) ← readValue fuel levels rest
              let (items, rest) ← readItems fuel levels rest
              some (.array (item :: items), rest)
      | '\x7b' :: rest => do
          let levels ← descend levels
          match skipSpace rest with
          | '\x7d' :: rest => some (Value.ofMembers [], rest)
          | rest => do
              let (member, rest) ← readMember (readValue fuel levels) rest
              let (members, rest) ← readMembers fuel levels rest
              some (Value.ofMembers (member :: members), rest)
      | text => readToken readNumber text

/-- The items of an array after one of them. -/
def readItems : (fuel : ℕ) → (levels : Option ℕ) → List Char → Option (List Value × List Char)
  | 0, _, _ => none
  | fuel + 1, levels, text =>
      match skipSpace text with
      | ']' :: rest => some ([], rest)
      | ',' :: rest => do
          let (item, rest) ← readValue fuel levels rest
          let (items, rest) ← readItems fuel levels rest
          some (item :: items, rest)
      | _ => none

/-- The members of an object after one of them. -/
def readMembers : (fuel : ℕ) → (levels : Option ℕ) → List Char →
    Option (List (String × Value) × List Char)
  | 0, _, _ => none
  | fuel + 1, levels, text =>
      match skipSpace text with
      | '\x7d' :: rest => some ([], rest)
      | ',' :: rest => do
          let (member, rest) ← readMember (readValue fuel levels) rest
          let (members, rest) ← readMembers fuel levels rest
          some (member :: members, rest)
      | _ => none

end

/-- The value of a text, which has nothing else in it. -/
def parse (levels : Option ℕ) (text : String) : Option Value := do
  let (value, rest) ← readValue readNumber text.length levels text.toList
  if skipSpace rest = [] then some value else none

/-- The members of an object that is the whole text, in the order of the text. -/
def parseMembers (levels : Option ℕ) (text : String) : Option (List (String × Value)) := do
  let (members, rest) ← match skipSpace text.toList with
    | '\x7b' :: rest => do
        let levels ← descend levels
        match skipSpace rest with
        | '\x7d' :: rest => some ([], rest)
        | rest => do
            let (member, rest) ← readMember (readValue readNumber text.length levels) rest
            let (members, rest) ← readMembers readNumber text.length levels rest
            some (member :: members, rest)
    | _ => none
  if skipSpace rest = [] then some members else none

end Reading

/-- How a writer renders a character of a string and a number. -/
structure Writer where
  escape : Char → List Char
  number : Number → List Char

namespace Writer

variable (writer : Writer)

def writeString (body : List Char) : List Char :=
  '"' :: (body.flatMap writer.escape ++ ['"'])

mutual

def write : Value → List Char
  | .null => ['n', 'u', 'l', 'l']
  | .bool true => ['t', 'r', 'u', 'e']
  | .bool false => ['f', 'a', 'l', 's', 'e']
  | .number number => writer.number number
  | .string text => writer.writeString text.toList
  | .array [] => ['[', ']']
  | .array (item :: items) => '[' :: (write item ++ writeItems items)
  | .object [] => ['\x7b', '\x7d']
  | .object ((key, entry) :: entries) =>
      '\x7b' :: (writer.writeString key.toList ++ ':' :: (write entry ++ writeEntries entries))

/-- The items of an array after one of them. -/
def writeItems : List Value → List Char
  | [] => [']']
  | item :: items => ',' :: (write item ++ writeItems items)

/-- The members of an object after one of them. -/
def writeEntries : List (String × Value) → List Char
  | [] => ['\x7d']
  | (key, entry) :: entries =>
      ',' :: (writer.writeString key.toList ++ ':' :: (write entry ++ writeEntries entries))

end

end Writer

end JsonText

namespace Value

mutual

/-- How many containers are nested in the value. -/
def depth : Value → ℕ
  | .array items => depthItems items + 1
  | .object entries => depthEntries entries + 1
  | _ => 0

def depthItems : List Value → ℕ
  | [] => 0
  | item :: items => max (depth item) (depthItems items)

def depthEntries : List (String × Value) → ℕ
  | [] => 0
  | (_, entry) :: entries => max (depth entry) (depthEntries entries)

end

/-- A value as the map keeps it: the keys of every object increase. The numbers in it are
such as a test admits. -/
inductive WellFormed (admits : Number → Prop) : Value → Prop where
  | null : WellFormed admits .null
  | bool (value : Bool) : WellFormed admits (.bool value)
  | number {number : Number} : admits number → WellFormed admits (.number number)
  | string (text : String) : WellFormed admits (.string text)
  | array {items : List Value} : (∀ item ∈ items, WellFormed admits item) →
      WellFormed admits (.array items)
  | object {entries : List (String × Value)} :
      entries.Pairwise (fun earlier later => earlier.1 < later.1) →
      (∀ entry ∈ entries, WellFormed admits entry.2) → WellFormed admits (.object entries)

/-- What is well formed stays so when more numbers are admitted. -/
theorem WellFormed.mono {admits admits' : Number → Prop} {value : Value}
    (wellFormed : value.WellFormed admits) (weaker : ∀ number, admits number → admits' number) :
    value.WellFormed admits' := by
  induction wellFormed with
  | null => exact .null
  | bool flag => exact .bool flag
  | number admitted => exact .number (weaker _ admitted)
  | string text => exact .string text
  | array _ ih => exact .array ih
  | object increasing _ ih => exact .object increasing ih

/-- The value of a member of an object. -/
def member? (key : String) : Value → Option Value
  | .object entries => entries.lookup key
  | _ => none

section Members

variable {key : String} {value : Value} {entries : List (String × Value)}

/-- An entry after an insertion is the inserted one or was there before. -/
theorem mem_of_mem_insertEntry {entry : String × Value}
    (member : entry ∈ insertEntry key value entries) : entry = (key, value) ∨ entry ∈ entries := by
  induction entries with
  | nil => exact Or.inl (List.mem_singleton.mp member)
  | cons other entries ih =>
      rw [insertEntry] at member
      split at member
      · exact List.mem_cons.mp member
      · split at member
        · exact (List.mem_cons.mp member).imp_right (List.mem_cons_of_mem _)
        · rcases List.mem_cons.mp member with rfl | later
          · exact Or.inr List.mem_cons_self
          · exact (ih later).imp_right (List.mem_cons_of_mem _)

/-- Keys that increase still do after an insertion. -/
theorem pairwise_insertEntry
    (increasing : entries.Pairwise fun earlier later => earlier.1 < later.1) :
    (insertEntry key value entries).Pairwise fun earlier later => earlier.1 < later.1 := by
  induction entries with
  | nil => exact List.pairwise_singleton _ _
  | cons other entries ih =>
      obtain ⟨above, rest⟩ := List.pairwise_cons.mp increasing
      rw [insertEntry]
      split
      · next below =>
          refine List.pairwise_cons.mpr ⟨fun entry member => ?_, increasing⟩
          rcases List.mem_cons.mp member with rfl | later
          · exact below
          · exact below.trans (above entry later)
      · split
        · next same =>
            exact List.pairwise_cons.mpr ⟨fun entry member => same ▸ above entry member, rest⟩
        · next notBelow different =>
            refine List.pairwise_cons.mpr ⟨fun entry member => ?_, ih rest⟩
            rcases mem_of_mem_insertEntry member with rfl | held
            · exact lt_of_le_of_ne (not_lt.mp notBelow) (Ne.symm different)
            · exact above entry held

private theorem lookup_entry (other : String) : ((key, value) :: entries).lookup other =
    if other = key then some value else entries.lookup other := by
  by_cases found : other = key
  · rw [List.lookup_cons, beq_iff_eq.mpr found, if_pos found]
  · rw [List.lookup_cons, beq_eq_false_iff_ne.mpr found, if_neg found]

/-- What is found after an insertion. -/
theorem lookup_insertEntry (other : String) :
    (insertEntry key value entries).lookup other =
      if other = key then some value else entries.lookup other := by
  induction entries with
  | nil => exact lookup_entry other
  | cons entry entries ih =>
      rw [insertEntry]
      split
      · exact lookup_entry other
      · split
        · next same =>
            rw [lookup_entry, lookup_entry, ← same]
            split <;> rfl
        · next different =>
            rw [lookup_entry, ih, lookup_entry]
            by_cases found : other = entry.1
            · rw [if_pos found, if_neg (found ▸ Ne.symm different), if_pos found]
            · rw [if_neg found, if_neg found]

/-- The last of the members under a key is the one that is kept. -/
theorem member?_ofMembers (members : List (String × Value)) :
    (ofMembers members).member? key = members.reverse.lookup key := by
  have inserted (entries : List (String × Value)) :
      (members.foldl (fun entries member => insertEntry member.1 member.2 entries) entries).lookup
        key = (members.reverse.lookup key).or (entries.lookup key) := by
    induction members generalizing entries with
    | nil => rfl
    | cons member members ih =>
        rw [List.foldl_cons, ih, lookup_insertEntry, List.reverse_cons, List.lookup_append,
          Option.or_assoc]
        congr 1
        rw [lookup_entry]
        split <;> rfl
  exact (inserted []).trans (Option.or_none ..)

/-- An object of well-formed members is well-formed. -/
theorem wellFormed_ofMembers {admits : Number → Prop} {members : List (String × Value)}
    (wellFormed : ∀ member ∈ members, member.2.WellFormed admits) :
    (ofMembers members).WellFormed admits := by
  have inserted (entries : List (String × Value)) (object : (object entries).WellFormed admits) :
      (Value.object (members.foldl (fun entries member => insertEntry member.1 member.2 entries)
        entries)).WellFormed admits := by
    induction members generalizing entries with
    | nil => exact object
    | cons member members ih =>
        obtain ⟨here, later⟩ := List.forall_mem_cons.mp wellFormed
        refine ih later _ ?_
        cases object with
        | object increasing held =>
            refine .object (pairwise_insertEntry increasing) fun entry listed => ?_
            rcases mem_of_mem_insertEntry listed with rfl | old
            · exact here
            · exact held entry old
  exact inserted [] (.object List.Pairwise.nil nofun)

end Members

end Value

namespace JsonText

section ReadBack

open Value

/-- The nesting is within the limit, if there is one. -/
def fits (levels : Option ℕ) (depth : ℕ) : Bool :=
  levels.all fun levels => depth ≤ levels

/-- One level more fits if one can be descended. -/
theorem fits_succ (levels : Option ℕ) (depth : ℕ) :
    fits levels (depth + 1) = (descend levels).any fun inner => fits inner depth := by
  rcases levels with _ | _ | levels
  · rfl
  · rfl
  · simp only [fits, descend, Option.all_some, Option.any_some, Nat.add_le_add_iff_right]

/-- The deeper of two decides whether both fit. -/
theorem fits_max (levels : Option ℕ) (depth depth' : ℕ) :
    fits levels (max depth depth') = (fits levels depth && fits levels depth') := by
  rcases levels with _ | levels
  · rfl
  · simp only [fits, Option.all_some, max_le_iff, Bool.decide_and]

/-- What is not nested fits. -/
theorem fits_zero (levels : Option ℕ) : fits levels 0 = true := by
  rcases levels with _ | levels
  · rfl
  · exact decide_eq_true (Nat.zero_le levels)

variable {readNumber : String → Option Number} {fuel : ℕ} {levels : Option ℕ}
  {text rest : List Char}

/-- An empty array. -/
theorem readValue_empty_array : readValue readNumber (fuel + 1) levels ('[' :: ']' :: rest) =
    (descend levels).bind fun _ => some (.array [], rest) := by
  rw [readValue]
  rfl

/-- An array is read from its first item on. -/
theorem readValue_array (skipped : skipSpace text = text) (filled : text.head? ≠ some ']') :
    readValue readNumber (fuel + 1) levels ('[' :: text) =
      (descend levels).bind fun inner =>
        (readValue readNumber fuel inner text).bind fun (item, rest) =>
          (readItems readNumber fuel inner rest).bind fun (items, rest) =>
            some (.array (item :: items), rest) := by
  have opened : skipSpace ('[' :: text) = '[' :: text := rfl
  rw [readValue, opened]
  simp only [Option.bind_eq_bind, skipped]
  refine congrArg _ (funext fun inner => ?_)
  split
  case h_1 => exact absurd rfl filled
  case h_2 => rfl

/-- The end of an array. -/
theorem readItems_close : readItems readNumber (fuel + 1) levels (']' :: rest) =
    some ([], rest) := by
  rw [readItems]
  rfl

/-- The next item of an array. -/
theorem readItems_comma : readItems readNumber (fuel + 1) levels (',' :: text) =
    (readValue readNumber fuel levels text).bind fun (item, rest) =>
      (readItems readNumber fuel levels rest).bind fun (items, rest) =>
        some (item :: items, rest) := by
  rw [readItems]
  rfl

/-- An empty object. -/
theorem readValue_empty_object :
    readValue readNumber (fuel + 1) levels ('\x7b' :: '\x7d' :: rest) =
      (descend levels).bind fun _ => some (.ofMembers [], rest) := by
  rw [readValue]
  rfl

/-- An object is read from its first member on. -/
theorem readValue_object (skipped : skipSpace text = text) (filled : text.head? ≠ some '\x7d') :
    readValue readNumber (fuel + 1) levels ('\x7b' :: text) =
      (descend levels).bind fun inner =>
        (readMember (readValue readNumber fuel inner) text).bind fun (member, rest) =>
          (readMembers readNumber fuel inner rest).bind fun (members, rest) =>
            some (.ofMembers (member :: members), rest) := by
  have opened : skipSpace ('\x7b' :: text) = '\x7b' :: text := rfl
  rw [readValue, opened]
  simp only [Option.bind_eq_bind, skipped]
  refine congrArg _ (funext fun inner => ?_)
  split
  case h_1 => exact absurd rfl filled
  case h_2 => rfl

/-- The end of an object. -/
theorem readMembers_close : readMembers readNumber (fuel + 1) levels ('\x7d' :: rest) =
    some ([], rest) := by
  rw [readMembers]
  rfl

/-- The next member of an object. -/
theorem readMembers_comma : readMembers readNumber (fuel + 1) levels (',' :: text) =
    (readMember (readValue readNumber fuel levels) text).bind fun (member, rest) =>
      (readMembers readNumber fuel levels rest).bind fun (members, rest) =>
        some (member :: members, rest) := by
  rw [readMembers]
  rfl

/-- What begins with no bracket and no brace is a token. -/
theorem readValue_token {c : Char} (skipped : isSpace c = false) (bracket : c ≠ '[')
    (brace : c ≠ '\x7b') : readValue readNumber (fuel + 1) levels (c :: text) =
      readToken readNumber (c :: text) := by
  have opened : skipSpace (c :: text) = c :: text := List.dropWhile_cons_of_neg (by simp [skipped])
  rw [readValue, opened]
  split
  case h_1 _ equal => exact absurd (List.cons.inj equal).1 bracket
  case h_2 _ equal => exact absurd (List.cons.inj equal).1 brace
  case h_3 => rfl

/-- A token that begins like a number is one. -/
theorem readToken_number {c : Char} (numeric : isNumberChar c = true) :
    readToken readNumber (c :: text) =
      (readNumber (String.ofList ((c :: text).takeWhile isNumberChar))).map fun number =>
        (.number number, (c :: text).dropWhile isNumberChar) := by
  unfold readToken
  split
  case h_5 =>
    cases readNumber (String.ofList ((c :: text).takeWhile isNumberChar)) <;> rfl
  all_goals
    rename_i equal
    rw [(List.cons.inj equal).1] at numeric
    exact absurd numeric (by decide)

/-- Every character is written as an escape that reads back as it. -/
def Writer.Escapes (writer : Writer) : Prop :=
  ∀ c rest, readChar (writer.escape c ++ rest) = some (c, rest)

variable {writer : Writer} (escapes : writer.Escapes)

include escapes in
/-- No escape is empty. -/
theorem escape_ne_nil (c : Char) : writer.escape c ≠ [] := by
  intro empty
  have read := escapes c []
  rw [empty] at read
  cases read

include escapes in
/-- A string is no longer than its escapes. -/
theorem length_le_flatMap (body : List Char) :
    body.length ≤ (body.flatMap writer.escape).length := by
  induction body with
  | nil => exact le_rfl
  | cons c body ih =>
      have filled := List.length_pos_iff.mpr (escape_ne_nil escapes c)
      rw [List.flatMap_cons, List.length_append, List.length_cons]
      omega

include escapes in
/-- The escapes of a string read back, up to the quote. -/
theorem readString_flatMap (body : List Char) (enough : body.length < fuel) :
    readString fuel (body.flatMap writer.escape ++ '"' :: rest) = some (body, rest) := by
  induction body generalizing fuel with
  | nil =>
      cases fuel with
      | zero => cases enough
      | succ fuel => rfl
  | cons c body ih =>
      cases fuel with
      | zero => cases enough
      | succ fuel =>
          have read := escapes c (body.flatMap writer.escape ++ '"' :: rest)
          rw [List.flatMap_cons, List.append_assoc, readString]
          have inside : (writer.escape c ++ (body.flatMap writer.escape ++ '"' :: rest)).head? ≠
              some '"' := by
            intro quote
            obtain ⟨tail, split⟩ := List.head?_eq_some_iff.mp quote
            rw [split] at read
            cases read
          rw [if_neg inside, read]
          simp only [Option.bind_eq_bind, Option.bind_some,
            ih (Nat.lt_of_succ_lt_succ enough)]

include escapes in
/-- What follows the opening quote of a written string is read back. -/
theorem readString_write (body : List Char) :
    readString ((body.flatMap writer.escape ++ ['"']) ++ rest).length
      ((body.flatMap writer.escape ++ ['"']) ++ rest) = some (body, rest) := by
  have short := length_le_flatMap escapes body
  rw [List.append_assoc, List.singleton_append]
  refine readString_flatMap escapes body ?_
  rw [List.length_append, List.length_cons]
  omega

/-- What is read in two parts, each of which is read if its nesting is within the limit. -/
theorem bind_bind_of_fits {α β γ : Type} {depth depth' : ℕ} {first : Option (α × List Char)}
    {second : List Char → Option (β × List Char)} {head : α} {tail : β}
    (readFirst : first = if fits levels depth then some (head, text) else none)
    (readSecond : second text = if fits levels depth' then some (tail, rest) else none)
    (next : α → β → List Char → Option γ) :
    (first.bind fun (head, text) => (second text).bind fun (tail, rest) => next head tail rest) =
      if fits levels (max depth depth') then next head tail rest else none := by
  rw [readFirst, fits_max]
  cases fits levels depth with
  | false => rfl
  | true =>
      simp only [↓reduceIte, Option.bind_some, readSecond, Bool.true_and]
      cases fits levels depth' <;> rfl

include escapes in
/-- A written member is read if its value is. -/
theorem readMember_write {value : List Char → Option (Value × List Char)} {entry : Value}
    {depth : ℕ} (key : String)
    (read : value text = if fits levels depth then some (entry, rest) else none) :
    readMember value (writer.writeString key.toList ++ ':' :: text) =
      if fits levels depth then some ((key, entry), rest) else none := by
  have opened : skipSpace (writer.writeString key.toList ++ ':' :: text) =
      '"' :: ((key.toList.flatMap writer.escape ++ ['"']) ++ ':' :: text) := rfl
  have colon : skipSpace (':' :: text) = ':' :: text := rfl
  unfold readMember
  rw [opened]
  simp only [readString_write escapes, Option.bind_eq_bind, Option.bind_some, colon,
    String.ofList_toList, read]
  cases fits levels depth <;> rfl

include escapes in
/-- A written string is read as a token. -/
theorem readToken_string (body : String) :
    readToken readNumber (writer.writeString body.toList ++ rest) = some (.string body, rest) := by
  have opened : writer.writeString body.toList ++ rest =
      '"' :: ((body.toList.flatMap writer.escape ++ ['"']) ++ rest) := rfl
  rw [opened, readToken, readString_write escapes]
  simp only [Option.bind_eq_bind, Option.bind_some, String.ofList_toList]

/-- A number is written as a token that reads back as it. -/
def Writer.Prints (writer : Writer) (readNumber : String → Option Number) (number : Number) :
    Prop :=
  writer.number number ≠ [] ∧ (∀ c ∈ writer.number number, isNumberChar c = true) ∧
    readNumber (String.ofList (writer.number number)) = some number

/-- A written number is read as a token. -/
theorem readToken_write_number {number : Number} (prints : writer.Prints readNumber number)
    (stops : rest.takeWhile isNumberChar = []) :
    readToken readNumber (writer.number number ++ rest) = some (.number number, rest) := by
  obtain ⟨filled, numeric, read⟩ := prints
  have token : (writer.number number ++ rest).takeWhile isNumberChar = writer.number number := by
    rw [List.takeWhile_append_of_pos numeric, stops, List.append_nil]
  have after : (writer.number number ++ rest).dropWhile isNumberChar = rest := by
    rw [List.dropWhile_append_of_pos numeric]
    have whole := @List.takeWhile_append_dropWhile _ isNumberChar rest
    rwa [stops, List.nil_append] at whole
  obtain ⟨c, cs, split⟩ := List.exists_cons_of_ne_nil filled
  have first : isNumberChar c = true := numeric c (split ▸ List.mem_cons_self)
  rw [split, List.cons_append] at token after ⊢
  rw [readToken_number first, token, after, ← split, read, Option.map_some]

/-- What stands in a number is no whitespace. -/
theorem isSpace_of_isNumberChar {c : Char} (numeric : isNumberChar c = true) :
    isSpace c = false := by
  rw [Bool.eq_false_iff]
  intro spaced
  simp only [isSpace, Bool.or_eq_true, decide_eq_true_eq] at spaced
  rcases spaced with ((rfl | rfl) | rfl) | rfl <;> exact absurd numeric (by decide)

/-- A written value starts with a character that is neither a space nor a closing
bracket. -/
theorem write_head {value : Value} (wellFormed : value.WellFormed (writer.Prints readNumber)) :
    ∃ c cs, writer.write value = c :: cs ∧ isSpace c = false ∧ c ≠ ']' := by
  cases wellFormed with
  | null => exact ⟨_, _, rfl, rfl, by decide⟩
  | bool flag => cases flag <;> exact ⟨_, _, rfl, rfl, by decide⟩
  | @number number prints =>
      obtain ⟨c, cs, split⟩ := List.exists_cons_of_ne_nil prints.1
      have first : isNumberChar c = true := prints.2.1 c (split ▸ List.mem_cons_self)
      refine ⟨c, cs, split, isSpace_of_isNumberChar first, fun closing => ?_⟩
      rw [closing] at first
      exact absurd first (by decide)
  | string text => exact ⟨_, _, rfl, rfl, by decide⟩
  | @array items _ => cases items <;> exact ⟨_, _, rfl, rfl, by decide⟩
  | @object entries _ _ =>
      cases entries with
      | nil => exact ⟨_, _, rfl, rfl, by decide⟩
      | cons entry entries => exact ⟨_, _, rfl, rfl, by decide⟩

/-- After a value in an array no number goes on. -/
theorem takeWhile_writeItems (items : List Value) :
    (writer.writeItems items ++ rest).takeWhile isNumberChar = [] := by
  cases items <;> rfl

/-- After a value in an object no number goes on. -/
theorem takeWhile_writeEntries (entries : List (String × Value)) :
    (writer.writeEntries entries ++ rest).takeWhile isNumberChar = [] := by
  cases entries <;> rfl

/-- A written value does not begin with whitespace. -/
theorem skipSpace_write {value : Value}
    (wellFormed : value.WellFormed (writer.Prints readNumber)) :
    skipSpace (writer.write value ++ rest) = writer.write value ++ rest := by
  obtain ⟨c, cs, split, spaceless, -⟩ := write_head wellFormed
  rw [split, List.cons_append]
  exact List.dropWhile_cons_of_neg (by simp only [spaceless, Bool.false_eq_true, not_false_eq_true])

/-- A written value is not the end of an array. -/
theorem head?_write {value : Value} (wellFormed : value.WellFormed (writer.Prints readNumber)) :
    (writer.write value ++ rest).head? ≠ some ']' := by
  obtain ⟨c, cs, split, -, bracketless⟩ := write_head wellFormed
  rw [split, List.cons_append, List.head?_cons]
  exact fun same => bracketless (Option.some.inj same)

/-- An entry whose key is the last goes to the end. -/
theorem insertEntry_of_last {key : String} {value : Value} {entries : List (String × Value)}
    (last : ∀ entry ∈ entries, entry.1 < key) :
    insertEntry key value entries = entries ++ [(key, value)] := by
  induction entries with
  | nil => rfl
  | cons entry entries ih =>
      have before : entry.1 < key := last entry List.mem_cons_self
      rw [insertEntry, if_neg before.not_gt, if_neg before.ne', ih fun other member =>
        last other (List.mem_cons_of_mem _ member)]
      rfl

/-- Members whose keys increase stay in their order. -/
theorem ofMembers_of_increasing {entries : List (String × Value)}
    (increasing : entries.Pairwise fun earlier later => earlier.1 < later.1) :
    ofMembers entries = .object entries := by
  have inserted (past future : List (String × Value))
      (increasing : (past ++ future).Pairwise fun earlier later => earlier.1 < later.1) :
      future.foldl (fun entries member => insertEntry member.1 member.2 entries) past =
        past ++ future := by
    induction future generalizing past with
    | nil => rw [List.foldl_nil, List.append_nil]
    | cons member future ih =>
        have last : ∀ entry ∈ past, entry.1 < member.1 := fun entry held =>
          (List.pairwise_append.mp increasing).2.2 entry held member List.mem_cons_self
        rw [List.foldl_cons, insertEntry_of_last last, ih _ (by
          rwa [List.append_assoc, List.singleton_append]), List.append_assoc,
          List.singleton_append]
  exact congrArg object (inserted [] entries increasing)

mutual

/-- **A written value is read back if its nesting is within the limit**, and refused if
it is not. -/
theorem readValue_write (escapes : writer.Escapes) (value : Value)
    (wellFormed : value.WellFormed (writer.Prints readNumber))
    (fuel : ℕ) (levels : Option ℕ) (rest : List Char)
    (enough : (writer.write value ++ rest).length ≤ fuel)
    (stops : rest.takeWhile isNumberChar = []) :
    readValue readNumber fuel levels (writer.write value ++ rest) =
      if fits levels value.depth then some (value, rest) else none := by
  obtain ⟨c, cs, split, spaceless, -⟩ := write_head wellFormed
  obtain ⟨fuel, rfl⟩ : ∃ less, fuel = less + 1 := by
    rw [split, List.cons_append, List.length_cons] at enough
    exact ⟨fuel - 1, by omega⟩
  match value, wellFormed with
  | .null, _ =>
      rw [Writer.write, List.cons_append, readValue_token rfl (by decide) (by decide)]
      simp only [depth, fits_zero]
      rfl
  | .bool true, _ =>
      rw [Writer.write, List.cons_append, readValue_token rfl (by decide) (by decide)]
      simp only [depth, fits_zero]
      rfl
  | .bool false, _ =>
      rw [Writer.write, List.cons_append, readValue_token rfl (by decide) (by decide)]
      simp only [depth, fits_zero]
      rfl
  | .number token, .number prints =>
      rw [Writer.write] at split ⊢
      have first : isNumberChar c = true := prints.2.1 c (split ▸ List.mem_cons_self)
      have bracket : c ≠ '[' := fun same => absurd (same ▸ first) (by decide)
      have brace : c ≠ '\x7b' := fun same => absurd (same ▸ first) (by decide)
      rw [split, List.cons_append, readValue_token spaceless bracket brace, ← List.cons_append,
        ← split, readToken_write_number prints stops]
      simp only [depth, fits_zero, ↓reduceIte]
  | .string text, _ =>
      rw [Writer.write]
      have opened :
          readValue readNumber (fuel + 1) levels (writer.writeString text.toList ++ rest) =
            readToken readNumber (writer.writeString text.toList ++ rest) :=
        readValue_token rfl (by decide) (by decide)
      rw [opened, readToken_string escapes]
      simp only [depth, fits_zero, ↓reduceIte]
  | .array [], _ =>
      rw [Writer.write, List.cons_append, List.singleton_append, readValue_empty_array, depth,
        depthItems, fits_succ]
      cases descend levels with
      | none => rfl
      | some inner => rw [Option.bind_some, Option.any_some, fits_zero]; rfl
  | .array (item :: items), .array held =>
      have text : writer.write (.array (item :: items)) ++ rest =
          '[' :: (writer.write item ++ (writer.writeItems items ++ rest)) := by
        rw [Writer.write, List.cons_append, List.append_assoc]
      rw [text, List.length_cons] at enough
      have itemFormed := held item List.mem_cons_self
      have othersFormed : ∀ other ∈ items, other.WellFormed (writer.Prints readNumber) :=
        fun other member => held other (List.mem_cons_of_mem _ member)
      rw [text, readValue_array (skipSpace_write itemFormed) (head?_write itemFormed), depth,
        depthItems, fits_succ]
      cases descend levels with
      | none => rfl
      | some inner =>
          have itemRead := readValue_write escapes item itemFormed fuel inner
            (writer.writeItems items ++ rest) (by omega) (takeWhile_writeItems items)
          have othersRead := readItems_write escapes items othersFormed fuel inner rest (by
            rw [List.length_append] at enough; omega)
          exact bind_bind_of_fits itemRead othersRead
            fun item items rest => some (array (item :: items), rest)
  | .object [], _ =>
      rw [Writer.write, List.cons_append, List.singleton_append, readValue_empty_object, depth,
        depthEntries, fits_succ]
      cases descend levels with
      | none => rfl
      | some inner => rw [Option.bind_some, Option.any_some, fits_zero]; rfl
  | .object ((key, entry) :: entries), .object increasing held =>
      have text : writer.write (.object ((key, entry) :: entries)) ++ rest =
          '\x7b' :: (writer.writeString key.toList ++
            ':' :: (writer.write entry ++ (writer.writeEntries entries ++ rest))) := by
        rw [Writer.write, List.cons_append, List.append_assoc, List.cons_append, List.append_assoc]
      rw [text, List.length_cons, List.length_append, List.length_cons] at enough
      have entryFormed := held (key, entry) List.mem_cons_self
      have othersFormed : ∀ other ∈ entries, other.2.WellFormed (writer.Prints readNumber) :=
        fun other member => held other (List.mem_cons_of_mem _ member)
      rw [text, readValue_object rfl (by nofun), depth, depthEntries, fits_succ]
      cases descend levels with
      | none => rfl
      | some inner =>
          have memberRead := readMember_write escapes key (readValue_write escapes entry entryFormed
            fuel inner (writer.writeEntries entries ++ rest) (by omega)
            (takeWhile_writeEntries entries))
          have othersRead := readMembers_write escapes entries othersFormed fuel inner rest (by
            rw [List.length_append] at enough; omega)
          rw [← ofMembers_of_increasing increasing]
          exact bind_bind_of_fits memberRead othersRead
            fun member members rest => some (ofMembers (member :: members), rest)

/-- Written items are read, if their depth fits. -/
theorem readItems_write (escapes : writer.Escapes) (items : List Value)
    (wellFormed : ∀ item ∈ items, item.WellFormed (writer.Prints readNumber))
    (fuel : ℕ) (levels : Option ℕ) (rest : List Char)
    (enough : (writer.writeItems items ++ rest).length ≤ fuel) :
    readItems readNumber fuel levels (writer.writeItems items ++ rest) =
      if fits levels (depthItems items) then some (items, rest) else none := by
  obtain ⟨fuel, rfl⟩ : ∃ less, fuel = less + 1 := by
    have filled : 0 < (writer.writeItems items ++ rest).length := by
      cases items <;> exact Nat.succ_pos _
    exact ⟨fuel - 1, by omega⟩
  match items with
  | [] =>
      rw [Writer.writeItems, List.singleton_append, readItems_close, depthItems, fits_zero]
      rfl
  | item :: items =>
      have text : writer.writeItems (item :: items) ++ rest =
          ',' :: (writer.write item ++ (writer.writeItems items ++ rest)) := by
        rw [Writer.writeItems, List.cons_append, List.append_assoc]
      rw [text, List.length_cons] at enough
      have itemFormed := wellFormed item List.mem_cons_self
      have othersFormed : ∀ other ∈ items, other.WellFormed (writer.Prints readNumber) :=
        fun other member => wellFormed other (List.mem_cons_of_mem _ member)
      have itemRead := readValue_write escapes item itemFormed fuel levels
        (writer.writeItems items ++ rest) (by omega) (takeWhile_writeItems items)
      have othersRead := readItems_write escapes items othersFormed fuel levels rest (by
        rw [List.length_append] at enough; omega)
      rw [text, readItems_comma, depthItems]
      exact bind_bind_of_fits itemRead othersRead
        fun item items rest => some (item :: items, rest)

/-- Written members are read, if their depth fits. -/
theorem readMembers_write (escapes : writer.Escapes) (entries : List (String × Value))
    (wellFormed : ∀ entry ∈ entries, entry.2.WellFormed (writer.Prints readNumber))
    (fuel : ℕ) (levels : Option ℕ) (rest : List Char)
    (enough : (writer.writeEntries entries ++ rest).length ≤ fuel) :
    readMembers readNumber fuel levels (writer.writeEntries entries ++ rest) =
      if fits levels (depthEntries entries) then some (entries, rest) else none := by
  obtain ⟨fuel, rfl⟩ : ∃ less, fuel = less + 1 := by
    have filled : 0 < (writer.writeEntries entries ++ rest).length := by
      cases entries <;> exact Nat.succ_pos _
    exact ⟨fuel - 1, by omega⟩
  match entries with
  | [] =>
      rw [Writer.writeEntries, List.singleton_append, readMembers_close, depthEntries, fits_zero]
      rfl
  | (key, entry) :: entries =>
      have text : writer.writeEntries ((key, entry) :: entries) ++ rest =
          ',' :: (writer.writeString key.toList ++
            ':' :: (writer.write entry ++ (writer.writeEntries entries ++ rest))) := by
        rw [Writer.writeEntries, List.cons_append, List.append_assoc, List.cons_append,
          List.append_assoc]
      rw [text, List.length_cons, List.length_append, List.length_cons] at enough
      have entryFormed := wellFormed (key, entry) List.mem_cons_self
      have othersFormed : ∀ other ∈ entries, other.2.WellFormed (writer.Prints readNumber) :=
        fun other member => wellFormed other (List.mem_cons_of_mem _ member)
      have memberRead := readMember_write escapes key (readValue_write escapes entry entryFormed
        fuel levels (writer.writeEntries entries ++ rest) (by omega)
        (takeWhile_writeEntries entries))
      have othersRead := readMembers_write escapes entries othersFormed fuel levels rest (by
        rw [List.length_append] at enough; omega)
      rw [text, readMembers_comma, depthEntries]
      exact bind_bind_of_fits memberRead othersRead
        fun member members rest => some (member :: members, rest)

end

/-- A written text is parsed to the value, or refused for its nesting. -/
theorem parse_write (escapes : writer.Escapes) {value : Value}
    (wellFormed : value.WellFormed (writer.Prints readNumber)) (levels : Option ℕ) :
    parse readNumber levels (String.ofList (writer.write value)) =
      if fits levels value.depth then some value else none := by
  have read := readValue_write escapes value wellFormed (writer.write value).length levels []
    (by rw [List.append_nil]) rfl
  rw [List.append_nil] at read
  rw [parse, String.length_ofList, String.toList_ofList, read]
  cases fits levels value.depth <;> rfl

/-- The members of an empty object. -/
theorem parseMembers_empty :
    parseMembers readNumber levels (String.ofList ['\x7b', '\x7d']) =
      (descend levels).map fun _ => [] := by
  rw [parseMembers, String.toList_ofList]
  cases descend levels <;> rfl

/-- The members of an object, from the first one on. -/
theorem parseMembers_object (skipped : skipSpace text = text) (filled : text.head? ≠ some '\x7d') :
    parseMembers readNumber levels (String.ofList ('\x7b' :: text)) =
      (descend levels).bind fun inner =>
        (readMember (readValue readNumber (text.length + 1) inner) text).bind fun (member, rest) =>
          (readMembers readNumber (text.length + 1) inner rest).bind fun (members, rest) =>
            if skipSpace rest = [] then some (member :: members) else none := by
  have opened : skipSpace ('\x7b' :: text) = '\x7b' :: text := rfl
  rw [parseMembers, String.length_ofList, String.toList_ofList, opened, List.length_cons]
  simp only [Option.bind_eq_bind, skipped]
  refine congrArg _ (funext fun inner => ?_)
  split
  case h_1 => exact absurd rfl filled
  case h_2 => simp only [Option.bind_some]

/-- The members of a written object are read in its order, which need not be that of the
keys. -/
theorem parseMembers_write (escapes : writer.Escapes) {entries : List (String × Value)}
    (wellFormed : ∀ entry ∈ entries, entry.2.WellFormed (writer.Prints readNumber))
    (levels : Option ℕ) :
    parseMembers readNumber levels (String.ofList (writer.write (.object entries))) =
      if fits levels (depthEntries entries + 1) then some entries else none := by
  rw [fits_succ]
  match entries with
  | [] =>
      rw [Writer.write, parseMembers_empty, depthEntries]
      cases descend levels with
      | none => rfl
      | some inner => rw [Option.any_some, fits_zero]; rfl
  | (key, entry) :: entries =>
      have text : writer.write (.object ((key, entry) :: entries)) =
          '\x7b' :: (writer.writeString key.toList ++
            ':' :: (writer.write entry ++ (writer.writeEntries entries ++ []))) := by
        rw [Writer.write, List.append_nil]
      have entryFormed := wellFormed (key, entry) List.mem_cons_self
      have othersFormed : ∀ other ∈ entries, other.2.WellFormed (writer.Prints readNumber) :=
        fun other member => wellFormed other (List.mem_cons_of_mem _ member)
      rw [text, parseMembers_object rfl (by nofun), depthEntries]
      generalize size : (writer.writeString key.toList ++
        ':' :: (writer.write entry ++ (writer.writeEntries entries ++ []))).length = length
      rw [List.length_append, List.length_cons] at size
      cases descend levels with
      | none => rfl
      | some inner =>
          have memberRead := readMember_write escapes key (readValue_write escapes entry entryFormed
            (length + 1) inner (writer.writeEntries entries ++ []) (by omega)
            (takeWhile_writeEntries entries))
          have othersRead := readMembers_write escapes entries othersFormed (length + 1) inner []
            (by rw [List.length_append] at size; omega)
          exact bind_bind_of_fits memberRead othersRead
            fun member members rest =>
              if skipSpace rest = [] then some (member :: members) else none

end ReadBack

section EveryCharacter

variable {writer : Writer} {admits : Number → Prop} {allowed : Char → Prop}

/-- The characters of a written value outside its strings and numbers. -/
def punctuationChars : List Char :=
  ['n', 'u', 'l', 't', 'r', 'e', 'f', 'a', 's', '"', '[', ']', ',', ':', '\x7b', '\x7d']

/-- What is punctuation throughout is allowed throughout. -/
theorem forall_of_all (punctuation : ∀ c ∈ punctuationChars, allowed c) {text : List Char}
    (all : text.all punctuationChars.contains = true) : ∀ c ∈ text, allowed c := fun c member =>
  punctuation c (List.contains_iff_mem.mp (List.all_eq_true.mp all c member))

/-- A written string has only what is allowed. -/
theorem forall_writeString (quote : allowed '"')
    (escaped : ∀ c, ∀ d ∈ writer.escape c, allowed d) (body : List Char) :
    ∀ d ∈ writer.writeString body, allowed d := by
  rw [Writer.writeString, List.forall_mem_cons, List.forall_mem_append, List.forall_mem_flatMap]
  exact ⟨quote, fun c _ => escaped c, List.forall_mem_singleton.mpr quote⟩

mutual

/-- The characters of a written value are those of its punctuation, its escapes and its
numbers. -/
theorem forall_write (punctuation : ∀ c ∈ punctuationChars, allowed c)
    (escaped : ∀ c, ∀ d ∈ writer.escape c, allowed d)
    (numeric : ∀ number, admits number → ∀ d ∈ writer.number number, allowed d)
    (value : Value) (wellFormed : value.WellFormed admits) :
    ∀ d ∈ writer.write value, allowed d := by
  match value, wellFormed with
  | .null, _ =>
      rw [Writer.write]
      exact forall_of_all punctuation rfl
  | .bool true, _ =>
      rw [Writer.write]
      exact forall_of_all punctuation rfl
  | .bool false, _ =>
      rw [Writer.write]
      exact forall_of_all punctuation rfl
  | .number token, .number prints =>
      rw [Writer.write]
      exact numeric token prints
  | .string text, _ =>
      rw [Writer.write]
      exact forall_writeString (punctuation '"' (by decide)) escaped text.toList
  | .array [], _ =>
      rw [Writer.write]
      exact forall_of_all punctuation rfl
  | .array (item :: items), .array held =>
      rw [Writer.write, List.forall_mem_cons, List.forall_mem_append]
      exact ⟨punctuation '[' (by decide),
        forall_write punctuation escaped numeric item (held item List.mem_cons_self),
        forall_writeItems punctuation escaped numeric items fun other member =>
          held other (List.mem_cons_of_mem _ member)⟩
  | .object [], _ =>
      rw [Writer.write]
      exact forall_of_all punctuation rfl
  | .object ((key, entry) :: entries), .object _ held =>
      rw [Writer.write, List.forall_mem_cons, List.forall_mem_append, List.forall_mem_cons,
        List.forall_mem_append]
      exact ⟨punctuation '\x7b' (by decide),
        forall_writeString (punctuation '"' (by decide)) escaped key.toList,
        punctuation ':' (by decide),
        forall_write punctuation escaped numeric entry (held (key, entry) List.mem_cons_self),
        forall_writeEntries punctuation escaped numeric entries fun other member =>
          held other (List.mem_cons_of_mem _ member)⟩

/-- Written items have only what is allowed. -/
theorem forall_writeItems (punctuation : ∀ c ∈ punctuationChars, allowed c)
    (escaped : ∀ c, ∀ d ∈ writer.escape c, allowed d)
    (numeric : ∀ number, admits number → ∀ d ∈ writer.number number, allowed d)
    (items : List Value) (wellFormed : ∀ item ∈ items, item.WellFormed admits) :
    ∀ d ∈ writer.writeItems items, allowed d := by
  match items with
  | [] =>
      rw [Writer.writeItems]
      exact List.forall_mem_singleton.mpr (punctuation ']' (by decide))
  | item :: items =>
      rw [Writer.writeItems, List.forall_mem_cons, List.forall_mem_append]
      exact ⟨punctuation ',' (by decide),
        forall_write punctuation escaped numeric item (wellFormed item List.mem_cons_self),
        forall_writeItems punctuation escaped numeric items fun other member =>
          wellFormed other (List.mem_cons_of_mem _ member)⟩

/-- Written members have only what is allowed. -/
theorem forall_writeEntries (punctuation : ∀ c ∈ punctuationChars, allowed c)
    (escaped : ∀ c, ∀ d ∈ writer.escape c, allowed d)
    (numeric : ∀ number, admits number → ∀ d ∈ writer.number number, allowed d)
    (entries : List (String × Value)) (wellFormed : ∀ entry ∈ entries, entry.2.WellFormed admits) :
    ∀ d ∈ writer.writeEntries entries, allowed d := by
  match entries with
  | [] =>
      rw [Writer.writeEntries]
      exact List.forall_mem_singleton.mpr (punctuation '\x7d' (by decide))
  | (key, entry) :: entries =>
      rw [Writer.writeEntries, List.forall_mem_cons, List.forall_mem_append, List.forall_mem_cons,
        List.forall_mem_append]
      exact ⟨punctuation ',' (by decide),
        forall_writeString (punctuation '"' (by decide)) escaped key.toList,
        punctuation ':' (by decide),
        forall_write punctuation escaped numeric entry (wellFormed (key, entry) List.mem_cons_self),
        forall_writeEntries punctuation escaped numeric entries fun other member =>
          wellFormed other (List.mem_cons_of_mem _ member)⟩

end

end EveryCharacter

end JsonText

end GuardAgent
