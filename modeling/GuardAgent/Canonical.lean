import GuardAgent.Encryption
import GuardAgent.JsonText

/-!
# Canonical JSON and the encrypted round trip

Canonical JSON writes every character in printable ASCII and sorts the members of objects.
So it is the text of a writer that the JSON grammar reads back, depends on nothing but the
value, and determines it. With crates that keep their law (`CipherSuite.Lawful`), what is
encrypted decrypts to the value (`PayloadEncryptor.encrypt_roundTrip`).
-/

namespace GuardAgent

open JsonText

/-- A digit below 16 reads back. -/
theorem hexValue_digitChar {digit : ℕ} (small : digit < 16) :
    hexValue digit.digitChar = some digit := by
  have all : ∀ digit < 16, hexValue (Nat.digitChar digit) = some digit := by decide
  exact all digit small

/-- Padded to two digits or more, a code ends in its last digit. -/
theorem leftpad_toDigits (width code : ℕ) :
    (Nat.toDigits 16 code).leftpad (width + 2) '0' =
      (Nat.toDigits 16 (code / 16)).leftpad (width + 1) '0' ++ [(code % 16).digitChar] := by
  by_cases small : code < 16
  · rw [Nat.toDigits_of_lt_base small, Nat.div_eq_of_lt small, Nat.mod_eq_of_lt small]
    simp only [List.leftpad, List.length_singleton, Nat.add_one_sub_one, Nat.toDigits_zero]
    rw [List.replicate_succ', List.append_assoc]
  · have split := Nat.toDigits_append_toDigits (by decide : 1 < 16)
      (Nat.div_pos (not_lt.mp small) (by decide)) (Nat.mod_lt code (by decide : 0 < 16))
    rw [Nat.div_add_mod, Nat.toDigits_of_lt_base (Nat.mod_lt code (by decide))] at split
    have shorter : width + 2 - ((Nat.toDigits 16 (code / 16)).length + 1) =
        width + 1 - (Nat.toDigits 16 (code / 16)).length := by omega
    rw [← split, List.leftpad, List.leftpad, List.length_append, List.length_singleton, shorter,
      List.append_assoc]

/-- The four digits of a code unit. -/
theorem hex4_toList {code : ℕ} (small : code < 0x10000) :
    (hex4 code).toList = [(code / 16 / 16 / 16).digitChar, (code / 16 / 16 % 16).digitChar,
      (code / 16 % 16).digitChar, (code % 16).digitChar] := by
  rw [hex4, String.toList_ofList, leftpad_toDigits, leftpad_toDigits, leftpad_toDigits,
    Nat.toDigits_of_lt_base (by omega)]
  rfl

/-- Four hex digits read back as their code. -/
theorem readHex4_hex4 {code : ℕ} (small : code < 0x10000) (rest : List Char) :
    readHex4 ((hex4 code).toList ++ rest) = some (code, rest) := by
  rw [hex4_toList small]
  simp only [List.cons_append, List.nil_append, readHex4, Option.bind_eq_bind,
    hexValue_digitChar (by omega : code / 16 / 16 / 16 < 16),
    hexValue_digitChar (Nat.mod_lt _ (by decide)), Option.bind_some]
  congr 2
  omega

/-- A scalar value is no surrogate. -/
theorem toNat_valid (c : Char) : c.toNat < 0xd800 ∨ 0xdfff < c.toNat ∧ c.toNat < 0x110000 := by
  have valid : c.toNat.isValidChar := c.valid
  rwa [Nat.isValidChar] at valid

/-- One code of the basic plane reads back as its character. -/
theorem readUnicode_basic {c : Char} (basic : c.toNat ≤ 0xffff) (rest : List Char) :
    readUnicode ((hex4 c.toNat).toList ++ rest) = some (c, rest) := by
  have valid := toNat_valid c
  rw [readUnicode, readHex4_hex4 (by omega)]
  simp only [Option.bind_eq_bind, Option.bind_some]
  rw [if_neg (by omega), if_neg (by omega), Char.ofNat_toNat]

/-- Two surrogates read back as the character they stand for. -/
theorem readUnicode_surrogates {high low : ℕ} (highs : 0xd800 ≤ high ∧ high < 0xdc00)
    (lows : 0xdc00 ≤ low ∧ low < 0xe000) (rest : List Char) :
    readUnicode ((hex4 high).toList ++ '\\' :: 'u' :: ((hex4 low).toList ++ rest)) =
      some (Char.ofNat (0x10000 + (high - 0xd800) * 0x400 + (low - 0xdc00)), rest) := by
  rw [readUnicode, readHex4_hex4 (by omega)]
  simp only [Option.bind_eq_bind, Option.bind_some]
  rw [if_pos highs, readHex4_hex4 (by omega)]
  simp only [Option.bind_some]
  rw [if_pos lows]

/-- A character past the basic plane is its surrogate pair. -/
theorem readUnicode_pair {c : Char} (astral : 0xffff < c.toNat) (rest : List Char) :
    readUnicode ((hex4 ((c.toNat - 0x10000) / 0x400 + 0xd800)).toList ++
      '\\' :: 'u' :: ((hex4 ((c.toNat - 0x10000) % 0x400 + 0xdc00)).toList ++ rest)) =
        some (c, rest) := by
  have valid := toNat_valid c
  have highs : 0xd800 ≤ (c.toNat - 0x10000) / 0x400 + 0xd800 ∧
      (c.toNat - 0x10000) / 0x400 + 0xd800 < 0xdc00 := by omega
  have lows : 0xdc00 ≤ (c.toNat - 0x10000) % 0x400 + 0xdc00 ∧
      (c.toNat - 0x10000) % 0x400 + 0xdc00 < 0xe000 := by omega
  have joined : 0x10000 + ((c.toNat - 0x10000) / 0x400 + 0xd800 - 0xd800) * 0x400 +
      ((c.toNat - 0x10000) % 0x400 + 0xdc00 - 0xdc00) = c.toNat := by omega
  rw [readUnicode_surrogates highs lows, joined, Char.ofNat_toNat]

/-- What a writer escapes as a code is read back. -/
theorem readChar_unicode {text rest : List Char} {c : Char}
    (read : readUnicode text = some (c, rest)) :
    readChar ('\\' :: 'u' :: text) = some (c, rest) := by
  simp only [readChar, ↓reduceIte, read]

/-- An escape of two characters is read back. -/
theorem readChar_short {escape c : Char} (short : shortEscape escape = some c)
    (other : escape ≠ 'u') (rest : List Char) :
    readChar (['\\', escape] ++ rest) = some (c, rest) := by
  simp only [List.cons_append, List.nil_append, readChar, ↓reduceIte, if_neg other, short,
    Option.map_some]

/-- A character that needs no escape is read as it is. -/
theorem readChar_plain {c : Char} (backslash : c ≠ '\\') (quote : c ≠ '"')
    (control : 0x20 ≤ c.toNat) (rest : List Char) : readChar (c :: rest) = some (c, rest) := by
  have unescaped : ¬ (c = '"' ∨ c.toNat < 0x20) := by
    rintro (same | low)
    · exact quote same
    · omega
  rw [readChar.eq_def]
  simp only [if_neg backslash, if_neg unescaped]

/-- The rendering of canonical JSON. -/
def CipherSuite.canonicalWriter (suite : CipherSuite) : Writer where
  escape c := (escapeChar c).toList
  number number := (suite.numberText number).toList

/-- The text of one code. -/
theorem toList_code (code : ℕ) (rest : List Char) :
    ("\\u" ++ hex4 code).toList ++ rest = '\\' :: 'u' :: ((hex4 code).toList ++ rest) := by
  have spelled : ("\\u" : String).toList = ['\\', 'u'] := by decide
  rw [String.toList_append, spelled, List.append_assoc, List.cons_append, List.cons_append,
    List.nil_append]

/-- The text of two codes. -/
theorem toList_codes (high low : ℕ) (rest : List Char) :
    ("\\u" ++ hex4 high ++ "\\u" ++ hex4 low).toList ++ rest =
      '\\' :: 'u' :: ((hex4 high).toList ++ '\\' :: 'u' :: ((hex4 low).toList ++ rest)) := by
  rw [String.append_assoc, String.toList_append, List.append_assoc, toList_code, toList_code]

/-- A character is named by its code. -/
theorem eq_ofNat {c : Char} {code : ℕ} (same : c.toNat = code) : c = Char.ofNat code := by
  rw [← same, Char.ofNat_toNat]

/-- A space or a visible character of ASCII. -/
def IsPrintable (c : Char) : Prop :=
  0x20 ≤ c.toNat ∧ c.toNat ≤ 0x7e

instance (c : Char) : Decidable (IsPrintable c) :=
  inferInstanceAs (Decidable (0x20 ≤ c.toNat ∧ c.toNat ≤ 0x7e))

/-- How a character is written: by an escape of two characters, by one code or by two, or
as it is. -/
inductive Escaped (c : Char) : String → Prop where
  | short (escape : Char) : shortEscape escape = some c → IsPrintable escape → escape ≠ 'u' →
      Escaped c (String.ofList ['\\', escape])
  | pair : 0xffff < c.toNat →
      Escaped c ("\\u" ++ hex4 ((c.toNat - 0x10000) / 0x400 + 0xd800) ++
        "\\u" ++ hex4 ((c.toNat - 0x10000) % 0x400 + 0xdc00))
  | code : c.toNat ≤ 0xffff → Escaped c ("\\u" ++ hex4 c.toNat)
  | plain : IsPrintable c → c ≠ '"' → c ≠ '\\' → Escaped c c.toString

/-- A short escape, by the code of its character. -/
theorem Escaped.of_code {c : Char} {code : ℕ} (same : c.toNat = code) (escape : Char)
    (short : shortEscape escape = some (Char.ofNat code)) (printable : IsPrintable escape)
    (other : escape ≠ 'u') : Escaped c (String.ofList ['\\', escape]) :=
  .short escape (by rw [short, eq_ofNat same]) printable other

/-- Every character is escaped in one of these ways. -/
theorem escaped_escapeChar (c : Char) : Escaped c (escapeChar c) := by
  unfold escapeChar
  by_cases quote : c.toNat = 0x22
  · rw [if_pos quote]
    exact .of_code quote '"' rfl (by decide) (by decide)
  rw [if_neg quote]
  by_cases backslash : c.toNat = 0x5c
  · rw [if_pos backslash]
    exact .of_code backslash '\\' rfl (by decide) (by decide)
  rw [if_neg backslash]
  by_cases backspace : c.toNat = 0x8
  · rw [if_pos backspace]
    exact .of_code backspace 'b' rfl (by decide) (by decide)
  rw [if_neg backspace]
  by_cases formFeed : c.toNat = 0xc
  · rw [if_pos formFeed]
    exact .of_code formFeed 'f' rfl (by decide) (by decide)
  rw [if_neg formFeed]
  by_cases lineFeed : c.toNat = 0xa
  · rw [if_pos lineFeed]
    exact .of_code lineFeed 'n' rfl (by decide) (by decide)
  rw [if_neg lineFeed]
  by_cases carriageReturn : c.toNat = 0xd
  · rw [if_pos carriageReturn]
    exact .of_code carriageReturn 'r' rfl (by decide) (by decide)
  rw [if_neg carriageReturn]
  by_cases tab : c.toNat = 0x9
  · rw [if_pos tab]
    exact .of_code tab 't' rfl (by decide) (by decide)
  rw [if_neg tab]
  by_cases outside : c.toNat < 0x20 ∨ 0x7e < c.toNat
  · rw [if_pos outside]
    by_cases astral : 0xffff < c.toNat
    · rw [if_pos astral]
      exact .pair astral
    · rw [if_neg astral]
      exact .code (not_lt.mp astral)
  · rw [if_neg outside]
    refine .plain ⟨by omega, by omega⟩ (fun same => quote ?_) (fun same => backslash ?_)
    · rw [same]
      rfl
    · rw [same]
      rfl

/-- The text of one character. -/
theorem toList_toString (c : Char) : c.toString.toList = [c] := by
  rw [Char.toString_eq_singleton, String.toList_singleton]

/-- Every character is read back. -/
theorem readChar_escapeChar (c : Char) (rest : List Char) :
    readChar ((escapeChar c).toList ++ rest) = some (c, rest) := by
  generalize written : escapeChar c = text
  have escaped : Escaped c text := written ▸ escaped_escapeChar c
  cases escaped with
  | short escape short _ other =>
      rw [String.toList_ofList]
      exact readChar_short short other rest
  | pair astral =>
      rw [toList_codes]
      exact readChar_unicode (readUnicode_pair astral rest)
  | code basic =>
      rw [toList_code]
      exact readChar_unicode (readUnicode_basic basic rest)
  | plain printable quote backslash =>
      rw [toList_toString]
      exact readChar_plain backslash quote printable.1 rest

/-- An escaped string is the escapes of its characters. -/
theorem toList_escapeString (text : String) :
    (escapeString text).toList = text.toList.flatMap fun c => (escapeChar c).toList := by
  rw [escapeString, String.toList_join, List.flatMap_map]

/-- Texts are joined by commas, each but the first after one. -/
theorem toList_intercalate (text : String) (texts : List String) :
    (",".intercalate (text :: texts)).toList =
      text.toList ++ texts.flatMap fun text => ',' :: text.toList := by
  induction texts generalizing text with
  | nil => rw [String.intercalate_singleton, List.flatMap_nil, List.append_nil]
  | cons next texts ih =>
      rw [String.intercalate_cons_cons, String.toList_append, ih, String.toList_append,
        List.flatMap_cons, List.append_assoc]
      rfl

namespace CipherSuite

variable {suite : CipherSuite} {admits : Number → Prop}

/-- The items of an array are written one by one. -/
theorem writeItems_eq_map (items : List Value) :
    suite.writeItems items = items.map suite.writeCanonical := by
  induction items with
  | nil => rw [writeItems, List.map_nil]
  | cons item items ih => rw [writeItems, ih, List.map_cons]

/-- The members of an object are written one by one, under their keys. -/
theorem writeEntries_eq_map (entries : List (String × Value)) :
    suite.writeEntries entries =
      entries.map fun entry => (entry.1, suite.writeCanonical entry.2) := by
  induction entries with
  | nil => rw [writeEntries, List.map_nil]
  | cons entry entries ih => rw [writeEntries, ih, List.map_cons]

/-- The text of a member. -/
def memberText (member : String × String) : String :=
  "\"" ++ escapeString member.1 ++ "\":" ++ member.2

/-- A member is written as its key, a colon and its value. -/
theorem toList_memberText (suite : CipherSuite) (key text : String) :
    (memberText (key, text)).toList =
      suite.canonicalWriter.writeString key.toList ++ ':' :: text.toList := by
  have closing : ("\":" : String).toList = ['"', ':'] := rfl
  rw [memberText, String.toList_append, String.toList_append, String.toList_append,
    toList_escapeString, closing, Writer.writeString]
  simp only [List.append_assoc, List.cons_append, List.nil_append]
  rfl

/-- Entries in key order stay in it. -/
theorem sorted_writeEntries {entries : List (String × Value)}
    (increasing : entries.Pairwise fun earlier later => earlier.1 < later.1) :
    (suite.writeEntries entries).insertionSort (fun left right => left.1 ≤ right.1) =
      suite.writeEntries entries := by
  refine List.Pairwise.insertionSort_eq ?_
  rw [writeEntries_eq_map, List.pairwise_map]
  exact increasing.imp le_of_lt

mutual

/-- Canonical JSON is what its rendering writes. -/
theorem toList_writeCanonical (value : Value) (wellFormed : value.WellFormed admits) :
    (suite.writeCanonical value).toList = suite.canonicalWriter.write value := by
  match value, wellFormed with
  | .null, _ => rw [writeCanonical, Writer.write]; rfl
  | .bool true, _ => rw [writeCanonical, Writer.write]; rfl
  | .bool false, _ => rw [writeCanonical, Writer.write]; rfl
  | .number token, _ => rw [writeCanonical, Writer.write]; rfl
  | .string text, _ =>
      rw [writeCanonical, Writer.write, String.toList_append, String.toList_append,
        toList_escapeString]
      rfl
  | .array [], _ => rw [writeCanonical, writeItems, Writer.write]; rfl
  | .array (item :: items), .array held =>
      have rest := toList_writeItems items fun other member =>
        held other (List.mem_cons_of_mem _ member)
      rw [writeCanonical, Writer.write, String.toList_append, String.toList_append, writeItems,
        toList_intercalate, toList_writeCanonical item (held item List.mem_cons_self), ← rest,
        List.append_assoc, List.append_assoc]
      rfl
  | .object [], _ => rw [writeCanonical, writeEntries, Writer.write]; rfl
  | .object ((key, entry) :: entries), .object increasing held =>
      have rest := toList_writeEntries entries fun other member =>
        held other (List.mem_cons_of_mem _ member)
      have members : suite.writeCanonical (.object ((key, entry) :: entries)) =
          "\x7b" ++ ",".intercalate ((suite.writeEntries ((key, entry) :: entries)).map
            memberText) ++ "\x7d" := by
        rw [writeCanonical]
        simp only [sorted_writeEntries increasing]
        rfl
      rw [members, Writer.write, String.toList_append, String.toList_append, writeEntries,
        List.map_cons, toList_intercalate, toList_memberText suite, List.flatMap_map,
        toList_writeCanonical entry (held (key, entry) List.mem_cons_self), ← rest]
      simp only [List.append_assoc, List.cons_append]
      rfl

/-- The items after the first, as the writer writes them. -/
theorem toList_writeItems (items : List Value)
    (wellFormed : ∀ item ∈ items, item.WellFormed admits) :
    (suite.writeItems items).flatMap (fun text => ',' :: text.toList) ++ [']'] =
      suite.canonicalWriter.writeItems items := by
  match items with
  | [] => rw [writeItems, Writer.writeItems]; rfl
  | item :: items =>
      have rest := toList_writeItems items fun other member =>
        wellFormed other (List.mem_cons_of_mem _ member)
      rw [writeItems, Writer.writeItems, List.flatMap_cons, List.append_assoc, rest,
        toList_writeCanonical item (wellFormed item List.mem_cons_self)]
      rfl

/-- The members after the first, as the writer writes them. -/
theorem toList_writeEntries (entries : List (String × Value))
    (wellFormed : ∀ entry ∈ entries, entry.2.WellFormed admits) :
    (suite.writeEntries entries).flatMap (fun member => ',' :: (memberText member).toList) ++
      ['\x7d'] = suite.canonicalWriter.writeEntries entries := by
  match entries with
  | [] => rw [writeEntries, Writer.writeEntries]; rfl
  | (key, entry) :: entries =>
      have rest := toList_writeEntries entries fun other member =>
        wellFormed other (List.mem_cons_of_mem _ member)
      rw [writeEntries, Writer.writeEntries, List.flatMap_cons, List.append_assoc, rest,
        toList_memberText suite,
        toList_writeCanonical entry (wellFormed (key, entry) List.mem_cons_self)]
      simp only [List.append_assoc, List.cons_append]

end

/-- The escapes of canonical JSON read back. -/
theorem escapes_canonicalWriter (suite : CipherSuite) : suite.canonicalWriter.Escapes :=
  readChar_escapeChar

/-- Canonical JSON is read back, whatever the nesting. -/
theorem parse_canonicalJson {readNumber : String → Option Number} {value : Value}
    (wellFormed : value.WellFormed (suite.canonicalWriter.Prints readNumber)) :
    parse readNumber none (suite.canonicalJson value) = some value := by
  have text : suite.canonicalJson value = String.ofList (suite.canonicalWriter.write value) := by
    rw [canonicalJson, ← toList_writeCanonical value wellFormed, String.ofList_toList]
  rw [text, parse_write suite.escapes_canonicalWriter wellFormed]
  rfl

end CipherSuite

/-- Hex digits are printable. -/
theorem isPrintable_hex4 {code : ℕ} (small : code < 0x10000) : ∀ c ∈ (hex4 code).toList,
    IsPrintable c := by
  have digits : ∀ digit < 16, IsPrintable (Nat.digitChar digit) := by decide
  rw [hex4_toList small]
  simp only [List.forall_mem_cons, List.not_mem_nil, false_imp_iff, implies_true, and_true]
  exact ⟨digits _ (by omega), digits _ (by omega), digits _ (by omega), digits _ (by omega)⟩

/-- Escapes are printable. -/
theorem isPrintable_escapeChar (c : Char) : ∀ d ∈ (escapeChar c).toList, IsPrintable d := by
  have valid := toNat_valid c
  generalize written : escapeChar c = text
  have escaped : Escaped c text := written ▸ escaped_escapeChar c
  cases escaped with
  | short escape _ printable _ =>
      rw [String.toList_ofList, List.forall_mem_cons, List.forall_mem_singleton]
      exact ⟨by decide, printable⟩
  | pair astral =>
      have listed := toList_codes ((c.toNat - 0x10000) / 0x400 + 0xd800)
        ((c.toNat - 0x10000) % 0x400 + 0xdc00) []
      rw [List.append_nil] at listed
      rw [listed]
      simp only [List.forall_mem_cons, List.forall_mem_append]
      exact ⟨by decide, by decide, isPrintable_hex4 (by omega), by decide, by decide,
        isPrintable_hex4 (by omega), nofun⟩
  | code basic =>
      have listed := toList_code c.toNat []
      rw [List.append_nil] at listed
      rw [listed]
      simp only [List.forall_mem_cons, List.forall_mem_append]
      exact ⟨by decide, by decide, isPrintable_hex4 (by omega), nofun⟩
  | plain printable _ _ =>
      rw [toList_toString]
      exact List.forall_mem_singleton.mpr printable

/-- What stands in a number is printable. -/
theorem isPrintable_of_isNumberChar {c : Char} (numeric : isNumberChar c = true) :
    IsPrintable c := by
  simp only [isNumberChar, Bool.or_eq_true, decide_eq_true_eq, Char.isDigit_iff_toNat] at numeric
  rcases numeric with ((((digit | rfl) | rfl) | rfl) | rfl) | rfl
  · change 0x30 ≤ c.toNat ∧ c.toNat ≤ 0x39 at digit
    exact ⟨by omega, by omega⟩
  all_goals decide

namespace Value

/-- Two values are the same but for the order of the entries in their objects, in none of
which a key is there twice. -/
inductive Same : Value → Value → Prop where
  | null : Same .null .null
  | bool (value : Bool) : Same (.bool value) (.bool value)
  | number (value : Number) : Same (.number value) (.number value)
  | string (text : String) : Same (.string text) (.string text)
  | array {items others : List Value} (lengths : items.length = others.length) :
      (∀ position (inside : position < items.length) (inside' : position < others.length),
        Same (items.get ⟨position, inside⟩) (others.get ⟨position, inside'⟩)) →
      Same (.array items) (.array others)
  | object {entries others : List (String × Value)} :
      (entries.map Prod.fst).Nodup → (entries.map Prod.fst).Perm (others.map Prod.fst) →
      (∀ entry ∈ entries, ∀ other ∈ others, entry.1 = other.1 → Same entry.2 other.2) →
      Same (.object entries) (.object others)

end Value

namespace CipherSuite

variable {suite : CipherSuite}

/-- The written members of one object are those of the other. -/
private theorem mem_writeEntries {entries others : List (String × Value)}
    (keys : entries.map Prod.fst ⊆ others.map Prod.fst)
    (written : ∀ entry ∈ entries, ∀ other ∈ others, entry.1 = other.1 →
      suite.writeCanonical entry.2 = suite.writeCanonical other.2)
    {member : String × String} (listed : member ∈ suite.writeEntries entries) :
    member ∈ suite.writeEntries others := by
  rw [writeEntries_eq_map] at listed ⊢
  obtain ⟨entry, held, rfl⟩ := List.mem_map.mp listed
  obtain ⟨other, held', named⟩ := List.mem_map.mp (keys (List.mem_map_of_mem held))
  refine List.mem_map.mpr ⟨other, held', ?_⟩
  rw [named, written entry held other held' named.symm]

/-- The members are sorted by their keys. -/
theorem pairwise_sorted (members : List (String × String)) :
    (members.insertionSort fun left right => left.1 ≤ right.1).Pairwise
      fun left right => left.1 ≤ right.1 := by
  have total : Std.Total fun left right : String × String => left.1 ≤ right.1 :=
    ⟨fun left right => le_total left.1 right.1⟩
  have trans : IsTrans (String × String) fun left right => left.1 ≤ right.1 :=
    ⟨fun _ _ _ => le_trans⟩
  exact List.pairwise_insertionSort _ members

/-- Members of distinct keys have one order. -/
theorem sorted_eq_of_perm {members others : List (String × String)}
    (distinct : (members.map Prod.fst).Nodup) (perm : members.Perm others) :
    (members.insertionSort fun left right => left.1 ≤ right.1) =
      others.insertionSort fun left right => left.1 ≤ right.1 := by
  refine List.Perm.eq_of_pairwise (fun left right held held' below above => ?_)
    (pairwise_sorted members) (pairwise_sorted others)
    ((List.perm_insertionSort ..).trans (perm.trans (List.perm_insertionSort ..).symm))
  exact List.inj_on_of_nodup_map distinct ((List.mem_insertionSort ..).mp held)
    (perm.mem_iff.mpr ((List.mem_insertionSort ..).mp held')) (le_antisymm below above)

/-- Canonical JSON depends on nothing but the value. -/
theorem writeCanonical_eq_of_same {value other : Value} (same : value.Same other) :
    suite.writeCanonical value = suite.writeCanonical other := by
  induction same with
  | null => rfl
  | bool _ => rfl
  | number _ => rfl
  | string _ => rfl
  | @array items others lengths _ ih =>
      have written : suite.writeItems items = suite.writeItems others := by
        rw [writeItems_eq_map, writeItems_eq_map]
        refine List.ext_getElem (by rw [List.length_map, List.length_map, lengths])
          fun position inside inside' => ?_
        rw [List.getElem_map, List.getElem_map]
        exact ih position (by rwa [List.length_map] at inside) (by rwa [List.length_map] at inside')
      rw [writeCanonical, writeCanonical, written]
  | @object entries others distinct keys _ ih =>
      have fst (entries : List (String × Value)) :
          (suite.writeEntries entries).map Prod.fst = entries.map Prod.fst := by
        rw [writeEntries_eq_map, List.map_map]
        rfl
      have distinctWritten : ((suite.writeEntries entries).map Prod.fst).Nodup := by rwa [fst]
      have distinctOthers : ((suite.writeEntries others).map Prod.fst).Nodup := by
        rw [fst]
        exact keys.nodup_iff.mp distinct
      have perm : (suite.writeEntries entries).Perm (suite.writeEntries others) := by
        refine (List.perm_ext_iff_of_nodup distinctWritten.of_map distinctOthers.of_map).mpr
          fun member => ⟨mem_writeEntries keys.subset ih, ?_⟩
        exact mem_writeEntries keys.symm.subset fun entry held other held' named =>
          (ih other held' entry held named.symm).symm
      rw [writeCanonical, writeCanonical]
      simp only [sorted_eq_of_perm distinctWritten perm]

end CipherSuite

/-- The numbers of `serde_json`: a `u64`, a negative `i64` or a finite `f64`. -/
def Number.Representable : Number → Prop
  | .posInt value => value < 2 ^ 64
  | .negInt value => -2 ^ 63 ≤ value ∧ value < 0
  | .float value => ∃ mantissa exponent : ℤ, |mantissa| < 2 ^ 53 ∧ -1074 ≤ exponent ∧
      exponent ≤ 971 ∧ value = mantissa * 2 ^ exponent

/-- What the framing and the canonical text rest on: the cipher appends a tag of 16 bytes
and decrypts what it encrypted, base64 decodes what it encoded, the text of a number is a
token that reads back as it, and the JSON parser knows the grammar and no nesting limit. -/
structure CipherSuite.Lawful (suite : CipherSuite) (readNumber : String → Option Number) :
    Prop where
  opens : ∀ (key : Bytes) (nonce : Nonce) (message associated : Bytes), key.length = keySize →
    ∃ ciphertext, suite.encrypt key nonce message associated = .ok ciphertext ∧
      ciphertext.length = message.length + tagSize ∧
      suite.decrypt key nonce.val ciphertext associated = .ok message
  decodes : ∀ bytes,
    suite.base64Decode (trimEndMatches (suite.base64Encode bytes) '=') = .ok bytes
  prints : ∀ number : Number, number.Representable →
    suite.canonicalWriter.Prints readNumber number
  parses : ∀ text, suite.fromSlice (utf8 text) = parse readNumber none text

namespace CipherSuite.Lawful

variable {suite : CipherSuite} {readNumber : String → Option Number}
  (lawful : suite.Lawful readNumber)

include lawful

/-- Canonical JSON is printable ASCII. -/
theorem isPrintable_canonicalJson {value : Value}
    (wellFormed : value.WellFormed Number.Representable) :
    ∀ c ∈ (suite.canonicalJson value).toList, IsPrintable c := by
  have punctuation : punctuationChars.all (fun c => IsPrintable c) = true := rfl
  rw [canonicalJson, toList_writeCanonical value wellFormed]
  exact forall_write (fun c member => of_decide_eq_true (List.all_eq_true.mp punctuation c member))
    isPrintable_escapeChar
    (fun number representable c member =>
      isPrintable_of_isNumberChar ((lawful.prints number representable).2.1 c member))
    value wellFormed

/-- Canonical JSON is parsed as the document it was written for. -/
theorem parse_canonicalJson {value : Value} (wellFormed : value.WellFormed Number.Representable) :
    parse readNumber none (suite.canonicalJson value) = some value :=
  CipherSuite.parse_canonicalJson (wellFormed.mono lawful.prints)

/-- What was encrypted decrypts to the value. -/
theorem decrypt_encrypt (encryptor : PayloadEncryptor) (nonce : Nonce)
    (associatedData : Option String) {value : Value}
    (wellFormed : value.WellFormed Number.Representable) :
    ∃ encrypted, encryptor.encrypt suite nonce value associatedData = .ok encrypted ∧
      encryptor.decrypt suite encrypted associatedData = .ok value := by
  obtain ⟨ciphertext, sealed, tagged, opened⟩ := lawful.opens encryptor.key nonce
    (utf8 (suite.canonicalJson value)) (utf8 (associatedData.getD "")) encryptor.size
  refine ⟨suite.base64Encode (nonce.val ++ ciphertext), ?_, ?_⟩
  · rw [PayloadEncryptor.encrypt, sealed]
  · have long : ¬ (nonce.val ++ ciphertext).length < nonceSize + tagSize := by
      rw [List.length_append, nonce.property, tagged]
      omega
    rw [PayloadEncryptor.decrypt, lawful.decodes]
    simp only [if_neg long, List.take_left' nonce.property, List.drop_left' nonce.property, opened,
      lawful.parses, lawful.parse_canonicalJson wellFormed]

end CipherSuite.Lawful

namespace PayloadEncryptor

variable (suite : CipherSuite)

/-- `slice::split_at`; `none` where it panics. -/
def splitAt? (bytes : Bytes) (mid : ℕ) : Option (Bytes × Bytes) :=
  if mid ≤ bytes.length then some (bytes.take mid, bytes.drop mid) else none

/-- `usize` subtraction; `none` where it underflows. -/
def checkedSub (left right : ℕ) : Option ℕ :=
  if right ≤ left then some (left - right) else none

/-- `decrypt` with every length it computes; `none` where it panics. -/
def decryptChecked (encryptor : PayloadEncryptor) (encryptedData : String)
    (associatedData : Option String) : Option (Except GuardAgentError Value) :=
  let tampered := GuardAgentError.encryption "Invalid or tampered payload"
  match suite.base64Decode (trimEndMatches encryptedData '=') with
  | .error _ => some (.error tampered)
  | .ok combined =>
      if combined.length < nonceSize + tagSize then some (.error tampered)
      else do
        let (nonceBytes, ciphertext) ← splitAt? combined nonceSize
        let length ← checkedSub ciphertext.length tagSize
        let (ciphertext, tag) ← splitAt? ciphertext length
        let tagged := ciphertext ++ tag
        let nonce ← if nonceBytes.length = nonceSize then some nonceBytes else none
        match suite.decrypt encryptor.key nonce tagged (utf8 (associatedData.getD "")) with
        | .error _ => some (.error tampered)
        | .ok plaintext =>
            match suite.fromSlice plaintext with
            | none => some (.error tampered)
            | some value => some (.ok value)

/-- No length that `decrypt` computes is out of range, whatever the input. -/
theorem decryptChecked_eq (encryptor : PayloadEncryptor) (encryptedData : String)
    (associatedData : Option String) :
    encryptor.decryptChecked suite encryptedData associatedData =
      some (encryptor.decrypt suite encryptedData associatedData) := by
  unfold decryptChecked decrypt
  cases suite.base64Decode (trimEndMatches encryptedData '=') with
  | error _ => rfl
  | ok combined =>
      by_cases short : combined.length < nonceSize + tagSize
      · simp only [if_pos short]
      · have nonced : nonceSize ≤ combined.length := by omega
        have tagged : tagSize ≤ (combined.drop nonceSize).length := by
          rw [List.length_drop]
          omega
        have framed : (combined.take nonceSize).length = nonceSize := List.length_take_of_le nonced
        simp only [if_neg short, splitAt?, if_pos nonced, checkedSub, if_pos tagged,
          Option.bind_eq_bind, Option.bind_some, Nat.sub_le, ↓reduceIte, List.take_append_drop,
          if_pos framed]
        cases suite.decrypt encryptor.key (combined.take nonceSize) (combined.drop nonceSize)
            (utf8 (associatedData.getD "")) with
        | error _ => rfl
        | ok plaintext => cases parsed : suite.fromSlice plaintext <;> simp only [parsed]

/-- **The round trip of encrypted payloads.** Canonical JSON is printable ASCII, depends on
nothing but the value, is parsed back to it and so determines it; what is encrypted decrypts
to the value, under every key, nonce and associated data; and decryption computes no length
out of range. -/
theorem encrypt_roundTrip {suite : CipherSuite} {readNumber : String → Option Number}
    (lawful : suite.Lawful readNumber) :
    (∀ value : Value, value.WellFormed Number.Representable →
      (∀ c ∈ (suite.canonicalJson value).toList, IsPrintable c) ∧
        parse readNumber none (suite.canonicalJson value) = some value ∧
        (∀ other : Value, other.WellFormed Number.Representable →
          suite.canonicalJson value = suite.canonicalJson other → value = other) ∧
        ∀ (encryptor : PayloadEncryptor) (nonce : Nonce) (associatedData : Option String),
          ∃ encrypted, encryptor.encrypt suite nonce value associatedData = .ok encrypted ∧
            encryptor.decrypt suite encrypted associatedData = .ok value) ∧
      (∀ value other : Value, value.Same other →
        suite.canonicalJson value = suite.canonicalJson other) ∧
      ∀ (encryptor : PayloadEncryptor) (encryptedData : String) (associatedData : Option String),
        encryptor.decryptChecked suite encryptedData associatedData =
          some (encryptor.decrypt suite encryptedData associatedData) := by
  refine ⟨fun value wellFormed => ⟨lawful.isPrintable_canonicalJson wellFormed,
    lawful.parse_canonicalJson wellFormed, fun other wellFormed' same => ?_,
    fun encryptor nonce associatedData =>
      lawful.decrypt_encrypt encryptor nonce associatedData wellFormed⟩,
    fun value other => CipherSuite.writeCanonical_eq_of_same, decryptChecked_eq suite⟩
  have parsed := lawful.parse_canonicalJson wellFormed
  rw [same, lawful.parse_canonicalJson wellFormed'] at parsed
  exact (Option.some.inj parsed).symm

end PayloadEncryptor

/-! A suite that keeps the law. On one document it does what the crates do under the
all-zero key and nonce; elsewhere it is the simplest there is. -/

namespace CipherSuite

def sampleDocument : Value :=
  .object [("k", .array [.number (.posInt 7), .string "é"])]

def sampleText : String := "\x7b\"k\":[7,\"\\u00e9\"]\x7d"

def sampleCiphertext : Bytes :=
  [181, 133, 43, 31, 119, 59, 92, 66, 37, 18, 176, 227, 138, 150, 164, 58, 47, 29, 37, 40, 100,
    36, 129, 202, 207, 188, 199, 74, 209, 94, 249, 109, 38, 28]

def sampleFrame : Bytes := List.replicate nonceSize 0 ++ sampleCiphertext

def sampleEncoded : String := "AAAAAAAAAAAAAAAAtYUrH3c7XEIlErDjipakOi8dJShkJIHKz7zHStFe-W0mHA=="

def hexText (bytes : Bytes) : List Char :=
  bytes.flatMap fun byte => [(byte.toNat / 16).digitChar, (byte.toNat % 16).digitChar]

def ofHexText : List Char → Bytes
  | high :: low :: rest =>
      UInt8.ofNat ((hexValue high).getD 0 * 16 + (hexValue low).getD 0) :: ofHexText rest
  | _ => []

/-- Decimal integers; a float as its numerator and its denominator. -/
def numberToken : Number → List Char
  | .posInt value => Nat.toDigits 10 value
  | .negInt value => '-' :: Nat.toDigits 10 value.natAbs
  | .float value =>
      (if value < 0 then '-' else '+') ::
        (Nat.toDigits 10 value.num.natAbs ++ 'e' :: Nat.toDigits 10 value.den)

def readNumberToken (text : String) : Option Number :=
  let whole := text.toList.takeWhile (· ≠ 'e')
  let ending := (text.toList.dropWhile (· ≠ 'e')).tail
  let digits := Nat.ofDigitChars 10 whole.tail 0
  if whole.head? = some '+' then some (.float (digits / Nat.ofDigitChars 10 ending 0))
  else if whole.head? = some '-' then
    if ending = [] then some (.negInt (-digits))
    else some (.float (-digits / Nat.ofDigitChars 10 ending 0))
  else some (.posInt (Nat.ofDigitChars 10 whole 0))

def lawfulSample : CipherSuite where
  base64Encode bytes :=
    if bytes = sampleFrame then sampleEncoded else String.ofList (hexText bytes)
  base64Decode text :=
    if text = trimEndMatches sampleEncoded '=' then .ok sampleFrame
    else .ok (ofHexText text.toList)
  encrypt _ _ message _ :=
    if message = utf8 sampleText then .ok sampleCiphertext
    else .ok (message ++ List.replicate tagSize 0)
  decrypt _ _ ciphertext _ :=
    if ciphertext = sampleCiphertext then .ok (utf8 sampleText)
    else .ok (ciphertext.take (ciphertext.length - tagSize))
  numberText number := String.ofList (numberToken number)
  fromSlice bytes := (String.fromUTF8? ⟨bytes.toArray⟩).bind (parse readNumberToken none)

/-- Hex text is read as the bytes it was written for. -/
theorem ofHexText_hexText (bytes : Bytes) : ofHexText (hexText bytes) = bytes := by
  induction bytes with
  | nil => rfl
  | cons byte bytes ih =>
      have whole : byte.toNat / 16 * 16 + byte.toNat % 16 = byte.toNat := by omega
      have small := byte.toNat_lt
      have step : hexText (byte :: bytes) =
          (byte.toNat / 16).digitChar :: (byte.toNat % 16).digitChar :: hexText bytes := rfl
      rw [step, ofHexText, ih, hexValue_digitChar (by omega), hexValue_digitChar (by omega),
        Option.getD_some, Option.getD_some, whole, UInt8.ofNat_toNat]

/-- Hex text has neither the first digit of base64 nor its padding. -/
theorem mem_hexText {bytes : Bytes} {c : Char} (member : c ∈ hexText bytes) :
    c ≠ 'A' ∧ c ≠ '=' := by
  have digits : ∀ digit < 16, digit.digitChar ≠ 'A' ∧ digit.digitChar ≠ '=' := by decide
  obtain ⟨byte, -, digit⟩ := List.mem_flatMap.mp member
  have small := byte.toNat_lt
  simp only [List.mem_cons, List.not_mem_nil, or_false] at digit
  rcases digit with rfl | rfl
  · exact digits _ (by omega)
  · exact digits _ (by omega)

/-- What stands in a decimal number is a digit. -/
theorem mem_toDigits {value : ℕ} {c : Char} (member : c ∈ Nat.toDigits 10 value) :
    c.isDigit = true := Nat.isDigit_of_mem_toDigits (by decide) (by decide) member

/-- No decimal digit marks an exponent. -/
theorem toDigits_no_e (value : ℕ) : ∀ c ∈ Nat.toDigits 10 value, decide (c ≠ 'e') = true := by
  intro c member
  refine decide_eq_true fun same => ?_
  subst same
  exact absurd (mem_toDigits member) (by decide)

/-- A token is read at its `e`, if it has one. -/
theorem readNumberToken_parts (number : Number) (representable : number.Representable) :
    readNumberToken (String.ofList (numberToken number)) = some number := by
  unfold readNumberToken
  simp only [String.toList_ofList]
  cases number with
  | posInt value =>
      have whole : (Nat.toDigits 10 value).takeWhile (· ≠ 'e') = Nat.toDigits 10 value :=
        List.takeWhile_eq_self_iff.mpr (toDigits_no_e value)
      have unsigned (c : Char) (mark : c.isDigit = false) :
          (Nat.toDigits 10 value).head? ≠ some c := by
        intro first
        rw [mem_toDigits (List.mem_of_head? first)] at mark
        cases mark
      simp only [numberToken, whole]
      rw [if_neg (unsigned '+' rfl), if_neg (unsigned '-' rfl), Nat.ofDigitChars_ten_toDigits]
  | negInt value =>
      have signed : ∀ c ∈ '-' :: Nat.toDigits 10 value.natAbs, decide (c ≠ 'e') = true :=
        List.forall_mem_cons.mpr ⟨rfl, toDigits_no_e _⟩
      have whole := List.takeWhile_eq_self_iff.mpr signed
      have ending := List.dropWhile_eq_nil_iff.mpr signed
      have negative : -(value.natAbs : ℤ) = value := by
        have := representable.2
        omega
      simp only [numberToken, whole, ending, List.head?_cons, List.tail_cons, List.tail_nil,
        Nat.ofDigitChars_ten_toDigits, negative]
      rfl
  | float value =>
      have parts (sign : Char) (marked : decide (sign ≠ 'e') = true) :
          (sign :: (Nat.toDigits 10 value.num.natAbs ++ 'e' :: Nat.toDigits 10 value.den)).takeWhile
              (· ≠ 'e') = sign :: Nat.toDigits 10 value.num.natAbs ∧
            ((sign :: (Nat.toDigits 10 value.num.natAbs ++
              'e' :: Nat.toDigits 10 value.den)).dropWhile (· ≠ 'e')).tail =
                Nat.toDigits 10 value.den := by
        have signed : ∀ c ∈ sign :: Nat.toDigits 10 value.num.natAbs, decide (c ≠ 'e') = true :=
          List.forall_mem_cons.mpr ⟨marked, toDigits_no_e _⟩
        rw [← List.cons_append, List.takeWhile_append_of_pos signed,
          List.dropWhile_append_of_pos signed]
        exact ⟨List.append_nil _, rfl⟩
      have filled : Nat.toDigits 10 value.den ≠ [] := Nat.toDigits_ne_nil
      by_cases negative : value < 0
      · have signed : value = -(value.num.natAbs : ℚ) / value.den := by
          have below := Rat.num_neg.mpr negative
          have integral : -(value.num.natAbs : ℤ) = value.num := by omega
          rw [← Int.cast_natCast, ← Int.cast_neg, integral, Rat.num_div_den]
        obtain ⟨whole, ending⟩ := parts '-' rfl
        simp only [numberToken, if_pos negative, whole, ending, filled, List.head?_cons,
          List.tail_cons, Nat.ofDigitChars_ten_toDigits, ← signed]
        rfl
      · have signed : value = (value.num.natAbs : ℚ) / value.den := by
          have above := Rat.num_nonneg.mpr (not_lt.mp negative)
          have integral : (value.num.natAbs : ℤ) = value.num := by omega
          rw [← Int.cast_natCast, integral, Rat.num_div_den]
        obtain ⟨whole, ending⟩ := parts '+' rfl
        simp only [numberToken, if_neg negative, whole, ending, List.head?_cons,
          List.tail_cons, Nat.ofDigitChars_ten_toDigits, ← signed]
        rfl

/-- The token of a number has only characters of numbers. -/
theorem isNumberChar_numberToken (number : Number) :
    ∀ c ∈ numberToken number, isNumberChar c = true := by
  have digits (value : ℕ) : ∀ c ∈ Nat.toDigits 10 value, isNumberChar c = true := by
    intro c member
    rw [isNumberChar, mem_toDigits member]
    rfl
  cases number with
  | posInt value => exact digits value
  | negInt value => exact List.forall_mem_cons.mpr ⟨rfl, digits _⟩
  | float value =>
      rw [numberToken, List.forall_mem_cons, List.forall_mem_append, List.forall_mem_cons]
      exact ⟨by split <;> rfl, digits _, rfl, digits _⟩

/-- The token of a number is not empty. -/
theorem numberToken_ne_nil (number : Number) : numberToken number ≠ [] := by
  cases number with
  | posInt value => exact Nat.toDigits_ne_nil
  | negInt value => exact List.cons_ne_nil _ _
  | float value => exact List.cons_ne_nil _ _

/-- The sample suite keeps the law. -/
theorem lawfulSample_lawful : lawfulSample.Lawful readNumberToken where
  opens key nonce message associated size := by
    by_cases known : message = utf8 sampleText
    · refine ⟨sampleCiphertext, if_pos known, ?_, ?_⟩
      · rw [known]
        decide +kernel
      · simp only [lawfulSample, ↓reduceIte, known]
    · have fresh : message ++ List.replicate tagSize 0 ≠ sampleCiphertext := by
        intro same
        have last := congrArg List.getLast? same
        have zero : (List.replicate tagSize (0 : UInt8)).getLast? = some 0 := rfl
        rw [List.getLast?_append, zero, Option.some_or] at last
        exact absurd last (by decide)
      refine ⟨message ++ List.replicate tagSize 0, if_neg known, ?_, ?_⟩
      · rw [List.length_append, List.length_replicate]
      · simp only [lawfulSample, if_neg fresh, List.length_append, List.length_replicate,
          Nat.add_sub_cancel, List.take_left]
  decodes bytes := by
    by_cases known : bytes = sampleFrame
    · simp only [lawfulSample, ↓reduceIte, known]
    · have trimmed : trimEndMatches (String.ofList (hexText bytes)) '=' =
          String.ofList (hexText bytes) := by
        rw [trimEndMatches, String.toList_ofList, List.rdropWhile_eq_self_iff.mpr]
        intro filled
        simp only [beq_iff_eq]
        exact (mem_hexText (List.getLast_mem filled)).2
      have fresh : String.ofList (hexText bytes) ≠ trimEndMatches sampleEncoded '=' := by
        intro same
        have listed : 'A' ∈ (trimEndMatches sampleEncoded '=').toList := by decide +kernel
        rw [← same, String.toList_ofList] at listed
        exact (mem_hexText listed).1 rfl
      simp only [lawfulSample, if_neg known, trimmed, if_neg fresh, String.toList_ofList,
        ofHexText_hexText]
  prints number representable := by
    have token : (lawfulSample.canonicalWriter.number number) = numberToken number :=
      String.toList_ofList
    rw [Writer.Prints, token]
    exact ⟨numberToken_ne_nil number, isNumberChar_numberToken number,
      readNumberToken_parts number representable⟩
  parses text := by
    have decoded : String.fromUTF8? ⟨(utf8 text).toArray⟩ = some text := by
      have bytes : (⟨(utf8 text).toArray⟩ : ByteArray) = text.toByteArray := rfl
      rw [bytes]
      exact dif_pos text.isValidUTF8
    simp only [lawfulSample, decoded, Option.bind_some]

/-- The sample document is well formed. -/
theorem wellFormed_sampleDocument : sampleDocument.WellFormed Number.Representable := by
  refine .object (List.pairwise_singleton _ _) (List.forall_mem_singleton.mpr (.array ?_))
  rw [List.forall_mem_cons, List.forall_mem_singleton]
  exact ⟨.number (lt_of_lt_of_le (by decide : 7 < 8) (by decide : 8 ≤ 2 ^ 64)), .string _⟩

end CipherSuite

namespace PayloadEncryptor

/-- An encryptor with the all-zero key. -/
def sample : PayloadEncryptor := ⟨List.replicate keySize 0, List.length_replicate⟩

/-- A document with a character that is not ASCII, under the all-zero key and nonce. -/
theorem encrypt_roundTrip_sample :
    CipherSuite.lawfulSample.canonicalJson CipherSuite.sampleDocument = CipherSuite.sampleText ∧
      ∃ encrypted, sample.encrypt CipherSuite.lawfulSample ⟨List.replicate nonceSize 0, rfl⟩
          CipherSuite.sampleDocument none = .ok encrypted ∧
        sample.decrypt CipherSuite.lawfulSample encrypted none =
          .ok CipherSuite.sampleDocument :=
  ⟨by decide +kernel, ((encrypt_roundTrip CipherSuite.lawfulSample_lawful).1
    CipherSuite.sampleDocument CipherSuite.wellFormed_sampleDocument).2.2.2 sample _ none⟩

end PayloadEncryptor

end GuardAgent
