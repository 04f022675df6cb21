import Mathlib.Data.Rat.Defs
import Mathlib.Algebra.Order.Ring.Rat
import Mathlib.Data.List.DropRight

/-!
# Text and floating-point numbers

The `str` methods and the `f64` values the agent uses. Whitespace is Unicode
`White_Space`, as in `str::trim`. A float is an exact rational or one of the three
non-finite values; arithmetic on finite floats is not rounded.
-/

namespace GuardAgent

/-- `char::is_whitespace`. -/
def isWhitespace (c : Char) : Bool :=
  (0x9 ≤ c.toNat && c.toNat ≤ 0xd) || c.toNat == 0x20 || c.toNat == 0x85 || c.toNat == 0xa0 ||
    c.toNat == 0x1680 || (0x2000 ≤ c.toNat && c.toNat ≤ 0x200a) || c.toNat == 0x2028 ||
    c.toNat == 0x2029 || c.toNat == 0x202f || c.toNat == 0x205f || c.toNat == 0x3000

/-- `str::trim`. -/
def trim (text : String) : String :=
  String.ofList ((text.toList.dropWhile isWhitespace).rdropWhile isWhitespace)

/-- `str::trim_end_matches` of one character. -/
def trimEndMatches (text : String) (c : Char) : String :=
  String.ofList (text.toList.rdropWhile (· == c))

/-- `str::starts_with`. -/
def startsWith (text start : String) : Bool :=
  start.toList.isPrefixOf text.toList

/-- `str::strip_prefix`. -/
def stripPrefix (text start : String) : Option String :=
  if startsWith text start then
    some (String.ofList (text.toList.drop start.toList.length))
  else none

/-- `starts_with` finds what a text begins with. -/
theorem startsWith_iff {text start : String} :
    startsWith text start = true ↔ ∃ rest, text = start ++ rest := by
  rw [startsWith, List.isPrefixOf_iff_prefix]
  constructor
  · rintro ⟨rest, split⟩
    refine ⟨String.ofList rest, String.toList_inj.mp ?_⟩
    rw [String.toList_append, String.toList_ofList, split]
  · rintro ⟨rest, rfl⟩
    exact ⟨rest.toList, String.toList_append.symm⟩

/-- `strip_prefix` leaves what follows the prefix. -/
theorem stripPrefix_eq_some {text start rest : String} :
    stripPrefix text start = some rest ↔ text = start ++ rest := by
  have stripped (other : String) :
      String.ofList ((start ++ other).toList.drop start.toList.length) = other := by
    rw [String.toList_append, List.drop_left, String.ofList_toList]
  unfold stripPrefix
  split
  case isTrue starts =>
    obtain ⟨other, rfl⟩ := startsWith_iff.mp starts
    rw [stripped, Option.some_inj, String.append_right_inj]
  case isFalse differs =>
    exact iff_of_false nofun fun split => differs (startsWith_iff.mpr ⟨rest, split⟩)

/-- `str::strip_suffix`. -/
def stripSuffix (text ending : String) : Option String :=
  if ending.toList.isSuffixOf text.toList then
    some (String.ofList (text.toList.take (text.toList.length - ending.toList.length)))
  else none

/-- `str::split_once`, the part after the separator. -/
def afterOnce (separator : List Char) : List Char → Option (List Char)
  | [] => if separator.isEmpty then some [] else none
  | c :: rest =>
      if separator.isPrefixOf (c :: rest) then some ((c :: rest).drop separator.length)
      else afterOnce separator rest

/-- `str::split_whitespace`. -/
def splitWhitespace (text : String) : List String :=
  ((text.toList.splitOnP isWhitespace).filter (!·.isEmpty)).map String.ofList

/-- The first `count` characters. -/
def takeChars (count : ℕ) (text : String) : String :=
  String.ofList (text.toList.take count)

/-- A double-precision value. -/
inductive F64 where
  | finite (value : ℚ)
  | nan
  | infinite (negative : Bool)
  deriving DecidableEq

/-- From this value on, a decimal literal reads as infinity. -/
def f64Overflow : ℚ := 2 ^ 1024 - 2 ^ 970

private def digitsValue (digits : List Char) : ℕ :=
  digits.foldl (fun value digit => 10 * value + (digit.toNat - '0'.toNat)) 0

private def splitSign : List Char → Bool × List Char
  | '-' :: rest => (true, rest)
  | '+' :: rest => (false, rest)
  | rest => (false, rest)

/-- The optional exponent, which ends the literal. -/
private def parseExponent : List Char → Option ℤ
  | [] => some 0
  | c :: rest =>
      if c == 'e' || c == 'E' then
        let (negative, digits) := splitSign rest
        if !digits.isEmpty && digits.all Char.isDigit then
          some (if negative then -(digitsValue digits : ℤ) else digitsValue digits)
        else none
      else none

/-- `str::parse::<f64>`. -/
def parseF64 (text : String) : Option F64 :=
  let (negative, body) := splitSign text.toList
  let lower := body.map Char.toLower
  if lower == "inf".toList || lower == "infinity".toList then some (.infinite negative)
  else if lower == "nan".toList then some .nan
  else
    let whole := body.takeWhile Char.isDigit
    let afterWhole := body.dropWhile Char.isDigit
    let pointed := afterWhole.head? == some '.'
    let fraction := if pointed then afterWhole.tail.takeWhile Char.isDigit else []
    let ending := if pointed then afterWhole.tail.dropWhile Char.isDigit else afterWhole
    if whole.isEmpty && fraction.isEmpty then none
    else (parseExponent ending).map fun exponent =>
      let magnitude : ℚ :=
        (digitsValue (whole ++ fraction) : ℚ) * (10 : ℚ) ^ (exponent - (fraction.length : ℤ))
      if f64Overflow ≤ magnitude then .infinite negative
      else .finite (if negative then -magnitude else magnitude)

end GuardAgent
