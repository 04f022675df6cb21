import GuardAgent.Foundation.Calendar
import GuardAgent.Canonical
import Mathlib.Tactic.IntervalCases

/-!
# Log records

The record formatters of `logging_utils.rs`. The operations on `i64` are checked, so a
result of `asctime` says that none of them overflows. Its fields are those of the one civil
time of the instant (`asctime_civil`). A record in JSON is read as the texts it is made of,
whatever they are (`jsonRecord_faithful`).
-/

namespace GuardAgent

namespace LoggingUtils

open Foundation Calendar

/-- The value is one of an `i64`. -/
def IsI64 (value : ℤ) : Prop := -2 ^ 63 ≤ value ∧ value < 2 ^ 63

instance (value : ℤ) : Decidable (IsI64 value) :=
  inferInstanceAs (Decidable (_ ∧ _))

/-- The result of an operation on `i64`; `none` when it overflows. -/
def i64? (value : ℤ) : Option ℤ :=
  if IsI64 value then some value else none

/-- `u32::try_from`. -/
def u32? (value : ℤ) : Option ℕ :=
  if 0 ≤ value ∧ value < 2 ^ 32 then some value.toNat else none

/-- The year, month and day of `civil_from_days`, before the last two are converted. -/
def civilParts (days : ℤ) : Option (ℤ × ℤ × ℤ) := do
  let z ← i64? (days + 719468)
  let era := z / 146097
  let doe := z % 146097
  let quarters ← i64? (doe - doe.tdiv 1460)
  let centuries ← i64? (quarters + doe.tdiv 36524)
  let years ← i64? (centuries - doe.tdiv 146096)
  let yoe := years.tdiv 365
  let eraStart ← i64? (era * 400)
  let y ← i64? (yoe + eraStart)
  let yearDays ← i64? (365 * yoe)
  let leapYears ← i64? (yearDays + yoe.tdiv 4)
  let yearStart ← i64? (leapYears - yoe.tdiv 100)
  let doy ← i64? (doe - yearStart)
  let fifths ← i64? (5 * doy)
  let shifted ← i64? (fifths + 2)
  let mp := shifted.tdiv 153
  let monthDays ← i64? (153 * mp)
  let rounded ← i64? (monthDays + 2)
  let past ← i64? (doy - rounded.tdiv 5)
  let d ← i64? (past + 1)
  let m ← i64? (if mp < 10 then mp + 3 else mp - 9)
  let year ← i64? (if m ≤ 2 then y + 1 else y)
  some (year, m, d)

def civilFromDays (days : ℤ) : Option (ℤ × ℕ × ℕ) := do
  let (year, m, d) ← civilParts days
  some (year, (u32? m).getD 1, (u32? d).getD 1)

/-- A number filled up with zeros to a width, in which a sign counts. -/
def zeroPadded (width : ℕ) (value : ℤ) : String :=
  let digits := Nat.toDigits 10 value.natAbs
  if value < 0 then String.ofList ('-' :: digits.leftpad (width - 1) '0')
  else String.ofList (digits.leftpad width '0')

/-- The text of a time and its milliseconds. -/
def renderTime (year month day hour minute second : ℤ) (millis : ℕ) : String :=
  zeroPadded 4 year ++ "-" ++ zeroPadded 2 month ++ "-" ++ zeroPadded 2 day ++ " " ++
    zeroPadded 2 hour ++ ":" ++ zeroPadded 2 minute ++ ":" ++ zeroPadded 2 second ++ "," ++
    zeroPadded 3 millis

def asctime (unixSeconds : ℤ) (millis : ℕ) : Option String := do
  let days := unixSeconds / 86400
  let secondsOfDay := unixSeconds % 86400
  let (year, month, day) ← civilFromDays days
  some (renderTime year month day (secondsOfDay.tdiv 3600) ((secondsOfDay.tmod 3600).tdiv 60)
    (secondsOfDay.tmod 60) millis)

/-- How `json_string` writes a character. -/
def jsonEscape (c : Char) : String :=
  if c = '"' then "\\\""
  else if c = '\\' then "\\\\"
  else if c = '\n' then "\\n"
  else if c = '\r' then "\\r"
  else if c = '\t' then "\\t"
  else if c.toNat < 0x20 then "\\u" ++ hex4 c.toNat
  else c.toString

def jsonString (value : String) : String :=
  "\"" ++ String.join (value.toList.map jsonEscape) ++ "\""

def jsonRecord (level logger message timestamp : String) : String :=
  "\x7b\"timestamp\": " ++ jsonString timestamp ++ ", \"level\": " ++ jsonString level ++
    ", \"logger\": " ++ jsonString logger ++ ", \"message\": " ++ jsonString message ++ "\x7d"

section Conversion

/-- Within the range of `i64` the arithmetic goes on. -/
theorem i64?_bind {β : Type} {value : ℤ} (next : ℤ → Option β) (low : -2 ^ 63 ≤ value)
    (high : value < 2 ^ 63) : (i64? value >>= next) = next value := by
  rw [i64?, if_pos ⟨low, high⟩]
  rfl

/-- The year of an era, which begins in March, is the one whose days hold the day. -/
theorem yearOfEra_spec {doe yoe : ℤ} (low : 0 ≤ doe) (high : doe < 146097)
    (is : yoe = (doe - doe / 1460 + doe / 36524 - doe / 146096) / 365) :
    0 ≤ yoe ∧ yoe < 400 ∧ 365 * yoe + yoe / 4 - yoe / 100 ≤ doe ∧
      doe < 365 * (yoe + 1) + (yoe + 1) / 4 - (yoe + 1) / 100 + (yoe + 1) / 400 := by
  -- The two last corrections add up to the number of the century.
  obtain ⟨century, bound, correction⟩ : ∃ century, (0 ≤ century ∧ century ≤ 3) ∧
      doe / 36524 - doe / 146096 = century := ⟨_, by omega, rfl⟩
  have inside : 36524 * century ≤ doe ∧
      doe < 36524 * (century + 1) + (century + 1) / 4 := by omega
  have years : yoe = (doe - doe / 1460 + century) / 365 := by omega
  have hundreds : yoe / 100 = century := by omega
  clear is correction
  have lower : yoe / 4 ≤ doe / 1460 := by omega
  have upper : doe / 1460 ≤ (yoe + 1) / 4 := by omega
  refine ⟨by omega, by omega, by omega, ?_⟩
  by_cases last : yoe + 1 = 100 * (century + 1)
  · have fourths : (yoe + 1) / 4 = 25 * (century + 1) := by omega
    have eras : (yoe + 1) / 400 = (century + 1) / 4 := by omega
    omega
  · have hundreds' : (yoe + 1) / 100 = century := by omega
    omega

/-- All eras have as many days. -/
theorem daysBeforeYear_era (year era : ℤ) : daysBeforeYear (year + era * 400 + 1) =
    146097 * era + (365 * year + year / 4 - year / 100 + year / 400) := by
  have fourths : (year + era * 400) / 4 = year / 4 + 100 * era := by omega
  have hundreds : (year + era * 400) / 100 = year / 100 + 4 * era := by omega
  have eras : (year + era * 400) / 400 = year / 400 + era := by omega
  rw [daysBeforeYear, Int.add_sub_cancel, fourths, hundreds, eras]
  omega

/-- From March on, the months of a year begin on days that do not depend on its length. -/
theorem daysOfMonths_march (year : ℤ) {months : ℕ} (bound : months ≤ 10) :
    daysOfMonths year (months + 2) = 59 + leapDays year + (153 * months + 2) / 5 := by
  interval_cases months <;> simp only [daysOfMonths, monthLength] <;> omega

/-- The day of a year that begins in March, as a date. -/
theorem exists_date {y doy mp : ℤ} (low : 0 ≤ doy) (high : doy < 365 + leapDays (y + 1))
    (is : mp = (5 * doy + 2) / 153) :
    ∃ date : Date, (date.month : ℤ) = (if mp < 10 then mp + 3 else mp - 9) ∧
      date.year = (if (date.month : ℤ) ≤ 2 then y + 1 else y) ∧
      (date.day : ℤ) = doy - (153 * mp + 2) / 5 + 1 ∧
      date.dayNumber = daysBeforeYear (y + 1) - 306 + doy := by
  have leap := leapDays_le (y + 1)
  obtain ⟨index, rfl⟩ : ∃ index : ℕ, mp = index := ⟨mp.toNat, by omega⟩
  have first : (153 * (index : ℤ) + 2) / 5 ≤ doy := by omega
  have last : doy < ((153 * (index + 1) + 2) / 5 : ℕ) := by omega
  obtain ⟨day, isDay⟩ : ∃ day : ℕ, (day : ℤ) = doy - (153 * index + 2) / 5 + 1 :=
    ⟨(doy - (153 * index + 2) / 5 + 1).toNat, by omega⟩
  by_cases march : index < 10
  · have start := daysOfMonths_march y march.le
    have ending : daysOfMonths y (index + 2) + monthLength y (index + 3) =
        59 + leapDays y + (153 * (index + 1) + 2) / 5 :=
      daysOfMonths_march y (Nat.succ_le_of_lt march)
    have year := daysBeforeYear_succ y
    refine ⟨⟨y, index + 3, day, by omega, by omega⟩, ?_, ?_, isDay, ?_⟩
    · rw [if_pos (by omega)]
      rfl
    · rw [if_neg (by push_cast; omega)]
    · rw [Date.dayNumber, Date.dayOfYear]
      change daysBeforeYear y + ((daysOfMonths y (index + 2) + (day - 1) : ℕ) : ℤ) = _
      omega
  · have early : index = 10 ∨ index = 11 := by omega
    rcases early with rfl | rfl
    · refine ⟨⟨y + 1, 1, day, by decide, ?_⟩, rfl, rfl, isDay, ?_⟩
      · change 1 ≤ day ∧ day ≤ 31
        omega
      · rw [Date.dayNumber, Date.dayOfYear]
        change daysBeforeYear (y + 1) + ((0 + (day - 1) : ℕ) : ℤ) = _
        omega
    · refine ⟨⟨y + 1, 2, day, by decide, ?_⟩, rfl, rfl, isDay, ?_⟩
      · change 1 ≤ day ∧ day ≤ 28 + leapDays (y + 1)
        omega
      · rw [Date.dayNumber, Date.dayOfYear]
        change daysBeforeYear (y + 1) + ((0 + 31 + (day - 1) : ℕ) : ℤ) = _
        omega

/-- No operation overflows. -/
theorem civilParts_eq {days era doe yoe doy mp m : ℤ} (low : -2 ^ 62 ≤ days)
    (high : days < 2 ^ 62) (isEra : (days + 719468) / 146097 = era)
    (isDoe : (days + 719468) % 146097 = doe)
    (isYoe : (doe - doe / 1460 + doe / 36524 - doe / 146096) / 365 = yoe)
    (isDoy : doe - (365 * yoe + yoe / 4 - yoe / 100) = doy) (isMp : (5 * doy + 2) / 153 = mp)
    (isM : (if mp < 10 then mp + 3 else mp - 9) = m) :
    civilParts days =
      some (if m ≤ 2 then yoe + era * 400 + 1 else yoe + era * 400, m,
        doy - (153 * mp + 2) / 5 + 1) := by
  have doeLow : 0 ≤ doe := by omega
  have doeHigh : doe < 146097 := by omega
  obtain ⟨yoeLow, yoeHigh, begun, unfinished⟩ := yearOfEra_spec doeLow doeHigh isYoe.symm
  have doyLow : 0 ≤ doy := by omega
  have doyHigh : doy < 366 := by omega
  have yearsLow : 0 ≤ doe - doe / 1460 + doe / 36524 - doe / 146096 := by omega
  clear begun unfinished
  have mpLow : 0 ≤ mp := by omega
  have mpHigh : mp < 12 := by omega
  unfold civilParts
  rw [i64?_bind _ (by omega) (by omega)]
  simp only [isEra, isDoe, Int.tdiv_eq_ediv_of_nonneg doeLow]
  rw [i64?_bind _ (by omega) (by omega), i64?_bind _ (by omega) (by omega),
    i64?_bind _ (by omega) (by omega)]
  simp only [Int.tdiv_eq_ediv_of_nonneg yearsLow, isYoe, Int.tdiv_eq_ediv_of_nonneg yoeLow]
  rw [i64?_bind _ (by omega) (by omega), i64?_bind _ (by omega) (by omega),
    i64?_bind _ (by omega) (by omega), i64?_bind _ (by omega) (by omega),
    i64?_bind _ (by omega) (by omega), isDoy, i64?_bind _ (by omega) (by omega),
    i64?_bind _ (by omega) (by omega), i64?_bind _ (by omega) (by omega)]
  simp only [Int.tdiv_eq_ediv_of_nonneg (by omega : 0 ≤ 5 * doy + 2), isMp]
  rw [i64?_bind _ (by omega) (by omega), i64?_bind _ (by omega) (by omega)]
  simp only [Int.tdiv_eq_ediv_of_nonneg (by omega : 0 ≤ 153 * mp + 2)]
  rw [i64?_bind _ (by omega) (by omega), i64?_bind _ (by omega) (by omega), isM,
    i64?_bind _ (by omega) (by omega), i64?_bind _ (by omega) (by omega)]

/-- The parts are those of a date. -/
theorem exists_civilParts {days : ℤ} (low : -2 ^ 62 ≤ days) (high : days < 2 ^ 62) :
    ∃ date : Date, civilParts days = some (date.year, (date.month : ℤ), (date.day : ℤ)) ∧
      date.dayNumber = days + Date.unixEpoch.dayNumber := by
  obtain ⟨era, isEra⟩ : ∃ era, (days + 719468) / 146097 = era := ⟨_, rfl⟩
  obtain ⟨doe, isDoe⟩ : ∃ doe, (days + 719468) % 146097 = doe := ⟨_, rfl⟩
  obtain ⟨yoe, isYoe⟩ :
      ∃ yoe, (doe - doe / 1460 + doe / 36524 - doe / 146096) / 365 = yoe := ⟨_, rfl⟩
  obtain ⟨doy, isDoy⟩ : ∃ doy, doe - (365 * yoe + yoe / 4 - yoe / 100) = doy := ⟨_, rfl⟩
  have parts := civilParts_eq low high isEra isDoe isYoe isDoy rfl rfl
  obtain ⟨yoeLow, yoeHigh, begun, unfinished⟩ :=
    yearOfEra_spec (by omega) (by omega) isYoe.symm
  have start := daysBeforeYear_era yoe era
  have ending := daysBeforeYear_era (yoe + 1) era
  rw [Int.ediv_eq_zero_of_lt yoeLow yoeHigh] at start
  rw [Int.add_right_comm yoe, daysBeforeYear_succ] at ending
  obtain ⟨date, month, year, day, number⟩ :=
    @exists_date (yoe + era * 400) doy _ (by omega) (by omega) rfl
  rw [← month, ← year, ← day] at parts
  refine ⟨date, parts, ?_⟩
  have epoch : Date.unixEpoch.dayNumber = 719162 := rfl
  omega

/-- A small natural number is a `u32`. -/
theorem u32?_natCast {value : ℕ} (small : value < 2 ^ 32) : u32? (value : ℤ) = some value := by
  rw [u32?, if_pos (by omega), Int.toNat_natCast]

/-- No month has more than 31 days. -/
theorem monthLength_le (year : ℤ) (month : ℕ) : monthLength year month ≤ 31 := by
  have leap := leapDays_le year
  unfold monthLength
  split <;> omega

/-- The time of a second. -/
theorem exists_dateTime (date : Date) {days unixSeconds : ℤ} (isDays : unixSeconds / 86400 = days)
    (number : date.dayNumber = days + Date.unixEpoch.dayNumber) :
    ∃ time : DateTime, time.toDate = date ∧ time.unixSeconds = unixSeconds ∧
      (time.hour : ℤ) = (unixSeconds % 86400).tdiv 3600 ∧
      (time.minute : ℤ) = ((unixSeconds % 86400).tmod 3600).tdiv 60 ∧
      (time.second : ℤ) = (unixSeconds % 86400).tmod 60 := by
  obtain ⟨second, isSecond⟩ : ∃ second : ℕ, (second : ℤ) = unixSeconds % 86400 :=
    ⟨(unixSeconds % 86400).toNat, by omega⟩
  have bound : second < 86400 := by omega
  refine ⟨⟨date, second / 3600, second % 3600 / 60, second % 60, by omega, by omega, by omega⟩,
    rfl, ?_, ?_, ?_, ?_⟩
  · rw [DateTime.unixSeconds, DateTime.secondOfDay]
    change (date.dayNumber - Date.unixEpoch.dayNumber) * 86400 +
      ((3600 * (second / 3600) + 60 * (second % 3600 / 60) + second % 60 : ℕ) : ℤ) = unixSeconds
    rw [number]
    omega
  · rw [← isSecond]
    rfl
  · rw [← isSecond]
    rfl
  · rw [← isSecond]
    rfl

/-- **The calendar conversion.** For every second of an `i64`, no operation overflows and no
conversion falls back; and the fields that are rendered are those of a date and time of the
proleptic Gregorian calendar, which is the one of that second. -/
theorem asctime_civil (unixSeconds : ℤ) (inRange : IsI64 unixSeconds) (millis : ℕ) :
    ∃ time : DateTime,
      asctime unixSeconds millis = some (renderTime time.year time.month time.day time.hour
        time.minute time.second millis) ∧
      (∃ m d, civilParts (unixSeconds / 86400) = some (time.year, m, d) ∧
        u32? m = some time.month ∧ u32? d = some time.day) ∧
      time.unixSeconds = unixSeconds ∧
      ∀ other : DateTime, other.unixSeconds = unixSeconds → other = time := by
  obtain ⟨low, high⟩ := inRange
  obtain ⟨date, parts, number⟩ :=
    @exists_civilParts (unixSeconds / 86400) (by omega) (by omega)
  obtain ⟨time, rfl, second, hour, minute, secondOfMinute⟩ := exists_dateTime date rfl number
  have month : u32? time.month = some time.month := u32?_natCast (by
    have := time.month_range
    omega)
  have day : u32? time.day = some time.day := u32?_natCast (by
    have := time.day_range
    have := monthLength_le time.year time.month
    omega)
  have converted :
      civilFromDays (unixSeconds / 86400) = some (time.year, time.month, time.day) := by
    rw [civilFromDays, parts]
    simp only [Option.bind_eq_bind, Option.bind_some, month, day, Option.getD_some]
  refine ⟨time, ?_, ⟨time.month, time.day, parts, month, day⟩, second, fun other same =>
    DateTime.unixSeconds_injective (same.trans second.symm)⟩
  rw [asctime, converted, hour, minute, secondOfMinute]
  rfl

/-- The first second of an `i64`. -/
theorem asctime_civil_first : ∃ time : DateTime, time.unixSeconds = -2 ^ 63 ∧
    asctime (-2 ^ 63) 0 = some (renderTime time.year time.month time.day time.hour
      time.minute time.second 0) ∧
    asctime (-2 ^ 63) 0 = some "-292277022657-01-27 08:29:52,000" := by
  obtain ⟨time, rendered, -, second, -⟩ := asctime_civil (-2 ^ 63) (by decide) 0
  exact ⟨time, second, rendered, by decide +kernel⟩

/-- A leap day. -/
example : asctime 1709164800 1 = some "2024-02-29 00:00:00,001" := by decide +kernel

end Conversion

section Records

open JsonText

/-- The rendering of log records; there are no numbers in them. -/
def recordWriter : Writer where
  escape c := (jsonEscape c).toList
  number _ := []

/-- A character is written by an escape of two characters, by its code or as it is. -/
theorem jsonEscape_cases (c : Char) :
    (∃ escape, shortEscape escape = some c ∧ IsPrintable escape ∧ escape ≠ 'u' ∧
      (jsonEscape c).toList = ['\\', escape]) ∨
    (c.toNat < 0x20 ∧ jsonEscape c = "\\u" ++ hex4 c.toNat) ∨
    (0x20 ≤ c.toNat ∧ c ≠ '\\' ∧ c ≠ '"' ∧ (jsonEscape c).toList = [c]) := by
  by_cases quote : c = '"'
  · subst quote
    exact .inl ⟨'"', rfl, by decide, by decide, rfl⟩
  by_cases backslash : c = '\\'
  · subst backslash
    exact .inl ⟨'\\', rfl, by decide, by decide, rfl⟩
  by_cases lineFeed : c = '\n'
  · subst lineFeed
    exact .inl ⟨'n', rfl, by decide, by decide, rfl⟩
  by_cases carriageReturn : c = '\r'
  · subst carriageReturn
    exact .inl ⟨'r', rfl, by decide, by decide, rfl⟩
  by_cases tab : c = '\t'
  · subst tab
    exact .inl ⟨'t', rfl, by decide, by decide, rfl⟩
  rw [jsonEscape, if_neg quote, if_neg backslash, if_neg lineFeed, if_neg carriageReturn,
    if_neg tab]
  by_cases control : c.toNat < 0x20
  · exact .inr (.inl ⟨control, if_pos control⟩)
  · rw [if_neg control]
    exact .inr (.inr ⟨not_lt.mp control, backslash, quote, toList_toString c⟩)

/-- The escapes of a record read back. -/
theorem escapes_recordWriter : recordWriter.Escapes := by
  intro c rest
  change readChar ((jsonEscape c).toList ++ rest) = some (c, rest)
  rcases jsonEscape_cases c with ⟨escape, short, -, other, written⟩ | ⟨control, written⟩ |
    ⟨visible, backslash, quote, written⟩
  · rw [written]
    exact readChar_short short other rest
  · rw [written, toList_code]
    exact readChar_unicode (readUnicode_basic (by omega) rest)
  · rw [written]
    exact readChar_plain backslash quote visible rest

/-- No escape has a control character. -/
theorem jsonEscape_visible (c : Char) : ∀ d ∈ (jsonEscape c).toList, 0x20 ≤ d.toNat := by
  rcases jsonEscape_cases c with ⟨escape, -, printable, -, written⟩ | ⟨control, written⟩ |
    ⟨visible, -, -, written⟩
  · rw [written, List.forall_mem_cons, List.forall_mem_singleton]
    exact ⟨by decide, printable.1⟩
  · have code := toList_code c.toNat []
    rw [List.append_nil, List.append_nil] at code
    rw [written, code, List.forall_mem_cons, List.forall_mem_cons]
    exact ⟨by decide, by decide, fun d member => (isPrintable_hex4 (by omega) d member).1⟩
  · rw [written]
    exact List.forall_mem_singleton.mpr visible

/-- A JSON string is written as the writer writes it. -/
theorem toList_jsonString (value : String) :
    (jsonString value).toList = recordWriter.writeString value.toList := by
  have quote : ("\"" : String).toList = ['"'] := rfl
  rw [jsonString, String.toList_append, String.toList_append, String.toList_join,
    List.flatMap_map, quote, Writer.writeString]
  rfl

/-- No string of a record has a control character. -/
theorem visible_writeString (text : String) :
    ∀ c ∈ recordWriter.writeString text.toList, 0x20 ≤ c.toNat :=
  forall_writeString (by decide) jsonEscape_visible text.toList

/-- The members of a record after one of them, with its separators. -/
def writeFields : List (String × String) → List Char
  | [] => ['\x7d']
  | (key, value) :: fields =>
      ',' :: ' ' :: (recordWriter.writeString key.toList ++
        ':' :: ' ' :: (recordWriter.writeString value.toList ++ writeFields fields))

/-- No field of a record has a control character. -/
theorem visible_writeFields (fields : List (String × String)) :
    ∀ c ∈ writeFields fields, 0x20 ≤ c.toNat := by
  induction fields with
  | nil => exact List.forall_mem_singleton.mpr (by decide)
  | cons field fields ih =>
      obtain ⟨key, value⟩ := field
      simp only [writeFields, List.forall_mem_cons, List.forall_mem_append]
      exact ⟨by decide, by decide, visible_writeString key, by decide, by decide,
        visible_writeString value, ih⟩

variable {readNumber : String → Option Number} {fuel : ℕ} {levels : Option ℕ} {rest : List Char}

/-- A value that is a string is read after a space. -/
theorem readValue_string (value : String) :
    readValue readNumber (fuel + 1) levels
        (' ' :: (recordWriter.writeString value.toList ++ rest)) =
      some (.string value, rest) := by
  have spaced : skipSpace (' ' :: (recordWriter.writeString value.toList ++ rest)) =
      recordWriter.writeString value.toList ++ rest := rfl
  have token := @readToken_string readNumber rest recordWriter escapes_recordWriter value
  rw [readValue, spaced]
  exact token

/-- The members that are read of a written object. -/
def stringMembers (fields : List (String × String)) : List (String × Value) :=
  fields.map fun field => (field.1, .string field.2)

/-- A field with a space after its colon is read as its key and value. -/
theorem readMember_field (key value : String) :
    readMember (readValue readNumber (fuel + 1) levels)
        (recordWriter.writeString key.toList ++
          ':' :: ' ' :: (recordWriter.writeString value.toList ++ rest)) =
      some ((key, .string value), rest) := by
  have read : readValue readNumber (fuel + 1) levels
      (' ' :: (recordWriter.writeString value.toList ++ rest)) =
        if fits levels 0 then some (.string value, rest) else none := by
    rw [fits_zero]
    exact readValue_string value
  rw [readMember_write escapes_recordWriter key read, fits_zero]
  rfl

/-- The fields are read in their order. -/
theorem readMembers_fields (fields : List (String × String)) (enough : fields.length < fuel) :
    readMembers readNumber fuel levels (writeFields fields ++ rest) =
      some (stringMembers fields, rest) := by
  induction fields generalizing fuel with
  | nil =>
      cases fuel with
      | zero => cases enough
      | succ fuel => exact readMembers_close
  | cons field fields ih =>
      obtain ⟨key, value⟩ := field
      obtain ⟨fuel, rfl⟩ : ∃ less, fuel = less + 1 + 1 := ⟨fuel - 2, by
        rw [List.length_cons] at enough
        omega⟩
      have spaced (text : List Char) : readMember (readValue readNumber (fuel + 1) levels)
          (' ' :: text) = readMember (readValue readNumber (fuel + 1) levels) text := rfl
      simp only [writeFields, List.cons_append, List.append_assoc, readMembers_comma, spaced,
        readMember_field, Option.bind_some]
      rw [ih (Nat.lt_of_succ_lt_succ enough)]
      rfl

/-- A record is an object of its fields. -/
theorem toList_jsonRecord (level logger message timestamp : String) :
    (jsonRecord level logger message timestamp).toList =
      '\x7b' :: (recordWriter.writeString "timestamp".toList ++
        ':' :: ' ' :: (recordWriter.writeString timestamp.toList ++
          writeFields [("level", level), ("logger", logger), ("message", message)])) := by
  have joined (first second third fourth fifth : String) :
      (first ++ jsonString timestamp ++ second ++ jsonString level ++ third ++
        jsonString logger ++ fourth ++ jsonString message ++ fifth).toList =
      first.toList ++ (recordWriter.writeString timestamp.toList ++ (second.toList ++
        (recordWriter.writeString level.toList ++ (third.toList ++
          (recordWriter.writeString logger.toList ++ (fourth.toList ++
            (recordWriter.writeString message.toList ++ fifth.toList))))))) := by
    simp only [String.toList_append, toList_jsonString, List.append_assoc]
  exact joined _ _ _ _ _

/-- The members of a record are parsed as its four fields. -/
theorem parseMembers_jsonRecord (level logger message timestamp : String) :
    parseMembers readNumber levels (jsonRecord level logger message timestamp) =
      if fits levels 1 then some (stringMembers [("timestamp", timestamp), ("level", level),
        ("logger", logger), ("message", message)]) else none := by
  rw [← @String.ofList_toList (jsonRecord level logger message timestamp), toList_jsonRecord,
    parseMembers_object rfl (by nofun), fits_succ]
  cases descend levels with
  | none => rfl
  | some inner =>
      generalize size : (recordWriter.writeString "timestamp".toList ++
        ':' :: ' ' :: (recordWriter.writeString timestamp.toList ++
          writeFields [("level", level), ("logger", logger), ("message", message)])).length = length
      have enough : 3 < length + 1 := by
        rw [← size]
        simp only [List.length_append, List.length_cons, writeFields]
        omega
      have rest := @readMembers_fields readNumber (length + 1) inner []
        [("level", level), ("logger", logger), ("message", message)] enough
      rw [List.append_nil] at rest
      simp only [Option.bind_some, readMember_field, rest, Option.any_some, fits_zero, ↓reduceIte]
      rfl

/-- **Records are not forged.** Whatever texts a record is made of, no character of it is a
control character, it is read as an object of the four members in their order, with these
texts, and so it determines them. -/
theorem jsonRecord_faithful :
    (∀ level logger message timestamp : String,
      (∀ c ∈ (jsonRecord level logger message timestamp).toList, 0x20 ≤ c.toNat) ∧
      ∀ (readNumber : String → Option Number) (levels : Option ℕ),
        parseMembers readNumber levels (jsonRecord level logger message timestamp) =
          if fits levels 1 then some [("timestamp", .string timestamp), ("level", .string level),
            ("logger", .string logger), ("message", .string message)] else none) ∧
    Function.Injective fun record : String × String × String × String =>
      jsonRecord record.1 record.2.1 record.2.2.1 record.2.2.2 := by
  refine ⟨fun level logger message timestamp => ⟨?_, fun readNumber levels =>
    parseMembers_jsonRecord level logger message timestamp⟩, ?_⟩
  · rw [toList_jsonRecord]
    simp only [List.forall_mem_cons, List.forall_mem_append]
    exact ⟨by decide, visible_writeString _, by decide, by decide, visible_writeString _,
      visible_writeFields _⟩
  · rintro ⟨level, logger, message, timestamp⟩ ⟨level', logger', message', timestamp'⟩ same
    have read := @parseMembers_jsonRecord (fun _ => none) none level logger message timestamp
    have read' := @parseMembers_jsonRecord (fun _ => none) none level' logger' message' timestamp'
    have members := read.symm.trans ((congrArg _ same).trans read')
    obtain ⟨rfl, rfl, rfl, rfl⟩ : timestamp = timestamp' ∧ level = level' ∧ logger = logger' ∧
        message = message' := by
      simpa only [stringMembers, fits, Option.all_none, ↓reduceIte, List.map_cons, List.map_nil,
        Option.some.injEq, List.cons.injEq, Prod.mk.injEq, Value.string.injEq, true_and,
        and_true] using members
    rfl

end Records

end LoggingUtils

end GuardAgent
