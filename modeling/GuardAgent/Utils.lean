import GuardAgent.Models

/-!
# Backoff, `Retry-After`, response summaries and redaction

Redaction walks a JSON value to a fixed depth and replaces the entries of
sensitive keys. `Value.Within` says which entries that walk can come to. A value is
left unchanged exactly when all of these with a sensitive key are replaced already
(`Redactor.redactValue_eq_self_iff`), and redaction always produces such a value
(`Redactor.redact_redact`).
-/

namespace GuardAgent

/-- `calculate_backoff_delay`: `min(base * 2^attempt, max)`. -/
def calculateBackoffDelay (attempt : ℕ) (base max : ℚ) : ℚ :=
  min (base * 2 ^ attempt) max

/-- `parse_retry_after_seconds`. -/
def parseRetryAfterSeconds (header : Option String) (default : ℚ) : ℚ :=
  match header with
  | none => default
  | some raw =>
      match parseF64 (trim raw) with
      | some (.finite seconds) => max seconds 0
      | _ => default

def maxDetailChars : ℕ := 300

/-- `summarize_response_body`: one line, truncated. -/
def summarizeResponseBody (body : String) : String :=
  let collapsed := " ".intercalate (splitWhitespace body)
  if collapsed.length ≤ maxDetailChars then collapsed
  else takeChars maxDetailChars collapsed ++ "..."

/-- `generate_short_key`, from the clock and the UUID it draws. -/
def generateShortKey (keyPrefix : String) (nanos : ℕ) (uuid : String) : String :=
  s!"{keyPrefix}_{nanos}_{takeChars 8 uuid}"

def maxRedactDepth : ℕ := 10

def redactedPlaceholder : String := "[REDACTED]"

/-- Configured sensitive keys, normalized, with the Unicode lowercase mapping they
are compared under. -/
structure Redactor where
  toLowercase : String → String
  keys : List String

/-- The entry of `key` lies within the first `levels` levels of the value. -/
inductive Value.Within : ℕ → Value → String → Value → Prop where
  | here {levels : ℕ} {entries : List (String × Value)} {key : String} {entry : Value} :
      (key, entry) ∈ entries → Within (levels + 1) (.object entries) key entry
  | inEntry {levels : ℕ} {entries : List (String × Value)} {key other : String}
      {entry inner : Value} : (other, inner) ∈ entries → Within levels inner key entry →
      Within (levels + 1) (.object entries) key entry
  | inItem {levels : ℕ} {items : List Value} {key : String} {entry inner : Value} :
      inner ∈ items → Within levels inner key entry → Within (levels + 1) (.array items) key entry

namespace Redactor

/-- Blank keys are ignored. -/
def new (toLowercase : String → String) (sensitiveKeys : List String) : Redactor where
  toLowercase := toLowercase
  keys := (sensitiveKeys.map fun key => toLowercase (trim key)).filter fun key => !key.isEmpty

variable (redactor : Redactor)

def isSensitive (key : String) : Bool :=
  redactor.keys.contains (redactor.toLowercase (trim key))

mutual

/-- `redact_inner`; `levels` is what is left of `MAX_REDACT_DEPTH`. -/
def redactInner : (levels : ℕ) → Value → Value
  | 0, value => value
  | levels + 1, .object entries => .object (redactEntries levels entries)
  | levels + 1, .array items => .array (redactItems levels items)
  | _ + 1, value => value

/-- The loop over the entries of an object. -/
def redactEntries : (levels : ℕ) → List (String × Value) → List (String × Value)
  | _, [] => []
  | levels, (key, entry) :: rest =>
      (key, if redactor.isSensitive key then .string redactedPlaceholder
        else redactInner levels entry) :: redactEntries levels rest

/-- The loop over the elements of an array. -/
def redactItems : (levels : ℕ) → List Value → List Value
  | _, [] => []
  | levels, item :: rest => redactInner levels item :: redactItems levels rest

end

def redactValue (value : Value) : Value :=
  redactor.redactInner maxRedactDepth value

def redactTags (tags : List (String × String)) : List (String × String) :=
  tags.map fun (key, value) =>
    (key, if redactor.isSensitive key then redactedPlaceholder else value)

private theorem map_eq_self_iff {α : Type} {f : α → α} {list : List α} :
    list.map f = list ↔ ∀ entry ∈ list, f entry = entry := by
  have listed : list.map f = list.map id ↔ ∀ entry ∈ list, f entry = id entry :=
    List.map_inj_left
  rwa [List.map_id] at listed

/-- The members of an object are redacted one by one, and the sensitive ones replaced. -/
theorem redactEntries_eq_map (levels : ℕ) (entries : List (String × Value)) :
    redactor.redactEntries levels entries = entries.map fun entry =>
      (entry.1, if redactor.isSensitive entry.1 then .string redactedPlaceholder
        else redactor.redactInner levels entry.2) := by
  induction entries with
  | nil => rw [redactEntries, List.map_nil]
  | cons entry rest ih => rw [redactEntries, ih, List.map_cons]

/-- The items of an array are redacted one by one. -/
theorem redactItems_eq_map (levels : ℕ) (items : List Value) :
    redactor.redactItems levels items = items.map (redactor.redactInner levels) := by
  induction items with
  | nil => rw [redactItems, List.map_nil]
  | cons item rest ih => rw [redactItems, ih, List.map_cons]

/-- Redacting twice is redacting once. The induction is on the levels. -/
theorem redactInner_redactInner (levels : ℕ) (value : Value) :
    redactor.redactInner levels (redactor.redactInner levels value) =
      redactor.redactInner levels value := by
  induction levels generalizing value with
  | zero => simp only [redactInner]
  | succ levels ih =>
      cases value with
      | object entries =>
          simp only [redactInner, redactEntries_eq_map, List.map_map]
          congr 1
          refine List.map_congr_left fun entry _ => ?_
          by_cases sensitive : redactor.isSensitive entry.1
          · simp only [Function.comp_apply, sensitive, ↓reduceIte]
          · simp only [Function.comp_apply, sensitive, Bool.false_eq_true, ↓reduceIte, ih]
      | array items =>
          simp only [redactInner, redactItems_eq_map, List.map_map]
          congr 1
          exact List.map_congr_left fun item _ => ih item
      | null => simp only [redactInner]
      | bool _ => simp only [redactInner]
      | number _ => simp only [redactInner]
      | string _ => simp only [redactInner]

/-- What redaction leaves unchanged has the placeholder in every sensitive entry within reach. -/
theorem redactInner_eq_self_iff (levels : ℕ) (value : Value) :
    redactor.redactInner levels value = value ↔ ∀ key entry, value.Within levels key entry →
      redactor.isSensitive key → entry = .string redactedPlaceholder := by
  induction levels generalizing value with
  | zero =>
      refine iff_of_true (by simp only [redactInner]) fun key entry within => ?_
      cases within
  | succ levels ih =>
      cases value with
      | object entries =>
          rw [redactInner, redactEntries_eq_map, Value.object.injEq, map_eq_self_iff]
          constructor
          · intro unchanged key entry within sensitive
            cases within with
            | here member =>
                have same := congrArg Prod.snd (unchanged _ member)
                simpa only [sensitive, ↓reduceIte] using same.symm
            | @inEntry _ _ _ other _ inner member within =>
                have same := congrArg Prod.snd (unchanged _ member)
                by_cases covered : redactor.isSensitive other
                · -- Nothing lies below the placeholder.
                  simp only [covered, ↓reduceIte] at same
                  subst same
                  cases within
                · simp only [covered, Bool.false_eq_true, ↓reduceIte] at same
                  exact (ih inner).mp same key entry within sensitive
          · rintro replaced ⟨key, entry⟩ member
            by_cases sensitive : redactor.isSensitive key
            · simp only [sensitive, ↓reduceIte, replaced key entry (.here member) sensitive]
            · simp only [sensitive, Bool.false_eq_true, ↓reduceIte, Prod.mk.injEq, true_and]
              exact (ih entry).mpr fun other inner within =>
                replaced other inner (.inEntry member within)
      | array items =>
          rw [redactInner, redactItems_eq_map, Value.array.injEq, map_eq_self_iff]
          constructor
          · intro unchanged key entry within sensitive
            cases within with
            | inItem member within =>
                exact (ih _).mp (unchanged _ member) key entry within sensitive
          · intro replaced item member
            exact (ih item).mpr fun key entry within => replaced key entry (.inItem member within)
      | null => exact iff_of_true (by simp only [redactInner]) fun _ _ within => by cases within
      | bool _ => exact iff_of_true (by simp only [redactInner]) fun _ _ within => by cases within
      | number _ => exact iff_of_true (by simp only [redactInner]) fun _ _ within => by cases within
      | string _ => exact iff_of_true (by simp only [redactInner]) fun _ _ within => by cases within

/-- **A value is left unchanged exactly when every sensitive entry within the
depth is replaced.** -/
theorem redactValue_eq_self_iff (value : Value) :
    redactor.redactValue value = value ↔ ∀ key entry, value.Within maxRedactDepth key entry →
      redactor.isSensitive key → entry = .string redactedPlaceholder :=
  redactor.redactInner_eq_self_iff maxRedactDepth value

/-- Redaction leaves tags unchanged exactly if the sensitive ones are placeholders. -/
theorem redactTags_eq_self_iff (tags : List (String × String)) :
    redactor.redactTags tags = tags ↔ ∀ tag ∈ tags, redactor.isSensitive tag.1 →
      tag.2 = redactedPlaceholder := by
  rw [redactTags, map_eq_self_iff]
  refine forall₂_congr fun tag _ => ?_
  by_cases sensitive : redactor.isSensitive tag.1
  · simp only [sensitive, ↓reduceIte, forall_const, Prod.ext_iff, true_and]
    exact eq_comm
  · simp only [sensitive, Bool.false_eq_true, ↓reduceIte, false_imp_iff]

/-- `Redactable::redact`. -/
def redact : (kind : Kind) → Telemetry kind → Telemetry kind
  | .events, (event : SecurityEvent) =>
      ({ event with metadata := redactor.redactValue event.metadata } : SecurityEvent)
  | .metrics, (metric : SecurityMetric) =>
      ({ metric with tags := redactor.redactTags metric.tags } : SecurityMetric)

/-- Redacting tags twice is redacting them once. -/
theorem redactTags_redactTags (tags : List (String × String)) :
    redactor.redactTags (redactor.redactTags tags) = redactor.redactTags tags := by
  simp only [redactTags, List.map_map]
  refine List.map_congr_left fun tag _ => ?_
  by_cases sensitive : redactor.isSensitive tag.1
  · simp only [Function.comp_apply, sensitive, ↓reduceIte]
  · simp only [Function.comp_apply, sensitive, Bool.false_eq_true, ↓reduceIte]

/-- **What was redacted is redacted.** -/
theorem redact_redact : (kind : Kind) → (item : Telemetry kind) →
    redactor.redact kind (redactor.redact kind item) = redactor.redact kind item
  | .events, (event : SecurityEvent) =>
      congrArg (fun metadata => ({ event with metadata := metadata } : SecurityEvent))
        (redactor.redactInner_redactInner maxRedactDepth event.metadata)
  | .metrics, (metric : SecurityMetric) =>
      congrArg (fun tags => ({ metric with tags := tags } : SecurityMetric))
        (redactor.redactTags_redactTags metric.tags)

end Redactor

end GuardAgent
