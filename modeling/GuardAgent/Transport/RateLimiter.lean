import GuardAgent.Foundation.Object
import Mathlib.Data.List.MinMax
import Mathlib.Tactic.Linarith

/-!
# The rate limiter

The limiter records the calls it admits and forgets them when they leave the window. It is
a sliding-window limiter (`RateLimiter.sliding_window`).
-/

namespace GuardAgent

open Foundation

/-- `RateLimiter`. -/
structure RateLimiter where
  maxCalls : ℕ
  timeWindow : ℚ
  calls : List ℚ

/-- The calls of a limiter. -/
inductive LimiterCall where
  | acquire
  | retryAfter
  deriving DecidableEq

/-- What a limiter answers to a call. -/
inductive LimiterAnswer where
  | acquired (granted : Bool)
  | seconds (wait : ℚ)
  deriving DecidableEq

namespace RateLimiter

def new (maxCalls : ℕ) (timeWindow : ℚ) : RateLimiter := ⟨maxCalls, timeWindow, []⟩

variable (now : ℚ) (limiter : RateLimiter)

/-- The recorded calls that are still in the window. -/
def recent : List ℚ := limiter.calls.filter fun call => now - call < limiter.timeWindow

def acquire : Bool × RateLimiter :=
  let calls := limiter.recent now
  if calls.length < limiter.maxCalls then (true, { limiter with calls := calls ++ [now] })
  else (false, { limiter with calls := calls })

def retryAfter : ℚ :=
  match limiter.calls.min? with
  | none => 0
  | some oldest => max (limiter.timeWindow - (now - oldest)) 0

/-- The limiter as an object that answers timed calls. -/
def object : Object RateLimiter (Timed LimiterCall) LimiterAnswer where
  perform limiter call :=
    match call.2 with
    | .acquire => (.acquired (limiter.acquire call.1).1, (limiter.acquire call.1).2)
    | .retryAfter => (.seconds (limiter.retryAfter call.1), limiter)

/-- The times of the acquires a limiter admits, in order. -/
def admissions (limiter : RateLimiter) : List (Timed LimiterCall) → List ℚ
  | [] => []
  | call :: history =>
      let (answer, next) := object.perform limiter call
      if answer = .acquired true then call.1 :: admissions next history
      else admissions next history

variable {maxCalls : ℕ} {timeWindow : ℚ} {past : List (Timed LimiterCall)}

/-- Later admissions are counted from the limiter that the earlier calls left. -/
theorem admissions_append (limiter : RateLimiter) (past future : List (Timed LimiterCall)) :
    limiter.admissions (past ++ future) =
      limiter.admissions past ++ (object.replay limiter past).admissions future := by
  induction past generalizing limiter with
  | nil => rfl
  | cons call past ih =>
      simp only [List.cons_append, admissions, object.replay_cons]
      split
      · rw [ih, List.cons_append]
      · rw [ih]

/-- An admitted acquire is one of the calls. -/
theorem mem_of_mem_admissions {limiter : RateLimiter} {history : List (Timed LimiterCall)}
    {time : ℚ} (member : time ∈ limiter.admissions history) :
    ∃ call ∈ history, call.1 = time := by
  induction history generalizing limiter with
  | nil => cases member
  | cons call history ih =>
      simp only [admissions] at member
      split at member
      · rcases List.mem_cons.mp member with rfl | later
        · exact ⟨call, List.mem_cons_self, rfl⟩
        · obtain ⟨other, inside, same⟩ := ih later
          exact ⟨other, List.mem_cons_of_mem _ inside, same⟩
      · obtain ⟨other, inside, same⟩ := ih member
        exact ⟨other, List.mem_cons_of_mem _ inside, same⟩

/-- What the limiter has recorded after the calls of a history, and how many acquires it has
admitted within any window. -/
structure Tracks (maxCalls : ℕ) (timeWindow : ℚ) (past : List (Timed LimiterCall))
    (limiter : RateLimiter) : Prop where
  maxCalls_eq : limiter.maxCalls = maxCalls
  timeWindow_eq : limiter.timeWindow = timeWindow
  bounded : limiter.calls.length ≤ maxCalls
  recent : ∀ now, (∀ call ∈ past, call.1 ≤ now) →
    limiter.recent now = ((new maxCalls timeWindow).admissions past).filter
      fun time => now - time < timeWindow
  within : ∀ window : ℚ → Bool,
    (∀ first second, window first = true → window second = true → second - first < timeWindow) →
    (((new maxCalls timeWindow).admissions past).filter window).length ≤ maxCalls

/-- Pruning at one time loses nothing of a later window. -/
theorem recent_recent (limiter : RateLimiter) {earlier now : ℚ} (passed : earlier ≤ now) :
    ((limiter.recent earlier).filter fun call => now - call < limiter.timeWindow) =
      limiter.recent now := by
  rw [recent, List.filter_filter]
  apply List.filter_congr
  intro call _
  rw [Bool.eq_iff_iff]
  simp only [Bool.and_eq_true, decide_eq_true_eq]
  exact ⟨fun both => both.1, fun inside => ⟨inside, by linarith⟩⟩

namespace Tracks

variable {limiter : RateLimiter} {now : ℚ}

/-- Asking how long to wait changes nothing that is tracked. -/
theorem waited (tracked : Tracks maxCalls timeWindow past limiter) (now : ℚ) :
    Tracks maxCalls timeWindow (past ++ [(now, .retryAfter)]) limiter := by
  have same : (new maxCalls timeWindow).admissions (past ++ [(now, .retryAfter)]) =
      (new maxCalls timeWindow).admissions past := by
    rw [admissions_append]
    exact List.append_nil _
  refine ⟨tracked.maxCalls_eq, tracked.timeWindow_eq, tracked.bounded, ?_, ?_⟩
  · intro time passed
    rw [same]
    exact tracked.recent time fun call member => passed call (List.mem_append_left _ member)
  · rw [same]
    exact tracked.within

/-- An acquire is admitted when fewer than `maxCalls` are recorded in the window. Any window
that contains it contains no others than these. -/
theorem admitted (tracked : Tracks maxCalls timeWindow past limiter)
    (later : ∀ call ∈ past, call.1 ≤ now)
    (grown : (new maxCalls timeWindow).admissions (past ++ [(now, .acquire)]) =
      (new maxCalls timeWindow).admissions past ++ [now])
    (room : (limiter.recent now).length < maxCalls) :
    Tracks maxCalls timeWindow (past ++ [(now, .acquire)])
      { limiter with calls := limiter.recent now ++ [now] } := by
  have kept := tracked.recent now later
  refine ⟨tracked.maxCalls_eq, tracked.timeWindow_eq, ?_, ?_, ?_⟩
  · rw [List.length_append, List.length_singleton]
    exact room
  · intro time passed
    have reached : now ≤ time :=
      passed (now, .acquire) (List.mem_append_right _ (List.mem_singleton_self _))
    have before := tracked.recent time
      fun call member => passed call (List.mem_append_left _ member)
    rw [grown, List.filter_append, ← before, ← limiter.recent_recent reached,
      ← tracked.timeWindow_eq]
    exact List.filter_append ..
  · intro window narrow
    rw [grown, List.filter_append]
    by_cases inside : window now = true
    · have others : (((new maxCalls timeWindow).admissions past).filter window).Sublist
          (limiter.recent now) := by
        rw [kept]
        apply List.monotone_filter_right
        intro time there
        exact decide_eq_true (narrow time now there inside)
      have counted := others.length_le
      rw [List.filter_cons_of_pos inside, List.filter_nil, List.length_append,
        List.length_singleton]
      omega
    · rw [List.filter_cons_of_neg inside, List.filter_nil, List.append_nil]
      exact tracked.within window narrow

/-- A refused acquire only prunes. -/
theorem refused (tracked : Tracks maxCalls timeWindow past limiter)
    (same : (new maxCalls timeWindow).admissions (past ++ [(now, .acquire)]) =
      (new maxCalls timeWindow).admissions past) :
    Tracks maxCalls timeWindow (past ++ [(now, .acquire)])
      { limiter with calls := limiter.recent now } := by
  refine ⟨tracked.maxCalls_eq, tracked.timeWindow_eq, ?_, ?_, ?_⟩
  · exact (List.length_filter_le _ _).trans tracked.bounded
  · intro time passed
    have reached : now ≤ time :=
      passed (now, .acquire) (List.mem_append_right _ (List.mem_singleton_self _))
    have before := tracked.recent time
      fun call member => passed call (List.mem_append_left _ member)
    rw [same, ← before]
    exact limiter.recent_recent reached
  · rw [same]
    exact tracked.within

end Tracks

/-- The limiter tracks the acquires it admits, over calls at nondecreasing times. -/
theorem tracks (maxCalls : ℕ) (timeWindow : ℚ) (history : List (Timed LimiterCall))
    (ordered : InOrder history) :
    Tracks maxCalls timeWindow history (object.replay (new maxCalls timeWindow) history) := by
  induction history using List.reverseRecOn with
  | nil => exact ⟨rfl, rfl, Nat.zero_le _, fun _ _ => rfl, fun _ _ => Nat.zero_le _⟩
  | append_singleton past call ih =>
      have tracked := ih (ordered.sublist (List.sublist_append_left _ _))
      have later := ordered.last_le
      obtain ⟨now, call⟩ := call
      have grown := admissions_append (new maxCalls timeWindow) past [(now, call)]
      rw [object.replay_concat]
      generalize object.replay (new maxCalls timeWindow) past = limiter at tracked grown
      cases call with
      | retryAfter => exact tracked.waited now
      | acquire =>
          change Tracks _ _ _ (limiter.acquire now).2
          by_cases room : (limiter.recent now).length < limiter.maxCalls
          · simp only [admissions, object, acquire, room, ↓reduceIte] at grown
            rw [acquire, if_pos room]
            rw [tracked.maxCalls_eq] at room
            exact tracked.admitted later grown room
          · simp [admissions, object, acquire, room] at grown
            rw [acquire, if_neg room]
            exact tracked.refused grown

/-- A limiter that refused admits the next acquire made when it said. -/
theorem acquire_of_waited {limiter : RateLimiter} (positive : 1 ≤ limiter.maxCalls)
    (bounded : limiter.calls.length ≤ limiter.maxCalls)
    {asked now : ℚ} (waited : asked + limiter.retryAfter asked ≤ now) :
    (limiter.acquire now).1 = true := by
  have room : (limiter.recent now).length < limiter.maxCalls := by
    cases least : limiter.calls.min? with
    | none =>
        rw [recent, List.min?_eq_none_iff.mp least]
        exact positive
    | some oldest =>
        have member := List.min?_mem least
        rw [retryAfter, least] at waited
        have long := le_max_left (limiter.timeWindow - (asked - oldest)) 0
        have gone : ¬ now - oldest < limiter.timeWindow := by
          dsimp only at waited
          linarith
        have fewer : (limiter.recent now).length < limiter.calls.length := by
          apply List.length_filter_lt_length_iff_exists.mpr
          exact ⟨oldest, member, by simpa using gone⟩
        omega
  rw [acquire, if_pos room]

/-- Asking how long to wait changes nothing. -/
theorem replay_retryAfter (limiter : RateLimiter) {waits : List (Timed LimiterCall)}
    (only : ∀ call ∈ waits, call.2 = .retryAfter) : object.replay limiter waits = limiter := by
  induction waits with
  | nil => rfl
  | cons call waits ih =>
      obtain ⟨now, call⟩ := call
      obtain rfl : call = .retryAfter := only (now, call) List.mem_cons_self
      exact ih fun call member => only call (List.mem_cons_of_mem _ member)

/-- **A sliding window.** No half-open interval as long as the window contains more than
`maxCalls` admitted acquires; an acquire is refused only when the window before it holds
exactly `maxCalls`; and who is refused and waits as long as told is admitted, unless others
acquire in between. -/
theorem sliding_window (maxCalls : ℕ) (timeWindow : ℚ) (positive : 1 ≤ maxCalls)
    (past : List (Timed LimiterCall)) (ordered : InOrder past) :
    let limiter := object.replay (new maxCalls timeWindow) past
    let admissions := (new maxCalls timeWindow).admissions past
    (∀ start, (admissions.filter fun time =>
        start ≤ time ∧ time < start + timeWindow).length ≤ maxCalls ∧
      (admissions.filter fun time =>
        start < time ∧ time ≤ start + timeWindow).length ≤ maxCalls) ∧
    ∀ now, (∀ call ∈ past, call.1 ≤ now) → (limiter.acquire now).1 = false →
      (admissions.filter fun time => now - timeWindow < time ∧ time ≤ now).length = maxCalls ∧
      ∀ waits, (∀ call ∈ waits, call.2 = .retryAfter) →
        let refused := object.replay (limiter.acquire now).2 waits
        ∀ asked later, asked + refused.retryAfter asked ≤ later →
          (refused.acquire later).1 = true := by
  intro limiter admissions
  have tracked := tracks maxCalls timeWindow past ordered
  refine ⟨fun start => ⟨?_, ?_⟩, fun now later full => ?_⟩
  · apply tracked.within
    intro first second inside inside'
    simp only [decide_eq_true_eq] at inside inside'
    linarith
  · apply tracked.within
    intro first second inside inside'
    simp only [decide_eq_true_eq] at inside inside'
    linarith
  have refused : ¬ (limiter.recent now).length < limiter.maxCalls := by
    intro room
    rw [acquire, if_pos room] at full
    cases full
  have pruned : (limiter.acquire now).2 = { limiter with calls := limiter.recent now } := by
    rw [acquire, if_neg refused]
  have few : (limiter.recent now).length ≤ maxCalls :=
    (List.length_filter_le _ _).trans tracked.bounded
  constructor
  · have window : admissions.filter (fun time => now - timeWindow < time ∧ time ≤ now) =
        limiter.recent now := by
      rw [tracked.recent now later]
      apply List.filter_congr
      intro time member
      obtain ⟨call, inside, same⟩ := mem_of_mem_admissions member
      have passed := later call inside
      rw [Bool.eq_iff_iff]
      simp only [decide_eq_true_eq]
      constructor
      · intro both
        linarith [both.1]
      · intro recently
        exact ⟨by linarith, by linarith⟩
    rw [window]
    rw [tracked.maxCalls_eq] at refused
    omega
  · intro waits only
    rw [replay_retryAfter _ only, pruned]
    intro refused asked later waited
    apply acquire_of_waited
    · exact positive.trans_eq tracked.maxCalls_eq.symm
    · exact few.trans_eq tracked.maxCalls_eq.symm
    · exact waited

/-- Two calls a minute: the third waits until the first is a minute old. -/
theorem sliding_window_two :
    let limiter := object.replay (new 2 60) [(0, .acquire), (10, .acquire)]
    let refused := (limiter.acquire 30).2
    (limiter.acquire 30).1 = false ∧ refused.retryAfter 31 = 29 ∧
      (refused.acquire 60).1 = true := by
  intro limiter refused
  have slides := sliding_window 2 60 (by decide) [(0, .acquire), (10, .acquire)]
    (by unfold InOrder; decide +kernel)
  have full : (limiter.acquire 30).1 = false := by decide +kernel
  have waits := (slides.2 30 (by decide +kernel) full).2 [(31, .retryAfter)] (by decide)
  have told : refused.retryAfter 31 = 29 := by decide +kernel
  refine ⟨full, told, waits 31 60 ?_⟩
  change 31 + refused.retryAfter 31 ≤ 60
  rw [told]
  norm_num

end RateLimiter

end GuardAgent
