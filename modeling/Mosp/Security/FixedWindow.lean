import Mosp.Security.RateLimit
import Mathlib.Data.List.Induction
import Mathlib.Data.List.Dedup

/-!
# Fixed windows

What a rate limiter is for, said of the calls so far: the window of a key starts at its
first call at or after the end of the window before, and the first calls of a window are
allowed.
-/

namespace Mosp.Security

/-- One call of a limiter. -/
structure RateLimitCall where
  key : String
  time : Int
deriving DecidableEq

/-- The calls come at times that do not decrease. -/
def Ordered (history : List RateLimitCall) : Prop :=
  history.Pairwise fun earlier later => earlier.time ≤ later.time

section

variable (windowMs : Nat) (key : String)

/-- Whether a call starts a window, with the start of the window before. -/
def startsWindow (start : Option Int) (call : RateLimitCall) : Bool :=
  call.key = key && start.all fun time => decide (time + windowMs ≤ call.time)

/-- The start of the latest window of a key. -/
def windowStart (history : List RateLimitCall) : Option Int :=
  history.foldl
    (fun start call => if startsWindow windowMs key start call then some call.time else start)
    none

/-- The number of calls in the latest window of a key. -/
def windowCount (history : List RateLimitCall) : Nat :=
  (history.filter fun call => call.key = key &&
    (windowStart windowMs key history).any fun start => decide (start ≤ call.time)).length

/-- The window of a key that has not ended. -/
def openWindow (history : List RateLimitCall) (now : Int) : Option Int :=
  (windowStart windowMs key history).filter fun start => decide (now < start + windowMs)

end

/-- The decision on the last call of a history. -/
def fixedWindow (limit windowMs : Nat) (history : List RateLimitCall) (call : RateLimitCall) :
    RateLimitDecision :=
  let calls := history ++ [call]
  let start := (windowStart windowMs call.key calls).getD call.time
  ⟨decide (windowCount windowMs call.key calls ≤ limit),
    max 1 (ceilDiv (start + windowMs - call.time) 1000)⟩

/-- The keys with a window that has not ended. -/
def openKeys (windowMs : Nat) (history : List RateLimitCall) (now : Int) : List String :=
  (history.map RateLimitCall.key).dedup.filter fun key =>
    (openWindow windowMs key history now).isSome

variable {windowMs : Nat} {key : String} {history : List RateLimitCall} {call : RateLimitCall}

/-! ## One more call -/

theorem Ordered.le_last (ordered : Ordered (history ++ [call])) :
    ∀ earlier ∈ history, earlier.time ≤ call.time :=
  fun earlier member => (List.pairwise_append.mp ordered).2.2 earlier member call
    List.mem_cons_self

theorem Ordered.init (ordered : Ordered (history ++ [call])) : Ordered history :=
  (List.pairwise_append.mp ordered).1

theorem windowStart_append : windowStart windowMs key (history ++ [call]) =
    if startsWindow windowMs key (windowStart windowMs key history) call then some call.time
    else windowStart windowMs key history := by
  rw [windowStart, List.foldl_append]
  rfl

theorem windowStart_other (other : call.key ≠ key) :
    windowStart windowMs key (history ++ [call]) = windowStart windowMs key history := by
  rw [windowStart_append, if_neg]
  simp [startsWindow, other]

/-- A window starts with one of the calls of its key. -/
theorem windowStart_call {start : Int} (found : windowStart windowMs key history = some start) :
    ∃ first ∈ history, first.key = key ∧ first.time = start := by
  induction history using List.reverseRecOn with
  | nil => contradiction
  | append_singleton history call ih =>
      rw [windowStart_append] at found
      split at found
      · rename_i starts
        simp only [startsWindow, Bool.and_eq_true, decide_eq_true_eq] at starts
        exact ⟨call, by simp, starts.1, Option.some.inj found⟩
      · obtain ⟨first, member, own, begins⟩ := ih found
        exact ⟨first, List.mem_append_left _ member, own, begins⟩

/-- No call of a key comes after the end of its latest window. -/
theorem windowStart_within (positive : 1 ≤ windowMs) (ordered : Ordered history)
    {earlier : RateLimitCall} (member : earlier ∈ history) (own : earlier.key = key) :
    ∃ start, windowStart windowMs key history = some start ∧
      earlier.time < start + windowMs := by
  induction history using List.reverseRecOn with
  | nil => contradiction
  | append_singleton history call ih =>
      have before : earlier.time ≤ call.time := by
        rcases List.mem_append.mp member with inHistory | isLast
        · exact ordered.le_last earlier inHistory
        · rw [List.mem_singleton.mp isLast]
      rw [windowStart_append]
      by_cases starts : startsWindow windowMs key (windowStart windowMs key history) call
      · rw [if_pos starts]
        exact ⟨call.time, rfl, by omega⟩
      · rw [if_neg starts]
        rcases List.mem_append.mp member with inHistory | isLast
        · exact ih ordered.init inHistory
        · obtain rfl := List.mem_singleton.mp isLast
          simp only [startsWindow, own, decide_true, Bool.true_and] at starts
          cases found : windowStart windowMs key history with
          | none => simp [found] at starts
          | some start =>
              simp only [found, Option.all_some, decide_eq_true_eq, not_le] at starts
              exact ⟨start, rfl, starts⟩

/-- The latest window of a key begins at its last call, if that call starts one. -/
theorem windowStart_starts
    (starts : startsWindow windowMs key (windowStart windowMs key history) call = true) :
    windowStart windowMs key (history ++ [call]) = some call.time := by
  rw [windowStart_append, if_pos starts]

theorem windowStart_continues
    (continues : startsWindow windowMs key (windowStart windowMs key history) call = false) :
    windowStart windowMs key (history ++ [call]) = windowStart windowMs key history := by
  rw [windowStart_append, if_neg (by simp [continues])]

theorem windowCount_other (other : call.key ≠ key) :
    windowCount windowMs key (history ++ [call]) = windowCount windowMs key history := by
  rw [windowCount, windowStart_other other, List.filter_append]
  simp [windowCount, other]

/-- The call that starts a window is its first. -/
theorem windowCount_starts (positive : 1 ≤ windowMs) (ordered : Ordered (history ++ [call]))
    (starts : startsWindow windowMs key (windowStart windowMs key history) call = true) :
    windowCount windowMs key (history ++ [call]) = 1 := by
  have begins := windowStart_starts starts
  simp only [startsWindow, Bool.and_eq_true, decide_eq_true_eq] at starts
  have earlier : history.filter (fun other => other.key = key && decide (call.time ≤ other.time)) =
      [] := by
    rw [List.filter_eq_nil_iff]
    intro other member
    simp only [Bool.and_eq_true, decide_eq_true_eq, not_and, not_le]
    intro own
    obtain ⟨start, found, within⟩ := windowStart_within positive ordered.init member own
    have ended := starts.2
    simp only [found, Option.all_some, decide_eq_true_eq] at ended
    omega
  rw [windowCount, begins, List.filter_append]
  simp only [Option.any_some, earlier]
  simp [starts.1]

/-- A call within a window is one more. -/
theorem windowCount_continues (ordered : Ordered (history ++ [call])) (own : call.key = key)
    (continues : startsWindow windowMs key (windowStart windowMs key history) call = false) :
    windowCount windowMs key (history ++ [call]) = windowCount windowMs key history + 1 := by
  have same := windowStart_continues continues
  simp only [startsWindow, own, decide_true, Bool.true_and] at continues
  cases found : windowStart windowMs key history with
  | none => simp [found] at continues
  | some start =>
      obtain ⟨first, member, -, begins⟩ := windowStart_call found
      have before : start ≤ call.time := begins ▸ ordered.le_last first member
      rw [windowCount, windowCount, same, found, List.filter_append]
      simp [own, before]

/-! ## The open window of a key -/

/-- The open window of a key, as an entry of a limiter. -/
def openEntry (windowMs : Nat) (key : String) (history : List RateLimitCall) (now : Int) :
    Option RateLimitEntry :=
  (openWindow windowMs key history now).map fun start =>
    ⟨windowCount windowMs key history, start + windowMs⟩

/-- What a call makes of the open window of its key. -/
def countedEntry (windowMs : Nat) (current : Option RateLimitEntry) (now : Int) :
    RateLimitEntry :=
  match current with
  | none => ⟨1, now + windowMs⟩
  | some entry => ⟨entry.count + 1, entry.resetAt⟩

theorem startsWindow_iff (own : call.key = key) :
    startsWindow windowMs key (windowStart windowMs key history) call = true ↔
      openWindow windowMs key history call.time = none := by
  unfold startsWindow openWindow
  cases windowStart windowMs key history with
  | none => simp [own]
  | some start => simp [own]

theorem openEntry_other (other : call.key ≠ key) (now : Int) :
    openEntry windowMs key (history ++ [call]) now = openEntry windowMs key history now := by
  rw [openEntry, openWindow, windowStart_other other, windowCount_other other]
  rfl

/-- The window of a call is counted, and goes on until it ends. -/
theorem openEntry_own (positive : 1 ≤ windowMs) (ordered : Ordered (history ++ [call]))
    (now : Int) :
    openEntry windowMs call.key (history ++ [call]) now =
      (some (countedEntry windowMs (openEntry windowMs call.key history call.time)
        call.time)).filter fun entry => decide (now < entry.resetAt) := by
  cases opened : openWindow windowMs call.key history call.time with
  | none =>
      have starts := (startsWindow_iff rfl).mpr opened
      have current : openEntry windowMs call.key history call.time = none := by
        rw [openEntry, opened, Option.map_none]
      rw [current, openEntry, openWindow, windowStart_starts starts,
        windowCount_starts positive ordered starts]
      by_cases within : now < call.time + windowMs <;>
        simp [countedEntry, Option.filter_some, within]
  | some start =>
      have found : windowStart windowMs call.key history = some start :=
        (Option.filter_eq_some_iff.mp opened).1
      have continues : startsWindow windowMs call.key (windowStart windowMs call.key history)
          call = false := by
        rw [Bool.eq_false_iff, ne_eq, startsWindow_iff rfl, opened]
        exact Option.some_ne_none start
      have current : openEntry windowMs call.key history call.time =
          some ⟨windowCount windowMs call.key history, start + windowMs⟩ := by
        rw [openEntry, opened, Option.map_some]
      rw [current, openEntry, openWindow, windowStart_continues continues, found,
        windowCount_continues ordered rfl continues]
      by_cases within : now < start + windowMs <;>
        simp [countedEntry, Option.filter_some, within]

/-- An open window has a call. -/
theorem openEntry_count {entry : RateLimitEntry} {now : Int}
    (opened : openEntry windowMs key history now = some entry) : 1 ≤ entry.count := by
  obtain ⟨start, isOpen, rfl⟩ := Option.map_eq_some_iff.mp opened
  have found := (Option.filter_eq_some_iff.mp isOpen).1
  obtain ⟨first, member, own, begins⟩ := windowStart_call found
  apply List.length_pos_of_mem
  rw [List.mem_filter]
  exact ⟨member, by simp [own, found, begins]⟩

theorem openEntry_resetAt {entry : RateLimitEntry} {now : Int}
    (opened : openEntry windowMs key history now = some entry) : now < entry.resetAt := by
  obtain ⟨start, isOpen, rfl⟩ := Option.map_eq_some_iff.mp opened
  simpa using (Option.filter_eq_some_iff.mp isOpen).2

/-- The decision of a fixed window in terms of the open window. -/
theorem fixedWindow_eq (positive : 1 ≤ windowMs) (ordered : Ordered (history ++ [call]))
    (limit : Nat) :
    fixedWindow limit windowMs history call =
      let entry := countedEntry windowMs (openEntry windowMs call.key history call.time) call.time
      ⟨decide (entry.count ≤ limit), max 1 (ceilDiv (entry.resetAt - call.time) 1000)⟩ := by
  unfold fixedWindow
  cases opened : openWindow windowMs call.key history call.time with
  | none =>
      have starts := (startsWindow_iff rfl).mpr opened
      simp only [openEntry, opened, windowStart_starts starts,
        windowCount_starts positive ordered starts, countedEntry, Option.map_none,
        Option.getD_some]
  | some start =>
      have found : windowStart windowMs call.key history = some start :=
        (Option.filter_eq_some_iff.mp opened).1
      have continues : startsWindow windowMs call.key (windowStart windowMs call.key history)
          call = false := by
        rw [Bool.eq_false_iff, ne_eq, startsWindow_iff rfl, opened]
        exact Option.some_ne_none start
      simp only [openEntry, opened, windowStart_continues continues, found,
        windowCount_continues ordered rfl continues, countedEntry, Option.map_some,
        Option.getD_some]

theorem mem_openKeys {now : Int} : key ∈ openKeys windowMs history now ↔
    ∃ entry, openEntry windowMs key history now = some entry := by
  rw [openKeys, List.mem_filter, List.mem_dedup]
  constructor
  · rintro ⟨-, isOpen⟩
    obtain ⟨start, found⟩ := Option.isSome_iff_exists.mp isOpen
    exact ⟨_, by rw [openEntry, found, Option.map_some]⟩
  · rintro ⟨entry, opened⟩
    obtain ⟨start, isOpen, -⟩ := Option.map_eq_some_iff.mp opened
    obtain ⟨first, member, rfl, -⟩ :=
      windowStart_call (Option.filter_eq_some_iff.mp isOpen).1
    exact ⟨List.mem_map_of_mem member, Option.isSome_of_eq_some isOpen⟩

end Mosp.Security
