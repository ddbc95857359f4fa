import ContactPlan.Contact.Event

/-
This file holds the timers that wait for the boundaries of contacts.
Timers read a clock of their own, which counts milliseconds from its start.
-/

namespace ContactPlan

/-- What is left of the delay at the deadline is waited for afterwards. -/
structure Timer where
  key : Nat
  event : Event
  deadline : Nat
  remaining : Nat
  deriving DecidableEq

/-- No timer waits longer than a year of 365 days at once. -/
def Timer.longestWait : Nat := 365 * 86400000

/-- The part of a delay that is waited for at once. -/
def Timer.wait (delay : Nat) : Nat := min delay Timer.longestWait

/-- A timer starts with its first wait, and the rest of the delay remains. -/
def Timer.start (key : Nat) (event : Event) (clock delay : Nat) : Timer :=
  ⟨key, event, clock + Timer.wait delay, delay - Timer.wait delay⟩

/-- Timers with one deadline keep the order in which they were started. -/
def Timer.insertInto (timer : Timer) : List Timer → List Timer
  | [] => [timer]
  | head :: rest =>
      if head.deadline ≤ timer.deadline then head :: timer.insertInto rest
      else timer :: head :: rest

/-- A timer without delay overtakes all others. -/
def Timer.enqueue (timer : Timer) (delay : Nat) (timers : List Timer) : List Timer :=
  if delay = 0 then timer :: timers else timer.insertInto timers

/-- What timers have to wait for after their deadlines. -/
def Timer.totalRemaining : List Timer → Nat
  | [] => 0
  | timer :: timers => timer.remaining + Timer.totalRemaining timers

@[simp] theorem Timer.totalRemaining_cons (timer : Timer) (timers : List Timer) :
    Timer.totalRemaining (timer :: timers) = timer.remaining + Timer.totalRemaining timers := rfl

/-- The place of a timer does not matter for what is waited for. -/
theorem Timer.totalRemaining_insertInto (timer : Timer) (timers : List Timer) :
    Timer.totalRemaining (timer.insertInto timers) =
      timer.remaining + Timer.totalRemaining timers := by
  induction timers with
  | nil => rfl
  | cons head rest inductionHypothesis =>
      simp only [insertInto]
      split
      · simp only [totalRemaining_cons, inductionHypothesis]
        omega
      · rfl

/-- Overtaking does not change what is waited for. -/
theorem Timer.totalRemaining_enqueue (timer : Timer) (delay : Nat) (timers : List Timer) :
    Timer.totalRemaining (timer.enqueue delay timers) =
      timer.remaining + Timer.totalRemaining timers := by
  simp only [enqueue]
  split
  · rfl
  · exact timer.totalRemaining_insertInto timers

theorem Timer.length_insertInto (timer : Timer) (timers : List Timer) :
    (timer.insertInto timers).length = timers.length + 1 := by
  induction timers with
  | nil => rfl
  | cons head rest inductionHypothesis =>
      simp only [insertInto]
      split
      · simp only [List.length_cons, inductionHypothesis]
      · rfl

theorem Timer.length_enqueue (timer : Timer) (delay : Nat) (timers : List Timer) :
    (timer.enqueue delay timers).length = timers.length + 1 := by
  simp only [enqueue]
  split
  · rfl
  · exact timer.length_insertInto timers

/-- Timers that are taken off do not wait any more. -/
theorem Timer.totalRemaining_filter_le (keep : Timer → Bool) (timers : List Timer) :
    Timer.totalRemaining (timers.filter keep) ≤ Timer.totalRemaining timers := by
  induction timers with
  | nil => exact Nat.le_refl _
  | cons head rest inductionHypothesis =>
      simp only [List.filter_cons]
      split <;> simp only [totalRemaining_cons] <;> omega

/-- What a removed timer had to wait for is not waited for any more. -/
theorem Timer.totalRemaining_filter_add_le (keep : Timer → Bool) {timers : List Timer}
    {timer : Timer} (member : timer ∈ timers) (removed : keep timer = false) :
    Timer.totalRemaining (timers.filter keep) + timer.remaining ≤ Timer.totalRemaining timers := by
  induction timers with
  | nil => simp at member
  | cons head rest inductionHypothesis =>
      rcases List.mem_cons.mp member with isHead | inRest
      · subst isHead
        have restLe := Timer.totalRemaining_filter_le keep rest
        simp only [List.filter_cons, removed, Bool.false_eq_true, if_false, totalRemaining_cons]
        omega
      · have restLe := inductionHypothesis inRest
        simp only [List.filter_cons]
        split <;> simp only [totalRemaining_cons] <;> omega

end ContactPlan
