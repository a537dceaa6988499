import DeviceUplink.KeepAlive

/-!
# Schedule of a ticker

A tick that is on time keeps the rhythm, and one that is late starts it anew. Either way the
deadline moves by an interval at least and to an interval from now at most, so a ticker is never
silent for longer and there are never more ticks than intervals that have passed.
-/

namespace DeviceUplink

namespace Ticker

variable {t last : Ticker} {now ticks : Nat}

theorem nextDeadline_le (h : ¬ now < t.deadline) : t.nextDeadline now ≤ now + t.interval := by
  unfold nextDeadline
  split
  · exact Nat.le_refl _
  · exact Nat.add_le_add_right (Nat.le_of_not_lt h) _

theorem le_nextDeadline (h : ¬ now < t.deadline) :
    t.deadline + t.interval ≤ t.nextDeadline now := by
  unfold nextDeadline
  split
  · exact Nat.add_le_add_right (Nat.le_of_not_lt h) _
  · exact Nat.le_refl _

theorem lt_nextDeadline_of_late (h : t.deadline + t.tolerance < now) :
    now < t.nextDeadline now := by
  have := t.interval_pos
  rw [nextDeadline, if_pos h]
  omega

theorem advance_of_ahead (hRunning : t.isFinished = false) (hAhead : now < t.deadline) :
    t.advance now = (t, 0) := by
  rw [advance, if_neg (ne_true_of_eq_false hRunning), if_pos hAhead]

/-- What a ticker comes to that runs at an instant until nothing is due any more. -/
structure Rests (t : Ticker) (now : Nat) (last : Ticker) (ticks : Nat) : Prop where
  interval : last.interval = t.interval
  tolerance : last.tolerance = t.tolerance
  hasReceiver : last.hasReceiver = t.hasReceiver
  spaced : t.deadline + ticks * t.interval ≤ last.deadline
  near : t.deadline ≤ now + t.interval → last.deadline ≤ now + t.interval
  ahead : last.isFinished = false → now < last.deadline
  kept : ticks = 0 → last.deadline = t.deadline
  isFinished : last.isFinished = true ↔
    t.isFinished = true ∨ t.hasReceiver = false ∧ t.deadline ≤ now
  ticks_pos : 0 < ticks ↔ t.isFinished = false ∧ t.hasReceiver = true ∧ t.deadline ≤ now
  single : t.deadline + t.tolerance < now → ticks ≤ 1

theorem Rests.of_silent (hEarly : t.isFinished = false → now < t.deadline) : t.Rests now t 0 where
  interval := rfl
  tolerance := rfl
  hasReceiver := rfl
  spaced := by omega
  near := id
  ahead := hEarly
  kept _ := rfl
  isFinished := by
    cases h : t.isFinished with
    | true => simp
    | false =>
      have := hEarly h
      simp only [Bool.false_eq_true, false_or, false_iff, not_and]
      omega
  ticks_pos := by
    refine ⟨fun h => absurd h (Nat.lt_irrefl 0), ?_⟩
    rintro ⟨h, _, hDue⟩
    have := hEarly h
    omega
  single _ := Nat.zero_le 1

theorem Rests.of_deaf (hReceiver : t.hasReceiver = false) (hDue : t.deadline ≤ now) :
    t.Rests now { t with isFinished := true } 0 where
  interval := rfl
  tolerance := rfl
  hasReceiver := rfl
  spaced := by simp
  near := id
  ahead h := by cases h
  kept _ := rfl
  isFinished := by simp [hReceiver, hDue]
  ticks_pos := by simp [hReceiver]
  single _ := Nat.zero_le 1

theorem Rests.of_tick (hRunning : t.isFinished = false) (hReceiver : t.hasReceiver = true)
    (hDue : ¬ now < t.deadline)
    (h : Rests { t with deadline := t.nextDeadline now } now last ticks) :
    t.Rests now last (ticks + 1) where
  interval := h.interval
  tolerance := h.tolerance
  hasReceiver := h.hasReceiver
  spaced := by
    have hSpaced : t.nextDeadline now + ticks * t.interval ≤ last.deadline := h.spaced
    have hStep := le_nextDeadline hDue
    rw [Nat.add_mul, Nat.one_mul]
    omega
  near _ := h.near (nextDeadline_le hDue)
  ahead := h.ahead
  kept hNone := by cases hNone
  isFinished := by
    rw [h.isFinished]
    simp [hRunning, hReceiver]
  ticks_pos := by simp [hRunning, hReceiver, Nat.le_of_not_lt hDue]
  single hLate := by
    -- a late tick puts the deadline ahead, so none can follow it
    have hAhead := lt_nextDeadline_of_late hLate
    have hNone : ¬ 0 < ticks := fun hPos => Nat.not_lt.mpr (h.ticks_pos.mp hPos).2.2 hAhead
    omega

theorem Rests.ticks_eq_zero_of_isFinished (h : t.Rests now last ticks)
    (hFinished : t.isFinished = true) : ticks = 0 := by
  refine Nat.eq_zero_of_not_pos fun hPos => ?_
  exact ne_true_of_eq_false (h.ticks_pos.mp hPos).1 hFinished

theorem Rests.ticks_eq_zero_of_deaf (h : t.Rests now last ticks)
    (hDeaf : t.hasReceiver = false) : ticks = 0 := by
  refine Nat.eq_zero_of_not_pos fun hPos => ?_
  exact ne_true_of_eq_false hDeaf (h.ticks_pos.mp hPos).2.1

theorem rests_advance (t : Ticker) (now : Nat) :
    t.Rests now (t.advance now).1 (t.advance now).2 := by
  induction t using advance.induct now with
  | case1 t hFinished =>
    rw [advance, if_pos hFinished]
    exact .of_silent fun h => absurd hFinished (Bool.eq_false_iff.mp h)
  | case2 t hFinished hEarly =>
    rw [advance, if_neg hFinished, if_pos hEarly]
    exact .of_silent fun _ => hEarly
  | case3 t hFinished hDue hReceiver _ _ _ ih =>
    rw [advance, if_neg hFinished, if_neg hDue, if_pos hReceiver]
    exact ih.of_tick (Bool.eq_false_iff.mpr hFinished) hReceiver hDue
  | case4 t hFinished hDue hReceiver =>
    rw [advance, if_neg hFinished, if_neg hDue, if_neg hReceiver]
    exact .of_deaf (Bool.eq_false_iff.mpr hReceiver) (Nat.le_of_not_lt hDue)

inductive Event
  | elapse (time : Nat)
  | cancel
  | dropReceiver
deriving DecidableEq

structure Course where
  ticker : Ticker
  now : Nat
  ticks : Nat

namespace Course

variable {c : Course} {event : Event} {events : List Event} {interval first : Nat}

def start (interval : Nat) (h : 0 < interval) (now : Nat) : Course :=
  ⟨Ticker.start interval h now, now, 0⟩

def rest (c : Course) : Course :=
  ⟨(c.ticker.advance c.now).1, c.now, c.ticks + (c.ticker.advance c.now).2⟩

def meets (c : Course) : Event → Course
  | .elapse time => { c with now := c.now + time }
  | .cancel => { c with ticker := c.ticker.cancel }
  | .dropReceiver => { c with ticker := c.ticker.dropReceiver }

def step (c : Course) (event : Event) : Course :=
  (c.meets event).rest

def run (c : Course) (events : List Event) : Course :=
  events.foldl step c

theorem rests_step (c : Course) (event : Event) : ∃ ticks,
    (c.meets event).ticker.Rests (c.step event).now (c.step event).ticker ticks ∧
      (c.step event).ticks = c.ticks + ticks ∧ c.now ≤ (c.step event).now := by
  refine ⟨_, rests_advance _ _, ?_, ?_⟩
  · cases event <;> rfl
  · cases event with
    | elapse time => exact Nat.le_add_right c.now time
    | cancel | dropReceiver => exact Nat.le_refl c.now

/-- The deadline is an interval from now at most, and behind it lie as many intervals as there were
ticks, and one more. -/
structure Paced (interval first : Nat) (c : Course) : Prop where
  spaced : first + (c.ticks + 1) * interval ≤ c.ticker.deadline
  near : c.ticker.deadline ≤ c.now + interval
  ahead : c.ticker.isFinished = false → c.now < c.ticker.deadline
  tolerance : c.ticker.tolerance = 5000000
  interval : c.ticker.interval = interval

theorem Paced.start (h : 0 < interval) : (Course.start interval h first).Paced interval first where
  spaced := by simp [Course.start, Ticker.start]
  near := Nat.le_refl _
  ahead _ := Nat.lt_add_of_pos_right h
  tolerance := rfl
  interval := rfl

theorem Paced.step (h : c.Paced interval first) (event : Event) :
    (c.step event).Paced interval first := by
  obtain ⟨ticks, hRests, hTicks, hNow⟩ := c.rests_step event
  have hInterval : (c.meets event).ticker.interval = interval := by
    cases event <;> exact h.interval
  have hTolerance : (c.meets event).ticker.tolerance = 5000000 := by
    cases event <;> exact h.tolerance
  have hDeadline : (c.meets event).ticker.deadline = c.ticker.deadline := by
    cases event <;> rfl
  have hNear := h.near
  have hBefore := h.spaced
  have hSpaced := hRests.spaced
  rw [hInterval, hDeadline] at hSpaced
  -- every tick moves the deadline by an interval at least, and none moves it too far
  exact {
    spaced := by
      rw [hTicks, Nat.add_right_comm, Nat.add_mul]
      omega
    near := by
      rw [← hInterval]
      exact hRests.near (by rw [hInterval, hDeadline]; omega)
    ahead := hRests.ahead
    tolerance := hRests.tolerance.trans hTolerance
    interval := hRests.interval.trans hInterval }

theorem Paced.run (h : c.Paced interval first) (events : List Event) :
    (c.run events).Paced interval first := by
  induction events generalizing c with
  | nil => exact h
  | cons event events ih => exact ih (h.step event)

theorem Paced.ticks_le (h : c.Paced interval first) (hPos : 0 < interval) :
    c.ticks ≤ (c.now - first) / interval := by
  have hNear := h.near
  have hSpaced := h.spaced
  rw [Nat.add_mul, Nat.one_mul] at hSpaced
  -- of the intervals behind the deadline, all but the last have passed
  rw [Nat.le_div_iff_mul_le hPos]
  omega

theorem run_of_isFinished (h : c.ticker.isFinished = true) (events : List Event) :
    (c.run events).ticks = c.ticks ∧ (c.run events).ticker.isFinished = true := by
  induction events generalizing c with
  | nil => exact ⟨rfl, h⟩
  | cons event events ih =>
    obtain ⟨ticks, hRests, hTicks, _⟩ := c.rests_step event
    have hMeets : (c.meets event).ticker.isFinished = true := by
      cases event with
      | cancel => rfl
      | elapse time | dropReceiver => exact h
    obtain rfl := hRests.ticks_eq_zero_of_isFinished hMeets
    have hLater := ih (hRests.isFinished.mpr (.inl hMeets))
    exact ⟨hLater.1.trans hTicks, hLater.2⟩

theorem ticks_run_of_deaf (h : c.ticker.hasReceiver = false) (events : List Event) :
    (c.run events).ticks = c.ticks := by
  induction events generalizing c with
  | nil => rfl
  | cons event events ih =>
    obtain ⟨ticks, hRests, hTicks, _⟩ := c.rests_step event
    have hMeets : (c.meets event).ticker.hasReceiver = false := by
      cases event with
      | dropReceiver => rfl
      | elapse time | cancel => exact h
    obtain rfl := hRests.ticks_eq_zero_of_deaf hMeets
    exact (ih (hRests.hasReceiver.trans hMeets)).trans hTicks

/-- Without a receiver, the deadline that comes next is the end. -/
theorem isFinished_run_of_deaf (hReceiver : c.ticker.hasReceiver = false)
    (hEnd : c.ticker.isFinished = true ↔ c.ticker.deadline ≤ c.now) (hCancel : .cancel ∉ events) :
    (c.run events).ticker.isFinished = true ↔ c.ticker.deadline ≤ (c.run events).now := by
  induction events generalizing c with
  | nil => exact hEnd
  | cons event events ih =>
    obtain ⟨hEvent, hRest⟩ := List.ne_and_not_mem_of_not_mem_cons hCancel
    obtain ⟨ticks, hRests, _, hNow⟩ := c.rests_step event
    have hMeets : (c.meets event).ticker.hasReceiver = false := by
      cases event with
      | dropReceiver => rfl
      | elapse time | cancel => exact hReceiver
    have hBefore : (c.meets event).ticker.isFinished = c.ticker.isFinished := by
      cases event with
      | cancel => exact absurd rfl hEvent
      | elapse time | dropReceiver => rfl
    have hDeadline : (c.meets event).ticker.deadline = c.ticker.deadline := by
      cases event <;> rfl
    have hNone := hRests.ticks_eq_zero_of_deaf hMeets
    have hKept : (c.step event).ticker.deadline = c.ticker.deadline :=
      (hRests.kept hNone).trans hDeadline
    have hAfter : (c.step event).ticker.isFinished = true ↔
        (c.step event).ticker.deadline ≤ (c.step event).now := by
      rw [hRests.isFinished, hMeets, hBefore, hEnd, hDeadline, hKept]
      simp only [true_and]
      omega
    have hLater := ih (hRests.hasReceiver.trans hMeets) hAfter hRest
    rwa [hKept] at hLater

/-- Nothing but a cancellation and the loss of the receiver stops a ticker. -/
theorem isRunning_run (h : c.ticker.isFinished = false ∧ c.ticker.hasReceiver = true)
    (hCancel : .cancel ∉ events) (hReceiver : .dropReceiver ∉ events) :
    (c.run events).ticker.isFinished = false ∧ (c.run events).ticker.hasReceiver = true := by
  induction events generalizing c with
  | nil => exact h
  | cons event events ih =>
    obtain ⟨hFirst, hCancelled⟩ := List.ne_and_not_mem_of_not_mem_cons hCancel
    obtain ⟨hSecond, hDropped⟩ := List.ne_and_not_mem_of_not_mem_cons hReceiver
    obtain ⟨ticks, hRests, _⟩ := c.rests_step event
    cases event with
    | cancel => exact absurd rfl hFirst
    | dropReceiver => exact absurd rfl hSecond
    | elapse time =>
      refine ih ⟨?_, hRests.hasReceiver.trans h.2⟩ hCancelled hDropped
      refine Bool.eq_false_iff.mpr fun hFinished => ?_
      simp [hRests.isFinished, meets, h.1, h.2] at hFinished

theorem step_cancel (c : Course) :
    (c.step .cancel).ticks = c.ticks ∧ (c.step .cancel).ticker.isFinished = true := by
  obtain ⟨ticks, hRests, hTicks, _⟩ := c.rests_step .cancel
  have hMeets : (c.meets .cancel).ticker.isFinished = true := rfl
  obtain rfl := hRests.ticks_eq_zero_of_isFinished hMeets
  exact ⟨hTicks, hRests.isFinished.mpr (.inl hMeets)⟩

/-- A ticker that loses its receiver does not notice before something is due. -/
theorem step_dropReceiver (hRunning : c.ticker.isFinished = false)
    (hAhead : c.now < c.ticker.deadline) : c.step .dropReceiver = c.meets .dropReceiver := by
  have hRest : c.ticker.dropReceiver.advance c.now = (c.ticker.dropReceiver, 0) :=
    advance_of_ahead hRunning hAhead
  simp only [step, rest, meets, hRest, Nat.add_zero]

theorem ticks_elapse (hRunning : c.ticker.isFinished = false)
    (hReceiver : c.ticker.hasReceiver = true) (time : Nat) :
    (c.ticks < (c.step (.elapse time)).ticks ↔ c.ticker.deadline ≤ c.now + time) ∧
      (c.ticker.deadline + c.ticker.tolerance < c.now + time →
        (c.step (.elapse time)).ticks = c.ticks + 1) := by
  obtain ⟨ticks, hRests, hTicks, _⟩ := c.rests_step (.elapse time)
  have hDue : 0 < ticks ↔ c.ticker.deadline ≤ c.now + time := by
    rw [hRests.ticks_pos]
    exact ⟨fun h => h.2.2, fun h => ⟨hRunning, hReceiver, h⟩⟩
  refine ⟨by omega, fun hLate => ?_⟩
  have hSingle : ticks ≤ 1 := hRests.single hLate
  omega

/-- A ticker neither falls silent nor bursts. Whatever happens to it, while it runs its deadline is
ahead and an interval away at most, and there are no more ticks than intervals that have passed. As
long as it is neither cancelled nor without a receiver, it runs, it ticks whenever the clock reaches
the deadline, and only once if it is late. Once cancelled it is finished and ticks no more; without
a receiver it finishes at the deadline. -/
theorem neither_silent_nor_bursting (interval first : Nat) (hPos : 0 < interval)
    (events : List Event) :
    let c := (start interval hPos first).run events
    (c.ticker.isFinished = false →
        c.now < c.ticker.deadline ∧ c.ticker.deadline ≤ c.now + interval) ∧
      c.ticks ≤ (c.now - first) / interval ∧
      (.cancel ∉ events → .dropReceiver ∉ events →
        c.ticker.isFinished = false ∧ ∀ time,
          (c.ticks < (c.step (.elapse time)).ticks ↔ c.ticker.deadline ≤ c.now + time) ∧
          (c.ticker.deadline + 5000000 < c.now + time →
            (c.step (.elapse time)).ticks = c.ticks + 1)) ∧
      (∀ later, ((c.step .cancel).run later).ticks = c.ticks ∧
        ((c.step .cancel).run later).ticker.isFinished = true) ∧
      (c.ticker.isFinished = false → ∀ later,
        ((c.step .dropReceiver).run later).ticks = c.ticks ∧
        (.cancel ∉ later → (((c.step .dropReceiver).run later).ticker.isFinished = true ↔
          c.ticker.deadline ≤ ((c.step .dropReceiver).run later).now))) := by
  intro c
  have hPaced : c.Paced interval first := (Paced.start hPos).run events
  refine ⟨fun hRunning => ⟨hPaced.ahead hRunning, hPaced.near⟩, hPaced.ticks_le hPos, ?_, ?_, ?_⟩
  · intro hCancel hDropped
    obtain ⟨hRunning, hReceiver⟩ := isRunning_run (c := start interval hPos first) ⟨rfl, rfl⟩
      hCancel hDropped
    refine ⟨hRunning, fun time => ?_⟩
    have hTicks := ticks_elapse hRunning hReceiver time
    rwa [hPaced.tolerance] at hTicks
  · intro later
    obtain ⟨hTicks, hFinished⟩ := c.step_cancel
    obtain ⟨hLater, hStays⟩ := run_of_isFinished hFinished later
    exact ⟨hLater.trans hTicks, hStays⟩
  · intro hRunning later
    have hAhead := hPaced.ahead hRunning
    rw [step_dropReceiver hRunning hAhead]
    refine ⟨ticks_run_of_deaf rfl later, fun hCancel => isFinished_run_of_deaf rfl ?_ hCancel⟩
    refine ⟨fun hFinished => ?_, fun hDue => absurd hAhead (Nat.not_lt.mpr hDue)⟩
    exact absurd hFinished (ne_true_of_eq_false hRunning)

/-- An interval below the tolerance: the ticks that were missed are made up for, as many as there
is room for, and a jump that comes later than that is answered once. -/
theorem short_interval_is_made_up_for :
    let c := (start 2000000 (by decide) 0).run [.elapse 6000000]
    c.ticks = 3 ∧ c.ticks ≤ (c.now - 0) / 2000000 ∧ c.now < c.ticker.deadline ∧
      (c.step (.elapse 60000000)).ticks = 4 := by
  intro c
  have hTicks : c.ticks = 3 := by
    simp [c, run, step, meets, rest, start, Ticker.start, advance, nextDeadline]
  have hDeadline : c.ticker.deadline = 8000000 := by
    simp [c, run, step, meets, rest, start, Ticker.start, advance, nextDeadline]
  obtain ⟨hRunning, hBound, hGoesOn, _⟩ :=
    neither_silent_nor_bursting 2000000 0 (by decide) [.elapse 6000000]
  obtain ⟨hIsRunning, hJump⟩ := hGoesOn (by decide) (by decide)
  have hSingle := (hJump 60000000).2
    (show c.ticker.deadline + 5000000 < 66000000 by rw [hDeadline]; decide)
  exact ⟨hTicks, hBound, (hRunning hIsRunning).1, hSingle.trans (congrArg (· + 1) hTicks)⟩

end Course

end Ticker

end DeviceUplink
