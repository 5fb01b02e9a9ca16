import Converge.Context

/-!
# When a context interrupts

A context interrupts from the earlier of its two instants on. Work in a context is stopped
only at an instant at which the context interrupts, and for that reason.
-/

namespace Converge.Context

/-- The reason that counts at an instant from which on the context interrupts. -/
def reason (context : Context) (now : Nat) : Interruption :=
  if due context.cancelAt now then .cancelled else .deadlineExceeded

theorem interruption?_of_stop_le {context : Context} {stop now : Nat}
    (stops : context.stop? = some stop) (reached : stop ≤ now) :
    context.interruption? now = some (context.reason now) := by
  obtain ⟨cancelAt, deadline⟩ := context
  cases cancelAt with
  | none =>
      cases deadline with
      | none => simp [stop?] at stops
      | some deadline =>
          simp only [stop?, Option.some.injEq] at stops
          simp [interruption?, reason, due, stops, reached]
  | some cancel =>
      cases deadline with
      | none =>
          simp only [stop?, Option.some.injEq] at stops
          simp [interruption?, reason, due, stops, reached]
      | some deadline =>
          simp only [stop?, Option.some.injEq] at stops
          by_cases cancelled : cancel ≤ now
          · simp [interruption?, reason, due, cancelled]
          · have passed : deadline ≤ now := by omega
            simp [interruption?, reason, due, cancelled, passed]

/-- The first interruption between two instants is the one at the stop, or at the first of
them where the stop has passed. -/
theorem interruptedBy_of_stop {context : Context} {stop : Nat}
    (stops : context.stop? = some stop) (now limit : Nat) :
    context.interruptedBy now limit =
      if max now stop ≤ limit then some (max now stop, context.reason (max now stop))
      else none := by
  have interrupted := interruption?_of_stop_le stops (Nat.le_max_right now stop)
  simp only [interruptedBy, stops, interrupted, Option.map_some]

theorem interruptedBy_of_no_stop {context : Context} (free : context.stop? = none)
    (now limit : Nat) : context.interruptedBy now limit = none := by
  rw [interruptedBy, free]

/-- An interruption between two instants is the context's at its instant. -/
theorem interruption?_of_interruptedBy {context : Context} {now limit instant : Nat}
    {reason : Interruption}
    (interrupted : context.interruptedBy now limit = some (instant, reason)) :
    context.interruption? instant = some reason := by
  cases stops : context.stop? with
  | none => simp [interruptedBy_of_no_stop stops] at interrupted
  | some stop =>
      simp only [interruptedBy, stops] at interrupted
      split at interrupted
      · obtain ⟨found, atInstant, pair⟩ := Option.map_eq_some_iff.mp interrupted
        obtain ⟨rfl, rfl⟩ := Prod.mk.inj pair
        exact atInstant
      · simp at interrupted

theorem interruption?_of_lt_stop {context : Context} {stop now : Nat}
    (stops : context.stop? = some stop) (early : now < stop) :
    context.interruption? now = none := by
  have notDue : ∀ {instant : Nat}, stop ≤ instant → due (some instant) now = false := by
    intro instant later
    simp only [due, decide_eq_false_iff_not]
    omega
  obtain ⟨cancelAt, deadline⟩ := context
  cases cancelAt with
  | none =>
      cases deadline with
      | none => simp [stop?] at stops
      | some deadline =>
          simp only [stop?, Option.some.injEq] at stops
          rw [interruption?, notDue (Nat.le_of_eq stops.symm)]
          rfl
  | some cancel =>
      cases deadline with
      | none =>
          simp only [stop?, Option.some.injEq] at stops
          rw [interruption?, notDue (Nat.le_of_eq stops.symm)]
          rfl
      | some deadline =>
          simp only [stop?, Option.some.injEq] at stops
          rw [interruption?, notDue (by omega), notDue (by omega)]
          rfl

/-- Work is not begun behind the stop, is cut off at the stop, or is done before it. -/
theorem run_of_stop {context : Context} {stop : Nat} (stops : context.stop? = some stop)
    (now length : Nat) :
    context.run now length =
      if stop ≤ now then ⟨.error (context.reason now), now⟩
      else if stop ≤ now + length then ⟨.error (context.reason stop), stop⟩
      else ⟨.ok (), now + length⟩ := by
  rw [run]
  by_cases reached : stop ≤ now
  · rw [interruption?_of_stop_le stops reached, if_pos reached]
  · rw [interruption?_of_lt_stop stops (by omega), if_neg reached]
    dsimp only
    by_cases instantly : length = 0
    · rw [if_pos instantly, if_neg (by omega), instantly, Nat.add_zero]
    · have later : max now stop = stop := by omega
      rw [if_neg instantly, interruptedBy_of_stop stops, later]
      by_cases cut : stop ≤ now + length
      · simp only [cut, if_true]
      · simp only [cut, if_false]

theorem interruption?_of_no_stop {context : Context} (free : context.stop? = none) (now : Nat) :
    context.interruption? now = none := by
  obtain ⟨cancelAt, deadline⟩ := context
  cases cancelAt <;> cases deadline <;> simp only [stop?, reduceCtorEq] at free
  rfl

/-- Where nothing stops it work is done. -/
theorem run_of_no_stop {context : Context} (free : context.stop? = none) (now length : Nat) :
    context.run now length = ⟨.ok (), now + length⟩ := by
  rw [run, interruption?_of_no_stop free, interruptedBy_of_no_stop free]
  dsimp only
  by_cases instantly : length = 0
  · rw [if_pos instantly, instantly, Nat.add_zero]
  · rw [if_neg instantly]

/-- Work that is stopped is stopped by the context's interruption at that instant. -/
theorem interruption?_of_run {context : Context} {now length : Nat} {reason : Interruption}
    (stopped : (context.run now length).result = .error reason) :
    context.interruption? (context.run now length).instant = some reason := by
  rw [run] at stopped ⊢
  cases atNow : context.interruption? now with
  | some found =>
      simp only [atNow] at stopped ⊢
      cases stopped
      rfl
  | none =>
      simp only [atNow] at stopped ⊢
      by_cases instantly : length = 0
      · simp [instantly] at stopped
      · simp only [instantly, if_false] at stopped ⊢
        cases interrupted : context.interruptedBy now (now + length) with
        | none => simp [interrupted] at stopped
        | some found =>
            simp only [interrupted] at stopped ⊢
            cases stopped
            exact interruption?_of_interruptedBy interrupted

end Converge.Context
