import Converge.Proofs.Remote.Exchange

/-!
# What an interruption changes

A wait is compared with itself in a context that never interrupts. Either the outcomes are the
same, and then the end is reached before the stop, or the stop comes first: then the outcome is
an interruption at the stop, or at once where the stop has passed, and without it the end would
not have been reached before.
-/

namespace Converge.Remote

variable {σ : Type}

/-- The report on an interruption; a wait words it in its own way. -/
def IsInterruption (diagnostic : Diagnostic) : Prop :=
  ∃ (reason : Interruption) (message : String),
    diagnostic = { reason.diagnose with message := message }

theorem isInterruption_diagnose (reason : Interruption) : IsInterruption reason.diagnose :=
  ⟨reason, reason.message, rfl⟩

theorem IsInterruption.category {diagnostic : Diagnostic}
    (interruption : IsInterruption diagnostic) : diagnostic.category = .cancelled := by
  obtain ⟨reason, message, rfl⟩ := interruption
  rfl

/-! ## Waits -/

namespace Gate

variable {remote : Responder σ} {gate : Gate} {world : σ}

/-- The wait without an interruption. -/
def freed (gate : Gate) : Gate := { gate with context := .free }

theorem schedule_freed (remote : Responder σ) (gate : Gate) (world : σ) (poll : Nat) :
    schedule remote gate.freed world poll = schedule remote gate world poll := by
  induction poll with
  | zero => rfl
  | succ poll ih =>
      rw [schedule, schedule, ih]
      rfl

@[simp] theorem begins_freed (poll : Nat) :
    begins remote gate.freed world poll = begins remote gate world poll := by
  rw [begins, begins, schedule_freed]

@[simp] theorem listing_freed (poll : Nat) :
    listing remote gate.freed world poll = listing remote gate world poll := by
  rw [listing, listing, schedule_freed]

@[simp] theorem answered_freed (poll : Nat) :
    answered remote gate.freed world poll = answered remote gate world poll := by
  rw [answered, answered, begins_freed, listing_freed]

@[simp] theorem finding_freed (poll : Nat) :
    finding remote gate.freed world poll = finding remote gate world poll := by
  rw [finding, finding, listing_freed]
  rfl

@[simp] theorem pollsFrom_freed (first count : Nat) :
    pollsFrom remote gate.freed world first count = pollsFrom remote gate world first count := by
  simp only [pollsFrom, begins_freed]

@[simp] theorem closing_freed (gate : Gate) : gate.freed.closing = gate.deadline := rfl

/-- A wait closes for the end of the time allowed, as it does without an interruption, or for
an interruption that comes before. -/
theorem closing_cases (gate : Gate) :
    (gate.closing = gate.deadline ∧ gate.expiry = gate.freed.expiry ∧
      ∀ stop, gate.context.stop? = some stop → gate.deadline < stop) ∨
    ∃ stop, gate.context.stop? = some stop ∧ stop ≤ gate.deadline ∧
      gate.closing = max gate.start stop ∧
      gate.expiry = .interrupted gate.module (gate.closing - gate.start)
        (gate.context.reason gate.closing) := by
  have bound := gate.start_le_deadline
  cases stops : gate.context.stop? with
  | none =>
      refine .inl ⟨?_, ?_, by simp⟩
      · simp only [closing, stops]
      · simp only [expiry, stops]
        rfl
  | some stop =>
      by_cases within : stop ≤ gate.deadline
      · refine .inr ⟨stop, rfl, within, ?_, ?_⟩
        · simp only [closing, stops, Nat.min_eq_left within]
        · rw [expiry, stops]
          exact if_pos within
      · refine .inl ⟨?_, ?_, ?_⟩
        · simp only [closing, stops]
          omega
        · simp only [expiry, stops, if_neg within]
          rfl
        · intro other isOther
          cases isOther
          omega

theorem start_le_begins (remote : Responder σ) (gate : Gate) (world : σ) (poll : Nat) :
    gate.start ≤ begins remote gate world poll :=
  Nat.le_trans (Nat.le_add_right _ _) (start_add_le_begins remote gate world poll)

/-- The outcome of a wait is determined. -/
theorem Ends.unique {poll : Nat} {first second : Outcome σ (Except GateError Unit)}
    (firstEnds : Ends remote gate world poll first)
    (secondEnds : Ends remote gate world poll second) : first = second := by
  induction firstEnds generalizing second with
  | @before poll late =>
      have asked := begins_le_answered remote gate world poll
      cases secondEnds with
      | before _ => rfl
      | during early _ => omega
      | decided prompt _ => omega
      | again prompt _ _ => omega
  | @during poll early slow =>
      cases secondEnds with
      | before late => omega
      | during _ _ => rfl
      | decided prompt _ => omega
      | again prompt _ _ => omega
  | @decided poll verdict prompt found =>
      have asked := begins_le_answered remote gate world poll
      cases secondEnds with
      | before late => omega
      | during _ slow => omega
      | decided _ alsoFound =>
          rw [found, Option.some.injEq] at alsoFound
          rw [alsoFound]
      | again _ undecided _ =>
          rw [found] at undecided
          cases undecided
  | @again poll outcome prompt undecided _ ih =>
      have asked := begins_le_answered remote gate world poll
      cases secondEnds with
      | before late => omega
      | during _ slow => omega
      | decided _ found =>
          rw [found] at undecided
          cases undecided
      | again _ _ rest => rw [ih rest]

/-- A wait that has come to a poll does not end before that poll begins, unless it closes
earlier. -/
theorem Ends.le_instant {poll : Nat} {outcome : Outcome σ (Except GateError Unit)}
    (ends : Ends remote gate world poll outcome) :
    min (begins remote gate world poll) gate.closing ≤ outcome.instant := by
  induction ends with
  | before late => exact Nat.min_le_right _ _
  | during early slow => exact Nat.min_le_right _ _
  | @decided poll verdict prompt found =>
      exact Nat.le_trans (Nat.min_le_left _ _) (begins_le_answered remote gate world poll)
  | @again poll outcome prompt undecided _ ih =>
      have asked := begins_le_answered remote gate world poll
      have step : answered remote gate world poll ≤ begins remote gate world (poll + 1) :=
        answered_le_begins remote gate world (Nat.lt_succ_self poll)
      change _ ≤ outcome.instant
      omega

theorem lt_stop_of_lt_closing {gate : Gate} {instant stop : Nat} (waited : gate.start ≤ instant)
    (prompt : instant < gate.closing) (stops : gate.context.stop? = some stop) :
    instant < stop := by
  simp only [closing, stops] at prompt
  omega

/-- A wait is interrupted: it closes at the stop, or at once where that has passed, and it would
not have ended before without an interruption. -/
structure Interrupted (remote : Responder σ) (gate : Gate) (world : σ) (poll stop : Nat)
    (outcome : Outcome σ (Except GateError Unit)) : Prop where
  stops : gate.context.stop? = some stop
  instant : outcome.instant = max gate.start stop
  value : ∃ elapsed reason, outcome.value = .error (.interrupted gate.module elapsed reason)
  late : ∀ free, Ends remote gate.freed world poll free → stop ≤ free.instant

/-- Without an interruption a wait that has come to a poll does not end before it begins, unless
the time is over. -/
theorem Ends.le_instant_freed {poll : Nat} {free : Outcome σ (Except GateError Unit)}
    (ends : Ends remote gate.freed world poll free) :
    min (begins remote gate world poll) gate.deadline ≤ free.instant := by
  have reached := ends.le_instant
  rwa [begins_freed, closing_freed] at reached

/-- A poll that is on its way at the stop would not have been answered before. -/
theorem Ends.le_instant_of_slow {poll stop : Nat} {free : Outcome σ (Except GateError Unit)}
    (ends : Ends remote gate.freed world poll free)
    (slow : stop ≤ answered remote gate world poll) (within : stop ≤ gate.deadline) :
    stop ≤ free.instant := by
  cases ends with
  | before late => exact within
  | during _ _ => exact within
  | decided prompt found =>
      rw [answered_freed]
      exact slow
  | @again _ rest prompt undecided more =>
      have reached := more.le_instant_freed
      have step : answered remote gate world poll ≤ begins remote gate world (poll + 1) :=
        answered_le_begins remote gate world (Nat.lt_succ_self poll)
      change stop ≤ rest.instant
      omega

/-- Without an interruption as well a wait goes on behind a poll that decides nothing. -/
theorem Ends.rest_of_undecided {poll : Nat} {free : Outcome σ (Except GateError Unit)}
    (ends : Ends remote gate.freed world poll free)
    (prompt : answered remote gate world poll < gate.deadline)
    (undecided : finding remote gate world poll = none) :
    ∃ rest, Ends remote gate.freed world (poll + 1) rest ∧ free.instant = rest.instant := by
  cases ends with
  | before late =>
      have reached := begins_le_answered remote gate world poll
      rw [begins_freed, closing_freed] at late
      omega
  | during _ slow =>
      rw [answered_freed, closing_freed] at slow
      omega
  | decided _ found =>
      rw [finding_freed, undecided] at found
      cases found
  | again _ _ more => exact ⟨_, more, rfl⟩

/-- A wait ends as it does without an interruption, and before the stop, or it is
interrupted. -/
theorem Ends.freed_or_interrupted {poll : Nat} {outcome : Outcome σ (Except GateError Unit)}
    (ends : Ends remote gate world poll outcome) :
    (Ends remote gate.freed world poll outcome ∧
      ∀ stop, gate.context.stop? = some stop → outcome.instant < stop) ∨
    ∃ stop, Interrupted remote gate world poll stop outcome := by
  have bound := gate.closing_le_deadline
  induction ends with
  | @before poll late =>
      rcases gate.closing_cases with
        ⟨closes, expires, after⟩ | ⟨stop, stops, within, closes, expires⟩
      · rw [closes] at late ⊢
        rw [expires, ← schedule_freed]
        exact .inl ⟨.before (by simpa using late), after⟩
      · refine .inr ⟨stop, stops, closes, ⟨_, _, congrArg Except.error expires⟩, ?_⟩
        intro free freeEnds
        have reached := freeEnds.le_instant_freed
        omega
  | @during poll early slow =>
      rcases gate.closing_cases with
        ⟨closes, expires, after⟩ | ⟨stop, stops, within, closes, expires⟩
      · rw [closes] at early slow ⊢
        rw [expires, ← listing_freed, ← pollsFrom_freed]
        exact .inl ⟨.during (by simpa using early) (by simpa using slow), after⟩
      · refine .inr ⟨stop, stops, closes, ⟨_, _, congrArg Except.error expires⟩, ?_⟩
        exact fun free freeEnds => freeEnds.le_instant_of_slow (by omega) within
  | @decided poll verdict prompt found =>
      have waited : gate.start ≤ answered remote gate world poll :=
        Nat.le_trans (start_le_begins remote gate world poll)
          (begins_le_answered remote gate world poll)
      refine .inl ⟨?_, fun stop stops => lt_stop_of_lt_closing waited prompt stops⟩
      rw [← listing_freed, ← answered_freed, ← pollsFrom_freed]
      refine .decided ?_ ?_
      · rw [answered_freed]
        exact Nat.lt_of_lt_of_le prompt bound
      · rw [finding_freed]
        exact found
  | @again poll outcome prompt undecided _ ih =>
      have inTime := Nat.lt_of_lt_of_le prompt bound
      rcases ih with ⟨freeEnds, early⟩ | ⟨stop, interrupted⟩
      · refine .inl ⟨?_, early⟩
        rw [← pollsFrom_freed]
        exact .again (by rwa [answered_freed]) (by rwa [finding_freed]) freeEnds
      · refine .inr ⟨stop, interrupted.stops, interrupted.instant, interrupted.value, ?_⟩
        intro free freeEnds
        obtain ⟨rest, more, sameInstant⟩ := freeEnds.rest_of_undecided inTime undecided
        rw [sameInstant]
        exact interrupted.late rest more

/-- A wait ends as it does without an interruption, and before the stop, or it is
interrupted. -/
theorem await_freed_or_interrupted (remote : Responder σ) (gate : Gate) (world : σ) :
    (gate.await remote world = gate.freed.await remote world ∧
      ∀ stop, gate.context.stop? = some stop → (gate.await remote world).instant < stop) ∨
    ∃ stop, Interrupted remote gate world 0 stop (gate.await remote world) ∧
      stop ≤ (gate.freed.await remote world).instant := by
  have free := ends_await remote gate.freed world
  rcases (ends_await remote gate world).freed_or_interrupted with
    ⟨freeEnds, early⟩ | ⟨stop, interrupted⟩
  · exact .inl ⟨freeEnds.unique free, early⟩
  · exact .inr ⟨stop, interrupted, interrupted.late _ free⟩

/-- A wait without an interruption fails for the time that it takes, or with a listing. -/
theorem Ends.error_of_freed {poll : Nat} {outcome : Outcome σ (Except GateError Unit)}
    (ends : Ends remote gate.freed world poll outcome) {error : GateError}
    (failed : outcome.value = .error error) :
    (∃ elapsed allowed, error = .timeout gate.module elapsed allowed) ∨
      ∃ failure, error = .remote gate.module failure := by
  induction ends with
  | before late =>
      cases failed
      exact .inl ⟨_, _, rfl⟩
  | during early slow =>
      cases failed
      exact .inl ⟨_, _, rfl⟩
  | decided prompt found =>
      obtain rfl := failed
      rw [finding_eq_error_iff] at found
      obtain ⟨failure, _, isRemote⟩ := found
      exact .inr ⟨failure, isRemote⟩
  | again prompt undecided rest ih => exact ih failed

/-- A wait does not end before it starts. -/
theorem start_le_instant (remote : Responder σ) (gate : Gate) (world : σ) :
    gate.start ≤ (gate.await remote world).instant := by
  have reached := (ends_await remote gate world).le_instant
  have bound := gate.start_le_deadline
  have closes : gate.start ≤ gate.closing := by
    rw [closing]
    split <;> omega
  rw [begins_zero] at reached
  omega

end Gate

end Converge.Remote
