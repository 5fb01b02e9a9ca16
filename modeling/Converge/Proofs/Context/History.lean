import Converge.Proofs.Context

/-!
# What is taken in one context

A context is asked whether it is interrupted, waited on until it is, and used to do work in.
Whoever holds it shares its signal and its deadline, so a step by any holder is a step in the one
context, and steps of several holders may overlap. However a step asks, it is told of an
interruption exactly where the context interrupts, and of the one that counts at that instant.
Hence an interruption that has been told stays: every step that is begun from then on is told of
one at once, and the only change is from a passed deadline to a cancellation.
-/

namespace Converge.Context

variable {context : Context} {now later instant stop : Nat} {reason : Interruption}

/-! ## The instants of a context -/

/-- The context has been cancelled by an instant. -/
def Cancelled (context : Context) (now : Nat) : Prop :=
  ∃ instant, context.cancelAt = some instant ∧ instant ≤ now

/-- The deadline of the context has passed by an instant. -/
def Overdue (context : Context) (now : Nat) : Prop :=
  ∃ instant, context.deadline = some instant ∧ instant ≤ now

/-- The earlier of the cancellation and the deadline, where both are set, or the one that is. -/
structure Stops (context : Context) (stop : Nat) : Prop where
  isSet : context.cancelAt = some stop ∨ context.deadline = some stop
  least : ∀ instant, context.cancelAt = some instant ∨ context.deadline = some instant →
    stop ≤ instant

theorem due_eq_true_iff {instant : Option Nat} :
    due instant now = true ↔ ∃ due, instant = some due ∧ due ≤ now := by
  cases instant with
  | none => simp [due]
  | some instant => simp [due]

theorem interruption?_cancelled (cancelled : context.Cancelled now) :
    context.interruption? now = some .cancelled := by
  rw [interruption?, if_pos (due_eq_true_iff.mpr cancelled)]

theorem interruption?_overdue (cancelled : ¬ context.Cancelled now)
    (overdue : context.Overdue now) :
    context.interruption? now = some .deadlineExceeded := by
  rw [interruption?, if_neg (mt due_eq_true_iff.mp cancelled),
    if_pos (due_eq_true_iff.mpr overdue)]

theorem interruption?_eq_none_iff :
    context.interruption? now = none ↔ ¬ context.Cancelled now ∧ ¬ context.Overdue now := by
  constructor
  · intro free
    constructor
    · intro cancelled
      rw [interruption?_cancelled cancelled] at free
      cases free
    · intro overdue
      by_cases cancelled : context.Cancelled now
      · rw [interruption?_cancelled cancelled] at free
        cases free
      · rw [interruption?_overdue cancelled overdue] at free
        cases free
  · rintro ⟨notCancelled, notOverdue⟩
    rw [interruption?, if_neg (mt due_eq_true_iff.mp notCancelled),
      if_neg (mt due_eq_true_iff.mp notOverdue)]

theorem stop?_eq_some_iff : context.stop? = some stop ↔ context.Stops stop := by
  obtain ⟨cancelAt, deadline⟩ := context
  constructor
  · intro stops
    cases cancelAt <;> cases deadline <;>
      simp only [stop?, reduceCtorEq, Option.some.injEq] at stops
    · subst stops
      exact ⟨.inr rfl, by simp⟩
    · subst stops
      exact ⟨.inl rfl, by simp⟩
    · subst stops
      refine ⟨?_, ?_⟩
      · simp only [Option.some.injEq]
        omega
      · simp only [Option.some.injEq]
        omega
  · rintro ⟨isSet, least⟩
    cases cancelAt <;> cases deadline <;>
      simp only [stop?, reduceCtorEq, Option.some.injEq, or_false, false_or] at isSet least ⊢
    · exact isSet
    · exact isSet
    · have first := least _ (.inl rfl)
      have second := least _ (.inr rfl)
      omega

/-- From its stop on a context is cancelled or overdue, and not before. -/
theorem Stops.le_iff (stops : context.Stops stop) :
    stop ≤ now ↔ context.Cancelled now ∨ context.Overdue now := by
  constructor
  · intro reached
    rcases stops.isSet with cancel | deadline
    · exact .inl ⟨stop, cancel, reached⟩
    · exact .inr ⟨stop, deadline, reached⟩
  · rintro (⟨instant, isSet, reached⟩ | ⟨instant, isSet, reached⟩)
    · exact Nat.le_trans (stops.least instant (.inl isSet)) reached
    · exact Nat.le_trans (stops.least instant (.inr isSet)) reached

/-- What interrupts a context at an instant interrupts it later on: the same, or a cancellation
behind a passed deadline. -/
theorem interruption?_mono (interrupted : context.interruption? now = some reason)
    (behind : now ≤ later) :
    ∃ next, context.interruption? later = some next ∧
      (next = reason ∨ reason = .deadlineExceeded ∧ next = .cancelled) := by
  have lasts {due : Option Nat} : (∃ instant, due = some instant ∧ instant ≤ now) →
      ∃ instant, due = some instant ∧ instant ≤ later :=
    fun ⟨instant, isSet, reached⟩ => ⟨instant, isSet, Nat.le_trans reached behind⟩
  by_cases cancelled : context.Cancelled now
  · rw [interruption?_cancelled cancelled, Option.some.injEq] at interrupted
    exact ⟨.cancelled, interruption?_cancelled (lasts cancelled), .inl interrupted⟩
  · by_cases overdue : context.Overdue now
    · rw [interruption?_overdue cancelled overdue, Option.some.injEq] at interrupted
      by_cases cancelledSince : context.Cancelled later
      · exact ⟨.cancelled, interruption?_cancelled cancelledSince, .inr ⟨interrupted.symm, rfl⟩⟩
      · exact ⟨.deadlineExceeded, interruption?_overdue cancelledSince (lasts overdue),
          .inl interrupted⟩
    · rw [interruption?_eq_none_iff.mpr ⟨cancelled, overdue⟩] at interrupted
      cases interrupted

/-- A cancellation is noticed from its instant on, and says nothing about the time before. -/
theorem interruption?_cancel (context : Context) (instant now : Nat) :
    (context.cancel instant).interruption? now =
      if instant ≤ now then some .cancelled else context.interruption? now := by
  have cancelled : (context.cancel instant).Cancelled now ↔
      instant ≤ now ∨ context.Cancelled now := by
    obtain ⟨cancelAt, deadline⟩ := context
    cases cancelAt with
    | none => simp [Cancelled, cancel]
    | some earlier =>
        simp only [Cancelled, cancel, Option.some.injEq, exists_eq_left']
        omega
  have overdue : (context.cancel instant).Overdue now ↔ context.Overdue now := Iff.rfl
  by_cases reached : instant ≤ now
  · rw [if_pos reached, interruption?_cancelled (cancelled.mpr (.inl reached))]
  · rw [if_neg reached]
    have same : (context.cancel instant).Cancelled now ↔ context.Cancelled now := by
      rw [cancelled, or_iff_right reached]
    simp only [interruption?, due_eq_true_iff]
    exact ite_congr (propext same) (fun _ => rfl) fun _ => rfl

/-! ## Steps -/

/-- What a holder of a context does with it. -/
inductive Step where
  /-- Ask whether it is interrupted. -/
  | check
  /-- Wait until it is interrupted. -/
  | interrupted
  /-- Do work of some length in it. -/
  | run (length : Nat)
deriving DecidableEq, Repr

/-- What a step begun at an instant comes to, and when. A wait for an interruption that is not
found up to any limit does not come to an end. -/
inductive Ends (context : Context) (now : Nat) : Step → Option (Ending Unit) → Prop where
  | passed (free : context.interruption? now = none) : Ends context now .check (some ⟨.ok (), now⟩)
  | refused {reason : Interruption} (found : context.interruption? now = some reason) :
      Ends context now .check (some ⟨.error reason, now⟩)
  | waited {limit instant : Nat} {reason : Interruption}
      (found : context.interruptedBy now limit = some (instant, reason)) :
      Ends context now .interrupted (some ⟨.error reason, instant⟩)
  | waits (free : ∀ limit, context.interruptedBy now limit = none) :
      Ends context now .interrupted none
  | done (length : Nat) : Ends context now (.run length) (some (context.run now length))

/-- A wait ends at the stop, or at once where the stop has passed. -/
theorem ends_interrupted_iff (stops : context.Stops stop) {outcome : Option (Ending Unit)} :
    context.Ends now .interrupted outcome ↔
      outcome = some ⟨.error (context.reason (max now stop)), max now stop⟩ := by
  have isStop := stop?_eq_some_iff.mpr stops
  constructor
  · intro ends
    cases ends with
    | waited found =>
        rw [interruptedBy_of_stop isStop] at found
        split at found
        · cases found
          rfl
        · cases found
    | waits free =>
        have never := free (max now stop)
        rw [interruptedBy_of_stop isStop, if_pos (Nat.le_refl _)] at never
        cases never
  · rintro rfl
    have notices : context.interruptedBy now (max now stop) =
        some (max now stop, context.reason (max now stop)) := by
      rw [interruptedBy_of_stop isStop, if_pos (Nat.le_refl _)]
    exact .waited notices

/-- A wait in a context that nothing stops does not end. -/
theorem ends_interrupted_of_free (uncancelled : context.cancelAt = none)
    (unlimited : context.deadline = none) {outcome : Option (Ending Unit)} :
    context.Ends now .interrupted outcome ↔ outcome = none := by
  have free : context.stop? = none := by rw [stop?, uncancelled, unlimited]
  constructor
  · intro ends
    cases ends with
    | waited found =>
        rw [interruptedBy_of_no_stop free] at found
        cases found
    | waits free => rfl
  · rintro rfl
    exact .waits fun limit => interruptedBy_of_no_stop free now limit

/-- Whatever step is told of an interruption is told of the one at that instant. -/
theorem Ends.interruption? {step : Step}
    (ends : context.Ends now step (some ⟨.error reason, instant⟩)) :
    context.interruption? instant = some reason := by
  generalize told : (some ⟨.error reason, instant⟩ : Option (Ending Unit)) = outcome at ends
  cases ends with
  | passed free => cases told
  | refused found =>
      cases told
      exact found
  | waited found =>
      cases told
      exact interruption?_of_interruptedBy found
  | waits free => cases told
  | done length =>
      have same := Option.some.inj told
      have stopped : (context.run now length).result = .error reason := by rw [← same]
      have found := interruption?_of_run stopped
      rwa [← same] at found

/-- A context that is interrupted has a stop, and has reached it. -/
theorem exists_stops (interrupted : context.interruption? now = some reason) :
    ∃ stop, context.Stops stop ∧ stop ≤ now := by
  cases isStop : context.stop? with
  | none =>
      rw [interruption?_of_no_stop isStop] at interrupted
      cases interrupted
  | some stop =>
      refine ⟨stop, stop?_eq_some_iff.mp isStop, Nat.not_lt.mp fun early => ?_⟩
      rw [interruption?_of_lt_stop isStop early] at interrupted
      cases interrupted

/-- In a context that is interrupted each step is told so at once. -/
theorem Ends.of_interrupted {step : Step} {outcome : Option (Ending Unit)}
    (interrupted : context.interruption? now = some reason)
    (ends : context.Ends now step outcome) : outcome = some ⟨.error reason, now⟩ := by
  cases step with
  | check =>
      cases ends with
      | passed free =>
          rw [free] at interrupted
          cases interrupted
      | refused found =>
          rw [found] at interrupted
          cases interrupted
          rfl
  | interrupted =>
      obtain ⟨stop, stops, reached⟩ := exists_stops interrupted
      have counts := interruption?_of_stop_le (stop?_eq_some_iff.mpr stops) reached
      rw [interrupted, Option.some.injEq] at counts
      rw [(ends_interrupted_iff stops).mp ends, Nat.max_eq_left reached, counts]
  | run length =>
      cases ends with
      | done => rw [run, interrupted]

/-- Once a step has been told of an interruption, those that are begun from then on are told of
one. -/
theorem Ends.sticks {step other : Step} {outcome : Option (Ending Unit)}
    (told : context.Ends now step (some ⟨.error reason, instant⟩)) (behind : instant ≤ later)
    (ends : context.Ends later other outcome) :
    ∃ next, outcome = some ⟨.error next, later⟩ ∧
      (next = reason ∨ reason = .deadlineExceeded ∧ next = .cancelled) := by
  obtain ⟨next, interrupted, turned⟩ := interruption?_mono told.interruption? behind
  exact ⟨next, ends.of_interrupted interrupted, turned⟩

/-! ## Checks and work -/

theorem ends_check_refused_iff :
    (∃ reason, context.Ends now .check (some ⟨.error reason, now⟩)) ↔
      context.Cancelled now ∨ context.Overdue now := by
  constructor
  · rintro ⟨reason, ends⟩
    obtain ⟨stop, stops, reached⟩ := exists_stops ends.interruption?
    exact stops.le_iff.mp reached
  · intro stopped
    by_cases cancelled : context.Cancelled now
    · exact ⟨.cancelled, .refused (interruption?_cancelled cancelled)⟩
    · have overdue := stopped.resolve_left cancelled
      exact ⟨.deadlineExceeded, .refused (interruption?_overdue cancelled overdue)⟩

theorem ends_check_passed_iff :
    context.Ends now .check (some ⟨.ok (), now⟩) ↔
      ¬ (context.Cancelled now ∨ context.Overdue now) := by
  rw [not_or, ← interruption?_eq_none_iff]
  constructor
  · intro ends
    cases ends with
    | passed free => exact free
  · exact .passed

/-- Work is done exactly where the context does not stop at its beginning, nor up to its end if
it takes time. -/
theorem run_done_iff {length : Nat} :
    context.run now length = ⟨.ok (), now + length⟩ ↔
      ¬ (context.Cancelled now ∨ context.Overdue now) ∧
        (0 < length → ¬ (context.Cancelled (now + length) ∨ context.Overdue (now + length))) := by
  cases isStop : context.stop? with
  | none =>
      have never (instant : Nat) : ¬ (context.Cancelled instant ∨ context.Overdue instant) :=
        not_or.mpr (interruption?_eq_none_iff.mp (interruption?_of_no_stop isStop instant))
      rw [run_of_no_stop isStop]
      exact iff_of_true rfl ⟨never now, fun _ => never (now + length)⟩
  | some stop =>
      have stops := stop?_eq_some_iff.mp isStop
      rw [run_of_stop isStop, ← stops.le_iff, ← stops.le_iff]
      by_cases reached : stop ≤ now
      · simp [reached]
      · by_cases cut : stop ≤ now + length
        · have takesTime : 0 < length := by omega
          simp [reached, cut, takesTime]
        · simp [reached, cut]

/-- Work that is not done is stopped, at once or where the context stops. -/
theorem run_stopped {length : Nat} (cut : context.run now length ≠ ⟨.ok (), now + length⟩) :
    ∃ stop, context.Stops stop ∧
      context.run now length = ⟨.error (context.reason (max now stop)), max now stop⟩ := by
  cases isStop : context.stop? with
  | none => exact absurd (run_of_no_stop isStop now length) cut
  | some stop =>
      refine ⟨stop, stop?_eq_some_iff.mp isStop, ?_⟩
      rw [run_of_stop isStop] at cut ⊢
      by_cases reached : stop ≤ now
      · rw [if_pos reached, Nat.max_eq_left reached]
      · rw [if_neg reached] at cut ⊢
        by_cases within : stop ≤ now + length
        · rw [if_pos within, Nat.max_eq_right (by omega)]
        · rw [if_neg within] at cut
          exact absurd rfl cut

/-! ## Histories -/

/-- A step that is taken: when it is begun, and what it comes to. -/
structure Taken where
  step : Step
  start : Nat
  outcome : Option (Ending Unit)

/-- Steps taken in a context from an instant on by whoever holds it, in the order in which they
are begun. They need not wait for each other. -/
inductive History (context : Context) : (now : Nat) → List Taken → Prop where
  | nil (now : Nat) : History context now []
  | cons {now start : Nat} {step : Step} {outcome : Option (Ending Unit)} {rest : List Taken}
      (begun : now ≤ start) (ends : context.Ends start step outcome)
      (goesOn : History context start rest) : History context now (⟨step, start, outcome⟩ :: rest)

/-- Where the first of two steps is told of an interruption and the second is begun no earlier
than that, the second is told of one at once. -/
def Taken.Binds (earlier later : Taken) : Prop :=
  ∀ reason instant, earlier.outcome = some ⟨.error reason, instant⟩ → instant ≤ later.start →
    ∃ next, later.outcome = some ⟨.error next, later.start⟩ ∧
      (next = reason ∨ reason = .deadlineExceeded ∧ next = .cancelled)

theorem History.ends {taken : List Taken} (history : History context now taken) :
    ∀ one ∈ taken, context.Ends one.start one.step one.outcome := by
  induction history with
  | nil => exact nofun
  | cons begun ends goesOn ih => exact List.forall_mem_cons.mpr ⟨ends, ih⟩

theorem History.binds {taken : List Taken} (history : History context now taken) :
    taken.Pairwise Taken.Binds := by
  induction history with
  | nil => exact .nil
  | cons begun ends goesOn ih =>
      refine .cons ?_ ih
      intro later member reason instant told behind
      dsimp only at told
      rw [told] at ends
      exact ends.sticks behind (goesOn.ends later member)

/-- **Interruption sticks.** A check is refused from the cancellation or the deadline on, with the
cancellation where there has been one. Work is done exactly where the check before it passes and
neither comes up to its end, where it takes time at all, and else is stopped at the first of them,
or at once behind it; a wait ends there, and not at all where there is none. In every history of
such steps, whichever has been told of an interruption, those begun from then on are told of one
at once, and the reason changes at most from the deadline to a cancellation. Whoever cancels, the
cancellation counts from its instant on, and says nothing about the time before. -/
theorem interruption_sticks (context : Context) (now : Nat) :
    (((∃ reason, context.Ends now .check (some ⟨.error reason, now⟩)) ↔
        context.Cancelled now ∨ context.Overdue now) ∧
      (context.Cancelled now → context.Ends now .check (some ⟨.error .cancelled, now⟩))) ∧
    (∀ length,
      (context.run now length = ⟨.ok (), now + length⟩ ↔
        context.Ends now .check (some ⟨.ok (), now⟩) ∧
          (0 < length → ¬ (context.Cancelled (now + length) ∨ context.Overdue (now + length)))) ∧
      (context.run now length ≠ ⟨.ok (), now + length⟩ → ∃ stop, context.Stops stop ∧
        context.run now length = ⟨.error (context.reason (max now stop)), max now stop⟩)) ∧
    ((∀ stop, context.Stops stop → ∀ outcome, context.Ends now .interrupted outcome ↔
        outcome = some ⟨.error (context.reason (max now stop)), max now stop⟩) ∧
      (context.cancelAt = none → context.deadline = none → ∀ outcome,
        context.Ends now .interrupted outcome ↔ outcome = none)) ∧
    (∀ taken, History context now taken → taken.Pairwise Taken.Binds) ∧
    ∀ instant, (context.cancel instant).interruption? now =
      if instant ≤ now then some .cancelled else context.interruption? now := by
  refine ⟨⟨ends_check_refused_iff, fun cancelled => .refused (interruption?_cancelled cancelled)⟩,
    fun length => ⟨?_, run_stopped⟩, ⟨fun stop stops outcome => ends_interrupted_iff stops,
      fun uncancelled unlimited outcome => ends_interrupted_of_free uncancelled unlimited⟩,
    fun taken history => history.binds, fun instant => interruption?_cancel context instant now⟩
  rw [ends_check_passed_iff, run_done_iff]

/-- A context that is cancelled behind its deadline. -/
def late : Context := ⟨some 25, some 20⟩

/-- Work that is done, work that the deadline cuts off, and what is asked behind it: before the
cancellation, by a wait across it, and after it. -/
def lateTaken : List Taken :=
  [⟨.run 15, 0, some ⟨.ok (), 15⟩⟩, ⟨.run 10, 15, some ⟨.error .deadlineExceeded, 20⟩⟩,
    ⟨.interrupted, 18, some ⟨.error .deadlineExceeded, 20⟩⟩,
    ⟨.check, 22, some ⟨.error .deadlineExceeded, 22⟩⟩, ⟨.run 5, 30, some ⟨.error .cancelled, 30⟩⟩]

theorem late_stops : late.Stops 20 where
  isSet := .inr rfl
  least := by
    rintro instant (cancel | deadline)
    · cases cancel
      decide
    · cases deadline
      decide

theorem late_waited : late.interruptedBy 18 20 = some (20, .deadlineExceeded) := rfl

theorem lateTaken_history : History late 0 lateTaken :=
  .cons (by decide) (.done 15) <| .cons (by decide) (.done 10) <|
    .cons (by decide) (.waited late_waited) <| .cons (by decide) (.refused rfl) <|
      .cons (by decide) (.done 5) <| .nil 30

/-- Behind the deadline each step is told of an interruption, and at last of the cancellation; a
wait in a context without either has no end. -/
theorem interruption_sticks_late :
    late.Cancelled 30 ∧ late.Ends 30 .check (some ⟨.error .cancelled, 30⟩) ∧
      late.run 15 10 ≠ ⟨.ok (), 15 + 10⟩ ∧ (∃ stop, late.Stops stop ∧
        late.run 15 10 = ⟨.error (late.reason (max 15 stop)), max 15 stop⟩) ∧
      late.Ends 18 .interrupted (some ⟨.error .deadlineExceeded, 20⟩) ∧
      History late 0 lateTaken ∧ lateTaken.Pairwise Taken.Binds ∧
      free.Ends 0 .interrupted none := by
  have cancelled : late.Cancelled 30 := ⟨25, rfl, by decide⟩
  have refused := (interruption_sticks late 30).1.2 cancelled
  have cut : late.run 15 10 ≠ ⟨.ok (), 15 + 10⟩ := by
    rw [show late.run 15 10 = ⟨.error .deadlineExceeded, 20⟩ from rfl]
    exact nofun
  have stopped := ((interruption_sticks late 15).2.1 10).2 cut
  have waited := ((interruption_sticks late 18).2.2.1.1 20 late_stops _).mpr rfl
  have binds := (interruption_sticks late 0).2.2.2.1 lateTaken lateTaken_history
  have never := ((interruption_sticks free 0).2.2.1.2 rfl rfl none).mpr rfl
  exact ⟨cancelled, refused, cut, stopped, waited, lateTaken_history, binds, never⟩

end Converge.Context
