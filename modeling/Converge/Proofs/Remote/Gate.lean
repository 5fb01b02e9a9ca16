import Converge.Proofs.Context
import Converge.Remote.Rehearsal

/-!
# How the wait for a module ends

The polls of a wait follow a schedule that the remote side's answers fix: the first begins
at once, each of the others an interval after the one before, or when that is answered if it
takes longer. The wait ends with the first poll that finds the module healthy or fails,
provided that it is answered before the closing instant, which is the earlier of the
interruption and of the end of the time allowed. Otherwise it ends at that instant.

The loop counts its polls down. `Ends` says how it goes on without counting; there are
always enough polls, because they are an interval apart.
-/

namespace Converge

/-- A listing is judged by its first entry with the name. -/
theorem Stack.Listing.isHealthy_iff {name : String} {listing : Stack.Listing} :
    listing.isHealthy name = true ↔
      ∃ entry, listing.modules.find? (·.name == name) = some entry ∧ entry.healthy = true := by
  rw [isHealthy, module?]
  cases listing.modules.find? (·.name == name) with
  | none => simp
  | some entry => simp

namespace Remote.Gate

variable {σ : Type}

/-! ## The closing instant -/

/-- The instant at which the wait ends unless a poll decides it before. An interruption that
came before the wait counts from its start. -/
def closing (gate : Gate) : Nat :=
  match gate.context.stop? with
  | some stop => max gate.start (min stop gate.deadline)
  | none => gate.deadline

/-- What the wait ends with at the closing instant: an interruption counts before the end of
the time allowed. -/
def expiry (gate : Gate) : GateError :=
  let timeout := .timeout gate.module gate.patience.timeout gate.patience.timeout
  match gate.context.stop? with
  | some stop =>
      if stop ≤ gate.deadline then
        .interrupted gate.module (gate.closing - gate.start) (gate.context.reason gate.closing)
      else timeout
  | none => timeout

theorem start_le_deadline (gate : Gate) : gate.start ≤ gate.deadline :=
  Nat.le_add_right _ _

theorem closing_le_deadline (gate : Gate) : gate.closing ≤ gate.deadline := by
  have bound := gate.start_le_deadline
  rw [closing]
  split <;> omega

/-- What ends the wait between two instants is the closing instant, unless it has ended the
wait before. -/
theorem cut?_eq (gate : Gate) {now limit : Nat} (waited : gate.start ≤ now)
    (open_ : now = gate.start ∨ now < gate.closing) :
    gate.cut? now limit =
      if gate.closing ≤ limit then some (gate.closing, gate.expiry) else none := by
  have bound := gate.start_le_deadline
  cases stops : gate.context.stop? with
  | none =>
      rw [cut?, Context.interruptedBy_of_no_stop stops]
      simp only [closing, expiry, stops]
  | some stop =>
      rw [cut?, Context.interruptedBy_of_stop stops]
      simp only [closing, stops] at open_
      by_cases inTime : stop ≤ gate.deadline
      · have instant : max now stop = gate.closing := by
          simp only [closing, stops]
          omega
        have within : gate.closing ≤ min limit gate.deadline ↔ gate.closing ≤ limit := by
          have below := gate.closing_le_deadline
          omega
        rw [instant]
        simp only [within, expiry, stops, inTime, if_true]
        by_cases reached : gate.closing ≤ limit
        · simp [reached]
        · have before : ¬ gate.deadline ≤ limit := by
            have below := gate.closing_le_deadline
            omega
          simp [reached, before]
      · have late : ¬ max now stop ≤ min limit gate.deadline := by omega
        have closes : gate.closing = gate.deadline := by
          simp only [closing, stops]
          omega
        simp only [late, if_false, closes, expiry, stops, inTime]

/-! ## The schedule of polls -/

section Schedule

variable (remote : Responder σ) (gate : Gate) (world : σ)

/-- What the remote side has come to before each poll of a wait that nothing ends, and when
the poll begins. -/
def schedule : Nat → σ × Nat
  | 0 => (world, gate.start)
  | poll + 1 =>
      let (before, tick) := schedule poll
      let reply := remote.reply before .listModules
      (reply.after, max (tick + gate.patience.interval) (tick + reply.delay))

/-- When a poll begins. -/
def begins (poll : Nat) : Nat := (schedule remote gate world poll).2

/-- How the remote side treats a poll. -/
def listing (poll : Nat) : Reply σ .listModules :=
  remote.reply (schedule remote gate world poll).1 .listModules

/-- When a poll is answered. -/
def answered (poll : Nat) : Nat :=
  begins remote gate world poll + (listing remote gate world poll).delay

/-- What a poll finds. -/
def finding (poll : Nat) : Option (Except GateError Unit) :=
  gate.verdict (listing remote gate world poll).answer

/-- The log of the polls from one on. -/
def pollsFrom (first count : Nat) : List Entry :=
  (List.range' first count).map fun poll => ⟨begins remote gate world poll, .listModules⟩

@[simp] theorem begins_zero : begins remote gate world 0 = gate.start := rfl

theorem begins_succ (poll : Nat) :
    begins remote gate world (poll + 1) =
      max (begins remote gate world poll + gate.patience.interval)
        (answered remote gate world poll) := rfl

theorem begins_le_answered (poll : Nat) :
    begins remote gate world poll ≤ answered remote gate world poll :=
  Nat.le_add_right _ _

theorem answered_le_begins {earlier later : Nat} (order : earlier < later) :
    answered remote gate world earlier ≤ begins remote gate world later := by
  induction later with
  | zero => omega
  | succ later ih =>
      rw [begins_succ]
      rcases Nat.lt_succ_iff_lt_or_eq.mp order with before | rfl
      · have step := ih before
        omega
      · omega

theorem start_add_le_begins (poll : Nat) :
    gate.start + poll * gate.patience.interval ≤ begins remote gate world poll := by
  induction poll with
  | zero => simp
  | succ poll ih =>
      rw [begins_succ, Nat.succ_mul]
      omega

end Schedule

/-! ## The loop without its count -/

/-- How a wait that has come to a poll goes on and ends. -/
inductive Ends (remote : Responder σ) (gate : Gate) (world : σ) :
    Nat → Outcome σ (Except GateError Unit) → Prop where
  /-- The poll would begin too late. -/
  | before {poll : Nat} :
      gate.closing ≤ begins remote gate world poll →
      Ends remote gate world poll
        ⟨.error gate.expiry, (schedule remote gate world poll).1, gate.closing, []⟩
  /-- The poll would be answered too late. -/
  | during {poll : Nat} :
      begins remote gate world poll < gate.closing →
      gate.closing ≤ answered remote gate world poll →
      Ends remote gate world poll
        ⟨.error gate.expiry, (listing remote gate world poll).abandoned, gate.closing,
          pollsFrom remote gate world poll 1⟩
  /-- The poll decides. -/
  | decided {poll : Nat} {verdict : Except GateError Unit} :
      answered remote gate world poll < gate.closing →
      finding remote gate world poll = some verdict →
      Ends remote gate world poll
        ⟨verdict, (listing remote gate world poll).after, answered remote gate world poll,
          pollsFrom remote gate world poll 1⟩
  /-- The poll leaves it open, and the next one follows. -/
  | again {poll : Nat} {outcome : Outcome σ (Except GateError Unit)} :
      answered remote gate world poll < gate.closing →
      finding remote gate world poll = none →
      Ends remote gate world (poll + 1) outcome →
      Ends remote gate world poll (outcome.behind (pollsFrom remote gate world poll 1))

/-- As long as the polls left reach to the end of the time allowed, the loop goes as `Ends`
says. -/
theorem ends_poll (remote : Responder σ) (gate : Gate) (world : σ) {polls poll now : Nat}
    (enough : gate.deadline ≤ begins remote gate world poll + polls * gate.patience.interval)
    (waited : gate.start ≤ now) (open_ : now = gate.start ∨ now < gate.closing)
    (order : now ≤ begins remote gate world poll) :
    Ends remote gate world poll
      (Gate.poll remote gate (polls + 1) (schedule remote gate world poll).1 now
        (begins remote gate world poll)) := by
  induction polls generalizing poll now with
  | zero =>
      have late : gate.closing ≤ begins remote gate world poll := by
        have bound := gate.closing_le_deadline
        omega
      rw [Gate.poll, gate.cut?_eq waited open_, if_pos late]
      exact .before late
  | succ polls ih =>
      rw [Gate.poll, gate.cut?_eq waited open_]
      by_cases late : gate.closing ≤ begins remote gate world poll
      · rw [if_pos late]
        exact .before late
      · rw [if_neg late]
        have early : begins remote gate world poll < gate.closing := by omega
        have asked : gate.start ≤ begins remote gate world poll := by omega
        simp only [gate.cut?_eq asked (.inr early)]
        by_cases slow : gate.closing ≤ answered remote gate world poll
        · rw [answered, listing] at slow
          simp only [slow, if_true]
          exact .during early slow
        · have prompt : answered remote gate world poll < gate.closing := by omega
          rw [answered, listing] at slow
          simp only [slow, if_false]
          cases found : finding remote gate world poll with
          | some verdict =>
              rw [finding, listing] at found
              simp only [found]
              exact .decided prompt found
          | none =>
              have undecided := found
              rw [finding, listing] at found
              simp only [found]
              refine .again prompt undecided (ih ?_ ?_ (.inr prompt) ?_)
              · have step := begins_succ remote gate world poll
                rw [Nat.succ_mul] at enough
                omega
              · exact Nat.le_trans asked (begins_le_answered remote gate world poll)
              · exact answered_le_begins remote gate world (Nat.lt_succ_self poll)

theorem ends_await (remote : Responder σ) (gate : Gate) (world : σ) :
    Ends remote gate world 0 (gate.await remote world) := by
  have positive := gate.patience.interval_pos
  have rest := Nat.mod_lt gate.patience.timeout positive
  have parts := Nat.div_add_mod gate.patience.timeout gate.patience.interval
  refine ends_poll remote gate world ?_ (Nat.le_refl _) (.inl rfl) (Nat.le_refl _)
  rw [begins_zero, deadline, Nat.succ_mul, Nat.mul_comm]
  omega

/-! ## Decided or overdue -/

variable {remote : Responder σ} {gate : Gate} {world : σ}

/-- A wait is overdue at the closing instant if no poll answered before then finds
something. -/
structure Overdue (remote : Responder σ) (gate : Gate) (world : σ) (first count : Nat)
    (outcome : Outcome σ (Except GateError Unit)) : Prop where
  open_ : ∀ poll, first ≤ poll → answered remote gate world poll < gate.closing →
    finding remote gate world poll = none
  value : outcome.value = .error gate.expiry
  instant : outcome.instant = gate.closing
  begun : ∀ poll, poll < first + count → begins remote gate world poll < gate.closing
  unbegun : gate.closing ≤ begins remote gate world (first + count)
  log : outcome.log = pollsFrom remote gate world first count

theorem finding_eq_error_iff (poll : Nat) (error : GateError) :
    finding remote gate world poll = some (.error error) ↔
      ∃ failure, (listing remote gate world poll).answer = .error failure ∧
        error = .remote gate.module failure := by
  cases answer : (listing remote gate world poll).answer with
  | error failure => simp [finding, verdict, answer, eq_comm]
  | ok shown =>
      simp only [finding, verdict, answer]
      split <;> simp

end Remote.Gate

end Converge
