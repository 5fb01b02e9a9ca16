import Converge.Proofs.Remote.Gate

/-!
# Calls with their answers

The log of a run names its calls and not what they were answered. A remote side that takes
notes of its calls leads to the same runs, and its notes follow the log: each call with what
the caller learned of it, and with the time that the remote side took.

`Polled`, `Asked` and `Runs` say how a wait, a call and a program come to their outcomes, with
the calls that they have on the way. An interruption shows in all three alike: no call begins
behind it, and one that is on its way then is not answered.
-/

namespace Converge.Remote

variable {σ α β : Type}

/-- A call with its answer, or without one where the caller did not wait for it. -/
structure Exchange where
  call : Call
  answer? : Option (Except Failure call.Answer)

/-- A poll of the module that found it healthy. -/
def Exchange.FindsHealthy (module : String) (exchange : Exchange) : Prop :=
  ∃ listing, exchange = ⟨.listModules, some (.ok listing)⟩ ∧ listing.isHealthy module = true

/-- An exchange in time: when its call begins, and how long the remote side takes. -/
structure Flight extends Exchange where
  begun : Nat
  delay : Nat

namespace Flight

/-- When the call is answered. -/
def due (flight : Flight) : Nat := flight.begun + flight.delay

def entry (flight : Flight) : Entry := ⟨flight.begun, flight.call⟩

end Flight

/-- Calls that an instant cuts off: they begin before it, and only the last one may be due at
it or later, which is then not answered. -/
inductive Flown (stop : Nat) : List Flight → Prop where
  | nil : Flown stop []
  | landed {flight : Flight} {flights : List Flight} (early : flight.due < stop)
      (rest : Flown stop flights) : Flown stop (flight :: flights)
  | cut {flight : Flight} (early : flight.begun < stop) (unanswered : flight.answer? = none) :
      Flown stop [flight]

theorem Flown.append {stop : Nat} {first second : List Flight}
    (landed : ∀ flight ∈ first, flight.due < stop) (flown : Flown stop second) :
    Flown stop (first ++ second) := by
  induction first with
  | nil => exact flown
  | cons flight first ih =>
      apply Flown.landed (landed flight (List.mem_cons_self ..))
      apply ih
      intro other member
      exact landed other (List.mem_cons_of_mem _ member)

theorem Flown.begun_lt {stop : Nat} {flights : List Flight} (flown : Flown stop flights) :
    ∀ flight ∈ flights, flight.begun < stop := by
  induction flown with
  | nil => simp
  | @landed flight flights early rest ih =>
      intro other member
      rcases List.mem_cons.mp member with rfl | later
      · exact Nat.lt_of_le_of_lt (Nat.le_add_right _ _) early
      · exact ih other later
  | @cut flight early unanswered =>
      intro other member
      rw [List.mem_singleton.mp member]
      exact early

theorem Flown.abandoned {stop : Nat} {flights : List Flight} (flown : Flown stop flights) :
    ∀ before flight after, flights = before ++ flight :: after → stop ≤ flight.due →
      flight.answer? = none ∧ after = [] := by
  induction flown with
  | nil =>
      intro before flight after split
      simp at split
  | @landed first flights early rest ih =>
      intro before flight after split late
      cases before with
      | nil =>
          obtain ⟨rfl, _⟩ := List.cons.inj split
          omega
      | cons head before => exact ih before flight after (List.cons.inj split).2 late
  | @cut first early unanswered =>
      intro before flight after split late
      cases before with
      | nil =>
          obtain ⟨rfl, nothing⟩ := List.cons.inj split
          exact ⟨unanswered, nothing.symm⟩
      | cons head before => simp at split

/-! ## Remote sides that take notes -/

/-- The remote side with a note on each call: on the exchange, and on the time it takes. -/
def Responder.noting {τ : Type} (remote : Responder σ) (note : Exchange → Nat → τ) :
    Responder (σ × List τ) where
  reply world call :=
    let reply := remote.reply world.1 call
    ⟨reply.delay, reply.answer,
      (reply.after, world.2 ++ [note ⟨call, some reply.answer⟩ reply.delay]),
      (reply.abandoned, world.2 ++ [note ⟨call, none⟩ reply.delay])⟩

@[simp] theorem Responder.noting_reply {τ : Type} (remote : Responder σ)
    (note : Exchange → Nat → τ) (world : σ) (notes : List τ) (call : Call) :
    (remote.noting note).reply (world, notes) call =
      ⟨(remote.reply world call).delay, (remote.reply world call).answer,
        ((remote.reply world call).after,
          notes ++ [note ⟨call, some (remote.reply world call).answer⟩
            (remote.reply world call).delay]),
        ((remote.reply world call).abandoned,
          notes ++ [note ⟨call, none⟩ (remote.reply world call).delay])⟩ := rfl

/-- The outcome together with notes. -/
def Outcome.noted {τ : Type} (outcome : Outcome σ α) (notes : List τ) : Outcome (σ × List τ) α :=
  ⟨outcome.value, (outcome.world, notes), outcome.instant, outcome.log⟩

/-- The notes on calls. -/
def notesOn {τ : Type} (note : Exchange → Nat → τ) (flights : List Flight) : List τ :=
  flights.map fun flight => note flight.toExchange flight.delay

@[simp] theorem notesOn_append {τ : Type} (note : Exchange → Nat → τ)
    (first second : List Flight) :
    notesOn note (first ++ second) = notesOn note first ++ notesOn note second :=
  List.map_append

/-! ## Waits -/

/-- Where nothing ends a wait up to some instant, that instant lies before the stop. -/
theorem Gate.lt_stop_of_open {gate : Gate} {now limit stop : Nat}
    (stops : gate.context.stop? = some stop) (order : now ≤ limit)
    (open_ : gate.cut? now limit = none) : limit < stop := by
  rw [Gate.cut?, Context.interruptedBy_of_stop stops] at open_
  split at open_
  · cases open_
  · rename_i notInterrupted
    have early : ¬ gate.deadline ≤ limit := by
      intro late
      rw [if_pos late] at open_
      cases open_
    apply Nat.lt_of_not_le
    intro reached
    have within : max now stop ≤ min limit gate.deadline := by omega
    rw [if_pos within] at notInterrupted
    cases notInterrupted

/-- What the polls of a wait show of its outcome. -/
structure Gate.Polled (gate : Gate) (polls : List Flight)
    (outcome : Outcome σ (Except GateError Unit)) : Prop where
  log : polls.map Flight.entry = outcome.log
  listings : ∀ poll ∈ polls, poll.call = .listModules
  healthy : outcome.value = .ok () →
    ∃ poll ∈ polls, poll.toExchange.FindsHealthy gate.module
  failed : ∀ module failure, outcome.value = .error (.remote module failure) →
    ⟨.listModules, some (.error failure)⟩ ∈ polls.map Flight.toExchange
  flown : ∀ stop, gate.context.stop? = some stop → Flown stop polls
  landed : outcome.value = .ok () → ∀ stop, gate.context.stop? = some stop →
    ∀ poll ∈ polls, poll.due < stop

/-- A wait that ends without a poll ends with an error of its own. -/
theorem Gate.polled_nil {gate : Gate} {error : GateError} (world : σ) (instant : Nat)
    (own : ∀ module failure, error ≠ .remote module failure) :
    gate.Polled [] ⟨.error error, world, instant, []⟩ where
  log := rfl
  listings := by simp
  healthy := by simp
  failed module failure value := absurd (Except.error.inj value) (own module failure)
  flown _ _ := .nil
  landed := by simp

theorem Gate.cut?_not_remote {gate : Gate} {now limit instant : Nat} {error : GateError}
    (cut : gate.cut? now limit = some (instant, error)) (module : String) (failure : Failure) :
    error ≠ .remote module failure := by
  rintro rfl
  rw [Gate.cut?] at cut
  split at cut
  · cases cut
  · split at cut <;> cases cut

/-- An answer that ends a wait well lists the module as healthy. -/
theorem Gate.answer_of_verdict_ok {gate : Gate} {answer : Except Failure Stack.Listing}
    (said : gate.verdict answer = some (.ok ())) :
    ∃ listing, answer = .ok listing ∧ listing.isHealthy gate.module = true := by
  unfold verdict at said
  split at said
  · cases said
  next listing =>
    split at said
    next healthy => exact ⟨listing, rfl, healthy⟩
    next => cases said

/-- A wait fails with the failure of the answer that ends it. -/
theorem Gate.answer_of_verdict_remote {gate : Gate} {answer : Except Failure Stack.Listing}
    {module : String} {failure : Failure}
    (said : gate.verdict answer = some (.error (.remote module failure))) :
    answer = .error failure := by
  unfold verdict at said
  split at said
  · cases said
    rfl
  · split at said <;> cases said

/-- A wait that is cut while its first poll is on its way. -/
theorem Gate.polled_cut {gate : Gate} {error : GateError} (world : σ) (instant : Nat)
    {tick delay : Nat} (own : ∀ module failure, error ≠ .remote module failure)
    (begun : ∀ stop, gate.context.stop? = some stop → tick < stop) :
    gate.Polled [⟨⟨.listModules, none⟩, tick, delay⟩]
      ⟨.error error, world, instant, [⟨tick, .listModules⟩]⟩ where
  log := rfl
  listings := by simp
  healthy := by simp
  failed module failure value := absurd (Except.error.inj value) (own module failure)
  flown stop stops := .cut (begun stop stops) rfl
  landed := by simp

/-- A wait that the answer to its first poll decides. -/
theorem Gate.polled_decided {gate : Gate} {answer : Except Failure Stack.Listing}
    {verdict : Except GateError Unit} (said : gate.verdict answer = some verdict) (world : σ)
    (instant : Nat) {tick delay : Nat}
    (due : ∀ stop, gate.context.stop? = some stop → tick + delay < stop) :
    gate.Polled [⟨⟨.listModules, some answer⟩, tick, delay⟩]
      ⟨verdict, world, instant, [⟨tick, .listModules⟩]⟩ where
  log := rfl
  listings := by simp
  healthy := by
    rintro rfl
    obtain ⟨listing, rfl, healthy⟩ := answer_of_verdict_ok said
    exact ⟨_, List.mem_singleton_self _, listing, rfl, healthy⟩
  failed := by
    rintro module failure rfl
    rw [answer_of_verdict_remote said]
    exact List.mem_singleton_self _
  flown stop stops := .landed (due stop stops) .nil
  landed := by
    intro _ stop stops other member
    rw [List.mem_singleton.mp member]
    exact due stop stops

/-- A wait that goes on behind its first poll. -/
theorem Gate.Polled.cons {gate : Gate} {polls : List Flight}
    {outcome : Outcome σ (Except GateError Unit)} (polled : gate.Polled polls outcome)
    {answer : Except Failure Stack.Listing} {tick delay : Nat}
    (due : ∀ stop, gate.context.stop? = some stop → tick + delay < stop) :
    gate.Polled (⟨⟨.listModules, some answer⟩, tick, delay⟩ :: polls)
      (outcome.behind [⟨tick, .listModules⟩]) where
  log := congrArg (List.cons _) polled.log
  listings := by
    intro other member
    rcases List.mem_cons.mp member with rfl | later
    · rfl
    · exact polled.listings other later
  healthy := by
    intro healthy
    obtain ⟨other, member, finds⟩ := polled.healthy healthy
    exact ⟨other, List.mem_cons_of_mem _ member, finds⟩
  failed module failure value := List.mem_cons_of_mem _ (polled.failed module failure value)
  flown stop stops := .landed (due stop stops) (polled.flown stop stops)
  landed := by
    intro healthy stop stops other member
    rcases List.mem_cons.mp member with rfl | later
    · exact due stop stops
    · exact polled.landed healthy stop stops other later

/-- A wait for a module lists modules and nothing else. -/
theorem Gate.noted_poll (remote : Responder σ) (gate : Gate) (polls : Nat) (world : σ)
    {now tick : Nat} (order : now ≤ tick) :
    ∃ flights, gate.Polled flights (Gate.poll remote gate polls world now tick) ∧
      ∀ {τ : Type} (note : Exchange → Nat → τ) (notes : List τ),
        Gate.poll (remote.noting note) gate polls (world, notes) now tick =
          (Gate.poll remote gate polls world now tick).noted (notes ++ notesOn note flights) := by
  induction polls generalizing world now tick with
  | zero =>
      refine ⟨[], gate.polled_nil world _ (by simp), ?_⟩
      intro τ note notes
      rw [notesOn, List.map_nil, List.append_nil]
      rfl
  | succ polls ih =>
      simp only [Gate.poll, Responder.noting_reply]
      let reply := remote.reply world .listModules
      cases late : gate.cut? now tick with
      | some cut =>
          refine ⟨[], gate.polled_nil world cut.1 (Gate.cut?_not_remote late), ?_⟩
          intro τ note notes
          rw [notesOn, List.map_nil, List.append_nil]
          rfl
      | none =>
          have begun : ∀ stop, gate.context.stop? = some stop → tick < stop := fun stop stops =>
            Gate.lt_stop_of_open stops order late
          cases slow : gate.cut? tick (tick + (remote.reply world .listModules).delay) with
          | some cut =>
              exact ⟨[⟨⟨.listModules, none⟩, tick, reply.delay⟩],
                Gate.polled_cut _ _ (Gate.cut?_not_remote slow) begun, fun _ _ => rfl⟩
          | none =>
              have due : ∀ stop, gate.context.stop? = some stop → tick + reply.delay < stop :=
                fun stop stops => Gate.lt_stop_of_open stops (Nat.le_add_right _ _) slow
              cases found : gate.verdict (remote.reply world .listModules).answer with
              | some verdict =>
                  exact ⟨[⟨⟨.listModules, some reply.answer⟩, tick, reply.delay⟩],
                    Gate.polled_decided found _ _ due, fun _ _ => rfl⟩
              | none =>
                  obtain ⟨flights, polled, noted⟩ := ih reply.after
                    (Nat.le_max_right (tick + gate.patience.interval) (tick + reply.delay))
                  refine ⟨⟨⟨.listModules, some reply.answer⟩, tick, reply.delay⟩ :: flights,
                    polled.cons due, ?_⟩
                  intro τ note notes
                  rw [noted, List.append_assoc]
                  rfl

theorem Gate.noted_await (remote : Responder σ) (gate : Gate) (world : σ) :
    ∃ polls, gate.Polled polls (gate.await remote world) ∧
      ∀ {τ : Type} (note : Exchange → Nat → τ) (notes : List τ),
        gate.await (remote.noting note) (world, notes) =
          (gate.await remote world).noted (notes ++ notesOn note polls) :=
  gate.noted_poll remote gate.mostPolls world (Nat.le_refl _)

/-! ## Calls -/

/-- What a call comes to: it is answered before the stop, or it is not begun behind the stop, or
it is on its way at the stop and abandoned there. -/
inductive Asked (remote : Responder σ) (context : Context) (call : Call) (world : σ) (now : Nat) :
    List Flight → Outcome σ (Except Diagnostic call.Answer) → Prop where
  | answered
      (early : ∀ stop, context.stop? = some stop → now + (remote.reply world call).delay < stop) :
      Asked remote context call world now
        [⟨⟨call, some (remote.reply world call).answer⟩, now, (remote.reply world call).delay⟩]
        ⟨(remote.reply world call).answer.mapError Failure.diagnose,
          (remote.reply world call).after, now + (remote.reply world call).delay, [⟨now, call⟩]⟩
  | refused {stop : Nat} (stops : context.stop? = some stop) (late : stop ≤ now) :
      Asked remote context call world now []
        ⟨.error (context.reason now).diagnose, world, now, []⟩
  | abandoned {stop : Nat} (stops : context.stop? = some stop) (early : now < stop)
      (late : stop ≤ now + (remote.reply world call).delay) :
      Asked remote context call world now
        [⟨⟨call, none⟩, now, (remote.reply world call).delay⟩]
        ⟨.error (context.reason stop).diagnose, (remote.reply world call).abandoned, stop,
          [⟨now, call⟩]⟩

/-- Behind the stop a call is not made, and otherwise work of the length of its delay is. -/
theorem perform_of_stop {context : Context} {stop : Nat} (stops : context.stop? = some stop)
    (remote : Responder σ) (call : Call) (world : σ) (now : Nat) :
    let reply := remote.reply world call
    perform remote context call world now =
      if stop ≤ now then ⟨.error (context.reason now).diagnose, world, now, []⟩
      else if stop ≤ now + reply.delay then
        ⟨.error (context.reason stop).diagnose, reply.abandoned, stop, [⟨now, call⟩]⟩
      else
        ⟨reply.answer.mapError Failure.diagnose, reply.after, now + reply.delay,
          [⟨now, call⟩]⟩ := by
  intro reply
  rw [perform]
  by_cases reached : stop ≤ now
  · rw [Context.interruption?_of_stop_le stops reached, if_pos reached]
  · rw [Context.interruption?_of_lt_stop stops (Nat.lt_of_not_le reached), if_neg reached]
    simp only [Context.run_of_stop stops, if_neg reached]
    by_cases cut : stop ≤ now + reply.delay
    · simp only [reply, cut, if_true]
    · simp only [reply, cut, if_false]

theorem perform_of_no_stop {context : Context} (free : context.stop? = none)
    (remote : Responder σ) (call : Call) (world : σ) (now : Nat) :
    let reply := remote.reply world call
    perform remote context call world now =
      ⟨reply.answer.mapError Failure.diagnose, reply.after, now + reply.delay,
        [⟨now, call⟩]⟩ := by
  intro reply
  simp only [perform, Context.interruption?_of_no_stop free, Context.run_of_no_stop free, reply]

theorem noted_perform (remote : Responder σ) (context : Context) (call : Call) (world : σ)
    (now : Nat) :
    ∃ flights, Asked remote context call world now flights
        (perform remote context call world now) ∧
      ∀ {τ : Type} (note : Exchange → Nat → τ) (notes : List τ),
        perform (remote.noting note) context call (world, notes) now =
          (perform remote context call world now).noted (notes ++ notesOn note flights) := by
  cases stops : context.stop? with
  | none =>
      rw [perform_of_no_stop stops]
      refine ⟨_, .answered ?_, ?_⟩
      · intro stop isStop
        rw [stops] at isStop
        cases isStop
      · intro τ note notes
        rw [perform_of_no_stop stops]
        rfl
  | some stop =>
      rw [perform_of_stop stops]
      by_cases late : stop ≤ now
      · rw [if_pos late]
        refine ⟨[], .refused stops late, ?_⟩
        intro τ note notes
        rw [perform_of_stop stops, if_pos late, notesOn, List.map_nil, List.append_nil]
        rfl
      · rw [if_neg late]
        by_cases slow : stop ≤ now + (remote.reply world call).delay
        · rw [if_pos slow]
          refine ⟨_, .abandoned stops (Nat.lt_of_not_le late) slow, ?_⟩
          intro τ note notes
          rw [perform_of_stop stops, if_neg late]
          exact if_pos slow
        · rw [if_neg slow]
          refine ⟨_, .answered ?_, ?_⟩
          · intro other isOther
            rw [stops] at isOther
            cases isOther
            exact Nat.lt_of_not_le slow
          · intro τ note notes
            rw [perform_of_stop stops, if_neg late]
            exact if_neg slow

theorem Asked.log {remote : Responder σ} {context : Context} {call : Call} {world : σ} {now : Nat}
    {flights : List Flight} {outcome : Outcome σ (Except Diagnostic call.Answer)}
    (asked : Asked remote context call world now flights outcome) :
    flights.map Flight.entry = outcome.log := by
  cases asked <;> rfl

theorem Asked.le_instant {remote : Responder σ} {context : Context} {call : Call} {world : σ}
    {now : Nat} {flights : List Flight} {outcome : Outcome σ (Except Diagnostic call.Answer)}
    (asked : Asked remote context call world now flights outcome) : now ≤ outcome.instant := by
  cases asked with
  | answered early => exact Nat.le_add_right _ _
  | refused stops late => exact Nat.le_refl _
  | abandoned stops early late => exact Nat.le_of_lt early

/-! ## Programs -/

/-- A run with the calls that it has on the way. -/
inductive Program.Runs (remote : Responder σ) (patience : Patience) (context : Context) :
    Program α → (world : σ) → (now : Nat) → List Flight → Outcome σ α → Prop where
  | done (value : α) (world : σ) (now : Nat) :
      Runs remote patience context (.done value) world now [] ⟨value, world, now, []⟩
  | await {module : String} {next : Except Diagnostic Unit → Program α} {world : σ} {now : Nat}
      {waited : Outcome σ (Except GateError Unit)} {polls flights : List Flight}
      {outcome : Outcome σ α}
      (waits : Gate.await remote ⟨module, patience, context, now⟩ world = waited)
      (polled : Gate.Polled ⟨module, patience, context, now⟩ polls waited)
      (rest : Runs remote patience context (next (waited.value.mapError GateError.diagnose))
        waited.world waited.instant flights outcome) :
      Runs remote patience context (.await module next) world now (polls ++ flights)
        (outcome.behind waited.log)
  | call {request : Call} {next : Except Diagnostic request.Answer → Program α} {world : σ}
      {now : Nat} {answer : Outcome σ (Except Diagnostic request.Answer)}
      {asking flights : List Flight} {outcome : Outcome σ α}
      (asks : perform remote context request world now = answer)
      (asked : Asked remote context request world now asking answer)
      (rest : Runs remote patience context (next answer.value) answer.world answer.instant
        flights outcome) :
      Runs remote patience context (.call request next) world now (asking ++ flights)
        (outcome.behind answer.log)

/-- Notes change nothing in a run, and they follow its calls. -/
theorem Program.noted_run (remote : Responder σ) (patience : Patience) (context : Context)
    (program : Program α) (world : σ) (now : Nat) :
    ∃ flights, Program.Runs remote patience context program world now flights
        (program.run remote patience context world now) ∧
      ∀ {τ : Type} (note : Exchange → Nat → τ) (notes : List τ),
        program.run (remote.noting note) patience context (world, notes) now =
          (program.run remote patience context world now).noted
            (notes ++ notesOn note flights) := by
  induction program generalizing world now with
  | done value =>
      refine ⟨[], .done value world now, ?_⟩
      intro τ note notes
      rw [notesOn, List.map_nil, List.append_nil]
      rfl
  | await module next ih =>
      let gate : Gate := ⟨module, patience, context, now⟩
      let waited := gate.await remote world
      obtain ⟨polls, polled, waitNoted⟩ := gate.noted_await remote world
      obtain ⟨flights, runs, noted⟩ :=
        ih (waited.value.mapError GateError.diagnose) waited.world waited.instant
      refine ⟨polls ++ flights, .await rfl polled runs, ?_⟩
      intro τ note notes
      rw [Program.run, waitNoted, notesOn_append, ← List.append_assoc]
      simp only [Outcome.noted, waited, gate] at noted ⊢
      rw [noted]
      rfl
  | call request next ih =>
      let answer := perform remote context request world now
      obtain ⟨asking, asked, callNoted⟩ := noted_perform remote context request world now
      obtain ⟨flights, runs, noted⟩ := ih answer.value answer.world answer.instant
      refine ⟨asking ++ flights, .call rfl asked runs, ?_⟩
      intro τ note notes
      rw [Program.run, callNoted, notesOn_append, ← List.append_assoc]
      simp only [Outcome.noted, answer] at noted ⊢
      rw [noted]
      rfl

theorem Program.Runs.log {remote : Responder σ} {patience : Patience} {context : Context}
    {program : Program α} {world : σ} {now : Nat} {flights : List Flight} {outcome : Outcome σ α}
    (runs : Program.Runs remote patience context program world now flights outcome) :
    flights.map Flight.entry = outcome.log := by
  induction runs with
  | done value world now => rfl
  | await waits polled rest ih =>
      rw [List.map_append, polled.log, ih]
      rfl
  | call asks asked rest ih =>
      rw [List.map_append, asked.log, ih]
      rfl

/-- The calls of a run, in order. -/
def Program.flights (remote : Responder σ) (patience : Patience) (context : Context)
    (program : Program α) (world : σ) (now : Nat) : List Flight :=
  let outcome := program.run (remote.noting Prod.mk) patience context (world, []) now
  List.zipWith (fun entry (exchange, delay) => ⟨exchange, entry.instant, delay⟩) outcome.log
    outcome.world.2

theorem Program.flights_eq {remote : Responder σ} {patience : Patience} {context : Context}
    {program : Program α} {world : σ} {now : Nat} {flights : List Flight}
    (runs : Program.Runs remote patience context program world now flights
      (program.run remote patience context world now))
    (noted : program.run (remote.noting Prod.mk) patience context (world, []) now =
      (program.run remote patience context world now).noted ([] ++ notesOn Prod.mk flights)) :
    program.flights remote patience context world now = flights := by
  rw [Program.flights, noted, Outcome.noted]
  simp only [← runs.log, notesOn, List.nil_append, List.zipWith_map, List.zipWith_self]
  exact List.map_id _

theorem Program.runs (remote : Responder σ) (patience : Patience) (context : Context)
    (program : Program α) (world : σ) (now : Nat) :
    Program.Runs remote patience context program world now
      (program.flights remote patience context world now)
      (program.run remote patience context world now) := by
  obtain ⟨flights, runs, noted⟩ := program.noted_run remote patience context world now
  rw [program.flights_eq runs (noted Prod.mk [])]
  exact runs

/-! ## Records of exchanges -/

/-- The remote side with a record of its exchanges. -/
def Responder.recorded (remote : Responder σ) : Responder (σ × List Exchange) where
  reply world call :=
    let reply := remote.reply world.1 call
    ⟨reply.delay, reply.answer, (reply.after, world.2 ++ [⟨call, some reply.answer⟩]),
      (reply.abandoned, world.2 ++ [⟨call, none⟩])⟩

/-- The outcome together with a record. -/
def Outcome.recording (record : List Exchange) (outcome : Outcome σ α) :
    Outcome (σ × List Exchange) α :=
  ⟨outcome.value, (outcome.world, record), outcome.instant, outcome.log⟩

/-- A record is a note of the exchange alone. -/
theorem Responder.recorded_eq (remote : Responder σ) :
    remote.recorded = remote.noting fun exchange _ => exchange := rfl

/-- The exchanges of a run, in order. -/
def Program.exchanges (remote : Responder σ) (patience : Patience) (context : Context)
    (program : Program α) (world : σ) (now : Nat) : List Exchange :=
  (program.run remote.recorded patience context (world, []) now).world.2

theorem Program.exchanges_eq (remote : Responder σ) (patience : Patience) (context : Context)
    (program : Program α) (world : σ) (now : Nat) :
    program.exchanges remote patience context world now =
      (program.flights remote patience context world now).map Flight.toExchange := by
  obtain ⟨flights, runs, noted⟩ := program.noted_run remote patience context world now
  rw [Program.exchanges, Responder.recorded_eq, noted, program.flights_eq runs (noted Prod.mk [])]
  rfl

/-- A wait for a module exchanges listings and nothing else, and it succeeds with a listing in
which the module is healthy. -/
theorem Gate.recorded_await (remote : Responder σ) (gate : Gate) (world : σ)
    (record : List Exchange) :
    ∃ exchanges,
      gate.await remote.recorded (world, record) =
        (gate.await remote world).recording (record ++ exchanges) ∧
      (∀ exchange ∈ exchanges, exchange.call = .listModules) ∧
      ((gate.await remote world).value = .ok () →
        ∃ exchange ∈ exchanges, exchange.FindsHealthy gate.module) := by
  obtain ⟨polls, polled, noted⟩ := gate.noted_await remote world
  refine ⟨polls.map Flight.toExchange, noted (fun exchange _ => exchange) record, ?_, ?_⟩
  · intro exchange member
    obtain ⟨poll, isPoll, rfl⟩ := List.mem_map.mp member
    exact polled.listings poll isPoll
  · intro healthy
    obtain ⟨poll, isPoll, finds⟩ := polled.healthy healthy
    exact ⟨_, List.mem_map_of_mem isPoll, finds⟩

/-- The caller learns a good answer exactly where there is one on record. -/
theorem recorded_perform (remote : Responder σ) (context : Context) (call : Call) (world : σ)
    (record : List Exchange) (now : Nat) :
    ∃ exchanges,
      perform remote.recorded context call (world, record) now =
        (perform remote context call world now).recording (record ++ exchanges) ∧
      ∀ answer : call.Answer, ⟨call, some (.ok answer)⟩ ∈ exchanges ↔
        (perform remote context call world now).value = .ok answer := by
  obtain ⟨asking, asked, noted⟩ := noted_perform remote context call world now
  refine ⟨asking.map Flight.toExchange, noted (fun exchange _ => exchange) record, ?_⟩
  intro answer
  generalize perform remote context call world now = outcome at asked
  cases asked with
  | answered early =>
      cases (remote.reply world call).answer with
      | error failure => simp
      | ok answered => simp [eq_comm]
  | refused stops late => simp
  | abandoned stops early late => simp

/-- A record changes nothing in a run. -/
theorem Program.recorded_run (remote : Responder σ) (patience : Patience) (context : Context)
    (program : Program α) (world : σ) (record : List Exchange) (now : Nat) :
    ∃ exchanges,
      program.run remote.recorded patience context (world, record) now =
        (program.run remote patience context world now).recording (record ++ exchanges) := by
  obtain ⟨flights, _, noted⟩ := program.noted_run remote patience context world now
  exact ⟨flights.map Flight.toExchange, noted (fun exchange _ => exchange) record⟩

theorem Program.exchanges_calls (remote : Responder σ) (patience : Patience) (context : Context)
    (program : Program α) (world : σ) (now : Nat) :
    (program.exchanges remote patience context world now).map Exchange.call =
      (program.run remote patience context world now).log.map Entry.call := by
  rw [program.exchanges_eq, ← (program.runs remote patience context world now).log]
  simp only [List.map_map]
  rfl

end Converge.Remote
