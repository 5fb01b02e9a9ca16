import Converge.Proofs.Remote.Interruption
import Converge.Proofs.Remote.Keeping

/-!
# The course of a program

Programs that end with the first step that fails have simple runs: some calls are answered
well, one after the other, and then the program is done, or a wait or a call fails and its
failure is the last that the program hears of. A course says what is to hold of the value in
either case. Whether a program takes a course is read off the program; whatever the remote
side and the context, its runs then conclude as the course says.
-/

namespace Converge.Remote

variable {σ α β : Type}

/-- What is to hold of the values that a program ends with: behind calls that were answered
well, when it is done and when a wait or a call has failed. -/
structure Course (α : Type) where
  ended : (made : List Exchange) → (value : α) → Prop
  stopped : (made : List Exchange) → (tried : Option Call) → (failure : Diagnostic) →
    (value : α) → Prop

/-- The course of a program whose value is changed in the end. -/
def Course.before (course : Course β) (change : α → β) : Course α where
  ended made value := course.ended made (change value)
  stopped made tried failure value := course.stopped made tried failure (change value)

namespace Program

/-- The program ends with the first step that fails, leaves listings to its waits, and ends as
the course says. -/
def Takes (course : Course α) : (made : List Exchange) → Program α → Prop
  | made, .done value => course.ended made value
  | made, .await _ next =>
      (∀ failure, ∃ value, next (.error failure) = .done value ∧
        course.stopped made none failure value) ∧
      Takes course made (next (.ok ()))
  | made, .call request next =>
      request.isListing = false ∧
      (∀ failure, ∃ value, next (.error failure) = .done value ∧
        course.stopped made (some request) failure value) ∧
      ∀ answer, Takes course (made ++ [⟨request, some (.ok answer)⟩]) (next (.ok answer))

theorem Takes.map {course : Course β} {change : α → β} {program : Program α}
    {made : List Exchange} (takes : program.Takes (course.before change) made) :
    (program.map change).Takes course made := by
  induction program generalizing made with
  | done value => exact takes
  | await module next ih =>
      obtain ⟨stops, goesOn⟩ := takes
      refine ⟨?_, ih (.ok ()) goesOn⟩
      intro failure
      obtain ⟨value, ends, stopped⟩ := stops failure
      refine ⟨change value, ?_, stopped⟩
      dsimp only
      rw [ends]
      rfl
  | call request next ih =>
      obtain ⟨notListing, stops, goesOn⟩ := takes
      refine ⟨notListing, ?_, fun answer => ih (.ok answer) (goesOn answer)⟩
      intro failure
      obtain ⟨value, ends, stopped⟩ := stops failure
      refine ⟨change value, ?_, stopped⟩
      dsimp only
      rw [ends]
      rfl

/-- What a course promises may be weakened. -/
theorem Takes.mono {course other : Course α}
    (ended : ∀ made value, course.ended made value → other.ended made value)
    (stopped : ∀ made tried failure value, course.stopped made tried failure value →
      other.stopped made tried failure value) {program : Program α} {made : List Exchange}
    (takes : program.Takes course made) : program.Takes other made := by
  induction program generalizing made with
  | done value => exact ended _ _ takes
  | await module next ih =>
      obtain ⟨stops, goesOn⟩ := takes
      refine ⟨?_, ih (.ok ()) goesOn⟩
      intro failure
      obtain ⟨value, ends, holds⟩ := stops failure
      exact ⟨value, ends, stopped _ _ _ _ holds⟩
  | call request next ih =>
      obtain ⟨notListing, stops, goesOn⟩ := takes
      refine ⟨notListing, ?_, fun answer => ih (.ok answer) (goesOn answer)⟩
      intro failure
      obtain ⟨value, ends, holds⟩ := stops failure
      exact ⟨value, ends, stopped _ _ _ _ holds⟩

/-- A program may be refused beforehand. -/
theorem Takes.unless {course : Course α} {program : Program α} {made : List Exchange} {value : α}
    {refused : Prop} {decided : Decidable refused} (ended : course.ended made value)
    (takes : program.Takes course made) :
    (if refused then .done value else program).Takes course made := by
  split
  · exact ended
  · exact takes

end Program

/-! ## Calls that are answered well -/

/-- A call other than a listing that is answered well. -/
def Exchange.succeeds (exchange : Exchange) : Bool :=
  !exchange.call.isListing && match exchange.answer? with
    | some (.ok _) => true
    | _ => false

/-- The calls of a run, other than listings, that are answered well. -/
def successes (flights : List Flight) : List Exchange :=
  (flights.map Flight.toExchange).filter Exchange.succeeds

theorem successes_append (first second : List Flight) :
    successes (first ++ second) = successes first ++ successes second := by
  simp only [successes, List.map_append, List.filter_append]

theorem mem_successes_iff {flights : List Flight} {call : Call} {answer : call.Answer}
    (notListing : call.isListing = false) :
    ⟨call, some (.ok answer)⟩ ∈ successes flights ↔
      ⟨call, some (.ok answer)⟩ ∈ flights.map Flight.toExchange := by
  rw [successes, List.mem_filter, Exchange.succeeds, notListing]
  simp

theorem successes_of_listings {flights : List Flight}
    (listings : ∀ flight ∈ flights, flight.call = .listModules) : successes flights = [] := by
  rw [successes, List.filter_eq_nil_iff]
  intro exchange member
  obtain ⟨flight, isFlight, rfl⟩ := List.mem_map.mp member
  have isListing : flight.call.isListing = true := by
    rw [listings flight isFlight]
    rfl
  rw [Exchange.succeeds, isListing]
  simp

theorem Gate.Polled.requests_eq {gate : Gate} {polls : List Flight}
    {outcome : Outcome σ (Except GateError Unit)} (polled : gate.Polled polls outcome) :
    requests outcome.log = [] := by
  rw [← polled.log, requests, List.filter_eq_nil_iff]
  simp only [List.map_map, List.mem_map]
  rintro call ⟨poll, isPoll, rfl⟩
  simp only [Function.comp_apply, Flight.entry, polled.listings poll isPoll]
  simp [Call.isListing]

/-! ## How runs conclude -/

/-- What stops a program other than an interruption: a module that does not become healthy in
time, or a failure that the remote side has answered with. -/
inductive Setback (flights : List Flight) : Diagnostic → Prop where
  | overdue (module : String) (elapsed allowed : Nat) :
      Setback flights (GateError.timeout module elapsed allowed).diagnose
  | failed {call : Call} {failure : Failure}
      (answered : ⟨call, some (.error failure)⟩ ∈ flights.map Flight.toExchange) :
      Setback flights failure.diagnose

theorem Setback.append {first second : List Flight} {failure : Diagnostic}
    (setback : Setback second failure) : Setback (first ++ second) failure := by
  cases setback with
  | overdue module elapsed allowed => exact .overdue module elapsed allowed
  | @failed call failure answered =>
      have there : ⟨call, some (.error failure)⟩ ∈ (first ++ second).map Flight.toExchange := by
        rw [List.map_append]
        exact List.mem_append_right _ answered
      exact .failed there

/-- A run has been stopped by a failure, as the course says: at a wait, or at a call that is the
last one if it has been made at all. -/
structure Stopped (course : Course α) (made : List Exchange) (flights : List Flight)
    (outcome : Outcome σ α) (tried : Option Call) (failure : Diagnostic) : Prop where
  value : course.stopped (made ++ successes flights) tried failure outcome.value
  isError : failure.isError = true
  requested : requests outcome.log <+:
    (successes flights).map Exchange.call ++ tried.toList

/-- How the run of a program concludes: it is done as it is without an interruption, or a step
has failed as it does without one, both before the stop; or it is interrupted, at the stop or at
once where that has passed, and would not have been done before. -/
inductive Concludes (course : Course α) (made : List Exchange) (context : Context)
    (program : Program α) (now : Nat) (free : Outcome σ α) (flights : List Flight)
    (outcome : Outcome σ α) : Prop where
  | ended (value : course.ended (made ++ successes flights) outcome.value)
      (requested : requests outcome.log = (successes flights).map Exchange.call)
      (same : outcome = free)
      (early : (∃ value, program = .done value) ∨
        ∀ stop, context.stop? = some stop → outcome.instant < stop)
  | failed {tried : Option Call} {failure : Diagnostic}
      (stopped : Stopped course made flights outcome tried failure)
      (cause : Setback flights failure) (same : outcome = free)
      (early : ∀ stop, context.stop? = some stop → outcome.instant < stop)
  | interrupted {tried : Option Call} {failure : Diagnostic} {stop : Nat}
      (stopped : Stopped course made flights outcome tried failure)
      (cause : IsInterruption failure) (stops : context.stop? = some stop)
      (unfinished : ∀ value, program ≠ .done value) (late : stop ≤ free.instant)
      (instant : outcome.instant = max now stop)

theorem requested_append {outcome : Outcome σ α} {log : List Entry} {first second : List Flight}
    (firstRequested : requests log = (successes first).map Exchange.call) {others : List Call}
    (requested : requests outcome.log <+: (successes second).map Exchange.call ++ others) :
    requests (outcome.behind log).log <+:
      (successes (first ++ second)).map Exchange.call ++ others := by
  rw [requests_behind, firstRequested, successes_append, List.map_append, List.append_assoc]
  exact (List.prefix_append_right_inj _).mpr requested

/-- A step that succeeds before the stop is followed by the rest of the run. -/
theorem Concludes.behind {course : Course α} {made : List Exchange} {context : Context}
    {program rest : Program α} {now reached : Nat} {free outcome : Outcome σ α}
    {first flights : List Flight} {log : List Entry}
    (concludes : Concludes course (made ++ successes first) context rest reached free flights
      outcome)
    (notDone : ∀ value, program ≠ .done value) (order : now ≤ reached)
    (early : ∀ stop, context.stop? = some stop → reached < stop)
    (firstRequested : requests log = (successes first).map Exchange.call)
    (done : ∀ value, rest = .done value → outcome.instant = reached) :
    Concludes course made context program now (free.behind log) (first ++ flights)
      (outcome.behind log) := by
  have goesOn : ∀ {tried failure}, Stopped course (made ++ successes first) flights outcome tried
      failure → Stopped course made (first ++ flights) (outcome.behind log) tried failure := by
    intro tried failure stopped
    refine ⟨?_, stopped.isError, requested_append firstRequested stopped.requested⟩
    rw [successes_append, ← List.append_assoc]
    exact stopped.value
  cases concludes with
  | ended value requested same restEarly =>
      refine .ended ?_ ?_ (congrArg _ same) (.inr ?_)
      · rw [successes_append, ← List.append_assoc]
        exact value
      · rw [requests_behind, firstRequested, requested, successes_append, List.map_append]
      · intro stop stops
        rcases restEarly with ⟨value, isDone⟩ | restEarly
        · exact Nat.lt_of_le_of_lt (Nat.le_of_eq (done value isDone)) (early stop stops)
        · exact restEarly stop stops
  | failed stopped cause same restEarly =>
      exact .failed (goesOn stopped) cause.append (congrArg _ same) restEarly
  | @interrupted _ _ stop stopped cause stops unfinished late instant =>
      refine .interrupted (goesOn stopped) cause stops notDone late ?_
      have before := early stop stops
      change outcome.instant = _
      omega

namespace Program

variable {course : Course α} {made : List Exchange} {remote : Responder σ} {patience : Patience}
variable {context : Context} {world : σ} {now : Nat}

theorem Runs.instant_of_done {value : α} {flights : List Flight} {outcome : Outcome σ α}
    (runs : Runs remote patience context (.done value) world now flights outcome) :
    outcome.instant = now := by
  cases runs
  rfl

theorem Runs.le_instant {program : Program α} {flights : List Flight} {outcome : Outcome σ α}
    (runs : Runs remote patience context program world now flights outcome) :
    now ≤ outcome.instant := by
  induction runs with
  | done value world now => exact Nat.le_refl _
  | @await module next world now waited polls flights outcome waits polled rest ih =>
      have step := Gate.start_le_instant remote ⟨module, patience, context, now⟩ world
      rw [waits] at step
      exact Nat.le_trans step ih
  | @call request next world now answer asking flights outcome asks asked rest ih =>
      exact Nat.le_trans asked.le_instant ih

theorem le_instant (program : Program α) (world : σ) (now : Nat) :
    now ≤ (program.run remote patience context world now).instant :=
  (program.runs remote patience context world now).le_instant

/-! ## Waits -/

/-- Behind a wait that ends as it does without an interruption, the run without one goes on. -/
theorem run_free_await {module : String} {next : Except Diagnostic Unit → Program α}
    {waited : Outcome σ (Except GateError Unit)}
    (same : waited = (Gate.freed ⟨module, patience, context, now⟩).await remote world) :
    (Program.await module next).run remote patience .free world now =
      ((next (waited.value.mapError GateError.diagnose)).run remote patience .free waited.world
        waited.instant).behind waited.log := by
  rw [same]
  rfl

/-- A wait that fails is the end. -/
theorem stopped_await {gate : Gate} {polls : List Flight}
    {waited : Outcome σ (Except GateError Unit)} (polled : gate.Polled polls waited)
    {error : GateError} {value : α} (stopped : course.stopped made none error.diagnose value) :
    Stopped course made polls
      ((⟨value, waited.world, waited.instant, []⟩ : Outcome σ α).behind waited.log) none
      error.diagnose where
  value := by
    rw [successes_of_listings polled.listings, List.append_nil]
    exact stopped
  isError := error.isError_diagnose
  requested := by
    rw [requests_behind, polled.requests_eq]
    exact List.nil_prefix

/-- A wait that fails as it does without an interruption fails for the time that it takes, or with
an answer. -/
theorem setback_of_freed {gate : Gate} {polls : List Flight}
    {waited : Outcome σ (Except GateError Unit)} (polled : gate.Polled polls waited)
    (same : waited = gate.freed.await remote world) {error : GateError}
    (result : waited.value = .error error) : Setback polls error.diagnose := by
  have freeFailed : (gate.freed.await remote world).value = .error error := by
    rw [← same, result]
  rcases (Gate.ends_await remote gate.freed world).error_of_freed freeFailed with
    ⟨elapsed, allowed, rfl⟩ | ⟨failure, rfl⟩
  · exact .overdue _ _ _
  · exact .failed (polled.failed _ _ result)

/-- A wait that fails is the end, and a wait that succeeds is followed by the rest. -/
theorem concludes_await {module : String} {next : Except Diagnostic Unit → Program α}
    {waited : Outcome σ (Except GateError Unit)} {polls flights : List Flight}
    {outcome : Outcome σ α}
    (waits : Gate.await remote ⟨module, patience, context, now⟩ world = waited)
    (polled : Gate.Polled ⟨module, patience, context, now⟩ polls waited)
    (rest : Runs remote patience context (next (waited.value.mapError GateError.diagnose))
      waited.world waited.instant flights outcome)
    (takes : (Program.await module next).Takes course made)
    (continued : ∀ {made}, (next (.ok ())).Takes course made → waited.value = .ok () →
      Concludes course made context (next (.ok ())) waited.instant
        ((next (.ok ())).run remote patience .free waited.world waited.instant) flights outcome) :
    Concludes course made context (.await module next) now
      ((Program.await module next).run remote patience .free world now) (polls ++ flights)
      (outcome.behind waited.log) := by
  obtain ⟨stops, goesOn⟩ := takes
  let gate : Gate := ⟨module, patience, context, now⟩
  have silent : successes polls = [] := successes_of_listings polled.listings
  have compared := gate.await_freed_or_interrupted remote world
  rw [waits] at compared
  cases result : waited.value with
  | ok healthy =>
      rcases compared with ⟨same, early⟩ | ⟨stop, interrupted, _⟩
      · rw [run_free_await same, result, mapError_ok]
        have concludes := continued goesOn result
        rw [← List.append_nil made, ← silent] at concludes
        refine concludes.behind nofun ?_ early ?_ ?_
        · rw [← waits]
          exact gate.start_le_instant remote world
        · rw [polled.requests_eq, silent]
          rfl
        · intro value isDone
          rw [result, mapError_ok, isDone] at rest
          exact rest.instant_of_done
      · obtain ⟨elapsed, reason, failed⟩ := interrupted.value
        rw [result] at failed
        cases failed
  | error error =>
      obtain ⟨value, ends, stopped⟩ := stops error.diagnose
      rw [result, mapError_error, ends] at rest
      cases rest
      rw [List.append_nil]
      have halted := stopped_await polled stopped
      rcases compared with ⟨same, early⟩ | ⟨stop, interrupted, late⟩
      · refine .failed halted (setback_of_freed polled same result) ?_ early
        rw [run_free_await same, result, mapError_error, ends]
        rfl
      · obtain ⟨elapsed, reason, isInterrupted⟩ := interrupted.value
        rw [result] at isInterrupted
        obtain rfl := Except.error.inj isInterrupted
        exact .interrupted halted ⟨reason, _, rfl⟩ interrupted.stops nofun
          (Nat.le_trans late (le_instant _ _ _)) interrupted.instant

/-! ## Calls -/

/-- Without an interruption a call is answered when the remote side is done with it. -/
theorem run_free_call {request : Call} {next : Except Diagnostic request.Answer → Program α} :
    let reply := remote.reply world request
    (Program.call request next).run remote patience .free world now =
      ((next (reply.answer.mapError Failure.diagnose)).run remote patience .free reply.after
        (now + reply.delay)).behind [⟨now, request⟩] := by
  intro reply
  rw [Program.run, perform_of_no_stop rfl]

/-- A call that fails is the last one, whether or not it has been made. -/
theorem stopped_call {request : Call} {next : Except Diagnostic request.Answer → Program α}
    {asking flights : List Flight} {failure : Diagnostic} {reached : σ} {instant : Nat}
    {log : List Entry} {outcome : Outcome σ α}
    (takes : (Program.call request next).Takes course made) (silent : successes asking = [])
    (logged : log = [] ∨ ∃ begun, log = [⟨begun, request⟩]) (isError : failure.isError = true)
    (rest : Runs remote patience context (next (.error failure)) reached instant flights outcome) :
    ∃ value, next (.error failure) = .done value ∧ outcome = ⟨value, reached, instant, []⟩ ∧
      Stopped course made (asking ++ flights) (outcome.behind log) (some request) failure := by
  obtain ⟨notListing, stops, _⟩ := takes
  obtain ⟨value, ends, stopped⟩ := stops failure
  rw [ends] at rest
  cases rest
  refine ⟨value, ends, rfl, ?_, isError, ?_⟩
  · rw [List.append_nil, silent, List.append_nil]
    exact stopped
  · rw [List.append_nil, silent, requests_behind]
    rcases logged with rfl | ⟨begun, rfl⟩
    · exact List.nil_prefix
    · simp [requests, notListing]

/-- A call that fails is the end, and a call that is answered well is followed by the rest. -/
theorem concludes_call {request : Call} {next : Except Diagnostic request.Answer → Program α}
    {answer : Outcome σ (Except Diagnostic request.Answer)} {asking flights : List Flight}
    {outcome : Outcome σ α}
    (asks : perform remote context request world now = answer)
    (asked : Asked remote context request world now asking answer)
    (rest : Runs remote patience context (next answer.value) answer.world answer.instant flights
      outcome)
    (takes : (Program.call request next).Takes course made)
    (continued : ∀ {made found}, (next (.ok found)).Takes course made → answer.value = .ok found →
      Concludes course made context (next (.ok found)) answer.instant
        ((next (.ok found)).run remote patience .free answer.world answer.instant) flights
        outcome) :
    Concludes course made context (.call request next) now
      ((Program.call request next).run remote patience .free world now) (asking ++ flights)
      (outcome.behind answer.log) := by
  let reply := remote.reply world request
  cases asked with
  | answered early =>
      cases replied : (remote.reply world request).answer with
      | ok found =>
          obtain ⟨notListing, _, goesOn⟩ := takes
          have isSuccess : successes [⟨⟨request, some (.ok found)⟩, now, reply.delay⟩] =
              [⟨request, some (.ok found)⟩] := by
            simp [successes, Exchange.succeeds, notListing]
          simp only [replied, mapError_ok] at rest continued
          have concludes := continued (goesOn found) rfl
          rw [← isSuccess] at concludes
          rw [run_free_call]
          simp only [reply, replied, mapError_ok] at concludes ⊢
          refine concludes.behind nofun (Nat.le_add_right _ _) early ?_ ?_
          · rw [isSuccess]
            simp [requests, notListing]
          · intro value isDone
            rw [isDone] at rest
            exact rest.instant_of_done
      | error failure =>
          have silent : successes [⟨⟨request, some (.error failure)⟩, now, reply.delay⟩] = [] := by
            simp [successes, Exchange.succeeds]
          rw [replied] at asks rest
          have isError : failure.diagnose.isError = true :=
            perform_error_isError (congrArg Outcome.value asks)
          obtain ⟨value, ends, isLast, stopped⟩ :=
            stopped_call takes silent (.inr ⟨_, rfl⟩) isError rest
          refine .failed stopped (.failed (List.mem_cons_self ..)) ?_ ?_
          · rw [run_free_call, isLast]
            simp only [replied, mapError_error, ends]
            rfl
          · rw [isLast]
            exact early
  | @refused stop stops late =>
      have silent : successes [] = [] := rfl
      have isError := perform_error_isError (congrArg Outcome.value asks)
      obtain ⟨value, ends, isLast, stopped⟩ := stopped_call takes silent (.inl rfl) isError rest
      refine .interrupted stopped (isInterruption_diagnose _) stops nofun ?_ ?_
      · exact Nat.le_trans late (le_instant _ _ _)
      · rw [isLast]
        exact (Nat.max_eq_left late).symm
  | @abandoned stop stops early late =>
      have silent : successes [⟨⟨request, none⟩, now, reply.delay⟩] = [] := by
        simp [successes, Exchange.succeeds]
      have isError := perform_error_isError (congrArg Outcome.value asks)
      obtain ⟨value, ends, isLast, stopped⟩ :=
        stopped_call takes silent (.inr ⟨_, rfl⟩) isError rest
      refine .interrupted stopped (isInterruption_diagnose _) stops nofun ?_ ?_
      · rw [run_free_call]
        exact Nat.le_trans late (le_instant _ _ _)
      · rw [isLast]
        exact (Nat.max_eq_right (Nat.le_of_lt early)).symm

end Program

/-- **Runs conclude as their course says.** -/
theorem Program.Runs.concludes {course : Course α} {remote : Responder σ} {patience : Patience}
    {context : Context} {program : Program α} {world : σ} {now : Nat} {flights : List Flight}
    {outcome : Outcome σ α}
    (runs : Program.Runs remote patience context program world now flights outcome)
    {made : List Exchange} (takes : program.Takes course made) :
    Concludes course made context program now (program.run remote patience .free world now)
      flights outcome := by
  induction runs generalizing made with
  | done value world now =>
      refine .ended ?_ rfl rfl (.inl ⟨value, rfl⟩)
      rw [successes, List.map_nil, List.filter_nil, List.append_nil]
      exact takes
  | @await module next world now waited polls flights outcome waits polled rest ih =>
      apply Program.concludes_await waits polled rest takes
      intro made takesRest healthy
      rw [healthy, mapError_ok] at ih
      exact ih takesRest
  | @call request next world now answer asking flights outcome asks asked rest ih =>
      apply Program.concludes_call asks asked rest takes
      intro made found takesRest answered
      rw [answered] at ih
      exact ih takesRest

/-- An interruption cuts off the calls of a run: none begins behind the stop, and one that is due
there is abandoned and the last. -/
theorem Program.Runs.flown {course : Course α} {remote : Responder σ} {patience : Patience}
    {context : Context} {program : Program α} {world : σ} {now : Nat} {flights : List Flight}
    {outcome : Outcome σ α}
    (runs : Program.Runs remote patience context program world now flights outcome)
    {made : List Exchange} (takes : program.Takes course made) {stop : Nat}
    (stops : context.stop? = some stop) : Flown stop flights := by
  induction runs generalizing made with
  | done value world now => exact .nil
  | @await module next world now waited polls flights outcome waits polled rest ih =>
      obtain ⟨fails, goesOn⟩ := takes
      cases result : waited.value with
      | ok healthy =>
          rw [result, mapError_ok] at ih
          exact Flown.append (polled.landed result stop stops) (ih goesOn)
      | error error =>
          obtain ⟨value, ends, _⟩ := fails error.diagnose
          rw [result, mapError_error, ends] at rest
          cases rest
          rw [List.append_nil]
          exact polled.flown stop stops
  | @call request next world now answer asking flights outcome asks asked rest ih =>
      obtain ⟨_, fails, goesOn⟩ := takes
      cases result : answer.value with
      | ok found =>
          rw [result] at ih
          refine Flown.append ?_ (ih (goesOn found))
          cases asked with
          | answered early =>
              intro flight member
              rw [List.mem_singleton.mp member]
              exact early stop stops
          | refused isStop late => cases result
          | abandoned isStop early late => cases result
      | error failure =>
          obtain ⟨value, ends, _⟩ := fails failure
          rw [result, ends] at rest
          cases rest
          rw [List.append_nil]
          cases asked with
          | answered early => exact .landed (early stop stops) .nil
          | refused isStop late => exact .nil
          | abandoned isStop early late =>
              rw [stops] at isStop
              cases isStop
              exact .cut early rfl

/-! ## Courses that say one thing of all ends -/

/-- A course that says the same of a program that is done and of one that an error has stopped,
at a call or not. -/
def Course.uniform (holds : (made : List Exchange) → (tried : Option Call) → (value : α) → Prop) :
    Course α where
  ended made value := holds made none value
  stopped made tried failure value := failure.isError = true → holds made tried value

/-- What holds of the values of a program may be carried over to what it is changed into. -/
theorem Program.Takes.map_uniform
    {holds : (made : List Exchange) → (tried : Option Call) → (value : α) → Prop}
    {carried : (made : List Exchange) → (tried : Option Call) → (value : β) → Prop}
    {change : α → β}
    (carry : ∀ {made tried value}, holds made tried value → carried made tried (change value))
    {program : Program α} {made : List Exchange} (takes : program.Takes (.uniform holds) made) :
    (program.map change).Takes (.uniform carried) made := by
  refine Takes.map (Takes.mono ?_ ?_ takes)
  · intro made value held
    exact carry held
  · intro made tried failure value held isError
    exact carry (held isError)

/-- The exchanges other than listings. -/
def demands (exchanges : List Exchange) : List Exchange :=
  exchanges.filter fun exchange => !exchange.call.isListing

@[simp] theorem demands_append (first second : List Exchange) :
    demands (first ++ second) = demands first ++ demands second :=
  List.filter_append ..

theorem mem_demands_iff {exchanges : List Exchange} {exchange : Exchange}
    (notListing : exchange.call.isListing = false) :
    exchange ∈ demands exchanges ↔ exchange ∈ exchanges := by
  simp [demands, notListing]

theorem demands_singleton {exchange : Exchange} (notListing : exchange.call.isListing = false) :
    demands [exchange] = [exchange] := by
  rw [demands, List.filter_cons, notListing]
  rfl

/-- Listings do not count among the calls that are answered well. -/
theorem filter_succeeds_demands (exchanges : List Exchange) :
    (demands exchanges).filter Exchange.succeeds = exchanges.filter Exchange.succeeds := by
  rw [demands, List.filter_filter]
  apply List.filter_congr
  intro exchange _
  rw [Exchange.succeeds]
  cases exchange.call.isListing <;> simp

theorem Gate.Polled.demands_eq {gate : Gate} {polls : List Flight}
    {outcome : Outcome σ (Except GateError Unit)} (polled : gate.Polled polls outcome) :
    demands (polls.map Flight.toExchange) = [] := by
  rw [demands, List.filter_eq_nil_iff]
  intro exchange member
  obtain ⟨poll, isPoll, rfl⟩ := List.mem_map.mp member
  rw [polled.listings poll isPoll]
  simp [Call.isListing]

/-- Behind the exchanges made before, some calls are answered well, the one that is tried then
may fail, and the value is one of which the course says so. -/
def Comes (holds : (made : List Exchange) → (tried : Option Call) → (value : α) → Prop)
    (made exchanges : List Exchange) (value : α) : Prop :=
  ∃ answered failed tried, exchanges = answered ++ failed ∧ holds (made ++ answered) tried value ∧
    (∀ exchange ∈ answered, ∃ call answer, exchange = ⟨call, some (.ok answer)⟩) ∧
    ∀ exchange ∈ failed, tried = some exchange.call ∧ exchange.succeeds = false

section Comes

variable {holds : (made : List Exchange) → (tried : Option Call) → (value : α) → Prop}
  {made exchanges : List Exchange} {value : α}

theorem comes_stopped {tried : Option Call} (stopped : holds made tried value)
    (last : ∀ exchange ∈ exchanges, tried = some exchange.call ∧ exchange.succeeds = false) :
    Comes holds made exchanges value := by
  refine ⟨[], exchanges, tried, rfl, ?_, by simp, last⟩
  rw [List.append_nil]
  exact stopped

theorem Comes.cons {call : Call} {answer : call.Answer}
    (comes : Comes holds (made ++ [⟨call, some (.ok answer)⟩]) exchanges value) :
    Comes holds made (⟨call, some (.ok answer)⟩ :: exchanges) value := by
  obtain ⟨answered, failed, tried, rfl, held, good, bad⟩ := comes
  refine ⟨⟨call, some (.ok answer)⟩ :: answered, failed, tried, rfl, ?_, ?_, bad⟩
  · rw [List.append_cons]
    exact held
  · intro exchange member
    rcases List.mem_cons.mp member with rfl | later
    · exact ⟨call, answer, rfl⟩
    · exact good exchange later

/-- What a course that says the same of all ends says of a run. -/
theorem Program.Runs.comes {remote : Responder σ} {patience : Patience} {context : Context}
    {program : Program α} {world : σ} {now : Nat} {flights : List Flight} {outcome : Outcome σ α}
    (runs : Program.Runs remote patience context program world now flights outcome)
    {made : List Exchange} (takes : program.Takes (.uniform holds) made) :
    Comes holds made (demands (flights.map Flight.toExchange)) outcome.value := by
  induction runs generalizing made with
  | done value world now => exact comes_stopped takes (by simp [demands])
  | @await module next world now waited polls flights outcome waits polled rest ih =>
      obtain ⟨fails, goesOn⟩ := takes
      rw [List.map_append, demands_append, polled.demands_eq, List.nil_append]
      cases result : waited.value with
      | ok healthy =>
          rw [result, mapError_ok] at ih
          exact ih goesOn
      | error error =>
          obtain ⟨value, ends, stopped⟩ := fails error.diagnose
          rw [result, mapError_error, ends] at rest
          cases rest
          exact comes_stopped (stopped error.isError_diagnose) (by simp [demands])
  | @call request next world now answer asking flights outcome asks reached rest ih =>
      obtain ⟨notListing, fails, goesOn⟩ := takes
      have alone : ∀ answer? : Option (Except Failure request.Answer),
          demands [⟨request, answer?⟩] = [⟨request, answer?⟩] := fun _ =>
        demands_singleton notListing
      rw [List.map_append, demands_append]
      -- a call that fails is the last one, whether or not it has been made
      have last : ∀ {failure : Diagnostic}, answer.value = .error failure →
          (∀ exchange ∈ demands (asking.map Flight.toExchange),
            exchange.call = request ∧ exchange.succeeds = false) →
          Comes holds made (demands (asking.map Flight.toExchange) ++
            demands (flights.map Flight.toExchange)) outcome.value := by
        intro failure failed isRequest
        obtain ⟨value, ends, stopped⟩ := fails failure
        rw [failed, ends] at rest
        cases rest
        apply comes_stopped (stopped (perform_error_isError (by rw [asks, failed])))
        intro exchange member
        obtain ⟨same, notGood⟩ := isRequest exchange (by simpa [demands] using member)
        exact ⟨congrArg some same.symm, notGood⟩
      cases reached with
      | answered early =>
          rw [List.map_cons, List.map_nil, alone] at last ⊢
          cases replied : (remote.reply world request).answer with
          | ok found =>
              simp only [replied, mapError_ok] at ih
              exact (ih (goesOn found)).cons
          | error failure =>
              rw [replied] at last
              apply last rfl
              intro exchange member
              rw [List.mem_singleton.mp member]
              exact ⟨rfl, Bool.and_false _⟩
      | refused stops late => exact last rfl (by simp [demands])
      | abandoned stops early late =>
          rw [List.map_cons, List.map_nil, alone] at last ⊢
          apply last rfl
          intro exchange member
          rw [List.mem_singleton.mp member]
          exact ⟨rfl, Bool.and_false _⟩

/-- A good answer is one behind which the program has gone on. -/
theorem mem_answered {answered failed : List Exchange} {tried : Option Call}
    (last : ∀ exchange ∈ failed, tried = some exchange.call ∧ exchange.succeeds = false)
    {call : Call} {answer : call.Answer} (notListing : call.isListing = false)
    (member : ⟨call, some (.ok answer)⟩ ∈ answered ++ failed) :
    ⟨call, some (.ok answer)⟩ ∈ answered := by
  rcases List.mem_append.mp member with good | bad
  · exact good
  · have succeeds : Exchange.succeeds ⟨call, some (.ok answer)⟩ = true := by
      rw [Exchange.succeeds, notListing]
      rfl
    rw [(last _ bad).2] at succeeds
    cases succeeds

theorem Program.comes {program : Program α} (takes : program.Takes (.uniform holds) [])
    (remote : Responder σ) (patience : Patience) (context : Context) (world : σ) (now : Nat) :
    Comes holds [] (demands (program.exchanges remote patience context world now))
      (program.run remote patience context world now).value := by
  rw [program.exchanges_eq]
  exact (program.runs remote patience context world now).comes takes

/-- The calls that are answered well are the ones behind which the value has come. -/
theorem Program.comes_succeeded {program : Program α} (takes : program.Takes (.uniform holds) [])
    (remote : Responder σ) (patience : Patience) (context : Context) (world : σ) (now : Nat) :
    ∃ tried, holds
      ((program.exchanges remote patience context world now).filter Exchange.succeeds) tried
      (program.run remote patience context world now).value := by
  obtain ⟨answered, failed, tried, split, held, good, bad⟩ :=
    program.comes takes remote patience context world now
  refine ⟨tried, ?_⟩
  have whole : answered.filter Exchange.succeeds = answered := by
    rw [List.filter_eq_self]
    intro exchange member
    obtain ⟨call, answer, rfl⟩ := good exchange member
    have asked : ⟨call, some (.ok answer)⟩ ∈
        demands (program.exchanges remote patience context world now) := by
      rw [split]
      exact List.mem_append_left _ member
    rw [Exchange.succeeds, (List.mem_filter.mp asked).2]
    rfl
  have none : failed.filter Exchange.succeeds = [] := by
    rw [List.filter_eq_nil_iff]
    intro exchange member
    rw [(bad exchange member).2]
    simp
  rw [← filter_succeeds_demands, split, List.filter_append, whole, none, List.append_nil]
  exact held

end Comes

end Converge.Remote
