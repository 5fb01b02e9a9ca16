import Converge.Proofs.Http.Route

/-!
# Outcomes of calls

A call over a network ends in one of three places. Its decorators act in turn, each on the draft
and the trace that the one before leaves: the first that fails ends the call before anything is
sent. A request that goes out may be lost. A response settles the call by its status and its body.
The trace of a failure is the one last recorded when the call ends, unless a response carries one
that can be read.
-/

namespace Converge

open Remote

namespace Http

/-! ## Decorators in turn -/

namespace Decorator

variable {serial : Nat} {decorators : List Decorator} {draft passed : Draft}
  {trace recorded : Option String} {cause : Failure.Cause}

/-- Decorators that all succeed, each on what the one before leaves. -/
inductive Pass (serial : Nat) :
    List Decorator → Draft → Option String → Draft → Option String → Prop where
  | nil (draft : Draft) (trace : Option String) : Pass serial [] draft trace draft trace
  | cons {decorator : Decorator} {rest : List Decorator} {draft next passed : Draft}
      {trace between recorded : Option String}
      (first : decorator serial draft trace = ⟨between, .ok next⟩)
      (later : Pass serial rest next between passed recorded) :
      Pass serial (decorator :: rest) draft trace passed recorded

/-- One of the decorators fails, behind others that succeed, with what is recorded by then. -/
def Fails (serial : Nat) (decorators : List Decorator) (draft : Draft) (trace : Option String)
    (cause : Failure.Cause) (recorded : Option String) : Prop :=
  ∃ front failing rest passed between, decorators = front ++ failing :: rest ∧
    Pass serial front draft trace passed between ∧
      failing serial passed between = ⟨recorded, .error cause⟩

theorem runAll_eq_ok_iff :
    runAll serial decorators draft trace = ⟨recorded, .ok passed⟩ ↔
      Pass serial decorators draft trace passed recorded := by
  induction decorators generalizing draft trace with
  | nil =>
      constructor
      · intro done
        cases done
        exact .nil _ _
      · intro pass
        cases pass
        rfl
  | cons decorator rest ih =>
      rw [runAll]
      cases first : decorator serial draft trace with
      | mk between outcome =>
          cases outcome with
          | ok next =>
              refine ih.trans ⟨.cons first, ?_⟩
              intro pass
              cases pass with
              | cons found later =>
                  cases first.symm.trans found
                  exact later
          | error cause =>
              constructor
              · intro done
                cases done
              · intro pass
                cases pass with
                | cons found later => cases first.symm.trans found

/-- A turn fails at the first decorator that does, with the trace that is recorded by then. -/
theorem runAll_eq_error_iff :
    runAll serial decorators draft trace = ⟨recorded, .error cause⟩ ↔
      Fails serial decorators draft trace cause recorded := by
  induction decorators generalizing draft trace with
  | nil =>
      constructor
      · intro done
        cases done
      · rintro ⟨front, failing, rest, passed, between, split, _⟩
        exact absurd split.symm
          (List.append_ne_nil_of_right_ne_nil front (List.cons_ne_nil failing rest))
  | cons decorator rest ih =>
      rw [runAll]
      cases first : decorator serial draft trace with
      | mk between outcome =>
          cases outcome with
          | ok next =>
              refine ih.trans ⟨?_, ?_⟩
              · rintro ⟨front, failing, behind, passed, last, rfl, pass, fails⟩
                exact ⟨decorator :: front, failing, behind, passed, last, rfl, .cons first pass,
                  fails⟩
              · rintro ⟨front, failing, behind, passed, last, split, pass, fails⟩
                cases pass with
                | nil =>
                    obtain ⟨rfl, rfl⟩ := List.cons.inj split
                    cases first.symm.trans fails
                | cons found later =>
                    obtain ⟨rfl, rfl⟩ := List.cons.inj split
                    cases first.symm.trans found
                    exact ⟨_, failing, behind, passed, last, rfl, later, fails⟩
          | error fault =>
              constructor
              · rintro ⟨⟩
                exact ⟨[], decorator, rest, draft, trace, rfl, .nil draft trace, first⟩
              · rintro ⟨front, failing, behind, passed, last, split, pass, fails⟩
                cases pass with
                | nil =>
                    obtain ⟨rfl, rfl⟩ := List.cons.inj split
                    exact first.symm.trans fails
                | cons found later =>
                    obtain ⟨rfl, rfl⟩ := List.cons.inj split
                    cases first.symm.trans found

/-- Decorators all succeed, or one of them is the first that fails. -/
theorem pass_or_fails (serial : Nat) (decorators : List Decorator) (draft : Draft)
    (trace : Option String) :
    (∃ passed recorded, Pass serial decorators draft trace passed recorded) ∨
      ∃ cause recorded, Fails serial decorators draft trace cause recorded := by
  cases outcome : runAll serial decorators draft trace with
  | mk recorded result =>
      cases result with
      | ok passed => exact .inl ⟨passed, recorded, runAll_eq_ok_iff.mp outcome⟩
      | error cause => exact .inr ⟨cause, recorded, runAll_eq_error_iff.mp outcome⟩

end Decorator

/-! ## Responses -/

namespace Response

/-- Whether a header is the one of the trace, in whatever case its name is written. -/
def namesTrace (header : String × String) : Bool :=
  header.1.map Char.toLower == traceHeader

/-- The first header of the trace has the value, and it can be read. -/
def Carries (response : Response) (value : String) : Prop :=
  ∃ front name behind, response.headers = front ++ (name, value) :: behind ∧
    namesTrace (name, value) = true ∧ (∀ header ∈ front, namesTrace header = false) ∧
      isReadable value = true

theorem traceparent?_eq_some_iff {response : Response} {value : String} :
    response.traceparent? = some value ↔ response.Carries value := by
  have named : response.traceparent? = (response.headers.find? namesTrace).bind
      fun header => if isReadable header.2 then some header.2 else none := rfl
  rw [named, Option.bind_eq_some_iff]
  constructor
  · rintro ⟨⟨name, text⟩, found, readable⟩
    obtain ⟨names, front, behind, split, before⟩ := List.find?_eq_some_iff_append.mp found
    split at readable
    next isReadable =>
      cases readable
      exact ⟨front, name, behind, split, names, by simpa using before, isReadable⟩
    next => cases readable
  · rintro ⟨front, name, behind, split, names, before, isReadable⟩
    refine ⟨(name, value), ?_, if_pos isReadable⟩
    exact List.find?_eq_some_iff_append.mpr ⟨names, front, behind, split, by simpa using before⟩

end Response

/-- The flavor of the module that a path leads to. -/
def flavorOf : List String → Flavor
  | "api" :: "ledger" :: _ => .ledger
  | "api" :: "payments" :: _ => .payments
  | _ => .plain

theorem flavor_eq (call : Call) : call.flavor = flavorOf call.route.parts := by
  cases call with
  | command order => cases order <;> rfl
  | _ => rfl

namespace Client

section Settle

variable {call : Call} {trace : Option String} {response : Response} {body : String}

/-- A trace that the response carries counts, and else the one that was recorded. -/
theorem traceparent_or (response : Response) (trace : Option String) :
    (∀ value, response.Carries value → response.traceparent?.or trace = some value) ∧
      ((∀ value, ¬ response.Carries value) → response.traceparent?.or trace = trace) := by
  constructor
  · intro value carries
    rw [Response.traceparent?_eq_some_iff.mpr carries, Option.some_or]
  · intro carriesNone
    have none : response.traceparent? = none := Option.eq_none_iff_forall_ne_some.mpr
      fun value found => carriesNone value (Response.traceparent?_eq_some_iff.mp found)
    rw [none, Option.none_or]

theorem settle_of_broken (broken : response.body = none) :
    settle call trace response = .error ⟨.transport "error decoding response body",
      some response.status, response.traceparent?.or trace⟩ := by
  rw [settle, broken]

theorem settle_of_refused (arrived : response.body = some body)
    (refused : response.isSuccess = false) :
    settle call trace response = .error ⟨.ofBody call.flavor response.status body,
      some response.status, response.traceparent?.or trace⟩ := by
  rw [settle, arrived]
  exact if_neg (Bool.not_eq_true _ ▸ refused)

theorem settle_of_success (arrived : response.body = some body)
    (success : response.isSuccess = true) :
    settle call trace response =
      match call.readAnswer body with
      | .ok answer => .ok answer
      | .error fault => .error ⟨.undecodable fault.message, some response.status,
          response.traceparent?.or trace⟩ := by
  rw [settle, arrived]
  exact if_pos success

/-- Every failure behind a response has its status, and its trace where it carries one. -/
theorem settle_failure {failure : Failure} (failed : settle call trace response = .error failure) :
    failure.status = some response.status ∧
      failure.traceparent = response.traceparent?.or trace := by
  cases arrived : response.body with
  | none =>
      rw [settle_of_broken arrived] at failed
      cases failed
      exact ⟨rfl, rfl⟩
  | some body =>
      cases success : response.isSuccess with
      | false =>
          rw [settle_of_refused arrived success] at failed
          cases failed
          exact ⟨rfl, rfl⟩
      | true =>
          rw [settle_of_success arrived success] at failed
          split at failed
          next => cases failed
          next =>
            cases failed
            exact ⟨rfl, rfl⟩

theorem settle_eq_ok_iff {answer : call.Answer} :
    settle call trace response = .ok answer ↔
      response.isSuccess = true ∧
        ∃ body, response.body = some body ∧ call.readAnswer body = .ok answer := by
  cases arrived : response.body with
  | none =>
      rw [settle_of_broken arrived]
      exact iff_of_false nofun fun ⟨_, _, found, _⟩ => nomatch found
  | some body =>
      simp only [Option.some.injEq, exists_eq_left']
      cases success : response.isSuccess with
      | false =>
          rw [settle_of_refused arrived success]
          exact iff_of_false nofun fun ⟨found, _⟩ => nomatch found
      | true =>
          rw [settle_of_success arrived success, and_iff_right rfl]
          cases call.readAnswer body with
          | ok found => simp only [Except.ok.injEq]
          | error fault => exact iff_of_false nofun nofun

end Settle

/-! ## Calls -/

/-- What a response makes of a call that recorded a trace. -/
structure Settles (call : Call) (trace : Option String) (response : Response)
    (answer : Except Failure call.Answer) : Prop where
  /-- Failures have the status of the response, and its trace where it carries one. -/
  context : ∀ failure, answer = .error failure → failure.status = some response.status ∧
    (∀ value, response.Carries value → failure.traceparent = some value) ∧
      ((∀ value, ¬ response.Carries value) → failure.traceparent = trace)
  succeeds : ∀ result, answer = .ok result ↔
    (200 ≤ response.status ∧ response.status < 300) ∧
      ∃ body, response.body = some body ∧ call.readAnswer body = .ok result
  command : ∀ order, call = .command order →
    ((∃ result, answer = .ok result) ↔
      (200 ≤ response.status ∧ response.status < 300) ∧ response.body ≠ none)
  undecodable : 200 ≤ response.status ∧ response.status < 300 →
    ∀ body fault, response.body = some body → call.readAnswer body = .error fault →
      ∃ failure, answer = .error failure ∧ failure.cause = .undecodable fault.message
  refused : ¬ (200 ≤ response.status ∧ response.status < 300) → ∀ body, response.body = some body →
    ∃ failure, answer = .error failure ∧
      failure.cause = .ofBody (flavorOf call.route.parts) response.status body
  broken : response.body = none →
    ∃ failure, answer = .error failure ∧ ∃ message, failure.cause = .transport message

theorem settles (call : Call) (trace : Option String) (response : Response) :
    Settles call trace response (settle call trace response) := by
  have success_iff : response.isSuccess = true ↔ 200 ≤ response.status ∧ response.status < 300 := by
    simp [Response.isSuccess]
  obtain ⟨carried, recorded⟩ := traceparent_or response trace
  constructor
  · intro failure failed
    obtain ⟨status, traceparent⟩ := settle_failure failed
    rw [traceparent]
    exact ⟨status, carried, recorded⟩
  · intro result
    rw [settle_eq_ok_iff, success_iff]
  · rintro order rfl
    refine (exists_congr fun result => settle_eq_ok_iff).trans ?_
    rw [success_iff, Option.ne_none_iff_exists']
    constructor
    · rintro ⟨result, success, body, arrived, _⟩
      exact ⟨success, body, arrived⟩
    · rintro ⟨success, body, arrived⟩
      exact ⟨(), success, body, arrived, rfl⟩
  · intro success body fault arrived undecodable
    rw [settle_of_success arrived (success_iff.mpr success), undecodable]
    exact ⟨_, rfl, rfl⟩
  · intro refused body arrived
    rw [settle_of_refused arrived (by simpa using mt success_iff.mp refused), ← flavor_eq]
    exact ⟨_, rfl, rfl⟩
  · intro broken
    rw [settle_of_broken broken]
    exact ⟨_, rfl, _, rfl⟩

section Reply

variable {σ : Type} {client : Client} {call : Call}
  {draft : Draft} {trace : Option String}

theorem reply_of_fails (network : Network σ) (line : Line σ) {cause : Failure.Cause}
    (fails : Decorator.Fails line.calls client.decorators (client.draft call) none cause trace) :
    client.outgoing? line.calls call = none ∧
      ((client.remote network).reply line call).answer = .error ⟨cause, none, trace⟩ := by
  have outcome := Decorator.runAll_eq_error_iff.mpr fails
  simp only [outgoing?, remote, outcome, and_self]

theorem reply_of_unbuildable (network : Network σ) (line : Line σ)
    (pass : Decorator.Pass line.calls client.decorators (client.draft call) none draft trace)
    (unbuilt : client.request? draft = none) :
    client.outgoing? line.calls call = none ∧
      ((client.remote network).reply line call).answer =
        .error ⟨.transport unbuildable, none, trace⟩ := by
  have outcome := Decorator.runAll_eq_ok_iff.mpr pass
  simp only [outgoing?, remote, outcome, unbuilt, and_self]

theorem reply_of_built (network : Network σ) (line : Line σ) {request : Request}
    (pass : Decorator.Pass line.calls client.decorators (client.draft call) none draft trace)
    (built : client.request? draft = some request) :
    client.outgoing? line.calls call = some request ∧
      ((client.remote network).reply line call).answer =
        conclude call trace request (network.exchange line.network request).delivery := by
  have outcome := Decorator.runAll_eq_ok_iff.mpr pass
  simp only [outgoing?, remote, outcome, built, and_self]

end Reply

/-- **Outcome of a call.** Decorators all succeed or there is a first that fails. One that fails
ends the call: nothing is sent, and the failure has its cause and the trace recorded by then. A
request that cannot be sent or is lost is a failure of the transport with the trace last recorded
and no status. A response settles the call by its status and its body. -/
theorem outcome_of_call {σ : Type} (client : Client) (network : Network σ) (line : Line σ)
    (call : Call) :
    let reply := (client.remote network).reply line call
    ((∃ draft trace,
        Decorator.Pass line.calls client.decorators (client.draft call) none draft trace) ∨
      ∃ cause recorded,
        Decorator.Fails line.calls client.decorators (client.draft call) none cause recorded) ∧
    (∀ cause recorded,
      Decorator.Fails line.calls client.decorators (client.draft call) none cause recorded →
        client.outgoing? line.calls call = none ∧ reply.after.network = line.network ∧
          reply.answer = .error ⟨cause, none, recorded⟩) ∧
    ∀ draft trace,
      Decorator.Pass line.calls client.decorators (client.draft call) none draft trace →
        (client.request? draft = none →
          client.outgoing? line.calls call = none ∧ reply.after.network = line.network ∧
            ∃ message, reply.answer = .error ⟨.transport message, none, trace⟩) ∧
        ∀ request, client.request? draft = some request →
          client.outgoing? line.calls call = some request ∧
          ((network.exchange line.network request).delivery = .lost →
            ∃ message, reply.answer = .error ⟨.transport message, none, trace⟩) ∧
          ∀ response, (network.exchange line.network request).delivery = .answered response →
            Settles call trace response reply.answer := by
  have unsent (nothing : client.outgoing? line.calls call = none) :
      ((client.remote network).reply line call).after.network = line.network := by
    rw [reply_after, nothing]
  refine ⟨Decorator.pass_or_fails _ _ _ _, fun cause recorded fails => ?_,
    fun draft trace pass => ⟨fun unbuilt => ?_, ?_⟩⟩
  · obtain ⟨nothing, answer⟩ := reply_of_fails network line fails
    exact ⟨nothing, unsent nothing, answer⟩
  · obtain ⟨nothing, answer⟩ := reply_of_unbuildable network line pass unbuilt
    exact ⟨nothing, unsent nothing, _, answer⟩
  · intro request built
    obtain ⟨sent, answer⟩ := reply_of_built network line pass built
    refine ⟨sent, fun lost => ?_, fun response answered => ?_⟩
    · rw [answer, lost]
      exact ⟨_, rfl⟩
    · rw [answer, answered]
      exact settles call trace response

/-- The network on which every request is answered alike. -/
def answering (response : Response) : Network Unit where
  exchange _ _ := ⟨0, .answered response, (), ()⟩

/-- A client that stamps its requests, and then shows a token. -/
def stamping (token : Except Failure.Cause String) : Client :=
  ⟨"http://localhost", standardUserAgent,
    [.stamp (fun serial => traceText 10 serial), .bearer (fun _ => token)]⟩

/-- Without a token nothing is sent, and the failure has the trace that was stamped. With one a
refusal has its own trace where it carries one. -/
theorem outcome_of_call_stamping :
    (((stamping (.error (.transport "no token"))).remote (answering ⟨200, [], some ""⟩)).reply
        ⟨0, ()⟩ (.command (.deletePool "p"))).answer =
      .error ⟨.transport "no token", none, some (traceText 10 0)⟩ ∧
    ∃ failure,
      (((stamping (.ok "token")).remote
        (answering ⟨404, [("Traceparent", "00-a1-b2-01")], some ""⟩)).reply
          ⟨0, ()⟩ (.command (.deletePool "p"))).answer = .error failure ∧
        failure.cause = .ofBody .payments 404 "" ∧ failure.status = some 404 ∧
          failure.traceparent = some "00-a1-b2-01" := by
  have isSome :
      ((stamping (.ok "token")).outgoing? 0 (.command (.deletePool "p"))).isSome = true := by
    decide +kernel
  obtain ⟨-, fails, -⟩ := outcome_of_call (stamping (.error (.transport "no token")))
    (answering ⟨200, [], some ""⟩) ⟨0, ()⟩ (.command (.deletePool "p"))
  obtain ⟨-, -, passes⟩ := outcome_of_call (stamping (.ok "token"))
    (answering ⟨404, [("Traceparent", "00-a1-b2-01")], some ""⟩) ⟨0, ()⟩
    (.command (.deletePool "p"))
  refine ⟨?_, ?_⟩
  · exact (fails _ _ ⟨[_], _, [], _, _, rfl, .cons rfl (.nil _ _), rfl⟩).2.2
  · obtain ⟨request, built⟩ := Option.isSome_iff_exists.mp isSome
    obtain ⟨-, -, settles⟩ := (passes _ _ (.cons rfl (.cons rfl (.nil _ _)))).2 request built
    have settled := settles _ rfl
    obtain ⟨failure, failed, cause⟩ := settled.refused (by decide) "" rfl
    obtain ⟨status, carried, -⟩ := settled.context failure failed
    refine ⟨failure, failed, cause, status, carried _ ⟨[], _, [], rfl, ?_, nofun, ?_⟩⟩
    · decide +kernel
    · decide +kernel

/-- A response of success whose body breaks off is a failure, also of a command, which does not
look at the body. -/
theorem deletePool_truncated :
    (nearby.outgoing? 0 (.command (.deletePool "p"))).isSome = true ∧
      ((nearby.remote (answering ⟨200, [], none⟩)).reply
        ⟨0, ()⟩ (.command (.deletePool "p"))).answer =
          .error ⟨.transport "error decoding response body", some 200, none⟩ := by
  have isSome : (nearby.outgoing? 0 (.command (.deletePool "p"))).isSome = true := by
    decide +kernel
  obtain ⟨request, built⟩ := Option.isSome_iff_exists.mp isSome
  have pass : Decorator.Pass 0 nearby.decorators (nearby.draft (.command (.deletePool "p"))) none
      _ none := .cons rfl (.nil _ _)
  refine ⟨isSome, ?_⟩
  exact (reply_of_built (answering ⟨200, [], none⟩) ⟨0, ()⟩ pass built).2

end Client

end Http

end Converge
