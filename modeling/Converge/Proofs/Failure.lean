import Converge.Failure
import Converge.Proofs.Decode.Text

/-!
# What error bodies say

A response without success tells its cause in its body. An error body is an object that has a code,
once and as a text, and a message, once and as a text or not at all; everything else in it is up to
the stack. Such a body is read twice with different demands: an envelope is refused where its
details are not what they should be, and is then read again without them. Whichever reading it
passes, the code and the message of the diagnostic are those of the body.
-/

namespace Converge

open Decode (members? IsList ofText)
open Json (Reading)

/-! ## Error bodies -/

namespace Failure

/-- The members of an error body say a code and a message. -/
structure Says (members : List (String × Reading)) (code message : String) : Prop where
  code : (Entries.valuesOf "errorCode" members).map Reading.text? = [some code]
  message : (Entries.valuesOf "errorMessage" members = [] ∧ message = "") ∨
    (Entries.valuesOf "errorMessage" members).map Reading.text? = [some message]

/-- The message with the details of an error body, where they are given once and as a text that is
not empty. -/
def told (members : List (String × Reading)) (message : String) : String :=
  match (Entries.valuesOf "details" members).map Reading.text? with
  | [some details] =>
    if details.isEmpty then message else message ++ " (details: " ++ details ++ ")"
  | _ => message

/-- A message as the operator sees it, behind the trace where there is one. -/
def spoken (traceparent : Option String) (message : String) : String :=
  match traceparent with
  | some traceparent => "[Traceparent: " ++ traceparent ++ "] " ++ message
  | none => if message.isEmpty then "unexpected error" else message

section Says

variable {members : List (String × Reading)} {code message : String}

theorem Says.unique {other text : String} (bodySays : Says members code message)
    (saysToo : Says members other text) : other = code ∧ text = message := by
  obtain ⟨isCode, isMessage⟩ := bodySays
  obtain ⟨isOther, isText⟩ := saysToo
  rw [isCode] at isOther
  refine ⟨by simpa using isOther.symm, ?_⟩
  rcases isMessage with ⟨none, rfl⟩ | given
  · rcases isText with ⟨-, rfl⟩ | givenToo
    · rfl
    · rw [none] at givenToo
      cases givenToo
  · rcases isText with ⟨none, -⟩ | givenToo
    · rw [none] at given
      cases given
    · rw [given] at givenToo
      simpa using givenToo.symm

end Says

end Failure

/-! ## Reading envelopes -/

namespace Envelope

open Decode
open Failure (Says told)
open Fields (Takes readsFrom_add readsFrom_none)

/-- What an envelope has for details, of the values under that name. -/
inductive Details : List Reading → Option String → Prop where
  | absent : Details [] none
  | null : Details [.null] none
  | text {reading : Reading} {details : String} (isText : reading.text? = some details) :
      Details [reading] (some details)

section Takes

variable {levels : Nat} {readings : List Reading}

theorem takes_text_iff {missing : Except Fault String} {value : String} :
    Takes text missing (readings.map (Cursor.mk levels)) value ↔
      (readings = [] ∧ missing = .ok value) ∨ readings.map Reading.text? = [some value] := by
  constructor
  · intro takes
    generalize isSources : readings.map (Cursor.mk levels) = sources at takes
    cases takes with
    | absent stands => exact .inl ⟨List.map_eq_nil_iff.mp isSources, stands⟩
    | given read =>
        obtain ⟨reading, rfl, rfl⟩ := List.map_eq_singleton_iff.mp isSources
        exact .inr (congrArg ([·]) (Cursor.text_eq_ok_iff.mp read))
  · rintro (⟨rfl, stands⟩ | given)
    · exact .absent stands
    · obtain ⟨reading, rfl, isText⟩ := List.map_eq_singleton_iff.mp given
      exact .given (Cursor.text_eq_ok_iff.mpr isText)

theorem optional_text_of_ne_null {reading : Reading} (notNull : reading ≠ .null) :
    optional text (Cursor.mk levels reading) = (text (Cursor.mk levels reading)).map some := by
  cases reading with
  | null => exact absurd rfl notNull
  | _ => rfl

theorem takes_details_iff {details : Option String} :
    Takes (optional text) (.ok none) (readings.map (Cursor.mk levels)) details ↔
      Details readings details := by
  constructor
  · intro takes
    generalize isSources : readings.map (Cursor.mk levels) = sources at takes
    cases takes with
    | absent stands =>
        cases stands
        exact List.map_eq_nil_iff.mp isSources ▸ .absent
    | given read =>
        obtain ⟨reading, rfl, rfl⟩ := List.map_eq_singleton_iff.mp isSources
        by_cases isNull : reading = .null
        · subst isNull
          cases read
          exact .null
        · rw [optional_text_of_ne_null isNull] at read
          obtain ⟨value, isText, rfl⟩ := map_eq_ok read
          exact .text (Cursor.text_eq_ok_iff.mp isText)
  · intro given
    cases given with
    | absent => exact .absent rfl
    | null => exact .given rfl
    | @text reading value isText =>
        refine .given ?_
        rw [optional_text_of_ne_null (fun isNull => by cases isNull ▸ isText)]
        exact map_eq_ok_iff.mpr ⟨value, Cursor.text_eq_ok_iff.mpr isText, rfl⟩

end Takes

variable {body : String} {envelope : Envelope}

/-- The envelope without its details is read of an error body, whatever else there is. -/
theorem decodeBrief_eq_ok_iff (noList : ¬ IsList body) :
    ofText decodeBrief body = .ok envelope ↔
      ∃ members, members? body = some members ∧ Says members envelope.code envelope.message ∧
        envelope.details = none := by
  unfold decodeBrief
  rw [Decode.ofText_record_iff (by decide) noList]
  refine exists_congr fun members => and_congr_right fun _ => ?_
  simp only [Fields.required, Fields.defaulted, readsFrom_add, readsFrom_none, takes_text_iff,
    reduceCtorEq, and_false, false_or, Except.ok.injEq]
  constructor
  · rintro ⟨_, message, ⟨_, code, rfl, isCode, rfl⟩, isMessage, rfl⟩
    exact ⟨⟨isCode, isMessage.imp_left (And.imp_right Eq.symm)⟩, rfl⟩
  · obtain ⟨code, message, details⟩ := envelope
    rintro ⟨⟨isCode, isMessage⟩, rfl⟩
    exact ⟨_, message, ⟨_, code, rfl, isCode, rfl⟩, isMessage.imp_left (And.imp_right Eq.symm), rfl⟩

/-- An envelope is read of an error body whose details are what they should be. -/
theorem decode_eq_ok_iff (noList : ¬ IsList body) :
    ofText decode body = .ok envelope ↔
      ∃ members, members? body = some members ∧ Says members envelope.code envelope.message ∧
        Details (Entries.valuesOf "details" members) envelope.details := by
  unfold decode
  rw [Decode.ofText_record_iff (by decide) noList]
  refine exists_congr fun members => and_congr_right fun _ => ?_
  simp only [Fields.required, Fields.optional, Fields.defaulted, readsFrom_add, readsFrom_none,
    takes_text_iff, takes_details_iff, reduceCtorEq, and_false, false_or, Except.ok.injEq]
  constructor
  · rintro ⟨_, details, ⟨_, message, ⟨_, code, rfl, isCode, rfl⟩, isMessage, rfl⟩, areDetails, rfl⟩
    exact ⟨⟨isCode, isMessage.imp_left (And.imp_right Eq.symm)⟩, areDetails⟩
  · obtain ⟨code, message, details⟩ := envelope
    rintro ⟨⟨isCode, isMessage⟩, areDetails⟩
    exact ⟨_, details, ⟨_, message, ⟨_, code, rfl, isCode, rfl⟩,
      isMessage.imp_left (And.imp_right Eq.symm), rfl⟩, areDetails, rfl⟩

/-- The full message of an envelope is what its body tells. -/
theorem fullMessage_eq_told {members : List (String × Reading)}
    (areDetails : Details (Entries.valuesOf "details" members) envelope.details) :
    envelope.fullMessage = told members envelope.message := by
  rw [fullMessage, told]
  generalize Entries.valuesOf "details" members = readings at areDetails ⊢
  generalize envelope.details = details at areDetails ⊢
  cases areDetails with
  | absent => rfl
  | null => rfl
  | text isText => rw [List.map_singleton, isText]

end Envelope

/-! ## Diagnosing failures -/

namespace Failure

section OfBody

variable {body : String} {members : List (String × Reading)} {code message : String}

/-- Of an error body the code and the message are those that it says. -/
theorem codeAndMessage_of_says (flavor : Flavor) (status : Nat)
    (isObject : members? body = some members) (bodySays : Says members code message) :
    (Cause.ofBody flavor status body).codeAndMessage = (code, told members message) := by
  have noList := Decode.not_isList_of_members? isObject
  rw [Cause.ofBody]
  cases full : ofText Envelope.decode body with
  | ok envelope =>
      obtain ⟨found, isFound, saysToo, areDetails⟩ := (Envelope.decode_eq_ok_iff noList).mp full
      obtain rfl := Option.some.inj (isObject.symm.trans isFound)
      obtain ⟨sameCode, sameMessage⟩ := bodySays.unique saysToo
      rw [Cause.codeAndMessage, Envelope.fullMessage_eq_told areDetails, sameCode, sameMessage]
  | error fault =>
      have brief : ofText Envelope.decodeBrief body = .ok ⟨code, message, none⟩ :=
        (Envelope.decodeBrief_eq_ok_iff noList).mpr ⟨members, isObject, bodySays, rfl⟩
      -- details that a text could tell would have been read with the envelope
      have plain : told members message = message := by
        rw [told]
        split
        next details given =>
          obtain ⟨reading, isReading, isText⟩ := List.map_eq_singleton_iff.mp given
          have read : ofText Envelope.decode body = .ok ⟨code, message, some details⟩ :=
            (Envelope.decode_eq_ok_iff noList).mpr
              ⟨members, isObject, bodySays, isReading ▸ .text isText⟩
          rw [read] at full
          cases full
        next => rfl
      rw [Cause.codeAndMessage, brief, plain]

/-- A body that is no error body leaves the code open. -/
theorem code_of_says_not (flavor : Flavor) (status : Nat) (noList : ¬ IsList body)
    (saysNot : ∀ members code message, members? body = some members → ¬ Says members code message) :
    (Cause.ofBody flavor status body).codeAndMessage.1 = fallbackCode := by
  rw [Cause.ofBody]
  cases full : ofText Envelope.decode body with
  | ok envelope =>
      obtain ⟨members, isObject, bodySays, -⟩ := (Envelope.decode_eq_ok_iff noList).mp full
      exact absurd bodySays (saysNot _ _ _ isObject)
  | error fault =>
      rw [Cause.codeAndMessage]
      cases brief : ofText Envelope.decodeBrief body with
      | ok envelope =>
          obtain ⟨members, isObject, bodySays, -⟩ :=
            (Envelope.decodeBrief_eq_ok_iff noList).mp brief
          exact absurd bodySays (saysNot _ _ _ isObject)
      | error fault =>
          dsimp only
          split <;> rfl

theorem codeAndMessage_ofBody_eq (flavor other : Flavor) (status : Nat) :
    (Cause.ofBody flavor status body).codeAndMessage =
      (Cause.ofBody other status body).codeAndMessage := by
  rw [Cause.ofBody, Cause.ofBody]
  cases ofText Envelope.decode body <;> rfl

end OfBody

theorem diagnose_eq (failure : Failure) :
    failure.diagnose =
      ⟨.error, .remote, failure.cause.codeAndMessage.1,
        spoken failure.traceparent failure.cause.codeAndMessage.2, none, failure.traceparent⟩ := by
  rw [diagnose]
  cases failure.traceparent <;> rfl

theorem spoken_ne_empty (traceparent : Option String) (message : String) :
    spoken traceparent message ≠ "" := by
  cases traceparent with
  | some traceparent => simp [spoken]
  | none =>
      rw [spoken]
      split
      next => decide
      next isGiven => simpa using isGiven

/-- **Error bodies keep their code.** Of an error body the diagnostic has the code and the message
that it says, with its details where they are a text, whichever module answered and whatever else
the body has. Any other body but a list leaves the code open. Every diagnostic is an error with a
message, and carries the trace of the response in front of the message. -/
theorem diagnose_keeps_code :
    (∀ (body : String) (members : List (String × Reading)) (code message : String),
      members? body = some members → Says members code message →
        ∀ (flavor : Flavor) (status : Nat) (response : Option Nat) (traceparent : Option String),
          let diagnostic := diagnose ⟨.ofBody flavor status body, response, traceparent⟩
          diagnostic.code = code ∧
            diagnostic.message = spoken traceparent (told members message)) ∧
    (∀ (flavor other : Flavor) (status : Nat) (body : String) (response : Option Nat)
      (traceparent : Option String),
        diagnose ⟨.ofBody flavor status body, response, traceparent⟩ =
          diagnose ⟨.ofBody other status body, response, traceparent⟩) ∧
    (∀ (body : String), ¬ IsList body →
      (∀ members code message, members? body = some members → ¬ Says members code message) →
        ∀ (flavor : Flavor) (status : Nat) (response : Option Nat) (traceparent : Option String),
          (diagnose ⟨.ofBody flavor status body, response, traceparent⟩).code = "INTERNAL") ∧
    ∀ failure : Failure,
      failure.diagnose.message ≠ "" ∧ failure.diagnose.severity = .error ∧
        failure.diagnose.correlation = failure.traceparent ∧
        ∀ traceparent, failure.traceparent = some traceparent →
          ∃ message,
            failure.diagnose.message = "[Traceparent: " ++ traceparent ++ "] " ++ message := by
  refine ⟨?_, ?_, ?_, fun failure => ?_⟩
  · intro body members code message isObject bodySays flavor status response traceparent
    simp only [diagnose_eq, codeAndMessage_of_says flavor status isObject bodySays, and_self]
  · intro flavor other status body response traceparent
    simp only [diagnose_eq, codeAndMessage_ofBody_eq flavor other status]
  · intro body noList saysNot flavor status response traceparent
    rw [diagnose_eq]
    exact code_of_says_not flavor status noList saysNot
  · rw [diagnose_eq]
    refine ⟨spoken_ne_empty _ _, rfl, rfl, ?_⟩
    rintro traceparent isTrace
    exact ⟨failure.cause.codeAndMessage.2, by rw [isTrace]; rfl⟩

/-- An error body with its details given twice, and with a text that no reader could take. -/
def conflict : String :=
  "\x7b\"errorCode\":\"CONFLICT\",\"hint\":[\"\\ud800\"],\"details\":\"in use\","
  ++ "\"details\":[],\"errorMessage\":\"pool exists\"\x7d"

theorem says_conflict :
    ∃ members, members? conflict = some members ∧ Says members "CONFLICT" "pool exists" ∧
      told members "pool exists" = "pool exists" := by
  have texts : (members? conflict).map (fun members =>
      ["errorCode", "errorMessage", "details"].map fun name =>
        (Entries.valuesOf name members).map Reading.text?) =
      some [[some "CONFLICT"], [some "pool exists"], [some "in use", none]] := by
    decide +kernel
  obtain ⟨members, isObject, texts⟩ := Option.map_eq_some_iff.mp texts
  simp only [List.map_cons, List.map_nil, List.cons.injEq, and_true] at texts
  obtain ⟨code, message, details⟩ := texts
  exact ⟨members, isObject, ⟨code, .inr message⟩, by rw [told, details]⟩

theorem diagnose_keeps_code_conflict :
    (∀ flavor : Flavor,
      (diagnose ⟨.ofBody flavor 409 conflict, some 409, some "00-a1-b2-01"⟩).code = "CONFLICT" ∧
        (diagnose ⟨.ofBody flavor 409 conflict, some 409, some "00-a1-b2-01"⟩).message =
          "[Traceparent: 00-a1-b2-01] pool exists") ∧
    (diagnose ⟨.ofBody .plain 502 "\x7b\x7d", some 502, none⟩).code = "INTERNAL" ∧
    (diagnose ⟨.ofBody .plain 502 "\x7b\x7d", some 502, none⟩).message ≠ "" := by
  obtain ⟨keeps, -, leaves, always⟩ := diagnose_keeps_code
  refine ⟨fun flavor => ?_, ?_, (always _).1⟩
  · obtain ⟨members, isObject, bodySays, plain⟩ := says_conflict
    have kept := keeps conflict members _ _ isObject bodySays flavor 409 (some 409)
      (some "00-a1-b2-01")
    rw [plain] at kept
    exact kept
  · have size : (members? "\x7b\x7d").map List.length = some 0 := by decide +kernel
    obtain ⟨members, isObject, isEmpty⟩ := Option.map_eq_some_iff.mp size
    have noList := Decode.not_isList_of_members? isObject
    refine leaves _ noList (fun found code message isFound saysToo => ?_) .plain 502 _ _
    obtain rfl := Option.some.inj (isObject.symm.trans isFound)
    have missing := saysToo.code
    rw [List.length_eq_zero_iff.mp isEmpty] at missing
    cases missing

end Failure

end Converge
