import Converge.Proofs.Resource.LedgerGrammar
import Converge.Proofs.Yaml.Document

/-!
# What validation says of a ledger schema

Validation lists what offends in a schema in the order of the places, each offence once, and misses
none; nothing is reported exactly where the schema follows the grammar. That holds at any depth,
because what is reported below a key is what would be reported of the value there, with the key in
front.
-/

namespace Converge.Resource.LedgerSchema

/-! ## Listing offences -/

section Tells

variable {π ρ : Type} {path : π → List String} {Before : π → π → Prop}
  {Offending Offending' : π → Fault → Prop} {found later : Diagnostics}

/-- What is found is the reports of all that offends, in order, each once. -/
def Tells (path : π → List String) (Before : π → π → Prop) (Offending : π → Fault → Prop)
    (found : Diagnostics) : Prop :=
  ∃ offences : List (π × Fault),
    found = offences.map (fun offence => offence.2.report (path offence.1)) ∧
      offences.Pairwise (fun one other => Before one.1 other.1) ∧
        ∀ place fault, (place, fault) ∈ offences ↔ Offending place fault

theorem Tells.nothing (none : ∀ place fault, ¬ Offending place fault) :
    Tells path Before Offending [] :=
  ⟨[], rfl, .nil, fun place fault => iff_of_false List.not_mem_nil (none place fault)⟩

theorem Tells.alone (place : π) (fault : Fault) {report : Diagnostic}
    (reported : report = fault.report (path place))
    (only : ∀ other cause, Offending other cause ↔ other = place ∧ cause = fault) :
    Tells path Before Offending [report] := by
  refine ⟨[(place, fault)], congrArg ([·]) reported, List.pairwise_singleton _ _, ?_⟩
  intro other cause
  rw [only, List.mem_singleton, Prod.mk.injEq]

/-- What offends in one part and then what offends in the next. -/
theorem Tells.append (first : Tells path Before Offending found)
    (second : Tells path Before Offending' later)
    (apart : ∀ place fault other cause, Offending place fault → Offending' other cause →
      Before place other) :
    Tells path Before (fun place fault => Offending place fault ∨ Offending' place fault)
      (found ++ later) := by
  obtain ⟨offences, rfl, ordered, complete⟩ := first
  obtain ⟨others, rfl, ordered', complete'⟩ := second
  refine ⟨offences ++ others, List.map_append.symm, ?_, ?_⟩
  · refine List.pairwise_append.mpr ⟨ordered, ordered', ?_⟩
    intro one isOne other isOther
    exact apart _ _ _ _ ((complete _ _).mp isOne) ((complete' _ _).mp isOther)
  · intro place fault
    rw [List.mem_append, complete, complete']

/-- What offends at places that are seen from further above. -/
theorem Tells.embed (place : π → ρ) {outer : ρ → List String} {OuterBefore : ρ → ρ → Prop}
    (tells : Tells path Before Offending found) (leads : ∀ inner, outer (place inner) = path inner)
    (keeps : ∀ one other, Before one other → OuterBefore (place one) (place other)) :
    Tells outer OuterBefore (fun whole fault => ∃ inner, place inner = whole ∧
      Offending inner fault) found := by
  obtain ⟨offences, rfl, ordered, complete⟩ := tells
  refine ⟨offences.map fun offence => (place offence.1, offence.2), ?_, ?_, ?_⟩
  · simp [Function.comp_def, leads]
  · exact List.pairwise_map.mpr (ordered.imp (keeps _ _))
  · intro whole fault
    simp only [List.mem_map, Prod.mk.injEq, Prod.exists]
    constructor
    · rintro ⟨inner, cause, isOffence, rfl, rfl⟩
      exact ⟨inner, rfl, (complete _ _).mp isOffence⟩
    · rintro ⟨inner, rfl, offends⟩
      exact ⟨inner, fault, (complete _ _).mpr offends, rfl, rfl⟩

theorem Tells.congr (tells : Tells path Before Offending found)
    (same : ∀ place fault, Offending place fault ↔ Offending' place fault) :
    Tells path Before Offending' found := by
  obtain ⟨offences, reported, ordered, complete⟩ := tells
  exact ⟨offences, reported, ordered, fun place fault => (complete _ _).trans (same _ _)⟩

/-- Nothing is found exactly where nothing offends. -/
theorem Tells.eq_nil_iff (tells : Tells path Before Offending found) :
    found = [] ↔ ∀ place fault, ¬ Offending place fault := by
  obtain ⟨offences, rfl, _, complete⟩ := tells
  rw [List.map_eq_nil_iff, List.eq_nil_iff_forall_not_mem, Prod.forall]
  exact forall₂_congr fun place fault => not_congr (complete place fault)

end Tells

/-! ## The chart -/

theorem dotted_append {path : List String} (isPath : path ≠ []) (key : String) :
    dotted (path ++ [key]) = dotted path ++ "." ++ key := by
  rw [dotted, String.intercalate_append_of_ne_nil isPath (List.cons_ne_nil key []),
    String.intercalate_singleton, dotted]

/-- What is reported of a value that has to be a segment. -/
def segmentReports (path : String) : Value → Diagnostics
  | .map fields => validateSegments path fields
  | other => [wrongKind path .map other.kind]

/-- What is reported of an entry of a segment. -/
def entryReports (path key : String) (value : Value) : Diagnostics :=
  match propertyKind? key with
  | some expected => expectKind path expected value
  | none =>
    if key.startsWith "." then
      [.invalid path (path ++ ": unknown segment property '" ++ key ++ "'")]
    else segmentReports path value

theorem validateSegments_cons (path key : String) (value : Value)
    (rest : List (String × Value)) :
    validateSegments path ((key, value) :: rest) =
      entryReports (path ++ "." ++ key) key value ++ validateSegments path rest := by
  rw [entryReports]
  cases value <;> rw [validateSegments.eq_def] <;> rfl

theorem validateChart_eq (chart : Value) : validateChart chart = segmentReports "chart" chart := by
  cases chart <;> rfl

theorem segmentOffends_cons_iff {key : String} {value : Value} {rest : List (String × Value)}
    {keys : List String} {fault : Fault} :
    SegmentOffends (.map ((key, value) :: rest)) keys fault ↔
      (∃ below, key :: below = keys ∧ EntryOffends key value below fault) ∨
        SegmentOffends (.map rest) keys fault := by
  constructor
  · rintro (other | ⟨isEntry, offends⟩)
    · exact absurd rfl other
    · rcases List.mem_cons.mp isEntry with same | behind
      · cases same
        exact .inl ⟨_, rfl, offends⟩
      · exact .inr (.entry behind offends)
  · rintro (⟨below, rfl, offends⟩ | other | ⟨isEntry, offends⟩)
    · exact .entry List.mem_cons_self offends
    · exact absurd rfl other
    · exact .entry (List.mem_cons_of_mem _ isEntry) offends

/-- What offends in a segment at the end of the path that leads to it. -/
theorem Tells.here {above : List String} {Offending : List String → Fault → Prop}
    {report : Diagnostic} (fault : Fault) (reported : report = fault.report above)
    (only : ∀ keys cause, Offending keys cause ↔ keys = [] ∧ cause = fault) :
    Tells (above ++ ·) (List.Lex (· < ·)) Offending [report] :=
  .alone [] fault (by rw [List.append_nil, reported]) only

mutual

theorem segment_tells {above : List String} (isPath : above ≠ []) {value : Value}
    (sorted : value.Sorted) :
    Tells (above ++ ·) (List.Lex (· < ·)) (SegmentOffends value)
      (segmentReports (dotted above) value) := by
  by_cases isMap : value.kind = .map
  · obtain ⟨fields, rfl⟩ := exists_fields isMap
    rw [Value.Sorted] at sorted
    exact segments_tell isPath sorted.1 sorted.2
  · have reports : segmentReports (dotted above) value =
        [wrongKind (dotted above) .map value.kind] := by
      cases value with
      | map => exact absurd rfl isMap
      | _ => rfl
    rw [reports]
    exact .here (.wrongKind .map value.kind) rfl fun _ _ => segmentOffends_iff_of_ne_map isMap
termination_by (sizeOf value, 1)

theorem entry_tells {above : List String} (isPath : above ≠ []) (key : String) {value : Value}
    (sorted : value.Sorted) :
    Tells (above ++ ·) (List.Lex (· < ·)) (EntryOffends key value)
      (entryReports (dotted above) key value) := by
  rw [entryReports]
  cases known : propertyKind? key with
  | some expected =>
      have offends_iff {keys : List String} {fault : Fault} :
          EntryOffends key value keys fault ↔
            value.kind ≠ expected ∧ keys = [] ∧ fault = .wrongKind expected value.kind :=
        entryOffends_property_iff (propertyKind?_eq_some_iff.mp known)
      dsimp only
      rw [expectKind]
      by_cases same : value.kind = expected
      · rw [if_pos same]
        exact .nothing fun keys fault offends => (offends_iff.mp offends).1 same
      · rw [if_neg same]
        refine .here (.wrongKind expected value.kind) rfl fun keys fault => ?_
        rw [offends_iff, and_iff_right same]
  | none =>
      dsimp only
      cases isDotted : key.startsWith "." with
      | true =>
          exact .here (.unknownProperty key) rfl fun _ _ =>
            entryOffends_unknown_iff isDotted (propertyKind?_eq_none_iff.mp known)
      | false =>
          exact (segment_tells isPath sorted).congr fun keys fault =>
            (entryOffends_plain_iff isDotted).symm
termination_by (sizeOf value, 2)

theorem segments_tell {above : List String} (isPath : above ≠ [])
    {fields : List (String × Value)} (ordered : Entries.Ordered fields)
    (sorted : Value.SortedFields fields) :
    Tells (above ++ ·) (List.Lex (· < ·)) (SegmentOffends (.map fields))
      (validateSegments (dotted above) fields) := by
  match fields with
  | [] =>
      rw [validateSegments]
      refine .nothing ?_
      rintro keys fault (other | ⟨isEntry, _⟩)
      · exact other rfl
      · cases isEntry
  | (key, value) :: rest =>
      rw [validateSegments_cons, ← dotted_append isPath]
      have isLonger : above ++ [key] ≠ [] := by simp
      have first := entry_tells isLonger key sorted.1
      have others := segments_tell isPath ordered.tail sorted.2
      have below : Tells (above ++ ·) (List.Lex (· < ·)) (fun keys fault => ∃ below,
          key :: below = keys ∧ EntryOffends key value below fault)
          (entryReports (dotted (above ++ [key])) key value) :=
        first.embed (key :: ·) (by simp) fun _ _ => .cons
      refine (below.append others ?_).congr fun _ _ => segmentOffends_cons_iff.symm
      rintro _ _ other cause ⟨inner, rfl, _⟩ (noMap | ⟨isEntry, _⟩)
      · exact absurd rfl noMap
      · exact .rel (ordered.head_lt _ isEntry)
termination_by (sizeOf fields, 0)

end

theorem chart_tells {chart : Value} (sorted : chart.Sorted) :
    Tells (fun keys => Place.path (.chart keys)) (List.Lex (· < ·)) (SegmentOffends chart)
      (validateChart chart) := by
  rw [validateChart_eq]
  exact segment_tells (List.cons_ne_nil "chart" []) sorted

/-! ## The transactions -/

/-- A detail at its place in the template of the name. -/
def DetailOffends (name : String) (detail : Detail) (given : Option Value) (place : Place)
    (fault : Fault) : Prop :=
  place = .detail name detail ∧ detail.Refuses given fault

section Details

variable {name : String} {given : Option Value} {value : Value}

theorem dotted_template (name : String) : dotted ["transactions", name] = "transactions." ++ name :=
  rfl

theorem dotted_detail (name : String) (detail : Detail) :
    dotted (Place.path (.detail name detail)) =
      "transactions." ++ name ++ ("." ++ detail.name) := by
  rw [← String.append_assoc]
  exact dotted_append (List.cons_ne_nil "transactions" [name]) detail.name

/-- A detail that is admitted is passed over. -/
theorem Detail.Admits.tells {detail : Detail} (admits : detail.Admits given) :
    Tells Place.path Place.Before (DetailOffends name detail given) [] :=
  .nothing fun _ _ offends => Detail.admits_iff.mp admits _ offends.2

/-- A detail that is refused is reported at its place. -/
theorem Detail.Refuses.tells {detail : Detail} {fault : Fault} {report : Diagnostic}
    (refuses : detail.Refuses given fault)
    (unique : ∀ cause, detail.Refuses given cause → cause = fault)
    (reported : report = fault.report (Place.path (.detail name detail))) :
    Tells Place.path Place.Before (DetailOffends name detail given) [report] := by
  refine .alone _ _ reported fun place cause => ?_
  constructor
  · rintro ⟨atPlace, refused⟩
    exact ⟨atPlace, unique cause refused⟩
  · rintro ⟨atPlace, rfl⟩
    exact ⟨atPlace, refuses⟩

theorem Fault.report_wrongKind (name : String) (detail : Detail) (expected found : Value.Kind) :
    Fault.report (Place.path (.detail name detail)) (.wrongKind expected found) =
      LedgerSchema.wrongKind ("transactions." ++ name ++ ("." ++ detail.name)) expected found := by
  rw [Fault.report, dotted_detail]

theorem script_tells (name : String) (given : Option Value) :
    Tells Place.path Place.Before (DetailOffends name .script given)
      (validateScript ("transactions." ++ name) given) := by
  cases given with
  | none =>
      refine Detail.Refuses.tells .noScript (fun cause refuses => ?_) ?_
      · cases refuses
        rfl
      · rw [Fault.report, dotted_detail]
        rfl
  | some value =>
      by_cases isText : value.kind = .text
      · obtain ⟨text, rfl⟩ := exists_text isText
        exact (Detail.Admits.script text).tells
      · have reports : validateScript ("transactions." ++ name) (some value) =
            [wrongKind ("transactions." ++ name ++ ".script") .text value.kind] := by
          cases value with
          | text => exact absurd rfl isText
          | _ => rfl
        rw [reports]
        refine (Detail.Refuses.script isText).tells (fun cause refuses => ?_)
          (Fault.report_wrongKind name .script .text value.kind).symm
        cases refuses
        rfl

theorem description_tells (name : String) (given : Option Value) :
    Tells Place.path Place.Before (DetailOffends name .description given)
      (validateDescription ("transactions." ++ name) given) := by
  cases given with
  | none => exact Detail.Admits.noDescription.tells
  | some value =>
      by_cases isText : value.kind = .text
      · obtain ⟨text, rfl⟩ := exists_text isText
        exact (Detail.Admits.description text).tells
      · by_cases isNull : value.kind = .null
        · rw [eq_null isNull]
          exact Detail.Admits.nullDescription.tells
        · have reports : validateDescription ("transactions." ++ name) (some value) =
              [wrongKind ("transactions." ++ name ++ ".description") .text value.kind] := by
            cases value with
            | null => exact absurd rfl isNull
            | text => exact absurd rfl isText
            | _ => rfl
          rw [reports]
          refine (Detail.Refuses.description isText isNull).tells (fun cause refuses => ?_)
            (Fault.report_wrongKind name .description .text value.kind).symm
          cases refuses
          rfl

theorem isRuntime_iff : isRuntime value = true ↔ Detail.runtime.Admits (some value) := by
  constructor
  · intro accepted
    cases value with
    | null => exact .nullRuntime
    | text name => exact .runtime (by simpa [isRuntime] using accepted)
    | _ => cases accepted
  · intro admits
    cases admits with
    | nullRuntime => rfl
    | runtime known => simpa [isRuntime] using known

theorem runtime_tells (name : String) (given : Option Value) :
    Tells Place.path Place.Before (DetailOffends name .runtime given)
      (validateRuntime ("transactions." ++ name) given) := by
  cases given with
  | none => exact Detail.Admits.noRuntime.tells
  | some value =>
      rw [validateRuntime]
      by_cases accepted : isRuntime value = true
      · rw [if_pos accepted]
        exact (isRuntime_iff.mp accepted).tells
      · rw [if_neg accepted]
        have notAdmitted := mt isRuntime_iff.mpr accepted
        have refuses : Detail.runtime.Refuses (some value) (.unknownRuntime value) := by
          refine .runtime (fun isNull => ?_) fun known isKnown same => ?_
          · exact notAdmitted (isNull ▸ .nullRuntime)
          · exact notAdmitted (same ▸ .runtime isKnown)
        refine refuses.tells (fun cause refused => ?_) ?_
        · cases refused
          rfl
        · have joined (front : String) :
              front ++ ("." ++ Detail.runtime.name) ++ ": must be one of " =
                front ++ ".runtime: must be one of " := by
            rw [String.append_assoc]
            rfl
          rw [Fault.report, dotted_detail, joined]
          rfl

end Details

theorem templateOffends_map_iff {name : String} {fields : List (String × Value)} {place : Place}
    {fault : Fault} :
    TemplateOffends name (.map fields) place fault ↔
      ∃ detail : Detail,
        DetailOffends name detail (Entries.find? detail.name fields) place fault := by
  constructor
  · rintro (other | ⟨refuses⟩)
    · exact absurd rfl other
    · exact ⟨_, rfl, refuses⟩
  · rintro ⟨detail, rfl, refuses⟩
    exact .detail refuses

/-- What offends in a template is in it. -/
theorem TemplateOffends.template?_eq {name : String} {value : Value} {place : Place}
    {fault : Fault} (offends : TemplateOffends name value place fault) :
    place.template? = some name := by
  cases offends <;> rfl

theorem template_tells (name : String) (value : Value) :
    Tells Place.path Place.Before (TemplateOffends name value) (validateTemplate name value) := by
  by_cases isMap : value.kind = .map
  · obtain ⟨fields, rfl⟩ := exists_fields isMap
    have inOrder {first second : Detail} (before : first.rank < second.rank)
        {one other : Option Value} (place : Place) (fault : Fault) (behind : Place) (cause : Fault)
        (offends : DetailOffends name first one place fault)
        (offendsToo : DetailOffends name second other behind cause) : place.Before behind := by
      rw [offends.1, offendsToo.1]
      exact .details name before
    have scriptFirst := (script_tells name (Entries.find? "script" fields)).append
      (description_tells name (Entries.find? "description" fields)) (inOrder (by decide))
    have runtimeLast := scriptFirst.append
      (runtime_tells name (Entries.find? "runtime" fields)) fun place fault behind cause offends =>
        offends.elim (inOrder (by decide) place fault behind cause)
          (inOrder (by decide) place fault behind cause)
    refine runtimeLast.congr fun place fault => ?_
    rw [templateOffends_map_iff]
    constructor
    · rintro ((script | description) | runtime)
      · exact ⟨.script, script⟩
      · exact ⟨.description, description⟩
      · exact ⟨.runtime, runtime⟩
    · rintro ⟨detail, offends⟩
      cases detail with
      | script => exact .inl (.inl offends)
      | description => exact .inl (.inr offends)
      | runtime => exact .inr offends
  · have reports : validateTemplate name value =
        [wrongKind ("transactions." ++ name) .map value.kind] := by
      cases value with
      | map => exact absurd rfl isMap
      | _ => rfl
    rw [reports]
    refine .alone (.template name) (.wrongKind .map value.kind) ?_ ?_
    · rw [Fault.report, Place.path, dotted_template]
    · exact fun _ _ => templateOffends_iff_of_ne_map isMap

theorem transactionsOffend_cons_iff {name : String} {value : Value}
    {rest : List (String × Value)} {place : Place} {fault : Fault} :
    TransactionsOffend (.map ((name, value) :: rest)) place fault ↔
      TemplateOffends name value place fault ∨ TransactionsOffend (.map rest) place fault := by
  constructor
  · rintro (other | ⟨isTemplate, offends⟩)
    · exact absurd rfl other
    · rcases List.mem_cons.mp isTemplate with same | behind
      · cases same
        exact .inl offends
      · exact .inr (.template behind offends)
  · rintro (offends | other | ⟨isTemplate, offends⟩)
    · exact .template List.mem_cons_self offends
    · exact absurd rfl other
    · exact .template (List.mem_cons_of_mem _ isTemplate) offends

theorem templates_tell {fields : List (String × Value)} (ordered : Entries.Ordered fields) :
    Tells Place.path Place.Before (TransactionsOffend (.map fields))
      (validateTransactions (.map fields)) := by
  induction fields with
  | nil =>
      refine .nothing ?_
      rintro place fault (other | ⟨isTemplate, _⟩)
      · exact other rfl
      · cases isTemplate
  | cons entry rest ih =>
      obtain ⟨name, value⟩ := entry
      refine ((template_tells name value).append (ih ordered.tail) ?_).congr
        fun _ _ => transactionsOffend_cons_iff.symm
      rintro place fault other cause offends (noMap | ⟨isTemplate, offendsToo⟩)
      · exact absurd rfl noMap
      · exact .templates offends.template?_eq offendsToo.template?_eq
          (ordered.head_lt _ isTemplate)

theorem transactions_tell {transactions : Value} (sorted : transactions.Sorted) :
    Tells Place.path Place.Before (TransactionsOffend transactions)
      (validateTransactions transactions) := by
  by_cases isMap : transactions.kind = .map
  · obtain ⟨fields, rfl⟩ := exists_fields isMap
    rw [Value.Sorted] at sorted
    exact templates_tell sorted.1
  · have reports : validateTransactions transactions =
        [wrongKind "transactions" .map transactions.kind] := by
      cases transactions with
      | map => exact absurd rfl isMap
      | _ => rfl
    rw [reports]
    refine .alone .transactions (.wrongKind .map transactions.kind) ?_ ?_
    · rw [Fault.report, Place.path, dotted, String.intercalate_singleton]
    · exact fun _ _ => transactionsOffend_iff_of_ne_map isMap

/-! ## The schema -/

/-- The maps in the documents of a schema are in key order. -/
structure Sorted (schema : LedgerSchema) : Prop where
  chart : ∀ chart, schema.chart = some chart → chart.Sorted
  transactions : ∀ transactions, schema.transactions = some transactions → transactions.Sorted

/-- A schema takes its documents out of the one that it is read from. -/
theorem sorted_of_decode {document : Json} (sorted : document.Sorted) {schema : LedgerSchema}
    (read : decode document = .ok schema) : schema.Sorted := by
  refine Decode.holds_of_inside Sorted ?_ (Json.sorted_of_inside sorted) read
  refine .anyOptional (.sortedValue (.sortedValue (.any (.any (Decode.Fields.yields_none ?_)))))
  intro ledger version chart chartSorted transactions transactionsSorted key
  exact ⟨chartSorted, transactionsSorted⟩

/-- Every schema that is read from a text is sorted, whichever format the text has. -/
theorem sorted_of_text {text : String} {document : Json}
    (written : Json.parse text = .ok document ∨ Yaml.document? text = some document)
    {schema : LedgerSchema} (read : decode document = .ok schema) : schema.Sorted := by
  refine sorted_of_decode ?_ read
  rcases written with isJson | isYaml
  · exact Json.sorted_of_parse isJson
  · exact Yaml.sorted_of_document? isYaml

/-- What is reported before the documents of a schema are looked at. -/
def formalities (schema : LedgerSchema) : Diagnostics :=
  requireGiven schema.ledger "ledger" ++ requireGiven schema.version "version"
  ++ if schema.chart.isNone ∧ schema.transactions.isNone then
      [.invalid "chart" "at least one of 'chart' or 'transactions' must be set"]
    else []

section Schema

variable {schema : LedgerSchema}

theorem formalities_eq_nil_iff :
    formalities schema = [] ↔
      Text.isBlank schema.ledger = false ∧ Text.isBlank schema.version = false ∧
        (schema.chart ≠ none ∨ schema.transactions ≠ none) := by
  have given_iff (value subject : String) :
      requireGiven value subject = [] ↔ Text.isBlank value = false := by
    rw [requireGiven]
    cases Text.isBlank value <;> simp
  rw [formalities, List.append_eq_nil_iff, List.append_eq_nil_iff, given_iff, given_iff, and_assoc]
  cases schema.chart <;> cases schema.transactions <;> simp

/-- What is reported of the documents of a schema. -/
def documentReports (schema : LedgerSchema) : Diagnostics :=
  schema.chart.toList.flatMap validateChart
  ++ schema.transactions.toList.flatMap validateTransactions

theorem validate_eq : validate schema = formalities schema ++ documentReports schema := by
  rw [validate, formalities, documentReports, ← List.append_assoc]
  cases schema.chart <;> cases schema.transactions <;> simp

theorem chartOffends_tells (sorted : schema.Sorted) :
    Tells Place.path Place.Before (fun place fault => ∃ chart keys,
        schema.chart = some chart ∧ .chart keys = place ∧ SegmentOffends chart keys fault)
      (schema.chart.toList.flatMap validateChart) := by
  cases isChart : schema.chart with
  | none => exact .nothing (by simp)
  | some chart =>
      have tells : Tells Place.path Place.Before (fun place fault => ∃ keys,
          .chart keys = place ∧ SegmentOffends chart keys fault) (validateChart chart) :=
        (chart_tells (sorted.chart chart isChart)).embed Place.chart (fun _ => rfl)
          fun _ _ => .chart
      rw [Option.toList_some, List.flatMap_singleton]
      refine tells.congr fun place fault => ?_
      simp only [Option.some.injEq, exists_and_left, exists_eq_left']

theorem transactionsOffend_tells (sorted : schema.Sorted) :
    Tells Place.path Place.Before (fun place fault => ∃ transactions,
        schema.transactions = some transactions ∧ TransactionsOffend transactions place fault)
      (schema.transactions.toList.flatMap validateTransactions) := by
  cases isTransactions : schema.transactions with
  | none => exact .nothing (by simp)
  | some transactions =>
      have tells := transactions_tell (sorted.transactions transactions isTransactions)
      rw [Option.toList_some, List.flatMap_singleton]
      refine tells.congr fun place fault => ?_
      simp only [Option.some.injEq, exists_eq_left']

/-- Nothing in the transactions is at a place of the chart. -/
theorem TransactionsOffend.behind {transactions : Value} {place : Place} {fault : Fault}
    (offends : TransactionsOffend transactions place fault) (keys : List String) :
    place ≠ .chart keys := by
  rcases offends with _ | ⟨_, _ | _⟩ <;> exact nofun

theorem offends_iff {place : Place} {fault : Fault} :
    schema.Offends place fault ↔
      (∃ chart keys, schema.chart = some chart ∧ .chart keys = place ∧
        SegmentOffends chart keys fault) ∨
      ∃ transactions, schema.transactions = some transactions ∧
        TransactionsOffend transactions place fault := by
  constructor
  · rintro (⟨isChart, offends⟩ | ⟨isTransactions, offends⟩)
    · exact .inl ⟨_, _, isChart, rfl, offends⟩
    · exact .inr ⟨_, isTransactions, offends⟩
  · rintro (⟨chart, keys, isChart, rfl, offends⟩ | ⟨transactions, isTransactions, offends⟩)
    · exact .chart isChart offends
    · exact .transactions isTransactions offends

/-- The chart is reported on before the transactions are. -/
theorem documents_tell (sorted : schema.Sorted) :
    Tells Place.path Place.Before schema.Offends (documentReports schema) := by
  refine ((chartOffends_tells sorted).append (transactionsOffend_tells sorted) ?_).congr
    fun _ _ => offends_iff.symm
  rintro _ _ other cause ⟨chart, keys, _, rfl, _⟩ ⟨transactions, _, offends⟩
  exact .parts keys offends.behind

theorem wellFormed_iff :
    schema.WellFormed ↔
      formalities schema = [] ∧ ∀ place fault, ¬ schema.Offends place fault := by
  rw [formalities_eq_nil_iff]
  constructor
  · rintro ⟨ledger, version, isGiven, chart, transactions⟩
    refine ⟨⟨ledger, version, isGiven⟩, ?_⟩
    rintro place fault (⟨isChart, offends⟩ | ⟨isTransactions, offends⟩)
    · exact (isSegment_iff _).mp (chart _ isChart) _ _ offends
    · exact isTransactions_iff.mp (transactions _ isTransactions) _ _ offends
  · rintro ⟨⟨ledger, version, isGiven⟩, none⟩
    refine ⟨ledger, version, isGiven, fun chart isChart => ?_, fun transactions isGivenToo => ?_⟩
    · exact (isSegment_iff chart).mpr fun keys fault offends => none _ _ (.chart isChart offends)
    · exact isTransactions_iff.mpr fun place fault offends =>
        none _ _ (.transactions isGivenToo offends)

end Schema

/-- **Validation lists the offences.** A schema is accepted exactly where it follows the grammar.
Behind what is said of blank names and absent documents the reports are those of the offences,
first of the chart by its keys and then of the templates by their names: every one of them is
reported, none twice and nothing else, each as an error about the keys that lead to it. -/
theorem validate_lists_offences {schema : LedgerSchema} (sorted : schema.Sorted) :
    (validate schema = [] ↔ schema.WellFormed) ∧
    (∃ offences : List (Place × Fault),
      validate schema = formalities schema ++
        offences.map (fun offence => offence.2.report offence.1.path) ∧
      offences.Pairwise (fun one other => one.1.Before other.1) ∧
      (offences.map Prod.fst).Nodup ∧
      ∀ place fault, (place, fault) ∈ offences ↔ schema.Offends place fault) ∧
    ∀ (place : Place) (fault : Fault), (fault.report place.path).isError = true ∧
      (fault.report place.path).category = .invalidConfiguration ∧
      (fault.report place.path).subject = some (".".intercalate place.path) := by
  have tells := documents_tell sorted
  refine ⟨?_, ?_, fun place fault => by cases fault <;> exact ⟨rfl, rfl, rfl⟩⟩
  · rw [validate_eq, List.append_eq_nil_iff, wellFormed_iff, tells.eq_nil_iff]
  · obtain ⟨offences, reported, ordered, complete⟩ := tells
    refine ⟨offences, by rw [validate_eq, reported], ordered, ?_, complete⟩
    refine List.pairwise_map.mpr (ordered.imp fun before same => ?_)
    exact Place.before_irrefl _ (same ▸ before)

/-- A schema with offences in its chart and in its templates. -/
def malformed : LedgerSchema where
  ledger := "main"
  version := "v1"
  chart := some (.map [("bank", .text "x"),
    ("users", .map [(".pattern", .int 3), (".self", .map [("$id", .null)]), (".type", .map [])])])
  transactions := some (.map [("DEPOSIT", .map [("description", .int 1)]),
    ("PAYOUT", .map [("runtime", .text "v8"), ("script", .text "send")])])
  idempotencyKey := none

theorem malformed_sorted : malformed.Sorted where
  chart := by
    rintro _ ⟨⟩
    simp only [Value.Sorted, Value.SortedFields, Entries.Ordered]
    decide +kernel
  transactions := by
    rintro _ ⟨⟩
    simp only [Value.Sorted, Value.SortedFields, Entries.Ordered]
    decide +kernel

theorem malformed_reports :
    formalities malformed = [] ∧
      (validate malformed).map Diagnostic.subject =
        [some "chart.bank", some "chart.users..pattern", some "chart.users..type",
          some "transactions.DEPOSIT.script", some "transactions.DEPOSIT.description",
          some "transactions.PAYOUT.runtime"] := by
  have noFormalities : formalities malformed = [] := by decide +kernel
  have bank : "bank".startsWith "." = false := by decide +kernel
  have users : "users".startsWith "." = false := by decide +kernel
  have type : ".type".startsWith "." = true := by decide +kernel
  refine ⟨noFormalities, ?_⟩
  rw [validate_eq, noFormalities, List.nil_append]
  simp [documentReports, malformed, validateChart, validateSegments, propertyKind?, expectKind,
    bank, users, type, validateTransactions, validateTemplate, validateScript,
    validateDescription, validateRuntime, isRuntime, runtimes, wrongKind, Diagnostic.invalid,
    Diagnostic.withSubject, Value.kind, Entries.find?]

theorem validate_lists_offences_malformed :
    malformed.Sorted ∧ ¬ malformed.WellFormed ∧
      ∃ offences : List (Place × Fault),
        validate malformed =
          offences.map (fun offence => offence.2.report offence.1.path) ∧
        (offences.map Prod.fst).Nodup ∧
        offences.map (fun offence => some (".".intercalate offence.1.path)) =
          [some "chart.bank", some "chart.users..pattern", some "chart.users..type",
            some "transactions.DEPOSIT.script", some "transactions.DEPOSIT.description",
            some "transactions.PAYOUT.runtime"] := by
  obtain ⟨accepted_iff, ⟨offences, reported, -, once, -⟩, reports⟩ :=
    validate_lists_offences malformed_sorted
  obtain ⟨noFormalities, subjects⟩ := malformed_reports
  rw [noFormalities, List.nil_append] at reported
  refine ⟨malformed_sorted, fun wellFormed => ?_, offences, reported, once, ?_⟩
  · rw [accepted_iff.mpr wellFormed] at subjects
    cases subjects
  · rw [← subjects, reported, List.map_map]
    exact List.map_congr_left fun offence _ => (reports offence.1 offence.2).2.2.symm

end Converge.Resource.LedgerSchema
