import Converge.Resource.LedgerSchema

/-!
# The grammar of ledger schemas

A ledger schema follows a grammar: its chart is a tree of segments, its transactions are templates
by name. An entry that breaks the grammar is an offence, which has a place in the document and a
fault. Places come in pre-order: the chart by its keys, each segment before what is below it, then
the transactions by their names, and in a template the script, the description and the runtime.

Neither is defined as what the other is not: that a document follows the grammar exactly where
nothing in it offends is proved, part by part.
-/

namespace Converge.Resource.LedgerSchema

/-! ## The grammar -/

/-- The properties of a segment, and the kind that each has to be of. -/
inductive Property : String → Value.Kind → Prop where
  | pattern : Property ".pattern" .text
  | metadata : Property ".metadata" .map
  | self : Property ".self" .map
  | rules : Property ".rules" .list

mutual

/-- A value that is a segment of a chart, with everything below it. -/
inductive IsSegment : Value → Prop where
  | segment {fields : List (String × Value)}
      (entries : ∀ key value, (key, value) ∈ fields → IsEntry key value) : IsSegment (.map fields)

/-- An entry that a segment may have: a property of its kind, or a further segment under a key
without a dot in front. -/
inductive IsEntry : String → Value → Prop where
  | property {key : String} {value : Value} (isProperty : Property key value.kind) :
      IsEntry key value
  | segment {key : String} {value : Value} (plain : key.startsWith "." = false)
      (isSegment : IsSegment value) : IsEntry key value

end

/-- The entries of a template that are looked at, in the order in which they are. -/
inductive Detail where
  | script
  | description
  | runtime
deriving DecidableEq, Repr

namespace Detail

def name : Detail → String
  | .script => "script"
  | .description => "description"
  | .runtime => "runtime"

def rank : Detail → Nat
  | .script => 0
  | .description => 1
  | .runtime => 2

/-- What a template may have for an entry, if anything. -/
inductive Admits : Detail → Option Value → Prop where
  | script (text : String) : Admits .script (some (.text text))
  | noDescription : Admits .description none
  | nullDescription : Admits .description (some .null)
  | description (text : String) : Admits .description (some (.text text))
  | noRuntime : Admits .runtime none
  | nullRuntime : Admits .runtime (some .null)
  | runtime {name : String} (known : name ∈ runtimes) : Admits .runtime (some (.text name))

end Detail

/-- A value that is a transaction template. -/
inductive IsTemplate : Value → Prop where
  | template {fields : List (String × Value)}
      (details : ∀ detail : Detail, detail.Admits (Entries.find? detail.name fields)) :
      IsTemplate (.map fields)

/-- A value that maps names to transaction templates. -/
inductive IsTransactions : Value → Prop where
  | transactions {fields : List (String × Value)}
      (templates : ∀ name template, (name, template) ∈ fields → IsTemplate template) :
      IsTransactions (.map fields)

/-- A schema that follows the grammar. -/
structure WellFormed (schema : LedgerSchema) : Prop where
  ledger : Text.isBlank schema.ledger = false
  version : Text.isBlank schema.version = false
  isGiven : schema.chart ≠ none ∨ schema.transactions ≠ none
  chart : ∀ chart, schema.chart = some chart → IsSegment chart
  transactions : ∀ transactions, schema.transactions = some transactions →
    IsTransactions transactions

/-! ## Offences -/

/-- Where an entry of a schema stands. -/
inductive Place where
  /-- What the keys lead to in the chart, which is the chart itself where there are none. -/
  | chart (keys : List String)
  | transactions
  | template (name : String)
  | detail (name : String) (detail : Detail)
deriving DecidableEq, Repr

namespace Place

/-- The keys that lead to a place from the schema. -/
def path : Place → List String
  | .chart keys => "chart" :: keys
  | .transactions => ["transactions"]
  | .template name => ["transactions", name]
  | .detail name entry => ["transactions", name, entry.name]

/-- The template that a place is in. -/
def template? : Place → Option String
  | .template name => some name
  | .detail name _ => some name
  | _ => none

/-- Of two places the one that is looked at first. -/
inductive Before : Place → Place → Prop where
  | chart {keys others : List String} (first : List.Lex (· < ·) keys others) :
      Before (.chart keys) (.chart others)
  | parts (keys : List String) {place : Place} (behind : ∀ others, place ≠ .chart others) :
      Before (.chart keys) place
  | templates {one other : Place} {name later : String} (here : one.template? = some name)
      (there : other.template? = some later) (first : name < later) : Before one other
  | details (name : String) {detail later : Detail} (first : detail.rank < later.rank) :
      Before (.detail name detail) (.detail name later)

theorem before_irrefl (place : Place) : ¬ place.Before place := by
  intro before
  cases before with
  | chart first => exact List.lex_irrefl (fun _ => String.lt_irrefl _) _ first
  | parts keys behind => exact behind keys rfl
  | templates here there first =>
      rw [here, Option.some.injEq] at there
      exact String.lt_irrefl _ (there ▸ first)
  | details template first => exact Nat.lt_irrefl _ first

end Place

/-- How an entry breaks the grammar. -/
inductive Fault where
  | wrongKind (expected found : Value.Kind)
  | unknownProperty (key : String)
  | missingScript
  | unknownRuntime (runtime : Value)

/-- Keys as messages show them. -/
def dotted (path : List String) : String := ".".intercalate path

/-- The report of a fault at the end of a path. -/
def Fault.report (path : List String) : Fault → Diagnostic
  | .wrongKind expected found => LedgerSchema.wrongKind (dotted path) expected found
  | .unknownProperty key =>
    .invalid (dotted path) (dotted path ++ ": unknown segment property '" ++ key ++ "'")
  | .missingScript =>
    .invalid (dotted path) (dotted path.dropLast ++ ": missing required field 'script'")
  | .unknownRuntime runtime =>
    .invalid (dotted path) (dotted path ++ ": must be one of " ++ ", ".intercalate runtimes
      ++ ", found " ++ runtime.render)

mutual

/-- What breaks the grammar in a value that has to be a segment, behind which keys. -/
inductive SegmentOffends : Value → List String → Fault → Prop where
  | noMap {value : Value} (other : value.kind ≠ .map) :
      SegmentOffends value [] (.wrongKind .map value.kind)
  | entry {fields : List (String × Value)} {key : String} {value : Value} {keys : List String}
      {fault : Fault} (isEntry : (key, value) ∈ fields)
      (offends : EntryOffends key value keys fault) :
      SegmentOffends (.map fields) (key :: keys) fault

/-- What breaks the grammar in an entry of a segment, behind which keys. Below a property nothing
does. -/
inductive EntryOffends : String → Value → List String → Fault → Prop where
  | property {key : String} {value : Value} {expected : Value.Kind}
      (isProperty : Property key expected) (other : value.kind ≠ expected) :
      EntryOffends key value [] (.wrongKind expected value.kind)
  | unknown {key : String} {value : Value} (isDotted : key.startsWith "." = true)
      (noProperty : ∀ expected, ¬ Property key expected) :
      EntryOffends key value [] (.unknownProperty key)
  | segment {key : String} {value : Value} {keys : List String} {fault : Fault}
      (plain : key.startsWith "." = false) (offends : SegmentOffends value keys fault) :
      EntryOffends key value keys fault

end

/-- How an entry of a template breaks the grammar. -/
inductive Detail.Refuses : Detail → Option Value → Fault → Prop where
  | noScript : Refuses .script none .missingScript
  | script {value : Value} (other : value.kind ≠ .text) :
      Refuses .script (some value) (.wrongKind .text value.kind)
  | description {value : Value} (other : value.kind ≠ .text) (notNull : value.kind ≠ .null) :
      Refuses .description (some value) (.wrongKind .text value.kind)
  | runtime {value : Value} (notNull : value ≠ .null)
      (unknown : ∀ name ∈ runtimes, value ≠ .text name) :
      Refuses .runtime (some value) (.unknownRuntime value)

/-- What breaks the grammar in a value that has to be the template of the name. -/
inductive TemplateOffends (name : String) : Value → Place → Fault → Prop where
  | noMap {value : Value} (other : value.kind ≠ .map) :
      TemplateOffends name value (.template name) (.wrongKind .map value.kind)
  | detail {fields : List (String × Value)} {detail : Detail} {fault : Fault}
      (refuses : detail.Refuses (Entries.find? detail.name fields) fault) :
      TemplateOffends name (.map fields) (.detail name detail) fault

/-- What breaks the grammar in a value that has to map names to templates. -/
inductive TransactionsOffend : Value → Place → Fault → Prop where
  | noMap {value : Value} (other : value.kind ≠ .map) :
      TransactionsOffend value .transactions (.wrongKind .map value.kind)
  | template {fields : List (String × Value)} {name : String} {value : Value} {place : Place}
      {fault : Fault} (isTemplate : (name, value) ∈ fields)
      (offends : TemplateOffends name value place fault) :
      TransactionsOffend (.map fields) place fault

/-- What breaks the grammar in the documents of a schema. -/
inductive Offends (schema : LedgerSchema) : Place → Fault → Prop where
  | chart {chart : Value} {keys : List String} {fault : Fault}
      (isChart : schema.chart = some chart) (offends : SegmentOffends chart keys fault) :
      Offends schema (.chart keys) fault
  | transactions {transactions : Value} {place : Place} {fault : Fault}
      (isTransactions : schema.transactions = some transactions)
      (offends : TransactionsOffend transactions place fault) : Offends schema place fault

/-! ## What follows the grammar has no offence -/

theorem propertyKind?_eq_some_iff {key : String} {kind : Value.Kind} :
    propertyKind? key = some kind ↔ Property key kind := by
  constructor
  · intro found
    unfold propertyKind? at found
    split at found
    next same =>
      cases found
      exact same ▸ .pattern
    next =>
      split at found
      next same =>
        cases found
        rcases same with same | same
        · exact same ▸ .metadata
        · exact same ▸ .self
      next =>
        split at found
        next same =>
          cases found
          exact same ▸ .rules
        next => cases found
  · intro isProperty
    cases isProperty <;> rfl

theorem propertyKind?_eq_none_iff {key : String} :
    propertyKind? key = none ↔ ∀ kind, ¬ Property key kind := by
  rw [Option.eq_none_iff_forall_ne_some]
  exact forall_congr' fun kind => not_congr propertyKind?_eq_some_iff

/-- A property has a dot in front. -/
theorem Property.dotted {key : String} {kind : Value.Kind} (isProperty : Property key kind) :
    key.startsWith "." = true := by
  cases isProperty <;> decide +kernel

theorem Property.unique {key : String} {kind other : Value.Kind} (first : Property key kind)
    (second : Property key other) : kind = other := by
  rw [← propertyKind?_eq_some_iff] at first second
  exact Option.some.inj (first.symm.trans second)

theorem exists_fields {value : Value} (isMap : value.kind = .map) :
    ∃ fields, value = .map fields := by
  cases value with
  | map fields => exact ⟨fields, rfl⟩
  | _ => cases isMap

theorem exists_text {value : Value} (isText : value.kind = .text) : ∃ text, value = .text text := by
  cases value with
  | text text => exact ⟨text, rfl⟩
  | _ => cases isText

theorem eq_null {value : Value} (isNull : value.kind = .null) : value = .null := by
  cases value with
  | null => rfl
  | _ => cases isNull

section NoMap

variable {value : Value} {fault : Fault}

theorem segmentOffends_iff_of_ne_map (noMap : value.kind ≠ .map) {keys : List String} :
    SegmentOffends value keys fault ↔ keys = [] ∧ fault = .wrongKind .map value.kind := by
  constructor
  · rintro (_ | ⟨_, _⟩)
    · exact ⟨rfl, rfl⟩
    · exact absurd rfl noMap
  · rintro ⟨rfl, rfl⟩
    exact .noMap noMap

theorem templateOffends_iff_of_ne_map (noMap : value.kind ≠ .map) {name : String} {place : Place} :
    TemplateOffends name value place fault ↔
      place = .template name ∧ fault = .wrongKind .map value.kind := by
  constructor
  · rintro (_ | ⟨_⟩)
    · exact ⟨rfl, rfl⟩
    · exact absurd rfl noMap
  · rintro ⟨rfl, rfl⟩
    exact .noMap noMap

theorem transactionsOffend_iff_of_ne_map (noMap : value.kind ≠ .map) {place : Place} :
    TransactionsOffend value place fault ↔
      place = .transactions ∧ fault = .wrongKind .map value.kind := by
  constructor
  · rintro (_ | ⟨_, _⟩)
    · exact ⟨rfl, rfl⟩
    · exact absurd rfl noMap
  · rintro ⟨rfl, rfl⟩
    exact .noMap noMap

end NoMap

section Entries

variable {key : String} {value : Value} {expected : Value.Kind} {keys : List String}
  {fault : Fault}

theorem entryOffends_property_iff (isProperty : Property key expected) :
    EntryOffends key value keys fault ↔
      value.kind ≠ expected ∧ keys = [] ∧ fault = .wrongKind expected value.kind := by
  constructor
  · intro offends
    cases offends with
    | property found other =>
        cases found.unique isProperty
        exact ⟨other, rfl, rfl⟩
    | unknown isDotted noProperty => exact absurd isProperty (noProperty _)
    | segment plain offends =>
        rw [isProperty.dotted] at plain
        cases plain
  · rintro ⟨other, rfl, rfl⟩
    exact .property isProperty other

theorem entryOffends_unknown_iff (isDotted : key.startsWith "." = true)
    (noProperty : ∀ expected, ¬ Property key expected) :
    EntryOffends key value keys fault ↔ keys = [] ∧ fault = .unknownProperty key := by
  constructor
  · intro offends
    cases offends with
    | property found other => exact absurd found (noProperty _)
    | unknown => exact ⟨rfl, rfl⟩
    | segment plain offends =>
        rw [isDotted] at plain
        cases plain
  · rintro ⟨rfl, rfl⟩
    exact .unknown isDotted noProperty

theorem entryOffends_plain_iff (plain : key.startsWith "." = false) :
    EntryOffends key value keys fault ↔ SegmentOffends value keys fault := by
  constructor
  · intro offends
    cases offends with
    | property found other =>
        rw [found.dotted] at plain
        cases plain
    | unknown isDotted noProperty =>
        rw [isDotted] at plain
        cases plain
    | segment plain offends => exact offends
  · exact .segment plain

end Entries

theorem sizeOf_lt_of_entry {fields : List (String × Value)} {key : String} {value : Value}
    (isEntry : (key, value) ∈ fields) : sizeOf value < sizeOf (Value.map fields) := by
  have smaller := List.sizeOf_lt_of_mem isEntry
  rw [Prod.mk.sizeOf_spec] at smaller
  rw [Value.map.sizeOf_spec]
  omega

mutual

/-- Segments are the values in which nothing offends. -/
theorem isSegment_iff (value : Value) :
    IsSegment value ↔ ∀ keys fault, ¬ SegmentOffends value keys fault := by
  by_cases isMap : value.kind = .map
  · obtain ⟨fields, same⟩ := exists_fields isMap
    have smaller {key : String} {inner : Value} (isEntry : (key, inner) ∈ fields) :
        sizeOf inner < sizeOf value := same ▸ sizeOf_lt_of_entry isEntry
    rw [same]
    constructor
    · rintro ⟨entries⟩ keys fault (other | ⟨isEntry, offends⟩)
      · exact other rfl
      · rename_i key value keys
        exact (isEntry_iff key value).mp (entries key value isEntry) keys fault offends
    · intro none
      refine .segment fun key value isEntry => ?_
      exact (isEntry_iff key value).mpr fun keys fault offends =>
        none (key :: keys) fault (.entry isEntry offends)
  · constructor
    · rintro ⟨entries⟩
      exact absurd rfl isMap
    · intro none
      exact absurd (.noMap isMap) (none _ _)
termination_by (sizeOf value, 0)
decreasing_by all_goals exact .left _ _ (smaller isEntry)

theorem isEntry_iff (key : String) (value : Value) :
    IsEntry key value ↔ ∀ keys fault, ¬ EntryOffends key value keys fault := by
  cases isDotted : key.startsWith "." with
  | false =>
      simp only [entryOffends_plain_iff isDotted]
      rw [← isSegment_iff value]
      constructor
      · intro fits
        cases fits with
        | property isProperty =>
            rw [isProperty.dotted] at isDotted
            cases isDotted
        | segment plain isSegment => exact isSegment
      · exact .segment isDotted
  | true =>
      have isPropertyOf : IsEntry key value ↔ Property key value.kind := by
        constructor
        · intro fits
          cases fits with
          | property isProperty => exact isProperty
          | segment plain isSegment =>
              rw [isDotted] at plain
              cases plain
        · exact .property
      rw [isPropertyOf]
      by_cases known : ∃ expected, Property key expected
      · obtain ⟨expected, isProperty⟩ := known
        simp only [entryOffends_property_iff isProperty]
        constructor
        · rintro fits keys fault ⟨other, -⟩
          exact other (fits.unique isProperty)
        · intro none
          have same : value.kind = expected :=
            Classical.not_not.mp fun other => none [] _ ⟨other, rfl, rfl⟩
          exact same ▸ isProperty
      · have noProperty := not_exists.mp known
        simp only [entryOffends_unknown_iff isDotted noProperty]
        exact iff_of_false (noProperty _) fun none => none [] _ ⟨rfl, rfl⟩
termination_by (sizeOf value, 1)

end

/-- A detail is admitted where nothing refuses it. -/
theorem Detail.admits_iff {detail : Detail} {given : Option Value} :
    detail.Admits given ↔ ∀ fault, ¬ detail.Refuses given fault := by
  constructor
  · intro admits fault refuses
    cases refuses with
    | noScript => cases admits
    | script other =>
        cases admits
        exact other rfl
    | description other notNull =>
        cases admits with
        | nullDescription => exact notNull rfl
        | description => exact other rfl
    | runtime notNull unknown =>
        cases admits with
        | nullRuntime => exact notNull rfl
        | runtime known => exact unknown _ known rfl
  · intro none
    cases given with
    | none =>
        cases detail with
        | script => exact absurd .noScript (none _)
        | description => exact .noDescription
        | runtime => exact .noRuntime
    | some value =>
        cases detail with
        | script =>
            by_cases isText : value.kind = .text
            · obtain ⟨text, rfl⟩ := exists_text isText
              exact .script text
            · exact absurd (.script isText) (none _)
        | description =>
            by_cases isText : value.kind = .text
            · obtain ⟨text, rfl⟩ := exists_text isText
              exact .description text
            · by_cases isNull : value.kind = .null
              · rw [eq_null isNull]
                exact .nullDescription
              · exact absurd (.description isText isNull) (none _)
        | runtime =>
            by_cases isNull : value = .null
            · rw [isNull]
              exact .nullRuntime
            · by_cases isKnown : ∃ name ∈ runtimes, value = .text name
              · obtain ⟨name, known, rfl⟩ := isKnown
                exact .runtime known
              · refine absurd (.runtime isNull fun name known same => ?_) (none _)
                exact isKnown ⟨name, known, same⟩

/-- Templates are the values in which nothing offends. -/
theorem isTemplate_iff {name : String} {value : Value} :
    IsTemplate value ↔ ∀ place fault, ¬ TemplateOffends name value place fault := by
  constructor
  · rintro ⟨details⟩ place fault (other | ⟨refuses⟩)
    · exact other rfl
    · exact Detail.admits_iff.mp (details _) _ refuses
  · intro none
    by_cases isMap : value.kind = .map
    · obtain ⟨fields, rfl⟩ := exists_fields isMap
      exact .template fun detail => Detail.admits_iff.mpr fun fault refuses =>
        none _ _ (.detail refuses)
    · exact absurd (.noMap isMap) (none _ _)

theorem isTransactions_iff {value : Value} :
    IsTransactions value ↔ ∀ place fault, ¬ TransactionsOffend value place fault := by
  constructor
  · rintro ⟨templates⟩ place fault (other | ⟨isTemplate, offends⟩)
    · exact other rfl
    · exact isTemplate_iff.mp (templates _ _ isTemplate) _ _ offends
  · intro none
    by_cases isMap : value.kind = .map
    · obtain ⟨fields, rfl⟩ := exists_fields isMap
      exact .transactions fun name template isTemplate => isTemplate_iff.mpr
        fun place fault offends => none _ _ (.template isTemplate offends)
    · exact absurd (.noMap isMap) (none _ _)

end Converge.Resource.LedgerSchema
