import Converge.Decode.Document
import Converge.Proofs.Dictionary
import Converge.Proofs.Value

/-!
# Reading the members of documents

The members of a document's object come with distinct keys. They pass the judgement of a
record exactly when every field that is given passes its own, in whatever order they come,
and what is then built depends on lookups alone.

`Reads` says what a record is read as, and has a rule for each way of declaring a field, so
that the reader of a type follows its declaration. `Yields` says what holds of a value
whatever documents of some sort it is read from, by the same rules.
-/

namespace Converge.Decode

/-! ## Steps that succeed -/

theorem ok_bind {α β : Type} (value : α) (next : α → Except Fault β) :
    (Except.ok value >>= next) = next value := rfl

theorem bind_eq_ok {ε α β : Type} {result : Except ε α} {next : α → Except ε β} {value : β}
    (done : (result >>= next) = .ok value) :
    ∃ found, result = .ok found ∧ next found = .ok value := by
  cases result with
  | error fault => cases done
  | ok found => exact ⟨found, rfl, done⟩

theorem map_eq_ok {ε α β : Type} {result : Except ε α} {change : α → β} {value : β}
    (done : result.map change = .ok value) :
    ∃ found, result = .ok found ∧ change found = value := by
  cases result with
  | error fault => cases done
  | ok found => exact ⟨found, rfl, Except.ok.inj done⟩

/-! ## Values, lists and dictionaries -/

/-- Behind the test for null a document is read as such. -/
theorem optional_of_ne_null {α : Type} (decode : Decoder Json α) {source : Json}
    (notNull : source ≠ .null) : optional decode source = (decode source).map some := by
  cases source with
  | null => exact absurd rfl notNull
  | _ => rfl

theorem optional_dynamic_encode (value : Value) :
    optional dynamic value.encode = .ok (Value.returned (some value)) := by
  rw [Value.returned, Option.map_some, Option.filter_some]
  by_cases isNull : value.encode = .null
  · rw [isNull, Value.isNull_normalize.mpr isNull]
    rfl
  · rw [optional_of_ne_null dynamic isNull]
    have kept : value.normalize.isNull = false := by
      rw [← Bool.not_eq_true, Value.isNull_normalize]
      exact isNull
    rw [kept, ← Value.decode_encode]
    rfl

theorem each_text (values : List String) :
    each (σ := Json) text (values.map .string) = .ok values := by
  induction values with
  | nil => rfl
  | cons value values ih =>
      rw [List.map_cons, each, ih]
      rfl

theorem list_text (values : List String) :
    list text (Json.array (values.map .string)) = .ok values := by
  change (do
    let values ← each (σ := Json) text (values.map .string)
    (Run.whole (values.map Json.string)).finish
    return values) = _
  rw [each_text]
  rfl

theorem eachMember_map {α β : Type} {decode : Decoder Json α} {write : β → Json} {change : β → α}
    (read : ∀ value, decode (write value) = .ok (change value))
    (entries : List (String × β)) :
    eachMember decode (entries.map fun entry => (entry.1, write entry.2)) =
      .ok (entries.map fun entry => (entry.1, change entry.2)) := by
  induction entries with
  | nil => rfl
  | cons entry entries ih =>
      rw [List.map_cons, eachMember, read, ih]
      rfl

/-- A dictionary is read entry by entry. -/
theorem dictionary_map {α β : Type} {decode : Decoder Json α} {write : β → Json} {change : β → α}
    (read : ∀ value, decode (write value) = .ok (change value)) (values : Dictionary β) :
    dictionary decode (.ofDictionary (values.mapValues write)) = .ok (values.mapValues change) := by
  have members := eachMember_map read values.entries
  change (do
    let members ← eachMember decode (values.mapValues write).entries
    (Run.whole (values.mapValues write).entries).finish
    return Dictionary.ofList members) = _
  rw [Dictionary.entries_mapValues, members]
  exact congrArg Except.ok (Dictionary.ofList_entries (values.mapValues change))

/-- What is read as a value from a document of finite numbers is in its normal form. -/
theorem normalize_of_dynamic {source : Json} (finite : source.isFinite = true) {found : Value}
    (read : dynamic source = .ok found) : found.normalize = found := by
  cases read
  exact Value.normalize_decode source finite

/-- What an optional value is read as from a document of finite numbers comes back as itself. -/
theorem returned_of_dynamic {source : Json} (finite : source.isFinite = true)
    {found : Option Value} (read : optional dynamic source = .ok found) :
    Value.returned found = found := by
  by_cases isNull : source = .null
  · subst isNull
    cases read
    rfl
  · rw [optional_of_ne_null dynamic isNull] at read
    cases read
    rw [Value.returned, Option.map_some, Value.normalize_decode source finite,
      Option.filter_some, Value.isNull_decode isNull]
    rfl

theorem eachMember_dynamic (fields : List (String × Json)) :
    eachMember dynamic fields = .ok (Value.decodeFields fields) := by
  induction fields with
  | nil => rfl
  | cons field fields ih =>
      rw [eachMember, ih]
      rfl

/-- An object is read as the dictionary of its value. -/
theorem dictionary_dynamic_object (fields : List (String × Json)) :
    dictionary dynamic (Json.object fields) = .ok (.ofList (Value.decodeFields fields)) := by
  change (do
    let members ← eachMember dynamic fields
    (Run.whole fields).finish
    return Dictionary.ofList members) = _
  rw [eachMember_dynamic]
  rfl

/-- The values of a dictionary that is read from a document of finite numbers are in their
normal form. -/
theorem mapValues_of_dictionary {source : Json} (finite : source.isFinite = true)
    {found : Dictionary Value} (read : dictionary dynamic source = .ok found) :
    found.mapValues Value.normalize = found := by
  cases source with
  | object fields =>
      rw [dictionary_dynamic_object] at read
      cases read
      rw [Json.isFinite, Json.isFiniteFields_iff] at finite
      apply Dictionary.ext_get?
      intro key
      rw [Dictionary.get?_mapValues]
      cases lookup : (Dictionary.ofList (Value.decodeFields fields)).get? key with
      | none => rfl
      | some value =>
          have member := Entries.mem_of_find?_ofList lookup
          rw [Value.decodeFields_eq_map, List.mem_map] at member
          obtain ⟨field, isField, equal⟩ := member
          cases equal
          rw [Option.map_some, Value.normalize_decode field.2 (finite field isField)]
  | _ => cases read

/-! ## Judging members -/

/-- A field that is given passes its check. -/
def Field.Passes (members : List (String × Json)) (field : Field Json) : Prop :=
  ∀ source, Entries.find? field.name members = some source → field.check source = .ok ()

namespace Fields

variable {α : Type} {declared : List (Field Json)} {members : List (String × Json)}

/-- Members whose keys have not been seen pass when each of them that is declared does. -/
theorem checkMembers_eq_ok_iff {seen : List String}
    (distinct : (members.map Prod.fst).Nodup)
    (unseen : ∀ key ∈ members.map Prod.fst, key ∉ seen) :
    checkMembers declared seen members = .ok () ↔
      ∀ member ∈ members, ∀ field, declared.find? (·.name == member.1) = some field →
        field.check member.2 = .ok () := by
  induction members generalizing seen with
  | nil => simp [checkMembers]
  | cons member rest ih =>
      obtain ⟨key, source⟩ := member
      rw [List.map_cons, List.nodup_cons] at distinct
      obtain ⟨absent, distinct⟩ := distinct
      have later : ∀ other ∈ rest.map Prod.fst, other ∉ seen := fun other member =>
        unseen other (List.mem_cons_of_mem _ member)
      have fresh : key ∉ seen := unseen key List.mem_cons_self
      rw [checkMembers, List.forall_mem_cons]
      cases found : declared.find? (·.name == key) with
      | none =>
          simp only [reduceCtorEq, false_implies, implies_true, true_and]
          exact ih distinct later
      | some field =>
          have laterStill : ∀ other ∈ rest.map Prod.fst, other ∉ key :: seen := by
            intro other member
            rw [List.mem_cons, not_or]
            refine ⟨?_, later other member⟩
            intro equal
            exact absent (equal ▸ member)
          simp only [Option.some.injEq, forall_eq']
          rw [if_neg (by simpa using fresh), ← ih distinct laterStill]
          cases field.check source with
          | error fault => simp [bind, Except.bind]
          | ok done => simp [bind, Except.bind]

/-- Members pass when every declared field that is given does. -/
theorem checkMembers_eq_ok (distinct : (members.map Prod.fst).Nodup)
    (passes : ∀ field ∈ declared, field.Passes members) :
    checkMembers declared [] members = .ok () := by
  rw [checkMembers_eq_ok_iff distinct (by simp)]
  intro member isMember field found
  have named : field.name = member.1 := by
    simpa using List.find?_some found
  apply passes field (List.mem_of_find?_eq_some found)
  rw [named]
  exact (Entries.find?_eq_some_iff distinct).mpr isMember

/-- The declared fields that are given pass where the members do. -/
theorem passes_of_checkMembers (distinct : (members.map Prod.fst).Nodup)
    (names : (declared.map Field.name).Nodup)
    (checked : checkMembers declared [] members = .ok ()) :
    ∀ field ∈ declared, field.Passes members := by
  rw [checkMembers_eq_ok_iff distinct (by simp)] at checked
  intro field isField source given
  have isMember := (Entries.find?_eq_some_iff distinct).mp given
  apply checked _ isMember
  rw [List.find?_eq_some_iff_append]
  refine ⟨by simp, ?_⟩
  obtain ⟨before, after, split⟩ := List.append_of_mem isField
  refine ⟨before, after, split, ?_⟩
  intro other inBefore
  rw [split, List.map_append, List.nodup_append] at names
  have different := names.2.2 other.name (List.mem_map_of_mem inBefore) field.name (by simp)
  simpa using different

/-- Members that pass are read by looking the fields up. -/
theorem ofMembers_of_passes {fields : Fields Json α} (distinct : (members.map Prod.fst).Nodup)
    (passes : ∀ field ∈ fields.declared, field.Passes members) :
    fields.ofMembers members =
      fields.build (fun name => Entries.find? name members) .ofMember := by
  rw [ofMembers, checkMembers_eq_ok distinct passes]
  rfl

/-- What is read from members has passed. -/
theorem passes_of_ofMembers {fields : Fields Json α} (distinct : (members.map Prod.fst).Nodup)
    (names : (fields.declared.map Field.name).Nodup) {value : α}
    (read : fields.ofMembers members = .ok value) :
    ∀ field ∈ fields.declared, field.Passes members := by
  apply passes_of_checkMembers distinct names
  rw [ofMembers] at read
  cases checked : checkMembers fields.declared [] members with
  | ok done => rfl
  | error fault =>
      rw [checked] at read
      cases read

/-! ## Building from values -/

variable {β : Type} {absence : Absence} {name : String} {decode : Decoder Json α}
  {given : String → Option Value}

theorem required_build {fields : Fields Json (α → β)} {make : α → β} {value : Value} {found : α}
    (built : fields.build (fun key => (given key).map Value.encode) absence = .ok make)
    (isGiven : given name = some value) (read : decode value.encode = .ok found) :
    (fields.required name decode).build (fun key => (given key).map Value.encode) absence =
      .ok (make found) := by
  simp only [required, add, built, isGiven, Option.map_some, read]
  rfl

theorem required_build_absent {fields : Fields Json (α → β)} {make : α → β}
    (built : fields.build (fun key => (given key).map Value.encode) absence = .ok make)
    (absent : given name = .none) :
    (fields.required name decode).build (fun key => (given key).map Value.encode) absence =
      .error (absence.fault fields.declared.length name) := by
  simp only [required, add, built, absent, Option.map_none]
  rfl

/-- An optional field is what is made of the value that is given, where one is. -/
theorem optional_build {fields : Fields Json (Option α → β)} {make : Option α → β}
    {take : Value → Option α}
    (built : fields.build (fun key => (given key).map Value.encode) absence = .ok make)
    (read : ∀ value, given name = some value →
      Decode.optional decode value.encode = .ok (take value)) :
    (fields.optional name decode).build (fun key => (given key).map Value.encode) absence =
      .ok (make ((given name).bind take)) := by
  simp only [optional, defaulted, add, built]
  cases isGiven : given name with
  | none => rfl
  | some value =>
      simp only [Option.map_some, read value isGiven]
      rfl

theorem optional_build_error {fields : Fields Json (Option α → β)} {fault : Fault}
    {lookup : String → Option Json} (failed : fields.build lookup absence = .error fault) :
    (fields.optional name decode).build lookup absence = .error fault := by
  simp only [optional, defaulted, add, failed]

/-! ## What is read of members -/

/-- Every field that is given passes, and the fields build the value. -/
structure Reads (fields : Fields Json α) (members : List (String × Json)) (value : α) : Prop where
  passes : ∀ field ∈ fields.declared, field.Passes members
  built : fields.build (fun name => Entries.find? name members) .ofMember = .ok value

theorem reads_none (value : α) : (Fields.none value).Reads members value where
  passes := by simp [none]
  built := rfl

theorem Reads.add {fields : Fields Json (α → β)} {make : α → β} {found : α}
    {absent : Nat → Absence → Except Fault α} (reads : fields.Reads members make)
    (given : ∀ source, Entries.find? name members = some source → decode source = .ok found)
    (missing : Entries.find? name members = .none →
      absent fields.declared.length .ofMember = .ok found) :
    (fields.add name decode absent).Reads members (make found) where
  passes := by
    intro field member
    rcases List.mem_append.mp member with earlier | last
    · exact reads.passes field earlier
    · rw [List.mem_singleton.mp last]
      intro source isGiven
      dsimp only
      rw [given source isGiven]
      rfl
  built := by
    rw [Fields.add]
    dsimp only
    rw [reads.built]
    cases isGiven : Entries.find? name members with
    | none =>
        dsimp only
        rw [missing isGiven]
        rfl
    | some source =>
        dsimp only
        rw [given source isGiven]
        rfl

/-- A field that is given is read as what is given for it. -/
theorem Reads.present {fields : Fields Json (α → β)} {make : α → β} {found : α} {source : Json}
    {absent : Nat → Absence → Except Fault α} (reads : fields.Reads members make)
    (isGiven : Entries.find? name members = some source) (read : decode source = .ok found) :
    (fields.add name decode absent).Reads members (make found) := by
  apply reads.add
  · intro other isOther
    rw [Option.some.inj (isOther.symm.trans isGiven), read]
  · intro missing
    rw [missing] at isGiven
    cases isGiven

theorem Reads.defaulted {fields : Fields Json (α → β)} {make : α → β} {value found : α}
    (reads : fields.Reads members make)
    (given : ∀ source, Entries.find? name members = some source → decode source = .ok found)
    (missing : Entries.find? name members = .none → value = found) :
    (fields.defaulted name decode value).Reads members (make found) := by
  apply reads.add given
  intro absent
  rw [missing absent]

/-- A field may be left out where it is what it falls back on. -/
theorem Reads.unless {fields : Fields Json (α → β)} {make : α → β} {value found : α}
    {source : Json} {isDefault : Bool} (reads : fields.Reads members make)
    (isGiven : Entries.find? name members = if isDefault = true then .none else some source)
    (read : decode source = .ok found) (same : isDefault = true → value = found) :
    (fields.defaulted name decode value).Reads members (make found) := by
  cases isDefault with
  | false => exact reads.present isGiven read
  | true =>
      apply reads.defaulted
      · intro other isOther
        rw [isGiven] at isOther
        cases isOther
      · exact fun _ => same rfl

/-- An optional text is written as a member that may be left out. -/
theorem Reads.optionalText {fields : Fields Json (Option String → β)} {make : Option String → β}
    {value : Option String} (reads : fields.Reads members make)
    (given : Entries.find? name members = value.map .string) :
    (fields.optional name text).Reads members (make value) := by
  apply reads.defaulted
  · intro source isGiven
    rw [given] at isGiven
    obtain ⟨held, rfl, rfl⟩ := Option.map_eq_some_iff.mp isGiven
    rfl
  · intro absent
    rw [given, Option.map_eq_none_iff] at absent
    exact absent.symm

/-- An optional value comes back in its normal form, and null as its absence. -/
theorem Reads.optionalValue {fields : Fields Json (Option Value → β)} {make : Option Value → β}
    {value : Option Value} (reads : fields.Reads members make)
    (given : Entries.find? name members = value.map Value.encode) :
    (fields.optional name dynamic).Reads members (make (Value.returned value)) := by
  apply reads.defaulted
  · intro source isGiven
    rw [given] at isGiven
    obtain ⟨held, rfl, rfl⟩ := Option.map_eq_some_iff.mp isGiven
    exact optional_dynamic_encode held
  · intro absent
    rw [given, Option.map_eq_none_iff] at absent
    rw [absent]
    rfl

end Fields

/-- An object is read by its members. -/
theorem record_object {α : Type} (expected : String) (fields : Fields Json α)
    (members : List (String × Json)) :
    record expected fields (.object members) = fields.ofMembers members := rfl

/-- A list is read to its end, whether or not it is too short, and must not be too long. -/
theorem record_array {α : Type} (expected : String) (fields : Fields Json α) (items : List Json) :
    record expected fields (.array items) = (do
      Fields.checkItems fields.declared items
      let value ← fields.build
        (fun name => Entries.find? name ((fields.declared.map Field.name).zip items))
        (.ofItem (expected ++ " with " ++ Fields.countText fields.declared.length))
      if fields.declared.length < items.length then
        .error (.wrongLength items.length "fewer elements in array")
      else .ok value) := by
  change (Fields.checkItems fields.declared items >>= fun _ => _) = _
  congr 1
  funext _
  -- the items are all there, so nothing breaks off behind them
  have whole : (Run.whole items).finish = .ok () := rfl
  simp only [whole, ok_bind, ite_self]
  congr 1
  funext value
  by_cases long : fields.declared.length < items.length
  · rw [if_pos long, if_pos long]
  · rw [if_neg long, if_neg long]
/-- The members of an object are read by the fields of a record. -/
theorem record_ofEntries {α : Type} {expected : String} {fields : Fields Json α}
    {entries : List (String × Json)} {value : α}
    (reads : fields.Reads (Entries.ofList entries) value) :
    record expected fields (.ofEntries entries) = .ok value := by
  have distinct := (Entries.ordered_ofList entries).nodup
  rw [Json.ofEntries, record_object, Fields.ofMembers_of_passes distinct reads.passes]
  exact reads.built

/-! ## What holds of everything that is read -/

/-- All numbers of the document are finite. -/
def FiniteDocument (document : Json) : Prop := document.isFinite = true

namespace Fields

variable {α β : Type} {name : String} {decode : Decoder Json α} {given : Json → Prop}
variable {holds : β → Prop}

/-- What the fields build from documents of the given sort has the property. -/
def Yields (given : Json → Prop) (fields : Fields Json α) (holds : α → Prop) : Prop :=
  ∀ lookup absence value, (∀ name source, lookup name = some source → given source) →
    fields.build lookup absence = .ok value → holds value

theorem yields_none {value : β} (all : holds value) : (Fields.none value).Yields given holds := by
  rintro lookup absence _ sort ⟨⟩
  exact all

/-- One field more is built of what it is given for it, or of its absence. -/
theorem add_build {fields : Fields Json (α → β)} {absent : Nat → Absence → Except Fault α}
    {lookup : String → Option Json} {absence : Absence} {value : β}
    (built : (fields.add name decode absent).build lookup absence = .ok value) :
    ∃ make found, fields.build lookup absence = .ok make ∧ make found = value ∧
      ((∃ source, lookup name = some source ∧ decode source = .ok found) ∨
        absent fields.declared.length absence = .ok found) := by
  simp only [add] at built
  split at built
  · cases built
  · rename_i make made
    split at built
    · rename_i source given
      obtain ⟨found, isRead, rfl⟩ := map_eq_ok built
      exact ⟨make, found, made, rfl, .inl ⟨source, given, isRead⟩⟩
    · obtain ⟨found, missing, rfl⟩ := map_eq_ok built
      exact ⟨make, found, made, rfl, .inr missing⟩

theorem Yields.add {fields : Fields Json (α → β)} {needs : α → Prop}
    {absent : Nat → Absence → Except Fault α}
    (yields : fields.Yields given fun make => ∀ found, needs found → holds (make found))
    (read : ∀ source found, given source → decode source = .ok found → needs found)
    (missing : ∀ index absence found, absent index absence = .ok found → needs found) :
    (fields.add name decode absent).Yields given holds := by
  intro lookup absence value sort built
  obtain ⟨make, found, made, rfl, ⟨source, isGiven, isRead⟩ | isMissing⟩ := add_build built
  · exact yields lookup absence make sort made found
      (read source found (sort name source isGiven) isRead)
  · exact yields lookup absence make sort made found (missing _ _ _ isMissing)

/-- A field of which nothing is asked. -/
theorem Yields.any {fields : Fields Json (α → β)} {absent : Nat → Absence → Except Fault α}
    (yields : fields.Yields given fun make => ∀ found, holds (make found)) :
    (fields.add name decode absent).Yields given holds := by
  intro lookup absence value sort built
  obtain ⟨make, found, made, rfl, _⟩ := add_build built
  exact yields lookup absence make sort made found

theorem Yields.anyOptional {fields : Fields Json (Option α → β)}
    (yields : fields.Yields given fun make => ∀ found, holds (make found)) :
    (fields.optional name decode).Yields given holds := by
  rw [optional, Fields.defaulted]
  exact yields.any

theorem Yields.defaulted {fields : Fields Json (α → β)} {needs : α → Prop} {value : α}
    (yields : fields.Yields given fun make => ∀ found, needs found → holds (make found))
    (read : ∀ source found, given source → decode source = .ok found → needs found)
    (fallback : needs value) : (fields.defaulted name decode value).Yields given holds := by
  apply yields.add read
  rintro _ _ _ ⟨⟩
  exact fallback

theorem Yields.optionalValue {fields : Fields Json (Option Value → β)}
    (yields : fields.Yields FiniteDocument fun make => ∀ found, Value.returned found = found →
      holds (make found)) :
    (fields.optional name dynamic).Yields FiniteDocument holds :=
  yields.defaulted (fun _ _ finite read => returned_of_dynamic finite read) rfl

theorem Yields.defaultedValue {fields : Fields Json (Value → β)}
    (yields : fields.Yields FiniteDocument fun make => ∀ found, found.normalize = found →
      holds (make found)) :
    (fields.defaulted name dynamic .null).Yields FiniteDocument holds :=
  yields.defaulted (fun _ _ finite read => normalize_of_dynamic finite read)
    (by rw [Value.normalize])

theorem Yields.defaultedValues {fields : Fields Json (Dictionary Value → β)}
    (yields : fields.Yields FiniteDocument fun make =>
      ∀ found, found.mapValues Value.normalize = found → holds (make found)) :
    (fields.defaulted name (dictionary dynamic) ∅).Yields FiniteDocument holds :=
  yields.defaulted (fun _ _ finite read => mapValues_of_dictionary finite read) rfl

theorem Yields.optionalValues {fields : Fields Json (Option (Dictionary Value) → β)}
    (yields : fields.Yields FiniteDocument fun make => ∀ found,
      (∀ values, found = some values → values.mapValues Value.normalize = values) →
        holds (make found)) :
    (fields.optional name (dictionary dynamic)).Yields FiniteDocument holds := by
  refine yields.defaulted ?_ (by simp)
  rintro source _ finite read values rfl
  by_cases isNull : source = .null
  · rw [isNull] at read
    cases read
  · rw [optional_of_ne_null _ isNull] at read
    obtain ⟨found, read, same⟩ := map_eq_ok read
    cases same
    exact mapValues_of_dictionary finite read

end Fields

/-- The documents right inside a document. -/
def inside : Json → List Json
  | .object entries => entries.map Prod.snd
  | .array items => items
  | _ => []

/-- What is read as a record from a document with parts of the given sort. -/
theorem holds_of_inside {α : Type} {given : Json → Prop} (holds : α → Prop) {expected : String}
    {fields : Fields Json α} (yields : fields.Yields given holds) {document : Json}
    (sort : ∀ source ∈ inside document, given source) {value : α}
    (read : record expected fields document = .ok value) : holds value := by
  cases document with
  | object entries =>
      rw [record_object] at read
      obtain ⟨_, _, built⟩ := bind_eq_ok read
      refine yields _ _ value ?_ built
      intro name source found
      exact sort source (List.mem_map_of_mem (Entries.mem_of_find? found))
  | array items =>
      rw [record_array] at read
      obtain ⟨_, _, read⟩ := bind_eq_ok read
      obtain ⟨found, built, read⟩ := bind_eq_ok read
      split at read
      · cases read
      cases read
      refine yields _ _ value ?_ built
      intro name source isGiven
      exact sort source (List.of_mem_zip (Entries.mem_of_find? isGiven)).2
  | _ => cases read

/-- What is read as a record from a document of finite numbers. -/
theorem holds_of_record {α : Type} (holds : α → Prop) {expected : String}
    {fields : Fields Json α} (yields : fields.Yields FiniteDocument holds) {document : Json}
    (finite : document.isFinite = true) {value : α}
    (read : record expected fields document = .ok value) : holds value := by
  refine holds_of_inside holds yields ?_ read
  cases document with
  | object entries =>
      rw [Json.isFinite, Json.isFiniteFields_iff] at finite
      exact List.forall_mem_map.mpr finite
  | array items =>
      rw [Json.isFinite, Json.isFiniteItems_iff] at finite
      exact finite
  | _ => exact nofun

end Converge.Decode
