import Converge.Connector.Configuration
import Converge.Proofs.Decode
import Converge.Proofs.Value

/-!
# Reading connector configurations

The keys that a provider knows are listed once, its own before the common ones, each with
the kind of value it takes. The members of an object are read exactly when what is given
for the known keys may be given there and no required key is missing, and the first one
that is missing is reported. What is read takes each known key's value and carries every
other along.
-/

namespace Converge

/-! ## Values that are read -/

namespace Value

def asInt64? : Value → Option Int64
  | .int value => some value
  | _ => none

/-- A value that is written as null is null. Of floats only the finite ones are. -/
def Written (value : Value) : Prop := value.encode = .null → value = .null

end Value

namespace Decode

theorem int64_ofInt64 (value : Int64) : int64 (Json.ofInt64 value) = .ok value := by
  have bounds : Int64.minValue.toInt ≤ value.toInt ∧ value.toInt ≤ Int64.maxValue.toInt :=
    ⟨value.minValue_le_toInt, value.toInt_le⟩
  have whole : wholeNumber? (.ofInt64 value) = some value.toInt := by
    rw [Json.Number.ofInt64]
    by_cases negative : value < 0
    · rw [if_pos negative, wholeNumber?]
    · have nonneg : 0 ≤ value := Int64.not_lt.mp negative
      rw [if_neg negative, wholeNumber?, Int64.toNat_toUInt64_of_le nonneg]
      exact congrArg some (Int.toNat_of_nonneg (by simpa using Int64.le_iff_toInt_le.mp nonneg))
  change signed64 (.ofInt64 value) = _
  rw [signed64, bounded, whole]
  simp only [if_pos bounds, Except.map, Int64.ofInt_toInt]

theorem text_encode_eq_ok_iff {value : Value} {found : String} :
    text value.encode = .ok found ↔ value = .text found := by
  change Source.text _ _ = _ ↔ _
  cases value with
  | float number =>
      rw [Value.encode, Json.ofBinary64]
      split <;> simp [Source.text]
  | _ => simp [Value.encode, Source.text, Json.ofInt64]

theorem optional_encode_null {α : Type} (decode : Decoder Json α) :
    optional decode (Value.encode .null) = .ok none := rfl

end Decode

namespace Connector

open Decode

/-! ## Known keys -/

/-- A known key and the kind of its values. -/
structure Slot where
  key : String
  isRequired : Bool
  kind : Value.Kind

namespace Slot

/-- A value that may be given for the key. -/
def Fits (slot : Slot) (value : Value) : Prop :=
  value.kind = slot.kind ∨ slot.isRequired = false ∧ value = .null

/-- What may be found under the key. -/
def Accepts (slot : Slot) : Option Value → Prop
  | none => slot.isRequired = false
  | some value => slot.Fits value

end Slot

/-- A provider's own key takes texts. -/
def Detail.slot (detail : Detail) : Slot := ⟨detail.key, detail.isRequired, .text⟩

/-- The common keys besides the provider. -/
def Common.slots : List Slot :=
  [⟨"name", true, .text⟩, ⟨"pageSize", false, .int⟩, ⟨"pollingPeriod", false, .text⟩]

/-- The keys that a provider knows, its own before the common ones. -/
def Provider.slots (provider : Provider) : List Slot :=
  provider.details.map Detail.slot ++ Common.slots

/-! ## Reading one key -/

theorem Detail.read_encode {detail : Detail} {value : Value} (fits : detail.slot.Fits value) :
    detail.read value.encode = .ok value.asText? := by
  have texts : ∀ found, text (Value.encode (.text found)) = .ok found := fun found =>
    text_encode_eq_ok_iff.mpr rfl
  rcases fits with isText | ⟨notRequired, isNull⟩
  · obtain ⟨found, rfl⟩ : ∃ found, value = .text found := by
      cases value with
      | text found => exact ⟨found, rfl⟩
      | _ => cases isText
    rw [read]
    split
    · rw [texts]
      rfl
    · rw [optional_of_ne_null text (by simp [Value.encode]), texts]
      rfl
  · have optional : detail.isRequired = false := notRequired
    rw [isNull, read, optional, if_neg (by simp), optional_encode_null]
    rfl

/-- Optional keys read what is of their type. -/
theorem kind_of_optional {α : Type} {decode : Decoder Json α} {kind : Value.Kind}
    (reads : ∀ {value : Value} {found : α}, decode value.encode = .ok found → value.kind = kind)
    {value : Value} (written : value.Written) {found : Option α}
    (read : optional decode value.encode = .ok found) : value.kind = kind ∨ value = .null := by
  by_cases isNull : value.encode = .null
  · exact .inr (written isNull)
  · left
    rw [optional_of_ne_null decode isNull] at read
    cases decoded : decode value.encode with
    | ok found => exact reads decoded
    | error fault =>
        rw [decoded] at read
        cases read

theorem kind_of_text {value : Value} {found : String}
    (read : text value.encode = .ok found) : value.kind = .text := by
  rw [text_encode_eq_ok_iff.mp read, Value.kind]

theorem kind_of_int64 {value : Value} {found : Int64}
    (read : int64 value.encode = .ok found) : value.kind = .int := by
  change Source.int64 _ = _ at read
  cases value with
  | int number => rfl
  | float number =>
      rw [Value.encode, Json.ofBinary64] at read
      split at read <;> cases read
  | _ => cases read

theorem Detail.fits_of_read {detail : Detail} {value : Value} (written : value.Written)
    {found : Option String} (read : detail.read value.encode = .ok found) :
    detail.slot.Fits value := by
  rw [Detail.read] at read
  split at read
  · left
    cases texts : text value.encode with
    | ok found => exact kind_of_text texts
    | error fault =>
        rw [texts] at read
        cases read
  · rename_i optional
    rcases kind_of_optional kind_of_text written read with isText | isNull
    · exact .inl isText
    · exact .inr ⟨eq_false_of_ne_true optional, isNull⟩

/-! ## Reading a provider's own keys -/

variable {given : String → Option Value}

/-- The texts that are given for a provider's own keys. -/
def textsOf (given : String → Option Value) (details : List Detail) : List (String × String) :=
  details.filterMap fun detail =>
    ((given detail.key).bind Value.asText?).map fun found => (detail.key, found)

/-- The first required key that is not given. -/
def firstMissing? (given : String → Option Value) (slots : List Slot) : Option Slot :=
  slots.find? fun slot => slot.isRequired && (given slot.key).isNone

@[simp] theorem textsOf_cons (detail : Detail) (rest : List Detail) :
    textsOf given (detail :: rest) =
      (((given detail.key).bind Value.asText?).map fun found => (detail.key, found)).toList
        ++ textsOf given rest := by
  rw [textsOf, List.filterMap_cons, ← textsOf]
  cases ((given detail.key).bind Value.asText?).map fun found => (detail.key, found) <;> rfl

theorem firstMissing?_cons (slot : Slot) (rest : List Slot) :
    firstMissing? given (slot :: rest) =
      if slot.isRequired = true ∧ given slot.key = none then some slot
      else firstMissing? given rest := by
  rw [firstMissing?, List.find?_cons, ← firstMissing?]
  cases slot.isRequired <;> cases given slot.key <;> rfl

theorem firstMissing?_congr {other : String → Option Value} {slots : List Slot}
    (same : ∀ slot ∈ slots, given slot.key = other slot.key) :
    firstMissing? given slots = firstMissing? other slots := by
  induction slots with
  | nil => rfl
  | cons slot rest ih =>
      rw [firstMissing?_cons, firstMissing?_cons, same slot List.mem_cons_self,
        ih fun later member => same later (List.mem_cons_of_mem _ member)]

theorem firstMissing?_eq_none_iff {slots : List Slot} :
    firstMissing? given slots = none ↔
      ∀ slot ∈ slots, given slot.key = none → slot.isRequired = false := by
  rw [firstMissing?, List.find?_eq_none]
  apply forall₂_congr
  intro slot _
  cases slot.isRequired <;> cases given slot.key <;> simp

theorem Detail.collect_eq {details : List Detail}
    (fits : ∀ detail ∈ details, ∀ value, given detail.key = some value → detail.slot.Fits value) :
    Detail.collect (fun key => (given key).map Value.encode) details =
      match firstMissing? given (details.map Detail.slot) with
      | some slot => .error (.missingField slot.key)
      | none => .ok (textsOf given details) := by
  induction details with
  | nil => rfl
  | cons detail rest ih =>
      have fitsRest := ih fun other member => fits other (List.mem_cons_of_mem _ member)
      have fitsFirst := fits detail List.mem_cons_self
      rw [Detail.collect, fitsRest, List.map_cons, firstMissing?_cons, textsOf_cons]
      cases found : given detail.key with
      | some value =>
          have readFirst := Detail.read_encode (fitsFirst value found)
          have there : ¬ (detail.slot.isRequired = true ∧ given detail.slot.key = none) := by
            simp [Detail.slot, found]
          rw [if_neg there, Option.map_some, Option.bind_some]
          dsimp only
          rw [readFirst]
          cases firstMissing? given (rest.map Detail.slot) with
          | some slot => rfl
          | none => cases value.asText? <;> rfl
      | none =>
          by_cases required : detail.isRequired = true
          · have missing : detail.slot.isRequired = true ∧ given detail.slot.key = none :=
              ⟨required, found⟩
            rw [if_pos missing]
            dsimp only [Option.map_none]
            rw [if_pos required]
            rfl
          · have notMissing : ¬ (detail.slot.isRequired = true ∧ given detail.slot.key = none) :=
              fun missing => required missing.1
            rw [if_neg notMissing]
            dsimp only [Option.map_none]
            rw [if_neg required]
            cases firstMissing? given (rest.map Detail.slot) <;> rfl

/-! ## Reading the common keys -/

theorem optional_text_encode {value : Value} (fits : value.kind = .text ∨ value = .null) :
    optional text value.encode = .ok value.asText? := by
  have fitsOptional : (Detail.slot ⟨"", false⟩).Fits value :=
    fits.imp id fun isNull => ⟨rfl, isNull⟩
  exact Detail.read_encode fitsOptional

theorem optional_int64_encode {value : Value} (fits : value.kind = .int ∨ value = .null) :
    optional int64 value.encode = .ok value.asInt64? := by
  rcases fits with isInt | rfl
  · cases value with
    | int number =>
        rw [optional_of_ne_null int64 (by simp [Value.encode, Json.ofInt64]), Value.encode,
          int64_ofInt64]
        rfl
    | _ => cases isInt
  · rfl

/-- The common part of what is given. -/
def Common.of (given : String → Option Value) : Common where
  name := ((given "name").bind Value.asText?).getD ""
  pageSize := (given "pageSize").bind Value.asInt64?
  pollingPeriod := (given "pollingPeriod").bind Value.asText?
  provider := (given providerKey).bind Value.asText?

/-- What is given for the common keys is of their types. -/
structure Common.Fit (given : String → Option Value) : Prop where
  name : ∀ value, given "name" = some value → value.kind = .text
  pageSize : ∀ value, given "pageSize" = some value → value.kind = .int ∨ value = .null
  pollingPeriod : ∀ value, given "pollingPeriod" = some value →
    value.kind = .text ∨ value = .null
  provider : ∀ value, given providerKey = some value → value.kind = .text ∨ value = .null

theorem text_encode_of_kind {value : Value} (isText : value.kind = .text) :
    text value.encode = .ok (value.asText?.getD "") := by
  cases value with
  | text found => exact text_encode_eq_ok_iff.mpr rfl
  | _ => cases isText

theorem Common.build_eq (fit : Common.Fit given) :
    (Common.fields (σ := Json)).build (fun key => (given key).map Value.encode) .ofMember =
      match given "name" with
      | none => .error (.missingField "name")
      | some _ => .ok (Common.of given) := by
  cases name : given "name" with
  | none =>
      have missing : ((Fields.none Common.mk).required "name" text).build
          (fun key => (given key).map Value.encode) .ofMember =
            .error (.missingField "name") :=
        Fields.required_build_absent rfl name
      exact Fields.optional_build_error (Fields.optional_build_error
        (Fields.optional_build_error missing))
  | some value =>
      have isName : ((given "name").bind Value.asText?).getD "" = value.asText?.getD "" := by
        rw [name, Option.bind_some]
      rw [Common.of, isName]
      have named : ((Fields.none Common.mk).required "name" text).build
          (fun key => (given key).map Value.encode) .ofMember =
            .ok (Common.mk (value.asText?.getD "")) :=
        Fields.required_build rfl name (text_encode_of_kind (fit.name value name))
      have sized := Fields.optional_build named fun value isGiven =>
        optional_int64_encode (fit.pageSize value isGiven)
      have polled := Fields.optional_build sized fun value isGiven =>
        optional_text_encode (fit.pollingPeriod value isGiven)
      exact Fields.optional_build polled fun value isGiven =>
        optional_text_encode (fit.provider value isGiven)

/-! ## Reading an object -/

/-- Whether a provider knows the key, as its own or as a common one. -/
def Provider.knows (provider : Provider) (key : String) : Bool :=
  (provider.details.map Detail.key ++ Common.keys).contains key

/-- The configuration that a provider makes of a flat object. -/
def Provider.reading (provider : Provider) (flat : Dictionary Value) : Configuration where
  provider := provider
  details := .ofList (textsOf flat.get? provider.details)
  common := .of flat.get?
  extra := (flat.filterKeys fun key => !provider.knows key).mapValues Value.normalize

/-- What is given for the known keys may be given there. -/
structure Provider.Fit (provider : Provider) (given : String → Option Value) : Prop where
  details : ∀ detail ∈ provider.details, ∀ value, given detail.key = some value →
    detail.slot.Fits value
  common : Common.Fit given

theorem Provider.fit_iff {provider : Provider} :
    provider.Fit given ↔
      (∀ slot ∈ provider.slots, ∀ value, given slot.key = some value → slot.Fits value) ∧
        ∀ value, given providerKey = some value → value.kind = .text ∨ value = .null := by
  constructor
  · rintro ⟨details, common⟩
    refine ⟨?_, common.provider⟩
    intro slot member value isGiven
    rcases List.mem_append.mp member with own | shared
    · obtain ⟨detail, isDetail, rfl⟩ := List.mem_map.mp own
      exact details detail isDetail value isGiven
    · simp only [Common.slots, List.mem_cons, List.not_mem_nil, or_false] at shared
      rcases shared with rfl | rfl | rfl
      · exact .inl (common.name value isGiven)
      · exact (common.pageSize value isGiven).imp id fun isNull => ⟨rfl, isNull⟩
      · exact (common.pollingPeriod value isGiven).imp id fun isNull => ⟨rfl, isNull⟩
  · rintro ⟨slots, isProvider⟩
    have shared : ∀ slot ∈ Common.slots, ∀ value, given slot.key = some value →
        slot.Fits value := fun slot member => slots slot (List.mem_append_right _ member)
    refine ⟨?_, ?_, ?_, ?_, isProvider⟩
    · intro detail member value isGiven
      exact slots detail.slot (List.mem_append_left _ (List.mem_map_of_mem member)) value isGiven
    · intro value isGiven
      rcases shared ⟨"name", true, .text⟩ (by simp [Common.slots]) value isGiven with
        isText | ⟨optional, _⟩
      · exact isText
      · cases optional
    · intro value isGiven
      exact (shared ⟨"pageSize", false, .int⟩ (by simp [Common.slots]) value isGiven).imp id
        And.right
    · intro value isGiven
      exact (shared ⟨"pollingPeriod", false, .text⟩ (by simp [Common.slots]) value isGiven).imp id
        And.right

theorem find?_encodeFields (key : String) (fields : List (String × Value)) :
    Entries.find? key (Value.encodeFields fields) =
      (Entries.find? key fields).map Value.encode := by
  rw [Value.encodeFields_eq_map, Entries.find?_map_values]

theorem nodup_encodeFields (flat : Dictionary Value) :
    ((Value.encodeFields flat.entries).map Prod.fst).Nodup := by
  rw [Value.encodeFields_eq_map, List.map_map]
  exact flat.ordered.nodup

/-- A field passes where what is given for it can be read. -/
theorem passes_of_reads {α : Type} {flat : Dictionary Value} {name : String}
    {decode : Decoder Json α}
    (reads : ∀ value, flat.get? name = some value → ∃ found, decode value.encode = .ok found) :
    (Decode.Field.mk name fun source => (decode source).map fun _ => ()).Passes
      (Value.encodeFields flat.entries) := by
  intro source isGiven
  rw [find?_encodeFields, Option.map_eq_some_iff] at isGiven
  obtain ⟨value, found, rfl⟩ := isGiven
  obtain ⟨result, read⟩ := reads value found
  simp only [read, Except.map]

theorem details_pass {flat : Dictionary Value} {details : List Detail}
    (fits : ∀ detail ∈ details, ∀ value, flat.get? detail.key = some value →
      detail.slot.Fits value) :
    ∀ field ∈ (Detail.fields details).declared,
      field.Passes (Value.encodeFields flat.entries) := by
  intro field member
  obtain ⟨detail, isDetail, rfl⟩ := List.mem_map.mp member
  exact passes_of_reads fun value isGiven =>
    ⟨_, Detail.read_encode (fits detail isDetail value isGiven)⟩

theorem common_pass {flat : Dictionary Value} (fit : Common.Fit flat.get?) :
    ∀ field ∈ (Common.fields (σ := Json)).declared,
      field.Passes (Value.encodeFields flat.entries) := by
  intro field member
  have fieldsEqual : (Common.fields (σ := Json)).declared =
      [⟨"name", fun source => (text source).map fun _ => ()⟩,
        ⟨"pageSize", fun source => (optional int64 source).map fun _ => ()⟩,
        ⟨"pollingPeriod", fun source => (optional text source).map fun _ => ()⟩,
        ⟨providerKey, fun source => (optional text source).map fun _ => ()⟩] := rfl
  rw [fieldsEqual] at member
  simp only [List.mem_cons, List.not_mem_nil, or_false] at member
  rcases member with rfl | rfl | rfl | rfl
  · exact passes_of_reads fun value isGiven => ⟨_, text_encode_of_kind (fit.name value isGiven)⟩
  · exact passes_of_reads fun value isGiven =>
      ⟨_, optional_int64_encode (fit.pageSize value isGiven)⟩
  · exact passes_of_reads fun value isGiven =>
      ⟨_, optional_text_encode (fit.pollingPeriod value isGiven)⟩
  · exact passes_of_reads fun value isGiven =>
      ⟨_, optional_text_encode (fit.provider value isGiven)⟩

theorem firstMissing?_append (first second : List Slot) :
    firstMissing? given (first ++ second) =
      (firstMissing? given first).or (firstMissing? given second) :=
  List.find?_append

theorem firstMissing?_common :
    firstMissing? given Common.slots =
      if given "name" = none then some ⟨"name", true, .text⟩ else none := by
  rw [Common.slots, firstMissing?_cons, firstMissing?_cons, firstMissing?_cons]
  simp [firstMissing?]

/-- The members with other keys are carried along in normal form. -/
theorem extra_eq (flat : Dictionary Value) (keep : String → Bool) :
    (Dictionary.ofList ((Value.encodeFields flat.entries).filter
        fun (key, _) => keep key)).mapValues Value.decode =
      (flat.filterKeys keep).mapValues Value.normalize := by
  have kept : (Value.encodeFields flat.entries).filter (fun (key, _) => keep key) =
      ((flat.filterKeys keep).mapValues Value.encode).entries := by
    rw [Value.encodeFields_eq_map, List.filter_map]
    rfl
  rw [kept, Dictionary.ofList_entries]
  apply Dictionary.ext_get?
  intro key
  simp only [Dictionary.get?_mapValues, Option.map_map]
  congr 1
  funext value
  exact Value.decode_encode value

/-- Where what is given may be given, an object is read unless a required key is missing. -/
theorem ofMembers_eq {provider : Provider} {flat : Dictionary Value}
    (fit : provider.Fit flat.get?) :
    Configuration.ofMembers provider (Value.encodeFields flat.entries) =
      match firstMissing? flat.get? provider.slots with
      | some slot => .error (.missingField slot.key)
      | none => .ok (provider.reading flat) := by
  have lookup : (fun key => Entries.find? key (Value.encodeFields flat.entries)) =
      fun key => (flat.get? key).map Value.encode := by
    funext key
    exact find?_encodeFields key flat.entries
  have details : (Detail.fields provider.details).ofMembers (Value.encodeFields flat.entries) =
      Detail.collect (fun key => (flat.get? key).map Value.encode) provider.details := by
    rw [Fields.ofMembers_of_passes (nodup_encodeFields flat) (details_pass fit.details), lookup]
    rfl
  have common := Fields.ofMembers_of_passes (nodup_encodeFields flat) (common_pass fit.common)
  rw [lookup, Common.build_eq fit.common] at common
  rw [Configuration.ofMembers, details, common, Detail.collect_eq fit.details, Provider.slots,
    firstMissing?_append, firstMissing?_common]
  cases firstMissing? flat.get? (provider.details.map Detail.slot) with
  | some slot => rfl
  | none =>
      cases name : flat.get? "name" with
      | none => rfl
      | some value =>
          have extra := extra_eq flat fun key => !provider.knows key
          simp only [Provider.reading, ← extra]
          rfl

/-! ### What is read fits -/

theorem nodup_details (provider : Provider) : (provider.details.map Detail.key).Nodup := by
  cases provider <;> decide

theorem reads_of_passes {α : Type} {flat : Dictionary Value} {name : String}
    {decode : Decoder Json α}
    (passes : (Decode.Field.mk name fun source => (decode source).map fun _ => ()).Passes
      (Value.encodeFields flat.entries)) {value : Value} (isGiven : flat.get? name = some value) :
    ∃ found, decode value.encode = .ok found := by
  have passed := passes value.encode (by
    rw [find?_encodeFields]
    exact congrArg (Option.map Value.encode) isGiven)
  cases read : decode value.encode with
  | ok found => exact ⟨found, rfl⟩
  | error fault =>
      simp only [read, Except.map] at passed
      cases passed

/-- An object that is read without loss in its written form fits, and nothing is missing. -/
theorem fit_of_ofMembers {provider : Provider} {flat : Dictionary Value}
    {configuration : Configuration}
    (written : ∀ key value, flat.get? key = some value → value.Written)
    (read : Configuration.ofMembers provider (Value.encodeFields flat.entries) =
      .ok configuration) :
    provider.Fit flat.get? ∧ firstMissing? flat.get? provider.slots = none := by
  obtain ⟨details, common, detailsRead, commonRead⟩ : ∃ details common,
      (Detail.fields provider.details).ofMembers (Value.encodeFields flat.entries) =
        .ok details ∧
      Common.fields.ofMembers (Value.encodeFields flat.entries) = .ok common := by
    rw [Configuration.ofMembers] at read
    cases details : (Detail.fields provider.details).ofMembers
        (Value.encodeFields flat.entries) with
    | error fault =>
        rw [details] at read
        cases read
    | ok found =>
        cases common : Common.fields.ofMembers (Value.encodeFields flat.entries) with
        | error fault =>
            rw [details, common] at read
            cases read
        | ok part => exact ⟨found, part, rfl, rfl⟩
  have detailsPass := Fields.passes_of_ofMembers (nodup_encodeFields flat)
    (by
      rw [Detail.fields, List.map_map]
      exact nodup_details provider) detailsRead
  have commonPass := Fields.passes_of_ofMembers (nodup_encodeFields flat)
    (by decide) commonRead
  have fit : provider.Fit flat.get? := by
    refine ⟨?_, ?_, ?_, ?_, ?_⟩
    · intro detail member value isGiven
      obtain ⟨found, read⟩ := reads_of_passes (detailsPass _ (List.mem_map_of_mem member)) isGiven
      exact Detail.fits_of_read (written _ _ isGiven) read
    · intro value isGiven
      obtain ⟨found, read⟩ := reads_of_passes (commonPass _ (.head _)) isGiven
      exact kind_of_text read
    · intro value isGiven
      obtain ⟨found, read⟩ := reads_of_passes (commonPass _ (.tail _ (.head _))) isGiven
      exact kind_of_optional kind_of_int64 (written _ _ isGiven) read
    · intro value isGiven
      obtain ⟨found, read⟩ := reads_of_passes (commonPass _ (.tail _ (.tail _ (.head _)))) isGiven
      exact kind_of_optional kind_of_text (written _ _ isGiven) read
    · intro value isGiven
      obtain ⟨found, read⟩ :=
        reads_of_passes (commonPass _ (.tail _ (.tail _ (.tail _ (.head _))))) isGiven
      exact kind_of_optional kind_of_text (written _ _ isGiven) read
  refine ⟨fit, ?_⟩
  rw [ofMembers_eq fit] at read
  cases missing : firstMissing? flat.get? provider.slots with
  | none => rfl
  | some slot =>
      rw [missing] at read
      cases read

end Connector
end Converge
