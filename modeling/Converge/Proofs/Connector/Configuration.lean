import Converge.Proofs.Connector.Provider
import Converge.Proofs.Encode

/-!
# Connector configurations come back

A flat object is read exactly when it names a provider and every key that the provider knows
accepts what the object holds there. It is then written as it was, but for the spelling of
the provider and for known keys that hold null, and what is written is read as the same
configuration.
-/

namespace Converge.Connector

open Decode

variable {given : String → Option Value}

/-! ## Reading -/

namespace Configuration

theorem providerOf_eq_ok_iff {flat : Dictionary Value} {provider : Provider} :
    providerOf flat = .ok provider ↔
      ∃ name, flat.get? providerKey = some (.text name) ∧
        Provider.sameLetters provider.name name = true := by
  rw [providerOf]
  split
  · rename_i absent
    simp [absent]
  · rename_i isNull
    simp [isNull]
  · rename_i name isText
    simp only [isText, Option.some.injEq, Value.text.injEq, exists_eq_left',
      ← Provider.ofName?_eq_some_iff]
    cases Provider.ofName? name <;> simp
  · rename_i other notText isOther
    simp only [isOther, Option.some.injEq, reduceCtorEq, false_iff]
    rintro ⟨name, rfl, _⟩
    exact notText name rfl

theorem decode_eq {flat : Dictionary Value} {provider : Provider}
    (named : providerOf flat = .ok provider) :
    decode flat = ofDictionary provider (provider.canonical flat) := by
  rw [decode, named]
  rfl

/-- An object is read where it names a provider that accepts it. -/
theorem decode_eq_ok_iff {flat : Dictionary Value} {configuration : Configuration} :
    decode flat = .ok configuration ↔
      ∃ provider, providerOf flat = .ok provider ∧ provider.Accepts flat ∧
        configuration = provider.reading (provider.canonical flat) := by
  cases named : providerOf flat with
  | error fault =>
      rw [decode, named]
      simp [bind, Except.bind]
  | ok provider =>
      rw [decode_eq named]
      simp only [Except.ok.injEq, exists_eq_left', Provider.accepts_iff]
      constructor
      · intro read
        obtain ⟨fit, present⟩ := fit_of_ofDictionary read
        rw [ofDictionary_of_fit fit, present, Except.ok.injEq] at read
        exact ⟨⟨fit, present⟩, read.symm⟩
      · rintro ⟨⟨fit, present⟩, rfl⟩
        rw [ofDictionary_of_fit fit, present]

end Configuration

/-! ## Writing -/

theorem get?_ofList_member (name key : String) (value : Option Json) :
    (Dictionary.ofList (Json.member name value)).get? key =
      if name = key then value else none := by
  cases value with
  | none => simp [Json.member, Dictionary.ofList, Dictionary.get?, Entries.ofList, Entries.find?]
  | some document =>
      simp [Json.member, Dictionary.ofList, Dictionary.get?, Entries.ofList, Entries.find?,
        Entries.insert]

/-- The members that the common part is written as. -/
def Common.entries (common : Common) : List (String × Json) :=
  [("name", .string common.name)]
  ++ Json.member "pageSize" (common.pageSize.map .ofInt64)
  ++ Json.member "pollingPeriod" (common.pollingPeriod.map .string)
  ++ Json.member providerKey (common.provider.map .string)

theorem Common.members_eq (common : Common) : common.members = .ok common.entries := by
  rw [members, Encode.text_writes.field, Encode.int64_writes.optional, Encode.text_writes.optional,
    Encode.text_writes.optional]
  refine (Encode.together_ok [_, _, _, _]).trans ?_
  simp [entries]

/-- The members that a configuration is written as. -/
def Configuration.entries (configuration : Configuration) : List (String × Json) :=
  configuration.details.entries.map (fun entry => (entry.1, Json.string entry.2))
  ++ configuration.common.entries
  ++ configuration.extra.entries.map (fun entry => (entry.1, entry.2.encode))

theorem Configuration.document_writes :
    Encode.Writes document fun configuration => .ofEntries configuration.entries := by
  intro configuration
  rw [document, Encode.text_writes.entries, Encode.dynamic_writes.entries, Common.members_eq]
  refine (Encode.record_ok [_, _, _]).trans ?_
  simp [entries]

/-- What is written for the common keys. -/
def Common.written (common : Common) (key : String) : Option Value :=
  if key = providerKey then common.provider.map .text
  else if key = "pollingPeriod" then common.pollingPeriod.map .text
  else if key = "pageSize" then common.pageSize.map .int
  else if key = "name" then some (.text common.name)
  else none

theorem Common.get?_entries (common : Common) (key : String) :
    ((Dictionary.ofList common.entries).get? key).map Value.decode = common.written key := by
  have name : ([("name", .string common.name)] : List (String × Json)) =
      Json.member "name" (some (.string common.name)) := rfl
  have texts : ∀ text : Option String,
      (text.map Json.string).map Value.decode = text.map Value.text := by
    intro text
    cases text <;> rfl
  have ints : ∀ number : Option Int64,
      (number.map Json.ofInt64).map Value.decode = number.map Value.int := by
    intro number
    cases number with
    | none => rfl
    | some number => exact congrArg some (Value.decode_ofInt64 number)
  rw [entries, name, Dictionary.get?_ofList_append, Dictionary.get?_ofList_append,
    Dictionary.get?_ofList_append]
  simp only [get?_ofList_member, written]
  by_cases isProvider : key = providerKey
  · subst isProvider
    simp [providerKey, texts]
  by_cases isPeriod : key = "pollingPeriod"
  · subst isPeriod
    simp [providerKey, texts]
  by_cases isSize : key = "pageSize"
  · subst isSize
    simp [providerKey, ints]
  by_cases isName : key = "name"
  · subst isName
    simp [providerKey, Value.decode]
  simp [isProvider, isPeriod, isSize, isName, Ne.symm isProvider, Ne.symm isPeriod,
    Ne.symm isSize, Ne.symm isName]

theorem Common.written_eq_none {common : Common} {key : String} (other : key ∉ keys) :
    common.written key = none := by
  simp only [keys, List.mem_cons, List.not_mem_nil, or_false, not_or] at other
  obtain ⟨notName, notSize, notPeriod, notProvider⟩ := other
  rw [written, if_neg notProvider, if_neg notPeriod, if_neg notSize, if_neg notName]

/-- What is written of a configuration, by key. -/
theorem Configuration.encode_eq (configuration : Configuration) :
    ∃ flat, configuration.encode = .ok flat ∧ ∀ key, flat.get? key =
      ((configuration.extra.get? key).map Value.normalize).or
        ((configuration.common.written key).or
          ((configuration.details.get? key).map Value.text)) := by
  let written := configuration.entries
  refine ⟨.ofList (Value.decodeFields (Entries.ofList written)), ?_, ?_⟩
  · rw [encode, Value.write, document_writes]
    rfl
  intro key
  have details : configuration.details.entries.map (fun entry => (entry.1, Json.string entry.2)) =
      (configuration.details.mapValues Json.string).entries := rfl
  have extra : configuration.extra.entries.map (fun entry => (entry.1, entry.2.encode)) =
      (configuration.extra.mapValues Value.encode).entries := rfl
  have decoded : Value.decodeFields (Entries.ofList written) =
      ((Dictionary.ofList written).mapValues Value.decode).entries :=
    Value.decodeFields_eq_map _
  rw [decoded, Dictionary.ofList_entries, Dictionary.get?_mapValues]
  simp only [written, entries]
  rw [Dictionary.get?_ofList_append,
    Dictionary.get?_ofList_append, details, extra, Dictionary.ofList_entries,
    Dictionary.ofList_entries, Dictionary.get?_mapValues, Dictionary.get?_mapValues,
    Option.map_or, Option.map_or, Common.get?_entries, Option.map_map, Option.map_map]
  congr 2
  funext value
  exact Value.decode_encode value

/-! ### What a reading holds -/

theorem textsOf_keys_sublist (details : List Detail) :
    ((textsOf given details).map Prod.fst).Sublist (details.map Detail.key) := by
  induction details with
  | nil => exact .slnil
  | cons detail rest ih =>
      rw [textsOf_cons, List.map_append, List.map_cons]
      cases (given detail.key).bind Value.asText? with
      | none => exact ih.cons _
      | some found => exact ih.cons_cons _

theorem Provider.get?_reading_details (provider : Provider) (flat : Dictionary Value)
    (key : String) :
    (provider.reading flat).details.get? key =
      if key ∈ provider.details.map Detail.key then (flat.get? key).bind Value.asText?
      else none := by
  have distinct : ((textsOf flat.get? provider.details).map Prod.fst).Nodup :=
    (nodup_details provider).sublist (textsOf_keys_sublist _)
  rw [reading, Dictionary.get?_ofList distinct]
  apply Option.ext
  intro found
  rw [Entries.find?_eq_some_iff distinct, textsOf, List.mem_filterMap]
  constructor
  · rintro ⟨detail, member, isEntry⟩
    obtain ⟨text, isText, equal⟩ := Option.map_eq_some_iff.mp isEntry
    obtain ⟨rfl, rfl⟩ := Prod.mk.inj equal
    rw [if_pos (List.mem_map_of_mem member)]
    exact isText
  · intro isFound
    split at isFound
    · rename_i member
      obtain ⟨detail, isDetail, rfl⟩ := List.mem_map.mp member
      refine ⟨detail, isDetail, ?_⟩
      rw [isFound]
      rfl
    · cases isFound

theorem Provider.get?_reading_extra (provider : Provider) (flat : Dictionary Value)
    (key : String) :
    (provider.reading flat).extra.get? key =
      if provider.knows key then none else (flat.get? key).map Value.normalize := by
  rw [reading, Dictionary.get?_mapValues, Dictionary.get?_filterKeys]
  cases provider.knows key <;> rfl

/-! ## Back again -/

/-- The common keys are written as they are taken. -/
theorem Provider.written_common {provider : Provider} {flat : Dictionary Value}
    (accepts : provider.Accepts flat) {key : String} (isCommon : key ∈ Common.keys) :
    (Common.of (provider.canonical flat).get?).written key =
      provider.taken key ((provider.canonical flat).get? key) := by
  simp only [Common.keys, List.mem_cons, List.not_mem_nil, or_false] at isCommon
  rcases isCommon with rfl | rfl | rfl | rfl
  · obtain ⟨name, found⟩ := name_of_accepts accepts
    have isSlot : ⟨"name", true, .text⟩ ∈ provider.slots := provider.common_slot (.head _)
    rw [taken_text accepts isSlot rfl, found]
    simp [Common.written, Common.of, found, providerKey, Value.asText?]
  · have isSlot : ⟨"pageSize", false, .int⟩ ∈ provider.slots :=
      provider.common_slot (.tail _ (.head _))
    rw [taken_int accepts isSlot rfl]
    rfl
  · have isSlot : ⟨"pollingPeriod", false, .text⟩ ∈ provider.slots :=
      provider.common_slot (.tail _ (.tail _ (.head _)))
    rw [taken_text accepts isSlot rfl]
    rfl
  · have known : provider.knows providerKey = true := knows_iff.mpr (.inr (by decide))
    rw [Common.written, if_pos rfl, Common.of, canonical, Dictionary.get?_insert_self, taken,
      if_pos known]
    rfl

/-- What is read and written again is what the provider takes. -/
theorem Provider.encode_reading {provider : Provider} {flat : Dictionary Value}
    (accepts : provider.Accepts flat) :
    (provider.reading (provider.canonical flat)).encode =
      .ok ((provider.tidied flat).mapValues Value.normalize) := by
  obtain ⟨written, encoded, lookup⟩ := (provider.reading (provider.canonical flat)).encode_eq
  rw [encoded]
  congr 1
  apply Dictionary.ext_get?
  intro key
  rw [lookup, get?_reading_extra, get?_reading_details, Dictionary.get?_mapValues,
    get?_tidied accepts]
  -- the three parts share no key, so each key is written by the part that it was read into
  by_cases isDetail : key ∈ provider.details.map Detail.key
  · obtain ⟨detail, member, rfl⟩ := List.mem_map.mp isDetail
    have isSlot : detail.slot ∈ provider.slots :=
      List.mem_append_left _ (List.mem_map_of_mem member)
    have known : provider.knows detail.key = true := knows_slot isSlot
    rw [if_pos known, if_pos isDetail,
      Common.written_eq_none (provider.details_not_common detail member)]
    exact (taken_text accepts isSlot rfl).symm
  · rw [if_neg isDetail]
    by_cases isCommon : key ∈ Common.keys
    · have known : provider.knows key = true := knows_iff.mpr (.inr isCommon)
      rw [if_pos known, ← written_common accepts isCommon]
      exact Option.or_none
    · have unknown : ¬ provider.knows key = true := by
        rw [knows_iff, not_or]
        exact ⟨isDetail, isCommon⟩
      have settled : Value.normalize ∘ Value.normalize = Value.normalize :=
        funext Value.normalize_normalize
      rw [if_neg unknown, Common.written_eq_none isCommon, taken, if_neg unknown,
        Option.map_map, settled]
      exact Option.or_none

/-! ## Reading again -/

/-- A reading depends on what is taken alone. -/
theorem Provider.reading_congr {provider : Provider} {first second : Dictionary Value}
    (same : ∀ key, provider.taken key (first.get? key) = provider.taken key (second.get? key)) :
    provider.reading first = provider.reading second := by
  have texts : ∀ key, provider.knows key = true →
      (first.get? key).bind Value.asText? = (second.get? key).bind Value.asText? := by
    intro key known
    rw [← bind_asText?_taken known, same key, bind_asText?_taken known]
  have ints : ∀ key, provider.knows key = true →
      (first.get? key).bind Value.asInt64? = (second.get? key).bind Value.asInt64? := by
    intro key known
    rw [← bind_asInt64?_taken known, same key, bind_asInt64?_taken known]
  have shared : ∀ key ∈ Common.keys, provider.knows key = true := fun key member =>
    knows_iff.mpr (.inr member)
  have details : (provider.reading first).details = (provider.reading second).details := by
    apply Dictionary.ext_get?
    intro key
    rw [get?_reading_details, get?_reading_details]
    split
    · rename_i own
      exact texts key (knows_iff.mpr (.inl own))
    · rfl
  have common : (provider.reading first).common = (provider.reading second).common := by
    simp only [reading, Common.of, texts _ (shared "name" (by decide)),
      ints _ (shared "pageSize" (by decide)), texts _ (shared "pollingPeriod" (by decide)),
      texts _ (shared providerKey (by decide))]
  have extra : (provider.reading first).extra = (provider.reading second).extra := by
    apply Dictionary.ext_get?
    intro key
    rw [get?_reading_extra, get?_reading_extra]
    split
    · rfl
    · rename_i unknown
      have taken := same key
      rwa [Provider.taken, Provider.taken, if_neg unknown, if_neg unknown] at taken
  calc
    provider.reading first = ⟨provider, (provider.reading first).details,
        (provider.reading first).common, (provider.reading first).extra⟩ := rfl
    _ = ⟨provider, (provider.reading second).details, (provider.reading second).common,
        (provider.reading second).extra⟩ := by rw [details, common, extra]
    _ = provider.reading second := rfl

namespace Configuration

/-- Whatever is mixed of an object and of what is written of it is read like the object. -/
theorem decode_blend {provider : Provider} {flat mixed : Dictionary Value}
    (accepts : provider.Accepts flat) (named : providerOf mixed = .ok provider)
    (either : ∀ key, key ≠ providerKey → mixed.get? key = flat.get? key ∨
      mixed.get? key = ((provider.tidied flat).get? key).map Value.normalize) :
    decode mixed = .ok (provider.reading (provider.canonical flat)) := by
  have apart : ∀ {key}, key ≠ providerKey →
      ∀ object : Dictionary Value, (provider.canonical object).get? key = object.get? key := by
    intro key different object
    rw [Provider.canonical, Dictionary.get?_insert, if_neg (Ne.symm different)]
  have mixedAccepts : provider.Accepts mixed := by
    intro slot member
    have accepted := accepts slot member
    rcases either slot.key (provider.slot_ne_provider slot member) with same | written
    · rwa [same]
    · rw [written, Provider.get?_tidied_slot accepts member,
        Provider.get?_canonical_slot member]
      exact Provider.accepts_written member accepted
  refine decode_eq_ok_iff.mpr ⟨provider, named, mixedAccepts, ?_⟩
  apply Provider.reading_congr
  intro key
  -- the provider is read in its canonical spelling, whichever spelling is mixed in
  by_cases isProvider : key = providerKey
  · subst isProvider
    rw [Provider.canonical, Provider.canonical, Dictionary.get?_insert_self,
      Dictionary.get?_insert_self]
  · rw [apart isProvider, apart isProvider]
    rcases either key isProvider with same | written
    · rw [same]
    · rw [written, Provider.get?_tidied accepts, Provider.taken_taken, apart isProvider]

theorem providerOf_canonical {flat : Dictionary Value} {provider : Provider}
    (named : flat.get? providerKey = some (.text provider.name)) :
    providerOf flat = .ok provider :=
  providerOf_eq_ok_iff.mpr ⟨provider.name, named, provider.sameLetters_name⟩

/-! ## Two groups -/

/-- No key is declared in both groups. -/
def Apart (credentials config : Dictionary Value) : Prop :=
  ∀ key ∈ credentials.keys, key ∉ config.keys

theorem apart_iff {credentials config : Dictionary Value} :
    credentials.keys.find? config.contains = none ↔ Apart credentials config := by
  rw [List.find?_eq_none, Apart]
  simp only [Dictionary.mem_keys_iff, Dictionary.contains]

theorem ofParts_eq {credentials config : Dictionary Value} (apart : Apart credentials config) :
    ofParts credentials config = decode (config.extend credentials) := by
  rw [ofParts, apart_iff.mpr apart]

/-- What is sent for two groups: the object that they merge to, tidied. -/
theorem payload_eq_ok_iff {credentials config stored : Dictionary Value} :
    payload credentials config = .ok stored ↔
      Apart credentials config ∧ ∃ provider : Provider,
        providerOf (config.extend credentials) = .ok provider ∧
        provider.Accepts (config.extend credentials) ∧
        stored = (provider.tidied (config.extend credentials)).mapValues Value.normalize := by
  constructor
  · intro sent
    cases shared : credentials.keys.find? config.contains with
    | some key =>
        rw [payload, ofParts, shared] at sent
        cases sent
    | none =>
        have apart := apart_iff.mp shared
        rw [payload, ofParts_eq apart] at sent
        cases read : decode (config.extend credentials) with
        | error fault =>
            rw [read] at sent
            cases sent
        | ok configuration =>
            obtain ⟨provider, named, accepts, rfl⟩ := decode_eq_ok_iff.mp read
            rw [read] at sent
            have written : Except.ok stored = _ := sent.symm.trans (Provider.encode_reading accepts)
            exact ⟨apart, provider, named, accepts, Except.ok.inj written⟩
  · rintro ⟨apart, provider, named, accepts, rfl⟩
    have read := decode_eq_ok_iff.mpr ⟨provider, named, accepts, rfl⟩
    rw [payload, ofParts_eq apart, read]
    exact Provider.encode_reading accepts

/-! ## Objects out of documents -/

/-- An object of which every value is as it comes out of a document. -/
def Settled (flat : Dictionary Value) : Prop :=
  ∀ key value, flat.get? key = some value → Value.decode value.encode = value

/-- Nothing is left to normalize in what is tidied. -/
theorem Settled.tidied_normalize {flat : Dictionary Value} (settled : Settled flat)
    (provider : Provider) :
    (provider.tidied flat).mapValues Value.normalize = provider.tidied flat := by
  apply Dictionary.ext_get?
  intro key
  rw [Dictionary.get?_mapValues]
  cases found : (provider.tidied flat).get? key with
  | none => rfl
  | some value =>
      rw [Provider.tidied, Dictionary.get?_filter, Option.filter_eq_some_iff, Provider.canonical,
        Dictionary.get?_insert] at found
      obtain ⟨found, _⟩ := found
      split at found
      · obtain rfl := Option.some.inj found
        rfl
      · exact congrArg some ((Value.decode_encode value).symm.trans (settled key value found))

/-- **Flat objects come back.** An object is read exactly when it names a provider, in
whatever case, and each key that the provider knows accepts what is found there. What is read
is written as the tidied object, and that is read as the same configuration. Where what is
there fits but a required key is missing, the first one missing is reported. -/
theorem decode_lawful {flat : Dictionary Value} (settled : Settled flat) :
    ((∃ configuration, decode flat = .ok configuration) ↔
      ∃ (provider : Provider) (name : String), flat.get? providerKey = some (.text name) ∧
        Provider.sameLetters provider.name name = true ∧ provider.Accepts flat) ∧
    (∀ configuration, decode flat = .ok configuration →
      providerOf flat = .ok configuration.provider ∧
      configuration.encode = .ok (configuration.provider.tidied flat) ∧
      decode (configuration.provider.tidied flat) = .ok configuration) ∧
    (∀ (provider : Provider) (slot : Slot), providerOf flat = .ok provider →
      (∀ known ∈ provider.slots, ∀ value, flat.get? known.key = some value → known.Fits value) →
      firstMissing? flat.get? provider.slots = some slot →
      decode flat = .error (.missingField providerKey provider.name slot.key)) := by
  refine ⟨?_, ?_, ?_⟩
  · constructor
    · rintro ⟨configuration, read⟩
      obtain ⟨provider, named, accepts, _⟩ := decode_eq_ok_iff.mp read
      obtain ⟨name, isText, same⟩ := providerOf_eq_ok_iff.mp named
      exact ⟨provider, name, isText, same, accepts⟩
    · rintro ⟨provider, name, isText, same, accepts⟩
      have named := providerOf_eq_ok_iff.mpr ⟨name, isText, same⟩
      exact ⟨_, decode_eq_ok_iff.mpr ⟨provider, named, accepts, rfl⟩⟩
  · intro configuration read
    obtain ⟨provider, named, accepts, rfl⟩ := decode_eq_ok_iff.mp read
    have unchanged := settled.tidied_normalize provider
    refine ⟨named, ?_, ?_⟩
    · exact (Provider.encode_reading accepts).trans (congrArg Except.ok unchanged)
    · apply decode_blend accepts
      · exact providerOf_canonical (provider.get?_tidied_provider flat)
      · intro key _
        refine .inr ?_
        rw [← Dictionary.get?_mapValues, unchanged]
        rfl
  · intro provider slot named fits missing
    rw [decode_eq named, ofDictionary_of_fit (Provider.fit_canonical_iff.mpr fits),
      Provider.firstMissing?_canonical, missing]

/-- A provider in other letters, a known key that holds null and a key of other providers. -/
theorem decode_lawful_stripe :
    let flat : Dictionary Value := .ofList [("apiKey", .text "key"), ("endpoint", .bool true),
      ("name", .text "main"), ("pageSize", .null), ("provider", .text "sTRIPE")]
    Settled flat ∧ ∃ configuration, decode flat = .ok configuration ∧
      configuration.encode = .ok (.ofList [("apiKey", .text "key"), ("endpoint", .bool true),
        ("name", .text "main"), ("provider", .text "Stripe")]) := by
  intro flat
  have settled : Settled flat := by
    intro key value found
    have member := (Entries.find?_eq_some_iff flat.ordered.nodup).mp found
    have entries : flat.entries = [("apiKey", .text "key"), ("endpoint", .bool true),
      ("name", .text "main"), ("pageSize", .null), ("provider", .text "sTRIPE")] := rfl
    rw [entries] at member
    simp only [List.mem_cons, Prod.mk.injEq, List.not_mem_nil, or_false] at member
    rcases member with ⟨_, rfl⟩ | ⟨_, rfl⟩ | ⟨_, rfl⟩ | ⟨_, rfl⟩ | ⟨_, rfl⟩ <;> rfl
  have accepts : Provider.stripe.Accepts flat := by
    intro slot member
    have slots : Provider.stripe.slots =
      [⟨"apiKey", true, .text⟩, ⟨"name", true, .text⟩, ⟨"pageSize", false, .int⟩,
        ⟨"pollingPeriod", false, .text⟩] := rfl
    rw [slots] at member
    simp only [List.mem_cons, List.not_mem_nil, or_false] at member
    rcases member with rfl | rfl | rfl | rfl
    · exact .inl rfl
    · exact .inl rfl
    · exact .inr ⟨rfl, rfl⟩
    · rfl
  obtain ⟨readable, back, _⟩ := decode_lawful settled
  obtain ⟨configuration, read⟩ := readable.mpr ⟨.stripe, "sTRIPE", rfl, by decide, accepts⟩
  obtain ⟨named, encoded, _⟩ := back configuration read
  have isStripe : configuration.provider = .stripe := Except.ok.inj (named.symm.trans rfl)
  rw [isStripe] at encoded
  exact ⟨settled, configuration, read, encoded⟩

end Configuration

end Converge.Connector
