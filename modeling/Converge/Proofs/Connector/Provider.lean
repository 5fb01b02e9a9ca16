import Converge.Proofs.Connector.Placeholder

/-!
# What a provider knows

A provider is named by its spelling up to case, and it accepts a flat object when each of its
keys accepts what is found there. Of an object that it accepts it takes the texts and the
integers under its keys and anything under the others; that is also what is left once the
keys that hold null are tidied away.
-/

namespace Converge.Connector

open Decode

/-! ## The provider that is named -/

theorem Provider.eq_of_sameLetters {first second : Provider} {text : String}
    (isFirst : sameLetters first.name text = true)
    (isSecond : sameLetters second.name text = true) :
    first = second := by
  rw [sameLetters, beq_iff_eq] at isFirst isSecond
  have same := isFirst.trans isSecond.symm
  revert same
  cases first <;> cases second <;> decide

theorem Provider.ofName?_eq_some_iff {text : String} {provider : Provider} :
    ofName? text = some provider ↔ sameLetters provider.name text = true := by
  have named : ∀ one, ofName? text = some one → sameLetters one.name text = true := by
    intro one found
    rw [ofName?] at found
    simpa using List.find?_some found
  constructor
  · exact named provider
  · intro isNamed
    cases found : ofName? text with
    | some other => exact congrArg some (eq_of_sameLetters (named other found) isNamed)
    | none =>
        have isOne : provider ∈ all := by cases provider <;> decide
        exact absurd isNamed (List.find?_eq_none.mp found provider isOne)

@[simp] theorem Provider.sameLetters_name (provider : Provider) :
    sameLetters provider.name provider.name = true := by
  rw [sameLetters, beq_iff_eq]

theorem Provider.slot_ne_provider (provider : Provider) :
    ∀ slot ∈ provider.slots, slot.key ≠ providerKey := by
  cases provider <;> decide

/-- Every known key accepts what is found there. -/
def Provider.Accepts (provider : Provider) (flat : Dictionary Value) : Prop :=
  ∀ slot ∈ provider.slots, slot.Accepts (flat.get? slot.key)

/-- The flat object with the provider in its canonical spelling. -/
def Provider.canonical (provider : Provider) (flat : Dictionary Value) : Dictionary Value :=
  flat.insert providerKey (.text provider.name)

theorem Provider.get?_canonical_slot {provider : Provider} {slot : Slot}
    (member : slot ∈ provider.slots) (flat : Dictionary Value) :
    (provider.canonical flat).get? slot.key = flat.get? slot.key := by
  rw [canonical, Dictionary.get?_insert, if_neg (provider.slot_ne_provider slot member).symm]

theorem Provider.fit_canonical_iff {provider : Provider} {flat : Dictionary Value} :
    provider.Fit (provider.canonical flat).get? ↔
      ∀ slot ∈ provider.slots, ∀ value, flat.get? slot.key = some value → slot.Fits value := by
  have spelled : ∀ value, (provider.canonical flat).get? providerKey = some value →
      value.kind = .text ∨ value = .null := by
    intro value found
    rw [canonical, Dictionary.get?_insert_self, Option.some.injEq] at found
    exact .inl (found ▸ rfl)
  rw [fit_iff, and_iff_left spelled]
  constructor
  · intro fits slot member value found
    exact fits slot member value ((get?_canonical_slot member flat).trans found)
  · intro fits slot member value found
    exact fits slot member value ((get?_canonical_slot member flat).symm.trans found)

theorem Provider.firstMissing?_canonical (provider : Provider) (flat : Dictionary Value) :
    firstMissing? (provider.canonical flat).get? provider.slots =
      firstMissing? flat.get? provider.slots := by
  apply firstMissing?_congr
  intro slot member
  exact get?_canonical_slot member flat

theorem Provider.accepts_iff {provider : Provider} {flat : Dictionary Value} :
    provider.Accepts flat ↔
      provider.Fit (provider.canonical flat).get? ∧
        firstMissing? (provider.canonical flat).get? provider.slots = none := by
  rw [fit_canonical_iff, firstMissing?_canonical, firstMissing?_eq_none_iff]
  constructor
  · intro accepts
    constructor
    · intro slot member value found
      have accepted := accepts slot member
      rw [found] at accepted
      exact accepted
    · intro slot member absent
      have accepted := accepts slot member
      rw [absent] at accepted
      exact accepted
  · rintro ⟨fits, present⟩ slot member
    cases found : flat.get? slot.key with
    | none => exact present slot member found
    | some value => exact fits slot member value found

/-! ## What is tidied away -/

/-- The flat object in its canonical spelling, without the optional keys that hold null. -/
def Provider.tidied (provider : Provider) (flat : Dictionary Value) : Dictionary Value :=
  (provider.canonical flat).filter fun key value =>
    !(value.isNull && provider.slots.any fun slot => slot.key == key && !slot.isRequired)

/-- What a slot takes: a text, an integer or, where it is optional, null. -/
theorem Provider.fits_cases {provider : Provider} {slot : Slot} (member : slot ∈ provider.slots)
    {value : Value} (fits : slot.Fits value) :
    (∃ found, value = .text found ∧ slot.kind = .text) ∨
      (∃ number, value = .int number ∧ slot.kind = .int) ∨
      (value = .null ∧ slot.isRequired = false) := by
  have kinds : slot.kind = .text ∨ slot.kind = .int := by
    rcases List.mem_append.mp member with own | shared
    · obtain ⟨detail, _, rfl⟩ := List.mem_map.mp own
      exact .inl rfl
    · simp only [Common.slots, List.mem_cons, List.not_mem_nil, or_false] at shared
      rcases shared with rfl | rfl | rfl <;> simp
  rcases fits with isKind | ⟨optional, isNull⟩
  · rcases kinds with isText | isInt
    · cases value with
      | text found => exact .inl ⟨found, rfl, isText⟩
      | _ =>
          have same := isKind.trans isText
          cases same
    · cases value with
      | int number => exact .inr (.inl ⟨number, rfl, isInt⟩)
      | _ =>
          have same := isKind.trans isInt
          cases same
  · exact .inr (.inr ⟨isNull, optional⟩)

theorem Provider.fits_canonical {provider : Provider} {flat : Dictionary Value}
    (accepts : provider.Accepts flat) {slot : Slot} (member : slot ∈ provider.slots)
    {value : Value} (found : (provider.canonical flat).get? slot.key = some value) :
    slot.Fits value := by
  have accepted := accepts slot member
  rwa [← get?_canonical_slot member, found] at accepted

theorem Provider.get?_tidied_slot {provider : Provider} {flat : Dictionary Value}
    (accepts : provider.Accepts flat) {slot : Slot} (member : slot ∈ provider.slots) :
    (provider.tidied flat).get? slot.key =
      ((provider.canonical flat).get? slot.key).filter fun value => !value.isNull := by
  rw [tidied, Dictionary.get?_filter]
  cases found : (provider.canonical flat).get? slot.key with
  | none => rfl
  | some value =>
      rcases fits_cases member (fits_canonical accepts member found) with
        ⟨_, rfl, _⟩ | ⟨_, rfl, _⟩ | ⟨rfl, optional⟩
      · rfl
      · rfl
      · have listed : (provider.slots.any fun other =>
            other.key == slot.key && !other.isRequired) = true :=
          List.any_eq_true.mpr ⟨slot, member, by simp [optional]⟩
        rw [listed]
        rfl

theorem Provider.get?_tidied_other {provider : Provider} (flat : Dictionary Value) {key : String}
    (other : ∀ slot ∈ provider.slots, slot.key ≠ key) :
    (provider.tidied flat).get? key = (provider.canonical flat).get? key := by
  have unlisted : (provider.slots.any fun slot => slot.key == key && !slot.isRequired) =
      false := by
    rw [List.any_eq_false]
    intro slot member
    simp [other slot member]
  rw [tidied, Dictionary.get?_filter, unlisted]
  cases (provider.canonical flat).get? key with
  | none => rfl
  | some value => simp [Option.filter]

theorem Provider.get?_tidied_provider (provider : Provider) (flat : Dictionary Value) :
    (provider.tidied flat).get? providerKey = some (.text provider.name) := by
  rw [get?_tidied_other flat provider.slot_ne_provider]
  exact Dictionary.get?_insert_self _ _ _

/-- What a slot accepts it accepts as written, where null is not. -/
theorem Provider.accepts_written {provider : Provider} {slot : Slot}
    (member : slot ∈ provider.slots) {found : Option Value} (accepted : slot.Accepts found) :
    slot.Accepts ((found.filter fun value => !value.isNull).map Value.normalize) := by
  cases found with
  | none => exact accepted
  | some value =>
      rcases fits_cases member accepted with ⟨_, rfl, _⟩ | ⟨_, rfl, _⟩ | ⟨rfl, optional⟩
      · exact accepted
      · exact accepted
      · exact optional

/-! ## What a provider takes -/

theorem Provider.knows_iff {provider : Provider} {key : String} :
    provider.knows key = true ↔
      key ∈ provider.details.map Detail.key ∨ key ∈ Common.keys := by
  rw [knows, List.contains_iff_mem, List.mem_append]

theorem Provider.knows_slot {provider : Provider} {slot : Slot}
    (member : slot ∈ provider.slots) : provider.knows slot.key = true := by
  rw [knows_iff]
  rcases List.mem_append.mp member with own | shared
  · obtain ⟨detail, isDetail, rfl⟩ := List.mem_map.mp own
    exact .inl (List.mem_map_of_mem isDetail)
  · simp only [Common.slots, List.mem_cons, List.not_mem_nil, or_false] at shared
    rcases shared with rfl | rfl | rfl <;> simp [Common.keys]

theorem Provider.common_slot (provider : Provider) {slot : Slot} (member : slot ∈ Common.slots) :
    slot ∈ provider.slots := List.mem_append_right _ member

/-- A known key is that of a slot or names the provider. -/
theorem Provider.slot_or_provider {provider : Provider} {key : String}
    (known : provider.knows key = true) :
    (∃ slot ∈ provider.slots, slot.key = key) ∨ key = providerKey := by
  rcases knows_iff.mp known with own | shared
  · obtain ⟨detail, member, rfl⟩ := List.mem_map.mp own
    exact .inl ⟨detail.slot, List.mem_append_left _ (List.mem_map_of_mem member), rfl⟩
  · simp only [Common.keys, List.mem_cons, List.not_mem_nil, or_false] at shared
    rcases shared with rfl | rfl | rfl | rfl
    · exact .inl ⟨⟨"name", true, .text⟩, provider.common_slot (.head _), rfl⟩
    · exact .inl ⟨⟨"pageSize", false, .int⟩, provider.common_slot (.tail _ (.head _)), rfl⟩
    · exact .inl ⟨⟨"pollingPeriod", false, .text⟩,
        provider.common_slot (.tail _ (.tail _ (.head _))), rfl⟩
    · exact .inr rfl

/-- What a provider takes of what is found under a key: a text or an integer under a known
key, and anything in normal form under another. -/
def Provider.taken (provider : Provider) (key : String) (found : Option Value) : Option Value :=
  if provider.knows key then
    found.filter fun value => value.kind = .text || value.kind = .int
  else found.map Value.normalize

theorem Provider.taken_taken (provider : Provider) (key : String) (found : Option Value) :
    provider.taken key (provider.taken key found) = provider.taken key found := by
  rw [taken, taken]
  split
  · cases found with
    | none => rfl
    | some value => cases value <;> rfl
  · cases found with
    | none => rfl
    | some value => exact congrArg some (Value.normalize_normalize value)

theorem Provider.bind_asText?_taken {provider : Provider} {key : String}
    (known : provider.knows key = true) (found : Option Value) :
    (provider.taken key found).bind Value.asText? = found.bind Value.asText? := by
  rw [taken, if_pos known]
  cases found with
  | none => rfl
  | some value => cases value <;> rfl

theorem Provider.bind_asInt64?_taken {provider : Provider} {key : String}
    (known : provider.knows key = true) (found : Option Value) :
    (provider.taken key found).bind Value.asInt64? = found.bind Value.asInt64? := by
  rw [taken, if_pos known]
  cases found with
  | none => rfl
  | some value => cases value <;> rfl

/-- Under a key of texts the text is taken. -/
theorem Provider.taken_text {provider : Provider} {flat : Dictionary Value}
    (accepts : provider.Accepts flat) {slot : Slot} (member : slot ∈ provider.slots)
    (isText : slot.kind = .text) :
    provider.taken slot.key ((provider.canonical flat).get? slot.key) =
      (((provider.canonical flat).get? slot.key).bind Value.asText?).map Value.text := by
  rw [taken, if_pos (knows_slot member)]
  cases found : (provider.canonical flat).get? slot.key with
  | none => rfl
  | some value =>
      rcases fits_cases member (fits_canonical accepts member found) with
        ⟨_, rfl, _⟩ | ⟨_, rfl, isInt⟩ | ⟨rfl, _⟩
      · rfl
      · exact nomatch isText.symm.trans isInt
      · rfl

/-- Under a key of integers the integer is taken. -/
theorem Provider.taken_int {provider : Provider} {flat : Dictionary Value}
    (accepts : provider.Accepts flat) {slot : Slot} (member : slot ∈ provider.slots)
    (isInt : slot.kind = .int) :
    provider.taken slot.key ((provider.canonical flat).get? slot.key) =
      (((provider.canonical flat).get? slot.key).bind Value.asInt64?).map Value.int := by
  rw [taken, if_pos (knows_slot member)]
  cases found : (provider.canonical flat).get? slot.key with
  | none => rfl
  | some value =>
      rcases fits_cases member (fits_canonical accepts member found) with
        ⟨_, rfl, isText⟩ | ⟨_, rfl, _⟩ | ⟨rfl, _⟩
      · exact nomatch isText.symm.trans isInt
      · rfl
      · rfl

/-- What is left of an object is what the provider takes of it. -/
theorem Provider.get?_tidied {provider : Provider} {flat : Dictionary Value}
    (accepts : provider.Accepts flat) (key : String) :
    ((provider.tidied flat).get? key).map Value.normalize =
      provider.taken key ((provider.canonical flat).get? key) := by
  by_cases known : provider.knows key = true
  · rcases slot_or_provider known with ⟨slot, member, rfl⟩ | rfl
    · rw [get?_tidied_slot accepts member, taken, if_pos known]
      cases found : (provider.canonical flat).get? slot.key with
      | none => rfl
      | some value =>
          rcases fits_cases member (fits_canonical accepts member found) with
            ⟨_, rfl, _⟩ | ⟨_, rfl, _⟩ | ⟨rfl, _⟩ <;> rfl
    · rw [get?_tidied_provider, taken, if_pos known, canonical, Dictionary.get?_insert_self]
      rfl
  · have other : ∀ slot ∈ provider.slots, slot.key ≠ key := fun slot member isKey =>
      known (isKey ▸ knows_slot member)
    rw [get?_tidied_other flat other, taken, if_neg known]

theorem Provider.details_not_common (provider : Provider) :
    ∀ detail ∈ provider.details, detail.key ∉ Common.keys := by
  cases provider <;> decide

/-- The name is there, and it is a text. -/
theorem Provider.name_of_accepts {provider : Provider} {flat : Dictionary Value}
    (accepts : provider.Accepts flat) :
    ∃ name, (provider.canonical flat).get? "name" = some (.text name) := by
  have isSlot : ⟨"name", true, .text⟩ ∈ provider.slots := provider.common_slot (.head _)
  have accepted := accepts _ isSlot
  rw [← get?_canonical_slot isSlot] at accepted
  cases found : (provider.canonical flat).get? "name" with
  | none =>
      rw [found] at accepted
      cases accepted
  | some value =>
      rw [found] at accepted
      rcases accepted with isText | ⟨optional, _⟩
      · cases value with
        | text name => exact ⟨name, rfl⟩
        | _ => cases isText
      · cases optional

end Converge.Connector
