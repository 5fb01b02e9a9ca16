import Converge.Proofs.Connector.Reading

/-!
# Placeholders

A flat object is judged by its placeholders first. They keep the kind of every value, and
that is all the keys of a provider ask for, so the judgement settles whether the object
itself can be read: what passes it is read, and the second reading reports nothing.
-/

namespace Converge.Connector

open Decode

variable {given : String → Option Value}

/-! ## Kinds -/

theorem kind_placeholder (value : Value) : (placeholder value).kind = value.kind := by
  cases value <;> rfl

theorem placeholder_eq_null_iff {value : Value} : placeholder value = .null ↔ value = .null := by
  cases value <;> simp [placeholder]

/-- A placeholder for a float is finite, so no placeholder is lost in writing. -/
theorem placeholder_written (value : Value) : (placeholder value).Written := by
  intro isNull
  rw [placeholder_eq_null_iff]
  cases value with
  | null => rfl
  | float number =>
      have finite : Json.ofBinary64 ⟨0x3FE0000000000000⟩ =
          .number (.real ⟨0x3FE0000000000000⟩) := by rfl
      rw [placeholder, Value.encode, finite] at isNull
      cases isNull
  | _ => cases isNull

theorem placeholderFields_eq (flat : Dictionary Value) :
    placeholderFields flat.entries = (flat.mapValues placeholder).entries := by
  rw [Dictionary.entries_mapValues]
  induction flat.entries with
  | nil => rfl
  | cons field fields ih => rw [placeholderFields, ih, List.map_cons]

/-- Whether a value may be given for a known key shows in its placeholder. -/
theorem fit_placeholder_iff {provider : Provider} :
    provider.Fit (fun key => (given key).map placeholder) ↔ provider.Fit given := by
  have shown : ∀ {key : String} {Judged : Value → Prop},
      (∀ value, Judged (placeholder value) ↔ Judged value) →
      ((∀ value, (given key).map placeholder = some value → Judged value) ↔
        ∀ value, given key = some value → Judged value) := by
    intro key Judged same
    cases given key with
    | none => simp
    | some value => simp [same]
  have fits : ∀ slot : Slot, ∀ value, slot.Fits (placeholder value) ↔ slot.Fits value := by
    intro slot value
    rw [Slot.Fits, Slot.Fits, kind_placeholder, placeholder_eq_null_iff]
  rw [Provider.fit_iff, Provider.fit_iff]
  constructor
  · rintro ⟨slots, isProvider⟩
    refine ⟨fun slot member => (shown (fits slot)).mp (slots slot member), ?_⟩
    exact (shown fun value => by rw [kind_placeholder, placeholder_eq_null_iff]).mp isProvider
  · rintro ⟨slots, isProvider⟩
    refine ⟨fun slot member => (shown (fits slot)).mpr (slots slot member), ?_⟩
    exact (shown fun value => by rw [kind_placeholder, placeholder_eq_null_iff]).mpr isProvider

theorem firstMissing?_placeholder (slots : List Slot) :
    firstMissing? (fun key => (given key).map placeholder) slots =
      firstMissing? given slots := by
  simp [firstMissing?]

/-! ## Reading a provider's flat object -/

namespace Configuration

theorem get?_placeholders (flat : Dictionary Value) :
    (flat.mapValues placeholder).get? = fun key => (flat.get? key).map placeholder := by
  funext key
  exact Dictionary.get?_mapValues placeholder flat key

/-- Where the placeholders are read, the known keys fit and none is missing. -/
theorem fit_of_placeholders {provider : Provider} {flat : Dictionary Value}
    {configuration : Configuration}
    (read : ofMembers provider (Value.encodeFields (placeholderFields flat.entries)) =
      .ok configuration) :
    provider.Fit flat.get? ∧ firstMissing? flat.get? provider.slots = none := by
  rw [placeholderFields_eq] at read
  have written : ∀ key value, (flat.mapValues placeholder).get? key = some value →
      value.Written := by
    intro key value found
    rw [Dictionary.get?_mapValues, Option.map_eq_some_iff] at found
    obtain ⟨original, _, rfl⟩ := found
    exact placeholder_written original
  obtain ⟨fit, missing⟩ := fit_of_ofMembers written read
  rw [get?_placeholders, fit_placeholder_iff] at fit
  rw [get?_placeholders, firstMissing?_placeholder] at missing
  exact ⟨fit, missing⟩

/-- Where the placeholders are read, the values themselves are. -/
theorem ofMembers_of_placeholders {provider : Provider} {flat : Dictionary Value}
    {configuration : Configuration}
    (read : ofMembers provider (Value.encodeFields (placeholderFields flat.entries)) =
      .ok configuration) :
    ofMembers provider (Value.encodeFields flat.entries) = .ok (provider.reading flat) := by
  obtain ⟨fit, missing⟩ := fit_of_placeholders read
  rw [ofMembers_eq fit, missing]

/-- A flat object of which the known keys fit is read unless a required one is missing. -/
theorem ofDictionary_of_fit {provider : Provider} {flat : Dictionary Value}
    (fit : provider.Fit flat.get?) :
    ofDictionary provider flat =
      match firstMissing? flat.get? provider.slots with
      | some slot => .error (.missingField providerKey provider.name slot.key)
      | none => .ok (provider.reading flat) := by
  have shapesFit : provider.Fit (flat.mapValues placeholder).get? := by
    rwa [get?_placeholders, fit_placeholder_iff]
  have placeholders := ofMembers_eq shapesFit
  rw [get?_placeholders, firstMissing?_placeholder, ← placeholderFields_eq] at placeholders
  rw [ofDictionary, placeholders, ofMembers_eq fit]
  cases firstMissing? flat.get? provider.slots <;> rfl

theorem fit_of_ofDictionary {provider : Provider} {flat : Dictionary Value}
    {configuration : Configuration} (read : ofDictionary provider flat = .ok configuration) :
    provider.Fit flat.get? ∧ firstMissing? flat.get? provider.slots = none := by
  rw [ofDictionary] at read
  split at read
  · cases read
  · rename_i placeholders
    exact fit_of_placeholders placeholders

end Configuration

end Converge.Connector
