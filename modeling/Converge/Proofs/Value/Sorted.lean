import Converge.Json.Reading
import Converge.Proofs.Decode

/-!
# Values whose maps are in key order

The maps of a value list their entries in key order, each key once, at every depth. Values that
are read from a JSON text are of this kind, whatever the order and the repetitions of the text,
and so are the values that a type takes out of a document.
-/

namespace Converge

open Decode

namespace Value

mutual

/-- At every depth the entries of maps come in key order, each key once. -/
def Sorted : Value → Prop
  | .list items => SortedItems items
  | .map fields => Entries.Ordered fields ∧ SortedFields fields
  | _ => True

def SortedItems : List Value → Prop
  | [] => True
  | item :: items => Sorted item ∧ SortedItems items

def SortedFields : List (String × Value) → Prop
  | [] => True
  | (_, value) :: fields => Sorted value ∧ SortedFields fields

end

theorem sortedFields_iff {fields : List (String × Value)} :
    SortedFields fields ↔ ∀ field ∈ fields, field.2.Sorted := by
  induction fields with
  | nil => simp [SortedFields]
  | cons field fields ih => rw [SortedFields, ih, List.forall_mem_cons]

theorem sorted_ofBinary64 (number : Binary64) : (ofBinary64 number).Sorted := by
  rw [ofBinary64]
  split <;> trivial

end Value

/-! ## Documents -/

namespace Json

/-- The value of the document has its maps in key order. -/
def Sorted (document : Json) : Prop := (Value.decode document).Sorted

theorem sorted_number (number : Number) : (Json.number number).Sorted := by
  change (Value.ofNumber number).Sorted
  cases number with
  | natural value =>
      rw [Value.ofNumber]
      split
      · trivial
      · exact Value.sorted_ofBinary64 _
  | negative value => trivial
  | real value => exact Value.sorted_ofBinary64 value

theorem sorted_array_iff {items : List Json} :
    (Json.array items).Sorted ↔ ∀ item ∈ items, item.Sorted := by
  rw [Sorted, Value.decode, Value.Sorted]
  induction items with
  | nil => simp [Value.decodeItems, Value.SortedItems]
  | cons item items ih =>
      rw [Value.decodeItems, Value.SortedItems, ih, List.forall_mem_cons, Sorted]

theorem sorted_object_iff {fields : List (String × Json)} :
    (Json.object fields).Sorted ↔
      Entries.Ordered fields ∧ ∀ field ∈ fields, field.2.Sorted := by
  rw [Sorted, Value.decode, Value.Sorted, Value.decodeFields_eq_map, Value.sortedFields_iff,
    List.forall_mem_map, Entries.Ordered, List.pairwise_map]
  rfl

/-- An object of members whose values are sorted is sorted. -/
theorem sorted_ofEntries {entries : List (String × Json)}
    (sorted : ∀ entry ∈ entries, entry.2.Sorted) : (ofEntries entries).Sorted := by
  refine sorted_object_iff.mpr ⟨Entries.ordered_ofList entries, ?_⟩
  intro field member
  have lookup := (Entries.find?_eq_some_iff (Entries.ordered_ofList entries).nodup).mpr member
  exact sorted field (Entries.mem_of_find?_ofList lookup)

/-- What is right inside a sorted document is sorted. -/
theorem sorted_of_inside {document : Json} (sorted : document.Sorted) :
    ∀ source ∈ inside document, source.Sorted := by
  cases document with
  | object fields => exact List.forall_mem_map.mpr (sorted_object_iff.mp sorted).2
  | array items => exact sorted_array_iff.mp sorted
  | _ => exact nofun

/-! ## Documents that are read from a text -/

theorem ok_of_orStop {α : Type} {stop : Option Json.Fault} {result found : α}
    (done : Reading.orStop stop result = .ok found) : result = found := by
  cases stop with
  | none => exact Except.ok.inj done
  | some fault => cases done

mutual

/-- What is read from a piece of text is sorted. -/
theorem sorted_of_document {levels : Nat} : {reading : Reading} → {found : Json} →
    reading.document levels = .ok found → found.Sorted
  | .null, _, read => by
      cases read
      trivial
  | .bool _, _, read => by
      cases read
      trivial
  | .number _, _, read => by
      rw [Reading.document] at read
      obtain ⟨number, _, rfl⟩ := map_eq_ok read
      exact sorted_number number
  | .string _, _, read => by
      rw [Reading.document] at read
      obtain ⟨characters, _, rfl⟩ := map_eq_ok read
      trivial
  | .array items _, _, read => by
      rw [Reading.document] at read
      split at read
      · cases read
      obtain ⟨documents, parts, read⟩ := bind_eq_ok read
      cases ok_of_orStop read
      exact sorted_array_iff.mpr (sorted_of_documentItems parts)
  | .object fields _, _, read => by
      rw [Reading.document] at read
      split at read
      · cases read
      obtain ⟨entries, parts, read⟩ := bind_eq_ok read
      cases ok_of_orStop read
      exact sorted_ofEntries (sorted_of_documentFields parts)
  | .broken _, _, read => by cases read

theorem sorted_of_documentItems {levels : Nat} : {readings : List Reading} →
    {found : List Json} → Reading.documentItems levels readings = .ok found →
      ∀ item ∈ found, item.Sorted
  | [], _, read => by
      cases read
      exact nofun
  | reading :: _, _, read => by
      rw [Reading.documentItems] at read
      obtain ⟨item, first, read⟩ := bind_eq_ok read
      obtain ⟨items, rest, read⟩ := bind_eq_ok read
      cases read
      exact List.forall_mem_cons.mpr ⟨sorted_of_document first, sorted_of_documentItems rest⟩

theorem sorted_of_documentFields {levels : Nat} : {readings : List (Quoted × Reading)} →
    {found : List (String × Json)} → Reading.documentFields levels readings = .ok found →
      ∀ entry ∈ found, entry.2.Sorted
  | [], _, read => by
      cases read
      exact nofun
  | (_, reading) :: _, _, read => by
      rw [Reading.documentFields] at read
      obtain ⟨key, _, read⟩ := bind_eq_ok read
      obtain ⟨value, first, read⟩ := bind_eq_ok read
      obtain ⟨entries, rest, read⟩ := bind_eq_ok read
      cases read
      exact List.forall_mem_cons.mpr ⟨sorted_of_document first, sorted_of_documentFields rest⟩

end

/-- The document of a text is sorted. -/
theorem sorted_of_parse {text : String} {document : Json} (read : parse text = .ok document) :
    document.Sorted := by
  rw [parse] at read
  obtain ⟨found, root, read⟩ := bind_eq_ok read
  split at read
  · cases read
  · cases read
    exact sorted_of_document root

end Json

/-! ## Values that are taken out of a document -/

/-- An optional value is sorted where the document is that it is taken out of. -/
theorem Decode.Fields.Yields.sortedValue {α : Type} {name : String} {holds : α → Prop}
    {fields : Fields Json (Option Value → α)}
    (yields : fields.Yields Json.Sorted fun make =>
      ∀ found, (∀ value, found = some value → value.Sorted) → holds (make found)) :
    (fields.optional name dynamic).Yields Json.Sorted holds := by
  refine yields.defaulted ?_ nofun
  rintro source _ sorted read value rfl
  by_cases isNull : source = .null
  · rw [isNull] at read
    cases read
  · rw [optional_of_ne_null _ isNull] at read
    cases read
    exact sorted

end Converge
