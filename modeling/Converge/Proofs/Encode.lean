import Converge.Encode
import Converge.Proofs.Dictionary

/-!
# Types that always have a document

`Writes` says that an encoder never refuses, and which document it gives. There is a rule for
each way of putting encoders together, so that the proof for a type follows its fields. The only
refusal is that of a key, and texts as keys stand for themselves.
-/

namespace Converge.Encode

variable {α : Type} {encode : Encoder α} {document : α → Json}

/-- Every value has a document, which is the given one. -/
def Writes (encode : Encoder α) (document : α → Json) : Prop :=
  ∀ value, encode value = .ok (document value)

theorem text_writes : Writes text .string := fun _ => rfl

theorem int64_writes : Writes int64 .ofInt64 := fun _ => rfl

theorem dynamic_writes : Writes dynamic Value.encode := fun _ => rfl

theorem mapM_ok {β : Type} {write : α → Except Fault β} {written : α → β}
    (writes : ∀ value, write value = .ok (written value)) (values : List α) :
    values.mapM write = .ok (values.map written) := by
  have pure_write : write = fun value => pure (written value) := funext writes
  rw [pure_write, List.mapM_pure]
  rfl

theorem Writes.list (writes : Writes encode document) :
    Writes (list encode) fun values => .array (values.map document) := by
  intro values
  rw [Encode.list, mapM_ok writes]
  rfl

theorem Writes.entries (writes : Writes encode document) (map : List (String × α)) :
    entries text encode map = .ok (map.map fun entry => (entry.1, document entry.2)) := by
  apply mapM_ok
  intro entry
  rw [writes]
  rfl

theorem Writes.dictionary (writes : Writes encode document) :
    Writes (dictionary encode) fun values => .ofDictionary (values.mapValues document) := by
  intro values
  have inOrder : Entries.ofList (values.mapValues document).entries =
      (values.mapValues document).entries :=
    Entries.ofList_of_ordered (values.mapValues document).ordered
  rw [Encode.dictionary, writes.entries]
  exact congrArg (Except.ok ∘ Json.object) inOrder

theorem Writes.field (writes : Writes encode document) (name : String) (value : α) :
    field name encode value = .ok [(name, document value)] := by
  rw [Encode.field, writes]
  rfl

theorem Writes.optional (writes : Writes encode document) (name : String) (value : Option α) :
    optional name encode value = .ok (Json.member name (value.map document)) := by
  cases value with
  | none => rfl
  | some value => exact writes.field name value

theorem omitIf_ok (condition : Bool) (members : List (String × Json)) :
    omitIf condition (.ok members) = .ok (if condition then [] else members) := by
  cases condition <;> rfl

theorem together_ok (groups : List (List (String × Json))) :
    together (groups.map .ok) = .ok groups.flatten := by
  induction groups with
  | nil => rfl
  | cons members rest ih =>
      rw [List.map_cons, together, ih]
      rfl

theorem record_ok (groups : List (List (String × Json))) :
    record (groups.map .ok) = .ok (.ofEntries groups.flatten) := by
  rw [record, together_ok]
  rfl

end Converge.Encode
