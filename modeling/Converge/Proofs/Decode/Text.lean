import Converge.Decode.Text
import Converge.Proofs.Decode.Members
import Converge.Proofs.Json.Reading

/-!
# Records in texts

A text that is an object has members: its keys as they are read, each with the value behind it. A
record is read of a text in one of two ways. Either the text is an object, and the fields are read
from the values under their names; what else the object has is passed over, whatever it is, because
a text that is read to its end breaks off nowhere. Or the text is a list, and the fields are read
in the order of their declaration.
-/

namespace Converge

/-- The text that a value is, where it can be read. -/
def Json.Reading.text? : Json.Reading → Option String
  | .string value => value.value.toOption.map String.ofList
  | _ => none

namespace Decode

open Json (Quoted Reading)

/-- The members of an object, where all of its keys can be read. -/
def named? : List (Quoted × Reading) → Option (List (String × Reading))
  | [] => some []
  | (key, reading) :: rest =>
    match key.value with
    | .ok characters => (named? rest).map ((String.ofList characters, reading) :: ·)
    | .error _ => none

/-- The members of a text that is an object, in the order of the text. -/
def members? (text : String) : Option (List (String × Reading)) :=
  match Json.Text.ofString text with
  | ⟨.object fields none, false⟩ => named? fields
  | _ => none

/-- A text that is a list. -/
def IsList (text : String) : Prop :=
  ∃ items, Json.Text.ofString text = ⟨.array items none, false⟩

theorem members?_eq_some_iff {text : String} {members : List (String × Reading)} :
    members? text = some members ↔ ∃ fields,
      Json.Text.ofString text = ⟨.object fields none, false⟩ ∧ named? fields = some members := by
  rw [members?]
  constructor
  · intro found
    split at found
    next fields read => exact ⟨fields, read, found⟩
    next => cases found
  · rintro ⟨fields, read, found⟩
    rw [read]
    exact found

theorem not_isList_of_members? {text : String} {members : List (String × Reading)}
    (isObject : members? text = some members) : ¬ IsList text := by
  rintro ⟨items, isList⟩
  obtain ⟨pairs, isText, -⟩ := members?_eq_some_iff.mp isObject
  rw [isList] at isText
  cases isText

namespace Cursor

variable {cursor : Cursor} {fields : List (Quoted × Reading)} {stop : Option Json.Fault}

/-- The members at a cursor do not break off where the object and all of its keys are read. -/
theorem members_stop_eq_none_iff :
    (cursor.members stop fields).stop = none ↔
      stop = none ∧ (named? fields).isSome = true := by
  induction fields with
  | nil => simp [members, named?]
  | cons field fields ih =>
      obtain ⟨key, reading⟩ := field
      rw [members, named?]
      cases key.value with
      | error fault => simp
      | ok characters => simp [ih]

theorem members_items {levels : Nat} {root : Reading} {named : List (String × Reading)}
    (read : named? fields = some named) :
    (members ⟨levels + 1, root⟩ stop fields).items =
      named.map fun member => (member.1, ⟨levels, member.2⟩) := by
  induction fields generalizing named with
  | nil =>
      cases read
      rfl
  | cons field fields ih =>
      obtain ⟨key, reading⟩ := field
      rw [named?] at read
      rw [members]
      cases isKey : key.value with
      | error fault =>
          rw [isKey] at read
          cases read
      | ok characters =>
          rw [isKey] at read
          obtain ⟨rest, isRest, rfl⟩ := Option.map_eq_some_iff.mp read
          dsimp only
          rw [ih isRest, List.map_cons, Nat.add_sub_cancel]

theorem mem_of_named? {named : List (String × Reading)} (read : named? fields = some named)
    {member : String × Reading} (isMember : member ∈ named) :
    ∃ field ∈ fields, field.2 = member.2 := by
  induction fields generalizing named with
  | nil =>
      cases read
      cases isMember
  | cons field fields ih =>
      obtain ⟨key, reading⟩ := field
      rw [named?] at read
      split at read
      next =>
        obtain ⟨rest, isRest, rfl⟩ := Option.map_eq_some_iff.mp read
        rcases List.mem_cons.mp isMember with rfl | later
        · exact ⟨_, List.mem_cons_self, rfl⟩
        · obtain ⟨found, isField, same⟩ := ih isRest later
          exact ⟨found, List.mem_cons_of_mem _ isField, same⟩
      next => cases read

theorem skip_eq_ok_iff : Source.skip cursor = .ok () ↔ cursor.reading.skipFault? = none := by
  simp only [Source.skip]
  cases cursor.reading.skipFault? <;> simp

theorem mismatch_ne_ok {α : Type} (expected : String) (reading : Reading) (value : α) :
    mismatch expected reading ≠ .ok value := by
  cases reading with
  | number numeral =>
      simp only [mismatch]
      cases numeral.number <;> exact nofun
  | string quoted =>
      simp only [mismatch]
      cases quoted.value <;> exact nofun
  | _ => exact nofun

theorem text_eq_ok_iff {expected text : String} :
    Source.text expected cursor = .ok text ↔ cursor.reading.text? = some text := by
  obtain ⟨levels, reading⟩ := cursor
  simp only [Source.text]
  cases reading with
  | string quoted =>
      simp only [Reading.text?]
      cases quoted.value with
      | error fault =>
          exact iff_of_false error_ne_ok (Option.some_ne_none text).symm
      | ok characters =>
          exact ⟨fun read => congrArg some (Except.ok.inj read),
            fun found => congrArg Except.ok (Option.some.inj found)⟩
  | _ => exact iff_of_false (mismatch_ne_ok _ _ _) (Option.some_ne_none text).symm

/-- Where the end of a list is found behind its items, the list has been read to its end. -/
theorem stop_of_overrun {items : List Reading} {count : Nat}
    (ends : overrun items stop count = none) : stop = none := by
  unfold overrun at ends
  split at ends
  next => cases ends
  next =>
    split at ends
    next => rfl
    all_goals cases ends

end Cursor

/-! ## Records -/

/-- Whatever a member of a text is, it can be passed over. -/
theorem skipFault?_of_members? {text : String} {members : List (String × Reading)}
    (isObject : members? text = some members) {member : String × Reading}
    (isMember : member ∈ members) : member.2.skipFault? = none := by
  obtain ⟨pairs, isText, named⟩ := members?_eq_some_iff.mp isObject
  obtain ⟨pair, isPair, same⟩ := Cursor.mem_of_named? named isMember
  have whole := Reading.skipFields?_eq_none_iff.mp (Reading.skipFields?_of_ofString isText)
  exact same ▸ (whole pair isPair).2

theorem finish_eq_ok_iff {α : Type} {run : Run α} : run.finish = .ok () ↔ run.stop = none := by
  rw [Run.finish]
  cases run.stop <;> simp

section Record

variable {α : Type} {expected : String} {fields : Fields Cursor α} {value : α}

/-- A record that is read of an object is read of all of its members. -/
theorem record_cursor_object_iff {levels : Nat} {pairs : List (Quoted × Reading)}
    {stop : Option Json.Fault} :
    record expected fields ⟨levels + 1, .object pairs stop⟩ = .ok value ↔
      stop = none ∧ ∃ members, named? pairs = some members ∧
        let items := members.map fun member => (member.1, Cursor.mk levels member.2)
        Fields.checkMembers fields.declared [] items = .ok () ∧
          fields.build (fun name => Entries.find? name items) .ofMember = .ok value := by
  have entered : Source.record expected (Cursor.mk (levels + 1) (.object pairs stop)) = .ok
      (.named (Cursor.members ⟨levels + 1, .object pairs stop⟩ stop pairs)) := rfl
  have ends : (Cursor.members ⟨levels + 1, .object pairs stop⟩ stop pairs).stop = none ↔
      stop = none ∧ (named? pairs).isSome = true := Cursor.members_stop_eq_none_iff
  have items {members : List (String × Reading)} (read : named? pairs = some members) :
      (Cursor.members ⟨levels + 1, .object pairs stop⟩ stop pairs).items =
        members.map fun member => (member.1, Cursor.mk levels member.2) :=
    Cursor.members_items read
  rw [record, entered]
  simp only [ok_bind]
  generalize Cursor.members ⟨levels + 1, .object pairs stop⟩ stop pairs = run at ends items ⊢
  constructor
  · intro read
    obtain ⟨_, checked, read⟩ := bind_eq_ok read
    obtain ⟨_, finished, built⟩ := bind_eq_ok read
    obtain ⟨rfl, readable⟩ := ends.mp (finish_eq_ok_iff.mp finished)
    obtain ⟨members, named⟩ := Option.isSome_iff_exists.mp readable
    rw [items named] at checked built
    exact ⟨rfl, members, named, checked, built⟩
  · rintro ⟨rfl, members, named, checked, built⟩
    have finished : run.finish = .ok () :=
      finish_eq_ok_iff.mpr (ends.mpr ⟨rfl, named ▸ rfl⟩)
    rw [items named, checked, ok_bind, finished, ok_bind]
    exact built

/-- What is read up to the end, ends there. -/
theorem end_of_read {built : Except Fault α} {ends : Option Fault}
    (read : (built >>= fun found =>
      match ends with
      | some fault => .error fault
      | none => .ok found) = .ok value) : ends = none := by
  obtain ⟨found, _, read⟩ := bind_eq_ok read
  cases ends with
  | none => rfl
  | some fault => cases read

/-- A record that is read of a list is read of a whole one. -/
theorem record_cursor_array {levels : Nat} {items : List Reading} {stop : Option Json.Fault}
    (read : record expected fields ⟨levels + 1, .array items stop⟩ = .ok value) : stop = none := by
  have entered : Source.record expected (Cursor.mk (levels + 1) (.array items stop)) = .ok
      (.positional (Cursor.items ⟨levels + 1, .array items stop⟩ items stop)
        (Cursor.overrun items stop)) := rfl
  rw [record, entered] at read
  simp only [ok_bind] at read
  obtain ⟨_, _, read⟩ := bind_eq_ok read
  have ends : Cursor.overrun items stop fields.declared.length = none := by
    split at read
    · obtain ⟨_, _, read⟩ := bind_eq_ok read
      exact end_of_read read
    · exact end_of_read read
  exact Cursor.stop_of_overrun ends

theorem record_cursor_other {cursor : Cursor}
    (noObject : ∀ pairs stop, cursor.reading ≠ .object pairs stop)
    (noList : ∀ items stop, cursor.reading ≠ .array items stop) :
    record expected fields cursor ≠ .ok value := by
  intro read
  obtain ⟨levels, reading⟩ := cursor
  obtain ⟨_, entered, _⟩ := bind_eq_ok read
  cases reading with
  | object pairs stop => exact noObject pairs stop rfl
  | array items stop => exact noList items stop rfl
  | _ => exact Cursor.mismatch_ne_ok _ _ _ entered

theorem ofText_eq_ok_iff {decode : Decoder Cursor α} {text : String} :
    ofText decode text = .ok value ↔
      decode ⟨Reading.nestingLimit, (Json.Text.ofString text).root⟩ = .ok value ∧
        (Json.Text.ofString text).trailing = false := by
  rw [ofText]
  generalize Json.Text.ofString text = read
  cases decode ⟨Reading.nestingLimit, read.root⟩ with
  | error fault => exact iff_of_false nofun fun read => nomatch read.1
  | ok found =>
      rw [ok_bind]
      cases read.trailing with
      | true => exact iff_of_false nofun fun read => nomatch read.2
      | false => exact (and_iff_left rfl).symm

/-- A record is read of a text that is an object, whatever else the object has, and of none but
those and lists. -/
theorem ofText_record_iff (names : (fields.declared.map Field.name).Nodup) {text : String}
    (noList : ¬ IsList text) :
    ofText (record expected fields) text = .ok value ↔
      ∃ members, members? text = some members ∧
        fields.ReadsFrom
          (fun name => (Entries.valuesOf name members).map (Cursor.mk (Reading.nestingLimit - 1)))
          .ofMember value := by
  have judged_iff (members : List (String × Reading)) :=
    Fields.checkMembers_and_build_iff names
      (members.map fun member => (member.1, Cursor.mk (Reading.nestingLimit - 1) member.2)) value
  simp only [Entries.valuesOf_map] at judged_iff
  rw [ofText_eq_ok_iff]
  constructor
  · rintro ⟨read, ends⟩
    rcases isText : Json.Text.ofString text with ⟨root, trailing⟩
    rw [isText] at read ends
    cases ends
    cases root with
    | object pairs stop =>
        obtain ⟨rfl, members, named, judged⟩ := record_cursor_object_iff.mp read
        exact ⟨members, members?_eq_some_iff.mpr ⟨pairs, isText, named⟩,
          ((judged_iff members).mp judged).2⟩
    | array items stop =>
        obtain rfl := record_cursor_array read
        exact absurd ⟨items, isText⟩ noList
    | _ => exact absurd read (record_cursor_other nofun nofun)
  · rintro ⟨members, isObject, reads⟩
    obtain ⟨pairs, isText, named⟩ := members?_eq_some_iff.mp isObject
    rw [isText]
    refine ⟨record_cursor_object_iff.mpr ⟨rfl, members, named, ?_⟩, rfl⟩
    refine (judged_iff members).mpr ⟨?_, reads⟩
    rintro _ isItem _
    obtain ⟨member, isMember, rfl⟩ := List.mem_map.mp isItem
    exact Cursor.skip_eq_ok_iff.mpr (skipFault?_of_members? isObject isMember)

end Record

end Decode

end Converge
