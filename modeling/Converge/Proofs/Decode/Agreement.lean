import Converge.Proofs.Decode
import Mathlib.Data.List.Forall2

/-!
# Reading two documents side by side

Two readings agree when both succeed, with related values, or both fail. They fail for one
reason, unless the reasons are told apart by what the reader may not keep from showing. Records
agree field by field: what is asked of a field is asked once, where it is declared, and holds
of every two documents that give related things for each field, by name or by place.
-/

namespace Converge.Decode

variable {α β : Type}

/-- Both readings succeed, with related values, or both fail. -/
inductive Agree (apart : Fault → Fault → Prop) (values : α → α → Prop) :
    Except Fault α → Except Fault α → Prop where
  | ok {left right : α} (related : values left right) : Agree apart values (.ok left) (.ok right)
  | fault (fault : Fault) : Agree apart values (.error fault) (.error fault)
  | apart {left right : Fault} (differ : apart left right) :
      Agree apart values (.error left) (.error right)

namespace Agree

variable {apart : Fault → Fault → Prop} {values : α → α → Prop} {others : β → β → Prop}

theorem refl (same : ∀ value, values value value) (result : Except Fault α) :
    Agree apart values result result := by
  cases result with
  | error fault => exact .fault fault
  | ok value => exact .ok (same value)

theorem mono {first second : Except Fault α} (agree : Agree apart values first second)
    {weaker : α → α → Prop} (weaken : ∀ left right, values left right → weaker left right) :
    Agree apart weaker first second := by
  cases agree with
  | ok related => exact .ok (weaken _ _ related)
  | fault fault => exact .fault fault
  | apart differ => exact .apart differ

theorem map {first second : Except Fault α} (agree : Agree apart values first second)
    {change alter : α → β}
    (related : ∀ left right, values left right → others (change left) (alter right)) :
    Agree apart others (first.map change) (second.map alter) := by
  cases agree with
  | ok same => exact .ok (related _ _ same)
  | fault fault => exact .fault fault
  | apart differ => exact .apart differ

theorem bind {first second : Except Fault α} (agree : Agree apart values first second)
    {next follow : α → Except Fault β}
    (related : ∀ left right, values left right → Agree apart others (next left) (follow right)) :
    Agree apart others (first >>= next) (second >>= follow) := by
  cases agree with
  | ok same => exact related _ _ same
  | fault fault => exact .fault fault
  | apart differ => exact .apart differ

end Agree

/-! ## Fields -/

/-- Members with the same keys, and related things under each of them. -/
def Alongside (related : String → Json → Json → Prop) :
    List (String × Json) → List (String × Json) → Prop :=
  List.Forall₂ fun left right => left.1 = right.1 ∧ related left.1 left.2 right.2

theorem Alongside.find? {related : String → Json → Json → Prop}
    {members others : List (String × Json)} (same : Alongside related members others)
    (name : String) :
    Option.Rel (related name) (Entries.find? name members) (Entries.find? name others) := by
  induction same with
  | nil => exact .none
  | @cons left right members others head _ ih =>
      obtain ⟨key, value⟩ := left
      obtain ⟨other, held⟩ := right
      obtain ⟨rfl, isRelated⟩ := head
      rw [Entries.find?, Entries.find?]
      by_cases isName : key = name
      · rw [if_pos isName, if_pos isName]
        exact .some (isName ▸ isRelated)
      · rw [if_neg isName, if_neg isName]
        exact ih

/-- What is related belongs to the members. -/
theorem Alongside.mem {related : String → Json → Json → Prop}
    {members others : List (String × Json)} (same : Alongside related members others) :
    Alongside (fun name left right =>
      related name left right ∧ (name, left) ∈ members ∧ (name, right) ∈ others)
      members others := by
  rw [Alongside, List.forall₂_iff_zip] at same ⊢
  refine ⟨same.1, ?_⟩
  rintro ⟨key, left⟩ ⟨other, right⟩ member
  obtain ⟨equal, isRelated⟩ := same.2 member
  dsimp only at equal isRelated
  subst equal
  exact ⟨rfl, isRelated, List.of_mem_zip member⟩

namespace Fields

variable {related : String → Json → Json → Prop} {apart : Fault → Fault → Prop}
  {values : β → β → Prop} {name : String} {decode : Decoder Json α}

/-- Of related things each field is judged alike, and they are built into related values. -/
structure Agrees (fields : Fields Json α) (related : String → Json → Json → Prop)
    (apart : Fault → Fault → Prop) (values : α → α → Prop) : Prop where
  checks : ∀ field ∈ fields.declared, ∀ left right, related field.name left right →
    Agree apart (fun _ _ => True) (field.check left) (field.check right)
  builds : ∀ lookup other absence, (∀ name, Option.Rel (related name) (lookup name) (other name)) →
    Agree apart values (fields.build lookup absence) (fields.build other absence)

theorem agrees_none {value : β} (same : values value value) :
    (Fields.none value).Agrees related apart values where
  checks := by simp [none]
  builds _ _ _ _ := .ok same

theorem Agrees.add {fields : Fields Json (α → β)} {needs : α → α → Prop}
    {absent : Nat → Absence → Except Fault α}
    (agrees : fields.Agrees related apart fun make form =>
      ∀ left right, needs left right → values (make left) (form right))
    (read : ∀ left right, related name left right → Agree apart needs (decode left) (decode right))
    (missing : ∀ index absence, Agree apart needs (absent index absence) (absent index absence)) :
    (fields.add name decode absent).Agrees related apart values where
  checks := by
    intro field member left right isRelated
    rcases List.mem_append.mp member with earlier | last
    · exact agrees.checks field earlier left right isRelated
    · rw [List.mem_singleton.mp last] at isRelated ⊢
      exact (read left right isRelated).map fun _ _ _ => trivial
  builds := by
    intro lookup other absence areRelated
    have built := agrees.builds lookup other absence areRelated
    rw [Fields.add]
    dsimp only
    generalize fields.build lookup absence = first at built ⊢
    generalize fields.build other absence = second at built ⊢
    cases built with
    | fault fault => exact .fault fault
    | apart differ => exact .apart differ
    | ok makes =>
        have given := areRelated name
        generalize lookup name = one at given ⊢
        generalize other name = held at given ⊢
        cases given with
        | none => exact (missing _ _).map makes
        | some isRelated => exact (read _ _ isRelated).map makes

/-- A field that is read alike of related things, with whatever is made of its absence. -/
theorem Agrees.alike {fields : Fields Json (α → β)} {absent : Nat → Absence → Except Fault α}
    (agrees : fields.Agrees related apart fun make form =>
      ∀ value, values (make value) (form value))
    (read : ∀ left right, related name left right → decode left = decode right) :
    (fields.add name decode absent).Agrees related apart values := by
  have keeps : fields.Agrees related apart fun make form =>
      ∀ left right, left = right → values (make left) (form right) := by
    refine ⟨agrees.checks, fun lookup other absence areRelated => ?_⟩
    apply (agrees.builds lookup other absence areRelated).mono
    rintro make form makes value _ rfl
    exact makes value
  apply keeps.add
  · intro left right isRelated
    rw [read left right isRelated]
    exact .refl (fun _ => rfl) _
  · intro index absence
    exact .refl (fun _ => rfl) _

theorem Agrees.required {fields : Fields Json (α → β)}
    (agrees : fields.Agrees related apart fun make form =>
      ∀ value, values (make value) (form value))
    (read : ∀ left right, related name left right → decode left = decode right) :
    (fields.required name decode).Agrees related apart values := by
  rw [Fields.required]
  exact agrees.alike read

theorem Agrees.optional {fields : Fields Json (Option α → β)}
    (agrees : fields.Agrees related apart fun make form =>
      ∀ value, values (make value) (form value))
    (read : ∀ left right, related name left right →
      Decode.optional decode left = Decode.optional decode right) :
    (fields.optional name decode).Agrees related apart values := by
  rw [Fields.optional, Fields.defaulted]
  exact agrees.alike read

theorem Agrees.defaulted {fields : Fields Json (α → β)} {needs : α → α → Prop} {value : α}
    (agrees : fields.Agrees related apart fun make form =>
      ∀ left right, needs left right → values (make left) (form right))
    (read : ∀ left right, related name left right → Agree apart needs (decode left) (decode right))
    (fallback : needs value value) :
    (fields.defaulted name decode value).Agrees related apart values :=
  agrees.add read fun _ _ => .ok fallback

/-! ## Records -/

variable {declared : List (Field Json)}

theorem checkMembers_agree (checks : ∀ field ∈ declared, ∀ left right,
      related field.name left right →
        Agree apart (fun _ _ => True) (field.check left) (field.check right))
    {members others : List (String × Json)} (same : Alongside related members others)
    (seen : List String) :
    Agree apart (fun _ _ => True) (checkMembers declared seen members)
      (checkMembers declared seen others) := by
  induction same generalizing seen with
  | nil => exact .ok trivial
  | @cons left right members others head _ ih =>
      obtain ⟨key, source⟩ := left
      obtain ⟨other, held⟩ := right
      obtain ⟨equal, isRelated⟩ := head
      dsimp only at equal isRelated
      subst equal
      rw [checkMembers, checkMembers]
      cases found : declared.find? (·.name == key) with
      | none => exact ih seen
      | some field =>
          have named : field.name = key := by simpa using List.find?_some found
          have judged := checks field (List.mem_of_find?_eq_some found) source held
            (named ▸ isRelated)
          dsimp only
          by_cases again : seen.contains key = true
          · rw [if_pos again, if_pos again]
            exact .fault _
          · rw [if_neg again, if_neg again]
            exact judged.bind fun _ _ _ => ih (key :: seen)

theorem checkItems_agree (checks : ∀ field ∈ declared, ∀ left right,
      related field.name left right →
        Agree apart (fun _ _ => True) (field.check left) (field.check right))
    {items others : List Json} (length : items.length = others.length)
    (same : Alongside related ((declared.map Field.name).zip items)
      ((declared.map Field.name).zip others)) :
    Agree apart (fun _ _ => True) (checkItems declared items) (checkItems declared others) := by
  induction declared generalizing items others with
  | nil => exact .ok trivial
  | cons field fields ih =>
      cases items with
      | nil =>
          cases others with
          | nil => exact .ok trivial
          | cons other others => cases length
      | cons item items =>
          cases others with
          | nil => cases length
          | cons other others =>
              cases same with
              | cons head rest =>
                  rw [checkItems, checkItems]
                  apply (checks field List.mem_cons_self item other head.2).bind
                  intro _ _ _
                  exact ih (fun one member => checks one (List.mem_cons_of_mem _ member))
                    (Nat.succ.inj length) rest

theorem ofMembers_agree {fields : Fields Json β} (agrees : fields.Agrees related apart values)
    {members others : List (String × Json)} (same : Alongside related members others) :
    Agree apart values (fields.ofMembers members) (fields.ofMembers others) := by
  apply (checkMembers_agree agrees.checks same []).bind
  intro _ _ _
  exact agrees.builds _ _ _ same.find?

end Fields

/-- Two documents that give related things for each of the fields of a record, whether as an
object or as a list. What is neither is no record. -/
inductive Recorded (names : List String) (related : String → Json → Json → Prop) :
    Json → Json → Prop where
  | object {members others : List (String × Json)} (same : Alongside related members others) :
      Recorded names related (.object members) (.object others)
  | array {items others : List Json} (length : items.length = others.length)
      (same : Alongside related (names.zip items) (names.zip others)) :
      Recorded names related (.array items) (.array others)
  | neither {document : Json} (noObject : ∀ members, document ≠ .object members)
      (noArray : ∀ items, document ≠ .array items) : Recorded names related document document

theorem record_agree {related : String → Json → Json → Prop} {apart : Fault → Fault → Prop}
    {values : α → α → Prop} {fields : Fields Json α} (agrees : fields.Agrees related apart values)
    (expected : String) {first second : Json}
    (recorded : Recorded (fields.declared.map Field.name) related first second) :
    Agree apart values (record expected fields first) (record expected fields second) := by
  cases recorded with
  | object same =>
      rw [record_object, record_object]
      exact Fields.ofMembers_agree agrees same
  | @array items others length same =>
      rw [record_array, record_array]
      apply (Fields.checkItems_agree agrees.checks length same).bind
      intro _ _ _
      apply (agrees.builds _ _ _ same.find?).bind
      intro left right isRelated
      rw [length]
      split
      · exact .fault _
      · exact .ok isRelated
  | neither noObject noArray =>
      cases first with
      | object members => exact absurd rfl (noObject members)
      | array items => exact absurd rfl (noArray items)
      | _ => exact .fault _

end Converge.Decode
