import Converge.Proofs.Decode

/-!
# Records with members that come again

A text may give a member several times. A record takes each of its fields once: it is read where
every member that is no field can be passed over and every field that is given is given once. What
a field is read as is then said of the values under its name, whatever else the record has and in
whatever order.
-/

namespace Converge

namespace Entries

/-- All that is held under a key, in order. -/
def valuesOf {α : Type} (key : String) : List (String × α) → List α
  | [] => []
  | (other, value) :: rest =>
    if other = key then value :: valuesOf key rest else valuesOf key rest

variable {α β : Type}

theorem valuesOf_cons_self (key : String) (value : α) (rest : List (String × α)) :
    valuesOf key ((key, value) :: rest) = value :: valuesOf key rest := by
  rw [valuesOf, if_pos rfl]

theorem valuesOf_cons_of_ne {key other : String} (different : other ≠ key) (value : α)
    (rest : List (String × α)) : valuesOf key ((other, value) :: rest) = valuesOf key rest := by
  rw [valuesOf, if_neg different]

theorem find?_eq_head? (key : String) (entries : List (String × α)) :
    find? key entries = (valuesOf key entries).head? := by
  induction entries with
  | nil => rfl
  | cons entry rest ih =>
      obtain ⟨other, value⟩ := entry
      rw [find?, valuesOf]
      split
      · rfl
      · exact ih

theorem valuesOf_map (change : α → β) (key : String) (entries : List (String × α)) :
    valuesOf key (entries.map fun entry => (entry.1, change entry.2)) =
      (valuesOf key entries).map change := by
  induction entries with
  | nil => rfl
  | cons entry rest ih =>
      obtain ⟨other, value⟩ := entry
      rw [List.map_cons, valuesOf, valuesOf, ih]
      split <;> rfl

end Entries

namespace Decode

variable {σ α β : Type}

theorem error_ne_ok {ε γ : Type} {fault : ε} {value : γ} :
    (Except.error fault : Except ε γ) ≠ .ok value := by
  intro same
  cases same

theorem map_eq_ok_iff {ε γ δ : Type} {result : Except ε γ} {change : γ → δ} {value : δ} :
    result.map change = .ok value ↔ ∃ found, result = .ok found ∧ change found = value := by
  constructor
  · exact map_eq_ok
  · rintro ⟨found, rfl, rfl⟩
    rfl

namespace Fields

/-- A field is read from what is given for it: from the one value, or as what stands for none. -/
inductive Takes (decode : Decoder σ α) (missing : Except Fault α) : List σ → α → Prop where
  | absent {value : α} (stands : missing = .ok value) : Takes decode missing [] value
  | given {source : σ} {value : α} (read : decode source = .ok value) :
      Takes decode missing [source] value

/-- A field may be given as it is: not at all, or once and well. -/
def Once (seen : List String) (field : Field σ) (members : List (String × σ)) : Prop :=
  Entries.valuesOf field.name members = [] ∨
    field.name ∉ seen ∧ ∃ source, Entries.valuesOf field.name members = [source] ∧
      field.check source = .ok ()

section Once

variable {seen : List String} {field : Field σ} {key : String} {source : σ}
  {members : List (String × σ)}

theorem once_cons_of_ne (different : key ≠ field.name) :
    Once seen field ((key, source) :: members) ↔ Once seen field members := by
  rw [Once, Once, Entries.valuesOf_cons_of_ne different]

theorem once_cons_self :
    Once seen field ((field.name, source) :: members) ↔
      field.name ∉ seen ∧ field.check source = .ok () ∧
        Entries.valuesOf field.name members = [] := by
  rw [Once, Entries.valuesOf_cons_self]
  constructor
  · rintro (none | ⟨unseen, _, given, passes⟩)
    · exact absurd none (List.cons_ne_nil _ _)
    · obtain ⟨rfl, none⟩ := List.cons.inj given
      exact ⟨unseen, passes, none⟩
  · rintro ⟨unseen, passes, none⟩
    exact .inr ⟨unseen, source, by rw [none], passes⟩

theorem once_seen_self :
    Once (field.name :: seen) field members ↔ Entries.valuesOf field.name members = [] := by
  constructor
  · rintro (none | ⟨unseen, _⟩)
    · exact none
    · exact absurd List.mem_cons_self unseen
  · exact .inl

theorem once_seen_of_ne (different : key ≠ field.name) :
    Once (key :: seen) field members ↔ Once seen field members := by
  rw [Once, Once, List.mem_cons, or_iff_right (Ne.symm different)]

end Once

theorem name_of_find? {declared : List (Field σ)} {key : String} {field : Field σ}
    (found : declared.find? (·.name == key) = some field) : field.name = key := by
  simpa using List.find?_some found

theorem bind_eq_ok_iff {first second : Except Fault Unit} :
    (first >>= fun _ => second) = .ok () ↔ first = .ok () ∧ second = .ok () := by
  cases first with
  | error fault => simp [bind, Except.bind]
  | ok done => simp [bind, Except.bind]

/-- Members pass where all that are no fields can be passed over, and every field is given once at
most. -/
theorem checkMembers_eq_ok_iff_once [Source σ] {declared : List (Field σ)} {seen : List String}
    {members : List (String × σ)} :
    checkMembers declared seen members = .ok () ↔
      (∀ member ∈ members, declared.find? (·.name == member.1) = Option.none →
        Source.skip member.2 = .ok ()) ∧
      ∀ key field, declared.find? (·.name == key) = some field → Once seen field members := by
  -- What has been seen grows by the fields that are met, so that a field is given once behind a
  -- member of its name exactly where it is not given again.
  induction members generalizing seen with
  | nil => simp [checkMembers, Once, Entries.valuesOf]
  | cons member rest ih =>
      obtain ⟨key, source⟩ := member
      rw [checkMembers, List.forall_mem_cons]
      cases found : declared.find? (·.name == key) with
      | none =>
          have others (name : String) (field : Field σ)
              (declares : declared.find? (·.name == name) = some field) :
              Once seen field ((key, source) :: rest) ↔ Once seen field rest := by
            refine once_cons_of_ne fun same => ?_
            rw [same, name_of_find? declares, declares] at found
            cases found
          simp only [true_implies, and_assoc]
          rw [bind_eq_ok_iff, ih]
          refine and_congr_right fun _ => and_congr_right fun _ => ?_
          exact forall_congr' fun name => forall_congr' fun field => forall_congr' fun declares =>
            (others name field declares).symm
      | some field =>
          obtain rfl := name_of_find? found
          have same_of_name {name : String} {other : Field σ}
              (declares : declared.find? (·.name == name) = some other)
              (same : field.name = other.name) : other = field := by
            rw [← name_of_find? declares, ← same, found] at declares
            exact (Option.some.inj declares).symm
          simp only [reduceCtorEq, false_implies, true_and]
          by_cases already : field.name ∈ seen
          · rw [if_pos (by simpa using already)]
            refine iff_of_false error_ne_ok ?_
            rintro ⟨_, once⟩
            exact (once_cons_self.mp (once _ field found)).1 already
          rw [if_neg (by simpa using already), bind_eq_ok_iff, ih]
          constructor
          · rintro ⟨passes, skips, once⟩
            refine ⟨skips, fun name other declares => ?_⟩
            by_cases same : field.name = other.name
            · obtain rfl := same_of_name declares same
              exact once_cons_self.mpr
                ⟨already, passes, once_seen_self.mp (once name other declares)⟩
            · exact (once_cons_of_ne same).mpr
                ((once_seen_of_ne same).mp (once name other declares))
          · rintro ⟨skips, once⟩
            obtain ⟨_, passes, none⟩ := once_cons_self.mp (once _ field found)
            refine ⟨passes, skips, fun name other declares => ?_⟩
            by_cases same : field.name = other.name
            · obtain rfl := same_of_name declares same
              exact once_seen_self.mpr none
            · exact (once_seen_of_ne same).mpr
                ((once_cons_of_ne same).mp (once name other declares))

theorem find?_of_mem {declared : List (Field σ)} (names : (declared.map Field.name).Nodup)
    {field : Field σ} (isField : field ∈ declared) :
    declared.find? (·.name == field.name) = some field := by
  induction declared with
  | nil => cases isField
  | cons first declared ih =>
      rw [List.map_cons, List.nodup_cons] at names
      rw [List.find?_cons]
      rcases List.mem_cons.mp isField with rfl | later
      · rw [beq_self_eq_true]
      · have different : first.name ≠ field.name := fun same =>
          names.1 (same ▸ List.mem_map_of_mem later)
        rw [beq_false_of_ne different]
        exact ih names.2 later

/-! ## What fields are read as -/

/-- The value is what the fields read from the values under their names: each of them is given once
at most and well, and the value is built of them. -/
structure ReadsFrom (fields : Fields σ α) (values : String → List σ) (absence : Absence)
    (value : α) : Prop where
  once : ∀ field ∈ fields.declared, values field.name = [] ∨
    ∃ source, values field.name = [source] ∧ field.check source = .ok ()
  built : fields.build (fun name => (values name).head?) absence = .ok value

section ReadsFrom

variable {values : String → List σ} {absence : Absence} {name : String} {decode : Decoder σ α}

theorem readsFrom_none {value found : β} :
    (Fields.none value).ReadsFrom values absence found ↔ value = found := by
  constructor
  · rintro ⟨_, built⟩
    exact Except.ok.inj built
  · rintro rfl
    exact ⟨by simp [none], rfl⟩

theorem takes_iff {missing : Except Fault α} {sources : List σ} {value : α} :
    Takes decode missing sources value ↔
      (sources = [] ∨ ∃ source, sources = [source] ∧
        (decode source).map (fun _ => ()) = .ok ()) ∧
      (match sources.head? with
        | some source => decode source
        | Option.none => missing) = .ok value := by
  constructor
  · intro takes
    cases takes with
    | absent stands => exact ⟨.inl rfl, stands⟩
    | given read => exact ⟨.inr ⟨_, rfl, map_eq_ok_iff.mpr ⟨_, read, rfl⟩⟩, read⟩
  · rintro ⟨rfl | ⟨source, rfl, _⟩, read⟩
    · exact .absent read
    · exact .given read

theorem add_build_eq_ok_iff {fields : Fields σ (α → β)} {absent : Nat → Absence → Except Fault α}
    {lookup : String → Option σ} {value : β} :
    (fields.add name decode absent).build lookup absence = .ok value ↔
      ∃ make found, fields.build lookup absence = .ok make ∧
        (match lookup name with
          | some source => decode source
          | Option.none => absent fields.declared.length absence) = .ok found ∧
        make found = value := by
  simp only [add]
  cases fields.build lookup absence with
  | error fault => simp
  | ok make =>
      cases lookup name with
      | none => simp [map_eq_ok_iff]
      | some source => simp [map_eq_ok_iff]

/-- One field more takes its own values, whatever the other fields take. -/
theorem readsFrom_add {fields : Fields σ (α → β)} {absent : Nat → Absence → Except Fault α}
    {value : β} :
    (fields.add name decode absent).ReadsFrom values absence value ↔
      ∃ make found, fields.ReadsFrom values absence make ∧
        Takes decode (absent fields.declared.length absence) (values name) found ∧
          make found = value := by
  simp only [takes_iff]
  constructor
  · rintro ⟨once, built⟩
    obtain ⟨make, found, earlier, last, same⟩ := add_build_eq_ok_iff.mp built
    refine ⟨make, found, ⟨fun field isField => ?_, earlier⟩, ⟨?_, last⟩, same⟩
    · exact once field (List.mem_append_left _ isField)
    · exact once ⟨name, _⟩ (List.mem_append_right _ (List.mem_singleton_self _))
  · rintro ⟨make, found, ⟨once, built⟩, ⟨onceToo, last⟩, same⟩
    refine ⟨fun field isField => ?_, add_build_eq_ok_iff.mpr ⟨make, found, built, last, same⟩⟩
    rcases List.mem_append.mp isField with earlier | isLast
    · exact once field earlier
    · rw [List.mem_singleton.mp isLast]
      exact onceToo

end ReadsFrom

/-- A record reads its fields from the values under their names. -/
theorem checkMembers_and_build_iff [Source σ] {fields : Fields σ α}
    (names : (fields.declared.map Field.name).Nodup) (members : List (String × σ)) (value : α) :
    (checkMembers fields.declared [] members = .ok () ∧
      fields.build (fun name => Entries.find? name members) .ofMember = .ok value) ↔
      (∀ member ∈ members, (∀ field ∈ fields.declared, field.name ≠ member.1) →
        Source.skip member.2 = .ok ()) ∧
      fields.ReadsFrom (fun name => Entries.valuesOf name members) .ofMember value := by
  have lookup : (fun name => Entries.find? name members) =
      fun name => (Entries.valuesOf name members).head? :=
    funext fun name => Entries.find?_eq_head? name members
  have unknown_iff (key : String) : fields.declared.find? (·.name == key) = Option.none ↔
      ∀ field ∈ fields.declared, field.name ≠ key := by
    simp
  rw [checkMembers_eq_ok_iff_once, lookup, and_assoc]
  simp only [unknown_iff]
  refine and_congr_right fun _ => ?_
  constructor
  · rintro ⟨once, built⟩
    refine ⟨fun field isField => ?_, built⟩
    rcases once _ field (find?_of_mem names isField) with absent | ⟨_, given⟩
    · exact .inl absent
    · exact .inr given
  · rintro ⟨once, built⟩
    refine ⟨fun key field declares => ?_, built⟩
    rcases once field (List.mem_of_find?_eq_some declares) with absent | given
    · exact .inl absent
    · exact .inr ⟨List.not_mem_nil, given⟩

end Fields

end Decode

end Converge
