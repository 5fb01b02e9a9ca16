import Converge.Dictionary

/-!
# Lookups in dictionaries

What each operation on a dictionary does to its lookups and to its keys. The lookups
determine a dictionary, so two of them are equal as soon as they answer alike.
-/

namespace Converge

variable {α β : Type}

/-! ## Entry lists -/

namespace Entries

theorem find?_insert (key other : String) (value : α) (entries : List (String × α)) :
    find? other (insert key value entries) =
      if key = other then some value else find? other entries := by
  induction entries with
  | nil => simp [insert, find?]
  | cons entry rest ih =>
      obtain ⟨head, held⟩ := entry
      rw [insert]
      split
      · simp [find?]
      · split
        · rename_i same
          subst same
          by_cases equal : key = other <;> simp [find?, equal]
        · rename_i notSame
          by_cases equal : head = other
          · subst equal
            simp [find?, notSame]
          · simp [find?, equal, ih]

theorem find?_filter_key (keep : String → Bool) (key : String)
    (entries : List (String × α)) :
    find? key (entries.filter fun entry => keep entry.1) =
      if keep key then find? key entries else none := by
  induction entries with
  | nil => simp [find?]
  | cons entry rest ih =>
      obtain ⟨head, held⟩ := entry
      by_cases equal : head = key
      · subst equal
        by_cases kept : keep head = true <;> simp [find?, kept, ih]
      · by_cases kept : keep head = true <;> simp [find?, kept, equal, ih]

/-- A key in front of an ordered list does not occur behind. -/
theorem find?_eq_none_of_lt {key : String} {entries : List (String × α)}
    (before : ∀ entry ∈ entries, key < entry.1) : find? key entries = none := by
  induction entries with
  | nil => rfl
  | cons entry rest ih =>
      have different : entry.1 ≠ key := by
        intro equal
        have less := before entry (by simp)
        rw [equal] at less
        exact Std.lt_irrefl less
      simp only [find?, different, if_false]
      exact ih fun other member => before other (by simp [member])

theorem Ordered.head_lt {entry : String × α} {rest : List (String × α)}
    (ordered : Ordered (entry :: rest)) : ∀ other ∈ rest, entry.1 < other.1 :=
  (List.pairwise_cons.mp ordered).1

theorem Ordered.tail {entry : String × α} {rest : List (String × α)}
    (ordered : Ordered (entry :: rest)) : Ordered rest :=
  (List.pairwise_cons.mp ordered).2

theorem Ordered.find?_rest {entry : String × α} {rest : List (String × α)}
    (ordered : Ordered (entry :: rest)) : find? entry.1 rest = none :=
  find?_eq_none_of_lt ordered.head_lt

theorem find?_filter {keep : String → α → Bool} {entries : List (String × α)}
    (ordered : Ordered entries) (key : String) :
    find? key (entries.filter fun entry => keep entry.1 entry.2) =
      (find? key entries).filter (keep key) := by
  induction entries with
  | nil => rfl
  | cons entry rest ih =>
      have absent := ordered.find?_rest
      have tail := ih ordered.tail
      obtain ⟨head, held⟩ := entry
      by_cases equal : head = key
      · subst equal
        by_cases kept : keep head held = true
        · simp [find?, kept, Option.filter]
        · simp only [List.filter_cons, kept, Bool.false_eq_true, if_false, tail]
          rw [absent]
          simp [find?, kept, Option.filter]
      · by_cases kept : keep head held = true <;> simp [find?, kept, equal, tail]

/-- Of the entries added one after the other the last one of a key counts. -/
theorem find?_foldl_insert {added : List (String × α)} (ordered : Ordered added)
    (held : List (String × α)) (key : String) :
    find? key (added.foldl (fun held entry => insert entry.1 entry.2 held) held) =
      (find? key added).or (find? key held) := by
  induction added generalizing held with
  | nil => simp [find?]
  | cons entry rest ih =>
      rw [List.foldl_cons, ih ordered.tail, find?_insert]
      by_cases equal : entry.1 = key
      · subst equal
        simp [find?, ordered.find?_rest]
      · simp [find?, equal]

theorem find?_map_values (change : α → β) (key : String) (entries : List (String × α)) :
    find? key (entries.map fun entry => (entry.1, change entry.2)) =
      (find? key entries).map change := by
  induction entries with
  | nil => rfl
  | cons entry rest ih =>
      by_cases equal : entry.1 = key <;> simp [find?, equal, ih]

theorem mem_keys_iff {key : String} {entries : List (String × α)} :
    key ∈ entries.map Prod.fst ↔ (find? key entries).isSome = true := by
  induction entries with
  | nil => simp [find?]
  | cons entry rest ih =>
      obtain ⟨head, held⟩ := entry
      by_cases equal : head = key
      · simp [find?, equal]
      · simp [find?, equal, ← ih, Ne.symm equal]

/-- What is found stands in the list. -/
theorem mem_of_find? {key : String} {entries : List (String × α)} {value : α}
    (found : find? key entries = some value) : (key, value) ∈ entries := by
  induction entries with
  | nil => cases found
  | cons entry rest ih =>
      obtain ⟨head, held⟩ := entry
      rw [find?] at found
      split at found
      · rename_i equal
        subst equal
        cases found
        exact List.mem_cons_self
      · exact List.mem_cons_of_mem _ (ih found)

theorem Ordered.nodup {entries : List (String × α)} (ordered : Ordered entries) :
    (entries.map Prod.fst).Nodup := by
  rw [List.Nodup, List.pairwise_map]
  refine List.Pairwise.imp ?_ ordered
  intro left right before equal
  rw [equal] at before
  exact Std.lt_irrefl before

/-- Where no key occurs twice, an entry is found by its key. -/
theorem find?_eq_some_iff {entries : List (String × α)}
    (distinct : (entries.map Prod.fst).Nodup) {key : String} {value : α} :
    find? key entries = some value ↔ (key, value) ∈ entries := by
  induction entries with
  | nil => simp [find?]
  | cons entry rest ih =>
      obtain ⟨head, held⟩ := entry
      rw [List.map_cons, List.nodup_cons] at distinct
      obtain ⟨absent, distinct⟩ := distinct
      by_cases equal : head = key
      · subst equal
        simp only [find?, if_true, List.mem_cons, Prod.mk.injEq, true_and, Option.some.injEq]
        constructor
        · intro same
          exact .inl same.symm
        · rintro (same | member)
          · exact same.symm
          · exact absurd (List.mem_map_of_mem member) absent
      · simp [find?, equal, Ne.symm equal, ih distinct]

/-! ### Lists in any order -/

/-- What is inserted counts before what is there already. -/
theorem find?_foldl_insert_eq (added held : List (String × α)) (key : String) :
    find? key (added.foldl (fun held entry => insert entry.1 entry.2 held) held) =
      (find? key (ofList added)).or (find? key held) := by
  induction added generalizing held with
  | nil => rfl
  | cons entry rest ih =>
      have whole : find? key (ofList (entry :: rest)) =
          (find? key (ofList rest)).or (find? key (insert entry.1 entry.2 [])) :=
        ih (insert entry.1 entry.2 [])
      rw [List.foldl_cons, ih, whole, find?_insert, find?_insert, Option.or_assoc]
      split <;> rfl

theorem find?_ofList_append (first second : List (String × α)) (key : String) :
    find? key (ofList (first ++ second)) =
      (find? key (ofList second)).or (find? key (ofList first)) := by
  rw [ofList, List.foldl_append]
  exact find?_foldl_insert_eq second _ key

theorem find?_ofList_eq_none {key : String} {entries : List (String × α)}
    (absent : key ∉ entries.map Prod.fst) : find? key (ofList entries) = none := by
  induction entries with
  | nil => rfl
  | cons entry rest ih =>
      rw [List.map_cons, List.mem_cons, not_or] at absent
      have alone : find? key (ofList [entry]) = none := if_neg (Ne.symm absent.1)
      rw [← List.singleton_append, find?_ofList_append, ih absent.2, alone]
      rfl

theorem find?_ofList_cons (entry : String × α) (rest : List (String × α)) (key : String) :
    find? key (ofList (entry :: rest)) =
      (find? key (ofList rest)).or (if entry.1 = key then some entry.2 else none) := by
  rw [← List.singleton_append, find?_ofList_append]
  rfl

/-- What is found where the last entry of a key counts is one of the entries. -/
theorem mem_of_find?_ofList {key : String} {entries : List (String × α)} {value : α}
    (found : find? key (ofList entries) = some value) : (key, value) ∈ entries := by
  induction entries with
  | nil => cases found
  | cons entry rest ih =>
      rw [find?_ofList_cons, Option.or_eq_some_iff] at found
      rcases found with later | ⟨_, first⟩
      · exact List.mem_cons_of_mem _ (ih later)
      · split at first
        · rename_i equal
          subst equal
          cases first
          exact List.mem_cons_self
        · cases first

/-- Where no key occurs twice, it does not matter which entry of a key counts. -/
theorem find?_ofList {entries : List (String × α)} (distinct : (entries.map Prod.fst).Nodup)
    (key : String) : find? key (ofList entries) = find? key entries := by
  induction entries with
  | nil => rfl
  | cons entry rest ih =>
      rw [List.map_cons, List.nodup_cons] at distinct
      rw [← List.singleton_append, find?_ofList_append, ih distinct.2]
      by_cases equal : entry.1 = key
      · have absent : find? key rest = none := by
          rw [← Option.not_isSome_iff_eq_none, ← mem_keys_iff, ← equal]
          exact distinct.1
        simp [ofList, insert, find?, equal, absent]
      · simp [ofList, insert, find?, equal]

/-- Ordered lists that answer every lookup alike are the same list. -/
theorem eq_of_find? {left right : List (String × α)} (leftOrdered : Ordered left)
    (rightOrdered : Ordered right) (same : ∀ key, find? key left = find? key right) :
    left = right := by
  induction left generalizing right with
  | nil =>
      cases right with
      | nil => rfl
      | cons entry rest =>
          have found := same entry.1
          simp [find?] at found
  | cons entry rest ih =>
      cases right with
      | nil =>
          have found := same entry.1
          simp [find?] at found
      | cons other others =>
          have firstFound : find? entry.1 (other :: others) = some entry.2 := by
            rw [← same]
            simp [find?]
          have otherFound : find? other.1 (entry :: rest) = some other.2 := by
            rw [same]
            simp [find?]
          -- a smaller head on either side would not be found on the other
          have keysEqual : entry.1 = other.1 := by
            rcases Std.lt_trichotomy entry.1 other.1 with less | equal | greater
            · rw [find?_eq_none_of_lt] at firstFound
              · simp at firstFound
              · intro later member
                rcases List.mem_cons.mp member with isHead | inRest
                · exact isHead ▸ less
                · exact String.lt_trans less (rightOrdered.head_lt later inRest)
            · exact equal
            · rw [find?_eq_none_of_lt] at otherFound
              · simp at otherFound
              · intro later member
                rcases List.mem_cons.mp member with isHead | inRest
                · exact isHead ▸ greater
                · exact String.lt_trans greater (leftOrdered.head_lt later inRest)
          have headsEqual : entry = other := by
            apply Prod.ext keysEqual
            simpa [find?, keysEqual] using firstFound.symm
          subst headsEqual
          congr 1
          apply ih leftOrdered.tail rightOrdered.tail
          intro key
          by_cases equal : entry.1 = key
          · subst equal
            rw [leftOrdered.find?_rest, rightOrdered.find?_rest]
          · simpa [find?, equal] using same key

theorem ofList_of_ordered {entries : List (String × α)} (ordered : Ordered entries) :
    ofList entries = entries := by
  apply eq_of_find? (ordered_ofList entries) ordered
  exact find?_ofList ordered.nodup

/-- Inserting under a key that is filtered out leaves the keys that stay. -/
theorem filter_keys_insert {keep : String → Bool} {key : String} (dropped : keep key = false)
    (value : α) (entries : List (String × α)) :
    ((insert key value entries).map Prod.fst).filter keep =
      (entries.map Prod.fst).filter keep := by
  induction entries with
  | nil => simp [insert, dropped]
  | cons entry rest ih =>
      obtain ⟨head, held⟩ := entry
      rw [insert]
      split
      · simp [dropped]
      · split
        · rename_i same
          subst same
          simp [dropped]
        · by_cases kept : keep head = true <;> simp [kept, ih]

end Entries

/-! ## Dictionaries -/

namespace Dictionary

theorem get?_insert (dictionary : Dictionary α) (key other : String) (value : α) :
    (dictionary.insert key value).get? other =
      if key = other then some value else dictionary.get? other :=
  Entries.find?_insert key other value dictionary.entries

@[simp] theorem get?_insert_self (dictionary : Dictionary α) (key : String) (value : α) :
    (dictionary.insert key value).get? key = some value := by
  rw [get?_insert, if_pos rfl]

theorem get?_filterKeys (keep : String → Bool) (dictionary : Dictionary α) (key : String) :
    (dictionary.filterKeys keep).get? key =
      if keep key then dictionary.get? key else none :=
  Entries.find?_filter_key keep key dictionary.entries

theorem get?_erase (dictionary : Dictionary α) (key other : String) :
    (dictionary.erase key).get? other =
      if other = key then none else dictionary.get? other := by
  rw [erase, get?_filterKeys]
  by_cases equal : other = key <;> simp [equal]

theorem get?_filter (keep : String → α → Bool) (dictionary : Dictionary α) (key : String) :
    (dictionary.filter keep).get? key = (dictionary.get? key).filter (keep key) :=
  Entries.find?_filter dictionary.ordered key

theorem get?_extend (dictionary added : Dictionary α) (key : String) :
    (dictionary.extend added).get? key = (added.get? key).or (dictionary.get? key) :=
  Entries.find?_foldl_insert added.ordered dictionary.entries key

@[simp] theorem get?_mapValues (change : α → β) (dictionary : Dictionary α) (key : String) :
    (dictionary.mapValues change).get? key = (dictionary.get? key).map change :=
  Entries.find?_map_values change key dictionary.entries

theorem get?_ofList {entries : List (String × α)} (distinct : (entries.map Prod.fst).Nodup)
    (key : String) : (ofList entries).get? key = Entries.find? key entries :=
  Entries.find?_ofList distinct key

theorem get?_ofList_append (first second : List (String × α)) (key : String) :
    (ofList (first ++ second)).get? key =
      ((ofList second).get? key).or ((ofList first).get? key) :=
  Entries.find?_ofList_append first second key

@[simp] theorem ofList_entries (dictionary : Dictionary α) :
    ofList dictionary.entries = dictionary :=
  Dictionary.ext (Entries.ofList_of_ordered dictionary.ordered)

theorem mem_keys_iff {dictionary : Dictionary α} {key : String} :
    key ∈ dictionary.keys ↔ (dictionary.get? key).isSome = true :=
  Entries.mem_keys_iff

theorem contains_iff {dictionary : Dictionary α} {key : String} :
    dictionary.contains key = true ↔ key ∈ dictionary.keys :=
  mem_keys_iff.symm

theorem get?_eq_none_of_not_mem {dictionary : Dictionary α} {key : String}
    (absent : key ∉ dictionary.keys) : dictionary.get? key = none := by
  rwa [mem_keys_iff, Option.not_isSome_iff_eq_none] at absent

/-- Dictionaries that answer every lookup alike are equal. -/
theorem ext_get? {left right : Dictionary α}
    (same : ∀ key, left.get? key = right.get? key) : left = right := by
  apply Dictionary.ext
  exact Entries.eq_of_find? left.ordered right.ordered same

/-- A test of keys matters only where there is something. -/
theorem filterKeys_congr {dictionary : Dictionary α} {keep other : String → Bool}
    (same : ∀ key, (dictionary.get? key).isSome = true → keep key = other key) :
    dictionary.filterKeys keep = dictionary.filterKeys other := by
  apply ext_get?
  intro key
  rw [get?_filterKeys, get?_filterKeys]
  cases found : dictionary.get? key with
  | none => simp only [ite_self]
  | some value => rw [same key (by rw [found]; rfl)]

/-- To insert what is held already changes nothing. -/
theorem insert_eq_self {dictionary : Dictionary α} {key : String} {value : α}
    (held : dictionary.get? key = some value) : dictionary.insert key value = dictionary := by
  apply ext_get?
  intro other
  rw [get?_insert]
  split
  · rename_i same
    rw [← same, held]
  · rfl

/-- The keys are determined by what is there. -/
theorem keys_eq_of_isSome {left : Dictionary α} {right : Dictionary β}
    (same : ∀ key, (left.get? key).isSome = (right.get? key).isSome) : left.keys = right.keys := by
  have shapes : left.mapValues (fun _ => ()) = right.mapValues fun _ => () := by
    apply ext_get?
    intro key
    have present := same key
    rw [get?_mapValues, get?_mapValues]
    cases leftFound : left.get? key <;> cases rightFound : right.get? key <;>
      simp_all
  rw [← keys_mapValues (fun _ => ()) left, shapes, keys_mapValues]

theorem isEmpty_iff {dictionary : Dictionary α} :
    dictionary.isEmpty = true ↔ ∀ key, dictionary.get? key = none := by
  constructor
  · intro empty key
    rw [isEmpty, List.isEmpty_iff] at empty
    rw [get?, empty, Entries.find?]
  · intro nothing
    have equal : dictionary = empty := ext_get? nothing
    rw [equal]
    rfl

theorem keys_erase (dictionary : Dictionary α) (key : String) :
    (dictionary.erase key).keys = dictionary.keys.filter (· != key) := by
  rw [keys, keys, List.filter_map]
  rfl

/-- The keys that pass a test which no added key passes stay as they are, in their order. -/
theorem filter_keys_extend {keep : String → Bool} (dictionary added : Dictionary α)
    (dropped : ∀ key ∈ added.keys, keep key = false) :
    (dictionary.extend added).keys.filter keep = dictionary.keys.filter keep := by
  have general : ∀ (entries held : List (String × α)),
      (∀ key ∈ entries.map Prod.fst, keep key = false) →
      ((entries.foldl (fun held entry => Entries.insert entry.1 entry.2 held) held).map
        Prod.fst).filter keep = (held.map Prod.fst).filter keep := by
    intro entries
    induction entries with
    | nil =>
        intro held _
        rfl
    | cons entry rest ih =>
        intro held outside
        rw [List.foldl_cons, ih]
        · exact Entries.filter_keys_insert (outside entry.1 (by simp)) entry.2 held
        · intro key member
          exact outside key (by simp [List.mem_map.mp member])
  exact general added.entries dictionary.entries dropped

end Dictionary

end Converge
