/-!
# Dictionaries with ordered keys

A dictionary maps strings to values and lists its entries in key order, by code
point. The order is part of the type, so two dictionaries are equal exactly when
they hold the same entries, and everything that prints or walks one does so in the
one order there is.

The theory is stated on plain entry lists: the recursive document types keep their
members in such lists themselves, because a recursive type cannot pass through a
structure that carries a proof.
-/

namespace Converge

/-! ## Ordered entry lists -/

namespace Entries

variable {α β : Type}

/-- Keys strictly increase along the list, so none occurs twice. -/
def Ordered (entries : List (String × α)) : Prop :=
  entries.Pairwise fun left right => left.1 < right.1

/-- Insert by key order, replacing the value of a key that is already there. -/
def insert (key : String) (value : α) : List (String × α) → List (String × α)
  | [] => [(key, value)]
  | (other, held) :: rest =>
    if key < other then (key, value) :: (other, held) :: rest
    else if key = other then (key, value) :: rest
    else (other, held) :: insert key value rest

/-- The value of the first entry with the given key. -/
def find? (key : String) : List (String × α) → Option α
  | [] => none
  | (other, held) :: rest => if other = key then some held else find? key rest

/-- Entries in key order; of entries with one key the last one given stays. -/
def ofList (entries : List (String × α)) : List (String × α) :=
  entries.foldl (fun held entry => insert entry.1 entry.2 held) []

theorem ordered_nil : Ordered ([] : List (String × α)) := .nil

theorem mem_insert {key : String} {value : α} {entry : String × α}
    {entries : List (String × α)} (member : entry ∈ insert key value entries) :
    entry = (key, value) ∨ entry ∈ entries := by
  induction entries with
  | nil => simpa [insert] using member
  | cons head rest step =>
    obtain ⟨other, held⟩ := head
    rw [insert] at member
    split at member
    · simpa using member
    · split at member
      · rcases List.mem_cons.1 member with found | found
        · exact .inl found
        · exact .inr (List.mem_cons_of_mem _ found)
      · rcases List.mem_cons.1 member with found | found
        · exact .inr (found ▸ List.mem_cons_self)
        · exact (step found).imp id (List.mem_cons_of_mem _)

theorem ordered_insert (key : String) (value : α) {entries : List (String × α)}
    (ordered : Ordered entries) : Ordered (insert key value entries) := by
  induction entries with
  | nil => simp [insert, Ordered]
  | cons head rest step =>
    obtain ⟨other, held⟩ := head
    have above := List.pairwise_cons.1 ordered
    rw [insert]
    split
    · rename_i before
      refine List.pairwise_cons.2 ⟨fun entry member => ?_, ordered⟩
      rcases List.mem_cons.1 member with found | found
      · exact found ▸ before
      · exact String.lt_trans before (above.1 entry found)
    · split
      · rename_i same
        exact List.pairwise_cons.2 ⟨fun entry member => same ▸ above.1 entry member, above.2⟩
      · rename_i notBefore notSame
        refine List.pairwise_cons.2 ⟨fun entry member => ?_, step above.2⟩
        rcases mem_insert member with found | found
        · subst found
          rcases Std.lt_trichotomy key other with order | order | order
          · exact absurd order notBefore
          · exact absurd order notSame
          · exact order
        · exact above.1 entry found

theorem ordered_foldl_insert (added : List (String × α)) {entries : List (String × α)}
    (ordered : Ordered entries) :
    Ordered (added.foldl (fun held entry => insert entry.1 entry.2 held) entries) := by
  induction added generalizing entries with
  | nil => exact ordered
  | cons entry rest step => exact step (ordered_insert _ _ ordered)

theorem ordered_ofList (entries : List (String × α)) : Ordered (ofList entries) :=
  ordered_foldl_insert entries ordered_nil

theorem ordered_map_values (change : α → β) {entries : List (String × α)}
    (ordered : Ordered entries) :
    Ordered (entries.map fun entry => (entry.1, change entry.2)) :=
  List.pairwise_map.2 ordered

end Entries

/-! ## Dictionaries -/

/-- Entries in key order, one for each key. -/
structure Dictionary (α : Type) where
  entries : List (String × α)
  ordered : Entries.Ordered entries

namespace Dictionary

variable {α β : Type}

@[ext] theorem ext {left right : Dictionary α} (same : left.entries = right.entries) :
    left = right := by
  cases left; cases right; cases same; rfl

instance [DecidableEq α] : DecidableEq (Dictionary α) := fun left right =>
  if same : left.entries = right.entries then .isTrue (ext same)
  else .isFalse fun equal => same (congrArg entries equal)

instance [Repr α] : Repr (Dictionary α) := ⟨fun dictionary => reprPrec dictionary.entries⟩

/-- Equal when the entries are, key by key. -/
instance [BEq α] : BEq (Dictionary α) := ⟨fun left right => left.entries == right.entries⟩

/-- The dictionary without entries. -/
def empty : Dictionary α := ⟨[], Entries.ordered_nil⟩

instance : EmptyCollection (Dictionary α) := ⟨empty⟩

instance : Inhabited (Dictionary α) := ⟨empty⟩

/-- The dictionary of a list of entries, in which the last entry of a key counts. -/
def ofList (entries : List (String × α)) : Dictionary α :=
  ⟨Entries.ofList entries, Entries.ordered_ofList entries⟩

def get? (dictionary : Dictionary α) (key : String) : Option α :=
  Entries.find? key dictionary.entries

def contains (dictionary : Dictionary α) (key : String) : Bool :=
  (dictionary.get? key).isSome

def keys (dictionary : Dictionary α) : List String :=
  dictionary.entries.map Prod.fst

def size (dictionary : Dictionary α) : Nat := dictionary.entries.length

def isEmpty (dictionary : Dictionary α) : Bool := dictionary.entries.isEmpty

def insert (dictionary : Dictionary α) (key : String) (value : α) : Dictionary α :=
  ⟨Entries.insert key value dictionary.entries, Entries.ordered_insert _ _ dictionary.ordered⟩

/-- Only the entries whose key passes the test. -/
def filterKeys (keep : String → Bool) (dictionary : Dictionary α) : Dictionary α :=
  ⟨dictionary.entries.filter fun entry => keep entry.1, dictionary.ordered.filter _⟩

/-- Only the entries that pass the test. -/
def filter (keep : String → α → Bool) (dictionary : Dictionary α) : Dictionary α :=
  ⟨dictionary.entries.filter fun entry => keep entry.1 entry.2, dictionary.ordered.filter _⟩

def erase (dictionary : Dictionary α) (key : String) : Dictionary α :=
  dictionary.filterKeys (· != key)

/-- Both dictionaries' entries; where they share a key the added one counts. -/
def extend (dictionary added : Dictionary α) : Dictionary α :=
  ⟨added.entries.foldl (fun held entry => Entries.insert entry.1 entry.2 held)
      dictionary.entries,
    Entries.ordered_foldl_insert _ dictionary.ordered⟩

def mapValues (change : α → β) (dictionary : Dictionary α) : Dictionary β :=
  ⟨dictionary.entries.map fun entry => (entry.1, change entry.2),
    Entries.ordered_map_values _ dictionary.ordered⟩

@[simp] theorem entries_empty : (empty : Dictionary α).entries = [] := rfl

@[simp] theorem get?_empty (key : String) : (empty : Dictionary α).get? key = none := rfl

@[simp] theorem entries_mapValues (change : α → β) (dictionary : Dictionary α) :
    (dictionary.mapValues change).entries
      = dictionary.entries.map fun entry => (entry.1, change entry.2) := rfl

@[simp] theorem keys_mapValues (change : α → β) (dictionary : Dictionary α) :
    (dictionary.mapValues change).keys = dictionary.keys := by
  simp [keys]

end Dictionary

end Converge
