import Converge.Json.Reading

/-!
# Where a reading breaks off

Reading stops at the first fault of a text, and every container that is open there breaks off with
it. A document whose outermost value has been read to its end therefore has nothing in it that
breaks off, however deep: whoever skips a member of it, skips it without a fault.
-/

namespace Converge.Json.Reading

/-- A value that breaks off itself. -/
inductive BreaksOff : Reading → Prop where
  | broken (fault : Fault) : BreaksOff (.broken fault)
  | string {value : Quoted} {fault : Fault} (broken : value.broken = some fault) :
      BreaksOff (.string value)
  | array (items : List Reading) (fault : Fault) : BreaksOff (.array items (some fault))
  | object (fields : List (Quoted × Reading)) (fault : Fault) :
      BreaksOff (.object fields (some fault))

/-- Nothing in the value breaks off, or the value itself does. -/
def Settled (value : Reading) : Prop := value.skipFault? = none ∨ value.BreaksOff

/-- Nothing breaks off in what a container that is still open holds so far. -/
def Frame.Whole : Frame → Prop
  | .array items => ∀ item ∈ items, item.skipFault? = none
  | .object fields key =>
    key.broken = none ∧ ∀ field ∈ fields, field.1.broken = none ∧ field.2.skipFault? = none

theorem skipItems?_eq_none_iff {items : List Reading} :
    skipItems? items = none ↔ ∀ item ∈ items, item.skipFault? = none := by
  induction items with
  | nil => simp [skipItems?]
  | cons item items ih => rw [skipItems?, Option.or_eq_none_iff, ih, List.forall_mem_cons]

theorem skipFields?_eq_none_iff {fields : List (Quoted × Reading)} :
    skipFields? fields = none ↔
      ∀ field ∈ fields, field.1.broken = none ∧ field.2.skipFault? = none := by
  induction fields with
  | nil => simp [skipFields?]
  | cons field fields ih =>
      rw [skipFields?, Option.or_eq_none_iff, Option.or_eq_none_iff, ih, List.forall_mem_cons]

/-- A list that ends behind an item holds the items in front of it and the item. -/
theorem skipFault?_array {items : List Reading} {value : Reading}
    (isOpen : (Frame.array items).Whole) (whole : value.skipFault? = none) :
    (Reading.array (value :: items).reverse none).skipFault? = none := by
  rw [skipFault?, Option.or_none, skipItems?_eq_none_iff]
  intro item isItem
  rw [List.mem_reverse, List.mem_cons] at isItem
  rcases isItem with rfl | isItem
  · exact whole
  · exact isOpen item isItem

theorem skipFault?_object {fields : List (Quoted × Reading)} {key : Quoted} {value : Reading}
    (isOpen : (Frame.object fields key).Whole) (whole : value.skipFault? = none) :
    (Reading.object ((key, value) :: fields).reverse none).skipFault? = none := by
  rw [skipFault?, Option.or_none, skipFields?_eq_none_iff]
  intro field isField
  rw [List.mem_reverse, List.mem_cons] at isField
  rcases isField with rfl | isField
  · exact ⟨isOpen.1, whole⟩
  · exact isOpen.2 field isField

/-- What breaks off does so in every container around it. -/
theorem BreaksOff.breakOff {value : Reading} (breaksOff : value.BreaksOff) (fault : Fault)
    (frames : List Frame) : (Reading.breakOff fault value frames).BreaksOff := by
  induction frames generalizing value with
  | nil => exact breaksOff
  | cons frame frames ih =>
      cases frame with
      | array items => exact ih (.array _ fault)
      | object fields key => exact ih (.object _ fault)

theorem breaksOff_breakOff_cons (fault : Fault) (value : Reading) (frame : Frame)
    (frames : List Frame) : (Reading.breakOff fault value (frame :: frames)).BreaksOff := by
  cases frame with
  | array items => exact (BreaksOff.array _ fault).breakOff fault frames
  | object fields key => exact (BreaksOff.object _ fault).breakOff fault frames

/-- Whatever is read of fewer tokens than the bound settles: with open containers that are whole so
far, values come to an end or the whole document breaks off. -/
structure SettlesBelow (bound : Nat) : Prop where
  readValue : ∀ frames tokens, tokens.length < bound → (∀ frame ∈ frames, frame.Whole) →
    (readValue frames tokens).1.Settled
  readMember : ∀ fields key frames tokens, tokens.length < bound →
    (∀ field ∈ fields, field.1.broken = none ∧ field.2.skipFault? = none) →
    (∀ frame ∈ frames, frame.Whole) → (readMember fields key frames tokens).1.Settled
  resume : ∀ value frames tokens, tokens.length < bound → value.skipFault? = none →
    (∀ frame ∈ frames, frame.Whole) → (resume value frames tokens).1.Settled

theorem SettlesBelow.mono {bound limit : Nat} (below : SettlesBelow limit)
    (within : bound ≤ limit) : SettlesBelow bound where
  readValue frames tokens shorter :=
    below.readValue frames tokens (Nat.lt_of_lt_of_le shorter within)
  readMember fields key frames tokens shorter :=
    below.readMember fields key frames tokens (Nat.lt_of_lt_of_le shorter within)
  resume value frames tokens shorter :=
    below.resume value frames tokens (Nat.lt_of_lt_of_le shorter within)

section Steps

variable {frames : List Frame} {tokens : List Token}

theorem readValue_settled (below : SettlesBelow tokens.length)
    (whole : ∀ frame ∈ frames, frame.Whole) : (readValue frames tokens).1.Settled := by
  unfold readValue
  split
  next => exact below.resume _ _ _ (by simp) rfl whole
  next => exact below.resume _ _ _ (by simp) rfl whole
  next => exact below.resume _ _ _ (by simp) rfl whole
  next =>
    split
    next broken => exact .inr ((BreaksOff.string broken).breakOff _ _)
    next ends => exact below.resume _ _ _ (by simp) ends whole
  next => exact below.resume _ _ _ (by grind) rfl whole
  next =>
    split
    next => exact .inr ((BreaksOff.array _ _).breakOff _ _)
    next =>
      refine below.readValue _ _ (by simp) (List.forall_mem_cons.mpr ⟨?_, whole⟩)
      exact List.forall_mem_nil _
  next => exact below.resume _ _ _ (by grind) rfl whole
  next => exact below.readMember _ _ _ _ (by grind) (List.forall_mem_nil _) whole
  next => exact .inr ((BreaksOff.object _ _).breakOff _ _)
  next => exact .inr ((BreaksOff.object _ _).breakOff _ _)
  next => exact .inr ((BreaksOff.broken _).breakOff _ _)

theorem readMember_settled {fields : List (Quoted × Reading)} {key : Quoted}
    (below : SettlesBelow tokens.length)
    (held : ∀ field ∈ fields, field.1.broken = none ∧ field.2.skipFault? = none)
    (whole : ∀ frame ∈ frames, frame.Whole) :
    (readMember fields key frames tokens).1.Settled := by
  unfold readMember
  split
  next =>
    split
    next => exact .inr (breaksOff_breakOff_cons _ _ _ _)
    next ends =>
      exact below.readValue _ _ (by simp) (List.forall_mem_cons.mpr ⟨⟨ends, held⟩, whole⟩)
  next => exact .inr (breaksOff_breakOff_cons _ _ _ _)

theorem resume_settled {value : Reading} (below : SettlesBelow tokens.length)
    (ends : value.skipFault? = none) (whole : ∀ frame ∈ frames, frame.Whole) :
    (resume value frames tokens).1.Settled := by
  -- Either a container ends or goes on, and what is held stays whole, or reading stops here and
  -- the containers around break off.
  unfold resume
  split
  next => exact .inl ends
  next =>
    obtain ⟨isOpen, around⟩ := List.forall_mem_cons.mp whole
    exact below.resume _ _ _ (by simp) (skipFault?_array isOpen ends) around
  next => exact .inr (breaksOff_breakOff_cons _ _ _ _)
  next => exact .inr (breaksOff_breakOff_cons _ _ _ _)
  next =>
    obtain ⟨isOpen, around⟩ := List.forall_mem_cons.mp whole
    refine below.readValue _ _ (by simp) (List.forall_mem_cons.mpr ⟨?_, around⟩)
    exact List.forall_mem_cons.mpr ⟨ends, isOpen⟩
  next => exact .inr (breaksOff_breakOff_cons _ _ _ _)
  next => exact .inr (breaksOff_breakOff_cons _ _ _ _)
  next =>
    obtain ⟨isOpen, around⟩ := List.forall_mem_cons.mp whole
    exact below.resume _ _ _ (by simp) (skipFault?_object isOpen ends) around
  next =>
    obtain ⟨isOpen, around⟩ := List.forall_mem_cons.mp whole
    refine below.readMember _ _ _ _ (by grind) (List.forall_mem_cons.mpr ⟨?_, isOpen.2⟩) around
    exact ⟨isOpen.1, ends⟩
  next => exact .inr (breaksOff_breakOff_cons _ _ _ _)
  next => exact .inr (breaksOff_breakOff_cons _ _ _ _)
  next => exact .inr (breaksOff_breakOff_cons _ _ _ _)
  next => exact .inr (breaksOff_breakOff_cons _ _ _ _)
  next => exact .inr (breaksOff_breakOff_cons _ _ _ _)

end Steps

theorem settlesBelow (bound : Nat) : SettlesBelow bound := by
  induction bound with
  | zero => exact ⟨nofun, nofun, nofun⟩
  | succ bound ih =>
      have below {tokens : List Token} (shorter : tokens.length < bound + 1) :
          SettlesBelow tokens.length := ih.mono (Nat.le_of_lt_succ shorter)
      constructor
      · intro frames tokens shorter whole
        exact readValue_settled (below shorter) whole
      · intro fields key frames tokens shorter held whole
        exact readMember_settled (below shorter) held whole
      · intro value frames tokens shorter ends whole
        exact resume_settled (below shorter) ends whole

/-- A member of a document that is read to its end is skipped without a fault. -/
theorem skipFields?_of_ofString {text : String} {fields : List (Quoted × Reading)} {trailing : Bool}
    (read : Text.ofString text = ⟨.object fields none, trailing⟩) : skipFields? fields = none := by
  have settled :=
    readValue_settled (settlesBelow (tokens text.toList).length) (List.forall_mem_nil _)
  have root : (readValue [] (tokens text.toList)).1 = .object fields none := congrArg Text.root read
  rw [root] at settled
  rcases settled with whole | breaksOff
  · rwa [skipFault?, Option.or_none] at whole
  · cases breaksOff

end Converge.Json.Reading
