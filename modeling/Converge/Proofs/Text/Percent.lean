import Converge.Text.Percent

/-!
# What percent encoding keeps apart

An encoded text is a row of units, one for each byte of the text. No unit begins another
one, so that units need no separators between them, and texts that are encoded alike are
equal. This holds of path segments and of query values.

The characters of encoded texts are letters, digits and a few marks. No separator of an
address is among them. Two encoded segments can still be taken for something else than what
they stand for, as `.` and `..` are encoded by themselves.
-/

namespace Converge.Text

/-! ## Bytes -/

private theorem toList_loop (bytes : ByteArray) (index : Nat) (read : List UInt8) :
    ByteArray.toList.loop bytes index read = read.reverse ++ bytes.data.toList.drop index := by
  induction index, read using ByteArray.toList.loop.induct bytes with
  | case1 index read within ih =>
      rw [ByteArray.toList.loop, if_pos within, ih]
      have bound : index < bytes.data.toList.length := by simpa using within
      have byte : bytes.get! index = bytes.data.toList[index] := by
        simp only [ByteArray.get!, Array.getElem_toList]
        exact getElem!_pos bytes.data index (by simpa using within)
      rw [List.drop_eq_getElem_cons bound, byte, List.reverse_cons, List.append_assoc]
      rfl
  | case2 index read beyond =>
      rw [ByteArray.toList.loop, if_neg beyond]
      have bound : bytes.data.toList.length ≤ index := by simpa using beyond
      rw [List.drop_eq_nil_of_le bound, List.append_nil]

/-- Texts with the same bytes are equal. -/
theorem eq_of_toUTF8 {text other : String}
    (same : text.toUTF8.toList = other.toUTF8.toList) : text = other := by
  rw [ByteArray.toList, toList_loop, ByteArray.toList, toList_loop] at same
  have data : text.toUTF8.data = other.toUTF8.data := Array.toList_inj.mp (by simpa using same)
  exact String.toByteArray_inj.mp (ByteArray.ext data)

/-- A byte as a character has the byte's number. -/
theorem toNat_ofNat_byte (byte : UInt8) : (Char.ofNat byte.toNat).toNat = byte.toNat := by
  have bound := byte.toNat_lt
  have valid : byte.toNat.isValidChar := Or.inl (by omega)
  rw [Char.ofNat, dif_pos valid]
  rfl

theorem ofNat_byte_inj {byte : UInt8} (other : UInt8)
    (same : Char.ofNat byte.toNat = Char.ofNat other.toNat) : byte = other := by
  have numbers := congrArg Char.toNat same
  rw [toNat_ofNat_byte, toNat_ofNat_byte] at numbers
  exact UInt8.toNat_inj.mp numbers

/-- What holds of the byte of each number holds of every byte. -/
theorem forall_byte {P : UInt8 → Prop} (each : ∀ n < 256, P (UInt8.ofNat n)) (byte : UInt8) :
    P byte := by
  have holds := each byte.toNat byte.toNat_lt
  rwa [UInt8.ofNat_toNat] at holds

/-! ## Units -/

/-- Where no unit is empty and each says what it stands for and where it ends, rows of units that
are written alike stand for the same. -/
theorem flatMap_inj_of_append_inj {α : Type} {unit : α → List Char}
    (nonempty : ∀ item, unit item ≠ [])
    (separate : ∀ {item other : α} {rest rest' : List Char},
      unit item ++ rest = unit other ++ rest' → item = other ∧ rest = rest')
    {items others : List α} (same : items.flatMap unit = others.flatMap unit) :
    items = others := by
  induction items generalizing others with
  | nil =>
      cases others with
      | nil => rfl
      | cons other others =>
          rw [List.flatMap_nil, List.flatMap_cons] at same
          have none := (List.append_eq_nil_iff.mp same.symm).1
          exact absurd none (nonempty other)
  | cons item items ih =>
      cases others with
      | nil =>
          rw [List.flatMap_nil, List.flatMap_cons] at same
          exact absurd (List.append_eq_nil_iff.mp same).1 (nonempty item)
      | cons other others =>
          rw [List.flatMap_cons, List.flatMap_cons] at same
          obtain ⟨rfl, rest⟩ := separate same
          rw [ih rest]

theorem upperHexDigit_inj :
    ∀ a < 16, ∀ b < 16, upperHexDigit a = upperHexDigit b → a = b := by decide

/-- The digits of a byte say which one it is, and where they end. -/
theorem percentByte_append_inj {byte other : UInt8} {rest rest' : List Char}
    (same : percentByte byte ++ rest = percentByte other ++ rest') :
    byte = other ∧ rest = rest' := by
  simp only [percentByte, List.cons_append, List.nil_append, List.cons.injEq, true_and] at same
  obtain ⟨high, low, rest⟩ := same
  have bound := byte.toNat_lt
  have bound' := other.toNat_lt
  have high := upperHexDigit_inj _ (by omega) _ (by omega) high
  have low := upperHexDigit_inj _ (by omega) _ (by omega) low
  exact ⟨UInt8.toNat_inj.mp (by omega), rest⟩

/-- Ways to write bytes that need no separators: a byte is written as a character of its
own, or as `%` with its digits. -/
structure Spelling (unit : UInt8 → List Char) : Prop where
  sign_or_digits : ∀ byte, (∃ c, unit byte = [c] ∧ c ≠ '%') ∨ unit byte = percentByte byte
  sign_inj : ∀ byte other c, unit byte = [c] → unit other = [c] → byte = other

namespace Spelling

variable {unit : UInt8 → List Char}

theorem unit_ne_nil (spelling : Spelling unit) (byte : UInt8) : unit byte ≠ [] := by
  obtain ⟨c, sign, -⟩ | digits := spelling.sign_or_digits byte
  · rw [sign]
    exact List.cons_ne_nil _ _
  · rw [digits]
    exact List.cons_ne_nil _ _

/-- A unit says which byte it is, and where it ends. -/
theorem append_inj (spelling : Spelling unit) {byte other : UInt8} {rest rest' : List Char}
    (same : unit byte ++ rest = unit other ++ rest') : byte = other ∧ rest = rest' := by
  obtain ⟨c, sign, plain⟩ | digits := spelling.sign_or_digits byte <;>
    obtain ⟨d, sign', plain'⟩ | digits' := spelling.sign_or_digits other
  · rw [sign, sign'] at same
    obtain ⟨rfl, rest⟩ := List.cons.inj same
    exact ⟨spelling.sign_inj byte other c sign sign', rest⟩
  · rw [sign, digits'] at same
    exact absurd (List.cons.inj same).1 plain
  · rw [digits, sign'] at same
    exact absurd (List.cons.inj same).1.symm plain'
  · rw [digits, digits'] at same
    exact percentByte_append_inj same

/-- Rows of units that are written alike are rows of the same bytes. -/
theorem flatMap_inj (spelling : Spelling unit) {bytes others : List UInt8}
    (same : bytes.flatMap unit = others.flatMap unit) : bytes = others :=
  flatMap_inj_of_append_inj spelling.unit_ne_nil spelling.append_inj same

end Spelling

theorem percentByte_ne_sign (byte : UInt8) (c : Char) : percentByte byte ≠ [c] := by
  simp [percentByte]

theorem percentUnit_spelling : Spelling percentUnit where
  sign_or_digits byte := by
    unfold percentUnit
    split
    next unreserved =>
      left
      refine ⟨_, rfl, ?_⟩
      intro percent
      have byte : byte = 37 := ofNat_byte_inj 37 percent
      rw [byte] at unreserved
      exact absurd unreserved (by decide)
    next => exact Or.inr rfl
  sign_inj byte other c sign sign' := by
    unfold percentUnit at sign sign'
    split at sign
    · split at sign'
      · exact ofNat_byte_inj _ (List.cons.inj (sign.trans sign'.symm)).1
      · exact absurd sign' (percentByte_ne_sign other c)
    · exact absurd sign (percentByte_ne_sign byte c)

/-- A byte of a query value is written as a character of its own when it is a blank, or when
it is kept. A plus sign is not kept. -/
theorem eq_of_formUnit_eq_sign {byte : UInt8} {c : Char} (sign : formUnit byte = [c]) :
    byte = 32 ∧ c = '+' ∨ byte ≠ 37 ∧ byte ≠ 43 ∧ c = Char.ofNat byte.toNat := by
  unfold formUnit at sign
  split at sign
  next blank =>
    exact Or.inl ⟨by simpa using blank, (List.cons.inj sign).1.symm⟩
  next =>
    split at sign
    next kept =>
      refine Or.inr ⟨?_, ?_, (List.cons.inj sign).1.symm⟩
      · rintro rfl
        exact absurd kept (by decide)
      · rintro rfl
        exact absurd kept (by decide)
    next => exact absurd sign (percentByte_ne_sign byte c)

theorem formUnit_spelling : Spelling formUnit where
  sign_or_digits byte := by
    by_cases sign : ∃ c, formUnit byte = [c]
    · obtain ⟨c, sign⟩ := sign
      refine Or.inl ⟨c, sign, ?_⟩
      rintro rfl
      obtain ⟨-, plus⟩ | ⟨percent, -, own⟩ := eq_of_formUnit_eq_sign sign
      · exact absurd plus (by decide)
      · exact percent (ofNat_byte_inj 37 own.symm)
    · right
      unfold formUnit at sign ⊢
      split
      next blank => exact absurd ⟨_, if_pos blank⟩ sign
      next blank =>
        split
        next kept => exact absurd ⟨_, (if_neg blank).trans (if_pos kept)⟩ sign
        next => rfl
  sign_inj byte other c sign sign' := by
    obtain ⟨blank, plus⟩ | ⟨-, plain, own⟩ := eq_of_formUnit_eq_sign sign <;>
      obtain ⟨blank', plus'⟩ | ⟨-, plain', own'⟩ := eq_of_formUnit_eq_sign sign'
    · rw [blank, blank']
    · exact absurd (ofNat_byte_inj 43 (own'.symm.trans plus)) plain'
    · exact absurd (ofNat_byte_inj 43 (own.symm.trans plus')) plain
    · exact ofNat_byte_inj _ (own.symm.trans own')

/-! ## Texts -/

/-- Texts that make the same path segment are equal. -/
theorem percentEncode_inj {text other : String}
    (same : percentEncode text = percentEncode other) : text = other :=
  eq_of_toUTF8 (percentUnit_spelling.flatMap_inj same)

/-- Texts that make the same query value are equal. -/
theorem formEncode_inj {text other : String}
    (same : formEncode text = formEncode other) : text = other :=
  eq_of_toUTF8 (formUnit_spelling.flatMap_inj same)

/-! ## Characters of encoded texts -/

/-- Whether a character occurs in encoded texts: letters, digits and some marks. -/
def isPlain (c : Char) : Bool :=
  c.isAlphanum || ['%', '*', '+', '-', '.', '_', '~'].contains c

theorem lt_of_isPlain {c : Char} (plain : isPlain c = true) : c.toNat < 128 := by
  rw [isPlain, Bool.or_eq_true] at plain
  obtain letter | mark := plain
  · change (decide (65 ≤ c.val ∧ c.val ≤ 90) ||
      (decide (97 ≤ c.val) && decide (c.val ≤ 122)) ||
      (decide (48 ≤ c.val) && decide (c.val ≤ 57))) = true at letter
    simp only [Bool.or_eq_true, Bool.and_eq_true, decide_eq_true_eq,
      UInt32.le_iff_toNat_le] at letter
    obtain (upper | lower) | digit := letter
    · exact Nat.lt_of_le_of_lt upper.2 (by decide)
    · exact Nat.lt_of_le_of_lt lower.2 (by decide)
    · exact Nat.lt_of_le_of_lt digit.2 (by decide)
  · rw [List.contains_iff_mem] at mark
    have marks : ['%', '*', '+', '-', '.', '_', '~'].all fun c => decide (c.toNat < 128) := by
      decide
    exact of_decide_eq_true (List.all_eq_true.mp marks c mark)

theorem percentUnit_plain : ∀ n < 256, (percentUnit (UInt8.ofNat n)).all isPlain = true := by
  decide +kernel

theorem formUnit_plain : ∀ n < 256, (formUnit (UInt8.ofNat n)).all isPlain = true := by
  decide +kernel

theorem plain_of_mem_percentEncode {text : String} {c : Char} (mem : c ∈ percentEncode text) :
    isPlain c = true := by
  obtain ⟨byte, -, mem⟩ := List.mem_flatMap.mp mem
  exact List.all_eq_true.mp
    (forall_byte (P := fun byte => (percentUnit byte).all isPlain = true) percentUnit_plain byte)
    c mem

theorem plain_of_mem_formEncode {text : String} {c : Char} (mem : c ∈ formEncode text) :
    isPlain c = true := by
  obtain ⟨byte, -, mem⟩ := List.mem_flatMap.mp mem
  exact List.all_eq_true.mp
    (forall_byte (P := fun byte => (formUnit byte).all isPlain = true) formUnit_plain byte) c mem

/-! ## Dots -/

/-- The spellings of a dot in an address, in lower case. -/
def dots : List (List Char) := [['.'], ['%', '2', 'e']]

/-- No byte but the dot is written as the beginning of a dot, or begins with one. -/
theorem percentUnit_ne_dot : ∀ n < 256, n ≠ 46 → ∀ dot ∈ dots,
    ¬dot <+: (percentUnit (UInt8.ofNat n)).map Char.toLower ∧
      ¬(percentUnit (UInt8.ofNat n)).map Char.toLower <+: dot := by decide +kernel

/-- A row of units that begins with a dot is one of bytes that begin with a dot. -/
theorem exists_of_flatMap_percentUnit {bytes : List UInt8} {dot rest : List Char}
    (isDot : dot ∈ dots)
    (begins : (bytes.flatMap percentUnit).map Char.toLower = dot ++ rest) :
    ∃ behind, bytes = 46 :: behind ∧ (behind.flatMap percentUnit).map Char.toLower = rest := by
  cases bytes with
  | nil =>
      have none : dot = [] := (List.append_eq_nil_iff.mp begins.symm).1
      rw [none] at isDot
      exact absurd isDot (by decide)
  | cons byte behind =>
      rw [List.flatMap_cons, List.map_append] at begins
      by_cases isByte : byte = 46
      · subst isByte
        have unit : (percentUnit 46).map Char.toLower = ['.'] := by decide
        rw [unit] at begins
        refine ⟨behind, rfl, ?_⟩
        simp only [dots, List.mem_cons, List.not_mem_nil, or_false] at isDot
        obtain rfl | rfl := isDot
        · exact (List.cons.inj begins).2
        · exact absurd (List.cons.inj begins).1 (by decide)
      -- of the unit and the dot one would begin the other, as they begin the same row
      · have apart := forall_byte (P := fun byte => byte ≠ 46 → ∀ dot ∈ dots,
          ¬dot <+: (percentUnit byte).map Char.toLower ∧
            ¬(percentUnit byte).map Char.toLower <+: dot)
          (fun n bound other => percentUnit_ne_dot n bound (by rintro rfl; exact other rfl))
          byte isByte dot isDot
        have front := List.prefix_append dot rest
        have unit := List.prefix_append ((percentUnit byte).map Char.toLower)
          ((behind.flatMap percentUnit).map Char.toLower)
        rw [begins] at unit
        obtain longer | shorter := List.prefix_or_prefix_of_prefix front unit
        · exact absurd longer apart.1
        · exact absurd shorter apart.2

/-- Only bytes that are not there are written as nothing. -/
theorem eq_nil_of_flatMap_percentUnit {bytes : List UInt8}
    (none : (bytes.flatMap percentUnit).map Char.toLower = []) : bytes = [] := by
  have same : bytes.flatMap percentUnit = [].flatMap percentUnit := List.map_eq_nil_iff.mp none
  exact percentUnit_spelling.flatMap_inj same

/-- The one text whose segment is spelled as a dot. -/
theorem eq_dot_of_percentEncode {text : String} {dot : List Char} (isDot : dot ∈ dots)
    (spelled : (percentEncode text).map Char.toLower = dot) : text = "." := by
  rw [← List.append_nil dot] at spelled
  obtain ⟨behind, bytes, none⟩ := exists_of_flatMap_percentUnit isDot spelled
  rw [eq_nil_of_flatMap_percentUnit none] at bytes
  exact eq_of_toUTF8 (bytes.trans (by decide +kernel))

/-- The one text whose segment is spelled as two dots. -/
theorem eq_dots_of_percentEncode {text : String} {dot dot' : List Char}
    (isDot : dot ∈ dots) (isDot' : dot' ∈ dots)
    (spelled : (percentEncode text).map Char.toLower = dot ++ dot') : text = ".." := by
  obtain ⟨behind, bytes, rest⟩ := exists_of_flatMap_percentUnit isDot spelled
  rw [← List.append_nil dot'] at rest
  obtain ⟨behind', bytes', none⟩ := exists_of_flatMap_percentUnit isDot' rest
  rw [bytes', eq_nil_of_flatMap_percentUnit none] at bytes
  exact eq_of_toUTF8 (bytes.trans (by decide +kernel))

end Converge.Text
