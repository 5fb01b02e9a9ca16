/-!
# Blank text

A text is blank when it holds nothing but whitespace, in the sense of the Unicode
property `White_Space`. Names that have to be given may not be blank.
-/

namespace Converge.Text

/-- Whether a character has the property `White_Space`. -/
def isSpace (c : Char) : Bool :=
  let code := c.toNat
  (9 ≤ code && code ≤ 13) || code == 0x20 || code == 0x85 || code == 0xA0 || code == 0x1680 ||
  (0x2000 ≤ code && code ≤ 0x200A) || code == 0x2028 || code == 0x2029 || code == 0x202F ||
  code == 0x205F || code == 0x3000

/-- The characters without the whitespace in front of them. -/
def trimLeft (characters : List Char) : List Char := characters.dropWhile isSpace

/-- The characters without the whitespace on both sides. -/
def trim (characters : List Char) : List Char :=
  (trimLeft (trimLeft characters).reverse).reverse

/-- Whether a text holds nothing but whitespace. -/
def isBlank (text : String) : Bool := text.toList.all isSpace

theorem trimLeft_eq_nil_iff {characters : List Char} :
    trimLeft characters = [] ↔ characters.all isSpace = true := by
  induction characters with
  | nil => simp [trimLeft]
  | cons c rest ih =>
    by_cases h : isSpace c = true
    · rw [List.all_cons, h, Bool.true_and, ← ih]
      simp only [trimLeft, List.dropWhile_cons, h, if_true]
    · simp [trimLeft, List.dropWhile, h]

/-- A text is blank when trimming leaves nothing. -/
theorem isBlank_iff_trim {text : String} : isBlank text = true ↔ trim text.toList = [] := by
  simp only [isBlank, trim, List.reverse_eq_nil_iff]
  constructor
  · intro h
    rw [trimLeft_eq_nil_iff.2 h]
    rfl
  · intro h
    rw [trimLeft_eq_nil_iff] at h
    by_cases hn : trimLeft text.toList = []
    · exact trimLeft_eq_nil_iff.1 hn
    · have hh := List.head_dropWhile_not isSpace hn
      rw [List.all_reverse, List.all_eq_true] at h
      have := h _ (List.head_mem hn)
      simp_all [trimLeft]

end Converge.Text
