import Converge.Text.Quoted

/-!
# Values shown to operators

The one-line form in which records show up in messages: the name, then the fields in
braces. A secret shows only whether it is there.
-/

namespace Converge.Text

/-- An optional value, by the way its value is shown. -/
def shownOption {α : Type} (shown : α → String) : Option α → String
  | some value => "Some(" ++ shown value ++ ")"
  | none => "None"

/-- A list, by the way its items are shown. -/
def shownList {α : Type} (shown : α → String) (items : List α) : String :=
  "[" ++ ", ".intercalate (items.map shown) ++ "]"

/-- What is shown in place of a secret. -/
def redacted : String := "<redacted>"

/-- An optional text. -/
def shownText (value : Option String) : String := shownOption quoted value

/-- An optional secret. -/
def shownSecret (value : Option String) : String := shownOption (fun _ => quoted redacted) value

/-- Fields as they stand between the braces. -/
def shownFields (fields : List (String × String)) : List String :=
  fields.map fun (name, value) => name ++ ": " ++ value

/-- A record with all its fields. -/
def shownRecord (name : String) (fields : List (String × String)) : String :=
  name ++ " \x7b " ++ ", ".intercalate (shownFields fields) ++ " \x7d"

/-- A record of which only some fields are shown. -/
def shownPartly (name : String) (fields : List (String × String)) : String :=
  name ++ " \x7b " ++ ", ".intercalate (shownFields fields ++ [".."]) ++ " \x7d"

end Converge.Text
