import Converge.Decode

/-!
# Envelopes of responses

Most responses of a stack carry their content in a member `data`; listings carry a page
of it.
-/

namespace Converge.Stack

open Decode

/-- A response with one content. -/
structure Data (α : Type) where
  content : α
deriving DecidableEq, Repr

/-- A page of a listing. -/
structure Page (α : Type) where
  items : List α
  hasMore : Bool
deriving DecidableEq, Repr

variable {σ α : Type} [Source σ]

def Data.decode (content : Decoder σ α) : Decoder σ (Data α) :=
  record "struct Data" ((Fields.none Data.mk).required "data" content)

def Data.toJson (content : α → Json) (data : Data α) : Json :=
  .ofEntries [("data", content data.content)]

/-- A page without the member that holds it. -/
def Page.decodeCursor (item : Decoder σ α) : Decoder σ (Page α) :=
  record "struct CursorPage"
    ((Fields.none Page.mk).defaulted "data" (list item) [] |>.defaulted "hasMore" bool false)

def Page.decode (item : Decoder σ α) : Decoder σ (Page α) :=
  record "struct Cursor" ((Fields.none id).required "cursor" (Page.decodeCursor item))

def Page.toJson (item : α → Json) (page : Page α) : Json :=
  .ofEntries [("cursor", .ofEntries [("data", .array (page.items.map item)),
    ("hasMore", .bool page.hasMore)])]

end Converge.Stack
