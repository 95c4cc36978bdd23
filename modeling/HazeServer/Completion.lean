import HazeServer.Catalog
import HazeServer.Shape.Completion

/-! # Completion items

Completion offers the whole catalogue whatever the position. An item carries its label and the
number of its kind; detail and documentation are filled in when the client asks for them.
-/

namespace HazeServer

/-- A completion item; members the server has no use for are kept as they are. -/
structure CompletionItem where
  label : String
  data : Json := .null
  detail : Option String := none
  documentation : Option Json := none
  members : List (String × Json) := []
  deriving Repr, Inhabited

namespace CompletionItem

/-- The members that have a field of their own. -/
def ownMembers : List String := ["label", "data", "detail", "documentation"]

/-- The item of members that have its shape. -/
def ofMembers (members : List (String × Json)) : CompletionItem :=
  let textOf (name : String) := match Table.getEntry name members with
    | some (.text value) => some value
    | _ => none
  { label := (textOf "label").getD ""
    data := (Table.getEntry "data" members).getD .null
    detail := textOf "detail"
    documentation := Table.getEntry "documentation" members
    members := members.filter fun member => member.1 ∉ ownMembers }

/-- The item of a JSON object, if it has the shape of one. -/
def ofJson (json : Json) : Except Fault CompletionItem :=
  (Shape.fitAll "CompletionItem" Shape.completionItem json).map ofMembers

/-- The JSON object of an item; data that is null is absent. -/
def toJson (item : CompletionItem) : Json :=
  .object ([("label", .text item.label)] ++ item.members
    ++ Json.optional "detail" (item.detail.map .text)
    ++ Json.optional "documentation" item.documentation
    ++ Json.unlessNull "data" item.data)

/-- The number of the item kind for keywords. -/
def keywordKind : Nat := 14

/-- The item of a catalogue entry, not yet filled in. -/
def ofEntry (entry : CatalogEntry) : CompletionItem :=
  { label := entry.label
    data := .int entry.kind.number
    members := [("kind", .int keywordKind)] }

/-- The item with the detail and documentation of an entry. -/
def filledIn (item : CompletionItem) (entry : CatalogEntry) : CompletionItem :=
  { item with detail := some entry.label, documentation := some (.text entry.documentation) }

end CompletionItem

/-- The items of the whole catalogue. -/
def keywordItems : List CompletionItem :=
  catalog.map .ofEntry

/-- Fill in an item by its data; items that are not of the catalogue are not recognised. -/
def resolveKeyword (item : CompletionItem) : Option CompletionItem :=
  match catalogLookup item.data with
  | .ok entry => some (item.filledIn entry)
  | .error _ => none

end HazeServer
