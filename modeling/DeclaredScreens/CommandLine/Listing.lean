import DeclaredScreens.Schema

/-! The listing of the verdicts of a screen: its elements, then those of each drawer under the
name of the drawer. An element that is hidden is never mounted, so nothing is listed below
it. -/

namespace DeclaredScreens

inductive ListingEntry
  | drawer (name : String)
  | element (depth : Nat) (element : Element) (verdict : Verdict)

namespace ListingEntry

def caption (e : Element) : String := ((e.id.or e.name).or e.header.label).getD "-"

def flag (b : Bool) : String := if b then "true" else "false"

def text : ListingEntry → String
  | drawer name => "drawer " ++ name
  | element depth e verdict =>
      String.ofList (List.replicate (2 * depth) ' ') ++ e.typeName ++ " " ++ caption e ++
        " visible=" ++ flag verdict.visible ++ " enabled=" ++ flag verdict.enabled

end ListingEntry

namespace Element

mutual

/-- The entry of an element, and of those below it if it is visible. -/
def listing (record : Record) (depth : Nat) (e : Element) : List ListingEntry :=
  let verdict := e.verdict record
  .element depth e verdict ::
    if verdict.visible then
      match e with
      | page _ _ elements => listingIn record (depth + 1) elements
      | group _ elements => listingIn record (depth + 1) elements
      | table _ columns rowActions =>
          listingIn record (depth + 1) columns ++ listingIn record (depth + 1) rowActions
      | form _ _ elements => listingIn record (depth + 1) elements
      | input .. => []
      | display .. => []
      | button .. => []
    else []

def listingIn (record : Record) (depth : Nat) : List Element → List ListingEntry
  | [] => []
  | e :: rest => listing record depth e ++ listingIn record depth rest

end

end Element

def Schema.listing (s : Schema) (record : Record) : List ListingEntry :=
  Element.listingIn record 0 s.elements ++
    s.drawers.entries.flatMap fun (name, drawer) =>
      .drawer name :: Element.listingIn record 1 drawer.elements

end DeclaredScreens
