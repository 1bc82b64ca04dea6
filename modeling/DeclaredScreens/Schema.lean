import DeclaredScreens.Element.Codec
import DeclaredScreens.Endpoint

/-! A screen as it is declared: the base of its addresses, the endpoints of its actions, its
drawers under their names, and its page elements. -/

namespace DeclaredScreens

structure DrawerDefinition where
  title : Option String
  description : Option String
  elements : List Element

structure Schema where
  baseUrl : String
  api : Registry
  drawers : Directory DrawerDefinition
  elements : List Element

namespace DrawerDefinition

def decode : Decoder DrawerDefinition :=
  .fields ["title", "description", "elements"] fun scope m =>
    DrawerDefinition.mk <$> m.field scope "title" (.optional .string) (some none)
      <*> m.field scope "description" (.optional .string) (some none)
      <*> m.field scope "elements" (.arrayOf Element.decode) (some [])

def toJson (d : DrawerDefinition) : Json :=
  .object [("title", Json.textOrNull d.title), ("description", Json.textOrNull d.description),
    ("elements", .array (Element.toJsons d.elements))]

end DrawerDefinition

namespace Schema

def decode : Decoder Schema :=
  .fields ["base_url", "api", "drawers", "elements"] fun scope m =>
    Schema.mk <$> m.field scope "base_url" .string none
      <*> m.field scope "api" Registry.decode (some .empty)
      <*> m.field scope "drawers" (.directory DrawerDefinition.decode) (some .empty)
      <*> m.field scope "elements" (.arrayOf Element.decode) (some [])

def ofText (text : String) : Decoded Schema := Schema.decode.ofText text

def toJson (s : Schema) : Json :=
  .object [("base_url", .string s.baseUrl), ("api", s.api.toJson),
    ("drawers", .object (s.drawers.entries.map fun (name, d) => (name, d.toJson))),
    ("elements", .array (Element.toJsons s.elements))]

/-- The first element with the id: page elements before drawers, drawers in name order. -/
def findElement? (s : Schema) (id : String) : Option Element :=
  (Element.findIn? id s.elements).or
    (s.drawers.entries.findSome? fun (_, drawer) => Element.findIn? id drawer.elements)

/-- The first drawer, in name order, that holds an element with the id. -/
def drawerContaining? (s : Schema) (id : String) : Option String :=
  (s.drawers.entries.find? fun (_, drawer) => (Element.findIn? id drawer.elements).isSome).map
    Prod.fst

end Schema

end DeclaredScreens
