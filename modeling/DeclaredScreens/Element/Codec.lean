import DeclaredScreens.Element.Basic

/-! The written form of elements. The member `type` tells the kind of an element and may stand
anywhere among its members, so the members that belong to the kind are set aside until all of
them have been seen. Buttons carry an action told by its member `kind` in the same way. -/

namespace DeclaredScreens

namespace ButtonAction

def api.decode : Decoder.Variant ButtonAction :=
  ⟨["action", "confirm", "notification", "send_row"], fun scope m =>
    ButtonAction.api <$> m.field scope "action" .string none
      <*> m.field scope "confirm" (.optional .string) (some none)
      <*> m.field scope "notification" (.optional Notification.decode) (some none)
      <*> m.field scope "send_row" .bool (some false)⟩

def drawer.decode : Decoder.Variant ButtonAction :=
  ⟨["drawer"], fun scope m => ButtonAction.drawer <$> m.field scope "drawer" .string none⟩

def navigate.decode : Decoder.Variant ButtonAction :=
  ⟨["path"], fun scope m => ButtonAction.navigate <$> m.field scope "path" .string none⟩

def decode : Decoder ButtonAction :=
  .tagged "kind" [("api", api.decode), ("drawer", drawer.decode), ("navigate", navigate.decode)]

def toJson : ButtonAction → Json
  | api action confirm notification sendRow =>
      .object [("kind", .string "api"), ("action", .string action),
        ("confirm", Json.textOrNull confirm),
        ("notification", Json.orNull (notification.map (·.toJson))),
        ("send_row", .bool sendRow)]
  | drawer name => .object [("kind", .string "drawer"), ("drawer", .string name)]
  | navigate path => .object [("kind", .string "navigate"), ("path", .string path)]

end ButtonAction

namespace ElementHeader

def fieldNames : List String := ["id", "name", "label", "required", "rules"]

def read (scope : Scope) (m : Members) : Placed ElementHeader :=
  ElementHeader.mk <$> m.field scope "id" (.optional .string) (some none)
    <*> m.field scope "name" (.optional .string) (some none)
    <*> m.field scope "label" (.optional .string) (some none)
    <*> m.field scope "required" .bool (some false)
    <*> m.field scope "rules" (.optional (.arrayOf Rule.decode)) (some none)

def members (h : ElementHeader) : List (String × Json) :=
  Json.memberIf "id" (h.id.map .string) ++ Json.memberIf "name" (h.name.map .string) ++
    Json.memberIf "label" (h.label.map .string) ++ [("required", .bool h.required)] ++
    Json.memberIf "rules" (h.rules.map fun rules => .array (rules.map (·.toJson)))

end ElementHeader

namespace Element

inductive Kind
  | page | group | table | form | input | display | button
deriving DecidableEq

def Kind.byTag : List (String × Kind) :=
  [("page", .page), ("group", .group), ("table", .table), ("form", .form), ("input", .input),
    ("display", .display), ("button", .button)]

def Kind.read (kind : Kind) (children : Decoder (List Element)) (header : ElementHeader)
    (scope : Scope) (m : Members) : Placed Element :=
  let elements (name : String) := m.field scope name children (some [])
  match kind with
  | .page =>
      Element.page header <$> m.field scope "title" (.optional .string) (some none)
        <*> elements "elements"
  | .group => Element.group header <$> elements "elements"
  | .table => Element.table header <$> elements "columns" <*> elements "row_actions"
  | .form =>
      (fun action active defaults notification =>
          Element.form header ⟨action, active, defaults, notification⟩)
        <$> m.field scope "action" (.optional .string) (some none)
        <*> m.field scope "use_active_record" .bool (some false)
        <*> m.field scope "default_values" (.optional .record) (some none)
        <*> m.field scope "notification" (.optional Notification.decode) (some none)
        <*> elements "elements"
  | .input => Element.input header <$> m.field scope "format" (.optional .string) (some none)
  | .display => .ok (.display header)
  | .button => Element.button header <$> m.field scope "action" ButtonAction.decode none

def readArray (element : Raw → Decoded Element) : Decoder (List Element)
  | ⟨_, _ + 1⟩, .array items => Decoder.items element items
  | _, _ => .error .mismatch

/-- An element within a number of brackets. Only the members of the header are read from the
text itself; the others are set aside first. -/
def decodeWithin : Nat → Provenance → Raw → Decoded Element
  | 0, _, _ => .error .mismatch
  | room + 1, provenance, .object entries => do
      let m : Members := ⟨entries, true⟩
      let others := Members.others ElementHeader.fieldNames (Decoder.setAside room) 0 entries
      let header ← ((fun h _ => h) <$> ElementHeader.read ⟨provenance, room⟩ m <*> others).decoded
      let rest := m.without ElementHeader.fieldNames
      let kind ← (rest.field ⟨.aside, room⟩ "type" (.tag Kind.byTag) none).decoded
      let child : Raw → Decoded Element :=
        match room with
        | 0 => fun _ => .error .mismatch
        | inner + 1 => decodeWithin inner .aside
      (kind.read (readArray child) header ⟨.aside, room⟩ rest).decoded
  | _ + 1, _, _ => .error .mismatch

def decode : Decoder Element := fun scope raw => decodeWithin scope.room scope.provenance raw

mutual

def toJson : Element → Json
  | page h title elements =>
      .object (h.members ++ [("type", .string "page"), ("title", Json.textOrNull title),
        ("elements", .array (toJsons elements))])
  | group h elements =>
      .object (h.members ++ [("type", .string "group"), ("elements", .array (toJsons elements))])
  | table h columns rowActions =>
      .object (h.members ++ [("type", .string "table"), ("columns", .array (toJsons columns)),
        ("row_actions", .array (toJsons rowActions))])
  | form h settings elements =>
      .object (h.members ++ [("type", .string "form"),
        ("action", Json.textOrNull settings.action),
        ("use_active_record", .bool settings.usesActiveRecord),
        ("default_values", Json.orNull (settings.defaults.map .object)),
        ("notification", Json.orNull (settings.notification.map (·.toJson))),
        ("elements", .array (toJsons elements))])
  | input h format =>
      .object (h.members ++ [("type", .string "input"), ("format", Json.textOrNull format)])
  | display h => .object (h.members ++ [("type", .string "display")])
  | button h action =>
      .object (h.members ++ [("type", .string "button"), ("action", action.toJson)])

def toJsons : List Element → List Json
  | [] => []
  | e :: rest => e.toJson :: toJsons rest

end

end Element

end DeclaredScreens
