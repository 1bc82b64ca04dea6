import DeclaredScreens.Proofs.Decoders
import DeclaredScreens.Schema

/-! What is declared survives its written form. The members of a header stand among those of the
kind of its element, options are left out or written as null, and tags are told apart by name; no
name stands for two things, so each decoder finds what was written for it. -/

namespace DeclaredScreens

theorem Endpoint.reads (e : Endpoint) : Endpoint.decode.Reads e.toJson e := by
  refine Decoder.reads_fields (by simp) (by simp) fun scope w => ?_
  rw [w.field "method" rfl (Decoder.reads_string e.method),
    w.field "path" rfl (Decoder.reads_string e.path)]
  rfl

theorem Notification.reads (n : Notification) : Notification.decode.Reads n.toJson n := by
  refine Decoder.reads_fields (by simp) (by simp) fun scope w => ?_
  rw [w.field "success" rfl (Decoder.reads_text n.success),
    w.field "error" rfl (Decoder.reads_text n.error)]
  rfl

section Rules

theorem Operator.reads (o : Operator) : Operator.decode.Reads o.toJson o :=
  Decoder.reads_enumeration (by cases o <;> rfl)

theorem Effect.reads (e : Effect) : Effect.decode.Reads e.toJson e :=
  Decoder.reads_enumeration (by cases e <;> rfl)

def Condition.isDistinct (c : Condition) : Bool := c.values.all Json.isDistinct

theorem Condition.reads {c : Condition} (distinct : c.isDistinct = true) :
    Condition.decode.Reads c.toJson c := by
  have values : (Decoder.arrayOf .value).Reads (.array (c.values.map id)) c.values :=
    Decoder.reads_array fun v mem => Decoder.reads_value (List.all_eq_true.mp distinct v mem)
  rw [List.map_id] at values
  refine Decoder.reads_fields (by simp) (by simp) fun scope w => ?_
  rw [w.field "field" rfl (Decoder.reads_string c.field), w.field "operator" rfl c.operator.reads,
    w.field "values" rfl values]
  rfl

def Rule.isDistinct (r : Rule) : Bool := r.conditions.all Condition.isDistinct

theorem Rule.reads {r : Rule} (distinct : r.isDistinct = true) : Rule.decode.Reads r.toJson r := by
  have conditions : (Decoder.arrayOf Condition.decode).Reads
      (.array (r.conditions.map (·.toJson))) r.conditions :=
    Decoder.reads_array fun c mem => Condition.reads (List.all_eq_true.mp distinct c mem)
  refine Decoder.reads_fields (by simp) (by simp) fun scope w => ?_
  rw [w.field "effect" rfl r.effect.reads, w.field "conditions" rfl conditions]
  rfl

end Rules

theorem ButtonAction.reads (a : ButtonAction) : ButtonAction.decode.Reads a.toJson a := by
  cases a with
  | api action confirm notification sendRow =>
      have notices : (Decoder.optional Notification.decode).Reads
          (Json.orNull (notification.map (·.toJson))) notification :=
        Decoder.reads_optional (fun _ _ => nofun) fun n _ => n.reads
      refine Decoder.reads_tagged rfl (by simp) fun scope w => ?_
      simp only [api.decode]
      rw [w.field "action" rfl (Decoder.reads_string action),
        w.field "confirm" rfl (Decoder.reads_text confirm), w.field "notification" rfl notices,
        w.field "send_row" rfl (Decoder.reads_bool sendRow)]
      rfl
  | drawer name =>
      refine Decoder.reads_tagged rfl (by simp) fun scope w => ?_
      simp only [drawer.decode]
      rw [w.field "drawer" rfl (Decoder.reads_string name)]
      rfl
  | navigate path =>
      refine Decoder.reads_tagged rfl (by simp) fun scope w => ?_
      simp only [navigate.decode]
      rw [w.field "path" rfl (Decoder.reads_string path)]
      rfl

namespace ElementHeader

variable {h : ElementHeader}

def isDistinct (h : ElementHeader) : Bool := h.rules.all (·.all Rule.isDistinct)

theorem names_members (h : ElementHeader) : (h.members.map Prod.fst).Sublist fieldNames := by
  have all := ((((Json.names_memberIf "id" (h.id.map .string)).append
    (Json.names_memberIf "name" (h.name.map .string))).append
    (Json.names_memberIf "label" (h.label.map .string))).append (.refl ["required"])).append
    (Json.names_memberIf "rules" (h.rules.map fun rules => .array (rules.map (·.toJson))))
  simpa [members, fieldNames] using all

theorem lookup_members (h : ElementHeader) :
    h.members.lookup "id" = h.id.map .string ∧ h.members.lookup "name" = h.name.map .string ∧
    h.members.lookup "label" = h.label.map .string ∧
    h.members.lookup "required" = some (.bool h.required) ∧
    h.members.lookup "rules" = h.rules.map fun rules => .array (rules.map (·.toJson)) := by
  simp [members, List.lookup_append, Json.lookup_memberIf, Entries.lookup_cons_if]

theorem read_members (distinct : h.isDistinct = true) {others : List (String × Json)}
    {scope : Scope} (w : Members.Written (h.members ++ others) scope)
    (apart : ∀ name ∈ fieldNames, others.lookup name = none) :
    read scope (.ofJson (h.members ++ others)) = .ok h := by
  have found {name : String} {value : Option Json} (known : name ∈ fieldNames)
      (here : h.members.lookup name = value) : (h.members ++ others).lookup name = value := by
    rw [List.lookup_append, apart name known, Option.or_none, here]
  have rules : ∀ rules ∈ h.rules,
      (Decoder.arrayOf Rule.decode).Reads (.array (rules.map (·.toJson))) rules := by
    intro rules present
    have proper : rules.all Rule.isDistinct = true := by
      simpa [isDistinct, Option.mem_def.mp present] using distinct
    exact Decoder.reads_array fun r mem => Rule.reads (List.all_eq_true.mp proper r mem)
  obtain ⟨hasId, hasName, hasLabel, hasRequired, hasRules⟩ := h.lookup_members
  have texts (o : Option String) : ∀ s ∈ o, Decoder.string.Reads (.string s) s := fun s _ =>
    Decoder.reads_string s
  rw [read, w.field_if "id" (found (by decide) hasId) (fun _ _ => nofun) (texts h.id),
    w.field_if "name" (found (by decide) hasName) (fun _ _ => nofun) (texts h.name),
    w.field_if "label" (found (by decide) hasLabel) (fun _ _ => nofun) (texts h.label),
    w.field "required" (found (by decide) hasRequired) (Decoder.reads_bool h.required),
    w.field_if "rules" (found (by decide) hasRules) (fun _ _ => nofun) rules]
  rfl

end ElementHeader

namespace FormSettings

variable {settings : FormSettings}

def isDistinct (settings : FormSettings) : Bool := settings.defaults.all Record.isDistinct

theorem reads_defaults (distinct : settings.isDistinct = true) :
    (Decoder.optional .record).Reads (Json.orNull (settings.defaults.map .object))
      settings.defaults := by
  refine Decoder.reads_optional (fun _ _ => nofun) fun r present => ?_
  have proper : Record.isDistinct r = true := by
    simpa [isDistinct, Option.mem_def.mp present] using distinct
  exact Decoder.reads_record proper

theorem reads_notification (settings : FormSettings) :
    (Decoder.optional Notification.decode).Reads
      (Json.orNull (settings.notification.map (·.toJson))) settings.notification :=
  Decoder.reads_optional (fun _ _ => nofun) fun n _ => n.reads

end FormSettings

namespace Element

mutual

/-- Do the objects held in the element, in its rules and defaults at any depth, name each member
once? -/
def isDistinct : Element → Bool
  | page h _ elements => h.isDistinct && distinctElements elements
  | group h elements => h.isDistinct && distinctElements elements
  | table h columns rowActions =>
      h.isDistinct && (distinctElements columns && distinctElements rowActions)
  | form h settings elements =>
      h.isDistinct && (settings.isDistinct && distinctElements elements)
  | input h _ | display h | button h _ => h.isDistinct

def distinctElements : List Element → Bool
  | [] => true
  | e :: rest => isDistinct e && distinctElements rest

end

theorem toJsons_eq (es : List Element) : toJsons es = es.map toJson := by
  induction es with
  | nil => rfl
  | cons e rest ih => rw [toJsons, ih, List.map_cons]

def childWithin : Nat → Raw → Decoded Element
  | 0 => fun _ => .error .mismatch
  | room + 1 => decodeWithin room .aside

theorem decodeWithin_object (room : Nat) (provenance : Provenance)
    (entries : List (Option String × Raw)) :
    decodeWithin (room + 1) provenance (.object entries) = (do
      let others := Members.others ElementHeader.fieldNames (Decoder.setAside room) 0 entries
      let header ← ((fun h _ => h) <$> ElementHeader.read ⟨provenance, room⟩ ⟨entries, true⟩
        <*> others).decoded
      let rest := Members.without ElementHeader.fieldNames ⟨entries, true⟩
      let kind ← (rest.field ⟨.aside, room⟩ "type" (.tag Kind.byTag) none).decoded
      (kind.read (readArray (childWithin room)) header ⟨.aside, room⟩ rest).decoded) := by
  cases room <;> rfl

section Kinds

variable {h : ElementHeader} {kind : Kind} (tag : String) (own : List (String × Json))

/-- A written element is read as its header says, and as its kind says from the other members. -/
theorem decodeWithin_members (distinct : h.isDistinct = true)
    (tagged : Kind.byTag.lookup tag = some kind)
    (names : (ElementHeader.fieldNames ++ "type" :: own.map Prod.fst).Nodup)
    (provenance : Provenance) {room : Nat}
    (deep : Json.memberNesting (h.members ++ ("type", .string tag) :: own) ≤ room) :
    let members := ("type", Json.string tag) :: own
    Members.Written members ⟨.aside, room⟩ ∧
    decodeWithin (room + 1) provenance (Json.object (h.members ++ members)).raw =
      (kind.read (readArray (childWithin room)) h ⟨.aside, room⟩ (.ofJson members)).decoded := by
  intro members
  have sublist := h.names_members.append (.refl (members.map Prod.fst))
  have w : Members.Written (h.members ++ members) ⟨provenance, room⟩ :=
    ⟨by simpa using names.sublist sublist, deep⟩
  have w' : Members.Written members ⟨.aside, room⟩ := w.later .aside
  have apart : ∀ name ∈ ElementHeader.fieldNames, name ∉ members.map Prod.fst :=
    fun name known mem => (List.nodup_append.mp names).2.2 name known name mem rfl
  have header := ElementHeader.read_members distinct w fun name known =>
    Option.not_isSome_iff_eq_none.mp fun found => apart name known (Entries.mem_names_iff.mpr found)
  have others := Members.others_setAside ElementHeader.fieldNames w.deep
  have without : (Members.ofJson (h.members ++ members)).without ElementHeader.fieldNames =
      .ofJson members :=
    Members.without_append (fun m mem => h.names_members.subset (List.mem_map_of_mem mem))
      fun m mem known => apart m.1 known (List.mem_map_of_mem mem)
  have kindOf : (Members.ofJson members).field ⟨.aside, room⟩ "type" (.tag Kind.byTag) none =
      .ok kind := w'.field "type" rfl (Decoder.reads_tag tagged)
  refine ⟨w', ?_⟩
  simp only [Members.ofJson] at header without kindOf ⊢
  simp only [Json.raw, decodeWithin_object, header, others, Placed.map_ok, Placed.seq_ok,
    Placed.decoded_ok, bind, Except.bind, without, kindOf]

end Kinds

theorem readArray_toJsons {es : List Element} {room : Nat}
    (deep : (Json.array (toJsons es)).nesting ≤ room)
    (items : ∀ {inner}, Json.itemNesting (toJsons es) ≤ inner →
      Decoder.items (decodeWithin inner .aside) (Json.rawItems (toJsons es)) = .ok es) :
    readArray (childWithin room) ⟨.aside, room⟩ (Json.array (toJsons es)).raw = .ok es := by
  cases room with
  | zero => simp [Json.nesting] at deep
  | succ room => exact items (Nat.le_of_succ_le_succ deep)

mutual

/-- An element is read from what it is written as, wherever it stands. -/
theorem decodeWithin_toJson (e : Element) (distinct : e.isDistinct = true) {room : Nat}
    (deep : e.toJson.nesting ≤ room) (provenance : Provenance) :
    decodeWithin room provenance e.toJson.raw = .ok e := by
  cases room with
  | zero => cases e <;> simp [toJson, Json.nesting] at deep
  | succ room =>
      cases e with
      | page h title elements =>
          rw [isDistinct, Bool.and_eq_true] at distinct
          obtain ⟨w, read⟩ := decodeWithin_members "page"
            [("title", Json.textOrNull title), ("elements", .array (toJsons elements))] distinct.1
            rfl (by simp [ElementHeader.fieldNames]) provenance (Nat.le_of_succ_le_succ deep)
          have children := readArray_toJsons (w.nesting_le "elements" rfl)
            (items_toJsons elements distinct.2)
          refine read.trans ?_
          simp only [Kind.read]
          rw [w.field "title" rfl (Decoder.reads_text title),
            w.field_of_read "elements" rfl children]
          rfl
      | group h elements =>
          rw [isDistinct, Bool.and_eq_true] at distinct
          obtain ⟨w, read⟩ := decodeWithin_members "group"
            [("elements", .array (toJsons elements))] distinct.1
            rfl (by simp [ElementHeader.fieldNames]) provenance (Nat.le_of_succ_le_succ deep)
          have children := readArray_toJsons (w.nesting_le "elements" rfl)
            (items_toJsons elements distinct.2)
          refine read.trans ?_
          simp only [Kind.read]
          rw [w.field_of_read "elements" rfl children]
          rfl
      | table h columns rowActions =>
          rw [isDistinct, Bool.and_eq_true, Bool.and_eq_true] at distinct
          obtain ⟨w, read⟩ := decodeWithin_members "table"
            [("columns", .array (toJsons columns)), ("row_actions", .array (toJsons rowActions))]
            distinct.1 rfl (by simp [ElementHeader.fieldNames]) provenance
            (Nat.le_of_succ_le_succ deep)
          have first := readArray_toJsons (w.nesting_le "columns" rfl)
            (items_toJsons columns distinct.2.1)
          have second := readArray_toJsons (w.nesting_le "row_actions" rfl)
            (items_toJsons rowActions distinct.2.2)
          refine read.trans ?_
          simp only [Kind.read]
          rw [w.field_of_read "columns" rfl first, w.field_of_read "row_actions" rfl second]
          rfl
      | form h settings elements =>
          rw [isDistinct, Bool.and_eq_true, Bool.and_eq_true] at distinct
          obtain ⟨w, read⟩ := decodeWithin_members "form"
            [("action", Json.textOrNull settings.action),
              ("use_active_record", .bool settings.usesActiveRecord),
              ("default_values", Json.orNull (settings.defaults.map .object)),
              ("notification", Json.orNull (settings.notification.map Notification.toJson)),
              ("elements", .array (toJsons elements))]
            distinct.1 rfl (by simp [ElementHeader.fieldNames]) provenance
            (Nat.le_of_succ_le_succ deep)
          have children := readArray_toJsons (w.nesting_le "elements" rfl)
            (items_toJsons elements distinct.2.2)
          refine read.trans ?_
          simp only [Kind.read]
          rw [w.field "action" rfl (Decoder.reads_text settings.action),
            w.field "use_active_record" rfl (Decoder.reads_bool settings.usesActiveRecord),
            w.field "default_values" rfl (settings.reads_defaults distinct.2.1),
            w.field "notification" rfl settings.reads_notification,
            w.field_of_read "elements" rfl children]
          rfl
      | input h format =>
          obtain ⟨w, read⟩ := decodeWithin_members "input" [("format", Json.textOrNull format)]
            distinct rfl (by simp [ElementHeader.fieldNames]) provenance
            (Nat.le_of_succ_le_succ deep)
          refine read.trans ?_
          simp only [Kind.read]
          rw [w.field "format" rfl (Decoder.reads_text format)]
          rfl
      | display h =>
          exact (decodeWithin_members "display" [] distinct rfl (by decide) provenance
            (Nat.le_of_succ_le_succ deep)).2
      | button h action =>
          obtain ⟨w, read⟩ := decodeWithin_members "button" [("action", action.toJson)]
            distinct rfl (by simp [ElementHeader.fieldNames]) provenance
            (Nat.le_of_succ_le_succ deep)
          refine read.trans ?_
          simp only [Kind.read]
          rw [w.field "action" rfl action.reads]
          rfl

theorem items_toJsons (es : List Element) (distinct : distinctElements es = true) {room : Nat}
    (deep : Json.itemNesting (toJsons es) ≤ room) :
    Decoder.items (decodeWithin room .aside) (Json.rawItems (toJsons es)) = .ok es := by
  cases es with
  | nil => rfl
  | cons e rest =>
      rw [distinctElements, Bool.and_eq_true] at distinct
      rw [toJsons, Json.itemNesting, Nat.max_le] at deep
      have first := decodeWithin_toJson e distinct.1 deep.1 .aside
      have more := items_toJsons rest distinct.2 deep.2
      simp only [toJsons, Json.rawItems, Decoder.items, first, more]
      rfl

end

theorem reads {e : Element} (distinct : e.isDistinct = true) : Element.decode.Reads e.toJson e :=
  fun scope deep => decodeWithin_toJson e distinct deep scope.provenance

theorem distinctElements_eq (es : List Element) : distinctElements es = es.all isDistinct := by
  induction es with
  | nil => rfl
  | cons e rest ih => rw [distinctElements, ih, List.all_cons]

theorem reads_elements {es : List Element} (distinct : distinctElements es = true) :
    (Decoder.arrayOf Element.decode).Reads (.array (toJsons es)) es := by
  rw [toJsons_eq]
  rw [distinctElements_eq, List.all_eq_true] at distinct
  exact Decoder.reads_array fun e mem => reads (distinct e mem)

end Element

namespace DrawerDefinition

variable {d : DrawerDefinition}

def isDistinct (d : DrawerDefinition) : Bool := Element.distinctElements d.elements

theorem reads (distinct : d.isDistinct = true) : DrawerDefinition.decode.Reads d.toJson d := by
  refine Decoder.reads_fields (by simp) (by simp) fun scope w => ?_
  rw [w.field "title" rfl (Decoder.reads_text d.title),
    w.field "description" rfl (Decoder.reads_text d.description),
    w.field "elements" rfl (Element.reads_elements distinct)]
  rfl

end DrawerDefinition

namespace Registry

def written (entries : List (String × Endpoint)) : Json :=
  .object (entries.map fun (name, endpoint) => (name, endpoint.toJson))

theorem reads {entries : List (String × Endpoint)} {r : Registry}
    (same : entries.Perm r.entries) : Registry.decode.Reads (written entries) r :=
  Decoder.reads_directory same fun m _ => m.2.reads

end Registry

namespace Schema

variable {s : Schema}

def isDistinct (s : Schema) : Bool :=
  Element.distinctElements s.elements && s.drawers.entries.all fun (_, d) => d.isDistinct

def written (s : Schema) (api : List (String × Endpoint)) : Json :=
  .object [("base_url", .string s.baseUrl), ("api", Registry.written api),
    ("drawers", .object (s.drawers.entries.map fun (name, d) => (name, d.toJson))),
    ("elements", .array (Element.toJsons s.elements))]

theorem written_entries (s : Schema) : s.written s.api.entries = s.toJson := rfl

theorem reads (distinct : s.isDistinct = true) {api : List (String × Endpoint)}
    (same : api.Perm s.api.entries) : Schema.decode.Reads (s.written api) s := by
  rw [isDistinct, Bool.and_eq_true, List.all_eq_true] at distinct
  have drawers : (Decoder.directory DrawerDefinition.decode).Reads
      (.object (s.drawers.entries.map fun (name, d) => (name, d.toJson))) s.drawers :=
    Decoder.reads_directory (.refl _) fun m mem => DrawerDefinition.reads (distinct.2 m mem)
  refine Decoder.reads_fields (by simp) (by simp) fun scope w => ?_
  rw [w.field "base_url" rfl (Decoder.reads_string s.baseUrl),
    w.field "api" rfl (Registry.reads same), w.field "drawers" rfl drawers,
    w.field "elements" rfl (Element.reads_elements distinct.1)]
  rfl

end Schema

/-- Schemas, and each of the parts they are made of, survive their serialization. The objects that
are held as values name each member once, as they do in a document that has been read; the entries
of a registry are written in any order, of which `toJson` takes that of their names. -/
theorem declarations_survive_serialization :
    (∀ (s : Schema) (api : List (String × Endpoint)), api.Perm s.api.entries →
      s.isDistinct = true → (s.written api).Readable →
      Schema.ofText (s.written api).text = .ok s) ∧
    (∀ e : Element, e.isDistinct = true → e.toJson.Readable →
      Element.decode.ofText e.toJson.text = .ok e) ∧
    (∀ a : ButtonAction, a.toJson.Readable → ButtonAction.decode.ofText a.toJson.text = .ok a) ∧
    (∀ r : Rule, r.isDistinct = true → r.toJson.Readable →
      Rule.decode.ofText r.toJson.text = .ok r) ∧
    (∀ c : Condition, c.isDistinct = true → c.toJson.Readable →
      Condition.decode.ofText c.toJson.text = .ok c) ∧
    (∀ e : Endpoint, e.toJson.Readable → Endpoint.decode.ofText e.toJson.text = .ok e) ∧
    ∀ (r : Registry) (entries : List (String × Endpoint)), entries.Perm r.entries →
      (Registry.written entries).Readable →
      Registry.decode.ofText (Registry.written entries).text = .ok r := by
  refine ⟨fun s api same distinct readable => ?_, fun e distinct readable => ?_,
    fun a readable => ?_, fun r distinct readable => ?_, fun c distinct readable => ?_,
    fun e readable => ?_, fun r entries same readable => ?_⟩
  · exact (Schema.reads distinct same).ofText readable
  · exact (Element.reads distinct).ofText readable
  · exact a.reads.ofText readable
  · exact (Rule.reads distinct).ofText readable
  · exact (Condition.reads distinct).ofText readable
  · exact e.reads.ofText readable
  · exact (Registry.reads same).ofText readable

def Binary64.half : Binary64 := ⟨false, Nat.pow 2 52, 1021, by decide, by decide, by decide⟩

theorem Binary64.half_readsBack : (Number.float half).ReadsBack := by
  have text : (Number.float half).chars = "0.5".toList := by decide +kernel
  refine ⟨⟨false, ['0'], some ['5'], none⟩, ?_, by decide +kernel⟩
  rw [text]
  rfl

theorem Json.halves_readBack {j : Json} (floats : j.floats.all (· = .half) = true) :
    ∀ f ∈ j.floats, (Number.float f).ReadsBack := by
  intro f mem
  have same : f = .half := by simpa using List.all_eq_true.mp floats f mem
  exact same ▸ Binary64.half_readsBack

def Condition.lowStock : Condition := ⟨"stock", .lt, [.number (.float .half)]⟩

def Rule.hideLowStock : Rule := ⟨.hide, [.lowStock]⟩

def ButtonAction.restock : ButtonAction := .api "save" none (some ⟨some "Restocked", none⟩) true

def Element.stockForm : Element :=
  .form ⟨some "stock", none, none, false, none⟩
    ⟨some "save", true, some [("tags", .array [])], none⟩
    [.button ⟨none, none, some "Restock", false, some [.hideLowStock]⟩ .restock]

def Schema.stock : Schema where
  baseUrl := "/api/stock"
  api := (Directory.empty.insert "index" ⟨"GET", ""⟩).insert "update" ⟨"PUT", ":id"⟩
  drawers := Directory.empty.insert "edit" ⟨some "Edit", none, [.stockForm]⟩
  elements := [.table ⟨none, none, none, false, none⟩ [.stockForm] []]

theorem stock_survives_serialization :
    Schema.ofText (Schema.stock.written [("update", ⟨"PUT", ":id"⟩), ("index", ⟨"GET", ""⟩)]).text =
      .ok .stock ∧
    Element.decode.ofText Element.stockForm.toJson.text = .ok .stockForm ∧
    ButtonAction.decode.ofText ButtonAction.restock.toJson.text = .ok .restock ∧
    Rule.decode.ofText Rule.hideLowStock.toJson.text = .ok .hideLowStock ∧
    Condition.decode.ofText Condition.lowStock.toJson.text = .ok .lowStock ∧
    Endpoint.decode.ofText (Endpoint.toJson ⟨"PUT", ":id"⟩).text = .ok ⟨"PUT", ":id"⟩ ∧
    Registry.decode.ofText (Registry.written Schema.stock.api.entries).text =
      .ok Schema.stock.api := by
  have halves {j : Json} (deep : j.nesting ≤ Json.nestingLimit)
      (floats : j.floats.all (· = .half) = true) : j.Readable := ⟨deep, Json.halves_readBack floats⟩
  obtain ⟨schemas, elements, actions, rules, conditions, endpoints, registries⟩ :=
    declarations_survive_serialization
  refine ⟨schemas .stock _ (.swap ..) (by decide) (halves (by decide) (by decide)),
    elements _ (by decide) (halves (by decide) (by decide)), actions _ (halves (by decide) rfl),
    rules _ (by decide) (halves (by decide) (by decide)),
    conditions _ (by decide) (halves (by decide) (by decide)), endpoints _ (halves (by decide) rfl),
    registries _ _ (.refl _) (halves (by decide) (by decide))⟩

end DeclaredScreens
