import DeclaredScreens.Proofs.Rearrangement.Tagged
import DeclaredScreens.Proofs.WrittenSchemas

/-! Member order in declared screens. The members of each object that declares a part of a screen
may stand in any order, its tag among them anywhere, and members that nobody knows may join them.
An object whose members are set aside until its tag is known takes only documents in addition,
as others take anything that is well formed. -/

namespace DeclaredScreens

section Tables

variable (fresh : Additions)

def Endpoint.rearranged : Rearrangement := .fields fresh [("method", .same), ("path", .same)]

def Notification.rearranged : Rearrangement := .fields fresh [("success", .same), ("error", .same)]

def Condition.rearranged : Rearrangement :=
  .fields fresh [("field", .same), ("operator", .same), ("values", .same)]

def Rule.rearranged : Rearrangement :=
  .fields fresh [("effect", .same), ("conditions", .arrayOf (Condition.rearranged fresh))]

def ButtonAction.variants : List (String × FieldTable) :=
  [("api", [("action", .same), ("confirm", .same),
      ("notification", .optional (Notification.rearranged fresh)), ("send_row", .same)]),
    ("drawer", [("drawer", .same)]), ("navigate", [("path", .same)])]

def ButtonAction.rearranged : Rearrangement := .tagged fresh "kind" (variants fresh)

def ElementHeader.fields : FieldTable :=
  [("id", .same), ("name", .same), ("label", .same), ("required", .same),
    ("rules", .optional (.arrayOf (Rule.rearranged fresh)))]

def Element.Kind.fields (children : Rearrangement) : Kind → FieldTable
  | .page => [("title", .same), ("elements", children)]
  | .group => [("elements", children)]
  | .table => [("columns", children), ("row_actions", children)]
  | .form =>
      [("action", .same), ("use_active_record", .same), ("default_values", .same),
        ("notification", .optional (Notification.rearranged fresh)), ("elements", children)]
  | .input => [("format", .same)]
  | .display => []
  | .button => [("action", ButtonAction.rearranged fresh)]

namespace Element

def rearrangedAround (children : Rearrangement) : Rearrangement
  | scope, .object ms, .object ms' =>
      let kind := Members.field ⟨ms, true⟩ scope.inner.aside "type" (.tag Kind.byTag) none
      Rearrangement.besideTag fresh "type" (ElementHeader.fields fresh)
        (kind.value?.elim [] (Kind.fields fresh children)) scope.inner ms ms'
  | _, raw, raw' => raw = raw'

def rearrangedDownTo : Nat → Rearrangement
  | 0 => .same
  | levels + 1 => rearrangedAround fresh (.arrayOf (rearrangedDownTo levels))

def rearranged : Rearrangement := fun scope => rearrangedDownTo fresh scope.room scope

end Element

def DrawerDefinition.rearranged : Rearrangement :=
  .fields fresh
    [("title", .same), ("description", .same), ("elements", .arrayOf (Element.rearranged fresh))]

def Schema.rearranged : Rearrangement :=
  .fields fresh
    [("base_url", .same), ("api", .directory (Endpoint.rearranged fresh)),
      ("drawers", .directory (DrawerDefinition.rearranged fresh)),
      ("elements", .arrayOf (Element.rearranged fresh))]

end Tables

namespace Element

theorem Kind.distinct (fresh : Additions) (R : Rearrangement) (kind : Option Kind) :
    ("type" :: ((ElementHeader.fields fresh).names ++
      FieldTable.names (kind.elim [] (Kind.fields fresh R)))).Nodup := by
  cases kind with
  | none => simp [ElementHeader.fields, FieldTable.names]
  | some kind => cases kind <;> simp [ElementHeader.fields, FieldTable.names, Kind.fields]

theorem readArray_childWithin (room : Nat) :
    readArray (childWithin room) ⟨.aside, room⟩ = Decoder.arrayOf Element.decode ⟨.aside, room⟩ := by
  funext raw
  cases room <;> cases raw <;> rfl

theorem Kind.read_congr {children others : Decoder (List Element)} {scope : Scope}
    (same : children scope = others scope) (kind : Kind) (h : ElementHeader) (m : Members) :
    kind.read children h scope m = kind.read others h scope m := by
  cases kind <;> simp only [read, Members.field, same]

theorem toOption_decode_object (provenance : Provenance) (room : Nat)
    (entries : List (Option String × Raw)) :
    (Element.decode ⟨provenance, room + 1⟩ (.object entries)).toOption =
      (ElementHeader.read ⟨provenance, room⟩ ⟨entries, true⟩).value?.bind fun header =>
      (Members.others ElementHeader.fieldNames (Decoder.setAside room) 0 entries).value?.bind fun _ =>
      let rest := Members.without ElementHeader.fieldNames ⟨entries, true⟩
      (rest.field ⟨.aside, room⟩ "type" (.tag Kind.byTag) none).value?.bind fun kind =>
      (kind.read (.arrayOf Element.decode) header ⟨.aside, room⟩ rest).value? := by
  rw [decode, decodeWithin_object]
  simp only [Decoded.toOption_bind, Placed.toOption_decoded, Placed.value?_seq, Placed.value?_map,
    Option.bind_map, Option.bind_assoc, Function.comp_def,
    Kind.read_congr (readArray_childWithin room)]

end Element

section Follows

variable {fresh : Additions} (harmless : fresh.Harmless)

include harmless

theorem Endpoint.follows : Endpoint.decode.Follows (Endpoint.rearranged fresh) := by
  refine Decoder.follows_fields harmless ⟨rfl, by decide, ?_, fun alike => ?_⟩
  · simp [Rearrangement.proper_same]
  · simp only [List.forall_mem_cons] at alike
    obtain ⟨method, path, -⟩ := alike
    simp only [Placed.value?_seq, Placed.value?_map, method.field (Decoder.follows_same _),
      path.field (Decoder.follows_same _)]

theorem Notification.follows : Notification.decode.Follows (Notification.rearranged fresh) := by
  refine Decoder.follows_fields harmless ⟨rfl, by decide, ?_, fun alike => ?_⟩
  · simp [Rearrangement.proper_same]
  · simp only [List.forall_mem_cons] at alike
    obtain ⟨success, error, -⟩ := alike
    simp only [Placed.value?_seq, Placed.value?_map, success.field (Decoder.follows_same _),
      error.field (Decoder.follows_same _)]

theorem Condition.follows : Condition.decode.Follows (Condition.rearranged fresh) := by
  refine Decoder.follows_fields harmless ⟨rfl, by decide, ?_, fun alike => ?_⟩
  · simp [Rearrangement.proper_same]
  · simp only [List.forall_mem_cons] at alike
    obtain ⟨field, operator, values, -⟩ := alike
    simp only [Placed.value?_seq, Placed.value?_map, field.field (Decoder.follows_same _),
      operator.field (Decoder.follows_same _), values.field (Decoder.follows_same _)]

theorem Rule.follows : Rule.decode.Follows (Rule.rearranged fresh) := by
  have each := (Condition.follows harmless).arrayOf
  refine Decoder.follows_fields harmless ⟨rfl, by decide, ?_, fun alike => ?_⟩
  · simp [Rearrangement.proper_same, each.proper]
  · simp only [List.forall_mem_cons] at alike
    obtain ⟨effect, conditions, -⟩ := alike
    simp only [Placed.value?_seq, Placed.value?_map, effect.field (Decoder.follows_same _),
      conditions.field each]

namespace ButtonAction

theorem api.covered : api.decode.CoveredBy "kind"
    [("action", .same), ("confirm", .same),
      ("notification", .optional (Notification.rearranged fresh)), ("send_row", .same)] := by
  have notice := (Notification.follows harmless).optional
  refine ⟨⟨rfl, by decide, ?_, fun alike => ?_⟩, by simp [FieldTable.names]⟩
  · simp [Rearrangement.proper_same, notice.proper]
  · simp only [List.forall_mem_cons] at alike
    obtain ⟨action, confirm, notification, sendRow, -⟩ := alike
    simp only [api.decode, Placed.value?_seq, Placed.value?_map,
      action.field (Decoder.follows_same _), confirm.field (Decoder.follows_same _),
      notification.field notice, sendRow.field (Decoder.follows_same _)]

omit harmless in
theorem drawer.covered : drawer.decode.CoveredBy "kind" [("drawer", .same)] := by
  refine ⟨⟨rfl, by decide, ?_, fun alike => ?_⟩, by simp [FieldTable.names]⟩
  · simp [Rearrangement.proper_same]
  · simp only [List.forall_mem_singleton] at alike
    simp only [drawer.decode, Placed.value?_map, alike.field (Decoder.follows_same _)]

omit harmless in
theorem navigate.covered : navigate.decode.CoveredBy "kind" [("path", .same)] := by
  refine ⟨⟨rfl, by decide, ?_, fun alike => ?_⟩, by simp [FieldTable.names]⟩
  · simp [Rearrangement.proper_same]
  · simp only [List.forall_mem_singleton] at alike
    simp only [navigate.decode, Placed.value?_map, alike.field (Decoder.follows_same _)]

theorem covered : List.Forall₂ (fun v t => v.1 = t.1 ∧ v.2.CoveredBy "kind" t.2)
    [("api", api.decode), ("drawer", drawer.decode), ("navigate", navigate.decode)]
    (variants fresh) :=
  .cons ⟨rfl, api.covered harmless⟩ (.cons ⟨rfl, drawer.covered⟩ (.cons ⟨rfl, navigate.covered⟩ .nil))

theorem follows : ButtonAction.decode.Follows (rearranged fresh) :=
  Decoder.follows_tagged harmless (covered harmless)

end ButtonAction

theorem ElementHeader.covered : (fields fresh).Covers fieldNames read := by
  have rules := (Rule.follows harmless).arrayOf.optional
  refine ⟨rfl, by decide, ?_, fun alike => ?_⟩
  · simp [fields, Rearrangement.proper_same, rules.proper]
  · simp only [fields, List.forall_mem_cons] at alike
    obtain ⟨id, name, label, required, ruled, -⟩ := alike
    simp only [read, Placed.value?_seq, Placed.value?_map, id.field (Decoder.follows_same _),
      name.field (Decoder.follows_same _), label.field (Decoder.follows_same _),
      required.field (Decoder.follows_same _), ruled.field rules]

namespace Element

theorem Kind.proper {R : Rearrangement} (proper : R.Proper) (kind : Option Kind) :
    ∀ entry ∈ kind.elim [] (Kind.fields fresh R), entry.2.Proper := by
  have notice := (Notification.follows harmless).optional.proper
  have action := (ButtonAction.follows harmless).proper
  cases kind with
  | none => exact nofun
  | some kind => cases kind <;> simp [fields, proper, notice, action, Rearrangement.proper_same]

theorem Kind.covered {children : Decoder (List Element)} {R : Rearrangement}
    (follows : children.Follows R) (kind : Kind) (h : ElementHeader) :
    (kind.fields fresh R).Covers (kind.fields fresh R).names (kind.read children h) := by
  have notice := (Notification.follows harmless).optional
  refine ⟨rfl, by cases kind <;> simp [fields, FieldTable.names],
    Kind.proper harmless follows.proper (some kind), fun alike => ?_⟩
  cases kind with
  | page =>
      simp only [fields, List.forall_mem_cons] at alike
      obtain ⟨title, elements, -⟩ := alike
      simp only [read, Placed.value?_seq, Placed.value?_map, title.field (Decoder.follows_same _),
        elements.field follows]
  | group =>
      simp only [fields, List.forall_mem_singleton] at alike
      simp only [read, Placed.value?_map, alike.field follows]
  | table =>
      simp only [fields, List.forall_mem_cons] at alike
      obtain ⟨columns, rowActions, -⟩ := alike
      simp only [read, Placed.value?_seq, Placed.value?_map, columns.field follows,
        rowActions.field follows]
  | form =>
      simp only [fields, List.forall_mem_cons] at alike
      obtain ⟨action, active, defaults, notification, elements, -⟩ := alike
      simp only [read, Placed.value?_seq, Placed.value?_map, action.field (Decoder.follows_same _),
        active.field (Decoder.follows_same _), defaults.field (Decoder.follows_same _),
        notification.field notice, elements.field follows]
  | input =>
      simp only [fields, List.forall_mem_singleton] at alike
      simp only [read, Placed.value?_map, alike.field (Decoder.follows_same _)]
  | display => rfl
  | button =>
      simp only [fields, List.forall_mem_singleton] at alike
      simp only [read, Placed.value?_map, alike.field (ButtonAction.follows harmless)]

theorem proper_around {R : Rearrangement} (proper : R.Proper) :
    (rearrangedAround fresh R).Proper where
  refl scope raw := by
    cases raw with
    | object ms =>
        exact Rearrangement.besideTag_refl (Kind.proper harmless proper _)
          (ElementHeader.covered harmless).proper scope.inner ms
    | _ => rfl
  hasValue_iff room raw raw' related := by
    unfold rearrangedAround at related
    split at related
    case h_1 ms ms' =>
      exact Rearrangement.hasValue_besideTag (Kind.proper harmless proper _) harmless
        (ElementHeader.covered harmless).proper related
    case h_2 => rw [related]

theorem decode_around {R : Rearrangement} (follows : (Decoder.arrayOf Element.decode).Follows R)
    {provenance : Provenance} {room : Nat} {ms ms' : List (Option String × Raw)}
    (once : (Raw.object ms).namesOnce = true)
    (related : rearrangedAround fresh R ⟨provenance, room + 1⟩ (.object ms) (.object ms')) :
    (Element.decode ⟨provenance, room + 1⟩ (.object ms')).toOption =
      (Element.decode ⟨provenance, room + 1⟩ (.object ms)).toOption := by
  have distinct := Kind.distinct fresh R
  have proper := Kind.proper harmless follows.proper
  have header : (ElementHeader.read ⟨provenance, room⟩ ⟨ms', true⟩).value? =
      (ElementHeader.read ⟨provenance, room⟩ ⟨ms, true⟩).value? :=
    (ElementHeader.covered harmless).reads (Rearrangement.alike_header related once (distinct _))
  have others : (Members.others ElementHeader.fieldNames (Decoder.setAside room) 0 ms').value? =
      (Members.others ElementHeader.fieldNames (Decoder.setAside room) 0 ms).value? :=
    Rearrangement.others_setAside (proper _) harmless related fun _ known => known
  have tag := (Rearrangement.alike_tag related once (distinct _) ⟨.aside, room⟩).field
    (Decoder.follows_same (.tag Kind.byTag)) none
  have told : ∀ kind,
      (Members.field ⟨ms, true⟩ ⟨.aside, room⟩ "type" (.tag Kind.byTag) none).value? = some kind →
      ∀ entry ∈ kind.fields fresh R,
        Members.Alike entry.2 ⟨.aside, room⟩ entry.1 ⟨ms, true⟩ ⟨ms', true⟩ := by
    intro kind found
    have alike := Rearrangement.alike_told related once (distinct _)
    simp only [Scope.inner, Scope.aside, Nat.add_sub_cancel, found] at alike
    exact alike
  -- The kind is told by what the header leaves, in which the tag still stands.
  simp only [toOption_decode_object, header, others,
    Members.value?_field_without (show "type" ∉ ElementHeader.fieldNames by decide), tag]
  refine Option.bind_congr fun h _ => Option.bind_congr fun _ _ =>
    Option.bind_congr fun kind found => ?_
  refine (Kind.covered harmless follows kind h).reads fun entry mem =>
    (told kind found entry mem).without fun known => ?_
  have apart := (List.nodup_append.mp (List.nodup_cons.mp (distinct (some kind))).2).2.2
  exact apart _ known _ (List.mem_map_of_mem mem) rfl

theorem follows_around {R : Rearrangement} (follows : (Decoder.arrayOf Element.decode).Follows R) :
    Element.decode.Follows (rearrangedAround fresh R) where
  reads {scope raw raw'} once related := by
    obtain ⟨provenance, room⟩ := scope
    cases room with
    | zero => rfl
    | succ room =>
        have whole := related
        unfold rearrangedAround at related
        split at related
        case h_1 ms ms' => exact decode_around harmless follows once whole
        case h_2 => rw [related]
  proper := proper_around harmless follows.proper

theorem follows_downTo (levels : Nat) :
    Element.decode.Follows (rearrangedDownTo fresh levels) := by
  induction levels with
  | zero => exact Decoder.follows_same _
  | succ levels ih => exact follows_around harmless ih.arrayOf

theorem follows : Element.decode.Follows (rearranged fresh) where
  reads {scope _ _} once related := (follows_downTo harmless scope.room).reads once related
  proper :=
    ⟨fun scope => (follows_downTo harmless scope.room).proper.refl scope,
      fun room => (follows_downTo harmless room).proper.hasValue_iff room⟩

end Element

theorem DrawerDefinition.follows :
    DrawerDefinition.decode.Follows (DrawerDefinition.rearranged fresh) := by
  have each := (Element.follows harmless).arrayOf
  refine Decoder.follows_fields harmless ⟨rfl, by decide, ?_, fun alike => ?_⟩
  · simp [Rearrangement.proper_same, each.proper]
  · simp only [List.forall_mem_cons] at alike
    obtain ⟨title, description, elements, -⟩ := alike
    simp only [Placed.value?_seq, Placed.value?_map, title.field (Decoder.follows_same _),
      description.field (Decoder.follows_same _), elements.field each]

theorem Schema.follows : Schema.decode.Follows (Schema.rearranged fresh) := by
  have endpoints := (Endpoint.follows harmless).directory
  have definitions := (DrawerDefinition.follows harmless).directory
  have each := (Element.follows harmless).arrayOf
  refine Decoder.follows_fields harmless ⟨rfl, by decide, ?_, fun alike => ?_⟩
  · simp [Rearrangement.proper_same, endpoints.proper, definitions.proper,
      each.proper]
  · simp only [List.forall_mem_cons] at alike
    obtain ⟨baseUrl, api, drawers, elements, -⟩ := alike
    simp only [Registry.decode, Placed.value?_seq, Placed.value?_map,
      baseUrl.field (Decoder.follows_same _), api.field endpoints, drawers.field definitions,
      elements.field each]

end Follows

/-- Is the second text a rearrangement of the first, in which no object repeats a name? -/
def Rearrangement.OfTexts (R : Rearrangement) (text text' : String) : Prop :=
  ∃ raw raw', Raw.ofText text = (raw, true) ∧ Raw.ofText text' = (raw', true) ∧
    raw.namesOnce = true ∧ R (.whole .text) raw raw'

theorem Decoder.Follows.ofText {α : Type} {decoder : Decoder α} {R : Rearrangement}
    (follows : decoder.Follows R) {text text' : String} (related : R.OfTexts text text') :
    (decoder.ofText text').toOption = (decoder.ofText text).toOption := by
  obtain ⟨raw, raw', read, read', once, related⟩ := related
  simp only [Decoder.ofText, read, read', Decoded.toOption_bind, follows.reads once related]

/-- What may be added: in the text anything that is well formed, and a document within the nesting
limit where members are set aside. -/
def Additions.ignorable : Additions
  | ⟨.aside, room⟩, raw => raw.HasValue room
  | _, raw => raw.complete = true

theorem Additions.harmless_ignorable : Additions.ignorable.Harmless :=
  ⟨fun isFresh => isFresh, fun isFresh => isFresh⟩

/-- Texts of schemas, or of parts of them, that differ in the order of members and by members that
nobody knows are read as the same value, or are both refused. -/
theorem rearranged_texts_are_read_alike (text text' : String) :
    ((Schema.rearranged .ignorable).OfTexts text text' →
      (Schema.ofText text').toOption = (Schema.ofText text).toOption) ∧
    ((Element.rearranged .ignorable).OfTexts text text' →
      (Element.decode.ofText text').toOption = (Element.decode.ofText text).toOption) ∧
    ((ButtonAction.rearranged .ignorable).OfTexts text text' →
      (ButtonAction.decode.ofText text').toOption = (ButtonAction.decode.ofText text).toOption) ∧
    ((Rule.rearranged .ignorable).OfTexts text text' →
      (Rule.decode.ofText text').toOption = (Rule.decode.ofText text).toOption) ∧
    ((Condition.rearranged .ignorable).OfTexts text text' →
      (Condition.decode.ofText text').toOption = (Condition.decode.ofText text).toOption) ∧
    ((Endpoint.rearranged .ignorable).OfTexts text text' →
      (Endpoint.decode.ofText text').toOption = (Endpoint.decode.ofText text).toOption) ∧
    ((DrawerDefinition.rearranged .ignorable).OfTexts text text' →
      (DrawerDefinition.decode.ofText text').toOption =
        (DrawerDefinition.decode.ofText text).toOption) :=
  have harmless := Additions.harmless_ignorable
  ⟨(Schema.follows harmless).ofText, (Element.follows harmless).ofText,
    (ButtonAction.follows harmless).ofText, (Rule.follows harmless).ofText,
    (Condition.follows harmless).ofText, (Endpoint.follows harmless).ofText,
    (DrawerDefinition.follows harmless).ofText⟩

def Json.backwards : Json → Json
  | .object ms => .object (("note", .null) :: ms.reverse)
  | j => j

section Backwards

variable {fresh : Additions} {ms : List (String × Json)}

theorem Json.rawMembers_backwards (ms : List (String × Json)) :
    (rawMembers (("note", .null) :: ms.reverse)).Perm (rawMembers ms ++ [(some "note", .null)]) := by
  simp only [rawMembers_eq, List.map_cons, List.map_reverse, Json.raw]
  exact ((List.reverse_perm _).cons _).trans (List.perm_append_singleton _ _).symm

theorem Rearrangement.fields_backwards {table : FieldTable}
    (proper : ∀ entry ∈ table, entry.2.Proper) {scope : Scope} (unknown : "note" ∉ table.names)
    (isFresh : fresh scope.inner .null) :
    fields fresh table scope (Json.object ms).raw (Json.object ms).backwards.raw :=
  fields_of_perm proper (by simpa using ⟨unknown, isFresh⟩) (Json.rawMembers_backwards ms)

theorem Rearrangement.OfTexts.backwards {R : Rearrangement} {j : Json}
    (floats : j.floats.all (· = .half) = true) (floats' : j.backwards.floats.all (· = .half) = true)
    (once : j.raw.namesOnce = true) (related : R (.whole .text) j.raw j.backwards.raw) :
    R.OfTexts j.text j.backwards.text :=
  ⟨j.raw, j.backwards.raw, Json.ofText_text j (Json.halves_readBack floats),
    Json.ofText_text j.backwards (Json.halves_readBack floats'), once, related⟩

end Backwards

theorem backwards_texts_are_read_alike :
    (Schema.ofText Schema.stock.toJson.backwards.text).toOption =
      (Schema.ofText Schema.stock.toJson.text).toOption ∧
    (Element.decode.ofText Element.stockForm.toJson.backwards.text).toOption =
      (Element.decode.ofText Element.stockForm.toJson.text).toOption ∧
    (ButtonAction.decode.ofText ButtonAction.restock.toJson.backwards.text).toOption =
      (ButtonAction.decode.ofText ButtonAction.restock.toJson.text).toOption ∧
    (Rule.decode.ofText Rule.hideLowStock.toJson.backwards.text).toOption =
      (Rule.decode.ofText Rule.hideLowStock.toJson.text).toOption ∧
    (Condition.decode.ofText Condition.lowStock.toJson.backwards.text).toOption =
      (Condition.decode.ofText Condition.lowStock.toJson.text).toOption ∧
    (Endpoint.decode.ofText (Endpoint.toJson ⟨"PUT", ":id"⟩).backwards.text).toOption =
      (Endpoint.decode.ofText (Endpoint.toJson ⟨"PUT", ":id"⟩).text).toOption ∧
    (DrawerDefinition.decode.ofText
        (DrawerDefinition.toJson ⟨none, none, [.stockForm]⟩).backwards.text).toOption =
      (DrawerDefinition.decode.ofText
        (DrawerDefinition.toJson ⟨none, none, [.stockForm]⟩).text).toOption := by
  have harmless := Additions.harmless_ignorable
  have same := Rearrangement.proper_same
  have endpoints := (Endpoint.follows harmless).directory.proper
  have drawers := (DrawerDefinition.follows harmless).directory.proper
  have elements := (Element.follows harmless).arrayOf.proper
  have conditions := (Condition.follows harmless).arrayOf.proper
  refine ⟨(rearranged_texts_are_read_alike _ _).1 ?_, (rearranged_texts_are_read_alike _ _).2.1 ?_,
    (rearranged_texts_are_read_alike _ _).2.2.1 ?_, (rearranged_texts_are_read_alike _ _).2.2.2.1 ?_,
    (rearranged_texts_are_read_alike _ _).2.2.2.2.1 ?_,
    (rearranged_texts_are_read_alike _ _).2.2.2.2.2.1 ?_,
    (rearranged_texts_are_read_alike _ _).2.2.2.2.2.2 ?_⟩
  all_goals refine .backwards (by decide) (by decide) (by decide) ?_
  · exact Rearrangement.fields_backwards (by simp [same, endpoints, drawers, elements]) (by decide)
      rfl
  · refine @Rearrangement.besideTag_of_perm _ "type" _ _ _ _ (Element.Kind.proper harmless ?_ _)
      (ElementHeader.covered harmless).proper _ [(some "note", .null)] ?_
      (Json.rawMembers_backwards _)
    · exact (Element.follows_downTo harmless 126).arrayOf.proper
    · simp only [List.forall_mem_singleton]
      exact ⟨"note", rfl, by decide, rfl⟩
  · refine @Rearrangement.besideTag_of_perm _ "kind" _ _ _ _
      (Decoder.Variant.told_getD (Decoder.rel_field (ButtonAction.covered harmless) _ _)).2
      (by simp) _ [(some "note", .null)] ?_ (Json.rawMembers_backwards _)
    simp only [List.forall_mem_singleton]
    exact ⟨"note", rfl, by decide, rfl⟩
  · exact Rearrangement.fields_backwards (by simp [same, conditions]) (by decide) rfl
  · exact Rearrangement.fields_backwards (by simp [same]) (by decide) rfl
  · exact Rearrangement.fields_backwards (by simp [same]) (by decide) rfl
  · exact Rearrangement.fields_backwards (by simp [same, elements]) (by decide) rfl

def Additions.wellFormed : Additions := fun scope raw =>
  raw.complete = true ∧ raw.nesting ≤ scope.room

/-- Half a surrogate pair is well formed, but cannot be set aside. -/
theorem element_refuses_half_surrogate :
    let text := "\x7b\"type\":\"display\"\x7d"
    let text' := "\x7b\"type\":\"display\",\"x\":\"\\ud800\"\x7d"
    (Element.rearranged .wellFormed).OfTexts text text' ∧
      (Element.decode.ofText text).toOption = some (.display ⟨none, none, none, false, none⟩) ∧
      (Element.decode.ofText text').toOption = none := by
  intro text text'
  have read : Raw.ofText text = (.object [(some "type", .string (some "display"))], true) := by
    simp only [Raw.ofText, text, String.reduceToList]
    rfl
  have read' : Raw.ofText text' =
      (.object [(some "type", .string (some "display")), (some "x", .string none)], true) := by
    simp only [Raw.ofText, text', String.reduceToList]
    rfl
  refine ⟨⟨_, _, read, read', rfl, ?_⟩, ?_, ?_⟩
  · refine ⟨_, [(some "x", .string none)], .cons ⟨rfl, rfl⟩ .nil, ?_, .refl _⟩
    simp only [List.forall_mem_singleton]
    exact ⟨"x", rfl, by decide, rfl, Nat.zero_le _⟩
  · rw [Decoder.ofText, read]
    rfl
  · rw [Decoder.ofText, read']
    rfl

end DeclaredScreens
