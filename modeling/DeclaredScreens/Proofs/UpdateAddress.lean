import DeclaredScreens.Proofs.JoinedAddresses
import DeclaredScreens.Proofs.Numerals
import DeclaredScreens.Proofs.Placeholders
import DeclaredScreens.Proofs.Run
import DeclaredScreens.Proofs.Step.Told

/-! The address of an update. An item is stored when its id counts as true, and its address holds
the text that the id is shown with. Every array counts as true, but an empty array is shown as
nothing, and so is an array around one value that is. A stored item is named by its address unless
its id is such an array; then the address is that of the whole list. -/

namespace DeclaredScreens

namespace Json

inductive ShowsNothing : Json → Prop
  | null : ShowsNothing .null
  | emptyText : ShowsNothing (.string "")
  | emptyArray : ShowsNothing (.array [])
  | around {item : Json} (nothing : item.ShowsNothing) : ShowsNothing (.array [item])

theorem displayChars_around (item : Json) : (array [item]).displayChars = item.displayChars := rfl

theorem displayChars_several (x y : Json) (rest : List Json) :
    (array (x :: y :: rest)).displayChars = x.displayChars ++ ',' :: displayItems (y :: rest) := rfl

theorem displayChars_object (members : List (String × Json)) :
    (object members).displayChars = "[object Object]".toList := rfl

theorem ShowsNothing.displayChars_eq {j : Json} (nothing : j.ShowsNothing) :
    j.displayChars = [] := by
  induction nothing with
  | null => rfl
  | emptyText => rfl
  | emptyArray => rfl
  | around nothing ih => rw [displayChars_around, ih]

theorem showsNothing_of_displayChars (j : Json) (empty : j.displayChars = []) :
    j.ShowsNothing := by
  cases j with
  | null => exact .null
  | bool b => cases b <;> cases empty
  | number n => exact absurd empty n.isNumeral_displayChars.ne_nil
  | string s =>
      obtain rfl : s = "" := String.toList_eq_nil_iff.mp empty
      exact .emptyText
  | object members => simp [displayChars_object] at empty
  | array items =>
      match items, empty with
      | [], _ => exact .emptyArray
      | [item], empty => exact .around (showsNothing_of_displayChars item empty)
      | x :: y :: rest, empty => simp [displayChars_several] at empty

theorem display_eq_empty_iff (j : Json) : j.display = "" ↔ j.ShowsNothing := by
  have text : j.display = "" ↔ j.displayChars = [] := String.ofList_inj
  rw [text]
  exact ⟨showsNothing_of_displayChars j, ShowsNothing.displayChars_eq⟩

/-- Of the values that count as true, only arrays are shown as nothing. -/
theorem showsNothing_truthy_iff {j : Json} (truthy : j.isTruthy = true) :
    j.ShowsNothing ↔ j = .array [] ∨ ∃ item, j = .array [item] ∧ item.ShowsNothing := by
  constructor
  · intro nothing
    cases nothing with
    | null => cases truthy
    | emptyText => cases truthy
    | emptyArray => exact .inl rfl
    | around nothing => exact .inr ⟨_, rfl, nothing⟩
  · rintro (rfl | ⟨item, rfl, nothing⟩)
    · exact .emptyArray
    · exact .around nothing

end Json

namespace Template

theorem fill_id {item : Option Record} {id : Json}
    (found : item.bind (List.lookup "id") = some id) : fill ":id" item = id.display := by
  have parts : Decomposes ":id" [.placeholder "id"] :=
    ⟨⟨⟨by decide, by simp [isNameChar], by simp [EndsName]⟩, trivial⟩, rfl⟩
  have shown : (Piece.placeholder "id").filled item = id.displayChars := by
    simp [← Piece.fieldChars_eq, fieldChars, found]
  rw [parts.fill_eq, filled_cons, shown]
  simp [Json.display]

theorem join_eq_base_iff {base : String} (bare : base.toList.getLast? ≠ some '/') (path : String) :
    join base path = base ↔ path = "" := by
  constructor
  · intro same
    have chars : joinChars base.toList path.toList = base.toList := by
      simpa [join] using congrArg String.toList same
    rw [joinChars, dropTrailingSlashes_eq_self bare] at chars
    split at chars
    · next empty => exact String.toList_eq_nil_iff.mp (List.isEmpty_iff.mp empty)
    · split at chars
      · next nonempty empty =>
          rw [List.isEmpty_iff.mp empty] at chars
          exact String.toList_eq_nil_iff.mp chars
      · have longer := congrArg List.length chars
        simp at longer
  · rintro rfl
    simp [join, joinChars]

end Template

theorem Record.id_of_hasIdentity {item : Option Record} (stored : hasIdentity item = true) :
    ∃ id, item.bind (List.lookup "id") = some id ∧ id.isTruthy = true := by
  unfold hasIdentity at stored
  split at stored
  · next id found => exact ⟨id, found, stored⟩
  · cases stored

theorem Action.stored_of_update {item : Option Record}
    (resolved : resolve save item = update) : Record.hasIdentity item = true := by
  cases stored : Record.hasIdentity item with
  | true => rfl
  | false => simp [resolve, stored, create, update] at resolved

namespace Screen

/-- An item that a save updates has an id, and its place below the list is the empty text just when
the id is an array that is shown as nothing. For the same items alone a save goes to the address of
the list, wherever updates go to the place of their item and the base of the screen has no slash at
its end. -/
theorem update_names_record_unless_blank_array (item : Option Record)
    (resolved : Action.resolve Action.save item = Action.update) :
    ∃ id, item.bind (List.lookup "id") = some id ∧
      (Template.fill ":id" item = "" ↔
        id = .array [] ∨ ∃ shown, id = .array [shown] ∧ shown.ShowsNothing) ∧
      ∀ (s : Screen) (endpoint : Endpoint), (∀ front, s.baseUrl ≠ front ++ "/") →
        s.registry.get? Action.update = some endpoint → endpoint.path = ":id" →
        ∃ url, s.endpointFor Action.save item = .ok (endpoint, url) ∧
          (url = s.baseUrl ↔
            id = .array [] ∨ ∃ shown, id = .array [shown] ∧ shown.ShowsNothing) := by
  obtain ⟨id, found, truthy⟩ := Record.id_of_hasIdentity (Action.stored_of_update resolved)
  have blank : Template.fill ":id" item = "" ↔
      id = .array [] ∨ ∃ shown, id = .array [shown] ∧ shown.ShowsNothing := by
    rw [Template.fill_id found, Json.display_eq_empty_iff, Json.showsNothing_truthy_iff truthy]
  refine ⟨id, found, blank, fun s endpoint unslashed registered path => ?_⟩
  have bare : s.baseUrl.toList.getLast? ≠ some '/' := by
    intro last
    obtain ⟨front, same⟩ := List.getLast?_eq_some_iff.mp last
    refine unslashed (String.ofList front) (String.toList_inj.mp ?_)
    simpa using same
  refine ⟨endpoint.url s.baseUrl item, endpointFor_ok_iff.mpr ⟨?_, rfl⟩, ?_⟩
  · rw [resolved, registered]
  · rw [Endpoint.url, Template.join_eq_base_iff bare, path, blank]

theorem id_of_two_nulls_names_contact :
    ∃ url, (ofSchema .contacts).endpointFor "save" (some [("id", .array [.null, .null])]) =
      .ok (⟨"PUT", ":id"⟩, url) ∧ url ≠ "/api/contacts" := by
  have unslashed (front : String) : (ofSchema .contacts).baseUrl ≠ front ++ "/" := by
    intro same
    have last := congrArg (fun text => text.toList.getLast?) same
    simp [ofSchema, Schema.contacts] at last
  obtain ⟨id, found, -, addresses⟩ := update_names_record_unless_blank_array
    (some [("id", .array [.null, .null])]) rfl
  cases found
  obtain ⟨url, reached, bare⟩ := addresses (ofSchema .contacts) ⟨"PUT", ":id"⟩ unslashed rfl rfl
  exact ⟨url, reached, fun same => by simpa using bare.mp same⟩

/-- With an empty array for an id, a contact counts as stored, but its update goes to the list. -/
theorem empty_array_id_updates_list :
    Action.resolve "save" (some [("id", .array [])]) = "update" ∧
    Template.fill ":id" (some [("id", .array [])]) = "" ∧
    (ofSchema .contacts).endpointFor "save" (some [("id", .array [])]) =
      .ok (⟨"PUT", ":id"⟩, "/api/contacts") := by
  refine ⟨rfl, by decide +kernel, ?_⟩
  have url : Endpoint.url ⟨"PUT", ":id"⟩ "/api/contacts" (some [("id", .array [])]) =
      "/api/contacts" := by decide +kernel
  exact endpointFor_ok_iff.mpr ⟨rfl, url.symm⟩

end Screen

end DeclaredScreens
