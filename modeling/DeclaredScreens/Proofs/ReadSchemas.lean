import DeclaredScreens.Proofs.Except
import DeclaredScreens.Proofs.FormLookup
import DeclaredScreens.Proofs.MemberOrder

/-! What has been read names each member once. A repeated name in a text keeps its place and gets
the later value, so no document that has been read holds an object with a repeated name, and
neither does anything that is declared in a schema that has been read. -/

namespace DeclaredScreens

theorem Json.distinctMembers_put {name : String} {value : Json} {done : Record}
    (distinct : value.isDistinct = true) (before : Json.distinctMembers done = true) :
    Json.distinctMembers (Entries.put name value done) = true := by
  induction done with
  | nil => simpa [Entries.put, distinctMembers] using distinct
  | cons entry rest ih =>
      rw [distinctMembers, Bool.and_eq_true] at before
      rw [Entries.put]
      split
      · rw [distinctMembers, distinct, before.2, Bool.and_self]
      · rw [distinctMembers, before.1, ih before.2, Bool.and_self]

namespace Raw

mutual

theorem isDistinct_of_value? {room : Nat} {raw : Raw} {j : Json} (read : raw.value? room = some j) :
    j.isDistinct = true := by
  cases raw with
  | broken | null | bool b =>
      simp only [value?, Option.some.injEq, reduceCtorEq] at read
      try exact read ▸ rfl
  | number n | string s =>
      rw [value?] at read
      obtain ⟨_, -, rfl⟩ := Option.map_eq_some_iff.mp read
      rfl
  | array items =>
      cases room with
      | zero => cases read
      | succ room =>
          rw [value?] at read
          obtain ⟨values, inside, rfl⟩ := Option.map_eq_some_iff.mp read
          exact distinctItems_of_itemValues? inside
  | object members =>
      cases room with
      | zero => cases read
      | succ room =>
          rw [value?] at read
          obtain ⟨values, inside, rfl⟩ := Option.map_eq_some_iff.mp read
          exact isDistinct_of_memberValues? inside (by decide)

theorem distinctItems_of_itemValues? {room : Nat} {items : List Raw} {values : List Json}
    (read : itemValues? room items = some values) : Json.distinctItems values = true := by
  cases items with
  | nil => cases read; rfl
  | cons x xs =>
      simp only [itemValues?, Option.bind_eq_bind, Option.bind_eq_some_iff, Option.pure_def,
        Option.some.injEq] at read
      obtain ⟨first, here, others, later, rfl⟩ := read
      rw [Json.distinctItems, isDistinct_of_value? here, distinctItems_of_itemValues? later]
      rfl

theorem isDistinct_of_memberValues? {room : Nat} {members : List (Option String × Raw)}
    {done values : Record} (read : memberValues? room members done = some values)
    (before : done.isDistinct = true) :
    Record.isDistinct values = true := by
  match members with
  | [] => cases read; exact before
  | (none, _) :: _ => cases read
  | (some name, value) :: rest =>
      simp only [memberValues?, Option.bind_eq_bind, Option.bind_eq_some_iff] at read
      obtain ⟨j, here, later⟩ := read
      rw [Record.isDistinct, Json.isDistinct, Bool.and_eq_true, decide_eq_true_eq] at before
      refine isDistinct_of_memberValues? later ?_
      rw [Record.isDistinct, Json.isDistinct, Bool.and_eq_true, decide_eq_true_eq]
      exact ⟨Entries.nodup_names_put before.1,
        Json.distinctMembers_put (isDistinct_of_value? here) before.2⟩

end

end Raw

theorem Json.isDistinct_of_ofText? {text : String} {j : Json} (read : ofText? text = some j) :
    j.isDistinct = true := by
  rw [ofText?] at read
  split at read
  · exact Raw.isDistinct_of_value? read
  · cases read

theorem Directory.mem_insertEntry {α : Type} {name : String} {value : α}
    {entries : List (String × α)} {entry : String × α}
    (mem : entry ∈ insertEntry name value entries) : entry = (name, value) ∨ entry ∈ entries := by
  induction entries with
  | nil => exact .inl (List.mem_singleton.mp mem)
  | cons head rest ih =>
      rw [insertEntry] at mem
      split at mem
      · exact List.mem_cons.mp mem
      · split at mem
        · exact (List.mem_cons.mp mem).imp_right (List.mem_cons_of_mem _)
        · rcases List.mem_cons.mp mem with rfl | later
          · exact .inr (.head _)
          · exact (ih later).imp_right (List.mem_cons_of_mem _)

namespace Placed

variable {α β : Type} {b : β}

theorem value?_map_eq_some {f : α → β} {p : Placed α} :
    (f <$> p).value? = some b ↔ ∃ a, p.value? = some a ∧ f a = b := by
  rw [value?_map, Option.map_eq_some_iff]

theorem value?_seq_eq_some {f : Placed (α → β)} {p : Placed α} :
    (f <*> p).value? = some b ↔ ∃ g, f.value? = some g ∧ ∃ a, p.value? = some a ∧ g a = b := by
  simp only [value?_seq, Option.bind_eq_some_iff, Option.map_eq_some_iff]

end Placed

namespace Decoder

variable {α : Type} {decoder : Decoder α} {P : α → Prop}

def Makes (decoder : Decoder α) (P : α → Prop) : Prop :=
  ∀ scope raw a, decoder scope raw = .ok a → P a

theorem makes_value : value.Makes fun j => j.isDistinct = true := by
  intro scope raw j read
  rw [value] at read
  split at read
  · next found =>
      cases read
      exact Raw.isDistinct_of_value? found
  · cases read

theorem makes_record : record.Makes fun r => Record.isDistinct r = true := by
  intro scope raw r read
  rw [record] at read
  split at read
  · next found =>
      cases read
      obtain ⟨j, value, members⟩ := Option.bind_eq_some_iff.mp found
      cases j with
      | object ms =>
          cases members
          exact Raw.isDistinct_of_value? value
      | _ => cases members
  · cases read

theorem Makes.optional (makes : decoder.Makes P) :
    (Decoder.optional decoder).Makes fun o => ∀ a ∈ o, P a := by
  intro scope raw o read
  unfold Decoder.optional at read
  split at read
  · cases read
    exact nofun
  · obtain ⟨a, made, rfl⟩ := ok_of_map read
    intro b mem
    cases mem
    exact makes scope raw a made

theorem forall_mem_of_items {item : Raw → Decoded α} {xs : List Raw} {as : List α}
    (makes : ∀ raw a, item raw = .ok a → P a) (read : items item xs = .ok as) : ∀ a ∈ as, P a := by
  induction xs generalizing as with
  | nil => cases read; exact nofun
  | cons x xs ih =>
      rw [items] at read
      obtain ⟨a, first, read⟩ := ok_of_bind read
      obtain ⟨rest, later, read⟩ := ok_of_bind read
      cases read
      exact List.forall_mem_cons.mpr ⟨makes x a first, ih later⟩

theorem Makes.arrayOf (makes : decoder.Makes P) :
    (Decoder.arrayOf decoder).Makes fun as => ∀ a ∈ as, P a := by
  intro scope raw as read
  unfold Decoder.arrayOf at read
  split at read
  · exact forall_mem_of_items (makes _) read
  · cases read

theorem forall_mem_of_entries {entry : Raw → Decoded α} {ms : List (Option String × Raw)}
    {done d : Directory α} (makes : ∀ raw a, entry raw = .ok a → P a)
    (before : ∀ e ∈ done.entries, P e.2) (read : entries entry done ms = .ok d) :
    ∀ e ∈ d.entries, P e.2 := by
  induction ms generalizing done with
  | nil => cases read; exact before
  | cons m rest ih =>
      obtain ⟨_ | name, raw⟩ := m
      · cases read
      · rw [entries] at read
        obtain ⟨a, here, read⟩ := ok_of_bind read
        refine ih (fun e mem => ?_) read
        rcases Directory.mem_insertEntry mem with rfl | earlier
        · exact makes raw a here
        · exact before e earlier

theorem Makes.directory (makes : decoder.Makes P) :
    (Decoder.directory decoder).Makes fun d => ∀ entry ∈ d.entries, P entry.2 := by
  intro scope raw d read
  unfold Decoder.directory at read
  split at read
  · exact forall_mem_of_entries (makes _) (by simp [Directory.empty]) read
  · cases read

theorem makes_fields {names : List String} {read : Scope → Members → Placed α}
    (makes : ∀ scope m a, (read scope m).value? = some a → P a) : (fields names read).Makes P := by
  intro scope raw a made
  rw [← Decoded.toOption_eq_some_iff] at made
  unfold fields at made
  split at made
  · simp only [Placed.toOption_decoded, Placed.value?_seq, Placed.value?_map,
      Option.bind_map, Option.bind_eq_some_iff, Option.map_eq_some_iff, Function.comp_apply] at made
    obtain ⟨b, here, -, -, rfl⟩ := made
    exact makes _ _ _ here
  · simp only [Placed.toOption_decoded, Placed.value?_seq, Placed.value?_map,
      Option.bind_map, Option.bind_eq_some_iff, Option.map_eq_some_iff, Function.comp_apply] at made
    obtain ⟨b, here, -, -, rfl⟩ := made
    exact makes _ _ _ here
  · cases made

end Decoder

theorem Members.of_field {α : Type} {decoder : Decoder α} {P : α → Prop} {m : Members}
    {scope : Scope} {name : String} {absent : Option α} {a : α}
    (makes : ∀ raw a, decoder scope raw = .ok a → P a) (spare : ∀ a ∈ absent, P a)
    (read : (m.field scope name decoder absent).value? = some a) : P a := by
  rw [value?_field] at read
  split at read
  · exact spare a read
  · exact makes _ a (Decoded.toOption_eq_some_iff.mp read)
  · cases read

theorem Condition.makes_distinct : Condition.decode.Makes fun c => c.isDistinct = true := by
  refine Decoder.makes_fields fun scope m c read => ?_
  simp only [Placed.value?_seq_eq_some, Placed.value?_map_eq_some] at read
  obtain ⟨_, ⟨_, ⟨field, -, rfl⟩, operator, -, rfl⟩, values, held, rfl⟩ := read
  exact List.all_eq_true.mpr (Members.of_field (Decoder.makes_value.arrayOf scope) (by simp) held)

theorem Rule.makes_distinct : Rule.decode.Makes fun r => r.isDistinct = true := by
  refine Decoder.makes_fields fun scope m r read => ?_
  simp only [Placed.value?_seq_eq_some, Placed.value?_map_eq_some] at read
  obtain ⟨_, ⟨effect, -, rfl⟩, conditions, held, rfl⟩ := read
  exact List.all_eq_true.mpr
    (Members.of_field (Condition.makes_distinct.arrayOf scope) (by simp) held)

theorem ElementHeader.distinct_of_read {scope : Scope} {m : Members} {h : ElementHeader}
    (read : (ElementHeader.read scope m).value? = some h) : h.isDistinct = true := by
  rw [ElementHeader.read] at read
  simp only [Placed.value?_seq_eq_some, Placed.value?_map_eq_some] at read
  obtain ⟨_, ⟨_, ⟨_, ⟨_, ⟨id, -, rfl⟩, name, -, rfl⟩, label, -, rfl⟩, required, -, rfl⟩,
    rules, held, rfl⟩ := read
  have each := Members.of_field (Rule.makes_distinct.arrayOf.optional scope) (by simp) held
  rw [isDistinct, Option.all_eq_true]
  exact fun present found => List.all_eq_true.mpr (each present found)

namespace Element

theorem Kind.distinct_of_read {children : Decoder (List Element)} {scope : Scope}
    (below : ∀ raw es, children scope raw = .ok es → distinctElements es = true) {kind : Kind}
    {h : ElementHeader} (distinct : h.isDistinct = true) {m : Members} {e : Element}
    (read : (kind.read children h scope m).value? = some e) : e.isDistinct = true := by
  have elements {name : String} {es : List Element}
      (held : (m.field scope name children (some [])).value? = some es) :
      distinctElements es = true :=
    Members.of_field (P := fun es => distinctElements es = true) below
      (by simp [distinctElements]) held
  cases kind <;> simp only [Kind.read, Placed.value?_seq_eq_some, Placed.value?_map_eq_some] at read
  case page =>
    obtain ⟨_, ⟨title, -, rfl⟩, es, held, rfl⟩ := read
    rw [isDistinct, distinct, elements held]
    rfl
  case group =>
    obtain ⟨es, held, rfl⟩ := read
    rw [isDistinct, distinct, elements held]
    rfl
  case table =>
    obtain ⟨_, ⟨columns, first, rfl⟩, rowActions, second, rfl⟩ := read
    rw [isDistinct, distinct, elements first, elements second]
    rfl
  case form =>
    obtain ⟨_, ⟨_, ⟨_, ⟨_, ⟨action, -, rfl⟩, active, -, rfl⟩, defaults, given, rfl⟩,
      notification, -, rfl⟩, es, held, rfl⟩ := read
    have settings : defaults.all Record.isDistinct = true :=
      (Option.all_eq_true _ _).mpr
        (Members.of_field (Decoder.makes_record.optional scope) (by simp) given)
    rw [isDistinct, distinct, elements held, FormSettings.isDistinct, settings]
    rfl
  case input =>
    obtain ⟨format, -, rfl⟩ := read
    exact distinct
  case display =>
    cases read
    exact distinct
  case button =>
    obtain ⟨action, -, rfl⟩ := read
    exact distinct

/-- An element is read within the room that its parent leaves, so the induction is on the room. -/
theorem makes_distinct : Element.decode.Makes fun e => e.isDistinct = true := by
  rintro ⟨provenance, room⟩
  induction room using Nat.strongRecOn generalizing provenance with
  | ind room ih =>
      intro raw e read
      cases room with
      | zero => cases read
      | succ room =>
          cases raw with
          | object entries =>
              rw [← Decoded.toOption_eq_some_iff, toOption_decode_object] at read
              simp only [Option.bind_eq_some_iff] at read
              obtain ⟨h, header, -, -, kind, -, here⟩ := read
              refine Kind.distinct_of_read (fun raw es array => ?_)
                (ElementHeader.distinct_of_read header) here
              rw [distinctElements_eq, List.all_eq_true]
              cases room with
              | zero => cases array
              | succ inner =>
                  cases raw with
                  | array items => exact Decoder.forall_mem_of_items (ih inner (by omega) _) array
                  | _ => cases array
          | _ => cases read

end Element

theorem DrawerDefinition.makes_distinct :
    DrawerDefinition.decode.Makes fun d => d.isDistinct = true := by
  refine Decoder.makes_fields fun scope m d read => ?_
  simp only [Placed.value?_seq_eq_some, Placed.value?_map_eq_some] at read
  obtain ⟨_, ⟨_, ⟨title, -, rfl⟩, description, -, rfl⟩, elements, held, rfl⟩ := read
  have each := Members.of_field (Element.makes_distinct.arrayOf scope) (by simp) held
  rw [isDistinct, Element.distinctElements_eq]
  exact List.all_eq_true.mpr each

theorem Schema.makes_distinct : Schema.decode.Makes fun s => s.isDistinct = true := by
  refine Decoder.makes_fields fun scope m s read => ?_
  simp only [Placed.value?_seq_eq_some, Placed.value?_map_eq_some] at read
  obtain ⟨_, ⟨_, ⟨_, ⟨base, -, rfl⟩, api, -, rfl⟩, drawers, declared, rfl⟩,
    elements, held, rfl⟩ := read
  have page := Members.of_field (Element.makes_distinct.arrayOf scope) (by simp) held
  have each := Members.of_field (DrawerDefinition.makes_distinct.directory scope)
    (by simp [Directory.empty]) declared
  rw [isDistinct, Element.distinctElements_eq, Bool.and_eq_true]
  exact ⟨List.all_eq_true.mpr page, List.all_eq_true.mpr each⟩

/-- What is declared in a schema that has been read names each member once. -/
theorem Schema.isDistinct_of_ofText {text : String} {s : Schema} (read : ofText text = .ok s) :
    s.isDistinct = true := by
  rw [ofText, Decoder.ofText] at read
  generalize Raw.ofText text = parsed at read
  obtain ⟨raw, endsThere⟩ := parsed
  obtain ⟨schema, made, read⟩ := ok_of_bind read
  cases endsThere with
  | true => cases read; exact makes_distinct _ _ _ made
  | false => cases read

namespace Element

variable {e : Element}

theorem distinct_children (distinct : e.isDistinct = true) :
    ∀ child ∈ e.children, child.isDistinct = true := by
  rw [← List.all_eq_true, ← distinctElements_eq]
  cases e with
  | page h title elements | group h elements =>
      rw [isDistinct, Bool.and_eq_true] at distinct
      exact distinct.2
  | table h columns rowActions =>
      rw [isDistinct, Bool.and_eq_true] at distinct
      rw [children, distinctElements_eq, List.all_append, ← distinctElements_eq,
        ← distinctElements_eq]
      exact distinct.2
  | form h settings elements =>
      rw [isDistinct, Bool.and_eq_true, Bool.and_eq_true] at distinct
      exact distinct.2.2
  | input h format | display h | button h action => rfl

theorem distinct_preorder (distinct : e.isDistinct = true) :
    ∀ below ∈ e.preorder, below.isDistinct = true := by
  induction e using children_induction with
  | step e ih =>
      rw [preorder_eq, preorderIn_eq, List.forall_mem_cons]
      refine ⟨distinct, fun below mem => ?_⟩
      obtain ⟨child, here, deeper⟩ := List.mem_flatMap.mp mem
      exact ih child here (distinct_children distinct child here) below deeper

theorem distinct_of_findIn? {id : String} {es : List Element}
    (distinct : distinctElements es = true) (found : findIn? id es = some e) :
    e.isDistinct = true := by
  rw [findIn?_eq] at found
  rw [distinctElements_eq, List.all_eq_true] at distinct
  have mem := List.mem_of_find?_eq_some found
  rw [preorderIn_eq] at mem
  obtain ⟨root, here, below⟩ := List.mem_flatMap.mp mem
  exact distinct_preorder (distinct root here) e below

end Element

theorem Schema.distinct_of_findElement? {s : Schema} {id : String} {e : Element}
    (distinct : s.isDistinct = true) (found : s.findElement? id = some e) :
    e.isDistinct = true := by
  rw [isDistinct, Bool.and_eq_true, List.all_eq_true] at distinct
  rw [findElement?, Option.or_eq_some_iff] at found
  rcases found with page | ⟨-, drawer⟩
  · exact Element.distinct_of_findIn? distinct.1 page
  · obtain ⟨entry, mem, here⟩ := List.exists_of_findSome?_eq_some drawer
    exact Element.distinct_of_findIn? (distinct.2 entry mem) here

theorem FormSpec.distinct_of_ofElement? {e : Element} {spec : FormSpec}
    (distinct : e.isDistinct = true) (declared : ofElement? e = some spec) :
    Record.isDistinct (spec.defaults.getD []) = true := by
  cases e with
  | form h settings elements =>
      cases declared
      rw [Element.isDistinct, Bool.and_eq_true, Bool.and_eq_true] at distinct
      have each := (Option.all_eq_true _ _).mp distinct.2.1
      change Record.isDistinct (settings.defaults.getD []) = true
      cases given : settings.defaults with
      | none => rfl
      | some r => exact each r given
  | _ => cases declared

end DeclaredScreens
