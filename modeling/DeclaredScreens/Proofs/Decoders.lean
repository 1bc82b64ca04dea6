import DeclaredScreens.Exchange
import DeclaredScreens.Proofs.Json.Written

/-! Decoders read the values that are written. What a decoder makes of a document is told one
combinator at a time, wherever the document comes from and however much room is left beyond its
nesting. Fields are found by their names, so it does not matter which other members there are. -/

namespace DeclaredScreens

namespace Placed

variable {α β : Type}

@[simp] theorem map_ok (f : α → β) (a : α) : f <$> ok a = ok (f a) := rfl

@[simp] theorem seq_ok (f : α → β) (a : α) : ok f <*> ok a = ok (f a) := rfl

@[simp] theorem decoded_ok (a : α) : (ok a).decoded = .ok a := rfl

end Placed

namespace Json

variable {ms : List (String × Json)} {name : String} {j : Json}

theorem nesting_le_of_member (mem : (name, j) ∈ ms) : j.nesting ≤ memberNesting ms := by
  induction ms with
  | nil => cases mem
  | cons m rest ih =>
      rw [memberNesting]
      cases mem with
      | head => exact Nat.le_max_left ..
      | tail _ mem => exact Nat.le_trans (ih mem) (Nat.le_max_right ..)

theorem nesting_le_of_lookup (found : ms.lookup name = some j) : j.nesting ≤ memberNesting ms := by
  obtain ⟨before, after, rfl, -⟩ := List.lookup_eq_some_iff.mp found
  have mem : (name, j) ∈ before ++ (name, j) :: after := by simp
  exact nesting_le_of_member mem

theorem memberNesting_append (ms others : List (String × Json)) :
    memberNesting (ms ++ others) = max (memberNesting ms) (memberNesting others) := by
  induction ms with
  | nil => simp [memberNesting]
  | cons m rest ih => simp only [List.cons_append, memberNesting, ih, Nat.max_assoc]

theorem lookup_memberIf (name other : String) (value : Option Json) :
    (memberIf name value).lookup other = if other = name then value else none := by
  cases value with
  | none => simp [memberIf]
  | some v => rw [memberIf, Entries.lookup_cons_if]; rfl

theorem names_memberIf (name : String) (value : Option Json) :
    ((memberIf name value).map Prod.fst).Sublist [name] := by
  cases value with
  | none => exact List.nil_sublist _
  | some v => exact List.Sublist.refl _

theorem rawItems_eq (items : List Json) : rawItems items = items.map raw := by
  induction items with
  | nil => rfl
  | cons x xs ih => rw [rawItems, ih, List.map_cons]

theorem rawMembers_eq (ms : List (String × Json)) :
    rawMembers ms = ms.map fun (name, value) => (some name, value.raw) := by
  induction ms with
  | nil => rfl
  | cons m rest ih => rw [rawMembers, ih, List.map_cons]

end Json

namespace Directory

variable {α : Type}

theorem insertEntry_perm {name : String} {value : α} {entries : List (String × α)}
    (absent : name ∉ entries.map Prod.fst) :
    (insertEntry name value entries).Perm ((name, value) :: entries) := by
  induction entries with
  | nil => exact .refl _
  | cons entry rest ih =>
      simp only [List.map_cons, List.mem_cons, not_or] at absent
      simp only [insertEntry, if_neg absent.1]
      split
      · exact .refl _
      · exact ((ih absent.2).cons entry).trans (.swap _ _ rest)

theorem entries_foldl_insert (members : List (String × α)) (done : Directory α)
    (distinct : ((members ++ done.entries).map Prod.fst).Nodup) :
    (members.foldl (fun d m => d.insert m.1 m.2) done).entries.Perm (members ++ done.entries) := by
  induction members generalizing done with
  | nil => exact .refl _
  | cons m rest ih =>
      rw [List.cons_append, List.map_cons, List.nodup_cons] at distinct
      have absent : m.1 ∉ done.entries.map Prod.fst := fun mem =>
        distinct.1 (by rw [List.map_append]; exact List.mem_append_right _ mem)
      have inserted : (rest ++ (done.insert m.1 m.2).entries).Perm (m :: (rest ++ done.entries)) :=
        ((insertEntry_perm absent).append_left rest).trans List.perm_middle
      refine (ih (done.insert m.1 m.2) ?_).trans inserted
      rw [(inserted.map Prod.fst).nodup_iff]
      exact List.nodup_cons.mpr distinct

theorem foldl_insert {members : List (String × α)} {d : Directory α}
    (same : members.Perm d.entries) :
    members.foldl (fun d m => d.insert m.1 m.2) empty = d := by
  have distinct : (members.map Prod.fst).Nodup := by
    rw [(same.map Prod.fst).nodup_iff]
    exact List.pairwise_map.mpr (d.ordered.imp String.ne_of_lt)
  have entered := entries_foldl_insert members empty (by simpa [empty] using distinct)
  have all := entered.trans (by simpa [empty] using same)
  have entries := all.eq_of_pairwise (fun a b _ _ less greater =>
    absurd (String.lt_trans less greater) (String.lt_irrefl _)) (Directory.ordered _) d.ordered
  cases d
  cases folded : members.foldl (fun d m => d.insert m.1 m.2) empty
  simp only [folded] at entries
  simp only [entries]

end Directory

def Members.ofJson (ms : List (String × Json)) : Members := ⟨Json.rawMembers ms, true⟩

/-- Does the decoder make this value of a document? -/
def Decoder.Reads {α : Type} (decoder : Decoder α) (j : Json) (a : α) : Prop :=
  ∀ scope : Scope, j.nesting ≤ scope.room → decoder scope j.raw = .ok a

/-- Null is read as absence, so what is there must not be written as null. -/
theorem Decoder.reads_some {α : Type} {decoder : Decoder α} {j : Json} {a : α}
    (present : j ≠ .null) (reads : decoder.Reads j a) : (optional decoder).Reads j (some a) := by
  intro scope deep
  have value := reads scope deep
  have notNull : j.raw ≠ .null := by
    cases j with
    | null => exact absurd rfl present
    | _ => nofun
  unfold optional
  split
  · next null => exact absurd null notNull
  · rw [value]
    rfl

namespace Members

variable {α : Type} {ms : List (String × Json)} {name : String}

theorem occurrences_absent (absent : name ∉ ms.map Prod.fst) (place : Nat) :
    occurrences name place (Json.rawMembers ms) = [] := by
  induction ms generalizing place with
  | nil => rfl
  | cons m rest ih =>
      obtain ⟨first, value⟩ := m
      simp only [List.map_cons, List.mem_cons, not_or] at absent
      simp only [Json.rawMembers, occurrences, Option.some.injEq, if_neg (Ne.symm absent.1)]
      exact ih absent.2 (place + 1)

theorem occurrences_of_lookup {j : Json} (distinct : (ms.map Prod.fst).Nodup)
    (found : ms.lookup name = some j) (place : Nat) :
    ∃ position, occurrences name place (Json.rawMembers ms) = [(position, j.raw)] := by
  induction ms generalizing place with
  | nil => cases found
  | cons m rest ih =>
      obtain ⟨first, value⟩ := m
      rw [List.map_cons, List.nodup_cons] at distinct
      rw [Entries.lookup_cons_if] at found
      simp only [Json.rawMembers, occurrences, Option.some.injEq]
      split at found
      · next same =>
          cases found
          rw [if_pos same.symm, occurrences_absent (same ▸ distinct.1)]
          exact ⟨place, rfl⟩
      · next other =>
          rw [if_neg (Ne.symm other)]
          exact ih distinct.2 found (place + 1)

theorem field_absent (absent : ms.lookup name = none) (a : α) (decoder : Decoder α)
    (scope : Scope) : (ofJson ms).field scope name decoder (some a) = .ok a := by
  have nowhere : name ∉ ms.map Prod.fst := by
    intro mem
    have found : (ms.lookup name).isSome = true := Entries.mem_names_iff.mp mem
    rw [absent] at found
    cases found
  simp only [field, ofJson, occurrences_absent nowhere]

structure Written (ms : List (String × Json)) (scope : Scope) : Prop where
  distinct : (ms.map Prod.fst).Nodup
  deep : Json.memberNesting ms ≤ scope.room

namespace Written

variable {scope : Scope} (w : Written ms scope) (name : String) {j : Json} {decoder : Decoder α}

include w

theorem field_of_read {a : α} {absent : Option α} (found : ms.lookup name = some j)
    (read : decoder scope j.raw = .ok a) : (ofJson ms).field scope name decoder absent = .ok a := by
  obtain ⟨position, once⟩ := occurrences_of_lookup w.distinct found 0
  simp only [Members.field, ofJson, once, read]

theorem nesting_le (found : ms.lookup name = some j) : j.nesting ≤ scope.room :=
  Nat.le_trans (Json.nesting_le_of_lookup found) w.deep

theorem field {a : α} {absent : Option α} (found : ms.lookup name = some j)
    (reads : decoder.Reads j a) : (ofJson ms).field scope name decoder absent = .ok a :=
  w.field_of_read name found (reads scope (w.nesting_le name found))

theorem field_if {o : Option α} {written : α → Json} (found : ms.lookup name = o.map written)
    (present : ∀ a ∈ o, written a ≠ .null) (reads : ∀ a ∈ o, decoder.Reads (written a) a) :
    (ofJson ms).field scope name (.optional decoder) (some none) = .ok o := by
  cases o with
  | none => exact field_absent found none _ scope
  | some a => exact w.field name found (Decoder.reads_some (present a rfl) (reads a rfl))

end Written

theorem others_ok {known : List String} {accepts : Raw → Bool} (place : Nat)
    (accepted : ∀ m ∈ ms, known.contains m.1 = true ∨ accepts m.2.raw = true) :
    others known accepts place (Json.rawMembers ms) = .ok () := by
  induction ms generalizing place with
  | nil => rfl
  | cons m rest ih =>
      have first := accepted m (.head _)
      rw [← Bool.or_eq_true] at first
      simp only [Json.rawMembers, others, first, if_true]
      exact ih (place + 1) fun m mem => accepted m (.tail _ mem)

theorem without_ofJson (known : List String) (ms : List (String × Json)) :
    (ofJson ms).without known = ofJson (ms.filter fun m => !known.contains m.1) := by
  simp only [without, ofJson, Json.rawMembers_eq, Members.mk.injEq, and_true, List.filter_map]
  rfl

section Append

variable {known : List String} {others : List (String × Json)}

theorem without_append (here : ∀ m ∈ ms, m.1 ∈ known) (apart : ∀ m ∈ others, m.1 ∉ known) :
    (ofJson (ms ++ others)).without known = ofJson others := by
  have gone : ms.filter (fun m => !known.contains m.1) = [] :=
    List.filter_eq_nil_iff.mpr fun m mem => by simpa using here m mem
  have kept : others.filter (fun m => !known.contains m.1) = others :=
    List.filter_eq_self.mpr fun m mem => by simpa using apart m mem
  rw [without_ofJson, List.filter_append, gone, kept, List.nil_append]

theorem Written.later {scope : Scope} (w : Written (ms ++ others) scope) (provenance : Provenance) :
    Written others ⟨provenance, scope.room⟩ := by
  obtain ⟨distinct, deep⟩ := w
  rw [List.map_append] at distinct
  rw [Json.memberNesting_append, Nat.max_le] at deep
  exact ⟨(List.nodup_append.mp distinct).2.1, deep.2⟩

end Append

theorem others_setAside (known : List String) {room : Nat} (deep : Json.memberNesting ms ≤ room) :
    others known (Decoder.setAside room) 0 (Json.rawMembers ms) = .ok () :=
  others_ok 0 fun m mem =>
    .inr <| (Json.isSome_value?_raw m.2).mpr (Nat.le_trans (Json.nesting_le_of_member mem) deep)

end Members

namespace Decoder

variable {α τ : Type} {decoder : Decoder α}

theorem Reads.ofText {j : Json} {a : α} (reads : decoder.Reads j a) (readable : j.Readable) :
    decoder.ofText j.text = .ok a := by
  simp only [Decoder.ofText, Json.ofText_text j readable.floats,
    reads (.whole .text) readable.deep]
  rfl

theorem reads_string (s : String) : string.Reads (.string s) s := fun _ _ => rfl

theorem reads_bool (b : Bool) : bool.Reads (.bool b) b := fun _ _ => rfl

theorem reads_value {j : Json} (distinct : j.isDistinct = true) : value.Reads j j := by
  intro scope deep
  simp only [value, Json.value?_raw j deep distinct]

theorem reads_record {r : Record} (distinct : Record.isDistinct r = true) :
    record.Reads (.object r) r := by
  intro scope deep
  simp [record, Json.value?_raw (.object r) deep distinct, Json.record?]

theorem reads_optional {written : α → Json} {o : Option α} (present : ∀ a ∈ o, written a ≠ .null)
    (reads : ∀ a ∈ o, decoder.Reads (written a) a) :
    (optional decoder).Reads (Json.orNull (o.map written)) o := by
  cases o with
  | none => exact fun _ _ => rfl
  | some a => exact reads_some (present a rfl) (reads a rfl)

theorem reads_text (o : Option String) : (optional string).Reads (Json.textOrNull o) o :=
  reads_optional (fun _ _ => nofun) fun s _ => reads_string s

theorem reads_array {written : α → Json} {xs : List α}
    (reads : ∀ x ∈ xs, decoder.Reads (written x) x) :
    (arrayOf decoder).Reads (.array (xs.map written)) xs := by
  rintro ⟨provenance, room⟩ deep
  cases room with
  | zero => simp [Json.nesting] at deep
  | succ room =>
      have inside : Json.itemNesting (xs.map written) ≤ room := Nat.le_of_succ_le_succ deep
      simp only [Json.raw, Json.rawItems_eq, arrayOf]
      clear deep
      induction xs with
      | nil => rfl
      | cons x xs ih =>
          rw [List.map_cons, Json.itemNesting, Nat.max_le] at inside
          have first := reads x (.head _) ⟨provenance, room⟩ inside.1
          have more := ih (fun y mem => reads y (.tail _ mem)) inside.2
          simp only [List.map_cons, items, first, more]
          rfl

theorem reads_enumeration {table : List (String × τ)} {name : String} {a : τ}
    (found : table.lookup name = some a) : (enumeration table).Reads (.string name) a := by
  intro scope deep
  simp only [Json.raw, enumeration, variant, found]

theorem entries_eq {entry : Raw → Decoded α} {written : α → Json} (members : List (String × α))
    (reads : ∀ m ∈ members, entry (written m.2).raw = .ok m.2) (done : Directory α) :
    entries entry done (Json.rawMembers (members.map fun (name, a) => (name, written a))) =
      .ok (members.foldl (fun d m => d.insert m.1 m.2) done) := by
  induction members generalizing done with
  | nil => rfl
  | cons m rest ih =>
      have first := reads m (.head _)
      simp only [List.map_cons, Json.rawMembers, entries, first, List.foldl_cons]
      exact ih (fun other mem => reads other (.tail _ mem)) _

theorem reads_directory {written : α → Json} {d : Directory α} {members : List (String × α)}
    (same : members.Perm d.entries) (reads : ∀ m ∈ members, decoder.Reads (written m.2) m.2) :
    (directory decoder).Reads (.object (members.map fun (name, a) => (name, written a))) d := by
  rintro ⟨provenance, room⟩ deep
  cases room with
  | zero => simp [Json.nesting] at deep
  | succ room =>
      have inside : Json.memberNesting (members.map fun (name, a) => (name, written a)) ≤ room :=
        Nat.le_of_succ_le_succ deep
      have each : ∀ m ∈ members, decoder ⟨provenance, room⟩ (written m.2).raw = .ok m.2 := by
        intro m mem
        have member : (m.1, written m.2) ∈ members.map fun (name, a) => (name, written a) :=
          List.mem_map.mpr ⟨m, mem, rfl⟩
        exact reads m mem _ (Nat.le_trans (Json.nesting_le_of_member member) inside)
      simp only [Json.raw, directory, entries_eq members each, Directory.foldl_insert same]

section Fields

variable {ms : List (String × Json)} {a : α}

theorem reads_fields {names : List String} {read : Scope → Members → Placed α}
    (distinct : (ms.map Prod.fst).Nodup) (known : ∀ m ∈ ms, names.contains m.1 = true)
    (reads : ∀ scope, Members.Written ms scope → read scope (.ofJson ms) = .ok a) :
    (fields names read).Reads (.object ms) a := by
  rintro ⟨provenance, room⟩ deep
  cases room with
  | zero => simp [Json.nesting] at deep
  | succ room =>
      have value : read ⟨provenance, room⟩ ⟨Json.rawMembers ms, true⟩ = .ok a :=
        reads ⟨provenance, room⟩ ⟨distinct, Nat.le_of_succ_le_succ deep⟩
      simp only [Json.raw, fields, value, Members.others_ok 0 fun m mem => .inl (known m mem)]
      rfl

theorem reads_tag {table : List (String × τ)} {name : String} {v : τ}
    (found : table.lookup name = some v) : (tag table).Reads (.string name) v := by
  intro scope deep
  simp only [Json.raw, tag, variant, found]

theorem reads_tagged {tagName name : String} {table : List (String × Variant α)}
    {v : Variant α} (found : table.lookup name = some v)
    (distinct : (tagName :: ms.map Prod.fst).Nodup)
    (reads : ∀ scope, Members.Written ms scope → v.read scope (.ofJson ms) = .ok a) :
    (tagged tagName table).Reads (.object ((tagName, .string name) :: ms)) a := by
  rintro ⟨provenance, room⟩ deep
  cases room with
  | zero => simp [Json.nesting] at deep
  | succ room =>
      have whole : Members.Written ([(tagName, .string name)] ++ ms) ⟨provenance, room⟩ :=
        ⟨distinct, Nat.le_of_succ_le_succ deep⟩
      have kind : (Members.ofJson ((tagName, .string name) :: ms)).field ⟨provenance, room⟩
          tagName (tag table) none = .ok v :=
        whole.field tagName (List.lookup_cons_self ..) (reads_tag found)
      have others := Members.others_setAside [tagName] whole.deep
      have rest : (Members.ofJson ([(tagName, .string name)] ++ ms)).without [tagName] =
          .ofJson ms := by
        refine Members.without_append (by simp) fun m mem => ?_
        have other : m.1 ≠ tagName := fun same =>
          (List.nodup_cons.mp distinct).1 (same ▸ List.mem_map_of_mem mem)
        simpa using other
      have value := reads ⟨.aside, room⟩ (whole.later .aside)
      rw [← rest] at value
      simp only [Members.ofJson, List.singleton_append] at kind others value
      simp only [Json.raw, tagged, kind, others, Placed.map_ok, Placed.seq_ok, Placed.decoded_ok,
        bind, Except.bind, value]

end Fields

end Decoder

end DeclaredScreens
