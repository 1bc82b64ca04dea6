import DeclaredScreens.Proofs.Rearrangement.Tables
import Mathlib.Data.List.Nodup

/-! Rearranged trees, one decoder at a time: options, arrays, directories, and values made of
fields follow what is rearranged within them. -/

namespace DeclaredScreens

abbrev Additions := Scope → Raw → Prop

/-- Additions hinder nobody if they are well formed in the text, and documents where they are set
aside. -/
structure Additions.Harmless (fresh : Additions) : Prop where
  complete : ∀ {room raw}, fresh ⟨.text, room⟩ raw → raw.complete = true
  value : ∀ {room raw}, fresh ⟨.aside, room⟩ raw → raw.HasValue room

namespace Rearrangement

def same : Rearrangement := fun _ => Eq

def optional (R : Rearrangement) : Rearrangement
  | _, .null, raw' => raw' = .null
  | scope, raw, raw' => raw' ≠ .null ∧ R scope raw raw'

def arrayOf (R : Rearrangement) : Rearrangement
  | scope, .array xs, .array xs' => List.Forall₂ (R scope.inner) xs xs'
  | _, raw, raw' => raw = raw'

def directory (R : Rearrangement) : Rearrangement
  | scope, .object ms, .object ms' =>
      Members.Rearranged (fun _ => R scope.inner) (fun _ _ => False) ms ms'
  | _, raw, raw' => raw = raw'

variable (fresh : Additions)

def fields (table : FieldTable) : Rearrangement
  | scope, .object ms, .object ms' =>
      Members.Rearranged (table.inScope scope.inner).member
        (fun name raw => name ∉ table.names ∧ fresh scope.inner raw) ms ms'
  | scope, .array xs, .array xs' => (table.inScope scope.inner).positional xs xs'
  | _, raw, raw' => raw = raw'

section Proper

variable {R : Rearrangement}

theorem proper_same : same.Proper where
  refl _ _ := rfl
  hasValue_iff _ _ _ related := by rw [related]

theorem Proper.optional (proper : R.Proper) : (optional R).Proper where
  refl scope raw := by
    unfold Rearrangement.optional
    split
    · rfl
    · next present => exact ⟨present, proper.refl scope raw⟩
  hasValue_iff room raw raw' related := by
    unfold Rearrangement.optional at related
    split at related
    · rw [related]
    · exact proper.hasValue_iff room _ _ related.2

theorem forall_mem_iff {related : Raw → Raw → Prop} {P : Raw → Prop} {xs xs' : List Raw}
    (each : List.Forall₂ related xs xs') (keeps : ∀ x x', related x x' → (P x' ↔ P x)) :
    (∀ x ∈ xs', P x) ↔ ∀ x ∈ xs, P x := by
  induction each with
  | nil => exact Iff.rfl
  | cons first _ ih => rw [List.forall_mem_cons, List.forall_mem_cons, ih, keeps _ _ first]

theorem Proper.arrayOf (proper : R.Proper) : (arrayOf R).Proper where
  refl scope raw := by
    cases raw with
    | array xs => exact List.forall₂_same.mpr fun x _ => proper.refl scope.inner x
    | _ => rfl
  hasValue_iff room raw raw' related := by
    unfold Rearrangement.arrayOf at related
    split at related
    · rw [Raw.hasValue_array_iff, Raw.hasValue_array_iff,
        forall_mem_iff related (proper.hasValue_iff (room - 1))]
    · rw [related]

theorem Proper.directory (proper : R.Proper) : (directory R).Proper where
  refl scope raw := by
    cases raw with
    | object ms =>
        unfold Rearrangement.directory
        exact .refl fun _ => proper.refl scope.inner
    | _ => rfl
  hasValue_iff room raw raw' related := by
    unfold Rearrangement.directory at related
    split at related
    · exact related.hasValue_iff (fun _ => proper.hasValue_iff (room - 1)) nofun
    · rw [related]

variable {fresh : Additions}

theorem proper_fields (harmless : fresh.Harmless) {table : FieldTable}
    (proper : ∀ entry ∈ table, entry.2.Proper) : (fields fresh table).Proper where
  refl scope raw := by
    cases raw with
    | object ms =>
        unfold Rearrangement.fields
        exact .refl (MemberTable.member_refl (FieldTable.refl_inScope proper))
    | array xs => exact MemberTable.positional_refl (FieldTable.refl_inScope proper) xs
    | _ => rfl
  hasValue_iff room raw raw' related := by
    unfold Rearrangement.fields at related
    have keeps := @FieldTable.hasValue_inScope table proper (room - 1)
    split at related
    · exact related.hasValue_iff (fun _ _ _ => MemberTable.iff_of_member keeps)
        fun _ _ isFresh => harmless.value isFresh.2
    · rw [Raw.hasValue_array_iff, Raw.hasValue_array_iff,
        MemberTable.forall_positional related keeps]
    · rw [related]

theorem fields_of_perm {table : FieldTable} (proper : ∀ entry ∈ table, entry.2.Proper)
    {scope : Scope} {ms added ms' : List (Option String × Raw)}
    (joined : ∀ m ∈ added, ∃ name, m.1 = some name ∧ name ∉ table.names ∧ fresh scope.inner m.2)
    (order : ms'.Perm (ms ++ added)) : fields fresh table scope (.object ms) (.object ms') := by
  unfold fields
  exact .of_perm (MemberTable.member_refl (FieldTable.refl_inScope proper)) joined order

end Proper

end Rearrangement

namespace Decoder

variable {α : Type} {decoder : Decoder α} {R : Rearrangement}

theorem follows_same (decoder : Decoder α) : decoder.Follows .same where
  reads _ related := by rw [related]
  proper := Rearrangement.proper_same

theorem Follows.optional (follows : decoder.Follows R) :
    (Decoder.optional decoder).Follows (.optional R) where
  reads {scope raw raw'} once related := by
    unfold Rearrangement.optional at related
    split at related
    · rw [related]
    · next present =>
        have read := follows.reads once related.2
        have optional_eq {x : Raw} (some : x ≠ .null) :
            Decoder.optional decoder scope x = (decoder scope x).map .some := by
          unfold Decoder.optional
          split
          · exact absurd rfl some
          · rfl
        rw [optional_eq present, optional_eq related.1, Decoded.toOption_map, read,
          Decoded.toOption_map]
  proper := follows.proper.optional

section Items

variable {item : Raw → Decoded α}

theorem items_congr {xs xs' : List Raw}
    (each : List.Forall₂ (fun x x' => (item x').toOption = (item x).toOption) xs xs') :
    (items item xs').toOption = (items item xs).toOption := by
  induction each with
  | nil => rfl
  | cons first _ ih => simp only [items, Decoded.toOption_bind, first, ih]

theorem Follows.arrayOf (follows : decoder.Follows R) :
    (Decoder.arrayOf decoder).Follows (.arrayOf R) where
  reads {scope raw raw'} once related := by
    obtain ⟨provenance, room⟩ := scope
    unfold Rearrangement.arrayOf at related
    split at related
    · cases room with
      | zero => rfl
      | succ room =>
          have each := (List.forall₂_and_left _ _).mpr ⟨Raw.namesOnce_array_iff.mp once, related⟩
          exact items_congr (each.imp fun _ _ pair => follows.reads pair.1 pair.2)
    · rw [related]
  proper := follows.proper.arrayOf

end Items

section Entries

variable {entry : Raw → Decoded α}

theorem entries_congr {ms ms' : List (Option String × Raw)}
    (each : List.Forall₂ (fun m k => k.1 = m.1 ∧ (entry k.2).toOption = (entry m.2).toOption) ms ms')
    (done : Directory α) :
    (entries entry done ms').toOption = (entries entry done ms).toOption := by
  induction each generalizing done with
  | nil => rfl
  | @cons m k _ _ first _ ih =>
      obtain ⟨name, raw⟩ := m
      obtain ⟨other, raw'⟩ := k
      obtain ⟨named, same⟩ := first
      obtain rfl : other = name := named
      cases other with
      | none => rfl
      | some name => simp only [entries, Decoded.toOption_bind, same, ih]

theorem entries_eq_ok_iff {ms : List (Option String × Raw)} {done d : Directory α} :
    entries entry done ms = .ok d ↔
      ∃ members : List (String × α),
        List.Forall₂ (fun m a => m.1 = some a.1 ∧ entry m.2 = .ok a.2) ms members ∧
        members.foldl (fun d m => d.insert m.1 m.2) done = d := by
  induction ms generalizing done with
  | nil => simp [entries]
  | cons m rest ih =>
      obtain ⟨_ | name, raw⟩ := m
      · simp [entries, List.forall₂_cons_left_iff]
      · cases read : entry raw with
        | error cause => simp [entries, List.forall₂_cons_left_iff, read, bind, Except.bind]
        | ok a => simp [entries, List.forall₂_cons_left_iff, read, bind, Except.bind, ih]

theorem entries_perm {ms ms' : List (Option String × Raw)} (order : ms'.Perm ms)
    (distinct : (ms.map Prod.fst).Nodup) :
    (entries entry .empty ms').toOption = (entries entry .empty ms).toOption := by
  have reorder {ms ms' : List (Option String × Raw)} (order : ms'.Perm ms)
      (distinct : (ms.map Prod.fst).Nodup) {d : Directory α}
      (read : entries entry .empty ms = .ok d) : entries entry .empty ms' = .ok d := by
    obtain ⟨members, each, rfl⟩ := entries_eq_ok_iff.mp read
    obtain ⟨members', each', order'⟩ := List.perm_comp_forall₂ order each
    refine entries_eq_ok_iff.mpr ⟨members', each', ?_⟩
    -- What is entered is the same up to order, and a directory holds its entries by name.
    have names : List.Forall₂ Eq (ms.map Prod.fst) (members.map fun m => some m.1) :=
      List.rel_map (fun _ _ pair => pair.1) each
    rw [List.forall₂_eq_eq_eq] at names
    rw [names, ← Function.comp_def, ← List.map_map] at distinct
    have entered := Directory.entries_foldl_insert members .empty
      (by simpa [Directory.empty] using List.Nodup.of_map some distinct)
    exact Directory.foldl_insert (order'.trans (by simpa [Directory.empty] using entered.symm))
  refine Option.ext fun d => ?_
  rw [Decoded.toOption_eq_some_iff, Decoded.toOption_eq_some_iff]
  exact ⟨reorder order.symm ((order.map Prod.fst).nodup_iff.mpr distinct), reorder order distinct⟩

theorem Follows.directory (follows : decoder.Follows R) :
    (Decoder.directory decoder).Follows (.directory R) where
  reads {scope raw raw'} once related := by
    obtain ⟨provenance, room⟩ := scope
    unfold Rearrangement.directory at related
    split at related
    case h_1 ms ms' =>
      cases room with
      | zero => rfl
      | succ room =>
          obtain ⟨kept, added, pairs, fresh, order⟩ := related
          obtain ⟨distinct, each⟩ := Raw.namesOnce_object_iff.mp once
          have none : added = [] :=
            List.eq_nil_iff_forall_not_mem.mpr fun m mem => (fresh m mem).elim fun _ never => never.2
          rw [none, List.append_nil] at order
          have names : List.Forall₂ Eq (ms.map Prod.fst) (kept.map Prod.fst) :=
            List.rel_map (fun _ _ pair => pair.1.symm) pairs
          rw [List.forall₂_eq_eq_eq] at names
          have same := ((List.forall₂_and_left _ _).mpr ⟨each, pairs⟩).imp fun _ _ pair =>
            And.intro pair.2.1 (follows.reads pair.1 pair.2.2)
          exact (entries_perm order (names ▸ distinct)).trans (entries_congr same .empty)
    case h_2 => rw [related]
  proper := follows.proper.directory

end Entries

section Fields

variable {fresh : Additions} (harmless : fresh.Harmless) {table : FieldTable}
  {names : List String} {read : Scope → Members → Placed α}

include harmless

theorem ignorable_of_harmless {provenance : Provenance} {room : Nat} {raw : Raw}
    (isFresh : fresh ⟨provenance, room⟩ raw) : ignorable provenance raw = true := by
  rw [ignorable]
  cases provenance with
  | text => simp [harmless.complete isFresh]
  | tree => rfl
  | aside => rfl

theorem follows_fields (covers : table.Covers names read) :
    (Decoder.fields names read).Follows (.fields fresh table) where
  reads {scope raw raw'} once related := by
    obtain ⟨provenance, room⟩ := scope
    unfold Rearrangement.fields at related
    obtain ⟨rfl, distinct, -, same⟩ := covers
    split at related
    case h_1 ms ms' =>
      cases room with
      | zero => rfl
      | succ room =>
          have value : (read ⟨provenance, room⟩ ⟨ms', true⟩).value? =
              (read ⟨provenance, room⟩ ⟨ms, true⟩).value? :=
            same (FieldTable.alike_object related once (by simpa using distinct)
              (fun _ _ isFresh => by simpa using isFresh.1) fun _ mem => mem)
          have others : (Members.others table.names (ignorable provenance) 0 ms').value? =
              (Members.others table.names (ignorable provenance) 0 ms).value? :=
            related.others (fun entry mem => .inl (FieldTable.mem_names_of_mem_inScope mem))
              fun _ _ isFresh => ignorable_of_harmless harmless isFresh.2
          simp only [Decoder.fields, Placed.toOption_decoded, Placed.value?_seq, Placed.value?_map,
            value, others]
    case h_2 xs xs' =>
      cases room with
      | zero => rfl
      | succ room =>
          have value : (read ⟨provenance, room⟩ (.positional table.names xs')).value? =
              (read ⟨provenance, room⟩ (.positional table.names xs)).value? :=
            same (FieldTable.alike_array related once distinct)
          simp only [Decoder.fields, Placed.toOption_decoded, Placed.value?_seq, Placed.value?_map,
            value, Members.noMoreThan, MemberTable.length_positional related]
    case h_3 => rw [related]
  proper := Rearrangement.proper_fields harmless covers.proper

end Fields

end Decoder

end DeclaredScreens
