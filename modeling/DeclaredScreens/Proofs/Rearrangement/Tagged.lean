import DeclaredScreens.Proofs.Rearrangement.Decoders

/-! Rearranged trees whose variant is told by a tag. The tag is found wherever it stands, and the
members that it is to explain have been set aside by then; so a member that is added must be one
that can be set aside. -/

namespace DeclaredScreens

namespace Rearrangement

variable (fresh : Additions)

/-- The members of a header, which are read where they stand, and those of a variant, which are
set aside until its tag is known. -/
def besideTag (tagName : String) (header told : FieldTable) (scope : Scope)
    (ms ms' : List (Option String × Raw)) : Prop :=
  Members.Rearranged (MemberTable.member (header.inScope scope ++ told.inScope scope.aside))
    (fun name raw => name ∉ tagName :: (header.names ++ told.names) ∧ fresh scope.aside raw) ms ms'

def tagged (tagName : String) (tables : List (String × FieldTable)) : Rearrangement
  | scope, .object ms, .object ms' =>
      let tag := Members.field ⟨ms, true⟩ scope.inner tagName (.tag tables) none
      besideTag fresh tagName [] (tag.value?.getD []) scope.inner ms ms'
  | scope, .array (tag :: xs), .array (tag' :: xs') =>
      let told := (Decoder.tag tables scope.inner tag).toOption.getD []
      tag = tag' ∧ (told.inScope scope.inner.aside).positional xs xs'
  | _, raw, raw' => raw = raw'

end Rearrangement

namespace Decoder

variable {τ σ : Type}

section Tags

variable {P : τ → σ → Prop} {table : List (String × τ)} {others : List (String × σ)}
  (paired : List.Forall₂ (fun a b => a.1 = b.1 ∧ P a.2 b.2) table others)

include paired

theorem rel_lookup (name : String) : Option.Rel P (table.lookup name) (others.lookup name) := by
  induction paired with
  | nil => exact .none
  | @cons a b _ _ pair _ ih =>
      obtain ⟨first, v⟩ := a
      obtain ⟨other, w⟩ := b
      obtain ⟨named, related⟩ := pair
      obtain rfl : first = other := named
      rw [Entries.lookup_cons_if, Entries.lookup_cons_if]
      split
      · exact .some related
      · exact ih

theorem rel_getElem? (n : Nat) :
    Option.Rel (fun a b => P a.2 b.2) table[n]? others[n]? := by
  induction paired generalizing n with
  | nil => exact .none
  | cons pair _ ih =>
      cases n with
      | zero => exact .some pair.2
      | succ n => simpa using ih n

theorem rel_tag (scope : Scope) (raw : Raw) :
    Option.Rel P (tag table scope raw).toOption (tag others scope raw).toOption := by
  fun_cases tag table scope raw with
  | case1 _ name =>
      have found := rel_lookup paired name
      simp only [tag, variant]
      generalize table.lookup name = told, others.lookup name = told' at found ⊢
      cases found with
      | none => exact .none
      | some related => exact .some related
  | case2 room n x _ _ here =>
      have found := rel_getElem? paired n
      rw [here] at found
      simp only [tag]
      generalize others[n]? = told' at found ⊢
      cases found with
      | some related => exact .some related
  | case3 room n x here =>
      have found := rel_getElem? paired n
      rw [here] at found
      simp only [tag]
      generalize others[n]? = told' at found ⊢
      cases found with
      | none => exact .none
  | case4 scope raw noName noNumber =>
      simp only [tag]
      exact .none

end Tags

end Decoder

namespace Rearrangement

variable {fresh : Additions} {tagName : String} {header told : FieldTable}
  {ms ms' : List (Option String × Raw)}

section Once

variable {scope : Scope} (related : besideTag fresh tagName header told scope ms ms')
  (once : (Raw.object ms).namesOnce = true)
  (distinct : (tagName :: (header.names ++ told.names)).Nodup)

include related once distinct

theorem alike_tag (tagScope : Scope) :
    Members.Alike .same tagScope tagName ⟨ms, true⟩ ⟨ms', true⟩ := by
  refine Members.Rearranged.alike related once (fun _ isFresh => isFresh.1 (.head _))
    (MemberTable.member_of_not_mem ?_)
  rw [FieldTable.names_append]
  exact (List.nodup_cons.mp distinct).1

theorem alike_part {table : FieldTable} {place : Scope}
    (part : ∀ entry ∈ table.inScope place,
      entry ∈ header.inScope scope ++ told.inScope scope.aside) :
    ∀ entry ∈ table, Members.Alike entry.2 place entry.1 ⟨ms, true⟩ ⟨ms', true⟩ := by
  refine FieldTable.alike_object related once ?_ ?_ part
  · rw [FieldTable.names_append]
    exact (List.nodup_cons.mp distinct).2
  · rw [FieldTable.names_append]
    exact fun _ _ isFresh mem => isFresh.1 (.tail _ mem)

theorem alike_header :
    ∀ entry ∈ header, Members.Alike entry.2 scope entry.1 ⟨ms, true⟩ ⟨ms', true⟩ :=
  alike_part related once distinct fun _ => List.mem_append_left _

theorem alike_told :
    ∀ entry ∈ told, Members.Alike entry.2 scope.aside entry.1 ⟨ms, true⟩ ⟨ms', true⟩ :=
  alike_part related once distinct fun _ => List.mem_append_right _

end Once

section Values

variable (proper : ∀ entry ∈ told, entry.2.Proper)

include proper

theorem besideTag_of_perm (headed : ∀ entry ∈ header, entry.2.Proper) {scope : Scope}
    {added : List (Option String × Raw)}
    (joined : ∀ m ∈ added, ∃ name, m.1 = some name ∧ name ∉ tagName :: (header.names ++ told.names) ∧
      fresh scope.aside m.2)
    (order : ms'.Perm (ms ++ added)) : besideTag fresh tagName header told scope ms ms' := by
  refine .of_perm (MemberTable.member_refl (List.forall_mem_append.mpr ⟨?_, ?_⟩)) joined order
  · exact FieldTable.refl_inScope headed
  · exact FieldTable.refl_inScope proper

theorem besideTag_refl (headed : ∀ entry ∈ header, entry.2.Proper) (scope : Scope)
    (ms : List (Option String × Raw)) : besideTag fresh tagName header told scope ms ms :=
  @besideTag_of_perm _ _ _ _ _ _ proper headed _ [] nofun (by simp)

variable (harmless : fresh.Harmless)

include harmless

theorem hasValue_besideTag (headed : ∀ entry ∈ header, entry.2.Proper) {room : Nat}
    (related : besideTag fresh tagName header told ⟨.aside, room - 1⟩ ms ms') :
    (Raw.object ms').HasValue room ↔ (Raw.object ms).HasValue room := by
  refine Members.Rearranged.hasValue_iff related (fun _ _ _ => MemberTable.iff_of_member ?_)
    fun _ _ isFresh => harmless.value isFresh.2
  refine List.forall_mem_append.mpr ⟨?_, ?_⟩
  · exact FieldTable.hasValue_inScope headed
  · exact FieldTable.hasValue_inScope proper

theorem others_setAside {provenance : Provenance} {room : Nat}
    (related : besideTag fresh tagName header told ⟨provenance, room⟩ ms ms') {known : List String}
    (headed : ∀ name ∈ header.names, name ∈ known) :
    (Members.others known (Decoder.setAside room) 0 ms').value? =
      (Members.others known (Decoder.setAside room) 0 ms).value? := by
  refine Members.Rearranged.others related (fun entry mem => ?_) fun _ _ isFresh =>
    harmless.value isFresh.2
  rcases List.mem_append.mp mem with inHeader | inTold
  · exact .inl (headed _ (FieldTable.mem_names_of_mem_inScope inHeader))
  · exact .inr fun raw raw' changed =>
      Bool.eq_iff_iff.mpr (FieldTable.hasValue_inScope proper entry inTold raw raw' changed)

end Values

end Rearrangement

namespace Decoder

variable {α : Type} {fresh : Additions} {tagName : String}

/-- A table covers a variant, whose fields are other than the tag. -/
structure Variant.CoveredBy (tagName : String) (v : Variant α) (table : FieldTable) : Prop where
  covers : table.Covers v.names v.read
  apart : tagName ∉ table.names

theorem Variant.told_getD {v : Option (Variant α)} {told : Option FieldTable}
    (rel : Option.Rel (CoveredBy tagName) v told) :
    (tagName :: FieldTable.names (told.getD [])).Nodup ∧
      ∀ entry ∈ told.getD [], entry.2.Proper := by
  cases rel with
  | none => exact ⟨List.nodup_singleton tagName, nofun⟩
  | some covered =>
      obtain ⟨⟨names, distinct, proper, -⟩, apart⟩ := covered
      exact ⟨List.nodup_cons.mpr ⟨apart, names ▸ distinct⟩, proper⟩

theorem Variant.covered_getD {v : Variant α} {told : Option FieldTable}
    (rel : Option.Rel (CoveredBy tagName) (some v) told) : v.CoveredBy tagName (told.getD []) := by
  cases rel
  assumption

section Tagged

variable (harmless : fresh.Harmless) {table : List (String × Variant α)}
  {tables : List (String × FieldTable)}
  (paired : List.Forall₂ (fun v t => v.1 = t.1 ∧ v.2.CoveredBy tagName t.2) table tables)

include paired

theorem rel_field (m : Members) (scope : Scope) :
    Option.Rel (Variant.CoveredBy tagName) (m.field scope tagName (.tag table) none).value?
      (m.field scope tagName (.tag tables) none).value? := by
  rw [Members.value?_field, Members.value?_field]
  cases Members.under tagName m.entries with
  | nil => exact .none
  | cons raw later =>
      cases later with
      | nil => exact rel_tag paired scope raw
      | cons => exact .none

theorem tagged_array {provenance : Provenance} {room : Nat} {tag tag' : Raw} {xs xs' : List Raw}
    (once : (Raw.array (tag :: xs)).namesOnce = true)
    (related : Rearrangement.tagged fresh tagName tables ⟨provenance, room + 1⟩ (.array (tag :: xs))
      (.array (tag' :: xs'))) :
    (Decoder.tagged tagName table ⟨provenance, room + 1⟩ (.array (tag' :: xs'))).toOption =
      (Decoder.tagged tagName table ⟨provenance, room + 1⟩ (.array (tag :: xs))).toOption := by
  obtain ⟨rfl, related⟩ := related
  have rel := rel_tag paired ⟨provenance, room⟩ tag
  obtain ⟨-, proper⟩ := Variant.told_getD rel
  simp only [Decoder.tagged, Decoded.toOption_bind]
  refine Option.bind_congr fun v found => ?_
  rw [found] at rel
  obtain ⟨⟨names, distinct, -, reads⟩, -⟩ := Variant.covered_getD rel
  have setAside : xs'.all (setAside room) = xs.all (setAside room) := by
    rw [Bool.eq_iff_iff, List.all_eq_true, List.all_eq_true]
    exact MemberTable.forall_positional related (FieldTable.hasValue_inScope proper)
  have value : (v.read ⟨.aside, room⟩ (.positional v.names xs')).value? =
      (v.read ⟨.aside, room⟩ (.positional v.names xs)).value? := by
    rw [← names] at distinct ⊢
    exact reads (FieldTable.alike_array related (Raw.namesOnce_tail once) distinct)
  rw [setAside]
  split
  · simp only [Placed.toOption_decoded, Placed.value?_seq, Placed.value?_map, value,
      Members.noMoreThan, MemberTable.length_positional related]
  · rfl

include harmless

theorem tagged_object {provenance : Provenance} {room : Nat} {ms ms' : List (Option String × Raw)}
    (once : (Raw.object ms).namesOnce = true)
    (related : Rearrangement.tagged fresh tagName tables ⟨provenance, room + 1⟩ (.object ms)
      (.object ms')) :
    (Decoder.tagged tagName table ⟨provenance, room + 1⟩ (.object ms')).toOption =
      (Decoder.tagged tagName table ⟨provenance, room + 1⟩ (.object ms)).toOption := by
  have rel := rel_field paired ⟨ms, true⟩ ⟨provenance, room⟩
  obtain ⟨distinct, proper⟩ := Variant.told_getD rel
  have tag := (Rearrangement.alike_tag related once distinct ⟨provenance, room⟩).field
    (follows_same (Decoder.tag table)) none
  have others : (Members.others [tagName] (setAside room) 0 ms').value? =
      (Members.others [tagName] (setAside room) 0 ms).value? :=
    Rearrangement.others_setAside proper harmless related nofun
  have alike := Rearrangement.alike_told related once distinct
  simp only [Decoder.tagged, Decoded.toOption_bind, Placed.toOption_decoded, Placed.value?_seq,
    Placed.value?_map, tag, others, Option.bind_map, Option.bind_assoc]
  refine Option.bind_congr fun v found => ?_
  rw [found] at rel
  have value : (v.read ⟨.aside, room⟩ (.without [tagName] ⟨ms', true⟩)).value? =
      (v.read ⟨.aside, room⟩ (.without [tagName] ⟨ms, true⟩)).value? := by
    refine (Variant.covered_getD rel).covers.reads fun entry mem => (alike entry mem).without ?_
    have other : entry.1 ≠ tagName := by
      rintro rfl
      exact (List.nodup_cons.mp distinct).1 (List.mem_map_of_mem mem)
    simpa using other
  simp only [Function.comp_def, Option.bind_map, value]

theorem proper_tagged : (Rearrangement.tagged fresh tagName tables).Proper where
  refl scope raw := by
    cases raw with
    | object ms =>
        obtain ⟨-, proper⟩ := Variant.told_getD (rel_field paired ⟨ms, true⟩ scope.inner)
        exact Rearrangement.besideTag_refl proper (by simp) scope.inner ms
    | array xs =>
        cases xs with
        | nil => rfl
        | cons tag xs =>
            obtain ⟨-, proper⟩ := Variant.told_getD (rel_tag paired scope.inner tag)
            exact ⟨rfl, MemberTable.positional_refl (FieldTable.refl_inScope proper) xs⟩
    | _ => rfl
  hasValue_iff room raw raw' related := by
    unfold Rearrangement.tagged at related
    split at related
    case h_1 ms ms' =>
      obtain ⟨-, proper⟩ := Variant.told_getD (rel_field paired ⟨ms, true⟩ ⟨.aside, room - 1⟩)
      exact Rearrangement.hasValue_besideTag proper harmless (by simp) related
    case h_2 tag xs tag' xs' =>
      obtain ⟨rfl, related⟩ := related
      obtain ⟨-, proper⟩ := Variant.told_getD (rel_tag paired ⟨.aside, room - 1⟩ tag)
      rw [Raw.hasValue_array_iff, Raw.hasValue_array_iff, List.forall_mem_cons,
        List.forall_mem_cons, MemberTable.forall_positional related]
      exact FieldTable.hasValue_inScope proper
    case h_3 => rw [related]

theorem follows_tagged : (Decoder.tagged tagName table).Follows (.tagged fresh tagName tables) where
  reads {scope raw raw'} once related := by
    obtain ⟨provenance, room⟩ := scope
    cases room with
    | zero => rfl
    | succ room =>
        have whole := related
        unfold Rearrangement.tagged at related
        split at related
        case h_1 ms ms' => exact tagged_object harmless paired once whole
        case h_2 tag xs tag' xs' => exact tagged_array paired once whole
        case h_3 => rw [related]
  proper := proper_tagged harmless paired

end Tagged

end Decoder

end DeclaredScreens
