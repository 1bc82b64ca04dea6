import DeclaredScreens.Proofs.Json.Members
import DeclaredScreens.Proofs.SubmissionInFlight

/-! Unsaved edits. The values of a form are its snapshot overlaid by the writes made since it was
last reset, so that only the last write to a field counts. Writes keep the fields of the snapshot
in their order and add others behind them. Hence a form is clean just when no field was added and
every written field is back at a value whose text is that of the snapshot. -/

namespace DeclaredScreens

namespace Record

theorem overlay_record_cons (written : List (String × Json)) (first : String) (old : Json)
    (rest : Record) :
    overlay written ((first, old) :: rest) = (first, (written.lookup first).getD old) ::
      overlay (written.filter fun write => write.1 ≠ first) rest := by
  induction written with
  | nil => rfl
  | cons write written ih =>
      obtain ⟨name, value⟩ := write
      rw [overlay_cons, ih]
      by_cases here : first = name
      · subst here
        simp [Entries.put]
      · have other : name ≠ first := Ne.symm here
        simp [Entries.put, Entries.lookup_cons_if, here, other]

theorem text_of_forall₂ {a b : Record} {name : String} {value : Json}
    (same : List.Forall₂ Json.SameText a b) (found : a.lookup name = some value) :
    ∃ old, b.lookup name = some old ∧ value.text = old.text := by
  induction same with
  | nil => cases found
  | @cons m n ms ns here later ih =>
      obtain ⟨first, shown⟩ := m
      obtain ⟨other, old⟩ := n
      obtain ⟨rfl, texts⟩ := here
      rw [Entries.lookup_cons_if] at found ⊢
      by_cases first_name : name = first
      · simp only [first_name, if_true, Option.some.injEq] at found ⊢
        exact ⟨old, rfl, found ▸ texts⟩
      · simp only [first_name, if_false] at found ⊢
        exact ih found

theorem forall₂_overlay {written : List (String × Json)} {r : Record}
    (texts : ∀ name value, written.lookup name = some value →
      ∃ old, r.lookup name = some old ∧ value.text = old.text) :
    List.Forall₂ Json.SameText (overlay written r) r := by
  induction r generalizing written with
  | nil =>
      cases written with
      | nil => exact .nil
      | cons write written =>
          obtain ⟨name, value⟩ := write
          obtain ⟨old, absent, -⟩ := texts name value List.lookup_cons_self
          cases absent
  | cons field rest ih =>
      obtain ⟨first, old⟩ := field
      rw [overlay_record_cons]
      refine .cons ⟨rfl, ?_⟩ (ih fun name value last => ?_)
      · cases last : written.lookup first with
        | none => rfl
        | some value =>
            obtain ⟨shown, found, text⟩ := texts first value last
            rw [List.lookup_cons_self, Option.some.injEq] at found
            exact found ▸ text
      · rw [lookup_filter fun name => decide (name ≠ first)] at last
        by_cases here : name = first
        · simp [here] at last
        · simp only [here, ne_eq, not_false_eq_true, decide_true, if_true] at last
          obtain ⟨shown, found, text⟩ := texts name value last
          rw [Entries.lookup_cons_if, if_neg here] at found
          exact ⟨shown, found, text⟩

/-- Writes over a record keep its text just when every written field is one of its own, last
written with the text that it had. -/
theorem text_overlay_eq_iff (written : List (String × Json)) (r : Record) :
    (Json.object (overlay written r)).text = (Json.object r).text ↔
      ∀ name value, written.lookup name = some value →
        ∃ old, r.lookup name = some old ∧ value.text = old.text := by
  rw [Json.text_object_eq_iff]
  refine ⟨fun same name value last => text_of_forall₂ same ?_, forall₂_overlay⟩
  rw [lookup_overlay, last, Option.some_or]

end Record

namespace Form

variable {f g : Form} {written others : List (String × Json)}

theorem isDirty_eq_false_iff (overlaid : f.values = Record.overlay written f.snapshot) :
    f.isDirty = false ↔ ∀ name value, written.lookup name = some value →
      ∃ old, f.snapshot.lookup name = some old ∧ value.text = old.text := by
  rw [← Record.text_overlay_eq_iff, ← overlaid]
  simp [isDirty]

theorem value?_of_last (overlaid : f.values = Record.overlay written f.snapshot) {name : String}
    {value : Json} (last : written.lookup name = some value) : f.value? name = some value := by
  rw [Form.value?, overlaid, Record.lookup_overlay, last, Option.some_or]

theorem clean_iff_unchanged (overlaid : f.values = Record.overlay written f.snapshot) :
    f.isDirty = false ↔ ∀ name ∈ Entries.names written, ∃ value old,
      f.value? name = some value ∧ f.snapshot.lookup name = some old ∧ value.text = old.text := by
  rw [isDirty_eq_false_iff overlaid]
  constructor
  · intro texts name mem
    obtain ⟨value, last⟩ := Option.isSome_iff_exists.mp (Entries.mem_names_iff.mp mem)
    obtain ⟨old, found, text⟩ := texts name value last
    exact ⟨value, old, value?_of_last overlaid last, found, text⟩
  · intro texts name value last
    have mem : name ∈ Entries.names written := Entries.mem_names_iff.mpr (by simp [last])
    obtain ⟨shown, old, holds, found, text⟩ := texts name mem
    cases (value?_of_last overlaid last).symm.trans holds
    exact ⟨old, found, text⟩

theorem isDirty_congr (overlaid : f.values = Record.overlay written f.snapshot)
    (overlaid' : g.values = Record.overlay others g.snapshot) (snapshot : g.snapshot = f.snapshot)
    (last : ∀ name, written.lookup name = others.lookup name) : f.isDirty = g.isDirty := by
  have clean : f.isDirty = false ↔ g.isDirty = false := by
    rw [isDirty_eq_false_iff overlaid, isDirty_eq_false_iff overlaid', snapshot]
    simp only [last]
  simpa using clean

theorem Continues.overlaid (continues : f.Continues others g)
    (overlaid : f.values = Record.overlay written f.snapshot) :
    g.values = Record.overlay (others ++ written) g.snapshot := by
  rw [continues.values_eq, overlaid, continues.snapshot_eq, Record.overlay_append]

theorem Continues.clean_of_reverted (continues : f.Continues others g)
    (overlaid : f.values = Record.overlay written f.snapshot)
    (reverted : ∀ name ∈ Entries.names (others ++ written), ∃ old,
      others.lookup name = some old ∧ f.snapshot.lookup name = some old) : g.isDirty = false := by
  rw [isDirty_eq_false_iff (continues.overlaid overlaid), continues.snapshot_eq]
  intro name value last
  have mem := Entries.mem_names_iff.mpr (Option.isSome_iff_exists.mpr ⟨value, last⟩)
  obtain ⟨old, rewritten, found⟩ := reverted name mem
  rw [List.lookup_append, rewritten, Option.some_or, Option.some.injEq] at last
  exact ⟨old, found, last ▸ rfl⟩

theorem Continues.isDirty_eq (continues : f.Continues [] g) : g.isDirty = f.isDirty := by
  rw [isDirty, isDirty, continues.values_eq, continues.snapshot_eq]
  rfl

end Form

namespace Step

theorem writesTo_append (i : Nat) (first second : List Step) :
    writesTo i (first ++ second) = writesTo i second ++ writesTo i first := by
  simp [writesTo, List.filterMap_append]

end Step

namespace Screen

variable (host : Host) {s : Screen} {i : Nat} {f : Form}

theorem noteWrites_eq (step : Step) (written : List (String × Json)) :
    noteWrites i s step written =
      (step.writeTo? i).toList ++ if s.resets i step then [] else written := by
  cases step with
  | write j name value => by_cases here : j = i <;> simp [noteWrites, Step.writeTo?, here]
  | _ => rfl

theorem continues_formAfter (step : Step) (mounted : s.forms[i]? = some f) :
    (if s.resets i step then f.reset ((s.step host step).screen.seedFor f.spec) else f).Continues
      (step.writeTo? i).toList (s.formAfter host step i f) := by
  rw [formAfter_eq_operated host mounted]
  exact continues_operated host

theorem overlaid_formAfter {step : Step} {written : List (String × Json)}
    (mounted : s.forms[i]? = some f) (overlaid : f.values = Record.overlay written f.snapshot) :
    (s.formAfter host step i f).values = Record.overlay (noteWrites i s step written)
      (s.formAfter host step i f).snapshot := by
  have continues := continues_formAfter host step mounted
  rw [noteWrites_eq]
  by_cases reset : s.resets i step
  · rw [if_pos reset] at continues ⊢
    exact continues.overlaid rfl
  · rw [if_neg reset] at continues ⊢
    exact continues.overlaid overlaid

theorem run_overlaid (schema : Schema) (steps : List Step) (i : Nat) (f : Form)
    (mounted : (run host (ofSchema schema) steps).forms[i]? = some f) :
    f.values = Record.overlay (writesSinceReset host schema i steps) f.snapshot := by
  refine remember_invariant host (ofSchema schema) (noteWrites i) [] (fun _ => True)
    (fun s written => ∀ f, s.forms[i]? = some f → f.values = Record.overlay written f.snapshot)
    ?_ (by simp [ofSchema]) steps (by simp) f mounted
  rintro s written step - overlaid f mounted
  rcases form_step_cases host s mounted with ⟨g, before, rfl⟩ | ⟨spec, rfl, last, rfl⟩
  · exact overlaid_formAfter host before (overlaid g before)
  · simp [noteWrites, resets, last, Form.mount]

theorem continues_run (mounted : s.forms[i]? = some f) (steps : List Step)
    (unreset : Throughout host (fun s step => s.resets i step = false) s steps) :
    ∃ g, (run host s steps).forms[i]? = some g ∧ f.Continues (Step.writesTo i steps) g := by
  induction steps generalizing s f with
  | nil => exact ⟨f, mounted, .refl f⟩
  | cons step rest ih =>
      obtain ⟨kept, later⟩ := unreset
      have next := continues_formAfter host step mounted
      rw [kept] at next
      obtain ⟨g, there, more⟩ := ih (form_step host s mounted) later
      refine ⟨g, there, ?_⟩
      rw [Step.writesTo_cons]
      exact next.trans more

theorem form_of_read (shown : (s.step host (.read i)).result = .form f) :
    (s.step host (.read i)).screen.forms[i]? = some f := by
  cases mounted : s.forms[i]? with
  | none => simp [Screen.step, onForm, mounted, quiet] at shown
  | some g =>
      have current : s.current g = f := by
        simpa [Screen.step, onForm, mounted, quiet, current] using shown
      rw [form_step host s mounted, ← current]
      simp [formAfter, formChange]

theorem form_of_run_read {steps : List Step}
    (shown : ((run host s steps).step host (.read i)).result = .form f) :
    (run host s (steps ++ [.read i])).forms[i]? = some f := by
  rw [run_append]
  exact form_of_read host shown

/-- Form `g` is read after some steps, and neither they nor the read reset the form. -/
structure ReadsUnreset (s : Screen) (i : Nat) (later : List Step) (g : Form) : Prop where
  unreset : Throughout host (fun s step => s.resets i step = false) s (later ++ [.read i])
  shown : ((run host s later).step host (.read i)).result = .form g

theorem ReadsUnreset.continues {later : List Step} {g : Form}
    (reads : ReadsUnreset host s i later g) (mounted : s.forms[i]? = some f) :
    f.Continues (Step.writesTo i later) g := by
  obtain ⟨h, there, continues⟩ := continues_run host mounted _ reads.unreset
  cases (form_of_run_read host reads.shown).symm.trans there
  rwa [Step.writesTo_append] at continues

/-- A form that is read is clean just when every field written since its last reset, be it by this
read, holds a value with the text that the field has in the snapshot, which none of them is absent
from. While it is not reset, whatever else is done, two ways to write to it that agree on the last
write to each field leave it clean or dirty alike; it is clean when every edited field is back at
the value of the snapshot, and as it was when nothing is written. -/
theorem clean_iff_written_fields_unchanged (schema : Schema) (steps : List Step) (i : Nat)
    (f : Form) (shown : ((run host (ofSchema schema) steps).step host (.read i)).result = .form f) :
    let s := run host (ofSchema schema) (steps ++ [.read i])
    let written := writesSinceReset host schema i (steps ++ [.read i])
    (f.isDirty = false ↔ ∀ name ∈ Entries.names written, ∃ value old,
      f.value? name = some value ∧ f.snapshot.lookup name = some old ∧ value.text = old.text) ∧
    ∀ later g, ReadsUnreset host s i later g →
      (∀ other h, ReadsUnreset host s i other h →
        (∀ name, (Step.writesTo i later).lookup name = (Step.writesTo i other).lookup name) →
        g.isDirty = h.isDirty) ∧
      ((∀ name ∈ Entries.names (Step.writesTo i later ++ written), ∃ old,
        (Step.writesTo i later).lookup name = some old ∧ f.snapshot.lookup name = some old) →
        g.isDirty = false) ∧
      (Step.writesTo i later = [] → g.isDirty = f.isDirty) := by
  intro s written
  have mounted : s.forms[i]? = some f := form_of_run_read host shown
  have overlaid : f.values = Record.overlay written f.snapshot :=
    run_overlaid host schema _ i f mounted
  refine ⟨Form.clean_iff_unchanged overlaid, fun later g reads => ?_⟩
  have continues := reads.continues host mounted
  refine ⟨fun other h reads' last => ?_, continues.clean_of_reverted overlaid, fun unwritten => ?_⟩
  · have continues' := reads'.continues host mounted
    refine Form.isDirty_congr (continues.overlaid overlaid) (continues'.overlaid overlaid)
      (continues'.snapshot_eq.trans continues.snapshot_eq.symm) fun name => ?_
    rw [List.lookup_append, List.lookup_append, last]
  · rw [unwritten] at continues
    exact continues.isDirty_eq

def renamed : List Step :=
  [.openDrawer "edit" (some (Record.contact "1" "Ann")), .mount .contact,
    .write 0 "name" (.string "Anna"), .touch 0 "name", .write 0 "name" (.string "Annie")]

def putBack : List Step :=
  [.submit 0, .reply 0 (.rejected ["timeout"]), .write 0 "name" (.string "Ann"), .validate 0]

theorem name_put_back_is_clean :
    ∃ f g, ((run .plain (ofSchema .contacts) renamed).step .plain (.read 0)).result = .form f ∧
      f.isDirty = true ∧
      ReadsUnreset .plain (run .plain (ofSchema .contacts) (renamed ++ [.read 0])) 0 putBack g ∧
      g.isDirty = false := by
  have shown : ((run .plain (ofSchema .contacts) renamed).step .plain (.read 0)).result =
      .form ⟨.contact, Record.contact "1" "Annie", [], ["name"], false,
        Record.contact "1" "Ann", Record.contact "1" "Ann"⟩ := rfl
  have reads : ReadsUnreset .plain (run .plain (ofSchema .contacts) (renamed ++ [.read 0])) 0
      putBack ⟨.contact, Record.contact "1" "Ann", [], ["name"], false,
        Record.contact "1" "Ann", Record.contact "1" "Ann"⟩ := by
    refine ⟨?_, rfl⟩
    simp only [putBack, List.cons_append, List.nil_append, Throughout]
    decide +kernel
  obtain ⟨clean, edits⟩ := clean_iff_written_fields_unchanged .plain .contacts renamed 0 _ shown
  refine ⟨_, _, shown, by decide +kernel, reads, (edits _ _ reads).2.1 fun name mem => ?_⟩
  have names : Entries.names (Step.writesTo 0 putBack ++
      writesSinceReset .plain .contacts 0 (renamed ++ [.read 0])) = ["name", "name", "name"] := rfl
  obtain rfl : name = "name" := by simpa [names] using mem
  exact ⟨.string "Ann", rfl, rfl⟩

end Screen

end DeclaredScreens
