import DeclaredScreens.Settings
import DeclaredScreens.Proofs.Except
import Mathlib.Data.List.Induction

/-! Where the settings come from. A field has its own layers, topmost first: the variables of the
environment that may set it, its entry in the configuration file, and its default. A layer that says
nothing, or nothing that the field can use, is passed over, so a field never depends on the layers of
another. Only a file that is no TOML, or whose timeout is an integer below zero, is refused; zero is
let through, from a file and from the environment. -/

namespace DeclaredScreens

theorem Digits.number_eq_zero_iff {digits : List Char}
    (decimal : ∀ d ∈ digits, d.isDigit = true) :
    number 10 digits = 0 ↔ ∀ d ∈ digits, d = '0' := by
  induction digits using List.reverseRecOn with
  | nil => simp [number]
  | append_singleton front d ih =>
      have digit : d.isDigit = true := decimal d (by simp)
      have step : number 10 (front ++ [d]) = number 10 front * 10 + (d.toNat - '0'.toNat) := by
        simp [number, value?, digit]
      have zero : d.toNat - '0'.toNat = 0 ↔ d = '0' := by
        constructor
        · intro none
          have low : 48 ≤ d.toNat := by
            simp only [Char.isDigit, Bool.and_eq_true, decide_eq_true_eq] at digit
            exact digit.1
          have same : d.toNat = '0'.toNat := by
            have : '0'.toNat = 48 := rfl
            omega
          exact Char.toNat_inj.mp same
        · rintro rfl
          rfl
      rw [step, List.forall_mem_append, List.forall_mem_singleton, ← zero,
        ← ih fun c mem => decimal c (List.mem_append_left _ mem)]
      omega

theorem Digits.writes_zero_iff {digits : List Char} :
    (digits ≠ [] ∧ (∀ d ∈ digits, d.isDigit = true) ∧ number 10 digits = 0) ↔
      ∃ count, digits = List.replicate (count + 1) '0' := by
  constructor
  · rintro ⟨nonempty, decimal, zero⟩
    obtain ⟨count, length⟩ : ∃ count, digits.length = count + 1 :=
      Nat.exists_eq_succ_of_ne_zero (by simpa using nonempty)
    exact ⟨count, List.eq_replicate_iff.mpr ⟨length, (number_eq_zero_iff decimal).mp zero⟩⟩
  · rintro ⟨count, rfl⟩
    have zeros : ∀ d ∈ List.replicate (count + 1) '0', d = '0' :=
      fun d mem => List.eq_of_mem_replicate mem
    have decimal : ∀ d ∈ List.replicate (count + 1) '0', d.isDigit = true := by
      intro d mem
      rw [zeros d mem]
      rfl
    exact ⟨List.replicate_succ_ne_nil, decimal, (number_eq_zero_iff decimal).mpr zeros⟩

namespace Settings

/-- Decimal digits, after a plus sign or none, of a number that 64 bits can hold. -/
def IsSeconds (text : String) (n : Nat) : Prop :=
  ∃ digits, (text.toList = digits ∨ text.toList = '+' :: digits) ∧ digits ≠ [] ∧
    (∀ d ∈ digits, d.isDigit = true) ∧ Digits.number 10 digits = n ∧ n < 18446744073709551616

theorem seconds?_eq_some_iff {text : String} {n : Nat} :
    seconds? text = some n ↔ IsSeconds text n := by
  have read_iff (digits : List Char) :
      (if digits.isEmpty || !digits.all Char.isDigit then none
        else if Digits.number 10 digits < 18446744073709551616 then
          some (Digits.number 10 digits)
        else none) = some n ↔
      digits ≠ [] ∧ (∀ d ∈ digits, d.isDigit = true) ∧ Digits.number 10 digits = n ∧
        n < 18446744073709551616 := by
    simp only [Option.ite_none_left_eq_some, Option.ite_none_right_eq_some, Bool.or_eq_true,
      List.isEmpty_iff, Bool.not_eq_true', List.all_eq_false, not_or, not_exists, not_and,
      Decidable.not_not, Option.some.injEq, and_assoc]
    constructor
    · rintro ⟨nonempty, decimal, small, rfl⟩
      exact ⟨nonempty, decimal, rfl, small⟩
    · rintro ⟨nonempty, decimal, rfl, small⟩
      exact ⟨nonempty, decimal, small, rfl⟩
  unfold seconds?
  split
  · next digits signed =>
      rw [read_iff]
      constructor
      · exact fun usable => ⟨digits, .inr signed, usable⟩
      · rintro ⟨own, same | same, nonempty, decimal, number⟩
        · have plus : '+'.isDigit = true := decimal '+' (by simp [← same, signed])
          cases plus
        · cases signed.symm.trans same
          exact ⟨nonempty, decimal, number⟩
  · next unsigned =>
      rw [read_iff]
      constructor
      · exact fun usable => ⟨text.toList, .inl rfl, usable⟩
      · rintro ⟨own, same | same, usable⟩
        · exact same ▸ usable
        · exact absurd same (unsigned own)

inductive Field
  | apiOrigin | logFilter | requestTimeoutSecs
deriving DecidableEq

namespace Field

abbrev Value : Field → Type
  | apiOrigin | logFilter => String
  | requestTimeoutSecs => Nat

def variableNames : Field → List String
  | apiOrigin => ["APP__API_ORIGIN", "SCREENCTL_API_ORIGIN"]
  | logFilter => ["APP__LOG_FILTER"]
  | requestTimeoutSecs => ["APP__REQUEST_TIMEOUT_SECS"]

def entry : Field → String
  | apiOrigin => "api_origin"
  | logFilter => "log_filter"
  | requestTimeoutSecs => "request_timeout_secs"

def ofVariable? : (field : Field) → String → Option field.Value
  | apiOrigin, text => some text
  | logFilter, text => some text
  | requestTimeoutSecs, text => seconds? text

def ofEntry? : (field : Field) → Toml → Option field.Value
  | apiOrigin, value => value.asText?
  | logFilter, value => value.asText?
  | requestTimeoutSecs, value => value.asInteger?.bind Int.toNat?

def IsText : (field : Field) → String → field.Value → Prop
  | apiOrigin, text, value => value = text
  | logFilter, text, value => value = text
  | requestTimeoutSecs, text, n => IsSeconds text n

def IsEntry : (field : Field) → Toml → field.Value → Prop
  | apiOrigin, entry, value => entry = .text value
  | logFilter, entry, value => entry = .text value
  | requestTimeoutSecs, entry, n => entry = .integer (Int.ofNat n)

theorem ofVariable?_eq_some_iff (field : Field) (text : String) (value : field.Value) :
    field.ofVariable? text = some value ↔ field.IsText text value := by
  cases field with
  | apiOrigin | logFilter => exact Option.some_inj.trans eq_comm
  | requestTimeoutSecs => exact seconds?_eq_some_iff

theorem ofEntry?_eq_some_iff (field : Field) (entry : Toml) (value : field.Value) :
    field.ofEntry? entry = some value ↔ field.IsEntry entry value := by
  cases field with
  | apiOrigin | logFilter => cases entry <;> simp [ ofEntry?, IsEntry, Toml.asText?]
  | requestTimeoutSecs =>
      cases entry with
      | integer seconds => simpa [ ofEntry?, IsEntry, Toml.asInteger?] using Int.mem_toNat?
      | _ => simp [ ofEntry?, IsEntry, Toml.asInteger?]

theorem apart {field other : Field} (different : field ≠ other) :
    field.entry ≠ other.entry ∧ ∀ name ∈ field.variableNames, name ∉ other.variableNames := by
  cases field <;> cases other <;> first | exact absurd rfl different | decide

end Field

def get (s : Settings) : (field : Field) → field.Value
  | .apiOrigin => s.apiOrigin
  | .logFilter => s.logFilter
  | .requestTimeoutSecs => s.requestTimeoutSecs

/-- The first layer that says anything says this. -/
def IsTopmost {α : Type} (value : α) (layers : List (Option α)) : Prop :=
  ∃ above below, layers = above ++ some value :: below ∧ ∀ layer ∈ above, layer = none

theorem isTopmost_iff {α : Type} {value : α} {layers : List (Option α)} :
    IsTopmost value layers ↔ layers.findSome? id = some value := by
  simp [IsTopmost, List.findSome?_eq_some_iff]

def entriesOf (file : Option String) : Entries Toml := (file.bind Toml.ofText?).getD []

def layers (file : Option String) (env : Environment) (field : Field) :
    List (Option field.Value) :=
  field.variableNames.map (fun name => (env name).bind field.ofVariable?) ++
    [((entriesOf file).lookup field.entry).bind field.ofEntry?, some (defaults.get field)]

/-- What is wrong with a file, whatever the environment says. -/
inductive Refused : Option String → SettingsError → Prop
  | notToml {text : String} (unread : Toml.ofText? text = none) : Refused (some text) .notToml
  | negativeTimeout {text : String} {entries : Entries Toml} {seconds : Int}
      (read : Toml.ofText? text = some entries)
      (found : entries.lookup "request_timeout_secs" = some (.integer seconds))
      (negative : seconds < 0) : Refused (some text) .negativeTimeout

section Layers

variable {file : Option String} {env : Environment} {s base : Settings} {text : String}
  {entries : Entries Toml} {fallback n : Nat} {e : SettingsError}

theorem timeoutOfFile_eq_error_iff :
    timeoutOfFile entries fallback = .error e ↔
      e = .negativeTimeout ∧
        ∃ seconds < 0, entries.lookup "request_timeout_secs" = some (.integer seconds) := by
  have integer_iff (value : Toml) (seconds : Int) :
      value.asInteger? = some seconds ↔ value = .integer seconds := by
    cases value <;> simp [Toml.asInteger?]
  unfold timeoutOfFile
  split
  · next seconds found =>
      obtain ⟨value, found, integer⟩ := Option.bind_eq_some_iff.mp found
      rw [(integer_iff value _).mp integer] at found
      simp [found]
  · next magnitude found =>
      obtain ⟨value, found, integer⟩ := Option.bind_eq_some_iff.mp found
      rw [(integer_iff value _).mp integer] at found
      simp [found, eq_comm]
  · next missing =>
      have other (seconds : Int) :
          entries.lookup "request_timeout_secs" ≠ some (.integer seconds) := by
        intro found
        simp [found, Toml.asInteger?] at missing
      simp [other]

theorem timeoutOfFile_eq_ok (read : timeoutOfFile entries fallback = .ok n) :
    n = ((entries.lookup "request_timeout_secs").bind
      Field.requestTimeoutSecs.ofEntry?).getD fallback := by
  have bind_eq : (entries.lookup "request_timeout_secs").bind Field.requestTimeoutSecs.ofEntry? =
      ((entries.lookup "request_timeout_secs").bind (·.asInteger?)).bind Int.toNat? := by
    rw [Option.bind_assoc]
    rfl
  rw [bind_eq]
  unfold timeoutOfFile at read
  split at read
  · next seconds found =>
      cases read
      simp [found, Int.toNat?]
  · cases read
  · next missing =>
      cases read
      simp [missing]

theorem withFile_eq_error_iff : base.withFile text = .error e ↔ Refused (some text) e := by
  unfold withFile
  split
  · next unread =>
      constructor
      · rintro ⟨⟩
        exact .notToml unread
      · intro refused
        cases refused with
        | notToml => rfl
        | negativeTimeout read => cases read.symm.trans unread
  · next entries read =>
      rw [map_eq_error_iff, timeoutOfFile_eq_error_iff]
      constructor
      · rintro ⟨rfl, seconds, negative, found⟩
        exact .negativeTimeout read found negative
      · intro refused
        cases refused with
        | notToml unread => cases unread.symm.trans read
        | negativeTimeout own found negative =>
            cases own.symm.trans read
            exact ⟨rfl, _, negative, found⟩

theorem load_eq_error_iff : load file env = .error e ↔ Refused file e := by
  cases file with
  | none => exact ⟨nofun, nofun⟩
  | some text =>
      rw [load, map_eq_error_iff]
      exact withFile_eq_error_iff

theorem get_withEnvironment (s : Settings) (env : Environment) (field : Field) :
    (s.withEnvironment env).get field =
      ((field.variableNames.map fun name => (env name).bind field.ofVariable?).findSome? id).getD
        (s.get field) := by
  cases field with
  | apiOrigin =>
      simp only [get, withEnvironment, Field.variableNames, List.map_cons, List.map_nil]
      cases env "APP__API_ORIGIN" <;> cases env "SCREENCTL_API_ORIGIN" <;> rfl
  | logFilter =>
      simp only [get, withEnvironment, Field.variableNames, List.map_cons, List.map_nil]
      cases env "APP__LOG_FILTER" <;> rfl
  | requestTimeoutSecs =>
      simp [get, withEnvironment, Field.variableNames]
      rfl

theorem get_of_withFile (read : base.withFile text = .ok s) (field : Field) :
    s.get field =
      (((entriesOf (some text)).lookup field.entry).bind field.ofEntry?).getD
        (base.get field) := by
  unfold withFile at read
  split at read
  · cases read
  · next entries own =>
      obtain ⟨seconds, timeout, rfl⟩ := ok_of_map read
      have same : entriesOf (some text) = entries := by simp [entriesOf, own]
      rw [same]
      cases field with
      | apiOrigin => rfl
      | logFilter => rfl
      | requestTimeoutSecs => exact timeoutOfFile_eq_ok timeout

theorem get_of_load (loaded : load file env = .ok s) (field : Field) :
    s.get field =
      ((field.variableNames.map fun name => (env name).bind field.ofVariable?).findSome? id).getD
        ((((entriesOf file).lookup field.entry).bind field.ofEntry?).getD (defaults.get field)) := by
  cases file with
  | none =>
      cases loaded
      exact get_withEnvironment defaults env field
  | some text =>
      obtain ⟨below, read, rfl⟩ := ok_of_map loaded
      rw [get_withEnvironment, get_of_withFile read]

theorem isTopmost_of_load (loaded : load file env = .ok s) (field : Field) :
    IsTopmost (s.get field) (layers file env field) := by
  rw [isTopmost_iff, layers, List.findSome?_append, get_of_load loaded]
  cases (field.variableNames.map fun name => (env name).bind field.ofVariable?).findSome? id with
  | some value => rfl
  | none => cases ((entriesOf file).lookup field.entry).bind field.ofEntry? <;> rfl

end Layers

/-- Do two files with their environments differ in what one field reads at most? -/
structure DifferIn (other : Field) (file file' : Option String) (env env' : Environment) :
    Prop where
  entries : ∀ name, name ≠ other.entry →
    (entriesOf file').lookup name = (entriesOf file).lookup name
  variableNames : ∀ name, name ∉ other.variableNames → env' name = env name

theorem DifferIn.layers_eq {field other : Field} {file file' : Option String}
    {env env' : Environment} (differ : DifferIn other file file' env env')
    (different : field ≠ other) : layers file' env' field = layers file env field := by
  obtain ⟨ownEntry, ownVariables⟩ := Field.apart different
  have same : (field.variableNames.map fun name => (env' name).bind field.ofVariable?) =
      field.variableNames.map fun name => (env name).bind field.ofVariable? :=
    List.map_congr_left fun name mem => by
      rw [differ.variableNames name (ownVariables name mem)]
  rw [layers, layers, same, differ.entries _ ownEntry]

/-- Only a refused file keeps the settings from being loaded. Otherwise each field has the value of
its topmost layer that says anything, and what concerns one field alone changes no other. Any text
of a variable says something of an address or a filter, and decimal digits do of a timeout; of the
entries of a file, only texts and integers do that are not negative. -/
theorem fields_take_topmost_layers (file : Option String) (env : Environment) :
    (∀ (field : Field) text value,
      field.ofVariable? text = some value ↔ field.IsText text value) ∧
    (∀ (field : Field) entry value,
      field.ofEntry? entry = some value ↔ field.IsEntry entry value) ∧
    (∀ e, load file env = .error e ↔ Refused file e) ∧
    ((∀ e, ¬Refused file e) → ∃ s, load file env = .ok s ∧
      (∀ field, IsTopmost (s.get field) (layers file env field)) ∧
      ∀ other file' env' s', DifferIn other file file' env env' → load file' env' = .ok s' →
        ∀ field, field ≠ other → s'.get field = s.get field) := by
  refine ⟨Field.ofVariable?_eq_some_iff, Field.ofEntry?_eq_some_iff, fun e => load_eq_error_iff,
    fun accepted => ?_⟩
  cases loaded : load file env with
  | error e => exact absurd (load_eq_error_iff.mp loaded) (accepted e)
  | ok s =>
      refine ⟨s, rfl, isTopmost_of_load loaded, fun other file' env' s' differ loaded' field
        different => ?_⟩
      have topmost := isTopmost_iff.mp (isTopmost_of_load loaded field)
      have topmost' := isTopmost_iff.mp (isTopmost_of_load loaded' field)
      rw [differ.layers_eq different, topmost] at topmost'
      exact (Option.some.inj topmost').symm

def crmFile : String :=
  "api_origin = \"https://crm.example\"\nlog_filter = 3\nrequest_timeout_secs = 5\n"

def bothOrigins (timeout : String) : Environment := fun name =>
  [("SCREENCTL_API_ORIGIN", "http://legacy"), ("APP__API_ORIGIN", "http://preferred"),
    ("APP__REQUEST_TIMEOUT_SECS", timeout)].lookup name

theorem other_timeout_keeps_preferred_origin :
    (∀ e, ¬Refused (some crmFile) e) ∧
      ∃ s s', load (some crmFile) (bothOrigins "not-a-number") = .ok s ∧
        load (some crmFile) (bothOrigins "7") = .ok s' ∧
        IsTopmost s.requestTimeoutSecs [none, some 5, some 30] ∧ s'.apiOrigin = s.apiOrigin := by
  have loaded : load (some crmFile) (bothOrigins "not-a-number") =
      .ok ⟨"http://preferred", "info", 5⟩ := ok_of_toOption (by decide +kernel)
  have changed : load (some crmFile) (bothOrigins "7") = .ok ⟨"http://preferred", "info", 7⟩ :=
    ok_of_toOption (by decide +kernel)
  have accepted (e : SettingsError) : ¬Refused (some crmFile) e := by
    intro refused
    cases loaded.symm.trans (load_eq_error_iff.mpr refused)
  have layers_eq : layers (some crmFile) (bothOrigins "not-a-number") .requestTimeoutSecs =
      [none, some 5, some 30] := by decide +kernel
  have differ : DifferIn .requestTimeoutSecs (some crmFile) (some crmFile)
      (bothOrigins "not-a-number") (bothOrigins "7") :=
    ⟨fun _ _ => rfl, fun name other => by
      have other : name ≠ "APP__REQUEST_TIMEOUT_SECS" := by simpa [Field.variableNames] using other
      simp [bothOrigins, List.lookup_cons, beq_eq_false_iff_ne.mpr other]⟩
  obtain ⟨-, -, -, taken⟩ := fields_take_topmost_layers (some crmFile) (bothOrigins "not-a-number")
  obtain ⟨s, loaded, topmost, apart⟩ := taken accepted
  exact ⟨accepted, s, _, loaded, changed, layers_eq ▸ topmost .requestTimeoutSecs,
    apart .requestTimeoutSecs _ _ _ differ changed .apiOrigin (by decide)⟩

section Zero

variable {file : Option String} {env : Environment} {s : Settings} {text : String} {n : Nat}

def IsZeros (text : String) : Prop :=
  ∃ count, text.toList = List.replicate (count + 1) '0' ∨
    text.toList = '+' :: List.replicate (count + 1) '0'

theorem seconds?_eq_zero_iff : seconds? text = some 0 ↔ IsZeros text := by
  rw [seconds?_eq_some_iff]
  constructor
  · rintro ⟨digits, shape, nonempty, decimal, zero, -⟩
    obtain ⟨count, rfl⟩ := Digits.writes_zero_iff.mp ⟨nonempty, decimal, zero⟩
    exact ⟨count, shape⟩
  · rintro ⟨count, shape⟩
    obtain ⟨nonempty, decimal, zero⟩ := Digits.writes_zero_iff.mpr ⟨count, rfl⟩
    exact ⟨_, shape, nonempty, decimal, zero, by decide⟩

theorem entry_zero_iff :
    ((entriesOf file).lookup "request_timeout_secs").bind Field.requestTimeoutSecs.ofEntry? =
        some 0 ↔
      ∃ text entries, file = some text ∧ Toml.ofText? text = some entries ∧
        entries.lookup "request_timeout_secs" = some (.integer 0) := by
  constructor
  · intro zero
    obtain ⟨value, found, none⟩ := Option.bind_eq_some_iff.mp zero
    have integer : value = .integer 0 := by
      obtain ⟨seconds, own, none⟩ := Option.bind_eq_some_iff.mp none
      cases value <;> cases own
      cases seconds <;> cases none
      rfl
    cases file with
    | none => cases found
    | some text =>
        cases read : Toml.ofText? text with
        | none => simp [entriesOf, read] at found
        | some entries =>
            refine ⟨text, entries, rfl, read, ?_⟩
            simpa [entriesOf, read, integer] using found
  · rintro ⟨text, entries, rfl, read, found⟩
    simp [entriesOf, read, found, Field.ofEntry?, Toml.asInteger?, Int.toNat?]

/-- The timeout is none at all just when the topmost layer that says anything usable of it says
zero: the environment, with any number of zeros, or else the file. -/
theorem timeout_is_zero_iff (loaded : load file env = .ok s) :
    s.requestTimeoutSecs = 0 ↔
      (∃ text, env "APP__REQUEST_TIMEOUT_SECS" = some text ∧ IsZeros text) ∨
      ((∀ text, env "APP__REQUEST_TIMEOUT_SECS" = some text → seconds? text = none) ∧
        ∃ text entries, file = some text ∧ Toml.ofText? text = some entries ∧
          entries.lookup "request_timeout_secs" = some (.integer 0)) := by
  have topmost_zero_iff (above below : Option Nat) :
      above.getD (below.getD 30) = 0 ↔ above = some 0 ∨ above = none ∧ below = some 0 := by
    cases above <;> cases below <;> simp
  have layered : s.requestTimeoutSecs =
      ((env "APP__REQUEST_TIMEOUT_SECS").bind seconds?).getD
        ((((entriesOf file).lookup "request_timeout_secs").bind
          Field.requestTimeoutSecs.ofEntry?).getD 30) := by
    have field := get_of_load loaded .requestTimeoutSecs
    simp only [Field.variableNames, List.map_cons, List.map_nil, List.findSome?_singleton] at field
    exact field
  rw [layered, topmost_zero_iff, entry_zero_iff, Option.bind_eq_some_iff, Option.bind_eq_none_iff]
  simp only [seconds?_eq_zero_iff]

theorem zeros_replace_timeout :
    ∃ s, load (some crmFile) (bothOrigins "+00") = .ok s ∧ s.requestTimeoutSecs = 0 := by
  have loaded : load (some crmFile) (bothOrigins "+00") = .ok ⟨"http://preferred", "info", 0⟩ :=
    ok_of_toOption (by decide +kernel)
  have zeros : IsZeros "+00" := ⟨1, .inr rfl⟩
  exact ⟨_, loaded, (timeout_is_zero_iff loaded).mpr (.inl ⟨"+00", rfl, zeros⟩)⟩

/-- Zero is no error, though what refuses a timeout says that it must be positive. -/
theorem zero_timeout_is_accepted :
    ¬∀ (file : Option String) (env : Environment) (s : Settings),
      load file env = .ok s → 1 ≤ s.requestTimeoutSecs := by
  intro positive
  have loaded : load (some "request_timeout_secs = 0") (fun _ => none) =
      .ok ⟨"http://127.0.0.1:3000", "info", 0⟩ := ok_of_toOption (by decide +kernel)
  exact absurd (positive _ _ _ loaded) (by decide)

end Zero

end Settings

end DeclaredScreens
